import RowTree.Proofs.Identity
import RowTree.Proofs.Integrity
import RowTree.Proofs.Lockstep
import RowTree.Proofs.SameKeys

/-!
# Nulls that are left out

Of a row and the rows under it some ids, foreign keys and temporary ids that are null are left
out. The statements that find a row by its id stay the same. The insert of a row and what it
hands on stay the same unless a null temporary id has taken the place of a value of the row.
-/

namespace RowTree

open Schema Sql

/-- The other one is the same, or is left out where this one is null. -/
inductive LeftOut : Option Value → Option Value → Prop
  | same (v : Option Value) : LeftOut v v
  | null : LeftOut (some .null) none

/-- The other row is this one without some of the nulls among its ids, foreign keys and
temporary ids, at any depth. -/
inductive Leaner : Row → Row → Prop
  | row {row other : Row} (data : other.data = row.data) (state : other.state = row.state)
      (id : LeftOut row.id other.id) (foreignKey : LeftOut row.foreignKey other.foreignKey)
      (tempId : LeftOut row.tempId other.tempId)
      (names : Entries.names other.children = Entries.names row.children)
      (below : List.Forall₂ (List.Forall₂ Leaner) (row.children.map (·.2))
        (other.children.map (·.2))) : Leaner row other

theorem LeftOut.present?_eq {v w : Option Value} (h : LeftOut v w) :
    Value.present? w = Value.present? v := by
  cases h <;> rfl

theorem LeftOut.ofOption_eq {v w : Option Value} (h : LeftOut v w) :
    Value.ofOption w = Value.ofOption v := by
  cases h <;> rfl

theorem get?_rel {α : Type} {r : α → α → Prop} {m n : Entries α}
    (hNames : Entries.names n = Entries.names m)
    (h : List.Forall₂ r (m.map (·.2)) (n.map (·.2))) (name : String) :
    Option.Rel r (Entries.get? m name) (Entries.get? n name) := by
  induction m generalizing n with
  | nil =>
    cases n with
    | nil => exact .none
    | cons entry rest => cases hNames
  | cons entry rest ih =>
    cases n with
    | nil => cases hNames
    | cons entry' rest' =>
      obtain ⟨key, v⟩ := entry
      obtain ⟨key', w⟩ := entry'
      obtain ⟨rfl, hKeys⟩ := List.cons.inj hNames
      obtain ⟨hValue, hValues⟩ := List.forall₂_cons.mp h
      rw [Entries.get?, Entries.get?]
      split
      · exact .some hValue
      · exact ih hKeys hValues

namespace Leaner

variable {row other : Row}

theorem data_eq (h : Leaner row other) : other.data = row.data := by
  obtain ⟨data, _, _, _, _, _, _⟩ := h
  exact data

theorem state_eq (h : Leaner row other) : other.state = row.state := by
  obtain ⟨_, state, _, _, _, _, _⟩ := h
  exact state

theorem leftOut_id (h : Leaner row other) : LeftOut row.id other.id := by
  obtain ⟨_, _, id, _, _, _, _⟩ := h
  exact id

theorem leftOut_tempId (h : Leaner row other) : LeftOut row.tempId other.tempId := by
  obtain ⟨_, _, _, _, tempId, _, _⟩ := h
  exact tempId

theorem childRows? (h : Leaner row other) (name : String) :
    Option.Rel (List.Forall₂ Leaner) (row.childRows? name) (other.childRows? name) := by
  obtain ⟨_, _, _, _, _, names, below⟩ := h
  exact get?_rel names below name

/-- A row that was never written is still not written without its nulls. -/
theorem isUnsaved (h : Leaner row other) (hRow : row.isUnsaved = true) :
    other.isUnsaved = true := by
  rw [Row.isUnsaved, Bool.and_eq_true] at hRow ⊢
  obtain ⟨hState, hId⟩ := hRow
  refine ⟨h.state_eq ▸ hState, ?_⟩
  have hLeft := h.leftOut_id
  rw [Option.isNone_iff_eq_none.mp hId] at hLeft
  generalize other.id = id at hLeft
  cases hLeft
  rfl

/-- The row is known by nothing but a null. -/
theorem id_eq_null (h : Leaner row other) (hRow : row.isUnsaved = false)
    (hOther : other.isUnsaved = true) : row.id = some .null := by
  rw [Row.isUnsaved, Bool.and_eq_true] at hOther
  obtain ⟨hState, hId⟩ := hOther
  have hLeft := h.leftOut_id
  rw [Option.isNone_iff_eq_none.mp hId] at hLeft
  generalize hOwn : row.id = id at hLeft
  cases hLeft with
  | null => rfl
  | same =>
    rw [Row.isUnsaved, hOwn, ← h.state_eq, hState] at hRow
    cases hRow

end Leaner

theorem keyFilter_leftOut (entity : Entity) {row other : Row} (h : LeftOut row.id other.id) :
    SameOutcome Eq (entity.keyFilter row) (entity.keyFilter other) := by
  unfold Entity.keyFilter
  rw [h.present?_eq]
  cases entity.instanceKey? with
  | none => exact .error
  | some key =>
    dsimp only
    cases Value.present? row.id with
    | none => exact .error
    | some id =>
      dsimp only
      cases key.storageName? with
      | none => exact .error
      | some column => exact .ok rfl

theorem delete_leftOut (entity : Entity) {row other : Row} (h : LeftOut row.id other.id) :
    SameOutcome Eq (entity.delete row) (entity.delete other) := by
  refine (keyFilter_leftOut entity h).bind ?_
  rintro filter _ rfl
  exact .ok rfl

theorem update_leftOut (entity : Entity) {row other : Row} (hData : other.data = row.data)
    (h : LeftOut row.id other.id) : SameOutcome Eq (entity.update row) (entity.update other) := by
  have hUpdated (field : Field) : field.updated? other = field.updated? row := by
    rw [Field.updated?, Field.updated?, hData]
  refine (keyFilter_leftOut entity h).bind ?_
  rintro filter _ rfl
  simp only [hUpdated]
  exact sameOutcome_eq _

theorem checkDeleted_leftOut (entity : Entity) (row other : Row) (reply : Reply) :
    SameOutcome Eq (checkDeleted entity row reply) (checkDeleted entity other reply) := by
  unfold checkDeleted
  refine (sameOutcome_eq reply.toCount).bind ?_
  rintro count _ rfl
  split
  · exact .ok rfl
  · exact .error

/-- An insert gives the field the temporary id, if there is one. -/
def Schema.Field.takesTempId (field : Field) : Bool :=
  field.onBasisTable && field.columnDefault == some .guid && field.column.isSome

/-- The row has no values of its own in the fields that take the temporary id. -/
def Schema.Entity.NothingToLose (entity : Entity) (row : Row) : Prop :=
  ∀ field ∈ entity.fields, field.takesTempId = true → (row.get field.name).isNull = true

section Insert

variable {entity : Entity} {row other : Row}

theorem takesTempId_iff {field : Field} : field.takesTempId = true ↔
    field.onBasisTable = true ∧ field.columnDefault = some .guid ∧ field.column.isSome = true := by
  rw [Field.takesTempId, Bool.and_eq_true, Bool.and_eq_true, beq_iff_eq, and_assoc]

theorem data_foldl_setData (given : List Field) (v : Value) (row : Row) :
    (given.foldl (fun row field => row.setData field.name v) row).data =
      given.foldl (fun data field => Entries.set data field.name v) row.data := by
  induction given generalizing row with
  | nil => rfl
  | cons field rest ih => exact ih (row.setData field.name v)

theorem data_fillGuids_congr (hData : other.data = row.data) (hTempId : other.tempId = row.tempId) :
    (fillGuids entity other).data = (fillGuids entity row).data := by
  unfold fillGuids
  rw [hTempId]
  split
  · exact hData
  · rw [data_foldl_setData, data_foldl_setData, hData]

theorem inserted?_congr {field : Field} (hData : other.data = row.data)
    (hTempId : other.tempId = row.tempId) : field.inserted? other = field.inserted? row := by
  rw [Field.inserted?, Field.inserted?, hTempId, Row.get, hData]
  rfl

theorem filterMap_sublist {α β : Type} {f g : α → Option β} {xs : List α}
    (hLess : ∀ x ∈ xs, f x = none ∨ f x = g x) :
    (xs.filterMap f).Sublist (xs.filterMap g) := by
  induction xs with
  | nil => exact .refl _
  | cons x xs ih =>
    obtain ⟨hFirst, hRest⟩ := List.forall_mem_cons.mp hLess
    rw [List.filterMap_cons, List.filterMap_cons]
    rcases hFirst with hNone | hSame
    · rw [hNone]
      cases g x with
      | none => exact ih hRest
      | some y => exact (ih hRest).cons y
    · rw [hSame]
      cases g x with
      | none => exact ih hRest
      | some y => exact (ih hRest).cons_cons y

/-- What is left of fewer is as much if and only if it is the same of each. -/
theorem filterMap_eq_iff {α β : Type} {f g : α → Option β} {xs : List α}
    (hLess : ∀ x ∈ xs, f x = none ∨ f x = g x) :
    xs.filterMap f = xs.filterMap g ↔ ∀ x ∈ xs, f x = g x := by
  refine ⟨fun h => ?_, List.filterMap_congr⟩
  induction xs with
  | nil => exact List.forall_mem_nil _
  | cons x xs ih =>
    obtain ⟨hFirst, hRest⟩ := List.forall_mem_cons.mp hLess
    rw [List.filterMap_cons, List.filterMap_cons] at h
    rcases hFirst with hNone | hSame
    · rw [hNone] at h
      cases hOther : g x with
      | none =>
        rw [hOther] at h
        exact List.forall_mem_cons.mpr ⟨hNone.trans hOther.symm, ih hRest h⟩
      | some y =>
        rw [hOther] at h
        have hMore : xs.filterMap f = y :: xs.filterMap g := h
        have hLength := (filterMap_sublist hRest).length_le
        rw [hMore, List.length_cons] at hLength
        omega
    · rw [hSame] at h
      refine List.forall_mem_cons.mpr ⟨hSame, ih hRest ?_⟩
      cases hOther : g x with
      | none => rwa [hOther] at h
      | some y =>
        rw [hOther] at h
        exact (List.cons.inj h).2

/-- A null temporary id takes the place of a value, and else the insert has the same for it. -/
theorem inserted?_fillGuids (fields : (entity.fields.map (·.name)).Nodup)
    (hNull : row.tempId = some .null) (hData : other.data = row.data) {field : Field}
    (hField : field ∈ entity.fields) :
    field.inserted? (fillGuids entity row) =
      if field.columnDefault = some .guid then none else field.inserted? other := by
  have hTempId : (fillGuids entity row).tempId = some .null := (tempId_fillGuids _ _).trans hNull
  have hGet : row.get field.name = other.get field.name := by rw [Row.get, Row.get, hData]
  split
  · rename_i hGuid
    rw [Field.inserted?, Field.insertDefault?, hGuid, hTempId]
    rfl
  · rename_i hGuid
    have hDefault : field.insertDefault? ≠ some .guid := by
      intro hGuid'
      exact hGuid (Option.filter_eq_some_iff.mp hGuid').1
    rw [Field.inserted?, Field.inserted?]
    cases hOwn : field.insertDefault? with
    | none => rw [get_fillGuids fields hField hOwn, hGet]
    | some policy =>
      cases policy with
      | guid => exact absurd hOwn hDefault
      | _ => rfl

theorem inserted?_guid (hNone : other.tempId = none) {field : Field}
    (hGuid : field.columnDefault = some .guid) :
    field.inserted? other = none ↔ (other.get field.name).isNull = true := by
  rw [Field.inserted?, Field.insertDefault?, hGuid, hNone]
  change (Value.present? (some (other.get field.name))).map Expr.value = none ↔ _
  rw [Option.map_eq_none_iff, Value.present?, Option.filter_some]
  cases (other.get field.name).isNull <;> simp

theorem mem_writable_iff {entry : Field × String} : entry ∈ entity.writable ↔
    entry.1 ∈ entity.fields ∧ entry.1.onBasisTable = true ∧
      entry.1.storageName? = some entry.2 := by
  obtain ⟨field, column⟩ := entry
  constructor
  · intro h
    obtain ⟨other, hOther, hPair⟩ := List.mem_filterMap.mp h
    obtain ⟨_, hName, hPair⟩ := Option.map_eq_some_iff.mp hPair
    cases hPair
    obtain ⟨hField, hBasis⟩ := List.mem_filter.mp hOther
    exact ⟨hField, hBasis, hName⟩
  · rintro ⟨hField, hBasis, hName⟩
    exact mem_writable hField hBasis hName

theorem nothingToLose_iff : entity.NothingToLose row ↔ ∀ entry ∈ entity.writable,
    entry.1.columnDefault = some .guid → (row.get entry.1.name).isNull = true := by
  constructor
  · intro h entry hEntry hGuid
    obtain ⟨hField, hBasis, hColumn⟩ := mem_writable_iff.mp hEntry
    refine h entry.1 hField (takesTempId_iff.mpr ⟨hBasis, hGuid, ?_⟩)
    rw [← Option.isSome_map, ← Field.storageName?, hColumn, Option.isSome_some]
  · intro h field hField hTakes
    obtain ⟨hBasis, hGuid, hColumn⟩ := takesTempId_iff.mp hTakes
    obtain ⟨column, hColumn⟩ := Option.isSome_iff_exists.mp hColumn
    refine h (field, column.storageName) (mem_writable_iff.mpr ⟨hField, hBasis, ?_⟩) hGuid
    rw [Field.storageName?, hColumn, Option.map_some]

theorem insert_eq_iff (row other : Row) : entity.insert row = entity.insert other ↔
    (entity.insert row).pairs = (entity.insert other).pairs := by
  refine ⟨congrArg Insert.pairs, fun h => ?_⟩
  rw [pairs_insert, pairs_insert] at h
  rw [Entity.insert, Entity.insert, h]

theorem insert_null_iff (fields : (entity.fields.map (·.name)).Nodup)
    (hData : other.data = row.data) (hNull : row.tempId = some .null)
    (hNone : other.tempId = none) :
    entity.insert (fillGuids entity row) = entity.insert other ↔ entity.NothingToLose row := by
  have hInserted {entry : Field × String} (hEntry : entry ∈ entity.writable) :=
    inserted?_fillGuids fields hNull hData (of_mem_writable hEntry).1
  rw [insert_eq_iff, pairs_insert, pairs_insert, filterMap_eq_iff, nothingToLose_iff]
  · refine forall₂_congr fun entry hEntry => ?_
    have hGet : other.get entry.1.name = row.get entry.1.name := by rw [Row.get, Row.get, hData]
    rw [hInserted hEntry]
    split
    · rename_i hGuid
      rw [Option.map_none, eq_comm, Option.map_eq_none_iff, inserted?_guid hNone hGuid, hGet]
      exact ⟨fun h _ => h, fun h => h hGuid⟩
    · rename_i hGuid
      exact iff_of_true rfl fun h => absurd h hGuid
  · intro entry hEntry
    rw [hInserted hEntry]
    split
    · exact .inl rfl
    · exact .inr rfl

/-- The insert stays the same if and only if no value of the row gives way to a null. -/
theorem insert_leftOut_iff (fields : (entity.fields.map (·.name)).Nodup)
    (hData : other.data = row.data) (h : LeftOut row.tempId other.tempId) :
    entity.insert (fillGuids entity row) = entity.insert (fillGuids entity other) ↔
      other.tempId = row.tempId ∨ entity.NothingToLose row := by
  generalize hTempId : row.tempId = tempId at h
  generalize hTempId' : other.tempId = tempId' at h
  cases h with
  | same =>
    refine iff_of_true ?_ (.inl rfl)
    have hEach (field : Field) :
        field.inserted? (fillGuids entity other) = field.inserted? (fillGuids entity row) := by
      apply inserted?_congr
      · exact data_fillGuids_congr hData (hTempId'.trans hTempId.symm)
      · rw [tempId_fillGuids, tempId_fillGuids, hTempId', hTempId]
    simp only [Entity.insert, hEach]
  | null =>
    have hFill : fillGuids entity other = other := by rw [fillGuids, hTempId']
    rw [hFill, or_iff_right (Option.some_ne_none _).symm]
    exact insert_null_iff fields hData hTempId hTempId'

theorem get_foldl_setData_eq (given : List Field) (v : Value) (row : Row) (name : String) :
    (given.foldl (fun row field => row.setData field.name v) row).get name =
      if name ∈ given.map (·.name) then v else row.get name := by
  induction given generalizing row with
  | nil => rfl
  | cons field rest ih =>
    rw [List.foldl_cons, ih, List.map_cons]
    by_cases hRest : name ∈ rest.map (·.name)
    · rw [if_pos hRest, if_pos (List.mem_cons_of_mem _ hRest)]
    · rw [if_neg hRest]
      by_cases hName : field.name = name
      · rw [if_pos (hName ▸ List.mem_cons_self), Row.get, Row.setData, hName,
          Entries.get?_set_self]
        rfl
      · rw [if_neg (List.not_mem_cons_of_ne_of_not_mem (Ne.symm hName) hRest), Row.get,
          Row.setData, Entries.get?_set_of_ne _ _ hName]
        rfl

/-- A row with nothing to lose has the same values as if it had no null temporary id. -/
theorem get_fillGuids_leftOut (fields : (entity.fields.map (·.name)).Nodup)
    (hData : other.data = row.data) (h : LeftOut row.tempId other.tempId)
    (hNothing : other.tempId = row.tempId ∨ entity.NothingToLose row) {name : String}
    (hColumn : HasColumnField entity.fields name) :
    (fillGuids entity other).get name = (fillGuids entity row).get name := by
  have hGet : other.get name = row.get name := by rw [Row.get, Row.get, hData]
  generalize hTempId : row.tempId = tempId at h
  generalize hTempId' : other.tempId = tempId' at h
  cases h with
  | same =>
    rw [Row.get, Row.get, data_fillGuids_congr hData (hTempId'.trans hTempId.symm)]
  | null =>
    rw [hTempId, hTempId', or_iff_right (Option.some_ne_none _).symm] at hNothing
    rw [fillGuids, hTempId', hGet, fillGuids, hTempId]
    dsimp only
    rw [get_foldl_setData_eq]
    split
    · rename_i hFilled
      obtain ⟨field, hField, hName⟩ := List.mem_map.mp hFilled
      obtain ⟨hMem, hGuid⟩ := List.mem_filter.mp hField
      rw [Bool.and_eq_true, beq_iff_eq] at hGuid
      obtain ⟨bound, hBound, hBoundName, hColumn⟩ := hColumn
      have hSame := eq_of_name fields hMem hBound (hBoundName.trans hName.symm)
      rw [← hName]
      refine Value.null_of_isNull (hNothing field hMem ?_)
      exact takesTempId_iff.mpr ⟨hGuid.1, hGuid.2, hSame ▸ hColumn⟩
    · rfl

theorem insertedKey_leftOut (fields : (entity.fields.map (·.name)).Nodup)
    (hData : other.data = row.data) (h : LeftOut row.tempId other.tempId)
    (hNothing : other.tempId = row.tempId ∨ entity.NothingToLose row) (reply : Reply)
    {name : String} (hColumn : HasColumnField entity.fields name) :
    insertedKey entity other reply name = insertedKey entity row reply name := by
  rw [insertedKey, insertedKey, get_fillGuids_leftOut fields hData h hNothing hColumn,
    h.ofOption_eq]

end Insert

end RowTree
