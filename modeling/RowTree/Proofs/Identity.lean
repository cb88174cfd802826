import RowTree.Proofs.Stored

/-!
# Ids of inserted rows

An inserted row gets the key that the database reported for it as its id, or else its temporary
id. This is the key under which it was stored unless another value was written into the key
column, and then the row is not found by its id.
-/

namespace RowTree

open Schema Sql

mutual

theorem removed_of_mem_deletions (model : Model) {place : Place} {above : Option WriteKind}
    {row : Row} {rows : List Row} {due : Due} (hRow : row ∈ rows) (hKnown : row.isUnsaved = false)
    (h : due ∈ deletions place above row model) : Removed model rows due.entity due.row := by
  cases model with
  | node entity children =>
    rw [deletions] at h
    rcases List.mem_append.mp h with h | h
    · obtain ⟨child, hChild, below, hBelow, hRemoved⟩ := removed_of_mem_deletionsUnder children h
      exact .under hRow hKnown hChild hBelow hRemoved
    · rw [List.mem_singleton.mp h]
      exact Removed.own hRow hKnown

theorem removed_of_mem_deletionsUnder (children : List Model) {place : Place} {row : Row}
    {due : Due} (h : due ∈ deletionsUnder place row children) :
    ∃ child ∈ children, ∃ below, row.childRows? child.name = some below ∧
      Removed child below due.entity due.row := by
  cases children with
  | nil => cases h
  | cons child rest =>
    rw [deletionsUnder] at h
    rcases List.mem_append.mp h with h | h
    · obtain ⟨⟨r, i⟩, hEntry, hDue⟩ := List.mem_flatMap.mp h
      cases hBelow : row.childRows? child.name with
      | none =>
        rw [hBelow] at hEntry
        cases hEntry
      | some below =>
        rw [hBelow] at hEntry
        have hMem : r ∈ below := List.fst_mem_of_mem_zipIdx hEntry
        cases hKnown : r.isUnsaved with
        | true =>
          rw [hKnown, if_pos rfl] at hDue
          cases hDue
        | false =>
          rw [hKnown, if_neg Bool.false_ne_true] at hDue
          exact ⟨child, List.mem_cons_self, below, hBelow,
            removed_of_mem_deletions child hMem hKnown hDue⟩
    · obtain ⟨c, hc, hRemoved⟩ := removed_of_mem_deletionsUnder rest h
      exact ⟨c, List.mem_cons_of_mem _ hc, hRemoved⟩

end

mutual

theorem written_of_mem_duesOf (model : Model) {place : Place} {above : Option WriteKind}
    {rows : List Row} {due : Due} (h : due ∈ duesOf place above rows model) :
    Written model rows due.entity due.row := by
  cases model with
  | node entity children =>
    rw [duesOf] at h
    obtain ⟨⟨row, i⟩, hEntry, hDue⟩ := List.mem_flatMap.mp h
    have hRow : row ∈ rows := List.fst_mem_of_mem_zipIdx hEntry
    have hUnder (hKept : row.state ≠ some .deleted) {above : Option WriteKind}
        (h : due ∈ childDues ((entity.name, i) :: place) above row children) :
        Written (.node entity children) rows due.entity due.row := by
      obtain ⟨child, hChild, below, hBelow, hWritten⟩ := written_of_mem_childDues children h
      exact .under hRow hKept hChild hBelow hWritten
    have hOwn (hPending : row.state ≠ none) : Written (.node entity children) rows entity row :=
      Written.own hRow hPending
    dsimp only [rowDues] at hDue
    split at hDue
    case h_1 hState =>
      rcases List.mem_cons.mp hDue with rfl | hDue
      · exact hOwn (by simp [hState])
      · exact hUnder (by simp [hState]) hDue
    case h_2 hState =>
      split at hDue
      · exact hUnder (by simp [hState]) hDue
      · rcases List.mem_cons.mp hDue with rfl | hDue
        · exact hOwn (by simp [hState])
        · exact hUnder (by simp [hState]) hDue
    case h_3 hState =>
      rw [deletions] at hDue
      rcases List.mem_append.mp hDue with hDue | hDue
      · obtain ⟨child, hChild, below, hBelow, hRemoved⟩ := removed_of_mem_deletionsUnder _ hDue
        exact .removed hRow hState hChild hBelow hRemoved
      · rw [List.mem_singleton.mp hDue]
        exact hOwn (by simp [hState])
    case h_4 hState => exact hUnder (by simp [hState]) hDue

theorem written_of_mem_childDues (children : List Model) {place : Place}
    {above : Option WriteKind} {row : Row} {due : Due}
    (h : due ∈ childDues place above row children) :
    ∃ child ∈ children, ∃ below, row.childRows? child.name = some below ∧
      Written child below due.entity due.row := by
  cases children with
  | nil => cases h
  | cons child rest =>
    rw [childDues] at h
    rcases List.mem_append.mp h with h | h
    · cases hBelow : row.childRows? child.name with
      | none =>
        rw [hBelow, Option.getD_none, duesOf_nil] at h
        cases h
      | some below =>
        rw [hBelow] at h
        exact ⟨child, List.mem_cons_self, below, hBelow, written_of_mem_duesOf child h⟩
    · obtain ⟨c, hc, hWritten⟩ := written_of_mem_childDues rest h
      exact ⟨c, List.mem_cons_of_mem _ hc, hWritten⟩

end

theorem within_of_mem_children {model child other : Model} (hChild : child ∈ model.children)
    (h : child.Within other) : model.Within other := by
  induction h with
  | self => exact .child .self hChild
  | child _ hMem ih => exact .child ih hMem

theorem Removed.exists_within {model : Model} {rows : List Row} {entity : Entity} {row : Row}
    (h : Removed model rows entity row) : ∃ other, model.Within other ∧ other.entity = entity := by
  induction h with
  | own _ _ => exact ⟨_, .self, rfl⟩
  | under _ _ hChild _ _ ih =>
    obtain ⟨other, hWithin, hEntity⟩ := ih
    exact ⟨other, within_of_mem_children hChild hWithin, hEntity⟩

theorem Written.exists_within {model : Model} {rows : List Row} {entity : Entity} {row : Row}
    (h : Written model rows entity row) : ∃ other, model.Within other ∧ other.entity = entity := by
  induction h with
  | own _ _ => exact ⟨_, .self, rfl⟩
  | under _ _ hChild _ _ ih =>
    obtain ⟨other, hWithin, hEntity⟩ := ih
    exact ⟨other, within_of_mem_children hChild hWithin, hEntity⟩
  | removed _ _ hChild _ h =>
    obtain ⟨other, hWithin, hEntity⟩ := h.exists_within
    exact ⟨other, within_of_mem_children hChild hWithin, hEntity⟩

/-- The key under which an insert stored its row, if it is known: the one that the database
reported, or else what was written into the key column. -/
def Write.StoresUnder (write : Write) (key : Expr) : Prop :=
  match write.assigned? with
  | some id => key = .value id
  | none => ∃ field column insert, write.due.entity.instanceKey? = some field ∧
      field.storageName? = some column ∧ write.statement = .insert insert ∧
      (column, key) ∈ insert.pairs

/-- Updates and deletes of the row look for the key in the key column. -/
def Schema.Entity.LooksFor (entity : Entity) (row : Row) (key : Expr) : Prop :=
  ∃ field column, entity.instanceKey? = some field ∧ field.storageName? = some column ∧
    entity.keyFilter row = .ok ⟨some (.compare .equal (.bareColumn column) key)⟩

/-- The row has the key under which it was stored as its id, and is found by it. -/
def Write.Identifies (write : Write) (row : Row) : Prop :=
  ∀ key, write.StoresUnder key →
    row.id.map .value = some key ∧ write.due.entity.LooksFor row key

/-- Nothing but its temporary id is written into the key column of the row. -/
def Schema.Field.KeepsToTempId (field : Field) (row : Row) : Prop :=
  match field.insertDefault? with
  | some .guid => row.tempId = none → (row.get field.name).isNull = true
  | some _ => False
  | none => field.updateable = true → (row.get field.name).isNull = false →
      row.tempId = some (row.get field.name)

/-- The database reports a key, or the insert writes none but the temporary id. -/
def Write.KeepsToId (write : Write) : Prop :=
  write.assigned?.isSome = true ∨
    ∀ field, write.due.entity.instanceKey? = some field → field.KeepsToTempId write.row

theorem isNull_of_inserted? {field : Field} {row : Row} {v : Value}
    (h : field.inserted? row = some (.value v)) : v.isNull = false := by
  have hPresent {w : Option Value} (hw : (Value.present? w).map Expr.value = some (.value v)) :
      v.isNull = false := by
    obtain ⟨_, hPresent, hValue⟩ := Option.map_eq_some_iff.mp hw
    cases hValue
    exact (present?_eq_some.mp hPresent).2
  unfold Field.inserted? at h
  split at h
  · exact hPresent h
  · cases h
  · split at h
    · exact hPresent h
    · cases h

theorem keepsToTempId_iff {entity : Entity} (fields : (entity.fields.map (·.name)).Nodup)
    {field : Field} (hField : field ∈ entity.fields) (row : Row) :
    field.KeepsToTempId row ↔
      ∀ e, field.inserted? (fillGuids entity row) = some e → row.tempId.map .value = some e := by
  unfold Field.KeepsToTempId Field.inserted?
  rw [tempId_fillGuids]
  cases hDefault : field.insertDefault? with
  | none =>
    rw [get_fillGuids fields hField hDefault]
    cases field.updateable with
    | false => simp
    | true => simp [present?_eq_some]
  | some policy =>
    cases policy with
    | guid =>
      cases hTempId : row.tempId with
      | none =>
        have hRow : fillGuids entity row = row := by rw [fillGuids, hTempId]
        rw [hRow]
        simp [present?_eq_some]
      | some v =>
        -- The temporary id goes before the row's own value, also if it is null and not written.
        refine iff_of_true nofun fun e hWritten => ?_
        obtain ⟨w, hPresent, rfl⟩ := Option.map_eq_some_iff.mp hWritten
        have hSame : some v = some w := (present?_eq_some.mp hPresent).1
        rw [hSame, Option.map_some]
    | _ => simp

theorem mem_pairs_insert_iff {entity : Entity} (hColumns : (entity.writable.map (·.2)).Nodup)
    {field : Field} {column : String} (hWritable : (field, column) ∈ entity.writable) {row : Row}
    {e : Expr} : (column, e) ∈ (entity.insert row).pairs ↔ field.inserted? row = some e := by
  rw [mem_pairs_insert]
  constructor
  · rintro ⟨entry, hEntry, hPair⟩
    obtain ⟨_, hInserted, hPair⟩ := Option.map_eq_some_iff.mp hPair
    obtain ⟨hColumn, rfl⟩ := Prod.mk.inj hPair
    rwa [List.inj_on_of_nodup_map hColumns hEntry hWritable hColumn] at hInserted
  · intro hInserted
    exact ⟨_, hWritable, by rw [hInserted, Option.map_some]⟩

namespace Write

variable {write : Write}

theorem isNull_of_assigned? {id : Value} (h : write.assigned? = some id) : id.isNull = false := by
  unfold assigned? at h
  split at h
  · obtain ⟨_, _, rfl⟩ := Option.map_eq_some_iff.mp h
    exact isNull_ofUInt64 _
  · cases h

/-- Without a reported key the row is stored under what is written for its key field. -/
theorem storesUnder_iff (hAssigned : write.assigned? = none) (hInsert : write.due.kind = .insert)
    (hStatement : write.due.statement write.value = .ok (some write.statement)) {field : Field}
    (hKey : write.due.entity.instanceKey? = some field) {column : String}
    (hWritable : (field, column) ∈ write.due.entity.writable)
    (hColumns : (write.due.entity.writable.map (·.2)).Nodup) {key : Expr} :
    write.StoresUnder key ↔
      field.inserted? (fillGuids write.due.entity write.row) = some key := by
  rw [Due.statement, hInsert] at hStatement
  have hWritten := (Option.some.inj (Except.ok.inj hStatement)).symm
  have hColumn := (of_mem_writable hWritable).2
  rw [← mem_pairs_insert_iff hColumns hWritable, StoresUnder, hAssigned]
  constructor
  · rintro ⟨other, name, insert, hOther, hName, hInsert, hPair⟩
    rw [hKey, Option.some.injEq] at hOther
    subst hOther
    rw [hColumn, Option.some.injEq] at hName
    subst hName
    rw [hWritten] at hInsert
    cases hInsert
    exact hPair
  · exact fun hPair => ⟨field, column, _, hKey, hColumn, hWritten, hPair⟩

theorem identifies_iff {top model : Model} (hTop : top.Compiled) (hWithin : top.Within model)
    (hEntity : model.entity = write.due.entity) (hKeyed : write.due.entity.Keyed)
    (hColumns : (write.due.entity.writable.map (·.2)).Nodup) (hInsert : write.due.kind = .insert)
    (hStatement : write.due.statement write.value = .ok (some write.statement)) {row : Row}
    (hID : row.id = (write.assigned? <|> write.due.row.tempId)) :
    write.Identifies row ↔ write.KeepsToId := by
  obtain ⟨field, hKey⟩ := Option.ne_none_iff_exists'.mp hKeyed
  obtain ⟨column, hWritable⟩ := hTop.instanceKey hWithin (hEntity ▸ hKey)
  rw [hEntity] at hWritable
  obtain ⟨hField, hColumn⟩ := of_mem_writable hWritable
  have hFinds {v : Value} (hv : row.id = some v) (hNull : v.isNull = false) :
      write.due.entity.LooksFor row (.value v) :=
    ⟨field, column, hKey, hColumn, keyFilter_eq_ok hKey hColumn hv hNull⟩
  cases hAssigned : write.assigned? with
  | some id =>
    rw [hAssigned] at hID
    refine iff_of_true (fun key hStored => ?_) (.inl (by rw [hAssigned]; rfl))
    rw [StoresUnder, hAssigned] at hStored
    subst hStored
    exact ⟨by rw [hID]; rfl, hFinds hID (isNull_of_assigned? hAssigned)⟩
  | none =>
    -- The id is the temporary one, so all depends on what was written for the key field.
    have hNames := (hTop.wellFormed.within hWithin).fields
    rw [hEntity] at hNames
    have hTempId : row.id = write.row.tempId := by
      rw [hID, hAssigned, Write.row, Due.written, handed_tempId]
      rfl
    have hStores {key : Expr} : write.StoresUnder key ↔
        field.inserted? (fillGuids write.due.entity write.row) = some key :=
      storesUnder_iff hAssigned hInsert hStatement hKey hWritable hColumns
    have hKeeps : write.KeepsToId ↔ field.KeepsToTempId write.row := by
      simp [KeepsToId, hAssigned, hKey]
    rw [hKeeps, keepsToTempId_iff hNames hField, ← hTempId]
    constructor
    · exact fun h key hInserted => (h key (hStores.mpr hInserted)).1
    · intro h key hStored
      have hInserted := hStores.mp hStored
      have hSame := h key hInserted
      obtain ⟨v, hv, rfl⟩ := Option.map_eq_some_iff.mp hSame
      exact ⟨hSame, hFinds hv (isNull_of_inserted? hInserted)⟩

end Write

namespace Countries

def table : Table where
  name := "Country"
  storageName := "country"
  columns := [{ name := "Code", storageName := "code" }, { name := "Name", storageName := "name" }]
  primaryKey := some "Code"

def definition : Definition := .node {
  name := some "Country"
  basisTable := some "Country"
  fields := table.columns.map fun column =>
    { name := column.name, basisColumn := some column.name } } []

def code : Field := { name := "Code", column := some ⟨"Code", "code"⟩ }

def country : Entity where
  name := "Country"
  basisTable := ⟨"Country", "country"⟩
  fields := [code, { name := "Name", column := some ⟨"Name", "name"⟩ }]
  key := some 0

def model : Model := .node country []

theorem model_compiled : model.Compiled :=
  ⟨Catalog.ofTables [table], definition, rfl⟩

/-- Gives no keys. -/
def accepting : Driver := fun _ _ => .ok (.inserted 1 none)

def newRow (code : String) (tempId : Option Value) : Row where
  data := [("Code", .string code)]
  state := some .inserted
  tempId := tempId

def savedRow (code : String) (id : Option Value) : Row where
  data := [("Code", .string code)]
  id := id
  tempId := id

/-- A country whose temporary id is its code, and one whose temporary id is another. -/
def countries : List Row := [newRow "FR" (some (.string "FR")), newRow "IE" (some (.string "new"))]

def savedCountries : List Row :=
  [savedRow "FR" (some (.string "FR")), savedRow "IE" (some (.string "new"))]

end Countries

end RowTree
