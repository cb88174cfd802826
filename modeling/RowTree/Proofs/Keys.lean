import RowTree.Proofs.Order
import Mathlib.Data.List.Nodup
import Mathlib.Data.List.Pairwise

/-!
# Keys of inserted rows

A row under an inserted row is written after it, and if it is inserted too, its
link column gets the key of the row above. This holds of every driver and at
every depth, also if the save fails later.
-/

namespace RowTree

open Schema Sql

def Sql.Insert.pairs (insert : Insert) : List (String × Expr) := insert.columns.zip insert.values

def Schema.Entity.without (entity : Entity) (name : String) : Entity :=
  { entity with fields := entity.fields.filter (·.name != name) }

/-- What the parent hands on stands in the link column of the insert. If that is null,
the insert is the same as if there were no link field. -/
def Write.HasKeyOf (write parent : Write) : Prop :=
  ∃ link field column reply insert,
    write.due.entity.parentLink = some link ∧
    write.due.entity.field? link.childField = some field ∧
    field.storageName? = some column ∧
    parent.reply = .ok reply ∧ write.statement = .insert insert ∧
    (field.onBasisTable = true → field.updateable = true → field.insertDefault? = none →
      let key := insertedKey parent.due.entity parent.row reply link.parentField
      (key.isNull = false → (column, .value key) ∈ insert.pairs) ∧
      (key.isNull = true → insert =
        (write.due.entity.without link.childField).insert (fillGuids write.due.entity write.row)))

theorem present?_eq_some {w : Option Value} {v : Value} :
    Value.present? w = some v ↔ w = some v ∧ v.isNull = false := by
  rw [Value.present?, Option.filter_eq_some_iff, Bool.not_eq_true']

theorem pairs_insert (entity : Entity) (row : Row) : (entity.insert row).pairs =
    entity.writable.filterMap fun entry => (entry.1.inserted? row).map (entry.2, ·) := by
  rw [Insert.pairs, Entity.insert, ← List.zip_of_prod rfl rfl]

theorem mem_pairs_insert {entity : Entity} {row : Row} {pair : String × Expr} :
    pair ∈ (entity.insert row).pairs ↔
      ∃ entry ∈ entity.writable, (entry.1.inserted? row).map (entry.2, ·) = some pair := by
  rw [pairs_insert]
  exact List.mem_filterMap

theorem mem_writable {entity : Entity} {field : Field} {column : String}
    (hField : field ∈ entity.fields) (hBasis : field.onBasisTable = true)
    (hColumn : field.storageName? = some column) : (field, column) ∈ entity.writable := by
  apply List.mem_filterMap.mpr
  refine ⟨field, List.mem_filter.mpr ⟨hField, hBasis⟩, ?_⟩
  rw [hColumn, Option.map_some]

theorem field?_eq_some {entity : Entity} {name : String} {field : Field}
    (h : entity.field? name = some field) : field ∈ entity.fields ∧ field.name = name := by
  have hName := List.find?_some h
  exact ⟨List.mem_of_find?_eq_some h, beq_iff_eq.mp hName⟩

theorem eq_of_name {entity : Entity} (fields : (entity.fields.map (·.name)).Nodup)
    {field other : Field} (hField : field ∈ entity.fields) (hOther : other ∈ entity.fields)
    (hName : other.name = field.name) : other = field :=
  List.inj_on_of_nodup_map fields hOther hField hName

theorem get_foldl_setData {fields : List Field} {name : String}
    (h : ∀ field ∈ fields, field.name ≠ name) (v : Value) (row : Row) :
    (fields.foldl (fun row field => row.setData field.name v) row).get name = row.get name := by
  induction fields generalizing row with
  | nil => rfl
  | cons field rest ih =>
    rw [List.foldl_cons, ih fun other hOther => h other (List.mem_cons_of_mem _ hOther)]
    rw [Row.get, Row.setData, Entries.get?_set_of_ne _ _ (h field List.mem_cons_self)]
    rfl

theorem get_fillGuids {entity : Entity} (fields : (entity.fields.map (·.name)).Nodup)
    {field : Field} (hField : field ∈ entity.fields) (hDefault : field.insertDefault? = none)
    (row : Row) : (fillGuids entity row).get field.name = row.get field.name := by
  unfold fillGuids
  split
  · rfl
  · apply get_foldl_setData
    intro other hOther hName
    obtain ⟨hMem, hGuid⟩ := List.mem_filter.mp hOther
    rw [eq_of_name fields hField hMem hName, Bool.and_eq_true, beq_iff_eq] at hGuid
    rw [Field.insertDefault?, hGuid.2] at hDefault
    cases hDefault

theorem insert_without {entity : Entity} (fields : (entity.fields.map (·.name)).Nodup)
    {field : Field} (hField : field ∈ entity.fields) {row : Row}
    (hNothing : field.inserted? row = none) :
    entity.insert row = (entity.without field.name).insert row := by
  have hPairs : entity.writable.filterMap (fun entry =>
      (entry.1.inserted? row).map (entry.2, ·)) =
      (entity.without field.name).writable.filterMap (fun entry =>
        (entry.1.inserted? row).map (entry.2, ·)) := by
    simp only [Entity.writable, Entity.without, List.filterMap_filterMap, List.filterMap_filter]
    apply List.filterMap_congr
    intro other hOther
    by_cases hName : other.name = field.name
    · rw [eq_of_name fields hField hOther hName]
      rw [bne_self_eq_false, if_neg Bool.false_ne_true, Option.bind_none,
        Option.bind_eq_none_iff]
      intro entry hEntry
      split at hEntry
      · obtain ⟨column, _, rfl⟩ := Option.map_eq_some_iff.mp hEntry
        rw [hNothing, Option.map_none]
      · cases hEntry
    · simp [hName]
  rw [Entity.insert, hPairs]
  rfl

namespace Write

theorem Succeeded.reply_eq {write : Write} (h : write.Succeeded) :
    ∃ reply, write.reply = .ok reply := by
  obtain ⟨reply, hReply, _⟩ := Outcome.bind_eq_ok.mp h
  exact ⟨reply, hReply⟩

theorem hasKeyOf {write parent : Write} {reply : Reply}
    (fields : (write.due.entity.fields.map (·.name)).Nodup) (hLinked : write.due.entity.Linked)
    (hKind : write.due.kind = .insert) (hAbove : write.due.above = some .insert)
    (hStatement : write.due.statement write.value = .ok (some write.statement))
    (hReply : parent.reply = .ok reply)
    (hValue : ∀ link, write.due.entity.parentLink = some link →
      write.value = parent.handsOn link) : write.HasKeyOf parent := by
  obtain ⟨link, field, column, hLink, hField, hColumn⟩ := hLinked
  obtain ⟨hMem, hName⟩ := field?_eq_some hField
  have hKey : write.value = insertedKey parent.due.entity parent.row reply link.parentField := by
    rw [hValue link hLink, handsOn, hReply]
  have hRow : write.row.get link.childField = write.value := by
    rw [row, Due.written, handingLink, if_pos hAbove, hLink, handed, stitchChild]
    rw [Row.get, Row.setData, Entries.get?_set_self]
    rfl
  rw [Due.statement, hKind] at hStatement
  have hInsert := (Option.some.inj (Except.ok.inj hStatement)).symm
  refine ⟨link, field, column, reply, _, hLink, hField, hColumn, hReply, hInsert, ?_⟩
  intro hBasis hUpdateable hDefault
  have hInserted : field.inserted? (fillGuids write.due.entity write.row) =
      (Value.present? (some write.value)).map .value := by
    rw [Field.inserted?, hDefault, if_pos hUpdateable, get_fillGuids fields hMem hDefault, hName,
      hRow]
  rw [← hKey]
  constructor
  · intro hNull
    apply mem_pairs_insert.mpr
    refine ⟨(field, column), mem_writable hMem hBasis hColumn, ?_⟩
    change (field.inserted? (fillGuids write.due.entity write.row)).map _ = _
    rw [hInserted, Value.present?, Option.filter_some, hNull]
    rfl
  · intro hNull
    rw [← hName]
    apply insert_without fields hMem
    change field.inserted? (fillGuids write.due.entity write.row) = none
    rw [hInserted, Value.present?, Option.filter_some, hNull]
    rfl

end Write

theorem above_eq_of_parent {model : Model} (hModel : model.WellFormed) {rows : List Row}
    {parent due : Due} (hParent : parent ∈ dues model rows) (hDue : due ∈ dues model rows)
    (hPlace : parent.place = due.place.tail) (hKind : parent.kind ≠ .delete) :
    due.above = some parent.kind := by
  have hSymm : Std.Symm fun a b : Due => a.Precedes b ∨ b.Precedes a := ⟨fun _ _ => Or.symm⟩
  have hEither : (dues model rows).Pairwise fun a b => a.Precedes b ∨ b.Precedes a :=
    (dues_pairwise hModel rows).imp Or.inl
  have hNe : parent ≠ due := by
    rintro rfl
    obtain ⟨_, hUnder⟩ := exists_under_of_mem_dues hModel hParent
    have hSuffix := hUnder.suffix
    cases hHere : parent.place with
    | nil =>
      rw [hHere, List.suffix_nil] at hSuffix
      cases hSuffix
    | cons first rest =>
      rw [hHere, List.tail_cons] at hPlace
      exact List.cons_ne_self _ _ hPlace
  rcases hEither.forall hParent hDue hNe with h | h
  · exact h.above_eq hPlace hKind
  · exact absurd (h.deletes hPlace) hKind

theorem linked_of_parent {model : Model} (hModel : model.WellFormed) {rows : List Row}
    {parent due : Due} (hParent : parent ∈ dues model rows) (hDue : due ∈ dues model rows)
    (hPlace : parent.place = due.place.tail) : due.entity.Linked := by
  obtain ⟨i, hUnder⟩ := exists_under_of_mem_dues hModel hDue
  apply hUnder.linked
  intro hTop
  obtain ⟨_, hAbove⟩ := exists_under_of_mem_dues hModel hParent
  have hSuffix := hAbove.suffix
  rw [hPlace, hTop, List.tail_cons, List.suffix_nil] at hSuffix
  cases hSuffix

/-- Whatever is executed for a row comes after the insert or the update of the row above,
which succeeded, and an inserted row hands its key to those that are inserted under it. -/
theorem keys_reach_children (driver : Driver) {model : Model} (hModel : model.Compiled)
    (rows : List Row) (log : Log) :
    ∃ writes : List Write, ((save driver model rows).run log).2 = logAfter log writes ∧
      (writes.map (·.due)).Sublist (dues model rows) ∧
      ∀ before write after, writes = before ++ write :: after →
        write.Issued driver (logAfter log before) ∧
        ∀ due ∈ dues model rows, due.place = write.due.place.tail → due.kind ≠ .delete →
          ∃ parent ∈ before, parent.due = due ∧ parent.Succeeded ∧
            (due.kind = .insert → write.due.kind = .insert → write.HasKeyOf parent) := by
  have hWell := hModel.wellFormed
  obtain ⟨writes, hJournal⟩ := save_performs driver log hWell rows
  rw [show logAfter log [] = log from List.append_nil log] at hJournal
  refine ⟨writes, hJournal.later_eq, hJournal.due, ?_⟩
  rintro before write after rfl
  obtain ⟨hIssued, hReady⟩ := hJournal.follows before write after rfl
  refine ⟨hIssued, ?_⟩
  intro due hDue hPlace hKind
  have hWritten : ∀ w ∈ before ++ write :: after, w.due ∈ dues model rows := by
    intro w hw
    exact hJournal.due.subset (List.mem_map_of_mem hw)
  have hWrite := hWritten write (List.mem_append_right _ List.mem_cons_self)
  -- The write itself knows of what kind its parent's is, and so the journal has that one.
  have hAbove := above_eq_of_parent hWell hDue hWrite hPlace hKind
  obtain ⟨parent, hParent, hSamePlace, _, hSucceeded, hValue⟩ := hReady due.kind hAbove
  have hSame : parent.due = due := by
    apply List.inj_on_of_nodup_map (places_nodup hWell rows)
    · exact hWritten parent (List.mem_append_left _ hParent)
    · exact hDue
    · rw [hSamePlace, hPlace]
  refine ⟨parent, hParent, hSame, hSucceeded, ?_⟩
  intro hInsert hChild
  obtain ⟨reply, hReply⟩ := hSucceeded.reply_eq
  obtain ⟨_, hUnder⟩ := exists_under_of_mem_dues hWell hWrite
  apply Write.hasKeyOf hUnder.fields (linked_of_parent hWell hDue hWrite hPlace) hChild
  · rw [hAbove, hInsert]
  · exact hIssued.1
  · exact hReply
  · exact hValue hInsert

namespace Family

open Schema.Family

/-- The child of the first person is inserted under the key that the database gave to
that person. -/
theorem keys_reach_household :
    ((save accepting model household).run []).2[1]?.map (fun
      | .insert i => (i.table, i.pairs)
      | _ => ("", [])) = some ("child", [("parent_id", .value (.int 100)),
        ("name", .value (.string "Bo"))]) ∧
    ∃ writes : List Write, ((save accepting model household).run []).2 = logAfter [] writes ∧
      (writes.map (·.due)).Sublist (dues model household) ∧
      ∀ before write after, writes = before ++ write :: after →
        write.Issued accepting (logAfter [] before) ∧
        ∀ due ∈ dues model household, due.place = write.due.place.tail → due.kind ≠ .delete →
          ∃ parent ∈ before, parent.due = due ∧ parent.Succeeded ∧
            (due.kind = .insert → write.due.kind = .insert → write.HasKeyOf parent) :=
  ⟨rfl, keys_reach_children accepting model_compiled household []⟩

end Family

end RowTree
