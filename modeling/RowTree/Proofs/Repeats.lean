import RowTree.Proofs.Stored

/-!
# Columns that are written twice

Binding sees to it that no two fields have one name, but not that no two fields have one column. An
insert and an update write field by field. So there is a row for which one of them names a column
twice exactly if two fields that it can write stand on one column.
-/

namespace RowTree

open Schema Sql

namespace Schema

/-- An insert can write the field, if the row has a value for it. -/
def Field.insertable (field : Field) : Bool := field.insertDefault?.isSome || field.updateable

/-- An update can write the field, if the row has a value for it. -/
def Field.changeable (field : Field) : Bool :=
  field.columnDefault.any ColumnDefault.onUpdate || field.updateable

/-- The columns of some of the fields that stand on the basis table. -/
def Entity.columnsOf (entity : Entity) (p : Field → Bool) : List String :=
  (entity.writable.filter fun entry => p entry.1).map (·.2)

/-- A row that has a value for every field. -/
def Entity.fullRow (entity : Entity) : Row where
  data := entity.fields.map fun field => (field.name, .bool true)
  id := some (.bool true)

end Schema

variable {entity : Entity} {field : Field} {row : Row}

theorem map_filterMap_writable {α : Type} (entity : Entity) (chosen : Field → Option Expr)
    (make : String → Expr → α) (column : α → String) (h : ∀ name e, column (make name e) = name) :
    (entity.writable.filterMap fun entry => (chosen entry.1).map (make entry.2)).map column =
      entity.columnsOf fun field => (chosen field).isSome := by
  rw [Entity.columnsOf]
  induction entity.writable with
  | nil => rfl
  | cons entry rest ih => cases hChosen : chosen entry.1 <;> simp [hChosen, h, ih]

theorem columns_insert (entity : Entity) (row : Row) :
    (entity.insert row).columns = entity.columnsOf fun field => (field.inserted? row).isSome :=
  map_filterMap_writable entity (·.inserted? row) Prod.mk (·.1) fun _ _ => rfl

theorem columns_update {u : Update} (h : entity.update row = .ok (some u)) :
    u.assignments.map (·.column) =
      entity.columnsOf fun field => (field.updated? row).isSome := by
  obtain ⟨_, _, h⟩ := Outcome.bind_eq_ok.mp h
  dsimp only at h
  split at h
  · cases h
  · cases h
    exact map_filterMap_writable entity (·.updated? row) Assignment.mk (·.column) fun _ _ => rfl

theorem keyed_of_update {u? : Option Update} (h : entity.update row = .ok u?) : entity.Keyed := by
  obtain ⟨_, hFilter, _⟩ := Outcome.bind_eq_ok.mp h
  obtain ⟨_, _, _, hKey, _⟩ := Entity.keyFilter_eq_ok_iff.mp hFilter
  simp [Entity.Keyed, hKey]

/-- An update of a row with an id can be made, unless there is nothing to write. -/
theorem exists_update {filter : Filter} (hFilter : entity.keyFilter row = .ok filter)
    (hSome : (entity.columnsOf fun field => (field.updated? row).isSome) ≠ []) :
    ∃ u, entity.update row = .ok (some u) := by
  let assignments := entity.writable.filterMap fun entry =>
    (entry.1.updated? row).map (Assignment.mk entry.2)
  have hColumns : assignments.map (·.column) =
      entity.columnsOf fun field => (field.updated? row).isSome :=
    map_filterMap_writable entity (·.updated? row) Assignment.mk (·.column) fun _ _ => rfl
  have hAssignments : ¬assignments.isEmpty = true := by
    intro hEmpty
    rw [← hColumns, List.isEmpty_iff.mp hEmpty] at hSome
    exact hSome rfl
  exact ⟨_, Outcome.bind_eq_ok.mpr ⟨filter, hFilter, if_neg hAssignments⟩⟩

theorem insertable_of_inserted? (h : (field.inserted? row).isSome = true) :
    field.insertable = true := by
  unfold Field.inserted? at h
  rw [Field.insertable, Bool.or_eq_true]
  cases hDefault : field.insertDefault? with
  | some policy => exact .inl rfl
  | none =>
    rw [hDefault] at h
    right
    by_contra hFixed
    simp [hFixed] at h

theorem changeable_of_updated? (h : (field.updated? row).isSome = true) :
    field.changeable = true := by
  unfold Field.updated? at h
  rw [Field.changeable, Bool.or_eq_true]
  by_contra hFixed
  rw [not_or] at hFixed
  simp [hFixed] at h

theorem get?_fullRow (hField : field ∈ entity.fields) :
    Entries.get? entity.fullRow.data field.name = some (.bool true) := by
  have hFound {fields : List Field} (hField : field ∈ fields) :
      Entries.get? (fields.map fun field => (field.name, Value.bool true)) field.name =
        some (.bool true) := by
    induction fields with
    | nil => cases hField
    | cons first rest ih =>
      rw [List.map_cons, Entries.get?]
      split
      · rfl
      · rename_i hOther
        rcases List.mem_cons.mp hField with rfl | hRest
        · exact absurd rfl hOther
        · exact ih hRest
  exact hFound hField

theorem inserted?_fullRow (hField : field ∈ entity.fields) :
    (field.inserted? entity.fullRow).isSome = field.insertable := by
  have hValue : entity.fullRow.get field.name = .bool true := by
    rw [Row.get, get?_fullRow hField]
    rfl
  rw [Bool.eq_iff_iff]
  refine ⟨insertable_of_inserted?, fun h => ?_⟩
  rw [Field.insertable, Bool.or_eq_true] at h
  rw [Field.inserted?, hValue]
  cases hDefault : field.insertDefault? with
  | some policy => cases policy <;> rfl
  | none =>
    rw [hDefault] at h
    rw [h.resolve_left Bool.false_ne_true]
    rfl

theorem updated?_fullRow (hField : field ∈ entity.fields) :
    (field.updated? entity.fullRow).isSome = field.changeable := by
  rw [Bool.eq_iff_iff]
  refine ⟨changeable_of_updated?, fun h => ?_⟩
  rw [Field.changeable, Bool.or_eq_true] at h
  rw [Field.updated?, get?_fullRow hField]
  split
  · rfl
  · rename_i hDefault
    rw [h.resolve_left hDefault]
    rfl

theorem columnsOf_sublist {p q : Field → Bool} (h : ∀ field, p field = true → q field = true) :
    (entity.columnsOf p).Sublist (entity.columnsOf q) := by
  have hFilter : (entity.writable.filter fun entry => p entry.1).Sublist
      (entity.writable.filter fun entry => q entry.1) :=
    List.monotone_filter_right _ fun entry => h entry.1
  exact hFilter.map _

theorem columnsOf_congr {p q : Field → Bool} (h : ∀ field ∈ entity.fields, p field = q field) :
    entity.columnsOf p = entity.columnsOf q := by
  refine congrArg (List.map _) (List.filter_congr fun entry hEntry => ?_)
  obtain ⟨field, column⟩ := entry
  exact h field (of_mem_writable hEntry).1

/-- An insert names no column twice, whatever the row, if and only if no two fields that it can
write have one column. The same holds of updates of an entity with a key; without one there are
none. -/
theorem column_written_once_iff {top model : Model} (hTop : top.Compiled)
    (hWithin : top.Within model) :
    ((∀ row, (model.entity.insert row).columns.Nodup) ↔
      (model.entity.columnsOf Field.insertable).Nodup) ∧
    ((∀ row u, model.entity.update row = .ok (some u) → (u.assignments.map (·.column)).Nodup) ↔
      (model.entity.Keyed → (model.entity.columnsOf Field.changeable).Nodup)) := by
  constructor
  · constructor
    · intro h
      have hFull := h model.entity.fullRow
      rwa [columns_insert, columnsOf_congr fun _ => inserted?_fullRow] at hFull
    · intro h row
      rw [columns_insert]
      exact h.sublist (columnsOf_sublist fun _ => insertable_of_inserted?)
  · constructor
    · intro h hKeyed
      obtain ⟨key, hKey⟩ := Option.ne_none_iff_exists'.mp hKeyed
      obtain ⟨column, hWritable⟩ := hTop.instanceKey hWithin hKey
      have hID : model.entity.fullRow.id = some (.bool true) := rfl
      have hFilter := keyFilter_eq_ok hKey (of_mem_writable hWritable).2 hID rfl
      have hColumns : (model.entity.columnsOf fun field =>
          (field.updated? model.entity.fullRow).isSome) = model.entity.columnsOf Field.changeable :=
        columnsOf_congr fun _ => updated?_fullRow
      by_cases hNone : model.entity.columnsOf Field.changeable = []
      · rw [hNone]
        exact List.nodup_nil
      · obtain ⟨u, hUpdate⟩ := exists_update hFilter (hColumns ▸ hNone)
        have hOnce := h _ u hUpdate
        rwa [columns_update hUpdate, hColumns] at hOnce
    · intro h row u hUpdate
      rw [columns_update hUpdate]
      exact (h (keyed_of_update hUpdate)).sublist
        (columnsOf_sublist fun _ => changeable_of_updated?)

namespace Labels

def table : Table where
  name := "Label"
  storageName := "label"
  columns := [{ name := "LabelID", storageName := "id" }, { name := "Text", storageName := "text" }]
  primaryKey := some "LabelID"

/-- Two fields show the text of a label, of which one may be for reading only. -/
def definition (updateable : Bool) : Definition := .node {
  name := some "Label"
  basisTable := some "Label"
  fields := [{ name := "LabelID", basisColumn := some "LabelID", updateable := false },
    { name := "Text", basisColumn := some "Text" },
    { name := "Caption", basisColumn := some "Text", updateable := updateable }] } []

def label (updateable : Bool) : Entity where
  name := "Label"
  basisTable := ⟨"Label", "label"⟩
  fields := [{ name := "LabelID", column := some ⟨"LabelID", "id"⟩, updateable := false },
    { name := "Text", column := some ⟨"Text", "text"⟩ },
    { name := "Caption", column := some ⟨"Text", "text"⟩, updateable := updateable }]
  key := some 0

theorem label_compiled (updateable : Bool) : (Model.node (label updateable) []).Compiled :=
  ⟨Catalog.ofTables [table], definition updateable, by cases updateable <;> rfl⟩

theorem readOnly_written_once :
    (Model.node (label false) []).Compiled ∧
    (Model.node (label false) []).Within (.node (label false) []) ∧
    (∀ row, ((label false).insert row).columns.Nodup) ∧
    ∀ row u, (label false).update row = .ok (some u) →
      (u.assignments.map (·.column)).Nodup := by
  obtain ⟨hInsert, hUpdate⟩ := column_written_once_iff (label_compiled false) .self
  exact ⟨label_compiled false, .self, hInsert.mpr (by decide), hUpdate.mpr fun _ => by decide⟩

/-- A row with a text and a caption. -/
def labelRow (id : Option Value) : Row where
  data := [("Text", .string "New"), ("Caption", .string "New")]
  id := id

theorem text_written_twice :
    (Model.node (label true) []).Compiled ∧
    ((label true).insert (labelRow none)).columns = ["text", "text"] ∧
    ¬((label true).insert (labelRow none)).columns.Nodup ∧
    ∃ u, (label true).update (labelRow (some (.int 7))) = .ok (some u) ∧
      u.assignments.map (·.column) = ["text", "text"] ∧
      ¬(u.assignments.map (·.column)).Nodup :=
  ⟨label_compiled true, rfl, by decide, _, rfl, rfl, by decide⟩

end Labels

end RowTree
