import RowTree.Proofs.KeyCheck
import RowTree.Proofs.Keys
import RowTree.Proofs.Subtrees
import Mathlib.Logic.Function.Basic

/-!
# What is written is read back

A stored record has a value in every column. An update puts the values of its assignments into it,
an insert puts its values into an empty one, and a query reads the columns of its items. The
entities of a compiled model write and read the same columns for a field, so that a row that was
read after a write has the values that were written.
-/

namespace RowTree

open Schema Sql Compile

/-- The value in every column of the basis table. -/
abbrev Stored := String → Value

namespace Stored

def empty : Stored := fun _ => .null

/-- Puts values into columns, one after the other. -/
def put (stored : Stored) (pairs : List (String × Value)) : Stored :=
  pairs.foldl (fun record pair => Function.update record pair.1 pair.2) stored

/-- A column gets the value of its pairs if all of these have one value. -/
theorem put_eq {column : String} {v : Value} {pairs : List (String × Value)} {stored : Stored}
    (hAll : ∀ w, (column, w) ∈ pairs → w = v)
    (hSome : (∃ w, (column, w) ∈ pairs) ∨ stored column = v) : stored.put pairs column = v := by
  induction pairs generalizing stored with
  | nil =>
    rcases hSome with ⟨_, hNone⟩ | hStored
    · cases hNone
    · exact hStored
  | cons pair pairs ih =>
    obtain ⟨other, w⟩ := pair
    refine ih (fun w hw => hAll w (List.mem_cons_of_mem _ hw)) ?_
    by_cases hOther : column = other
    · subst hOther
      exact .inr ((Function.update_self column w stored).trans (hAll w List.mem_cons_self))
    · rcases hSome with ⟨found, hFound⟩ | hStored
      · rcases List.mem_cons.mp hFound with hSame | hLater
        · exact absurd (congrArg Prod.fst hSame) hOther
        · exact .inl ⟨found, hLater⟩
      · exact .inr ((Function.update_of_ne hOther w stored).trans hStored)

end Stored

namespace Sql

/-- The value of an expression over a stored record. Rows are written and read with values, the
current time and columns of the basis table only. -/
def Expr.over (now : Value) (stored : Stored) : Expr → Value
  | .value v => v
  | .now => now
  | .column (some 0) name => stored name
  | _ => .null

def Update.apply (now : Value) (u : Update) (stored : Stored) : Stored :=
  stored.put (u.assignments.map fun a => (a.column, a.expr.over now stored))

/-- The record that an insert makes. -/
def Insert.record (now : Value) (i : Insert) : Stored :=
  Stored.empty.put (i.pairs.map fun pair => (pair.1, pair.2.over now .empty))

/-- What a query reads from a stored record, if it selects items. -/
def Query.project (now : Value) (q : Query) (stored : Stored) : Option Record :=
  q.items.map fun items => items.map fun item => (item.name, item.expr.over now stored)

end Sql

/-- A stored record after an update, if there is one. -/
def afterUpdate (now : Value) (u? : Option Update) (stored : Stored) : Stored :=
  (u?.map (·.apply now stored)).getD stored

/-- The row that a query of the entity reads from a stored record. -/
def Schema.Entity.readBack (entity : Entity) (now : Value) (filter : Filter)
    (page : Option UInt64) (stored : Stored) : Option Row :=
  ((entity.query filter page).project now stored).map entity.toRow

/-- A value as it is read for the field. -/
def Schema.Field.readsAs (field : Field) (v : Value) : Value :=
  if field.isBoolean then v.toBool else v

section Writing

variable {entity : Entity} {now : Value} {stored : Stored}

/-- The columns in which fields are written, with the values of what is chosen for these. -/
def written (entity : Entity) (now : Value) (stored : Stored) (chosen : Field → Option Expr) :
    List (String × Value) :=
  entity.writable.filterMap fun entry => (chosen entry.1).map fun e => (entry.2, e.over now stored)

theorem eq_of_storageName? (hColumns : (entity.fields.filterMap Field.storageName?).Nodup)
    {field other : Field} (hField : field ∈ entity.fields) (hOther : other ∈ entity.fields)
    {column : String} (hColumn : field.storageName? = some column)
    (hSame : other.storageName? = some column) : other = field := by
  by_contra hNe
  have hApart := List.pairwise_filterMap.mp hColumns
  have hSymm : Std.Symm fun a b : Field => ∀ x, a.storageName? = some x →
      ∀ y, b.storageName? = some y → x ≠ y := ⟨fun _ _ h y hy x hx => (h x hx y hy).symm⟩
  exact hApart.forall hOther hField hNe column hSame column hColumn rfl

theorem mem_written {chosen : Field → Option Expr} {column : String} {v : Value} :
    (column, v) ∈ written entity now stored chosen ↔
      ∃ field e, (field, column) ∈ entity.writable ∧ chosen field = some e ∧
        e.over now stored = v := by
  rw [written, List.mem_filterMap]
  constructor
  · rintro ⟨⟨field, _⟩, hWritable, hPair⟩
    obtain ⟨e, hChosen, hPair⟩ := Option.map_eq_some_iff.mp hPair
    cases hPair
    exact ⟨field, e, hWritable, hChosen, rfl⟩
  · rintro ⟨field, e, hWritable, hChosen, rfl⟩
    exact ⟨(field, column), hWritable, by rw [hChosen, Option.map_some]⟩

theorem of_mem_writable {field : Field} {column : String} (h : (field, column) ∈ entity.writable) :
    field ∈ entity.fields ∧ field.storageName? = some column := by
  obtain ⟨other, hOther, hPair⟩ := List.mem_filterMap.mp h
  obtain ⟨name, hName, hPair⟩ := Option.map_eq_some_iff.mp hPair
  cases hPair
  exact ⟨(List.mem_filter.mp hOther).1, hName⟩

/-- In the column of a field nothing is written but that field. -/
theorem put_written (hColumns : (entity.fields.filterMap Field.storageName?).Nodup)
    {field : Field} (hField : field ∈ entity.fields) (hBasis : field.onBasisTable = true)
    {column : String} (hColumn : field.storageName? = some column)
    (chosen : Field → Option Expr) (before : Stored) :
    before.put (written entity now stored chosen) column =
      ((chosen field).map (·.over now stored)).getD (before column) := by
  apply Stored.put_eq
  · intro w hWritten
    obtain ⟨other, e, hWritable, hChosen, rfl⟩ := mem_written.mp hWritten
    obtain ⟨hOther, hSame⟩ := of_mem_writable hWritable
    rw [← eq_of_storageName? hColumns hField hOther hColumn hSame, hChosen]
    rfl
  · cases hChosen : chosen field with
    | none => exact .inr rfl
    | some e =>
      have hWritable := mem_writable hField hBasis hColumn
      exact .inl ⟨_, mem_written.mpr ⟨field, e, hWritable, hChosen, rfl⟩⟩

theorem updated?_eq {field : Field} (hDefault : field.columnDefault ≠ some .updatedDate)
    (row : Row) :
    field.updated? row =
      if field.updateable then (Entries.get? row.data field.name).map .value else none := by
  have hNotNow : field.columnDefault.any ColumnDefault.onUpdate = false := by
    rcases h : field.columnDefault with _ | (_ | _ | _ | _)
    case some.updatedDate => exact absurd h hDefault
    all_goals rfl
  rw [Field.updated?, hNotNow]
  exact if_neg Bool.false_ne_true

/-- A null is not written, and a column that is not written is null. -/
theorem getD_inserted? {field : Field} (hUpdateable : field.updateable = true)
    (hDefault : field.insertDefault? = none) (row : Row) :
    ((field.inserted? row).map (·.over now stored)).getD .null = row.get field.name := by
  rw [Field.inserted?, hDefault]
  dsimp only
  rw [if_pos hUpdateable]
  cases hValue : row.get field.name <;> rfl

theorem record_insert (row : Row) :
    (entity.insert row).record now =
      Stored.empty.put (written entity now .empty (·.inserted? row)) := by
  rw [Insert.record, pairs_insert, List.map_filterMap, written]
  simp only [Option.map_map]
  rfl

theorem keyFilter_eq_ok {key : Field} (hKey : entity.instanceKey? = some key) {column : String}
    (hColumn : key.storageName? = some column) {row : Row} {id : Value} (hID : row.id = some id)
    (hNull : id.isNull = false) :
    entity.keyFilter row = .ok ⟨some (.compare .equal (.bareColumn column) (.value id))⟩ :=
  Entity.keyFilter_eq_ok_iff.mpr
    ⟨key, id, column, hKey, present?_eq_some.mpr ⟨hID, hNull⟩, hColumn, rfl⟩

theorem update_eq_ok (now : Value) (stored : Stored) {row : Row} {filter : Filter}
    (h : entity.keyFilter row = .ok filter) :
    ∃ u?, entity.update row = .ok u? ∧
      afterUpdate now u? stored = stored.put (written entity now stored (·.updated? row)) := by
  let assignments := entity.writable.filterMap fun entry =>
    (entry.1.updated? row).map (Assignment.mk entry.2)
  have hWritten : written entity now stored (·.updated? row) =
      assignments.map fun a => (a.column, a.expr.over now stored) := by
    rw [List.map_filterMap, written]
    simp only [Option.map_map]
    rfl
  rw [hWritten]
  by_cases hEmpty : assignments.isEmpty = true
  · refine ⟨none, Outcome.bind_eq_ok.mpr ⟨filter, h, if_pos hEmpty⟩, ?_⟩
    rw [List.isEmpty_iff.mp hEmpty]
    rfl
  · exact ⟨_, Outcome.bind_eq_ok.mpr ⟨filter, h, if_neg hEmpty⟩, rfl⟩

end Writing

section Reading

variable {entity : Entity}

theorem get?_map (f : String → Value → Value) (record : Record) (name : String) :
    Entries.get? (record.map fun entry => (entry.1, f entry.1 entry.2)) name =
      (Entries.get? record name).map (f name) := by
  induction record with
  | nil => rfl
  | cons entry rest ih =>
    obtain ⟨key, v⟩ := entry
    rw [List.map_cons, Entries.get?, Entries.get?]
    split
    · rename_i hKey
      rw [hKey, Option.map_some]
    · exact ih

theorem contains_booleanFields (hNames : (entity.fields.map (·.name)).Nodup) {field : Field}
    (hField : field ∈ entity.fields) :
    (entity.booleanFields.map (·.name)).contains field.name = field.isBoolean := by
  rw [Bool.eq_iff_iff, List.contains_iff_mem]
  constructor
  · intro hMem
    obtain ⟨other, hOther, hName⟩ := List.mem_map.mp hMem
    obtain ⟨hOther, hBoolean⟩ := List.mem_filter.mp hOther
    rwa [eq_of_name hNames hField hOther hName] at hBoolean
  · intro hBoolean
    exact List.mem_map_of_mem (List.mem_filter.mpr ⟨hField, hBoolean⟩)

theorem get?_toRow (hNames : (entity.fields.map (·.name)).Nodup) {field : Field}
    (hField : field ∈ entity.fields) (record : Record) :
    Entries.get? (entity.toRow record).data field.name =
      (Entries.get? record field.name).map field.readsAs := by
  let booleans := entity.booleanFields.map (·.name)
  have hData : (entity.toRow record).data = record.map fun entry =>
      (entry.1, if booleans.contains entry.1 then entry.2.toBool else entry.2) := by
    refine List.map_congr_left fun entry _ => ?_
    split <;> rfl
  rw [hData, get?_map fun name v => if booleans.contains name then v.toBool else v,
    contains_booleanFields hNames hField]
  rfl

/-- The columns of fields under the names of these. -/
def recordOf (fields : List Field) (stored : Stored) : Record :=
  fields.filterMap fun field => field.storageName?.map fun column => (field.name, stored column)

theorem get?_recordOf {fields : List Field} (hNames : (fields.map (·.name)).Nodup) {field : Field}
    (hField : field ∈ fields) {column : String} (hColumn : field.storageName? = some column)
    (stored : Stored) :
    Entries.get? (recordOf fields stored) field.name = some (stored column) := by
  induction fields with
  | nil => cases hField
  | cons first rest ih =>
    rw [List.map_cons, List.nodup_cons] at hNames
    rw [recordOf, List.filterMap_cons]
    rcases List.mem_cons.mp hField with rfl | hField
    · rw [hColumn]
      exact if_pos rfl
    · have hNe : first.name ≠ field.name :=
        fun hSame => hNames.1 (hSame ▸ List.mem_map_of_mem hField)
      cases first.storageName? with
      | none => exact ih hNames.2 hField
      | some other => exact (if_neg hNe).trans (ih hNames.2 hField)

theorem project_query (hBasis : ∀ field ∈ entity.fields, field.onBasisTable = true)
    {field : Field} (hField : field ∈ entity.fields) {column : String}
    (hColumn : field.storageName? = some column) (now : Value) (filter : Filter)
    (page : Option UInt64) (stored : Stored) :
    (entity.query filter page).project now stored = some (recordOf entity.fields stored) := by
  have hItem : ⟨.columnOf field.step column, field.name⟩ ∈
      entity.fields.filterMap Field.selectItem? := by
    refine List.mem_filterMap.mpr ⟨field, hField, ?_⟩
    rw [Field.selectItem?, Field.expr?, hColumn]
    rfl
  rw [Query.project, Entity.query]
  dsimp only
  rw [if_neg (List.isEmpty_iff.not.mpr (List.ne_nil_of_mem hItem)), Option.map_some,
    List.map_filterMap, recordOf]
  refine congrArg some (List.filterMap_congr fun other hOther => ?_)
  have hStep : other.step = 0 := beq_iff_eq.mp (hBasis other hOther)
  rw [Field.selectItem?, Field.expr?, hStep, Option.map_map, Option.map_map]
  rfl

end Reading

section Compiled

variable {top model : Model} (hTop : top.Compiled) (hWithin : top.Within model)
include hTop hWithin

/-- Without steps all fields stand on the basis table. -/
theorem Schema.Model.Compiled.onBasisTable (hSteps : model.entity.steps = []) :
    ∀ field ∈ model.entity.fields, field.onBasisTable = true := by
  obtain ⟨_, _, _, scope, _, _, hBound, hEntity⟩ := hTop.exists_entityBound hWithin
  rw [hEntity] at hSteps ⊢
  have hNone : scope.joined = [] :=
    List.map_eq_nil_iff.mp ((congrArg Entity.steps hBound.entity_eq).symm.trans hSteps)
  intro field hField
  obtain ⟨definition, _, _, index, table, column, hSource, _, rfl⟩ :=
    Outcome.exists_of_mem_left hBound.fields.flip hField
  cases hStep : definition.step with
  | none =>
    rw [hStep] at hSource
    cases hSource
    rfl
  | some name =>
    rw [hStep, Compile.Scope.source?, hNone] at hSource
    cases hSource

/-- The key has a column on the basis table. -/
theorem Schema.Model.Compiled.instanceKey {key : Field}
    (hKey : model.entity.instanceKey? = some key) :
    ∃ column, (key, column) ∈ model.entity.writable := by
  obtain ⟨_, _, _, scope, _, _, hBound, hEntity⟩ := hTop.exists_entityBound hWithin
  rw [hEntity] at hKey ⊢
  obtain ⟨i, hPosition, hAt⟩ := Option.bind_eq_some_iff.mp hKey
  obtain ⟨held, _, hFound⟩ := Option.bind_eq_some_iff.mp
    ((congrArg Entity.key hBound.entity_eq).symm.trans hPosition)
  obtain ⟨hLength, hHolds, _⟩ := List.findIdx?_eq_some_iff_getElem.mp hFound
  obtain ⟨_, hIs⟩ := List.getElem?_eq_some_iff.mp hAt
  rw [hIs, Bool.and_eq_true] at hHolds
  cases hColumn : key.column with
  | none =>
    rw [hColumn] at hHolds
    cases hHolds.2
  | some bound =>
    refine ⟨bound.storageName, mem_writable (List.mem_of_getElem? hAt) hHolds.1 ?_⟩
    rw [Field.storageName?, hColumn, Option.map_some]

/-- A field with a column is read back as what the column holds. -/
theorem exists_readBack (hSteps : model.entity.steps = []) {key : Field}
    (hKey : model.entity.instanceKey? = some key) (now : Value) (filter : Filter)
    (page : Option UInt64) (stored : Stored) :
    ∃ back, model.entity.readBack now filter page stored = some back ∧
      ∀ field ∈ model.entity.fields, ∀ column, field.storageName? = some column →
        Entries.get? back.data field.name = some (field.readsAs (stored column)) := by
  have hNames := (hTop.wellFormed.within hWithin).fields
  have hBasis := hTop.onBasisTable hWithin hSteps
  obtain ⟨column, hWritable⟩ := hTop.instanceKey hWithin hKey
  obtain ⟨hMem, hColumn⟩ := of_mem_writable hWritable
  refine ⟨_, congrArg _ (project_query hBasis hMem hColumn now filter page stored), ?_⟩
  intro field hField column hColumn
  rw [get?_toRow hNames hField, get?_recordOf hNames hField hColumn, Option.map_some]

/-- After an update of a stored record a row is read that has the values of the updating row in the
fields that are written and that of the record in the others. After an insert it has the values of
the inserted row. -/
theorem written_is_read_back (hKeyed : model.entity.Keyed) (hSteps : model.entity.steps = [])
    (hColumns : (model.entity.fields.filterMap Field.storageName?).Nodup)
    (now : Value) (filter : Filter) (page : Option UInt64) :
    (∀ (stored : Stored) (row : Row) (id : Value), row.id = some id → id.isNull = false →
      ∃ u? back, model.entity.update row = .ok u? ∧
        model.entity.readBack now filter page (afterUpdate now u? stored) = some back ∧
        ∀ field ∈ model.entity.fields, ∀ column, field.storageName? = some column →
          field.columnDefault ≠ some .updatedDate →
          (∀ v, field.updateable = true → Entries.get? row.data field.name = some v →
            Entries.get? back.data field.name = some (field.readsAs v)) ∧
          ((field.updateable = false ∨ Entries.get? row.data field.name = none) →
            Entries.get? back.data field.name = some (field.readsAs (stored column)))) ∧
    ∀ row : Row, ∃ back,
      model.entity.readBack now filter page ((model.entity.insert row).record now) = some back ∧
        ∀ field ∈ model.entity.fields, ∀ column, field.storageName? = some column →
          field.updateable = true → field.insertDefault? = none →
          Entries.get? back.data field.name = some (field.readsAs (row.get field.name)) := by
  obtain ⟨key, hKey⟩ := Option.ne_none_iff_exists'.mp hKeyed
  have hBasis := hTop.onBasisTable hWithin hSteps
  constructor
  · intro stored row id hID hNull
    obtain ⟨_, hWritable⟩ := hTop.instanceKey hWithin hKey
    have hFilter := keyFilter_eq_ok hKey (of_mem_writable hWritable).2 hID hNull
    obtain ⟨u?, hUpdate, hAfter⟩ := update_eq_ok now stored hFilter
    obtain ⟨back, hBack, hData⟩ := exists_readBack hTop hWithin hSteps hKey now filter page
      (afterUpdate now u? stored)
    refine ⟨u?, back, hUpdate, hBack, ?_⟩
    intro field hField column hColumn hDefault
    have hRead := hData field hField column hColumn
    rw [hAfter, put_written hColumns hField (hBasis field hField) hColumn,
      updated?_eq hDefault] at hRead
    constructor
    · intro v hUpdateable hValue
      rw [if_pos hUpdateable, hValue] at hRead
      exact hRead
    · rintro (hFixed | hAbsent)
      · rw [hFixed, if_neg Bool.false_ne_true] at hRead
        exact hRead
      · rw [hAbsent, Option.map_none, ite_self] at hRead
        exact hRead
  · intro row
    obtain ⟨back, hBack, hData⟩ := exists_readBack hTop hWithin hSteps hKey now filter page
      ((model.entity.insert row).record now)
    refine ⟨back, hBack, ?_⟩
    intro field hField column hColumn hUpdateable hDefault
    have hRead := hData field hField column hColumn
    rw [record_insert, put_written hColumns hField (hBasis field hField) hColumn] at hRead
    -- The record before an insert is null in every column.
    change _ = some (field.readsAs (Option.getD _ .null)) at hRead
    rwa [getD_inserted? hUpdateable hDefault] at hRead

end Compiled

namespace Tasks

def table : Table where
  name := "Task"
  storageName := "task"
  columns := [
    { name := "TaskID", storageName := "id" },
    { name := "Title", storageName := "title" },
    { name := "Done", storageName := "is_done", dataType := some .boolean },
    { name := "Owner", storageName := "owner" },
    { name := "Changed", storageName := "changed_at", columnDefault := some .updatedDate }]
  primaryKey := some "TaskID"

/-- A task keeps its owner. -/
def definition : Definition := .node {
  name := some "Task"
  basisTable := some "Task"
  fields := table.columns.map fun column =>
    { name := column.name, basisColumn := some column.name,
      updateable := column.name != "Owner" } } []

def title : Field := { name := "Title", column := some ⟨"Title", "title"⟩ }

def done : Field where
  name := "Done"
  column := some ⟨"Done", "is_done"⟩
  dataType := some .boolean

def owner : Field := { name := "Owner", column := some ⟨"Owner", "owner"⟩, updateable := false }

def task : Entity where
  name := "Task"
  basisTable := ⟨"Task", "task"⟩
  fields := [
    { name := "TaskID", column := some ⟨"TaskID", "id"⟩ }, title, done, owner,
    { name := "Changed", column := some ⟨"Changed", "changed_at"⟩,
      columnDefault := some .updatedDate }]
  key := some 0

def model : Model := .node task []

theorem model_compiled : model.Compiled :=
  ⟨Catalog.ofTables [table], definition, rfl⟩

def filed : Stored
  | "id" => .int 7
  | "title" => .string "Sweep"
  | "is_done" => .int 0
  | "owner" => .string "Ada"
  | _ => .null

/-- Takes the title from the task and tries to give it to someone else. -/
def finished : Row where
  id := some (.int 7)
  data := [("Title", .null), ("Done", .int 1), ("Owner", .string "Bo")]

/-- What the row says is read after an update, but the owner stays. A task that is inserted from
it has no title. -/
theorem finished_is_read_back :
    model.Compiled ∧ model.Within model ∧ task.Keyed ∧ task.steps = [] ∧
      (task.fields.filterMap Field.storageName?).Nodup ∧
      (∃ u? back, task.update finished = .ok u? ∧
        task.readBack (.string "today") {} none (afterUpdate (.string "today") u? filed) =
          some back ∧
        Entries.get? back.data "Title" = some .null ∧
        Entries.get? back.data "Done" = some (.bool true) ∧
        Entries.get? back.data "Owner" = some (.string "Ada")) ∧
      ∃ back, task.readBack (.string "today") {} none
          ((task.insert finished).record (.string "today")) = some back ∧
        Entries.get? back.data "Title" = some .null ∧
        Entries.get? back.data "Done" = some (.bool true) := by
  have hColumns : (task.fields.filterMap Field.storageName?).Nodup := by decide
  have hTitle : title ∈ task.fields := by decide
  have hDone : done ∈ task.fields := by decide
  have hOwner : owner ∈ task.fields := by decide
  obtain ⟨hUpdate, hInsert⟩ :=
    written_is_read_back model_compiled .self nofun rfl hColumns (.string "today") {} none
  obtain ⟨u?, back, hWritten, hBack, hData⟩ := hUpdate filed finished (.int 7) rfl rfl
  obtain ⟨new, hNew, hNewData⟩ := hInsert finished
  refine ⟨model_compiled, .self, nofun, rfl, hColumns, ⟨u?, back, hWritten, hBack, ?_, ?_, ?_⟩,
    new, hNew, ?_, ?_⟩
  · exact (hData title hTitle "title" rfl nofun).1 .null rfl rfl
  · exact (hData done hDone "is_done" rfl nofun).1 (.int 1) rfl rfl
  · exact (hData owner hOwner "owner" rfl nofun).2 (.inl rfl)
  · exact hNewData title hTitle "title" rfl rfl rfl
  · exact hNewData done hDone "is_done" rfl rfl rfl

end Tasks

end RowTree
