import RowTree.Schema.Model

/-!
# The statements that write a row

An insert, an update and a delete for a row of an entity. Updates and deletes
find the row by its key. Only fields with a column on the basis table are
written.
-/

namespace RowTree.Schema

open Sql

namespace Field

def insertDefault? (field : Field) : Option ColumnDefault :=
  field.columnDefault.filter ColumnDefault.onInsert

/-- What an insert writes for the field: by its policy a temporary id or the
current time, even if it is not updateable; otherwise the row's value. A null
is not written. -/
def inserted? (row : Row) (field : Field) : Option Expr :=
  match field.insertDefault? with
  | some .guid => (Value.present? (row.tempId <|> some (row.get field.name))).map .value
  | some _ => some .now
  | none =>
    if field.updateable then (Value.present? (some (row.get field.name))).map .value else none

/-- What an update writes for the field: by its policy the current time;
otherwise the row's value if the row has one, a null too. -/
def updated? (row : Row) (field : Field) : Option Expr :=
  if field.columnDefault.any ColumnDefault.onUpdate then some .now
  else if field.updateable then (Entries.get? row.data field.name).map .value
  else none

end Field

namespace Entity

def writable (entity : Entity) : List (Field × String) :=
  (entity.fields.filter Field.onBasisTable).filterMap fun field =>
    field.storageName?.map (field, ·)

def missingKey (problem : KeyProblem) : Error := .of (.missingKey problem)

def keyFilter (entity : Entity) (row : Row) : Except Error Filter :=
  match entity.instanceKey? with
  | none => .error (missingKey (.noInstanceKey entity.name))
  | some key =>
    match Value.present? row.id with
    | none => .error (missingKey (.noId entity.name row.label))
    | some id =>
      match key.storageName? with
      | none => .error (missingKey (.noColumn key.name entity.name))
      | some column => .ok ⟨some (.compare .equal (.bareColumn column) (.value id))⟩

theorem keyFilter_eq_ok_iff {entity : Entity} {row : Row} {filter : Filter} :
    entity.keyFilter row = .ok filter ↔ ∃ key id column, entity.instanceKey? = some key ∧
      Value.present? row.id = some id ∧ key.storageName? = some column ∧
      filter = ⟨some (.compare .equal (.bareColumn column) (.value id))⟩ := by
  unfold keyFilter
  constructor
  · intro h
    split at h
    · cases h
    · rename_i key hKey
      split at h
      · cases h
      · rename_i id hId
        split at h
        · cases h
        · rename_i column hColumn
          cases h
          exact ⟨key, id, column, hKey, hId, hColumn, rfl⟩
  · rintro ⟨key, id, column, hKey, hId, hColumn, rfl⟩
    simp only [hKey, hId, hColumn]

def insert (entity : Entity) (row : Row) : Insert :=
  let pairs := entity.writable.filterMap fun entry =>
    (entry.1.inserted? row).map (entry.2, ·)
  { table := entity.basisTable.storageName
    columns := pairs.map (·.1)
    values := pairs.map (·.2) }

def update (entity : Entity) (row : Row) : Except Error (Option Update) := do
  let filter ← entity.keyFilter row
  let assignments := entity.writable.filterMap fun entry =>
    (entry.1.updated? row).map (⟨entry.2, ·⟩)
  if assignments.isEmpty then .ok none
  else .ok (some ⟨entity.basisTable.storageName, assignments, filter⟩)

def delete (entity : Entity) (row : Row) : Except Error Delete := do
  let filter ← entity.keyFilter row
  .ok ⟨entity.basisTable.storageName, filter⟩

end Entity

end RowTree.Schema
