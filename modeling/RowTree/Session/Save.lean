import RowTree.Session
import RowTree.Statements.Write

/-!
# Saving trees of rows

Every row is saved by itself: first its own change, then the rows under it,
child model by child model. A row that fails does not keep its siblings from
being saved; the error counts the failures and has the first as its cause.
A deleted row takes all rows under it with it, the lowest first. The statements
come from builders; a save uses those of the entities themselves.
-/

namespace RowTree

open Schema Sql

def requireKey (entity : Entity) : Except Error Unit :=
  match entity.instanceKey? with
  | some _ => .ok ()
  | none => .error (.of (.missingKey (.noInstanceKey entity.name)))

mutual

/-- Checks that all rows that will be written are of entities with a key. Below
a deleted row that is every row which was ever written. -/
def checkKeys (cascading : Bool) (rows : List Row) : Model → Except Error Unit
  | .node entity children =>
    rows.forM fun row =>
      if cascading && row.isUnsaved then .ok ()
      else do
        if cascading || row.state.isSome then requireKey entity
        checkChildKeys (cascading || row.state == some .deleted) row children

def checkChildKeys (cascading : Bool) (row : Row) : List Model → Except Error Unit
  | [] => .ok ()
  | child :: rest => do
    checkKeys cascading ((row.childRows? child.name).getD []) child
    checkChildKeys cascading row rest

end

/-- A delete must touch one record. -/
def checkDeleted (entity : Entity) (row : Row) (reply : Reply) : Except Error Unit := do
  let count ← reply.toCount
  if count = 1 then .ok ()
  else .error (.of (.recordCount (.deleted entity.name row.label count.toNat)))

/-- Copies a temporary id into the fields that take it as their value. -/
def fillGuids (entity : Entity) (row : Row) : Row :=
  match row.tempId with
  | none => row
  | some tempId =>
    (entity.fields.filter fun f => f.onBasisTable && f.columnDefault == some .guid).foldl
      (fun row field => row.setData field.name tempId) row

/-- Gives an inserted row its id: the key that the database assigned, which is
also put into the key field, or else its temporary id. -/
def assignId (entity : Entity) (row : Row) (reply : Reply) : Row :=
  match reply.lastId? with
  | some key =>
    let id := Value.ofUInt64 key
    let row := match entity.instanceKey? with
      | some field => row.setData field.name id
      | none => row
    { row with id := some id }
  | none => { row with id := row.tempId }

/-- The value by which children of a row are found: that of the link's parent
field, or the row's id if that field is the instance key and has none. -/
def linkValue (entity : Entity) (row : Row) (link : ParentLink) : Value :=
  let value := row.get link.parentField
  if value.isNull && entity.instanceKey?.any (·.name == link.parentField) then
    Value.ofOption row.id
  else value

def stitchChild (link : ParentLink) (value : Value) (child : Row) : Row :=
  { child.setData link.childField value with foreignKey := Value.present? (some value) }

def stitch (entity : Entity) (row : Row) (children : List Entity) : Row :=
  children.foldl (fun row child =>
    match child.parentLink, row.childRows? child.name with
    | some link, some rows =>
      row.setChildRows child.name (rows.map (stitchChild link (linkValue entity row link)))
    | _, _ => row) row

def isFailure {α : Type} : Except Error α → Bool
  | .error _ => true
  | .ok _ => false

/-- The saved rows if all were saved, or else the first error under a summary. -/
def settle (entity : Entity) (results : List (Except Error Row)) : Except Error (List Row) :=
  (results.mapM id).mapError
    (·.within (.saveFailed entity.name (results.countP isFailure) results.length))

/-- What makes the statements that write a row. -/
structure Builders where
  insert : Entity → Row → Insert
  update : Entity → Row → Except Error (Option Update)
  delete : Entity → Row → Except Error Delete

namespace Builders

/-- The statements that an entity itself has for its rows. -/
def own : Builders := ⟨Entity.insert, Entity.update, Entity.delete⟩

variable (builders : Builders) (driver : Driver)

mutual

/-- Deletes a row after all rows under it. Its own statement is made first, so
that nothing is deleted below a row that cannot be. -/
def deleteRow (row : Row) : Model → Session Row
  | .node entity children => do
    let statement ← Session.ofExcept (builders.delete entity row)
    let saved ← deleteChildren row children
    let reply ← driver.execute (.delete statement)
    Session.ofExcept (checkDeleted entity row reply)
    pure { saved with state := none }

/-- Deletes the rows under a row whatever their state, but for those that were
never written. -/
def deleteChildren (row : Row) : List Model → Session Row
  | [] => pure row
  | child :: rest =>
    match row.childRows? child.name with
    | none => deleteChildren row rest
    | some rows => do
      let saved ← rows.mapM fun r => if r.isUnsaved then pure r else deleteRow r child
      deleteChildren (row.setChildRows child.name saved) rest

end

def insertRow (entity : Entity) (row : Row) : Session Row := do
  let row := fillGuids entity row
  let reply ← driver.execute (.insert (builders.insert entity row))
  pure { assignId entity row reply with state := none }

/-- An update may touch any number of records, and there may be nothing to write. -/
def updateRow (entity : Entity) (row : Row) : Session Row := do
  match ← Session.ofExcept (builders.update entity row) with
  | none => pure { row with state := none }
  | some statement => do
    let reply ← driver.execute (.update statement)
    let _ ← Session.ofExcept reply.toCount
    pure { row with state := none }

mutual

def saveRows (rows : List Row) : Model → Session (List Row)
  | .node entity children => do
    let results ← rows.mapM fun row =>
      let saved : Session Row :=
        match row.state with
        | some .inserted => do
          let row ← builders.insertRow driver entity row
          saveChildren (stitch entity row (children.map Model.entity)) children
        | some .updated => do
          let row ← builders.updateRow driver entity row
          saveChildren row children
        | some .deleted => builders.deleteRow driver row (.node entity children)
        | none => saveChildren row children
      (saved.within (.remark (.savingRow row.state entity.name row.label))).attempt
    Session.ofExcept (settle entity results)

/-- Saves the rows under a row, and stops at the first child model that fails. -/
def saveChildren (row : Row) : List Model → Session Row
  | [] => pure row
  | child :: rest =>
    match row.childRows? child.name with
    | none | some [] => saveChildren row rest
    | some (first :: others) => do
      let saved ← saveRows (first :: others) child
      saveChildren (row.setChildRows child.name saved) rest

end

/-- Saves the pending changes of rows and of all rows under them. Nothing is
executed if a row that will be written has no key to find it by. -/
def save (model : Model) (rows : List Row) : Session (List Row) := do
  Session.ofExcept (requireKey model.entity)
  Session.ofExcept (checkKeys false rows model)
  builders.saveRows driver rows model

end Builders

variable (driver : Driver)

def deleteRow (row : Row) (model : Model) : Session Row :=
  Builders.own.deleteRow driver row model

def deleteChildren (row : Row) (children : List Model) : Session Row :=
  Builders.own.deleteChildren driver row children

def insertRow (entity : Entity) (row : Row) : Session Row :=
  Builders.own.insertRow driver entity row

def updateRow (entity : Entity) (row : Row) : Session Row :=
  Builders.own.updateRow driver entity row

def saveRows (rows : List Row) (model : Model) : Session (List Row) :=
  Builders.own.saveRows driver rows model

def saveChildren (row : Row) (children : List Model) : Session Row :=
  Builders.own.saveChildren driver row children

def save (model : Model) (rows : List Row) : Session (List Row) :=
  Builders.own.save driver model rows

section

variable (row : Row) (entity : Entity) (child : Model) (children rest : List Model)

theorem deleteRow_node : deleteRow driver row (.node entity children) = (do
    let statement ← Session.ofExcept (entity.delete row)
    let saved ← deleteChildren driver row children
    let reply ← driver.execute (.delete statement)
    Session.ofExcept (checkDeleted entity row reply)
    pure { saved with state := none }) := by
  rw [deleteRow, Builders.deleteRow]
  rfl

theorem deleteChildren_nil : deleteChildren driver row [] = pure row := by
  rw [deleteChildren, Builders.deleteChildren]

theorem deleteChildren_cons : deleteChildren driver row (child :: rest) =
    (match row.childRows? child.name with
    | none => deleteChildren driver row rest
    | some rows => do
      let saved ← rows.mapM fun r => if r.isUnsaved then pure r else deleteRow driver r child
      deleteChildren driver (row.setChildRows child.name saved) rest) := by
  rw [deleteChildren, Builders.deleteChildren]
  rfl

theorem updateRow_eq : updateRow driver entity row = (do
    match ← Session.ofExcept (entity.update row) with
    | none => pure { row with state := none }
    | some statement => do
      let reply ← driver.execute (.update statement)
      let _ ← Session.ofExcept reply.toCount
      pure { row with state := none }) := rfl

theorem saveChildren_nil : saveChildren driver row [] = pure row := by
  rw [saveChildren, Builders.saveChildren]

theorem saveChildren_cons : saveChildren driver row (child :: rest) =
    (match row.childRows? child.name with
    | none | some [] => saveChildren driver row rest
    | some (first :: others) => do
      let saved ← saveRows driver (first :: others) child
      saveChildren driver (row.setChildRows child.name saved) rest) := by
  rw [saveChildren, Builders.saveChildren]
  rfl

end

theorem save_eq (model : Model) (rows : List Row) : save driver model rows = (do
    Session.ofExcept (requireKey model.entity)
    Session.ofExcept (checkKeys false rows model)
    saveRows driver rows model) := rfl

end RowTree
