import RowTree.FilterText
import RowTree.Session
import RowTree.Statements.Query
import RowTree.KeyIndex

/-!
# Reading trees of rows

The rows of a model are read with one query. Then the rows of each child model
are read with one query for all parents together, and each is put under the
parents that it belongs to.
-/

namespace RowTree

open Schema Sql

def Schema.Entity.toRow (entity : Entity) (record : Record) : Row :=
  let booleans := entity.booleanFields.map (·.name)
  let data : Record := record.map fun entry =>
    if booleans.contains entry.1 then (entry.1, entry.2.toBool) else entry
  {
    data
    id := Value.present? (entity.instanceKey?.bind fun key => data.get? key.name)
    foreignKey := Value.present? (entity.parentLink.bind fun link => data.get? link.childField) }

/-- Keeps the first value of every key. A value without a key is left out. -/
def distinctValues (seen : List Key) : List Value → List Value
  | [] => []
  | v :: rest =>
    match v.key? with
    | none => distinctValues seen rest
    | some key =>
      if seen.contains key then distinctValues seen rest
      else v :: distinctValues (key :: seen) rest

def linkValues (parents : List Row) (field : String) : List Value :=
  distinctValues [] (parents.map (·.get field))

/-- Puts a row under the parents with its key. The index has the positions of the
parents' link values. -/
def attachRow (child : String) (link : ParentLink) (index : KeyIndex) (parents : List Row)
    (row : Row) : List Row :=
  match (row.get link.childField).key? with
  | some key =>
    (index.positions key).foldl (fun parents i => parents.modify i (·.addChildRow child row))
      parents
  | none => parents

/-- Puts rows under their parents, in place of the rows of the same model that were
there. A row that no parent has the key of is left out. -/
def attach (child : String) (link : ParentLink) (parents rows : List Row) : List Row :=
  let index := KeyIndex.ofValues (parents.map (·.get link.parentField))
  rows.foldl (attachRow child link index) (parents.map (·.setChildRows child []))

def linkColumn (entity : Entity) : Except Error (ParentLink × Expr) :=
  match entity.parentLink with
  | none => .error (.of (.definition entity.name .linklessChild))
  | some link =>
    match (entity.field? link.childField).bind Field.expr? with
    | none => .error (.of (.definition entity.name (.unboundLinkField link.childField)))
    | some column => .ok (link, column)

mutual

def readLevel (driver : Driver) (filter : Filter) (page : Option UInt64) :
    Model → Session (List Row)
  | .node entity children => do
    let reply ← driver.execute (.query (entity.query filter page))
    let records ← Session.ofExcept reply.toRecords
    let rows := records.map entity.toRow
    if rows.isEmpty then pure rows else readChildren driver rows children

/-- Reads the rows of each child model and puts them under the parents. There is
no query if no parent has a value to find children by. -/
def readChildren (driver : Driver) (parents : List Row) : List Model → Session (List Row)
  | [] => pure parents
  | child :: rest => do
    let (link, column) ← Session.ofExcept (linkColumn child.entity)
    let values := linkValues parents link.parentField
    let rows ←
      if values.isEmpty then pure []
      else readLevel driver ⟨some (.inList column (values.map .value))⟩ none child
    readChildren driver (attach child.name link parents rows) rest

end

/-- Reads the rows of a model that a filter text lets through. Nothing is
executed if the text cannot be read. Pages apply to the model itself and not to
its children. -/
def read (driver : Driver) (model : Model) (text : Option String) (page : Option UInt64) :
    Session (List Row) := do
  let filter ← Session.ofExcept <|
    match text with
    | some t => FilterText.read t model.entity.fields
    | none => .ok none
  readLevel driver ⟨filter⟩ page model

end RowTree
