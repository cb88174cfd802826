import RowTree.Proofs.Compiled
import RowTree.Session.Save

/-!
# What a save owes

The writes that are due for trees of rows, read off the trees alone: the
pending changes from the top down, and for a deleted row the rows under it from
the bottom up. Of a statement that is due, the trees leave open only the value
that an inserted row hands to the rows right under it.
-/

namespace RowTree

open Schema Sql

/-- Where a row stands: the name of its model and its number among its siblings,
and then the same of every row above it. -/
abbrev Place := List (String × Nat)

/-- The row at a place under a row above them all. -/
def rowAt? (root : Row) : Place → Option Row
  | [] => some root
  | (name, i) :: above => (rowAt? root above).bind fun row => (row.childRows? name).bind (·[i]?)

/-- A row with all rows of a model under it. -/
def rootOf (model : Model) (rows : List Row) : Row := { children := [(model.name, rows)] }

inductive WriteKind where
  | insert
  | update
  | delete
  deriving DecidableEq

structure Due where
  place : Place
  kind : WriteKind
  entity : Entity
  row : Row
  /-- What is due for the row right above, if that is an insert or an update. -/
  above : Option WriteKind

/-- The row with the value that its parent hands it, if there is a link for it. -/
def handed (link : Option ParentLink) (v : Value) (row : Row) : Row :=
  match link with
  | some link => stitchChild link v row
  | none => row

/-- Only inserted rows hand on their keys. -/
def handingLink (above : Option WriteKind) (entity : Entity) : Option ParentLink :=
  if above = some .insert then entity.parentLink else none

namespace Due

/-- The row as it is when it is written. -/
def written (due : Due) (v : Value) : Row :=
  handed (handingLink due.above due.entity) v due.row

/-- The statement that writes the row. There is none if an update has nothing to
write, and it cannot be made for a row without an id. -/
def statement (due : Due) (v : Value) : Except Error (Option Statement) :=
  match due.kind with
  | .insert => .ok (some (.insert (due.entity.insert (fillGuids due.entity (due.written v)))))
  | .update => (due.entity.update (due.written v)).map (·.map .update)
  | .delete => (due.entity.delete (due.written v)).map fun d => some (.delete d)

/-- The statement writes the row after some value was handed to it. -/
def WrittenAs (due : Due) (s : Statement) : Prop := ∃ v, due.statement v = .ok (some s)

/-- An update would write no column. Which value is handed to the row does not
matter for that. -/
def writesNothing (due : Due) : Bool :=
  due.entity.writable.all fun entry => (entry.1.updated? (due.written .null)).isNone

end Due

mutual

/-- The rows under a row go before it, but for those that were never written. -/
def deletions (place : Place) (above : Option WriteKind) (row : Row) : Model → List Due
  | .node entity children =>
    deletionsUnder place row children ++ [⟨place, .delete, entity, row, above⟩]

def deletionsUnder (place : Place) (row : Row) : List Model → List Due
  | [] => []
  | child :: rest =>
    (((row.childRows? child.name).getD []).zipIdx.flatMap fun entry =>
        if entry.1.isUnsaved then []
        else deletions ((child.name, entry.2) :: place) none entry.1 child)
      ++ deletionsUnder place row rest

end

/-- What is due for a row and the rows under it, if `under` says what is due for
those after a write of a kind or after none. -/
def rowDues (place : Place) (above : Option WriteKind) (row : Row) (model : Model)
    (under : Option WriteKind → List Due) : List Due :=
  match row.state with
  | some .inserted => ⟨place, .insert, model.entity, row, above⟩ :: under (some .insert)
  | some .updated =>
    let due : Due := ⟨place, .update, model.entity, row, above⟩
    if due.writesNothing then under none else due :: under (some .update)
  | some .deleted => deletions place above row model
  | none => under none

mutual

def duesOf (place : Place) (above : Option WriteKind) (rows : List Row) : Model → List Due
  | .node entity children =>
    rows.zipIdx.flatMap fun entry =>
      let here := (entity.name, entry.2) :: place
      rowDues here above entry.1 (.node entity children) (childDues here · entry.1 children)

def childDues (place : Place) (above : Option WriteKind) (row : Row) : List Model → List Due
  | [] => []
  | child :: rest =>
    duesOf place above ((row.childRows? child.name).getD []) child
      ++ childDues place above row rest

end

def dues (model : Model) (rows : List Row) : List Due := duesOf [] none rows model

end RowTree
