import RowTree.Value

/-!
# Rows

A row of a tree: its data by field name, the change that is pending on it, the
values that tell it apart, and the rows under it by the name of their model.
-/

namespace RowTree

inductive RowState where
  | inserted
  | updated
  | deleted
  deriving DecidableEq

def RowState.word : RowState → String
  | inserted => "INSERTED"
  | updated => "UPDATED"
  | deleted => "DELETED"

structure Row where
  data : List (String × Value) := []
  /-- The value of the model's instance key. -/
  id : Option Value := none
  /-- The value of the field that links the row to its parent. -/
  foreignKey : Option Value := none
  state : Option RowState := none
  /-- What a client calls a row that has no key yet. -/
  tempId : Option Value := none
  children : List (String × List Row) := []

namespace Row

instance : Inhabited Row := ⟨⟨[], none, none, none, none, []⟩⟩

/-- The value of a field, null if the row has none. -/
def get (row : Row) (field : String) : Value := Value.ofOption (Entries.get? row.data field)

def setData (row : Row) (field : String) (value : Value) : Row :=
  { row with data := Entries.set row.data field value }

def childRows? (row : Row) (model : String) : Option (List Row) :=
  Entries.get? row.children model

def setChildRows (row : Row) (model : String) (rows : List Row) : Row :=
  { row with children := Entries.set row.children model rows }

/-- Puts a row after those of its model, if the row has rows of that model. -/
def addChildRow (row : Row) (model : String) (child : Row) : Row :=
  match row.childRows? model with
  | some rows => row.setChildRows model (rows ++ [child])
  | none => row

/-- What messages call the row: its id, or else its temporary id. -/
def label (row : Row) : String :=
  match row.id, row.tempId with
  | some id, _ => "id=" ++ id.text
  | none, some tempId => "tempID=" ++ tempId.text
  | none, none => "<new>"

/-- Made by a client and never written. -/
def isUnsaved (row : Row) : Bool := row.state == some .inserted && row.id.isNone

end Row

end RowTree
