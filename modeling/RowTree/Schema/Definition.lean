import RowTree.Schema.Table
import RowTree.Sql.Statement

/-!
# Definitions

A model as it is written down, before any of its names is bound. Like a model
it is a tree of entities.
-/

namespace RowTree.Schema

structure StepDefinition where
  name : String
  /-- A join of the table that the step goes on from. -/
  join : Option String := none
  required : Bool := false
  /-- The step to go on from; without one it is the basis table. -/
  previousStep : Option String := none
  deriving DecidableEq

structure FieldDefinition where
  name : String
  /-- A column of the step's table, or of the basis table. -/
  basisColumn : Option String := none
  step : Option String := none
  updateable : Bool := true
  required : Bool := false
  /-- Goes before the column's default. -/
  columnDefault : Option ColumnDefault := none
  /-- Goes before the column's data type. -/
  dataType : Option DataType := none
  deriving DecidableEq

structure OrderDefinition where
  fieldName : String
  direction : Sql.Direction := .ascending
  deriving DecidableEq

structure LinkDefinition where
  parentField : String
  childField : String
  deriving DecidableEq

structure EntityDefinition where
  name : Option String := none
  basisTable : Option String := none
  steps : List StepDefinition := []
  fields : List FieldDefinition := []
  orderBy : List OrderDefinition := []
  /-- A filter text over the fields. -/
  filter : Option String := none
  limit : Option UInt64 := none
  parentLink : Option LinkDefinition := none
  /-- The older way to give the parent link. -/
  foreignKeys : List LinkDefinition := []
  deriving DecidableEq

inductive Definition where
  | node (entity : EntityDefinition) (children : List Definition)

/-- What messages call the model: its name, or else its basis table's. -/
def EntityDefinition.displayName (d : EntityDefinition) : String :=
  (d.name <|> d.basisTable).getD "<unnamed>"

namespace Definition

def entity : Definition → EntityDefinition
  | node entity _ => entity

def children : Definition → List Definition
  | node _ children => children

end Definition

end RowTree.Schema
