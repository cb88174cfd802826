import RowTree.Schema.Table
import RowTree.Sql.Statement

/-!
# Models

A model over tables that exist: every table, join and column is bound to the
name under which it is stored. A model is a tree of entities. An entity reads
its rows from its basis table, which has the alias number zero, and from the
tables that its steps join to it, which are numbered from one.
-/

namespace RowTree.Schema

open Sql (Expr)

/-- A table or a column by its name and the name under which it is stored. -/
structure Bound where
  name : String
  storageName : String
  deriving DecidableEq

inductive JoinSource where
  | column (step : Nat) (storageName : String)
  | constant (text : String)
  deriving DecidableEq

structure JoinTerm where
  source : JoinSource
  target : String
  deriving DecidableEq

structure BoundJoin where
  name : String
  table : Bound
  terms : List JoinTerm
  deriving DecidableEq

/-- One join of an entity. Its number is the alias number of the joined table;
if it is required, rows without a match are left out. -/
structure Step where
  name : String
  index : Nat
  required : Bool
  join : BoundJoin
  deriving DecidableEq

structure Field where
  name : String
  /-- A field without a column is carried along and neither read nor written. -/
  column : Option Bound := none
  /-- The alias number of the table with the column. -/
  step : Nat := 0
  updateable : Bool := true
  required : Bool := false
  columnDefault : Option ColumnDefault := none
  dataType : Option DataType := none
  deriving DecidableEq

namespace Field

def isBoolean (field : Field) : Bool := field.dataType == some .boolean

/-- Only fields on the basis table are written. -/
def onBasisTable (field : Field) : Bool := field.step == 0

def storageName? (field : Field) : Option String := field.column.map (·.storageName)

def expr? (field : Field) : Option Expr := field.storageName?.map (Expr.columnOf field.step)

end Field

def findField? (fields : List Field) (name : String) : Option Field :=
  fields.find? (·.name == name)

structure OrderBy where
  field : String
  direction : Sql.Direction
  deriving DecidableEq

/-- A child row belongs to the parent rows whose parent field has the value of
its child field. -/
structure ParentLink where
  parentField : String
  childField : String
  deriving DecidableEq

structure Entity where
  name : String
  basisTable : Bound
  steps : List Step := []
  fields : List Field := []
  /-- The position of the field that holds the primary key of the basis table. -/
  key : Option Nat := none
  orderBy : List OrderBy := []
  filter : Option Expr := none
  limit : Option UInt64 := none
  parentLink : Option ParentLink := none

namespace Entity

def field? (entity : Entity) (name : String) : Option Field := findField? entity.fields name

def instanceKey? (entity : Entity) : Option Field := entity.key.bind (entity.fields[·]?)

def booleanFields (entity : Entity) : List Field := entity.fields.filter Field.isBoolean

end Entity

inductive Model where
  | node (entity : Entity) (children : List Model)

namespace Model

def entity : Model → Entity
  | node entity _ => entity

def children : Model → List Model
  | node _ children => children

def name (model : Model) : String := model.entity.name

def child? (model : Model) (name : String) : Option Model :=
  model.children.find? (·.name == name)

end Model

end RowTree.Schema
