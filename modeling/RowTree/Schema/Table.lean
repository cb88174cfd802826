import RowTree.Error

/-!
# Tables

What is known of a table: its name and the name under which it is stored, its
columns, the column of its primary key, and its joins to other tables. Columns
and joins are found by name; of two with one name the first counts.
-/

namespace RowTree.Schema

/-- What a column takes when it is written. A policy of another name is kept
and has no effect. -/
inductive ColumnDefault where
  | guid
  | createdDate
  | updatedDate
  | other (policy : String)
  deriving DecidableEq

namespace ColumnDefault

def ofText (text : String) : ColumnDefault :=
  if text = "GUID" ∨ text = "Guid" ∨ text = "guid" then guid
  else if text = "CreatedDate" then createdDate
  else if text = "UpdatedDate" then updatedDate
  else other text

def text : ColumnDefault → String
  | guid => "GUID"
  | createdDate => "CreatedDate"
  | updatedDate => "UpdatedDate"
  | other policy => policy

def onInsert : ColumnDefault → Bool
  | guid | createdDate | updatedDate => true
  | other _ => false

def onUpdate : ColumnDefault → Bool
  | updatedDate => true
  | _ => false

end ColumnDefault

inductive DataType where
  | string
  | integer
  | decimal
  | boolean
  | date
  | dateTime
  deriving DecidableEq

namespace DataType

def text : DataType → String
  | string => "String"
  | integer => "Integer"
  | decimal => "Decimal"
  | boolean => "Boolean"
  | date => "Date"
  | dateTime => "DateTime"

def ofText? : String → Option DataType
  | "String" => some string
  | "Integer" => some integer
  | "Decimal" => some decimal
  | "Boolean" => some boolean
  | "Date" => some date
  | "DateTime" => some dateTime
  | _ => none

end DataType

structure Column where
  name : String
  storageName : String
  columnDefault : Option ColumnDefault := none
  /-- The default by its older name. -/
  olderDefault : Option ColumnDefault := none
  required : Bool := false
  dataType : Option DataType := none
  deriving DecidableEq

/-- The default that counts. -/
def Column.default? (column : Column) : Option ColumnDefault :=
  match column.columnDefault with
  | some policy => some policy
  | none => column.olderDefault

/-- One pair of a join: a column of the joined table and what it equals, a
constant or else a column of the table that is joined from. -/
structure JoinPair where
  source : Option String := none
  constant : Option String := none
  target : String
  deriving DecidableEq

structure Join where
  name : String
  table : String
  pairs : List JoinPair := []
  deriving DecidableEq

structure Table where
  name : String
  storageName : String
  columns : List Column := []
  primaryKey : Option String := none
  joins : List Join := []
  deriving DecidableEq

namespace Table

def column? (table : Table) (name : String) : Option Column :=
  table.columns.find? (·.name == name)

def join? (table : Table) (name : String) : Option Join :=
  table.joins.find? (·.name == name)

def primaryKeyColumn? (table : Table) : Option Column := table.primaryKey.bind table.column?

end Table

end RowTree.Schema
