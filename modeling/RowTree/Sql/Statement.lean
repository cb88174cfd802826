import RowTree.Limit
import RowTree.Sql.Expr

/-!
# Statements

The four kinds of statement. A query gives its basis table the alias number
zero and every joined table one of its own.
-/

namespace RowTree.Sql

structure SelectItem where
  expr : Expr
  name : String

inductive JoinKind where
  | inner
  | left
  deriving DecidableEq

structure Join where
  kind : JoinKind
  table : String
  number : Nat
  condition : Expr

inductive Direction where
  | ascending
  | descending
  deriving DecidableEq

/-- Without a direction the order is the database's own. -/
structure OrderItem where
  expr : Expr
  direction : Option Direction

structure Query where
  /-- `none` selects every column. -/
  items : Option (List SelectItem)
  table : String
  joins : List Join := []
  filter : Filter := {}
  order : List OrderItem := []
  limit : Option Limit := none

structure Insert where
  table : String
  columns : List String
  values : List Expr

structure Assignment where
  column : String
  expr : Expr

structure Update where
  table : String
  assignments : List Assignment
  filter : Filter

structure Delete where
  table : String
  filter : Filter

inductive Statement where
  | query (q : Query)
  | insert (i : Insert)
  | update (u : Update)
  | delete (d : Delete)

def Query.aliases (q : Query) : List String := (q.items.getD []).map (·.name)

def Statement.table : Statement → String
  | query q => q.table
  | insert i => i.table
  | update u => u.table
  | delete d => d.table

end RowTree.Sql
