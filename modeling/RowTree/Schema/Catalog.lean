import RowTree.Schema.TableJson

/-!
# Catalogs of tables

A catalog holds the tables that are known so far by the name under which they
were asked for. A provider is where unknown tables come from; what it answers
may depend on what it was asked before.
-/

namespace RowTree.Schema

abbrev Catalog := Entries Table

namespace Catalog

def addAll (catalog : Catalog) (tables : List Table) : Catalog :=
  tables.foldl (fun c table => Entries.set c table.name table) catalog

/-- Of two tables with one name the last counts. -/
def ofTables (tables : List Table) : Catalog := addAll [] tables

def table (catalog : Catalog) (name : String) : Except Error Table :=
  match Entries.get? catalog name with
  | some found => .ok found
  | none => .error (.of (.tableNotFound name))

def ofJson? (j : Json) : Option Catalog := (Table.listOfJson? j).map ofTables

def Extends (small large : Catalog) : Prop :=
  ∀ name found, Entries.get? small name = some found → Entries.get? large name = some found

end Catalog

/-- Answers a name after the names that were asked before. -/
abbrev Provider := List String → String → Except Error Table

def Catalog.provider (catalog : Catalog) : Provider := fun _ name => catalog.table name

end RowTree.Schema
