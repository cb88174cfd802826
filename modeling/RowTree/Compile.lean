import RowTree.Compile.Bind
import RowTree.Compile.Resolve
import RowTree.Schema.DefinitionJson

/-!
# Compiling definitions

A compiler has a catalog of the tables it knows and maybe a provider for those
that it does not. To compile a definition it first resolves the tables and then
binds the names. What it learns of tables it keeps, also when compiling fails.
-/

namespace RowTree

open Schema

structure Compiler where
  catalog : Catalog := []
  provider : Option Provider := none
  /-- The names asked of the provider so far. -/
  asked : List String := []

namespace Compiler

def compile (compiler : Compiler) (d : Definition) : Except Error Model × Compiler :=
  let resolution := Compile.resolve compiler.provider d compiler.catalog compiler.asked
  (resolution.outcome.bind fun _ => Compile.bind resolution.catalog d,
    { compiler with catalog := resolution.catalog, asked := resolution.asked })

/-- The same catalog without a provider. -/
def offline (compiler : Compiler) : Compiler := { compiler with provider := none }

end Compiler

structure Builder where
  catalog : Option Catalog := none
  provider : Option Provider := none
  tables : List Table := []

namespace Builder

def table (builder : Builder) (t : Table) : Builder :=
  { builder with tables := builder.tables ++ [t] }

def useCatalog (builder : Builder) (catalog : Catalog) : Builder :=
  { builder with catalog := some catalog }

def useProvider (builder : Builder) (provider : Provider) : Builder :=
  { builder with provider := some provider }

/-- A compiler that knows the tables. They are handed over once; a catalog that
was given to the builder keeps them for later compilers too. -/
def build (builder : Builder) : Compiler × Builder :=
  let catalog := (builder.catalog.getD []).addAll builder.tables
  ({ catalog, provider := builder.provider },
    { builder with catalog := builder.catalog.map fun _ => catalog, tables := [] })

end Builder

end RowTree
