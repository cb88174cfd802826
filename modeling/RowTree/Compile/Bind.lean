import RowTree.FilterText
import RowTree.Schema.Catalog
import RowTree.Schema.Definition
import RowTree.Schema.Name

/-!
# Binding a definition

Every name of a definition is looked up in the tables of a catalog. The first
thing that is wrong is the error: of a model its basis table and its name, then
its steps, its fields, its order and its filter; then its children one by one,
of each the child itself before its link to the parent.
-/

namespace RowTree.Compile

open Schema

/-- The tables that the steps and fields of a model can refer to: the basis
table, and the tables of the steps bound so far. -/
structure Scope where
  basis : Table
  joined : List (Step × Table) := []

namespace Scope

def steps (scope : Scope) : List Step := scope.joined.map (·.1)

def source? (scope : Scope) : Option String → Option (Nat × Table)
  | none => some (0, scope.basis)
  | some name =>
    (scope.joined.find? (·.1.name == name)).map fun found => (found.1.index, found.2)

end Scope

def invalid {α : Type} (model : String) (problem : DefinitionProblem) : Except Error α :=
  .error (.of (.definition model problem))

def need {α : Type} (model : String) (problem : DefinitionProblem) : Option α → Except Error α
  | some v => .ok v
  | none => invalid model problem

/-- One pair of a join from the table `source`, which has the alias number
`index`, to `target`. A constant goes before a column. -/
def bindPair (model join : String) (index : Nat) (source target : Table) (pair : JoinPair) :
    Except Error JoinTerm := do
  let column ← need model (.unknownJoinColumn join pair.target target.name)
    (target.column? pair.target)
  let origin ← match pair.constant, pair.source with
    | some text, _ => .ok (JoinSource.constant text)
    | none, some name => do
      let found ← need model (.unknownJoinColumn join name source.name) (source.column? name)
      .ok (JoinSource.column index found.storageName)
    | none, none => invalid model (.joinColumnWithoutSource join pair.target)
  .ok ⟨origin, column.storageName⟩

def bindStep (catalog : Catalog) (model : String) (scope : Scope) (d : StepDefinition) :
    Except Error Step := do
  checkName model d.name
  if scope.steps.any (·.name == d.name) then invalid model (.duplicateStep d.name)
  let joinName ← need model (.stepWithoutJoin d.name) d.join
  let (index, source) ← need model (.unknownPreviousStep d.name (d.previousStep.getD ""))
    (scope.source? d.previousStep)
  let join ← need model (.unknownJoin d.name joinName source.name) (source.join? joinName)
  let target ← catalog.table join.table
  if join.pairs.isEmpty then invalid model (.joinWithoutColumns joinName)
  let terms ← join.pairs.mapM (bindPair model joinName index source target)
  .ok ⟨d.name, scope.joined.length + 1, d.required,
    ⟨joinName, ⟨target.name, target.storageName⟩, terms⟩⟩

/-- Binds steps one after the other. The table of a step is the one that the
catalog holds under the joined table's own name. -/
def bindSteps (catalog : Catalog) (model : String) (scope : Scope) :
    List StepDefinition → Except Error Scope
  | [] => .ok scope
  | d :: rest => do
    let step ← bindStep catalog model scope d
    let table ← catalog.table step.join.table.name
    bindSteps catalog model { scope with joined := scope.joined ++ [(step, table)] } rest

def bindField (model : String) (scope : Scope) (d : FieldDefinition) : Except Error Field := do
  checkName model d.name
  let (index, table) ← need model (.unknownStep d.name (d.step.getD "")) (scope.source? d.step)
  let column ← match d.basisColumn with
    | some name => do
      let found ← need model (.unknownColumn d.name name table.name) (table.column? name)
      .ok (some found)
    | none => .ok none
  .ok {
    name := d.name
    column := column.map fun c => ⟨c.name, c.storageName⟩
    step := index
    updateable := d.updateable
    required := d.required || column.any (·.required)
    columnDefault := d.columnDefault <|> column.bind Column.default?
    dataType := d.dataType <|> column.bind (·.dataType) }

/-- Binds fields one after the other, after those that are bound already. -/
def bindFields (model : String) (scope : Scope) (bound : List Field) :
    List FieldDefinition → Except Error (List Field)
  | [] => .ok bound
  | d :: rest => do
    if bound.any (·.name == d.name) then invalid model (.duplicateField d.name)
    let field ← bindField model scope d
    bindFields model scope (bound ++ [field]) rest

def hasColumn (fields : List Field) (name : String) : Bool :=
  fields.any fun field => field.name == name && field.column.isSome

def bindOrder (model : String) (fields : List Field) (d : OrderDefinition) :
    Except Error OrderBy :=
  if hasColumn fields d.fieldName then .ok ⟨d.fieldName, d.direction⟩
  else invalid model (.unboundOrder d.fieldName)

def bindFilter (model : String) (fields : List Field) :
    Option String → Except Error (Option Sql.Expr)
  | none => .ok none
  | some text =>
    match FilterText.read text fields with
    | .ok e => .ok e
    | .error e => .error (e.within (.definition model .staticFilter))

/-- The first field that holds the primary key of the basis table. -/
def keyPosition? (basis : Table) (fields : List Field) : Option Nat :=
  basis.primaryKeyColumn?.bind fun key =>
    fields.findIdx? fun field =>
      field.onBasisTable && field.column.any (·.name == key.name)

def bindEntity (catalog : Catalog) (d : EntityDefinition) : Except Error Entity := do
  let model := d.displayName
  let basisName ← need model .noBasisTable d.basisTable
  let _ ← ModelName.ofText model
  let basis ← catalog.table basisName
  let scope ← bindSteps catalog model ⟨basis, []⟩ d.steps
  let fields ← bindFields model scope [] d.fields
  let orderBy ← d.orderBy.mapM (bindOrder model fields)
  let filter ← bindFilter model fields d.filter
  .ok {
    name := model
    basisTable := ⟨basis.name, basis.storageName⟩
    steps := scope.steps
    fields
    key := keyPosition? basis fields
    orderBy
    filter
    limit := d.limit }

/-- The link that a child declares, in the newer way or else in the older one. -/
def declaredLink (parent child : String) (d : EntityDefinition) : Except Error LinkDefinition :=
  match d.parentLink, d.foreignKeys with
  | some link, _ => .ok link
  | none, [link] => .ok link
  | none, [] => invalid child (.noParentLink parent)
  | none, _ => invalid child .compositeLink

def linkChild (parent : Entity) (d : EntityDefinition) (child : Entity) : Except Error Entity := do
  let link ← declaredLink parent.name child.name d
  if !hasColumn parent.fields link.parentField then
    invalid child.name (.unboundParentField link.parentField parent.name)
  if ((child.field? link.childField).bind Field.storageName?).isNone then
    invalid child.name (.unboundChildField link.childField)
  .ok { child with parentLink := some ⟨link.parentField, link.childField⟩ }

mutual

def bind (catalog : Catalog) : Definition → Except Error Model
  | .node d children => do
    let entity ← bindEntity catalog d
    let models ← bindChildren catalog entity [] children
    .ok (.node entity models)

def bindChildren (catalog : Catalog) (parent : Entity) (bound : List Model) :
    List Definition → Except Error (List Model)
  | [] => .ok bound
  | d :: rest => do
    let child ← bind catalog d
    let entity ← linkChild parent d.entity child.entity
    if bound.any (·.name == entity.name) then
      invalid parent.name (.duplicateChild entity.name)
    bindChildren catalog parent (bound ++ [.node entity child.children]) rest

end

end RowTree.Compile
