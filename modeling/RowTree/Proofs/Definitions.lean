import RowTree.Proofs.Binding

/-!
# Well-formed definitions

The rules that a definition keeps over the tables of a catalog. Nothing is bound and
nothing is collected here: each rule is said of the definition as it is written, and a
name of a table is only looked at where the catalog holds the table.
-/

namespace RowTree.Schema

open Compile

def Table.HasColumn (table : Table) (name : String) : Prop :=
  ∃ column ∈ table.columns, column.name = name

theorem Table.hasColumn_iff {table : Table} {name : String} :
    table.HasColumn name ↔ ∃ column, table.column? name = some column := by
  rw [← Option.isSome_iff_exists, Table.column?, List.find?_isSome]
  simp [Table.HasColumn]

structure JoinPair.WellFormed (source target : Table) (pair : JoinPair) : Prop where
  target : target.HasColumn pair.target
  source : (∃ text, pair.constant = some text) ∨
    ∃ name, pair.source = some name ∧ source.HasColumn name

/-- What a step or a field goes on from: without a name it is the basis table, and with the
name of a step the table that the step's join leads to from what the step goes on from itself.
That can only be a step before it. -/
inductive StandsFor (catalog : Catalog) (basis : Table) :
    List StepDefinition → Option String → Table → Prop
  | basis {steps : List StepDefinition} : StandsFor catalog basis steps none basis
  | step {steps before : List StepDefinition} {d : StepDefinition} {name : String}
      {source target : Table} {join : Join} (among : before ++ [d] <+: steps)
      (from_source : StandsFor catalog basis before d.previousStep source)
      (named : d.join = some name) (joined : source.join? name = some join)
      (found : Entries.get? catalog join.table = some target) :
      StandsFor catalog basis steps (some d.name) target

structure StepDefinition.WellFormed (catalog : Catalog) (basis : Table)
    (before : List StepDefinition) (d : StepDefinition) : Prop where
  name : isCodeName d.name = true
  fresh : d.name ∉ before.map (·.name)
  previous : ∀ name, d.previousStep = some name → name ∈ before.map (·.name)
  join : ∃ name, d.join = some name ∧
    ∀ source, StandsFor catalog basis before d.previousStep source →
      ∃ join, source.join? name = some join ∧ join.pairs ≠ [] ∧
        ∀ target, Entries.get? catalog join.table = some target →
          ∀ pair ∈ join.pairs, pair.WellFormed source target

structure FieldDefinition.WellFormed (catalog : Catalog) (basis : Table)
    (steps : List StepDefinition) (d : FieldDefinition) : Prop where
  name : isCodeName d.name = true
  step : ∀ name, d.step = some name → name ∈ steps.map (·.name)
  column : ∀ name, d.basisColumn = some name →
    ∀ table, StandsFor catalog basis steps d.step table → table.HasColumn name

/-- The field as far as a filter text can tell: by its name, and with a column or without. -/
def FieldDefinition.sketch (d : FieldDefinition) : Field where
  name := d.name
  column := d.basisColumn.map fun name => ⟨name, name⟩

namespace EntityDefinition

def HasColumn (d : EntityDefinition) (fieldName : String) : Prop :=
  ∃ field ∈ d.fields, field.name = fieldName ∧ field.basisColumn.isSome = true

structure WellFormed (catalog : Catalog) (d : EntityDefinition) : Prop where
  name : ∃ name, ModelName.ofText d.displayName = .ok name
  basisTable : ∃ name, d.basisTable = some name
  steps : ∀ name basis, d.basisTable = some name → Entries.get? catalog name = some basis →
    ∀ before step, before ++ [step] <+: d.steps → step.WellFormed catalog basis before
  fields : ∀ name basis, d.basisTable = some name → Entries.get? catalog name = some basis →
    ∀ field ∈ d.fields, field.WellFormed catalog basis d.steps
  distinct : (d.fields.map (·.name)).Nodup
  order : ∀ entry ∈ d.orderBy, d.HasColumn entry.fieldName
  filter : ∀ text, d.filter = some text →
    ∃ e, FilterText.read text (d.fields.map FieldDefinition.sketch) = .ok e

/-- The child declares one link, between fields of the two that have a column. -/
def Links (parent child : EntityDefinition) : Prop :=
  ∃ link, Declares child link ∧ parent.HasColumn link.parentField ∧
    child.HasColumn link.childField

end EntityDefinition

inductive Definition.WellFormed (catalog : Catalog) : Definition → Prop
  | node {d : EntityDefinition} {children : List Definition} (own : d.WellFormed catalog)
      (links : ∀ child ∈ children, d.Links child.entity)
      (names : (children.map (·.entity.displayName)).Nodup)
      (below : ∀ child ∈ children, child.WellFormed catalog) :
      (Definition.node d children).WellFormed catalog

variable {catalog : Catalog} {basis table : Table} {before : List StepDefinition}
  {d : StepDefinition} {name : String}

theorem standsFor_none_iff : StandsFor catalog basis before none table ↔ table = basis := by
  constructor
  · intro h
    cases h
    rfl
  · rintro rfl
    exact .basis

def StepDefinition.Leads (catalog : Catalog) (basis : Table) (before : List StepDefinition)
    (d : StepDefinition) (target : Table) : Prop :=
  ∃ name source join, StandsFor catalog basis before d.previousStep source ∧
    d.join = some name ∧ source.join? name = some join ∧
    Entries.get? catalog join.table = some target

theorem standsFor_concat_iff :
    StandsFor catalog basis (before ++ [d]) (some name) table ↔
      StandsFor catalog basis before (some name) table ∨
        d.name = name ∧ d.Leads catalog basis before table := by
  constructor
  · intro h
    cases h with
    | step among hSource hNamed hJoin hFound =>
      rcases List.prefix_concat_iff.mp among with hLast | hEarlier
      · obtain ⟨rfl, hEq⟩ := List.append_inj' hLast rfl
        cases hEq
        exact .inr ⟨rfl, _, _, _, hSource, hNamed, hJoin, hFound⟩
      · exact .inl (.step hEarlier hSource hNamed hJoin hFound)
  · rintro (h | ⟨rfl, _, _, _, hSource, hNamed, hJoin, hFound⟩)
    · cases h with
      | step among hSource hNamed hJoin hFound =>
        exact .step (among.trans (List.prefix_append _ _)) hSource hNamed hJoin hFound
    · exact .step (List.prefix_refl _) hSource hNamed hJoin hFound

end RowTree.Schema
