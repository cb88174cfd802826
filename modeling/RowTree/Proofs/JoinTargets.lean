import RowTree.Proofs.Acceptance
import RowTree.Proofs.Needs

/-!
# What steps draw on

A step leads to the table that is held under the `table` of its join, and from then on it
shows the table that is held under that table's own name. What is bound on the step comes
from the table it leads to if the two agree: in the columns that fields are bound to, and
altogether where steps go on. A catalog can hold a table under another name than its own,
so they need not.
-/

namespace RowTree.Schema

/-- The column of a field is one of the table's. -/
def Table.Shows (table : Table) (column : Bound) : Prop :=
  ∃ c ∈ table.columns, (⟨c.name, c.storageName⟩ : Bound) = column

namespace Model

mutual

/-- The entities of a tree, each before those below it. -/
def entities : Model → List Entity
  | .node entity children => entity :: entitiesOfAll children

def entitiesOfAll : List Model → List Entity
  | [] => []
  | model :: rest => model.entities ++ entitiesOfAll rest

end

end Model

end RowTree.Schema

namespace RowTree.Compile

open Schema

variable {catalog : Catalog} {scope : Scope} {done ds : List StepDefinition}

/-- The table that a step leads to: its join is looked up on the table that the step goes on
from, and the table is held under the `table` of the join. -/
def Scope.target? (catalog : Catalog) (scope : Scope) (d : StepDefinition) : Option Table := do
  let name ← d.join
  let (_, source) ← scope.source? d.previousStep
  let join ← source.join? name
  Entries.get? catalog join.table

/-- What is bound on the steps of an entity comes from the tables that the steps lead to. -/
structure Scope.DrawsOnTargets (catalog : Catalog) (scope : Scope) (d : EntityDefinition)
    (entity : Entity) : Prop where
  joins : ∀ (n : Nat) own (step : Step), d.steps[n]? = some own → entity.steps[n]? = some step →
    ∃ target, scope.target? catalog own = some target ∧
      step.join.table = ⟨target.name, target.storageName⟩
  fields : ∀ field ∈ entity.fields, ∀ column, field.column = some column →
    ∀ n, field.step = n + 1 → ∃ own target, d.steps[n]? = some own ∧
      scope.target? catalog own = some target ∧ target.Shows column
  /-- A step that follows another one has its join and its source columns looked up on the
  table that the other one leads to. -/
  steps : ∀ (k : Nat) later (step : Step) previous, d.steps[k]? = some later →
    entity.steps[k]? = some step → later.previousStep = some previous →
      ∃ n < k, ∃ own target name next, d.steps[n]? = some own ∧ own.name = previous ∧
      scope.target? catalog own = some target ∧
      scope.source? later.previousStep = some (n + 1, target) ∧ later.join = some name ∧
      JoinBound catalog (n + 1) target next name step.join

/-- The entity is bound from the definition, with nothing from another table than it says. -/
def DrawsOnTargets (catalog : Catalog) (d : EntityDefinition) (entity : Entity) : Prop :=
  ∃ basis scope own link, EntityBound catalog d basis scope own ∧
    entity = { own with parentLink := link } ∧ scope.DrawsOnTargets catalog d own

/-- A step with the join leads from the table `source` to `target` and then shows `shown`. -/
structure Leads (catalog : Catalog) (source : Table) (name : String) (target shown : Table) :
    Prop where
  join : ∃ join, source.join? name = some join ∧ Entries.get? catalog join.table = some target ∧
    join.pairs ≠ [] ∧ ∀ pair ∈ join.pairs, pair.WellFormed source target
  shown : Entries.get? catalog target.name = some shown

/-- Whatever table a step can lead to has the columns of the one that it shows, and is that one
if another step can go on from there. -/
structure ShowsTargets (catalog : Catalog) : Prop where
  columns : ∀ held source name target shown, Entries.get? catalog held = some source →
    Leads catalog source name target shown → ∀ column c, shown.column? column = some c →
      target.Shows ⟨c.name, c.storageName⟩
  tables : ∀ held source name target shown, Entries.get? catalog held = some source →
    Leads catalog source name target shown → ∀ further next last,
      Leads catalog shown further next last → shown = target

/-- A catalog with every table under its own name is one of them. -/
theorem OwnNames.showsTargets (hNames : OwnNames catalog) : ShowsTargets catalog := by
  have hSame {source target shown : Table} {name : String}
      (h : Leads catalog source name target shown) : shown = target := by
    obtain ⟨⟨join, _, hTarget, _⟩, hShown⟩ := h
    rw [hNames _ _ hTarget, hTarget] at hShown
    exact (Option.some.inj hShown).symm
  constructor
  · intro _ _ _ _ _ _ hLeads _ c hColumn
    exact ⟨c, hSame hLeads ▸ List.mem_of_find?_eq_some hColumn, rfl⟩
  · intro _ _ _ _ _ _ hLeads _ _ _ _
    exact hSame hLeads

theorem Scope.source?_append {previous : Option String} {found : Nat × Table}
    (h : scope.source? previous = some found) (more : List (Step × Table)) :
    { scope with joined := scope.joined ++ more : Scope }.source? previous = some found := by
  cases previous with
  | none => exact h
  | some name =>
    obtain ⟨entry, hEntry, rfl⟩ := Option.map_eq_some_iff.mp h
    simp [Scope.source?, List.find?_append, hEntry]

/-- The step at the position `k` of a scope, as its definition has it: what it goes on from is
in the scope, and it shows the table with its target's own name. -/
structure StepShown (catalog : Catalog) (scope : Scope) (k : Nat) (d : StepDefinition)
    (step : Step) (shown : Table) : Prop where
  name : step.name = d.name
  index : step.index = k + 1
  leads : ∃ name index source target, d.join = some name ∧ index ≤ k ∧
    scope.source? d.previousStep = some (index, source) ∧
    JoinBound catalog index source target name step.join ∧
    Entries.get? catalog target.name = some shown

/-- A scope after the steps of some definitions. -/
structure Scope.After (catalog : Catalog) (scope : Scope) (done : List StepDefinition) : Prop where
  basis : ∃ held, Entries.get? catalog held = some scope.basis
  length_eq : scope.joined.length = done.length
  shown : ∀ k d entry, done[k]? = some d → scope.joined[k]? = some entry →
    StepShown catalog scope k d entry.1 entry.2

theorem StepShown.append {k : Nat} {d : StepDefinition} {step : Step} {shown : Table}
    (h : StepShown catalog scope k d step shown) (more : List (Step × Table)) :
    StepShown catalog { scope with joined := scope.joined ++ more } k d step shown where
  name := h.name
  index := h.index
  leads := by
    obtain ⟨name, index, source, target, hName, hLe, hSource, hRest⟩ := h.leads
    exact ⟨name, index, source, target, hName, hLe, Scope.source?_append hSource more, hRest⟩

namespace Scope.After

/-- What a step goes on from is the basis table or the table of one of the steps. -/
theorem source (h : scope.After catalog done) {previous : String} {index : Nat} {table : Table}
    (hSource : scope.source? (some previous) = some (index, table)) :
    ∃ n d step, done[n]? = some d ∧ d.name = previous ∧ index = n + 1 ∧
      scope.joined[n]? = some (step, table) ∧ StepShown catalog scope n d step table := by
  obtain ⟨⟨step, shown⟩, hFound, hEq⟩ := Option.map_eq_some_iff.mp hSource
  cases hEq
  obtain ⟨n, hEntry⟩ := List.getElem?_of_mem (List.mem_of_find?_eq_some hFound)
  have hLt : n < done.length := by
    obtain ⟨hLt, _⟩ := List.getElem?_eq_some_iff.mp hEntry
    rwa [h.length_eq] at hLt
  have hDone := List.getElem?_eq_getElem hLt
  have hShown := h.shown n _ _ hDone hEntry
  have hName : step.name = previous := by simpa using List.find?_some hFound
  exact ⟨n, _, step, hDone, hShown.name.symm.trans hName, hShown.index, hEntry, hShown⟩

theorem index_le (h : scope.After catalog done) {previous : Option String} {index : Nat}
    {table : Table} (hSource : scope.source? previous = some (index, table)) :
    index ≤ done.length := by
  cases previous with
  | none =>
    cases hSource
    exact Nat.zero_le _
  | some previous =>
    obtain ⟨n, _, _, hDone, _, rfl, _⟩ := h.source hSource
    obtain ⟨hLt, _⟩ := List.getElem?_eq_some_iff.mp hDone
    exact hLt

theorem held (h : scope.After catalog done) {previous : Option String} {index : Nat}
    {table : Table} (hSource : scope.source? previous = some (index, table)) :
    ∃ held, Entries.get? catalog held = some table := by
  cases previous with
  | none =>
    cases hSource
    exact h.basis
  | some previous =>
    obtain ⟨_, _, _, _, _, _, _, hShown⟩ := h.source hSource
    obtain ⟨_, _, _, target, _, _, _, _, hTable⟩ := hShown.leads
    exact ⟨target.name, hTable⟩

theorem concat (h : scope.After catalog done) {d : StepDefinition} {step : Step} {table : Table}
    (hStep : StepBound catalog scope d step)
    (hTable : Entries.get? catalog step.join.table.name = some table) :
    { scope with joined := scope.joined ++ [(step, table)] : Scope }.After catalog
      (done ++ [d]) where
  basis := h.basis
  length_eq := by simp [h.length_eq]
  shown k other entry hOther hEntry := by
    rcases Nat.lt_or_ge k done.length with hLt | hGe
    · rw [List.getElem?_append_left hLt] at hOther
      rw [List.getElem?_append_left (h.length_eq ▸ hLt)] at hEntry
      exact (h.shown k other entry hOther hEntry).append _
    · have hLast : k = done.length := by
        obtain ⟨hLt, _⟩ := List.getElem?_eq_some_iff.mp hOther
        rw [List.length_append, List.length_singleton] at hLt
        omega
      subst hLast
      rw [List.getElem?_concat_length] at hOther
      rw [← h.length_eq, List.getElem?_concat_length] at hEntry
      cases hOther
      cases hEntry
      obtain ⟨name, index, source, target, hName, hSource, hJoin⟩ := hStep.join
      rw [hJoin.table_eq] at hTable
      refine StepShown.append ⟨?_, ?_, ?_⟩ _
      · rw [hStep.step_eq]
      · rw [hStep.step_eq, h.length_eq]
      · exact ⟨name, index, source, target, hName, h.index_le hSource, hSource, hJoin, hTable⟩

end Scope.After

theorem StepsBound.after {last : Scope} (h : StepsBound catalog scope ds last)
    (hScope : scope.After catalog done) : last.After catalog (done ++ ds) := by
  induction h generalizing done with
  | nil => simpa using hScope
  | cons hStep hTable _ ih => simpa using ih (hScope.concat hStep hTable)

theorem EntityBound.after {d : EntityDefinition} {basis : Table} {entity : Entity}
    (h : EntityBound catalog d basis scope entity) : scope.After catalog d.steps := by
  obtain ⟨held, _, hBasis⟩ := h.basisTable
  have hNil : (⟨basis, []⟩ : Scope).After catalog [] :=
    ⟨⟨held, hBasis⟩, rfl, fun _ _ _ hDone => by simp at hDone⟩
  simpa using h.steps.after hNil

theorem StepShown.target?_eq {k : Nat} {d : StepDefinition} {step : Step} {shown : Table}
    (h : StepShown catalog scope k d step shown) : ∃ name index source target,
      scope.source? d.previousStep = some (index, source) ∧ scope.target? catalog d = some target ∧
        step.join.table = ⟨target.name, target.storageName⟩ ∧
        Leads catalog source name target shown := by
  obtain ⟨name, index, source, target, hName, _, hSource, hJoin, hShown⟩ := h.leads
  obtain ⟨join, hFound, hTarget, hPairs, hTerms⟩ := hJoin.join
  refine ⟨name, index, source, target, hSource, ?_, hJoin.table_eq, ⟨join, hFound, hTarget, hPairs,
    ?_⟩, hShown⟩
  · simp [Scope.target?, hName, hSource, hFound, hTarget]
  · intro pair hPair
    obtain ⟨_, _, hBound⟩ := Outcome.exists_of_mem_left hTerms hPair
    exact hBound.wellFormed

section Entities

variable {d : EntityDefinition} {basis : Table} {entity : Entity}

theorem EntityBound.stepShown (h : EntityBound catalog d basis scope entity) {k : Nat}
    {own : StepDefinition} {step : Step} (hOwn : d.steps[k]? = some own)
    (hStep : entity.steps[k]? = some step) :
    ∃ shown, scope.joined[k]? = some (step, shown) ∧ StepShown catalog scope k own step shown := by
  rw [h.entity_eq, Scope.steps, List.getElem?_map] at hStep
  obtain ⟨⟨step, shown⟩, hEntry, rfl⟩ := Option.map_eq_some_iff.mp hStep
  exact ⟨shown, hEntry, h.after.shown k own _ hOwn hEntry⟩

theorem ShowsTargets.field (hTables : ShowsTargets catalog)
    (h : EntityBound catalog d basis scope entity) {field : Field} (hField : field ∈ entity.fields)
    {column : Bound} (hColumn : field.column = some column) {n : Nat} (hStep : field.step = n + 1) :
    ∃ own target, d.steps[n]? = some own ∧ scope.target? catalog own = some target ∧
      target.Shows column := by
  obtain ⟨fd, _, _, index, table, c, hSource, hFound, rfl⟩ :=
    Outcome.exists_of_mem_left h.fields.flip hField
  obtain ⟨c, rfl, rfl⟩ := Option.map_eq_some_iff.mp hColumn
  change index = n + 1 at hStep
  cases hPrevious : fd.step with
  | none =>
    rw [hPrevious] at hSource
    cases hSource
    cases hStep
  | some previous =>
    rw [hPrevious] at hSource
    obtain ⟨m, own, step, hOwn, _, hIndex, _, hShown⟩ := h.after.source hSource
    obtain rfl : n = m := by omega
    obtain ⟨_, _, source, target, hFrom, hTarget, _, hLeads⟩ := hShown.target?_eq
    obtain ⟨held, hHeld⟩ := h.after.held hFrom
    generalize fd.basisColumn = named at hFound
    cases hFound with
    | some hFound =>
      exact ⟨own, target, hOwn, hTarget,
        hTables.columns held source _ target table hHeld hLeads _ c hFound⟩

theorem ShowsTargets.step (hTables : ShowsTargets catalog)
    (h : EntityBound catalog d basis scope entity) {k : Nat} {later : StepDefinition} {step : Step}
    {previous : String} (hLater : d.steps[k]? = some later) (hStep : entity.steps[k]? = some step)
    (hPrevious : later.previousStep = some previous) : ∃ n < k, ∃ own target name next,
      d.steps[n]? = some own ∧ own.name = previous ∧ scope.target? catalog own = some target ∧
      scope.source? later.previousStep = some (n + 1, target) ∧ later.join = some name ∧
      JoinBound catalog (n + 1) target next name step.join := by
  obtain ⟨_, _, hShown⟩ := h.stepShown hLater hStep
  obtain ⟨name, index, source, next, hName, hLe, hSource, hJoin, hNext⟩ := hShown.leads
  obtain ⟨further, _, _, _, hFrom, _, _, hFurther⟩ := hShown.target?_eq
  cases hSource.symm.trans hFrom
  rw [hPrevious] at hSource
  obtain ⟨n, own, before, hOwn, hName', rfl, _, hBefore⟩ := h.after.source hSource
  obtain ⟨_, _, origin, target, hOrigin, hTarget, _, hLeads⟩ := hBefore.target?_eq
  obtain ⟨held, hHeld⟩ := h.after.held hOrigin
  obtain rfl := hTables.tables held origin _ target source hHeld hLeads _ _ _ hFurther
  exact ⟨n, by omega, own, source, name, next, hOwn, hName', hTarget, hPrevious ▸ hSource, hName,
    hJoin⟩

theorem EntityBound.drawsOnTargets (h : EntityBound catalog d basis scope entity)
    (hTables : ShowsTargets catalog) : scope.DrawsOnTargets catalog d entity where
  joins n own step hOwn hStep := by
    obtain ⟨_, _, hShown⟩ := h.stepShown hOwn hStep
    obtain ⟨_, _, _, target, _, hTarget, hTable, _⟩ := hShown.target?_eq
    exact ⟨target, hTarget, hTable⟩
  fields _ hField _ hColumn _ hStep := hTables.field h hField hColumn hStep
  steps _ _ _ _ hLater hStep hPrevious := hTables.step h hLater hStep hPrevious

theorem EntityBound.scope_unique (h : EntityBound catalog d basis scope entity) {base : Table}
    {other : Scope} {own : Entity} (hOther : EntityBound catalog d base other own) :
    other = scope := by
  obtain ⟨held, hHeld, hBasis⟩ := h.basisTable
  obtain ⟨name, hName, hBase⟩ := hOther.basisTable
  cases hHeld.symm.trans hName
  cases hBasis.symm.trans hBase
  have hOwn : bindSteps catalog d.displayName ⟨basis, []⟩ d.steps = .ok scope :=
    bindSteps_eq_ok_iff.mpr h.steps
  exact Except.ok.inj ((bindSteps_eq_ok_iff.mpr hOther.steps).symm.trans hOwn)

end Entities

section Trees

variable {related : EntityDefinition → Entity → Prop}

mutual

/-- Binding goes entity by entity, and at last an entity is linked to the one above it. -/
theorem entities_of_bind (hRelated : ∀ d basis scope own link,
      EntityBound catalog d basis scope own → related d { own with parentLink := link })
    (d : Definition) {model : Model} (h : bind catalog d = .ok model)
    (link : Option ParentLink) : List.Forall₂ related d.entities
      ({ model.entity with parentLink := link } :: Model.entitiesOfAll model.children) := by
  cases d with
  | node d children =>
    obtain ⟨entity, models, hEntity, hModels, rfl⟩ := bind_eq_ok_iff.mp h
    obtain ⟨basis, scope, hBound⟩ := bindEntity_eq_ok_iff.mp hEntity
    obtain ⟨more, rfl, hMore⟩ := entities_of_bindChildren hRelated children hModels
    exact .cons (hRelated d basis scope entity link hBound) hMore

theorem entities_of_bindChildren (hRelated : ∀ d basis scope own link,
      EntityBound catalog d basis scope own → related d { own with parentLink := link })
    {parent : Entity} (children : List Definition)
    {bound models : List Model} (h : bindChildren catalog parent bound children = .ok models) :
    ∃ more, models = bound ++ more ∧
      List.Forall₂ related (Definition.entitiesOfAll children) (Model.entitiesOfAll more) := by
  cases children with
  | nil =>
    cases h
    exact ⟨[], (List.append_nil _).symm, .nil⟩
  | cons first rest =>
    obtain ⟨child, entity, hChild, hLink, _, hRest⟩ := bindChildren_cons_eq_ok_iff.mp h
    obtain ⟨_, link, rfl⟩ := linked_of_linkBound hLink
    obtain ⟨more, rfl, hMore⟩ := entities_of_bindChildren hRelated rest hRest
    refine ⟨.node { child.entity with parentLink := link } child.children :: more, by simp, ?_⟩
    exact List.rel_append (entities_of_bind hRelated first hChild link) hMore

end

end Trees

section Probes

variable {held name further : String} {source target shown next last : Table}
  {steps : List StepDefinition}

/-- A definition over the table that is held under the name. -/
def probe (held : String) (steps : List StepDefinition) (fields : List FieldDefinition) :
    EntityDefinition where
  name := some "Probe"
  basisTable := some held
  steps := steps
  fields := fields

def firstStep (join : String) : StepDefinition where
  name := "first"
  join := some join

def secondStep (join : String) : StepDefinition where
  name := "second"
  join := some join
  previousStep := some "first"

def fieldOnFirst (column : String) : FieldDefinition where
  name := "field"
  basisColumn := some column
  step := some "first"

theorem exists_probeBound (fields : List FieldDefinition)
    (hHeld : Entries.get? catalog held = some source)
    (hSteps : StepsBound catalog ⟨source, []⟩ steps scope)
    (hNames : (fields.map (·.name)).Nodup) {bound : List Field}
    (hFields : List.Forall₂ (FieldBound scope) fields bound) :
    ∃ entity, EntityBound catalog (probe held steps fields) source scope entity ∧
      entity.fields = bound := by
  refine ⟨{ name := "Probe"
            basisTable := ⟨source.name, source.storageName⟩
            steps := scope.steps
            fields := bound
            key := keyPosition? source bound }, ?_, rfl⟩
  constructor
  case name =>
    have hName : ModelName.ofText "Probe" = .ok ⟨none, "Probe"⟩ := rfl
    exact ⟨_, hName⟩
  case basisTable => exact ⟨held, rfl, hHeld⟩
  case steps => exact hSteps
  case fields => exact hFields
  case distinct => exact hNames
  case order => exact List.forall_mem_nil _
  case filter => exact .none
  case entity_eq => rfl

theorem Leads.exists_stepBound (h : Leads catalog source name target shown) {d : StepDefinition}
    {index : Nat} (hCode : isCodeName d.name = true) (hFresh : d.name ∉ scope.steps.map (·.name))
    (hName : d.join = some name) (hSource : scope.source? d.previousStep = some (index, source)) :
    ∃ step, StepBound catalog scope d step ∧
      Entries.get? catalog step.join.table.name = some shown := by
  obtain ⟨⟨join, hJoin, hTarget, hPairs, hWell⟩, hShown⟩ := h
  obtain ⟨terms, hTerms⟩ := Outcome.exists_forall₂ fun pair hPair =>
    exists_pairBound index (hWell pair hPair)
  refine ⟨⟨d.name, scope.joined.length + 1, d.required, name, ⟨target.name, target.storageName⟩,
    terms⟩, ⟨hCode, hFresh, ?_, rfl⟩, hShown⟩
  exact ⟨name, index, source, target, hName, hSource, ⟨join, hJoin, hTarget, hPairs, hTerms⟩,
    rfl, rfl⟩

theorem Leads.target?_eq (h : Leads catalog source name target shown) {d : StepDefinition}
    {index : Nat} (hName : d.join = some name)
    (hSource : scope.source? d.previousStep = some (index, source)) :
    scope.target? catalog d = some target := by
  obtain ⟨⟨join, hJoin, hTarget, _⟩, _⟩ := h
  simp [Scope.target?, hName, hSource, hJoin, hTarget]

theorem EntityBound.drawsOnTargets_of_forall {d : EntityDefinition} {basis : Table}
    {entity : Entity} (h : EntityBound catalog d basis scope entity)
    (hAll : ∀ d model, bind catalog d = .ok model →
      List.Forall₂ (DrawsOnTargets catalog) d.entities model.entities) :
    scope.DrawsOnTargets catalog d entity := by
  have hBind : bind catalog (.node d []) = .ok (.node entity []) :=
    bind_eq_ok_iff.mpr ⟨entity, [], bindEntity_eq_ok_iff.mpr ⟨basis, scope, h⟩, rfl, rfl⟩
  cases hAll _ _ hBind with
  | cons hOwn _ =>
    obtain ⟨_, _, own, link, hBound, rfl, hDraws⟩ := hOwn
    obtain rfl := h.scope_unique hBound
    exact ⟨hDraws.joins, hDraws.fields, hDraws.steps⟩

theorem Leads.exists_firstBound (h : Leads catalog source name target shown) :
    ∃ step, StepBound catalog ⟨source, []⟩ (firstStep name) step ∧
      Entries.get? catalog step.join.table.name = some shown := by
  have hCode : isCodeName "first" = true := rfl
  exact h.exists_stepBound hCode List.not_mem_nil rfl rfl

theorem source?_firstStep {step : Step}
    (h : StepBound catalog ⟨source, []⟩ (firstStep name) step) :
    (⟨source, [(step, shown)]⟩ : Scope).source? (some "first") = some (1, shown) := by
  rw [h.step_eq]
  rfl

/-- A field on the first step tells which columns the shown table has. -/
theorem Leads.shows_of_forall (h : Leads catalog source name target shown)
    (hHeld : Entries.get? catalog held = some source)
    (hAll : ∀ d model, bind catalog d = .ok model →
      List.Forall₂ (DrawsOnTargets catalog) d.entities model.entities)
    {column : String} {c : Column} (hColumn : shown.column? column = some c) :
    target.Shows ⟨c.name, c.storageName⟩ := by
  obtain ⟨step, hStep, hTable⟩ := h.exists_firstBound
  have hCode : isCodeName "field" = true := rfl
  have hField : FieldBound ⟨source, [(step, shown)]⟩ (fieldOnFirst column)
      (fieldOn (fieldOnFirst column) 1 (some c)) :=
    ⟨hCode, 1, shown, some c, source?_firstStep hStep, .some hColumn, rfl⟩
  obtain ⟨entity, hBound, hFields⟩ := exists_probeBound [_] hHeld (.cons hStep hTable .nil)
    (by simp) (.cons hField .nil)
  have hMem : fieldOn (fieldOnFirst column) 1 (some c) ∈ entity.fields := by
    rw [hFields]
    exact List.mem_singleton_self _
  obtain ⟨own, leads, hOwn, hLeads, hShows⟩ :=
    (hBound.drawsOnTargets_of_forall hAll).fields _ hMem _ rfl 0 rfl
  cases hOwn
  cases (h.target?_eq rfl rfl).symm.trans hLeads
  exact hShows

/-- A second step tells whether the first one shows the table that it leads to. -/
theorem Leads.shown_eq_of_forall (h : Leads catalog source name target shown)
    (hNext : Leads catalog shown further next last)
    (hHeld : Entries.get? catalog held = some source)
    (hAll : ∀ d model, bind catalog d = .ok model →
      List.Forall₂ (DrawsOnTargets catalog) d.entities model.entities) : shown = target := by
  obtain ⟨step, hStep, hTable⟩ := h.exists_firstBound
  have hFirst : (⟨source, [(step, shown)]⟩ : Scope).source? (some "first") = some (1, shown) :=
    source?_firstStep hStep
  have hCode : isCodeName "second" = true := rfl
  have hFresh : (secondStep further).name ∉
      (⟨source, [(step, shown)]⟩ : Scope).steps.map (·.name) := by
    rw [hStep.step_eq]
    simp [Scope.steps, secondStep, firstStep]
  obtain ⟨later, hLater, hLast⟩ := hNext.exists_stepBound hCode hFresh rfl hFirst
  obtain ⟨entity, hBound, _⟩ := exists_probeBound [] hHeld
    (.cons hStep hTable (.cons hLater hLast .nil)) List.nodup_nil .nil
  have hSteps : entity.steps = [step, later] := by rw [hBound.entity_eq]; rfl
  have hSecond : entity.steps[1]? = some later := by rw [hSteps]; rfl
  obtain ⟨n, hLt, own, leads, _, _, hOwn, _, hLeads, hSource, _⟩ :=
    (hBound.drawsOnTargets_of_forall hAll).steps 1 _ _ _ rfl hSecond rfl
  obtain rfl : n = 0 := by omega
  cases hOwn
  cases (h.target?_eq rfl rfl).symm.trans hLeads
  have hShown := Scope.source?_append hFirst [(later, last)]
  exact congrArg Prod.snd (Option.some.inj (hShown.symm.trans hSource))

end Probes

/-- The columns of steps come from the tables that the steps lead to, in all that is bound over
a catalog, if and only if every table that a step can lead to shows itself. -/
theorem draws_on_targets_iff (catalog : Catalog) :
    (∀ d model, bind catalog d = .ok model →
      List.Forall₂ (DrawsOnTargets catalog) d.entities model.entities) ↔
      ShowsTargets catalog := by
  constructor
  · intro hAll
    constructor
    · intro _ _ _ _ _ hHeld hLeads _ _ hColumn
      exact hLeads.shows_of_forall hHeld hAll hColumn
    · intro _ _ _ _ _ hHeld hLeads _ _ _ hNext
      exact hLeads.shown_eq_of_forall hNext hHeld hAll
  · intro hTables d model h
    have hEach (d : EntityDefinition) (basis : Table) (scope : Scope) (own : Entity)
        (link : Option ParentLink) (hBound : EntityBound catalog d basis scope own) :
        DrawsOnTargets catalog d { own with parentLink := link } :=
      ⟨basis, scope, own, link, hBound, rfl, hBound.drawsOnTargets hTables⟩
    cases model with
    | node entity children => exact entities_of_bind hEach d h entity.parentLink

end RowTree.Compile

namespace RowTree.Buyers

open Schema Compile Sales

def buyers : Table := table "Customer" "buyers" [("CustomerID", "id")] []

def customers : Table := table "Customer" "customers" [("CustomerID", "id"), ("Level", "level")] []

def sales : Table :=
  table "Sale" "sales" [("SaleID", "id"), ("CustomerID", "buyer_id")]
    [{ name := "buyer", table := "Buyer", pairs := [same "CustomerID"] }]

/-- A table `Customer` of buyers was given under the name `Buyer`, besides a table of customers. -/
def catalog : Catalog := [("Sale", sales), ("Buyer", buyers), ("Customer", customers)]

def definition : Definition :=
  .node {
    basisTable := some "Sale"
    steps := [{ name := "buyer", join := some "buyer" }]
    fields := [{ name := "SaleID", basisColumn := some "SaleID" },
      { name := "Level", basisColumn := some "Level", step := some "buyer" }] } []

def sale : Entity where
  name := "Sale"
  basisTable := ⟨"Sale", "sales"⟩
  steps := [⟨"buyer", 1, false, ⟨"buyer", ⟨"Customer", "buyers"⟩, [⟨.column 0 "buyer_id", "id"⟩]⟩⟩]
  fields := [{ name := "SaleID", column := some ⟨"SaleID", "id"⟩ },
    { name := "Level", column := some ⟨"Level", "level"⟩, step := 1 }]
  key := some 0

def model : Model := .node sale []

/-- The level of a buyer is read from a table that has no such column. -/
theorem level_not_of_buyers : Compile.bind catalog definition = .ok model ∧
    Entries.get? catalog "Buyer" = some buyers ∧ ¬ buyers.Shows ⟨"Level", "level"⟩ ∧
    ¬ List.Forall₂ (DrawsOnTargets catalog) definition.entities model.entities := by
  have hBind : Compile.bind catalog definition = .ok model := rfl
  have hShows : ¬ buyers.Shows ⟨"Level", "level"⟩ := by
    simp [Table.Shows, buyers, table]
  refine ⟨hBind, rfl, hShows, ?_⟩
  intro h
  cases h with
  | cons hOwn _ =>
    obtain ⟨basis, scope, own, link, hBound, hEntity, hDraws⟩ := hOwn
    obtain ⟨_, hHeld, hBasis⟩ := hBound.basisTable
    cases hHeld
    obtain rfl : sales = basis := Option.some.inj hBasis
    have hFields : own.fields = sale.fields := (congrArg Entity.fields hEntity).symm
    obtain ⟨step, target, hStep, hTarget, hLevel⟩ :=
      hDraws.fields { name := "Level", column := some ⟨"Level", "level"⟩, step := 1 }
        (by simp [hFields, sale]) _ rfl 0 rfl
    cases hStep
    have hScope : scope.basis = sales := hBound.steps.basis_eq
    simp only [Scope.target?, Scope.source?, hScope] at hTarget
    cases hTarget
    exact hShows hLevel

end RowTree.Buyers
