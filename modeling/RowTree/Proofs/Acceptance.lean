import RowTree.Compile.Missing
import RowTree.Proofs.Definitions
import RowTree.Proofs.Scoping

/-!
# Which definitions are bound

Binding accepts the well-formed definitions and no other. The steps that are bound so far
follow those of the definition: the scope gives a name the table that the name stands for.
-/

namespace RowTree.Compile

open Schema Outcome

variable {catalog : Catalog} {scope : Scope} {done : List StepDefinition} {model : String}

theorem PairBound.wellFormed {index : Nat} {source target : Table} {pair : JoinPair}
    {term : JoinTerm} (h : PairBound index source target pair term) :
    pair.WellFormed source target := by
  obtain ⟨⟨column, hColumn, _⟩, hSource⟩ := h
  refine ⟨Table.hasColumn_iff.mpr ⟨column, hColumn⟩, ?_⟩
  generalize term.source = origin at hSource
  cases hSource with
  | constant hConstant => exact .inl ⟨_, hConstant⟩
  | column _ hNamed hFound => exact .inr ⟨_, hNamed, Table.hasColumn_iff.mpr ⟨_, hFound⟩⟩

theorem exists_pairBound (index : Nat) {source target : Table} {pair : JoinPair}
    (h : pair.WellFormed source target) : ∃ term, PairBound index source target pair term := by
  obtain ⟨column, hColumn⟩ := Table.hasColumn_iff.mp h.target
  cases hConstant : pair.constant with
  | some text => exact ⟨⟨_, _⟩, ⟨column, hColumn, rfl⟩, .constant hConstant⟩
  | none =>
    rcases h.source with ⟨text, hText⟩ | ⟨name, hNamed, hHas⟩
    · rw [hConstant] at hText
      cases hText
    · obtain ⟨found, hFound⟩ := Table.hasColumn_iff.mp hHas
      exact ⟨⟨_, _⟩, ⟨column, hColumn, rfl⟩, .column hConstant hNamed hFound⟩

/-- The scope holds what the steps lead to, and the steps keep the rules. -/
structure Follows (catalog : Catalog) (scope : Scope) (done : List StepDefinition) : Prop where
  names : scope.steps.map (·.name) = done.map (·.name)
  stands : ∀ previous table, StandsFor catalog scope.basis done previous table ↔
    ∃ index, scope.source? previous = some (index, table)
  wellFormed : ∀ before d, before ++ [d] <+: done → d.WellFormed catalog scope.basis before

theorem follows_nil (catalog : Catalog) (basis : Table) : Follows catalog ⟨basis, []⟩ [] where
  names := rfl
  stands previous table := by
    cases previous with
    | none => simp [standsFor_none_iff, Scope.source?, eq_comm]
    | some name =>
      constructor
      · intro h
        cases h with
        | step among => simp at among
      · rintro ⟨_, h⟩
        cases h
  wellFormed _ _ among := by simp at among

theorem source?_eq_some_of_mem {name : String} (h : name ∈ scope.steps.map (·.name)) :
    ∃ index table, scope.source? (some name) = some (index, table) := by
  obtain ⟨step, hStep, rfl⟩ := List.mem_map.mp h
  obtain ⟨entry, hEntry, rfl⟩ := List.mem_map.mp hStep
  have hFound : (scope.joined.find? (·.1.name == entry.1.name)).isSome = true :=
    List.find?_isSome.mpr ⟨entry, hEntry, beq_self_eq_true _⟩
  obtain ⟨found, hFound⟩ := Option.isSome_iff_exists.mp hFound
  exact ⟨found.1.index, found.2, by rw [Scope.source?, hFound, Option.map_some]⟩

theorem mem_of_source?_eq_some {name : String} {index : Nat} {table : Table}
    (h : scope.source? (some name) = some (index, table)) : name ∈ scope.steps.map (·.name) := by
  obtain ⟨entry, hEntry, _⟩ := Option.map_eq_some_iff.mp h
  refine List.mem_map.mpr ⟨entry.1, List.mem_map_of_mem (List.mem_of_find?_eq_some hEntry), ?_⟩
  simpa using List.find?_some hEntry

theorem source?_concat_iff {step : Step} {table found : Table} {name : String}
    (hFresh : step.name ∉ scope.steps.map (·.name)) :
    (∃ index, { scope with joined := scope.joined ++ [(step, table)] : Scope }.source?
        (some name) = some (index, found)) ↔
      (∃ index, scope.source? (some name) = some (index, found)) ∨
        step.name = name ∧ table = found := by
  simp only [Scope.source?, List.find?_append, Option.map_or]
  by_cases hName : step.name = name
  · subst hName
    have hNone : scope.joined.find? (·.1.name == step.name) = none := by
      rw [List.find?_eq_none]
      intro entry hEntry hSame
      exact hFresh (List.mem_map.mpr ⟨entry.1, List.mem_map_of_mem hEntry, beq_iff_eq.mp hSame⟩)
    simp [hNone]
  · simp [hName]

namespace Follows

theorem previous (h : Follows catalog scope done) {name : Option String} :
    (∀ n, name = some n → n ∈ done.map (·.name)) ↔
      ∃ index table, scope.source? name = some (index, table) := by
  cases name with
  | none => simp [Scope.source?]
  | some name =>
    rw [← h.names]
    constructor
    · intro hMem
      exact source?_eq_some_of_mem (hMem name rfl)
    · rintro ⟨index, table, hSource⟩ n hName
      cases hName
      exact mem_of_source?_eq_some hSource

theorem eq_of_standsFor (h : Follows catalog scope done) {name : Option String} {index : Nat}
    {table other : Table} (hSource : scope.source? name = some (index, table))
    (hOther : StandsFor catalog scope.basis done name other) : other = table := by
  obtain ⟨_, hFound⟩ := (h.stands name other).mp hOther
  rw [hSource] at hFound
  cases hFound
  rfl

variable {d : StepDefinition} {step : Step} {table : Table}

theorem wellFormed_step (h : Follows catalog scope done) (hStep : StepBound catalog scope d step) :
    d.WellFormed catalog scope.basis done := by
  obtain ⟨joinName, index, source, target, hJoinName, hSource, ⟨join, hJoin, hTarget, hPairs,
    hTerms⟩, _⟩ := hStep.join
  refine ⟨hStep.name, h.names ▸ hStep.fresh, h.previous.mpr ⟨index, source, hSource⟩, joinName,
    hJoinName, ?_⟩
  intro other hOther
  cases h.eq_of_standsFor hSource hOther
  refine ⟨join, hJoin, hPairs, ?_⟩
  intro held hHeld pair hPair
  rw [hTarget] at hHeld
  cases hHeld
  obtain ⟨_, _, hBound⟩ := exists_of_mem_left hTerms hPair
  exact hBound.wellFormed

theorem leads_iff (hNames : OwnNames catalog) (h : Follows catalog scope done)
    (hStep : StepBound catalog scope d step)
    (hTable : Entries.get? catalog step.join.table.name = some table) {found : Table} :
    d.Leads catalog scope.basis done found ↔ table = found := by
  obtain ⟨joinName, index, source, target, hJoinName, hSource, hBound⟩ := hStep.join
  obtain rfl := hBound.eq_of_held hNames hTable
  obtain ⟨join, hJoin, hTarget, _⟩ := hBound.join
  constructor
  · rintro ⟨otherName, other, otherJoin, hOther, hOtherName, hOtherJoin, hFound⟩
    cases h.eq_of_standsFor hSource hOther
    cases hJoinName.symm.trans hOtherName
    cases hJoin.symm.trans hOtherJoin
    exact Option.some.inj (hTarget.symm.trans hFound)
  · rintro rfl
    exact ⟨joinName, source, join, (h.stands _ _).mpr ⟨index, hSource⟩, hJoinName, hJoin, hTarget⟩

theorem concat (hNames : OwnNames catalog) (h : Follows catalog scope done)
    (hStep : StepBound catalog scope d step)
    (hTable : Entries.get? catalog step.join.table.name = some table) :
    Follows catalog { scope with joined := scope.joined ++ [(step, table)] } (done ++ [d]) where
  names := by
    have hName : step.name = d.name := by rw [hStep.step_eq]
    have hEarlier := h.names
    simp only [Scope.steps] at hEarlier ⊢
    rw [List.map_append, List.map_append, List.map_append, hEarlier]
    simp [hName]
  stands previous found := by
    cases previous with
    | none => simp [standsFor_none_iff, Scope.source?, eq_comm]
    | some name =>
      have hName : step.name = d.name := by rw [hStep.step_eq]
      -- Either name is one of before, or it is the name of the step that is added.
      rw [standsFor_concat_iff, h.stands, h.leads_iff hNames hStep hTable,
        source?_concat_iff (hName ▸ hStep.fresh), hName]
  wellFormed before e among := by
    rcases List.prefix_concat_iff.mp among with hLast | hEarlier
    · obtain ⟨rfl, hEq⟩ := List.append_inj' hLast rfl
      cases hEq
      exact h.wellFormed_step hStep
    · exact h.wellFormed before e hEarlier

end Follows

theorem StepsBound.follows (hNames : OwnNames catalog) {ds : List StepDefinition} {last : Scope}
    (h : StepsBound catalog scope ds last) (hScope : Follows catalog scope done) :
    Follows catalog last (done ++ ds) := by
  induction h generalizing done with
  | nil => simpa using hScope
  | cons hStep hTable _ ih => simpa using ih (hScope.concat hNames hStep hTable)

/-- The steps so far, each with the table it leads to, as missing tables are looked for. -/
def Scope.targets (scope : Scope) : Entries String :=
  scope.joined.map fun entry => (entry.1.name, entry.2.name)

theorem get?_targets (scope : Scope) (name : String) :
    scope.targets.get? name = (scope.source? (some name)).map (·.2.name) := by
  rw [Scope.targets, Scope.source?]
  induction scope.joined with
  | nil => rfl
  | cons entry rest ih =>
    rw [List.map_cons, Entries.get?, List.find?_cons]
    by_cases hName : entry.1.name = name
    · simp [hName]
    · rw [if_neg hName, ih, beq_eq_false_iff_ne.mpr hName]

theorem target?_eq_some (hSound : scope.Sound catalog) {d : StepDefinition} {name : String}
    {index : Nat} {source : Table} {join : Join}
    (hSource : scope.source? d.previousStep = some (index, source)) (hName : d.join = some name)
    (hJoin : source.join? name = some join) :
    target? catalog scope.basis scope.targets d = some join.table := by
  have hHeld := hSound.held (hSound.table?_of_source? hSource)
  unfold target?
  cases hPrevious : d.previousStep with
  | none =>
    rw [hPrevious] at hSource
    cases hSource
    simp [hName, hJoin]
  | some previous =>
    rw [hPrevious] at hSource
    simp [get?_targets, hSource, hHeld, hName, hJoin]

theorem StepBound.target?_eq (hNames : OwnNames catalog) (hSound : scope.Sound catalog)
    {d : StepDefinition} {step : Step} {table : Table} (h : StepBound catalog scope d step)
    (hTable : Entries.get? catalog step.join.table.name = some table) :
    target? catalog scope.basis scope.targets d = some table.name := by
  obtain ⟨name, index, source, target, hName, hSource, hBound⟩ := h.join
  obtain rfl := hBound.eq_of_held hNames hTable
  obtain ⟨join, hJoin, hTarget, _⟩ := hBound.join
  rw [hNames _ _ hTarget]
  exact target?_eq_some hSound hSource hName hJoin

theorem held_of_stepsMissing {basis : Table} {targets : Entries String} {d : StepDefinition}
    {rest : List StepDefinition} (h : stepsMissing catalog basis targets (d :: rest) = [])
    {name : String} (hTarget : target? catalog basis targets d = some name) :
    Entries.contains catalog name = true := by
  by_contra hMissing
  simp [stepsMissing, hTarget, hMissing] at h

/-- What is missing of later steps is looked for with the name of the bound step's table added. -/
theorem StepBound.stepsMissing_rest (hNames : OwnNames catalog) (hSound : scope.Sound catalog)
    {d : StepDefinition} {step : Step} {table : Table} {rest : List StepDefinition}
    (h : StepBound catalog scope d step)
    (hTable : Entries.get? catalog step.join.table.name = some table)
    (hTables : stepsMissing catalog scope.basis scope.targets (d :: rest) = []) :
    stepsMissing catalog scope.basis
      { scope with joined := scope.joined ++ [(step, table)] : Scope }.targets rest = [] := by
  have hTarget := h.target?_eq hNames hSound hTable
  have hName : step.name = d.name := by rw [h.step_eq]
  have hTargets : { scope with joined := scope.joined ++ [(step, table)] : Scope }.targets =
      scope.targets ++ [(d.name, table.name)] := by
    simp [Scope.targets, hName]
  rw [hTargets]
  simpa [stepsMissing, hTarget, held_of_stepsMissing hTables hTarget] using hTables

theorem exists_stepBound (hNames : OwnNames catalog) (hFollows : Follows catalog scope done)
    (hSound : scope.Sound catalog) {d : StepDefinition}
    (h : d.WellFormed catalog scope.basis done)
    (hHeld : ∀ name, target? catalog scope.basis scope.targets d = some name →
      Entries.contains catalog name = true) :
    ∃ step table, StepBound catalog scope d step ∧
      Entries.get? catalog step.join.table.name = some table := by
  obtain ⟨index, source, hSource⟩ := hFollows.previous.mp h.previous
  obtain ⟨name, hName, hRule⟩ := h.join
  obtain ⟨join, hJoin, hPairs, hTarget⟩ := hRule source ((hFollows.stands _ _).mpr ⟨index, hSource⟩)
  obtain ⟨table, hTable⟩ := Option.isSome_iff_exists.mp
    (hHeld _ (target?_eq_some hSound hSource hName hJoin))
  obtain ⟨terms, hTerms⟩ := exists_forall₂ fun pair hPair =>
    exists_pairBound index (hTarget table hTable pair hPair)
  refine ⟨⟨d.name, scope.joined.length + 1, d.required, name, ⟨table.name, table.storageName⟩,
    terms⟩, table, ⟨h.name, hFollows.names ▸ h.fresh, ?_, rfl⟩, ?_⟩
  · exact ⟨name, index, source, table, hName, hSource, ⟨join, hJoin, hTable, hPairs, hTerms⟩,
      rfl, rfl⟩
  · rw [hNames _ _ hTable]
    exact hTable

theorem exists_stepsBound (hNames : OwnNames catalog) {ds : List StepDefinition}
    (hFollows : Follows catalog scope done) (hSound : scope.Sound catalog)
    (h : ∀ before d, before ++ [d] <+: done ++ ds → d.WellFormed catalog scope.basis before)
    (hTables : stepsMissing catalog scope.basis scope.targets ds = []) :
    ∃ last, StepsBound catalog scope ds last := by
  induction ds generalizing done scope with
  | nil => exact ⟨scope, .nil⟩
  | cons d rest ih =>
    obtain ⟨step, table, hStep, hTable⟩ := exists_stepBound hNames hFollows hSound
      (h done d ⟨rest, by simp⟩) fun _ => held_of_stepsMissing hTables
    obtain ⟨last, hLast⟩ := ih (hFollows.concat hNames hStep hTable)
      (hSound.append hNames hStep hTable) (by simpa using h)
      (hStep.stepsMissing_rest hNames hSound hTable hTables)
    exact ⟨last, .cons hStep hTable hLast⟩

theorem FieldBound.wellFormed (hFollows : Follows catalog scope done) {d : FieldDefinition}
    {field : Field} (h : FieldBound scope d field) : d.WellFormed catalog scope.basis done := by
  obtain ⟨index, table, column, hSource, hColumn, _⟩ := h.column
  refine ⟨h.name, hFollows.previous.mpr ⟨index, table, hSource⟩, ?_⟩
  intro name hName other hOther
  cases hFollows.eq_of_standsFor hSource hOther
  rw [hName] at hColumn
  cases hColumn with
  | some hFound => exact Table.hasColumn_iff.mpr ⟨_, hFound⟩

theorem exists_fieldBound (hFollows : Follows catalog scope done) {d : FieldDefinition}
    (h : d.WellFormed catalog scope.basis done) : ∃ field, FieldBound scope d field := by
  obtain ⟨index, table, hSource⟩ := hFollows.previous.mp h.step
  have hColumn : ∃ column, ColumnBound table d.basisColumn column := by
    cases hName : d.basisColumn with
    | none => exact ⟨none, .none⟩
    | some name =>
      have hHas := h.column name hName table ((hFollows.stands _ _).mpr ⟨index, hSource⟩)
      obtain ⟨column, hFound⟩ := Table.hasColumn_iff.mp hHas
      exact ⟨some column, .some hFound⟩
  obtain ⟨column, hColumn⟩ := hColumn
  exact ⟨fieldOn d index column, h.name, index, table, column, hSource, hColumn, rfl⟩

/-- Two fields that go by one name, and either both have a column or both have none. -/
def SameShape (field other : Field) : Prop :=
  field.name = other.name ∧ field.column.isSome = other.column.isSome

theorem FieldBound.sameShape {d : FieldDefinition} {field : Field} (h : FieldBound scope d field) :
    SameShape d.sketch field :=
  ⟨h.name_eq.symm, by rw [h.isSome_column, FieldDefinition.sketch, Option.isSome_map]⟩

theorem hasColumn_iff_of_fieldsBound {ds : List FieldDefinition} {fields : List Field}
    (h : List.Forall₂ (FieldBound scope) ds fields) {name : String} :
    hasColumn fields name = true ↔ ∃ d ∈ ds, d.name = name ∧ d.basisColumn.isSome = true := by
  rw [hasColumn_iff]
  constructor
  · rintro ⟨field, hField, hName, hColumn⟩
    obtain ⟨d, hMem, hBound⟩ := exists_of_mem_left h.flip hField
    exact ⟨d, hMem, hBound.name_eq ▸ hName, hBound.isSome_column ▸ hColumn⟩
  · rintro ⟨d, hMem, hName, hColumn⟩
    obtain ⟨field, hField, hBound⟩ := exists_of_mem_left h hMem
    exact ⟨field, hField, hBound.name_eq ▸ hName, hBound.isSome_column ▸ hColumn⟩

theorem isSome_storageName_iff {fields : List Field} (h : (fields.map (·.name)).Nodup)
    {name : String} :
    ((findField? fields name).bind Field.storageName?).isSome = true ↔
      hasColumn fields name = true := by
  rw [hasColumn_iff]
  constructor
  · intro hSome
    obtain ⟨column, hColumn⟩ := Option.isSome_iff_exists.mp hSome
    obtain ⟨field, hFound, hColumn⟩ := Option.bind_eq_some_iff.mp hColumn
    refine ⟨field, List.mem_of_find?_eq_some hFound, by simpa using List.find?_some hFound, ?_⟩
    obtain ⟨bound, hBound, _⟩ := Option.map_eq_some_iff.mp hColumn
    rw [hBound, Option.isSome_some]
  · rintro ⟨field, hField, rfl, hColumn⟩
    rw [findField?, find?_of_nodup h hField, Option.bind_some, Field.storageName?,
      Option.isSome_map]
    exact hColumn

/-- Whether a filter text can be read depends on the names of the fields and on which of them
have a column, and on nothing else about them. -/
theorem isSome_expr?_congr {fields others : List Field} (h : List.Forall₂ SameShape fields others)
    (name : String) : ((findField? fields name).bind Field.expr?).isSome =
      ((findField? others name).bind Field.expr?).isSome := by
  induction h with
  | nil => rfl
  | cons hFirst _ ih =>
    obtain ⟨hName, hColumn⟩ := hFirst
    simp only [findField?, List.find?_cons] at ih ⊢
    rw [hName]
    split
    · simpa [Field.expr?, Field.storageName?] using hColumn
    · exact ih

theorem ok_predicate {column e : Sql.Expr} {op : FilterText.Operator} {text : List Char}
    (h : FilterText.predicate column op text = .ok e) (other : Sql.Expr) :
    ∃ e, FilterText.predicate other op text = .ok e := by
  cases op with
  | before | after =>
    rw [FilterText.predicate] at h ⊢
    cases hDate : FilterText.date text with
    | error problem =>
      rw [hDate] at h
      cases h
    | ok moment => exact ⟨_, rfl⟩
  | _ => exact ⟨_, rfl⟩

theorem ok_readClause {fields others : List Field} (hShape : List.Forall₂ SameShape fields others)
    {text : List Char} {e : Sql.Expr} (h : FilterText.readClause fields text = .ok e) :
    ∃ e, FilterText.readClause others text = .ok e := by
  unfold FilterText.readClause at h ⊢
  split at h
  · cases h
  · rename_i clause hClause
    split at h
    · cases h
    · rename_i column hColumn
      have hSame := isSome_expr?_congr hShape (String.ofList clause.field)
      rw [hColumn, Option.isSome_some] at hSame
      obtain ⟨other, hOther⟩ := Option.isSome_iff_exists.mp hSame.symm
      rw [hOther]
      exact ok_predicate h other

theorem ok_read {fields others : List Field} (hShape : List.Forall₂ SameShape fields others)
    {text : String} {filter : Option Sql.Expr} (h : FilterText.read text fields = .ok filter) :
    ∃ filter, FilterText.read text others = .ok filter := by
  unfold FilterText.read at h ⊢
  dsimp only at h ⊢
  split at h
  · rename_i hBlank
    rw [if_pos hBlank]
    exact ⟨_, rfl⟩
  · rename_i hBlank
    rw [if_neg hBlank]
    split at h
    · rename_i predicates hAll
      have hEach : ∀ clause ∈ FilterText.pieces (Text.trim text.toList),
          ∃ e, FilterText.readClause others clause = .ok e := by
        intro clause hClause
        obtain ⟨_, _, hRead⟩ := exists_of_mem_left (mapM_eq_ok.mp hAll) hClause
        exact ok_readClause hShape hRead
      obtain ⟨more, hMore⟩ := exists_forall₂ hEach
      rw [mapM_eq_ok.mpr hMore]
      exact ⟨_, rfl⟩
    · cases h

theorem sameShape_of_fieldsBound {ds : List FieldDefinition} {fields : List Field}
    (h : List.Forall₂ (FieldBound scope) ds fields) :
    List.Forall₂ SameShape (ds.map FieldDefinition.sketch) fields :=
  List.forall₂_map_left_iff.mpr (h.imp fun _ _ => FieldBound.sameShape)

section Entities

variable {d : EntityDefinition} {entity : Entity} {basis : Table}

theorem EntityBound.hasColumn_iff (h : EntityBound catalog d basis scope entity) {name : String} :
    hasColumn entity.fields name = true ↔ d.HasColumn name :=
  hasColumn_iff_of_fieldsBound h.fields

theorem EntityBound.follows (hNames : OwnNames catalog)
    (h : EntityBound catalog d basis scope entity) : Follows catalog scope d.steps :=
  h.steps.follows hNames (follows_nil catalog basis)

theorem EntityBound.wellFormed (hNames : OwnNames catalog)
    (h : EntityBound catalog d basis scope entity) : d.WellFormed catalog := by
  have hFollows := h.follows hNames
  obtain ⟨name, hName, hBasis⟩ := h.basisTable
  have hSame : ∀ other table, d.basisTable = some other → Entries.get? catalog other = some table →
      table = scope.basis := by
    intro other table hOther hTable
    cases hName.symm.trans hOther
    rw [h.steps.basis_eq]
    exact Option.some.inj (hTable.symm.trans hBasis)
  constructor
  · exact h.name
  · exact ⟨name, hName⟩
  · intro other table hOther hTable
    rw [hSame other table hOther hTable]
    exact hFollows.wellFormed
  · intro other table hOther hTable field hField
    rw [hSame other table hOther hTable]
    obtain ⟨_, _, hBound⟩ := exists_of_mem_left h.fields hField
    exact hBound.wellFormed hFollows
  · exact h.distinct
  · exact fun entry hEntry => h.hasColumn_iff.mp (h.order entry hEntry)
  · intro text hText
    have hFilter := h.filter
    rw [hText] at hFilter
    cases hFilter with
    | some hRead =>
      have hShape := (sameShape_of_fieldsBound h.fields).flip
      exact ok_read (hShape.imp fun _ _ hSame => ⟨hSame.1.symm, hSame.2.symm⟩) hRead

/-- A catalog that misses nothing of an entity holds its basis table. -/
theorem held_of_entityMissing (hTables : entityMissing catalog d = []) {name : String}
    (hName : d.basisTable = some name) : ∃ basis, Entries.get? catalog name = some basis ∧
      stepsMissing catalog basis [] d.steps = [] := by
  unfold entityMissing at hTables
  rw [hName] at hTables
  dsimp only at hTables
  split at hTables
  · cases hTables
  · rename_i basis hBasis
    exact ⟨basis, hBasis, hTables⟩

theorem exists_entityBound (hNames : OwnNames catalog) (hTables : entityMissing catalog d = [])
    (h : d.WellFormed catalog) :
    ∃ basis scope entity, EntityBound catalog d basis scope entity := by
  obtain ⟨name, hName⟩ := h.basisTable
  obtain ⟨basis, hBasis, hSteps⟩ := held_of_entityMissing hTables hName
  have hStart : (⟨basis, []⟩ : Scope).Sound catalog := sound_nil hNames hBasis
  obtain ⟨scope, hScope⟩ := exists_stepsBound hNames (follows_nil catalog basis) hStart
    (h.steps name basis hName hBasis) hSteps
  have hFollows := hScope.follows hNames (follows_nil catalog basis)
  have hBasisEq : scope.basis = basis := hScope.basis_eq
  obtain ⟨fields, hFields⟩ := exists_forall₂ fun field hField =>
    exists_fieldBound hFollows (hBasisEq.symm ▸ h.fields name basis hName hBasis field hField)
  have hFilter : ∃ filter, FilterBound fields d.filter filter := by
    cases hText : d.filter with
    | none => exact ⟨none, .none⟩
    | some text =>
      obtain ⟨_, hRead⟩ := h.filter text hText
      obtain ⟨filter, hRead⟩ := ok_read (sameShape_of_fieldsBound hFields) hRead
      exact ⟨filter, .some hRead⟩
  obtain ⟨filter, hFilter⟩ := hFilter
  let entity : Entity := {
    name := d.displayName
    basisTable := ⟨basis.name, basis.storageName⟩
    steps := scope.steps
    fields := fields
    key := keyPosition? basis fields
    orderBy := d.orderBy.map fun o => ⟨o.fieldName, o.direction⟩
    filter := filter
    limit := d.limit }
  exact ⟨basis, scope, entity, h.name, ⟨name, hName, hBasis⟩, hScope, hFields, h.distinct,
    fun entry hEntry => (hasColumn_iff_of_fieldsBound hFields).mpr (h.order entry hEntry),
    hFilter, rfl⟩

theorem EntityBound.name_eq (h : EntityBound catalog d basis scope entity) :
    entity.name = d.displayName := by
  rw [h.entity_eq]

theorem EntityBound.isSome_storageName_iff (h : EntityBound catalog d basis scope entity)
    {name : String} :
    ((entity.field? name).bind Field.storageName?).isSome = true ↔ d.HasColumn name := by
  have hFields : (entity.fields.map (·.name)).Nodup := names_of_fieldsBound h.fields ▸ h.distinct
  rw [← h.hasColumn_iff]
  exact Compile.isSome_storageName_iff hFields

/-- Two bound entities can be linked if and only if their definitions say how. -/
theorem exists_linkBound_iff {child : EntityDefinition} {own : Entity} {childBasis : Table}
    {childScope : Scope} (h : EntityBound catalog d basis scope entity)
    (hChild : EntityBound catalog child childBasis childScope own) :
    (∃ linked, LinkBound entity child own linked) ↔ d.Links child := by
  constructor
  · rintro ⟨_, link, hDeclares, hParent, hColumn, _⟩
    exact ⟨link, hDeclares, h.hasColumn_iff.mp hParent, hChild.isSome_storageName_iff.mp hColumn⟩
  · rintro ⟨link, hDeclares, hParent, hColumn⟩
    exact ⟨_, link, hDeclares, h.hasColumn_iff.mpr hParent,
      hChild.isSome_storageName_iff.mpr hColumn, rfl⟩

end Entities

theorem entityBound_of_bind {d : Definition} {model : Model} (h : bind catalog d = .ok model) :
    ∃ basis scope, EntityBound catalog d.entity basis scope model.entity := by
  cases d with
  | node d children =>
    obtain ⟨entity, models, hEntity, _, rfl⟩ := bind_eq_ok_iff.mp h
    exact bindEntity_eq_ok_iff.mp hEntity

mutual

theorem wellFormed_of_bound (hNames : OwnNames catalog) (d : Definition) {model : Model}
    (h : bind catalog d = .ok model) : d.WellFormed catalog := by
  cases d with
  | node d children =>
    obtain ⟨entity, models, hEntity, hModels, rfl⟩ := bind_eq_ok_iff.mp h
    obtain ⟨basis, scope, hBound⟩ := bindEntity_eq_ok_iff.mp hEntity
    obtain ⟨links, below, names⟩ := wellFormed_of_boundChildren hNames hBound children hModels
      List.nodup_nil
    exact .node (hBound.wellFormed hNames) links names below

theorem wellFormed_of_boundChildren (hNames : OwnNames catalog) {d : EntityDefinition}
    {basis : Table} {scope : Scope} {entity : Entity}
    (hParent : EntityBound catalog d basis scope entity) (children : List Definition)
    {bound models : List Model} (h : bindChildren catalog entity bound children = .ok models)
    (hBound : (bound.map Model.name).Nodup) :
    (∀ child ∈ children, d.Links child.entity) ∧
      (∀ child ∈ children, child.WellFormed catalog) ∧
      (bound.map Model.name ++ children.map (·.entity.displayName)).Nodup := by
  cases children with
  | nil => simpa using hBound
  | cons first rest =>
    obtain ⟨own, linked, hOwn, hLink, hFresh, hRest⟩ := bindChildren_cons_eq_ok_iff.mp h
    obtain ⟨_, _, hFirst⟩ := entityBound_of_bind hOwn
    have hName : linked.name = first.entity.displayName := hLink.name_eq.trans hFirst.name_eq
    have hNext : ((bound ++ [Model.node linked own.children]).map Model.name).Nodup :=
      nodup_append_fresh (a := Model.node linked own.children) hBound hFresh
    obtain ⟨links, below, names⟩ := wellFormed_of_boundChildren hNames hParent rest hRest hNext
    refine ⟨List.forall_mem_cons.mpr ⟨?_, links⟩, List.forall_mem_cons.mpr ⟨?_, below⟩, ?_⟩
    · exact (exists_linkBound_iff hParent hFirst).mp ⟨linked, hLink⟩
    · exact wellFormed_of_bound hNames first hOwn
    · simpa [Model.name, Model.entity, hName] using names

end

mutual

theorem exists_bound (hNames : OwnNames catalog) (d : Definition)
    (hTables : missing catalog d = []) (h : d.WellFormed catalog) :
    ∃ model, bind catalog d = .ok model := by
  cases d with
  | node d children =>
    obtain ⟨hOwn, hBelow⟩ := List.append_eq_nil_iff.mp hTables
    cases h with
    | node own links names below =>
      obtain ⟨basis, scope, entity, hBound⟩ := exists_entityBound hNames hOwn own
      obtain ⟨models, hModels⟩ := exists_boundChildren hNames hBound children hBelow [] links
        below names
      exact ⟨_, bind_eq_ok_iff.mpr
        ⟨entity, models, bindEntity_eq_ok_iff.mpr ⟨basis, scope, hBound⟩, hModels, rfl⟩⟩

theorem exists_boundChildren (hNames : OwnNames catalog) {d : EntityDefinition}
    {basis : Table} {scope : Scope} {entity : Entity}
    (hParent : EntityBound catalog d basis scope entity) (children : List Definition)
    (hTables : missingOfAll catalog children = []) (bound : List Model)
    (links : ∀ child ∈ children, d.Links child.entity)
    (below : ∀ child ∈ children, child.WellFormed catalog)
    (names : (bound.map Model.name ++ children.map (·.entity.displayName)).Nodup) :
    ∃ models, bindChildren catalog entity bound children = .ok models := by
  cases children with
  | nil => exact ⟨bound, rfl⟩
  | cons first rest =>
    obtain ⟨hOwn, hRest⟩ := List.append_eq_nil_iff.mp hTables
    obtain ⟨hLinks, links⟩ := List.forall_mem_cons.mp links
    obtain ⟨hBelow, below⟩ := List.forall_mem_cons.mp below
    obtain ⟨own, hBind⟩ := exists_bound hNames first hOwn hBelow
    obtain ⟨_, _, hFirst⟩ := entityBound_of_bind hBind
    obtain ⟨linked, hLink⟩ := (exists_linkBound_iff hParent hFirst).mpr hLinks
    have hName : linked.name = first.entity.displayName := hLink.name_eq.trans hFirst.name_eq
    have hFresh : linked.name ∉ bound.map Model.name := by
      intro hMem
      exact (List.nodup_append.mp names).2.2 _ hMem _ List.mem_cons_self hName
    obtain ⟨models, hModels⟩ := exists_boundChildren hNames hParent rest hRest
      (bound ++ [.node linked own.children]) links below
      (by simpa [Model.name, Model.entity, hName] using names)
    exact ⟨models, bindChildren_cons_eq_ok_iff.mpr ⟨own, linked, hBind, hLink, hFresh, hModels⟩⟩

end

/-- Over a catalog that holds what the definition needs, binding succeeds if and only if the
definition keeps the rules. -/
theorem binds_iff_wellFormed (hNames : OwnNames catalog) {d : Definition}
    (hTables : missing catalog d = []) :
    (∃ model, bind catalog d = .ok model) ↔ d.WellFormed catalog := by
  constructor
  · rintro ⟨model, h⟩
    exact wellFormed_of_bound hNames d h
  · exact exists_bound hNames d hTables

end RowTree.Compile

namespace RowTree.Sales

open Compile

/-- The sales of a customer keep the rules and are bound. -/
theorem sales_wellFormed : OwnNames catalog ∧ missing catalog definition = [] ∧
    Compile.bind catalog definition = .ok model ∧ definition.WellFormed catalog :=
  have hNames := ownNames_ofTables _
  have hTables : missing catalog definition = [] := rfl
  have hBind : Compile.bind catalog definition = .ok model := rfl
  ⟨hNames, hTables, hBind, (binds_iff_wellFormed hNames hTables).mp ⟨model, hBind⟩⟩

end RowTree.Sales
