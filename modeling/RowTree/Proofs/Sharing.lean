import RowTree.Compile
import RowTree.Proofs.Blame

/-!
# Compilers that share what they know

What a compiler knows from earlier on saves it questions and changes no model. A complete catalog
binds a definition just as a larger one does; and when a definition is bound over one catalog,
all that it needs can be had from the provider, so that resolving succeeds from any other.
-/

namespace RowTree.Schema.Catalog

/-- What the catalog holds under a name is the answer for that name. -/
def Agrees (answer : String → Except Error Table) (catalog : Catalog) : Prop :=
  ∀ name table, Entries.get? catalog name = some table → answer name = .ok table

end RowTree.Schema.Catalog

namespace RowTree.Compile

open Schema Entries Outcome

variable {catalog small large : Catalog} {model : String} {scope : Scope}

theorem table_of_extends (h : small.Extends large) {name : String} {table : Table}
    (hTable : get? small name = some table) : large.table name = small.table name := by
  rw [table_eq_ok_iff.mpr hTable, table_eq_ok_iff.mpr (h _ _ hTable)]

theorem bindStep_of_extends (h : small.Extends large) (hSound : scope.Sound small)
    {d : StepDefinition} (hHeld : ∀ name, target? small scope.basis scope.targets d = some name →
      contains small name = true) :
    bindStep large model scope d = bindStep small model scope d := by
  unfold bindStep
  refine bind_congr_ok fun _ _ => ?_
  dsimp only
  split
  · rfl
  · refine bind_congr_ok fun joinName hJoinName => ?_
    refine bind_congr_ok fun ⟨index, source⟩ hSource => ?_
    refine bind_congr_ok fun join hJoin => ?_
    have hTarget := target?_eq_some hSound (need_eq_ok_iff.mp hSource)
      (need_eq_ok_iff.mp hJoinName) (need_eq_ok_iff.mp hJoin)
    obtain ⟨table, hTable⟩ := Option.isSome_iff_exists.mp (hHeld _ hTarget)
    rw [table_of_extends h hTable]

theorem bindSteps_of_extends (hNames : OwnNames small) (h : small.Extends large)
    {ds : List StepDefinition} (hSound : scope.Sound small)
    (hTables : stepsMissing small scope.basis scope.targets ds = []) :
    bindSteps large model scope ds = bindSteps small model scope ds := by
  induction ds generalizing scope with
  | nil => rfl
  | cons d rest ih =>
    rw [bindSteps, bindSteps, bindStep_of_extends h hSound fun _ => held_of_stepsMissing hTables]
    refine bind_congr_ok fun step hStep => ?_
    have hBound := bindStep_eq_ok_iff.mp hStep
    obtain ⟨table, hTable⟩ := hBound.exists_held hNames
    rw [table_of_extends h hTable, table_eq_ok_iff.mpr hTable]
    exact ih (hSound.append hNames hBound hTable)
      (hBound.stepsMissing_rest hNames hSound hTable hTables)

theorem bindEntity_of_extends (hNames : OwnNames small) (h : small.Extends large)
    {d : EntityDefinition} (hTables : entityMissing small d = []) :
    bindEntity large d = bindEntity small d := by
  unfold bindEntity
  refine bind_congr_ok fun name hName => ?_
  refine bind_congr_ok fun _ _ => ?_
  obtain ⟨basis, hBasis, hSteps⟩ := held_of_entityMissing hTables (need_eq_ok_iff.mp hName)
  rw [table_of_extends h hBasis, table_eq_ok_iff.mpr hBasis]
  refine bind_congr_ok fun found hFound => ?_
  cases hFound
  rw [bindSteps_of_extends hNames h (sound_nil hNames hBasis) hSteps]

mutual

/-- A catalog that misses nothing of a definition binds it as every larger catalog does. -/
theorem bind_of_extends (hNames : OwnNames small) (h : small.Extends large) (d : Definition)
    (hTables : missing small d = []) : bind large d = bind small d := by
  obtain ⟨e, children⟩ := d
  obtain ⟨hOwn, hBelow⟩ := List.append_eq_nil_iff.mp hTables
  rw [bind, bind, bindEntity_of_extends hNames h hOwn]
  refine bind_congr_ok fun entity _ => ?_
  rw [bindChildren_of_extends hNames h entity children hBelow []]

theorem bindChildren_of_extends (hNames : OwnNames small) (h : small.Extends large)
    (parent : Entity) (children : List Definition) (hTables : missingOfAll small children = [])
    (bound : List Model) :
    bindChildren large parent bound children = bindChildren small parent bound children := by
  cases children with
  | nil => rfl
  | cons d rest =>
    obtain ⟨hOwn, hBelow⟩ := List.append_eq_nil_iff.mp hTables
    rw [bindChildren, bindChildren, bind_of_extends hNames h d hOwn]
    refine bind_congr_ok fun child _ => bind_congr_ok fun entity _ => ?_
    dsimp only
    split
    · rfl
    · exact bindChildren_of_extends hNames h parent rest hBelow _

end

mutual

theorem exists_entityBound_of_mem (d : Definition) {bound : Model} (h : bind catalog d = .ok bound)
    {e : EntityDefinition} (hMem : e ∈ d.entities) :
    ∃ basis scope entity, EntityBound catalog e basis scope entity := by
  obtain ⟨own, children⟩ := d
  obtain ⟨entity, models, hEntity, hModels, _⟩ := bind_eq_ok_iff.mp h
  rcases List.mem_cons.mp hMem with rfl | hBelow
  · obtain ⟨basis, scope, hBound⟩ := bindEntity_eq_ok_iff.mp hEntity
    exact ⟨basis, scope, entity, hBound⟩
  · exact exists_entityBound_of_mem_children children hModels hBelow

theorem exists_entityBound_of_mem_children (children : List Definition) {parent : Entity}
    {bound models : List Model} (h : bindChildren catalog parent bound children = .ok models)
    {e : EntityDefinition} (hMem : e ∈ Definition.entitiesOfAll children) :
    ∃ basis scope entity, EntityBound catalog e basis scope entity := by
  cases children with
  | nil => cases hMem
  | cons d rest =>
    obtain ⟨_, _, hOwn, _, _, hRest⟩ := bindChildren_cons_eq_ok_iff.mp h
    rcases List.mem_append.mp hMem with hFirst | hLater
    · exact exists_entityBound_of_mem d hOwn hFirst
    · exact exists_entityBound_of_mem_children rest hRest hLater

end

theorem StepsBound.nodup_names {ds : List StepDefinition} {last : Scope}
    (h : StepsBound catalog scope ds last) (hScope : (scope.steps.map (·.name)).Nodup) :
    (scope.steps.map (·.name) ++ ds.map (·.name)).Nodup := by
  induction h with
  | nil => simpa using hScope
  | @cons scope _ d _ step table hStep _ _ ih =>
    have hName : step.name = d.name := by rw [hStep.step_eq]
    have hFresh : step.name ∉ scope.steps.map (·.name) := hName ▸ hStep.fresh
    have hNext : ({ scope with joined := scope.joined ++ [(step, table)] : Scope }.steps.map
        (·.name)).Nodup := by
      simpa [Scope.steps] using nodup_append_fresh hScope hFresh
    simpa [Scope.steps, hName] using ih hNext

theorem distinctSteps_of_bind {d : Definition} {bound : Model} (h : bind catalog d = .ok bound) :
    d.DistinctSteps := by
  intro e hMem
  obtain ⟨basis, scope, entity, hBound⟩ := exists_entityBound_of_mem d h hMem
  exact hBound.steps.nodup_names List.nodup_nil

section Agrees

variable {answer : String → Except Error Table} {one other : Catalog}

theorem agrees_nil (answer : String → Except Error Table) : Catalog.Agrees answer [] :=
  fun _ _ hFound => by cases hFound

theorem ownNames_of_agrees (hOwn : ∀ name table, answer name = .ok table → table.name = name)
    (h : catalog.Agrees answer) : OwnNames catalog :=
  fun name table hFound => hOwn name table (h name table hFound)

/-- What two catalogs both hold is the same, so they fit into one. -/
theorem extends_append_of_agrees (hOne : one.Agrees answer) (hOther : other.Agrees answer) :
    other.Extends (one ++ other) := by
  intro name table hFound
  rw [get?_append]
  cases hHeld : get? one name with
  | none => rw [Option.none_or, hFound]
  | some held =>
    have hSame := (hOne name held hHeld).symm.trans (hOther name table hFound)
    cases hSame
    rfl

theorem Rounds.agrees {d : Definition} {asked : List String}
    {rounds : List (List (String × Table))}
    (h : Rounds (some fun _ => answer) d catalog asked rounds) (hCatalog : catalog.Agrees answer) :
    Catalog.Agrees answer (catalog ++ rounds.flatten) := by
  refine h.forall_held ?_ hCatalog
  rintro _ ⟨⟩ _ name table hAnswer
  exact hAnswer

theorem agrees_resolve (h : catalog.Agrees answer) (d : Definition) (asked : List String) :
    (resolve (some fun _ => answer) d catalog asked).catalog.Agrees answer := by
  obtain ⟨rounds, tried, hCourse⟩ := exists_course (some fun _ => answer) d catalog asked
  rw [hCourse.catalog_eq]
  exact hCourse.complete.agrees h

theorem exists_answer_of_missing (hOne : one.Agrees answer) (hOther : other.Agrees answer)
    {d : Definition} (hSteps : d.DistinctSteps) (hComplete : missing one d = []) {name : String}
    (hMissing : name ∈ missing other d) : ∃ table, answer name = .ok table := by
  -- The two catalogs together tell no less than the one and no more than the complete other.
  have hNeeded : name ∈ needs one d := by
    rw [← needs_of_complete (extends_append one other) hComplete]
    exact needs_subset (extends_append_of_agrees hOne hOther) hSteps (mem_missing_iff.mp hMissing).1
  obtain ⟨table, hHeld⟩ := Option.isSome_iff_exists.mp (contains_of_complete hComplete hNeeded)
  exact ⟨table, hOne name table hHeld⟩

theorem resolve_ok_of_complete (hOne : one.Agrees answer) (hOther : other.Agrees answer)
    {d : Definition} (hSteps : d.DistinctSteps) (hComplete : missing one d = [])
    (asked : List String) : (resolve (some fun _ => answer) d other asked).outcome = .ok () := by
  obtain ⟨rounds, tried, hCourse⟩ := exists_course (some fun _ => answer) d other asked
  have hLater := hCourse.complete.agrees hOther
  have hEnds := hCourse.ends
  generalize (resolve (some fun _ => answer) d other asked).outcome = outcome at hEnds
  cases hEnds with
  | complete _ => rfl
  | alone hNone _ => cases hNone
  | @refused _ tables name rest e given names _ refusal =>
    cases given
    have hMissing : name ∈ missing (other ++ rounds.flatten) d := by
      rw [← mem_ascending, names]
      simp
    obtain ⟨table, hAnswer⟩ := exists_answer_of_missing hOne hLater hSteps hComplete hMissing
    cases hAnswer.symm.trans refusal

end Agrees

end RowTree.Compile

namespace RowTree.Compiler

open Schema Compile

variable {answer : String → Except Error Table} {compiler one other : Compiler}

def resolution (compiler : Compiler) (d : Definition) : Resolution :=
  resolve compiler.provider d compiler.catalog compiler.asked

theorem compile_eq_ok_iff {d : Definition} {model : Model} :
    (compiler.compile d).1 = .ok model ↔ (compiler.resolution d).outcome = .ok () ∧
      bind (compiler.resolution d).catalog d = .ok model := by
  change (compiler.resolution d).outcome.bind (fun _ => bind (compiler.resolution d).catalog d) =
    .ok model ↔ _
  cases (compiler.resolution d).outcome with
  | error e => simp [Except.bind]
  | ok _ => simp [Except.bind]

/-- The compiler asks for the tables that the answers give, and knows nothing else. -/
structure Over (answer : String → Except Error Table) (compiler : Compiler) : Prop where
  provider : compiler.provider = some fun _ => answer
  agrees : compiler.catalog.Agrees answer

/-- A compiler that knows nothing yet. -/
def alone (answer : String → Except Error Table) : Compiler := { provider := some fun _ => answer }

theorem over_alone (answer : String → Except Error Table) : (alone answer).Over answer where
  provider := rfl
  agrees := agrees_nil answer

/-- The results of compiling one definition after the other, whether or not they fail. -/
def compileEach (compiler : Compiler) : List Definition → List (Except Error Model)
  | [] => []
  | d :: rest => (compiler.compile d).1 :: (compiler.compile d).2.compileEach rest

/-- Both results are the same model, or neither is one. -/
def SameModel (result other : Except Error Model) : Prop :=
  ∀ model, result = .ok model ↔ other = .ok model

theorem Over.resolution_eq (h : compiler.Over answer) (d : Definition) : compiler.resolution d =
    resolve (some fun _ => answer) d compiler.catalog compiler.asked := by
  rw [resolution, h.provider]

theorem Over.agrees_resolution (h : compiler.Over answer) (d : Definition) :
    (compiler.resolution d).catalog.Agrees answer := by
  rw [h.resolution_eq]
  exact agrees_resolve h.agrees d compiler.asked

theorem Over.compile (h : compiler.Over answer) (d : Definition) :
    (compiler.compile d).2.Over answer where
  provider := h.provider
  agrees := h.agrees_resolution d

theorem Over.compile_eq_ok (hOwn : ∀ name table, answer name = .ok table → table.name = name)
    (hOne : one.Over answer) (hOther : other.Over answer) {d : Definition} {model : Model}
    (h : (one.compile d).1 = .ok model) : (other.compile d).1 = .ok model := by
  obtain ⟨hResolved, hBound⟩ := compile_eq_ok_iff.mp h
  have hLeft := hOne.agrees_resolution d
  have hRight := hOther.agrees_resolution d
  have hComplete := missing_resolve_eq_nil hResolved
  have hOk : (other.resolution d).outcome = .ok () := by
    rw [hOther.resolution_eq]
    exact resolve_ok_of_complete hLeft hOther.agrees (distinctSteps_of_bind hBound) hComplete _
  -- Both catalogs bind the definition as the two of them together do.
  have hJoint : bind ((one.resolution d).catalog ++ (other.resolution d).catalog) d = .ok model :=
    bind_of_extends (ownNames_of_agrees hOwn hLeft) (extends_append _ _) d hComplete ▸ hBound
  have hSame := bind_of_extends (ownNames_of_agrees hOwn hRight)
    (extends_append_of_agrees hLeft hRight) d (missing_resolve_eq_nil hOk)
  exact compile_eq_ok_iff.mpr ⟨hOk, hSame ▸ hJoint⟩

theorem Over.sameModel (hOwn : ∀ name table, answer name = .ok table → table.name = name)
    (hOne : one.Over answer) (hOther : other.Over answer) (d : Definition) :
    SameModel (one.compile d).1 (other.compile d).1 :=
  fun _ => ⟨hOne.compile_eq_ok hOwn hOther, hOther.compile_eq_ok hOwn hOne⟩

/-- What a compiler knows of the tables of its provider makes no difference to the models that it
gives, so each definition of any row of definitions compiles as it does alone. -/
theorem compileEach_as_alone (hOwn : ∀ name table, answer name = .ok table → table.name = name) :
    (∀ one other : Compiler, one.Over answer → other.Over answer →
      ∀ d, SameModel (one.compile d).1 (other.compile d).1) ∧
    ∀ shared : Compiler, shared.Over answer → ∀ ds,
      List.Forall₂ (fun result d => SameModel result ((alone answer).compile d).1)
        (shared.compileEach ds) ds := by
  refine ⟨fun one other hOne hOther d => hOne.sameModel hOwn hOther d, ?_⟩
  intro shared hShared ds
  induction ds generalizing shared with
  | nil => exact .nil
  | cons d rest ih =>
    exact .cons (hShared.sameModel hOwn (over_alone answer) d) (ih _ (hShared.compile d))

end RowTree.Compiler

namespace RowTree.Sales

open Schema Compile Compiler

/-- What the misspelt definition leaves behind is of no consequence for the sales. -/
theorem sales_as_alone : (∀ name table, catalog.table name = .ok table → table.name = name) ∧
    ((alone catalog.table).compile definition).1 = .ok model ∧
    (((alone catalog.table).compile misspelt).2.compile definition).1 = .ok model ∧
    List.Forall₂ (fun result d => SameModel result ((alone catalog.table).compile d).1)
      ((alone catalog.table).compileEach [misspelt, definition]) [misspelt, definition] := by
  have hOwn : ∀ name table, catalog.table name = .ok table → table.name = name :=
    (ownNames_ofTables _).provider []
  have hAlone := over_alone catalog.table
  have hModel : ((alone catalog.table).compile definition).1 = .ok model := by
    refine compile_eq_ok_iff.mpr ?_
    change (resolve (some catalog.provider) definition [] []).outcome = .ok () ∧
      Compile.bind (resolve (some catalog.provider) definition [] []).catalog definition = .ok model
    rw [resolve_of_round (by decide) rfl, resolve_of_round (by decide) rfl, resolve_of_complete rfl]
    exact ⟨rfl, rfl⟩
  obtain ⟨hSame, hEach⟩ := compileEach_as_alone hOwn
  refine ⟨hOwn, hModel, ?_, hEach _ hAlone [misspelt, definition]⟩
  exact (hSame _ _ (hAlone.compile misspelt) hAlone definition model).mpr hModel

end RowTree.Sales
