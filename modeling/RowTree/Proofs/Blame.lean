import RowTree.Proofs.Acceptance
import RowTree.Proofs.Rounds

/-!
# What binding blames

Over a catalog that misses nothing, binding finds every table that it looks up. So if it does
not give a model, it blames one of the models that the definition describes, and never a table.
-/

namespace RowTree.Compile

open Schema Entries Outcome

variable {α β : Type} {models : List String} {model : String} {catalog : Catalog} {scope : Scope}

/-- The definition of one of the models is at fault; what that comes from is at most a filter. -/
structure Blames (models : List String) (e : Error) : Prop where
  fault : ∃ model ∈ models, ∃ problem, e.fault = .definition model problem
  causes : ∀ cause ∈ e.causes, ∃ problem, cause = .filter problem

def OnlyBlames (models : List String) (x : Except Error α) : Prop :=
  ∀ e, x = .error e → Blames models e

theorem onlyBlames_ok (v : α) : OnlyBlames models (.ok v) := fun _ h => by cases h

theorem onlyBlames_invalid (h : model ∈ models) (problem : DefinitionProblem) :
    OnlyBlames models (invalid model problem : Except Error α) := by
  intro e hError
  cases hError
  exact ⟨⟨model, h, problem, rfl⟩, fun _ hCause => by cases hCause⟩

theorem onlyBlames_need (h : model ∈ models) (problem : DefinitionProblem) (o : Option α) :
    OnlyBlames models (need model problem o) := by
  cases o with
  | some v => exact onlyBlames_ok v
  | none => exact onlyBlames_invalid h problem

theorem OnlyBlames.bind {x : Except Error α} {f : α → Except Error β} (h : OnlyBlames models x)
    (hNext : ∀ v, x = .ok v → OnlyBlames models (f v)) : OnlyBlames models (x >>= f) := by
  intro e hError
  rcases bind_eq_error.mp hError with hFirst | ⟨v, hValue, hLater⟩
  · exact h e hFirst
  · exact hNext v hValue e hLater

theorem OnlyBlames.mapM {f : α → Except Error β} {xs : List α}
    (h : ∀ x ∈ xs, OnlyBlames models (f x)) : OnlyBlames models (xs.mapM f) := by
  induction xs with
  | nil => exact onlyBlames_ok []
  | cons x xs ih =>
    rw [List.mapM_cons]
    refine (h x List.mem_cons_self).bind fun v _ => ?_
    exact (ih fun y hy => h y (List.mem_cons_of_mem _ hy)).bind fun vs _ => onlyBlames_ok _

theorem onlyBlames_checkName (h : model ∈ models) (name : String) :
    OnlyBlames models (checkName model name) := by
  unfold checkName
  split
  · exact onlyBlames_ok ()
  · exact onlyBlames_invalid h _

theorem onlyBlames_modelName (h : model ∈ models) : OnlyBlames models (ModelName.ofText model) := by
  unfold ModelName.ofText
  split
  · refine (onlyBlames_checkName h _).bind fun _ _ => ?_
    exact (onlyBlames_checkName h _).bind fun _ _ => onlyBlames_ok _
  · exact (onlyBlames_checkName h _).bind fun _ _ => onlyBlames_ok _

theorem onlyBlames_table {name : String} {table : Table} (h : get? catalog name = some table) :
    OnlyBlames models (catalog.table name) := by
  rw [table_eq_ok_iff.mpr h]
  exact onlyBlames_ok table

theorem StepBound.exists_held (hNames : OwnNames catalog) {d : StepDefinition} {step : Step}
    (h : StepBound catalog scope d step) :
    ∃ table, get? catalog step.join.table.name = some table := by
  obtain ⟨_, _, _, target, _, _, ⟨join, _, hTarget, _⟩, _, hTable⟩ := h.join
  rw [hTable, hNames _ _ hTarget]
  exact ⟨target, hTarget⟩

theorem onlyBlames_bindPair (h : model ∈ models) (join : String) (index : Nat)
    (source target : Table) (pair : JoinPair) :
    OnlyBlames models (bindPair model join index source target pair) := by
  unfold bindPair
  refine (onlyBlames_need h _ _).bind fun column _ => ?_
  cases pair.constant with
  | some text => exact onlyBlames_ok _
  | none =>
    cases pair.source with
    | none => exact onlyBlames_invalid h _
    | some name => exact (onlyBlames_need h _ _).bind fun _ _ => onlyBlames_ok _

theorem onlyBlames_bindStep (h : model ∈ models) (hSound : scope.Sound catalog)
    {d : StepDefinition} (hHeld : ∀ name, target? catalog scope.basis scope.targets d = some name →
      contains catalog name = true) :
    OnlyBlames models (bindStep catalog model scope d) := by
  unfold bindStep
  refine (onlyBlames_checkName h d.name).bind fun _ _ => ?_
  dsimp only
  split
  · exact onlyBlames_invalid h _
  · refine (onlyBlames_need h _ _).bind fun joinName hJoinName => ?_
    refine (onlyBlames_need h _ _).bind fun ⟨index, source⟩ hSource => ?_
    refine (onlyBlames_need h _ _).bind fun join hJoin => ?_
    have hTarget := target?_eq_some hSound (need_eq_ok_iff.mp hSource)
      (need_eq_ok_iff.mp hJoinName) (need_eq_ok_iff.mp hJoin)
    obtain ⟨table, hTable⟩ := Option.isSome_iff_exists.mp (hHeld _ hTarget)
    refine (onlyBlames_table hTable).bind fun target _ => ?_
    dsimp only
    split
    · exact onlyBlames_invalid h _
    · exact (OnlyBlames.mapM fun pair _ => onlyBlames_bindPair h _ _ _ _ pair).bind
        fun _ _ => onlyBlames_ok _

theorem onlyBlames_bindSteps (hNames : OwnNames catalog) (h : model ∈ models)
    {ds : List StepDefinition} (hSound : scope.Sound catalog)
    (hTables : stepsMissing catalog scope.basis scope.targets ds = []) :
    OnlyBlames models (bindSteps catalog model scope ds) := by
  induction ds generalizing scope with
  | nil => exact onlyBlames_ok scope
  | cons d rest ih =>
    have hStep := onlyBlames_bindStep h hSound fun _ => held_of_stepsMissing hTables
    refine hStep.bind fun step hBound => ?_
    have hBound := bindStep_eq_ok_iff.mp hBound
    obtain ⟨table, hTable⟩ := hBound.exists_held hNames
    rw [table_eq_ok_iff.mpr hTable]
    exact ih (hSound.append hNames hBound hTable)
      (hBound.stepsMissing_rest hNames hSound hTable hTables)

theorem onlyBlames_bindField (h : model ∈ models) (d : FieldDefinition) :
    OnlyBlames models (bindField model scope d) := by
  unfold bindField
  refine (onlyBlames_checkName h d.name).bind fun _ _ => ?_
  refine (onlyBlames_need h _ _).bind fun ⟨index, table⟩ _ => ?_
  cases d.basisColumn with
  | none => exact onlyBlames_ok _
  | some name => exact (onlyBlames_need h _ _).bind fun _ _ => onlyBlames_ok _

theorem onlyBlames_bindFields (h : model ∈ models) (ds : List FieldDefinition)
    (bound : List Field) : OnlyBlames models (bindFields model scope bound ds) := by
  induction ds generalizing bound with
  | nil => exact onlyBlames_ok bound
  | cons d rest ih =>
    rw [bindFields]
    dsimp only
    split
    · exact onlyBlames_invalid h _
    · exact (onlyBlames_bindField h d).bind fun field _ => ih _

theorem onlyBlames_bindOrder (h : model ∈ models) (fields : List Field) (d : OrderDefinition) :
    OnlyBlames models (bindOrder model fields d) := by
  unfold bindOrder
  split
  · exact onlyBlames_ok _
  · exact onlyBlames_invalid h _

theorem read_eq_error {text : String} {fields : List Field} {e : Error}
    (h : FilterText.read text fields = .error e) : ∃ problem, e = .of (.filter problem) := by
  unfold FilterText.read at h
  dsimp only at h
  split at h
  · cases h
  · split at h
    · cases h
    · rename_i problem _
      cases h
      exact ⟨problem, rfl⟩

theorem onlyBlames_bindFilter (h : model ∈ models) (fields : List Field) (text : Option String) :
    OnlyBlames models (bindFilter model fields text) := by
  cases text with
  | none => exact onlyBlames_ok none
  | some text =>
    intro e hError
    rw [bindFilter] at hError
    split at hError
    · cases hError
    · rename_i inner hRead
      cases hError
      obtain ⟨problem, rfl⟩ := read_eq_error hRead
      refine ⟨⟨model, h, .staticFilter, rfl⟩, ?_⟩
      intro cause hCause
      exact ⟨problem, List.mem_singleton.mp hCause⟩

theorem onlyBlames_bindEntity (hNames : OwnNames catalog) {d : EntityDefinition}
    (h : d.displayName ∈ models) (hTables : entityMissing catalog d = []) :
    OnlyBlames models (bindEntity catalog d) := by
  unfold bindEntity
  refine (onlyBlames_need h _ _).bind fun name hName => ?_
  refine (onlyBlames_modelName h).bind fun _ _ => ?_
  obtain ⟨basis, hBasis, hSteps⟩ := held_of_entityMissing hTables (need_eq_ok_iff.mp hName)
  rw [table_eq_ok_iff.mpr hBasis]
  refine (onlyBlames_bindSteps hNames h (sound_nil hNames hBasis) hSteps).bind fun scope _ => ?_
  refine (onlyBlames_bindFields h d.fields []).bind fun fields _ => ?_
  refine (OnlyBlames.mapM fun o _ => onlyBlames_bindOrder h fields o).bind fun _ _ => ?_
  exact (onlyBlames_bindFilter h fields d.filter).bind fun _ _ => onlyBlames_ok _

theorem onlyBlames_linkChild (parent : Entity) (d : EntityDefinition) {child : Entity}
    (h : child.name ∈ models) : OnlyBlames models (linkChild parent d child) := by
  have hLink : OnlyBlames models (declaredLink parent.name child.name d) := by
    unfold declaredLink
    split
    · exact onlyBlames_ok _
    · exact onlyBlames_ok _
    · exact onlyBlames_invalid h _
    · exact onlyBlames_invalid h _
  unfold linkChild
  refine hLink.bind fun link _ => ?_
  dsimp only
  split
  · exact onlyBlames_invalid h _
  · split
    · exact onlyBlames_invalid h _
    · exact onlyBlames_ok _

mutual

theorem onlyBlames_bind (hNames : OwnNames catalog) (d : Definition)
    (h : d.entities.map (·.displayName) ⊆ models) (hTables : missing catalog d = []) :
    OnlyBlames models (bind catalog d) := by
  obtain ⟨e, children⟩ := d
  obtain ⟨hOwn, hBelow⟩ := List.append_eq_nil_iff.mp hTables
  obtain ⟨hSelf, hModels⟩ := List.cons_subset.mp h
  rw [bind]
  refine (onlyBlames_bindEntity hNames hSelf hOwn).bind fun entity hEntity => ?_
  obtain ⟨_, _, hBound⟩ := bindEntity_eq_ok_iff.mp hEntity
  have hName : entity.name ∈ models := hBound.name_eq ▸ hSelf
  exact (onlyBlames_bindChildren hNames hName children hModels hBelow []).bind
    fun _ _ => onlyBlames_ok _

theorem onlyBlames_bindChildren (hNames : OwnNames catalog) {parent : Entity}
    (hParent : parent.name ∈ models) (children : List Definition)
    (h : (Definition.entitiesOfAll children).map (·.displayName) ⊆ models)
    (hTables : missingOfAll catalog children = []) (bound : List Model) :
    OnlyBlames models (bindChildren catalog parent bound children) := by
  cases children with
  | nil => exact onlyBlames_ok bound
  | cons d rest =>
    obtain ⟨hOwn, hBelow⟩ := List.append_eq_nil_iff.mp hTables
    rw [Definition.entitiesOfAll, List.map_append, List.append_subset] at h
    rw [bindChildren]
    refine (onlyBlames_bind hNames d h.1 hOwn).bind fun child hChild => ?_
    obtain ⟨_, _, hBound⟩ := entityBound_of_bind hChild
    have hName : child.entity.name ∈ models := by
      rw [hBound.name_eq]
      refine h.1 ?_
      cases d with
      | node e below => exact List.mem_cons_self
    refine (onlyBlames_linkChild parent d.entity hName).bind fun entity _ => ?_
    dsimp only
    split
    · exact onlyBlames_invalid hParent _
    · exact onlyBlames_bindChildren hNames hParent rest h.2 hBelow _

end

theorem OwnNames.provider (h : OwnNames catalog) (asked : List String) (name : String)
    (table : Table) (hTable : catalog.provider asked name = .ok table) : table.name = name :=
  h name table (table_eq_ok_iff.mp hTable)

/-- When resolving succeeds, binding over the catalog that it leaves finds every table. So
binding gives a model, or it blames the definition or one below it. -/
theorem resolved_binds {provider : Option Provider} {asked : List String}
    (hNames : OwnNames catalog) (hProvider : ∀ p, provider = some p →
      ∀ asked name table, p asked name = .ok table → table.name = name) {d : Definition}
    (h : (resolve provider d catalog asked).outcome = .ok ()) :
    (∃ model, bind (resolve provider d catalog asked).catalog d = .ok model) ∨
      ∃ e, bind (resolve provider d catalog asked).catalog d = .error e ∧
        (∀ name, .tableNotFound name ∉ e.chain) ∧
        ∃ entity ∈ d.entities, ∃ problem, e.fault = .definition entity.displayName problem := by
  obtain ⟨rounds, tried, hCourse⟩ := exists_course provider d catalog asked
  have hTables := hCourse.missing_eq_nil h
  have hOwn : OwnNames (resolve provider d catalog asked).catalog := by
    rw [hCourse.catalog_eq]
    exact hCourse.complete.forall_held hProvider hNames
  have hBlames := onlyBlames_bind hOwn d (List.Subset.refl _) hTables
  cases hBind : bind (resolve provider d catalog asked).catalog d with
  | ok model => exact .inl ⟨model, rfl⟩
  | error e =>
    obtain ⟨⟨model, hModel, problem, hFault⟩, hCauses⟩ := hBlames e hBind
    obtain ⟨entity, hEntity, rfl⟩ := List.mem_map.mp hModel
    refine .inr ⟨e, rfl, ?_, entity, hEntity, problem, hFault⟩
    intro name hChain
    rcases List.mem_cons.mp hChain with hFirst | hCause
    · rw [hFault] at hFirst
      cases hFirst
    · obtain ⟨_, hFilter⟩ := hCauses _ hCause
      cases hFilter

end RowTree.Compile

namespace RowTree.Sales

open Compile Schema

/-- Customers with the town that they live in, of which a column is misspelt. -/
def misspelt : Definition :=
  .node {
    basisTable := some "Customer"
    steps := [{ name := "home", join := some "town" }]
    fields := [field "CustomerID",
      { name := "Town", basisColumn := some "Nam", step := some "home" }]
  } []

/-- The misspelt definition is blamed after its two tables were fetched. -/
theorem misspelt_blamed : OwnNames [] ∧
    (∀ p, some catalog.provider = some p →
      ∀ asked name table, p asked name = .ok table → table.name = name) ∧
    (resolve (some catalog.provider) misspelt [] []).outcome = .ok () ∧
    ∃ e, Compile.bind (resolve (some catalog.provider) misspelt [] []).catalog misspelt = .error e ∧
      (∀ name, .tableNotFound name ∉ e.chain) ∧
      ∃ entity ∈ misspelt.entities, ∃ problem,
        e.fault = .definition entity.displayName problem := by
  have hNames : OwnNames [] := fun _ _ hFound => by cases hFound
  have hProvider : ∀ p, some catalog.provider = some p →
      ∀ asked name table, p asked name = .ok table → table.name = name := by
    rintro _ ⟨⟩
    exact (ownNames_ofTables _).provider
  have hOk : (resolve (some catalog.provider) misspelt [] []).outcome = .ok () := by
    rw [resolve_of_round (by decide) rfl, resolve_of_round (by decide) rfl, resolve_of_complete rfl]
  refine ⟨hNames, hProvider, hOk, ?_⟩
  rcases resolved_binds hNames hProvider hOk with ⟨model, hModel⟩ | hBlamed
  · rw [resolve_of_round (by decide) rfl, resolve_of_round (by decide) rfl,
      resolve_of_complete rfl] at hModel
    cases hModel
  · exact hBlamed

end RowTree.Sales
