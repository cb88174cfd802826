import RowTree.Compile.Resolve
import Mathlib.Data.List.Basic

/-!
# What a definition needs

All tables that a definition refers to as far as a catalog can tell, also those that the
catalog holds. A larger catalog can tell more, unless two steps of one entity have the same
name; and a catalog that misses nothing can tell everything.
-/

namespace RowTree.Schema.Definition

mutual

/-- The entities of a tree, each before those below it. -/
def entities : Definition → List EntityDefinition
  | .node d children => d :: entitiesOfAll children

def entitiesOfAll : List Definition → List EntityDefinition
  | [] => []
  | d :: rest => d.entities ++ entitiesOfAll rest

end

/-- No two steps of one entity have the same name. -/
def DistinctSteps (d : Definition) : Prop := ∀ e ∈ d.entities, (e.steps.map (·.name)).Nodup

instance (d : Definition) : Decidable d.DistinctSteps :=
  inferInstanceAs (Decidable (∀ e ∈ d.entities, (e.steps.map (·.name)).Nodup))

end RowTree.Schema.Definition

namespace RowTree.Compile

open Schema Entries

def stepsNeeds (catalog : Catalog) (basis : Table) (targets : Entries String) :
    List StepDefinition → List String
  | [] => []
  | step :: rest =>
    match target? catalog basis targets step with
    | none => stepsNeeds catalog basis targets rest
    | some name => name :: stepsNeeds catalog basis (targets ++ [(step.name, name)]) rest

def entityNeeds (catalog : Catalog) (d : EntityDefinition) : List String :=
  match d.basisTable with
  | none => []
  | some basis =>
    match get? catalog basis with
    | none => [basis]
    | some table => basis :: stepsNeeds catalog table [] d.steps

def needs (catalog : Catalog) (d : Definition) : List String :=
  d.entities.flatMap (entityNeeds catalog)

variable {catalog small large : Catalog}

theorem stepsMissing_eq (basis : Table) (targets : Entries String) (steps : List StepDefinition) :
    stepsMissing catalog basis targets steps =
      (stepsNeeds catalog basis targets steps).filter (!contains catalog ·) := by
  induction steps generalizing targets with
  | nil => rfl
  | cons step rest ih =>
    rw [stepsMissing, stepsNeeds]
    cases hTarget : target? catalog basis targets step with
    | none => exact ih targets
    | some name =>
      dsimp only
      rw [ih, List.filter_cons]
      cases contains catalog name <;> rfl

theorem entityMissing_eq (d : EntityDefinition) :
    entityMissing catalog d = (entityNeeds catalog d).filter (!contains catalog ·) := by
  unfold entityMissing entityNeeds
  cases d.basisTable with
  | none => rfl
  | some basis =>
    dsimp only
    cases hBasis : get? catalog basis with
    | none => simp [contains, hBasis]
    | some table => simp [contains, hBasis, stepsMissing_eq]

mutual

theorem missing_eq (d : Definition) :
    missing catalog d = (needs catalog d).filter (!contains catalog ·) := by
  obtain ⟨e, children⟩ := d
  rw [missing, needs, Definition.entities, List.flatMap_cons, List.filter_append,
    entityMissing_eq, missingOfAll_eq children]

theorem missingOfAll_eq (ds : List Definition) :
    missingOfAll catalog ds =
      ((Definition.entitiesOfAll ds).flatMap (entityNeeds catalog)).filter
        (!contains catalog ·) := by
  match ds with
  | [] => rfl
  | d :: rest =>
    rw [missingOfAll, Definition.entitiesOfAll, List.flatMap_append, List.filter_append,
      missing_eq d, missingOfAll_eq rest, needs]

end

theorem mem_missing_iff {d : Definition} {name : String} :
    name ∈ missing catalog d ↔ name ∈ needs catalog d ∧ contains catalog name = false := by
  rw [missing_eq, List.mem_filter, Bool.not_eq_true']

theorem contains_of_complete {d : Definition} (h : missing catalog d = []) {name : String}
    (hName : name ∈ needs catalog d) : contains catalog name = true := by
  by_contra hMissing
  have hMem := mem_missing_iff.mpr ⟨hName, Bool.eq_false_iff.mpr hMissing⟩
  rw [h] at hMem
  cases hMem

theorem length_stepsNeeds_le (catalog : Catalog) (basis : Table) (targets : Entries String)
    (steps : List StepDefinition) :
    (stepsNeeds catalog basis targets steps).length ≤ steps.length := by
  induction steps generalizing targets with
  | nil => exact Nat.le_refl _
  | cons step rest ih =>
    rw [stepsNeeds, List.length_cons]
    split
    · exact Nat.le_succ_of_le (ih targets)
    · exact Nat.succ_le_succ (ih _)

theorem length_entityNeeds_le (catalog : Catalog) (d : EntityDefinition) :
    (entityNeeds catalog d).length ≤ 1 + d.steps.length := by
  unfold entityNeeds
  split
  · exact Nat.zero_le _
  · split
    · exact Nat.le_add_right _ _
    · rename_i table _
      have := length_stepsNeeds_le catalog table [] d.steps
      rw [List.length_cons]
      omega

/-- At most one table for each model and one for each step. -/
theorem length_needs_le (catalog : Catalog) (d : Definition) : (needs catalog d).length ≤
    d.entities.length + (d.entities.flatMap (·.steps)).length := by
  rw [needs]
  induction d.entities with
  | nil => exact Nat.le_refl _
  | cons e rest ih =>
    have := length_entityNeeds_le catalog e
    simp only [List.flatMap_cons, List.length_append, List.length_cons]
    omega

/-- Steps with names of their own lead nowhere else when more is known. -/
theorem stepsNeeds_subset (h : small.Extends large) (basis : Table) {steps : List StepDefinition}
    (hSteps : (steps.map (·.name)).Nodup) {targets more : Entries String}
    (hTargets : ∀ name table, targets.get? name = some table → more.get? name = some table)
    (hFresh : ∀ step ∈ steps, more.get? step.name = none) :
    stepsNeeds small basis targets steps ⊆ stepsNeeds large basis more steps := by
  induction steps generalizing targets more with
  | nil => exact List.Subset.refl _
  | cons step rest ih =>
    obtain ⟨hName, hRest⟩ := List.nodup_cons.mp hSteps
    have hLater : ∀ other ∈ rest, more.get? other.name = none :=
      fun other hOther => hFresh other (List.mem_cons_of_mem _ hOther)
    -- Later steps have other names, so none of them is hidden by this one.
    have hNext (target : String) : ∀ other ∈ rest,
        get? (more ++ [(step.name, target)]) other.name = none := by
      intro other hOther
      have hNe : step.name ≠ other.name := by
        intro hSame
        exact hName (List.mem_map.mpr ⟨other, hOther, hSame.symm⟩)
      rw [get?_concat_of_ne _ _ hNe, hLater other hOther]
    rw [stepsNeeds, stepsNeeds]
    cases hSmall : target? small basis targets step with
    | none =>
      cases hLarge : target? large basis more step with
      | none => exact ih hRest hTargets hLater
      | some target =>
        refine List.subset_cons_of_subset _ (ih hRest ?_ (hNext target))
        exact fun name table hGet => get?_append_of_eq_some (hTargets name table hGet) _
    | some target =>
      rw [target?_of_extends h hTargets hSmall]
      refine List.cons_subset_cons _ (ih hRest ?_ (hNext target))
      exact fun _ _ => get?_concat_of_forall hTargets (hFresh step List.mem_cons_self) target

theorem entityNeeds_subset (h : small.Extends large) {d : EntityDefinition}
    (hSteps : (d.steps.map (·.name)).Nodup) : entityNeeds small d ⊆ entityNeeds large d := by
  unfold entityNeeds
  cases d.basisTable with
  | none => exact List.Subset.refl _
  | some basis =>
    dsimp only
    cases hSmall : get? small basis with
    | none =>
      dsimp only
      split <;> simp
    | some table =>
      rw [h _ _ hSmall]
      exact List.cons_subset_cons _
        (stepsNeeds_subset h table hSteps (fun _ _ hGet => hGet) fun _ _ => rfl)

theorem needs_subset (h : small.Extends large) {d : Definition} (hSteps : d.DistinctSteps) :
    needs small d ⊆ needs large d := by
  intro name hName
  obtain ⟨e, hEntity, hNeeds⟩ := List.mem_flatMap.mp hName
  exact List.mem_flatMap.mpr ⟨e, hEntity, entityNeeds_subset h (hSteps e hEntity) hNeeds⟩

theorem target?_of_known (h : small.Extends large) {basis : Table} {targets : Entries String}
    (hTargets : ∀ name table, targets.get? name = some table → contains small table = true)
    (step : StepDefinition) :
    target? large basis targets step = target? small basis targets step := by
  unfold target?
  cases step.previousStep with
  | none => rfl
  | some previous =>
    dsimp only
    cases hGet : targets.get? previous with
    | none => rfl
    | some table =>
      obtain ⟨found, hFound⟩ := Option.isSome_iff_exists.mp (hTargets _ _ hGet)
      rw [Option.bind_some, Option.bind_some, hFound, h _ _ hFound]

theorem stepsNeeds_of_complete (h : small.Extends large) {basis : Table}
    {steps : List StepDefinition} {targets : Entries String}
    (hTargets : ∀ name table, targets.get? name = some table → contains small table = true)
    (hComplete : ∀ name ∈ stepsNeeds small basis targets steps, contains small name = true) :
    stepsNeeds large basis targets steps = stepsNeeds small basis targets steps := by
  induction steps generalizing targets with
  | nil => rfl
  | cons step rest ih =>
    rw [stepsNeeds] at hComplete ⊢
    rw [stepsNeeds, target?_of_known h hTargets step]
    cases hTarget : target? small basis targets step with
    | none =>
      rw [hTarget] at hComplete
      exact ih hTargets hComplete
    | some target =>
      rw [hTarget] at hComplete
      obtain ⟨hHeld, hRest⟩ := List.forall_mem_cons.mp hComplete
      refine congrArg (target :: ·) (ih ?_ hRest)
      intro name table hGet
      rw [get?_append] at hGet
      rcases Option.or_eq_some_iff.mp hGet with hOld | ⟨_, hNew⟩
      · exact hTargets name table hOld
      · simp only [get?, Option.ite_none_right_eq_some, Option.some.injEq] at hNew
        exact hNew.2 ▸ hHeld

theorem needs_of_complete (h : small.Extends large) {d : Definition}
    (hComplete : missing small d = []) : needs large d = needs small d := by
  have hHeld : ∀ e ∈ d.entities, ∀ name ∈ entityNeeds small e, contains small name = true :=
    fun e hEntity name hName =>
      contains_of_complete hComplete (List.mem_flatMap.mpr ⟨e, hEntity, hName⟩)
  refine List.flatMap_congr fun e hEntity => ?_
  have hOwn := hHeld e hEntity
  unfold entityNeeds at hOwn ⊢
  cases hBasisTable : e.basisTable with
  | none => rfl
  | some basis =>
    rw [hBasisTable] at hOwn
    dsimp only at hOwn ⊢
    cases hBasis : get? small basis with
    | none =>
      rw [hBasis] at hOwn
      have hNot := hOwn basis List.mem_cons_self
      simp [contains, hBasis] at hNot
    | some table =>
      rw [hBasis] at hOwn
      rw [h _ _ hBasis]
      exact congrArg (basis :: ·) (stepsNeeds_of_complete h (fun _ _ hGet => by cases hGet)
        fun name hName => hOwn name (List.mem_cons_of_mem _ hName))

end RowTree.Compile
