import RowTree.Schema.Catalog
import RowTree.Schema.Definition

/-!
# Missing tables

Which tables a definition refers to that a catalog does not hold. A table can
only be named by a join of another one, so that more may come to light when
the first ones are there. Main statement: `rank_of_extends`, a catalog that gains
all missing tables has no larger rank, and a smaller one if any was missing.
-/

namespace RowTree.Compile

open Schema

/-- The table that a step joins, if the table that it goes on from is known and
has the join. `targets` are the tables of the steps before it. -/
def target? (catalog : Catalog) (basis : Table) (targets : Entries String)
    (step : StepDefinition) : Option String :=
  let source :=
    match step.previousStep with
    | none => some basis
    | some previous => (targets.get? previous).bind (Entries.get? catalog)
  match source, step.join with
  | some table, some join => (table.join? join).map (·.table)
  | _, _ => none

def stepsMissing (catalog : Catalog) (basis : Table) (targets : Entries String) :
    List StepDefinition → List String
  | [] => []
  | step :: rest =>
    match target? catalog basis targets step with
    | none => stepsMissing catalog basis targets rest
    | some name =>
      let more := stepsMissing catalog basis (targets ++ [(step.name, name)]) rest
      if Entries.contains catalog name then more else name :: more

def entityMissing (catalog : Catalog) (d : EntityDefinition) : List String :=
  match d.basisTable with
  | none => []
  | some basis =>
    match Entries.get? catalog basis with
    | none => [basis]
    | some table => stepsMissing catalog table [] d.steps

mutual

/-- The names that are missing, in the order in which they are met. -/
def missing (catalog : Catalog) : Definition → List String
  | .node d children => entityMissing catalog d ++ missingOfAll catalog children

def missingOfAll (catalog : Catalog) : List Definition → List String
  | [] => []
  | d :: rest => missing catalog d ++ missingOfAll catalog rest

end

def insertName (name : String) : List String → List String
  | [] => [name]
  | other :: rest =>
    if name = other then other :: rest
    else if name < other then name :: other :: rest
    else other :: insertName name rest

/-- Each name once, in ascending order. -/
def ascending (names : List String) : List String := names.foldr insertName []

theorem mem_insertName {x name : String} {names : List String} :
    x ∈ insertName name names ↔ x = name ∨ x ∈ names := by
  induction names with
  | nil => simp [insertName]
  | cons other rest ih =>
    unfold insertName
    split
    · rename_i h; subst h; simp
    · split
      · simp
      · simp only [List.mem_cons, ih]
        constructor
        · rintro (h | h | h) <;> simp [h]
        · rintro (h | h | h) <;> simp [h]

theorem mem_ascending {x : String} {names : List String} : x ∈ ascending names ↔ x ∈ names := by
  induction names with
  | nil => simp [ascending]
  | cons name rest ih =>
    change x ∈ insertName name (ascending rest) ↔ _
    rw [mem_insertName, ih, List.mem_cons]

/-- More than all of the steps together count. -/
def weight : List StepDefinition → Nat
  | [] => 1
  | _ :: rest => 3 * weight rest

/-- A step counts two while its table is not named, one while it is named and not
known, and nothing afterwards. Earlier steps count more than all later ones
together, since what becomes known of them can change what the later ones name. -/
def stepsRank (catalog : Catalog) (basis : Table) (targets : Entries String) :
    List StepDefinition → Nat
  | [] => 0
  | step :: rest =>
    match target? catalog basis targets step with
    | none => 2 * weight rest + stepsRank catalog basis targets rest
    | some name =>
      (if Entries.contains catalog name then 0 else weight rest)
        + stepsRank catalog basis (targets ++ [(step.name, name)]) rest

def entityRank (catalog : Catalog) (d : EntityDefinition) : Nat :=
  match d.basisTable with
  | none => 0
  | some basis =>
    match Entries.get? catalog basis with
    | none => weight d.steps
    | some table => stepsRank catalog table [] d.steps

mutual

def rank (catalog : Catalog) : Definition → Nat
  | .node d children => entityRank catalog d + rankOfAll catalog children

def rankOfAll (catalog : Catalog) : List Definition → Nat
  | [] => 0
  | d :: rest => rank catalog d + rankOfAll catalog rest

end

theorem stepsRank_lt_weight (catalog : Catalog) (basis : Table) (targets : Entries String)
    (steps : List StepDefinition) : stepsRank catalog basis targets steps < weight steps := by
  induction steps generalizing targets with
  | nil => simp [stepsRank, weight]
  | cons step rest ih =>
    unfold stepsRank
    simp only [weight]
    split
    · have := ih targets; omega
    · rename_i name _
      have := ih (targets ++ [(step.name, name)])
      split <;> omega

/-- What a step leads to stays the same when more is known of the catalog and of the steps
before it. -/
theorem target?_of_extends {small large : Catalog} (h : small.Extends large) {basis : Table}
    {targets more : Entries String}
    (hTargets : ∀ name table, targets.get? name = some table → more.get? name = some table)
    {step : StepDefinition} {name : String}
    (ht : target? small basis targets step = some name) :
    target? large basis more step = some name := by
  unfold target? at ht ⊢
  cases hp : step.previousStep with
  | none => simpa [hp] using ht
  | some previous =>
    rw [hp] at ht
    cases hg : targets.get? previous with
    | none => simp [hg] at ht
    | some table =>
      cases hc : Entries.get? small table with
      | none => simp [hg, hc] at ht
      | some found => simpa [hg, hTargets _ _ hg, hc, h _ _ hc] using ht

theorem contains_of_extends {small large : Catalog} (h : small.Extends large) {name : String}
    (hc : Entries.contains small name = true) : Entries.contains large name = true := by
  obtain ⟨found, hf⟩ := Option.isSome_iff_exists.mp hc
  exact Option.isSome_iff_exists.mpr ⟨found, h _ _ hf⟩

theorem stepsRank_of_extends {small large : Catalog} (h : small.Extends large) (basis : Table)
    (targets : Entries String) (steps : List StepDefinition)
    (hm : ∀ name ∈ stepsMissing small basis targets steps, Entries.contains large name = true) :
    stepsRank large basis targets steps ≤ stepsRank small basis targets steps ∧
      (stepsMissing small basis targets steps ≠ [] →
        stepsRank large basis targets steps < stepsRank small basis targets steps) := by
  induction steps generalizing targets with
  | nil => simp [stepsRank, stepsMissing]
  | cons step rest ih =>
    cases hs : target? small basis targets step with
    | none =>
      simp only [stepsMissing, hs] at hm ⊢
      obtain ⟨hle, hlt⟩ := ih targets hm
      cases hl : target? large basis targets step with
      | none =>
        simp only [stepsRank, hs, hl]
        exact ⟨by omega, fun hne => by have := hlt hne; omega⟩
      | some name =>
        have := stepsRank_lt_weight large basis (targets ++ [(step.name, name)]) rest
        simp only [stepsRank, hs, hl]
        constructor
        · split <;> omega
        · intro _; split <;> omega
    | some name =>
      have hl := target?_of_extends h (fun _ _ hGet => hGet) hs
      simp only [stepsMissing, hs] at hm ⊢
      simp only [stepsRank, hs, hl]
      by_cases hc : Entries.contains small name = true
      · simp only [hc, if_true] at hm ⊢
        simp only [contains_of_extends h hc, if_true, Nat.zero_add]
        exact ih _ hm
      · simp only [hc] at hm ⊢
        have hlarge := hm name (by simp)
        have := stepsRank_lt_weight large basis (targets ++ [(step.name, name)]) rest
        simp only [hlarge, if_true]
        constructor
        · simp; omega
        · intro _; simp; omega

theorem entityRank_of_extends {small large : Catalog} (h : small.Extends large)
    (d : EntityDefinition)
    (hm : ∀ name ∈ entityMissing small d, Entries.contains large name = true) :
    entityRank large d ≤ entityRank small d ∧
      (entityMissing small d ≠ [] → entityRank large d < entityRank small d) := by
  unfold entityMissing at hm ⊢
  unfold entityRank
  cases hb : d.basisTable with
  | none => simp
  | some basis =>
    simp only [hb] at hm ⊢
    cases hs : Entries.get? small basis with
    | none =>
      simp only [hs] at hm ⊢
      obtain ⟨found, hf⟩ := Option.isSome_iff_exists.mp (hm basis (by simp))
      have := stepsRank_lt_weight large found [] d.steps
      simp only [hf]
      exact ⟨by omega, fun _ => this⟩
    | some found =>
      simp only [hs] at hm ⊢
      simp only [h _ _ hs]
      exact stepsRank_of_extends h found [] d.steps hm

mutual

theorem rank_of_extends {small large : Catalog} (h : small.Extends large) (d : Definition)
    (hm : ∀ name ∈ missing small d, Entries.contains large name = true) :
    rank large d ≤ rank small d ∧ (missing small d ≠ [] → rank large d < rank small d) := by
  obtain ⟨e, children⟩ := d
  simp only [missing, List.mem_append] at hm
  have he := entityRank_of_extends h e fun name hn => hm name (.inl hn)
  have hc := rankOfAll_of_extends h children fun name hn => hm name (.inr hn)
  simp only [missing, rank]
  refine ⟨by omega, fun hne => ?_⟩
  by_cases hem : entityMissing small e = []
  · have := hc.2 (by simpa [hem] using hne); omega
  · have := he.2 hem; omega

theorem rankOfAll_of_extends {small large : Catalog} (h : small.Extends large)
    (ds : List Definition)
    (hm : ∀ name ∈ missingOfAll small ds, Entries.contains large name = true) :
    rankOfAll large ds ≤ rankOfAll small ds ∧
      (missingOfAll small ds ≠ [] → rankOfAll large ds < rankOfAll small ds) := by
  match ds with
  | [] => simp [rankOfAll, missingOfAll]
  | d :: rest =>
    simp only [missingOfAll, List.mem_append] at hm
    have hd := rank_of_extends h d fun name hn => hm name (.inl hn)
    have hr := rankOfAll_of_extends h rest fun name hn => hm name (.inr hn)
    simp only [missingOfAll, rankOfAll]
    refine ⟨by omega, fun hne => ?_⟩
    by_cases hdm : missing small d = []
    · have := hr.2 (by simpa [hdm] using hne); omega
    · have := hd.2 hdm; omega

end

theorem not_contains_of_mem_stepsMissing {catalog : Catalog} {basis : Table}
    {targets : Entries String} {steps : List StepDefinition} {name : String}
    (h : name ∈ stepsMissing catalog basis targets steps) :
    Entries.contains catalog name = false := by
  induction steps generalizing targets with
  | nil => simp [stepsMissing] at h
  | cons step rest ih =>
    unfold stepsMissing at h
    split at h
    · exact ih h
    · split at h
      · exact ih h
      · rename_i hc
        rcases List.mem_cons.mp h with rfl | h
        · simpa using hc
        · exact ih h

theorem not_contains_of_mem_entityMissing {catalog : Catalog} {d : EntityDefinition}
    {name : String} (h : name ∈ entityMissing catalog d) :
    Entries.contains catalog name = false := by
  unfold entityMissing at h
  split at h
  · simp at h
  · split at h
    · rename_i hg
      simp only [List.mem_singleton] at h
      subst h
      simp [Entries.contains, hg]
    · exact not_contains_of_mem_stepsMissing h

mutual

theorem not_contains_of_mem_missing {catalog : Catalog} {name : String} (d : Definition)
    (h : name ∈ missing catalog d) : Entries.contains catalog name = false := by
  obtain ⟨e, children⟩ := d
  simp only [missing, List.mem_append] at h
  rcases h with h | h
  · exact not_contains_of_mem_entityMissing h
  · exact not_contains_of_mem_missingOfAll children h

theorem not_contains_of_mem_missingOfAll {catalog : Catalog} {name : String}
    (ds : List Definition) (h : name ∈ missingOfAll catalog ds) :
    Entries.contains catalog name = false := by
  match ds with
  | [] => simp [missingOfAll] at h
  | d :: rest =>
    simp only [missingOfAll, List.mem_append] at h
    rcases h with h | h
    · exact not_contains_of_mem_missing d h
    · exact not_contains_of_mem_missingOfAll rest h

end

end RowTree.Compile
