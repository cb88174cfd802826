import RowTree.Compile
import RowTree.Proofs.Rounds

/-!
# Tables that compile alike

Of a table a definition sees its names, its joins and what its columns are when they are looked up
by name; of a column it sees the default that counts, wherever that is kept. Tables that are alike
in all this give the same models, whatever else is in the catalog and whoever provides the rest.
-/

namespace RowTree

open Schema

namespace Outcome

variable {ε α β γ δ : Type}

/-- Both are values that stand in the relation, or both are the same error. -/
def Rel (R : α → β → Prop) : Except ε α → Except ε β → Prop
  | .ok a, .ok b => R a b
  | .error e, .error f => e = f
  | _, _ => False

theorem rel_eq_iff {x y : Except ε α} : Rel Eq x y ↔ x = y := by
  cases x <;> cases y <;> simp [Rel]

theorem Rel.bind {R : α → β → Prop} {S : γ → δ → Prop} {x : Except ε α} {y : Except ε β}
    {f : α → Except ε γ} {g : β → Except ε δ} (h : Rel R x y)
    (hNext : ∀ a b, R a b → Rel S (f a) (g b)) : Rel S (x >>= f) (y >>= g) := by
  cases x with
  | error e =>
    cases y with
    | error f => exact h
    | ok b => exact h.elim
  | ok a =>
    cases y with
    | error f => exact h.elim
    | ok b => exact hNext a b h

theorem Rel.bind_eq {R : α → β → Prop} {x : Except ε α} {y : Except ε β} {f : α → Except ε γ}
    {g : β → Except ε γ} (h : Rel R x y) (hNext : ∀ a b, R a b → f a = g b) :
    (x >>= f) = (y >>= g) :=
  rel_eq_iff.mp (h.bind fun a b hab => rel_eq_iff.mpr (hNext a b hab))

end Outcome

theorem rel_cases {α β : Type} {R : α → β → Prop} {x : Option α} {y : Option β}
    (h : Option.Rel R x y) :
    (x = none ∧ y = none) ∨ ∃ a b, x = some a ∧ y = some b ∧ R a b := by
  cases h with
  | none => exact .inl ⟨rfl, rfl⟩
  | some hab => exact .inr ⟨_, _, rfl, rfl, hab⟩

theorem find?_rel {α β : Type} {R : α → β → Prop} {p : α → Bool} {q : β → Bool} {xs : List α}
    {ys : List β} (h : List.Forall₂ R xs ys) (hSame : ∀ x y, R x y → p x = q y) :
    Option.Rel R (xs.find? p) (ys.find? q) := by
  induction h with
  | nil => exact .none
  | @cons x y xs ys hFirst _ ih =>
    rw [List.find?_cons, List.find?_cons, ← hSame x y hFirst]
    cases p x with
    | true => exact .some hFirst
    | false => exact ih

namespace Schema

/-- Who looks the columns up sees the same of both. -/
structure Column.Alike (c d : Column) : Prop where
  name : c.name = d.name
  storageName : c.storageName = d.storageName
  required : c.required = d.required
  dataType : c.dataType = d.dataType
  default? : c.default? = d.default?

structure Table.Alike (t u : Table) : Prop where
  name : t.name = u.name
  storageName : t.storageName = u.storageName
  primaryKey : t.primaryKey = u.primaryKey
  joins : t.joins = u.joins
  column? : ∀ name, Option.Rel Column.Alike (t.column? name) (u.column? name)

theorem Table.Alike.refl (t : Table) : t.Alike t where
  name := rfl
  storageName := rfl
  primaryKey := rfl
  joins := rfl
  column? name := by
    cases t.column? name with
    | none => exact .none
    | some column => exact .some ⟨rfl, rfl, rfl, rfl, rfl⟩

theorem Table.Alike.join? {t u : Table} (h : t.Alike u) (name : String) :
    t.join? name = u.join? name := by
  rw [Table.join?, h.joins, Table.join?]

def Catalog.Alike (one other : Catalog) : Prop :=
  ∀ name, Option.Rel Table.Alike (Entries.get? one name) (Entries.get? other name)

theorem Catalog.Alike.refl (catalog : Catalog) : catalog.Alike catalog := by
  intro name
  cases Entries.get? catalog name with
  | none => exact .none
  | some table => exact .some (.refl table)

theorem Catalog.Alike.set {one other : Catalog} (h : one.Alike other) {t u : Table}
    (hTables : t.Alike u) (name : String) :
    Catalog.Alike (Entries.set one name t) (Entries.set other name u) := by
  intro asked
  by_cases hName : name = asked
  · rw [hName, Entries.get?_set_self, Entries.get?_set_self]
    exact .some hTables
  · rw [Entries.get?_set_of_ne _ _ hName, Entries.get?_set_of_ne _ _ hName]
    exact h asked

theorem Catalog.Alike.contains {one other : Catalog} (h : one.Alike other) (name : String) :
    Entries.contains one name = Entries.contains other name := by
  rw [Entries.contains, Entries.contains]
  rcases rel_cases (h name) with ⟨hOne, hOther⟩ | ⟨t, u, hOne, hOther, -⟩
  · rw [hOne, hOther]
  · rw [hOne, hOther]
    rfl

theorem Catalog.Alike.table {one other : Catalog} (h : one.Alike other) (name : String) :
    Outcome.Rel Table.Alike (one.table name) (other.table name) := by
  rw [Catalog.table, Catalog.table]
  rcases rel_cases (h name) with ⟨hOne, hOther⟩ | ⟨t, u, hOne, hOther, hTables⟩
  · rw [hOne, hOther]
    exact rfl
  · rw [hOne, hOther]
    exact hTables

end Schema

namespace Compile

variable {model : String} {source source' target target' : Table} {catalog catalog' : Catalog}
  {scope scope' : Scope}

theorem need_rel {α β : Type} {R : α → β → Prop} {problem : DefinitionProblem} {found : Option α}
    {found' : Option β} (h : Option.Rel R found found') :
    Outcome.Rel R (need model problem found) (need model problem found') := by
  cases h with
  | none => exact rfl
  | some hFound => exact hFound

theorem bindPair_alike (hSource : source.Alike source') (hTarget : target.Alike target')
    (join : String) (index : Nat) :
    bindPair model join index source target = bindPair model join index source' target' := by
  funext pair
  unfold bindPair
  rw [hTarget.name]
  refine (need_rel (hTarget.column? pair.target)).bind_eq fun c c' hColumn => ?_
  rw [hColumn.storageName]
  cases pair.constant with
  | some text => rfl
  | none =>
    cases pair.source with
    | none => rfl
    | some name =>
      dsimp only
      rw [hSource.name]
      refine (need_rel (hSource.column? name)).bind_eq fun d d' hFound => ?_
      rw [hFound.storageName]

/-- The same steps lead to tables that are alike. -/
structure Scope.Alike (scope scope' : Scope) : Prop where
  basis : scope.basis.Alike scope'.basis
  joined : List.Forall₂ (fun x y : Step × Table => x.1 = y.1 ∧ x.2.Alike y.2) scope.joined
    scope'.joined

theorem Scope.Alike.steps (h : scope.Alike scope') : scope.steps = scope'.steps :=
  List.forall₂_eq_eq_eq ▸ List.forall₂_map_left_iff.mpr (List.forall₂_map_right_iff.mpr
    (h.joined.imp fun _ _ hEntry => hEntry.1))

theorem Scope.Alike.source? (h : scope.Alike scope') (name : Option String) :
    Option.Rel (fun x y : Nat × Table => x.1 = y.1 ∧ x.2.Alike y.2) (scope.source? name)
      (scope'.source? name) := by
  cases name with
  | none => exact .some ⟨rfl, h.basis⟩
  | some name =>
    have hFound := find?_rel (p := (·.1.name == name)) (q := (·.1.name == name)) h.joined
      fun x y hEntry => by rw [hEntry.1]
    unfold Scope.source?
    dsimp only
    rcases rel_cases hFound with ⟨hOne, hOther⟩ | ⟨x, y, hOne, hOther, hEntry⟩
    · rw [hOne, hOther]
      exact .none
    · rw [hOne, hOther]
      exact .some ⟨congrArg Step.index hEntry.1, hEntry.2⟩

theorem bindStep_alike (hCatalog : catalog.Alike catalog') (hScope : scope.Alike scope')
    (d : StepDefinition) : bindStep catalog model scope d = bindStep catalog' model scope' d := by
  have hLength : scope.joined.length = scope'.joined.length := hScope.joined.length_eq
  unfold bindStep
  rw [hScope.steps, hLength]
  refine bind_congr fun _ => ?_
  dsimp only
  split
  · rfl
  refine bind_congr fun joinName => ?_
  refine (need_rel (hScope.source? d.previousStep)).bind_eq fun found found' hFound => ?_
  obtain ⟨index, source⟩ := found
  obtain ⟨index', source'⟩ := found'
  obtain ⟨rfl, hSource⟩ := hFound
  dsimp only
  rw [hSource.name, hSource.join?]
  refine bind_congr fun join => ?_
  refine (hCatalog.table join.table).bind_eq fun target target' hTarget => ?_
  rw [bindPair_alike hSource hTarget, hTarget.name, hTarget.storageName]

theorem bindSteps_alike (hCatalog : catalog.Alike catalog') (hScope : scope.Alike scope')
    (ds : List StepDefinition) :
    Outcome.Rel Scope.Alike (bindSteps catalog model scope ds)
      (bindSteps catalog' model scope' ds) := by
  induction ds generalizing scope scope' with
  | nil => exact hScope
  | cons d rest ih =>
    rw [bindSteps, bindSteps, bindStep_alike hCatalog hScope]
    refine (Outcome.rel_eq_iff.mpr rfl).bind fun step step' hStep => ?_
    subst hStep
    refine (hCatalog.table step.join.table.name).bind fun table table' hTable => ?_
    exact ih ⟨hScope.basis, List.rel_append hScope.joined (.cons ⟨rfl, hTable⟩ .nil)⟩

theorem bindField_alike (hScope : scope.Alike scope') (d : FieldDefinition) :
    bindField model scope d = bindField model scope' d := by
  unfold bindField
  refine bind_congr fun _ => ?_
  refine (need_rel (hScope.source? d.step)).bind_eq fun found found' hFound => ?_
  obtain ⟨index, table⟩ := found
  obtain ⟨index', table'⟩ := found'
  obtain ⟨rfl, hTable⟩ := hFound
  dsimp only
  cases d.basisColumn with
  | none => rfl
  | some name =>
    dsimp only
    rw [hTable.name]
    refine (need_rel (hTable.column? name)).bind_eq fun column column' hColumn => ?_
    simp only [Bind.bind, Except.bind, Option.map_some, Option.any_some, Option.bind_some,
      hColumn.name, hColumn.storageName, hColumn.required, hColumn.dataType, hColumn.default?]

theorem bindFields_alike (hScope : scope.Alike scope') (bound : List Field)
    (ds : List FieldDefinition) :
    bindFields model scope bound ds = bindFields model scope' bound ds := by
  induction ds generalizing bound with
  | nil => rfl
  | cons d rest ih => simp only [bindFields, bindField_alike hScope, ih]

theorem keyPosition?_alike (h : source.Alike source') (fields : List Field) :
    keyPosition? source fields = keyPosition? source' fields := by
  unfold keyPosition? Table.primaryKeyColumn?
  rw [h.primaryKey]
  cases source'.primaryKey with
  | none => rfl
  | some key =>
    rw [Option.bind_some, Option.bind_some]
    rcases rel_cases (h.column? key) with ⟨hOne, hOther⟩ | ⟨c, d, hOne, hOther, hColumn⟩
    · rw [hOne, hOther]
    · rw [hOne, hOther, Option.bind_some, Option.bind_some, hColumn.name]

theorem bindEntity_alike (h : catalog.Alike catalog') (d : EntityDefinition) :
    bindEntity catalog d = bindEntity catalog' d := by
  unfold bindEntity
  refine bind_congr fun basisName => ?_
  refine bind_congr fun _ => ?_
  refine (h.table basisName).bind_eq fun basis basis' hBasis => ?_
  refine (bindSteps_alike h ⟨hBasis, .nil⟩ d.steps).bind_eq fun scope scope' hScope => ?_
  simp only [bindFields_alike hScope, keyPosition?_alike hBasis, hBasis.name, hBasis.storageName,
    hScope.steps]

mutual

theorem bind_alike (h : catalog.Alike catalog') (d : Definition) :
    bind catalog d = bind catalog' d := by
  obtain ⟨d, children⟩ := d
  rw [bind, bind, bindEntity_alike h]
  congr 1
  funext entity
  rw [bindChildren_alike h children entity []]

theorem bindChildren_alike (h : catalog.Alike catalog') (ds : List Definition) (parent : Entity)
    (bound : List Model) :
    bindChildren catalog parent bound ds = bindChildren catalog' parent bound ds := by
  cases ds with
  | nil => rfl
  | cons d rest =>
    have hRest := bindChildren_alike h rest parent
    simp only [bindChildren, bind_alike h d, hRest]

end

theorem target?_alike (hCatalog : catalog.Alike catalog') (hBasis : source.Alike source')
    (targets : Entries String) (step : StepDefinition) :
    target? catalog source targets step = target? catalog' source' targets step := by
  unfold target?
  dsimp only
  cases step.previousStep with
  | none =>
    cases step.join with
    | none => rfl
    | some join => exact congrArg (Option.map (·.table)) (hBasis.join? join)
  | some previous =>
    dsimp only
    cases targets.get? previous with
    | none => rfl
    | some target =>
      rw [Option.bind_some, Option.bind_some]
      rcases rel_cases (hCatalog target) with ⟨hOne, hOther⟩ | ⟨t, u, hOne, hOther, hTable⟩
      · rw [hOne, hOther]
      · rw [hOne, hOther]
        cases step.join with
        | none => rfl
        | some join => exact congrArg (Option.map (·.table)) (hTable.join? join)

theorem stepsMissing_alike (hCatalog : catalog.Alike catalog') (hBasis : source.Alike source')
    (targets : Entries String) (steps : List StepDefinition) :
    stepsMissing catalog source targets steps = stepsMissing catalog' source' targets steps := by
  induction steps generalizing targets with
  | nil => rfl
  | cons step rest ih =>
    simp only [stepsMissing, target?_alike hCatalog hBasis, hCatalog.contains, ih]

theorem entityMissing_alike (h : catalog.Alike catalog') (d : EntityDefinition) :
    entityMissing catalog d = entityMissing catalog' d := by
  unfold entityMissing
  cases d.basisTable with
  | none => rfl
  | some basis =>
    dsimp only
    rcases rel_cases (h basis) with ⟨hOne, hOther⟩ | ⟨t, u, hOne, hOther, hTable⟩
    · rw [hOne, hOther]
    · rw [hOne, hOther]
      exact stepsMissing_alike h hTable [] d.steps

mutual

theorem missing_alike (h : catalog.Alike catalog') (d : Definition) :
    missing catalog d = missing catalog' d := by
  obtain ⟨d, children⟩ := d
  rw [missing, missing, entityMissing_alike h, missingOfAll_alike h children]

theorem missingOfAll_alike (h : catalog.Alike catalog') (ds : List Definition) :
    missingOfAll catalog ds = missingOfAll catalog' ds := by
  cases ds with
  | nil => rfl
  | cons d rest =>
    rw [missingOfAll, missingOfAll, missing_alike h d, missingOfAll_alike h rest]

end

theorem enter_alike (h : catalog.Alike catalog') (tables : List (String × Table)) :
    Catalog.Alike (enter catalog tables) (enter catalog' tables) := by
  induction tables generalizing catalog catalog' with
  | nil => exact h
  | cons entry rest ih => exact ih (h.set (.refl entry.2) entry.1)

/-- The provider is asked for the same names and all that it gives is entered on both sides. -/
theorem resolve_alike {catalog catalog' : Catalog} (h : catalog.Alike catalog')
    (provider : Option Provider) (d : Definition) (asked : List String) :
    (resolve provider d catalog asked).outcome = (resolve provider d catalog' asked).outcome ∧
      (resolve provider d catalog asked).catalog.Alike
        (resolve provider d catalog' asked).catalog := by
  have hMissing := missing_alike h d
  by_cases hNone : missing catalog d = []
  · rw [resolve_of_complete hNone, resolve_of_complete (hMissing ▸ hNone)]
    exact ⟨rfl, h⟩
  · cases provider with
    | none =>
      obtain ⟨name, rest, hNames⟩ := List.exists_cons_of_ne_nil (mt ascending_eq_nil_iff.mp hNone)
      rw [resolve_alone hNames, resolve_alone (hMissing ▸ hNames)]
      exact ⟨rfl, h⟩
    | some p =>
      have hNone' : missing catalog' d ≠ [] := hMissing ▸ hNone
      cases hFetch : (fetch p asked (ascending (missing catalog d))).1 with
      | error e =>
        have hFetch' : (fetch p asked (ascending (missing catalog' d))).1 = .error e :=
          hMissing ▸ hFetch
        rw [resolve_refused hNone hFetch, resolve_refused hNone' hFetch']
        exact ⟨rfl, h⟩
      | ok tables =>
        have hFetch' : (fetch p asked (ascending (missing catalog' d))).1 = .ok tables :=
          hMissing ▸ hFetch
        rw [resolve_of_round hNone hFetch, resolve_of_round hNone' hFetch']
        have hLower := rank_enter_lt (names_of_fetch hFetch) hNone
        exact resolve_alike (enter_alike h tables) (some p) d _
termination_by rank catalog d

end Compile

namespace Compiler

/-- The compiler with one more table, or another one under its name. -/
def knowing (compiler : Compiler) (name : String) (table : Table) : Compiler :=
  { compiler with catalog := Entries.set compiler.catalog name table }

/-- Definitions compile to the same models against tables that are alike. -/
theorem compile_knowing_alike {t u : Table} (h : t.Alike u) (compiler : Compiler) (name : String)
    (d : Definition) :
    ((compiler.knowing name t).compile d).1 = ((compiler.knowing name u).compile d).1 := by
  have hCatalog := (Catalog.Alike.refl compiler.catalog).set h name
  obtain ⟨hOutcome, hResolved⟩ :=
    Compile.resolve_alike hCatalog compiler.provider d compiler.asked
  simp only [compile, knowing, hOutcome, Compile.bind_alike hResolved]

end Compiler

end RowTree
