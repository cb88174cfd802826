import RowTree.Proofs.Needs
import RowTree.Proofs.Scoping
import Mathlib.Data.List.Perm.Subperm
import Mathlib.Data.String.Basic

/-!
# Rounds of a resolution

Resolving as a run of complete rounds and the way in which it ends. A round asks for what is
missing, every name once, and enters all of it; so what was asked for in one round is not
missing in the next.
-/

namespace RowTree.Compile

open Schema Entries

variable {provider : Option Provider} {p : Provider} {d : Definition}
  {catalog later : Catalog} {asked : List String}

/-- The provider gives the tables when their names are asked for one after the other. -/
inductive Supplies (p : Provider) : List String → List (String × Table) → Prop
  | nil {asked : List String} : Supplies p asked []
  | cons {asked : List String} {name : String} {table : Table} {rest : List (String × Table)}
      (first : p asked name = .ok table) (others : Supplies p (asked ++ [name]) rest) :
      Supplies p asked ((name, table) :: rest)

/-- Complete rounds, each with the tables that it fetched: all that are missing, every name
once. -/
inductive Rounds (provider : Option Provider) (d : Definition) :
    Catalog → List String → List (List (String × Table)) → Prop
  | nil {catalog : Catalog} {asked : List String} : Rounds provider d catalog asked []
  | cons {p : Provider} {catalog : Catalog} {asked : List String}
      {tables : List (String × Table)} {rounds : List (List (String × Table))}
      (given : provider = some p) (some_missing : missing catalog d ≠ [])
      (names : tables.map (·.1) = ascending (missing catalog d))
      (supplies : Supplies p asked tables)
      (others : Rounds provider d (catalog ++ tables) (asked ++ tables.map (·.1)) rounds) :
      Rounds provider d catalog asked (tables :: rounds)

/-- How a resolution ends when no further round can be completed, with the names that it
still asks for. -/
inductive Ends (provider : Option Provider) (d : Definition) (catalog : Catalog)
    (asked : List String) : List String → Except Error Unit → Prop
  | complete (none_missing : missing catalog d = []) : Ends provider d catalog asked [] (.ok ())
  | alone {name : String} {rest : List String} (not_given : provider = none)
      (names : ascending (missing catalog d) = name :: rest) :
      Ends provider d catalog asked [] (.error (.of (.tableNotFound name)))
  | refused {p : Provider} {tables : List (String × Table)} {name : String} {rest : List String}
      {e : Error} (given : provider = some p)
      (names : ascending (missing catalog d) = tables.map (·.1) ++ name :: rest)
      (supplies : Supplies p asked tables)
      (refusal : p (asked ++ tables.map (·.1)) name = .error e) :
      Ends provider d catalog asked (tables.map (·.1) ++ [name]) (.error e)

theorem supplies_of_fetch {names : List String} {tables : List (String × Table)}
    (h : (fetch p asked names).1 = .ok tables) :
    Supplies p asked tables ∧ (fetch p asked names).2 = asked ++ tables.map (·.1) := by
  induction names generalizing asked tables with
  | nil =>
    cases h
    exact ⟨.nil, (List.append_nil _).symm⟩
  | cons name rest ih =>
    rw [fetch] at h ⊢
    cases hFirst : p asked name with
    | error e =>
      rw [hFirst] at h
      cases h
    | ok table =>
      rw [hFirst] at h
      dsimp only at h ⊢
      cases hRest : (fetch p (asked ++ [name]) rest).1 with
      | error e =>
        rw [hRest] at h
        cases h
      | ok more =>
        rw [hRest] at h
        cases h
        obtain ⟨hSupplies, hAsked⟩ := ih hRest
        refine ⟨.cons hFirst hSupplies, ?_⟩
        rw [hAsked, List.map_cons, List.append_assoc, List.singleton_append]

theorem refusal_of_fetch {names : List String} {e : Error}
    (h : (fetch p asked names).1 = .error e) :
    ∃ tables name rest, names = tables.map (·.1) ++ name :: rest ∧ Supplies p asked tables ∧
      p (asked ++ tables.map (·.1)) name = .error e ∧
      (fetch p asked names).2 = asked ++ (tables.map (·.1) ++ [name]) := by
  induction names generalizing asked with
  | nil => cases h
  | cons name rest ih =>
    rw [fetch] at h ⊢
    cases hFirst : p asked name with
    | error other =>
      rw [hFirst] at h
      cases h
      exact ⟨[], name, rest, rfl, .nil, by simpa using hFirst, rfl⟩
    | ok table =>
      rw [hFirst] at h
      dsimp only at h ⊢
      cases hRest : (fetch p (asked ++ [name]) rest).1 with
      | ok more =>
        rw [hRest] at h
        cases h
      | error other =>
        rw [hRest] at h
        cases h
        obtain ⟨tables, last, others, rfl, hSupplies, hRefusal, hAsked⟩ := ih hRest
        refine ⟨(name, table) :: tables, last, others, rfl, .cons hFirst hSupplies, ?_, ?_⟩
        · simpa using hRefusal
        · rw [hAsked]
          simp

theorem enter_eq_append {tables : List (String × Table)} (hNodup : (tables.map (·.1)).Nodup)
    (hFresh : ∀ name ∈ tables.map (·.1), contains catalog name = false) :
    enter catalog tables = catalog ++ tables := by
  induction tables generalizing catalog with
  | nil => exact (List.append_nil _).symm
  | cons entry rest ih =>
    obtain ⟨name, table⟩ := entry
    obtain ⟨hName, hRest⟩ := List.nodup_cons.mp hNodup
    have hAbsent : Entries.get? catalog name = none :=
      Option.isNone_iff_eq_none.mp (Option.isSome_eq_false_iff.mp (hFresh name List.mem_cons_self))
    change enter (set catalog name table) rest = _
    rw [set_of_not_mem (get?_eq_none_iff.mp hAbsent), ih hRest, List.append_assoc,
      List.singleton_append]
    intro other hOther
    have hNe : name ≠ other := by
      rintro rfl
      exact hName hOther
    rw [contains, get?_concat_of_ne _ _ hNe]
    exact hFresh other (List.mem_cons_of_mem _ hOther)

theorem pairwise_insertName {name : String} {names : List String}
    (h : names.Pairwise (· < ·)) : (insertName name names).Pairwise (· < ·) := by
  induction names with
  | nil => exact List.pairwise_singleton _ _
  | cons other rest ih =>
    obtain ⟨hOther, hRest⟩ := List.pairwise_cons.mp h
    unfold insertName
    split
    · exact h
    · rename_i hNe
      split
      · rename_i hLt
        refine List.pairwise_cons.mpr ⟨?_, h⟩
        intro x hx
        rcases List.mem_cons.mp hx with rfl | hx
        · exact hLt
        · exact lt_trans hLt (hOther x hx)
      · rename_i hNotLt
        refine List.pairwise_cons.mpr ⟨?_, ih hRest⟩
        intro x hx
        rcases mem_insertName.mp hx with rfl | hx
        · exact lt_of_le_of_ne (not_lt.mp hNotLt) (Ne.symm hNe)
        · exact hOther x hx

theorem nodup_ascending (names : List String) : (ascending names).Nodup := by
  have hSorted : (ascending names).Pairwise (· < ·) := by
    induction names with
    | nil => exact .nil
    | cons name rest ih => exact pairwise_insertName ih
  exact hSorted.imp fun hLt => ne_of_lt hLt

theorem ascending_eq_nil_iff {names : List String} : ascending names = [] ↔ names = [] := by
  rw [List.eq_nil_iff_forall_not_mem, List.eq_nil_iff_forall_not_mem]
  exact forall_congr' fun name => not_congr mem_ascending

theorem enter_eq_append_of_round {tables : List (String × Table)}
    (hNames : tables.map (·.1) = ascending (missing catalog d)) :
    enter catalog tables = catalog ++ tables := by
  apply enter_eq_append
  · rw [hNames]
    exact nodup_ascending _
  · intro name hName
    rw [hNames, mem_ascending] at hName
    exact not_contains_of_mem_missing d hName

theorem resolve_of_complete (h : missing catalog d = []) :
    resolve provider d catalog asked = ⟨.ok (), catalog, asked⟩ := by
  rw [resolve]
  split
  · rfl
  · rename_i hNames
    rw [h] at hNames
    cases hNames

theorem resolve_of_round {tables : List (String × Table)} (hSome : missing catalog d ≠ [])
    (h : (fetch p asked (ascending (missing catalog d))).1 = .ok tables) :
    resolve (some p) d catalog asked =
      resolve (some p) d (enter catalog tables) (asked ++ tables.map (·.1)) := by
  rw [← (supplies_of_fetch h).2]
  conv_lhs => rw [resolve]
  split
  · rename_i hNames
    exact absurd (ascending_eq_nil_iff.mp hNames) hSome
  · rename_i name rest hNames
    dsimp only
    split
    · rename_i hFetch
      rw [← hNames, h] at hFetch
      cases hFetch
    · rename_i hFetch
      rw [← hNames, h] at hFetch
      cases hFetch
      rw [hNames]

theorem resolve_alone {name : String} {rest : List String}
    (h : ascending (missing catalog d) = name :: rest) :
    resolve none d catalog asked = ⟨.error (.of (.tableNotFound name)), catalog, asked⟩ := by
  rw [resolve]
  split
  · rename_i hNames
    cases h.symm.trans hNames
  · rename_i hNames
    cases h.symm.trans hNames
    rfl

theorem resolve_refused {e : Error} (hSome : missing catalog d ≠ [])
    (h : (fetch p asked (ascending (missing catalog d))).1 = .error e) :
    resolve (some p) d catalog asked =
      ⟨.error e, catalog, (fetch p asked (ascending (missing catalog d))).2⟩ := by
  rw [resolve]
  split
  · rename_i hNames
    exact absurd (ascending_eq_nil_iff.mp hNames) hSome
  · rename_i name rest hNames
    dsimp only
    split
    · rename_i hFetch
      rw [← hNames, h] at hFetch
      cases hFetch
      rw [hNames]
    · rename_i hFetch
      rw [← hNames, h] at hFetch
      cases hFetch

/-- A resolution made of complete rounds and an end, at which it asks for some more names. -/
structure Course (provider : Option Provider) (d : Definition) (catalog : Catalog)
    (asked : List String) (rounds : List (List (String × Table))) (tried : List String)
    (r : Resolution) : Prop where
  complete : Rounds provider d catalog asked rounds
  ends : Ends provider d (catalog ++ rounds.flatten) (asked ++ rounds.flatten.map (·.1)) tried
    r.outcome
  catalog_eq : r.catalog = catalog ++ rounds.flatten
  asked_eq : r.asked = asked ++ (rounds.flatten.map (·.1) ++ tried)

theorem Course.of_ends {tried : List String} {r : Resolution}
    (h : Ends provider d catalog asked tried r.outcome) (hCatalog : r.catalog = catalog)
    (hAsked : r.asked = asked ++ tried) : Course provider d catalog asked [] tried r where
  complete := .nil
  ends := by simpa using h
  catalog_eq := by simpa using hCatalog
  asked_eq := by simpa using hAsked

theorem Course.round {tables : List (String × Table)} {rounds : List (List (String × Table))}
    {tried : List String} {r : Resolution} (hSome : missing catalog d ≠ [])
    (hNames : tables.map (·.1) = ascending (missing catalog d))
    (hSupplies : Supplies p asked tables)
    (h : Course (some p) d (catalog ++ tables) (asked ++ tables.map (·.1)) rounds tried r) :
    Course (some p) d catalog asked (tables :: rounds) tried r where
  complete := .cons rfl hSome hNames hSupplies h.complete
  ends := by simpa using h.ends
  catalog_eq := by simpa using h.catalog_eq
  asked_eq := by simpa using h.asked_eq

theorem exists_course (provider : Option Provider) (d : Definition) (catalog : Catalog)
    (asked : List String) : ∃ rounds tried,
      Course provider d catalog asked rounds tried (resolve provider d catalog asked) := by
  rw [resolve]
  split
  · rename_i hNames
    have hNone := ascending_eq_nil_iff.mp hNames
    exact ⟨[], [], .of_ends (.complete hNone) rfl (List.append_nil _).symm⟩
  · rename_i name rest hNames
    split
    · exact ⟨[], [], .of_ends (.alone rfl hNames) rfl (List.append_nil _).symm⟩
    · rename_i p
      split
      · rename_i e hRefused
        obtain ⟨tables, last, others, hSplit, hSupplies, hRefusal, hAsked⟩ :=
          refusal_of_fetch hRefused
        exact ⟨[], _, .of_ends (.refused rfl (hNames.trans hSplit) hSupplies hRefusal) rfl hAsked⟩
      · rename_i tables hFetched
        obtain ⟨hSupplies, hAsked⟩ := supplies_of_fetch hFetched
        have hTables := (names_of_fetch hFetched).trans hNames.symm
        have hSome : missing catalog d ≠ [] := by
          intro hNone
          rw [hNone] at hNames
          cases hNames
        have hLower := rank_enter_lt hTables hSome
        obtain ⟨rounds, tried, hCourse⟩ :=
          exists_course (some p) d (enter catalog tables) (fetch p asked (name :: rest)).2
        refine ⟨tables :: rounds, tried, .round hSome hTables hSupplies ?_⟩
        rw [← enter_eq_append_of_round hTables, ← hAsked]
        exact hCourse
termination_by rank catalog d

theorem Course.missing_eq_nil {rounds : List (List (String × Table))} {tried : List String}
    {r : Resolution} (h : Course provider d catalog asked rounds tried r)
    (hOk : r.outcome = .ok ()) : missing r.catalog d = [] := by
  have hEnds := h.ends
  rw [hOk] at hEnds
  rw [h.catalog_eq]
  cases hEnds with
  | complete hNone => exact hNone

theorem missing_resolve_eq_nil (h : (resolve provider d catalog asked).outcome = .ok ()) :
    missing (resolve provider d catalog asked).catalog d = [] := by
  obtain ⟨_, _, hCourse⟩ := exists_course provider d catalog asked
  exact hCourse.missing_eq_nil h

section Held

variable {P : String → Table → Prop}

theorem Supplies.forall_mem
    (hProvider : ∀ asked name table, p asked name = .ok table → P name table)
    {tables : List (String × Table)} (h : Supplies p asked tables) :
    ∀ entry ∈ tables, P entry.1 entry.2 := by
  induction h with
  | nil =>
    intro _ hEntry
    cases hEntry
  | cons first _ ih => exact List.forall_mem_cons.mpr ⟨hProvider _ _ _ first, ih⟩

theorem forall_held_append {tables : List (String × Table)}
    (hCatalog : ∀ name table, get? catalog name = some table → P name table)
    (hTables : ∀ entry ∈ tables, P entry.1 entry.2) {name : String} {table : Table}
    (hFound : get? (catalog ++ tables) name = some table) : P name table := by
  rw [get?_append] at hFound
  rcases Option.or_eq_some_iff.mp hFound with hOld | ⟨_, hNew⟩
  · exact hCatalog name table hOld
  · exact hTables _ (mem_of_get?_eq_some hNew)

theorem Rounds.forall_held (hProvider : ∀ p, provider = some p →
      ∀ asked name table, p asked name = .ok table → P name table)
    {rounds : List (List (String × Table))} (h : Rounds provider d catalog asked rounds)
    (hCatalog : ∀ name table, get? catalog name = some table → P name table) :
    ∀ name table, get? (catalog ++ rounds.flatten) name = some table → P name table := by
  induction h with
  | nil =>
    rw [List.flatten_nil, List.append_nil]
    exact hCatalog
  | cons given _ _ supplies _ ih =>
    rw [List.flatten_cons, ← List.append_assoc]
    refine ih fun name table hFound => ?_
    exact forall_held_append hCatalog (supplies.forall_mem (hProvider _ given)) hFound

end Held

theorem Ends.fresh {tried : List String} {outcome : Except Error Unit}
    (h : Ends provider d catalog asked tried outcome) :
    tried.Nodup ∧ ∀ name ∈ tried, name ∈ missing catalog d := by
  cases h with
  | complete _ => exact ⟨.nil, fun _ h => by cases h⟩
  | alone _ _ => exact ⟨.nil, fun _ h => by cases h⟩
  | @refused _ tables name rest _ _ names _ _ =>
    have hPrefix : tables.map (·.1) ++ [name] <+: ascending (missing catalog d) :=
      ⟨rest, by rw [names, List.append_assoc, List.singleton_append]⟩
    refine ⟨(nodup_ascending _).sublist hPrefix.sublist, ?_⟩
    intro other hOther
    exact mem_ascending.mp (hPrefix.subset hOther)

/-- The names of a run are asked for once, and none of them is one that the catalog holds. -/
theorem Rounds.fresh {rounds : List (List (String × Table))} {tried : List String}
    {outcome : Except Error Unit} (h : Rounds provider d catalog asked rounds)
    (hEnds : Ends provider d (catalog ++ rounds.flatten) (asked ++ rounds.flatten.map (·.1)) tried
      outcome) :
    (rounds.flatten.map (·.1) ++ tried).Nodup ∧
      ∀ name ∈ rounds.flatten.map (·.1) ++ tried, contains catalog name = false := by
  induction h with
  | nil =>
    obtain ⟨hNodup, hMissing⟩ := hEnds.fresh
    simp only [List.flatten_nil, List.append_nil, List.map_nil, List.nil_append] at hMissing ⊢
    exact ⟨hNodup, fun name hName => not_contains_of_mem_missing d (hMissing name hName)⟩
  | @cons _ catalog _ tables rounds _ _ names _ _ ih =>
    simp only [List.flatten_cons, List.map_append, List.append_assoc] at hEnds ⊢
    obtain ⟨hNodup, hFresh⟩ := ih (by simpa using hEnds)
    have hTables : ∀ name ∈ tables.map (·.1), contains catalog name = false := by
      intro name hName
      rw [names, mem_ascending] at hName
      exact not_contains_of_mem_missing d hName
    -- What comes later is neither in the catalog nor among the tables of this round.
    have hLater : ∀ name ∈ rounds.flatten.map (·.1) ++ tried,
        contains catalog name = false ∧ name ∉ tables.map (·.1) := by
      intro name hName
      have hNot := hFresh name hName
      rw [contains, get?_append, Option.isSome_or, Bool.or_eq_false_iff] at hNot
      exact ⟨hNot.1, get?_eq_none_iff.mp
        (Option.isNone_iff_eq_none.mp (Option.isSome_eq_false_iff.mp hNot.2))⟩
    constructor
    · refine List.nodup_append.mpr ⟨names ▸ nodup_ascending _, hNodup, ?_⟩
      rintro name hName _ hOther rfl
      exact (hLater name hOther).2 hName
    · intro name hName
      rcases List.mem_append.mp hName with hName | hName
      · exact hTables name hName
      · exact (hLater name hName).1

theorem extends_append (catalog more : Catalog) : catalog.Extends (catalog ++ more) :=
  fun _ _ hFound => get?_append_of_eq_some hFound more

/-- When no two steps have the same name, all that is asked for is still needed at the end. -/
theorem Rounds.needed {rounds : List (List (String × Table))} {tried : List String}
    {outcome : Except Error Unit} (hSteps : d.DistinctSteps)
    (h : Rounds provider d catalog asked rounds)
    (hEnds : Ends provider d (catalog ++ rounds.flatten) (asked ++ rounds.flatten.map (·.1)) tried
      outcome) :
    rounds.flatten.map (·.1) ++ tried ⊆ needs (catalog ++ rounds.flatten) d := by
  induction h with
  | nil =>
    simp only [List.flatten_nil, List.append_nil, List.map_nil, List.nil_append] at hEnds ⊢
    exact fun name hName => (mem_missing_iff.mp (hEnds.fresh.2 name hName)).1
  | @cons _ catalog _ tables rounds _ _ names _ _ ih =>
    have hLater := ih (by simpa using hEnds)
    simp only [List.flatten_cons, List.map_append, List.append_assoc] at hLater ⊢
    refine List.append_subset.mpr ⟨?_, hLater⟩
    intro name hName
    rw [names, mem_ascending] at hName
    exact needs_subset (extends_append catalog _) hSteps (mem_missing_iff.mp hName).1

/-- Resolving ends after complete rounds. It asks for no name twice and for none that the
catalog holds, it keeps what the catalog holds and adds just the tables of the rounds, and if
no two steps of an entity have the same name then it asks for no more names than there are
entities and steps. -/
theorem resolve_asks_once (provider : Option Provider) (d : Definition) (catalog : Catalog)
    (asked : List String) : ∃ rounds tried,
      Course provider d catalog asked rounds tried (resolve provider d catalog asked) ∧
      (rounds.flatten.map (·.1) ++ tried).Nodup ∧
      (∀ name ∈ rounds.flatten.map (·.1) ++ tried, contains catalog name = false) ∧
      catalog.Extends (resolve provider d catalog asked).catalog ∧
      (d.DistinctSteps → (rounds.flatten.map (·.1) ++ tried).length ≤
        d.entities.length + (d.entities.flatMap (·.steps)).length) := by
  obtain ⟨rounds, tried, hCourse⟩ := exists_course provider d catalog asked
  obtain ⟨hNodup, hFresh⟩ := hCourse.complete.fresh hCourse.ends
  refine ⟨rounds, tried, hCourse, hNodup, hFresh, ?_, ?_⟩
  · rw [hCourse.catalog_eq]
    exact extends_append catalog _
  · intro hSteps
    have hNeeded := hCourse.complete.needed hSteps hCourse.ends
    exact (hNodup.subperm hNeeded).length_le.trans (length_needs_le _ d)

end RowTree.Compile

namespace RowTree.Sales

open Compile

/-- The sales of a customer are resolved from nothing with at most four questions. -/
theorem sales_asks_once : definition.DistinctSteps ∧ ∃ rounds tried,
    Course (some catalog.provider) definition [] [] rounds tried
      (resolve (some catalog.provider) definition [] []) ∧
    (rounds.flatten.map (·.1) ++ tried).length ≤ 4 := by
  have hSteps : definition.DistinctSteps := by decide
  obtain ⟨rounds, tried, hCourse, _, _, _, hFew⟩ :=
    resolve_asks_once (some catalog.provider) definition [] []
  exact ⟨hSteps, rounds, tried, hCourse, hFew hSteps⟩

end RowTree.Sales
