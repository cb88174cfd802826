import RowTree.Compile.Missing

/-!
# Resolving the tables of a definition

Missing tables are asked for in rounds. A round asks for all names that are
missing, in ascending order, and stops at the first that cannot be had; only a
complete round goes into the catalog. Every complete round lowers the rank of
the definition, so the rounds end.
-/

namespace RowTree.Compile

open Schema

/-- Asks for names one after the other. Gives the tables, or the error of the
first name without one, and all names asked so far. -/
def fetch (provider : Provider) (asked : List String) :
    List String → Except Error (List (String × Table)) × List String
  | [] => (.ok [], asked)
  | name :: rest =>
    match provider asked name with
    | .error e => (.error e, asked ++ [name])
    | .ok table =>
      let more := fetch provider (asked ++ [name]) rest
      (more.1.map ((name, table) :: ·), more.2)

/-- Enters fetched tables under the names they were asked by. -/
def enter (catalog : Catalog) (tables : List (String × Table)) : Catalog :=
  tables.foldl (fun c entry => Entries.set c entry.1 entry.2) catalog

theorem names_of_fetch {provider : Provider} {asked names : List String}
    {tables : List (String × Table)} (h : (fetch provider asked names).1 = .ok tables) :
    tables.map (·.1) = names := by
  induction names generalizing asked tables with
  | nil => simp only [fetch, Except.ok.injEq] at h; subst h; rfl
  | cons name rest ih =>
    unfold fetch at h
    split at h
    · cases h
    · rename_i table _
      simp only at h
      cases hr : (fetch provider (asked ++ [name]) rest).1 with
      | error e => rw [hr] at h; cases h
      | ok more =>
        rw [hr] at h
        cases h
        simp [ih hr]

theorem get?_enter_of_not_mem {catalog : Catalog} {tables : List (String × Table)} {name : String}
    (h : name ∉ tables.map (·.1)) :
    Entries.get? (enter catalog tables) name = Entries.get? catalog name := by
  induction tables generalizing catalog with
  | nil => rfl
  | cons entry rest ih =>
    simp only [List.map_cons, List.mem_cons, not_or] at h
    change Entries.get? (enter (Entries.set catalog entry.1 entry.2) rest) name = _
    rw [ih h.2, Entries.get?_set_of_ne _ _ (Ne.symm h.1)]

theorem contains_enter_of_mem {catalog : Catalog} {tables : List (String × Table)} {name : String}
    (h : name ∈ tables.map (·.1)) : Entries.contains (enter catalog tables) name = true := by
  induction tables generalizing catalog with
  | nil => simp at h
  | cons entry rest ih =>
    change Entries.contains (enter (Entries.set catalog entry.1 entry.2) rest) name = true
    by_cases hr : name ∈ rest.map (·.1)
    · exact ih hr
    · have he : name = entry.1 := by simpa [hr] using h
      subst he
      simp [Entries.contains, get?_enter_of_not_mem hr]

theorem rank_enter_lt {catalog : Catalog} {d : Definition} {tables : List (String × Table)}
    (hn : tables.map (·.1) = ascending (missing catalog d)) (hne : missing catalog d ≠ []) :
    rank (enter catalog tables) d < rank catalog d := by
  have hext : catalog.Extends (enter catalog tables) := by
    intro name found hf
    rw [get?_enter_of_not_mem, hf]
    rw [hn, mem_ascending]
    intro hm
    have := not_contains_of_mem_missing d hm
    simp [Entries.contains, hf] at this
  refine (rank_of_extends hext d fun name hm => ?_).2 hne
  apply contains_enter_of_mem
  rw [hn, mem_ascending]
  exact hm

structure Resolution where
  outcome : Except Error Unit
  catalog : Catalog
  /-- All names that were ever asked of the provider, the latest last. -/
  asked : List String

/-- Fetches what a definition needs until nothing is missing. Without a provider
the first missing name is the error. -/
def resolve (provider : Option Provider) (d : Definition) (catalog : Catalog)
    (asked : List String) : Resolution :=
  match hm : ascending (missing catalog d) with
  | [] => ⟨.ok (), catalog, asked⟩
  | name :: rest =>
    match provider with
    | none => ⟨.error (.of (.tableNotFound name)), catalog, asked⟩
    | some p =>
      match hf : (fetch p asked (name :: rest)).1 with
      | .error e => ⟨.error e, catalog, (fetch p asked (name :: rest)).2⟩
      | .ok tables =>
        have : rank (enter catalog tables) d < rank catalog d := by
          refine rank_enter_lt ((names_of_fetch hf).trans hm.symm) fun h => ?_
          simp [h, ascending] at hm
        resolve provider d (enter catalog tables) (fetch p asked (name :: rest)).2
termination_by rank catalog d

end RowTree.Compile
