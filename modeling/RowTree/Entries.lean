/-!
# Entries kept in the order of their first insertion

A map from names to values whose order can be seen. Setting a name that is
present keeps its place; a new name goes to the end.
-/

namespace RowTree

/-- Named values in order. `Entries.set` never makes a second entry of one name. -/
abbrev Entries (α : Type) := List (String × α)

namespace Entries

variable {α : Type}

/-- The value under `name`, the first one if the list names it twice. -/
def get? : Entries α → String → Option α
  | [], _ => none
  | (k, v) :: rest, name => if k = name then some v else get? rest name

def contains (m : Entries α) (name : String) : Bool := (m.get? name).isSome

def set : Entries α → String → α → Entries α
  | [], name, value => [(name, value)]
  | (k, v) :: rest, name, value =>
    if k = name then (k, value) :: rest else (k, v) :: set rest name value

/-- Puts the pairs in one after the other: a repeated name keeps its first
place and its last value. -/
def ofPairs (pairs : List (String × α)) : Entries α :=
  pairs.foldl (fun m pair => m.set pair.1 pair.2) []

def names (m : Entries α) : List String := m.map (·.1)

@[simp] theorem get?_set_self (m : Entries α) (name : String) (value : α) :
    (m.set name value).get? name = some value := by
  induction m with
  | nil => simp [set, get?]
  | cons entry rest ih =>
    obtain ⟨k, v⟩ := entry
    by_cases h : k = name <;> simp [set, get?, h, ih]

theorem get?_set_of_ne (m : Entries α) {name other : String} (value : α) (h : name ≠ other) :
    (m.set name value).get? other = m.get? other := by
  induction m with
  | nil => simp [set, get?, h]
  | cons entry rest ih =>
    obtain ⟨k, v⟩ := entry
    by_cases hk : k = name
    · subst hk; simp [set, get?, h]
    · simp [set, get?, hk, ih]

theorem mem_of_get?_eq_some {m : Entries α} {name : String} {value : α}
    (h : m.get? name = some value) : (name, value) ∈ m := by
  induction m with
  | nil => cases h
  | cons entry rest ih =>
    obtain ⟨key, first⟩ := entry
    rw [get?] at h
    split at h
    · rename_i hKey
      cases h
      exact hKey ▸ List.mem_cons_self
    · exact List.mem_cons_of_mem _ (ih h)

theorem get?_append (m n : Entries α) (name : String) :
    get? (m ++ n) name = (m.get? name).or (n.get? name) := by
  induction m with
  | nil => simp [get?]
  | cons entry rest ih =>
    obtain ⟨k, v⟩ := entry
    by_cases h : k = name <;> simp [get?, h, ih]

theorem get?_append_of_eq_some {m : Entries α} {name : String} {value : α}
    (h : m.get? name = some value) (n : Entries α) : get? (m ++ n) name = some value := by
  rw [get?_append, h, Option.some_or]

theorem get?_concat_of_ne (m : Entries α) {name other : String} (value : α) (h : name ≠ other) :
    get? (m ++ [(name, value)]) other = m.get? other := by
  rw [get?_append]
  simp [get?, h]

/-- A new entry at the end of both keeps what the one map has among what the other has. -/
theorem get?_concat_of_forall {m n : Entries α}
    (h : ∀ name value, m.get? name = some value → n.get? name = some value) {name : String}
    (hFresh : n.get? name = none) (value : α) {other : String} {found : α}
    (hFound : get? (m ++ [(name, value)]) other = some found) :
    get? (n ++ [(name, value)]) other = some found := by
  by_cases hName : name = other
  · subst hName
    have hNone : m.get? name = none := by
      rw [Option.eq_none_iff_forall_ne_some]
      intro old hOld
      rw [h name old hOld] at hFresh
      cases hFresh
    rw [get?_append, hNone, Option.none_or] at hFound
    rw [get?_append, hFresh, Option.none_or]
    exact hFound
  · rw [get?_concat_of_ne _ _ hName] at hFound ⊢
    exact h other found hFound

theorem get?_eq_none_iff {m : Entries α} {name : String} : m.get? name = none ↔ name ∉ m.names := by
  induction m with
  | nil => simp [get?, names]
  | cons entry rest ih =>
    obtain ⟨k, v⟩ := entry
    by_cases h : k = name
    · simp [get?, names, h]
    · simpa [get?, names, h, Ne.symm h] using ih

theorem set_of_not_mem {m : Entries α} {name : String} (h : name ∉ m.names)
    (value : α) : m.set name value = m ++ [(name, value)] := by
  induction m with
  | nil => rfl
  | cons entry rest ih =>
    obtain ⟨k, v⟩ := entry
    simp only [names, List.map_cons, List.mem_cons, not_or] at h
    simp only [set, Ne.symm h.1, if_false, ih h.2, List.cons_append]

theorem names_set (m : Entries α) (name : String) (value : α) :
    (m.set name value).names = if name ∈ m.names then m.names else m.names ++ [name] := by
  induction m with
  | nil => simp [set, names]
  | cons entry rest ih =>
    obtain ⟨k, v⟩ := entry
    by_cases h : k = name
    · simp [set, names, h]
    · simp only [names] at ih
      by_cases hRest : name ∈ rest.map (·.1) <;> simp [set, names, h, Ne.symm h, ih, hRest]

/-- Entries of other names stay as they are and where they are. -/
theorem filter_set (m : Entries α) (name : String) (value : α) (p : String → Bool)
    (h : p name = false) :
    (m.set name value).filter (fun entry => p entry.1) = m.filter (fun entry => p entry.1) := by
  induction m with
  | nil => simp [set, h]
  | cons entry rest ih =>
    obtain ⟨k, v⟩ := entry
    by_cases hKey : k = name
    · subst hKey
      simp [set, h]
    · simp only [set, if_neg hKey, List.filter_cons, ih]

theorem set_set (m : Entries α) (name : String) (value other : α) :
    (m.set name value).set name other = m.set name other := by
  induction m with
  | nil => simp [set]
  | cons entry rest ih =>
    obtain ⟨k, v⟩ := entry
    by_cases h : k = name <;> simp [set, h, ih]

theorem set_self {m : Entries α} {name : String} {value : α}
    (h : m.get? name = some value) : m.set name value = m := by
  induction m with
  | nil => cases h
  | cons entry rest ih =>
    obtain ⟨key, old⟩ := entry
    rw [get?] at h
    rw [set]
    split
    · rename_i hKey
      rw [if_pos hKey] at h
      cases h
      rfl
    · rename_i hKey
      rw [if_neg hKey] at h
      rw [ih h]

end Entries

end RowTree
