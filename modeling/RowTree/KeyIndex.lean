import RowTree.Value.Key

/-!
# Indexes of keys

An index tells at which positions of a list the values with a key stand. The
list is gone through once, and then any key can be looked up.
-/

namespace RowTree

/-- The positions of each key in order. No key has two entries. -/
abbrev KeyIndex := List (Key × List Nat)

namespace KeyIndex

def positions : KeyIndex → Key → List Nat
  | [], _ => []
  | (k, here) :: rest, key => if k = key then here else positions rest key

def add : KeyIndex → Key → Nat → KeyIndex
  | [], key, i => [(key, [i])]
  | (k, here) :: rest, key, i =>
    if k = key then (k, here ++ [i]) :: rest else (k, here) :: add rest key i

/-- A value without a key is left out. -/
def addValue (index : KeyIndex) (v : Value) (i : Nat) : KeyIndex :=
  match v.key? with
  | some key => index.add key i
  | none => index

def ofValues (values : List Value) : KeyIndex :=
  values.zipIdx.foldl (fun index entry => index.addValue entry.1 entry.2) []

theorem positions_add (index : KeyIndex) (key other : Key) (i : Nat) :
    (index.add key i).positions other =
      index.positions other ++ if key = other then [i] else [] := by
  induction index with
  | nil => by_cases h : key = other <;> simp [add, positions, h]
  | cons entry rest ih =>
    obtain ⟨k, here⟩ := entry
    by_cases hKey : k = key
    · subst hKey
      by_cases hOther : k = other <;> simp [add, positions, hOther]
    · by_cases hOther : k = other
      · subst hOther
        simp [add, positions, hKey, Ne.symm hKey]
      · simp [add, positions, hKey, hOther, ih]

end KeyIndex

end RowTree
