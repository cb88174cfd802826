import RowTree.Text.Digit

/-!
# Properties of characters

A property that long runs of characters share is a table of the runs: where each
one starts, in ascending order, and the value on it. A table is written as a
text of words such as `300:n`, a hexadecimal number and the value from there on.
-/

namespace RowTree.Text

def words (text : List Char) : List (List Char) :=
  let (word, others) := text.foldr separate ([], [])
  keep word others
where
  keep (word : List Char) (others : List (List Char)) : List (List Char) :=
    if word.isEmpty then others else word :: others
  separate (c : Char) : List Char × List (List Char) → List Char × List (List Char)
    | (word, others) => if c = ' ' ∨ c = '\n' then ([], keep word others) else (c :: word, others)

def hexNumber (digits : List Char) : Nat :=
  digits.foldl (fun n c => 16 * n + (hexDigit? c).getD 0) 0

structure Run (α : Type) where
  start : Nat
  value : α

/-- Runs in ascending order of where they start. -/
structure Runs (α : Type) where
  runs : Array (Run α)

namespace Runs

variable {α : Type}

/-- A run of the word `start:value`. -/
def ofWord (value : List Char → α) (word : List Char) : Run α :=
  let (start, text) := (word.takeWhile (· != ':'), word.dropWhile (· != ':'))
  ⟨hexNumber start, value (text.drop 1)⟩

def ofText (value : List Char → α) (text : String) : Runs α :=
  ⟨((words text.toList).map (ofWord value)).toArray⟩

/-- The last run that starts at `n` or before it, of those from `low` on and
before `high`, if the first of them does. -/
def seek (runs : Array (Run α)) (n low high : Nat) : Option (Run α) :=
  if high ≤ low + 1 then runs[low]?
  else
    match runs[(low + high) / 2]? with
    | some run =>
      if run.start ≤ n then seek runs n ((low + high) / 2) high
      else seek runs n low ((low + high) / 2)
    | none => none
termination_by high - low
decreasing_by all_goals omega

def find? (table : Runs α) (c : Char) : Option (Run α) :=
  (seek table.runs c.toNat 0 table.runs.size).filter (·.start ≤ c.toNat)

def get? (table : Runs α) (c : Char) : Option α := (table.find? c).map (·.value)

end Runs

end RowTree.Text
