/-!
# Punycode

A label of a domain in ASCII alone: its ASCII characters, then the others in
ascending order, each as the distance that a counter over values and places
moves, in digits of base 36 whose weights adapt to the distances before.
Numbers are read within 32 bits.
-/

namespace RowTree.Url.Punycode

/-- `a` to `z`, then `0` to `9`. -/
def digit (n : Nat) : Char := if n < 26 then Char.ofNat (0x61 + n) else Char.ofNat (0x16 + n)

/-- The least digit that does not end a number at a place. -/
def threshold (place bias : Nat) : Nat := max 1 (min 26 (place - bias))

/-- The digits of a number, from the place `36 * k` on. -/
def digits (bias place n : Nat) : List Char :=
  let t := threshold place bias
  if n < t then [digit n]
  else digit (t + (n - t) % (36 - t)) :: digits bias (place + 36) ((n - t) / (36 - t))
termination_by n
decreasing_by
  have low : 1 ≤ threshold place bias := Nat.le_max_left ..
  calc (n - threshold place bias) / (36 - threshold place bias)
      ≤ n - threshold place bias := Nat.div_le_self ..
    _ < n := by omega

/-- How often a distance can be divided by 35 before it is small, in places, and
what is left of it. -/
def settle (distance places : Nat) : Nat × Nat :=
  if 455 < distance then settle (distance / 35) (places + 36) else (distance, places)
termination_by distance
decreasing_by exact Nat.div_lt_self (by omega) (by omega)

/-- The bias after a distance, with `count` characters written then. -/
def adapt (distance count : Nat) (first : Bool) : Nat :=
  let scaled := if first then distance / 700 else distance / 2
  let (rest, places) := settle (scaled + scaled / count) 0
  places + 36 * rest / (rest + 38)

structure State where
  output : List Char
  distance : Nat
  bias : Nat
  written : Nat

/-- Passes one character of the label while the characters equal to `value` are
written. -/
def pass (basic value : Nat) (s : State) (c : Char) : State :=
  if c.toNat < value then { s with distance := s.distance + 1 }
  else if c.toNat = value then
    { output := s.output ++ digits s.bias 36 s.distance
      distance := 0
      bias := adapt s.distance (s.written + 1) (s.written == basic)
      written := s.written + 1 }
  else s

/-- Writes the characters of the given values, in ascending order. The counter
stands at `next`. -/
def write (label : List Char) (basic : Nat) : List Nat → Nat → State → State
  | [], _, s => s
  | value :: values, next, s =>
    let moved := { s with distance := s.distance + (value - next) * (s.written + 1) }
    let passed := label.foldl (pass basic value) moved
    write label basic values (value + 1) { passed with distance := passed.distance + 1 }

def encode (label : List Char) : List Char :=
  let basic := label.filter (·.toNat < 0x80)
  let values := ((label.map Char.toNat).filter (0x80 ≤ ·)).mergeSort.eraseDups
  let written := write label basic.length values 0x80 ⟨[], 0, 72, basic.length⟩
  basic ++ (if basic.isEmpty then [] else ['-']) ++ written.output

def digitValue? (c : Char) : Option Nat :=
  if 'a' ≤ c ∧ c ≤ 'z' then some (c.toNat - 'a'.toNat)
  else if '0' ≤ c ∧ c ≤ '9' then some (c.toNat - '0'.toNat + 26)
  else none

/-- A label of which some characters have been read. The counter stood at `before`
when the digits of the current distance began; the next digit counts `weight`. -/
structure Reading where
  label : List Char
  value : Nat
  bias : Nat
  before : Nat
  counter : Nat
  weight : Nat
  place : Nat

def Reading.start (basic : List Char) : Reading := ⟨basic, 0x80, 72, 0, 0, 1, 36⟩

def fits (n : Nat) : Option Nat := if n < 0x100000000 then some n else none

def Reading.insert? (r : Reading) : Option Reading :=
  let count := r.label.length + 1
  let value := r.value + r.counter / count
  let index := r.counter % count
  if value.isValidChar then
    some { label := r.label.take index ++ Char.ofNat value :: r.label.drop index
           value := value
           bias := adapt (r.counter - r.before) count (r.before == 0)
           before := index + 1
           counter := index + 1
           weight := 1
           place := 36 }
  else none

/-- Reads a digit. A small one ends a distance. -/
def Reading.digit? (r : Reading) (c : Char) : Option Reading := do
  let d ← digitValue? c
  let counter ← fits (r.counter + d * r.weight)
  let least := threshold r.place r.bias
  let moved := { r with counter := counter }
  if d < least then moved.insert?
  else
    let weight ← fits (r.weight * (36 - least))
    some { moved with weight := weight, place := r.place + 36 }

/-- The text before the last hyphen and the text after it. A hyphen at the front
counts as a digit. -/
def cutBasic (code : List Char) : List Char × List Char :=
  match code.reverse.dropWhile (· != '-') with
  | _ :: c :: basic => ((c :: basic).reverse, (code.reverse.takeWhile (· != '-')).reverse)
  | _ => ([], code)

def decode? (code : List Char) : Option (List Char) := do
  let (basic, digits) := cutBasic code
  let r ← digits.foldlM Reading.digit? (.start basic)
  if r.place = 36 then some r.label else none

end RowTree.Url.Punycode
