import RowTree.Decimal.Layout
import RowTree.Json

/-!
# Numerals of JSON

How the digits of a number become its value. An integer of 64 bits is taken as
it is. Every other number is read in two steps: its first digits, as many as 64
bits hold, become a double, and that double is multiplied or divided by the
double of a power of ten. Each step rounds, so that a long numeral may be read
as a neighbour of the double nearest to it.
-/

namespace RowTree.Json

/-- The parts of a numeral: its sign, the digits before and after the point, and
the exponent if it has one. -/
structure Numeral where
  negative : Bool
  whole : List Nat
  fraction : List Nat
  exponent : Option Int

namespace Numeral

/-- Appends digits to a number while 64 bits hold it. The second part is the
digits that are left over. -/
def takeDigits (n : Nat) : List Nat → Nat × List Nat
  | [] => (n, [])
  | d :: rest =>
    if 10 * n + d < 0x10000000000000000 then takeDigits (10 * n + d) rest else (n, d :: rest)

/-- The first digits and the power of ten that they count. A digit before the
point that is left over makes the power larger, and one after the point that is
taken makes it smaller. -/
def leading (x : Numeral) : Decimal :=
  let (n, wholeLeft) := takeDigits 0 x.whole
  let (n, fractionLeft) := takeDigits n x.fraction
  ⟨n, x.exponent.getD 0 + wholeLeft.length + fractionLeft.length - x.fraction.length⟩

def power (n : Nat) : Binary64 := Decimal.toBinary64 ⟨1, n⟩

/-- A double divided by `10 ^ n`. No double holds more than 308 places of a power
of ten, so that a larger one is divided by in several steps. -/
def lower (x : Binary64) (n : Nat) : Binary64 :=
  if n ≤ 308 then x.dividedBy (power n)
  else if x.isZero then x
  else lower (x.dividedBy (power 308)) (n - 308)
termination_by n
decreasing_by omega

def raise? (x : Binary64) (n : Nat) : Option Binary64 :=
  if x.isZero then some x
  else if n ≤ 308 then some (x.times (power n)) |>.filter (·.isFinite)
  else none

def scale? (x : Decimal) : Option Binary64 :=
  let first := Decimal.toBinary64 ⟨x.coefficient, 0⟩
  if x.exponent < 0 then some (lower first x.exponent.natAbs) else raise? first x.exponent.natAbs

/-- The integer that a numeral without a point and an exponent is, if it fits 64
bits. Minus zero is a double. -/
def integer? (x : Numeral) : Option Number :=
  match takeDigits 0 x.whole with
  | (n, []) =>
    if x.fraction ≠ [] ∨ x.exponent.isSome ∨ (x.negative ∧ n = 0) then none
    else some (Number.ofInt (if x.negative then -(n : Int) else n))
  | _ => none

/-- The value of a numeral. One beyond all doubles has none. -/
def value? (x : Numeral) : Option Number :=
  match x.integer? with
  | some n => some n
  | none => (scale? x.leading).map fun size => .float (size.withSign x.negative)

def cutDigits (text : List Char) : List Nat × List Char :=
  ((text.takeWhile Char.isDigit).filterMap Text.asciiDigit?, text.dropWhile Char.isDigit)

def cutFraction? : List Char → Option (List Nat × List Char)
  | '.' :: rest => some (cutDigits rest) |>.filter (·.1 ≠ [])
  | rest => some ([], rest)

def exponent? : List Char → Option (Option Int)
  | [] => some none
  | e :: digits =>
    if e = 'e' ∨ e = 'E' then (Decimal.integer? digits).map some else none

/-- The parts of a number's text: an optional minus, digits without a needless
leading zero, then a fraction and an exponent if they are there. -/
def ofText? (text : List Char) : Option Numeral := do
  let (negative, size) : Bool × List Char :=
    match text with
    | '-' :: rest => (true, rest)
    | rest => (false, rest)
  let (whole, rest) := cutDigits size
  if whole = [] ∨ (whole.head? = some 0 ∧ whole ≠ [0]) then none
  let (fraction, rest) ← cutFraction? rest
  some { negative, whole, fraction, exponent := ← exponent? rest }

end Numeral

end RowTree.Json
