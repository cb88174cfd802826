/-!
# Binary64 numbers

A double as its 64 bits, with exact integer arithmetic on it. The unit of all
magnitudes is 2 ^ -1074, the least positive double, so that every finite
double is an integer number of units.

`nearestWord` rounds a quotient of natural numbers to the nearest number of a
binary format, ties to the even significand.
-/

namespace RowTree

/-- A double, told apart by its bits. -/
structure Binary64 where
  bits : UInt64
  deriving DecidableEq

namespace Binary64

def word (x : Binary64) : Nat := x.bits.toNat

def ofWord (w : Nat) : Binary64 := ⟨w.toUInt64⟩

def isNegative (x : Binary64) : Bool := 0x8000000000000000 ≤ x.word

def biasedExponent (x : Binary64) : Nat := x.word / 0x10000000000000 % 2048

def fraction (x : Binary64) : Nat := x.word % 0x10000000000000

def isFinite (x : Binary64) : Bool := x.biasedExponent != 2047

def isNaN (x : Binary64) : Bool := x.biasedExponent == 2047 && x.fraction != 0

def significand (x : Binary64) : Nat :=
  if x.biasedExponent = 0 then x.fraction else 0x10000000000000 + x.fraction

/-- The exponent of the significand's last place, in units. -/
def place (x : Binary64) : Nat := x.biasedExponent - 1

def unitsInOne : Nat := Nat.pow 2 1074

def magnitude (x : Binary64) : Nat := x.significand * Nat.pow 2 x.place

def scaled (x : Binary64) : Int := if x.isNegative then -(x.magnitude : Int) else x.magnitude

def isZero (x : Binary64) : Bool := x.isFinite && x.magnitude == 0

/-- Equality of numbers: the two zeros are equal and a NaN equals nothing. -/
def numericallyEqual (x y : Binary64) : Bool :=
  !x.isNaN && !y.isNaN && (x == y || (x.isZero && y.isZero))

def integer? (x : Binary64) : Option Int :=
  if x.isFinite && x.magnitude % unitsInOne == 0 then
    let size : Int := (x.magnitude / unitsInOne : Nat)
    some (if x.isNegative then -size else size)
  else none

def nan : Binary64 := ofWord 0x7FF8000000000000

def infinity : Binary64 := ofWord 0x7FF0000000000000

def negate (x : Binary64) : Binary64 := ⟨x.bits ^^^ 0x8000000000000000⟩

def withSign (negative : Bool) (x : Binary64) : Binary64 := if negative then x.negate else x

end Binary64

def roundHalfEven (a d : Nat) : Nat :=
  let q := a / d
  let r := a % d
  if 2 * r < d then q
  else if d < 2 * r then q + 1
  else if q % 2 = 0 then q else q + 1

/-- The bits, sign aside, of the number nearest to `a / d` in a binary format
with `places` stored fraction bits, if the least positive number has size one.
A quotient beyond the largest number may give any word that is not below the
word of infinity. -/
def nearestWord (places a d : Nat) : Nat :=
  let place := (a / d).log2 - places
  place * Nat.pow 2 places + roundHalfEven a (d * Nat.pow 2 place)

namespace Binary64

/-- The double nearest to `a / d` units. Beyond the largest one it is infinity. -/
def nearest (a d : Nat) : Binary64 := ofWord (min (nearestWord 52 a d) infinity.word)

def times (x y : Binary64) : Binary64 :=
  (nearest (x.magnitude * y.magnitude) unitsInOne).withSign (x.isNegative != y.isNegative)

def dividedBy (x y : Binary64) : Binary64 :=
  (nearest (x.magnitude * unitsInOne) y.magnitude).withSign (x.isNegative != y.isNegative)

/-- The double with the value of a binary32 number given by its bits without
the sign. The least positive binary32 number is 2 ^ 925 units. -/
def ofSingleWord (w : Nat) : Binary64 :=
  let biased := w / 0x800000
  let fraction := w % 0x800000
  if 255 ≤ biased then infinity
  else
    let significand := if biased = 0 then fraction else 0x800000 + fraction
    nearest (significand * Nat.pow 2 (biased - 1 + 925)) 1

end Binary64

end RowTree
