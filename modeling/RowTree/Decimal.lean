import RowTree.Binary64

/-!
# Decimal numbers

A natural number times a power of ten, and the binary number nearest to it.
-/

namespace RowTree

structure Decimal where
  coefficient : Nat
  exponent : Int
  deriving DecidableEq

namespace Decimal

def ratio (x : Decimal) : Nat × Nat :=
  if 0 ≤ x.exponent then (x.coefficient * Nat.pow 10 x.exponent.toNat, 1)
  else (x.coefficient, Nat.pow 10 (-x.exponent).toNat)

/-- Beyond every double: a coefficient that is not zero makes at least `10 ^ 400`. -/
def isHuge (x : Decimal) : Bool := x.coefficient != 0 && 400 ≤ x.exponent

/-- Far below the least positive double. The coefficient has no more decimal
digits than `log2` of it and one. -/
def isTiny (x : Decimal) : Bool := x.exponent + x.coefficient.log2 + 1 ≤ -400

/-- The double nearest to the value. No large power of ten is taken when the
exponent alone tells the answer. -/
def toBinary64 (x : Decimal) : Binary64 :=
  if x.coefficient = 0 ∨ x.isTiny then ⟨0⟩
  else if x.isHuge then Binary64.infinity
  else Binary64.nearest (x.ratio.1 * Binary64.unitsInOne) x.ratio.2

def toSingle (x : Decimal) : Binary64 :=
  if x.coefficient = 0 ∨ x.isTiny then ⟨0⟩
  else if x.isHuge then Binary64.infinity
  else Binary64.ofSingleWord (nearestWord 23 (x.ratio.1 * Nat.pow 2 149) x.ratio.2)

end Decimal

end RowTree
