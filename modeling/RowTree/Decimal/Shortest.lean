import RowTree.Decimal

/-!
# The shortest decimal that reads back

Of the decimals that read back as a given double, the one on the coarsest grid
of multiples of a power of ten. The grids are tried from coarse to fine; on
each one only the two neighbours of the double can read back. Every decimal
that `shortest` gives reads back, since it is tested before it is given.
-/

namespace RowTree

inductive Tie where
  | upper
  | even
  deriving DecidableEq

namespace Decimal

/-- A place above the first digit of `a / d`, by at most three. The binary
logarithms are off by less than one, and 0.30103 is the logarithm of two. -/
def leadingPlace (a d : Nat) : Int :=
  ((a.log2 : Int) - d.log2) * 30103 / 100000 + 2

/-- The multiple of `10 ^ place` to write for `magnitude / 2 ^ 1074`: the
neighbour that reads back as `x`, of two the nearer one. -/
def neighbour? (tie : Tie) (x : Binary64) (place : Int) : Option Decimal :=
  let numerator := x.magnitude * (if place < 0 then Nat.pow 10 (-place).toNat else 1)
  let denominator := Binary64.unitsInOne * (if place < 0 then 1 else Nat.pow 10 place.toNat)
  let low := numerator / denominator
  let rest := numerator % denominator
  let lower : Decimal := ⟨low, place⟩
  let upper : Decimal := ⟨low + 1, place⟩
  match decide (lower.toBinary64 = x), decide (upper.toBinary64 = x) with
  | false, false => none
  | true, false => some lower
  | false, true => some upper
  | true, true =>
    if 2 * rest < denominator then some lower
    else if denominator < 2 * rest then some upper
    else match tie with
      | .upper => some upper
      | .even => some (if low % 2 = 0 then lower else upper)

/-- The first grid with a neighbour that reads back, from `place` downwards. -/
def coarsest? (tie : Tie) (x : Binary64) (place : Int) : Nat → Option Decimal
  | 0 => none
  | steps + 1 =>
    match neighbour? tie x place with
    | some found => some found
    | none => coarsest? tie x (place - 1) steps

def exact (x : Binary64) : Decimal := ⟨x.magnitude * Nat.pow 5 1074, -1074⟩

/-- The shortest decimal that reads back as a positive finite double. Seventeen
digits always suffice, and the search starts at most three places above them. -/
def shortest (tie : Tie) (x : Binary64) : Decimal :=
  (coarsest? tie x (leadingPlace x.magnitude Binary64.unitsInOne) 22).getD (exact x)

end Decimal

end RowTree
