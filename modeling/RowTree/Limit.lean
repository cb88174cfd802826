/-!
# Limits and pages

How many rows a query gives at most and how many it leaves out before them.
-/

namespace RowTree

structure Limit where
  limit : UInt64
  offset : Option UInt64
  deriving DecidableEq

namespace Limit

/-- The greatest 64-bit number stands for all products beyond it. -/
def saturatingMul (a b : UInt64) : UInt64 := (min (a.toNat * b.toNat) 0xFFFFFFFFFFFFFFFF).toUInt64

/-- The rows of a page; pages count from one, and up to the first one nothing
is left out. -/
def page (limit : UInt64) (page : Option UInt64) : Limit where
  limit := limit
  offset :=
    match page with
    | some n => if 1 < n then some (saturatingMul limit (n - 1)) else none
    | none => none

end Limit

end RowTree
