import RowTree.Value

/-!
# Keys of values

By its key a value of one row finds its like in other rows: a parent's link
value the link values of its children. Integers of both widths and floats that
are whole and below nine quadrillions share their keys. Null has none.
-/

namespace RowTree

inductive Key where
  | bool (b : Bool)
  | int (n : Int)
  | float (bits : UInt64)
  | string (s : String)
  | list (items : List Key)

namespace Key

mutual

def decEq : (a b : Key) → Decidable (a = b)
  | bool a, bool b => decidable_of_iff (a = b) (by simp)
  | int a, int b => decidable_of_iff (a = b) (by simp)
  | float a, float b => decidable_of_iff (a = b) (by simp)
  | string a, string b => decidable_of_iff (a = b) (by simp)
  | list a, list b =>
    have := decEqs a b
    decidable_of_iff (a = b) (by simp)
  | bool _, int _ | bool _, float _ | bool _, string _ | bool _, list _
  | int _, bool _ | int _, float _ | int _, string _ | int _, list _
  | float _, bool _ | float _, int _ | float _, string _ | float _, list _
  | string _, bool _ | string _, int _ | string _, float _ | string _, list _
  | list _, bool _ | list _, int _ | list _, float _ | list _, string _ =>
    isFalse (by intro h; cases h)

def decEqs : (a b : List Key) → Decidable (a = b)
  | [], [] => isTrue rfl
  | [], _ :: _ => isFalse (by intro h; cases h)
  | _ :: _, [] => isFalse (by intro h; cases h)
  | a :: as, b :: bs =>
    have := decEq a b
    have := decEqs as bs
    decidable_of_iff (a = b ∧ as = bs) (by simp)

end

instance : DecidableEq Key := decEq

end Key

namespace Value

/-- The integer that a float counts as in a key: it is whole and below 9e15 in size. -/
def wholeKey? (x : Binary64) : Option Int :=
  x.integer?.filter fun n => n.natAbs < 9000000000000000

mutual

def key? : Value → Option Key
  | null => none
  | bool b => some (.bool b)
  | int n => some (.int n.toInt)
  | nat n => some (.int n.toNat)
  | float x => some <|
    match wholeKey? x with
    | some n => .int n
    | none => .float x.bits
  | string s => some (.string s)
  | list items => some (.list (keys items))

/-- The keys of the members that have one. -/
def keys : List Value → List Key
  | [] => []
  | v :: rest =>
    match key? v with
    | some k => k :: keys rest
    | none => keys rest

end

theorem isNull_eq_isNone (v : Value) : v.isNull = v.key?.isNone := by
  cases v <;> rfl

end Value

end RowTree
