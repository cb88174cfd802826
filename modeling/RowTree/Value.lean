import RowTree.Decimal.Layout
import RowTree.Entries

/-!
# Values

What is read from a column, written to one, or sent with a statement: null, a
truth value, a number, a text, or a list of values. Integers come in the two
64-bit widths that databases have.
-/

namespace RowTree

inductive Value where
  | null
  | bool (b : Bool)
  | int (n : Int64)
  | nat (n : UInt64)
  | float (x : Binary64)
  | string (s : String)
  | list (items : List Value)

abbrev Record := Entries Value

namespace Value

instance : Inhabited Value := ⟨null⟩

def isNull : Value → Bool
  | null => true
  | _ => false

def isList : Value → Bool
  | list _ => true
  | _ => false

def string? : Value → Option String
  | string s => some s
  | _ => none

def bool? : Value → Option Bool
  | bool b => some b
  | _ => none

def int? : Value → Option Int64
  | int n => some n
  | nat n => if n.toNat < 0x8000000000000000 then some n.toInt64 else none
  | _ => none

/-- Null, false, zero, NaN and the empty text are false; all else is true, the
text `0` and the empty list too. -/
def truth : Value → Bool
  | null => false
  | bool b => b
  | int n => n != 0
  | nat n => n != 0
  | float x => !x.isZero && !x.isNaN
  | string s => !s.isEmpty
  | list _ => true

def toBool (v : Value) : Value := bool v.truth

def boolText (b : Bool) : String := if b then "true" else "false"

mutual

/-- A value in messages: texts as they are, the members of a list after one another. -/
def text : Value → String
  | null => "NULL"
  | bool b => boolText b
  | int n => toString n.toInt
  | nat n => toString n.toNat
  | float x => x.plainText
  | string s => s
  | list items => ", ".intercalate (texts items)

def texts : List Value → List String
  | [] => []
  | v :: rest => text v :: texts rest

end

mutual

/-- The same kind of value with the same content. A NaN is like nothing, also
inside lists, and the two zeros are alike. -/
def alike : Value → Value → Bool
  | null, null => true
  | bool a, bool b => a == b
  | int m, int n => m == n
  | nat m, nat n => m == n
  | float x, float y => x.numericallyEqual y
  | string s, string t => s == t
  | list xs, list ys => allAlike xs ys
  | _, _ => false

def allAlike : List Value → List Value → Bool
  | [], [] => true
  | x :: xs, y :: ys => alike x y && allAlike xs ys
  | _, _ => false

end

/-- An unsigned number as the value of its least wide kind: signed if it fits. -/
def ofUInt64 (n : UInt64) : Value :=
  if n.toNat < 0x8000000000000000 then int n.toInt64 else nat n

def ofOption (v : Option Value) : Value := v.getD null

def present? (v : Option Value) : Option Value := v.filter (!·.isNull)

end Value

end RowTree
