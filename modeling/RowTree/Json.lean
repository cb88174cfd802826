import RowTree.Value

/-!
# JSON trees

A JSON text as a tree. Numbers are what a text can say within 64 bits: an
integer of one of two widths, or a double. The members of an object keep their
order, and a name that is written twice is there twice.

A text may be JSON and have parts without a value. Such a part does no harm
where nobody looks at it.
-/

namespace RowTree

inductive Json.Number where
  | int (n : Int64)
  | nat (n : UInt64)
  | float (x : Binary64)

inductive Json where
  /-- A part without a value: a number beyond all doubles, a string with half a
  pair of surrogates, an object with such a name, or a container too deep. -/
  | unreadable
  | null
  | bool (b : Bool)
  | number (n : Json.Number)
  | string (s : String)
  | array (items : List Json)
  | object (members : List (String × Json))

namespace Json

instance : Inhabited Json := ⟨null⟩

/-- An integer of the narrowest kind that holds it, or the nearest double. -/
def Number.ofInt (n : Int) : Number :=
  if -0x8000000000000000 ≤ n ∧ n < 0x8000000000000000 then int (Int64.ofInt n)
  else if 0 ≤ n ∧ n < 0x10000000000000000 then nat n.toNat.toUInt64
  else float ((Decimal.toBinary64 ⟨n.natAbs, 0⟩).withSign (n < 0))

def ofNat (n : Nat) : Json := number (.ofInt n)

/-- A leaf, or an unreadable part if it has no value. -/
def leaf {α : Type} (make : α → Json) (v : Option α) : Json := (v.map make).getD unreadable

/-- What a string stands for when it is read as a name or a text. -/
def string? : Json → Option String
  | string s => some s
  | _ => none

def bool? : Json → Option Bool
  | bool b => some b
  | _ => none

def array? : Json → Option (List Json)
  | array items => some items
  | _ => none

def object? : Json → Option (List (String × Json))
  | object members => some members
  | _ => none

/-- An integer that is not negative and fits 64 bits. A number with a point or
an exponent is none. -/
def natural? : Json → Option UInt64
  | number (.int n) => if 0 ≤ n then some n.toUInt64 else none
  | number (.nat n) => some n
  | _ => none

end Json

end RowTree
