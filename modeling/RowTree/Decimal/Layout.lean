import RowTree.Decimal.Shortest
import RowTree.Text.Digit
import RowTree.Text.Split

/-!
# Layouts of numbers

Two ways to write a double, both with its shortest digits: plain text, which
never has an exponent, and the layout of a JSON number, which always shows that
the number is not an integer and takes an exponent when it is far from one.
`Decimal.ofText?` reads a number with an optional fraction and exponent.
-/

namespace RowTree

def decimalDigits (n : Nat) : List Char := Nat.toDigits 10 n

namespace Decimal

def zeros (n : Nat) : List Char := List.replicate n '0'

/-- `digits * 10 ^ exponent` without an exponent: zeros are added at the end
or at the front, and a point stands only before a digit. -/
def plain (digits : List Char) (exponent : Int) : List Char :=
  if 0 ≤ exponent then digits ++ zeros exponent.toNat
  else
    let fraction := (-exponent).toNat
    if fraction < digits.length then
      digits.take (digits.length - fraction) ++ '.' :: digits.drop (digits.length - fraction)
    else '0' :: '.' :: zeros (fraction - digits.length) ++ digits

/-- One digit, the others after a point, and the exponent with its sign. -/
def scientific (digits : List Char) (exponent : Int) : List Char :=
  let mantissa :=
    match digits with
    | first :: second :: rest => first :: '.' :: second :: rest
    | short => short
  let sign := if exponent < 0 then '-' else '+'
  mantissa ++ 'e' :: sign :: decimalDigits exponent.natAbs

/-- A number of the JSON layout: plain with at least one fraction digit when
the first digit's place is from -5 to 15, otherwise with an exponent. -/
def jsonLayout (digits : List Char) (exponent : Int) : List Char :=
  let place := exponent + digits.length - 1
  if -5 ≤ place ∧ place ≤ 15 then
    if 0 ≤ exponent then plain digits exponent ++ ['.', '0'] else plain digits exponent
  else scientific digits place

end Decimal

namespace Binary64

def signed (x : Binary64) (text : List Char) : List Char :=
  if x.isNegative then '-' :: text else text

def absolute (x : Binary64) : Binary64 := x.withSign x.isNegative

/-- Plain text of a double: `1`, `-0`, `0.0000001`, `NaN`, `inf`. Of two
shortest decimals equally near it takes the upper one. -/
def plainText (x : Binary64) : String :=
  if x.isNaN then "NaN"
  else if !x.isFinite then String.ofList (x.signed ['i', 'n', 'f'])
  else if x.isZero then String.ofList (x.signed ['0'])
  else
    let short := Decimal.shortest .upper x.absolute
    String.ofList (x.signed (Decimal.plain (decimalDigits short.coefficient) short.exponent))

/-- The JSON number of a finite double: `1.0`, `1e+16`, `-0.0`. Of two
shortest decimals equally near it takes the even one. -/
def jsonText (x : Binary64) : List Char :=
  if x.isZero then x.signed ['0', '.', '0']
  else
    let short := Decimal.shortest .even x.absolute
    x.signed (Decimal.jsonLayout (decimalDigits short.coefficient) short.exponent)

end Binary64

namespace Decimal

/-- The text after a sign, and whether the sign was a minus. -/
def splitSign : List Char → Bool × List Char
  | '-' :: rest => (true, rest)
  | '+' :: rest => (false, rest)
  | text => (false, text)

def integer? (text : List Char) : Option Int :=
  (Text.natural? (splitSign text).2).map fun n =>
    if (splitSign text).1 then -(n : Int) else n

/-- Digits with an optional point among or around them and an optional
exponent, without a sign. -/
def ofText? (text : List Char) : Option Decimal := do
  let (mantissa, power) := Text.cut (fun c => c == 'e' || c == 'E') text
  let (whole, fraction) := Text.cut (· == '.') mantissa
  let fraction := fraction.getD []
  let coefficient ← Text.natural? (whole ++ fraction)
  let power ← match power with
    | none => some 0
    | some digits => integer? digits
  some ⟨coefficient, power - fraction.length⟩

end Decimal

namespace Binary64

/-- The double nearest to the number that a text writes, which may also be
`NaN`, `inf` or `-inf`. -/
def ofTextWith? (round : Decimal → Binary64) (text : String) : Option Binary64 :=
  let (negative, size) := Decimal.splitSign text.toList
  match size with
  | ['N', 'a', 'N'] => some nan
  | ['i', 'n', 'f'] => some (infinity.withSign negative)
  | _ => (Decimal.ofText? size).map fun x => (round x).withSign negative

def ofText? (text : String) : Option Binary64 := ofTextWith? Decimal.toBinary64 text

def ofSingleText? (text : String) : Option Binary64 := ofTextWith? Decimal.toSingle text

end Binary64

end RowTree
