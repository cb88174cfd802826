import RowTree.Text.Split
import RowTree.Url.Percent

/-!
# Network addresses

IPv4 addresses as 32-bit numbers and IPv6 addresses as eight pieces of 16 bits,
read from the forms that a URL may have them in and written in the one form of
each.
-/

namespace RowTree.Url

/-- The number that digits write in a base up to sixteen. -/
def numeral? (base : Nat) (digits : List Char) : Option Nat :=
  digits.foldlM (fun n c => ((Text.hexDigit? c).filter (· < base)).map (base * n + ·)) 0

def joinWith (separator : Char) (parts : List (List Char)) : List Char :=
  [separator].intercalate parts

/-- Hexadecimal after `0x`, octal after another leading zero, decimal otherwise. -/
def ipv4Number? : List Char → Option Nat
  | [] => none
  | '0' :: 'x' :: digits | '0' :: 'X' :: digits => numeral? 16 digits
  | '0' :: c :: digits => numeral? 8 (c :: digits)
  | digits => numeral? 10 digits

/-- The parts between points, without an empty one after the last point. -/
def ipv4Parts (name : List Char) : List (List Char) :=
  let parts := Text.split (· == '.') name
  if parts.getLast? = some [] ∧ 1 < parts.length then parts.dropLast else parts

/-- A name whose last part is a number can only be an address. -/
def endsInNumber (name : List Char) : Bool :=
  match (ipv4Parts name).getLast? with
  | some last => !last.isEmpty && last.all Char.isDigit || (ipv4Number? last).isSome
  | none => false

/-- Up to four numbers: bytes from the front, and the last one fills the rest. -/
def ipv4? (name : List Char) : Option Nat := do
  let numbers ← (ipv4Parts name).mapM ipv4Number?
  let last ← numbers.getLast?
  let bytes := numbers.dropLast
  if bytes.length ≤ 3 ∧ bytes.all (· < 256) ∧ last < Nat.pow 256 (4 - bytes.length) then
    some (bytes.foldl (fun n b => 256 * n + b) 0 * Nat.pow 256 (4 - bytes.length) + last)
  else none

def ipv4Text (n : Nat) : List Char :=
  joinWith '.' ([0x1000000, 0x10000, 0x100, 1].map fun place => Nat.toDigits 10 (n / place % 256))

/-- One to four hexadecimal digits. -/
def piece? (digits : List Char) : Option Nat :=
  if digits.isEmpty ∨ 4 < digits.length then none else numeral? 16 digits

/-- A decimal byte without leading zeros. -/
def octet? (digits : List Char) : Option Nat :=
  if digits.isEmpty ∨ (digits.head? = some '0' ∧ digits ≠ ['0']) then none
  else (numeral? 10 digits).filter (· < 256)

/-- The two pieces that four bytes between points make. -/
def dottedPieces? (text : List Char) : Option (List Nat) := do
  match ← (Text.split (· == '.') text).mapM octet? with
  | [a, b, c, d] => some [256 * a + b, 256 * c + d]
  | _ => none

/-- The pieces between single colons. The empty text has none. -/
def pieces? (text : List Char) : Option (List Nat) :=
  if text.isEmpty then some [] else (Text.split (· == ':') text).mapM piece?

/-- Pieces of which the last two may be written as four bytes. -/
def lastPieces? (text : List Char) : Option (List Nat) := do
  let groups := Text.split (· == ':') text
  let last := groups.getLast?.getD []
  if last.contains '.' then
    some ((← groups.dropLast.mapM piece?) ++ (← dottedPieces? last))
  else pieces? text

/-- The text before the first two colons in a row, and the text after them if
there are any. -/
def cutDoubleColon : List Char → List Char × Option (List Char)
  | ':' :: ':' :: rest => ([], some rest)
  | c :: rest => (c :: (cutDoubleColon rest).1, (cutDoubleColon rest).2)
  | [] => ([], none)

/-- Eight pieces, where two colons in a row stand for one or more zeros. -/
def ipv6? (text : List Char) : Option (List Nat) := do
  match cutDoubleColon text with
  | (front, some back) =>
    let front ← pieces? front
    let back ← lastPieces? back
    if front.length + back.length ≤ 7 then
      some (front ++ List.replicate (8 - front.length - back.length) 0 ++ back)
    else none
  | (all, none) => (lastPieces? all).filter (·.length = 8)

/-- Where the longest run of zeros starts, the first one of several, and its
length. -/
def longestZeros (pieces : List Nat) : Nat × Nat :=
  (List.range pieces.length).foldl (fun best i =>
    let length := ((pieces.drop i).takeWhile (· == 0)).length
    if best.2 < length then (i, length) else best) (0, 0)

/-- The longest run of at least two zeros is written as two colons. -/
def ipv6Text (pieces : List Nat) : List Char :=
  let (start, length) := longestZeros pieces
  let text (pieces : List Nat) := joinWith ':' (pieces.map (Nat.toDigits 16))
  if length < 2 then text pieces
  else text (pieces.take start) ++ ':' :: ':' :: text (pieces.drop (start + length))

end RowTree.Url
