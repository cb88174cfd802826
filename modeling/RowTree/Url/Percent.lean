import RowTree.Text.Digit
import RowTree.Text.Split
import RowTree.Text.Utf8

/-!
# Percent encoding

Bytes written as a percent sign and two hexadecimal digits. Which characters
are written so depends on the part of a URL; those beyond ASCII always are.
-/

namespace RowTree.Url

def isControl (c : Char) : Bool := c.toNat < 0x20 || 0x7E < c.toNat

def inFragment (c : Char) : Bool := isControl c || [' ', '"', '<', '>', '\x60'].contains c

def inPath (c : Char) : Bool := inFragment c || ['#', '?', '\x7b', '\x7d'].contains c

def inUserInfo (c : Char) : Bool :=
  inPath c || ['/', ':', ';', '=', '@', '[', '\\', ']', '^', '|'].contains c

def inQuery (c : Char) : Bool := isControl c || [' ', '"', '#', '<', '>'].contains c

def inSpecialQuery (c : Char) : Bool := inQuery c || c == '\''

def hexUpper (n : Nat) : Char := (Nat.digitChar n).toUpper

def percentByte (b : UInt8) : List Char :=
  ['%', hexUpper (b.toNat / 16), hexUpper (b.toNat % 16)]

def percentEncode (set : Char → Bool) (text : List Char) : List Char :=
  text.flatMap fun c =>
    if set c || 0x7F < c.toNat then (String.utf8EncodeChar c).flatMap percentByte else [c]

/-- The bytes of a text in which percent signs with two digits stand for a byte. -/
def percentDecode : List Char → List UInt8
  | '%' :: a :: b :: rest =>
    match Text.hexDigit? a, Text.hexDigit? b with
    | some high, some low => (high * 16 + low).toUInt8 :: percentDecode rest
    | _, _ => '%'.toNat.toUInt8 :: percentDecode (a :: b :: rest)
  | c :: rest => String.utf8EncodeChar c ++ percentDecode rest
  | [] => []

/-- The names and values of a query: `name=value` between ampersands, with a
plus for a space. -/
def queryPairs (query : List Char) : List (String × String) :=
  ((Text.split (· == '&') query).filter (!·.isEmpty)).map fun part =>
    let (name, value) := Text.cut (· == '=') part
    (formText name, formText (value.getD []))
where
  formText (part : List Char) : String :=
    Text.ofUtf8 (percentDecode (part.map fun c => if c = '+' then ' ' else c))

end RowTree.Url
