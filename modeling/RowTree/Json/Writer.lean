import RowTree.Json

/-!
# Writing JSON

The text of a tree without any white space. Strings escape quotes, backslashes
and control characters and nothing else. What has no value is written as null.
-/

namespace RowTree.Json

def hexChar (n : Nat) : Char := Nat.digitChar n

def escapeChar (c : Char) : List Char :=
  match c with
  | '"' => ['\\', '"']
  | '\\' => ['\\', '\\']
  | '\x08' => ['\\', 'b']
  | '\x0c' => ['\\', 'f']
  | '\n' => ['\\', 'n']
  | '\r' => ['\\', 'r']
  | '\t' => ['\\', 't']
  | c =>
    if c.toNat < 0x20 then ['\\', 'u', '0', '0', hexChar (c.toNat / 16), hexChar (c.toNat % 16)]
    else [c]

def stringText (s : String) : List Char := '"' :: s.toList.flatMap escapeChar ++ ['"']

def intText (n : Int) : List Char :=
  if n < 0 then '-' :: decimalDigits n.natAbs else decimalDigits n.natAbs

/-- Not a number and the infinities have no JSON number and are null. -/
def numberText : Number → List Char
  | .int n => intText n.toInt
  | .nat n => decimalDigits n.toNat
  | .float x => if x.isFinite then x.jsonText else ['n', 'u', 'l', 'l']

mutual

def textChars : Json → List Char
  | unreadable | null => ['n', 'u', 'l', 'l']
  | bool true => ['t', 'r', 'u', 'e']
  | bool false => ['f', 'a', 'l', 's', 'e']
  | number n => numberText n
  | string s => stringText s
  | array items => '[' :: [','].intercalate (itemTexts items) ++ [']']
  | object members => '\x7b' :: [','].intercalate (memberTexts members) ++ ['\x7d']

def itemTexts : List Json → List (List Char)
  | [] => []
  | item :: rest => textChars item :: itemTexts rest

def memberTexts : List (String × Json) → List (List Char)
  | [] => []
  | (name, v) :: rest => (stringText name ++ ':' :: textChars v) :: memberTexts rest

end

def text (v : Json) : String := String.ofList (textChars v)

end RowTree.Json
