import RowTree.Json.Numeral

/-!
# Tokens of a JSON text

The text is read one character at a time; the state says of what token the
character is a part. A string is first taken whole, up to the quote that no
backslash protects, and its escapes are resolved after that. A string or a
number may be well formed and have no value.
-/

namespace RowTree.Json

inductive Token where
  | openArray
  | closeArray
  | openObject
  | closeObject
  | colon
  | comma
  | string (s : Option String)
  | number (n : Option Number)
  | word (letters : List Char)

/-- Inside what token the lexer stands. Characters seen are kept newest first. -/
inductive LexState where
  | between
  | text (seen : List Char)
  | escaped (seen : List Char)
  | number (seen : List Char)
  | word (seen : List Char)

def hexWord? (a b c d : Char) : Option Nat := do
  let a ← Text.hexDigit? a
  let b ← Text.hexDigit? b
  let c ← Text.hexDigit? c
  let d ← Text.hexDigit? d
  some (((a * 16 + b) * 16 + c) * 16 + d)

def surrogatePair? (high low : Nat) : Option Char :=
  if 0xD800 ≤ high ∧ high < 0xDC00 ∧ 0xDC00 ≤ low ∧ low < 0xE000 then
    some (Char.ofNat (0x10000 + (high - 0xD800) * 0x400 + (low - 0xDC00)))
  else none

/-- The character of one escaped word, which must not be a surrogate. -/
def plainUnit? (unit : Nat) : Option Char :=
  if 0xD800 ≤ unit ∧ unit < 0xE000 then none else some (Char.ofNat unit)

def shortEscape? : Char → Option Char
  | '"' => some '"'
  | '\\' => some '\\'
  | '/' => some '/'
  | 'b' => some '\x08'
  | 'f' => some '\x0c'
  | 'n' => some '\n'
  | 'r' => some '\r'
  | 't' => some '\t'
  | _ => none

/-- Resolves the escapes of a string, whose control characters must be escaped.
A surrogate without its other half stands for nothing. -/
def unescape : List Char → Option (List (Option Char))
  | [] => some []
  | '\\' :: 'u' :: a :: b :: c :: d :: '\\' :: 'u' :: e :: f :: g :: h :: rest => do
    let first ← hexWord? a b c d
    let second ← hexWord? e f g h
    match surrogatePair? first second with
    | some ch => (unescape rest).map (some ch :: ·)
    | none => (unescape ('\\' :: 'u' :: e :: f :: g :: h :: rest)).map (plainUnit? first :: ·)
  | '\\' :: 'u' :: a :: b :: c :: d :: rest => do
    let unit ← hexWord? a b c d
    (unescape rest).map (plainUnit? unit :: ·)
  | '\\' :: c :: rest => do
    let ch ← shortEscape? c
    (unescape rest).map (some ch :: ·)
  | c :: rest => if c.toNat < 0x20 ∨ c = '\\' then none else (unescape rest).map (some c :: ·)

def stringToken? (text : List Char) : Option Token :=
  (unescape text).map fun chars => .string ((chars.mapM id).map String.ofList)

def numberToken? (text : List Char) : Option Token :=
  (Numeral.ofText? text).map fun numeral => .number numeral.value?

def isNumberChar (c : Char) : Bool :=
  c.isDigit || c == '+' || c == '-' || c == '.' || c == 'e' || c == 'E'

def isSpace (c : Char) : Bool := c == ' ' || c == '\t' || c == '\n' || c == '\r'

/-- The first character of a token, or one between tokens. -/
def startToken (c : Char) : Option (List Token × LexState) :=
  if isSpace c then some ([], .between)
  else if c = '"' then some ([], .text [])
  else if c.isDigit ∨ c = '-' then some ([], .number [c])
  else if c.isLower then some ([], .word [c])
  else match c with
    | '[' => some ([.openArray], .between)
    | ']' => some ([.closeArray], .between)
    | '\x7b' => some ([.openObject], .between)
    | '\x7d' => some ([.closeObject], .between)
    | ':' => some ([.colon], .between)
    | ',' => some ([.comma], .between)
    | _ => none

/-- The token that ends where no more characters of its kind follow. -/
def pending : LexState → Option (List Token)
  | .between => some []
  | .text _ | .escaped _ => none
  | .number seen => (numberToken? seen.reverse).map ([·])
  | .word seen => some [.word seen.reverse]

def lexStep (state : LexState) (c : Char) : Option (List Token × LexState) :=
  match state with
  | .text seen =>
    if c = '"' then (stringToken? seen.reverse).map ([·], .between)
    else if c = '\\' then some ([], .escaped (c :: seen))
    else some ([], .text (c :: seen))
  | .escaped seen => some ([], .text (c :: seen))
  | .number seen => if isNumberChar c then some ([], .number (c :: seen)) else finish
  | .word seen => if c.isLower then some ([], .word (c :: seen)) else finish
  | .between => startToken c
where
  finish : Option (List Token × LexState) := do
    let done ← pending state
    let (more, next) ← startToken c
    some (done ++ more, next)

def tokensFrom (state : LexState) : List Char → Option (List Token)
  | [] => pending state
  | c :: rest => do
    let (done, next) ← lexStep state c
    let more ← tokensFrom next rest
    some (done ++ more)

def tokens (text : String) : Option (List Token) := tokensFrom .between text.toList

end RowTree.Json
