/-!
# UTF-8

The bytes of a text, and the text of any bytes. A part of the bytes that is no
character becomes a replacement character; such a part is as long as it could
still have become a character.
-/

namespace RowTree.Text

def utf8 (text : String) : List UInt8 := text.toList.flatMap String.utf8EncodeChar

/-- Where a decoder stands: between characters, or after the first bytes of one.
Then it knows their value, how many bytes are missing, and the bounds of the
next one. -/
inductive Utf8State where
  | between
  | inside (value missing low high : Nat)

def replacement : Char := '\uFFFD'

/-- The state after the first byte of a character, or the character that it is
or stands for by itself. -/
def firstByte (b : Nat) : List Char × Utf8State :=
  if b < 0x80 then ([Char.ofNat b], .between)
  else if b < 0xC2 then ([replacement], .between)
  else if b < 0xE0 then ([], .inside (b - 0xC0) 1 0x80 0xBF)
  else if b = 0xE0 then ([], .inside 0 2 0xA0 0xBF)
  else if b = 0xED then ([], .inside 0xD 2 0x80 0x9F)
  else if b < 0xF0 then ([], .inside (b - 0xE0) 2 0x80 0xBF)
  else if b = 0xF0 then ([], .inside 0 3 0x90 0xBF)
  else if b < 0xF4 then ([], .inside (b - 0xF0) 3 0x80 0xBF)
  else if b = 0xF4 then ([], .inside 4 3 0x80 0x8F)
  else ([replacement], .between)

def nextByte (state : Utf8State) (b : Nat) : List Char × Utf8State :=
  match state with
  | .between => firstByte b
  | .inside value missing low high =>
    if low ≤ b ∧ b ≤ high then
      let value := value * 64 + (b - 0x80)
      if missing ≤ 1 then ([Char.ofNat value], .between)
      else ([], .inside value (missing - 1) 0x80 0xBF)
    else
      let (chars, next) := firstByte b
      (replacement :: chars, next)

def decodeFrom (state : Utf8State) : List UInt8 → List Char
  | [] =>
    match state with
    | .between => []
    | .inside .. => [replacement]
  | b :: rest =>
    let (chars, next) := nextByte state b.toNat
    chars ++ decodeFrom next rest

def ofUtf8 (bytes : List UInt8) : String := String.ofList (decodeFrom .between bytes)

end RowTree.Text
