import RowTree.Error
import RowTree.Sql.Expr
import RowTree.Text.Blank
import RowTree.Text.Digit
import RowTree.Text.Letter

/-!
# Dates in a filter

A date is `NOW` or an offset from now: an optional minus, digits, and the word
of a unit, such as `-7D` or `2 weeks`.
-/

namespace RowTree.FilterText

open Text Sql

def unitWords : Interval → List String
  | .day => ["d", "day", "days"]
  | .week => ["w", "week", "weeks"]
  | .month => ["m", "month", "months"]
  | .year => ["y", "yr", "year", "years"]

def unit? (word : List Char) : Option Interval :=
  [Interval.day, .week, .month, .year].find? fun unit =>
    (unitWords unit).any fun w => w.toList == lower word

structure Offset where
  back : Bool
  digits : List Char
  word : List Char

/-- The parts of an offset: digits of any script, blanks, then ASCII letters up
to the end. -/
def offset? (text : List Char) : Option Offset :=
  let (back, size) : Bool × List Char :=
    match text with
    | '-' :: rest => (true, rest)
    | rest => (false, rest)
  let digits := size.takeWhile isDecimalDigit
  let word := dropBlank (size.dropWhile isDecimalDigit)
  if !digits.isEmpty && !word.isEmpty && word.all Char.isAlpha then some ⟨back, digits, word⟩
  else none

/-- An amount in ASCII digits that a signed 64-bit number can hold. -/
def amount? (digits : List Char) : Option Nat :=
  (natural? digits).filter (· < 0x8000000000000000)

def date (text : List Char) : Except FilterProblem Expr :=
  if sameWord text ['n', 'o', 'w'] then .ok .now
  else
    match offset? text with
    | none => .error (.unreadableDate (String.ofList text))
    | some offset =>
      match amount? offset.digits with
      | none => .error (.offsetTooLarge (String.ofList text))
      | some n =>
        match unit? offset.word with
        | none => .error (.unknownUnit (String.ofList offset.word))
        | some unit =>
          .ok (.shiftedNow (Int64.ofInt (if offset.back then -(n : Int) else n)) unit)

end RowTree.FilterText
