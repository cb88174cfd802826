import RowTree.Text.Utf8
import RowTree.Value

/-!
# Values of a MySQL connection

The values that a MySQL server sends and takes, and what they are as values of
rows. Texts travel as bytes. Dates and times are read as texts; a fraction of a
second is not part of the text, and a time of too many hours cannot be read.
-/

namespace RowTree.MySql

inductive Wire where
  | null
  | bytes (bytes : List UInt8)
  | int (n : Int64)
  | uint (n : UInt64)
  /-- A number in single precision. -/
  | float (x : Binary64)
  | double (x : Binary64)
  | date (year : UInt16) (month day hour minute second : UInt8) (microsecond : UInt32)
  | time (negative : Bool) (days : UInt32) (hours minutes seconds : UInt8) (microseconds : UInt32)

def padded (width n : Nat) : List Char :=
  let digits := decimalDigits n
  List.replicate (width - digits.length) '0' ++ digits

def clockText (hours minutes seconds : Nat) : List Char :=
  padded 2 hours ++ ':' :: padded 2 minutes ++ ':' :: padded 2 seconds

def dayText (year month day : Nat) : List Char :=
  padded 4 year ++ '-' :: padded 2 month ++ '-' :: padded 2 day

/-- The hours of a time together with those of its days. They are counted in a 32-bit word, and
there is no result if they do not fit. -/
def totalHours? (days : UInt32) (hours : UInt8) : Option Nat :=
  let total := hours.toNat + days.toNat * 24
  if total < UInt32.size then some total else none

def timeText (negative : Bool) (hours minutes seconds : Nat) : List Char :=
  if negative then '-' :: clockText hours minutes seconds else clockText hours minutes seconds

/-- There is no value for a time whose hours do not fit. -/
def decode? : Wire → Option Value
  | .null => some .null
  | .bytes bs => some (.string (Text.ofUtf8 bs))
  | .int n => some (.int n)
  | .uint n => some (.nat n)
  | .float x => some (.float x)
  | .double x => some (.float x)
  | .date year month day hour minute second microsecond =>
    let text := dayText year.toNat month.toNat day.toNat
    some <| .string <| String.ofList <|
      if hour = 0 ∧ minute = 0 ∧ second = 0 ∧ microsecond = 0 then text
      else text ++ ' ' :: clockText hour.toNat minute.toNat second.toNat
  | .time negative days hours minutes seconds _ =>
    (totalHours? days hours).map fun total =>
      .string (String.ofList (timeText negative total minutes.toNat seconds.toNat))

/-- A truth value is sent as one or zero, and a list as the text of its members. -/
def encode : Value → Wire
  | .null => .null
  | .bool b => .int (if b then 1 else 0)
  | .int n => .int n
  | .nat n => .uint n
  | .float x => .double x
  | .string s => .bytes (Text.utf8 s)
  | .list items => .bytes (Text.utf8 (Value.text (.list items)))

end RowTree.MySql
