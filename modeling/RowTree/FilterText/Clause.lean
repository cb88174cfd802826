import RowTree.FilterText.Date
import RowTree.Schema.Model
import RowTree.Text.Split

/-!
# Clauses of a filter

A clause is a field, an operator and a value with blanks between them. The
value is the rest of the clause without blanks at its ends, and is one line.
-/

namespace RowTree.FilterText

open Text Sql Schema

inductive Operator where
  | equal
  | inList
  | contains
  | beginsWith
  | endsWith
  | greater
  | less
  | before
  | after
  deriving DecidableEq

namespace Operator

def word : Operator → String
  | equal => "="
  | inList => "in"
  | contains => "contains"
  | beginsWith => "beginswith"
  | endsWith => "endswith"
  | greater => ">"
  | less => "<"
  | before => "before"
  | after => "after"

def all : List Operator :=
  [equal, inList, contains, beginsWith, endsWith, greater, less, before, after]

/-- The operator of a word. A word counts as an operator when it folds to one;
if its letters are not those of ASCII it stands for `>`. -/
def ofWord? (text : List Char) : Option Operator :=
  if all.any fun op => op.word.toList == fold text then
    some ((all.find? fun op => op.word.toList == lower text).getD greater)
  else none

end Operator

structure Clause where
  field : List Char
  operator : Operator
  value : List Char

/-- The value in the text after an operator. If there is nothing but blanks,
it is the last one that is no line feed and not the first. -/
def clauseValue? (text : List Char) : Option (List Char) :=
  match text with
  | [] => none
  | first :: rest =>
    if !isBlank first then none
    else if (dropBlank rest).isEmpty then (rest.reverse.find? (· != '\n')).map ([·])
    else
      let value := dropBlankEnd (dropBlank rest)
      if value.contains '\n' then none else some value

def firstWord (text : List Char) : List Char × List Char :=
  ((dropBlank text).takeWhile (!isBlank ·), (dropBlank text).dropWhile (!isBlank ·))

def clause? (text : List Char) : Option Clause := do
  let (field, rest) := firstWord text
  let (word, rest) := firstWord rest
  let operator ← Operator.ofWord? word
  let value ← clauseValue? rest
  some ⟨field, operator, value⟩

def predicate (column : Expr) (operator : Operator) (value : List Char) :
    Except FilterProblem Expr :=
  let text := String.ofList value
  match operator with
  | .equal => .ok (.compare .equal column (.string text))
  | .inList =>
    .ok (.inList column
      ((split (· == ',') value).map fun part => .string (String.ofList (trim part))))
  | .contains => .ok (column.contains text)
  | .beginsWith => .ok (column.beginsWith text)
  | .endsWith => .ok (column.endsWith text)
  | .greater => .ok (.compare .greater column (.string text))
  | .less => .ok (.compare .less column (.string text))
  | .before => (date value).map (.compare .less column)
  | .after => (date value).map (.compare .greater column)

/-- The predicate of a clause over some fields. The field must have a column. -/
def readClause (fields : List Field) (text : List Char) : Except FilterProblem Expr :=
  match clause? text with
  | none => .error (.unreadableClause (String.ofList (trim text)))
  | some clause =>
    match (findField? fields (String.ofList clause.field)).bind Field.expr? with
    | none => .error (.unknownField (String.ofList clause.field))
    | some column => predicate column clause.operator clause.value

end RowTree.FilterText
