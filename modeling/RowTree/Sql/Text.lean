import RowTree.Sql.Piece

/-!
# Texts of a statement

The text that is sent with its parameters apart, and the text with every value
in place, which is for reading only. A name or a constant stands between two
quotes, and a quote inside it is written twice.
-/

namespace RowTree.Sql

def quoted (quote : Char) (text : String) : String :=
  String.ofList
    (quote :: text.toList.flatMap (fun c => if c = quote then [c, c] else [c]) ++ [quote])

namespace Dialect

def nameQuote : Dialect → Char
  | mySql => '\x60'
  | postgreSql | sqlite => '"'

/-- What stands for the parameter at a position, counted from one. -/
def placeholder : Dialect → Nat → String
  | mySql, _ => "?"
  | postgreSql, n => "$" ++ Nat.repr n
  | sqlite, n => "?" ++ Nat.repr n

end Dialect

def literalText : Value → String
  | .null => "NULL"
  | .bool true => "TRUE"
  | .bool false => "FALSE"
  | .string s => quoted '\'' s
  | v => v.text

namespace Piece

def text (dialect : Dialect) : Piece → String
  | plain t => t
  | name n => quoted dialect.nameQuote n
  | constant t => quoted '\'' t
  | param v => literalText v

def param? : Piece → Option Value
  | param v => some v
  | _ => none

end Piece

/-- The text of pieces whose parameters are counted on from `bound`. -/
def boundText (dialect : Dialect) (bound : Nat) : List Piece → String
  | [] => ""
  | .param _ :: rest =>
    dialect.placeholder (bound + 1) ++ boundText dialect (bound + 1) rest
  | piece :: rest => piece.text dialect ++ boundText dialect bound rest

def inlineText (dialect : Dialect) (pieces : List Piece) : String :=
  String.join (pieces.map (·.text dialect))

namespace Statement

def bound (dialect : Dialect) (s : Statement) : String := boundText dialect 0 (s.pieces dialect)

def params (dialect : Dialect) (s : Statement) : List Value :=
  (s.pieces dialect).filterMap Piece.param?

def inline (dialect : Dialect) (s : Statement) : String := inlineText dialect (s.pieces dialect)

end Statement

end RowTree.Sql
