import RowTree.Sql.Statement

/-!
# Pieces of a statement

What a statement says in a dialect, as a list of pieces: plain text, quoted
names, quoted constants and values. The bound text and the text with values in
place are two readings of them (`RowTree.Sql.Text`). How a statement is written
step by step, and that the steps add up to the pieces, is told elsewhere
(`RowTree.Sql.Draft` and `RowTree.Proofs.Drafts`).
-/

namespace RowTree.Sql

inductive Dialect where
  | mySql
  | postgreSql
  | sqlite
  deriving DecidableEq

inductive Piece where
  | plain (text : String)
  | name (name : String)
  | constant (text : String)
  | param (v : Value)

def separated (text : String) (parts : List (List Piece)) : List Piece :=
  [Piece.plain text].intercalate parts

def commas (parts : List (List Piece)) : List Piece := separated ", " parts

def aliasPiece (table : Nat) : Piece := .plain ("t" ++ Nat.repr table)

mutual

/-- A list stands as its members in parentheses; its members are the parameters. -/
def valuePieces : Value → List Piece
  | .list items => .plain "(" :: commas (valuesPieces items) ++ [.plain ")"]
  | v => [.param v]

def valuesPieces : List Value → List (List Piece)
  | [] => []
  | v :: rest => valuePieces v :: valuesPieces rest

end

theorem valuesPieces_eq_map (items : List Value) : valuesPieces items = items.map valuePieces := by
  induction items with
  | nil => rfl
  | cons v rest ih => rw [valuesPieces, List.map_cons, ih]

/-- How many units a shift goes and in which unit, as SQLite counts them: it
has no weeks. -/
def sqliteShift (size : Nat) : Interval → Nat × String
  | .day => (size, "days")
  | .week => (size * 7, "days")
  | .month => (size, "months")
  | .year => (size, "years")

def nowPieces : Dialect → List Piece
  | .mySql | .postgreSql => [.plain "NOW()"]
  | .sqlite => [.plain "datetime(", .constant "now", .plain ")"]

def shiftPieces (dialect : Dialect) (amount : Int64) (unit : Interval) : List Piece :=
  let size := amount.toInt.natAbs
  let back := amount < 0
  match dialect with
  | .mySql =>
    [.plain ((if back then "DATE_SUB" else "DATE_ADD") ++ "(NOW(), INTERVAL "
      ++ Nat.repr size ++ " " ++ unit.word ++ ")")]
  | .postgreSql =>
    [.plain ("NOW()" ++ (if back then " - " else " + ") ++ "INTERVAL "),
      .constant (Nat.repr size ++ " " ++ unit.word)]
  | .sqlite =>
    let shift := sqliteShift size unit
    [.plain "datetime(", .constant "now", .plain ", ",
      .constant ((if back then "-" else "+") ++ Nat.repr shift.1 ++ " " ++ shift.2),
      .plain ")"]

mutual

/-- Conjunctions have no parentheses, and an empty list of an `IN` matches nothing. -/
def Expr.pieces (dialect : Dialect) : Expr → List Piece
  | .conj operands => separated " AND " (exprsPieces dialect operands)
  | .compare op lhs rhs =>
    lhs.pieces dialect ++ .plain (" " ++ op.symbol ++ " ") :: rhs.pieces dialect
  | .column (some table) name => [aliasPiece table, .plain ".", .name name]
  | .column none name => [.name name]
  | .now => nowPieces dialect
  | .shiftedNow amount unit => shiftPieces dialect amount unit
  | .inList _ [] => [.plain "1 = 0"]
  | .inList subject (item :: rest) =>
    subject.pieces dialect ++ .plain " IN (" ::
      commas (item.pieces dialect :: exprsPieces dialect rest) ++ [.plain ")"]
  | .like subject pattern =>
    subject.pieces dialect ++ [.plain " LIKE ", .param (.string pattern)]
  | .literal text => [.constant text]
  | .value v => valuePieces v

def exprsPieces (dialect : Dialect) : List Expr → List (List Piece)
  | [] => []
  | e :: rest => e.pieces dialect :: exprsPieces dialect rest

end

theorem exprsPieces_eq_map (dialect : Dialect) (es : List Expr) :
    exprsPieces dialect es = es.map (·.pieces dialect) := by
  induction es with
  | nil => rfl
  | cons e rest ih => rw [exprsPieces, List.map_cons, ih]

def Filter.pieces (dialect : Dialect) (filter : Filter) : List Piece :=
  match filter.expr? with
  | some e => .plain " WHERE " :: e.pieces dialect
  | none => []

def SelectItem.pieces (dialect : Dialect) (item : SelectItem) : List Piece :=
  item.expr.pieces dialect ++ [.plain " AS ", .name item.name]

def JoinKind.words : JoinKind → String
  | inner => " INNER JOIN "
  | left => " LEFT JOIN "

def Join.pieces (dialect : Dialect) (join : Join) : List Piece :=
  [.plain join.kind.words, .name join.table, .plain " AS ", aliasPiece join.number, .plain " ON "]
    ++ join.condition.pieces dialect

def OrderItem.pieces (dialect : Dialect) (item : OrderItem) : List Piece :=
  item.expr.pieces dialect ++
    match item.direction with
    | some .descending => [.plain " DESC"]
    | some .ascending => [.plain " ASC"]
    | none => []

def orderPieces (dialect : Dialect) : List OrderItem → List Piece
  | [] => []
  | items => .plain " ORDER BY " :: commas (items.map (·.pieces dialect))

def limitPieces : Option Limit → List Piece
  | none => []
  | some limit =>
    .plain (" LIMIT " ++ Nat.repr limit.limit.toNat) ::
      match limit.offset with
      | some offset => [.plain (" OFFSET " ++ Nat.repr offset.toNat)]
      | none => []

def itemsPieces (dialect : Dialect) : Option (List SelectItem) → List Piece
  | none => [.plain "*"]
  | some items => commas (items.map (·.pieces dialect))

def Query.pieces (dialect : Dialect) (q : Query) : List Piece :=
  .plain "SELECT " :: itemsPieces dialect q.items
    ++ [.plain " FROM ", .name q.table, .plain " AS ", aliasPiece 0]
    ++ q.joins.flatMap (·.pieces dialect)
    ++ q.filter.pieces dialect
    ++ orderPieces dialect q.order
    ++ limitPieces q.limit

def Insert.pieces (dialect : Dialect) (i : Insert) : List Piece :=
  [.plain "INSERT INTO ", .name i.table, .plain " ("]
    ++ commas (i.columns.map ([.name ·]))
    ++ .plain ") VALUES (" :: commas (exprsPieces dialect i.values) ++ [.plain ")"]

def Assignment.pieces (dialect : Dialect) (a : Assignment) : List Piece :=
  .name a.column :: .plain " = " :: a.expr.pieces dialect

def Update.pieces (dialect : Dialect) (u : Update) : List Piece :=
  [.plain "UPDATE ", .name u.table, .plain " SET "]
    ++ commas (u.assignments.map (·.pieces dialect)) ++ u.filter.pieces dialect

def Delete.pieces (dialect : Dialect) (d : Delete) : List Piece :=
  [.plain "DELETE FROM ", .name d.table] ++ d.filter.pieces dialect

def Statement.pieces (dialect : Dialect) : Statement → List Piece
  | query q => q.pieces dialect
  | insert i => i.pieces dialect
  | update u => u.pieces dialect
  | delete d => d.pieces dialect

end RowTree.Sql
