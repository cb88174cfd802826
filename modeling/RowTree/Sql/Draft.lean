import RowTree.Sql.Text

/-!
# Writing statements

A statement is written from left to right onto a draft, which is a text and the
parameters of that text. A value is written in place, or else it is added to the
parameters and the placeholder of its position goes into the text. The two ways
differ nowhere else.
-/

namespace RowTree.Sql

/-- What is written so far. -/
structure Draft where
  text : String := ""
  params : List Value := []

/-- The dialect, and whether values are written in place. -/
structure Style where
  dialect : Dialect
  inline : Bool

/-- Writing goes on from a draft. Nothing comes of it if a number does not fit in its word. -/
abbrev Writing := ReaderT Style (StateT Draft Option)

def put (text : String) : Writing Unit :=
  modify fun draft => { draft with text := draft.text ++ text }

/-- Adds a parameter and tells its position, counted from one. -/
def push (v : Value) : Writing Nat := do
  modify fun draft => { draft with params := draft.params ++ [v] }
  return (← get).params.length

def putPlaceholder (position : Nat) : Writing Unit := do
  put ((← readThe Style).dialect.placeholder position)

def putName (name : String) : Writing Unit := do
  put (quoted (← readThe Style).dialect.nameQuote name)

def putConstant (text : String) : Writing Unit := put (quoted '\'' text)

def putAlias (table : Nat) : Writing Unit := put ("t" ++ Nat.repr table)

/-- What goes in front of the first part need not be what goes in front of the others. -/
def putParts (first next : String) : List (Writing Unit) → Writing Unit
  | [] => pure ()
  | part :: rest => do
    put first
    part
    putParts next next rest

def putSeparated (separator : String) (parts : List (Writing Unit)) : Writing Unit :=
  putParts "" separator parts

mutual

/-- A list is written as its members in parentheses. -/
def putValue : Value → Writing Unit
  | .list items => do
    put "("
    putSeparated ", " (putValues items)
    put ")"
  | v => do
    if (← readThe Style).inline then put (literalText v)
    else putPlaceholder (← push v)

def putValues : List Value → List (Writing Unit)
  | [] => []
  | v :: rest => putValue v :: putValues rest

end

theorem putValues_eq_map (items : List Value) : putValues items = items.map putValue := by
  induction items with
  | nil => rfl
  | cons v rest ih => rw [putValues, List.map_cons, ih]

def putNow : Writing Unit := do
  match (← readThe Style).dialect with
  | .mySql | .postgreSql => put "NOW()"
  | .sqlite => put "datetime('now')"

/-- The number of days that stand for weeks is counted in a 64-bit word as well. There is none if
it does not fit. -/
def sqliteShift? (size : UInt64) : Interval → Option (UInt64 × String)
  | .day => some (size, "days")
  | .week => if size.toNat * 7 < UInt64.size then some (size * 7, "days") else none
  | .month => some (size, "months")
  | .year => some (size, "years")

def putShift (amount : Int64) (unit : Interval) : Writing Unit := do
  let size := amount.toInt.natAbs.toUInt64
  let back := amount < 0
  match (← readThe Style).dialect with
  | .mySql =>
    put (if back then "DATE_SUB" else "DATE_ADD")
    put ("(NOW(), INTERVAL " ++ Nat.repr size.toNat ++ " " ++ unit.word ++ ")")
  | .postgreSql =>
    put "NOW()"
    put (if back then " - " else " + ")
    put ("INTERVAL '" ++ Nat.repr size.toNat ++ " " ++ unit.word ++ "'")
  | .sqlite =>
    match sqliteShift? size unit with
    | none => failure
    | some (size, word) =>
      put "datetime('now', '"
      put (if back then "-" else "+")
      put (Nat.repr size.toNat ++ " " ++ word ++ "')")

mutual

/-- Conjunctions have no parentheses, and an empty list of an `IN` matches nothing. -/
def Expr.write : Expr → Writing Unit
  | .conj operands => putSeparated " AND " (writeAll operands)
  | .compare op lhs rhs => do
    lhs.write
    put (" " ++ op.symbol ++ " ")
    rhs.write
  | .column (some table) name => do
    putAlias table
    put "."
    putName name
  | .column none name => putName name
  | .now => putNow
  | .shiftedNow amount unit => putShift amount unit
  | .inList _ [] => put "1 = 0"
  | .inList subject (item :: rest) => do
    subject.write
    put " IN ("
    putSeparated ", " (item.write :: writeAll rest)
    put ")"
  | .like subject pattern => do
    subject.write
    put " LIKE "
    putValue (.string pattern)
  | .literal text => putConstant text
  | .value v => putValue v

def writeAll : List Expr → List (Writing Unit)
  | [] => []
  | e :: rest => e.write :: writeAll rest

end

theorem writeAll_eq_map (es : List Expr) : writeAll es = es.map Expr.write := by
  induction es with
  | nil => rfl
  | cons e rest ih => rw [writeAll, List.map_cons, ih]

def Filter.write (filter : Filter) : Writing Unit :=
  match filter.expr? with
  | some e => do
    put " WHERE "
    e.write
  | none => pure ()

def SelectItem.write (item : SelectItem) : Writing Unit := do
  item.expr.write
  put " AS "
  putName item.name

def Join.write (join : Join) : Writing Unit := do
  put join.kind.words
  putName join.table
  put " AS "
  putAlias join.number
  put " ON "
  join.condition.write

def OrderItem.write (item : OrderItem) : Writing Unit := do
  item.expr.write
  match item.direction with
  | some .descending => put " DESC"
  | some .ascending => put " ASC"
  | none => pure ()

def putItems : Option (List SelectItem) → Writing Unit
  | none => put "*"
  | some items => putSeparated ", " (items.map SelectItem.write)

def putOrder : List OrderItem → Writing Unit
  | [] => pure ()
  | items => do
    put " ORDER BY "
    putSeparated ", " (items.map OrderItem.write)

def putLimit : Option Limit → Writing Unit
  | none => pure ()
  | some limit => do
    put (" LIMIT " ++ Nat.repr limit.limit.toNat)
    match limit.offset with
    | some offset => put (" OFFSET " ++ Nat.repr offset.toNat)
    | none => pure ()

def Query.write (q : Query) : Writing Unit := do
  put "SELECT "
  putItems q.items
  put " FROM "
  putName q.table
  put " AS "
  putAlias 0
  q.joins.forM Join.write
  q.filter.write
  putOrder q.order
  putLimit q.limit

def Insert.write (i : Insert) : Writing Unit := do
  put "INSERT INTO "
  putName i.table
  put " ("
  putSeparated ", " (i.columns.map putName)
  put ") VALUES ("
  putSeparated ", " (writeAll i.values)
  put ")"

def Assignment.write (a : Assignment) : Writing Unit := do
  putName a.column
  put " = "
  a.expr.write

def Update.write (u : Update) : Writing Unit := do
  put "UPDATE "
  putName u.table
  put " SET "
  putSeparated ", " (u.assignments.map Assignment.write)
  u.filter.write

def Delete.write (d : Delete) : Writing Unit := do
  put "DELETE FROM "
  putName d.table
  d.filter.write

namespace Statement

def write : Statement → Writing Unit
  | query q => q.write
  | insert i => i.write
  | update u => u.write
  | delete d => d.write

/-- The text for execution with its parameters, of which there are none before. -/
def draft? (dialect : Dialect) (s : Statement) : Option Draft :=
  ((s.write.run ⟨dialect, false⟩).run {}).map (·.2)

/-- The text with every value in place. -/
def inline? (dialect : Dialect) (s : Statement) : Option String :=
  ((s.write.run ⟨dialect, true⟩).run {}).map (·.2.text)

end Statement

end RowTree.Sql
