import RowTree.Proofs.Lexing

/-!
# Names and constants stay in their quotes

The quoted tokens of a bound text are the names and constants of the statement in the order in
which they are written, whatever characters they have. What is outside of the quotes is the same
for all statements of one form.
-/

namespace RowTree.Sql

def nowStrings : Dialect → List String
  | .mySql | .postgreSql => []
  | .sqlite => ["now"]

/-- The constants of a shift, which MySQL writes without any. -/
def shiftStrings (dialect : Dialect) (amount : Int64) (unit : Interval) : List String :=
  let size := amount.toInt.natAbs
  match dialect with
  | .mySql => []
  | .postgreSql => [Nat.repr size ++ " " ++ unit.word]
  | .sqlite =>
    ["now", (if amount < 0 then "-" else "+") ++ Nat.repr (sqliteShift size unit).1 ++ " "
      ++ (sqliteShift size unit).2]

def stringTokens (texts : List String) : List Token := texts.map fun text => .string text.toList

def nameTokens (texts : List String) : List Token := texts.map fun text => .name text.toList

variable (dialect : Dialect)

mutual

/-- The names, the literals and the constants of dates in an expression. An empty list of an `IN`
is written without its subject. -/
def Expr.quotes : Expr → List Token
  | .conj operands => (exprsQuotes operands).flatten
  | .compare _ lhs rhs => lhs.quotes ++ rhs.quotes
  | .column _ name => nameTokens [name]
  | .now => stringTokens (nowStrings dialect)
  | .shiftedNow amount unit => stringTokens (shiftStrings dialect amount unit)
  | .inList _ [] => []
  | .inList subject (item :: rest) => subject.quotes ++ (item.quotes :: exprsQuotes rest).flatten
  | .like subject _ => subject.quotes
  | .literal text => stringTokens [text]
  | .value _ => []

def exprsQuotes : List Expr → List (List Token)
  | [] => []
  | e :: rest => e.quotes :: exprsQuotes rest

end

def Filter.quotes (filter : Filter) : List Token := (filter.expr?.map (·.quotes dialect)).getD []

/-- The names, the literals and the constants of dates in a statement, in the order in which they
are written. -/
def Statement.quotes : Statement → List Token
  | query q =>
    (q.items.getD []).flatMap (fun item => item.expr.quotes dialect ++ nameTokens [item.name])
      ++ nameTokens [q.table]
      ++ q.joins.flatMap (fun join => nameTokens [join.table] ++ join.condition.quotes dialect)
      ++ q.filter.quotes dialect
      ++ q.order.flatMap (·.expr.quotes dialect)
  | insert i =>
    nameTokens [i.table] ++ nameTokens i.columns ++ (exprsQuotes dialect i.values).flatten
  | update u =>
    nameTokens [u.table]
      ++ u.assignments.flatMap (fun a => nameTokens [a.column] ++ a.expr.quotes dialect)
      ++ u.filter.quotes dialect
  | delete d => nameTokens [d.table] ++ d.filter.quotes dialect

mutual

theorem quotes_value (v : Value) : Quotes (valuePieces v) [] := by
  cases v with
  | list items =>
    have hItems := Quotes.separated (by decide : Spacer ", ") (quotes_values items)
    have hNone : (items.map fun _ => ([] : List Token)).flatten = [] := by simp
    rw [hNone] at hItems
    exact .plain (by decide) (hItems.last (by decide))
  | _ => exact .param _ .nil

theorem quotes_values (items : List Value) :
    List.Forall₂ Quotes (valuesPieces items) (items.map fun _ => []) := by
  cases items with
  | nil => exact .nil
  | cons v rest => exact .cons (quotes_value v) (quotes_values rest)

end

theorem spacer_comparison (op : Comparison) : Spacer (" " ++ op.symbol ++ " ") := by
  cases op <;> decide

theorem spacer_aliasPiece (table : Nat) : Spacer ("t" ++ Nat.repr table) :=
  Spacer.append (by decide) (spacer_repr table)

theorem quotes_now : Quotes (nowPieces dialect) (stringTokens (nowStrings dialect)) := by
  cases dialect with
  | mySql | postgreSql => exact .plain (by decide) .nil
  | sqlite =>
    exact .plain (by decide) (.constant "now" (bare_plain _ _) (.plain (by decide) .nil))

theorem quotes_shift (amount : Int64) (unit : Interval) :
    Quotes (shiftPieces dialect amount unit) (stringTokens (shiftStrings dialect amount unit)) := by
  cases dialect with
  | mySql =>
    have hWords : Spacer ((if amount < 0 then "DATE_SUB" else "DATE_ADD") ++
        "(NOW(), INTERVAL ") := by
      split <;> decide
    have hUnit : Spacer unit.word := by cases unit <;> decide
    exact .plain ((((hWords.append (spacer_repr _)).append (by decide)).append
      hUnit).append (by decide)) .nil
  | postgreSql =>
    have hWords : Spacer ("NOW()" ++ (if amount < 0 then " - " else " + ") ++ "INTERVAL ") := by
      split <;> decide
    exact .plain hWords (.constant _ bare_nil .nil)
  | sqlite =>
    exact .plain (by decide) (.constant "now" (bare_plain _ _) (.plain (by decide)
      (.constant _ (bare_plain _ _) (.plain (by decide) .nil))))

mutual

theorem Expr.quotes_pieces (e : Expr) : Quotes (e.pieces dialect) (e.quotes dialect) := by
  cases e with
  | conj operands =>
    rw [Expr.pieces, Expr.quotes]
    exact .separated (by decide) (quotes_exprs operands)
  | compare op lhs rhs =>
    rw [Expr.pieces, Expr.quotes]
    exact lhs.quotes_pieces.append (.plain (spacer_comparison op) rhs.quotes_pieces)
      (bare_plain _ _)
  | column table name =>
    cases table with
    | none => exact .name name bare_nil .nil
    | some table =>
      exact .plain (spacer_aliasPiece table) (.plain (by decide) (.name name bare_nil .nil))
  | now => exact quotes_now dialect
  | shiftedNow amount unit => exact quotes_shift dialect amount unit
  | inList subject list =>
    cases list with
    | nil => exact .plain (by decide) .nil
    | cons item rest =>
      have hList := Quotes.separated (by decide : Spacer ", ")
        (.cons item.quotes_pieces (quotes_exprs rest))
      rw [Expr.pieces, Expr.quotes]
      exact (subject.quotes_pieces.append (.plain (by decide) hList) (bare_plain _ _)).last
        (by decide)
  | like subject pattern =>
    rw [Expr.pieces, Expr.quotes]
    exact subject.quotes_pieces.more (.plain (by decide) (.param (.string pattern) .nil))
      (bare_plain _ _)
  | literal text => exact .constant text bare_nil .nil
  | value v => exact quotes_value v

theorem quotes_exprs (es : List Expr) :
    List.Forall₂ Quotes (exprsPieces dialect es) (exprsQuotes dialect es) := by
  cases es with
  | nil => exact .nil
  | cons e rest => exact .cons e.quotes_pieces (quotes_exprs rest)

end

theorem quotes_filter (filter : Filter) :
    Quotes (filter.pieces dialect) (filter.quotes dialect) ∧ Bare (filter.pieces dialect) := by
  obtain ⟨_ | e⟩ := filter
  · exact ⟨.nil, bare_nil⟩
  · exact ⟨.plain (by decide) (e.quotes_pieces dialect), bare_plain _ _⟩

theorem quotes_item (item : SelectItem) : Quotes (item.pieces dialect)
    (item.expr.quotes dialect ++ nameTokens [item.name]) :=
  (item.expr.quotes_pieces dialect).append (.plain (by decide) (.name item.name bare_nil .nil))
    (bare_plain _ _)

theorem quotes_items (items : Option (List SelectItem)) : Quotes (itemsPieces dialect items)
    ((items.getD []).flatMap fun item => item.expr.quotes dialect ++ nameTokens [item.name]) := by
  cases items with
  | none => exact .plain (by decide) .nil
  | some items => exact .commas (quotes_item dialect) items

theorem quotes_join (join : Join) : Quotes (join.pieces dialect)
    (nameTokens [join.table] ++ join.condition.quotes dialect) := by
  have hKind : Spacer join.kind.words := by
    cases join.kind <;> decide
  exact .plain hKind (.name join.table (bare_plain _ _) (.plain (by decide)
    (.plain (spacer_aliasPiece _) (.plain (by decide) (join.condition.quotes_pieces dialect)))))

theorem quotes_orderItem (item : OrderItem) :
    Quotes (item.pieces dialect) (item.expr.quotes dialect) := by
  have hExpr := item.expr.quotes_pieces dialect
  rw [OrderItem.pieces]
  obtain _ | _ | _ := item.direction
  · exact (List.append_nil _).symm ▸ hExpr
  · exact hExpr.last (by decide)
  · exact hExpr.last (by decide)

theorem quotes_order (order : List OrderItem) :
    Quotes (orderPieces dialect order) (order.flatMap (·.expr.quotes dialect)) ∧
      Bare (orderPieces dialect order) := by
  cases order with
  | nil => exact ⟨.nil, bare_nil⟩
  | cons item rest =>
    exact ⟨.plain (by decide) (.commas (quotes_orderItem dialect) (item :: rest)), bare_plain _ _⟩

theorem quotes_limit (limit : Option Limit) :
    Quotes (limitPieces limit) [] ∧ Bare (limitPieces limit) := by
  obtain _ | ⟨limit, _ | offset⟩ := limit
  · exact ⟨.nil, bare_nil⟩
  · exact ⟨.plain (Spacer.append (by decide) (spacer_repr _)) .nil, bare_plain _ _⟩
  · exact ⟨.plain (Spacer.append (by decide) (spacer_repr _))
      (.plain (Spacer.append (by decide) (spacer_repr _)) .nil), bare_plain _ _⟩

theorem quotes_query (q : Query) :
    Quotes (q.pieces dialect) ((Statement.query q).quotes dialect) := by
  have hItems : Quotes (.plain "SELECT " :: itemsPieces dialect q.items) _ :=
    .plain (by decide) (quotes_items dialect q.items)
  have hTable : Quotes [.plain " FROM ", .name q.table, .plain " AS ", aliasPiece 0]
      (nameTokens [q.table]) :=
    .plain (by decide) (.name q.table (bare_plain _ _) (.plain (by decide)
      (.plain (spacer_aliasPiece 0) .nil)))
  obtain ⟨hJoins, hBareJoins⟩ := Quotes.flatMap (quotes_join dialect) (fun _ => bare_plain _ _)
    q.joins
  obtain ⟨hFilter, hBareFilter⟩ := quotes_filter dialect q.filter
  obtain ⟨hOrder, hBareOrder⟩ := quotes_order dialect q.order
  obtain ⟨hLimit, hBareLimit⟩ := quotes_limit q.limit
  exact ((((hItems.append hTable (bare_plain _ _)).append hJoins hBareJoins).append hFilter
    hBareFilter).append hOrder hBareOrder).more hLimit hBareLimit

theorem quotes_insert (i : Insert) :
    Quotes (i.pieces dialect) ((Statement.insert i).quotes dialect) := by
  have hColumns : Quotes (commas (i.columns.map ([.name ·]))) (nameTokens i.columns) := by
    have hEach := Quotes.commas (fun column => Quotes.name column bare_nil .nil) i.columns
    rwa [← List.map_eq_flatMap] at hEach
  have hValues : Quotes (.plain ") VALUES (" :: commas (exprsPieces dialect i.values)) _ :=
    .plain (by decide) (.separated (by decide) (quotes_exprs dialect i.values))
  have hRest := (hColumns.append hValues (bare_plain _ _)).last (by decide : Spacer ")")
  exact .plain (by decide) (.name i.table (bare_plain _ _) (.plain (by decide) hRest))

theorem quotes_assignment (a : Assignment) : Quotes (a.pieces dialect)
    (nameTokens [a.column] ++ a.expr.quotes dialect) :=
  .name a.column (bare_plain _ _) (.plain (by decide) (a.expr.quotes_pieces dialect))

theorem quotes_update (u : Update) :
    Quotes (u.pieces dialect) ((Statement.update u).quotes dialect) := by
  have hAssignments := Quotes.commas (quotes_assignment dialect) u.assignments
  obtain ⟨hFilter, hBare⟩ := quotes_filter dialect u.filter
  have hRest := hAssignments.append hFilter hBare
  exact .plain (by decide) (.name u.table (bare_plain _ _) (.plain (by decide) hRest))

theorem quotes_delete (d : Delete) :
    Quotes (d.pieces dialect) ((Statement.delete d).quotes dialect) := by
  obtain ⟨hFilter, hBare⟩ := quotes_filter dialect d.filter
  exact .plain (by decide) (.name d.table hBare hFilter)

theorem Statement.quotes_pieces (s : Statement) :
    Quotes (s.pieces dialect) (s.quotes dialect) := by
  cases s with
  | query q => exact quotes_query dialect q
  | insert i => exact quotes_insert dialect i
  | update u => exact quotes_update dialect u
  | delete d => exact quotes_delete dialect d

/-- Whatever characters names and literals have: the quoted tokens of a bound text are the names
of the statement, its literals and the constants of its dates, in the order in which they are
written. What is outside of the quotes is the same for all statements that are the same but for
names, literals and values. -/
theorem lex_bound (s : Statement) :
    ∃ tokens, lex dialect.nameQuote (s.bound dialect).toList = some tokens ∧
      tokens.filter Token.isQuoted = s.quotes dialect ∧
      ∀ other, s.SameForm (fun _ _ => True) (fun _ _ => True) other →
        ∃ others, lex dialect.nameQuote (other.bound dialect).toList = some others ∧
          others.map Token.hollow = tokens.map Token.hollow := by
  refine ⟨_, (s.quotes_pieces dialect).lex_chars 0, (s.quotes_pieces dialect).filter_pieceTokens 0,
    fun other hSame => ?_⟩
  have hPieces := hSame.pieces dialect fun _ => trivial
  exact ⟨_, (other.quotes_pieces dialect).lex_chars 0, (map_hollow_pieceTokens hPieces 0).symm⟩

/-- Deletes the rows in which the column with the name of the table has a literal text. -/
def deletion (name text : String) : Statement :=
  .delete ⟨name, ⟨some (.compare .equal (.column none name) (.literal text))⟩⟩

/-- A name that ends in the quote of names, and a literal between quotes. -/
theorem lex_deletion :
    (deletion "a'\"" "'b'").SameForm (fun _ _ => True) (fun _ _ => True) (deletion "a" "b") ∧
    ∃ tokens others,
      lex '"' ((deletion "a'\"" "'b'").bound .sqlite).toList = some tokens ∧
      tokens.filter Token.isQuoted =
        [.name ['a', '\'', '"'], .name ['a', '\'', '"'], .string ['\'', 'b', '\'']] ∧
      lex '"' ((deletion "a" "b").bound .sqlite).toList = some others ∧
      others.map Token.hollow = tokens.map Token.hollow := by
  have hSame : (deletion "a'\"" "'b'").SameForm (fun _ _ => True) (fun _ _ => True)
      (deletion "a" "b") :=
    .delete ⟨trivial, .some (.compare (.column none trivial) (.literal trivial))⟩
  obtain ⟨tokens, hLex, hQuotes, hOthers⟩ := lex_bound .sqlite (deletion "a'\"" "'b'")
  obtain ⟨others, hOther, hHollow⟩ := hOthers _ hSame
  exact ⟨hSame, tokens, others, hLex, hQuotes, hOther, hHollow⟩

end RowTree.Sql
