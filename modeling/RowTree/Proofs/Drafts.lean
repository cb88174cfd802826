import RowTree.Proofs.Lexing
import RowTree.Sql.Draft

/-!
# What is written is what the pieces say

Whatever stands on a draft before, writing adds what the pieces say to its text, and their values to
its parameters unless values are written in place. So the text for execution and the text for
reading, which come of two runs, differ in the places of the parameters alone. Nothing is written if
there is a shift by weeks whose days cannot be counted in 64 bits, which happens for SQLite only.
-/

namespace RowTree.Sql

/-- Only weeks of SQLite are counted in other units, seven of them for one. -/
def shiftFits (dialect : Dialect) (amount : Int64) (unit : Interval) : Bool :=
  match dialect, unit with
  | .sqlite, .week => decide (amount.toInt.natAbs * 7 < UInt64.size)
  | _, _ => true

mutual

/-- All shifts that are written can be counted. An empty list of an `IN` is written without its
subject. -/
def Expr.fits (dialect : Dialect) : Expr → Bool
  | .conj operands => allFit dialect operands
  | .compare _ lhs rhs => lhs.fits dialect && rhs.fits dialect
  | .shiftedNow amount unit => shiftFits dialect amount unit
  | .inList _ [] => true
  | .inList subject (item :: rest) =>
    subject.fits dialect && (item.fits dialect && allFit dialect rest)
  | .like subject _ => subject.fits dialect
  | .column _ _ | .now | .literal _ | .value _ => true

def allFit (dialect : Dialect) : List Expr → Bool
  | [] => true
  | e :: rest => e.fits dialect && allFit dialect rest

end

def Filter.fits (dialect : Dialect) (filter : Filter) : Bool :=
  filter.expr?.all (·.fits dialect)

def Statement.fits (dialect : Dialect) : Statement → Bool
  | query q =>
    (q.items.getD []).all (·.expr.fits dialect) && (q.joins.all (·.condition.fits dialect) &&
      (q.filter.fits dialect && q.order.all (·.expr.fits dialect)))
  | insert i => allFit dialect i.values
  | update u => u.assignments.all (·.expr.fits dialect) && u.filter.fits dialect
  | delete d => d.filter.fits dialect

/-- The draft with what the pieces say. -/
def Draft.add (style : Style) (draft : Draft) (pieces : List Piece) : Draft :=
  if style.inline then { draft with text := draft.text ++ inlineText style.dialect pieces }
  else {
    text := draft.text ++ boundText style.dialect draft.params.length pieces
    params := draft.params ++ paramsOf pieces }

/-- To every draft the pieces are added, or nothing comes of any. -/
def Adds (style : Style) (writing : Writing Unit) (fits : Bool) (pieces : List Piece) : Prop :=
  ∀ draft, (writing.run style).run draft =
    if fits = true then some ((), draft.add style pieces) else none

theorem inlineText_append (dialect : Dialect) (ps qs : List Piece) :
    inlineText dialect (ps ++ qs) = inlineText dialect ps ++ inlineText dialect qs := by
  rw [inlineText, List.map_append, String.join_append]
  rfl

namespace Draft

variable (style : Style) (draft : Draft) (ps qs : List Piece)

theorem add_nil : draft.add style [] = draft := by
  cases hInline : style.inline <;> simp [add, hInline, inlineText]

theorem add_append : draft.add style (ps ++ qs) = (draft.add style ps).add style qs := by
  cases hInline : style.inline with
  | true => simp [add, hInline, inlineText_append, String.append_assoc]
  | false => simp [add, hInline, boundText_append, String.append_assoc]

/-- Without parameters the two ways of writing are one. -/
theorem add_of_no_params {ps : List Piece} (h : paramsOf ps = []) :
    draft.add style ps = { draft with text := draft.text ++ boundText style.dialect 0 ps } := by
  rw [boundText_eq_inlineText style.dialect h]
  cases hInline : style.inline with
  | true => simp [add, hInline]
  | false => simp [add, hInline, h, boundText_eq_inlineText style.dialect h]

end Draft

variable {style : Style} {writing next : Writing Unit} {fits fits' : Bool} {ps qs : List Piece}

namespace Adds

theorem nothing : Adds style (pure ()) true [] := by
  intro draft
  rw [if_pos rfl, Draft.add_nil]
  rfl

theorem bind (h : Adds style writing fits ps) (hNext : Adds style next fits' qs) :
    Adds style (writing >>= fun _ => next) (fits && fits') (ps ++ qs) := by
  intro draft
  rw [ReaderT.run_bind, StateT.run_bind, h draft]
  cases fits with
  | false => rfl
  | true =>
    rw [if_pos rfl, Bool.true_and, Draft.add_append, ← hNext]
    rfl

/-- What comes after a part that always fits decides whether all of it does. -/
theorem andThen (h : Adds style writing true ps) (hNext : Adds style next fits qs) :
    Adds style (writing >>= fun _ => next) fits (ps ++ qs) := h.bind hNext

theorem askStyle {write : Style → Writing Unit} (h : Adds style (write style) fits ps) :
    Adds style (readThe Style >>= write) fits ps := h

theorem of_eq (h : Adds style writing fits ps) (hFits : fits = fits') (hPieces : ps = qs) :
    Adds style writing fits' qs := hFits ▸ hPieces ▸ h

/-- Only the text counts of pieces that are no parameters. -/
theorem reword (h : Adds style writing fits ps) (hps : paramsOf ps = []) (hqs : paramsOf qs = [])
    (hText : chars style.dialect 0 ps = chars style.dialect 0 qs) : Adds style writing fits qs := by
  intro draft
  rw [h draft, Draft.add_of_no_params style draft hps, Draft.add_of_no_params style draft hqs,
    String.toList_inj.mp hText]

theorem plain (text : String) : Adds style (put text) true [.plain text] := by
  intro draft
  rw [if_pos rfl, Draft.add_of_no_params style draft rfl, boundText_plain, boundText_nil,
    String.append_empty]
  rfl

theorem constant (text : String) : Adds style (putConstant text) true [.constant text] :=
  (plain (quoted '\'' text)).reword rfl rfl rfl

theorem name (name : String) : Adds style (putName name) true [.name name] := by
  have hText : Adds style (put (quoted style.dialect.nameQuote name)) true [.name name] :=
    (plain _).reword rfl rfl rfl
  exact askStyle hText

/-- A value in place, or a placeholder for it with the value among the parameters. -/
theorem scalar (v : Value) :
    Adds style (do
      if (← readThe Style).inline then put (literalText v)
      else putPlaceholder (← push v)) true [.param v] := by
  apply askStyle
  intro draft
  rw [if_pos rfl, Draft.add]
  split
  · have hText : inlineText style.dialect [.param v] = literalText v := by
      rw [inlineText_cons]
      exact String.append_empty
    rw [hText]
    rfl
  · have hRun : ((push v >>= putPlaceholder).run style).run draft =
        some ((), {
          text := draft.text ++ style.dialect.placeholder (draft.params ++ [v]).length
          params := draft.params ++ [v] }) := rfl
    rw [boundText_param, boundText_nil, String.append_empty]
    rw [List.length_append, List.length_singleton] at hRun
    exact hRun

variable {α : Type} {write : α → Writing Unit} {fitsOf : α → Bool} {piecesOf : α → List Piece}

theorem parts {separator : String} {xs : List α}
    (h : ∀ x ∈ xs, Adds style (write x) (fitsOf x) (piecesOf x)) :
    Adds style (putParts separator separator (xs.map write)) (xs.all fitsOf)
      (xs.flatMap fun x => .plain separator :: piecesOf x) := by
  induction xs with
  | nil => exact nothing
  | cons x rest ih =>
    rw [List.forall_mem_cons] at h
    exact (plain separator).andThen (h.1.bind (ih h.2))

theorem separated (separator : String) {xs : List α}
    (h : ∀ x ∈ xs, Adds style (write x) (fitsOf x) (piecesOf x)) :
    Adds style (putSeparated separator (xs.map write)) (xs.all fitsOf)
      (separated separator (xs.map piecesOf)) := by
  cases xs with
  | nil => exact nothing
  | cons x rest =>
    rw [List.forall_mem_cons] at h
    rw [separated_map_cons]
    have hFirst : Adds style (put "") true [] := (plain "").reword rfl rfl rfl
    exact hFirst.andThen (h.1.bind (parts h.2))

theorem each {xs : List α} (h : ∀ x ∈ xs, Adds style (write x) (fitsOf x) (piecesOf x)) :
    Adds style (xs.forM write) (xs.all fitsOf) (xs.flatMap piecesOf) := by
  induction xs with
  | nil => exact nothing
  | cons x rest ih =>
    rw [List.forall_mem_cons] at h
    exact h.1.bind (ih h.2)

end Adds

theorem allFit_eq_all (dialect : Dialect) (es : List Expr) :
    allFit dialect es = es.all (·.fits dialect) := by
  induction es with
  | nil => rfl
  | cons e rest ih => rw [allFit, List.all_cons, ih]

mutual

theorem adds_value (style : Style) (v : Value) : Adds style (putValue v) true (valuePieces v) := by
  cases v with
  | list items =>
    have hItems := Adds.separated ", " (adds_values style items)
    rw [List.all_eq_true.mpr fun _ _ => rfl] at hItems
    rw [putValue, valuePieces, putValues_eq_map, valuesPieces_eq_map]
    exact (Adds.plain "(").andThen (hItems.andThen (.plain ")"))
  | null | bool _ | int _ | nat _ | float _ | string _ => exact .scalar _

theorem adds_values (style : Style) (items : List Value) :
    ∀ v ∈ items, Adds style (putValue v) true (valuePieces v) := by
  cases items with
  | nil => exact nofun
  | cons v rest => exact List.forall_mem_cons.mpr ⟨adds_value style v, adds_values style rest⟩

end

theorem adds_now (style : Style) : Adds style putNow true (nowPieces style.dialect) := by
  obtain ⟨dialect, inline⟩ := style
  cases dialect with
  | mySql | postgreSql => exact .plain "NOW()"
  | sqlite => exact (Adds.plain "datetime('now')").reword rfl rfl rfl

theorem doubled_measure (n : Nat) {word : List Char} (hWord : '\'' ∉ word) :
    doubled '\'' (Nat.toDigits 10 n ++ ' ' :: word) = Nat.toDigits 10 n ++ ' ' :: word := by
  have hNumber := (spacer_repr n).2 '\''
  rw [Nat.toList_repr] at hNumber
  refine doubled_of_clear ?_
  rw [List.mem_append, List.mem_cons, not_or, not_or]
  exact ⟨fun hMem => hNumber hMem List.mem_cons_self, by decide, hWord⟩

theorem toNat_natAbs (amount : Int64) :
    amount.toInt.natAbs.toUInt64.toNat = amount.toInt.natAbs := by
  have hLow := amount.le_toInt
  have hHigh := amount.toInt_lt
  rw [UInt64.toNat_ofNat']
  omega

/-- The count of SQLite is exact if there is one. -/
theorem sqliteShift?_cases (amount : Int64) (unit : Interval) :
    (shiftFits .sqlite amount unit = false ∧
      sqliteShift? amount.toInt.natAbs.toUInt64 unit = none) ∨
    (shiftFits .sqlite amount unit = true ∧ ∃ count : UInt64,
      sqliteShift? amount.toInt.natAbs.toUInt64 unit =
        some (count, (sqliteShift amount.toInt.natAbs unit).2) ∧
      count.toNat = (sqliteShift amount.toInt.natAbs unit).1) := by
  have hSize := toNat_natAbs amount
  cases unit with
  | week =>
    rw [shiftFits, sqliteShift?, hSize]
    by_cases hFits : amount.toInt.natAbs * 7 < UInt64.size
    · refine .inr ⟨decide_eq_true hFits, _, if_pos hFits, ?_⟩
      rw [UInt64.toNat_mul, hSize]
      exact Nat.mod_eq_of_lt hFits
    · exact .inl ⟨decide_eq_false hFits, if_neg hFits⟩
  | day | month | year => exact .inr ⟨rfl, _, rfl, hSize⟩

theorem adds_shift (style : Style) (amount : Int64) (unit : Interval) :
    Adds style (putShift amount unit) (shiftFits style.dialect amount unit)
      (shiftPieces style.dialect amount unit) := by
  obtain ⟨dialect, inline⟩ := style
  apply Adds.askStyle
  cases dialect with
  | mySql =>
    refine ((Adds.plain _).andThen (.plain _)).reword rfl rfl ?_
    rw [toNat_natAbs]
    simp [shiftPieces]
  | postgreSql =>
    have hWord : '\'' ∉ unit.word.toList := by cases unit <;> decide
    refine ((Adds.plain _).andThen ((Adds.plain _).andThen (.plain _))).reword rfl rfl ?_
    rw [toNat_natAbs]
    simp [shiftPieces, chars_constant, doubled_measure _ hWord]
  | sqlite =>
    obtain ⟨hFits, hNone⟩ | ⟨hFits, count, hCount, hExact⟩ := sqliteShift?_cases amount unit
    · rw [hFits]
      dsimp only
      rw [hNone]
      exact fun _ => rfl
    · have hWord : '\'' ∉ (sqliteShift amount.toInt.natAbs unit).2.toList := by
        cases unit <;> simp [sqliteShift]
      have hNil : doubled '\'' [] = [] := rfl
      rw [hFits]
      dsimp only
      rw [hCount]
      refine ((Adds.plain _).andThen ((Adds.plain _).andThen (.plain _))).reword rfl rfl ?_
      by_cases hBack : amount < 0 <;>
        simp [shiftPieces, hBack, hExact, chars_constant, hNil, doubled_cons,
          doubled_measure _ hWord]

mutual

theorem adds_expr (style : Style) (e : Expr) :
    Adds style e.write (e.fits style.dialect) (e.pieces style.dialect) := by
  cases e with
  | conj operands =>
    rw [Expr.write, Expr.fits, Expr.pieces, writeAll_eq_map, allFit_eq_all, exprsPieces_eq_map]
    exact .separated " AND " (adds_exprs style operands)
  | compare op lhs rhs =>
    rw [Expr.write, Expr.fits, Expr.pieces]
    exact (adds_expr style lhs).bind ((Adds.plain _).andThen (adds_expr style rhs))
  | column table name =>
    cases table with
    | none => exact .name name
    | some table => exact (Adds.plain _).andThen ((Adds.plain ".").andThen (.name name))
  | now => exact adds_now style
  | shiftedNow amount unit => exact adds_shift style amount unit
  | inList subject list =>
    cases list with
    | nil => exact .plain "1 = 0"
    | cons item rest =>
      have hMembers := Adds.separated ", "
        (List.forall_mem_cons.mpr ⟨adds_expr style item, adds_exprs style rest⟩)
      rw [Expr.write, Expr.fits, Expr.pieces, writeAll_eq_map, allFit_eq_all, exprsPieces_eq_map]
      refine ((adds_expr style subject).bind
        ((Adds.plain " IN (").andThen (hMembers.bind (.plain ")")))).of_eq ?_ ?_
      · rw [Bool.and_true, List.all_cons]
      · simp [commas]
  | like subject pattern =>
    refine ((adds_expr style subject).bind
      ((Adds.plain " LIKE ").andThen (adds_value style (.string pattern)))).of_eq ?_ rfl
    rw [Bool.and_true, Expr.fits]
  | literal text => exact .constant text
  | value v => exact adds_value style v

theorem adds_exprs (style : Style) (es : List Expr) :
    ∀ e ∈ es, Adds style e.write (e.fits style.dialect) (e.pieces style.dialect) := by
  cases es with
  | nil => exact nofun
  | cons e rest => exact List.forall_mem_cons.mpr ⟨adds_expr style e, adds_exprs style rest⟩

end

theorem shiftFits_of_ne_sqlite {dialect : Dialect} (h : dialect ≠ .sqlite) (amount : Int64)
    (unit : Interval) : shiftFits dialect amount unit = true := by
  cases dialect with
  | sqlite => exact absurd rfl h
  | mySql | postgreSql => rfl

mutual

theorem Expr.fits_of_ne_sqlite {dialect : Dialect} (h : dialect ≠ .sqlite) (e : Expr) :
    e.fits dialect = true := by
  cases e with
  | conj operands => exact allFit_of_ne_sqlite h operands
  | compare op lhs rhs =>
    rw [Expr.fits, lhs.fits_of_ne_sqlite h, rhs.fits_of_ne_sqlite h, Bool.and_self]
  | shiftedNow amount unit => exact shiftFits_of_ne_sqlite h amount unit
  | inList subject list =>
    cases list with
    | nil => rfl
    | cons item rest =>
      rw [Expr.fits, subject.fits_of_ne_sqlite h, item.fits_of_ne_sqlite h,
        allFit_of_ne_sqlite h rest, Bool.and_self, Bool.and_self]
  | like subject pattern => exact subject.fits_of_ne_sqlite h
  | column _ _ | now | literal _ | value _ => rfl

theorem allFit_of_ne_sqlite {dialect : Dialect} (h : dialect ≠ .sqlite) (es : List Expr) :
    allFit dialect es = true := by
  cases es with
  | nil => rfl
  | cons e rest => rw [allFit, e.fits_of_ne_sqlite h, allFit_of_ne_sqlite h rest, Bool.and_self]

end

theorem Statement.fits_of_ne_sqlite {dialect : Dialect} (h : dialect ≠ .sqlite) (s : Statement) :
    s.fits dialect = true := by
  have hEach {α : Type} (expr : α → Expr) (xs : List α) :
      (xs.all fun x => (expr x).fits dialect) = true :=
    List.all_eq_true.mpr fun x _ => (expr x).fits_of_ne_sqlite h
  have hFilter (filter : Filter) : filter.fits dialect = true := by
    obtain ⟨_ | e⟩ := filter
    · rfl
    · exact e.fits_of_ne_sqlite h
  cases s with
  | query q => rw [fits, hEach, hEach, hEach, hFilter, Bool.and_self, Bool.and_self, Bool.and_self]
  | insert i => exact allFit_of_ne_sqlite h i.values
  | update u => rw [fits, hEach, hFilter, Bool.and_self]
  | delete d => exact hFilter d.filter

section Clauses

variable (style : Style)

theorem adds_filter (filter : Filter) :
    Adds style filter.write (filter.fits style.dialect) (filter.pieces style.dialect) := by
  obtain ⟨_ | e⟩ := filter
  · exact .nothing
  · exact (Adds.plain " WHERE ").andThen (adds_expr style e)

theorem adds_item (item : SelectItem) :
    Adds style item.write (item.expr.fits style.dialect) (item.pieces style.dialect) :=
  ((adds_expr style item.expr).bind ((Adds.plain " AS ").andThen (.name item.name))).of_eq
    (Bool.and_true _) rfl

theorem adds_items (items : Option (List SelectItem)) :
    Adds style (putItems items) ((items.getD []).all (·.expr.fits style.dialect))
      (itemsPieces style.dialect items) := by
  cases items with
  | none => exact .plain "*"
  | some items => exact .separated ", " fun item _ => adds_item style item

theorem adds_join (join : Join) :
    Adds style join.write (join.condition.fits style.dialect) (join.pieces style.dialect) :=
  (Adds.plain join.kind.words).andThen ((Adds.name join.table).andThen ((Adds.plain " AS ").andThen
    ((Adds.plain _).andThen ((Adds.plain " ON ").andThen (adds_expr style join.condition)))))

theorem adds_orderItem (item : OrderItem) :
    Adds style item.write (item.expr.fits style.dialect) (item.pieces style.dialect) := by
  have hExpr := adds_expr style item.expr
  obtain ⟨e, _ | _ | _⟩ := item
  · exact (hExpr.bind .nothing).of_eq (Bool.and_true _) rfl
  · exact (hExpr.bind (.plain " ASC")).of_eq (Bool.and_true _) rfl
  · exact (hExpr.bind (.plain " DESC")).of_eq (Bool.and_true _) rfl

theorem adds_order (order : List OrderItem) :
    Adds style (putOrder order) (order.all (·.expr.fits style.dialect))
      (orderPieces style.dialect order) := by
  cases order with
  | nil => exact .nothing
  | cons item rest =>
    exact (Adds.plain " ORDER BY ").andThen
      (.separated ", " fun item _ => adds_orderItem style item)

theorem adds_limit (limit : Option Limit) :
    Adds style (putLimit limit) true (limitPieces limit) := by
  obtain _ | ⟨_, _ | _⟩ := limit
  · exact .nothing
  · exact (Adds.plain _).andThen .nothing
  · exact (Adds.plain _).andThen (.plain _)

theorem adds_assignment (a : Assignment) :
    Adds style a.write (a.expr.fits style.dialect) (a.pieces style.dialect) :=
  (Adds.name a.column).andThen ((Adds.plain " = ").andThen (adds_expr style a.expr))

theorem adds_columns (columns : List String) :
    Adds style (putSeparated ", " (columns.map putName)) true
      (commas (columns.map ([.name ·]))) := by
  have hNames : ∀ column ∈ columns, Adds style (putName column) true [.name column] :=
    fun column _ => .name column
  exact (Adds.separated ", " hNames).of_eq (List.all_eq_true.mpr fun _ _ => rfl) rfl

theorem adds_statement (s : Statement) :
    Adds style s.write (s.fits style.dialect) (s.pieces style.dialect) := by
  cases s with
  | query q =>
    have hTail := (adds_filter style q.filter).bind
      ((adds_order style q.order).bind (adds_limit style q.limit))
    have hJoins := Adds.each fun join (_ : join ∈ q.joins) => adds_join style join
    refine ((Adds.plain "SELECT ").andThen ((adds_items style q.items).bind
      ((Adds.plain " FROM ").andThen ((Adds.name q.table).andThen ((Adds.plain " AS ").andThen
        ((Adds.plain _).andThen (hJoins.bind hTail))))))).of_eq ?_ ?_
    · rw [Bool.and_true, Statement.fits]
    · simp [Statement.pieces, Query.pieces, aliasPiece]
  | insert i =>
    have hValues := Adds.separated ", " (adds_exprs style i.values)
    rw [← writeAll_eq_map, ← allFit_eq_all, ← exprsPieces_eq_map] at hValues
    refine ((Adds.plain "INSERT INTO ").andThen ((Adds.name i.table).andThen
      ((Adds.plain " (").andThen ((adds_columns style i.columns).andThen
        ((Adds.plain ") VALUES (").andThen (hValues.bind (.plain ")"))))))).of_eq ?_ ?_
    · rw [Bool.and_true, Statement.fits]
    · simp [Statement.pieces, Insert.pieces, commas]
  | update u =>
    have hAssignments := Adds.separated ", "
      fun a (_ : a ∈ u.assignments) => adds_assignment style a
    refine ((Adds.plain "UPDATE ").andThen ((Adds.name u.table).andThen
      ((Adds.plain " SET ").andThen (hAssignments.bind (adds_filter style u.filter))))).of_eq rfl ?_
    simp [Statement.pieces, Update.pieces, commas]
  | delete d =>
    exact (Adds.plain "DELETE FROM ").andThen
      ((Adds.name d.table).andThen (adds_filter style d.filter))

end Clauses

namespace Statement

variable (dialect : Dialect) (s : Statement)

/-- What is written for execution is the bound text with the parameters of the pieces. -/
theorem draft?_eq :
    s.draft? dialect = if s.fits dialect = true then some ⟨s.bound dialect, s.params dialect⟩
      else none := by
  rw [draft?, adds_statement ⟨dialect, false⟩ s {}]
  split
  · rw [Option.map_some, Draft.add, if_neg Bool.false_ne_true]
    exact congrArg some (congrArg (Draft.mk · _) String.empty_append)
  · rfl

theorem inline?_eq :
    s.inline? dialect = if s.fits dialect = true then some (s.inline dialect) else none := by
  rw [inline?, adds_statement ⟨dialect, true⟩ s {}]
  split
  · rw [Option.map_some, Draft.add, if_pos rfl]
    exact congrArg some String.empty_append
  · rfl

end Statement

end RowTree.Sql
