import RowTree.Sql.Text

/-!
# Parameters and their places

The parameters of a statement are its single values, in the order in which they are written, and
the same in every dialect. The bound text of pieces has a placeholder in the place of each of them
and the text for reading has the value there; in all else the two texts are the same.
-/

namespace RowTree

mutual

/-- The value itself, or the members of a list and of the lists in it. -/
def Value.scalars : Value → List Value
  | .list items => Value.scalarsOfAll items
  | v => [v]

def Value.scalarsOfAll : List Value → List Value
  | [] => []
  | v :: rest => v.scalars ++ Value.scalarsOfAll rest

end

mutual

theorem Value.isList_of_mem_scalars (v : Value) : ∀ s ∈ v.scalars, s.isList = false := by
  cases v with
  | list items => exact Value.isList_of_mem_scalarsOfAll items
  | _ =>
    intro s hs
    cases List.mem_singleton.mp hs
    rfl

theorem Value.isList_of_mem_scalarsOfAll (items : List Value) :
    ∀ s ∈ Value.scalarsOfAll items, s.isList = false := by
  cases items with
  | nil => exact fun _ hs => nomatch hs
  | cons v rest =>
    intro s hs
    rcases List.mem_append.mp hs with hs | hs
    · exact Value.isList_of_mem_scalars v s hs
    · exact Value.isList_of_mem_scalarsOfAll rest s hs

end

namespace Sql

mutual

def Expr.values : Expr → List Value
  | .conj operands => valuesOfAll operands
  | .compare _ lhs rhs => lhs.values ++ rhs.values
  | .inList _ [] => []
  | .inList subject (item :: rest) => subject.values ++ (item.values ++ valuesOfAll rest)
  | .like subject pattern => subject.values ++ [.string pattern]
  | .value v => v.scalars
  | .column _ _ | .now | .shiftedNow _ _ | .literal _ => []

def valuesOfAll : List Expr → List Value
  | [] => []
  | e :: rest => e.values ++ valuesOfAll rest

end

def Filter.values (filter : Filter) : List Value := (filter.expr?.map Expr.values).getD []

/-- The single values of a statement in the order in which they are written. -/
def Statement.values : Statement → List Value
  | query q =>
    (q.items.getD []).flatMap (·.expr.values) ++ q.joins.flatMap (·.condition.values)
      ++ q.filter.values ++ q.order.flatMap (·.expr.values)
  | insert i => valuesOfAll i.values
  | update u => u.assignments.flatMap (·.expr.values) ++ u.filter.values
  | delete d => d.filter.values

mutual

theorem Expr.isList_of_mem_values (e : Expr) : ∀ v ∈ e.values, v.isList = false := by
  cases e with
  | conj operands => exact isList_of_mem_valuesOfAll operands
  | compare op lhs rhs =>
    exact List.forall_mem_append.mpr ⟨isList_of_mem_values lhs, isList_of_mem_values rhs⟩
  | inList subject list =>
    cases list with
    | nil => exact fun _ hv => nomatch hv
    | cons item rest =>
      exact List.forall_mem_append.mpr ⟨isList_of_mem_values subject, List.forall_mem_append.mpr
        ⟨isList_of_mem_values item, isList_of_mem_valuesOfAll rest⟩⟩
  | like subject pattern =>
    exact List.forall_mem_append.mpr ⟨isList_of_mem_values subject, by simp [Value.isList]⟩
  | value v => exact v.isList_of_mem_scalars
  | column _ _ | now | shiftedNow _ _ | literal _ => exact fun _ hv => nomatch hv

theorem Expr.isList_of_mem_valuesOfAll (es : List Expr) :
    ∀ v ∈ valuesOfAll es, v.isList = false := by
  cases es with
  | nil => exact fun _ hv => nomatch hv
  | cons e rest =>
    exact List.forall_mem_append.mpr ⟨isList_of_mem_values e, isList_of_mem_valuesOfAll rest⟩

end

theorem isList_of_mem_flatMap {α : Type} {expr : α → Expr} {xs : List α} :
    ∀ v ∈ xs.flatMap fun x => (expr x).values, v.isList = false := by
  intro v hv
  obtain ⟨x, _, hv⟩ := List.mem_flatMap.mp hv
  exact (expr x).isList_of_mem_values v hv

theorem Filter.isList_of_mem_values (filter : Filter) :
    ∀ v ∈ filter.values, v.isList = false := by
  obtain ⟨_ | e⟩ := filter
  · exact fun _ hv => nomatch hv
  · exact e.isList_of_mem_values

theorem Statement.isList_of_mem_values (s : Statement) : ∀ v ∈ s.values, v.isList = false := by
  cases s with
  | query q =>
    simp only [Statement.values, List.forall_mem_append]
    exact ⟨⟨⟨isList_of_mem_flatMap, isList_of_mem_flatMap⟩, q.filter.isList_of_mem_values⟩,
      isList_of_mem_flatMap⟩
  | insert i => exact Expr.isList_of_mem_valuesOfAll i.values
  | update u =>
    exact List.forall_mem_append.mpr ⟨isList_of_mem_flatMap, u.filter.isList_of_mem_values⟩
  | delete d => exact d.filter.isList_of_mem_values

def paramsOf (pieces : List Piece) : List Value := pieces.filterMap Piece.param?

section ParamsOf

variable (ps qs : List Piece) (text : String) (v : Value)

@[simp] theorem paramsOf_nil : paramsOf [] = [] := rfl

@[simp] theorem paramsOf_plain : paramsOf (.plain text :: ps) = paramsOf ps := rfl

@[simp] theorem paramsOf_name : paramsOf (.name text :: ps) = paramsOf ps := rfl

@[simp] theorem paramsOf_constant : paramsOf (.constant text :: ps) = paramsOf ps := rfl

@[simp] theorem paramsOf_param : paramsOf (.param v :: ps) = v :: paramsOf ps := rfl

@[simp] theorem paramsOf_append : paramsOf (ps ++ qs) = paramsOf ps ++ paramsOf qs :=
  List.filterMap_append

@[simp] theorem paramsOf_flatMap {α : Type} (pieces : α → List Piece) (xs : List α) :
    paramsOf (xs.flatMap pieces) = xs.flatMap fun x => paramsOf (pieces x) := by
  induction xs with
  | nil => rfl
  | cons x rest ih => rw [List.flatMap_cons, List.flatMap_cons, paramsOf_append, ih]

@[simp] theorem paramsOf_separated (parts : List (List Piece)) :
    paramsOf (separated text parts) = parts.flatMap paramsOf := by
  induction parts with
  | nil => rfl
  | cons part rest ih =>
    cases rest with
    | nil => simp [separated]
    | cons next others =>
      rw [separated] at ih ⊢
      rw [List.intercalate_cons_cons, paramsOf_append, ih]
      simp

end ParamsOf

mutual

theorem paramsOf_valuePieces (v : Value) : paramsOf (valuePieces v) = v.scalars := by
  cases v with
  | list items => simp [valuePieces, commas, Value.scalars, flatMap_valuesPieces items]
  | _ => rfl

theorem flatMap_valuesPieces (items : List Value) :
    (valuesPieces items).flatMap paramsOf = Value.scalarsOfAll items := by
  cases items with
  | nil => rfl
  | cons v rest =>
    rw [valuesPieces, List.flatMap_cons, paramsOf_valuePieces v, flatMap_valuesPieces rest,
      Value.scalarsOfAll]

end

variable (dialect : Dialect)

theorem paramsOf_nowPieces : paramsOf (nowPieces dialect) = [] := by
  cases dialect <;> rfl

theorem paramsOf_shiftPieces (amount : Int64) (unit : Interval) :
    paramsOf (shiftPieces dialect amount unit) = [] := by
  cases dialect <;> rfl

mutual

theorem paramsOf_pieces (e : Expr) : paramsOf (e.pieces dialect) = e.values := by
  cases e with
  | conj operands => rw [Expr.pieces, paramsOf_separated, flatMap_exprsPieces operands, Expr.values]
  | compare op lhs rhs =>
    rw [Expr.pieces, paramsOf_append, paramsOf_plain, paramsOf_pieces lhs, paramsOf_pieces rhs,
      Expr.values]
  | column table name => cases table <;> rfl
  | now => exact paramsOf_nowPieces dialect
  | shiftedNow amount unit => exact paramsOf_shiftPieces dialect amount unit
  | inList subject list =>
    cases list with
    | nil => rfl
    | cons item rest =>
      simp [Expr.pieces, commas, Expr.values, paramsOf_pieces subject, paramsOf_pieces item,
        flatMap_exprsPieces rest]
  | like subject pattern =>
    rw [Expr.pieces, paramsOf_append, paramsOf_pieces subject, Expr.values]
    rfl
  | literal text => rfl
  | value v => exact paramsOf_valuePieces v

theorem flatMap_exprsPieces (es : List Expr) :
    (exprsPieces dialect es).flatMap paramsOf = valuesOfAll es := by
  cases es with
  | nil => rfl
  | cons e rest =>
    rw [exprsPieces, List.flatMap_cons, paramsOf_pieces e, flatMap_exprsPieces rest, valuesOfAll]

end

theorem paramsOf_filter (filter : Filter) : paramsOf (filter.pieces dialect) = filter.values := by
  obtain ⟨_ | e⟩ := filter
  · rfl
  · exact paramsOf_pieces dialect e

theorem paramsOf_items (items : Option (List SelectItem)) :
    paramsOf (itemsPieces dialect items) = (items.getD []).flatMap (·.expr.values) := by
  cases items with
  | none => rfl
  | some items =>
    simp [itemsPieces, commas, List.flatMap_map, SelectItem.pieces, paramsOf_pieces]

theorem paramsOf_join (join : Join) :
    paramsOf (join.pieces dialect) = join.condition.values := by
  simp [Join.pieces, aliasPiece, paramsOf_pieces]

theorem paramsOf_orderItem (item : OrderItem) :
    paramsOf (item.pieces dialect) = item.expr.values := by
  obtain ⟨e, _ | _ | _⟩ := item <;> simp [OrderItem.pieces, paramsOf_pieces]

theorem paramsOf_order (order : List OrderItem) :
    paramsOf (orderPieces dialect order) = order.flatMap (·.expr.values) := by
  cases order with
  | nil => rfl
  | cons item rest =>
    simp [orderPieces, commas, List.flatMap_map, paramsOf_orderItem]

theorem paramsOf_limit (limit : Option Limit) : paramsOf (limitPieces limit) = [] := by
  obtain _ | ⟨_, _ | _⟩ := limit <;> rfl

theorem params_eq_values (s : Statement) : s.params dialect = s.values := by
  change paramsOf (s.pieces dialect) = s.values
  cases s with
  | query q =>
    simp [Statement.pieces, Query.pieces, Statement.values, aliasPiece, paramsOf_items,
      paramsOf_join, paramsOf_filter, paramsOf_order, paramsOf_limit]
  | insert i =>
    simp [Statement.pieces, Insert.pieces, Statement.values, commas, List.flatMap_map,
      flatMap_exprsPieces]
  | update u =>
    simp [Statement.pieces, Update.pieces, Statement.values, commas, List.flatMap_map,
      Assignment.pieces, paramsOf_pieces, paramsOf_filter]
  | delete d => simp [Statement.pieces, Delete.pieces, Statement.values, paramsOf_filter]

/-- The text has the fills in their order between the segments, of which there is one more. -/
inductive Woven : List String → List String → String → Prop
  | last (segment : String) : Woven [segment] [] segment
  | fill {segments fills : List String} {text : String} (segment fill : String)
      (rest : Woven segments fills text) :
      Woven (segment :: segments) (fill :: fills) (segment ++ (fill ++ text))

theorem Woven.front {segment text : String} {segments fills : List String}
    (h : Woven (segment :: segments) fills text) (more : String) :
    Woven ((more ++ segment) :: segments) fills (more ++ text) := by
  cases h with
  | last => exact .last _
  | fill _ fill rest =>
    rw [← String.append_assoc]
    exact .fill _ fill rest

section BoundText

variable (bound : Nat) (text : String) (v : Value) (ps qs : List Piece)

@[simp] theorem boundText_nil : boundText dialect bound [] = "" := rfl

@[simp] theorem boundText_plain :
    boundText dialect bound (.plain text :: ps) = text ++ boundText dialect bound ps := rfl

@[simp] theorem boundText_name : boundText dialect bound (.name text :: ps) =
    quoted dialect.nameQuote text ++ boundText dialect bound ps := rfl

@[simp] theorem boundText_constant : boundText dialect bound (.constant text :: ps) =
    quoted '\'' text ++ boundText dialect bound ps := rfl

@[simp] theorem boundText_param : boundText dialect bound (.param v :: ps) =
    dialect.placeholder (bound + 1) ++ boundText dialect (bound + 1) ps := rfl

theorem boundText_append : boundText dialect bound (ps ++ qs) =
    boundText dialect bound ps ++ boundText dialect (bound + (paramsOf ps).length) qs := by
  induction ps generalizing bound with
  | nil => simp
  | cons piece rest ih =>
    cases piece with
    | param v =>
      have hCount : bound + 1 + (paramsOf rest).length = bound + ((paramsOf rest).length + 1) := by
        omega
      simp [ih, hCount, String.append_assoc]
    | plain t | name t | constant t => simp [ih, String.append_assoc]

end BoundText

/-- The placeholders of `count` parameters after the first `bound` ones. -/
def Dialect.placeholders (bound count : Nat) : List String :=
  (List.range' (bound + 1) count).map dialect.placeholder

theorem inlineText_cons (piece : Piece) (ps : List Piece) :
    inlineText dialect (piece :: ps) = piece.text dialect ++ inlineText dialect ps := by
  rw [inlineText, List.map_cons, String.join_cons]
  rfl

/-- Without parameters the two texts are one. -/
theorem boundText_eq_inlineText {ps : List Piece} (h : paramsOf ps = []) (bound : Nat) :
    boundText dialect bound ps = inlineText dialect ps := by
  induction ps with
  | nil => rfl
  | cons piece rest ih =>
    rw [inlineText_cons]
    cases piece with
    | param v => cases h
    | plain t | name t | constant t => exact congrArg _ (ih h)

theorem woven_pieces (ps : List Piece) (bound : Nat) : ∃ segment segments,
    Woven (segment :: segments) (dialect.placeholders bound (paramsOf ps).length)
      (boundText dialect bound ps) ∧
    Woven (segment :: segments) ((paramsOf ps).map literalText) (inlineText dialect ps) := by
  induction ps generalizing bound with
  | nil => exact ⟨"", [], .last "", .last ""⟩
  | cons piece rest ih =>
    rw [inlineText_cons]
    cases piece with
    | param v =>
      obtain ⟨segment, segments, hBound, hInline⟩ := ih (bound + 1)
      -- The segment in front of the first parameter is empty, and its place is the first one.
      refine ⟨"", segment :: segments, ?_, ?_⟩
      · rw [paramsOf_param, List.length_cons, Dialect.placeholders, List.range'_succ,
          List.map_cons, boundText, ← String.empty_append (s := dialect.placeholder _ ++ _)]
        exact .fill "" _ hBound
      · rw [paramsOf_param, List.map_cons, ← String.empty_append (s := Piece.text _ _ ++ _)]
        exact .fill "" _ hInline
    | plain t | name t | constant t =>
      obtain ⟨segment, segments, hBound, hInline⟩ := ih bound
      exact ⟨_, segments, hBound.front _, hInline.front _⟩

end Sql

end RowTree
