import RowTree.Proofs.Conditions
import RowTree.Proofs.Connectives
import Mathlib.Data.List.Forall2

/-!
# Statements of one form

Two statements are of one form if they are the same up to their values, which are related by `R`,
and their names and constants, which are related by `N`. Then so are their pieces: in particular,
if the names and constants are the same, so is the bound text, and the parameters correspond place
by place.
-/

namespace RowTree

open Schema Sql

/-- Related single values, or lists of one shape with such values in the same places. -/
inductive Value.SameForm (R : Value → Value → Prop) : Value → Value → Prop
  | single {v w : Value} (left : v.isList = false) (right : w.isList = false) (related : R v w) :
      SameForm R v w
  | list {vs ws : List Value} (members : List.Forall₂ (SameForm R) vs ws) :
      SameForm R (.list vs) (.list ws)

variable {R : Value → Value → Prop}

mutual

theorem Value.SameForm.refl (hR : ∀ v, R v v) (v : Value) : v.SameForm R v := by
  cases v with
  | list items => exact .list (sameForm_values hR items)
  | _ => exact .single rfl rfl (hR _)

theorem sameForm_values (hR : ∀ v, R v v) (items : List Value) :
    List.Forall₂ (Value.SameForm R) items items := by
  cases items with
  | nil => exact .nil
  | cons v rest => exact .cons (Value.SameForm.refl hR v) (sameForm_values hR rest)

end

namespace Sql

variable (R) (N : String → String → Prop)

/-- The same expressions, with related values, names and constants in the same places. The pattern
of a `LIKE` is a value. -/
inductive Expr.SameForm : Expr → Expr → Prop
  | conj {es fs : List Expr} (operands : List.Forall₂ SameForm es fs) :
      SameForm (.conj es) (.conj fs)
  | compare {op : Comparison} {lhs lhs' rhs rhs' : Expr} (left : SameForm lhs lhs')
      (right : SameForm rhs rhs') : SameForm (.compare op lhs rhs) (.compare op lhs' rhs')
  | column (table : Option Nat) {name name' : String} (names : N name name') :
      SameForm (.column table name) (.column table name')
  | now : SameForm .now .now
  | shiftedNow (amount : Int64) (unit : Interval) :
      SameForm (.shiftedNow amount unit) (.shiftedNow amount unit)
  | inList {subject subject' : Expr} {list list' : List Expr} (subjects : SameForm subject subject')
      (members : List.Forall₂ SameForm list list') :
      SameForm (.inList subject list) (.inList subject' list')
  | like {subject subject' : Expr} {pattern pattern' : String}
      (subjects : SameForm subject subject')
      (patterns : R (.string pattern) (.string pattern')) :
      SameForm (.like subject pattern) (.like subject' pattern')
  | literal {text text' : String} (texts : N text text') : SameForm (.literal text) (.literal text')
  | value {v w : Value} (values : v.SameForm R w) : SameForm (.value v) (.value w)

def Filter.SameForm (filter other : Filter) : Prop :=
  Option.Rel (Expr.SameForm R N) filter.expr? other.expr?

structure SelectItem.SameForm (item other : SelectItem) : Prop where
  expr : item.expr.SameForm R N other.expr
  name : N item.name other.name

structure Join.SameForm (join other : Join) : Prop where
  kind : join.kind = other.kind
  table : N join.table other.table
  number : join.number = other.number
  condition : join.condition.SameForm R N other.condition

structure OrderItem.SameForm (item other : OrderItem) : Prop where
  expr : item.expr.SameForm R N other.expr
  direction : item.direction = other.direction

structure Assignment.SameForm (a other : Assignment) : Prop where
  column : N a.column other.column
  expr : a.expr.SameForm R N other.expr

structure Query.SameForm (q other : Query) : Prop where
  items : Option.Rel (List.Forall₂ (SelectItem.SameForm R N)) q.items other.items
  table : N q.table other.table
  joins : List.Forall₂ (Join.SameForm R N) q.joins other.joins
  filter : q.filter.SameForm R N other.filter
  order : List.Forall₂ (OrderItem.SameForm R N) q.order other.order
  limit : q.limit = other.limit

structure Insert.SameForm (i other : Insert) : Prop where
  table : N i.table other.table
  columns : List.Forall₂ N i.columns other.columns
  values : List.Forall₂ (Expr.SameForm R N) i.values other.values

structure Update.SameForm (u other : Update) : Prop where
  table : N u.table other.table
  assignments : List.Forall₂ (Assignment.SameForm R N) u.assignments other.assignments
  filter : u.filter.SameForm R N other.filter

structure Delete.SameForm (d other : Delete) : Prop where
  table : N d.table other.table
  filter : d.filter.SameForm R N other.filter

/-- The same statements, with related values, names and constants in the same places. -/
inductive Statement.SameForm : Statement → Statement → Prop
  | query {q q' : Query} (queries : q.SameForm R N q') : SameForm (.query q) (.query q')
  | insert {i i' : Insert} (inserts : i.SameForm R N i') : SameForm (.insert i) (.insert i')
  | update {u u' : Update} (updates : u.SameForm R N u') : SameForm (.update u) (.update u')
  | delete {d d' : Delete} (deletes : d.SameForm R N d') : SameForm (.delete d) (.delete d')

inductive Piece.SameForm : Piece → Piece → Prop
  | plain (text : String) : SameForm (.plain text) (.plain text)
  | name {text text' : String} (related : N text text') : SameForm (.name text) (.name text')
  | constant {text text' : String} (related : N text text') :
      SameForm (.constant text) (.constant text')
  | param {v w : Value} (related : R v w) : SameForm (.param v) (.param w)

abbrev SamePieces : List Piece → List Piece → Prop := List.Forall₂ (Piece.SameForm R N)

variable {R N}

section Pieces

variable {ps qs rs ts : List Piece}

theorem boundText_eq_of_samePieces (dialect : Dialect) (h : SamePieces R Eq ps qs) (bound : Nat) :
    boundText dialect bound ps = boundText dialect bound qs := by
  induction h generalizing bound with
  | nil => rfl
  | cons hPiece _ ih =>
    cases hPiece with
    | plain _ => rw [boundText_plain, boundText_plain, ih]
    | name hName => rw [hName, boundText_name, boundText_name, ih]
    | constant hText => rw [hText, boundText_constant, boundText_constant, ih]
    | param _ => rw [boundText_param, boundText_param, ih]

theorem forall₂_paramsOf (h : SamePieces R N ps qs) :
    List.Forall₂ R (paramsOf ps) (paramsOf qs) := by
  induction h with
  | nil => exact .nil
  | cons hPiece _ ih =>
    cases hPiece with
    | plain _ | name _ | constant _ => exact ih
    | param hRelated => exact .cons hRelated ih

theorem SamePieces.append (h : SamePieces R N ps qs) (hMore : SamePieces R N rs ts) :
    SamePieces R N (ps ++ rs) (qs ++ ts) :=
  List.rel_append h hMore

theorem SamePieces.plain (text : String) (h : SamePieces R N ps qs) :
    SamePieces R N (.plain text :: ps) (.plain text :: qs) :=
  .cons (.plain text) h

theorem SamePieces.name {name name' : String} (hName : N name name') (h : SamePieces R N ps qs) :
    SamePieces R N (.name name :: ps) (.name name' :: qs) :=
  .cons (.name hName) h

theorem SamePieces.last (text : String) : SamePieces R N [.plain text] [.plain text] :=
  .plain text .nil

/-- Pieces without parameters are of the form of their own. -/
theorem SamePieces.refl (hN : ∀ text, N text text) (h : paramsOf ps = []) :
    SamePieces R N ps ps := by
  induction ps with
  | nil => exact .nil
  | cons piece rest ih =>
    cases piece with
    | plain text => exact .cons (.plain text) (ih h)
    | name text => exact .cons (.name (hN text)) (ih h)
    | constant text => exact .cons (.constant (hN text)) (ih h)
    | param v => cases h

theorem SamePieces.separated (sep : String) {parts others : List (List Piece)}
    (h : List.Forall₂ (SamePieces R N) parts others) :
    SamePieces R N (separated sep parts) (separated sep others) := by
  cases h with
  | nil => exact .nil
  | cons hFirst hRest =>
    rw [separated_cons, separated_cons]
    exact hFirst.append (List.rel_flatMap hRest fun _ _ => SamePieces.plain sep)

theorem SamePieces.commas {α : Type} {r : α → α → Prop} {pieces : α → List Piece}
    (hPieces : ∀ {x y}, r x y → SamePieces R N (pieces x) (pieces y)) {xs ys : List α}
    (h : List.Forall₂ r xs ys) :
    SamePieces R N (commas (xs.map pieces)) (commas (ys.map pieces)) :=
  .separated ", " (List.forall₂_map_left_iff.mpr
    (List.forall₂_map_right_iff.mpr (h.imp fun _ _ => hPieces)))

end Pieces

mutual

theorem samePieces_value (v : Value) {w : Value} (h : v.SameForm R w) :
    SamePieces R N (valuePieces v) (valuePieces w) := by
  cases h with
  | single hv hw hRelated =>
    rw [valuePieces_of_isList hv, valuePieces_of_isList hw]
    exact .cons (.param hRelated) .nil
  | @list vs ws hMembers =>
    rw [valuePieces, valuePieces]
    exact ((SamePieces.separated ", " (samePieces_values vs hMembers)).append (.last ")")).plain "("

theorem samePieces_values (vs : List Value) {ws : List Value}
    (h : List.Forall₂ (Value.SameForm R) vs ws) :
    List.Forall₂ (SamePieces R N) (valuesPieces vs) (valuesPieces ws) := by
  cases h with
  | nil => exact .nil
  | @cons v w vs ws hFirst hRest =>
    exact .cons (samePieces_value v hFirst) (samePieces_values vs hRest)

end

variable (dialect : Dialect)

mutual

theorem Expr.SameForm.pieces (hN : ∀ text, N text text) {e f : Expr} (h : e.SameForm R N f) :
    SamePieces R N (e.pieces dialect) (f.pieces dialect) := by
  cases h with
  | @conj es fs hOperands =>
    rw [Expr.pieces, Expr.pieces]
    exact .separated " AND " (samePieces_exprs hN hOperands)
  | compare hLeft hRight =>
    rw [Expr.pieces, Expr.pieces]
    exact (hLeft.pieces hN).append ((hRight.pieces hN).plain _)
  | column table hName =>
    cases table with
    | none => exact .name hName .nil
    | some table => exact .plain _ (.plain "." (.name hName .nil))
  | now => exact .refl hN (paramsOf_nowPieces dialect)
  | shiftedNow amount unit => exact .refl hN (paramsOf_shiftPieces dialect amount unit)
  | @inList subject subject' list list' hSubjects hMembers =>
    cases hMembers with
    | nil => exact .last "1 = 0"
    | cons hFirst hRest =>
      rw [Expr.pieces, Expr.pieces]
      have hList := SamePieces.separated ", " (.cons (hFirst.pieces hN) (samePieces_exprs hN hRest))
      exact ((hSubjects.pieces hN).append (hList.plain " IN (")).append (.last ")")
  | like hSubjects hPatterns =>
    rw [Expr.pieces, Expr.pieces]
    exact (hSubjects.pieces hN).append (.plain " LIKE " (.cons (.param hPatterns) .nil))
  | literal hText => exact .cons (.constant hText) .nil
  | value hValues =>
    rw [Expr.pieces, Expr.pieces]
    exact samePieces_value _ hValues

theorem samePieces_exprs (hN : ∀ text, N text text) {es fs : List Expr}
    (h : List.Forall₂ (Expr.SameForm R N) es fs) :
    List.Forall₂ (SamePieces R N) (exprsPieces dialect es) (exprsPieces dialect fs) := by
  cases h with
  | nil => exact .nil
  | cons hFirst hRest => exact .cons (hFirst.pieces hN) (samePieces_exprs hN hRest)

end

variable (hN : ∀ text, N text text)

include hN

theorem Filter.SameForm.pieces {filter other : Filter} (h : filter.SameForm R N other) :
    SamePieces R N (filter.pieces dialect) (other.pieces dialect) := by
  obtain ⟨e⟩ := filter
  obtain ⟨f⟩ := other
  cases h with
  | none => exact .nil
  | some hExpr => exact (hExpr.pieces dialect hN).plain " WHERE "

theorem SelectItem.SameForm.pieces {item other : SelectItem} (h : item.SameForm R N other) :
    SamePieces R N (item.pieces dialect) (other.pieces dialect) :=
  (h.expr.pieces dialect hN).append (.plain " AS " (.name h.name .nil))

theorem samePieces_items {items others : Option (List SelectItem)}
    (h : Option.Rel (List.Forall₂ (SelectItem.SameForm R N)) items others) :
    SamePieces R N (itemsPieces dialect items) (itemsPieces dialect others) := by
  cases h with
  | none => exact .last "*"
  | some hItems => exact .commas (fun hItem => hItem.pieces dialect hN) hItems

theorem Join.SameForm.pieces {join other : Join} (h : join.SameForm R N other) :
    SamePieces R N (join.pieces dialect) (other.pieces dialect) := by
  rw [Join.pieces, Join.pieces, ← h.kind, ← h.number]
  exact SamePieces.append (.plain _ (.name h.table (.plain " AS " (.plain _ (.last " ON ")))))
    (h.condition.pieces dialect hN)

theorem OrderItem.SameForm.pieces {item other : OrderItem} (h : item.SameForm R N other) :
    SamePieces R N (item.pieces dialect) (other.pieces dialect) := by
  rw [OrderItem.pieces, OrderItem.pieces, ← h.direction]
  refine (h.expr.pieces dialect hN).append ?_
  obtain _ | _ | _ := item.direction
  · exact .nil
  · exact .last " ASC"
  · exact .last " DESC"

theorem samePieces_order {order others : List OrderItem}
    (h : List.Forall₂ (OrderItem.SameForm R N) order others) :
    SamePieces R N (orderPieces dialect order) (orderPieces dialect others) := by
  cases h with
  | nil => exact .nil
  | cons hFirst hRest =>
    exact (SamePieces.commas (fun hItem => hItem.pieces dialect hN) (.cons hFirst hRest)).plain _

theorem Assignment.SameForm.pieces {a other : Assignment} (h : a.SameForm R N other) :
    SamePieces R N (a.pieces dialect) (other.pieces dialect) :=
  ((h.expr.pieces dialect hN).plain " = ").name h.column

theorem Query.SameForm.pieces {q other : Query} (h : q.SameForm R N other) :
    SamePieces R N (q.pieces dialect) (other.pieces dialect) := by
  have hItems : SamePieces R N (.plain "SELECT " :: itemsPieces dialect q.items)
      (.plain "SELECT " :: itemsPieces dialect other.items) :=
    (samePieces_items dialect hN h.items).plain "SELECT "
  have hTable := hItems.append (.plain " FROM " (.name h.table (.plain " AS " (.last "t0"))))
  have hJoins : SamePieces R N (q.joins.flatMap (·.pieces dialect))
      (other.joins.flatMap (·.pieces dialect)) :=
    List.rel_flatMap h.joins fun _ _ hJoin => hJoin.pieces dialect hN
  have hLimit : SamePieces R N (limitPieces q.limit) (limitPieces q.limit) :=
    .refl hN (paramsOf_limit q.limit)
  rw [Query.pieces, Query.pieces, ← h.limit]
  exact (((hTable.append hJoins).append (h.filter.pieces dialect hN)).append
    (samePieces_order dialect hN h.order)).append hLimit

theorem Insert.SameForm.pieces {i other : Insert} (h : i.SameForm R N other) :
    SamePieces R N (i.pieces dialect) (other.pieces dialect) := by
  have hColumns := SamePieces.commas (R := R) (fun hName => .name hName .nil) h.columns
  have hValues := SamePieces.separated ", " (samePieces_exprs dialect hN h.values)
  have hTable : SamePieces R N [.plain "INSERT INTO ", .name i.table, .plain " ("]
      [.plain "INSERT INTO ", .name other.table, .plain " ("] :=
    .plain "INSERT INTO " (.name h.table (.last " ("))
  exact ((hTable.append hColumns).append (hValues.plain ") VALUES (")).append (.last ")")

theorem Update.SameForm.pieces {u other : Update} (h : u.SameForm R N other) :
    SamePieces R N (u.pieces dialect) (other.pieces dialect) := by
  have hTable : SamePieces R N [.plain "UPDATE ", .name u.table, .plain " SET "]
      [.plain "UPDATE ", .name other.table, .plain " SET "] :=
    .plain "UPDATE " (.name h.table (.last " SET "))
  have hAssignments := SamePieces.commas (fun hAssignment =>
    Assignment.SameForm.pieces dialect hN hAssignment) h.assignments
  exact (hTable.append hAssignments).append (h.filter.pieces dialect hN)

theorem Delete.SameForm.pieces {d other : Delete} (h : d.SameForm R N other) :
    SamePieces R N (d.pieces dialect) (other.pieces dialect) :=
  .plain "DELETE FROM " (.name h.table (h.filter.pieces dialect hN))

theorem Statement.SameForm.pieces {s other : Statement} (h : s.SameForm R N other) :
    SamePieces R N (s.pieces dialect) (other.pieces dialect) := by
  cases h with
  | query hQueries => exact hQueries.pieces dialect hN
  | insert hInserts => exact hInserts.pieces dialect hN
  | update hUpdates => exact hUpdates.pieces dialect hN
  | delete hDeletes => exact hDeletes.pieces dialect hN

omit hN

theorem Statement.SameForm.bound_eq {s other : Statement} (h : s.SameForm R Eq other) :
    s.bound dialect = other.bound dialect :=
  boundText_eq_of_samePieces dialect (h.pieces dialect fun _ => rfl) 0

theorem Statement.SameForm.params {s other : Statement} (h : s.SameForm R Eq other) :
    List.Forall₂ R (s.params dialect) (other.params dialect) :=
  forall₂_paramsOf (h.pieces dialect fun _ => rfl)

mutual

theorem Expr.SameForm.refl (hR : ∀ v, R v v) (e : Expr) : e.SameForm R Eq e := by
  cases e with
  | conj operands => exact .conj (sameForm_exprs hR operands)
  | compare op lhs rhs => exact .compare (Expr.SameForm.refl hR lhs) (Expr.SameForm.refl hR rhs)
  | column table name => exact .column table rfl
  | now => exact .now
  | shiftedNow amount unit => exact .shiftedNow amount unit
  | inList subject list => exact .inList (Expr.SameForm.refl hR subject) (sameForm_exprs hR list)
  | like subject pattern => exact .like (Expr.SameForm.refl hR subject) (hR _)
  | literal text => exact .literal rfl
  | value v => exact .value (.refl hR v)

theorem sameForm_exprs (hR : ∀ v, R v v) (es : List Expr) :
    List.Forall₂ (Expr.SameForm R Eq) es es := by
  cases es with
  | nil => exact .nil
  | cons e rest => exact .cons (Expr.SameForm.refl hR e) (sameForm_exprs hR rest)

end

theorem Expr.SameForm.operands {e f : Expr} (h : e.SameForm R N f) :
    List.Forall₂ (Expr.SameForm R N) e.operands f.operands := by
  cases h with
  | conj hOperands => exact hOperands
  | compare hLeft hRight => exact .cons (.compare hLeft hRight) .nil
  | inList hSubjects hMembers => exact .cons (.inList hSubjects hMembers) .nil
  | like hSubjects hPatterns => exact .cons (.like hSubjects hPatterns) .nil
  | value hValues => exact .cons (.value hValues) .nil
  | column table name => exact .cons (.column table name) .nil
  | now => exact .cons .now .nil
  | shiftedNow amount unit => exact .cons (.shiftedNow amount unit) .nil
  | literal text => exact .cons (.literal text) .nil

theorem Expr.SameForm.and {e e' f f' : Expr} (h : e.SameForm R N e') (hMore : f.SameForm R N f') :
    (e.and f).SameForm R N (e'.and f') := by
  rw [Expr.and_eq_conj, Expr.and_eq_conj]
  exact .conj (List.rel_append h.operands hMore.operands)

theorem Filter.SameForm.refl (hR : ∀ v, R v v) (filter : Filter) : filter.SameForm R Eq filter := by
  obtain ⟨_ | e⟩ := filter
  · exact .none
  · exact .some (.refl hR e)

theorem Filter.SameForm.narrow {own filter other : Filter} (hOwn : own.SameForm R N own)
    (h : filter.SameForm R N other) : (own.narrow filter).SameForm R N (own.narrow other) := by
  obtain ⟨own⟩ := own
  obtain ⟨e⟩ := filter
  obtain ⟨f⟩ := other
  cases h with
  | none => exact hOwn
  | some hTheirs =>
    cases hOwn with
    | none => exact .some hTheirs
    | some hMine => exact .some (hMine.and hTheirs)

end Sql

theorem sameForm_query (hR : ∀ v, R v v) (entity : Entity) {filter other : Filter}
    (h : filter.SameForm R Eq other) (page : Option UInt64) :
    (entity.query filter page).SameForm R Eq (entity.query other page) where
  items := by
    change Option.Rel _ (entity.query filter page).items (entity.query filter page).items
    cases (entity.query filter page).items with
    | none => exact .none
    | some items => exact .some (List.forall₂_same.mpr fun item _ => ⟨.refl hR item.expr, rfl⟩)
  table := rfl
  joins := List.forall₂_same.mpr fun join _ => ⟨rfl, rfl, rfl, .refl hR join.condition⟩
  filter := Filter.SameForm.narrow (.refl hR ⟨entity.filter⟩) h
  order := List.forall₂_same.mpr fun item _ => ⟨.refl hR item.expr, rfl⟩
  limit := rfl

end RowTree
