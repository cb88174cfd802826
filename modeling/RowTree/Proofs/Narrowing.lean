import RowTree.Proofs.Built

/-!
# Filters that only narrow

The condition of a query asks for all that the entity's own filter asks for, and for all that the
caller's filter does. Conjunctions are kept flat, so that neither needs parentheses, whatever the
caller's text has in it: the text of the entity's own filter stands unchanged before that of the
caller's.
-/

namespace RowTree

open Schema Sql

namespace Sql

def Expr.isConj : Expr → Bool
  | conj _ => true
  | _ => false

mutual

/-- Whether the expression holds, by what is the case for all that is no conjunction. -/
def Expr.holds (truth : Expr → Bool) : Expr → Bool
  | .conj operands => allHold truth operands
  | e => truth e

def allHold (truth : Expr → Bool) : List Expr → Bool
  | [] => true
  | e :: rest => e.holds truth && allHold truth rest

end

/-- Without an expression nothing is asked for. -/
def Filter.holds (truth : Expr → Bool) (filter : Filter) : Bool :=
  (filter.expr?.map (·.holds truth)).getD true

variable {truth : Expr → Bool}

theorem holds_of_not_conj {e : Expr} (h : e.isConj = false) : e.holds truth = truth e := by
  cases e with
  | conj _ => cases h
  | _ => rfl

theorem allHold_eq_true_iff {es : List Expr} (h : ∀ e ∈ es, e.isConj = false) :
    allHold truth es = true ↔ ∀ e ∈ es, truth e = true := by
  induction es with
  | nil => simp [allHold]
  | cons e rest ih =>
    rw [List.forall_mem_cons] at h
    rw [allHold, Bool.and_eq_true, holds_of_not_conj h.1, ih h.2, List.forall_mem_cons]

/-- Conjunctions have at least one operand, and no conjunctions in them. -/
structure Expr.Flat (e : Expr) : Prop where
  some_operand : e.operands ≠ []
  no_conj : ∀ p ∈ e.operands, p.isConj = false

def Filter.Flat (filter : Filter) : Prop := ∀ e, filter.expr? = some e → e.Flat

theorem Expr.Flat.holds_iff {e : Expr} (h : e.Flat) :
    e.holds truth = true ↔ ∀ p ∈ e.operands, truth p = true := by
  cases e with
  | conj es =>
    rw [Expr.holds]
    exact allHold_eq_true_iff h.no_conj
  | _ => simp [Expr.holds, Expr.operands]

theorem Filter.Flat.holds_iff {filter : Filter} (h : filter.Flat) :
    filter.holds truth = true ↔ ∀ p ∈ filter.operands, truth p = true := by
  obtain ⟨_ | e⟩ := filter
  · simp [Filter.holds, Filter.operands]
  · exact (h e rfl).holds_iff

theorem Filter.Flat.not_conj {filter : Filter} (h : filter.Flat) :
    ∀ p ∈ filter.operands, p.isConj = false := by
  obtain ⟨_ | e⟩ := filter
  · exact fun _ hp => nomatch hp
  · exact (h e rfl).no_conj

theorem Expr.Flat.and {e f : Expr} (he : e.Flat) (hf : f.Flat) : (e.and f).Flat where
  some_operand := by
    rw [Expr.operands_and]
    exact List.append_ne_nil_of_left_ne_nil he.some_operand _
  no_conj := by
    rw [Expr.operands_and]
    exact List.forall_mem_append.mpr ⟨he.no_conj, hf.no_conj⟩

theorem operands_narrow (filter other : Filter) :
    (filter.narrow other).operands = filter.operands ++ other.operands := by
  obtain ⟨_ | e⟩ := other
  · exact (List.append_nil _).symm
  · exact filter.operands_add e

theorem Filter.Flat.narrow {filter other : Filter} (h : filter.Flat) (hOther : other.Flat) :
    (filter.narrow other).Flat := by
  obtain ⟨_ | own⟩ := filter
  · obtain ⟨_ | theirs⟩ := other
    · exact h
    · exact hOther
  · obtain ⟨_ | theirs⟩ := other
    · exact h
    · intro e he
      cases he
      exact (h own rfl).and (hOther theirs rfl)

theorem Expr.flat_of_isPredicate {e : Expr} (h : e.isPredicate = true) : e.isConj = false := by
  cases e with
  | conj _ => cases h
  | _ => rfl

theorem Filter.Regular.flat {filter : Filter} (h : filter.Regular) : filter.Flat := by
  intro e he
  obtain ⟨hSome, hPredicates⟩ := Expr.operands_of_isCondition (h e he)
  exact ⟨hSome, fun p hp => Expr.flat_of_isPredicate (hPredicates p hp)⟩

theorem separated_append {sep : String} {parts others : List (List Piece)} (h : parts ≠ [])
    (hOthers : others ≠ []) :
    separated sep (parts ++ others) = separated sep parts ++ .plain sep :: separated sep others := by
  obtain ⟨part, parts, rfl⟩ := List.exists_cons_of_ne_nil h
  obtain ⟨other, others, rfl⟩ := List.exists_cons_of_ne_nil hOthers
  rw [List.cons_append, separated_cons, separated_cons, separated_cons, List.flatMap_append,
    List.flatMap_cons, List.append_assoc, List.cons_append]

variable (dialect : Dialect)

theorem pieces_and {e f : Expr} (he : e.Flat) (hf : f.Flat) :
    (e.and f).pieces dialect = e.pieces dialect ++ .plain " AND " :: f.pieces dialect := by
  have hLeft : e.operands.map (Expr.pieces dialect) ≠ [] := by simpa using he.some_operand
  have hRight : f.operands.map (Expr.pieces dialect) ≠ [] := by simpa using hf.some_operand
  rw [Expr.pieces_eq_separated, Expr.operands_and, List.map_append, separated_append hLeft hRight,
    ← Expr.pieces_eq_separated, ← Expr.pieces_eq_separated]

theorem boundText_of_no_params {ps : List Piece} (h : paramsOf ps = []) (m n : Nat) :
    boundText dialect m ps = boundText dialect n ps := by
  rw [boundText_eq_inlineText dialect h, boundText_eq_inlineText dialect h]

/-- The query up to its condition. -/
def Query.front (q : Query) : Query := { q with filter := {}, order := [], limit := none }

/-- What comes after the condition. -/
def Query.back (q : Query) : List Piece := orderPieces dialect q.order ++ limitPieces q.limit

theorem pieces_front_back (q : Query) :
    q.pieces dialect = q.front.pieces dialect ++ (q.filter.pieces dialect ++ q.back dialect) := by
  simp [Query.pieces, Query.front, Query.back, Filter.pieces, orderPieces, limitPieces]

theorem values_eq_valuesOfAll_operands (e : Expr) : e.values = valuesOfAll e.operands := by
  cases e with
  | conj es => rw [Expr.values, Expr.operands]
  | _ => simp [Expr.operands, valuesOfAll]

theorem valuesOfAll_eq_nil {es : List Expr} (h : ∀ e ∈ es, e.values = []) :
    valuesOfAll es = [] := by
  induction es with
  | nil => rfl
  | cons e rest ih =>
    rw [List.forall_mem_cons] at h
    rw [valuesOfAll, h.1, ih h.2, List.append_nil]

theorem valuesOfAll_append (es fs : List Expr) :
    valuesOfAll (es ++ fs) = valuesOfAll es ++ valuesOfAll fs := by
  induction es with
  | nil => rfl
  | cons e rest ih => rw [List.cons_append, valuesOfAll, valuesOfAll, ih, List.append_assoc]

theorem values_and (e f : Expr) : (e.and f).values = e.values ++ f.values := by
  rw [values_eq_valuesOfAll_operands, Expr.operands_and, valuesOfAll_append,
    ← values_eq_valuesOfAll_operands, ← values_eq_valuesOfAll_operands]

end Sql

theorem values_of_expr? {field : Field} {e : Expr} (h : field.expr? = some e) : e.values = [] := by
  obtain ⟨_, _, rfl⟩ := Option.map_eq_some_iff.mp h
  rw [Expr.columnOf, Expr.values]

theorem values_term (step : Nat) (term : JoinTerm) : (term.expr step).values = [] := by
  obtain ⟨source, target⟩ := term
  cases source <;> simp [JoinTerm.expr, JoinTerm.sourceExpr, Expr.columnOf, Expr.values]

theorem values_toJoin {step : Step} (h : step.join.terms ≠ []) :
    step.toJoin.condition.values = [] := by
  have hSome : step.join.terms.map (·.expr step.index) ≠ [] := by simpa using h
  have hTerms : ∀ p ∈ step.join.terms.map (·.expr step.index), p.values = [] := by
    intro p hp
    obtain ⟨term, _, rfl⟩ := List.mem_map.mp hp
    exact values_term step.index term
  obtain ⟨e, hJoins⟩ := FilterText.exists_joins hSome
  rw [Step.toJoin, FilterText.all_eq_some_iff.mpr hJoins, Option.getD_some]
  generalize step.join.terms.map (·.expr step.index) = predicates at hTerms hJoins
  cases hJoins with
  | bare => exact hTerms _ (List.mem_singleton_self _)
  | all =>
    rw [Expr.values]
    exact valuesOfAll_eq_nil hTerms

section Queries

variable {top model : Model} (hTop : top.Compiled) (hWithin : top.Within model)
include hTop hWithin

/-- There are no parameters before the condition of a query. -/
theorem params_front (caller : Filter) (page : Option UInt64) (dialect : Dialect) :
    (Statement.query (model.entity.query caller page).front).params dialect = [] := by
  have hItems : ((model.entity.query caller page).items.getD []).flatMap (·.expr.values) = [] := by
    rw [List.flatMap_eq_nil_iff]
    intro item hItem
    have hSelected : item ∈ model.entity.fields.filterMap Field.selectItem? := by
      simp only [Entity.query] at hItem
      split at hItem
      · cases hItem
      · exact hItem
    obtain ⟨field, _, hSelect⟩ := List.mem_filterMap.mp hSelected
    obtain ⟨e, hExpr, rfl⟩ := Option.map_eq_some_iff.mp hSelect
    exact values_of_expr? hExpr
  have hJoins : (model.entity.query caller page).joins.flatMap (·.condition.values) = [] := by
    rw [List.flatMap_eq_nil_iff]
    intro join hJoin
    obtain ⟨step, hStep, rfl⟩ := List.mem_map.mp hJoin
    exact values_toJoin (hTop.terms_ne_nil hWithin step hStep)
  rw [params_eq_values, Statement.values, Query.front, hItems, hJoins]
  rfl

end Queries

theorem params_back (entity : Entity) (caller : Filter) (page : Option UInt64) (dialect : Dialect) :
    paramsOf ((entity.query caller page).back dialect) = [] := by
  rw [Query.back, paramsOf_append, paramsOf_order, paramsOf_limit, List.append_nil,
    List.flatMap_eq_nil_iff]
  intro item hItem
  obtain ⟨entry, _, hOrder⟩ := List.mem_filterMap.mp hItem
  obtain ⟨e, hExpr, rfl⟩ := Option.map_eq_some_iff.mp hOrder
  obtain ⟨_, _, hColumn⟩ := Option.bind_eq_some_iff.mp hExpr
  exact values_of_expr? hColumn

theorem CallerFilter.flat {entity : Entity} {caller : Filter} (h : CallerFilter entity caller) :
    caller.Flat := by
  cases h with
  | none => exact fun _ he => nomatch he
  | text hRead => exact (FilterText.regular_read hRead).flat
  | links values hLink =>
    rintro e ⟨rfl⟩
    exact ⟨List.cons_ne_nil _ _, fun p hp => by cases List.mem_singleton.mp hp; rfl⟩

theorem bound_of_front {q : Query} {dialect : Dialect}
    (hFront : (Statement.query q.front).params dialect = [])
    (hBack : paramsOf (q.back dialect) = []) :
    (Statement.query q).bound dialect = (Statement.query q.front).bound dialect ++
      boundText dialect 0 (q.filter.pieces dialect) ++ boundText dialect 0 (q.back dialect) := by
  have hNone : paramsOf (q.front.pieces dialect) = [] := hFront
  rw [Statement.bound, Statement.pieces, pieces_front_back, boundText_append, boundText_append, hNone,
    boundText_of_no_params dialect hBack _ 0, ← String.append_assoc]
  rfl

theorem boundText_and (dialect : Dialect) {own theirs : Expr} (hOwn : own.Flat)
    (hTheirs : theirs.Flat) :
    boundText dialect 0 ((own.and theirs).pieces dialect) =
      boundText dialect 0 (own.pieces dialect) ++ " AND " ++
        boundText dialect own.values.length (theirs.pieces dialect) := by
  rw [pieces_and dialect hOwn hTheirs, boundText_append, boundText_plain, paramsOf_pieces,
    Nat.zero_add, String.append_assoc]

/-- The condition of a query holds exactly when all predicates of the entity's own filter do, and
all of the caller's. If there are both, the text has the one and then the other between parts that
the caller has no say in, and the parameters are theirs in the same order. -/
theorem caller_filter_narrows {top model : Model} (hTop : top.Compiled)
    (hWithin : top.Within model) {caller : Filter} (hCaller : CallerFilter model.entity caller)
    (page : Option UInt64) :
    (∀ p ∈ Filter.operands ⟨model.entity.filter⟩ ++ caller.operands, p.isConj = false) ∧
    (∀ truth : Expr → Bool, (model.entity.query caller page).filter.holds truth = true ↔
      (∀ p ∈ Filter.operands ⟨model.entity.filter⟩, truth p = true) ∧
        ∀ p ∈ caller.operands, truth p = true) ∧
    ∀ own theirs, model.entity.filter = some own → caller.expr? = some theirs →
      ∀ dialect : Dialect,
        (Statement.query (model.entity.query caller page)).bound dialect =
          (Statement.query (model.entity.query {} none).front).bound dialect ++
            (" WHERE " ++ (boundText dialect 0 (own.pieces dialect) ++ " AND " ++
              boundText dialect own.values.length (theirs.pieces dialect))) ++
            boundText dialect 0 ((model.entity.query {} page).back dialect) ∧
        (Statement.query (model.entity.query caller page)).params dialect =
          own.values ++ theirs.values := by
  have hOwn : Filter.Flat ⟨model.entity.filter⟩ := (hTop.regular_filter hWithin).flat
  have hWhole : (model.entity.query caller page).filter.Flat := hOwn.narrow hCaller.flat
  refine ⟨List.forall_mem_append.mpr ⟨hOwn.not_conj, hCaller.flat.not_conj⟩, ?_, ?_⟩
  · intro truth
    rw [hWhole.holds_iff, Entity.query, operands_narrow, List.forall_mem_append]
  · intro own theirs hFilter hTheirs dialect
    have hBoth : (model.entity.query caller page).filter = ⟨some (own.and theirs)⟩ := by
      simp [Entity.query, Filter.narrow, Filter.add, hFilter, hTheirs]
    have hFront := params_front hTop hWithin caller page dialect
    have hBack := params_back model.entity caller page dialect
    constructor
    · rw [bound_of_front hFront hBack, hBoth, ← boundText_and dialect (hOwn own hFilter)
        (hCaller.flat theirs hTheirs)]
      rfl
    · have hParams : (Statement.query (model.entity.query caller page)).params dialect =
          (Statement.query (model.entity.query caller page).front).params dialect ++
            paramsOf ((model.entity.query caller page).filter.pieces dialect ++
              (model.entity.query caller page).back dialect) := by
        rw [Statement.params, Statement.pieces, pieces_front_back]
        exact List.filterMap_append
      rw [hParams, hFront, hBoth, List.nil_append, paramsOf_append, hBack, List.append_nil,
        paramsOf_filter, ← values_and]
      rfl

namespace Sales

/-- The sales after the seventh. -/
def lateDefinition : EntityDefinition where
  name := some "Late"
  basisTable := some "Sale"
  fields := [field "SaleID", field "CustomerID"]
  filter := some "SaleID > 7"

def lateOnly : Expr := .compare .greater (.columnOf 0 "id") (.string "7")

def late : Entity where
  name := "Late"
  basisTable := ⟨"Sale", "sales"⟩
  fields := [{ name := "SaleID", column := some ⟨"SaleID", "id"⟩ },
    { name := "CustomerID", column := some ⟨"CustomerID", "customer_id"⟩ }]
  key := some 0
  filter := some lateOnly

/-- What a caller asks for, with a quote, a parenthesis and a connective in the value. -/
def intrusion : String := "CustomerID = 1' OR SaleID = 2) --"

def intruding : Expr :=
  .conj [.compare .equal (.columnOf 0 "customer_id") (.string "1'"),
    .compare .equal (.columnOf 0 "id") (.string "2) --")]

theorem read_late : FilterText.read "SaleID > 7" late.fields = .ok (some lateOnly) := by
  have hPieces : FilterText.pieces "SaleID > 7".toList = ["SaleID > 7".toList] :=
    FilterText.pieces_of_none (by decide)
  have hTrim : Text.trim "SaleID > 7".toList = "SaleID > 7".toList := by decide
  rw [FilterText.read, hTrim, hPieces]
  rfl

theorem read_intrusion : FilterText.read intrusion late.fields = .ok (some intruding) := by
  have hTrim : Text.trim intrusion.toList = intrusion.toList := by decide
  have hFirst : FilterText.firstCut? intrusion.toList =
      some ("CustomerID = 1'".toList, "SaleID = 2) --".toList) := by decide
  have hLast : FilterText.firstCut? "SaleID = 2) --".toList = none := by decide
  rw [FilterText.read, hTrim, FilterText.pieces_of_some hFirst, FilterText.pieces_of_none hLast]
  rfl

theorem bind_late : Compile.bind catalog (.node lateDefinition []) = .ok (.node late []) := by
  have hEntity : Compile.bindEntity catalog lateDefinition = .ok late := by
    refine Outcome.bind_eq_ok.mpr ⟨_, rfl, Outcome.bind_eq_ok.mpr ⟨_, rfl, ?_⟩⟩
    refine Outcome.bind_eq_ok.mpr ⟨_, rfl, Outcome.bind_eq_ok.mpr ⟨_, rfl, ?_⟩⟩
    refine Outcome.bind_eq_ok.mpr ⟨late.fields, rfl, Outcome.bind_eq_ok.mpr ⟨_, rfl, ?_⟩⟩
    refine Outcome.bind_eq_ok.mpr ⟨some lateOnly, ?_, rfl⟩
    exact Compile.bindFilter_eq_ok_iff.mpr (.some read_late)
  exact Compile.bind_eq_ok_iff.mpr ⟨late, [], hEntity, rfl, rfl⟩

theorem intrusion_narrows : (Model.node late []).Compiled ∧
    (Model.node late []).Within (.node late []) ∧ CallerFilter late ⟨some intruding⟩ ∧
    (∀ truth : Expr → Bool, (late.query ⟨some intruding⟩ none).filter.holds truth = true ↔
      (∀ p ∈ [lateOnly], truth p = true) ∧ ∀ p ∈ intruding.operands, truth p = true) ∧
    (Statement.query (late.query ⟨some intruding⟩ none)).bound .postgreSql =
      (Statement.query (late.query {} none).front).bound .postgreSql ++
        (" WHERE " ++ ("t0.\"id\" > $1" ++ " AND " ++ "t0.\"customer_id\" = $2 AND t0.\"id\" = $3")) ++
        "" := by
  have hCompiled : (Model.node late []).Compiled := ⟨catalog, .node lateDefinition [], bind_late⟩
  have hCaller : CallerFilter late ⟨some intruding⟩ := .text read_intrusion
  obtain ⟨_, hHolds, hText⟩ := caller_filter_narrows hCompiled .self hCaller none
  exact ⟨hCompiled, .self, hCaller, hHolds, (hText lateOnly intruding rfl rfl .postgreSql).1⟩

end Sales

end RowTree
