import RowTree.Proofs.Connectives
import RowTree.Proofs.Unambiguous
import RowTree.Statements.Write

/-!
# Built statements

What the rows of a compiled model are read and written with is regular: conditions are made of
predicates between terms, whatever a filter text says, and there is always something to select,
to join on and to assign. So the text of such a statement says all that the statement does.
-/

namespace RowTree

open Schema Sql

namespace Sql

theorem isCondition_all {predicates : List Expr} (h : ∀ p ∈ predicates, p.isPredicate = true)
    {e : Expr} (hAll : Expr.all predicates = some e) : e.isCondition = true := by
  rcases predicates with _ | ⟨first, _ | ⟨second, rest⟩⟩
  · cases hAll
  · cases hAll
    have hOnly := h e (List.mem_singleton_self _)
    cases e with
    | conj _ => cases hOnly
    | _ => exact hOnly
  · cases hAll
    rw [Expr.isCondition, Bool.and_eq_true]
    exact ⟨decide_eq_true (by simp), List.all_eq_true.mpr h⟩

theorem isCondition_and {e f : Expr} (he : e.isCondition = true) (hf : f.isCondition = true) :
    (e.and f).isCondition = true := by
  obtain ⟨hSome, hLeft⟩ := Expr.operands_of_isCondition he
  obtain ⟨hOther, hRight⟩ := Expr.operands_of_isCondition hf
  have hLength : 2 ≤ (e.operands ++ f.operands).length := by
    have hLeftLength := List.length_pos_of_ne_nil hSome
    have hRightLength := List.length_pos_of_ne_nil hOther
    rw [List.length_append]
    omega
  rw [Expr.and_eq_conj, Expr.isCondition, Bool.and_eq_true]
  exact ⟨decide_eq_true hLength,
    List.all_eq_true.mpr (List.forall_mem_append.mpr ⟨hLeft, hRight⟩)⟩

theorem Filter.Regular.narrow {filter other : Filter} (h : filter.Regular)
    (hOther : other.Regular) : (filter.narrow other).Regular := by
  obtain ⟨_ | own⟩ := filter
  · obtain ⟨_ | theirs⟩ := other
    · exact h
    · exact hOther
  · obtain ⟨_ | theirs⟩ := other
    · exact h
    · intro e he
      cases he
      exact isCondition_and (h own rfl) (hOther theirs rfl)

end Sql

theorem isTerm_of_expr? {field : Field} {e : Expr} (h : field.expr? = some e) :
    e.isTerm = true := by
  obtain ⟨_, _, rfl⟩ := Option.map_eq_some_iff.mp h
  rfl

theorem isTerm_of_field? {fields : List Field} {name : String} {e : Expr}
    (h : (findField? fields name).bind Field.expr? = some e) : e.isTerm = true := by
  obtain ⟨_, _, hExpr⟩ := Option.bind_eq_some_iff.mp h
  exact isTerm_of_expr? hExpr

namespace FilterText

theorem isPredicate_compare_date {column e : Expr} (hColumn : column.isTerm = true)
    {comparison : Comparison} {text : List Char}
    (h : (date text).map (.compare comparison column) = .ok e) : e.isPredicate = true := by
  cases hText : date text with
  | error problem =>
    rw [hText] at h
    cases h
  | ok moment =>
    rw [hText] at h
    cases h
    rcases date_eq_ok hText with rfl | ⟨amount, unit, rfl⟩ <;>
      exact Bool.and_eq_true_iff.mpr ⟨hColumn, rfl⟩

theorem isPredicate_predicate {column e : Expr} (hColumn : column.isTerm = true) {op : Operator}
    {text : List Char} (h : predicate column op text = .ok e) : e.isPredicate = true := by
  cases op with
  | before => exact isPredicate_compare_date hColumn h
  | after => exact isPredicate_compare_date hColumn h
  | inList =>
    cases h
    rw [Expr.isPredicate, hColumn]
    simp [Text.split_ne_nil, Expr.string, Expr.isTerm, Value.isList]
  | equal | greater | less =>
    cases h
    exact Bool.and_eq_true_iff.mpr ⟨hColumn, rfl⟩
  | contains | beginsWith | endsWith =>
    cases h
    exact hColumn

theorem isPredicate_readClause {fields : List Field} {text : List Char} {e : Expr}
    (h : readClause fields text = .ok e) : e.isPredicate = true := by
  unfold readClause at h
  split at h
  · cases h
  · split at h
    · cases h
    · rename_i hColumn
      exact isPredicate_predicate (isTerm_of_field? hColumn) h

theorem regular_read {text : String} {fields : List Field} {filter : Option Expr}
    (h : read text fields = .ok filter) : Sql.Filter.Regular ⟨filter⟩ := by
  rintro e rfl
  unfold read at h
  dsimp only at h
  split at h
  · cases h
  · split at h
    · rename_i predicates hAll
      refine isCondition_all ?_ (Except.ok.inj h)
      intro p hp
      obtain ⟨_, _, hClause⟩ := Outcome.exists_of_mem_left (Outcome.mapM_eq_ok.mp hAll).flip hp
      exact isPredicate_readClause hClause
    · cases h

end FilterText

namespace Compile

theorem StepBound.terms_ne_nil {catalog : Catalog} {scope : Scope} {d : StepDefinition}
    {step : Step} (h : StepBound catalog scope d step) : step.join.terms ≠ [] := by
  obtain ⟨_, _, _, _, _, _, hJoin⟩ := h.join
  obtain ⟨join, _, _, hPairs, hTerms⟩ := hJoin.join
  intro hNil
  rw [hNil, List.forall₂_nil_right_iff] at hTerms
  exact hPairs hTerms

theorem StepsBound.terms_ne_nil {catalog : Catalog} {scope last : Scope}
    {ds : List StepDefinition} (h : StepsBound catalog scope ds last)
    (hScope : ∀ step ∈ scope.steps, step.join.terms ≠ []) :
    ∀ step ∈ last.steps, step.join.terms ≠ [] := by
  induction h with
  | nil => exact hScope
  | cons hStep _ _ ih =>
    apply ih
    intro step hMem
    rw [Scope.steps, List.map_append, List.mem_append] at hMem
    rcases hMem with hMem | hMem
    · exact hScope step hMem
    · cases List.mem_singleton.mp hMem
      exact hStep.terms_ne_nil

end Compile

section Compiled

open Compile

variable {top model : Model}

/-- An entity's own filter was read from a text. -/
theorem Schema.Model.Compiled.regular_filter (hTop : top.Compiled) (hWithin : top.Within model) :
    Filter.Regular ⟨model.entity.filter⟩ := by
  obtain ⟨_, own, _, _, entity, _, hBound, hEntity⟩ := hTop.exists_entityBound hWithin
  have hFilter := hBound.filter
  rw [hEntity]
  dsimp only
  generalize entity.filter = filter, own.filter = text at hFilter
  cases hFilter with
  | none => exact fun _ he => nomatch he
  | some hRead => exact FilterText.regular_read hRead

theorem Schema.Model.Compiled.terms_ne_nil (hTop : top.Compiled) (hWithin : top.Within model) :
    ∀ step ∈ model.entity.steps, step.join.terms ≠ [] := by
  obtain ⟨_, _, _, _, _, _, hBound, hEntity⟩ := hTop.exists_entityBound hWithin
  rw [hEntity, hBound.entity_eq]
  exact hBound.steps.terms_ne_nil (fun _ hStep => nomatch hStep)

end Compiled

theorem isPredicate_term (step : Nat) (term : JoinTerm) : (term.expr step).isPredicate = true := by
  obtain ⟨source, target⟩ := term
  cases source <;> rfl

theorem isCondition_toJoin {step : Step} (h : step.join.terms ≠ []) :
    step.toJoin.condition.isCondition = true := by
  have hSome : step.join.terms.map (·.expr step.index) ≠ [] := by simpa using h
  obtain ⟨e, he⟩ := FilterText.exists_joins hSome
  rw [← FilterText.all_eq_some_iff] at he
  rw [Step.toJoin, he, Option.getD_some]
  refine isCondition_all ?_ he
  intro p hp
  obtain ⟨term, _, rfl⟩ := List.mem_map.mp hp
  exact isPredicate_term step.index term

theorem regular_query {top model : Model} (hTop : top.Compiled) (hWithin : top.Within model)
    {filter : Filter} (hFilter : filter.Regular) (page : Option UInt64) :
    (model.entity.query filter page).Regular where
  items := by
    intro list hList
    simp only [Entity.query] at hList
    split at hList
    · cases hList
    · rename_i hSome
      cases hList
      refine ⟨List.isEmpty_iff.not.mp hSome, ?_⟩
      intro item hItem
      obtain ⟨field, _, hSelect⟩ := List.mem_filterMap.mp hItem
      obtain ⟨e, hExpr, rfl⟩ := Option.map_eq_some_iff.mp hSelect
      exact isTerm_of_expr? hExpr
  joins := by
    intro join hJoin
    obtain ⟨step, hStep, rfl⟩ := List.mem_map.mp hJoin
    exact isCondition_toJoin (hTop.terms_ne_nil hWithin step hStep)
  filter := (hTop.regular_filter hWithin).narrow hFilter
  order := by
    intro item hItem
    obtain ⟨entry, _, hOrder⟩ := List.mem_filterMap.mp hItem
    obtain ⟨e, hExpr, rfl⟩ := Option.map_eq_some_iff.mp hOrder
    exact isTerm_of_field? hExpr

theorem regular_links {entity : Entity} {link : ParentLink} {column : Expr} {values : List Value}
    (hLink : linkColumn entity = .ok (link, column)) (hSome : values ≠ [])
    (hSingle : ∀ v ∈ values, v.isList = false) :
    Filter.Regular ⟨some (.inList column (values.map .value))⟩ := by
  have hColumn : column.isTerm = true := by
    unfold linkColumn at hLink
    split at hLink
    · cases hLink
    · split at hLink
      · cases hLink
      · rename_i hField
        cases hLink
        exact isTerm_of_field? hField
  rintro e ⟨rfl⟩
  have hMembers : (values.map Expr.value).all Expr.isTerm = true := by
    rw [List.all_map, List.all_eq_true]
    intro v hv
    rw [Function.comp_apply, Expr.isTerm, hSingle v hv, Bool.not_false]
  have hList : (values.map Expr.value).isEmpty = false := by simpa using hSome
  change (column.isTerm && (!(values.map Expr.value).isEmpty && _)) = true
  rw [hColumn, hList, hMembers]
  rfl

/-- What tells the row apart and all of its data are single values. -/
structure Row.SingleValued (row : Row) : Prop where
  id : ∀ v, row.id = some v → v.isList = false
  tempId : ∀ v, row.tempId = some v → v.isList = false
  data : ∀ entry ∈ row.data, entry.2.isList = false

namespace Row.SingleValued

variable {row : Row}

theorem get? (h : row.SingleValued) {field : String} {v : Value}
    (hValue : Entries.get? row.data field = some v) : v.isList = false :=
  h.data (field, v) (Entries.mem_of_get?_eq_some hValue)

theorem get (h : row.SingleValued) (field : String) : (row.get field).isList = false := by
  unfold Row.get
  cases hValue : Entries.get? row.data field with
  | none => rfl
  | some v => exact h.get? hValue

end Row.SingleValued

theorem isTerm_present {value : Option Value} (hSingle : ∀ v, value = some v → v.isList = false)
    {e : Expr} (he : (Value.present? value).map .value = some e) : e.isTerm = true := by
  obtain ⟨v, hPresent, rfl⟩ := Option.map_eq_some_iff.mp he
  rw [Expr.isTerm, hSingle v (Option.filter_eq_some_iff.mp hPresent).1, Bool.not_false]

section Written

variable {row : Row} (hRow : row.SingleValued)
include hRow

theorem isTerm_inserted {field : Field} {e : Expr} (h : field.inserted? row = some e) :
    e.isTerm = true := by
  have hOwn : ∀ v, some (row.get field.name) = some v → v.isList = false := by
    rintro v ⟨rfl⟩
    exact hRow.get field.name
  unfold Field.inserted? at h
  split at h
  · refine isTerm_present ?_ h
    cases hId : row.tempId with
    | none => exact hOwn
    | some id =>
      rintro v ⟨rfl⟩
      exact hRow.tempId id hId
  · cases h
    rfl
  · split at h
    · exact isTerm_present hOwn h
    · cases h

theorem isTerm_updated {field : Field} {e : Expr} (h : field.updated? row = some e) :
    e.isTerm = true := by
  unfold Field.updated? at h
  split at h
  · cases h
    rfl
  · split at h
    · obtain ⟨v, hValue, rfl⟩ := Option.map_eq_some_iff.mp h
      rw [Expr.isTerm, hRow.get? hValue, Bool.not_false]
    · cases h

theorem regular_keyFilter {entity : Entity} {filter : Filter}
    (h : entity.keyFilter row = .ok filter) : filter.Regular := by
  obtain ⟨_, id, _, _, hId, _, rfl⟩ := Entity.keyFilter_eq_ok_iff.mp h
  rintro e ⟨rfl⟩
  have hSingle := hRow.id id (Option.filter_eq_some_iff.mp hId).1
  change (true && !id.isList) = true
  rw [hSingle]
  rfl

theorem regular_insert (entity : Entity) : ∀ e ∈ (entity.insert row).values, e.isTerm = true := by
  intro e he
  obtain ⟨⟨_, _⟩, hPair, rfl⟩ := List.mem_map.mp he
  obtain ⟨entry, _, hInserted⟩ := List.mem_filterMap.mp hPair
  obtain ⟨_, hValue, hEntry⟩ := Option.map_eq_some_iff.mp hInserted
  cases hEntry
  exact isTerm_inserted hRow hValue

theorem regular_update {entity : Entity} {u : Update} (h : entity.update row = .ok (some u)) :
    u.Regular := by
  obtain ⟨filter, hFilter, h⟩ := Outcome.bind_eq_ok.mp h
  dsimp only at h
  split at h
  · cases h
  · rename_i hSome
    cases h
    refine ⟨List.isEmpty_iff.not.mp hSome, ?_, regular_keyFilter hRow hFilter⟩
    intro a ha
    obtain ⟨entry, _, hUpdated⟩ := List.mem_filterMap.mp ha
    obtain ⟨_, hValue, rfl⟩ := Option.map_eq_some_iff.mp hUpdated
    exact isTerm_updated hRow hValue

theorem regular_delete {entity : Entity} {d : Delete} (h : entity.delete row = .ok d) :
    d.filter.Regular := by
  obtain ⟨filter, hFilter, h⟩ := Outcome.bind_eq_ok.mp h
  cases h
  exact regular_keyFilter hRow hFilter

end Written

/-- The statements with which the rows of compiled models are read and written. -/
inductive Built : Statement → Prop
  | text {top model : Model} {text : String} {filter : Option Expr} (compiled : top.Compiled)
      (within : top.Within model)
      (filter_read : FilterText.read text model.entity.fields = .ok filter) (page : Option UInt64) :
      Built (.query (model.entity.query ⟨filter⟩ page))
  | links {top model : Model} {link : ParentLink} {column : Expr} {values : List Value}
      (compiled : top.Compiled) (within : top.Within model)
      (linked : linkColumn model.entity = .ok (link, column)) (some_values : values ≠ [])
      (single : ∀ v ∈ values, v.isList = false) (page : Option UInt64) :
      Built (.query (model.entity.query ⟨some (.inList column (values.map .value))⟩ page))
  | inserted {top model : Model} {row : Row} (compiled : top.Compiled)
      (within : top.Within model) (single : row.SingleValued) :
      Built (.insert (model.entity.insert row))
  | updated {top model : Model} {row : Row} {u : Update} (compiled : top.Compiled)
      (within : top.Within model) (single : row.SingleValued)
      (update : model.entity.update row = .ok (some u)) : Built (.update u)
  | deleted {top model : Model} {row : Row} {d : Delete} (compiled : top.Compiled)
      (within : top.Within model) (single : row.SingleValued)
      (delete : model.entity.delete row = .ok d) : Built (.delete d)

theorem Built.regular {s : Statement} (h : Built s) : s.Regular := by
  cases h with
  | text compiled within filter_read page =>
    exact regular_query compiled within (FilterText.regular_read filter_read) page
  | links compiled within linked some_values single page =>
    exact regular_query compiled within (regular_links linked some_values single) page
  | inserted _ _ single => exact regular_insert single _
  | updated _ _ single update => exact regular_update single update
  | deleted _ _ single delete => exact regular_delete single delete

/-- The text that is sent and its parameters determine the statement, whatever characters its
names and constants have. -/
theorem bound_text_determines {dialect : Dialect} (hDialect : dialect = .mySql ∨ dialect = .postgreSql)
    {s s' : Statement} (hs : Built s) (hs' : Built s') (hText : s.bound dialect = s'.bound dialect)
    (hParams : s.params dialect = s'.params dialect) : s = s' := by
  have hDoubling : dialect ≠ .sqlite := by
    rcases hDialect with rfl | rfl <;> decide
  exact Statement.eq_of_coincide hDoubling hs.regular hs'.regular
    ⟨0, congrArg String.toList hText, hParams⟩

namespace Sales

/-- The sales of two customers whose numbers are written in a filter text. -/
def typed : Statement :=
  .query (sale.query ⟨some (.inList (.columnOf 0 "customer_id") [.string "1", .string "2"])⟩ none)

/-- The sales of two customers whose numbers, as texts, are the values of the rows above. -/
def linked : Statement :=
  .query (sale.query ⟨some (.inList (.columnOf 0 "customer_id")
    ([.string "1", .string "2"].map Expr.value))⟩ none)

theorem typed_determines_linked : Built typed ∧ Built linked ∧
    typed.bound .mySql = linked.bound .mySql ∧ typed.params .mySql = linked.params .mySql ∧
    typed = linked := by
  have hCompiled : model.Compiled := ⟨catalog, definition, rfl⟩
  have hWithin : model.Within (.node sale []) := .child .self (List.mem_singleton_self _)
  have hRead : FilterText.read "CustomerID in 1, 2" sale.fields =
      .ok (some (.inList (.columnOf 0 "customer_id") [.string "1", .string "2"])) := by
    have hPieces : FilterText.pieces "CustomerID in 1, 2".toList = ["CustomerID in 1, 2".toList] :=
      FilterText.pieces_of_none (by decide)
    have hTrim : Text.trim "CustomerID in 1, 2".toList = "CustomerID in 1, 2".toList := by decide
    rw [FilterText.read, hTrim, hPieces]
    rfl
  have hTyped : Built typed := .text hCompiled hWithin hRead none
  have hLinked : Built linked :=
    .links hCompiled hWithin rfl (List.cons_ne_nil _ _) (by decide) none
  have hText : typed.bound .mySql = linked.bound .mySql := rfl
  have hParams : typed.params .mySql = linked.params .mySql := rfl
  exact ⟨hTyped, hLinked, hText, hParams,
    bound_text_determines (.inl rfl) hTyped hLinked hText hParams⟩

end Sales

end RowTree
