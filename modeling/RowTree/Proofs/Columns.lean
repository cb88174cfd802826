import RowTree.Proofs.Outcome
import RowTree.Session.Read

/-!
# The columns of a query

Which columns an expression refers to, and where those of a query come from: the
list of what is selected, the condition and the order of a query refer to columns
of its entity's fields and to no other.
-/

namespace RowTree.Sql

/-- A column by the alias number of its table, if it is given, and its own name. -/
abbrev ColumnRef := Option Nat × String

mutual

def Expr.columns : Expr → List ColumnRef
  | .conj operands => columnsOfAll operands
  | .compare _ lhs rhs => lhs.columns ++ rhs.columns
  | .column table name => [(table, name)]
  | .inList subject list => subject.columns ++ columnsOfAll list
  | .like subject _ => subject.columns
  | .now | .shiftedNow _ _ | .literal _ | .value _ => []

def columnsOfAll : List Expr → List ColumnRef
  | [] => []
  | e :: rest => e.columns ++ columnsOfAll rest

end

def Filter.columns (filter : Filter) : List ColumnRef :=
  (filter.expr?.map Expr.columns).getD []

/-- The columns outside the joins. -/
def Query.columns (q : Query) : List ColumnRef :=
  (q.items.getD []).flatMap (·.expr.columns) ++ q.filter.columns
    ++ q.order.flatMap (·.expr.columns)

theorem columnsOfAll_append (es fs : List Expr) :
    columnsOfAll (es ++ fs) = columnsOfAll es ++ columnsOfAll fs := by
  induction es with
  | nil => rfl
  | cons e rest ih => rw [List.cons_append, columnsOfAll, columnsOfAll, ih, List.append_assoc]

theorem mem_columnsOfAll {c : ColumnRef} {es : List Expr} :
    c ∈ columnsOfAll es ↔ ∃ e ∈ es, c ∈ e.columns := by
  induction es with
  | nil => simp [columnsOfAll]
  | cons e rest ih => simp [columnsOfAll, ih]

theorem columnsOfAll_operands (e : Expr) : columnsOfAll e.operands = e.columns := by
  cases e with
  | conj operands => rw [Expr.operands, Expr.columns]
  | _ => simp [Expr.operands, columnsOfAll]

theorem columns_and (lhs rhs : Expr) : (lhs.and rhs).columns = lhs.columns ++ rhs.columns := by
  rw [Expr.and_eq_conj, Expr.columns, columnsOfAll_append, columnsOfAll_operands,
    columnsOfAll_operands]

theorem columns_all {es : List Expr} {e : Expr} (h : Expr.all es = some e) :
    e.columns = columnsOfAll es := by
  rcases es with _ | ⟨first, _ | ⟨second, rest⟩⟩
  · cases h
  · cases h
    rw [columnsOfAll, columnsOfAll, List.append_nil]
  · cases h
    rw [Expr.columns]

theorem columns_narrow (filter other : Filter) :
    (filter.narrow other).columns = filter.columns ++ other.columns := by
  obtain ⟨_ | e⟩ := filter <;> obtain ⟨_ | e'⟩ := other <;>
    simp [Filter.narrow, Filter.add, Filter.columns, columns_and]

theorem columnsOfAll_map_eq_nil {α : Type} {f : α → Expr} (h : ∀ x, (f x).columns = [])
    (xs : List α) : columnsOfAll (xs.map f) = [] := by
  induction xs with
  | nil => rfl
  | cons x rest ih => rw [List.map_cons, columnsOfAll, h, ih, List.nil_append]

theorem columns_value (v : Value) : (Expr.value v).columns = [] := by
  rw [Expr.columns]

end RowTree.Sql

namespace RowTree

open Schema Sql

def fieldColumns (fields : List Field) : List ColumnRef :=
  fields.filterMap fun field => field.storageName?.map (some field.step, ·)

theorem columns_of_expr? {fields : List Field} {field : Field} (hField : field ∈ fields)
    {e : Expr} (h : field.expr? = some e) : e.columns ⊆ fieldColumns fields := by
  obtain ⟨name, hName, rfl⟩ := Option.map_eq_some_iff.mp h
  intro c hc
  rw [Expr.columnOf, Expr.columns, List.mem_singleton] at hc
  subst hc
  exact List.mem_filterMap.mpr ⟨field, hField, by rw [hName, Option.map_some]⟩

theorem columns_of_field? {fields : List Field} {name : String} {e : Expr}
    (h : (findField? fields name).bind Field.expr? = some e) :
    e.columns ⊆ fieldColumns fields := by
  obtain ⟨field, hField, hExpr⟩ := Option.bind_eq_some_iff.mp h
  exact columns_of_expr? (List.mem_of_find?_eq_some hField) hExpr

namespace FilterText

theorem date_eq_ok {text : List Char} {e : Expr} (h : date text = .ok e) :
    e = .now ∨ ∃ amount unit, e = .shiftedNow amount unit := by
  unfold date at h
  split at h
  · cases h
    exact .inl rfl
  · split at h
    · cases h
    · split at h
      · cases h
      · split at h
        · cases h
        · cases h
          exact .inr ⟨_, _, rfl⟩

theorem columns_compare_date {column e : Expr} {comparison : Comparison} {text : List Char}
    (h : (date text).map (.compare comparison column) = .ok e) : e.columns = column.columns := by
  cases hText : date text with
  | error problem =>
    rw [hText] at h
    cases h
  | ok moment =>
    rw [hText] at h
    cases h
    rcases date_eq_ok hText with rfl | ⟨amount, unit, rfl⟩ <;> simp [Expr.columns]

theorem columns_predicate {column e : Expr} {op : Operator} {text : List Char}
    (h : predicate column op text = .ok e) : e.columns = column.columns := by
  cases op with
  | before => exact columns_compare_date h
  | after => exact columns_compare_date h
  | inList =>
    cases h
    simp only [Expr.columns, Expr.string]
    rw [columnsOfAll_map_eq_nil fun _ => columns_value _, List.append_nil]
  | equal | contains | beginsWith | endsWith | greater | less =>
    cases h
    simp [Expr.columns, Expr.string, Expr.contains, Expr.beginsWith, Expr.endsWith]

theorem columns_readClause {fields : List Field} {text : List Char} {e : Expr}
    (h : readClause fields text = .ok e) : e.columns ⊆ fieldColumns fields := by
  unfold readClause at h
  split at h
  · cases h
  · split at h
    · cases h
    · rename_i hColumn
      rw [columns_predicate h]
      exact columns_of_field? hColumn

theorem columns_read {text : String} {fields : List Field} {e : Expr}
    (h : read text fields = .ok (some e)) : e.columns ⊆ fieldColumns fields := by
  unfold read at h
  dsimp only at h
  split at h
  · cases h
  · split at h
    · rename_i predicates hAll
      rw [columns_all (Except.ok.inj h)]
      intro c hc
      obtain ⟨e', he', hc⟩ := mem_columnsOfAll.mp hc
      obtain ⟨_, _, hClause⟩ := Outcome.exists_of_mem_left (Outcome.mapM_eq_ok.mp hAll).flip he'
      exact columns_readClause hClause hc
    · cases h

end FilterText

/-- The filters with which an entity is queried: none, what a text is read as, and the link
column with a list of values. -/
inductive CallerFilter (entity : Entity) : Filter → Prop
  | none : CallerFilter entity {}
  | text {text : String} {e : Option Expr} (h : FilterText.read text entity.fields = .ok e) :
      CallerFilter entity ⟨e⟩
  | links {link : ParentLink} {column : Expr} (values : List Value)
      (h : linkColumn entity = .ok (link, column)) :
      CallerFilter entity ⟨some (.inList column (values.map .value))⟩

theorem CallerFilter.columns_subset {entity : Entity} {filter : Filter}
    (h : CallerFilter entity filter) : filter.columns ⊆ fieldColumns entity.fields := by
  cases h with
  | none => exact List.nil_subset _
  | text h =>
    rename_i e
    cases e with
    | none => exact List.nil_subset _
    | some e => exact FilterText.columns_read h
  | links values h =>
    rename_i link column
    have hColumn : (findField? entity.fields link.childField).bind Field.expr? = some column := by
      unfold linkColumn at h
      split at h
      · cases h
      · split at h
        · cases h
        · rename_i hField
          cases h
          exact hField
    change (Expr.inList column _).columns ⊆ _
    rw [Expr.columns, columnsOfAll_map_eq_nil columns_value, List.append_nil]
    exact columns_of_field? hColumn

theorem columns_query_subset {entity : Entity} {filter : Filter}
    (hOwn : Sql.Filter.columns ⟨entity.filter⟩ ⊆ fieldColumns entity.fields)
    (hFilter : filter.columns ⊆ fieldColumns entity.fields) (page : Option UInt64) :
    (entity.query filter page).columns ⊆ fieldColumns entity.fields := by
  intro c hc
  rw [Query.columns, List.mem_append, List.mem_append] at hc
  rcases hc with (hc | hc) | hc
  · obtain ⟨item, hItem, hc⟩ := List.mem_flatMap.mp hc
    have hItem : item ∈ entity.fields.filterMap Field.selectItem? := by
      simp only [Entity.query] at hItem
      split at hItem
      · cases hItem
      · exact hItem
    obtain ⟨field, hField, hSelect⟩ := List.mem_filterMap.mp hItem
    obtain ⟨e, hExpr, rfl⟩ := Option.map_eq_some_iff.mp hSelect
    exact columns_of_expr? hField hExpr hc
  · rw [Entity.query, columns_narrow, List.mem_append] at hc
    exact hc.elim (hOwn ·) (hFilter ·)
  · obtain ⟨item, hItem, hc⟩ := List.mem_flatMap.mp hc
    obtain ⟨entry, _, hOrder⟩ := List.mem_filterMap.mp hItem
    obtain ⟨e, hExpr, rfl⟩ := Option.map_eq_some_iff.mp hOrder
    exact columns_of_field? hExpr hc

end RowTree
