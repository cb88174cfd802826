import RowTree.Proofs.Columns
import RowTree.Proofs.Compiled

/-!
# Queries in scope

The tables of a query are numbered in the order in which they are joined, and every
column that the query refers to is one that the table with its number has. This is
carried through binding: the steps that are bound so far show tables of the catalog,
and a join looks back only.
-/

namespace RowTree

open Schema Sql Compile

def Schema.Table.Stores (table : Table) (storageName : String) : Prop :=
  ∃ column ∈ table.columns, column.storageName = storageName

/-- The query makes sense over the tables of the catalog. -/
structure Sql.Query.Scoped (catalog : Catalog) (q : Query) : Prop where
  numbers : q.joins.map (·.number) = List.range' 1 q.joins.length
  columns : ∀ c ∈ q.columns, ∃ a ≤ q.joins.length, c.1 = some a
  own : ∀ join ∈ q.joins, ∃ name, (some join.number, name) ∈ join.condition.columns
  earlier : ∀ join ∈ q.joins, ∀ c ∈ join.condition.columns, ∃ a ≤ join.number, c.1 = some a
  /-- Every alias number stands for a table that the catalog holds, which is named in the
  query and has the columns that the query refers to by that number. -/
  tables : ∃ tables : Nat → Table,
    (tables 0).storageName = q.table ∧
      (∀ join ∈ q.joins, (tables join.number).storageName = join.table) ∧
      (∀ a ≤ q.joins.length, Entries.get? catalog (tables a).name = some (tables a)) ∧
      ∀ c ∈ q.columns ++ q.joins.flatMap (·.condition.columns), ∀ a, c.1 = some a →
        (tables a).Stores c.2

namespace Compile

/-- The table with an alias number. -/
def Scope.table? (scope : Scope) : Nat → Option Table
  | 0 => some scope.basis
  | k + 1 => scope.joined[k]?.map (·.2)

def Scope.Has (scope : Scope) (a : Nat) (storageName : String) : Prop :=
  ∃ table, scope.table? a = some table ∧ table.Stores storageName

/-- The step at the position `k` shows a table of the catalog, and its join refers to columns
of that table and of those before it. -/
structure StepSound (catalog : Catalog) (scope : Scope) (k : Nat) (step : Step) (table : Table) :
    Prop where
  index : step.index = k + 1
  table_eq : step.join.table = ⟨table.name, table.storageName⟩
  held : Entries.get? catalog table.name = some table
  terms : step.join.terms ≠ []
  target : ∀ term ∈ step.join.terms, table.Stores term.target
  source : ∀ term ∈ step.join.terms, ∀ a name, term.source = .column a name →
    a ≤ k ∧ scope.Has a name

structure Scope.Sound (catalog : Catalog) (scope : Scope) : Prop where
  basis : Entries.get? catalog scope.basis.name = some scope.basis
  joined : ∀ k step table, scope.joined[k]? = some (step, table) →
    StepSound catalog scope k step table

variable {catalog : Catalog} {scope : Scope}

theorem stores_of_column? {table : Table} {name : String} {column : Column}
    (h : table.column? name = some column) : table.Stores column.storageName :=
  ⟨column, List.mem_of_find?_eq_some h, rfl⟩

theorem Scope.le_of_table? {a : Nat} {table : Table} (h : scope.table? a = some table) :
    a ≤ scope.joined.length := by
  cases a with
  | zero => exact Nat.zero_le _
  | succ k =>
    obtain ⟨entry, hEntry, _⟩ := Option.map_eq_some_iff.mp h
    obtain ⟨hLt, _⟩ := List.getElem?_eq_some_iff.mp hEntry
    exact hLt

theorem Scope.Sound.held (h : scope.Sound catalog) {a : Nat} {table : Table}
    (hTable : scope.table? a = some table) :
    Entries.get? catalog table.name = some table := by
  cases a with
  | zero =>
    cases hTable
    exact h.basis
  | succ k =>
    obtain ⟨⟨step, shown⟩, hEntry, rfl⟩ := Option.map_eq_some_iff.mp hTable
    exact (h.joined k step shown hEntry).held

theorem Scope.Sound.table?_of_source? (h : scope.Sound catalog) {previous : Option String}
    {a : Nat} {table : Table} (hSource : scope.source? previous = some (a, table)) :
    scope.table? a = some table := by
  cases previous with
  | none =>
    cases hSource
    rfl
  | some name =>
    obtain ⟨⟨step, shown⟩, hFound, hEq⟩ := Option.map_eq_some_iff.mp hSource
    cases hEq
    obtain ⟨k, hk⟩ := List.getElem?_of_mem (List.mem_of_find?_eq_some hFound)
    dsimp only
    rw [(h.joined k step shown hk).index, Scope.table?, hk, Option.map_some]

theorem Scope.table?_append {a : Nat} {table : Table} (h : scope.table? a = some table)
    (more : List (Step × Table)) :
    { scope with joined := scope.joined ++ more : Scope }.table? a = some table := by
  cases a with
  | zero => exact h
  | succ k =>
    obtain ⟨entry, hEntry, rfl⟩ := Option.map_eq_some_iff.mp h
    obtain ⟨hLt, _⟩ := List.getElem?_eq_some_iff.mp hEntry
    rw [Scope.table?, List.getElem?_append_left hLt, hEntry, Option.map_some]

theorem StepSound.append {k : Nat} {step : Step} {table : Table}
    (h : StepSound catalog scope k step table) (more : List (Step × Table)) :
    StepSound catalog { scope with joined := scope.joined ++ more } k step table where
  index := h.index
  table_eq := h.table_eq
  held := h.held
  terms := h.terms
  target := h.target
  source term hTerm a name hColumn := by
    obtain ⟨hLe, shown, hShown, hStores⟩ := h.source term hTerm a name hColumn
    exact ⟨hLe, shown, Scope.table?_append hShown more, hStores⟩

theorem StepBound.sound (hNames : OwnNames catalog) (hScope : scope.Sound catalog)
    {d : StepDefinition} {step : Step} {table : Table} (h : StepBound catalog scope d step)
    (hTable : Entries.get? catalog step.join.table.name = some table) :
    StepSound catalog scope scope.joined.length step table := by
  obtain ⟨name, index, source, target, _, hSource, hJoin⟩ := h.join
  obtain rfl := hJoin.eq_of_held hNames hTable
  obtain ⟨join, _, hTarget, hPairs, hTerms⟩ := hJoin.join
  have hShown := hScope.table?_of_source? hSource
  constructor
  · rw [h.step_eq]
  · exact hJoin.table_eq
  · rw [hNames _ _ hTarget]
    exact hTarget
  · intro hNil
    rw [hNil] at hTerms
    exact hPairs (List.forall₂_nil_right_iff.mp hTerms)
  · intro term hTerm
    obtain ⟨_, _, ⟨column, hColumn, hEq⟩, _⟩ := Outcome.exists_of_mem_left hTerms.flip hTerm
    rw [hEq]
    exact stores_of_column? hColumn
  · intro term hTerm a name hColumn
    obtain ⟨_, _, _, hSourceBound⟩ := Outcome.exists_of_mem_left hTerms.flip hTerm
    rw [hColumn] at hSourceBound
    cases hSourceBound with
    | column _ _ hFound =>
      exact ⟨Scope.le_of_table? hShown, source, hShown, stores_of_column? hFound⟩

theorem Scope.Sound.append (hNames : OwnNames catalog) (hScope : scope.Sound catalog)
    {d : StepDefinition} {step : Step} {table : Table} (h : StepBound catalog scope d step)
    (hTable : Entries.get? catalog step.join.table.name = some table) :
    { scope with joined := scope.joined ++ [(step, table)] : Scope }.Sound catalog where
  basis := hScope.basis
  joined k other shown hOther := by
    rcases Nat.lt_or_ge k scope.joined.length with hLt | hGe
    · rw [List.getElem?_append_left hLt] at hOther
      exact (hScope.joined k other shown hOther).append _
    · rw [List.getElem?_append_right hGe, List.getElem?_singleton] at hOther
      split at hOther
      · rename_i hZero
        have hLast : k = scope.joined.length := by omega
        cases hOther
        subst hLast
        exact (h.sound hNames hScope hTable).append _
      · cases hOther

theorem sound_nil (hNames : OwnNames catalog) {name : String} {basis : Table}
    (h : Entries.get? catalog name = some basis) : (⟨basis, []⟩ : Scope).Sound catalog where
  basis := by
    rw [hNames _ _ h]
    exact h
  joined _ _ _ hJoined := by simp at hJoined

theorem StepsBound.sound (hNames : OwnNames catalog) {ds : List StepDefinition} {last : Scope}
    (h : StepsBound catalog scope ds last) (hScope : scope.Sound catalog) :
    last.Sound catalog := by
  induction h with
  | nil => exact hScope
  | cons hStep hTable _ ih => exact ih (hScope.append hNames hStep hTable)

theorem FieldBound.has (hScope : scope.Sound catalog) {d : FieldDefinition} {field : Field}
    (h : FieldBound scope d field) {storageName : String}
    (hName : field.storageName? = some storageName) : scope.Has field.step storageName := by
  obtain ⟨_, index, table, column, hSource, hColumn, rfl⟩ := h
  obtain ⟨bound, hBound, rfl⟩ := Option.map_eq_some_iff.mp hName
  obtain ⟨found, rfl, rfl⟩ := Option.map_eq_some_iff.mp hBound
  generalize d.basisColumn = given at hColumn
  cases hColumn with
  | some hFound =>
    exact ⟨table, hScope.table?_of_source? hSource, stores_of_column? hFound⟩

theorem has_of_mem_fieldColumns (hScope : scope.Sound catalog) {ds : List FieldDefinition}
    {fields : List Field} (hFields : List.Forall₂ (FieldBound scope) ds fields) {c : ColumnRef}
    (h : c ∈ fieldColumns fields) : ∃ a, c.1 = some a ∧ scope.Has a c.2 := by
  obtain ⟨field, hField, hColumn⟩ := List.mem_filterMap.mp h
  obtain ⟨name, hName, rfl⟩ := Option.map_eq_some_iff.mp hColumn
  obtain ⟨_, _, hBound⟩ := Outcome.exists_of_mem_left hFields.flip hField
  exact ⟨field.step, rfl, hBound.has hScope hName⟩

theorem FilterBound.columns_subset {fields : List Field} {text : Option String}
    {filter : Option Expr} (h : FilterBound fields text filter) :
    Sql.Filter.columns ⟨filter⟩ ⊆ fieldColumns fields := by
  cases h with
  | none => exact List.nil_subset _
  | some h =>
    cases filter with
    | none => exact List.nil_subset _
    | some e => exact FilterText.columns_read h

end Compile

theorem columns_sourceExpr {source : JoinSource} {c : ColumnRef} :
    c ∈ (JoinTerm.sourceExpr source).columns ↔
      ∃ a name, source = .column a name ∧ c = (some a, name) := by
  cases source <;> simp [JoinTerm.sourceExpr, Expr.columnOf, Expr.columns]

theorem mem_columns_condition {step : Step} (hTerms : step.join.terms ≠ []) {c : ColumnRef} :
    c ∈ step.toJoin.condition.columns ↔ ∃ term ∈ step.join.terms,
      c = (some step.index, term.target) ∨
        ∃ a name, term.source = .column a name ∧ c = (some a, name) := by
  have hAll : ∃ e, Expr.all (step.join.terms.map (·.expr step.index)) = some e := by
    rcases hList : step.join.terms with _ | ⟨first, _ | ⟨second, rest⟩⟩
    · exact absurd hList hTerms
    · exact ⟨_, rfl⟩
    · exact ⟨_, rfl⟩
  obtain ⟨e, he⟩ := hAll
  rw [Step.toJoin, he, Option.getD_some, columns_all he, mem_columnsOfAll]
  simp [JoinTerm.expr, Expr.columns, Expr.columnOf, columns_sourceExpr]

namespace Compile

variable {catalog : Catalog} {scope : Scope}

theorem StepSound.columns {k : Nat} {step : Step} {table : Table}
    (h : StepSound catalog scope k step table) (hTable : scope.table? (k + 1) = some table)
    {c : ColumnRef} (hc : c ∈ step.toJoin.condition.columns) :
    ∃ a ≤ k + 1, c.1 = some a ∧ scope.Has a c.2 := by
  obtain ⟨term, hTerm, hEither⟩ := (mem_columns_condition h.terms).mp hc
  rcases hEither with rfl | ⟨a, name, hSource, rfl⟩
  · exact ⟨k + 1, Nat.le_refl _, by rw [h.index], table, hTable, h.target term hTerm⟩
  · obtain ⟨hLe, hHas⟩ := h.source term hTerm a name hSource
    exact ⟨a, by omega, rfl, hHas⟩

theorem StepsBound.basis_eq {ds : List StepDefinition} {last : Scope}
    (h : StepsBound catalog scope ds last) : last.basis = scope.basis := by
  induction h with
  | nil => rfl
  | cons _ _ _ ih => exact ih

theorem Scope.Sound.step_of_mem (h : scope.Sound catalog) {join : Sql.Join}
    (hJoin : join ∈ scope.steps.map Step.toJoin) :
    ∃ k step table, StepSound catalog scope k step table ∧
      scope.table? (k + 1) = some table ∧ k < scope.joined.length ∧ join = step.toJoin := by
  obtain ⟨step, hStep, rfl⟩ := List.mem_map.mp hJoin
  obtain ⟨⟨step, table⟩, hMem, rfl⟩ := List.mem_map.mp hStep
  obtain ⟨k, hk⟩ := List.getElem?_of_mem hMem
  exact ⟨k, step, table, h.joined k step table hk, by rw [Scope.table?, hk, Option.map_some],
    (List.getElem?_eq_some_iff.mp hk).1, rfl⟩

theorem Scope.Sound.numbers (h : scope.Sound catalog) :
    (scope.steps.map Step.toJoin).map (·.number) = List.range' 1 scope.joined.length := by
  apply List.ext_getElem (by simp [Scope.steps])
  intro k hLeft hRight
  have hk : k < scope.joined.length := by simpa using hRight
  have hIndex : scope.joined[k].1.index = k + 1 :=
    (h.joined k _ _ (List.getElem?_eq_getElem hk)).index
  simp only [Scope.steps, List.getElem_map, List.getElem_range', Step.toJoin, hIndex]
  omega

theorem Scope.Sound.scoped (h : scope.Sound catalog) {q : Query}
    (hTable : q.table = scope.basis.storageName) (hJoins : q.joins = scope.steps.map Step.toJoin)
    (hColumns : ∀ c ∈ q.columns, ∃ a, c.1 = some a ∧ scope.Has a c.2) : q.Scoped catalog := by
  have hLength : q.joins.length = scope.joined.length := by simp [hJoins, Scope.steps]
  constructor
  · rw [hLength, hJoins]
    exact h.numbers
  · intro c hc
    obtain ⟨a, hAlias, table, hShown, _⟩ := hColumns c hc
    exact ⟨a, hLength ▸ Scope.le_of_table? hShown, hAlias⟩
  · intro join hJoin
    obtain ⟨k, step, table, hSound, _, _, rfl⟩ := h.step_of_mem (hJoins ▸ hJoin)
    obtain ⟨term, hTerm⟩ := List.exists_mem_of_ne_nil _ hSound.terms
    exact ⟨term.target, (mem_columns_condition hSound.terms).mpr ⟨term, hTerm, .inl rfl⟩⟩
  · intro join hJoin c hc
    obtain ⟨k, step, table, hSound, hShown, _, rfl⟩ := h.step_of_mem (hJoins ▸ hJoin)
    obtain ⟨a, hLe, hAlias, _⟩ := hSound.columns hShown hc
    rw [← hSound.index] at hLe
    exact ⟨a, hLe, hAlias⟩
  · refine ⟨fun a => (scope.table? a).getD scope.basis, hTable.symm, ?_, ?_, ?_⟩
    · intro join hJoin
      obtain ⟨k, step, table, hSound, hShown, _, rfl⟩ := h.step_of_mem (hJoins ▸ hJoin)
      simp only [Step.toJoin, hSound.index, hShown, hSound.table_eq, Option.getD_some]
    · intro a _
      dsimp only
      cases hShown : scope.table? a with
      | none => exact h.basis
      | some table => exact h.held hShown
    · intro c hc a hAlias
      have hHas : ∃ a, c.1 = some a ∧ scope.Has a c.2 := by
        rcases List.mem_append.mp hc with hc | hc
        · exact hColumns c hc
        · obtain ⟨join, hJoin, hc⟩ := List.mem_flatMap.mp hc
          obtain ⟨k, step, table, hSound, hShown, _, rfl⟩ := h.step_of_mem (hJoins ▸ hJoin)
          obtain ⟨a, _, hHas⟩ := hSound.columns hShown hc
          exact ⟨a, hHas⟩
      obtain ⟨b, hb, table, hShown, hStores⟩ := hHas
      cases hb.symm.trans hAlias
      simpa only [hShown, Option.getD_some] using hStores

theorem EntityBound.scoped (hNames : OwnNames catalog) {d : EntityDefinition} {basis : Table}
    {entity : Entity} (h : EntityBound catalog d basis scope entity) {filter : Filter}
    (hFilter : filter.columns ⊆ fieldColumns entity.fields) (page : Option UInt64) :
    (entity.query filter page).Scoped catalog := by
  obtain ⟨name, _, hBasis⟩ := h.basisTable
  have hScope : scope.Sound catalog := h.steps.sound hNames (sound_nil hNames hBasis)
  apply hScope.scoped
  · rw [h.steps.basis_eq, h.entity_eq]
    rfl
  · rw [h.entity_eq]
    rfl
  · intro c hc
    have hField := columns_query_subset h.filter.columns_subset hFilter page hc
    exact has_of_mem_fieldColumns hScope h.fields hField

end Compile

/-- Every query of a bound model makes sense, at whatever depth its entity stands. -/
theorem query_scoped {catalog : Catalog} (hNames : OwnNames catalog) {d : Definition}
    {top model : Model} (h : Compile.bind catalog d = .ok top) (hWithin : top.Within model)
    {filter : Filter} (hFilter : CallerFilter model.entity filter) (page : Option UInt64) :
    (model.entity.query filter page).Scoped catalog := by
  obtain ⟨d, own, link, hOwn, hEntity⟩ := entity_of_within h hWithin
  obtain ⟨basis, scope, hBound⟩ := bindEntity_eq_ok_iff.mp hOwn
  have hColumns := hFilter.columns_subset
  rw [hEntity] at hColumns ⊢
  exact hBound.scoped hNames hColumns page

namespace Sales

def table (name storageName : String) (columns : List (String × String))
    (joins : List Schema.Join) : Table where
  name := name
  storageName := storageName
  columns := columns.map fun column => { name := column.1, storageName := column.2 }
  primaryKey := (columns.head?).map (·.1)
  joins := joins

def same (column : String) : JoinPair := { source := some column, target := column }

def catalog : Catalog := Catalog.ofTables [
  table "Customer" "customers" [("CustomerID", "id"), ("TownID", "town_id")]
    [{ name := "town", table := "Town", pairs := [same "TownID"] }],
  table "Town" "towns" [("TownID", "id"), ("Name", "name")] [],
  table "Sale" "sales" [("SaleID", "id"), ("CustomerID", "customer_id")]
    [{ name := "customer", table := "Customer", pairs := [same "CustomerID"] }]]

def field (name : String) : FieldDefinition := { name := name, basisColumn := some name }

/-- Customers with their sales, and each sale with the town of its customer: of its two joins the
second goes on from the first. -/
def definition : Definition :=
  .node { basisTable := some "Customer", fields := [field "CustomerID"] }
    [.node {
      basisTable := some "Sale"
      steps := [{ name := "buyer", join := some "customer", required := true },
        { name := "home", join := some "town", previousStep := some "buyer" }]
      fields := [field "SaleID", field "CustomerID",
        { name := "Town", basisColumn := some "Name", step := some "home" }]
      orderBy := [⟨"Town", .ascending⟩]
      parentLink := some ⟨"CustomerID", "CustomerID"⟩ } []]

def sale : Entity where
  name := "Sale"
  basisTable := ⟨"Sale", "sales"⟩
  steps := [
    ⟨"buyer", 1, true, ⟨"customer", ⟨"Customer", "customers"⟩, [⟨.column 0 "customer_id", "id"⟩]⟩⟩,
    ⟨"home", 2, false, ⟨"town", ⟨"Town", "towns"⟩, [⟨.column 1 "town_id", "id"⟩]⟩⟩]
  fields := [{ name := "SaleID", column := some ⟨"SaleID", "id"⟩ },
    { name := "CustomerID", column := some ⟨"CustomerID", "customer_id"⟩ },
    { name := "Town", column := some ⟨"Name", "name"⟩, step := 2 }]
  key := some 0
  orderBy := [⟨"Town", .ascending⟩]
  parentLink := some ⟨"CustomerID", "CustomerID"⟩

def customer : Entity where
  name := "Customer"
  basisTable := ⟨"Customer", "customers"⟩
  fields := [{ name := "CustomerID", column := some ⟨"CustomerID", "id"⟩ }]
  key := some 0

def model : Model := .node customer [.node sale []]

def chosen : Filter :=
  ⟨some (.inList (.columnOf 0 "customer_id") [.value (.int 1), .value (.int 2)])⟩

/-- The query for the sales of two customers. -/
theorem sales_scoped : OwnNames catalog ∧ Compile.bind catalog definition = .ok model ∧
    model.Within (.node sale []) ∧ CallerFilter sale chosen ∧
    (sale.query chosen none).Scoped catalog :=
  have hNames := ownNames_ofTables _
  have hBind : Compile.bind catalog definition = .ok model := rfl
  have hWithin : model.Within (.node sale []) := .child .self (by simp [model, Model.children])
  have hFilter : CallerFilter sale chosen := .links [.int 1, .int 2] rfl
  ⟨hNames, hBind, hWithin, hFilter, query_scoped hNames hBind hWithin hFilter none⟩

end Sales

end RowTree
