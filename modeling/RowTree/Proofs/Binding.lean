import RowTree.Compile.Bind
import RowTree.Proofs.Outcome

/-!
# What is bound to what

Binding said once and for all: when a pair of a join, a step or a field of a
definition is bound, and to what. Each of the statements tells the whole of what the
step of binding needs and gives, so that later ones never look into it.
-/

namespace RowTree.Compile

open Schema Outcome

variable {catalog : Catalog} {model : String} {scope : Scope}

/-- Every table is held under its own name. -/
def OwnNames (catalog : Catalog) : Prop :=
  ∀ name table, Entries.get? catalog name = some table → table.name = name

theorem OwnNames.set (h : OwnNames catalog) (table : Table) :
    OwnNames (Entries.set catalog table.name table) := by
  intro name found hFound
  by_cases hName : table.name = name
  · subst hName
    rw [Entries.get?_set_self] at hFound
    cases hFound
    rfl
  · rw [Entries.get?_set_of_ne _ _ hName] at hFound
    exact h name found hFound

theorem ownNames_ofTables (tables : List Table) : OwnNames (Catalog.ofTables tables) := by
  have hAll (catalog : Catalog) (h : OwnNames catalog) : OwnNames (catalog.addAll tables) := by
    induction tables generalizing catalog with
    | nil => exact h
    | cons table rest ih => exact ih _ (h.set table)
  refine hAll [] ?_
  intro _ _ hFound
  cases hFound

theorem need_eq_ok_iff {α : Type} {problem : DefinitionProblem} {o : Option α} {v : α} :
    need model problem o = .ok v ↔ o = some v := by
  cases o <;> simp [need, invalid]

theorem checkName_eq_ok_iff {name : String} :
    checkName model name = .ok () ↔ isCodeName name = true := by
  unfold checkName
  cases isCodeName name <;> simp

theorem table_eq_ok_iff {name : String} {table : Table} :
    catalog.table name = .ok table ↔ Entries.get? catalog name = some table := by
  unfold Catalog.table
  cases Entries.get? catalog name <;> simp

theorem any_name_eq_false_iff {α : Type} {name : α → String} {xs : List α} {n : String} :
    xs.any (name · == n) = false ↔ n ∉ xs.map name := by
  rw [List.any_eq_false, List.mem_map, not_exists]
  exact forall_congr' fun x => by rw [beq_iff_eq, not_and]

theorem nodup_append_fresh {α : Type} {name : α → String} {bound : List α} {a : α}
    (h : (bound.map name).Nodup) (hFresh : name a ∉ bound.map name) :
    ((bound ++ [a]).map name).Nodup := by
  rw [List.map_append, List.map_singleton]
  refine List.nodup_append.mpr ⟨h, by simp, ?_⟩
  rintro n hn m hm rfl
  exact hFresh (List.mem_singleton.mp hm ▸ hn)

theorem find?_of_nodup {α : Type} {name : α → String} {xs : List α} (h : (xs.map name).Nodup)
    {x : α} (hx : x ∈ xs) : xs.find? (name · == name x) = some x := by
  induction xs with
  | nil => cases hx
  | cons first rest ih =>
    rw [List.map_cons, List.nodup_cons] at h
    rcases List.mem_cons.mp hx with rfl | hx
    · simp
    · have hne : name first ≠ name x := by
        intro hName
        exact h.1 (hName ▸ List.mem_map_of_mem hx)
      rw [List.find?_cons_of_neg (by simpa using hne), ih h.2 hx]

/-- What the other side of a pair is bound to: a constant if there is one, and else a
column of the table that is joined from. -/
inductive SourceBound (index : Nat) (source : Table) (pair : JoinPair) : JoinSource → Prop
  | constant {text : String} (h : pair.constant = some text) :
      SourceBound index source pair (.constant text)
  | column {name : String} {column : Column} (h : pair.constant = none)
      (named : pair.source = some name) (found : source.column? name = some column) :
      SourceBound index source pair (.column index column.storageName)

structure PairBound (index : Nat) (source target : Table) (pair : JoinPair) (term : JoinTerm) :
    Prop where
  target : ∃ column, target.column? pair.target = some column ∧ term.target = column.storageName
  source : SourceBound index source pair term.source

theorem bindPair_eq_ok_iff {join : String} {index : Nat} {source target : Table}
    {pair : JoinPair} {term : JoinTerm} :
    bindPair model join index source target pair = .ok term ↔
      PairBound index source target pair term := by
  unfold bindPair
  constructor
  · intro h
    obtain ⟨column, hColumn, h⟩ := bind_eq_ok.mp h
    have hTarget := need_eq_ok_iff.mp hColumn
    cases hConstant : pair.constant with
    | some text =>
      rw [hConstant] at h
      cases h
      exact ⟨⟨column, hTarget, rfl⟩, .constant hConstant⟩
    | none =>
      cases hNamed : pair.source with
      | none =>
        rw [hConstant, hNamed] at h
        cases h
      | some name =>
        rw [hConstant, hNamed] at h
        obtain ⟨found, hFound, h⟩ := bind_eq_ok.mp h
        cases h
        exact ⟨⟨column, hTarget, rfl⟩, .column hConstant hNamed (need_eq_ok_iff.mp hFound)⟩
  · rintro ⟨⟨column, hColumn, hTarget⟩, hSource⟩
    obtain ⟨origin, target⟩ := term
    subst hTarget
    refine bind_eq_ok.mpr ⟨column, need_eq_ok_iff.mpr hColumn, ?_⟩
    cases hSource with
    | constant hConstant =>
      rw [hConstant]
      rfl
    | column hConstant hNamed hFound =>
      rw [hConstant, hNamed]
      exact bind_eq_ok.mpr ⟨_, need_eq_ok_iff.mpr hFound, rfl⟩

/-- The join of a step that goes on from the table `source` with the alias number `index`. -/
structure JoinBound (catalog : Catalog) (index : Nat) (source target : Table) (name : String)
    (bound : BoundJoin) : Prop where
  join : ∃ join, source.join? name = some join ∧ Entries.get? catalog join.table = some target ∧
    join.pairs ≠ [] ∧ List.Forall₂ (PairBound index source target) join.pairs bound.terms
  name_eq : bound.name = name
  table_eq : bound.table = ⟨target.name, target.storageName⟩

/-- The table is held under the name of the join, which is its own. -/
theorem JoinBound.eq_of_held (hNames : OwnNames catalog) {index : Nat} {source target held : Table}
    {name : String} {bound : BoundJoin} (h : JoinBound catalog index source target name bound)
    (hHeld : Entries.get? catalog bound.table.name = some held) : target = held := by
  obtain ⟨join, _, hTarget, _⟩ := h.join
  rw [h.table_eq, hNames _ _ hTarget, hTarget] at hHeld
  exact Option.some.inj hHeld

structure StepBound (catalog : Catalog) (scope : Scope) (d : StepDefinition) (step : Step) :
    Prop where
  name : isCodeName d.name = true
  fresh : d.name ∉ scope.steps.map (·.name)
  join : ∃ name index source target, d.join = some name ∧
    scope.source? d.previousStep = some (index, source) ∧
    JoinBound catalog index source target name step.join
  step_eq : step = ⟨d.name, scope.joined.length + 1, d.required, step.join⟩

theorem bindStep_eq_ok_iff {d : StepDefinition} {step : Step} :
    bindStep catalog model scope d = .ok step ↔ StepBound catalog scope d step := by
  unfold bindStep
  constructor
  · intro h
    obtain ⟨_, hName, h⟩ := bind_eq_ok.mp h
    dsimp only at h
    split at h
    · cases h
    · rename_i hFresh
      obtain ⟨joinName, hJoinName, h⟩ := bind_eq_ok.mp h
      obtain ⟨⟨index, source⟩, hSource, h⟩ := bind_eq_ok.mp h
      obtain ⟨join, hJoin, h⟩ := bind_eq_ok.mp h
      obtain ⟨target, hTarget, h⟩ := bind_eq_ok.mp h
      dsimp only at h
      split at h
      · cases h
      · rename_i hPairs
        obtain ⟨terms, hTerms, h⟩ := bind_eq_ok.mp h
        cases h
        have hBound : List.Forall₂ (PairBound index source target) join.pairs terms :=
          (mapM_eq_ok.mp hTerms).imp fun _ _ => bindPair_eq_ok_iff.mp
        refine ⟨checkName_eq_ok_iff.mp hName, ?_, ⟨joinName, index, source, target,
          need_eq_ok_iff.mp hJoinName, need_eq_ok_iff.mp hSource, ⟨join,
          need_eq_ok_iff.mp hJoin, table_eq_ok_iff.mp hTarget, ?_, hBound⟩, rfl, rfl⟩, rfl⟩
        · exact any_name_eq_false_iff.mp (Bool.eq_false_iff.mpr hFresh)
        · exact List.isEmpty_iff.not.mp hPairs
  · rintro ⟨hName, hFresh, ⟨joinName, index, source, target, hJoinName, hSource,
      ⟨join, hJoin, hTarget, hPairs, hTerms⟩, hBoundName, hTable⟩, hStep⟩
    refine bind_eq_ok.mpr ⟨(), checkName_eq_ok_iff.mpr hName, ?_⟩
    dsimp only
    rw [if_neg (Bool.eq_false_iff.mp (any_name_eq_false_iff.mpr hFresh))]
    refine bind_eq_ok.mpr ⟨joinName, need_eq_ok_iff.mpr hJoinName, ?_⟩
    refine bind_eq_ok.mpr ⟨(index, source), need_eq_ok_iff.mpr hSource, ?_⟩
    refine bind_eq_ok.mpr ⟨join, need_eq_ok_iff.mpr hJoin, ?_⟩
    refine bind_eq_ok.mpr ⟨target, table_eq_ok_iff.mpr hTarget, ?_⟩
    dsimp only
    rw [if_neg (List.isEmpty_iff.not.mpr hPairs)]
    refine bind_eq_ok.mpr ⟨step.join.terms, ?_, ?_⟩
    · exact mapM_eq_ok.mpr (hTerms.imp fun _ _ => bindPair_eq_ok_iff.mpr)
    · rw [hStep, ← hBoundName, ← hTable]

/-- The steps are bound one after the other, each in the scope of those before it. The table
of a step is the one that is held under the joined table's own name. -/
inductive StepsBound (catalog : Catalog) : Scope → List StepDefinition → Scope → Prop
  | nil {scope : Scope} : StepsBound catalog scope [] scope
  | cons {scope last : Scope} {d : StepDefinition} {rest : List StepDefinition} {step : Step}
      {table : Table} (step_bound : StepBound catalog scope d step)
      (found : Entries.get? catalog step.join.table.name = some table)
      (rest_bound :
        StepsBound catalog { scope with joined := scope.joined ++ [(step, table)] } rest last) :
      StepsBound catalog scope (d :: rest) last

theorem bindSteps_eq_ok_iff {ds : List StepDefinition} {last : Scope} :
    bindSteps catalog model scope ds = .ok last ↔ StepsBound catalog scope ds last := by
  induction ds generalizing scope with
  | nil =>
    constructor
    · intro h
      cases h
      exact .nil
    · intro h
      cases h
      rfl
  | cons d rest ih =>
    rw [bindSteps]
    constructor
    · intro h
      obtain ⟨step, hStep, h⟩ := bind_eq_ok.mp h
      obtain ⟨table, hTable, h⟩ := bind_eq_ok.mp h
      exact .cons (bindStep_eq_ok_iff.mp hStep) (table_eq_ok_iff.mp hTable) (ih.mp h)
    · intro h
      cases h with
      | cons hStep hTable hRest =>
        refine bind_eq_ok.mpr ⟨_, bindStep_eq_ok_iff.mpr hStep, ?_⟩
        exact bind_eq_ok.mpr ⟨_, table_eq_ok_iff.mpr hTable, ih.mpr hRest⟩

inductive ColumnBound (table : Table) : Option String → Option Column → Prop
  | none : ColumnBound table none none
  | some {name : String} {column : Column} (found : table.column? name = some column) :
      ColumnBound table (some name) (some column)

/-- The field on the table with the alias number `index`, if it has the column. -/
def fieldOn (d : FieldDefinition) (index : Nat) (column : Option Column) : Field where
  name := d.name
  column := column.map fun c => ⟨c.name, c.storageName⟩
  step := index
  updateable := d.updateable
  required := d.required || column.any (·.required)
  columnDefault := d.columnDefault <|> column.bind Column.default?
  dataType := d.dataType <|> column.bind (·.dataType)

structure FieldBound (scope : Scope) (d : FieldDefinition) (field : Field) : Prop where
  name : isCodeName d.name = true
  column : ∃ index table column, scope.source? d.step = some (index, table) ∧
    ColumnBound table d.basisColumn column ∧ field = fieldOn d index column

theorem bindField_eq_ok_iff {d : FieldDefinition} {field : Field} :
    bindField model scope d = .ok field ↔ FieldBound scope d field := by
  unfold bindField
  constructor
  · intro h
    obtain ⟨_, hName, h⟩ := bind_eq_ok.mp h
    obtain ⟨⟨index, table⟩, hSource, h⟩ := bind_eq_ok.mp h
    refine ⟨checkName_eq_ok_iff.mp hName, index, table, ?_⟩
    cases hColumn : d.basisColumn with
    | none =>
      rw [hColumn] at h
      cases h
      exact ⟨none, need_eq_ok_iff.mp hSource, .none, rfl⟩
    | some name =>
      rw [hColumn] at h
      obtain ⟨found, hFound, h⟩ := bind_eq_ok.mp h
      cases h
      exact ⟨some found, need_eq_ok_iff.mp hSource, .some (need_eq_ok_iff.mp hFound), rfl⟩
  · rintro ⟨hName, index, table, column, hSource, hColumn, rfl⟩
    refine bind_eq_ok.mpr ⟨(), checkName_eq_ok_iff.mpr hName, ?_⟩
    refine bind_eq_ok.mpr ⟨(index, table), need_eq_ok_iff.mpr hSource, ?_⟩
    generalize hGiven : d.basisColumn = given at hColumn
    cases hColumn with
    | none => rfl
    | some hFound => exact bind_eq_ok.mpr ⟨_, need_eq_ok_iff.mpr hFound, rfl⟩

theorem FieldBound.name_eq {d : FieldDefinition} {field : Field} (h : FieldBound scope d field) :
    field.name = d.name := by
  obtain ⟨_, _, _, _, _, _, rfl⟩ := h
  rfl

theorem FieldBound.isSome_column {d : FieldDefinition} {field : Field}
    (h : FieldBound scope d field) : field.column.isSome = d.basisColumn.isSome := by
  obtain ⟨_, _, _, _, _, hColumn, rfl⟩ := h
  generalize d.basisColumn = given at hColumn
  cases hColumn <;> rfl

theorem names_of_fieldsBound {ds : List FieldDefinition} {fields : List Field}
    (h : List.Forall₂ (FieldBound scope) ds fields) :
    fields.map (·.name) = ds.map (·.name) := by
  induction h with
  | nil => rfl
  | cons hFirst _ ih => rw [List.map_cons, List.map_cons, hFirst.name_eq, ih]

theorem bindFields_eq_ok_iff {ds : List FieldDefinition} {bound fields : List Field}
    (hBound : (bound.map (·.name)).Nodup) :
    bindFields model scope bound ds = .ok fields ↔
      ∃ more, fields = bound ++ more ∧ List.Forall₂ (FieldBound scope) ds more ∧
        (bound.map (·.name) ++ ds.map (·.name)).Nodup := by
  induction ds generalizing bound with
  | nil =>
    simp only [List.forall₂_nil_left_iff, List.map_nil, List.append_nil]
    constructor
    · intro h
      cases h
      exact ⟨[], (List.append_nil _).symm, rfl, hBound⟩
    · rintro ⟨_, rfl, rfl, _⟩
      rw [List.append_nil]
      rfl
  | cons d rest ih =>
    rw [bindFields]
    dsimp only
    constructor
    · intro h
      split at h
      · cases h
      · rename_i hFresh
        obtain ⟨field, hField, h⟩ := bind_eq_ok.mp h
        have hFieldBound := bindField_eq_ok_iff.mp hField
        have hFresh := any_name_eq_false_iff.mp (Bool.eq_false_iff.mpr hFresh)
        rw [← hFieldBound.name_eq] at hFresh
        obtain ⟨more, rfl, hMore, hNames⟩ := (ih (nodup_append_fresh hBound hFresh)).mp h
        refine ⟨field :: more, by simp, .cons hFieldBound hMore, ?_⟩
        simpa [hFieldBound.name_eq] using hNames
    · rintro ⟨more, rfl, hMore, hNames⟩
      obtain ⟨field, others, hField, hOthers, rfl⟩ := List.forall₂_cons_left_iff.mp hMore
      have hSplit : ((bound ++ [field]).map (·.name) ++ rest.map (·.name)).Nodup := by
        simpa [hField.name_eq] using hNames
      have hFresh : bound.any (·.name == d.name) = false := by
        apply any_name_eq_false_iff.mpr
        intro hMem
        exact (List.nodup_append.mp hNames).2.2 _ hMem _ List.mem_cons_self rfl
      rw [if_neg (Bool.eq_false_iff.mp hFresh)]
      refine bind_eq_ok.mpr ⟨field, bindField_eq_ok_iff.mpr hField, ?_⟩
      apply (ih (List.nodup_append.mp hSplit).1).mpr
      exact ⟨others, by simp, hOthers, hSplit⟩

theorem hasColumn_iff {fields : List Field} {name : String} :
    hasColumn fields name = true ↔
      ∃ field ∈ fields, field.name = name ∧ field.column.isSome = true := by
  simp [hasColumn]

theorem bindOrders_eq_ok_iff {fields : List Field} {ds : List OrderDefinition}
    {orders : List OrderBy} :
    ds.mapM (bindOrder model fields) = .ok orders ↔
      (∀ d ∈ ds, hasColumn fields d.fieldName = true) ∧
        orders = ds.map fun d => ⟨d.fieldName, d.direction⟩ := by
  have hOne (d : OrderDefinition) (order : OrderBy) : bindOrder model fields d = .ok order ↔
      hasColumn fields d.fieldName = true ∧ order = ⟨d.fieldName, d.direction⟩ := by
    unfold bindOrder
    cases hasColumn fields d.fieldName <;> simp [invalid, eq_comm]
  rw [mapM_eq_ok]
  induction ds generalizing orders with
  | nil => simp
  | cons d rest ih =>
    rw [List.forall₂_cons_left_iff, List.map_cons, List.forall_mem_cons]
    constructor
    · rintro ⟨order, others, hFirst, hRest, rfl⟩
      obtain ⟨hHas, rfl⟩ := (hOne d order).mp hFirst
      obtain ⟨hAll, rfl⟩ := ih.mp hRest
      exact ⟨⟨hHas, hAll⟩, rfl⟩
    · rintro ⟨⟨hHas, hAll⟩, rfl⟩
      exact ⟨_, _, (hOne d _).mpr ⟨hHas, rfl⟩, ih.mpr ⟨hAll, rfl⟩, rfl⟩

inductive FilterBound (fields : List Field) : Option String → Option Sql.Expr → Prop
  | none : FilterBound fields none none
  | some {text : String} {filter : Option Sql.Expr} (h : FilterText.read text fields = .ok filter) :
      FilterBound fields (some text) filter

theorem bindFilter_eq_ok_iff {fields : List Field} {text : Option String}
    {filter : Option Sql.Expr} :
    bindFilter model fields text = .ok filter ↔ FilterBound fields text filter := by
  cases text with
  | none =>
    constructor
    · intro h
      cases h
      exact .none
    · intro h
      cases h
      rfl
  | some text =>
    rw [bindFilter]
    constructor
    · intro h
      split at h
      · rename_i hRead
        cases h
        exact .some hRead
      · cases h
    · intro h
      cases h with
      | some hRead => rw [hRead]

/-- The definition is bound to the entity, with its basis table and what its steps join. -/
structure EntityBound (catalog : Catalog) (d : EntityDefinition) (basis : Table) (scope : Scope)
    (entity : Entity) : Prop where
  name : ∃ name, ModelName.ofText d.displayName = .ok name
  basisTable : ∃ name, d.basisTable = some name ∧ Entries.get? catalog name = some basis
  steps : StepsBound catalog ⟨basis, []⟩ d.steps scope
  fields : List.Forall₂ (FieldBound scope) d.fields entity.fields
  distinct : (d.fields.map (·.name)).Nodup
  order : ∀ o ∈ d.orderBy, hasColumn entity.fields o.fieldName = true
  filter : FilterBound entity.fields d.filter entity.filter
  entity_eq : entity = {
    name := d.displayName
    basisTable := ⟨basis.name, basis.storageName⟩
    steps := scope.steps
    fields := entity.fields
    key := keyPosition? basis entity.fields
    orderBy := d.orderBy.map fun o => ⟨o.fieldName, o.direction⟩
    filter := entity.filter
    limit := d.limit }

theorem bindEntity_eq_ok_iff {d : EntityDefinition} {entity : Entity} :
    bindEntity catalog d = .ok entity ↔
      ∃ basis scope, EntityBound catalog d basis scope entity := by
  unfold bindEntity
  constructor
  · intro h
    obtain ⟨basisName, hBasisName, h⟩ := bind_eq_ok.mp h
    obtain ⟨name, hName, h⟩ := bind_eq_ok.mp h
    obtain ⟨basis, hBasis, h⟩ := bind_eq_ok.mp h
    obtain ⟨scope, hScope, h⟩ := bind_eq_ok.mp h
    obtain ⟨fields, hFields, h⟩ := bind_eq_ok.mp h
    obtain ⟨orders, hOrders, h⟩ := bind_eq_ok.mp h
    obtain ⟨filter, hFilter, h⟩ := bind_eq_ok.mp h
    obtain ⟨more, rfl, hBound, hNames⟩ := (bindFields_eq_ok_iff (by simp)).mp hFields
    obtain ⟨hOrder, rfl⟩ := bindOrders_eq_ok_iff.mp hOrders
    cases h
    exact ⟨basis, scope, ⟨name, hName⟩, ⟨basisName, need_eq_ok_iff.mp hBasisName,
      table_eq_ok_iff.mp hBasis⟩, bindSteps_eq_ok_iff.mp hScope, hBound, hNames, hOrder,
      bindFilter_eq_ok_iff.mp hFilter, rfl⟩
  · rintro ⟨basis, scope, ⟨name, hName⟩, ⟨basisName, hBasisName, hBasis⟩, hScope, hFields,
      hNames, hOrder, hFilter, hEntity⟩
    refine bind_eq_ok.mpr ⟨basisName, need_eq_ok_iff.mpr hBasisName, ?_⟩
    refine bind_eq_ok.mpr ⟨name, hName, ?_⟩
    refine bind_eq_ok.mpr ⟨basis, table_eq_ok_iff.mpr hBasis, ?_⟩
    refine bind_eq_ok.mpr ⟨scope, bindSteps_eq_ok_iff.mpr hScope, ?_⟩
    refine bind_eq_ok.mpr ⟨entity.fields, ?_, ?_⟩
    · exact (bindFields_eq_ok_iff (by simp)).mpr ⟨_, rfl, hFields, hNames⟩
    refine bind_eq_ok.mpr ⟨_, bindOrders_eq_ok_iff.mpr ⟨hOrder, rfl⟩, ?_⟩
    refine bind_eq_ok.mpr ⟨entity.filter, bindFilter_eq_ok_iff.mpr hFilter, ?_⟩
    exact congrArg _ hEntity.symm

/-- The link that a definition declares, in the newer way or else in the older one. -/
def Declares (d : EntityDefinition) (link : LinkDefinition) : Prop :=
  d.parentLink = some link ∨ d.parentLink = none ∧ d.foreignKeys = [link]

theorem declaredLink_eq_ok_iff {parent child : String} {d : EntityDefinition}
    {link : LinkDefinition} : declaredLink parent child d = .ok link ↔ Declares d link := by
  unfold declaredLink Declares
  cases d.parentLink with
  | some declared => simp
  | none =>
    rcases d.foreignKeys with _ | ⟨first, _ | ⟨second, rest⟩⟩ <;> simp [invalid]

/-- The child is linked to the parent by a field of its own and one of the parent's, both
with a column. -/
structure LinkBound (parent : Entity) (d : EntityDefinition) (child entity : Entity) : Prop where
  link : ∃ link, Declares d link ∧ hasColumn parent.fields link.parentField = true ∧
    ((child.field? link.childField).bind Field.storageName?).isSome = true ∧
    entity = { child with parentLink := some ⟨link.parentField, link.childField⟩ }

theorem linkChild_eq_ok_iff {parent child entity : Entity} {d : EntityDefinition} :
    linkChild parent d child = .ok entity ↔ LinkBound parent d child entity := by
  unfold linkChild
  constructor
  · intro h
    obtain ⟨link, hLink, h⟩ := bind_eq_ok.mp h
    dsimp only at h
    split at h
    · cases h
    · rename_i hParent
      split at h
      · cases h
      · rename_i hChild
        cases h
        refine ⟨link, declaredLink_eq_ok_iff.mp hLink, ?_, ?_, rfl⟩
        · simpa using hParent
        · exact Option.isNone_eq_false_iff.mp (Bool.eq_false_iff.mpr hChild)
  · rintro ⟨link, hLink, hParent, hChild, rfl⟩
    refine bind_eq_ok.mpr ⟨link, declaredLink_eq_ok_iff.mpr hLink, ?_⟩
    dsimp only
    rw [if_neg (by simp [hParent]),
      if_neg (Bool.eq_false_iff.mp (Option.isNone_eq_false_iff.mpr hChild))]

theorem LinkBound.name_eq {parent child entity : Entity} {d : EntityDefinition}
    (h : LinkBound parent d child entity) : entity.name = child.name := by
  obtain ⟨_, _, _, _, rfl⟩ := h
  rfl

theorem bind_eq_ok_iff {d : EntityDefinition} {children : List Definition} {bound : Model} :
    bind catalog (.node d children) = .ok bound ↔ ∃ entity models,
      bindEntity catalog d = .ok entity ∧ bindChildren catalog entity [] children = .ok models ∧
        bound = .node entity models := by
  rw [bind]
  constructor
  · intro h
    obtain ⟨entity, hEntity, h⟩ := bind_eq_ok.mp h
    obtain ⟨models, hModels, h⟩ := bind_eq_ok.mp h
    cases h
    exact ⟨entity, models, hEntity, hModels, rfl⟩
  · rintro ⟨entity, models, hEntity, hModels, rfl⟩
    exact bind_eq_ok.mpr ⟨entity, hEntity, bind_eq_ok.mpr ⟨models, hModels, rfl⟩⟩

theorem bindChildren_cons_eq_ok_iff {parent : Entity} {bound models : List Model}
    {d : Definition} {rest : List Definition} :
    bindChildren catalog parent bound (d :: rest) = .ok models ↔ ∃ child entity,
      bind catalog d = .ok child ∧ LinkBound parent d.entity child.entity entity ∧
        entity.name ∉ bound.map Model.name ∧
        bindChildren catalog parent (bound ++ [.node entity child.children]) rest = .ok models := by
  rw [bindChildren]
  constructor
  · intro h
    obtain ⟨child, hChild, h⟩ := bind_eq_ok.mp h
    obtain ⟨entity, hLink, h⟩ := bind_eq_ok.mp h
    dsimp only at h
    split at h
    · cases h
    · rename_i hFresh
      exact ⟨child, entity, hChild, linkChild_eq_ok_iff.mp hLink,
        any_name_eq_false_iff.mp (Bool.eq_false_iff.mpr hFresh), h⟩
  · rintro ⟨child, entity, hChild, hLink, hFresh, h⟩
    refine bind_eq_ok.mpr ⟨child, hChild, ?_⟩
    refine bind_eq_ok.mpr ⟨entity, linkChild_eq_ok_iff.mpr hLink, ?_⟩
    dsimp only
    rw [if_neg (Bool.eq_false_iff.mp (any_name_eq_false_iff.mpr hFresh))]
    exact h

end RowTree.Compile
