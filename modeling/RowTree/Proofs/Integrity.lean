import RowTree.Proofs.Sharing

/-!
# The integrity of compiled models

Whatever uses a compiled model looks things up in it by position and by name and does not ask
whether they are there. Binding makes sure of that: at every depth the steps are numbered and
refer back only, names tell apart what they name, the key and the links point at fields with
columns, and everything stands in the order of the definition.
-/

namespace RowTree.Schema

open Compile Outcome

/-- The field is on the basis table and bound to the column of its primary key. -/
def Field.HoldsKey (basis : Table) (field : Field) : Prop :=
  field.step = 0 ∧ ∃ column, basis.primaryKeyColumn? = some column ∧
    field.column = some ⟨column.name, column.storageName⟩

def HasColumnField (fields : List Field) (name : String) : Prop :=
  ∃ field ∈ fields, field.name = name ∧ field.column.isSome = true

/-- The position is that of the first field that holds the key, if there is one. -/
structure FirstHoldsKey (basis : Table) (fields : List Field) (position : Option Nat) : Prop where
  first : ∀ i, position = some i ↔ ∃ field, fields[i]? = some field ∧ field.HoldsKey basis ∧
    ∀ j earlier, j < i → fields[j]? = some earlier → ¬earlier.HoldsKey basis
  none : position = none ↔ ∀ field ∈ fields, ¬field.HoldsKey basis

/-- What can be relied on in an entity that was bound from a definition. -/
structure Entity.Sound (catalog : Catalog) (d : EntityDefinition) (entity : Entity) : Prop where
  name : entity.name = d.displayName
  numbered : ∀ i step, entity.steps[i]? = some step → step.index = i + 1
  backward : ∀ step ∈ entity.steps, ∀ term ∈ step.join.terms, ∀ a column,
    term.source = .column a column → a < step.index
  in_range : ∀ field ∈ entity.fields, field.step ≤ entity.steps.length
  step_names : (entity.steps.map (·.name)).Nodup ∧
    ∀ step ∈ entity.steps, isCodeName step.name = true
  field_names : (entity.fields.map (·.name)).Nodup ∧
    ∀ field ∈ entity.fields, isCodeName field.name = true
  key : ∃ basisName basis, d.basisTable = some basisName ∧
    Entries.get? catalog basisName = some basis ∧
    entity.basisTable = ⟨basis.name, basis.storageName⟩ ∧
    FirstHoldsKey basis entity.fields entity.key
  ordered : ∀ entry ∈ entity.orderBy, HasColumnField entity.fields entry.field
  same_steps : entity.steps.map (·.name) = d.steps.map (·.name)
  same_fields : entity.fields.map (·.name) = d.fields.map (·.name)
  same_order : entity.orderBy = d.orderBy.map fun entry => ⟨entry.fieldName, entry.direction⟩

/-- The child is linked by a field of its own to one of the parent, both with a column. -/
def Entity.LinksTo (parent child : Entity) : Prop :=
  ∃ link, child.parentLink = some link ∧ HasColumnField parent.fields link.parentField ∧
    HasColumnField child.fields link.childField

/-- The model is sound at every depth, and its children are those of the definition. -/
inductive Model.Sound (catalog : Catalog) : Definition → Model → Prop
  | node {d : EntityDefinition} {ds : List Definition} {entity : Entity} {children : List Model}
      (own : entity.Sound catalog d) (names : (children.map Model.name).Nodup)
      (linked : ∀ child ∈ children, entity.LinksTo child.entity)
      (below : List.Forall₂ (Model.Sound catalog) ds children) :
      Model.Sound catalog (.node d ds) (.node entity children)

end RowTree.Schema

namespace RowTree.Compile

open Schema Outcome

variable {catalog : Catalog} {scope : Scope} {basis : Table}

theorem Scope.Sound.numbered (h : scope.Sound catalog) {i : Nat} {step : Step}
    (hStep : scope.steps[i]? = some step) : ∃ table, StepSound catalog scope i step table := by
  rw [Scope.steps, List.getElem?_map] at hStep
  obtain ⟨⟨step, table⟩, hEntry, rfl⟩ := Option.map_eq_some_iff.mp hStep
  exact ⟨table, h.joined i step table hEntry⟩

theorem StepsBound.names_eq {ds : List StepDefinition} {last : Scope}
    (h : StepsBound catalog scope ds last) :
    last.steps.map (·.name) = scope.steps.map (·.name) ++ ds.map (·.name) := by
  induction h with
  | nil => rw [List.map_nil, List.append_nil]
  | cons hStep _ _ ih =>
    rw [ih, hStep.step_eq]
    simp [Scope.steps]

theorem StepsBound.codeNames {ds : List StepDefinition} {last : Scope}
    (h : StepsBound catalog scope ds last) : ∀ d ∈ ds, isCodeName d.name = true := by
  induction h with
  | nil => exact List.forall_mem_nil _
  | cons hStep _ _ ih => exact List.forall_mem_cons.mpr ⟨hStep.name, ih⟩

theorem StepsBound.stepNames {ds : List StepDefinition} {last : Scope}
    (h : StepsBound catalog ⟨basis, []⟩ ds last) :
    last.steps.map (·.name) = ds.map (·.name) ∧ (last.steps.map (·.name)).Nodup ∧
      ∀ step ∈ last.steps, isCodeName step.name = true := by
  have hNames : last.steps.map (·.name) = ds.map (·.name) := h.names_eq
  refine ⟨hNames, hNames ▸ h.nodup_names List.nodup_nil, ?_⟩
  intro step hStep
  obtain ⟨d, hd, hName⟩ := List.mem_map.mp (hNames ▸ List.mem_map_of_mem hStep)
  exact hName ▸ h.codeNames d hd

theorem FieldBound.step_le (hScope : scope.Sound catalog) {d : FieldDefinition} {field : Field}
    (h : FieldBound scope d field) : field.step ≤ scope.steps.length := by
  obtain ⟨_, index, table, _, hSource, _, rfl⟩ := h
  rw [Scope.steps, List.length_map]
  exact Scope.le_of_table? (hScope.table?_of_source? hSource)

theorem column?_name {table : Table} {name : String} {column : Column}
    (h : table.column? name = some column) : table.column? column.name = some column := by
  have hName := List.find?_some h
  rw [beq_iff_eq.mp hName]
  exact h

/-- A column of a field on the basis table is the first of its name there, as the key is. -/
theorem FieldBound.holdsKey_iff (hScope : scope.Sound catalog) {d : FieldDefinition}
    {field : Field} (h : FieldBound scope d field) {key : Column}
    (hKey : scope.basis.primaryKeyColumn? = some key) :
    (field.onBasisTable && field.column.any (·.name == key.name)) = true ↔
      field.HoldsKey scope.basis := by
  obtain ⟨_, index, table, column, hSource, hColumn, rfl⟩ := h
  rw [Bool.and_eq_true, Field.HoldsKey, hKey]
  have hBasis : index = 0 → table = scope.basis := by
    rintro rfl
    exact (Option.some.inj (hScope.table?_of_source? hSource)).symm
  obtain ⟨name, _, hHeld⟩ := Option.bind_eq_some_iff.mp hKey
  generalize d.basisColumn = given at hColumn
  constructor
  · rintro ⟨hIndex, hName⟩
    refine ⟨beq_iff_eq.mp hIndex, key, rfl, ?_⟩
    cases hColumn with
    | none => cases hName
    | some hFound =>
      have hSame : _ = key.name := beq_iff_eq.mp hName
      have hFirst := column?_name hFound
      rw [hBasis (beq_iff_eq.mp hIndex)] at hFirst
      dsimp only at hSame
      rw [hSame, column?_name hHeld] at hFirst
      cases hFirst
      rfl
  · rintro ⟨hIndex, _, ⟨⟩, hColumn⟩
    refine ⟨beq_iff_eq.mpr hIndex, ?_⟩
    rw [hColumn]
    exact beq_self_eq_true key.name

theorem firstHoldsKey_findIdx? {fields : List Field} {holds : Field → Bool}
    (h : ∀ field ∈ fields, holds field = true ↔ field.HoldsKey basis) :
    FirstHoldsKey basis fields (fields.findIdx? holds) := by
  constructor
  case first =>
    intro i
    rw [List.findIdx?_eq_some_iff_getElem]
    constructor
    · rintro ⟨hLt, hAt, hEarlier⟩
      refine ⟨_, List.getElem?_eq_getElem hLt, (h _ (List.getElem_mem hLt)).mp hAt, ?_⟩
      intro j earlier hj hGet hEarly
      obtain ⟨_, rfl⟩ := List.getElem?_eq_some_iff.mp hGet
      exact hEarlier j hj ((h _ (List.mem_of_getElem? hGet)).mpr hEarly)
    · rintro ⟨field, hGet, hAt, hEarlier⟩
      obtain ⟨hLt, rfl⟩ := List.getElem?_eq_some_iff.mp hGet
      refine ⟨hLt, (h _ (List.getElem_mem hLt)).mpr hAt, ?_⟩
      intro j hj hEarly
      have hGet := List.getElem?_eq_getElem (hj.trans hLt)
      exact hEarlier j _ hj hGet ((h _ (List.getElem_mem _)).mp hEarly)
  case none =>
    rw [List.findIdx?_eq_none_iff]
    apply forall₂_congr
    intro field hField
    rw [← h field hField, Bool.not_eq_true]

theorem firstHoldsKey (hScope : scope.Sound catalog) {ds : List FieldDefinition}
    {fields : List Field} (hFields : List.Forall₂ (FieldBound scope) ds fields) :
    FirstHoldsKey scope.basis fields (keyPosition? scope.basis fields) := by
  cases hHeld : scope.basis.primaryKeyColumn? with
  | none =>
    have hNone : ∀ field ∈ fields, false = true ↔ field.HoldsKey scope.basis := by
      refine fun field _ => ⟨nofun, ?_⟩
      rintro ⟨_, column, hColumn, _⟩
      rw [hHeld] at hColumn
      cases hColumn
    have hPosition : keyPosition? scope.basis fields = fields.findIdx? fun _ => false := by
      rw [keyPosition?, hHeld, Option.bind_none]
      exact (List.findIdx?_eq_none_iff.mpr fun _ _ => rfl).symm
    rw [hPosition]
    exact firstHoldsKey_findIdx? hNone
  | some key =>
    rw [keyPosition?, hHeld, Option.bind_some]
    refine firstHoldsKey_findIdx? fun field hField => ?_
    obtain ⟨d, _, hBound⟩ := exists_of_mem_left hFields.flip hField
    exact hBound.holdsKey_iff hScope hHeld

theorem EntityBound.entitySound (hNames : OwnNames catalog) {d : EntityDefinition} {entity : Entity}
    (h : EntityBound catalog d basis scope entity) : entity.Sound catalog d := by
  obtain ⟨basisName, hBasisName, hBasis⟩ := h.basisTable
  have hScope : scope.Sound catalog := h.steps.sound hNames (sound_nil hNames hBasis)
  have hBasisEq : scope.basis = basis := h.steps.basis_eq
  have hSteps : entity.steps = scope.steps := congrArg Entity.steps h.entity_eq
  have hKey : entity.key = keyPosition? basis entity.fields := congrArg Entity.key h.entity_eq
  have hOrder : entity.orderBy = d.orderBy.map fun o => ⟨o.fieldName, o.direction⟩ :=
    congrArg Entity.orderBy h.entity_eq
  have hFieldNames := names_of_fieldsBound h.fields
  obtain ⟨hStepNames, hDistinct, hCodeNames⟩ := h.steps.stepNames
  constructor
  case name =>
    exact congrArg Entity.name h.entity_eq
  case numbered =>
    intro i step hStep
    obtain ⟨_, hSound⟩ := hScope.numbered (hSteps ▸ hStep)
    exact hSound.index
  case backward =>
    intro step hStep term hTerm a column hColumn
    obtain ⟨i, hi⟩ := List.getElem?_of_mem hStep
    obtain ⟨_, hSound⟩ := hScope.numbered (hSteps ▸ hi)
    rw [hSound.index]
    exact Nat.lt_succ_of_le (hSound.source term hTerm a column hColumn).1
  case in_range =>
    intro field hField
    obtain ⟨_, _, hBound⟩ := exists_of_mem_left h.fields.flip hField
    rw [hSteps]
    exact hBound.step_le hScope
  case step_names =>
    rw [hSteps]
    exact ⟨hDistinct, hCodeNames⟩
  case field_names =>
    refine ⟨hFieldNames ▸ h.distinct, ?_⟩
    intro field hField
    obtain ⟨_, _, hBound⟩ := exists_of_mem_left h.fields.flip hField
    rw [hBound.name_eq]
    exact hBound.name
  case key =>
    refine ⟨basisName, basis, hBasisName, hBasis, congrArg Entity.basisTable h.entity_eq, ?_⟩
    rw [hKey, ← hBasisEq]
    exact firstHoldsKey hScope h.fields
  case ordered =>
    intro entry hEntry
    rw [hOrder] at hEntry
    obtain ⟨o, ho, rfl⟩ := List.mem_map.mp hEntry
    exact Compile.hasColumn_iff.mp (h.order o ho)
  case same_steps =>
    rw [hSteps]
    exact hStepNames
  case same_fields =>
    exact hFieldNames
  case same_order =>
    exact hOrder

theorem LinkBound.linksTo {parent child entity : Entity} {d : EntityDefinition}
    (h : LinkBound parent d child entity) : parent.LinksTo entity := by
  obtain ⟨link, _, hParent, hChild, rfl⟩ := h
  obtain ⟨column, hColumn⟩ := Option.isSome_iff_exists.mp hChild
  obtain ⟨field, hField, hName⟩ := Option.bind_eq_some_iff.mp hColumn
  obtain ⟨bound, hBound, _⟩ := Option.map_eq_some_iff.mp hName
  refine ⟨_, rfl, hasColumn_iff.mp hParent, field, List.mem_of_find?_eq_some hField, ?_, ?_⟩
  · have hIs := List.find?_some hField
    exact beq_iff_eq.mp hIs
  · rw [hBound, Option.isSome_some]

end RowTree.Compile

namespace RowTree.Schema

open Compile Outcome

variable {catalog : Catalog}

theorem Entity.Sound.relink {d : EntityDefinition} {entity : Entity} (h : entity.Sound catalog d)
    (link : Option ParentLink) : { entity with parentLink := link : Entity }.Sound catalog d :=
  { h with }

theorem Model.Sound.relink {d : Definition} {model : Model} (h : model.Sound catalog d)
    (link : Option ParentLink) :
    (Model.node { model.entity with parentLink := link } model.children).Sound catalog d := by
  cases h with
  | node own names linked below => exact .node (own.relink link) names linked below

mutual

theorem sound_of_bind (hNames : OwnNames catalog) (d : Definition) {model : Model}
    (h : Compile.bind catalog d = .ok model) : model.Sound catalog d := by
  cases d with
  | node d ds =>
    obtain ⟨entity, models, hEntity, hModels, rfl⟩ := bind_eq_ok_iff.mp h
    obtain ⟨basis, scope, hBound⟩ := bindEntity_eq_ok_iff.mp hEntity
    obtain ⟨names, _⟩ := children_of_bind ds (by simp) (by simp) hModels
    obtain ⟨models, rfl, below, linked⟩ := sound_of_bindChildren hNames ds hModels
    exact .node (hBound.entitySound hNames) names linked below

theorem sound_of_bindChildren (hNames : OwnNames catalog) {parent : Entity} (ds : List Definition)
    {bound models : List Model} (h : bindChildren catalog parent bound ds = .ok models) :
    ∃ more, models = bound ++ more ∧ List.Forall₂ (Model.Sound catalog) ds more ∧
      ∀ child ∈ more, parent.LinksTo child.entity := by
  cases ds with
  | nil =>
    cases h
    exact ⟨[], (List.append_nil _).symm, .nil, List.forall_mem_nil _⟩
  | cons d rest =>
    obtain ⟨child, entity, hChild, hLink, _, hRest⟩ := bindChildren_cons_eq_ok_iff.mp h
    obtain ⟨more, rfl, below, linked⟩ := sound_of_bindChildren hNames rest hRest
    have hLinks := hLink.linksTo
    obtain ⟨_, link, rfl⟩ := linked_of_linkBound hLink
    refine ⟨_, List.append_assoc _ _ _, ?_, ?_⟩
    · exact .cons ((sound_of_bind hNames d hChild).relink link) below
    · exact List.forall_mem_cons.mpr ⟨hLinks, linked⟩

end

theorem linksTo_of_bindChildren {parent : Entity} {ds : List Definition}
    {bound models : List Model} (h : bindChildren catalog parent bound ds = .ok models)
    (hBound : ∀ child ∈ bound, parent.LinksTo child.entity) :
    ∀ child ∈ models, parent.LinksTo child.entity := by
  induction ds generalizing bound with
  | nil =>
    cases h
    exact hBound
  | cons d rest ih =>
    obtain ⟨_, entity, _, hLink, _, hRest⟩ := bindChildren_cons_eq_ok_iff.mp h
    refine ih hRest fun child hChild => ?_
    rcases List.mem_append.mp hChild with hChild | hChild
    · exact hBound child hChild
    · cases List.mem_singleton.mp hChild
      exact hLink.linksTo

/-- Children are linked at every depth, whatever the tables are called. -/
theorem Model.Compiled.linksTo {top model : Model} (hTop : top.Compiled)
    (hWithin : top.Within model) : ∀ child ∈ model.children, model.entity.LinksTo child.entity := by
  obtain ⟨catalog, d, h⟩ := hTop
  obtain ⟨⟨own, ds⟩, bound, link, hBound, hEntity, hChildren⟩ := boundIn_of_within h hWithin
  obtain ⟨entity, models, _, hModels, rfl⟩ := bind_eq_ok_iff.mp hBound
  have hLinks := linksTo_of_bindChildren hModels (List.forall_mem_nil _)
  rw [hEntity, hChildren]
  exact hLinks

theorem Model.Sound.within {d : Definition} {top model : Model} (h : top.Sound catalog d)
    (hWithin : top.Within model) : ∃ own, model.Sound catalog own := by
  induction hWithin with
  | self => exact ⟨d, h⟩
  | child _ hChild ih =>
    obtain ⟨_, hModel⟩ := ih
    cases hModel with
    | node _ _ _ below =>
      obtain ⟨own, _, hOwn⟩ := exists_of_mem_left below.flip hChild
      exact ⟨own, hOwn⟩

/-- Over tables that are held under their own names, what a definition is bound to is sound,
and so is every model at any depth of it. -/
theorem compiled_sound (hNames : OwnNames catalog) {d : Definition} {top : Model}
    (h : Compile.bind catalog d = .ok top) :
    top.Sound catalog d ∧ ∀ model, top.Within model → ∃ own, model.Sound catalog own := by
  have hTop := sound_of_bind hNames d h
  exact ⟨hTop, fun _ hWithin => hTop.within hWithin⟩

end RowTree.Schema

namespace RowTree.Sales

open Schema Compile

/-- The sales are joined with two tables, of which the second goes on from the first. -/
theorem sales_sound : OwnNames catalog ∧ Compile.bind catalog definition = .ok model ∧
    model.Sound catalog definition ∧ ∃ own, (Model.node sale []).Sound catalog own := by
  have hNames : OwnNames catalog := ownNames_ofTables _
  have hBind : Compile.bind catalog definition = .ok model := rfl
  have hWithin : model.Within (.node sale []) := .child .self (by simp [model, Model.children])
  obtain ⟨hTop, hEach⟩ := compiled_sound hNames hBind
  exact ⟨hNames, hBind, hTop, hEach _ hWithin⟩

end RowTree.Sales
