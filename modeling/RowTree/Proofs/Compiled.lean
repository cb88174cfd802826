import RowTree.Proofs.Binding

/-!
# Compiled models

What binding a definition makes sure of at every depth of the model: no two
fields of an entity and no two children of a model bear one name, and every
child is linked to its parent through a field with a column.
-/

namespace RowTree.Schema

open Compile Outcome

/-- Some definition was bound to the model over some catalog. -/
def Model.Compiled (model : Model) : Prop := ∃ catalog d, Compile.bind catalog d = .ok model

/-- The entity finds its parents through a field of its own with a column. -/
def Entity.Linked (entity : Entity) : Prop :=
  ∃ link field column, entity.parentLink = some link ∧
    entity.field? link.childField = some field ∧ field.storageName? = some column

inductive Model.WellFormed : Model → Prop
  | node {entity : Entity} {children : List Model}
      (fields : (entity.fields.map (·.name)).Nodup)
      (names : (children.map Model.name).Nodup)
      (linked : ∀ child ∈ children, child.entity.Linked)
      (below : ∀ child ∈ children, child.WellFormed) :
      (Model.node entity children).WellFormed

/-- Models that can stand side by side under one parent. -/
structure Siblings (children : List Model) : Prop where
  names : (children.map Model.name).Nodup
  linked : ∀ child ∈ children, child.entity.Linked
  below : ∀ child ∈ children, child.WellFormed

theorem Model.WellFormed.fields {model : Model} (h : model.WellFormed) :
    (model.entity.fields.map (·.name)).Nodup := by
  cases h with
  | node fields _ _ _ => exact fields

theorem Model.WellFormed.names {model : Model} (h : model.WellFormed) :
    (model.children.map Model.name).Nodup := by
  cases h with
  | node _ names _ _ => exact names

theorem Model.WellFormed.siblings {entity : Entity} {children : List Model}
    (h : (Model.node entity children).WellFormed) : Siblings children := by
  cases h with
  | node _ names linked below => exact ⟨names, linked, below⟩

/-- The model itself and every model at any depth below it. -/
inductive Model.Within (top : Model) : Model → Prop
  | self : Within top top
  | child {model child : Model} (above : Within top model) (mem : child ∈ model.children) :
      Within top child

theorem Model.WellFormed.within {top model : Model} (h : top.WellFormed)
    (hWithin : top.Within model) : model.WellFormed := by
  induction hWithin with
  | self => exact h
  | child _ hChild ih =>
    cases ih with
    | node _ _ _ below => exact below _ hChild

namespace Siblings

variable {child c : Model} {rest : List Model}

theorem first (h : Siblings (child :: rest)) : child.WellFormed := h.below child List.mem_cons_self

theorem fresh (h : Siblings (child :: rest)) : child.name ∉ rest.map Model.name :=
  (List.nodup_cons.mp h.names).1

theorem name_ne (h : Siblings (child :: rest)) (hc : c ∈ rest) : child.name ≠ c.name := by
  intro hName
  exact h.fresh (hName ▸ List.mem_map_of_mem hc)

theorem tail (h : Siblings (child :: rest)) : Siblings rest where
  names := (List.nodup_cons.mp h.names).2
  linked c hc := h.linked c (List.mem_cons_of_mem _ hc)
  below c hc := h.below c (List.mem_cons_of_mem _ hc)

end Siblings

theorem bindEntity_fields {catalog : Catalog} {d : EntityDefinition} {entity : Entity}
    (h : bindEntity catalog d = .ok entity) : (entity.fields.map (·.name)).Nodup := by
  obtain ⟨_, _, hBound⟩ := bindEntity_eq_ok_iff.mp h
  rw [names_of_fieldsBound hBound.fields]
  exact hBound.distinct

theorem linked_of_linkBound {parent child entity : Entity} {d : EntityDefinition}
    (h : LinkBound parent d child entity) :
    entity.Linked ∧ ∃ link, entity = { child with parentLink := link } := by
  obtain ⟨link, _, _, hColumn, rfl⟩ := h
  obtain ⟨column, hColumn⟩ := Option.isSome_iff_exists.mp hColumn
  obtain ⟨field, hField, hName⟩ := Option.bind_eq_some_iff.mp hColumn
  exact ⟨⟨_, field, column, rfl, hField, hName⟩, _, rfl⟩

theorem Model.WellFormed.relink {entity : Entity} {child : Model} {link : Option ParentLink}
    (h : child.WellFormed) (hEntity : entity = { child.entity with parentLink := link }) :
    (Model.node entity child.children).WellFormed := by
  subst hEntity
  cases h with
  | node fields names linked below => exact .node fields names linked below

mutual

theorem wellFormed_of_bind {catalog : Catalog} (d : Definition) {model : Model}
    (h : Compile.bind catalog d = .ok model) : model.WellFormed := by
  cases d with
  | node d children =>
    obtain ⟨entity, models, hEntity, hModels, rfl⟩ := bind_eq_ok_iff.mp h
    obtain ⟨names, each⟩ := children_of_bind children (by simp) (by simp) hModels
    exact .node (bindEntity_fields hEntity) names (fun c hc => (each c hc).1)
      (fun c hc => (each c hc).2)

theorem children_of_bind {catalog : Catalog} {parent : Entity} (ds : List Definition)
    {bound models : List Model} (hNames : (bound.map Model.name).Nodup)
    (hBound : ∀ child ∈ bound, child.entity.Linked ∧ child.WellFormed)
    (h : bindChildren catalog parent bound ds = .ok models) :
    (models.map Model.name).Nodup ∧ ∀ child ∈ models, child.entity.Linked ∧ child.WellFormed := by
  cases ds with
  | nil =>
    cases h
    exact ⟨hNames, hBound⟩
  | cons d rest =>
    obtain ⟨child, entity, hChild, hLink, hFresh, h⟩ := bindChildren_cons_eq_ok_iff.mp h
    obtain ⟨hLinked, link, hEntity⟩ := linked_of_linkBound hLink
    have hWell := (wellFormed_of_bind d hChild).relink hEntity
    refine children_of_bind rest
      (nodup_append_fresh (a := Model.node entity child.children) hNames hFresh) ?_ h
    intro c hc
    rcases List.mem_append.mp hc with hc | hc
    · exact hBound c hc
    · cases List.mem_singleton.mp hc
      exact ⟨hLinked, hWell⟩

end

theorem Model.Compiled.wellFormed {model : Model} (h : model.Compiled) : model.WellFormed := by
  obtain ⟨_, d, h⟩ := h
  exact wellFormed_of_bind d h

/-- The model was bound from some definition and then maybe linked to the one above it. -/
def Model.BoundIn (catalog : Catalog) (model : Model) : Prop :=
  ∃ d own link, Compile.bind catalog d = .ok own ∧
    model.entity = { own.entity with parentLink := link } ∧ model.children = own.children

theorem boundIn_of_mem_bindChildren {catalog : Catalog} {parent : Entity} {ds : List Definition}
    {bound models : List Model} (h : bindChildren catalog parent bound ds = .ok models)
    (hBound : ∀ child ∈ bound, child.BoundIn catalog) :
    ∀ child ∈ models, child.BoundIn catalog := by
  induction ds generalizing bound with
  | nil =>
    cases h
    exact hBound
  | cons d rest ih =>
    obtain ⟨own, entity, hOwn, hLink, _, h⟩ := bindChildren_cons_eq_ok_iff.mp h
    obtain ⟨_, link, hEntity⟩ := linked_of_linkBound hLink
    refine ih h ?_
    intro child hChild
    rcases List.mem_append.mp hChild with hChild | hChild
    · exact hBound child hChild
    · cases List.mem_singleton.mp hChild
      exact ⟨d, own, link, hOwn, hEntity, rfl⟩

theorem boundIn_of_within {catalog : Catalog} {d : Definition} {top model : Model}
    (h : Compile.bind catalog d = .ok top) (hWithin : top.Within model) :
    model.BoundIn catalog := by
  induction hWithin with
  | self => exact ⟨d, top, top.entity.parentLink, h, rfl, rfl⟩
  | child _ hChild ih =>
    obtain ⟨d, own, _, hOwn, _, hChildren⟩ := ih
    rw [hChildren] at hChild
    cases d with
    | node d ds =>
      obtain ⟨entity, models, _, hModels, rfl⟩ := bind_eq_ok_iff.mp hOwn
      exact boundIn_of_mem_bindChildren hModels (fun _ h => by cases h) _ hChild

/-- Every entity at any depth was bound from a definition. -/
theorem entity_of_within {catalog : Catalog} {d : Definition} {top model : Model}
    (h : Compile.bind catalog d = .ok top) (hWithin : top.Within model) :
    ∃ d entity link, bindEntity catalog d = .ok entity ∧
      model.entity = { entity with parentLink := link } := by
  obtain ⟨⟨d, ds⟩, own, link, hOwn, hEntity, _⟩ := boundIn_of_within h hWithin
  obtain ⟨entity, _, hBound, _, rfl⟩ := bind_eq_ok_iff.mp hOwn
  exact ⟨d, entity, link, hBound, hEntity⟩

theorem Model.Compiled.exists_entityBound {top model : Model} (hTop : top.Compiled)
    (hWithin : top.Within model) : ∃ catalog d basis scope entity link,
      EntityBound catalog d basis scope entity ∧
        model.entity = { entity with parentLink := link } := by
  obtain ⟨catalog, d, h⟩ := hTop
  obtain ⟨own, entity, link, hOwn, hEntity⟩ := entity_of_within h hWithin
  obtain ⟨basis, scope, hBound⟩ := bindEntity_eq_ok_iff.mp hOwn
  exact ⟨catalog, own, basis, scope, entity, link, hBound, hEntity⟩

namespace Family

def table (name storageName key : String) (columns : List (String × String)) : Table where
  name := name
  storageName := storageName
  columns := columns.map fun column => { name := column.1, storageName := column.2 }
  primaryKey := some key

def catalog : Catalog := Catalog.ofTables [
  table "Person" "person" "PersonID" [("PersonID", "id"), ("Name", "name")],
  table "Child" "child" "ChildID" [("ChildID", "id"), ("ParentID", "parent_id"), ("Name", "name")],
  table "Toy" "toy" "ToyID" [("ToyID", "id"), ("OwnerID", "owner_id")]]

def entityDefinition (name : String) (fields : List String) (link : Option LinkDefinition) :
    EntityDefinition where
  name := some name
  basisTable := some name
  fields := fields.map fun field => { name := field, basisColumn := some field }
  parentLink := link

/-- Persons with children, and children with toys. -/
def definition : Definition :=
  .node (entityDefinition "Person" ["PersonID", "Name"] none)
    [.node (entityDefinition "Child" ["ChildID", "ParentID", "Name"] (some ⟨"PersonID", "ParentID"⟩))
      [.node (entityDefinition "Toy" ["ToyID", "OwnerID"] (some ⟨"ChildID", "OwnerID"⟩)) []]]

def field (name storageName : String) : Field where
  name := name
  column := some ⟨name, storageName⟩

def toy : Entity where
  name := "Toy"
  basisTable := ⟨"Toy", "toy"⟩
  fields := [field "ToyID" "id", field "OwnerID" "owner_id"]
  key := some 0
  parentLink := some ⟨"ChildID", "OwnerID"⟩

def child : Entity where
  name := "Child"
  basisTable := ⟨"Child", "child"⟩
  fields := [field "ChildID" "id", field "ParentID" "parent_id", field "Name" "name"]
  key := some 0
  parentLink := some ⟨"PersonID", "ParentID"⟩

def person : Entity where
  name := "Person"
  basisTable := ⟨"Person", "person"⟩
  fields := [field "PersonID" "id", field "Name" "name"]
  key := some 0

def model : Model := .node person [.node child [.node toy []]]

theorem model_compiled : model.Compiled := ⟨catalog, definition, rfl⟩

end Family

end RowTree.Schema
