import RowTree.Proofs.Compiled
import RowTree.Session.Save

/-!
# What is done under a row

Saving and deleting what is under a row goes through its child models one by one and replaces
their rows. The row itself stays as it is, and so do the rows under all other names.
-/

namespace RowTree

open Schema

theorem childRows?_setChildRows_of_ne {row : Row} {name other : String} (rows : List Row)
    (h : name ≠ other) : (row.setChildRows name rows).childRows? other = row.childRows? other :=
  Entries.get?_set_of_ne _ rows h

theorem setChildRows_self {row : Row} {name : String} {rows : List Row}
    (h : row.childRows? name = some rows) : row.setChildRows name rows = row := by
  rw [Row.setChildRows, Entries.set_self h]
  cases row
  rfl

/-- At most the rows of the models have changed. -/
structure OnlyUnder (models : List String) (row saved : Row) : Prop where
  data : saved.data = row.data
  id : saved.id = row.id
  foreignKey : saved.foreignKey = row.foreignKey
  state : saved.state = row.state
  tempId : saved.tempId = row.tempId
  names : Entries.names saved.children = Entries.names row.children
  others : ∀ p : String → Bool, (∀ model ∈ models, p model = false) →
    saved.children.filter (fun entry => p entry.1) = row.children.filter (fun entry => p entry.1)

namespace OnlyUnder

variable {models : List String} {row between saved : Row}

theorem refl (models : List String) (row : Row) : OnlyUnder models row row :=
  ⟨rfl, rfl, rfl, rfl, rfl, rfl, fun _ _ => rfl⟩

theorem trans (h : OnlyUnder models row between) (h' : OnlyUnder models between saved) :
    OnlyUnder models row saved where
  data := h'.data.trans h.data
  id := h'.id.trans h.id
  foreignKey := h'.foreignKey.trans h.foreignKey
  state := h'.state.trans h.state
  tempId := h'.tempId.trans h.tempId
  names := h'.names.trans h.names
  others p hp := (h'.others p hp).trans (h.others p hp)

theorem mono {more : List String} (hModels : models ⊆ more) (h : OnlyUnder models row saved) :
    OnlyUnder more row saved :=
  { h with others := fun p hp => h.others p fun model hModel => hp model (hModels hModel) }

theorem setChildRows {model : String} {rows : List Row} (h : row.childRows? model = some rows)
    (hModel : model ∈ models) (others : List Row) :
    OnlyUnder models row (row.setChildRows model others) where
  data := rfl
  id := rfl
  foreignKey := rfl
  state := rfl
  tempId := rfl
  names := by
    have hThere : model ∈ Entries.names row.children := by
      by_contra hNone
      have hNone : row.childRows? model = none := Entries.get?_eq_none_iff.mpr hNone
      rw [h] at hNone
      cases hNone
    exact (Entries.names_set _ _ _).trans (if_pos hThere)
  others p hp := Entries.filter_set _ _ _ p (hp model hModel)

end OnlyUnder

/-- Child model by child model, the rows of it that there are were replaced by others. -/
inductive Replaced (r : Model → List Row → List Row → Prop) : List Model → Row → Row → Prop
  | nil {row : Row} : Replaced r [] row row
  | none {child : Model} {rest : List Model} {row saved : Row}
      (hNone : row.childRows? child.name = none) (hRest : Replaced r rest row saved) :
      Replaced r (child :: rest) row saved
  | some {child : Model} {rest : List Model} {row saved : Row} {rows others : List Row}
      (hRows : row.childRows? child.name = some rows) (hOthers : r child rows others)
      (hRest : Replaced r rest (row.setChildRows child.name others) saved) :
      Replaced r (child :: rest) row saved

namespace Replaced

variable {r : Model → List Row → List Row → Prop} {children : List Model} {row saved : Row}

theorem onlyUnder (h : Replaced r children row saved) :
    OnlyUnder (children.map Model.name) row saved := by
  induction h with
  | nil => exact .refl _ _
  | none _ _ ih => exact ih.mono (List.subset_cons_self _ _)
  | some hRows _ _ ih =>
    exact (OnlyUnder.setChildRows hRows List.mem_cons_self _).trans
      (ih.mono (List.subset_cons_self _ _))

theorem frame (h : Replaced r children row saved) {name : String}
    (hName : name ∉ children.map Model.name) : saved.childRows? name = row.childRows? name := by
  induction h with
  | nil => rfl
  | none _ _ ih =>
    rw [List.map_cons, List.mem_cons, not_or] at hName
    exact ih hName.2
  | some _ _ _ ih =>
    rw [List.map_cons, List.mem_cons, not_or] at hName
    rw [ih hName.2, childRows?_setChildRows_of_ne _ (Ne.symm hName.1)]

theorem childRows? (hChildren : Siblings children) (h : Replaced r children row saved) :
    ∀ child ∈ children,
      Option.Rel (r child) (row.childRows? child.name) (saved.childRows? child.name) := by
  induction h with
  | nil => exact List.forall_mem_nil _
  | none hNone hRest ih =>
    refine List.forall_mem_cons.mpr ⟨?_, ih hChildren.tail⟩
    rw [hRest.frame hChildren.fresh, hNone]
    exact .none
  | some hRows hOthers hRest ih =>
    refine List.forall_mem_cons.mpr ⟨?_, fun c hc => ?_⟩
    · rw [hRest.frame hChildren.fresh, hRows, Row.setChildRows, Row.childRows?,
        Entries.get?_set_self]
      exact .some hOthers
    · have hLater := ih hChildren.tail c hc
      rwa [childRows?_setChildRows_of_ne _ (hChildren.name_ne hc)] at hLater

end Replaced

section

variable {driver : Driver}

theorem deleteChildren_replaced {children : List Model} {row saved : Row}
    (h : (deleteChildren driver row children).Gives saved) :
    Replaced (fun child rows others => List.Forall₂ (fun r s =>
      (if r.isUnsaved then pure r else deleteRow driver r child).Gives s) rows others)
      children row saved := by
  induction children generalizing row with
  | nil =>
    rw [deleteChildren_nil] at h
    rw [Session.gives_pure h]
    exact .nil
  | cons child rest ih =>
    rw [deleteChildren_cons] at h
    cases hRows : row.childRows? child.name with
    | none =>
      rw [hRows] at h
      exact .none hRows (ih h)
    | some rows =>
      rw [hRows] at h
      obtain ⟨others, hEach, h⟩ := Session.gives_bind h
      exact .some hRows (Session.gives_mapM hEach) (ih h)

theorem saveChildren_replaced {children : List Model} {row saved : Row}
    (h : (saveChildren driver row children).Gives saved) :
    Replaced (fun child rows others =>
      rows = [] ∧ others = [] ∨ (saveRows driver rows child).Gives others) children row saved := by
  induction children generalizing row with
  | nil =>
    rw [saveChildren_nil] at h
    rw [Session.gives_pure h]
    exact .nil
  | cons child rest ih =>
    rw [saveChildren_cons] at h
    split at h
    · rename_i hRows
      exact .none hRows (ih h)
    · rename_i hRows
      refine .some hRows (.inl ⟨rfl, rfl⟩) ?_
      rw [setChildRows_self hRows]
      exact ih h
    · rename_i first others hRows
      obtain ⟨rows, hSaved, h⟩ := Session.gives_bind h
      exact .some hRows (.inr hSaved) (ih h)

end

theorem stitch_onlyUnder (entity : Entity) (children : List Model) (row : Row) :
    OnlyUnder (children.map Model.name) row (stitch entity row (children.map Model.entity)) := by
  induction children generalizing row with
  | nil => exact .refl _ _
  | cons child rest ih =>
    rw [List.map_cons, List.map_cons, stitch, List.foldl_cons]
    refine OnlyUnder.trans ?_ ((ih _).mono (List.subset_cons_self _ _))
    split
    · rename_i hRows
      exact .setChildRows hRows List.mem_cons_self _
    · exact .refl _ _

end RowTree
