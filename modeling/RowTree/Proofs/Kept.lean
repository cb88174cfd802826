import RowTree.Proofs.Again

/-!
# What a save keeps

A save that does not fail gives back the rows it was given, in their places, at every depth of the
model. Of a row it changes no more than it has to: an inserted row gets its key and its id, the
rows right under it get its key in their link field, and what was pending is pending no more.
-/

namespace RowTree

open Schema

/-- The entries of all other names are the same and in the same order. No entry is lost or moved,
and new ones come last. -/
structure SameBut (may : String → Bool) (data saved : Record) : Prop where
  others : saved.filter (fun entry => !may entry.1) = data.filter (fun entry => !may entry.1)
  names : Entries.names data <+: Entries.names saved

namespace SameBut

variable {may : String → Bool} {data between saved : Record}

theorem refl (may : String → Bool) (data : Record) : SameBut may data data :=
  ⟨rfl, List.prefix_refl _⟩

theorem trans (h : SameBut may data between) (h' : SameBut may between saved) :
    SameBut may data saved :=
  ⟨h'.others.trans h.others, h.names.trans h'.names⟩

theorem set {name : String} (h : may name = true) (data : Record) (v : Value) :
    SameBut may data (Entries.set data name v) where
  others := Entries.filter_set _ _ _ (fun n => !may n) (by rw [h]; rfl)
  names := by
    rw [Entries.names_set]
    split
    · exact List.prefix_refl _
    · exact List.prefix_append _ _

theorem mono {more : String → Bool} (hMay : ∀ name, may name = true → more name = true)
    (h : SameBut may data saved) : SameBut more data saved where
  others := by
    have hMore (record : Record) : record.filter (fun entry => !more entry.1) =
        (record.filter (fun entry => !may entry.1)).filter (fun entry => !more entry.1) := by
      rw [List.filter_filter]
      refine List.filter_congr fun entry _ => ?_
      cases hName : may entry.1 with
      | false => rw [Bool.not_false, Bool.and_true]
      | true => rw [hMay _ hName]; rfl
    rw [hMore saved, h.others, ← hMore]
  names := h.names

end SameBut

/-- The fields of a row that an insert gives a value: the key, and those that take the temporary
id. -/
def Schema.Entity.assigns (entity : Entity) (name : String) : Bool :=
  entity.instanceKey?.any (·.name == name) ||
    entity.fields.any fun field =>
      field.onBasisTable && field.columnDefault == some .guid && field.name == name

/-- The row after a save, apart from the rows under it. It was inserted if `applied`, and handed a
value if there is a link. -/
structure KeptOwn (entity : Entity) (children : List Model) (applied : Bool)
    (link : Option ParentLink) (row saved : Row) : Prop where
  tempId : saved.tempId = row.tempId
  id : applied = false → saved.id = row.id
  foreignKey : link = none → saved.foreignKey = row.foreignKey
  state : saved.state = row.state ∨ row.state.isSome = true ∧ saved.state = none
  data : SameBut (fun name => (applied && entity.assigns name) || link.any (·.childField == name))
    row.data saved.data
  names : Entries.names saved.children = Entries.names row.children
  undeclared : saved.children.filter (fun entry => !(children.map Model.name).contains entry.1) =
    row.children.filter (fun entry => !(children.map Model.name).contains entry.1)

mutual

/-- The row after a save, with all rows under it. Below a deleted row nothing is inserted. -/
def Kept (cascading : Bool) (link : Option ParentLink) (row saved : Row) : Model → Prop
  | .node entity children =>
    let applied := !cascading && row.state == some .inserted
    KeptOwn entity children applied link row saved ∧
      KeptUnder (cascading || row.state == some .deleted) applied row saved children

/-- The rows under a row after a save. They are handed a value if it was inserted. -/
def KeptUnder (cascading handing : Bool) (row saved : Row) : List Model → Prop
  | [] => True
  | child :: rest =>
    List.Forall₂
        (fun r s => Kept cascading (if handing then child.entity.parentLink else none) r s child)
        ((row.childRows? child.name).getD []) ((saved.childRows? child.name).getD []) ∧
      KeptUnder cascading handing row saved rest

end

theorem keptUnder_iff {cascading handing : Bool} {row saved : Row} {children : List Model} :
    KeptUnder cascading handing row saved children ↔ ∀ child ∈ children,
      List.Forall₂
        (fun r s => Kept cascading (if handing then child.entity.parentLink else none) r s child)
        ((row.childRows? child.name).getD []) ((saved.childRows? child.name).getD []) := by
  induction children with
  | nil => exact ⟨fun _ => List.forall_mem_nil _, fun _ => trivial⟩
  | cons child rest ih => rw [KeptUnder, ih, List.forall_mem_cons]

theorem forall₂_getD {r : Row → Row → Prop} {rows others : Option (List Row)}
    (h : Option.Rel (List.Forall₂ r) rows others) :
    List.Forall₂ r (rows.getD []) (others.getD []) := by
  cases h with
  | some h => exact h
  | none => exact .nil

namespace KeptOwn

variable {entity : Entity} {children : List Model} {applied : Bool} {link : Option ParentLink}
  {row between saved : Row}

theorem refl (entity : Entity) (children : List Model) (applied : Bool) (link : Option ParentLink)
    (row : Row) : KeptOwn entity children applied link row row :=
  ⟨rfl, fun _ => rfl, fun _ => rfl, .inl rfl, .refl _ _, rfl, rfl⟩

theorem clear (h : KeptOwn entity children applied link row between) :
    KeptOwn entity children applied link row { between with state := none } :=
  { h with
    state := by
      rcases h.state with hSame | ⟨hSome, _⟩
      · cases hState : row.state with
        | none => exact .inl rfl
        | some _ => exact .inr ⟨rfl, rfl⟩
      · exact .inr ⟨hSome, rfl⟩ }

theorem onlyUnder (h : KeptOwn entity children applied link row between)
    (hOnly : OnlyUnder (children.map Model.name) between saved) :
    KeptOwn entity children applied link row saved where
  tempId := hOnly.tempId.trans h.tempId
  id hApplied := hOnly.id.trans (h.id hApplied)
  foreignKey hLink := hOnly.foreignKey.trans (h.foreignKey hLink)
  state := by rw [hOnly.state]; exact h.state
  data := by rw [hOnly.data]; exact h.data
  names := hOnly.names.trans h.names
  undeclared := by
    refine (hOnly.others (fun name => !(children.map Model.name).contains name)
      fun model hModel => ?_).trans h.undeclared
    rw [List.contains_eq_mem, decide_eq_true hModel, Bool.not_true]

end KeptOwn

mutual

theorem kept_refl (cascading : Bool) (link : Option ParentLink) (row : Row) (model : Model) :
    Kept cascading link row row model := by
  cases model with
  | node entity children =>
    rw [Kept]
    refine ⟨.refl _ _ _ _ _, keptUnder_iff.mpr fun child hChild => ?_⟩
    rw [List.forall₂_same]
    exact fun r _ => keptEach_refl children child hChild _ _ r

theorem keptEach_refl (children : List Model) :
    ∀ child ∈ children, ∀ cascading link row, Kept cascading link row row child := by
  cases children with
  | nil => exact List.forall_mem_nil _
  | cons child rest =>
    refine List.forall_mem_cons.mpr ⟨?_, keptEach_refl rest⟩
    exact fun cascading link row => kept_refl cascading link row child

end

theorem handed_id (link : Option ParentLink) (v : Value) (row : Row) :
    (handed link v row).id = row.id := by
  cases link <;> rfl

theorem sameBut_handed (link : Option ParentLink) (v : Value) (row : Row) :
    SameBut (fun name => link.any (·.childField == name)) row.data (handed link v row).data := by
  cases link with
  | none => exact .refl _ _
  | some link => exact .set (beq_self_eq_true _) _ _

theorem getD_map_handed (link : Option ParentLink) (v : Value) (rows : Option (List Row)) :
    (rows.map (List.map (handed link v))).getD [] = (rows.getD []).map (handed link v) := by
  cases rows <;> rfl

/-- What is kept of a row that was handed a value is kept of the row, but for its link field. -/
theorem Kept.of_handed {cascading : Bool} {link : Option ParentLink} {v : Value} {row saved : Row}
    {model : Model} (h : Kept cascading none (handed link v row) saved model) :
    Kept cascading link row saved model := by
  cases model with
  | node entity children =>
    rw [Kept] at h ⊢
    obtain ⟨hOwn, hUnder⟩ := h
    rw [handed_state] at hOwn hUnder
    refine ⟨?_, ?_⟩
    · constructor
      case tempId => rw [hOwn.tempId, handed_tempId]
      case id => exact fun hApplied => (hOwn.id hApplied).trans (handed_id _ _ _)
      case foreignKey =>
        rintro rfl
        exact hOwn.foreignKey rfl
      case state =>
        have hState := hOwn.state
        rwa [handed_state] at hState
      case data =>
        refine (sameBut_handed link v row).mono ?_ |>.trans (hOwn.data.mono ?_)
        · intro name hName
          rw [hName, Bool.or_true]
        · intro name hName
          rw [Option.any_none, Bool.or_false] at hName
          rw [hName, Bool.true_or]
      case names => rw [hOwn.names, handed_children]
      case undeclared => rw [hOwn.undeclared, handed_children]
    · rw [keptUnder_iff] at hUnder ⊢
      intro child hChild
      have hRows := hUnder child hChild
      rwa [handed_childRows?] at hRows

section

variable {driver : Driver}

mutual

theorem deleteRow_kept (model : Model) (hModel : model.WellFormed) {cascading : Bool}
    {row saved : Row} (hDeleted : cascading = true ∨ row.state = some .deleted)
    (h : (deleteRow driver row model).Gives saved) : Kept cascading none row saved model := by
  cases model with
  | node entity children =>
    rw [deleteRow_node] at h
    obtain ⟨_, _, h⟩ := Session.gives_bind h
    obtain ⟨between, hBetween, h⟩ := Session.gives_bind h
    obtain ⟨_, _, h⟩ := Session.gives_bind h
    obtain ⟨_, _, h⟩ := Session.gives_bind h
    rw [Session.gives_pure h]
    have hReplaced := deleteChildren_replaced hBetween
    have hApplied : (!cascading && row.state == some .inserted) = false := by
      rcases hDeleted with rfl | hState
      · rfl
      · rw [hState]
        exact Bool.and_false _
    have hCascading : (cascading || row.state == some .deleted) = true := by
      rcases hDeleted with rfl | hState
      · rfl
      · rw [hState, beq_self_eq_true, Bool.or_true]
    simp only [Kept, hApplied, hCascading]
    refine ⟨((KeptOwn.refl _ _ _ _ _).onlyUnder hReplaced.onlyUnder).clear, ?_⟩
    rw [keptUnder_iff]
    intro child hChild
    refine (forall₂_getD (hReplaced.childRows? hModel.siblings child hChild)).imp ?_
    intro r s hGives
    split at hGives
    · rw [Session.gives_pure hGives]
      exact kept_refl _ _ _ _
    · exact deleteEach_kept children hModel.siblings child hChild r s hGives

theorem deleteEach_kept (children : List Model) (hChildren : Siblings children) :
    ∀ child ∈ children, ∀ row saved, (deleteRow driver row child).Gives saved →
      Kept true none row saved child := by
  cases children with
  | nil => exact List.forall_mem_nil _
  | cons child rest =>
    refine List.forall_mem_cons.mpr ⟨?_, deleteEach_kept rest hChildren.tail⟩
    exact fun row saved h => deleteRow_kept child hChildren.first (.inl rfl) h

end

theorem assigns_of_key {entity : Entity} {key : Field} (h : entity.instanceKey? = some key) :
    entity.assigns key.name = true := by
  rw [Entity.assigns, h, Option.any_some, beq_self_eq_true, Bool.true_or]

theorem sameBut_foldl_setData {may : String → Bool} {fields : List Field}
    (h : ∀ field ∈ fields, may field.name = true) (v : Value) (row : Row) :
    SameBut may row.data
      (fields.foldl (fun row field => row.setData field.name v) row).data := by
  induction fields generalizing row with
  | nil => exact .refl _ _
  | cons field rest ih =>
    obtain ⟨hFirst, hRest⟩ := List.forall_mem_cons.mp h
    exact (SameBut.set hFirst row.data v).trans (ih hRest (row.setData field.name v))

theorem sameBut_fillGuids (entity : Entity) (row : Row) :
    SameBut entity.assigns row.data (fillGuids entity row).data := by
  unfold fillGuids
  split
  · exact .refl _ _
  · refine sameBut_foldl_setData (fun field hField => ?_) _ _
    obtain ⟨hMem, hGuid⟩ := List.mem_filter.mp hField
    rw [Entity.assigns, Bool.or_eq_true, List.any_eq_true]
    exact .inr ⟨field, hMem, by rw [hGuid, beq_self_eq_true]; rfl⟩

theorem sameBut_assignId (entity : Entity) (row : Row) (reply : Reply) :
    SameBut entity.assigns row.data (assignId entity row reply).data := by
  unfold assignId
  split
  · cases hKey : entity.instanceKey? with
    | none => exact .refl _ _
    | some key => exact .set (assigns_of_key hKey) _ _
  · exact .refl _ _

theorem insertedRow_eq (entity : Entity) (row : Row) (reply : Reply) :
    ∃ data id,
      insertedRow entity row reply = { row with data := data, id := id, state := none } := by
  obtain ⟨data, hData⟩ := fillGuids_eq entity row
  rw [insertedRow, assignId, hData]
  cases reply.lastId? with
  | none => exact ⟨_, _, rfl⟩
  | some id => cases entity.instanceKey? <;> exact ⟨_, _, rfl⟩

theorem keptOwn_insertedRow (entity : Entity) (children : List Model) (row : Row) (reply : Reply) :
    KeptOwn entity children true none row (insertedRow entity row reply) := by
  obtain ⟨data, id, hRow⟩ := insertedRow_eq entity row reply
  have hData : SameBut entity.assigns row.data (insertedRow entity row reply).data :=
    (sameBut_fillGuids entity row).trans (sameBut_assignId entity _ reply)
  rw [hRow] at hData ⊢
  have hMay : SameBut (fun name => (true && entity.assigns name) ||
      (none : Option ParentLink).any (·.childField == name)) row.data data :=
    hData.mono fun name hName => by rw [hName]; rfl
  have hOwn : KeptOwn entity children true none row { row with data := data, id := id } :=
    ⟨rfl, nofun, fun _ => rfl, .inl rfl, hMay, rfl, rfl⟩
  exact hOwn.clear

theorem saveRow_kept {entity : Entity} {children : List Model}
    (hModel : (Model.node entity children).WellFormed)
    (hEach : ∀ child ∈ children, ∀ rows others, (saveRows driver rows child).Gives others →
      List.Forall₂ (fun r s => Kept false none r s child) rows others)
    {row saved : Row} (h : (saveRow driver entity children row).Gives saved) :
    Kept false none row saved (.node entity children) := by
  have hChildren := hModel.siblings
  have hBelow {current : Row} (hGives : (saveChildren driver current children).Gives saved) :
      OnlyUnder (children.map Model.name) current saved ∧ ∀ child ∈ children,
        List.Forall₂ (fun r s => Kept false none r s child)
          ((current.childRows? child.name).getD []) ((saved.childRows? child.name).getD []) := by
    have hReplaced := saveChildren_replaced hGives
    refine ⟨hReplaced.onlyUnder, fun child hChild => ?_⟩
    have hRel := hReplaced.childRows? hChildren child hChild
    revert hRel
    generalize current.childRows? child.name = rows
    generalize saved.childRows? child.name = others
    rintro (⟨⟨rfl, rfl⟩ | hSaved⟩ | _)
    · exact .nil
    · exact hEach child hChild _ _ hSaved
    · exact .nil
  unfold saveRow at h
  cases hState : row.state with
  | none =>
    rw [hState] at h
    obtain ⟨hOnly, hUnder⟩ := hBelow h
    rw [Kept, hState]
    refine ⟨(KeptOwn.refl _ _ _ _ _).onlyUnder hOnly, keptUnder_iff.mpr hUnder⟩
  | some state =>
    rw [hState] at h
    cases state with
    | inserted =>
      obtain ⟨inserted, hInserted, h⟩ := Session.gives_bind h
      rw [insertRow_eq] at hInserted
      obtain ⟨reply, _, hInserted⟩ := Session.gives_bind hInserted
      rw [Session.gives_pure hInserted] at h
      obtain ⟨hOnly, hUnder⟩ := hBelow h
      have hStitched := stitch_onlyUnder entity children (insertedRow entity row reply)
      have hInsert := keptOwn_insertedRow entity children row reply
      rw [Kept, hState]
      refine ⟨(hInsert.onlyUnder hStitched).onlyUnder hOnly, ?_⟩
      refine keptUnder_iff.mpr fun child hChild => ?_
      have hRows := hUnder child hChild
      rw [stitch_childRows? hChildren entity _ hChild, Row.childRows?, insertedRow_children,
        getD_map_handed, List.forall₂_map_left_iff] at hRows
      exact hRows.imp fun _ _ hKept => hKept.of_handed
    | updated =>
      obtain ⟨updated, hUpdated, h⟩ := Session.gives_bind h
      rw [updateRow_gives hUpdated] at h
      obtain ⟨hOnly, hUnder⟩ := hBelow h
      rw [Kept, hState]
      refine ⟨(KeptOwn.refl _ _ _ _ _).clear.onlyUnder hOnly, keptUnder_iff.mpr hUnder⟩
    | deleted => exact deleteRow_kept _ hModel (.inr hState) h

mutual

theorem saveRows_kept (model : Model) (hModel : model.WellFormed) {rows saved : List Row}
    (h : (saveRows driver rows model).Gives saved) :
    List.Forall₂ (fun row s => Kept false none row s model) rows saved := by
  cases model with
  | node entity children =>
    refine (gives_saveRows h).imp fun row s hRow => ?_
    exact saveRow_kept hModel (saveEach_kept children hModel.siblings) hRow

theorem saveEach_kept (children : List Model) (hChildren : Siblings children) :
    ∀ child ∈ children, ∀ rows saved, (saveRows driver rows child).Gives saved →
      List.Forall₂ (fun row s => Kept false none row s child) rows saved := by
  cases children with
  | nil => exact List.forall_mem_nil _
  | cons child rest =>
    refine List.forall_mem_cons.mpr ⟨?_, saveEach_kept rest hChildren.tail⟩
    exact fun rows saved h => saveRows_kept child hChildren.first h

end

/-- A save that does not fail gives back every row in its place, at every depth, and changes no
more of it than it has to. -/
theorem save_keeps_rows {model : Model} (hModel : model.Compiled) {rows saved : List Row}
    {log : Log} (h : ((save driver model rows).run log).1 = .ok saved) :
    List.Forall₂ (fun row s => Kept false none row s model) rows saved := by
  obtain ⟨_, _, hSaved⟩ := Session.gives_bind ⟨log, h⟩
  obtain ⟨_, _, hSaved⟩ := Session.gives_bind hSaved
  exact saveRows_kept model hModel.wellFormed hSaved

end

namespace Family

open Schema.Family

/-- The household comes back with the same persons, children and toys. -/
theorem household_kept :
    ((save accepting model household).run []).1 = .ok savedHousehold ∧
      List.Forall₂ (fun row s => Kept false none row s model) household savedHousehold := by
  have hSaved : ((save accepting model household).run []).1 = .ok savedHousehold := rfl
  exact ⟨hSaved, save_keeps_rows model_compiled hSaved⟩

end Family

end RowTree
