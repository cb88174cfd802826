import RowTree.Proofs.Order

/-!
# The check of keys

Before a save executes anything it looks for a row that it would write and whose
entity has no key. The check finds one if and only if there is one, and so no
statement is ever made for an entity without a key: the save is the same whatever
the statements for such entities would be.
-/

namespace RowTree

open Schema Sql

def Schema.Entity.Keyed (entity : Entity) : Prop := entity.instanceKey? ≠ none

/-- A cascading delete of the rows of a model comes to the row, which is of the entity. It
passes over rows that were never written and all that is under them. -/
inductive Removed : Model → List Row → Entity → Row → Prop
  | own {model : Model} {rows : List Row} {row : Row} (mem : row ∈ rows)
      (known : row.isUnsaved = false) : Removed model rows model.entity row
  | under {model child : Model} {rows below : List Row} {row r : Row} {entity : Entity}
      (mem : row ∈ rows) (known : row.isUnsaved = false) (child_mem : child ∈ model.children)
      (below_eq : row.childRows? child.name = some below) (h : Removed child below entity r) :
      Removed model rows entity r

/-- A save of the rows of a model writes the row, which is of the entity: the row has a
state, or it goes with a deleted one. -/
inductive Written : Model → List Row → Entity → Row → Prop
  | own {model : Model} {rows : List Row} {row : Row} (mem : row ∈ rows)
      (pending : row.state ≠ none) : Written model rows model.entity row
  | under {model child : Model} {rows below : List Row} {row r : Row} {entity : Entity}
      (mem : row ∈ rows) (kept : row.state ≠ some .deleted) (child_mem : child ∈ model.children)
      (below_eq : row.childRows? child.name = some below) (h : Written child below entity r) :
      Written model rows entity r
  | removed {model child : Model} {rows below : List Row} {row r : Row} {entity : Entity}
      (mem : row ∈ rows) (deleted : row.state = some .deleted) (child_mem : child ∈ model.children)
      (below_eq : row.childRows? child.name = some below) (h : Removed child below entity r) :
      Written model rows entity r

/-- What the check looks at, below a deleted row if `cascading`. -/
def Checked (cascading : Bool) (model : Model) (rows : List Row) (entity : Entity) (row : Row) :
    Prop :=
  if cascading then Removed model rows entity row else Written model rows entity row

section

variable {cascading : Bool} {model child : Model} {rows below : List Row} {row r : Row}
  {entity : Entity}

theorem Checked.own (mem : row ∈ rows) (known : (cascading && row.isUnsaved) = false)
    (pending : (cascading || row.state.isSome) = true) :
    Checked cascading model rows model.entity row := by
  cases cascading with
  | true => exact Removed.own mem known
  | false => exact Written.own mem (Option.isSome_iff_ne_none.mp pending)

theorem Checked.under (mem : row ∈ rows) (known : (cascading && row.isUnsaved) = false)
    (hChild : child ∈ model.children) (hBelow : row.childRows? child.name = some below)
    (h : Checked (cascading || row.state == some .deleted) child below entity r) :
    Checked cascading model rows entity r := by
  cases cascading with
  | true => exact Removed.under mem known hChild hBelow h
  | false =>
    cases hDeleted : row.state == some .deleted with
    | true =>
      rw [hDeleted] at h
      exact Written.removed mem (beq_iff_eq.mp hDeleted) hChild hBelow h
    | false =>
      rw [hDeleted] at h
      exact Written.under mem (beq_eq_false_iff_ne.mp hDeleted) hChild hBelow h

theorem Checked.cases (h : Checked cascading model rows entity r) :
    ∃ row ∈ rows, (cascading && row.isUnsaved) = false ∧
      ((entity = model.entity ∧ (cascading || row.state.isSome) = true) ∨
        ∃ child ∈ model.children, ∃ below, row.childRows? child.name = some below ∧
          Checked (cascading || row.state == some .deleted) child below entity r) := by
  cases cascading with
  | true =>
    cases h with
    | own mem known => exact ⟨_, mem, known, .inl ⟨rfl, rfl⟩⟩
    | under mem known hChild hBelow h => exact ⟨_, mem, known, .inr ⟨_, hChild, _, hBelow, h⟩⟩
  | false =>
    cases h with
    | own mem pending => exact ⟨_, mem, rfl, .inl ⟨rfl, Option.isSome_iff_ne_none.mpr pending⟩⟩
    | under mem kept hChild hBelow h =>
      refine ⟨_, mem, rfl, .inr ⟨_, hChild, _, hBelow, ?_⟩⟩
      rw [beq_eq_false_iff_ne.mpr kept]
      exact h
    | removed mem deleted hChild hBelow h =>
      refine ⟨_, mem, rfl, .inr ⟨_, hChild, _, hBelow, ?_⟩⟩
      rw [beq_iff_eq.mpr deleted]
      exact h

end

def keyless (entity : Entity) : Error := .of (.missingKey (.noInstanceKey entity.name))

theorem requireKey_eq_ok_iff {entity : Entity} : requireKey entity = .ok () ↔ entity.Keyed := by
  unfold requireKey Entity.Keyed
  cases entity.instanceKey? <;> simp

theorem requireKey_eq_error {entity : Entity} {e : Error} (h : requireKey entity = .error e) :
    e = keyless entity ∧ ¬entity.Keyed := by
  unfold requireKey at h
  split at h
  · cases h
  · rename_i hNone
    cases h
    exact ⟨rfl, fun hKeyed => hKeyed hNone⟩

mutual

theorem keyed_of_checkKeys (model : Model) {cascading : Bool} {rows : List Row}
    (h : checkKeys cascading rows model = .ok ()) {entity : Entity} {row : Row}
    (hChecked : Checked cascading model rows entity row) : entity.Keyed := by
  cases model with
  | node own children =>
    rw [checkKeys] at h
    obtain ⟨above, hAbove, hKnown, hCase⟩ := hChecked.cases
    have hRow := Outcome.ok_of_forM h hAbove
    rw [hKnown, if_neg Bool.false_ne_true] at hRow
    dsimp only at hRow
    rcases hCase with ⟨rfl, hPending⟩ | ⟨child, hChild, below, hRows, hUnder⟩
    · rw [if_pos hPending] at hRow
      obtain ⟨_, hOwn, _⟩ := Outcome.bind_eq_ok.mp hRow
      exact requireKey_eq_ok_iff.mp hOwn
    · split at hRow
      · obtain ⟨_, _, hBelow⟩ := Outcome.bind_eq_ok.mp hRow
        exact keyed_of_checkChildKeys children hBelow hChild hRows hUnder
      · exact keyed_of_checkChildKeys children hRow hChild hRows hUnder

theorem keyed_of_checkChildKeys (children : List Model) {cascading : Bool} {above : Row}
    (h : checkChildKeys cascading above children = .ok ()) {child : Model}
    (hChild : child ∈ children) {below : List Row} (hRows : above.childRows? child.name = some below)
    {entity : Entity} {row : Row} (hChecked : Checked cascading child below entity row) :
    entity.Keyed := by
  cases children with
  | nil => cases hChild
  | cons first rest =>
    rw [checkChildKeys] at h
    obtain ⟨_, hFirst, hRest⟩ := Outcome.bind_eq_ok.mp h
    rcases List.mem_cons.mp hChild with rfl | hChild
    · rw [hRows, Option.getD_some] at hFirst
      exact keyed_of_checkKeys child hFirst hChecked
    · exact keyed_of_checkChildKeys rest hRest hChild hRows hChecked

end

mutual

theorem checked_of_checkKeys (model : Model) {cascading : Bool} {rows : List Row} {e : Error}
    (h : checkKeys cascading rows model = .error e) :
    ∃ entity row, Checked cascading model rows entity row ∧ e = keyless entity ∧ ¬entity.Keyed := by
  cases model with
  | node own children =>
    rw [checkKeys] at h
    obtain ⟨row, hRow, h⟩ := Outcome.error_of_forM h
    cases hKnown : cascading && row.isUnsaved with
    | true =>
      rw [hKnown] at h
      cases h
    | false =>
      rw [hKnown, if_neg Bool.false_ne_true] at h
      dsimp only at h
      have hUnder (h : checkChildKeys (cascading || row.state == some .deleted) row children =
          .error e) : ∃ entity r, Checked cascading (.node own children) rows entity r ∧
            e = keyless entity ∧ ¬entity.Keyed := by
        obtain ⟨child, hChild, below, hBelow, entity, r, hChecked, hError⟩ :=
          checked_of_checkChildKeys children h
        exact ⟨entity, r, .under hRow hKnown hChild hBelow hChecked, hError⟩
      split at h
      · rename_i hPending
        rcases Outcome.bind_eq_error.mp h with h | ⟨_, _, h⟩
        · exact ⟨own, row, .own hRow hKnown hPending, requireKey_eq_error h⟩
        · exact hUnder h
      · exact hUnder h

theorem checked_of_checkChildKeys (children : List Model) {cascading : Bool} {above : Row}
    {e : Error} (h : checkChildKeys cascading above children = .error e) :
    ∃ child ∈ children, ∃ below, above.childRows? child.name = some below ∧
      ∃ entity row, Checked cascading child below entity row ∧
        e = keyless entity ∧ ¬entity.Keyed := by
  cases children with
  | nil => cases h
  | cons first rest =>
    rw [checkChildKeys] at h
    rcases Outcome.bind_eq_error.mp h with h | ⟨_, _, h⟩
    · cases hRows : above.childRows? first.name with
      | none =>
        rw [hRows, Option.getD_none] at h
        obtain ⟨_, _, hChecked, _⟩ := checked_of_checkKeys first h
        obtain ⟨_, hMem, _⟩ := hChecked.cases
        cases hMem
      | some below =>
        rw [hRows, Option.getD_some] at h
        exact ⟨first, List.mem_cons_self, below, hRows, checked_of_checkKeys first h⟩
    · obtain ⟨child, hChild, hRest⟩ := checked_of_checkChildKeys rest h
      exact ⟨child, List.mem_cons_of_mem _ hChild, hRest⟩

end

/-- On the entity they are the ones that a save uses. -/
structure Builders.AgreeOn (builders : Builders) (entity : Entity) : Prop where
  insert (row : Row) : builders.insert entity row = entity.insert row
  update (row : Row) : builders.update entity row = entity.update row
  delete (row : Row) : builders.delete entity row = entity.delete row

section

variable {builders : Builders} {driver : Driver}

mutual

theorem Builders.deleteRow_eq (model : Model) (hModel : model.WellFormed) {row : Row}
    (hOwn : builders.AgreeOn model.entity)
    (h : ∀ child ∈ model.children, ∀ below, row.childRows? child.name = some below →
      ∀ entity r, Removed child below entity r → builders.AgreeOn entity) :
    builders.deleteRow driver row model = RowTree.deleteRow driver row model := by
  cases model with
  | node entity children =>
    have hDelete : builders.delete entity row = entity.delete row := hOwn.delete row
    rw [Builders.deleteRow, deleteRow_node, hDelete,
      Builders.deleteChildren_eq children hModel.siblings h]

theorem Builders.deleteChildren_eq (children : List Model) (hChildren : Siblings children)
    {row : Row} (h : ∀ child ∈ children, ∀ below, row.childRows? child.name = some below →
      ∀ entity r, Removed child below entity r → builders.AgreeOn entity) :
    builders.deleteChildren driver row children = RowTree.deleteChildren driver row children := by
  cases children with
  | nil => rfl
  | cons child rest =>
    rw [Builders.deleteChildren, deleteChildren_cons]
    have hRest : ∀ c ∈ rest, ∀ below, row.childRows? c.name = some below →
        ∀ entity r, Removed c below entity r → builders.AgreeOn entity :=
      fun c hc => h c (List.mem_cons_of_mem _ hc)
    cases hRows : row.childRows? child.name with
    | none => exact Builders.deleteChildren_eq rest hChildren.tail hRest
    | some rows =>
      have hEach : rows.mapM (fun r =>
            if r.isUnsaved then pure r else builders.deleteRow driver r child) =
          rows.mapM fun r => if r.isUnsaved then pure r else RowTree.deleteRow driver r child := by
        apply Session.mapM_congr
        intro r hr
        cases hKnown : r.isUnsaved with
        | true => rfl
        | false =>
          have hRemoved := h child List.mem_cons_self rows hRows
          exact Builders.deleteRow_eq child hChildren.first (hRemoved _ _ (.own hr hKnown))
            fun c hc below hBelow entity q hq => hRemoved _ _ (.under hr hKnown hc hBelow hq)
      dsimp only
      rw [hEach]
      congr 1
      funext saved
      apply Builders.deleteChildren_eq rest hChildren.tail
      intro c hc below hBelow
      rw [childRows?_setChildRows_of_ne saved (hChildren.name_ne hc)] at hBelow
      exact hRest c hc below hBelow

end

theorem Builders.insertRow_eq {entity : Entity} (hOwn : builders.AgreeOn entity) (row : Row) :
    builders.insertRow driver entity row = RowTree.insertRow driver entity row := by
  rw [RowTree.insertRow_eq, Builders.insertRow]
  simp only [hOwn.insert]
  rfl

theorem Builders.updateRow_eq {entity : Entity} (hOwn : builders.AgreeOn entity) (row : Row) :
    builders.updateRow driver entity row = RowTree.updateRow driver entity row := by
  have hUpdate : builders.update entity row = entity.update row := hOwn.update row
  unfold Builders.updateRow RowTree.updateRow
  generalize builders.update entity row = result at hUpdate ⊢
  subst hUpdate
  rfl

/-- Which rows a save writes does not change when rows are handed a value. -/
theorem written_of_handed {link : Option ParentLink} {v : Value} {model : Model}
    {rows : List Row} {entity : Entity} {r : Row}
    (h : Written model (rows.map (handed link v)) entity r) :
    ∃ r', Written model rows entity r' := by
  cases h with
  | own mem pending =>
    obtain ⟨row, hRow, rfl⟩ := List.mem_map.mp mem
    rw [handed_state] at pending
    exact ⟨row, .own hRow pending⟩
  | under mem kept hChild hBelow h =>
    obtain ⟨row, hRow, rfl⟩ := List.mem_map.mp mem
    rw [handed_state] at kept
    rw [handed_childRows?] at hBelow
    exact ⟨r, .under hRow kept hChild hBelow h⟩
  | removed mem deleted hChild hBelow h =>
    obtain ⟨row, hRow, rfl⟩ := List.mem_map.mp mem
    rw [handed_state] at deleted
    rw [handed_childRows?] at hBelow
    exact ⟨r, .removed hRow deleted hChild hBelow h⟩

/-- What has to be known of the rows under a row before they are saved. -/
def Builders.AgreeUnder (builders : Builders) (row : Row) (children : List Model) : Prop :=
  ∀ child ∈ children, ∀ below, row.childRows? child.name = some below →
    ∀ entity r, Written child below entity r → builders.AgreeOn entity

theorem Builders.AgreeUnder.of_children {row current : Row} {children : List Model}
    (h : builders.AgreeUnder row children) (hSame : current.children = row.children) :
    builders.AgreeUnder current children := by
  intro child hChild below hBelow
  rw [Row.childRows?, hSame] at hBelow
  exact h child hChild below hBelow

theorem Builders.AgreeUnder.stitch {row : Row} {children : List Model}
    (h : builders.AgreeUnder row children) (hChildren : Siblings children) (entity : Entity) :
    builders.AgreeUnder (stitch entity row (children.map Model.entity)) children := by
  intro child hChild below hBelow e r hWritten
  rw [stitch_childRows? hChildren entity row hChild] at hBelow
  obtain ⟨rows, hRows, rfl⟩ := Option.map_eq_some_iff.mp hBelow
  obtain ⟨r', hWritten⟩ := written_of_handed hWritten
  exact h child hChild rows hRows e r' hWritten

mutual

theorem Builders.saveRows_eq (model : Model) (hModel : model.WellFormed) {rows : List Row}
    (h : ∀ entity r, Written model rows entity r → builders.AgreeOn entity) :
    builders.saveRows driver rows model = RowTree.saveRows driver rows model := by
  cases model with
  | node entity children =>
    rw [Builders.saveRows, saveRows_node]
    refine congrArg (· >>= _) (Session.mapM_congr fun row hRow => ?_)
    have hOwn (hState : row.state ≠ none) : builders.AgreeOn entity := h _ _ (.own hRow hState)
    have hUnder (hState : row.state ≠ some .deleted) : builders.AgreeUnder row children :=
      fun child hChild below hBelow e r hr => h e r (.under hRow hState hChild hBelow hr)
    have hSave {current : Row} (hAgree : builders.AgreeUnder current children) :=
      Builders.saveChildren_eq children hModel.siblings hAgree
    dsimp only
    congr 2
    rw [saveRow]
    cases hState : row.state with
    | none =>
      rw [hState] at hUnder
      exact hSave (hUnder nofun)
    | some state =>
      rw [hState] at hOwn hUnder
      cases state with
      | inserted =>
        dsimp only
        rw [Builders.insertRow_eq (hOwn nofun)]
        apply Session.bind_congr_of_gives
        intro inserted hInserted
        rw [RowTree.insertRow_eq] at hInserted
        obtain ⟨reply, _, hInserted⟩ := Session.gives_bind hInserted
        rw [Session.gives_pure hInserted]
        apply hSave
        apply Builders.AgreeUnder.stitch _ hModel.siblings
        exact (hUnder nofun).of_children (insertedRow_children entity row reply)
      | updated =>
        dsimp only
        rw [Builders.updateRow_eq (hOwn nofun)]
        apply Session.bind_congr_of_gives
        intro updated hUpdated
        rw [updateRow_gives hUpdated]
        exact hSave ((hUnder nofun).of_children rfl)
      | deleted =>
        dsimp only
        apply Builders.deleteRow_eq (.node entity children) hModel (hOwn nofun)
        intro child hChild below hBelow e r hr
        exact h e r (.removed hRow hState hChild hBelow hr)

theorem Builders.saveChildren_eq (children : List Model) (hChildren : Siblings children)
    {row : Row} (h : builders.AgreeUnder row children) :
    builders.saveChildren driver row children = RowTree.saveChildren driver row children := by
  cases children with
  | nil => rfl
  | cons child rest =>
    rw [Builders.saveChildren, saveChildren_cons]
    have hRest : builders.AgreeUnder row rest := fun c hc => h c (List.mem_cons_of_mem _ hc)
    cases hRows : row.childRows? child.name with
    | none => exact Builders.saveChildren_eq rest hChildren.tail hRest
    | some rows =>
      cases rows with
      | nil => exact Builders.saveChildren_eq rest hChildren.tail hRest
      | cons first others =>
        dsimp only
        rw [Builders.saveRows_eq child hChildren.first (h child List.mem_cons_self _ hRows)]
        apply Session.bind_congr_of_gives
        intro saved _
        apply Builders.saveChildren_eq rest hChildren.tail
        intro c hc below hBelow
        rw [childRows?_setChildRows_of_ne saved (hChildren.name_ne hc)] at hBelow
        exact hRest c hc below hBelow

end

/-- The error of a save that got past the checks counts the rows that failed. -/
theorem fault_of_saveRows {model : Model} {rows : List Row} {log : Log} {e : Error}
    (h : ((saveRows driver rows model).run log).1 = .error e) :
    ∃ failed total, e.fault = .saveFailed model.name failed total := by
  cases model with
  | node entity children =>
    rw [saveRows_node, Session.run_bind, run_mapM_attempt] at h
    dsimp only at h
    rw [Session.run_ofExcept, settle] at h
    cases hResults : List.mapM id (runEach (fun row => (saveRow driver entity children row).within
        (.remark (.savingRow row.state entity.name row.label))) rows log).1 with
    | error first =>
      rw [hResults] at h
      cases h
      exact ⟨_, _, rfl⟩
    | ok saved =>
      rw [hResults] at h
      cases h

end

/-- A save is refused for want of a key, with nothing executed, if and only if its model or
a row that it would write has none. And no save depends on what the statements for rows
without a key would be. -/
theorem save_checks_keys {model : Model} (hModel : model.Compiled) (rows : List Row) :
    (∀ (driver : Driver) (log : Log),
      (∃ name, (save driver model rows).run log =
        (.error (.of (.missingKey (.noInstanceKey name))), log)) ↔
      ¬model.entity.Keyed ∨ ∃ entity row, Written model rows entity row ∧ ¬entity.Keyed) ∧
    ∀ builders : Builders, (∀ entity : Entity, entity.Keyed → builders.AgreeOn entity) →
      ∀ driver, builders.save driver model rows = save driver model rows := by
  constructor
  · intro driver log
    rw [save_eq]
    cases hOwn : requireKey model.entity with
    | error e =>
      obtain ⟨rfl, hKeyless⟩ := requireKey_eq_error hOwn
      exact ⟨fun _ => .inl hKeyless, fun _ => ⟨_, rfl⟩⟩
    | ok _ =>
      cases hRows : checkKeys false rows model with
      | error e =>
        obtain ⟨entity, row, hWritten, rfl, hKeyless⟩ := checked_of_checkKeys model hRows
        exact ⟨fun _ => .inr ⟨entity, row, hWritten, hKeyless⟩, fun _ => ⟨_, rfl⟩⟩
      | ok _ =>
        constructor
        · rintro ⟨name, h⟩
          obtain ⟨_, _, hFault⟩ := fault_of_saveRows (congrArg Prod.fst h)
          cases hFault
        · rintro (hKeyless | ⟨entity, row, hWritten, hKeyless⟩)
          · exact absurd (requireKey_eq_ok_iff.mp hOwn) hKeyless
          · exact absurd (keyed_of_checkKeys model hRows hWritten) hKeyless
  · intro builders hAgree driver
    rw [Builders.save, save_eq]
    cases hRows : checkKeys false rows model with
    | error e => rfl
    | ok _ =>
      rw [Builders.saveRows_eq model hModel.wellFormed]
      intro entity row hWritten
      exact hAgree entity (keyed_of_checkKeys model hRows hWritten)

namespace Family

open Schema.Family

/-- Persons with children that have no field for their key. -/
def uncounted : Entity where
  name := "Child"
  basisTable := ⟨"Child", "child"⟩
  fields := [field "ParentID" "parent_id", field "Name" "name"]
  parentLink := some ⟨"PersonID", "ParentID"⟩

def uncountedModel : Model := .node person [.node uncounted []]

theorem uncountedModel_compiled : uncountedModel.Compiled :=
  ⟨catalog, .node (entityDefinition "Person" ["PersonID", "Name"] none)
    [.node (entityDefinition "Child" ["ParentID", "Name"] (some ⟨"PersonID", "ParentID"⟩)) []], rfl⟩

/-- Writes nothing for an entity without a key. -/
def reluctant : Builders where
  insert entity row := if entity.instanceKey?.isSome then entity.insert row else ⟨"", [], []⟩
  update entity row := if entity.instanceKey?.isSome then entity.update row else .ok none
  delete entity row := if entity.instanceKey?.isSome then entity.delete row else .ok ⟨"", {}⟩

theorem reluctant_agrees (entity : Entity) (h : entity.Keyed) : reluctant.AgreeOn entity := by
  have hKey := Option.isSome_iff_ne_none.mpr h
  exact ⟨fun _ => if_pos hKey, fun _ => if_pos hKey, fun _ => if_pos hKey⟩

/-- A person and a child, one of whom has changed. -/
def neighbours (parent child : Option RowState) : List Row :=
  [rowWith parent (some (.int 1)) [("Name", .string "Ada")]
    [("Child", [rowWith child none [("Name", .string "Bo")] []])]]

/-- A change of the child is refused; that of the person is saved, and nothing is made of
the child. -/
theorem neighbours_checks_keys :
    (∃ name, (save accepting uncountedModel (neighbours none (some .updated))).run [] =
        (.error (.of (.missingKey (.noInstanceKey name))), [])) ∧
      reluctant.save accepting uncountedModel (neighbours (some .updated) none) =
        save accepting uncountedModel (neighbours (some .updated) none) := by
  constructor
  · apply ((save_checks_keys uncountedModel_compiled _).1 accepting []).mpr
    right
    refine ⟨uncounted, rowWith (some .updated) none [("Name", .string "Bo")] [], ?_, fun h => h rfl⟩
    have hChild : Model.node uncounted [] ∈ uncountedModel.children := List.mem_cons_self
    refine .under List.mem_cons_self ?_ hChild rfl (.own List.mem_cons_self ?_)
    · exact nofun
    · exact nofun
  · exact (save_checks_keys uncountedModel_compiled _).2 reluctant reluctant_agrees accepting

end Family

end RowTree
