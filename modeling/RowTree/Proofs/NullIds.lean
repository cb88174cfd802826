import RowTree.Proofs.Cascade
import RowTree.Proofs.KeyCheck
import RowTree.Proofs.Kept
import RowTree.Proofs.LeftOut

/-!
# Null ids

A save is compared with one of the same rows without some of the nulls among their ids, foreign
keys and temporary ids. A null foreign key never counts. A null id counts where rows are deleted
with the row above them, as the row is then taken for one that was written. A null temporary id
counts where it takes the place of a value of an inserted row. Main statement: if no null counts,
the two saves execute the same statements and end alike, and if the second one ends well, they do
so only then.
-/

namespace RowTree

open Schema Sql

mutual

/-- Under both rows the same rows are deleted with them. -/
def SameKnown (row other : Row) : Model → Prop
  | .node _ children => SameKnownUnder row other children

def SameKnownUnder (row other : Row) : List Model → Prop
  | [] => True
  | child :: rest =>
    List.Forall₂
        (fun r s => r.isUnsaved = s.isUnsaved ∧ (r.isUnsaved = false → SameKnown r s child))
        ((row.childRows? child.name).getD []) ((other.childRows? child.name).getD []) ∧
      SameKnownUnder row other rest

end

/-- A test of an inserted row and of the link by which it may be handed a value. -/
abbrev RowTest := Entity → Option ParentLink → Row → Prop

/-- The row has nothing to lose, whatever it is handed. -/
def Schema.Entity.NeverLoses (entity : Entity) (link : Option ParentLink) (row : Row) : Prop :=
  ∀ v, entity.NothingToLose (handed link v row)

/-- The row has nothing to lose, if it is handed the right value. -/
def Schema.Entity.MayKeep (entity : Entity) (link : Option ParentLink) (row : Row) : Prop :=
  ∃ v, entity.NothingToLose (handed link v row)

/-- The two tests differ only for a link field that takes the temporary id. -/
theorem neverLoses_iff_mayKeep {entity : Entity} {link : Option ParentLink}
    (h : ∀ field ∈ entity.fields, field.takesTempId = true →
      ∀ own, link = some own → own.childField ≠ field.name) (row : Row) :
    entity.NeverLoses link row ↔ entity.MayKeep link row := by
  have hSame (v : Value) :
      entity.NothingToLose (handed link v row) ↔ entity.NothingToLose row := by
    refine forall₃_congr fun field hField hTakes => ?_
    cases link with
    | none => exact Iff.rfl
    | some own =>
      rw [handed, stitchChild, Row.get, Row.setData]
      dsimp only
      rw [Entries.get?_set_of_ne _ _ (h field hField hTakes own rfl)]
      rfl
  simp only [Entity.NeverLoses, Entity.MayKeep, hSame, forall_const, exists_const]

mutual

/-- The nulls that were left out of the other row do not count. -/
def Negligible (test : RowTest) (above : Option WriteKind) (row other : Row) : Model → Prop
  | .node entity children =>
    match row.state with
    | some .inserted =>
      (other.tempId = row.tempId ∨ test entity (handingLink above entity) row) ∧
        NegligibleUnder test (some .insert) row other children
    | some .deleted => SameKnownUnder row other children
    | _ => NegligibleUnder test none row other children

def NegligibleUnder (test : RowTest) (above : Option WriteKind) (row other : Row) :
    List Model → Prop
  | [] => True
  | child :: rest =>
    List.Forall₂ (fun r s => Negligible test above r s child)
        ((row.childRows? child.name).getD []) ((other.childRows? child.name).getD []) ∧
      NegligibleUnder test above row other rest

end

variable {driver : Driver}

theorem grows_deleteRow {model : Model} (hModel : model.WellFormed) (row : Row) :
    (deleteRow driver row model).Grows := by
  have hPerforms (log : Log) : Performs driver log [] (deletions [] none row model)
      (fun _ write => write.due.kind = .delete) (deleteRow driver row model) :=
    deleteRow_performs model hModel (ready_none (v := .null))
  exact Session.grows_of_performs hPerforms

theorem grows_deleteChildren {children : List Model} (hChildren : Siblings children) (row : Row) :
    (deleteChildren driver row children).Grows := by
  have hPerforms (log : Log) : Performs driver log [] (deletionsUnder [] row children)
      (fun _ write => write.due.kind = .delete) (deleteChildren driver row children) :=
    deleteChildren_performs children hChildren fun _ _ => rfl
  exact Session.grows_of_performs hPerforms

theorem grows_saveChildren {children : List Model} (hChildren : Siblings children) (row : Row) :
    (saveChildren driver row children).Grows := by
  have hPerforms (log : Log) : Performs driver log [] (childDues [] none row children)
      (Write.GivesIdAt []) (saveChildren driver row children) :=
    saveChildren_performs children hChildren (fun _ => .null)
      (fun child _ => childRows?_unhanded (by simp) rfl child.entity .null child.name)
      fun _ _ => ready_none
  exact Session.grows_of_performs hPerforms

theorem grows_saveRow {entity : Entity} {children : List Model}
    (hModel : (Model.node entity children).WellFormed) (row : Row) :
    (saveRow driver entity children row).Grows := by
  have hPerforms (log : Log) : Performs driver log []
      (rowDues [] none row (.node entity children) (childDues [] · row children))
      (Write.GivesIdAt []) (saveRow driver entity children row) :=
    saveRow_performs hModel (ready_none (v := .null)) fun _ _ _ values hRows hReady =>
      saveChildren_performs children hModel.siblings values hRows hReady
  exact Session.grows_of_performs hPerforms

theorem forM_congr {f g : Row → Except Error Unit} {rows others : List Row}
    (h : List.Forall₂ (fun r s => g s = f r) rows others) : others.forM g = rows.forM f := by
  induction h with
  | nil => rfl
  | @cons r s rest more hFirst _ ih =>
    change (g s >>= fun _ => more.forM g) = (f r >>= fun _ => rest.forM f)
    rw [hFirst, ih]

mutual

theorem checkKeys_known (model : Model) {rows others : List Row}
    (h : List.Forall₂ (fun r s => r.isUnsaved = s.isUnsaved ∧
      (r.isUnsaved = false → SameKnown r s model)) rows others) :
    checkKeys true others model = checkKeys true rows model := by
  cases model with
  | node entity children =>
    rw [checkKeys, checkKeys]
    refine forM_congr (h.imp fun r s hKnown => ?_)
    obtain ⟨hSame, hUnder⟩ := hKnown
    rw [← hSame]
    cases hUnsaved : r.isUnsaved with
    | true => rfl
    | false =>
      have hBelow := hUnder hUnsaved
      rw [SameKnown] at hBelow
      simp only [Bool.true_or, checkChildKeys_known children hBelow]

theorem checkChildKeys_known (children : List Model) {row other : Row}
    (h : SameKnownUnder row other children) :
    checkChildKeys true other children = checkChildKeys true row children := by
  cases children with
  | nil => rfl
  | cons child rest =>
    rw [SameKnownUnder] at h
    rw [checkChildKeys, checkChildKeys, checkKeys_known child h.1,
      checkChildKeys_known rest h.2]

end

mutual

theorem checkKeys_negligible (model : Model) {test : RowTest} {above : Option WriteKind}
    {rows others : List Row} (hLeaner : List.Forall₂ Leaner rows others)
    (h : List.Forall₂ (fun r s => Negligible test above r s model) rows others) :
    checkKeys false others model = checkKeys false rows model := by
  cases model with
  | node entity children =>
    rw [checkKeys, checkKeys]
    refine forM_congr ?_
    induction hLeaner with
    | nil => exact .nil
    | @cons r s _ _ hRow _ ih =>
      obtain ⟨hOwn, hOthers⟩ := List.forall₂_cons.mp h
      refine .cons ?_ (ih hOthers)
      have hState := hRow.state_eq
      rw [Negligible] at hOwn
      simp only [Bool.false_and, Bool.false_eq_true, if_false, Bool.false_or, hState]
      split at hOwn
      case h_1 hInserted =>
        have hKept : (r.state == some .deleted) = false := by rw [hInserted]; rfl
        rw [hKept, checkChildKeys_negligible children hRow hOwn.2]
      case h_2 hDeleted =>
        have hGone : (r.state == some .deleted) = true := beq_iff_eq.mpr hDeleted
        rw [hGone, checkChildKeys_known children hOwn]
      case h_3 _ hDeleted =>
        have hKept : (r.state == some .deleted) = false := beq_eq_false_iff_ne.mpr hDeleted
        rw [hKept, checkChildKeys_negligible children hRow hOwn]

theorem checkChildKeys_negligible (children : List Model) {test : RowTest}
    {above : Option WriteKind} {row other : Row} (hLeaner : Leaner row other)
    (h : NegligibleUnder test above row other children) :
    checkChildKeys false other children = checkChildKeys false row children := by
  cases children with
  | nil => rfl
  | cons child rest =>
    rw [NegligibleUnder] at h
    have hRows := forall₂_getD (hLeaner.childRows? child.name)
    rw [checkChildKeys, checkChildKeys, checkKeys_negligible child hRows h.1,
      checkChildKeys_negligible rest hLeaner h.2]

end

theorem handed_data {row other : Row} (hData : other.data = row.data) (link : Option ParentLink)
    (v : Value) : (handed link v other).data = (handed link v row).data := by
  cases link with
  | none => exact hData
  | some link => exact congrArg (Entries.set · link.childField v) hData

namespace Leaner

variable {row other : Row}

theorem handed_leftOut_id (h : Leaner row other) (link : Option ParentLink) (v : Value) :
    LeftOut (handed link v row).id (handed link v other).id := by
  rw [handed_id, handed_id]
  exact h.leftOut_id

theorem handed_leftOut_tempId (h : Leaner row other) (link : Option ParentLink) (v : Value) :
    LeftOut (handed link v row).tempId (handed link v other).tempId := by
  rw [handed_tempId, handed_tempId]
  exact h.leftOut_tempId

end Leaner

/-- The rows of the next models stay what they were given as. -/
theorem childRows?_later {child : Model} {rest : List Model} (hChildren : Siblings (child :: rest))
    {current : Row} {given : Model → Option (List Row)}
    (h : ∀ c ∈ child :: rest, current.childRows? c.name = given c) (rows : List Row) :
    ∀ c ∈ rest, (current.setChildRows child.name rows).childRows? c.name = given c := by
  intro c hc
  rw [childRows?_setChildRows_of_ne rows (hChildren.name_ne hc)]
  exact h c (List.mem_cons_of_mem _ hc)

/-- The deletion of a row itself, after those of the rows under it. -/
def deleteOwn (driver : Driver) (entity : Entity) (row : Row) (statement : Delete) (saved : Row) :
    Session Row := do
  let reply ← driver.execute (.delete statement)
  Session.ofExcept (checkDeleted entity row reply)
  pure { saved with state := none }

theorem grows_deleteOwn (entity : Entity) (row : Row) (statement : Delete) (saved : Row) :
    (deleteOwn driver entity row statement saved).Grows := by
  refine (Session.grows_execute driver _).bind fun _ => ?_
  exact (Session.grows_ofExcept _).bind fun _ => Session.grows_ofExcept _

theorem mirrors_deleteOwn (entity : Entity) (row other : Row) (statement : Delete)
    (saved saved' : Row) : (deleteOwn driver entity row statement saved).Mirrors
      (fun _ _ => True) True True (deleteOwn driver entity other statement saved') := by
  have hEnd (row saved : Row) (reply : Reply) :
      (Session.ofExcept (checkDeleted entity row reply) >>= fun _ =>
        (pure { saved with state := none } : Session Row)).Grows :=
    (Session.grows_ofExcept _).bind fun _ => Session.grows_ofExcept _
  refine Session.Mirrors.imp (Session.Mirrors.write (fun _ reply => ?_) (hEnd row saved)
    (hEnd other saved')) (fun _ => ⟨rfl, trivial⟩) And.right
  exact .afterCheck (checkDeleted_leftOut entity row other reply) fun _ _ _ =>
    Session.mirrors_pure trivial

/-- A row that is not known by an id is not deleted, and nothing is executed for it. -/
theorem run_deleteRow_of_no_id {row : Row} (h : Value.present? row.id = none) (model : Model)
    (log : Log) : ∃ e, (deleteRow driver row model).run log = (.error e, log) := by
  cases model with
  | node entity children =>
    rw [deleteRow_node]
    cases hDelete : entity.delete row with
    | ok delete => exact absurd hDelete (delete_of_no_id h)
    | error e => exact ⟨e, rfl⟩

theorem grows_deleteKnown {model : Model} (hModel : model.WellFormed) (row : Row) :
    (if row.isUnsaved then pure row else deleteRow driver row model : Session Row).Grows := by
  split
  · exact Session.grows_ofExcept _
  · exact grows_deleteRow hModel row

/-- Under a deleted row, where a row known by a null is to be deleted but cannot be. -/
theorem mirrors_deleteKnown {row other : Row} (h : Leaner row other) {model : Model}
    (hDelete : (deleteRow driver row model).Mirrors (fun _ _ => True)
      (SameKnown row other model) (SameKnown row other model) (deleteRow driver other model)) :
    (if row.isUnsaved then pure row else deleteRow driver row model : Session Row).Mirrors
      (fun _ _ => True)
      (row.isUnsaved = other.isUnsaved ∧ (row.isUnsaved = false → SameKnown row other model))
      (row.isUnsaved = other.isUnsaved ∧ (row.isUnsaved = false → SameKnown row other model))
      (if other.isUnsaved then pure other else deleteRow driver other model) := by
  cases hRow : row.isUnsaved with
  | true =>
    rw [h.isUnsaved hRow]
    exact (Session.mirrors_pure trivial).imp (fun _ => trivial) fun _ => ⟨rfl, nofun⟩
  | false =>
    cases hOther : other.isUnsaved with
    | false => exact hDelete.imp (fun hSame => hSame.2 rfl) fun hKnown => ⟨rfl, fun _ => hKnown⟩
    | true =>
      -- Only the one row is to be deleted, and it has no id.
      intro log
      refine ⟨fun hSame => absurd hSame.1 Bool.false_ne_true, fun _ _ => .inl ?_⟩
      have hNoID : Value.present? row.id = none := by rw [h.id_eq_null hRow hOther]; rfl
      obtain ⟨e, hRun⟩ : ∃ e, (deleteRow driver row model).run log = (.error e, log) :=
        run_deleteRow_of_no_id hNoID model log
      exact ⟨e, congrArg Prod.fst hRun⟩

mutual

theorem mirrors_deleteRow (model : Model) (hModel : model.WellFormed) {row other : Row}
    (h : Leaner row other) (link : Option ParentLink) (v : Value) :
    (deleteRow driver (handed link v row) model).Mirrors (fun _ _ => True)
      (SameKnown row other model) (SameKnown row other model)
      (deleteRow driver (handed link v other) model) := by
  cases model with
  | node entity children =>
    rw [deleteRow_node, deleteRow_node, SameKnown]
    refine .afterCheck (delete_leftOut entity (h.handed_leftOut_id link v)) ?_
    rintro statement _ rfl
    have hUnder : (deleteChildren driver (handed link v row) children).Mirrors (fun _ _ => True)
        (SameKnownUnder row other children) (SameKnownUnder row other children)
        (deleteChildren driver (handed link v other) children) :=
      mirrors_deleteChildren children hModel.siblings h (fun _ _ => handed_childRows? _ _ _ _)
        fun _ _ => handed_childRows? _ _ _ _
    exact Session.Mirrors.imp (hUnder.bind (fun saved saved' _ =>
      mirrors_deleteOwn entity _ _ statement saved saved') (grows_deleteOwn entity _ statement)
      (grows_deleteOwn entity _ statement)) (fun h => ⟨h, trivial⟩) And.left

theorem mirrors_deleteChildren (children : List Model) (hChildren : Siblings children)
    {row other current current' : Row} (h : Leaner row other)
    (hRows : ∀ child ∈ children, current.childRows? child.name = row.childRows? child.name)
    (hOthers : ∀ child ∈ children, current'.childRows? child.name = other.childRows? child.name) :
    (deleteChildren driver current children).Mirrors (fun _ _ => True)
      (SameKnownUnder row other children) (SameKnownUnder row other children)
      (deleteChildren driver current' children) := by
  cases children with
  | nil => exact (Session.mirrors_pure trivial).imp (fun _ => trivial) fun _ => trivial
  | cons child rest =>
    rw [deleteChildren_cons, deleteChildren_cons, hRows child List.mem_cons_self,
      hOthers child List.mem_cons_self, SameKnownUnder]
    have hChild := h.childRows? child.name
    generalize row.childRows? child.name = rows at hChild
    generalize other.childRows? child.name = others at hChild
    cases hChild with
    | none =>
      have hRest := mirrors_deleteChildren rest hChildren.tail h
        (fun c hc => hRows c (List.mem_cons_of_mem _ hc))
        fun c hc => hOthers c (List.mem_cons_of_mem _ hc)
      exact hRest.imp And.right fun hUnder => ⟨.nil, hUnder⟩
    | some hEach =>
      refine (Session.mirrors_mapM (hEach.imp ?_) (grows_deleteKnown hChildren.first)
        (grows_deleteKnown hChildren.first)).bind
        (fun saved saved' _ => mirrors_deleteChildren rest hChildren.tail h
          (childRows?_later hChildren hRows saved) (childRows?_later hChildren hOthers saved'))
        (fun _ => grows_deleteChildren hChildren.tail _)
        fun _ => grows_deleteChildren hChildren.tail _
      intro r s hPair
      exact mirrors_deleteKnown hPair
        (mirrors_deleteRow child hChildren.first hPair none .null)

end

section Inserted

variable {entity : Entity} {row other : Row}

theorem insert_leaner_iff (fields : (entity.fields.map (·.name)).Nodup) (h : Leaner row other)
    (link : Option ParentLink) (v : Value) :
    Statement.insert (entity.insert (fillGuids entity (handed link v row))) =
        .insert (entity.insert (fillGuids entity (handed link v other))) ↔
      other.tempId = row.tempId ∨ entity.NothingToLose (handed link v row) := by
  rw [Statement.insert.injEq, insert_leftOut_iff fields (handed_data h.data_eq link v)
    (h.handed_leftOut_tempId link v), handed_tempId, handed_tempId]

theorem valueFor_leaner (fields : (entity.fields.map (·.name)).Nodup) (h : Leaner row other)
    (link : Option ParentLink) (v : Value)
    (hNothing : other.tempId = row.tempId ∨ entity.NothingToLose (handed link v row))
    (reply : Reply) {child : Entity} (hChild : entity.LinksTo child) :
    valueFor entity (insertedRow entity (handed link v other) reply) child =
      valueFor entity (insertedRow entity (handed link v row) reply) child := by
  obtain ⟨own, hOwn, hParent, _⟩ := hChild
  rw [← handed_tempId link v row, ← handed_tempId link v other] at hNothing
  rw [valueFor, valueFor, hOwn]
  dsimp only
  rw [linkValue_inserted, linkValue_inserted]
  exact insertedKey_leftOut fields (handed_data h.data_eq link v)
    (h.handed_leftOut_tempId link v) hNothing reply hParent

end Inserted

/-- The rows under the current row are those of the given one, handed the values for them. -/
def HandedUnder (above : Option WriteKind) (values : Entity → Value) (children : List Model)
    (given current : Row) : Prop :=
  ∀ child ∈ children, current.childRows? child.name = (given.childRows? child.name).map
    (List.map (handed (handingLink above child.entity) (values child.entity)))

theorem handedUnder_none (children : List Model) {given current : Row}
    (h : current.children = given.children) :
    HandedUnder none (fun _ => .null) children given current :=
  fun child _ => childRows?_unhanded (by simp) h child.entity .null child.name

theorem handedUnder_inserted {entity : Entity} {children : List Model}
    (hChildren : Siblings children) (link : Option ParentLink) (v : Value) (row : Row)
    (reply : Reply) : HandedUnder (some .insert)
      (valueFor entity (insertedRow entity (handed link v row) reply)) children row
      (stitch entity (insertedRow entity (handed link v row) reply)
        (children.map Model.entity)) := by
  intro child hChild
  rw [stitch_childRows? hChildren _ _ hChild, Row.childRows?, insertedRow_children,
    handed_children]
  rfl

section OneRow

variable {entity : Entity} {children : List Model} {row other : Row}

/-- However the rows under the two rows were handed the same values, they are saved alike if the
nulls among them do not count. -/
def MirrorsUnder (driver : Driver) (children : List Model) (row other : Row) : Prop :=
  ∀ above values current current', HandedUnder above values children row current →
    HandedUnder above values children other current' →
    (saveChildren driver current children).Mirrors (fun _ _ => True)
      (NegligibleUnder Entity.NeverLoses above row other children)
      (NegligibleUnder Entity.MayKeep above row other children)
      (saveChildren driver current' children)

theorem MirrorsUnder.unhanded (h : MirrorsUnder driver children row other) {current current' : Row}
    (hRow : current.children = row.children) (hOther : current'.children = other.children) :
    (saveChildren driver current children).Mirrors (fun _ _ => True)
      (NegligibleUnder Entity.NeverLoses none row other children)
      (NegligibleUnder Entity.MayKeep none row other children)
      (saveChildren driver current' children) :=
  h _ _ _ _ (handedUnder_none children hRow) (handedUnder_none children hOther)

theorem mirrors_inserted (hModel : (Model.node entity children).WellFormed)
    (hLinks : ∀ child ∈ children, entity.LinksTo child.entity) (h : Leaner row other)
    (hUnder : MirrorsUnder driver children row other) (link : Option ParentLink) (v : Value) :
    (insertRow driver entity (handed link v row) >>= fun saved =>
      saveChildren driver (stitch entity saved (children.map Model.entity)) children).Mirrors
      (fun _ _ => True)
      ((other.tempId = row.tempId ∨ entity.NeverLoses link row) ∧
        NegligibleUnder Entity.NeverLoses (some .insert) row other children)
      ((other.tempId = row.tempId ∨ entity.MayKeep link row) ∧
        NegligibleUnder Entity.MayKeep (some .insert) row other children)
      (insertRow driver entity (handed link v other) >>= fun saved =>
        saveChildren driver (stitch entity saved (children.map Model.entity)) children) := by
  have fields : (entity.fields.map (·.name)).Nodup := hModel.fields
  have hSame := insert_leaner_iff fields h link v
  have hGrows (row : Row) : (saveChildren driver row children).Grows :=
    grows_saveChildren hModel.siblings row
  simp only [insertRow_eq, bind_assoc, pure_bind]
  refine Session.Mirrors.imp (Session.Mirrors.write (fun hStatement reply => ?_)
    (fun _ => hGrows _) fun _ => hGrows _)
    (fun hHolds => ⟨hSame.mpr (hHolds.1.imp_right (· v)), hHolds.2⟩)
    fun hHolds => ⟨(hSame.mp hHolds.1).imp_right (⟨v, ·⟩), hHolds.2⟩
  -- One statement for both rows means that none lost a value, so both hand on the same.
  have hNothing := hSame.mp hStatement
  refine hUnder _ _ _ _ (handedUnder_inserted hModel.siblings link v row reply) ?_
  intro child hChild
  rw [← valueFor_leaner fields h link v hNothing reply (hLinks child hChild)]
  exact handedUnder_inserted hModel.siblings link v other reply child hChild

theorem mirrors_updated (hModel : (Model.node entity children).WellFormed) (h : Leaner row other)
    (hUnder : MirrorsUnder driver children row other) (link : Option ParentLink) (v : Value) :
    (updateRow driver entity (handed link v row) >>= fun saved =>
      saveChildren driver saved children).Mirrors (fun _ _ => True)
      (NegligibleUnder Entity.NeverLoses none row other children)
      (NegligibleUnder Entity.MayKeep none row other children)
      (updateRow driver entity (handed link v other) >>= fun saved =>
        saveChildren driver saved children) := by
  simp only [updateRow_eq, bind_assoc]
  refine .afterCheck
    (update_leftOut entity (handed_data h.data_eq link v) (h.handed_leftOut_id link v)) ?_
  rintro statement _ rfl
  cases statement with
  | none =>
    simp only [pure_bind]
    exact hUnder.unhanded (handed_children _ _ _) (handed_children _ _ _)
  | some statement =>
    simp only [bind_assoc, pure_bind]
    have hEnd (row : Row) (reply : Reply) : (Session.ofExcept reply.toCount >>= fun _ =>
        saveChildren driver { row with state := none } children).Grows :=
      (Session.grows_ofExcept _).bind fun _ => grows_saveChildren hModel.siblings _
    refine Session.Mirrors.imp (Session.Mirrors.write (fun _ reply => ?_) (hEnd _) (hEnd _))
      (fun hHolds => ⟨rfl, hHolds⟩) And.right
    refine .afterCheck (sameOutcome_eq reply.toCount) fun _ _ _ => ?_
    exact hUnder.unhanded (handed_children _ _ _) (handed_children _ _ _)

theorem mirrors_saveRow (hModel : (Model.node entity children).WellFormed)
    (hLinks : ∀ child ∈ children, entity.LinksTo child.entity) (h : Leaner row other)
    (hUnder : MirrorsUnder driver children row other) (above : Option WriteKind) (v : Value) :
    (saveRow driver entity children (handed (handingLink above entity) v row)).Mirrors
      (fun _ _ => True) (Negligible Entity.NeverLoses above row other (.node entity children))
      (Negligible Entity.MayKeep above row other (.node entity children))
      (saveRow driver entity children (handed (handingLink above entity) v other)) := by
  unfold saveRow
  rw [handed_state, handed_state, h.state_eq, Negligible, Negligible]
  cases hState : row.state with
  | none => exact hUnder.unhanded (handed_children _ _ _) (handed_children _ _ _)
  | some state =>
    cases state with
    | inserted => exact mirrors_inserted hModel hLinks h hUnder _ v
    | updated => exact mirrors_updated hModel h hUnder _ v
    | deleted => exact mirrors_deleteRow (.node entity children) hModel h _ v

end OneRow

mutual

theorem mirrors_saveRows {top : Model} (hTop : top.Compiled) (model : Model)
    (hWithin : top.Within model) {rows others : List Row} (h : List.Forall₂ Leaner rows others)
    (above : Option WriteKind) (v : Value) :
    (saveRows driver (rows.map (handed (handingLink above model.entity) v)) model).Mirrors
      (fun _ _ => True)
      (List.Forall₂ (fun r s => Negligible Entity.NeverLoses above r s model) rows others)
      (List.Forall₂ (fun r s => Negligible Entity.MayKeep above r s model) rows others)
      (saveRows driver (others.map (handed (handingLink above model.entity) v)) model) := by
  cases model with
  | node entity children =>
    have hModel := hTop.wellFormed.within hWithin
    rw [saveRows_node, saveRows_node, List.mapM_map, List.mapM_map]
    refine Session.mirrors_settled entity (h.imp fun r s hPair => ?_)
      (fun _ => (grows_saveRow hModel _).within _) fun _ => (grows_saveRow hModel _).within _
    refine (mirrors_saveRow hModel (hTop.linksTo hWithin) hPair ?_ above v).within _ _
    exact mirrors_saveChildren hTop children hModel.siblings
      (fun child hChild => hWithin.child hChild) hPair

theorem mirrors_saveChildren {top : Model} (hTop : top.Compiled) (children : List Model)
    (hChildren : Siblings children) (hWithin : ∀ child ∈ children, top.Within child)
    {row other : Row} (h : Leaner row other) : MirrorsUnder driver children row other := by
  intro above values current current' hRows hOthers
  cases children with
  | nil => exact (Session.mirrors_pure trivial).imp (fun _ => trivial) fun _ => trivial
  | cons child rest =>
    have hRest : MirrorsUnder driver rest row other := mirrors_saveChildren hTop rest
      hChildren.tail (fun c hc => hWithin c (List.mem_cons_of_mem _ hc)) h
    have hSkip := hRest above values current current'
      (fun c hc => hRows c (List.mem_cons_of_mem _ hc))
      fun c hc => hOthers c (List.mem_cons_of_mem _ hc)
    rw [saveChildren_cons, saveChildren_cons, hRows child List.mem_cons_self,
      hOthers child List.mem_cons_self, NegligibleUnder, NegligibleUnder]
    have hChild := h.childRows? child.name
    generalize row.childRows? child.name = rows at hChild
    generalize other.childRows? child.name = others at hChild
    cases hChild with
    | none => exact hSkip.imp And.right fun hUnder => ⟨.nil, hUnder⟩
    | some hEach =>
      cases hEach with
      | nil => exact hSkip.imp And.right fun hUnder => ⟨.nil, hUnder⟩
      | cons hFirst hMore =>
        exact (mirrors_saveRows hTop child (hWithin child List.mem_cons_self)
          (.cons hFirst hMore) above (values child.entity)).bind
          (fun saved saved' _ => hRest above values _ _
            (childRows?_later hChildren hRows saved) (childRows?_later hChildren hOthers saved'))
          (fun _ => grows_saveChildren hChildren.tail _)
          fun _ => grows_saveChildren hChildren.tail _

end

theorem mirrors_save {model : Model} (hModel : model.Compiled) {rows others : List Row}
    (h : List.Forall₂ Leaner rows others) :
    (save driver model rows).Mirrors (fun _ _ => True)
      (List.Forall₂ (fun r s => Negligible Entity.NeverLoses none r s model) rows others)
      (List.Forall₂ (fun r s => Negligible Entity.MayKeep none r s model) rows others)
      (save driver model others) := by
  refine .afterCheck (sameOutcome_eq (requireKey model.entity)) fun _ _ _ => ?_
  refine .afterSame (checkKeys_negligible model h) ?_
  have hRows := @mirrors_saveRows driver model hModel model .self rows others h none .null
  rw [handingLink, if_neg (by simp), map_handed_none, id, id] at hRows
  exact hRows

/-- The same statements are executed, and both saves succeed or both fail. -/
def SavedAlike (driver : Driver) (model : Model) (rows others : List Row) (log : Log) : Prop :=
  ((save driver model others).run log).2 = ((save driver model rows).run log).2 ∧
    isFailure ((save driver model others).run log).1 =
      isFailure ((save driver model rows).run log).1

/-- If the nulls that are left out do not count, every save stays the same. If a save succeeds
without them and is the same as with them, they do not count, but that a field which takes the
temporary id may have the handed value to lose. -/
theorem saved_alike_without_nulls {model : Model} (hModel : model.Compiled)
    {rows others : List Row} (h : List.Forall₂ Leaner rows others) :
    (List.Forall₂ (fun r s => Negligible Entity.NeverLoses none r s model) rows others →
      ∀ driver log, SavedAlike driver model rows others log) ∧
    ∀ driver log, isFailure ((save driver model others).run log).1 = false →
      SavedAlike driver model rows others log →
      List.Forall₂ (fun r s => Negligible Entity.MayKeep none r s model) rows others := by
  constructor
  · intro hNegligible driver log
    obtain ⟨hLog, hOutcome⟩ := (mirrors_save hModel h log).same hNegligible
    refine ⟨hLog, ?_⟩
    generalize ((save driver model rows).run log).1 = x at hOutcome
    generalize ((save driver model others).run log).1 = y at hOutcome
    cases hOutcome <;> rfl
  · rintro driver log hSaved ⟨hLog, hFailure⟩
    cases hRun : ((save driver model others).run log).1 with
    | error e =>
      rw [hRun] at hSaved
      cases hSaved
    | ok saved =>
      rcases (mirrors_save hModel h log).told saved hRun with
        ⟨e, hError⟩ | hDiverged | ⟨hNegligible, _⟩
      · rw [hSaved, hError] at hFailure
        cases hFailure
      · exact absurd hLog.symm hDiverged.ne
      · exact hNegligible

namespace Cards

/-- Cards have a code, for which a new one takes its temporary id. -/
def table : Table where
  name := "Card"
  storageName := "card"
  columns := [
    { name := "CardID", storageName := "id" },
    { name := "PersonID", storageName := "person_id" },
    { name := "Code", storageName := "code", columnDefault := some .guid }]
  primaryKey := some "CardID"

def catalog : Catalog :=
  Catalog.ofTables [
    Family.table "Person" "person" "PersonID" [("PersonID", "id"), ("Name", "name")], table]

def definition : Definition :=
  .node (Family.entityDefinition "Person" ["PersonID", "Name"] none) [
    .node (Family.entityDefinition "Card" ["CardID", "PersonID", "Code"]
      (some ⟨"PersonID", "PersonID"⟩)) []]

def card : Entity where
  name := "Card"
  basisTable := ⟨"Card", "card"⟩
  fields := [
    Family.field "CardID" "id", Family.field "PersonID" "person_id",
    { name := "Code", column := some ⟨"Code", "code"⟩, columnDefault := some .guid }]
  key := some 0
  parentLink := some ⟨"PersonID", "PersonID"⟩

def model : Model := .node Family.person [.node card []]

theorem model_compiled : model.Compiled := ⟨catalog, definition, rfl⟩

/-- Reports neither an id nor any other number of records than one. -/
def accepting : Driver := fun _ _ => .ok (.count 1)

/-- A person who joins with a card that has no code of its own, and one who leaves with a card
that was never written. -/
def moving (null : Option Value) : List Row := [
  { state := some .inserted, foreignKey := null, tempId := null, data := [("Name", .string "Ann")],
    children := [("Card", [{ state := some .inserted, tempId := null }])] },
  { state := some .deleted, id := some (.int 3),
    children := [("Card", [{ state := some .inserted, foreignKey := null, tempId := null }])] }]

theorem moving_leaner : List.Forall₂ Leaner (moving (some .null)) (moving none) := by
  have hCards (foreignKey foreignKey' : Option Value) (h : LeftOut foreignKey foreignKey') :
      List.Forall₂ (List.Forall₂ Leaner)
        [[{ state := some .inserted, foreignKey := foreignKey, tempId := some .null }]]
        [[{ state := some .inserted, foreignKey := foreignKey' }]] :=
    .cons (.cons (.row rfl rfl (.same _) h .null rfl .nil) .nil) .nil
  exact .cons (.row rfl rfl (.same _) .null .null rfl (hCards _ _ (.same _)))
    (.cons (.row rfl rfl (.same _) (.same _) (.same _) rfl (hCards _ _ .null)) .nil)

theorem person_neverLoses (link : Option ParentLink) (row : Row) :
    Family.person.NeverLoses link row := by
  intro v field hField hTakes
  obtain rfl | rfl : field = Family.field "PersonID" "id" ∨ field = Family.field "Name" "name" := by
    simpa [Family.person] using hField
  all_goals cases hTakes

/-- A card without a code of its own has nothing to lose. -/
theorem card_neverLoses {row : Row} (h : row.data = []) :
    card.NeverLoses card.parentLink row := by
  intro v field hField hTakes
  obtain rfl | rfl | rfl : field = Family.field "CardID" "id" ∨
      field = Family.field "PersonID" "person_id" ∨
      field = { name := "Code", column := some ⟨"Code", "code"⟩, columnDefault := some .guid } := by
    simpa [card] using hField
  · cases hTakes
  · cases hTakes
  · have hData : (handed card.parentLink v row).data = (handed card.parentLink v {}).data :=
      handed_data h card.parentLink v
    rw [Row.get, hData]
    rfl

theorem moving_negligible :
    List.Forall₂ (fun r s => Negligible Entity.NeverLoses none r s model) (moving (some .null))
      (moving none) := by
  refine .cons ⟨.inr (person_neverLoses _ _), .cons ⟨.inr (card_neverLoses rfl), trivial⟩ .nil,
    trivial⟩ (.cons ⟨.cons ⟨rfl, nofun⟩ .nil, trivial⟩ .nil)

theorem moving_saved_alike :
    List.Forall₂ Leaner (moving (some .null)) (moving none) ∧
      List.Forall₂ (fun r s => Negligible Entity.NeverLoses none r s model) (moving (some .null))
        (moving none) ∧
      isFailure ((save accepting model (moving none)).run []).1 = false ∧
      ((save accepting model (moving none)).run []).2.map (·.table) =
        ["person", "card", "person"] ∧
      SavedAlike accepting model (moving (some .null)) (moving none) [] := by
  obtain ⟨hSame, _⟩ := saved_alike_without_nulls model_compiled moving_leaner
  exact ⟨moving_leaner, moving_negligible, rfl, rfl, hSame moving_negligible accepting []⟩

/-- A person who leaves with a card that was never written. -/
def leaving (null : Option Value) : List Row := [
  { state := some .deleted, id := some (.int 3),
    children := [("Card", [{ state := some .inserted, id := null }])] }]

/-- A person who gets a card with a code. -/
def carded (null : Option Value) : List Row := [
  { id := some (.int 3), children := [
    ("Card", [{ state := some .inserted, tempId := null, data := [("Code", .string "A7")] }])] }]

theorem leaving_leaner : List.Forall₂ Leaner (leaving (some .null)) (leaving none) := by
  refine .cons (.row rfl rfl (.same _) (.same _) (.same _) rfl (.cons (.cons ?_ .nil) .nil)) .nil
  exact .row rfl rfl .null (.same _) (.same _) rfl .nil

theorem carded_leaner : List.Forall₂ Leaner (carded (some .null)) (carded none) := by
  refine .cons (.row rfl rfl (.same _) (.same _) (.same _) rfl (.cons (.cons ?_ .nil) .nil)) .nil
  exact .row rfl rfl (.same _) (.same _) .null rfl .nil

/-- With a null id the new card cannot be deleted, and the person stays, too. With a null
temporary id the new card loses its code. -/
theorem null_ids_count :
    model.Compiled ∧
      (List.Forall₂ Leaner (leaving (some .null)) (leaving none) ∧
        ¬SavedAlike accepting model (leaving (some .null)) (leaving none) []) ∧
      List.Forall₂ Leaner (carded (some .null)) (carded none) ∧
        ¬SavedAlike accepting model (carded (some .null)) (carded none) [] := by
  refine ⟨model_compiled, ⟨leaving_leaner, fun h => ?_⟩, carded_leaner, fun h => ?_⟩
  · have hFailed : isFailure ((save accepting model (leaving (some .null))).run []).1 = true := rfl
    have hSaved : isFailure ((save accepting model (leaving none)).run []).1 = false := rfl
    rw [SavedAlike, hFailed, hSaved] at h
    exact absurd h.2 Bool.false_ne_true
  · have hLost : ((save accepting model (carded (some .null))).run []).2 =
        [.insert ⟨"card", [], []⟩] := rfl
    have hWritten : ((save accepting model (carded none)).run []).2 =
        [.insert ⟨"card", ["code"], [.value (.string "A7")]⟩] := rfl
    rw [SavedAlike, hLost, hWritten] at h
    cases h.1

end Cards

end RowTree
