import RowTree.Proofs.Order

/-!
# Saving what was saved

A save clears the state of every row that it comes to, but a row that was never
written keeps its state under a deleted row. So rows that were saved can be saved
again with no statement if no deleted row passed over such a row, and only then.
-/

namespace RowTree

open Schema Sql

mutual

/-- Some row has a change pending. -/
def pending (rows : List Row) : Model → Bool
  | .node _ children => rows.any fun row => row.state.isSome || pendingUnder row children

def pendingUnder (row : Row) : List Model → Bool
  | [] => false
  | child :: rest =>
    pending ((row.childRows? child.name).getD []) child || pendingUnder row rest

end

mutual

/-- Some row that was never written is passed over: it is under a deleted row, and all
rows between the two are known. -/
def passesOver (cascading : Bool) (rows : List Row) : Model → Bool
  | .node _ children => rows.any fun row =>
    (cascading && row.isUnsaved) ||
      passesOverUnder (cascading || row.state == some .deleted) row children

def passesOverUnder (cascading : Bool) (row : Row) : List Model → Bool
  | [] => false
  | child :: rest =>
    passesOver cascading ((row.childRows? child.name).getD []) child ||
      passesOverUnder cascading row rest

end

theorem any_eq_any {α β : Type} {p : α → Bool} {q : β → Bool} {xs : List α} {ys : List β}
    (h : List.Forall₂ (fun x y => p x = q y) xs ys) : xs.any p = ys.any q := by
  induction h with
  | nil => rfl
  | cons hFirst _ ih => rw [List.any_cons, List.any_cons, hFirst, ih]

theorem pendingUnder_congr {row other : Row} {children : List Model}
    (h : ∀ child ∈ children, row.childRows? child.name = other.childRows? child.name) :
    pendingUnder row children = pendingUnder other children := by
  induction children with
  | nil => rfl
  | cons child rest ih =>
    rw [pendingUnder, pendingUnder, h child List.mem_cons_self,
      ih fun c hc => h c (List.mem_cons_of_mem _ hc)]

theorem passesOverUnder_congr {cascading : Bool} {row other : Row} {children : List Model}
    (h : ∀ child ∈ children,
      passesOver cascading ((row.childRows? child.name).getD []) child =
        passesOver cascading ((other.childRows? child.name).getD []) child) :
    passesOverUnder cascading row children = passesOverUnder cascading other children := by
  induction children with
  | nil => rfl
  | cons child rest ih =>
    rw [passesOverUnder, passesOverUnder, h child List.mem_cons_self,
      ih fun c hc => h c (List.mem_cons_of_mem _ hc)]

theorem pending_eq_false_iff {entity : Entity} {children : List Model} {rows : List Row} :
    pending rows (.node entity children) = false ↔
      ∀ row ∈ rows, row.state = none ∧ pendingUnder row children = false := by
  rw [pending, List.any_eq_false]
  apply forall₂_congr
  intro row _
  rw [Bool.not_eq_true, Bool.or_eq_false_iff, Option.isSome_eq_false_iff,
    Option.isNone_iff_eq_none]

theorem pending_nil (model : Model) : pending [] model = false := by
  cases model
  rfl

theorem passesOver_nil (cascading : Bool) (model : Model) :
    passesOver cascading [] model = false := by
  cases model
  rfl

theorem passesOver_map_handed (link : Option ParentLink) (v : Value) (rows : List Row)
    (model : Model) : passesOver false (rows.map (handed link v)) model =
      passesOver false rows model := by
  cases model with
  | node entity children =>
    rw [passesOver, passesOver, List.any_map]
    apply List.any_congr rfl
    intro row
    rw [Function.comp_apply, handed_state, Bool.false_and, Bool.false_and]
    congr 1
    apply passesOverUnder_congr
    intro child _
    rw [handed_childRows?]

section

variable {driver : Driver}

theorem deleteChildren_frame {children : List Model} {name : String}
    (hName : name ∉ children.map Model.name) {row saved : Row}
    (h : (deleteChildren driver row children).Gives saved) :
    saved.childRows? name = row.childRows? name :=
  (deleteChildren_replaced h).frame hName

theorem saveChildren_frame {children : List Model} {name : String}
    (hName : name ∉ children.map Model.name) {row saved : Row}
    (h : (saveChildren driver row children).Gives saved) :
    saved.childRows? name = row.childRows? name :=
  (saveChildren_replaced h).frame hName

theorem saveChildren_state {children : List Model} {row saved : Row}
    (h : (saveChildren driver row children).Gives saved) : saved.state = row.state :=
  (saveChildren_replaced h).onlyUnder.state

theorem pending_deleted {model : Model} {rows saved : List Row}
    (h : List.Forall₂
      (fun r s => (if r.isUnsaved then pure r else deleteRow driver r model).Gives s) rows saved)
    (hDeleted : ∀ r s, (deleteRow driver r model).Gives s → s.state = none ∧
      pendingUnder s model.children = passesOverUnder true r model.children) :
    pending saved model = passesOver true rows model := by
  cases model with
  | node entity children =>
    rw [pending, passesOver]
    symm
    apply any_eq_any
    apply h.imp
    intro r s hGives
    cases hUnsaved : r.isUnsaved with
    | true =>
      rw [hUnsaved, if_pos rfl] at hGives
      obtain ⟨hInserted, _⟩ := Bool.and_eq_true_iff.mp hUnsaved
      rw [Session.gives_pure hGives, beq_iff_eq.mp hInserted]
      rfl
    | false =>
      rw [hUnsaved, if_neg Bool.false_ne_true] at hGives
      obtain ⟨hState, hUnder⟩ := hDeleted r s hGives
      rw [hState, Bool.true_or]
      exact hUnder.symm

mutual

theorem deleteRow_gives (model : Model) (hModel : model.WellFormed) {row saved : Row}
    (h : (deleteRow driver row model).Gives saved) :
    saved.state = none ∧
      pendingUnder saved model.children = passesOverUnder true row model.children := by
  cases model with
  | node entity children =>
    rw [deleteRow_node] at h
    obtain ⟨_, _, h⟩ := Session.gives_bind h
    obtain ⟨between, hBetween, h⟩ := Session.gives_bind h
    obtain ⟨_, _, h⟩ := Session.gives_bind h
    obtain ⟨_, _, h⟩ := Session.gives_bind h
    rw [Session.gives_pure h]
    refine ⟨rfl, ?_⟩
    rw [Model.children, ← deleteChildren_gives children hModel.siblings hBetween]
    exact pendingUnder_congr fun _ _ => rfl

theorem deleteChildren_gives (children : List Model) (hChildren : Siblings children) {row saved : Row}
    (h : (deleteChildren driver row children).Gives saved) :
    pendingUnder saved children = passesOverUnder true row children := by
  cases children with
  | nil => rfl
  | cons child rest =>
    rw [deleteChildren_cons] at h
    rw [pendingUnder, passesOverUnder]
    cases hRows : row.childRows? child.name with
    | none =>
      rw [hRows] at h
      rw [deleteChildren_frame hChildren.fresh h, hRows, deleteChildren_gives rest hChildren.tail h]
      rw [Option.getD_none, pending_nil, passesOver_nil]
    | some rows =>
      rw [hRows] at h
      obtain ⟨rows', hEach, h⟩ := Session.gives_bind h
      have hSaved : saved.childRows? child.name = some rows' := by
        rw [deleteChildren_frame hChildren.fresh h]
        exact Entries.get?_set_self _ _ _
      rw [hSaved, deleteChildren_gives rest hChildren.tail h]
      congr 1
      · exact pending_deleted (Session.gives_mapM hEach)
          fun r s hDeleted => deleteRow_gives child hChildren.first hDeleted
      · apply passesOverUnder_congr
        intro c hc
        rw [childRows?_setChildRows_of_ne rows' (hChildren.name_ne hc)]

end

theorem gives_saveRows {entity : Entity} {children : List Model} {rows saved : List Row}
    (h : (saveRows driver rows (.node entity children)).Gives saved) :
    List.Forall₂ (fun row s => (saveRow driver entity children row).Gives s) rows saved := by
  rw [saveRows_node] at h
  obtain ⟨results, hResults, h⟩ := Session.gives_bind h
  have hEach := Session.gives_mapM hResults
  have hSettled := settle_eq_ok.mp (Session.gives_ofExcept h)
  have hSame : results = saved.map .ok := by
    rw [← List.forall₂_eq_eq_eq, List.forall₂_map_right_iff]
    exact hSettled
  rw [hSame, List.forall₂_map_right_iff] at hEach
  exact hEach.imp fun _ _ hGives => hGives.of_attempt.of_within

theorem passesOverUnder_stitch {entity : Entity} {children : List Model}
    (hChildren : Siblings children) (row : Row) :
    passesOverUnder false (stitch entity row (children.map Model.entity)) children =
      passesOverUnder false row children := by
  apply passesOverUnder_congr
  intro child hChild
  rw [stitch_childRows? hChildren entity row hChild]
  cases row.childRows? child.name with
  | none => rfl
  | some rows => exact passesOver_map_handed _ _ rows child

/-- After its own change a row has no state, and what is done under it does not bring
one back. -/
theorem saveRow_gives {entity : Entity} {children : List Model}
    (hModel : (Model.node entity children).WellFormed) {row saved : Row}
    (hBelow : ∀ current, (saveChildren driver current children).Gives saved →
      pendingUnder saved children = passesOverUnder false current children)
    (h : (saveRow driver entity children row).Gives saved) :
    saved.state = none ∧
      pendingUnder saved children = passesOverUnder (row.state == some .deleted) row children := by
  unfold saveRow at h
  cases hState : row.state with
  | none =>
    rw [hState] at h
    exact ⟨(saveChildren_state h).trans hState, hBelow row h⟩
  | some state =>
    rw [hState] at h
    cases state with
    | inserted =>
      obtain ⟨inserted, hInserted, h⟩ := Session.gives_bind h
      rw [insertRow_eq] at hInserted
      obtain ⟨reply, _, hInserted⟩ := Session.gives_bind hInserted
      rw [Session.gives_pure hInserted] at h
      refine ⟨?_, ?_⟩
      · rw [saveChildren_state h, (stitch_onlyUnder _ _ _).state]
        rfl
      · rw [hBelow _ h, passesOverUnder_stitch hModel.siblings]
        apply passesOverUnder_congr
        intro child _
        rw [Row.childRows?, insertedRow_children]
        rfl
    | updated =>
      obtain ⟨updated, hUpdated, h⟩ := Session.gives_bind h
      rw [updateRow_gives hUpdated] at h
      refine ⟨saveChildren_state h, ?_⟩
      rw [hBelow _ h]
      exact passesOverUnder_congr fun _ _ => rfl
    | deleted => exact deleteRow_gives (.node entity children) hModel h

mutual

theorem saveRows_gives (model : Model) (hModel : model.WellFormed) {rows saved : List Row}
    (h : (saveRows driver rows model).Gives saved) :
    pending saved model = passesOver false rows model := by
  cases model with
  | node entity children =>
    rw [pending, passesOver]
    symm
    apply any_eq_any
    apply (gives_saveRows h).imp
    intro row s hRow
    have hGives := saveRow_gives hModel
      (fun _ hUnder => saveChildren_gives children hModel.siblings hUnder) hRow
    rw [hGives.1, hGives.2, Bool.false_and, Bool.false_or]
    rfl

theorem saveChildren_gives (children : List Model) (hChildren : Siblings children) {row saved : Row}
    (h : (saveChildren driver row children).Gives saved) :
    pendingUnder saved children = passesOverUnder false row children := by
  cases children with
  | nil => rfl
  | cons child rest =>
    rw [saveChildren_cons] at h
    rw [pendingUnder, passesOverUnder]
    split at h
    · rename_i hRows
      rw [saveChildren_frame hChildren.fresh h, hRows, saveChildren_gives rest hChildren.tail h]
      rw [Option.getD_none, pending_nil, passesOver_nil]
    · rename_i hRows
      rw [saveChildren_frame hChildren.fresh h, hRows, saveChildren_gives rest hChildren.tail h]
      rw [Option.getD_some, pending_nil, passesOver_nil]
    · rename_i first others hRows
      obtain ⟨rows, hEach, h⟩ := Session.gives_bind h
      have hSaved : saved.childRows? child.name = some rows := by
        rw [saveChildren_frame hChildren.fresh h]
        exact Entries.get?_set_self _ _ _
      rw [hSaved, hRows, saveChildren_gives rest hChildren.tail h]
      congr 1
      · exact saveRows_gives child hChildren.first hEach
      · apply passesOverUnder_congr
        intro c hc
        rw [childRows?_setChildRows_of_ne rows (hChildren.name_ne hc)]

end

mutual

theorem not_pending_of_gives (model : Model) (hModel : model.WellFormed) {rows : List Row}
    (h : (saveRows driver rows model).Gives rows) : pending rows model = false := by
  cases model with
  | node entity children =>
    -- Every row that a save gives has no state. So none of these had one, and all that
    -- was done with them is that their children were saved.
    have hChildren := hModel.siblings
    rw [pending_eq_false_iff]
    intro row hRow
    have hGives := List.forall₂_same.mp (gives_saveRows h) row hRow
    have hState := (saveRow_gives hModel
      (fun _ hUnder => saveChildren_gives children hChildren hUnder) hGives).1
    rw [saveRow, hState] at hGives
    exact ⟨hState, not_pendingUnder_of_gives children hChildren hGives⟩

theorem not_pendingUnder_of_gives (children : List Model) (hChildren : Siblings children)
    {row : Row} (h : (saveChildren driver row children).Gives row) :
    pendingUnder row children = false := by
  cases children with
  | nil => rfl
  | cons child rest =>
    rw [saveChildren_cons] at h
    rw [pendingUnder, Bool.or_eq_false_iff]
    split at h
    · rename_i hRows
      rw [hRows]
      exact ⟨pending_nil child, not_pendingUnder_of_gives rest hChildren.tail h⟩
    · rename_i hRows
      rw [hRows]
      exact ⟨pending_nil child, not_pendingUnder_of_gives rest hChildren.tail h⟩
    · rename_i first others hRows
      obtain ⟨rows, hEach, h⟩ := Session.gives_bind h
      have hSame : row.childRows? child.name = some rows := by
        rw [saveChildren_frame hChildren.fresh h]
        exact Entries.get?_set_self _ _ _
      rw [setChildRows_self hSame] at h
      rw [hRows] at hSame
      cases hSame
      rw [hRows]
      exact ⟨not_pending_of_gives child hChildren.first hEach,
        not_pendingUnder_of_gives rest hChildren.tail h⟩

end

mutual

theorem saveRows_eq_pure (model : Model) {rows : List Row} (h : pending rows model = false) :
    saveRows driver rows model = pure rows := by
  cases model with
  | node entity children =>
    rw [pending_eq_false_iff] at h
    have hEach : ∀ row ∈ rows, ((saveRow driver entity children row).within
        (.remark (.savingRow row.state entity.name row.label))).attempt = pure (.ok row) := by
      intro row hRow
      obtain ⟨hState, hUnder⟩ := h row hRow
      rw [saveRow, hState]
      dsimp only
      rw [saveChildren_eq_pure children hUnder]
      rfl
    rw [saveRows_node, Session.mapM_eq_pure hEach, pure_bind]
    have hSettled : settle entity (rows.map .ok) = .ok rows := by
      apply settle_eq_ok.mpr
      rw [List.forall₂_map_left_iff, List.forall₂_same]
      intro row _
      rfl
    rw [hSettled]
    rfl

theorem saveChildren_eq_pure (children : List Model) {row : Row}
    (h : pendingUnder row children = false) : saveChildren driver row children = pure row := by
  cases children with
  | nil => rfl
  | cons child rest =>
    rw [pendingUnder, Bool.or_eq_false_iff] at h
    obtain ⟨hFirst, hRest⟩ := h
    rw [saveChildren_cons]
    split
    · exact saveChildren_eq_pure rest hRest
    · exact saveChildren_eq_pure rest hRest
    · rename_i first others hRows
      rw [hRows, Option.getD_some] at hFirst
      rw [saveRows_eq_pure child hFirst, pure_bind, setChildRows_self hRows]
      exact saveChildren_eq_pure rest hRest

end

end

mutual

theorem checkKeys_eq_ok (model : Model) {rows : List Row} (h : pending rows model = false) :
    checkKeys false rows model = .ok () := by
  cases model with
  | node entity children =>
    rw [pending_eq_false_iff] at h
    rw [checkKeys]
    apply Outcome.forM_eq_ok
    intro row hRow
    obtain ⟨hState, hUnder⟩ := h row hRow
    rw [hState]
    exact checkChildKeys_eq_ok children hUnder

theorem checkChildKeys_eq_ok (children : List Model) {row : Row}
    (h : pendingUnder row children = false) : checkChildKeys false row children = .ok () := by
  cases children with
  | nil => rfl
  | cons child rest =>
    rw [pendingUnder, Bool.or_eq_false_iff] at h
    rw [checkChildKeys, checkKeys_eq_ok child h.1]
    exact checkChildKeys_eq_ok rest h.2

end

/-- Rows that were saved are saved again with no statement and come back as they are if
and only if the first save passed over no row. -/
theorem save_again_iff {driver driver' : Driver} {model : Model} (hModel : model.Compiled)
    {rows saved : List Row} {log : Log} (h : ((save driver model rows).run log).1 = .ok saved)
    (log' : Log) :
    (save driver' model saved).run log' = (.ok saved, log') ↔
      passesOver false rows model = false := by
  have hWell := hModel.wellFormed
  obtain ⟨_, hKey, hFirst⟩ := Session.gives_bind ⟨log, h⟩
  obtain ⟨_, _, hFirst⟩ := Session.gives_bind hFirst
  rw [← saveRows_gives model hWell hFirst]
  constructor
  · intro hAgain
    have hGives : (save driver' model saved).Gives saved := ⟨log', by rw [hAgain]⟩
    obtain ⟨_, _, hGives⟩ := Session.gives_bind hGives
    obtain ⟨_, _, hGives⟩ := Session.gives_bind hGives
    exact not_pending_of_gives model hWell hGives
  · intro hNot
    rw [save_eq, Session.gives_ofExcept hKey, checkKeys_eq_ok model hNot,
      saveRows_eq_pure model hNot]
    rfl

namespace Family

open Schema.Family

/-- A deleted person with a child that was never written. -/
def abandoned : List Row :=
  [rowWith (some .deleted) (some (.int 3)) []
    [("Child", [rowWith (some .inserted) none [("Name", .string "Bo")] []])]]

def savedAbandoned : List Row :=
  [rowWith none (some (.int 3)) []
    [("Child", [rowWith (some .inserted) none [("Name", .string "Bo")] []])]]

/-- The child is inserted when the rows are saved for the second time. -/
theorem save_abandoned_again :
    ¬∀ (driver driver' : Driver) (model : Model), model.Compiled →
      ∀ (rows saved : List Row) (log log' : Log),
        ((save driver model rows).run log).1 = .ok saved →
          (save driver' model saved).run log' = (.ok saved, log') := by
  intro h
  have hAgain := h accepting accepting model model_compiled abandoned savedAbandoned [] [] rfl
  have hLength : ((save accepting model savedAbandoned).run []).2.length = 1 := rfl
  rw [hAgain] at hLength
  cases hLength

/-- The first two persons of the household, of whom nothing is deleted. -/
theorem save_household_again :
    passesOver false (household.take 2) model = false ∧
      (save accepting model (savedHousehold.take 2)).run [] = (.ok (savedHousehold.take 2), []) := by
  have hSaved : ((save accepting model (household.take 2)).run []).1 =
      .ok (savedHousehold.take 2) := rfl
  have hNone : passesOver false (household.take 2) model = false := rfl
  exact ⟨hNone, (save_again_iff model_compiled hSaved []).mpr hNone⟩

end Family

end RowTree
