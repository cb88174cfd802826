import RowTree.Proofs.Alone
import RowTree.Proofs.Kept

/-!
# What the error of a save tells

A save that fails does so by one row: the first of its batch that fails. Its own write has failed or
else the first batch under it that did, and so on downwards. The error tells this from the outside
in, each batch with the number of its failures and the row with the state and the label that the
caller gave it, and last what the innermost write failed of.
-/

namespace RowTree

open Schema Sql

variable {driver : Driver} {entity : Entity} {children : List Model} {log : Log} {e : Error}

namespace Error

theorem getLast?_chain (e : Error) : e.chain.getLast? = some e.root := by
  obtain ⟨fault, causes⟩ := e
  rw [chain, List.getLast?_cons, root]

theorem root_of_chain {faults : List Fault} {inner : Error} (h : e.chain = faults ++ inner.chain) :
    e.root = inner.root := by
  have hLast := e.getLast?_chain
  rw [h, List.getLast?_append, inner.getLast?_chain] at hLast
  exact (Option.some.inj hLast).symm

/-- The words of the inner error stand at the end as they are. -/
theorem message_of_chain {faults : List Fault} {inner : Error}
    (h : e.chain = faults ++ inner.chain) :
    e.message = ": ".intercalate (faults.map Fault.message ++ [inner.message]) := by
  rw [message, h, List.map_append]
  by_cases hNone : faults = []
  · rw [hNone, List.map_nil, List.nil_append, List.nil_append, String.intercalate_singleton,
      message]
  · have hSome : faults.map Fault.message ≠ [] := mt List.map_eq_nil_iff.mp hNone
    have hInner : inner.chain.map Fault.message ≠ [] := List.cons_ne_nil _ _
    rw [String.intercalate_append_of_ne_nil hSome hInner,
      String.intercalate_append_of_ne_nil hSome (List.cons_ne_nil _ _),
      String.intercalate_singleton, message]

end Error

section

variable {α β : Type}

theorem run_bind_error {session : Session α} {next : α → Session β}
    (h : ((session >>= next).run log).1 = .error e) :
    (session.run log).1 = .error e ∨
      ∃ v between, session.run log = (.ok v, between) ∧ ((next v).run between).1 = .error e := by
  rw [Session.run_bind] at h
  rcases hRun : session.run log with ⟨other | v, between⟩
  · rw [hRun] at h
    exact .inl (congrArg Except.error (Except.error.inj h))
  · rw [hRun] at h
    exact .inr ⟨v, between, rfl, h⟩

theorem run_within_error {session : Session α} {outer : Fault}
    (h : ((session.within outer).run log).1 = .error e) :
    ∃ inner, (session.run log).1 = .error inner ∧ e = inner.within outer := by
  change (session.run log).1.mapError (·.within outer) = .error e at h
  cases hResult : (session.run log).1 with
  | error inner =>
    rw [hResult] at h
    exact ⟨inner, rfl, (Except.error.inj h).symm⟩
  | ok _ =>
    rw [hResult] at h
    cases h

/-- A list of sessions, one after the other, stops at the first that fails. -/
theorem run_mapM_error {f : α → Session β} {xs : List α} (h : ((xs.mapM f).run log).1 = .error e) :
    ∃ done x rest vs between, xs = done ++ x :: rest ∧ (done.mapM f).run log = (.ok vs, between) ∧
      ((f x).run between).1 = .error e := by
  induction xs generalizing log with
  | nil => cases h
  | cons x xs ih =>
    rw [List.mapM_cons] at h
    obtain hFirst | ⟨v, between, hFirst, h⟩ := run_bind_error h
    · exact ⟨[], x, xs, [], log, rfl, rfl, hFirst⟩
    · obtain h | ⟨_, _, _, h⟩ := run_bind_error h
      · obtain ⟨done, y, rest, vs, later, rfl, hDone, hy⟩ := ih h
        refine ⟨x :: done, y, rest, v :: vs, later, rfl, ?_, hy⟩
        rw [List.mapM_cons, Session.run_bind, hFirst]
        dsimp only
        rw [Session.run_bind, hDone]
        rfl
      · cases h

theorem run_foldlM_error {step : β → α → Session β} {xs : List α} {s : β}
    (h : ((xs.foldlM step s).run log).1 = .error e) :
    ∃ done x rest current between, xs = done ++ x :: rest ∧
      (done.foldlM step s).run log = (.ok current, between) ∧
      ((step current x).run between).1 = .error e := by
  induction xs generalizing log s with
  | nil => cases h
  | cons x xs ih =>
    rw [List.foldlM_cons] at h
    obtain hFirst | ⟨next, between, hFirst, h⟩ := run_bind_error h
    · exact ⟨[], x, xs, s, log, rfl, rfl, hFirst⟩
    · obtain ⟨done, y, rest, current, later, rfl, hDone, hy⟩ := ih h
      refine ⟨x :: done, y, rest, current, later, rfl, ?_, hy⟩
      rw [List.foldlM_cons, Session.run_bind, hFirst]
      exact hDone

theorem length_runEach (f : α → Session β) (xs : List α) (log : Log) :
    (runEach f xs log).1.length = xs.length := by
  induction xs generalizing log with
  | nil => rfl
  | cons x xs ih => exact congrArg (· + 1) (ih _)

/-- The outcome at a place is that of its session after those of the places before. -/
theorem runEach_eq_append {f : α → Session β} {xs : List α}
    {before after : List (Except Error β)} {result : Except Error β}
    (h : (runEach f xs log).1 = before ++ result :: after) :
    ∃ done x rest, xs = done ++ x :: rest ∧ (runEach f done log).1 = before ∧
      ((f x).run (runEach f done log).2).1 = result := by
  induction before generalizing xs log with
  | nil =>
    cases xs with
    | nil => cases h
    | cons x xs => exact ⟨[], x, xs, rfl, rfl, (List.cons.inj h).1⟩
  | cons first before ih =>
    cases xs with
    | nil => cases h
    | cons x xs =>
      obtain ⟨hFirst, h⟩ := List.cons.inj h
      obtain ⟨done, y, rest, rfl, hBefore, hy⟩ := ih h
      exact ⟨x :: done, y, rest, rfl, congr_arg₂ List.cons hFirst hBefore, hy⟩

end

/-- Deletes a row in a cascade, which passes over rows that were never written. -/
def deleteWritten (driver : Driver) (model : Model) (row : Row) : Session Row :=
  if row.isUnsaved then pure row else deleteRow driver row model

def deleteChild (driver : Driver) (row : Row) (child : Model) : Session Row :=
  match row.childRows? child.name with
  | none => pure row
  | some rows => do
    let saved ← rows.mapM (deleteWritten driver child)
    pure (row.setChildRows child.name saved)

theorem deleteChildren_eq_foldlM (row : Row) (children : List Model) :
    deleteChildren driver row children = children.foldlM (deleteChild driver) row := by
  induction children generalizing row with
  | nil => rfl
  | cons child rest ih =>
    rw [deleteChildren_cons, List.foldlM_cons, deleteChild]
    cases row.childRows? child.name with
    | none => exact ih row
    | some rows =>
      simp only [ih, bind_assoc, pure_bind]
      rfl

def saveChild (driver : Driver) (row : Row) (child : Model) : Session Row :=
  match row.childRows? child.name with
  | none | some [] => pure row
  | some (first :: others) => do
    let saved ← saveRows driver (first :: others) child
    pure (row.setChildRows child.name saved)

theorem saveChildren_eq_foldlM (row : Row) (children : List Model) :
    saveChildren driver row children = children.foldlM (saveChild driver) row := by
  induction children generalizing row with
  | nil => rfl
  | cons child rest ih =>
    rw [saveChildren_cons, List.foldlM_cons, saveChild]
    rcases row.childRows? child.name with _ | _ | ⟨first, others⟩
    · exact ih row
    · exact ih row
    · simp only [ih, bind_assoc, pure_bind]

/-- A deletion with all that is under the row fails: a row has no key to be found by, or its
statement is refused, or does not touch exactly one record. The rows under a row come before it,
and nothing comes after the first that fails. -/
inductive CascadeFails (driver : Driver) : Model → Row → Log → Error → Prop
  | key {entity : Entity} {children : List Model} {row : Row} {log : Log} {e : Error}
      (noKey : entity.delete row = .error e) : CascadeFails driver (.node entity children) row log e
  | under {entity : Entity} {before after : List Model} {child : Model}
      {row current r : Row} {done rest saved : List Row} {log first second : Log} {d : Delete}
      {e : Error} (keyed : entity.delete row = .ok d)
      (deleted : (deleteChildren driver row before).run log = (.ok current, first))
      (rows : row.childRows? child.name = some (done ++ r :: rest))
      (earlier : (done.mapM (deleteWritten driver child)).run first = (.ok saved, second))
      (written : r.isUnsaved = false) (fails : CascadeFails driver child r second e) :
      CascadeFails driver (.node entity (before ++ child :: after)) row log e
  | refused {entity : Entity} {children : List Model} {row saved : Row} {log first : Log}
      {d : Delete} {e : Error} (keyed : entity.delete row = .ok d)
      (deleted : (deleteChildren driver row children).run log = (.ok saved, first))
      (refused : driver first (.delete d) = .error e) :
      CascadeFails driver (.node entity children) row log e
  | count {entity : Entity} {children : List Model} {row saved : Row} {log first : Log}
      {d : Delete} {reply : Reply} {e : Error} (keyed : entity.delete row = .ok d)
      (deleted : (deleteChildren driver row children).run log = (.ok saved, first))
      (answered : driver first (.delete d) = .ok reply)
      (wrong : checkDeleted entity row reply = .error e) :
      CascadeFails driver (.node entity children) row log e

/-- The change that is pending on the row itself fails, of a deleted one with all that is under
it. -/
inductive ChangeFails (driver : Driver) (entity : Entity) (children : List Model) (row : Row)
    (log : Log) (e : Error) : Prop
  | insert (state : row.state = some .inserted)
      (refused : driver log (.insert (entity.insert (fillGuids entity row))) = .error e)
  | updateKey (state : row.state = some .updated) (noKey : entity.update row = .error e)
  | update {u : Update} (state : row.state = some .updated)
      (keyed : entity.update row = .ok (some u)) (refused : driver log (.update u) = .error e)
  | updateReply {u : Update} {reply : Reply} (state : row.state = some .updated)
      (keyed : entity.update row = .ok (some u)) (answered : driver log (.update u) = .ok reply)
      (noCount : reply.toCount = .error e)
  | delete (state : row.state = some .deleted)
      (fails : CascadeFails driver (.node entity children) row log e)

theorem not_mem_before {before after : List Model} {child : Model}
    (h : ((before ++ child :: after).map Model.name).Nodup) :
    child.name ∉ before.map Model.name := by
  rw [List.map_append, List.map_cons] at h
  exact fun hMem => (List.nodup_append.mp h).2.2 _ hMem _ List.mem_cons_self rfl

theorem cascadeFails_of_deleteRow {model : Model} (hModel : model.WellFormed) {row : Row}
    (h : ((deleteRow driver row model).run log).1 = .error e) :
    CascadeFails driver model row log e := by
  induction hModel generalizing row log with
  | @node entity children _ names _ _ ih =>
    rw [deleteRow_node] at h
    obtain hKey | ⟨d, _, hKey, h⟩ := run_bind_error h
    · exact .key hKey
    · obtain ⟨hKeyed, rfl⟩ := Prod.mk.inj hKey
      obtain hUnder | ⟨saved, first, hUnder, h⟩ := run_bind_error h
      · rw [deleteChildren_eq_foldlM] at hUnder
        obtain ⟨before, child, after, current, first, rfl, hBefore, hChild⟩ :=
          run_foldlM_error hUnder
        rw [← deleteChildren_eq_foldlM] at hBefore
        -- The child models before it have other names, so its rows are still those of the row.
        rw [deleteChild, deleteChildren_frame (not_mem_before names) ⟨_, by rw [hBefore]⟩] at hChild
        split at hChild
        · cases hChild
        · rename_i rows hRows
          obtain hEach | ⟨_, _, _, h⟩ := run_bind_error hChild
          · obtain ⟨done, r, rest, saved, second, rfl, hDone, hFails⟩ := run_mapM_error hEach
            rw [deleteWritten] at hFails
            split at hFails
            · cases hFails
            · rename_i hWritten
              have hChild : child ∈ before ++ child :: after := by simp
              exact .under hKeyed hBefore hRows hDone (Bool.eq_false_iff.mpr hWritten)
                (ih child hChild hFails)
          · cases h
      · obtain hRefused | ⟨reply, _, hReply, h⟩ := run_bind_error h
        · exact .refused hKeyed hUnder hRefused
        · obtain hWrong | ⟨_, _, _, h⟩ := run_bind_error h
          · exact .count hKeyed hUnder (Prod.mk.inj hReply).1 hWrong
          · cases h

/-- What is done with a row before the rows under it are saved, which is all that is done with a
deleted one. -/
def changeRow (driver : Driver) (entity : Entity) (children : List Model) (row : Row) :
    Session Row :=
  match row.state with
  | some .inserted => do
    let row ← insertRow driver entity row
    pure (stitch entity row (children.map Model.entity))
  | some .updated => updateRow driver entity row
  | some .deleted => deleteRow driver row (.node entity children)
  | none => pure row

theorem saveRow_eq_changeRow {row : Row} (h : row.state ≠ some .deleted) :
    saveRow driver entity children row =
      changeRow driver entity children row >>= fun row => saveChildren driver row children := by
  rw [saveRow, changeRow]
  rcases hState : row.state with _ | _ | _ | _
  · rfl
  · dsimp only
    rw [bind_assoc]
    rfl
  · rfl
  · exact absurd hState h

theorem changeFails_of_changeRow (hModel : (Model.node entity children).WellFormed) {row : Row}
    (h : ((changeRow driver entity children row).run log).1 = .error e) :
    ChangeFails driver entity children row log e := by
  unfold changeRow at h
  split at h
  · rename_i hState
    obtain hInsert | ⟨_, _, _, h⟩ := run_bind_error h
    · rw [insertRow_eq] at hInsert
      obtain hRefused | ⟨_, _, _, h⟩ := run_bind_error hInsert
      · exact .insert hState hRefused
      · cases h
    · cases h
  · rename_i hState
    obtain hKey | ⟨u, _, hKey, h⟩ := run_bind_error h
    · exact .updateKey hState hKey
    · obtain ⟨hKeyed, rfl⟩ := Prod.mk.inj hKey
      cases u with
      | none => cases h
      | some u =>
        obtain hRefused | ⟨reply, _, hReply, h⟩ := run_bind_error h
        · exact .update hState hKeyed hRefused
        · obtain hCount | ⟨_, _, _, h⟩ := run_bind_error h
          · exact .updateReply hState hKeyed (Prod.mk.inj hReply).1 hCount
          · cases h
  · rename_i hState
    exact .delete hState (cascadeFails_of_deleteRow hModel h)
  · cases h

/-- A row as it was given, but for its data and its foreign key. -/
structure AsGiven (given row : Row) : Prop where
  state : row.state = given.state
  label : row.label = given.label
  children : row.children = given.children

theorem asGiven_handed (link : Option ParentLink) (v : Value) (row : Row) :
    AsGiven row (handed link v row) where
  state := handed_state link v row
  label := by rw [Row.label, Row.label, handed_id, handed_tempId]
  children := handed_children link v row

/-- The rows under a row are given, too, after its own change. -/
theorem changeRow_childRows? (hChildren : Siblings children) {row changed : Row}
    (hState : row.state ≠ some .deleted)
    (h : (changeRow driver entity children row).Gives changed) {child : Model}
    (hChild : child ∈ children) : ∃ now : Row → Row, (∀ r, AsGiven r (now r)) ∧
      changed.childRows? child.name = (row.childRows? child.name).map (List.map now) := by
  have hSame : ∃ now : Row → Row, (∀ r, AsGiven r (now r)) ∧
      row.childRows? child.name = (row.childRows? child.name).map (List.map now) :=
    ⟨id, fun _ => ⟨rfl, rfl, rfl⟩, by rw [List.map_id_fun, Option.map_id, id]⟩
  unfold changeRow at h
  split at h
  · obtain ⟨inserted, hInserted, h⟩ := Session.gives_bind h
    rw [Session.gives_pure h, stitch_childRows? hChildren entity _ hChild]
    rw [insertRow_eq] at hInserted
    obtain ⟨reply, _, hInserted⟩ := Session.gives_bind hInserted
    rw [Session.gives_pure hInserted, Row.childRows?, insertedRow_children]
    exact ⟨_, asGiven_handed _ _, rfl⟩
  · rw [updateRow_gives h]
    exact hSame
  · rename_i hDeleted
    exact absurd hDeleted hState
  · rw [Session.gives_pure h]
    exact hSame

/-- A batch that failed: how many of its rows did, and what the caller called the first of these. -/
structure FailedBatch where
  model : String
  failed : Nat
  total : Nat
  state : Option RowState
  label : String

def FailedBatch.faults (batch : FailedBatch) : List Fault :=
  [.saveFailed batch.model batch.failed batch.total,
    .remark (.savingRow batch.state batch.model batch.label)]

mutual

/-- The save of rows of a model fails. `now` is what has become of the given rows since. The rows
before some row are saved, and this one fails. -/
inductive BatchFails (driver : Driver) :
    Model → List Row → (Row → Row) → Log → List FailedBatch → Error → Prop
  | first {entity : Entity} {children : List Model} {given before after : List Row} {row : Row}
      {now : Row → Row} {log : Log} {below : List FailedBatch} {e : Error}
      (split : given = before ++ row :: after)
      (earlier : ∀ outcome ∈ (runEach (saveOne driver entity children) (before.map now) log).1,
        isFailure outcome = false)
      (fails : RowFails driver entity children row (now row)
        (runEach (saveOne driver entity children) (before.map now) log).2 below e) :
      BatchFails driver (.node entity children) given now log
        (⟨entity.name,
          (runEach (saveOne driver entity children) (given.map now) log).1.countP isFailure,
          given.length, row.state, row.label⟩ :: below) e

/-- The save of a given row, as it is now, fails: the change of its own does, or that is made and
the child models before some other are saved, and the batch of this one fails. -/
inductive RowFails (driver : Driver) :
    Entity → List Model → Row → Row → Log → List FailedBatch → Error → Prop
  | own {entity : Entity} {children : List Model} {given row : Row} {log : Log} {e : Error}
      (fails : ChangeFails driver entity children row log e) :
      RowFails driver entity children given row log [] e
  | under {entity : Entity} {children before after : List Model} {child : Model}
      {given row changed saved : Row} {rows : List Row} {now : Row → Row} {log first second : Log}
      {below : List FailedBatch} {e : Error} (split : children = before ++ child :: after)
      (undeleted : row.state ≠ some .deleted)
      (changes : (changeRow driver entity children row).run log = (.ok changed, first))
      (earlier : (saveChildren driver changed before).run first = (.ok saved, second))
      (gives : given.childRows? child.name = some rows)
      (current : changed.childRows? child.name = some (rows.map now))
      (fails : BatchFails driver child rows now second below e) :
      RowFails driver entity children given row log below e

end

/-- The error of a batch that fails is that of one write under it, behind what each batch from this
one down to that write says. -/
def Tells (driver : Driver) (model : Model) : Prop :=
  ∀ (given : List Row) (now : Row → Row) (log : Log) (e : Error), (∀ row, AsGiven row (now row)) →
    ((saveRows driver (given.map now) model).run log).1 = .error e →
    ∃ batches inner, BatchFails driver model given now log batches inner ∧
      e.chain = batches.flatMap FailedBatch.faults ++ inner.chain

theorem rowFails_of_saveRow (hModel : (Model.node entity children).WellFormed)
    (hBelow : ∀ child ∈ children, Tells driver child) {given row : Row} (hRow : AsGiven given row)
    (h : ((saveRow driver entity children row).run log).1 = .error e) :
    ∃ batches inner, RowFails driver entity children given row log batches inner ∧
      e.chain = batches.flatMap FailedBatch.faults ++ inner.chain := by
  by_cases hState : row.state = some .deleted
  · rw [saveRow, hState] at h
    exact ⟨[], e, .own (.delete hState (cascadeFails_of_deleteRow hModel h)), rfl⟩
  · rw [saveRow_eq_changeRow hState] at h
    obtain hChange | ⟨changed, first, hChanged, h⟩ := run_bind_error h
    · exact ⟨[], e, .own (changeFails_of_changeRow hModel hChange), rfl⟩
    · rw [saveChildren_eq_foldlM] at h
      obtain ⟨before, child, after, saved, second, rfl, hBefore, h⟩ := run_foldlM_error h
      rw [← saveChildren_eq_foldlM] at hBefore
      have hChild : child ∈ before ++ child :: after := by simp
      obtain ⟨now, hNow, hCurrent⟩ :=
        changeRow_childRows? hModel.siblings hState ⟨log, by rw [hChanged]⟩ hChild
      have hFrame : saved.childRows? child.name = changed.childRows? child.name :=
        saveChildren_frame (not_mem_before hModel.names) ⟨first, by rw [hBefore]⟩
      -- The rows that fail are told as they were given, not as the row's own change left them.
      have hSame : row.childRows? child.name = given.childRows? child.name :=
        congrArg (Entries.get? · child.name) hRow.children
      rw [hSame] at hCurrent
      rw [saveChild, hFrame] at h
      split at h
      · cases h
      · cases h
      · rename_i some others hSome
        obtain hSave | ⟨_, _, _, h⟩ := run_bind_error h
        · obtain ⟨rows, hRows, hMap⟩ := Option.map_eq_some_iff.mp (hCurrent.symm.trans hSome)
          rw [← hMap] at hSave
          obtain ⟨batches, inner, hFails, hChain⟩ :=
            hBelow child hChild rows now second e hNow hSave
          refine ⟨batches, inner, ?_, hChain⟩
          exact .under rfl hState hChanged hBefore hRows (hSome.trans (congrArg _ hMap.symm)) hFails
        · cases h

theorem tells_saveRows {model : Model} (hModel : model.WellFormed) : Tells driver model := by
  induction hModel with
  | @node entity children fields names linked under ih =>
    intro given now log e hNow h
    rw [run_saveRows_node] at h
    obtain ⟨_, first, _, hResults, hEarlier, rfl⟩ := settle_eq_error h
    obtain ⟨_, _, _, hSplit, rfl, hFirst⟩ := runEach_eq_append hResults
    obtain ⟨before, rest, rfl, rfl, hRest⟩ := List.map_eq_append_iff.mp hSplit
    obtain ⟨row, after, rfl, rfl, rfl⟩ := List.map_eq_cons_iff.mp hRest
    obtain ⟨inner, hRow, rfl⟩ := run_within_error hFirst
    obtain ⟨batches, innermost, hFails, hChain⟩ :=
      rowFails_of_saveRow (.node fields names linked under) ih (hNow row) hRow
    refine ⟨_ :: batches, innermost, .first rfl hEarlier hFails, ?_⟩
    rw [List.flatMap_cons, List.append_assoc, ← hChain, FailedBatch.faults,
      ← (hNow row).state, ← (hNow row).label, length_runEach, List.length_map]
    rfl

/-- The error of a save whose rows had their keys tells which row failed first in each batch, from
the top down to the write that failed, with what that write failed of as its root. -/
theorem save_error_tells {model : Model} (hModel : model.Compiled) {rows : List Row}
    (hKey : requireKey model.entity = .ok ()) (hRows : checkKeys false rows model = .ok ())
    (h : ((save driver model rows).run log).1 = .error e) :
    ∃ batches inner, BatchFails driver model rows id log batches inner ∧
      e.chain = batches.flatMap FailedBatch.faults ++ inner.chain ∧ e.root = inner.root ∧
      e.message = ": ".intercalate
        ((batches.flatMap FailedBatch.faults).map Fault.message ++ [inner.message]) := by
  rw [save_eq_saveRows hKey hRows, ← List.map_id rows] at h
  obtain ⟨batches, inner, hFails, hChain⟩ :=
    tells_saveRows hModel.wellFormed rows id log e (fun _ => ⟨rfl, rfl, rfl⟩) h
  exact ⟨batches, inner, hFails, hChain, Error.root_of_chain hChain, Error.message_of_chain hChain⟩

namespace Family

open Schema.Family

/-- Writes nothing that is about toys. -/
def toyless : Driver := fun log statement =>
  if statement.table = "toy" then .error (.of (.driver "read only" ["toy"]))
  else accepting log statement

/-- The toys of the person who goes are not deleted either, but that comes second. -/
def toylessError : Error where
  fault := .saveFailed "Person" 2 3
  causes := [.remark (.savingRow (some .updated) "Person" "id=2"), .saveFailed "Child" 1 1,
    .remark (.savingRow none "Child" "id=20"), .saveFailed "Toy" 1 2,
    .remark (.savingRow (some .inserted) "Toy" "<new>"), .driver "read only" ["toy"]]

theorem toyless_error_tells :
    requireKey model.entity = .ok () ∧ checkKeys false household model = .ok () ∧
      ((save toyless model household).run []).1 = .error toylessError ∧
      ∃ batches inner, BatchFails toyless model household id [] batches inner ∧
        toylessError.chain = batches.flatMap FailedBatch.faults ++ inner.chain ∧
        toylessError.root = inner.root ∧
        toylessError.message = ": ".intercalate
          ((batches.flatMap FailedBatch.faults).map Fault.message ++ [inner.message]) := by
  have hKey : requireKey model.entity = .ok () := rfl
  have hRows : checkKeys false household model = .ok () := rfl
  have hFails : ((save toyless model household).run []).1 = .error toylessError := rfl
  exact ⟨hKey, hRows, hFails, save_error_tells model_compiled hKey hRows hFails⟩

end Family

end RowTree
