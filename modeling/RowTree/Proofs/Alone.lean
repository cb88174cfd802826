import RowTree.Proofs.Again
import Mathlib.Data.List.Perm.Basic

/-!
# Rows beside others

A database may reply to a statement by the statement alone, whatever was executed before.
Then no session can tell after what it runs, and a row that is saved beside others is saved
as if it were alone: the statements of a save are those of its rows one after the other, and
its rows and its failures are those of each row by itself.
-/

namespace RowTree

open Schema Sql

/-- Its reply to a statement depends on nothing but the statement. -/
def Driver.Memoryless (driver : Driver) : Prop := ∀ log s, driver log s = driver [] s

namespace Session

variable {α β : Type}

/-- After any log it ends as it does after none and executes the same statements. -/
def Memoryless (session : Session α) : Prop :=
  ∀ log, session.run log = ((session.run []).1, log ++ (session.run []).2)

theorem memoryless_ofExcept (result : Except Error α) : (ofExcept result).Memoryless := by
  intro log
  rw [run_ofExcept, run_ofExcept, List.append_nil]

theorem memoryless_pure (v : α) : (pure v : Session α).Memoryless := memoryless_ofExcept (.ok v)

theorem Memoryless.bind {session : Session α} {next : α → Session β} (h : session.Memoryless)
    (hNext : ∀ v, (next v).Memoryless) : (session >>= next).Memoryless := by
  intro log
  rw [run_bind, run_bind, h log]
  rcases session.run [] with ⟨_ | v, executed⟩
  · rfl
  · dsimp only
    rw [hNext v (log ++ executed), hNext v executed, List.append_assoc]

theorem Memoryless.within {session : Session α} (h : session.Memoryless) (outer : Fault) :
    (session.within outer).Memoryless := by
  intro log
  change ((session.run log).1.mapError _, (session.run log).2) = _
  rw [h log]
  rfl

theorem Memoryless.attempt {session : Session α} (h : session.Memoryless) :
    session.attempt.Memoryless := by
  intro log
  change (Except.ok (session.run log).1, (session.run log).2) = _
  rw [h log]
  rfl

theorem memoryless_mapM {f : α → Session β} {xs : List α} (h : ∀ x ∈ xs, (f x).Memoryless) :
    (xs.mapM f).Memoryless := by
  induction xs with
  | nil =>
    rw [List.mapM_nil]
    exact memoryless_pure []
  | cons x xs ih =>
    rw [List.mapM_cons]
    have hRest := ih fun y hy => h y (List.mem_cons_of_mem _ hy)
    exact (h x List.mem_cons_self).bind fun _ => hRest.bind fun _ => memoryless_pure _

end Session

/-- Sessions that are run each after the other end as they do after nothing. -/
theorem runEach_eq {α β : Type} {f : α → Session β} {xs : List α}
    (h : ∀ x ∈ xs, (f x).Memoryless) (log : Log) :
    runEach f xs log =
      (xs.map fun x => ((f x).run []).1, log ++ xs.flatMap fun x => ((f x).run []).2) := by
  induction xs generalizing log with
  | nil => rw [runEach, List.map_nil, List.flatMap_nil, List.append_nil]
  | cons x xs ih =>
    rw [runEach, h x List.mem_cons_self log, ih fun y hy => h y (List.mem_cons_of_mem _ hy)]
    rw [List.map_cons, List.flatMap_cons, List.append_assoc]

section

variable {driver : Driver}

theorem memoryless_execute (hDriver : driver.Memoryless) (s : Statement) :
    (driver.execute s).Memoryless := by
  intro log
  change (driver log s, log ++ [s]) = (driver [] s, log ++ ([] ++ [s]))
  rw [hDriver log s, List.nil_append]

mutual

theorem memoryless_deleteRow (hDriver : driver.Memoryless) (model : Model) (row : Row) :
    (deleteRow driver row model).Memoryless := by
  cases model with
  | node entity children =>
    rw [deleteRow_node]
    refine (Session.memoryless_ofExcept _).bind fun statement => ?_
    refine (memoryless_deleteChildren hDriver children row).bind fun saved => ?_
    refine (memoryless_execute hDriver _).bind fun reply => ?_
    exact (Session.memoryless_ofExcept _).bind fun _ => Session.memoryless_pure _

theorem memoryless_deleteChildren (hDriver : driver.Memoryless) (children : List Model)
    (row : Row) : (deleteChildren driver row children).Memoryless := by
  cases children with
  | nil =>
    rw [deleteChildren_nil]
    exact Session.memoryless_pure row
  | cons child rest =>
    rw [deleteChildren_cons]
    split
    · exact memoryless_deleteChildren hDriver rest row
    · have hRest := memoryless_deleteChildren hDriver rest
      refine (Session.memoryless_mapM fun r _ => ?_).bind fun _ => hRest _
      split
      · exact Session.memoryless_pure r
      · exact memoryless_deleteRow hDriver child r

end

theorem memoryless_insertRow (hDriver : driver.Memoryless) (entity : Entity) (row : Row) :
    (insertRow driver entity row).Memoryless :=
  (memoryless_execute hDriver _).bind fun _ => Session.memoryless_pure _

theorem memoryless_updateRow (hDriver : driver.Memoryless) (entity : Entity) (row : Row) :
    (updateRow driver entity row).Memoryless := by
  refine (Session.memoryless_ofExcept _).bind fun update => ?_
  split
  · exact Session.memoryless_pure _
  · refine (memoryless_execute hDriver _).bind fun reply => ?_
    exact (Session.memoryless_ofExcept _).bind fun _ => Session.memoryless_pure _

theorem memoryless_saveRow (hDriver : driver.Memoryless) {entity : Entity} {children : List Model}
    (hBelow : ∀ row, (saveChildren driver row children).Memoryless) (row : Row) :
    (saveRow driver entity children row).Memoryless := by
  unfold saveRow
  split
  · exact (memoryless_insertRow hDriver entity row).bind fun _ => hBelow _
  · exact (memoryless_updateRow hDriver entity row).bind fun _ => hBelow _
  · exact memoryless_deleteRow hDriver _ row
  · exact hBelow row

mutual

theorem memoryless_saveRows (hDriver : driver.Memoryless) (model : Model) (rows : List Row) :
    (saveRows driver rows model).Memoryless := by
  cases model with
  | node entity children =>
    rw [saveRows_node]
    refine (Session.memoryless_mapM fun row _ => ?_).bind fun _ => Session.memoryless_ofExcept _
    have hBelow := memoryless_saveChildren hDriver children
    exact ((memoryless_saveRow hDriver hBelow row).within _).attempt

theorem memoryless_saveChildren (hDriver : driver.Memoryless) (children : List Model) (row : Row) :
    (saveChildren driver row children).Memoryless := by
  cases children with
  | nil =>
    rw [saveChildren_nil]
    exact Session.memoryless_pure row
  | cons child rest =>
    rw [saveChildren_cons]
    split
    · exact memoryless_saveChildren hDriver rest row
    · exact memoryless_saveChildren hDriver rest row
    · have hRest := memoryless_saveChildren hDriver rest
      exact (memoryless_saveRows hDriver child _).bind fun _ => hRest _

end

/-- What a save of rows does with one of them. -/
def saveOne (driver : Driver) (entity : Entity) (children : List Model) (row : Row) : Session Row :=
  (saveRow driver entity children row).within
    (.remark (.savingRow row.state entity.name row.label))

theorem run_saveRows_node (driver : Driver) (entity : Entity) (children : List Model)
    (rows : List Row) (log : Log) : (saveRows driver rows (.node entity children)).run log =
      (settle entity (runEach (saveOne driver entity children) rows log).1,
        (runEach (saveOne driver entity children) rows log).2) := by
  have hRows : saveRows driver rows (.node entity children) =
      (rows.mapM fun row => (saveOne driver entity children row).attempt) >>= fun results =>
        Session.ofExcept (settle entity results) := saveRows_node driver entity children rows
  rw [hRows, Session.run_bind, run_mapM_attempt]
  rfl

theorem run_saveRows (hDriver : driver.Memoryless) (entity : Entity) (children : List Model)
    (rows : List Row) (log : Log) : (saveRows driver rows (.node entity children)).run log =
      (settle entity (rows.map fun row => ((saveOne driver entity children row).run []).1),
        log ++ rows.flatMap fun row => ((saveOne driver entity children row).run []).2) := by
  have hBelow := memoryless_saveChildren hDriver children
  have hOne (row : Row) : (saveOne driver entity children row).Memoryless :=
    (memoryless_saveRow hDriver hBelow row).within _
  rw [run_saveRows_node, runEach_eq fun row _ => hOne row]

/-- The first failure counts, and is told under the number of all. -/
theorem settle_eq_error {entity : Entity} {results : List (Except Error Row)} {e : Error}
    (h : settle entity results = .error e) :
    ∃ before first after, results = before ++ .error first :: after ∧
      (∀ result ∈ before, isFailure result = false) ∧
      e = first.within (.saveFailed entity.name (results.countP isFailure) results.length) := by
  rw [settle] at h
  cases hResults : results.mapM id with
  | ok saved =>
    rw [hResults] at h
    cases h
  | error first =>
    rw [hResults] at h
    obtain ⟨before, result, after, hSplit, hBefore, hResult⟩ := Outcome.mapM_eq_error.mp hResults
    obtain rfl : result = .error first := hResult
    refine ⟨before, first, after, hSplit, fun earlier hEarlier => ?_, (Except.error.inj h).symm⟩
    obtain ⟨row, hRow⟩ := hBefore earlier hEarlier
    obtain rfl : earlier = .ok row := hRow
    rfl

theorem settle_error {entity : Entity} {results : List (Except Error Row)} {e : Error}
    (h : settle entity results = .error e) :
    e.fault = .saveFailed entity.name (results.countP isFailure) results.length := by
  obtain ⟨_, _, _, _, _, rfl⟩ := settle_eq_error h
  rfl

theorem settle_singleton_eq_ok {entity : Entity} {result : Except Error Row} {row : Row} :
    settle entity [result] = .ok [row] ↔ result = .ok row := by
  rw [settle_eq_ok, List.forall₂_cons]
  exact and_iff_left .nil

theorem isFailure_settle_singleton (entity : Entity) (result : Except Error Row) :
    isFailure (settle entity [result]) = isFailure result := by
  cases result <;> rfl

theorem checkKeys_of_subset {model : Model} {rows some : List Row} (hSome : some ⊆ rows)
    (h : checkKeys false rows model = .ok ()) : checkKeys false some model = .ok () := by
  cases model with
  | node entity children =>
    rw [checkKeys] at h ⊢
    exact Outcome.forM_eq_ok fun row hRow => Outcome.ok_of_forM h (hSome hRow)

theorem save_eq_saveRows {model : Model} {rows : List Row} (hKey : requireKey model.entity = .ok ())
    (hRows : checkKeys false rows model = .ok ()) :
    save driver model rows = saveRows driver rows model := by
  rw [save_eq, hKey, hRows]
  rfl

/-- What becomes of the row if nothing else is saved. -/
def saveAlone (driver : Driver) (model : Model) (row : Row) : Except Error (List Row) × Log :=
  (save driver model [row]).run []

theorem saveAlone_eq (hDriver : driver.Memoryless) {entity : Entity} {children : List Model}
    {rows : List Row} (hKey : requireKey (Model.node entity children).entity = .ok ())
    (hRows : checkKeys false rows (.node entity children) = .ok ()) {row : Row}
    (hRow : row ∈ rows) : saveAlone driver (.node entity children) row =
      (settle entity [((saveOne driver entity children row).run []).1],
        ((saveOne driver entity children row).run []).2) := by
  have hOnly : [row] ⊆ rows := by
    intro r hr
    exact List.mem_singleton.mp hr ▸ hRow
  have hChecked := checkKeys_of_subset hOnly hRows
  rw [saveAlone, save_eq_saveRows hKey hChecked, run_saveRows hDriver]
  rw [List.map_singleton, List.flatMap_singleton, List.nil_append]

/-- After the log, a save of the rows comes out as the saves of each of them alone do, put
together. -/
structure AsAlone (driver : Driver) (model : Model) (rows : List Row) (log : Log)
    (outcome : Except Error (List Row) × Log) : Prop where
  executed : outcome.2 = log ++ rows.flatMap fun row => (saveAlone driver model row).2
  saved : ∀ saved, outcome.1 = .ok saved ↔
    List.Forall₂ (fun row s => (saveAlone driver model row).1 = .ok [s]) rows saved
  failed : ∀ e, outcome.1 = .error e → e.fault = .saveFailed model.name
    (rows.countP fun row => isFailure (saveAlone driver model row).1) rows.length

theorem asAlone_save (hDriver : driver.Memoryless) {model : Model} {rows : List Row}
    (hKey : requireKey model.entity = .ok ()) (hRows : checkKeys false rows model = .ok ())
    (log : Log) : AsAlone driver model rows log ((save driver model rows).run log) := by
  cases model with
  | node entity children =>
    have hAlone : ∀ row ∈ rows, saveAlone driver (.node entity children) row =
        (settle entity [((saveOne driver entity children row).run []).1],
          ((saveOne driver entity children row).run []).2) :=
      fun _ hRow => saveAlone_eq hDriver hKey hRows hRow
    rw [save_eq_saveRows hKey hRows, run_saveRows hDriver]
    constructor
    case executed =>
      dsimp only
      rw [List.flatMap_congr fun row hRow => congrArg Prod.snd (hAlone row hRow)]
    case saved =>
      intro saved
      dsimp only
      rw [settle_eq_ok, List.forall₂_map_left_iff]
      refine Outcome.forall₂_congr_left fun row hRow s => ?_
      rw [hAlone row hRow, settle_singleton_eq_ok]
    case failed =>
      intro e he
      rw [settle_error he, List.length_map, List.countP_map]
      have hFailed : ∀ row ∈ rows,
          (isFailure ∘ fun row => ((saveOne driver entity children row).run []).1) row =
            isFailure (saveAlone driver (.node entity children) row).1 := by
        intro row hRow
        rw [hAlone row hRow, isFailure_settle_singleton]
        rfl
      rw [List.countP_congr fun row hRow => by rw [hFailed row hRow]]
      rfl

theorem exists_perm_of_forall₂ {α β : Type} {r : α → β → Prop} {xs others : List α}
    (hPerm : xs.Perm others) {ys : List β} (h : List.Forall₂ r xs ys) :
    ∃ zs, List.Forall₂ r others zs ∧ (xs.zip ys).Perm (others.zip zs) := by
  induction hPerm generalizing ys with
  | nil => exact ⟨ys, h, .refl _⟩
  | cons x _ ih =>
    cases h with
    | cons hFirst hRest =>
      obtain ⟨zs, hOthers, hZip⟩ := ih hRest
      exact ⟨_, .cons hFirst hOthers, hZip.cons _⟩
  | swap x y _ =>
    cases h with
    | cons hFirst hRest =>
      cases hRest with
      | cons hSecond hRest => exact ⟨_, .cons hSecond (.cons hFirst hRest), .swap _ _ _⟩
  | trans _ _ ih₁ ih₂ =>
    obtain ⟨_, hMiddle, hZip₁⟩ := ih₁ h
    obtain ⟨zs, hOthers, hZip₂⟩ := ih₂ hMiddle
    exact ⟨zs, hOthers, hZip₁.trans hZip₂⟩

/-- Rows in another order are saved just as well: each comes back as it did, or as many
fail. -/
theorem AsAlone.perm {model : Model} {rows others : List Row} {log : Log}
    {outcome outcome' : Except Error (List Row) × Log} (hPerm : rows.Perm others)
    (h : AsAlone driver model rows log outcome) (h' : AsAlone driver model others log outcome') :
    (∀ saved, outcome.1 = .ok saved →
      ∃ saved', outcome'.1 = .ok saved' ∧ (rows.zip saved).Perm (others.zip saved')) ∧
    ∀ e, outcome.1 = .error e → ∃ e', outcome'.1 = .error e' ∧ e'.fault = e.fault := by
  constructor
  · intro saved hSaved
    obtain ⟨saved', hOthers, hZip⟩ := exists_perm_of_forall₂ hPerm ((h.saved saved).mp hSaved)
    exact ⟨saved', (h'.saved saved').mpr hOthers, hZip⟩
  · intro e he
    cases hOutcome : outcome'.1 with
    | ok saved' =>
      obtain ⟨saved, hRows, _⟩ :=
        exists_perm_of_forall₂ hPerm.symm ((h'.saved saved').mp hOutcome)
      rw [(h.saved saved).mpr hRows] at he
      cases he
    | error e' =>
      refine ⟨e', rfl, ?_⟩
      rw [h'.failed e' hOutcome, h.failed e he, hPerm.countP_eq, hPerm.length_eq]

/-- Rows with keys that are saved together are saved as if each were alone, and so it does
not matter in what order they stand. -/
theorem rows_saved_as_alone (hDriver : driver.Memoryless) {model : Model} {rows : List Row}
    (hKey : requireKey model.entity = .ok ()) (hRows : checkKeys false rows model = .ok ())
    (log : Log) :
    AsAlone driver model rows log ((save driver model rows).run log) ∧
    ∀ others, rows.Perm others →
      (∀ saved, ((save driver model rows).run log).1 = .ok saved →
        ∃ saved', ((save driver model others).run log).1 = .ok saved' ∧
          (rows.zip saved).Perm (others.zip saved')) ∧
      ∀ e, ((save driver model rows).run log).1 = .error e →
        ∃ e', ((save driver model others).run log).1 = .error e' ∧ e'.fault = e.fault := by
  have hAlone := asAlone_save hDriver hKey hRows log
  refine ⟨hAlone, ?_⟩
  intro others hPerm
  have hOthers := checkKeys_of_subset hPerm.symm.subset hRows
  exact hAlone.perm hPerm (asAlone_save hDriver hKey hOthers log)

end

namespace Family

open Schema.Family

/-- Gives no keys and finds nothing to delete. -/
def forgetful : Driver := fun _ statement =>
  match statement with
  | .insert _ => .ok (.inserted 1 none)
  | .delete _ => .ok (.count 0)
  | _ => .ok (.count 1)

/-- The person who goes cannot be deleted, and the two others are saved. -/
theorem household_as_alone :
    forgetful.Memoryless ∧ requireKey model.entity = .ok () ∧
      checkKeys false household model = .ok () ∧
      household.map (fun row => isFailure (saveAlone forgetful model row).1) =
        [false, false, true] ∧
      AsAlone forgetful model household [] ((save forgetful model household).run []) ∧
      ∀ others, household.Perm others →
        ∃ e, ((save forgetful model others).run []).1 = .error e ∧
          e.fault = .saveFailed "Person" 1 3 := by
  have hDriver : forgetful.Memoryless := fun _ _ => rfl
  have hRows : checkKeys false household model = .ok () := rfl
  obtain ⟨hAlone, hOthers⟩ := rows_saved_as_alone hDriver rfl hRows []
  refine ⟨hDriver, rfl, hRows, rfl, hAlone, ?_⟩
  intro others hPerm
  exact (hOthers others hPerm).2 _ rfl

end Family

end RowTree
