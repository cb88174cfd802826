import RowTree.Proofs.Written

/-!
# Two sessions side by side

Two sessions are started after the same log. Under one condition they execute the same
statements and end alike; and if they do that and the second one ends well, another condition
must have held. Both are carried from the parts of the sessions to the whole: what one of the
two executes and the other does not stays in the logs, whatever comes after it.
-/

namespace RowTree

variable {α β γ δ : Type}

/-- Both ended well, with values that are related, or both failed. -/
inductive SameOutcome (r : α → β → Prop) : Except Error α → Except Error β → Prop
  | ok {v : α} {w : β} (h : r v w) : SameOutcome r (.ok v) (.ok w)
  | error {e f : Error} : SameOutcome r (.error e) (.error f)

theorem SameOutcome.bind {α β γ δ : Type} {r : α → β → Prop} {q : γ → δ → Prop}
    {x : Except Error α} {y : Except Error β} {f : α → Except Error γ} {g : β → Except Error δ}
    (h : SameOutcome r x y) (hNext : ∀ v w, r v w → SameOutcome q (f v) (g w)) :
    SameOutcome q (x >>= f) (y >>= g) := by
  cases h with
  | ok hValue => exact hNext _ _ hValue
  | error => exact .error

theorem sameOutcome_eq {α : Type} (x : Except Error α) : SameOutcome Eq x x := by
  cases x with
  | ok v => exact .ok rfl
  | error e => exact .error

/-- Up to some statement the logs are the same, and there they are not. -/
def Diverged (log other : Log) : Prop :=
  ∃ common s t rest more, s ≠ t ∧ log = common ++ s :: rest ∧ other = common ++ t :: more

theorem Diverged.ne {log other : Log} (h : Diverged log other) : log ≠ other := by
  obtain ⟨common, s, t, rest, more, hNe, rfl, rfl⟩ := h
  intro hSame
  rw [List.append_cancel_left_eq, List.cons.injEq] at hSame
  exact hNe hSame.1

theorem Diverged.extend {log other later otherLater : Log} (h : Diverged log other)
    (hLog : log <+: later) (hOther : other <+: otherLater) : Diverged later otherLater := by
  obtain ⟨common, s, t, rest, more, hNe, rfl, rfl⟩ := h
  obtain ⟨added, rfl⟩ := hLog
  obtain ⟨added', rfl⟩ := hOther
  exact ⟨common, s, t, rest ++ added, more ++ added', hNe, by simp, by simp⟩

/-- The two runs are the same if `enough` holds. If the second one ends well, they are the
same only if `needed` holds. -/
structure Mirrored (r : α → β → Prop) (enough needed : Prop) (run : Except Error α × Log)
    (other : Except Error β × Log) : Prop where
  same : enough → other.2 = run.2 ∧ SameOutcome r run.1 other.1
  told : ∀ w, other.1 = .ok w → (∃ e, run.1 = .error e) ∨ Diverged run.2 other.2 ∨
    needed ∧ other.2 = run.2 ∧ ∃ v, run.1 = .ok v ∧ r v w

namespace Session

/-- It takes nothing back of what was executed. -/
def Grows (session : Session α) : Prop := ∀ log, log <+: (session.run log).2

def Mirrors (r : α → β → Prop) (enough needed : Prop) (session : Session α) (other : Session β) :
    Prop :=
  ∀ log, Mirrored r enough needed (session.run log) (other.run log)

theorem grows_ofExcept (result : Except Error α) : (ofExcept result).Grows :=
  fun log => List.prefix_refl log

theorem grows_execute (driver : Driver) (s : Sql.Statement) : (driver.execute s).Grows :=
  fun log => List.prefix_append log [s]

theorem Grows.bind {session : Session α} {next : α → Session β} (h : session.Grows)
    (hNext : ∀ v, (next v).Grows) : (session >>= next).Grows := by
  intro log
  have hFirst := h log
  rw [run_bind]
  rcases hRun : session.run log with ⟨_ | v, later⟩
  · rwa [hRun] at hFirst
  · rw [hRun] at hFirst
    exact hFirst.trans (hNext v later)

theorem Grows.within {session : Session α} (h : session.Grows) (outer : Fault) :
    (session.within outer).Grows := h

theorem grows_mapM {f : α → Session β} {xs : List α} (h : ∀ x ∈ xs, (f x).Grows) :
    (xs.mapM f).Grows := by
  induction xs with
  | nil =>
    rw [List.mapM_nil]
    exact grows_ofExcept _
  | cons x xs ih =>
    rw [List.mapM_cons]
    have hRest := ih fun y hy => h y (List.mem_cons_of_mem _ hy)
    exact (h x List.mem_cons_self).bind fun _ => hRest.bind fun _ => grows_ofExcept _

theorem grows_of_performs {session : Session α} {driver : Driver} {dues : List Due}
    {tells : α → Write → Prop} (h : ∀ log, Performs driver log [] dues tells session) :
    session.Grows := by
  intro log
  obtain ⟨writes, hJournal, _⟩ := h log
  have hLater := hJournal.later_eq
  rw [show logAfter log [] = log from List.append_nil log] at hLater
  rw [hLater]
  exact List.prefix_append _ _

variable {r : α → β → Prop} {enough needed : Prop} {session : Session α} {other : Session β}

theorem Mirrors.imp {enough' needed' : Prop} (h : session.Mirrors r enough needed other)
    (hEnough : enough' → enough) (hNeeded : needed → needed') :
    session.Mirrors r enough' needed' other := by
  intro log
  refine ⟨fun hHolds => (h log).same (hEnough hHolds), fun w hw => ?_⟩
  rcases (h log).told w hw with hError | hDiverged | ⟨hHolds, hSame⟩
  · exact .inl hError
  · exact .inr (.inl hDiverged)
  · exact .inr (.inr ⟨hNeeded hHolds, hSame⟩)

theorem mirrors_ofExcept {x : Except Error α} {y : Except Error β} (h : SameOutcome r x y) :
    (ofExcept x).Mirrors r True True (ofExcept y) := by
  intro log
  refine ⟨fun _ => ⟨rfl, h⟩, fun w hw => ?_⟩
  rw [run_ofExcept] at hw
  dsimp only at hw
  subst hw
  cases h with
  | ok hValue => exact .inr (.inr ⟨trivial, rfl, _, rfl, hValue⟩)

theorem mirrors_pure {v : α} {w : β} (h : r v w) :
    (pure v : Session α).Mirrors r True True (pure w) := mirrors_ofExcept (.ok h)

theorem mirrors_execute (driver : Driver) (s t : Sql.Statement) :
    (driver.execute s).Mirrors (fun v w => v = w ∧ s = t) (s = t) (s = t) (driver.execute t) := by
  intro log
  have hRun (s : Sql.Statement) :
      (driver.execute s).run log = (driver log s, log ++ [s]) := rfl
  rw [hRun, hRun]
  constructor
  · rintro rfl
    refine ⟨rfl, ?_⟩
    dsimp only
    cases driver log s with
    | ok reply => exact .ok ⟨rfl, rfl⟩
    | error e => exact .error
  · intro reply hReply
    by_cases hSame : s = t
    · subst hSame
      exact .inr (.inr ⟨rfl, rfl, reply, hReply, rfl, rfl⟩)
    · exact .inr (.inl ⟨log, s, t, [], [], hSame, rfl, rfl⟩)

theorem Mirrors.bind {q : γ → δ → Prop} {next : α → Session γ} {next' : β → Session δ}
    {enough' needed' : Prop} (h : session.Mirrors r enough needed other)
    (hNext : ∀ v w, r v w → (next v).Mirrors q enough' needed' (next' w))
    (hGrows : ∀ v, (next v).Grows) (hGrows' : ∀ w, (next' w).Grows) :
    (session >>= next).Mirrors q (enough ∧ enough') (needed ∧ needed') (other >>= next') := by
  intro log
  have hFirst := h log
  rw [run_bind, run_bind]
  generalize session.run log = out at hFirst
  generalize other.run log = out' at hFirst
  obtain ⟨x, later⟩ := out
  obtain ⟨y, otherLater⟩ := out'
  constructor
  · rintro ⟨hHolds, hHolds'⟩
    obtain ⟨hLog, hOutcome⟩ := hFirst.same hHolds
    dsimp only at hLog
    subst hLog
    cases hOutcome with
    | ok hValue => exact (hNext _ _ hValue _).same hHolds'
    | error => exact ⟨rfl, .error⟩
  · intro w hw
    cases y with
    | error e => cases hw
    | ok b =>
      rcases hFirst.told b rfl with ⟨e, hError⟩ | hDiverged | ⟨hHolds, hLog, a, ha, hValue⟩
      · dsimp only at hError
        subst hError
        exact .inl ⟨e, rfl⟩
      · refine .inr (.inl ?_)
        cases x with
        | error e => exact hDiverged.extend (List.prefix_refl _) (hGrows' b _)
        | ok a => exact hDiverged.extend (hGrows a _) (hGrows' b _)
      · dsimp only at hLog ha
        subst hLog ha
        rcases (hNext a b hValue _).told w hw with hError | hDiverged | ⟨hHolds', hRest⟩
        · exact .inl hError
        · exact .inr (.inl hDiverged)
        · exact .inr (.inr ⟨⟨hHolds, hHolds'⟩, hRest⟩)

theorem Mirrors.afterCheck {q : γ → δ → Prop} {x : Except Error α} {y : Except Error β}
    {next : α → Session γ} {next' : β → Session δ} (h : SameOutcome r x y)
    (hNext : ∀ v w, r v w → (next v).Mirrors q enough needed (next' w)) :
    (ofExcept x >>= next).Mirrors q enough needed (ofExcept y >>= next') := by
  intro log
  rw [run_bind, run_bind, run_ofExcept, run_ofExcept]
  cases h with
  | ok hValue => exact hNext _ _ hValue log
  | error => exact ⟨fun _ => ⟨rfl, .error⟩, nofun⟩

/-- After a check that is the same for both if `enough` holds. -/
theorem Mirrors.afterSame {q : γ → δ → Prop} {x y : Except Error Unit} {next : Unit → Session γ}
    {next' : Unit → Session δ} (h : enough → y = x)
    (hNext : (next ()).Mirrors q enough needed (next' ())) :
    (ofExcept x >>= next).Mirrors q enough needed (ofExcept y >>= next') := by
  intro log
  rw [run_bind, run_bind, run_ofExcept, run_ofExcept]
  constructor
  · intro hHolds
    rw [h hHolds]
    cases x with
    | ok _ => exact (hNext log).same hHolds
    | error => exact ⟨rfl, .error⟩
  · intro w hw
    cases y with
    | error => cases hw
    | ok _ =>
      cases x with
      | ok _ => exact (hNext log).told w hw
      | error e => exact .inl ⟨e, rfl⟩

theorem Mirrors.write {q : γ → δ → Prop} {driver : Driver} {s t : Sql.Statement}
    {next : Reply → Session γ} {next' : Reply → Session δ}
    (hNext : s = t → ∀ reply, (next reply).Mirrors q enough needed (next' reply))
    (hGrows : ∀ reply, (next reply).Grows) (hGrows' : ∀ reply, (next' reply).Grows) :
    (driver.execute s >>= next).Mirrors q (s = t ∧ enough) (s = t ∧ needed)
      (driver.execute t >>= next') := by
  refine (mirrors_execute driver s t).bind ?_ hGrows hGrows'
  rintro reply _ ⟨rfl, hSame⟩
  exact hNext hSame reply

theorem Mirrors.within (h : session.Mirrors r enough needed other) (outer outer' : Fault) :
    (session.within outer).Mirrors r enough needed (other.within outer') := by
  intro log
  have hOwn := h log
  change Mirrored r enough needed ((session.run log).1.mapError _, (session.run log).2)
    ((other.run log).1.mapError _, (other.run log).2)
  generalize session.run log = out at hOwn
  generalize other.run log = out' at hOwn
  obtain ⟨x, later⟩ := out
  obtain ⟨y, otherLater⟩ := out'
  constructor
  · intro hHolds
    obtain ⟨hLog, hOutcome⟩ := hOwn.same hHolds
    refine ⟨hLog, ?_⟩
    cases hOutcome with
    | ok hValue => exact .ok hValue
    | error => exact .error
  · intro w hw
    cases y with
    | error e => cases hw
    | ok _ =>
      cases hw
      rcases hOwn.told w rfl with ⟨e, hError⟩ | hDiverged | ⟨hHolds, hLog, a, ha, hValue⟩
      · dsimp only at hError
        subst hError
        exact .inl ⟨_, rfl⟩
      · exact .inr (.inl hDiverged)
      · dsimp only at ha
        subst ha
        exact .inr (.inr ⟨hHolds, hLog, a, rfl, hValue⟩)

section Lists

variable {f : α → Session γ} {g : β → Session δ} {enough needed : α → β → Prop} {xs : List α}
  {ys : List β}

theorem mirrors_mapM (h : List.Forall₂ (fun x y =>
      (f x).Mirrors (fun _ _ => True) (enough x y) (needed x y) (g y)) xs ys)
    (hGrows : ∀ x, (f x).Grows) (hGrows' : ∀ y, (g y).Grows) :
    (xs.mapM f).Mirrors (fun _ _ => True) (List.Forall₂ enough xs ys)
      (List.Forall₂ needed xs ys) (ys.mapM g) := by
  induction h with
  | nil =>
    rw [List.mapM_nil, List.mapM_nil]
    exact (mirrors_pure trivial).imp (fun _ => trivial) fun _ => .nil
  | @cons x y xs ys hFirst hRest ih =>
    rw [List.mapM_cons, List.mapM_cons]
    have hEach (v : γ) : (xs.mapM f >>= fun vs => pure (v :: vs)).Grows :=
      (grows_mapM fun x _ => hGrows x).bind fun _ => grows_ofExcept _
    have hEach' (w : δ) : (ys.mapM g >>= fun ws => pure (w :: ws)).Grows :=
      (grows_mapM fun y _ => hGrows' y).bind fun _ => grows_ofExcept _
    have hBoth (v : γ) (w : δ) : (xs.mapM f >>= fun vs => pure (v :: vs)).Mirrors
        (fun _ _ => True) (List.Forall₂ enough xs ys ∧ True) (List.Forall₂ needed xs ys ∧ True)
        (ys.mapM g >>= fun ws => pure (w :: ws)) :=
      ih.bind (fun _ _ _ => mirrors_pure trivial) (fun _ => grows_ofExcept _)
        fun _ => grows_ofExcept _
    refine (hFirst.bind (fun v w _ => hBoth v w) hEach hEach').imp ?_ ?_
    · intro hHolds
      rw [List.forall₂_cons] at hHolds
      exact ⟨hHolds.1, hHolds.2, trivial⟩
    · rintro ⟨hHolds, hHolds', _⟩
      exact .cons hHolds hHolds'

theorem grows_runEach (hGrows : ∀ x, (f x).Grows) (xs : List α) (log : Log) :
    log <+: (runEach f xs log).2 := by
  induction xs generalizing log with
  | nil => exact List.prefix_refl log
  | cons x xs ih => exact (hGrows x log).trans (ih _)

theorem same_runEach (h : List.Forall₂ (fun x y =>
      (f x).Mirrors (fun _ _ => True) (enough x y) (needed x y) (g y)) xs ys)
    (hEnough : List.Forall₂ enough xs ys) (log : Log) :
    (runEach g ys log).2 = (runEach f xs log).2 ∧
      List.Forall₂ (SameOutcome fun _ _ => True) (runEach f xs log).1 (runEach g ys log).1 := by
  induction h generalizing log with
  | nil => exact ⟨rfl, .nil⟩
  | cons hFirst _ ih =>
    obtain ⟨hOwn, hOthers⟩ := List.forall₂_cons.mp hEnough
    obtain ⟨hLog, hOutcome⟩ := (hFirst log).same hOwn
    rw [runEach, runEach, hLog]
    obtain ⟨hLater, hRest⟩ := ih hOthers _
    exact ⟨hLater, .cons hOutcome hRest⟩

/-- Of sessions that are run each after the other, whether they fail or not. -/
theorem told_runEach (h : List.Forall₂ (fun x y =>
      (f x).Mirrors (fun _ _ => True) (enough x y) (needed x y) (g y)) xs ys)
    (hGrows : ∀ x, (f x).Grows) (hGrows' : ∀ y, (g y).Grows) (log : Log) {ws : List δ}
    (hEach : List.Forall₂ (fun result w => result = .ok w) (runEach g ys log).1 ws) :
    (∃ e, .error e ∈ (runEach f xs log).1) ∨
      Diverged (runEach f xs log).2 (runEach g ys log).2 ∨
      List.Forall₂ needed xs ys ∧ (runEach g ys log).2 = (runEach f xs log).2 ∧
        ∃ vs, List.Forall₂ (fun result v => result = .ok v) (runEach f xs log).1 vs := by
  induction h generalizing log ws with
  | nil => exact .inr (.inr ⟨.nil, rfl, [], .nil⟩)
  | @cons x y xs ys hFirst _ ih =>
    rw [runEach] at hEach
    obtain ⟨w, ws, hw, hws, rfl⟩ := List.forall₂_cons_left_iff.mp hEach
    rw [runEach, runEach]
    rcases (hFirst log).told w hw with ⟨e, he⟩ | hDiverged | ⟨hOwn, hLog, v, hv, _⟩
    · exact .inl ⟨e, he ▸ List.mem_cons_self⟩
    · exact .inr (.inl (hDiverged.extend (grows_runEach hGrows _ _) (grows_runEach hGrows' _ _)))
    · rw [hLog] at hws ⊢
      rcases ih _ hws with ⟨e, he⟩ | hDiverged | ⟨hOthers, hLater, vs, hvs⟩
      · exact .inl ⟨e, List.mem_cons_of_mem _ he⟩
      · exact .inr (.inl hDiverged)
      · exact .inr (.inr ⟨.cons hOwn hOthers, hLater, v :: vs, .cons hv hvs⟩)

end Lists

theorem sameOutcome_settle (entity : Schema.Entity) {results others : List (Except Error Row)}
    (h : List.Forall₂ (SameOutcome fun _ _ => True) results others) :
    SameOutcome (fun _ _ => True) (settle entity results) (settle entity others) := by
  have hEach : SameOutcome (fun _ _ => True) (results.mapM id) (others.mapM id) := by
    induction h with
    | nil => exact .ok trivial
    | @cons _ _ rest more hFirst _ ih =>
      rw [List.mapM_cons, List.mapM_cons]
      cases hFirst with
      | error => exact .error
      | ok _ =>
        generalize rest.mapM id = x at ih ⊢
        generalize more.mapM id = y at ih ⊢
        cases ih with
        | ok _ => exact .ok trivial
        | error => exact .error
  rw [settle, settle]
  generalize results.mapM id = x at hEach
  generalize others.mapM id = y at hEach
  cases hEach with
  | ok _ => exact .ok trivial
  | error => exact .error

theorem exists_settle_eq_error {entity : Schema.Entity} {results : List (Except Error Row)}
    {e : Error} (h : .error e ∈ results) : ∃ f, settle entity results = .error f := by
  cases hSettle : settle entity results with
  | error f => exact ⟨f, rfl⟩
  | ok rows =>
    obtain ⟨_, _, hRow⟩ := Outcome.exists_of_mem_left (settle_eq_ok.mp hSettle) h
    cases hRow

/-- Rows that are saved side by side, with their failures told together. -/
theorem mirrors_settled {f : α → Session Row} {g : β → Session Row} {enough needed : α → β → Prop}
    {xs : List α} {ys : List β} (entity : Schema.Entity) (h : List.Forall₂ (fun x y =>
      (f x).Mirrors (fun _ _ => True) (enough x y) (needed x y) (g y)) xs ys)
    (hGrows : ∀ x, (f x).Grows) (hGrows' : ∀ y, (g y).Grows) :
    ((xs.mapM fun x => (f x).attempt) >>= fun results => ofExcept (settle entity results)).Mirrors
      (fun _ _ => True) (List.Forall₂ enough xs ys) (List.Forall₂ needed xs ys)
      ((ys.mapM fun y => (g y).attempt) >>= fun results => ofExcept (settle entity results)) := by
  intro log
  rw [run_bind, run_bind, run_mapM_attempt, run_mapM_attempt]
  dsimp only
  rw [run_ofExcept, run_ofExcept]
  constructor
  · intro hEnough
    obtain ⟨hLog, hEach⟩ := same_runEach h hEnough log
    exact ⟨hLog, sameOutcome_settle entity hEach⟩
  · intro saved hSaved
    rcases told_runEach h hGrows hGrows' log (settle_eq_ok.mp hSaved) with
      ⟨e, he⟩ | hDiverged | ⟨hNeeded, hLog, rows, hRows⟩
    · exact .inl (exists_settle_eq_error he)
    · exact .inr (.inl hDiverged)
    · exact .inr (.inr ⟨hNeeded, hLog, rows, settle_eq_ok.mpr hRows, trivial⟩)

end Session

end RowTree
