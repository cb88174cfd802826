import RowTree.Session
import Mathlib.Data.List.Forall2

/-!
# Outcomes that are values

When a step after another one, or a list of steps, ends with a value and not
with an error; first of results, then of sessions.
-/

namespace RowTree.Outcome

variable {ε α β : Type}

theorem bind_eq_ok {x : Except ε α} {f : α → Except ε β} {b : β} :
    x >>= f = .ok b ↔ ∃ a, x = .ok a ∧ f a = .ok b := by
  constructor
  · intro h
    cases x with
    | error e => cases h
    | ok a => exact ⟨a, rfl, h⟩
  · rintro ⟨a, rfl, h⟩
    exact h

theorem mapM_eq_ok {f : α → Except ε β} {xs : List α} {ys : List β} :
    xs.mapM f = .ok ys ↔ List.Forall₂ (fun x y => f x = .ok y) xs ys := by
  induction xs generalizing ys with
  | nil =>
    rw [List.mapM_nil, List.forall₂_nil_left_iff]
    constructor
    · intro h
      cases h
      rfl
    · rintro rfl
      rfl
  | cons x xs ih =>
    rw [List.mapM_cons, bind_eq_ok, List.forall₂_cons_left_iff]
    constructor
    · rintro ⟨y, hy, h⟩
      obtain ⟨rest, hRest, h⟩ := bind_eq_ok.mp h
      cases h
      exact ⟨y, rest, hy, ih.mp hRest, rfl⟩
    · rintro ⟨y, rest, hy, hRest, rfl⟩
      exact ⟨y, hy, bind_eq_ok.mpr ⟨rest, ih.mpr hRest, rfl⟩⟩

theorem forM_eq_ok {f : α → Except ε Unit} {xs : List α} (h : ∀ x ∈ xs, f x = .ok ()) :
    xs.forM f = .ok () := by
  induction xs with
  | nil => rfl
  | cons x xs ih =>
    change f x >>= (fun _ => xs.forM f) = .ok ()
    rw [h x List.mem_cons_self]
    exact ih fun y hy => h y (List.mem_cons_of_mem _ hy)

theorem ok_of_forM {f : α → Except ε Unit} {xs : List α} (h : xs.forM f = .ok ()) {x : α}
    (hx : x ∈ xs) : f x = .ok () := by
  induction xs with
  | nil => cases hx
  | cons y ys ih =>
    change f y >>= (fun _ => ys.forM f) = .ok () at h
    obtain ⟨_, hFirst, hRest⟩ := bind_eq_ok.mp h
    rcases List.mem_cons.mp hx with rfl | hx
    · exact hFirst
    · exact ih hRest hx

theorem error_of_forM {f : α → Except ε Unit} {xs : List α} {e : ε}
    (h : xs.forM f = .error e) : ∃ x ∈ xs, f x = .error e := by
  induction xs with
  | nil => cases h
  | cons x xs ih =>
    change f x >>= (fun _ => xs.forM f) = .error e at h
    cases hFirst : f x with
    | error other =>
      rw [hFirst] at h
      cases h
      exact ⟨x, List.mem_cons_self, hFirst⟩
    | ok _ =>
      rw [hFirst] at h
      obtain ⟨y, hy, hError⟩ := ih h
      exact ⟨y, List.mem_cons_of_mem _ hy, hError⟩

theorem bind_eq_error {x : Except ε α} {f : α → Except ε β} {e : ε} :
    x >>= f = .error e ↔ x = .error e ∨ ∃ a, x = .ok a ∧ f a = .error e := by
  cases x with
  | error other => simp [bind, Except.bind]
  | ok a => simp [bind, Except.bind]

/-- A list of results ends with the first error among them. -/
theorem mapM_eq_error {f : α → Except ε β} {xs : List α} {e : ε} :
    xs.mapM f = .error e ↔ ∃ before x after, xs = before ++ x :: after ∧
      (∀ y ∈ before, ∃ v, f y = .ok v) ∧ f x = .error e := by
  induction xs with
  | nil =>
    constructor
    · intro h
      cases h
    · rintro ⟨before, x, after, h, _⟩
      exact absurd h.symm (by simp)
  | cons first rest ih =>
    rw [List.mapM_cons, bind_eq_error]
    constructor
    · rintro (hFirst | ⟨v, hFirst, h⟩)
      · exact ⟨[], first, rest, rfl, List.forall_mem_nil _, hFirst⟩
      · rcases bind_eq_error.mp h with hRest | ⟨_, _, hNone⟩
        · obtain ⟨before, x, after, rfl, hBefore, hx⟩ := ih.mp hRest
          have hAll := List.forall_mem_cons.mpr ⟨⟨v, hFirst⟩, hBefore⟩
          exact ⟨first :: before, x, after, rfl, hAll, hx⟩
        · cases hNone
    · rintro ⟨before, x, after, h, hBefore, hx⟩
      cases before with
      | nil =>
        cases h
        exact .inl hx
      | cons y before =>
        cases h
        obtain ⟨⟨v, hFirst⟩, hBefore⟩ := List.forall_mem_cons.mp hBefore
        have hRest := ih.mpr ⟨before, x, after, rfl, hBefore, hx⟩
        exact .inr ⟨v, hFirst, bind_eq_error.mpr (.inl hRest)⟩

theorem bind_congr_ok {x : Except ε α} {f g : α → Except ε β}
    (h : ∀ a, x = .ok a → f a = g a) : x >>= f = x >>= g := by
  cases x with
  | error e => rfl
  | ok a => exact h a rfl

theorem exists_of_mem_left {γ δ : Type} {r : γ → δ → Prop} {xs : List γ} {ys : List δ}
    (h : List.Forall₂ r xs ys) {x : γ} (hx : x ∈ xs) : ∃ y ∈ ys, r x y := by
  induction h with
  | nil => cases hx
  | cons hr _ ih =>
    rcases List.mem_cons.mp hx with rfl | hx
    · exact ⟨_, List.mem_cons_self, hr⟩
    · obtain ⟨y, hy, hxy⟩ := ih hx
      exact ⟨y, List.mem_cons_of_mem _ hy, hxy⟩

theorem exists_forall₂ {γ δ : Type} {r : γ → δ → Prop} {xs : List γ}
    (h : ∀ x ∈ xs, ∃ y, r x y) : ∃ ys, List.Forall₂ r xs ys := by
  induction xs with
  | nil => exact ⟨[], .nil⟩
  | cons x xs ih =>
    obtain ⟨y, hy⟩ := h x List.mem_cons_self
    obtain ⟨ys, hys⟩ := ih fun x hx => h x (List.mem_cons_of_mem _ hx)
    exact ⟨y :: ys, .cons hy hys⟩

theorem forall₂_congr_left {γ δ : Type} {r s : γ → δ → Prop} {xs : List γ} {ys : List δ}
    (h : ∀ x ∈ xs, ∀ y, r x y ↔ s x y) : List.Forall₂ r xs ys ↔ List.Forall₂ s xs ys := by
  induction xs generalizing ys with
  | nil => rw [List.forall₂_nil_left_iff, List.forall₂_nil_left_iff]
  | cons x xs ih =>
    obtain ⟨hFirst, hRest⟩ := List.forall_mem_cons.mp h
    simp only [List.forall₂_cons_left_iff, hFirst, ih hRest]

end RowTree.Outcome

namespace RowTree.Session

variable {α β : Type}

/-- Started from any log, it ends with the value. -/
def Yields (session : Session α) (v : α) : Prop := ∀ log, (session.run log).1 = .ok v

/-- Started from some log, it ends with the value. -/
def Gives (session : Session α) (v : α) : Prop := ∃ log, (session.run log).1 = .ok v

theorem Yields.bind {session : Session α} {next : α → Session β} {v : α} {w : β}
    (h : session.Yields v) (hNext : (next v).Yields w) : (session >>= next).Yields w := by
  intro log
  have hv := h log
  rw [run_bind]
  rcases hRun : session.run log with ⟨result, later⟩
  rw [hRun] at hv
  cases hv
  exact hNext later

theorem yields_ofExcept {result : Except Error α} {v : α} (h : result = .ok v) :
    (ofExcept result).Yields v := fun _ => h

theorem gives_pure {v w : α} (h : (pure v : Session α).Gives w) : w = v := by
  obtain ⟨_, h⟩ := h
  cases h
  rfl

theorem gives_ofExcept {result : Except Error α} {v : α} (h : (ofExcept result).Gives v) :
    result = .ok v := by
  obtain ⟨_, h⟩ := h
  exact h

theorem gives_bind {session : Session α} {next : α → Session β} {w : β}
    (h : (session >>= next).Gives w) : ∃ v, session.Gives v ∧ (next v).Gives w := by
  obtain ⟨log, h⟩ := h
  rw [run_bind] at h
  cases hRun : session.run log with
  | mk result later =>
    rw [hRun] at h
    cases result with
    | error e => cases h
    | ok v => exact ⟨v, ⟨log, by rw [hRun]⟩, later, h⟩

theorem Gives.of_within {session : Session α} {outer : Fault} {v : α}
    (h : (session.within outer).Gives v) : session.Gives v := by
  obtain ⟨log, h⟩ := h
  refine ⟨log, ?_⟩
  change (session.run log).1.mapError (·.within outer) = .ok v at h
  cases hResult : (session.run log).1 with
  | error e =>
    rw [hResult] at h
    cases h
  | ok w =>
    rw [hResult] at h
    exact h

theorem Gives.of_attempt {session : Session α} {v : α} (h : session.attempt.Gives (.ok v)) :
    session.Gives v := by
  obtain ⟨log, h⟩ := h
  exact ⟨log, Except.ok.inj h⟩

theorem gives_mapM {f : α → Session β} {xs : List α} {vs : List β} (h : (xs.mapM f).Gives vs) :
    List.Forall₂ (fun x v => (f x).Gives v) xs vs := by
  induction xs generalizing vs with
  | nil =>
    rw [List.mapM_nil] at h
    rw [gives_pure h]
    exact List.Forall₂.nil
  | cons x xs ih =>
    rw [List.mapM_cons] at h
    obtain ⟨v, hFirst, h⟩ := gives_bind h
    obtain ⟨rest, hRest, h⟩ := gives_bind h
    rw [gives_pure h]
    exact List.Forall₂.cons hFirst (ih hRest)

/-- What follows a session matters for the values only that it can end with. -/
theorem bind_congr_of_gives {session : Session α} {f g : α → Session β}
    (h : ∀ v, session.Gives v → f v = g v) : session >>= f = session >>= g := by
  funext log
  change (session >>= f).run log = (session >>= g).run log
  rw [run_bind, run_bind]
  rcases hRun : session.run log with ⟨_ | v, later⟩
  · rfl
  · dsimp only
    rw [h v ⟨log, by rw [hRun]⟩]

theorem mapM_congr {f g : α → Session β} {xs : List α} (h : ∀ x ∈ xs, f x = g x) :
    xs.mapM f = xs.mapM g := by
  induction xs with
  | nil => rw [List.mapM_nil, List.mapM_nil]
  | cons x xs ih =>
    rw [List.mapM_cons, List.mapM_cons, h x List.mem_cons_self,
      ih fun y hy => h y (List.mem_cons_of_mem _ hy)]

theorem mapM_eq_pure {f : α → Session β} {g : α → β} {xs : List α}
    (h : ∀ x ∈ xs, f x = pure (g x)) : xs.mapM f = pure (xs.map g) := by
  induction xs with
  | nil => rfl
  | cons x xs ih =>
    rw [List.mapM_cons, h x List.mem_cons_self, pure_bind,
      ih fun y hy => h y (List.mem_cons_of_mem _ hy)]
    rfl

end RowTree.Session
