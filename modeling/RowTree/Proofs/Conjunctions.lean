import RowTree.Proofs.Narrowing

/-!
# Predicates added one by one

What a filter asks for after any number of additions: what it asked for before, and then what was
added, every predicate once and in the order of the additions. It makes no difference how the
additions are bracketed, that is whether predicates are added one by one or joined before.
-/

namespace RowTree.Sql

namespace Expr

theorem and_assoc (a b c : Expr) : (a.and b).and c = a.and (b.and c) := by
  rw [and_eq_conj (a.and b) c, and_eq_conj a (b.and c), operands_and, operands_and,
    List.append_assoc]

theorem isConj_and (a b : Expr) : (a.and b).isConj = true := by
  rw [and_eq_conj, isConj]

theorem isConj_foldl_and {e : Expr} (h : e.isConj = true) (es : List Expr) :
    (es.foldl and e).isConj = true := by
  induction es generalizing e with
  | nil => exact h
  | cons f rest ih => exact ih (isConj_and e f)

theorem operands_of_not_isConj {e : Expr} (h : e.isConj = false) : e.operands = [e] := by
  cases e with
  | conj _ => cases h
  | _ => rfl

theorem eq_conj_operands {e : Expr} (h : e.isConj = true) : e = conj e.operands := by
  cases e with
  | conj _ => rfl
  | _ => cases h

theorem sizeOf_of_isConj {e : Expr} (h : e.isConj = true) : sizeOf e = 1 + sizeOf e.operands := by
  cases e with
  | conj es => exact conj.sizeOf_spec es
  | _ => cases h

end Expr

theorem sizeOf_exprs_append (es fs : List Expr) :
    sizeOf (es ++ fs) + 1 = sizeOf es + sizeOf fs := by
  induction es with
  | nil => simp [Nat.add_comm]
  | cons e rest ih =>
    simp only [List.cons_append, List.cons.sizeOf_spec]
    omega

/-- Each conjunction of a list loses at least itself when its operands take its place. -/
theorem sizeOf_flatMap_operands (es : List Expr) :
    sizeOf (es.flatMap Expr.operands) + es.countP Expr.isConj ≤ sizeOf es := by
  induction es with
  | nil => exact Nat.le_refl _
  | cons e rest ih =>
    have hAppend := sizeOf_exprs_append e.operands (rest.flatMap Expr.operands)
    rw [List.flatMap_cons, List.countP_cons, List.cons.sizeOf_spec]
    cases hConj : e.isConj with
    | true =>
      have hSize := Expr.sizeOf_of_isConj hConj
      simp only [if_true]
      omega
    | false =>
      rw [Expr.operands_of_not_isConj hConj] at hAppend ⊢
      simp only [List.cons.sizeOf_spec, List.nil.sizeOf_spec] at hAppend
      simp only [Bool.false_eq_true, if_false]
      omega

theorem flatMap_operands_eq_self_iff {es : List Expr} :
    es.flatMap Expr.operands = es ↔ ∀ p ∈ es, p.isConj = false := by
  constructor
  · -- A conjunction in it would make the list smaller.
    intro h
    have hSize := sizeOf_flatMap_operands es
    rw [h] at hSize
    have hNone : es.countP Expr.isConj = 0 := by omega
    simpa using List.countP_eq_zero.mp hNone
  · intro h
    induction es with
    | nil => rfl
    | cons p rest ih =>
      rw [List.forall_mem_cons] at h
      rw [List.flatMap_cons, Expr.operands_of_not_isConj h.1, ih h.2]
      rfl

namespace Filter

theorem add_add (filter : Filter) (a b : Expr) :
    (filter.add a).add b = filter.add (a.and b) := by
  obtain ⟨_ | old⟩ := filter
  · rfl
  · exact congrArg (Filter.mk ∘ some) (old.and_assoc a b)

theorem foldl_add (filter : Filter) (e : Expr) (es : List Expr) :
    es.foldl add (filter.add e) = filter.add (es.foldl Expr.and e) := by
  induction es generalizing e with
  | nil => rfl
  | cons f rest ih => rw [List.foldl_cons, add_add, ih, List.foldl_cons]

theorem operands_foldl_add (filter : Filter) (es : List Expr) :
    (es.foldl add filter).operands = filter.operands ++ es.flatMap Expr.operands := by
  induction es generalizing filter with
  | nil => simp
  | cons e rest ih =>
    rw [List.foldl_cons, ih, operands_add, List.append_assoc, List.flatMap_cons]

/-- Conjunctions are added as the lists of their operands. -/
theorem add_eq_add_iff (filter : Filter) {a b : Expr} (ha : a.isConj = true)
    (hb : b.isConj = true) : filter.add a = filter.add b ↔ a.operands = b.operands := by
  constructor
  · intro h
    have hOperands := congrArg operands h
    rw [operands_add, operands_add] at hOperands
    exact List.append_cancel_left hOperands
  · intro h
    rw [Expr.eq_conj_operands ha, Expr.eq_conj_operands hb, h]

end Filter

theorem Expr.operands_foldl_and (e : Expr) (es : List Expr) :
    (es.foldl and e).operands = (e :: es).flatMap operands := by
  have h := Filter.operands_foldl_add (Filter.add {} e) es
  rw [Filter.foldl_add, Filter.operands_add, Filter.operands_add, List.append_assoc] at h
  exact h

/-- After any number of additions a filter has the operands that it had before, and then those of
each expression that was added, in order. So conjunction is associative, and to add expressions one
by one is to add the conjunction that they make. That of a list leaves its members as they are; it
is the same one exactly if there is one member at most, or no conjunction is among them. -/
theorem additions_keep_operands (filter : Filter) (added : List Expr) :
    (added.foldl Filter.add filter).operands =
      filter.operands ++ added.flatMap Expr.operands ∧
    (∀ a b c : Expr, (a.and b).and c = a.and (b.and c)) ∧
    (∀ e rest,
      (e :: rest).foldl Filter.add filter = filter.add (rest.foldl Expr.and e)) ∧
    (added.foldl Filter.add filter = filter.narrow ⟨Expr.all added⟩ ↔
      added.length ≤ 1 ∨ ∀ p ∈ added, p.isConj = false) := by
  refine ⟨filter.operands_foldl_add added, Expr.and_assoc, filter.foldl_add, ?_⟩
  match added with
  | [] => simp [Filter.narrow, Expr.all]
  | [e] => simp [Filter.narrow, Expr.all]
  | e :: f :: rest =>
    have hJoined : ((f :: rest).foldl Expr.and e).isConj = true :=
      Expr.isConj_foldl_and (Expr.isConj_and e f) rest
    have hMany : ¬ (e :: f :: rest).length ≤ 1 := by simp
    have hList : filter.narrow ⟨Expr.all (e :: f :: rest)⟩ =
        filter.add (.conj (e :: f :: rest)) := rfl
    rw [List.foldl_cons, Filter.foldl_add, hList, Filter.add_eq_add_iff filter hJoined rfl,
      Expr.operands_foldl_and, or_iff_right hMany]
    exact flatMap_operands_eq_self_iff

end RowTree.Sql
