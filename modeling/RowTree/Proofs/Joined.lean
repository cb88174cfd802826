import RowTree.Proofs.Junctions

/-!
# Joined texts

Texts with connectives between them. With other blanks around the connectives the whole is the same
up to these blanks. On one line it is cut into the clauses of its texts, as long as none of them
ends with a connective before another one.
-/

namespace RowTree.FilterText

open Text Sql Schema

variable {text tail left x y : List Char} {j k : Junction}

def Junction.spaced (j : Junction) : Junction where
  before := [' ']
  word := j.word
  after := [' ']
  blanks_before := ⟨List.cons_ne_nil _ _, List.all_eq_true.mp (by decide)⟩
  connective := j.connective
  blanks_after := ⟨List.cons_ne_nil _ _, List.all_eq_true.mp (by decide)⟩

/-- The first text and then the others, each after its junction. -/
def joined (first : List Char) : List (Junction × List Char) → List Char
  | [] => first
  | (j, next) :: rest => j.joins first (joined next rest)

def spaced (rest : List (Junction × List Char)) : List (Junction × List Char) :=
  rest.map fun entry => (entry.1.spaced, entry.2)

theorem dropBlank_ne_nil_of_trim (h : trim x ≠ []) : dropBlank x ≠ [] := by
  intro hNil
  rw [trim, hNil] at h
  exact h rfl

/-- Blanks at the ends of the two texts belong to the junction. -/
theorem trim_joins (hx : trim x ≠ []) (hy : trim y ≠ []) (j : Junction) :
    ∃ k : Junction, j.Alike k ∧ trim (j.joins x y) = k.joins (trim x) (trim y) := by
  obtain ⟨back, hBack, hBackBlank⟩ := exists_dropBlankEnd (dropBlank x)
  obtain ⟨front, hFront, hFrontBlank⟩ := exists_dropBlank y
  have hAfter : Blanks (j.after ++ front) :=
    ⟨List.append_ne_nil_of_left_ne_nil j.blanks_after.1 _,
      List.forall_mem_append.mpr ⟨j.blanks_after.2, hFrontBlank⟩⟩
  let k : Junction := {
    before := back ++ j.before
    word := j.word
    after := j.after ++ front
    blanks_before := blanks_append hBackBlank j.blanks_before
    connective := j.connective
    blanks_after := hAfter }
  refine ⟨k, rfl, ?_⟩
  have hText : dropBlank (j.joins x y) =
      (trim x ++ (back ++ (j.before ++ (j.word ++ (j.after ++ front))))) ++ dropBlank y := by
    rw [Junction.joins, dropBlank_append (dropBlank_ne_nil_of_trim hx), hBack]
    nth_rewrite 1 [hFront]
    simp [trim]
  rw [trim, hText, dropBlankEnd_append hy]
  simp [k, Junction.joins, trim]

theorem trim_joined_ne_nil {first : List Char} (hFirst : trim first ≠ [])
    (rest : List (Junction × List Char)) (hRest : ∀ entry ∈ rest, trim entry.2 ≠ []) :
    trim (joined first rest) ≠ [] := by
  induction rest generalizing first with
  | nil => exact hFirst
  | cons entry rest ih =>
    obtain ⟨j, next⟩ := entry
    rw [List.forall_mem_cons] at hRest
    obtain ⟨k, _, hTrim⟩ := trim_joins hFirst (ih hRest.1 hRest.2) j
    rw [joined, hTrim, Junction.joins]
    exact List.append_ne_nil_of_left_ne_nil hFirst _

/-- With other blanks at its junctions the joined text is the same up to these. -/
theorem respaced_joined {first : List Char} (hFirst : trim first ≠ [])
    (rest : List (Junction × List Char)) (hRest : ∀ entry ∈ rest, trim entry.2 ≠ []) :
    Respaced (trim (joined first rest)) (trim (joined first (spaced rest))) := by
  induction rest generalizing first with
  | nil => exact .same _
  | cons entry rest ih =>
    obtain ⟨j, next⟩ := entry
    rw [List.forall_mem_cons] at hRest
    have hMore := trim_joined_ne_nil hRest.1 rest hRest.2
    have hSpaced : trim (joined next (spaced rest)) ≠ [] :=
      trim_joined_ne_nil hRest.1 (spaced rest) (List.forall_mem_map.mpr hRest.2)
    obtain ⟨k, hAlike, hTrim⟩ := trim_joins hFirst hMore j
    obtain ⟨k', hAlike', hTrim'⟩ := trim_joins hFirst hSpaced j.spaced
    have hSame : k.Alike k' := hAlike.symm.trans hAlike'
    rw [joined, hTrim, spaced, List.map_cons, joined, ← spaced, hTrim']
    exact .joined hSame (starts_trim hFirst) (starts_trim hMore) (starts_trim hSpaced)
      (ih hRest.1 hRest.2)

theorem joined_spaced_line {first : List Char} (rest : List (Junction × List Char))
    (h : ∀ text ∈ first :: rest.map (·.2), '\n' ∉ text) : '\n' ∉ joined first (spaced rest) := by
  induction rest generalizing first with
  | nil => exact h first List.mem_cons_self
  | cons entry rest ih =>
    obtain ⟨j, next⟩ := entry
    rw [List.map_cons, List.forall_mem_cons] at h
    have hWord : '\n' ∉ j.word := fun hMem => by
      have hSolid := j.connective.solid _ hMem
      cases hSolid
    have hMore : '\n' ∉ joined next (spaced rest) := ih h.2
    rw [spaced, List.map_cons, joined, ← spaced]
    simp [Junction.joins, Junction.spaced, h.1, hWord, hMore]

def EndsInConnective (text : List Char) : Prop :=
  ∃ front before word, text = front ++ (before ++ word) ∧ Blanks before ∧ IsConnective word

theorem EndsInConnective.append (h : EndsInConnective text) (front : List Char) :
    EndsInConnective (front ++ text) := by
  obtain ⟨others, before, word, rfl, hBefore, hWord⟩ := h
  exact ⟨front ++ others, before, word, by rw [List.append_assoc], hBefore, hWord⟩

/-- A cut before the end of a text is there without the junction and what comes after it, too. -/
theorem Cut.in_front (hEnds : Ends x) (hClear : ¬ EndsInConnective x) (hy : Starts y)
    (h : Cut (j.joins x y) left tail) (hShorter : left.length < x.length) :
    ∃ z, Cut x left z ∧ tail = j.joins z y := by
  obtain ⟨rest, rfl, hGap⟩ := h.split_front (Nat.le_of_lt hShorter)
  have hSome : rest ≠ [] := by
    rintro rfl
    simp at hShorter
  have hRest := hEnds.of_isSuffix (List.suffix_append _ _) hSome
  obtain ⟨hBlank, -⟩ | ⟨before, word, after, rfl, hBefore, hWord, hAfter, -⟩ | ⟨z, hFront, hTail⟩ :=
    gap_in_front hy hGap
  · exact absurd List.prefix_rfl (hRest.not_blanks hBlank)
  · obtain rfl : after = [] := by
      by_contra hAfterSome
      have hSuffix : after <:+ before ++ (word ++ after) := ⟨before ++ word, List.append_assoc _ _ _⟩
      exact (hRest.of_isSuffix hSuffix hAfterSome).not_blanks hAfter List.prefix_rfl
    exact absurd ⟨left, before, word, by rw [List.append_nil], hBefore, hWord⟩ hClear
  · exact ⟨z, ⟨⟨rest, rfl, hFront⟩, h.maximal⟩, hTail⟩

theorem FirstCut.joins (hEnds : Ends x) (hClear : ¬ EndsInConnective x) (hy : Starts y)
    (h : FirstCut x left tail) (j : Junction) : FirstCut (j.joins x y) left (j.joins tail y) := by
  obtain ⟨rest, hText, hGap⟩ := h.cut.gap
  have hLength : left.length < x.length := by
    obtain ⟨c, others, hRest, _⟩ := hGap.starts_blank
    rw [hText, hRest, List.length_append, List.length_cons]
    omega
  refine ⟨⟨⟨j.joins rest y, ?_, hGap.joins j y⟩, h.cut.maximal⟩, ?_⟩
  · rw [hText, Junction.joins_append]
  · intro other more hCut
    by_contra hBefore
    obtain ⟨z, hFront, -⟩ := hCut.in_front hEnds hClear hy (by omega)
    exact hBefore (h.first _ _ hFront)

theorem firstCut_joins (hEnds : Ends x) (hClear : ¬ EndsInConnective x) (hy : Starts y)
    (hNone : ∀ left tail, ¬ Cut x left tail) (j : Junction) : FirstCut (j.joins x y) x y := by
  obtain ⟨c, hLast, hSolid⟩ := hEnds
  refine ⟨⟨⟨j.joins [] y, ?_, gap_of_blank (by simp) hy⟩, ?_⟩, ?_⟩
  · rw [← Junction.joins_append, List.append_nil]
  · intro d hd
    rw [hLast, Option.some.injEq] at hd
    exact hd ▸ hSolid
  · intro other more hCut
    by_contra hBefore
    obtain ⟨z, hFront, -⟩ := hCut.in_front ⟨c, hLast, hSolid⟩ hClear hy (by omega)
    exact hNone _ _ hFront

/-- The clauses of the two texts, if the junction is not taken for something else. -/
theorem pieces_joins {x : List Char} (hLine : '\n' ∉ j.joins x y) (hStarts : Starts x)
    (hEnds : Ends x) (hClear : ¬ EndsInConnective x) (hy : Starts y) :
    pieces (j.joins x y) = pieces x ++ pieces y := by
  have hx : '\n' ∉ x := fun hMem => hLine (List.mem_append_left _ hMem)
  have hWhole := j.starts_joins hStarts y
  cases hFound : firstCut? x with
  | none =>
    have hFirst := firstCut_joins hEnds hClear hy (no_cut_of_firstCut? hx hStarts hFound) j
    rw [pieces_of_none hFound, pieces_of_some
      (hFirst.firstCut?_eq hWhole (hFirst.cut.left_line hLine) (hFirst.cut.tail_line hLine))]
    rfl
  | some found =>
    obtain ⟨left, tail⟩ := found
    have hShorter := length_firstCut?_lt hFound
    have hFront := firstCut_of_firstCut? hx hStarts hFound
    have hFirst := hFront.joins hEnds hClear hy j
    obtain ⟨rest, hText, hGap⟩ := hFront.cut.gap
    have hSuffix : tail <:+ x := by
      obtain ⟨before, word, after, -, -, -, -, hRest⟩ := hGap.parts
      exact ⟨left ++ (before ++ (word ++ after)), by simp [hText, hRest]⟩
    have hTail := hGap.starts_tail
    have hTailClear : ¬ EndsInConnective tail := by
      obtain ⟨front, hFrontText⟩ := hSuffix
      exact fun hTailEnds => hClear (hFrontText ▸ hTailEnds.append front)
    have hTailSome : tail ≠ [] := by
      obtain ⟨_, _, hCons, _⟩ := hTail
      exact hCons ▸ List.cons_ne_nil _ _
    rw [pieces_of_some hFound, pieces_of_some
      (hFirst.firstCut?_eq hWhole (hFirst.cut.left_line hLine) (hFirst.cut.tail_line hLine)),
      pieces_joins (hFirst.cut.tail_line hLine) hTail (hEnds.of_isSuffix hSuffix hTailSome)
        hTailClear hy]
    rfl
termination_by x.length

/-- The texts that have another one after them. -/
def inner (first : List Char) (rest : List (Junction × List Char)) : List (List Char) :=
  (first :: rest.map (·.2)).dropLast

theorem pieces_trim_joined {first : List Char} (rest : List (Junction × List Char))
    (hLine : '\n' ∉ trim (joined first rest)) (hFirst : trim first ≠ [])
    (hRest : ∀ entry ∈ rest, trim entry.2 ≠ [])
    (hClear : ∀ text ∈ inner first rest, ¬ EndsInConnective (trim text)) :
    pieces (trim (joined first rest)) =
      (first :: rest.map (·.2)).flatMap fun text => pieces (trim text) := by
  induction rest generalizing first with
  | nil => simp [joined]
  | cons entry rest ih =>
    obtain ⟨j, next⟩ := entry
    rw [List.forall_mem_cons] at hRest
    have hMore := trim_joined_ne_nil hRest.1 rest hRest.2
    obtain ⟨k, -, hTrim⟩ := trim_joins hFirst hMore j
    rw [joined, hTrim] at hLine ⊢
    have hTailLine : '\n' ∉ trim (joined next rest) := by
      intro hMem
      exact hLine (by simp [Junction.joins, hMem])
    rw [inner, List.map_cons, List.dropLast_cons_cons, List.forall_mem_cons] at hClear
    rw [pieces_joins hLine (starts_trim hFirst) (ends_trim hFirst) hClear.1 (starts_trim hMore),
      ih hTailLine hRest.1 hRest.2 hClear.2]
    rfl

end RowTree.FilterText
