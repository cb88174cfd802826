import RowTree.Text.Blank
import RowTree.Text.Letter

/-!
# Pieces of a filter text

A filter text is cut at every AND and OR between blanks that has something
after it. Main statement: what is left after a cut is shorter than the text, so
cutting ends.
-/

namespace RowTree.FilterText

open Text

/-- What follows AND or OR, in any letter case, at the start of a text. -/
def afterConnective? : List Char → Option (List Char)
  | a :: b :: rest =>
    if sameWord [a, b] ['o', 'r'] then some rest
    else
      match rest with
      | c :: rest => if sameWord [a, b, c] ['a', 'n', 'd'] then some rest else none
      | [] => none
  | _ => none

/-- The text after a connective that starts here, with the blanks on both of
its sides. There must be some on each side, and the rest must be one line. -/
def cut? (text : List Char) : Option (List Char) :=
  match text with
  | c :: _ =>
    if isBlank c then
      match afterConnective? (dropBlank text) with
      | some (d :: after) =>
        let tail := dropBlank (d :: after)
        if isBlank d && !tail.isEmpty && !tail.contains '\n' then some tail else none
      | _ => none
    else none
  | [] => none

/-- The text before the first cut, which has at least one character and is one
line, and the text after it. -/
def firstCut? : List Char → Option (List Char × List Char)
  | [] => none
  | c :: rest =>
    if c = '\n' then none
    else
      match cut? rest with
      | some tail => some ([c], tail)
      | none => (firstCut? rest).map fun found => (c :: found.1, found.2)

theorem length_dropBlank_le (text : List Char) : (dropBlank text).length ≤ text.length :=
  (List.dropWhile_suffix _).length_le

theorem length_afterConnective?_le {text rest : List Char} (h : afterConnective? text = some rest) :
    rest.length ≤ text.length := by
  unfold afterConnective? at h
  split at h
  · split at h
    · simp only [Option.some.injEq] at h; subst h; simp only [List.length_cons]; omega
    · split at h
      · split at h
        · simp only [Option.some.injEq] at h; subst h; simp only [List.length_cons]; omega
        · simp at h
      · simp at h
  · simp at h

theorem length_cut?_le {text tail : List Char} (h : cut? text = some tail) :
    tail.length ≤ text.length := by
  unfold cut? at h
  split at h
  · rename_i c rest
    split at h
    · split at h
      · rename_i d after heq
        simp only [Option.ite_none_right_eq_some, Option.some.injEq] at h
        obtain ⟨_, rfl⟩ := h
        exact Nat.le_trans (length_dropBlank_le _)
          (Nat.le_trans (length_afterConnective?_le heq) (length_dropBlank_le _))
      · simp at h
    · simp at h
  · simp at h

theorem length_firstCut?_lt {text left tail : List Char} (h : firstCut? text = some (left, tail)) :
    tail.length < text.length := by
  induction text generalizing left tail with
  | nil => simp [firstCut?] at h
  | cons c rest ih =>
    unfold firstCut? at h
    split at h
    · simp at h
    · split at h
      · rename_i found heq
        simp only [Option.some.injEq, Prod.mk.injEq] at h
        obtain ⟨_, rfl⟩ := h
        have := length_cut?_le heq
        simp only [List.length_cons]
        omega
      · obtain ⟨⟨l, t⟩, hf, heq⟩ := Option.map_eq_some_iff.mp h
        simp only [Prod.mk.injEq] at heq
        obtain ⟨_, rfl⟩ := heq
        have := ih hf
        simp only [List.length_cons]
        omega

/-- The texts of the clauses, cut at each connective from left to right. -/
def pieces (text : List Char) : List (List Char) :=
  match h : firstCut? text with
  | none => [text]
  | some (left, tail) =>
    have := length_firstCut?_lt h
    left :: pieces tail
termination_by text.length

theorem pieces_of_none {text : List Char} (h : firstCut? text = none) : pieces text = [text] := by
  rw [pieces]
  split
  · rfl
  · rename_i hFound
    cases h.symm.trans hFound

theorem pieces_of_some {text left tail : List Char} (h : firstCut? text = some (left, tail)) :
    pieces text = left :: pieces tail := by
  rw [pieces]
  split
  · rename_i hNone
    cases h.symm.trans hNone
  · rename_i hFound
    cases h.symm.trans hFound
    rfl

theorem pieces_ne_nil (text : List Char) : pieces text ≠ [] := by
  cases hFound : firstCut? text with
  | none => rw [pieces_of_none hFound]; exact List.cons_ne_nil _ _
  | some found => rw [pieces_of_some hFound]; exact List.cons_ne_nil _ _

end RowTree.FilterText
