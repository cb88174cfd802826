import RowTree.Proofs.Connectives

/-!
# Blanks around connectives

Two texts with the same words, and with the same blanks but for those around some connectives, are
cut at the same places. The clauses are the same, too, up to the blanks after a connective that
stands first in a clause because the one before it has been taken.
-/

namespace RowTree.FilterText

open Text Sql Schema

/-- A connective with the blanks around it. -/
structure Junction where
  before : List Char
  word : List Char
  after : List Char
  blanks_before : Blanks before
  connective : IsConnective word
  blanks_after : Blanks after

namespace Junction

def joins (j : Junction) (left right : List Char) : List Char :=
  left ++ (j.before ++ (j.word ++ (j.after ++ right)))

/-- The text on the right, when the connective is its first word. -/
def heads (j : Junction) (right : List Char) : List Char := j.word ++ (j.after ++ right)

theorem joins_append (j : Junction) (front left right : List Char) :
    j.joins (front ++ left) right = front ++ j.joins left right :=
  List.append_assoc _ _ _

theorem starts_joins (j : Junction) {left : List Char} (h : Starts left) (right : List Char) :
    Starts (j.joins left right) := by
  obtain ⟨c, rest, rfl, hSolid⟩ := h
  exact ⟨c, _, rfl, hSolid⟩

end Junction

variable {text tail left x y y' : List Char} {j k : Junction}

/-- A connective that comes before a junction has the junction right after it, or other words. -/
theorem connective_in_front {word after : List Char} (hWord : IsConnective word)
    (hAfter : Blanks after) (hTail : Starts tail)
    (hText : j.joins x y = word ++ (after ++ tail)) : ∃ rest, x = word ++ rest ∧
      ((∀ c ∈ rest, isBlank c = true) ∧ tail = j.heads y ∨
        ∃ z, rest = after ++ z ∧ Starts z ∧ tail = j.joins z y) := by
  obtain ⟨w, rest, hSplit, hw, hRest⟩ := exists_solid_begins x
  have hBegin : BeginsBlank (j.joins rest y) := by
    rcases hRest with rfl | ⟨c, others, rfl, hBlank⟩
    · exact j.blanks_before.begin _
    · exact ⟨c, _, rfl, hBlank⟩
  rw [hSplit, Junction.joins_append] at hText
  obtain ⟨hSame, hText⟩ := solid_append_inj hw hWord.solid hBegin (hAfter.begin tail) hText
  refine ⟨rest, hSame ▸ hSplit, ?_⟩
  obtain ⟨blanks, z, hRestSplit, hBlanks, hz⟩ := exists_blanks_starts rest
  rw [hRestSplit, Junction.joins_append] at hText
  rcases hz with hNil | hz
  · rw [hNil] at hText
    have hHeads : (blanks ++ j.before) ++ j.heads y = after ++ tail := by
      simpa [Junction.joins, Junction.heads] using hText
    obtain ⟨-, hSameTail⟩ := blanks_append_inj (blanks_append hBlanks j.blanks_before).2 hAfter.2
      (j.connective.starts _) hTail hHeads
    refine .inl ⟨?_, hSameTail.symm⟩
    rwa [hRestSplit, hNil, List.append_nil]
  · obtain ⟨hSameBlanks, hSameTail⟩ := blanks_append_inj hBlanks hAfter.2 (j.starts_joins hz y) hTail
      hText
    exact .inr ⟨z, hSameBlanks ▸ hRestSplit, hz, hSameTail.symm⟩

theorem gap_of_blank (hBlank : ∀ c ∈ x, isBlank c = true) (hy : Starts y) : Gap (j.joins x y) y := by
  rw [Junction.joins, ← List.append_assoc]
  exact .intro (blanks_append hBlank j.blanks_before) j.connective j.blanks_after hy

theorem gap_of_word {before word after : List Char} (hBefore : Blanks before)
    (hWord : IsConnective word) (hAfter : ∀ c ∈ after, isBlank c = true) :
    Gap (j.joins (before ++ (word ++ after)) y) (j.heads y) := by
  have hGap := Gap.intro hBefore hWord (blanks_append hAfter j.blanks_before)
    (j.connective.starts (j.after ++ y))
  simpa [Junction.joins, Junction.heads] using hGap

theorem Gap.joins {z : List Char} (h : Gap x z) (j : Junction) (y : List Char) :
    Gap (j.joins x y) (j.joins z y) := by
  obtain ⟨before, word, after, hBefore, hWord, hAfter, hz, rfl⟩ := h.parts
  rw [Junction.joins_append, Junction.joins_append, Junction.joins_append]
  exact .intro hBefore hWord hAfter (j.starts_joins hz y)

/-- A gap that begins before a junction or with it goes over the junction, or takes a connective
right before it, or ends before it. -/
theorem gap_in_front (hy : Starts y) (h : Gap (j.joins x y) tail) :
    ((∀ c ∈ x, isBlank c = true) ∧ tail = y) ∨
    (∃ before word after, x = before ++ (word ++ after) ∧ Blanks before ∧ IsConnective word ∧
      (∀ c ∈ after, isBlank c = true) ∧ tail = j.heads y) ∨
    ∃ z, Gap x z ∧ tail = j.joins z y := by
  obtain ⟨blanks, rest, hSplit, hBlanks, hRest⟩ := exists_blanks_starts x
  rcases hRest with hNil | hRest
  · have hBlank : ∀ c ∈ x, isBlank c = true := by rwa [hSplit, hNil, List.append_nil]
    exact .inl ⟨hBlank, h.unique (gap_of_blank hBlank hy)⟩
  · obtain ⟨before, word, after, hBefore, hWord, hAfter, hTail, hText⟩ := h.parts
    rw [hSplit, Junction.joins_append] at hText
    obtain ⟨hSame, hText⟩ := blanks_append_inj hBlanks hBefore.2 (j.starts_joins hRest y)
      (hWord.starts _) hText
    obtain ⟨more, hMore, ⟨hBlank, hTailEq⟩ | ⟨z, hz, hStarts, hTailEq⟩⟩ :=
      connective_in_front hWord hAfter hTail hText
    · exact .inr (.inl ⟨before, word, more, by rw [hSplit, hSame, hMore], hBefore, hWord, hBlank,
        hTailEq⟩)
    · refine .inr (.inr ⟨z, ?_, hTailEq⟩)
      rw [hSplit, hSame, hMore, hz]
      exact .intro hBefore hWord hAfter hStarts

/-- Junctions with the same connective, and maybe other blanks. -/
def Junction.Alike (j k : Junction) : Prop := j.word = k.word

/-- The texts are the same up to the blanks at some junctions, with a word before each of them. -/
inductive Respaced : List Char → List Char → Prop
  | same (text : List Char) : Respaced text text
  | joined {x y y' : List Char} {j k : Junction} (alike : j.Alike k) (starts : Starts x)
      (starts_left : Starts y) (starts_right : Starts y') (rest : Respaced y y') :
      Respaced (j.joins x y) (k.joins x y')

/-- As `Respaced`, but the text may begin with the connective of a junction. -/
inductive Rest : List Char → List Char → Prop
  | respaced {text other : List Char} (h : Respaced text other) : Rest text other
  | headed {y y' : List Char} {j k : Junction} (alike : j.Alike k) (starts_left : Starts y)
      (starts_right : Starts y') (rest : Respaced y y') : Rest (j.heads y) (k.heads y')

/-- The clauses are the same but for the blanks after a connective at their start. -/
inductive Similar : List Char → List Char → Prop
  | same (clause : List Char) : Similar clause clause
  | headed {j k : Junction} (alike : j.Alike k) {clause : List Char} (starts : Starts clause) :
      Similar (j.heads clause) (k.heads clause)

theorem Respaced.symm {text other : List Char} (h : Respaced text other) : Respaced other text := by
  induction h with
  | same text => exact .same text
  | joined alike starts starts_left starts_right _ ih =>
    exact .joined (Eq.symm alike) starts starts_right starts_left ih

theorem Rest.symm {text other : List Char} (h : Rest text other) : Rest other text := by
  cases h with
  | respaced h => exact .respaced h.symm
  | headed alike starts_left starts_right rest =>
    exact .headed (Eq.symm alike) starts_right starts_left rest.symm

/-- What comes after a gap in front of a junction, with other blanks at that junction. -/
theorem gap_respaced (hAlike : j.Alike k) (hy : Starts y) (hy' : Starts y') (hRest : Respaced y y')
    (h : Gap (j.joins x y) tail) : ∃ tail', Gap (k.joins x y') tail' ∧ Rest tail tail' := by
  obtain ⟨hBlank, rfl⟩ | ⟨before, word, after, rfl, hBefore, hWord, hAfter, rfl⟩ | ⟨z, hGap, rfl⟩ :=
    gap_in_front hy h
  · exact ⟨y', gap_of_blank hBlank hy', .respaced hRest⟩
  · exact ⟨k.heads y', gap_of_word hBefore hWord hAfter, .headed hAlike hy hy' hRest⟩
  · exact ⟨k.joins z y', hGap.joins k y', .respaced (.joined hAlike hGap.starts_tail hy hy' hRest)⟩

structure FirstCut (text left tail : List Char) : Prop where
  cut : Cut text left tail
  first : ∀ other rest, Cut text other rest → left.length ≤ other.length

/-- The first cut is found if it has one line on either side. -/
theorem FirstCut.firstCut?_eq (hStarts : Starts text) (h : FirstCut text left tail)
    (hLeft : '\n' ∉ left) (hTail : '\n' ∉ tail) : firstCut? text = some (left, tail) := by
  cases hFound : firstCut? text with
  | none => exact absurd h.cut (no_lineCut_of_firstCut? hStarts hFound hLeft hTail)
  | some found =>
    obtain ⟨hCut, _, _, hFirst⟩ := lineCut_of_firstCut? hStarts hFound
    have hLength := Nat.le_antisymm (h.first _ _ hCut) (hFirst _ _ h.cut hLeft hTail)
    obtain ⟨rfl, rfl⟩ := h.cut.unique hCut hLength
    rfl

/-- At the latest a text is cut at its first junction. -/
theorem exists_cut (x : List Char) (hy : Starts y) (j : Junction) :
    ∃ front, front.length ≤ x.length ∧ Cut (j.joins x y) front y := by
  obtain ⟨blanks, hText, hBlanks⟩ := exists_dropBlankEnd x
  refine ⟨dropBlankEnd x, (isPrefix_dropBlankEnd x).length_le, ⟨j.joins blanks y, ?_, ?_⟩,
    fun c => solid_of_getLast?_dropBlankEnd⟩
  · rw [← Junction.joins_append, ← hText]
  · exact gap_of_blank hBlanks hy

theorem Respaced.eq_or_cut {text other : List Char} (h : Respaced text other) :
    text = other ∨ ∃ left tail, Cut other left tail := by
  cases h with
  | same => exact .inl rfl
  | @joined x _ _ _ k _ _ _ starts_right _ =>
    obtain ⟨front, _, hCut⟩ := exists_cut x starts_right k
    exact .inr ⟨front, _, hCut⟩

/-- A cut that comes before the end of `x`. -/
theorem Cut.split_front (h : Cut (j.joins x y) left tail) (hLength : left.length ≤ x.length) :
    ∃ rest, x = left ++ rest ∧ Gap (j.joins rest y) tail := by
  obtain ⟨after, hText, hGap⟩ := h.gap
  have hLeft : left <+: j.joins x y := ⟨after, hText.symm⟩
  obtain ⟨rest, rfl⟩ := List.prefix_of_prefix_length_le hLeft (List.prefix_append _ _) hLength
  rw [Junction.joins_append, List.append_cancel_left_eq] at hText
  exact ⟨rest, rfl, hText ▸ hGap⟩

theorem Cut.respaced (hAlike : j.Alike k) (hy : Starts y) (hy' : Starts y') (hRest : Respaced y y')
    (h : Cut (j.joins x y) left tail) (hLength : left.length ≤ x.length) :
    ∃ tail', Cut (k.joins x y') left tail' ∧ Rest tail tail' := by
  obtain ⟨rest, rfl, hGap⟩ := h.split_front hLength
  obtain ⟨tail', hOther, hTails⟩ := gap_respaced hAlike hy hy' hRest hGap
  exact ⟨tail', ⟨⟨k.joins rest y', Junction.joins_append .., hOther⟩, h.maximal⟩, hTails⟩

/-- The first cut is at the same place. -/
theorem FirstCut.respaced (hAlike : j.Alike k) (hy : Starts y) (hy' : Starts y')
    (hRest : Respaced y y') (h : FirstCut (j.joins x y) left tail) :
    ∃ tail', FirstCut (k.joins x y') left tail' ∧ Rest tail tail' := by
  obtain ⟨front, hFront, hFrontCut⟩ := exists_cut x hy j
  have hLength := Nat.le_trans (h.first _ _ hFrontCut) hFront
  obtain ⟨tail', hCut, hTails⟩ := h.cut.respaced hAlike hy hy' hRest hLength
  refine ⟨tail', ⟨hCut, ?_⟩, hTails⟩
  intro other rest hOther
  by_cases hLater : x.length < other.length
  · omega
  · obtain ⟨rest', hBack, _⟩ := hOther.respaced (Eq.symm hAlike) hy' hy hRest.symm (by omega)
    exact h.first other rest' hBack

theorem FirstCut.of_respaced {other : List Char} (h : FirstCut text left tail)
    (hRespaced : Respaced text other) :
    ∃ tail', FirstCut other left tail' ∧ Rest tail tail' := by
  cases hRespaced with
  | same => exact ⟨tail, h, .respaced (.same tail)⟩
  | joined alike starts starts_left starts_right rest =>
    exact h.respaced alike starts_left starts_right rest

theorem gap_other_blanks {blanks blanks' : List Char} (hBlanks : Blanks blanks)
    (hBlanks' : Blanks blanks') (hy : Starts y) (h : Gap (blanks ++ y) tail) :
    Gap (blanks' ++ y) tail := by
  obtain ⟨before, word, after, hBefore, hWord, hAfter, hTail, hText⟩ := h.parts
  obtain ⟨-, rfl⟩ := blanks_append_inj hBlanks.2 hBefore.2 hy (hWord.starts _) hText
  exact .intro hBlanks' hWord hAfter hTail

/-- A connective right after the first one. -/
theorem gap_after_respaced (hy : Starts y) (hy' : Starts y') (hRest : Respaced y y')
    (h : Gap (j.after ++ y) tail) : ∃ tail', Gap (k.after ++ y') tail' ∧ Rest tail tail' := by
  cases hRest with
  | same => exact ⟨tail, gap_other_blanks j.blanks_after k.blanks_after hy h, .respaced (.same tail)⟩
  | joined alike starts starts_left starts_right rest =>
    rw [← Junction.joins_append] at h
    obtain ⟨tail', hGap, hTails⟩ := gap_respaced alike starts_left starts_right rest h
    rw [Junction.joins_append] at hGap
    exact ⟨tail', gap_other_blanks j.blanks_after k.blanks_after hy' hGap, hTails⟩

theorem cut_heads_word (h : Gap (j.after ++ y) tail) : Cut (j.heads y) j.word tail :=
  ⟨⟨j.after ++ y, rfl, h⟩, fun c hLast => j.connective.solid c (List.mem_of_getLast? hLast)⟩

theorem Cut.heads (h : Cut y left tail) (hStarts : Starts y) (j : Junction) :
    Cut (j.heads y) (j.heads left) tail := by
  obtain ⟨after, hText, hGap⟩ := h.gap
  refine ⟨⟨after, ?_, hGap⟩, ?_⟩
  · simp only [Junction.heads, hText, List.append_assoc]
  · intro c hLast
    refine h.maximal c ?_
    rwa [Junction.heads, ← List.append_assoc, List.getLast?_append_of_ne_nil _ (h.ne_nil hStarts)]
      at hLast

/-- All cuts come after the connective at the start, or right after it. -/
theorem cut_of_heads (h : Cut (j.heads y) left tail) :
    (left = j.word ∧ Gap (j.after ++ y) tail) ∨ ∃ rest, left = j.heads rest ∧ Cut y rest tail := by
  obtain ⟨after, hText, hGap⟩ := h.gap
  obtain ⟨c, others, hAfter, hBlank⟩ := hGap.starts_blank
  rcases List.append_eq_append_iff.mp hText with ⟨more, rfl, hMore⟩ | ⟨more, hWord, rfl⟩
  · rcases List.append_eq_append_iff.mp hMore with ⟨rest, rfl, rfl⟩ | ⟨rest, hBlanks, rfl⟩
    · refine .inr ⟨rest, rfl, ⟨after, rfl, hGap⟩, ?_⟩
      intro d hLast
      refine h.maximal d ?_
      rw [← List.append_assoc, List.getLast?_append, hLast, Option.some_or]
    · cases List.eq_nil_or_concat more with
      | inl hNil =>
        subst hNil
        rw [List.nil_append] at hBlanks
        exact .inl ⟨List.append_nil _, hBlanks ▸ hGap⟩
      | inr hConcat =>
        obtain ⟨init, d, rfl⟩ := hConcat
        have hSolid := h.maximal d (by simp)
        have hMem : d ∈ j.after := by simp [hBlanks]
        rw [j.blanks_after.2 d hMem] at hSolid
        cases hSolid
  · cases more with
    | nil => exact .inl ⟨by rw [hWord, List.append_nil], hGap⟩
    | cons d others' =>
      cases hAfter
      have hSolid := j.connective.solid c (by simp [hWord])
      rw [hBlank] at hSolid
      cases hSolid

theorem FirstCut.of_heads (hAlike : j.Alike k) (hy : Starts y) (hy' : Starts y')
    (hRest : Respaced y y') (h : FirstCut (j.heads y) left tail) :
    ∃ left' tail', FirstCut (k.heads y') left' tail' ∧ Similar left left' ∧ Rest tail tail' := by
  have hLonger (rest : List Char) : k.word.length ≤ (k.heads rest).length := by
    rw [Junction.heads, List.length_append]
    omega
  obtain ⟨rfl, hGap⟩ | ⟨rest, rfl, hCut⟩ := cut_of_heads h.cut
  · obtain ⟨tail', hOther, hTails⟩ := gap_after_respaced (k := k) hy hy' hRest hGap
    refine ⟨k.word, tail', ⟨cut_heads_word hOther, ?_⟩, ?_, hTails⟩
    · intro other more hMore
      obtain ⟨rfl, _⟩ | ⟨rest, rfl, _⟩ := cut_of_heads hMore
      · exact Nat.le_refl _
      · exact hLonger rest
    · rw [Junction.Alike] at hAlike
      exact hAlike ▸ .same _
  · have hStarts : Starts rest := by
      obtain ⟨after, hText, _⟩ := hCut.gap
      exact hy.of_isPrefix ⟨after, hText.symm⟩ (hCut.ne_nil hy)
    have hFirst : FirstCut y rest tail := by
      refine ⟨hCut, ?_⟩
      intro other more hMore
      have hLength := h.first _ more (hMore.heads hy j)
      simpa [Junction.heads] using hLength
    obtain ⟨tail', hOther, hTails⟩ := hFirst.of_respaced hRest
    refine ⟨k.heads rest, tail', ⟨hOther.cut.heads hy' k, ?_⟩, .headed hAlike hStarts, hTails⟩
    intro other more hMore
    obtain ⟨rfl, hGap⟩ | ⟨rest', rfl, hCut'⟩ := cut_of_heads hMore
    · -- Then the other text would be cut right after its first word, too.
      obtain ⟨_, hBack, _⟩ := gap_after_respaced (k := j) hy' hy hRest.symm hGap
      have hLength := h.first _ _ (cut_heads_word hBack)
      have hSome := List.length_pos_of_ne_nil j.blanks_after.1
      rw [Junction.heads, List.length_append, List.length_append] at hLength
      omega
    · have hLength := hOther.first _ more hCut'
      simpa [Junction.heads] using hLength

theorem FirstCut.of_rest {other : List Char} (h : FirstCut text left tail)
    (hRest : Rest text other) :
    ∃ left' tail', FirstCut other left' tail' ∧ Similar left left' ∧ Rest tail tail' := by
  cases hRest with
  | respaced hRespaced =>
    obtain ⟨tail', hFirst, hTails⟩ := h.of_respaced hRespaced
    exact ⟨left, tail', hFirst, .same left, hTails⟩
  | headed alike starts_left starts_right rest => exact h.of_heads alike starts_left starts_right rest

/-- Without a cut the texts are clauses themselves. -/
theorem Rest.similar {other : List Char} (h : Rest text other)
    (hNone : ∀ left tail, ¬ Cut text left tail) : Similar text other := by
  cases h with
  | respaced hRespaced =>
    rcases hRespaced.symm.eq_or_cut with rfl | ⟨left, tail, hCut⟩
    · exact .same _
    · exact absurd hCut (hNone left tail)
  | @headed _ _ j _ alike starts_left _ rest =>
    rcases rest.symm.eq_or_cut with rfl | ⟨left, tail, hCut⟩
    · exact .headed alike starts_left
    · exact absurd (hCut.heads starts_left j) (hNone _ _)

theorem firstCut_of_firstCut? (hLine : '\n' ∉ text) (hStarts : Starts text)
    (h : firstCut? text = some (left, tail)) : FirstCut text left tail := by
  obtain ⟨hCut, hFirst⟩ := cut_of_firstCut? hLine hStarts h
  exact ⟨hCut, hFirst⟩

/-- The clauses of two texts that are one line each and that are the same but for blanks at
junctions. -/
theorem pieces_similar {text other : List Char} (hLine : '\n' ∉ text) (hOther : '\n' ∉ other)
    (hStarts : Starts text) (hStarts' : Starts other) (h : Rest text other) :
    List.Forall₂ Similar (pieces text) (pieces other) := by
  cases hFound : firstCut? text with
  | none =>
    have hNone := no_cut_of_firstCut? hLine hStarts hFound
    cases hFound' : firstCut? other with
    | none =>
      rw [pieces_of_none hFound, pieces_of_none hFound']
      exact .cons (h.similar hNone) .nil
    | some found =>
      have hFirst' := firstCut_of_firstCut? hOther hStarts' hFound'
      obtain ⟨_, _, hBack, _⟩ := hFirst'.of_rest h.symm
      exact absurd hBack.cut (hNone _ _)
  | some found =>
    have hFirst := firstCut_of_firstCut? hLine hStarts hFound
    have hShorter := length_firstCut?_lt hFound
    obtain ⟨left', tail', hFirst', hLefts, hTails⟩ := hFirst.of_rest h
    have hFound' := hFirst'.firstCut?_eq hStarts' (hFirst'.cut.left_line hOther)
      (hFirst'.cut.tail_line hOther)
    rw [pieces_of_some hFound, pieces_of_some hFound']
    exact .cons hLefts (pieces_similar (hFirst.cut.tail_line hLine) (hFirst'.cut.tail_line hOther)
      hFirst.cut.starts_tail hFirst'.cut.starts_tail hTails)
termination_by text.length

end RowTree.FilterText
