import RowTree.FilterText
import RowTree.Proofs.Blanks
import RowTree.Proofs.Scoping

/-!
# Connectives of a filter text

Where a filter text is cut, said without searching: at the first run of blanks that is followed
by AND or OR and by more blanks, and again in what comes after them. Reading finds these clauses
and no others, and it joins all of them.
-/

namespace RowTree.FilterText

open Text Sql Schema

variable {text tail left : List Char}

/-- AND or OR, in any letter case. -/
def IsConnective (word : List Char) : Prop := lower word = ['a', 'n', 'd'] ∨ lower word = ['o', 'r']

/-- The text begins with a connective between blanks, and `tail` is what comes after all of
them. -/
inductive Gap : List Char → List Char → Prop
  | intro {before word after tail : List Char} (blanks_before : Blanks before)
      (connective : IsConnective word) (blanks_after : Blanks after) (more : Starts tail) :
      Gap (before ++ (word ++ (after ++ tail))) tail

/-- Between the two texts there is a connective with blanks around it, and no blank goes before
these. -/
structure Cut (text left tail : List Char) : Prop where
  gap : ∃ rest, text = left ++ rest ∧ Gap rest tail
  maximal : ∀ c, left.getLast? = some c → isBlank c = false

/-- The clauses of a text that is cut from left to right, each time at the first place. -/
inductive Splits : List Char → List (List Char) → Prop
  | whole {text : List Char} (no_cut : ∀ left tail, ¬ Cut text left tail) : Splits text [text]
  | cut {text left tail : List Char} {clauses : List (List Char)} (here : Cut text left tail)
      (first : ∀ other rest, Cut text other rest → left.length ≤ other.length)
      (others : Splits tail clauses) : Splits text (left :: clauses)

theorem toLower_of_isBlank {c : Char} (h : isBlank c = true) : c.toLower = c := by
  refine dif_neg ?_
  rintro ⟨hLow, hHigh⟩
  have hFrom : 65 ≤ c.toNat := hLow
  have hTo : c.toNat ≤ 90 := hHigh
  simp only [isBlank, blankRanges, List.any_cons, List.any_nil, Bool.or_false, Bool.or_eq_true,
    Bool.and_eq_true, decide_eq_true_eq] at h
  omega

theorem IsConnective.solid {word : List Char} (h : IsConnective word) :
    ∀ c ∈ word, isBlank c = false := by
  intro c hc
  have hLetters : (lower word).all (!isBlank ·) = true := by
    rcases h with h | h <;> rw [h] <;> decide
  have hLetter := List.all_eq_true.mp hLetters c.toLower (List.mem_map_of_mem hc)
  rw [Bool.not_eq_true'] at hLetter
  by_contra hBlank
  rw [toLower_of_isBlank (Bool.not_eq_false _ ▸ hBlank)] at hLetter
  exact hBlank hLetter

theorem IsConnective.ne_nil {word : List Char} (h : IsConnective word) : word ≠ [] := by
  rintro rfl
  rcases h with h | h <;> cases h

theorem IsConnective.starts {word : List Char} (h : IsConnective word) (rest : List Char) :
    Starts (word ++ rest) := by
  obtain ⟨c, others, rfl⟩ := List.exists_cons_of_ne_nil h.ne_nil
  exact ⟨c, others ++ rest, rfl, h.solid c List.mem_cons_self⟩

theorem afterConnective?_eq_some_iff {rest : List Char} : afterConnective? text = some rest ↔
    ∃ word, IsConnective word ∧ text = word ++ rest := by
  constructor
  · intro h
    unfold afterConnective? at h
    split at h
    · split at h
      · rename_i a b _ hOr
        cases h
        exact ⟨[a, b], .inr (beq_iff_eq.mp hOr), rfl⟩
      · split at h
        · split at h
          · rename_i a b _ _ c _ hAnd
            cases h
            exact ⟨[a, b, c], .inl (beq_iff_eq.mp hAnd), rfl⟩
          · cases h
        · cases h
    · cases h
  · rintro ⟨word, hAnd | hOr, rfl⟩
    · simp only [lower, List.map_eq_cons_iff, List.map_eq_nil_iff] at hAnd
      obtain ⟨a, _, rfl, ha, b, _, rfl, hb, c, _, rfl, hc, rfl⟩ := hAnd
      simp [afterConnective?, sameWord, lower, ha, hb, hc]
    · simp only [lower, List.map_eq_cons_iff, List.map_eq_nil_iff] at hOr
      obtain ⟨a, _, rfl, ha, b, _, rfl, hb, rfl⟩ := hOr
      simp [afterConnective?, sameWord, lower, ha, hb]

theorem Gap.starts_blank (h : Gap text tail) : ∃ c rest, text = c :: rest ∧ isBlank c = true := by
  cases h with
  | intro hBefore _ _ _ =>
    obtain ⟨c, rest, rfl⟩ := List.exists_cons_of_ne_nil hBefore.1
    exact ⟨c, _, List.cons_append, hBefore.2 c List.mem_cons_self⟩

theorem Gap.cons {c : Char} (hBlank : isBlank c = true) (h : Gap text tail) :
    Gap (c :: text) tail := by
  cases h with
  | @intro before word after _ hBefore hWord hAfter hMore =>
    have hBlanks : Blanks (c :: before) :=
      ⟨List.cons_ne_nil _ _, List.forall_mem_cons.mpr ⟨hBlank, hBefore.2⟩⟩
    exact .intro hBlanks hWord hAfter hMore

theorem Gap.starts_tail (h : Gap text tail) : Starts tail := by
  cases h with
  | intro _ _ _ hMore => exact hMore

theorem Gap.mem_of_mem_tail (h : Gap text tail) {c : Char} (hMem : c ∈ tail) : c ∈ text := by
  cases h with
  | intro _ _ _ _ => simp [hMem]

theorem Gap.parts (h : Gap text tail) : ∃ before word after, Blanks before ∧ IsConnective word ∧
    Blanks after ∧ Starts tail ∧ text = before ++ (word ++ (after ++ tail)) := by
  cases h with
  | intro hBefore hWord hAfter hMore => exact ⟨_, _, _, hBefore, hWord, hAfter, hMore, rfl⟩

/-- There is one way only to go over a gap. -/
theorem Gap.unique {other : List Char} (h : Gap text tail) (hOther : Gap text other) :
    tail = other := by
  obtain ⟨before, word, after, hBefore, hWord, hAfter, hMore, rfl⟩ := h.parts
  obtain ⟨before', word', after', hBefore', hWord', hAfter', hMore', hText⟩ := hOther.parts
  obtain ⟨-, hText⟩ := blanks_append_inj hBefore.2 hBefore'.2 (hWord.starts _) (hWord'.starts _) hText
  obtain ⟨-, hText⟩ := solid_append_inj hWord.solid hWord'.solid (hAfter.begin _) (hAfter'.begin _)
    hText
  exact (blanks_append_inj hAfter.2 hAfter'.2 hMore hMore' hText).2

theorem gap_of_cut? (h : cut? text = some tail) : Gap text tail ∧ '\n' ∉ tail := by
  unfold cut? at h
  split at h
  · rename_i c rest
    split at h
    · rename_i hBlank
      split at h
      · rename_i d after hWord
        simp only [Option.ite_none_right_eq_some, Bool.and_eq_true, Bool.not_eq_true',
          List.isEmpty_eq_false_iff, Option.some.injEq] at h
        obtain ⟨⟨⟨hAfter, hSome⟩, hLine⟩, rfl⟩ := h
        obtain ⟨word, hConnective, hDrop⟩ := afterConnective?_eq_some_iff.mp hWord
        obtain ⟨before, hBefore, hText⟩ := exists_blanks hBlank rest
        obtain ⟨between, hBetween, hMore⟩ := exists_blanks hAfter after
        have hGap := Gap.intro hBefore hConnective hBetween (starts_dropBlank hSome)
        refine ⟨?_, by simpa using hLine⟩
        rwa [← hMore, ← hDrop, ← hText] at hGap
      · cases h
    · cases h
  · cases h

/-- Only what comes after the gap has to be one line. -/
theorem cut?_of_gap (hTailLine : '\n' ∉ tail) (h : Gap text tail) : cut? text = some tail := by
  cases h with
  | @intro before word after _ hBefore hWord hAfter hMore =>
    have hDrop := dropBlank_blanks_append hBefore.2 (hWord.starts (after ++ tail))
    have hTail := dropBlank_blanks_append hAfter.2 hMore
    have hFound := afterConnective?_eq_some_iff.mpr ⟨word, hWord, Eq.refl (word ++ (after ++ tail))⟩
    obtain ⟨b, bs, rfl⟩ := List.exists_cons_of_ne_nil hBefore.1
    obtain ⟨d, ds, rfl⟩ := List.exists_cons_of_ne_nil hAfter.1
    obtain ⟨t, ts, rfl, _⟩ := hMore
    simp only [List.cons_append] at hDrop hTail hFound ⊢
    simp only [cut?, hBefore.2 b List.mem_cons_self, if_true, hDrop, hFound, hTail]
    simp [hAfter.2 d List.mem_cons_self, hTailLine]

theorem Cut.unique {other rest : List Char} (h : Cut text left tail) (hOther : Cut text other rest)
    (hLength : left.length = other.length) : left = other ∧ tail = rest := by
  obtain ⟨after, rfl, hGap⟩ := h.gap
  obtain ⟨afterOther, hText, hOtherGap⟩ := hOther.gap
  obtain ⟨hLeft, rfl⟩ := List.append_inj hText hLength
  exact ⟨hLeft, hGap.unique hOtherGap⟩

theorem Cut.ne_nil (hStarts : Starts text) (h : Cut text left tail) : left ≠ [] := by
  rintro rfl
  obtain ⟨_, rfl, hGap⟩ := h.gap
  obtain ⟨c, _, rfl, hBlank⟩ := hGap.starts_blank
  exact Bool.eq_false_iff.mp hStarts.solid hBlank

/-- Without a gap right after the first character, all gaps come later. -/
theorem gap_later (hNone : cut? text = none) {c : Char} {other rest more : List Char}
    (hLine : '\n' ∉ more) (hNe : other ≠ []) (hText : c :: text = other ++ rest)
    (hGap : Gap rest more) :
    ∃ others, others ≠ [] ∧ other = c :: others ∧ text = others ++ rest := by
  obtain ⟨d, others, rfl⟩ := List.exists_cons_of_ne_nil hNe
  obtain ⟨rfl, hLater⟩ := List.cons_eq_cons.mp hText
  refine ⟨others, ?_, rfl, hLater⟩
  rintro rfl
  have hHere : text = rest := hLater
  rw [← hHere] at hGap
  rw [cut?_of_gap hLine hGap] at hNone
  cases hNone

theorem gap_of_firstCut? (h : firstCut? text = some (left, tail)) :
    (∃ rest, text = left ++ rest ∧ Gap rest tail) ∧ '\n' ∉ left ∧ '\n' ∉ tail ∧
      ∀ other rest more, other ≠ [] → text = other ++ rest → Gap rest more → '\n' ∉ other →
        '\n' ∉ more → left.length ≤ other.length := by
  induction text generalizing left with
  | nil => cases h
  | cons c text ih =>
    rw [firstCut?] at h
    split at h
    · cases h
    · rename_i hSolid
      have hHead : '\n' ≠ c := fun hc => hSolid hc.symm
      split at h
      · rename_i hCut
        cases h
        obtain ⟨hGap, hTail⟩ := gap_of_cut? hCut
        refine ⟨⟨text, rfl, hGap⟩, by simpa using hHead, hTail, ?_⟩
        exact fun other _ _ hNe _ _ _ _ => List.length_pos_iff.mpr hNe
      · rename_i hNone
        obtain ⟨⟨found, _⟩, hFound, hEq⟩ := Option.map_eq_some_iff.mp h
        cases hEq
        obtain ⟨⟨rest, hText, hGap⟩, hLeft, hTail, hFirst⟩ := ih hFound
        refine ⟨⟨rest, by rw [hText, List.cons_append], hGap⟩, ?_, hTail, ?_⟩
        · exact List.not_mem_cons_of_ne_of_not_mem hHead hLeft
        · intro other rest more hNe hOther hOtherGap hLine hMore
          obtain ⟨others, hSome, rfl, hLater⟩ := gap_later hNone hMore hNe hOther hOtherGap
          exact Nat.succ_le_succ (hFirst others rest more hSome hLater hOtherGap
            (List.not_mem_of_not_mem_cons hLine) hMore)

theorem no_gap_of_firstCut? (h : firstCut? text = none) {other rest more : List Char}
    (hNe : other ≠ []) (hText : text = other ++ rest) (hLine : '\n' ∉ other)
    (hMore : '\n' ∉ more) : ¬ Gap rest more := by
  intro hGap
  induction text generalizing other with
  | nil => exact hNe (List.append_eq_nil_iff.mp hText.symm).1
  | cons c text ih =>
    rw [firstCut?] at h
    split at h
    · rename_i hBreak
      obtain ⟨d, others, rfl⟩ := List.exists_cons_of_ne_nil hNe
      obtain ⟨rfl, -⟩ := List.cons_eq_cons.mp hText
      exact hLine (hBreak ▸ List.mem_cons_self)
    · split at h
      · cases h
      · rename_i hNone
        obtain ⟨others, hSome, rfl, hLater⟩ := gap_later hNone hMore hNe hText hGap
        exact ih (Option.map_eq_none_iff.mp h) hSome hLater (List.not_mem_of_not_mem_cons hLine)

/-- What is found is the first of the cuts between two texts that are one line each. -/
theorem lineCut_of_firstCut? (hStarts : Starts text) (h : firstCut? text = some (left, tail)) :
    Cut text left tail ∧ '\n' ∉ left ∧ '\n' ∉ tail ∧
      ∀ other rest, Cut text other rest → '\n' ∉ other → '\n' ∉ rest →
        left.length ≤ other.length := by
  obtain ⟨⟨rest, hText, hGap⟩, hLeft, hTail, hFirst⟩ := gap_of_firstCut? h
  refine ⟨⟨⟨rest, hText, hGap⟩, ?_⟩, hLeft, hTail, ?_⟩
  · intro c hLast
    by_contra hNot
    have hBlank : isBlank c = true := by simpa using hNot
    obtain ⟨before, rfl⟩ := List.getLast?_eq_some_iff.mp hLast
    -- With that blank the gap begins earlier, unless the text begins with it.
    have hEarlier : text = before ++ (c :: rest) := by simpa using hText
    by_cases hNil : before = []
    · rw [hNil, List.nil_append] at hEarlier
      exact hNot (hEarlier ▸ hStarts).solid
    · have hLength := hFirst before (c :: rest) tail hNil hEarlier (hGap.cons hBlank)
        (fun hMem => hLeft (List.mem_append_left _ hMem)) hTail
      rw [List.length_append, List.length_singleton] at hLength
      omega
  · intro other more hCut hOtherLine hMore
    obtain ⟨_, hOther, hOtherGap⟩ := hCut.gap
    exact hFirst other _ _ (hCut.ne_nil hStarts) hOther hOtherGap hOtherLine hMore

theorem no_lineCut_of_firstCut? (hStarts : Starts text) (h : firstCut? text = none)
    (hLeft : '\n' ∉ left) (hTail : '\n' ∉ tail) : ¬ Cut text left tail := by
  intro hCut
  obtain ⟨_, hText, hGap⟩ := hCut.gap
  exact no_gap_of_firstCut? h (hCut.ne_nil hStarts) hText hLeft hTail hGap

theorem Cut.left_line (hLine : '\n' ∉ text) (h : Cut text left tail) : '\n' ∉ left := by
  obtain ⟨_, rfl, _⟩ := h.gap
  exact fun hMem => hLine (List.mem_append_left _ hMem)

theorem Cut.tail_line (hLine : '\n' ∉ text) (h : Cut text left tail) : '\n' ∉ tail := by
  obtain ⟨_, rfl, hGap⟩ := h.gap
  exact fun hMem => hLine (List.mem_append_right _ (hGap.mem_of_mem_tail hMem))

theorem cut_of_firstCut? (hLine : '\n' ∉ text) (hStarts : Starts text)
    (h : firstCut? text = some (left, tail)) :
    Cut text left tail ∧ ∀ other rest, Cut text other rest → left.length ≤ other.length := by
  obtain ⟨hCut, _, _, hFirst⟩ := lineCut_of_firstCut? hStarts h
  exact ⟨hCut, fun other rest hOther =>
    hFirst other rest hOther (hOther.left_line hLine) (hOther.tail_line hLine)⟩

theorem no_cut_of_firstCut? (hLine : '\n' ∉ text) (hStarts : Starts text)
    (h : firstCut? text = none) (left tail : List Char) : ¬ Cut text left tail :=
  fun hCut => no_lineCut_of_firstCut? hStarts h (hCut.left_line hLine) (hCut.tail_line hLine) hCut

theorem Cut.starts_tail (h : Cut text left tail) : Starts tail := by
  obtain ⟨_, _, hGap⟩ := h.gap
  exact hGap.starts_tail

theorem splits_pieces (text : List Char) (hLine : '\n' ∉ text) (hStarts : Starts text) :
    Splits text (pieces text) := by
  cases hFound : firstCut? text with
  | none =>
    rw [pieces_of_none hFound]
    exact .whole (no_cut_of_firstCut? hLine hStarts hFound)
  | some found =>
    obtain ⟨hCut, hFirst⟩ := cut_of_firstCut? hLine hStarts hFound
    have hShorter := length_firstCut?_lt hFound
    rw [pieces_of_some hFound]
    exact .cut hCut hFirst (splits_pieces _ (hCut.tail_line hLine) hCut.starts_tail)
termination_by text.length

theorem Splits.eq_pieces {clauses : List (List Char)} (h : Splits text clauses)
    (hLine : '\n' ∉ text) (hStarts : Starts text) : clauses = pieces text := by
  induction h with
  | @whole text hNone =>
    cases hFound : firstCut? text with
    | none => rw [pieces_of_none hFound]
    | some found => exact absurd (cut_of_firstCut? hLine hStarts hFound).1 (hNone _ _)
  | @cut text left tail clauses here first others ih =>
    cases hFound : firstCut? text with
    | none => exact absurd here (no_cut_of_firstCut? hLine hStarts hFound left tail)
    | some found =>
      obtain ⟨hCut, hFirst⟩ := cut_of_firstCut? hLine hStarts hFound
      -- Neither of the two cuts is before the other.
      have hLength := Nat.le_antisymm (first _ _ hCut) (hFirst left tail here)
      obtain ⟨rfl, rfl⟩ := here.unique hCut hLength
      rw [pieces_of_some hFound, ih (here.tail_line hLine) here.starts_tail]

theorem splits_iff (hLine : '\n' ∉ text) (hStarts : Starts text) {clauses : List (List Char)} :
    Splits text clauses ↔ clauses = pieces text := by
  constructor
  · exact fun h => h.eq_pieces hLine hStarts
  · rintro rfl
    exact splits_pieces text hLine hStarts

/-- One predicate stays as it is; more of them must all hold. -/
inductive Joins : List Expr → Expr → Prop
  | bare {predicate : Expr} : Joins [predicate] predicate
  | all {first second : Expr} {rest : List Expr} :
      Joins (first :: second :: rest) (.conj (first :: second :: rest))

theorem all_eq_some_iff {predicates : List Expr} {joined : Expr} :
    Expr.all predicates = some joined ↔ Joins predicates joined := by
  constructor
  · intro h
    match predicates with
    | [] => cases h
    | [_] =>
      cases h
      exact .bare
    | _ :: _ :: _ =>
      cases h
      exact .all
  · intro h
    cases h with
    | bare => rfl
    | all => rfl

variable {fields : List Field} {clauses : List (List Char)}

theorem exists_joins {predicates : List Expr} (hSome : predicates ≠ []) :
    ∃ joined, Joins predicates joined := by
  match predicates with
  | [predicate] => exact ⟨predicate, .bare⟩
  | _ :: _ :: _ => exact ⟨_, .all⟩

theorem read_of_blank {text : String} (h : trim text.toList = []) (fields : List Field) :
    read text fields = .ok none := by
  rw [read]
  simp [h]

theorem read_eq_ok_iff {text : String} (h : trim text.toList ≠ []) {e : Option Expr} :
    read text fields = .ok e ↔ ∃ predicates joined,
      List.Forall₂ (fun clause p => readClause fields clause = .ok p)
        (pieces (trim text.toList)) predicates ∧ Joins predicates joined ∧ e = some joined := by
  rw [read, if_neg (by simpa using h)]
  constructor
  · intro hRead
    split at hRead
    · rename_i predicates hAll
      cases hRead
      have hEach := Outcome.mapM_eq_ok.mp hAll
      have hSome : predicates ≠ [] := by
        rintro rfl
        exact pieces_ne_nil _ (List.forall₂_nil_right_iff.mp hEach)
      obtain ⟨joined, hJoins⟩ := exists_joins hSome
      exact ⟨predicates, joined, hEach, hJoins, all_eq_some_iff.mpr hJoins⟩
    · cases hRead
  · rintro ⟨predicates, joined, hEach, hJoins, rfl⟩
    rw [Outcome.mapM_eq_ok.mpr hEach]
    exact congrArg Except.ok (all_eq_some_iff.mpr hJoins)

theorem read_eq_error_iff {text : String} (h : trim text.toList ≠ []) {e : Error} :
    read text fields = .error e ↔ ∃ before clause after problem,
      pieces (trim text.toList) = before ++ clause :: after ∧
        (∀ earlier ∈ before, ∃ p, readClause fields earlier = .ok p) ∧
        readClause fields clause = .error problem ∧ e = .of (.filter problem) := by
  rw [read, if_neg (by simpa using h)]
  constructor
  · intro hRead
    split at hRead
    · cases hRead
    · rename_i problem hAll
      cases hRead
      obtain ⟨before, clause, after, hClauses, hBefore, hClause⟩ := Outcome.mapM_eq_error.mp hAll
      exact ⟨before, clause, after, problem, hClauses, hBefore, hClause, rfl⟩
  · rintro ⟨before, clause, after, problem, hClauses, hBefore, hClause, rfl⟩
    rw [Outcome.mapM_eq_error.mpr ⟨before, clause, after, hClauses, hBefore, hClause⟩]

/-- A text that is not blank has exactly one way to be cut, from left to right at every
connective. Its predicate joins what all of the clauses say, in their order; and it has none if a
clause cannot be read, the first of which is the error. -/
theorem read_splits {text : String} (hLine : '\n' ∉ text.toList) (fields : List Field) :
    (trim text.toList = [] → read text fields = .ok none) ∧
    (trim text.toList ≠ [] → ∃ clauses,
      (∀ other, Splits (trim text.toList) other ↔ other = clauses) ∧
      (∀ e, read text fields = .ok e ↔ ∃ predicates joined,
        List.Forall₂ (fun clause p => readClause fields clause = .ok p) clauses predicates ∧
          Joins predicates joined ∧ e = some joined) ∧
      ∀ e, read text fields = .error e ↔ ∃ before clause after problem,
        clauses = before ++ clause :: after ∧
          (∀ earlier ∈ before, ∃ p, readClause fields earlier = .ok p) ∧
          readClause fields clause = .error problem ∧ e = .of (.filter problem)) := by
  refine ⟨fun hBlank => read_of_blank hBlank fields, fun hSome => ?_⟩
  have hTrimmed : '\n' ∉ trim text.toList := fun hMem => hLine (mem_of_mem_trim hMem)
  exact ⟨pieces (trim text.toList), fun _ => splits_iff hTrimmed (starts_trim hSome),
    fun _ => read_eq_ok_iff hSome, fun _ => read_eq_error_iff hSome⟩

end RowTree.FilterText

namespace RowTree.Sales

open FilterText Text Sql Schema

/-- A filter with two connectives, of which one has two blanks before it, and with values that
have the letters of connectives in them. -/
def harbours : String := "SaleID > 7 AND Town contains Bandon  or Town beginswith Port"

def harbourClauses : List (List Char) :=
  ["SaleID > 7".toList, "Town contains Bandon".toList, "Town beginswith Port".toList]

def harbourPredicates : List Expr :=
  [.compare .greater (.columnOf 0 "id") (.string "7"), (Expr.columnOf 2 "name").contains "Bandon",
    (Expr.columnOf 2 "name").beginsWith "Port"]

theorem harbours_splits : '\n' ∉ harbours.toList ∧
    Splits (trim harbours.toList) harbourClauses ∧
    FilterText.read harbours sale.fields = .ok (some (.conj harbourPredicates)) := by
  have hLine : '\n' ∉ harbours.toList := by decide
  have hSome : trim harbours.toList ≠ [] := by decide
  have hPieces : pieces (trim harbours.toList) = harbourClauses := by
    have hFirst : firstCut? (trim harbours.toList) = some ("SaleID > 7".toList,
        "Town contains Bandon  or Town beginswith Port".toList) := by decide
    have hSecond : firstCut? "Town contains Bandon  or Town beginswith Port".toList =
        some ("Town contains Bandon".toList, "Town beginswith Port".toList) := by decide
    have hLast : firstCut? "Town beginswith Port".toList = none := by decide
    rw [pieces_of_some hFirst, pieces_of_some hSecond, pieces_of_none hLast, harbourClauses]
  have hSplits : Splits (trim harbours.toList) harbourClauses :=
    hPieces ▸ splits_pieces _ (fun hMem => hLine (mem_of_mem_trim hMem)) (starts_trim hSome)
  have hEach : List.Forall₂ (fun clause p => readClause sale.fields clause = .ok p)
      harbourClauses harbourPredicates :=
    .cons rfl (.cons rfl (.cons rfl .nil))
  obtain ⟨clauses, hOnly, hOk, _⟩ := (read_splits hLine sale.fields).2 hSome
  obtain rfl := (hOnly _).mp hSplits
  exact ⟨hLine, hSplits, (hOk _).mpr ⟨_, _, hEach, .all, rfl⟩⟩

end RowTree.Sales
