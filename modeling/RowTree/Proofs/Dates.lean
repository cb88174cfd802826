import RowTree.Proofs.LineBreaks
import Mathlib.Algebra.Order.Ring.Int

/-!
# Clauses with a date

A text of one clause, whose value is an offset from now as anybody would write it: an optional
minus, ASCII digits, spaces and the word of a unit. It is read as one comparison with the current
time, shifted by exactly the number that the digits write.
-/

namespace RowTree.FilterText

open Text Sql Schema

variable {text blanks : List Char} {back : Bool} {n : Nat} {unit : Interval}

/-- There is no connective with blanks around it and something after these. -/
def Gapless (text : List Char) : Prop := ∀ rest tail, rest <:+ text → ¬ Gap rest tail

theorem gapless_of_solid (h : ∀ c ∈ text, isBlank c = false) : Gapless text := by
  intro rest tail hSuffix hGap
  obtain ⟨c, _, rfl, hBlank⟩ := hGap.starts_blank
  exact Bool.eq_false_iff.mp (h c (hSuffix.subset List.mem_cons_self)) hBlank

theorem isSuffix_of_solid {word rest : List Char} (hWord : ∀ c ∈ word, isBlank c = false)
    (hRest : BeginsBlank rest) (h : rest <:+ word ++ text) : rest <:+ text := by
  obtain ⟨front, hText⟩ := h
  rcases List.append_eq_append_iff.mp hText with ⟨inner, rfl, rfl⟩ | ⟨later, -, rfl⟩
  · cases inner with
    | nil => exact List.suffix_refl _
    | cons c inner =>
      obtain ⟨_, _, hText, hBlank⟩ := hRest
      obtain ⟨rfl, -⟩ := List.cons.inj hText
      exact absurd hBlank (Bool.eq_false_iff.mp (hWord c (by simp)))
  · exact List.suffix_append _ _

/-- Before a gapless text there may be one more word, if the text does not begin with a
connective. -/
theorem Gapless.more (h : Gapless text) (hStarts : Starts text) {word : List Char}
    (hWord : ∀ c ∈ word, isBlank c = false) (hBlanks : ∀ c ∈ blanks, isBlank c = true)
    (hFirst : ∀ connective rest, IsConnective connective → BeginsBlank rest →
      text ≠ connective ++ rest) : Gapless (word ++ (blanks ++ text)) := by
  intro rest tail hSuffix hGap
  obtain ⟨front, hText⟩ := isSuffix_of_solid hWord hGap.starts_blank hSuffix
  rcases List.append_eq_append_iff.mp hText with ⟨inner, rfl, hRest⟩ | ⟨later, -, rfl⟩
  · obtain ⟨before, connective, after, hBefore, hConnective, hAfter, -, rfl⟩ := hGap.parts
    have hInner : ∀ c ∈ inner, isBlank c = true := (List.forall_mem_append.mp hBlanks).2
    obtain ⟨-, hFound⟩ := blanks_append_inj hBefore.2 hInner (hConnective.starts _) hStarts hRest
    exact hFirst connective _ hConnective (hAfter.begin tail) hFound.symm
  · exact h rest tail (List.suffix_append _ _) hGap

theorem Gapless.firstCut? (h : Gapless text) : firstCut? text = none := by
  cases hFound : FilterText.firstCut? text with
  | none => rfl
  | some found =>
    obtain ⟨⟨rest, hText, hGap⟩, _⟩ := gap_of_firstCut? hFound
    exact absurd hGap (h rest _ ⟨found.1, hText.symm⟩)

/-- An optional minus, ASCII digits that write a number which a signed 64-bit number can hold,
spaces, and a word of a unit in any letter case. -/
inductive Written (back : Bool) : Nat → Interval → List Char → Prop
  | intro {digits spaces word : List Char} {unit : Interval} (some_digit : digits ≠ [])
      (ascii : ∀ c ∈ digits, c.isDigit = true) (fits : Nat.ofDigitChars 10 digits 0 < 2 ^ 63)
      (spaces_only : ∀ c ∈ spaces, c = ' ')
      (names_unit : lower word ∈ (unitWords unit).map String.toList) :
      Written back (Nat.ofDigitChars 10 digits 0) unit
        ((if back then ['-'] else []) ++ (digits ++ (spaces ++ word)))

/-- The number with its sign. -/
def signed (back : Bool) (n : Nat) : Int := if back then -n else n

theorem foldlM_asciiDigit {digits : List Char} (h : ∀ c ∈ digits, c.isDigit = true) (n : Nat) :
    digits.foldlM (fun n c => (asciiDigit? c).map (10 * n + ·)) n =
      some (Nat.ofDigitChars 10 digits n) := by
  induction digits generalizing n with
  | nil => rfl
  | cons c digits ih =>
    obtain ⟨hc, hDigits⟩ := List.forall_mem_cons.mp h
    have hDigit : asciiDigit? c = some (c.toNat - '0'.toNat) := by
      simp only [Char.isDigit, Bool.and_eq_true, decide_eq_true_eq] at hc
      exact if_pos hc
    rw [List.foldlM_cons, hDigit]
    exact ih hDigits _

theorem natural?_eq_some {digits : List Char} (hSome : digits ≠ [])
    (h : ∀ c ∈ digits, c.isDigit = true) :
    natural? digits = some (Nat.ofDigitChars 10 digits 0) := by
  rw [natural?, if_neg (by simpa using hSome)]
  exact foldlM_asciiDigit h 0

theorem isDecimalDigit_of_isDigit {c : Char} (h : c.isDigit = true) : isDecimalDigit c = true := by
  simp only [Char.isDigit, Bool.and_eq_true, decide_eq_true_eq] at h
  have hLow : 48 ≤ c.toNat := h.1
  have hHigh : c.toNat ≤ 57 := h.2
  have hRange : (decide (0x30 ≤ c.toNat) && decide (c.toNat < 0x30 + 10)) = true := by
    simp only [Bool.and_eq_true, decide_eq_true_eq]
    omega
  exact List.any_eq_true.mpr ⟨0x30, List.mem_cons_self, hRange⟩

/-- Each word is a word of one unit only. -/
theorem unit?_eq_some {word : List Char} {unit : Interval}
    (h : lower word ∈ (unitWords unit).map String.toList) : unit? word = some unit := by
  have hWords : ∀ unit : Interval, ∀ w ∈ (unitWords unit).map String.toList,
      [Interval.day, .week, .month, .year].find? (fun other =>
        (unitWords other).any fun v => v.toList == w) = some unit := by
    intro unit
    cases unit <;> decide
  exact hWords unit _ h

theorem letters_of_lower {word : List Char} (hSome : lower word ≠ [])
    (h : (lower word).all Char.isAlpha = true) : word ≠ [] ∧ ∀ c ∈ word, c.isAlpha = true := by
  refine ⟨?_, fun c hc => isAlpha_of_toLower (List.all_eq_true.mp h _ (List.mem_map_of_mem hc))⟩
  rintro rfl
  exact hSome rfl

theorem isAlpha_of_unitWord {word : List Char} {unit : Interval}
    (h : lower word ∈ (unitWords unit).map String.toList) :
    word ≠ [] ∧ ∀ c ∈ word, c.isAlpha = true := by
  have hLetters : ∀ unit : Interval, ∀ w ∈ (unitWords unit).map String.toList,
      w ≠ [] ∧ w.all Char.isAlpha = true := by
    intro unit
    cases unit <;> decide
  obtain ⟨hSome, hAlpha⟩ := hLetters unit _ h
  exact letters_of_lower hSome hAlpha

theorem not_isAlpha_of_isDigit {c : Char} (h : c.isDigit = true) : c.isAlpha = false :=
  not_isAlpha_of_isDecimalDigit (isDecimalDigit_of_isDigit h)

theorem not_isBlank_of_isDigit {c : Char} (h : c.isDigit = true) : isBlank c = false := by
  simp only [Char.isDigit, Bool.and_eq_true, decide_eq_true_eq] at h
  have hLow : 48 ≤ c.toNat := h.1
  have hHigh : c.toNat ≤ 57 := h.2
  by_contra hBlank
  simp only [isBlank, blankRanges, List.any_cons, List.any_nil, Bool.or_false, Bool.not_eq_false,
    Bool.or_eq_true, Bool.and_eq_true, decide_eq_true_eq] at hBlank
  omega

theorem not_isBlank_of_isAlpha {c : Char} (h : c.isAlpha = true) : isBlank c = false := by
  by_contra hBlank
  rw [not_isAlpha_of_isBlank (Bool.not_eq_false _ ▸ hBlank)] at h
  cases h

theorem Starts.append (h : Starts text) (rest : List Char) : Starts (text ++ rest) := by
  obtain ⟨c, others, rfl, hSolid⟩ := h
  exact ⟨c, others ++ rest, rfl, hSolid⟩

theorem starts_of_letters {word : List Char} (hSome : word ≠ [])
    (h : ∀ c ∈ word, c.isAlpha = true) : Starts word := by
  obtain ⟨c, rest, rfl⟩ := List.exists_cons_of_ne_nil hSome
  exact ⟨c, rest, rfl, not_isBlank_of_isAlpha (h c List.mem_cons_self)⟩

/-- The two parts of the size of an offset. -/
theorem span_size {digits rest : List Char} (hDigits : ∀ c ∈ digits, isDecimalDigit c = true)
    (hRest : ∀ c ∈ rest.head?, isDecimalDigit c = false) :
    (digits ++ rest).takeWhile isDecimalDigit = digits ∧
      (digits ++ rest).dropWhile isDecimalDigit = rest := by
  rw [List.takeWhile_append_of_pos hDigits, List.dropWhile_append_of_pos hDigits]
  cases rest with
  | nil => simp
  | cons c rest =>
    have hc := Bool.eq_false_iff.mp (hRest c rfl)
    rw [List.takeWhile_cons_of_neg hc, List.dropWhile_cons_of_neg hc, List.append_nil]
    exact ⟨rfl, rfl⟩

theorem not_isDecimalDigit_of_isAlpha {c : Char} (h : c.isAlpha = true) :
    isDecimalDigit c = false := by
  by_contra hDigit
  rw [not_isAlpha_of_isDecimalDigit (Bool.not_eq_false _ ▸ hDigit)] at h
  cases h

theorem toLower_ne_of_not_isAlpha {c letter : Char} (hc : c.isAlpha = false)
    (hLetter : letter.isAlpha = true) : c.toLower ≠ letter := by
  intro hSame
  rw [isAlpha_of_toLower (hSame ▸ hLetter)] at hc
  cases hc

/-- The sign of an offset, before a size that does not begin with one. -/
theorem offset?_sign (back : Bool) {digits rest : List Char}
    (hSign : ∀ more, digits ++ rest ≠ '-' :: more) (hSome : digits ≠ [])
    (hDigits : ∀ c ∈ digits, isDecimalDigit c = true)
    (hRest : ∀ c ∈ rest.head?, isDecimalDigit c = false) (hWord : dropBlank rest ≠ [])
    (hLetters : ∀ c ∈ dropBlank rest, c.isAlpha = true) :
    offset? ((if back then ['-'] else []) ++ (digits ++ rest)) =
      some ⟨back, digits, dropBlank rest⟩ := by
  obtain ⟨hTake, hDrop⟩ := span_size hDigits hRest
  have hValid : (!digits.isEmpty && !(dropBlank rest).isEmpty &&
      (dropBlank rest).all Char.isAlpha) = true := by
    simp only [Bool.and_eq_true, Bool.not_eq_true', List.isEmpty_eq_false_iff, List.all_eq_true]
    exact ⟨⟨hSome, hWord⟩, hLetters⟩
  cases back with
  | true =>
    rw [if_pos rfl, List.singleton_append, offset?, hTake, hDrop]
    exact if_pos hValid
  | false =>
    rw [if_neg Bool.false_ne_true, List.nil_append, offset?, hTake, hDrop]
    · exact if_pos hValid
    · exact hSign

theorem Written.date (h : Written back n unit text) :
    date text = .ok (.shiftedNow (Int64.ofInt (signed back n)) unit) := by
  obtain @⟨digits, spaces, word, _, hSome, hAscii, hFits, hSpaces, hUnit⟩ := h
  obtain ⟨hWordSome, hLetters⟩ := isAlpha_of_unitWord hUnit
  have hDigits : ∀ c ∈ digits, isDecimalDigit c = true :=
    fun c hc => isDecimalDigit_of_isDigit (hAscii c hc)
  have hBlanks : ∀ c ∈ spaces, isBlank c = true := fun c hc => hSpaces c hc ▸ rfl
  have hWord : dropBlank (spaces ++ word) = word :=
    dropBlank_blanks_append hBlanks (starts_of_letters hWordSome hLetters)
  have hHead : ∀ c ∈ (spaces ++ word).head?, isDecimalDigit c = false := by
    cases spaces with
    | nil => exact fun c hc => not_isDecimalDigit_of_isAlpha (hLetters c (List.mem_of_head? hc))
    | cons d spaces =>
      rintro c ⟨⟩
      rw [hSpaces d List.mem_cons_self]
      decide
  obtain ⟨d, more, rfl⟩ := List.exists_cons_of_ne_nil hSome
  have hDigit := hAscii d List.mem_cons_self
  have hNow : sameWord ((if back then ['-'] else []) ++ (d :: more ++ (spaces ++ word)))
      ['n', 'o', 'w'] = false := by
    refine beq_eq_false_iff_ne.mpr fun hSame => ?_
    cases back with
    | true => exact absurd (List.cons.inj hSame).1 (by decide)
    | false =>
      exact toLower_ne_of_not_isAlpha (not_isAlpha_of_isDigit hDigit) (by decide)
        (List.cons.inj hSame).1
  have hSign : ∀ rest, d :: more ++ (spaces ++ word) ≠ '-' :: rest := by
    intro rest hSame
    rw [(List.cons.inj hSame).1] at hDigit
    exact absurd hDigit (by decide)
  have hOffset := offset?_sign back hSign hSome hDigits hHead (hWord.symm ▸ hWordSome)
    (hWord.symm ▸ hLetters)
  have hAmount : amount? (d :: more) = some (Nat.ofDigitChars 10 (d :: more) 0) := by
    rw [amount?, natural?_eq_some hSome hAscii]
    exact Option.filter_some_pos (by simpa using hFits)
  rw [FilterText.date, hNow, hOffset]
  simp only [hAmount, hWord, unit?_eq_some hUnit]
  rfl

theorem Written.fits (h : Written back n unit text) : n < 2 ^ 63 := by
  obtain ⟨_, _, hFits, _, _⟩ := h
  exact hFits

/-- A sign and digits, spaces, and letters. -/
theorem Written.parts (h : Written back n unit text) : ∃ size spaces word,
    text = size ++ (spaces ++ word) ∧ (∃ c rest, size = c :: rest ∧ c.isAlpha = false) ∧
      (∀ c ∈ size, isBlank c = false) ∧ (∀ c ∈ spaces, c = ' ') ∧ word ≠ [] ∧
      ∀ c ∈ word, c.isAlpha = true := by
  obtain @⟨digits, spaces, word, _, hSome, hAscii, _, hSpaces, hUnit⟩ := h
  obtain ⟨hWordSome, hLetters⟩ := isAlpha_of_unitWord hUnit
  have hDigits : ∀ c ∈ digits, isBlank c = false := fun c hc => not_isBlank_of_isDigit (hAscii c hc)
  refine ⟨(if back then ['-'] else []) ++ digits, spaces, word, (List.append_assoc _ _ _).symm,
    ?_, ?_, hSpaces, hWordSome, hLetters⟩
  · cases back with
    | true => exact ⟨'-', digits, rfl, rfl⟩
    | false =>
      obtain ⟨d, more, rfl⟩ := List.exists_cons_of_ne_nil hSome
      exact ⟨d, more, rfl, not_isAlpha_of_isDigit (hAscii d List.mem_cons_self)⟩
  · cases back with
    | true => exact List.forall_mem_cons.mpr ⟨by decide, hDigits⟩
    | false => exact hDigits

theorem Written.starts (h : Written back n unit text) : Starts text := by
  obtain ⟨_, spaces, word, rfl, ⟨c, rest, rfl, _⟩, hSolid, _⟩ := h.parts
  exact ⟨c, rest ++ (spaces ++ word), rfl, hSolid c List.mem_cons_self⟩

theorem Written.ends (h : Written back n unit text) : Ends text := by
  obtain ⟨size, spaces, word, rfl, _, _, _, hSome, hLetters⟩ := h.parts
  rw [← List.append_assoc, Ends, List.getLast?_append_of_ne_nil _ hSome]
  exact ⟨_, List.getLast?_eq_some_getLast hSome,
    not_isBlank_of_isAlpha (hLetters _ (List.getLast_mem hSome))⟩

theorem Written.line (h : Written back n unit text) : '\n' ∉ text := by
  obtain ⟨size, spaces, word, rfl, _, hSolid, hSpaces, _, hLetters⟩ := h.parts
  simp only [List.mem_append, not_or]
  exact ⟨fun hMem => absurd (hSolid _ hMem) (by decide),
    fun hMem => absurd (hSpaces _ hMem) (by decide),
    fun hMem => absurd (hLetters _ hMem) (by decide)⟩

theorem Written.gapless (h : Written back n unit text) : Gapless text := by
  obtain ⟨size, spaces, word, rfl, _, hSolid, hSpaces, hSome, hLetters⟩ := h.parts
  have hWord : ∀ c ∈ word, isBlank c = false := fun c hc => not_isBlank_of_isAlpha (hLetters c hc)
  refine (gapless_of_solid hWord).more (starts_of_letters hSome hLetters) hSolid
    (fun c hc => hSpaces c hc ▸ rfl) ?_
  rintro connective _ - ⟨c, rest, rfl, hBlank⟩ rfl
  exact absurd (hWord c (by simp)) (Bool.not_eq_false _ ▸ hBlank)

theorem Written.ne_connective (h : Written back n unit text) {connective : List Char}
    (hConnective : IsConnective connective) (rest : List Char) : text ≠ connective ++ rest := by
  obtain ⟨_, spaces, word, rfl, ⟨c, more, rfl, hLetter⟩, _⟩ := h.parts
  intro hText
  obtain ⟨d, others, rfl⟩ := List.exists_cons_of_ne_nil hConnective.ne_nil
  obtain ⟨rfl, -⟩ := List.cons.inj hText
  rcases hConnective with hAnd | hOr
  · exact toLower_ne_of_not_isAlpha hLetter (by decide) (List.cons.inj hAnd).1
  · exact toLower_ne_of_not_isAlpha hLetter (by decide) (List.cons.inj hOr).1

theorem clauseValue?_eq_some {after value : List Char} (hAfter : Blanks after)
    (hStarts : Starts value) (hEnds : Ends value) (hLine : '\n' ∉ value) :
    clauseValue? (after ++ value) = some value := by
  obtain ⟨b, blanks, rfl⟩ := List.exists_cons_of_ne_nil hAfter.1
  obtain ⟨hBlank, hBlanks⟩ := List.forall_mem_cons.mp hAfter.2
  have hDrop := dropBlank_blanks_append hBlanks hStarts
  have hSome : value.isEmpty = false := by
    obtain ⟨_, _, rfl, _⟩ := hStarts
    rfl
  simp only [List.cons_append, clauseValue?, hBlank, hDrop, hSome, hEnds.dropBlankEnd_eq]
  simpa using hLine

/-- A field, the word of an operator and a value, with blanks between them. -/
def clauseText (field before word after value : List Char) : List Char :=
  field ++ (before ++ (word ++ (after ++ value)))

theorem clause?_clauseText {field before word after value : List Char} {operator : Operator}
    (hField : Starts field) (hSolid : ∀ c ∈ field, isBlank c = false) (hBefore : Blanks before)
    (hWord : Starts word) (hLetters : ∀ c ∈ word, isBlank c = false)
    (hOperator : Operator.ofWord? word = some operator) (hAfter : Blanks after)
    (hStarts : Starts value) (hEnds : Ends value) (hLine : '\n' ∉ value) :
    clause? (clauseText field before word after value) = some ⟨field, operator, value⟩ := by
  have hFirst := firstWord_solid hSolid (hBefore.begin (word ++ (after ++ value)))
    (hField.append _)
  have hSecond := firstWord_solid hLetters (hAfter.begin value) (hWord.append _)
  rw [clause?_eq_some_iff, clauseText, hFirst]
  dsimp only
  rw [firstWord_blanks hBefore.2 (hWord.append _), hSecond]
  exact ⟨rfl, hOperator, clauseValue?_eq_some hAfter hStarts hEnds hLine⟩

theorem fold_eq_lower {word : List Char} (h : ∀ c ∈ word, c.isAlpha = true) :
    fold word = lower word := by
  refine List.map_congr_left fun c hc => ?_
  have hAlpha := h c hc
  rw [foldLetter, if_neg, if_neg]
  · rintro rfl
    exact absurd hAlpha (by decide)
  · rintro rfl
    exact absurd hAlpha (by decide)

/-- The word of an operator that compares with a date, in any letter case. -/
structure DateWord (operator : Operator) (word : List Char) : Prop where
  compares : operator = .before ∨ operator = .after
  word_eq : lower word = operator.word.toList

theorem DateWord.letters {operator : Operator} {word : List Char} (h : DateWord operator word) :
    word ≠ [] ∧ ∀ c ∈ word, c.isAlpha = true := by
  have hLetters : lower word ≠ [] ∧ (lower word).all Char.isAlpha = true := by
    rw [h.word_eq]
    rcases h.compares with rfl | rfl <;> decide
  exact letters_of_lower hLetters.1 hLetters.2

theorem DateWord.ofWord? {operator : Operator} {word : List Char} (h : DateWord operator word) :
    Operator.ofWord? word = some operator := by
  rw [Operator.ofWord?, fold_eq_lower h.letters.2, h.word_eq]
  rcases h.compares with rfl | rfl <;> decide

theorem DateWord.not_isConnective {operator : Operator} {word : List Char}
    (h : DateWord operator word) : ¬ IsConnective word := by
  rintro (hAnd | hOr)
  · rw [h.word_eq] at hAnd
    rcases h.compares with rfl | rfl <;> exact absurd hAnd (by decide)
  · rw [h.word_eq] at hOr
    rcases h.compares with rfl | rfl <;> exact absurd hOr (by decide)

theorem Ends.front (h : Ends text) (front : List Char) : Ends (front ++ text) := by
  obtain ⟨c, hLast, hSolid⟩ := h
  exact ⟨c, by rw [List.getLast?_append, hLast]; rfl, hSolid⟩

theorem trim_eq (hStarts : Starts text) (hEnds : Ends text) : trim text = text := by
  rw [trim, dropBlank_of_starts hStarts, hEnds.dropBlankEnd_eq]

def dateComparison (operator : Operator) : Comparison :=
  if operator = .before then .less else .greater

theorem predicate_date {operator : Operator} (h : operator = .before ∨ operator = .after)
    (column : Expr) {value : List Char} {moment : Expr} (hDate : date value = .ok moment) :
    predicate column operator value = .ok (.compare (dateComparison operator) column moment) := by
  rcases h with rfl | rfl
  · exact congrArg (Except.map _) hDate
  · exact congrArg (Except.map _) hDate

/-- The text of one clause that compares a field with a date is read as that comparison. -/
theorem read_date_clause {fields : List Field} {field : Field} {column : Expr}
    {before word after value : List Char} {operator : Operator}
    (hFound : findField? fields field.name = some field) (hColumn : field.expr? = some column)
    (hField : Starts field.name.toList) (hSolid : ∀ c ∈ field.name.toList, isBlank c = false)
    (hBefore : Blanks before) (hWord : DateWord operator word) (hAfter : Blanks after)
    (hValue : Written back n unit value) :
    read (String.ofList (clauseText field.name.toList before word after value)) fields =
      .ok (some (.compare (dateComparison operator) column
        (.shiftedNow (Int64.ofInt (signed back n)) unit))) := by
  obtain ⟨hSome, hAlpha⟩ := hWord.letters
  have hStarts : Starts word := starts_of_letters hSome hAlpha
  have hLetters : ∀ c ∈ word, isBlank c = false := fun c hc => not_isBlank_of_isAlpha (hAlpha c hc)
  have hTail : Gapless (word ++ (after ++ value)) :=
    hValue.gapless.more hValue.starts hLetters hAfter.2
      fun _ rest hConnective _ => hValue.ne_connective hConnective rest
  have hGapless : Gapless (clauseText field.name.toList before word after value) := by
    refine hTail.more (hStarts.append _) hSolid hBefore.2 ?_
    intro connective rest hConnective hRest hText
    obtain ⟨rfl, -⟩ := solid_append_inj hLetters hConnective.solid (hAfter.begin value) hRest hText
    exact hWord.not_isConnective hConnective
  have hClause := clause?_clauseText hField hSolid hBefore hStarts hLetters hWord.ofWord? hAfter
    hValue.starts hValue.ends hValue.line
  have hBegins : Starts (clauseText field.name.toList before word after value) := hField.append _
  have hEnds : Ends (clauseText field.name.toList before word after value) :=
    (((hValue.ends.front after).front word).front before).front field.name.toList
  generalize clauseText field.name.toList before word after value = text at *
  have hTrim : trim (String.ofList text).toList = text := by
    rw [String.toList_ofList, trim_eq hBegins hEnds]
  have hNe : text ≠ [] := by
    obtain ⟨_, _, rfl, _⟩ := hBegins
    exact List.cons_ne_nil _ _
  have hRead : readClause fields text = .ok (.compare (dateComparison operator) column
      (.shiftedNow (Int64.ofInt (signed back n)) unit)) := by
    rw [readClause, hClause]
    dsimp only
    rw [String.ofList_toList, hFound, Option.bind_some, hColumn]
    exact predicate_date hWord.compares column hValue.date
  refine (read_eq_ok_iff (by rwa [hTrim])).mpr ⟨_, _, ?_, .bare, rfl⟩
  rw [hTrim, pieces_of_none hGapless.firstCut?]
  exact .cons hRead .nil

end RowTree.FilterText
