import RowTree.Proofs.Connectives

/-!
# Clauses with more text after them

When a connective is not found, a clause goes on over it and over what comes next. Such a clause
has a longer value. It is read as another predicate than the clause alone, or not at all.
-/

namespace RowTree.FilterText

open Text Sql Schema

variable {text left x y ext : List Char} {fields : List Field}

/-- What can be between the end of a clause and a later one: blanks, and then a word at least that
is not a comma. -/
structure Continues (ext : List Char) : Prop where
  begins : BeginsBlank ext
  ends : Ends ext
  solid : ∃ c ∈ ext, isBlank c = false ∧ c ≠ ','

theorem toNat_of_isAlpha {c : Char} (h : c.isAlpha = true) :
    65 ≤ c.toNat ∧ c.toNat ≤ 90 ∨ 97 ≤ c.toNat ∧ c.toNat ≤ 122 := by
  rcases Bool.or_eq_true_iff.mp h with hUpper | hLower
  · exact .inl (of_decide_eq_true hUpper)
  · obtain ⟨hLow, hHigh⟩ := Bool.and_eq_true_iff.mp hLower
    exact .inr ⟨of_decide_eq_true hLow, of_decide_eq_true hHigh⟩

theorem not_isAlpha_of_isBlank {c : Char} (h : isBlank c = true) : c.isAlpha = false := by
  by_contra hAlpha
  have hLetter := toNat_of_isAlpha (Bool.not_eq_false _ ▸ hAlpha)
  simp only [isBlank, blankRanges, List.any_cons, List.any_nil, Bool.or_false, Bool.or_eq_true,
    Bool.and_eq_true, decide_eq_true_eq] at h
  omega

theorem not_isAlpha_of_isDecimalDigit {c : Char} (h : isDecimalDigit c = true) :
    c.isAlpha = false := by
  have hZeros : ∀ first ∈ zeroDigits, first = 48 ∨ 1632 ≤ first := by decide
  obtain ⟨first, hFirst, hRange⟩ := List.any_eq_true.mp h
  rw [Bool.and_eq_true, decide_eq_true_iff, decide_eq_true_iff] at hRange
  have hZero := hZeros first hFirst
  by_contra hAlpha
  have hLetter := toNat_of_isAlpha (Bool.not_eq_false _ ▸ hAlpha)
  omega

theorem isAlpha_of_toLower {c : Char} (h : c.toLower.isAlpha = true) : c.isAlpha = true := by
  by_cases hUpper : c.isUpper = true
  · exact Bool.or_eq_true_iff.mpr (.inl hUpper)
  · have hSame : c.toLower = c := dif_neg fun hRange => hUpper (decide_eq_true hRange)
    rwa [hSame] at h

/-- The text from its first letter on. -/
def fromLetter (text : List Char) : List Char := text.dropWhile (!·.isAlpha)

def EndsInLetters (text : List Char) : Prop :=
  fromLetter text ≠ [] ∧ ∀ c ∈ fromLetter text, c.isAlpha = true

theorem fromLetter_append {front : List Char} (h : ∀ c ∈ front, c.isAlpha = false)
    (rest : List Char) : fromLetter (front ++ rest) = fromLetter rest :=
  List.dropWhile_append_of_pos (by simpa using h)

theorem endsInLetters_of_letters {word : List Char} (hSome : word ≠ [])
    (h : ∀ c ∈ word, c.isAlpha = true) : EndsInLetters word := by
  obtain ⟨c, rest, rfl⟩ := List.exists_cons_of_ne_nil hSome
  have hAll : fromLetter (c :: rest) = c :: rest :=
    List.dropWhile_cons_of_neg (by simp [h c List.mem_cons_self])
  rw [EndsInLetters, hAll]
  exact ⟨hSome, h⟩

theorem EndsInLetters.append {front rest : List Char} (h : EndsInLetters rest)
    (hFront : ∀ c ∈ front, c.isAlpha = false) : EndsInLetters (front ++ rest) := by
  rw [EndsInLetters, fromLetter_append hFront]
  exact h

/-- After the first letter there is nothing but letters. -/
theorem EndsInLetters.not_append (h : EndsInLetters x) (hExt : BeginsBlank ext) :
    ¬ EndsInLetters (x ++ ext) := by
  intro hLonger
  have hFrom : fromLetter (x ++ ext) = fromLetter x ++ ext := by
    rw [fromLetter, List.dropWhile_append, if_neg (by simpa [fromLetter] using h.1)]
    rfl
  obtain ⟨c, rest, rfl, hBlank⟩ := hExt
  have hAlpha := hLonger.2 c (by simp [hFrom])
  rw [not_isAlpha_of_isBlank hBlank] at hAlpha
  cases hAlpha

theorem endsInLetters_of_size {size : List Char}
    (hSome : dropBlank (size.dropWhile isDecimalDigit) ≠ [])
    (h : ∀ c ∈ dropBlank (size.dropWhile isDecimalDigit), c.isAlpha = true) :
    EndsInLetters size := by
  have hUnit := endsInLetters_of_letters hSome h
  obtain ⟨blanks, hRest, hBlanks⟩ := exists_dropBlank (size.dropWhile isDecimalDigit)
  have hSize : size = size.takeWhile isDecimalDigit ++ (blanks ++
      dropBlank (size.dropWhile isDecimalDigit)) := by
    rw [← hRest, List.takeWhile_append_dropWhile]
  rw [hSize]
  exact (hUnit.append fun c hc => not_isAlpha_of_isBlank (hBlanks c hc)).append
    fun c hc => not_isAlpha_of_isDecimalDigit (List.mem_takeWhile_imp hc)

theorem endsInLetters_of_offset? {offset : Offset} (h : offset? text = some offset) :
    EndsInLetters text := by
  unfold offset? at h
  dsimp only at h
  split at h
  · simp only [Option.ite_none_right_eq_some, Bool.and_eq_true, Bool.not_eq_true',
      List.isEmpty_eq_false_iff, List.all_eq_true] at h
    have hSign : ∀ c ∈ ['-'], c.isAlpha = false := by
      rw [List.forall_mem_singleton]
      rfl
    exact (endsInLetters_of_size h.1.1.2 h.1.2).append hSign
  · simp only [Option.ite_none_right_eq_some, Bool.and_eq_true, Bool.not_eq_true',
      List.isEmpty_eq_false_iff, List.all_eq_true] at h
    exact endsInLetters_of_size h.1.1.2 h.1.2

theorem endsInLetters_of_date {e : Expr} (h : date text = .ok e) : EndsInLetters text := by
  unfold date at h
  split at h
  · rename_i hNow
    have hWord : lower text = lower ['n', 'o', 'w'] := beq_iff_eq.mp hNow
    refine endsInLetters_of_letters ?_ ?_
    · rintro rfl
      cases hWord
    · intro c hc
      have hLetters : (lower text).all Char.isAlpha = true := by
        rw [hWord]
        decide
      exact isAlpha_of_toLower (List.all_eq_true.mp hLetters _ (List.mem_map_of_mem hc))
  · split at h
    · cases h
    · rename_i hOffset
      exact endsInLetters_of_offset? hOffset

theorem firstWord_append (h : (firstWord text).2 ≠ []) (rest : List Char) :
    firstWord (text ++ rest) = ((firstWord text).1, (firstWord text).2 ++ rest) := by
  have hSome : dropBlank text ≠ [] := by
    intro hNil
    rw [firstWord, hNil] at h
    exact h rfl
  have hBoth := List.takeWhile_append_dropWhile (p := (!isBlank ·)) (l := dropBlank text)
  have hLonger : (dropBlank text ++ rest).dropWhile (!isBlank ·) =
      (dropBlank text).dropWhile (!isBlank ·) ++ rest := by
    rw [List.dropWhile_append, if_neg (by simpa [firstWord] using h)]
  have hTake := List.takeWhile_append_dropWhile (p := (!isBlank ·)) (l := dropBlank text ++ rest)
  rw [hLonger, ← List.append_assoc, List.append_cancel_right_eq] at hTake
  rw [firstWord, firstWord, dropBlank_append hSome, hLonger,
    List.append_cancel_right (hTake.trans hBoth.symm)]

theorem clauseValue?_append {value longer : List Char} (hEnds : Ends text) (hExt : Ends ext)
    (h : clauseValue? text = some value) (hLonger : clauseValue? (text ++ ext) = some longer) :
    longer = value ++ ext := by
  cases text with
  | nil => cases h
  | cons first rest =>
    rw [clauseValue?] at h
    rw [List.cons_append, clauseValue?] at hLonger
    split at h
    · cases h
    · rename_i hBlank
      have hDrop : dropBlank (first :: rest) = dropBlank rest :=
        List.dropWhile_cons_of_pos (by simpa using hBlank)
      have hRest : Ends (dropBlank rest) := hDrop ▸ hEnds.dropBlank
      have hSome : dropBlank rest ≠ [] := hDrop ▸ hEnds.dropBlank_ne_nil
      have hExtEnd : dropBlankEnd ext ≠ [] := by
        rw [hExt.dropBlankEnd_eq]
        rintro rfl
        obtain ⟨_, hLast, _⟩ := hExt
        cases hLast
      have hWhole : dropBlankEnd (dropBlank (rest ++ ext)) = dropBlank rest ++ ext := by
        rw [dropBlank_append hSome, dropBlankEnd_append hExtEnd, hExt.dropBlankEnd_eq]
      rw [if_neg hBlank, hWhole, dropBlank_append hSome] at hLonger
      rw [hRest.dropBlankEnd_eq] at h
      simp [hSome] at h hLonger
      rw [← h.2, ← hLonger.2]

theorem clause?_eq_some_iff {clause : Clause} : clause? text = some clause ↔
    clause.field = (firstWord text).1 ∧
    Operator.ofWord? (firstWord (firstWord text).2).1 = some clause.operator ∧
    clauseValue? (firstWord (firstWord text).2).2 = some clause.value := by
  obtain ⟨field, operator, value⟩ := clause
  simp only [clause?, Option.bind_eq_bind, Option.bind_eq_some_iff, Option.some.injEq,
    Clause.mk.injEq]
  constructor
  · rintro ⟨_, hOperator, _, hValue, rfl, rfl, rfl⟩
    exact ⟨rfl, hOperator, hValue⟩
  · rintro ⟨rfl, hOperator, hValue⟩
    exact ⟨_, hOperator, _, hValue, rfl, rfl, rfl⟩

theorem firstWord_suffix (text : List Char) : (firstWord text).2 <:+ text :=
  (List.dropWhile_suffix _).trans (List.dropWhile_suffix _)

/-- More text after a clause goes to its value. -/
theorem clause?_append {clause longer : Clause} (hEnds : Ends left) (hExt : Ends ext)
    (h : clause? left = some clause) (hLonger : clause? (left ++ ext) = some longer) :
    longer = { clause with value := clause.value ++ ext } := by
  obtain ⟨hField, hOperator, hValue⟩ := clause?_eq_some_iff.mp h
  obtain ⟨hField', hOperator', hValue'⟩ := clause?_eq_some_iff.mp hLonger
  have hSecond : (firstWord (firstWord left).2).2 ≠ [] := by
    intro hNil
    rw [hNil] at hValue
    cases hValue
  have hFirst : (firstWord left).2 ≠ [] := by
    intro hNil
    rw [hNil] at hSecond
    exact hSecond rfl
  have hSuffix := (firstWord_suffix (firstWord left).2).trans (firstWord_suffix left)
  rw [firstWord_append hFirst] at hField' hOperator' hValue'
  dsimp only at hField' hOperator' hValue'
  rw [firstWord_append hSecond] at hOperator' hValue'
  dsimp only at hOperator' hValue'
  have hLongerValue := clauseValue?_append (hEnds.of_isSuffix hSuffix hSecond) hExt hValue hValue'
  have hSame := Option.some.inj (hOperator'.symm.trans hOperator)
  obtain ⟨field, operator, value⟩ := longer
  cases hSame
  cases hLongerValue
  rw [Clause.mk.injEq]
  exact ⟨hField'.trans hField.symm, rfl, rfl⟩

theorem filter_flatten_split (separates keep : Char → Bool) (text : List Char) :
    (split separates text).flatten.filter keep =
      text.filter fun c => keep c && !separates c := by
  induction text with
  | nil => rfl
  | cons c rest ih =>
    rw [split]
    split
    · rename_i hSeparates
      rw [List.flatten_cons, List.nil_append, ih]
      simp [hSeparates]
    · rename_i hKeep
      cases hParts : split separates rest with
      | nil => exact absurd hParts (split_ne_nil separates rest)
      | cons part parts =>
        rw [hParts, List.flatten_cons] at ih
        simp [hKeep, List.filter_cons, ← ih]

theorem filter_trim (text : List Char) :
    (trim text).filter (!isBlank ·) = text.filter (!isBlank ·) := by
  obtain ⟨front, hFront, hBlanks⟩ := exists_dropBlank text
  obtain ⟨back, hBack, hBlanks'⟩ := exists_dropBlankEnd (dropBlank text)
  have hFrontNil : front.filter (!isBlank ·) = [] :=
    List.filter_eq_nil_iff.mpr (by simpa using hBlanks)
  have hBackNil : back.filter (!isBlank ·) = [] :=
    List.filter_eq_nil_iff.mpr (by simpa using hBlanks')
  calc (trim text).filter (!isBlank ·)
    _ = (trim text ++ back).filter (!isBlank ·) := by
      rw [List.filter_append, hBackNil, List.append_nil]
    _ = (front ++ dropBlank text).filter (!isBlank ·) := by
      rw [trim, ← hBack, List.filter_append, hFrontNil, List.nil_append]
    _ = text.filter (!isBlank ·) := by rw [← hFront]

/-- The characters that the parts of a list have in all. -/
theorem filter_flatten_parts (value : List Char) :
    ((split (· == ',') value).map trim).flatten.filter (!isBlank ·) =
      value.filter fun c => !isBlank c && !(c == ',') := by
  rw [List.filter_flatten, List.map_map, ← filter_flatten_split, List.filter_flatten]
  congr 2
  exact funext filter_trim

theorem parts_append (hExt : Continues ext) (value : List Char) :
    (split (· == ',') (value ++ ext)).map trim ≠ (split (· == ',') value).map trim := by
  intro hSame
  have hFilter := congrArg (fun parts => parts.flatten.filter (!isBlank ·)) hSame
  rw [filter_flatten_parts, filter_flatten_parts, List.filter_append,
    List.append_right_eq_self, List.filter_eq_nil_iff] at hFilter
  obtain ⟨c, hMem, hSolid, hComma⟩ := hExt.solid
  exact hFilter c hMem (by simp [hSolid, hComma])

theorem Continues.ne_nil (h : Continues ext) : ext ≠ [] := by
  obtain ⟨c, rest, rfl, _⟩ := h.begins
  exact List.cons_ne_nil _ _

theorem ofList_append_ne (hExt : Continues ext) (value : List Char) :
    String.ofList (value ++ ext) ≠ String.ofList value := by
  intro hSame
  exact hExt.ne_nil (List.append_right_eq_self.mp (String.ofList_injective hSame))

theorem date_append {e : Expr} {value : List Char} (hExt : Continues ext) {f : Expr → Expr}
    (h : (date value).map f = .ok e) (longer : Expr) :
    (date (value ++ ext)).map f ≠ .ok longer := by
  intro hLonger
  cases hDate : date value with
  | error problem =>
    rw [hDate] at h
    cases h
  | ok moment =>
    cases hDate' : date (value ++ ext) with
    | error problem =>
      rw [hDate'] at hLonger
      cases hLonger
    | ok moment' =>
      exact (endsInLetters_of_date hDate).not_append hExt.begins (endsInLetters_of_date hDate')

/-- A longer value makes another predicate, if it makes one. -/
theorem predicate_append {column e longer : Expr} {operator : Operator} {value : List Char}
    (hExt : Continues ext) (h : predicate column operator value = .ok e)
    (hLonger : predicate column operator (value ++ ext) = .ok longer) : longer ≠ e := by
  rintro rfl
  have hText := ofList_append_ne hExt value
  cases operator with
  | before => exact date_append hExt h _ hLonger
  | after => exact date_append hExt h _ hLonger
  | inList =>
    have hSame := Except.ok.inj (hLonger.trans h.symm)
    have hStrings : ((split (· == ',') (value ++ ext)).map trim).map (Expr.string ∘ String.ofList) =
        ((split (· == ',') value).map trim).map (Expr.string ∘ String.ofList) := by
      rw [List.map_map, List.map_map]
      exact (Expr.inList.injEq .. ▸ hSame).2
    refine parts_append hExt value (List.map_injective_iff.mpr ?_ hStrings)
    intro part other hParts
    exact String.ofList_injective (by simpa [Expr.string] using hParts)
  | equal | greater | less =>
    have hSame := Except.ok.inj (hLonger.trans h.symm)
    simp only [Expr.compare.injEq, Expr.string, Expr.value.injEq, Value.string.injEq] at hSame
    exact hText hSame.2.2
  | contains | beginsWith | endsWith =>
    have hSame := Except.ok.inj (hLonger.trans h.symm)
    simp only [Expr.contains, Expr.beginsWith, Expr.endsWith, Expr.like.injEq] at hSame
    exact hText (by simpa using hSame.2)

/-- A clause that goes on over more words is read as another predicate, if at all. -/
theorem readClause_append {e longer : Expr} (hEnds : Ends left) (hExt : Continues ext)
    (h : readClause fields left = .ok e) (hLonger : readClause fields (left ++ ext) = .ok longer) :
    longer ≠ e := by
  unfold readClause at h hLonger
  split at h
  · cases h
  · rename_i clause hClause
    split at hLonger
    · cases hLonger
    · rename_i other hOther
      obtain rfl := clause?_append hEnds hExt.ends hClause hOther
      split at h
      · cases h
      · rename_i column hColumn
        rw [hColumn] at hLonger
        exact predicate_append hExt h hLonger

end RowTree.FilterText
