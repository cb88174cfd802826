import RowTree.Proofs.Columns
import RowTree.Proofs.LineBreaks

/-!
# Words of operators

An operator may be written in any letter case, and a clause that is read says what its operator
stands for, but for two exceptions. A word with a long s is let in, because that folds to the s of
`contains`, `beginswith` and `endswith`, and it is then read as `>`. And where nothing but blanks
comes after the operator, the value is a blank and not the empty text.
-/

namespace RowTree.FilterText

open Text Sql Schema

variable {text name word rest value x : List Char} {column p : Expr} {op : Operator}

/-- The predicate that an operator, given by its word in lower case, stands for. -/
inductive Stands (column : Expr) (value : List Char) : String → Expr → Prop
  | equal : Stands column value "=" (.compare .equal column (.string (String.ofList value)))
  | inList {parts : List (List Char)} (some : parts ≠ []) (apart : ∀ part ∈ parts, ',' ∉ part)
      (whole : [','].intercalate parts = value) :
      Stands column value "in"
        (.inList column (parts.map fun part => .string (String.ofList (trim part))))
  | contains : Stands column value "contains" (.like column ("%" ++ String.ofList value ++ "%"))
  | beginsWith : Stands column value "beginswith" (.like column (String.ofList value ++ "%"))
  | endsWith : Stands column value "endswith" (.like column ("%" ++ String.ofList value))
  | greater : Stands column value ">" (.compare .greater column (.string (String.ofList value)))
  | less : Stands column value "<" (.compare .less column (.string (String.ofList value)))
  | before {moment : Expr} (reads : date value = .ok moment) :
      Stands column value "before" (.compare .less column moment)
  | after {moment : Expr} (reads : date value = .ok moment) :
      Stands column value "after" (.compare .greater column moment)

theorem split_eq_splitOn (c : Char) (text : List Char) : split (· == c) text = text.splitOn c := by
  induction text with
  | nil => rfl
  | cons d rest ih =>
    rw [split, List.splitOn_cons_eq_if_modifyHead, ih]
    cases hParts : rest.splitOn c with
    | nil => exact absurd hParts (List.splitOn_ne_nil c rest)
    | cons part parts => rfl

theorem not_mem_split (c : Char) (text : List Char) : ∀ part ∈ split (· == c) text, c ∉ part := by
  induction text with
  | nil => simp [split]
  | cons d rest ih =>
    rw [split]
    split
    · exact List.forall_mem_cons.mpr ⟨List.not_mem_nil, ih⟩
    · rename_i hApart
      cases hParts : split (· == c) rest with
      | nil => exact absurd hParts (split_ne_nil _ rest)
      | cons part parts =>
        rw [hParts] at ih
        obtain ⟨hFirst, hRest⟩ := List.forall_mem_cons.mp ih
        refine List.forall_mem_cons.mpr ⟨?_, hRest⟩
        rintro (_ | ⟨_, hMem⟩)
        · exact hApart (beq_self_eq_true c)
        · exact hFirst hMem

theorem map_date_eq_ok {f : Expr → Expr} (h : (date value).map f = .ok p) :
    ∃ moment, date value = .ok moment ∧ p = f moment := by
  cases hDate : date value with
  | error problem =>
    rw [hDate] at h
    cases h
  | ok moment =>
    rw [hDate] at h
    cases h
    exact ⟨moment, rfl, rfl⟩

theorem stands_of_predicate (h : predicate column op value = .ok p) :
    Stands column value op.word p := by
  cases op with
  | inList =>
    cases h
    refine .inList (split_ne_nil _ value) (not_mem_split ',' value) ?_
    rw [split_eq_splitOn, List.intercalate_splitOn]
  | before =>
    obtain ⟨moment, hDate, rfl⟩ := map_date_eq_ok h
    exact .before hDate
  | after =>
    obtain ⟨moment, hDate, rfl⟩ := map_date_eq_ok h
    exact .after hDate
  | equal =>
    cases h
    exact .equal
  | contains =>
    cases h
    exact .contains
  | beginsWith =>
    cases h
    exact .beginsWith
  | endsWith =>
    cases h
    exact .endsWith
  | greater =>
    cases h
    exact .greater
  | less =>
    cases h
    exact .less

theorem Stands.predicate {w : String} (h : Stands column value w p) :
    ∃ op : Operator, op.word = w ∧ predicate column op value = .ok p := by
  cases h with
  | equal => exact ⟨.equal, rfl, rfl⟩
  | @inList parts some apart whole =>
    refine ⟨.inList, rfl, ?_⟩
    rw [FilterText.predicate, split_eq_splitOn, ← whole, List.splitOn_intercalate ',' apart some]
  | contains => exact ⟨.contains, rfl, rfl⟩
  | beginsWith => exact ⟨.beginsWith, rfl, rfl⟩
  | endsWith => exact ⟨.endsWith, rfl, rfl⟩
  | greater => exact ⟨.greater, rfl, rfl⟩
  | less => exact ⟨.less, rfl, rfl⟩
  | before reads => exact ⟨.before, rfl, congrArg (Except.map _) reads⟩
  | after reads => exact ⟨.after, rfl, congrArg (Except.map _) reads⟩

theorem Operator.find?_word (op : Operator) : Operator.all.find? (·.word == op.word) = some op := by
  cases op <;> decide

theorem Operator.word_injective {op other : Operator} (h : op.word = other.word) : op = other := by
  have hFound := op.find?_word
  rw [h, other.find?_word] at hFound
  exact (Option.some.inj hFound).symm

theorem predicate_eq_ok_iff :
    predicate column op value = .ok p ↔ Stands column value op.word p := by
  refine ⟨stands_of_predicate, fun h => ?_⟩
  obtain ⟨other, hWord, hPredicate⟩ := h.predicate
  obtain rfl := Operator.word_injective hWord
  exact hPredicate

/-- A comparison of a column with a text to be greater is made by `>` alone: dates are no texts. -/
theorem predicate_greater_iff (h : predicate column op value = .ok p) :
    (∃ s, p = .compare .greater column (.string s)) ↔ op = .greater := by
  constructor
  · rintro ⟨s, rfl⟩
    cases op with
    | greater => rfl
    | after =>
      obtain ⟨moment, hDate, hEq⟩ := map_date_eq_ok h
      obtain rfl | ⟨amount, unit, rfl⟩ := date_eq_ok hDate <;> simp [Expr.string] at hEq
    | before =>
      obtain ⟨moment, hDate, hEq⟩ := map_date_eq_ok h
      cases hEq
    | equal | inList | contains | beginsWith | endsWith | less => cases h
  · rintro rfl
    cases h
    exact ⟨_, rfl⟩

def longS : Char := '\u017F'

theorem Operator.not_mem_word (op : Operator) :
    'k' ∉ op.word.toList ∧ longS ∉ op.word.toList := by
  cases op <;> decide

theorem lower_of_fold (hFold : fold word = op.word.toList) (hLong : longS ∉ word) :
    lower word = op.word.toList := by
  rw [← hFold]
  refine List.map_congr_left fun c hc => ?_
  have hKelvin : c ≠ '\u212A' := by
    rintro rfl
    exact op.not_mem_word.1 (hFold ▸ List.mem_map_of_mem hc)
  have hNotLong : c ≠ '\u017F' := by
    rintro rfl
    exact hLong hc
  rw [foldLetter, if_neg hNotLong, if_neg hKelvin]

theorem lower_ne_of_longS (hLong : longS ∈ word) : lower word ≠ op.word.toList := by
  intro hLower
  have hMem : longS.toLower ∈ lower word := List.mem_map_of_mem hLong
  exact op.not_mem_word.2 (hLower ▸ hMem)

theorem Operator.mem_all (op : Operator) : op ∈ Operator.all := by
  cases op <;> decide

/-- The word is that of an operator in some letter case, or it has a long s and counts as `>`. -/
inductive Taken (word : List Char) : Operator → Prop
  | plain {op : Operator} (all_plain : longS ∉ word) (word_eq : lower word = op.word.toList) :
      Taken word op
  | folded (mem : longS ∈ word) : Taken word .greater

theorem taken_of_ofWord? (h : Operator.ofWord? word = some op) :
    (∃ other : Operator, fold word = other.word.toList) ∧ Taken word op := by
  rw [Operator.ofWord?, Option.ite_none_right_eq_some] at h
  obtain ⟨hAny, hFound⟩ := h
  obtain ⟨other, _, hFold⟩ := List.any_eq_true.mp hAny
  have hFold : fold word = other.word.toList := (beq_iff_eq.mp hFold).symm
  refine ⟨⟨other, hFold⟩, ?_⟩
  by_cases hLong : longS ∈ word
  · have hNone : Operator.all.find? (fun op => op.word.toList == lower word) = none :=
      List.find?_eq_none.mpr fun op _ hEq => lower_ne_of_longS hLong (beq_iff_eq.mp hEq).symm
    rw [hNone] at hFound
    obtain rfl : Operator.greater = op := Option.some.inj hFound
    exact .folded hLong
  · have hLower := lower_of_fold hFold hLong
    cases hFind : Operator.all.find? (fun op => op.word.toList == lower word) with
    | none =>
      have hNone := List.find?_eq_none.mp hFind other other.mem_all
      exact absurd (beq_iff_eq.mpr hLower.symm) hNone
    | some found =>
      rw [hFind] at hFound
      obtain rfl : found = op := Option.some.inj hFound
      have hEq := List.find?_some hFind
      exact .plain hLong (beq_iff_eq.mp hEq).symm

theorem Taken.word_eq_iff (h : Taken word op) (other : Operator) :
    lower word = other.word.toList ↔ longS ∉ word ∧ other = op := by
  constructor
  · intro hLower
    cases h with
    | plain all_plain word_eq =>
      have hWords : other.word = op.word := String.toList_injective (hLower.symm.trans word_eq)
      exact ⟨all_plain, Operator.word_injective hWords⟩
    | folded mem => exact absurd hLower (lower_ne_of_longS mem)
  · rintro ⟨hLong, rfl⟩
    cases h with
    | plain _ word_eq => exact word_eq
    | folded mem => exact absurd mem hLong

theorem Taken.greater_iff (h : Taken word op) :
    op = .greater ↔ lower word = ">".toList ∨ longS ∈ word := by
  constructor
  · rintro rfl
    cases h with
    | plain _ word_eq => exact .inl word_eq
    | folded mem => exact .inr mem
  · rintro (hLower | hLong)
    · exact ((h.word_eq_iff .greater).mp hLower).2.symm
    · cases h with
      | plain all_plain _ => exact absurd hLong all_plain
      | folded _ => rfl

theorem Starts.trim_ne_nil (h : Starts text) : trim text ≠ [] := by
  obtain ⟨back, hBack, hBlanks⟩ := exists_dropBlankEnd text
  obtain ⟨c, others, hText, hSolid⟩ := h
  rw [trim, dropBlank_of_starts ⟨c, others, hText, hSolid⟩]
  intro hNil
  rw [hNil, List.nil_append] at hBack
  have hBlank := hBlanks c (by rw [← hBack, hText]; exact List.mem_cons_self)
  rw [hSolid] at hBlank
  cases hBlank

/-- What comes after an operator without the blanks at its ends, or one blank where it is nothing
else. -/
def ValueOf (rest value : List Char) : Prop :=
  trim rest ≠ [] ∧ value = trim rest ∨ trim rest = [] ∧ ∃ c, isBlank c = true ∧ value = [c]

theorem valueOf_clauseValue? (h : clauseValue? rest = some value) :
    BeginsBlank rest ∧ ValueOf rest value := by
  cases rest with
  | nil => cases h
  | cons c others =>
    rw [clauseValue?] at h
    split at h
    · cases h
    · rename_i hBlank
      have hBlank : isBlank c = true := by simpa using hBlank
      have hDrop : dropBlank (c :: others) = dropBlank others := List.dropWhile_cons_of_pos hBlank
      have hTrim : trim (c :: others) = dropBlankEnd (dropBlank others) := by rw [trim, hDrop]
      refine ⟨⟨c, others, rfl, hBlank⟩, ?_⟩
      split at h
      · rename_i hEmpty
        have hNil : dropBlank others = [] := List.isEmpty_iff.mp hEmpty
        obtain ⟨d, hFind, rfl⟩ := Option.map_eq_some_iff.mp h
        have hMem : d ∈ others := List.mem_reverse.mp (List.mem_of_find?_eq_some hFind)
        refine .inr ⟨?_, d, List.dropWhile_eq_nil_iff.mp hNil d hMem, rfl⟩
        rw [hTrim, hNil]
        rfl
      · rename_i hSome
        have hStarts : Starts (dropBlank others) :=
          starts_dropBlank fun hNil => hSome (List.isEmpty_iff.mpr hNil)
        dsimp only at h
        split at h
        · cases h
        · refine .inl ⟨?_, hTrim ▸ (Option.some.inj h).symm⟩
          rw [hTrim, ← dropBlank_of_starts hStarts]
          exact hStarts.trim_ne_nil

theorem date_blank {c : Char} (hBlank : isBlank c = true) : date [c] ≠ .ok p := by
  intro hDate
  obtain ⟨hSome, hLetters⟩ := endsInLetters_of_date hDate
  have hNone : fromLetter [c] = [] :=
    List.dropWhile_cons_of_pos (by simp [not_isAlpha_of_isBlank hBlank])
  exact hSome hNone

/-- A blank says the same as the empty text in a list, where it belongs to no part. -/
theorem predicate_blank_iff {c : Char} (hBlank : isBlank c = true)
    (h : predicate column op [c] = .ok p) : predicate column op [] = .ok p ↔ op = .inList := by
  constructor
  · intro hEmpty
    cases op with
    | inList => rfl
    | before | after =>
      obtain ⟨moment, hDate, _⟩ := map_date_eq_ok h
      exact absurd hDate (date_blank hBlank)
    | equal | contains | beginsWith | endsWith | greater | less =>
      cases h
      simp [predicate, Expr.string, Expr.contains, Expr.beginsWith, Expr.endsWith,
        String.ext_iff] at hEmpty
  · rintro rfl
    have hComma : (c == ',') = false := by
      rw [beq_eq_false_iff_ne]
      rintro rfl
      exact absurd hBlank (by decide)
    rw [← h]
    simp [predicate, split, hComma, trim, dropBlankEnd, dropBlank, hBlank]

theorem stands_trim_iff (hValue : ValueOf rest value) (h : predicate column op value = .ok p) :
    Stands column (trim rest) op.word p ↔ trim rest ≠ [] ∨ op = .inList := by
  rw [← predicate_eq_ok_iff]
  obtain ⟨hSome, rfl⟩ | ⟨hNil, c, hBlank, rfl⟩ := hValue
  · exact iff_of_true h (.inl hSome)
  · rw [hNil, predicate_blank_iff hBlank h]
    simp

theorem Taken.stands_iff (hWord : Taken word op) (hValue : ValueOf rest value)
    (h : predicate column op value = .ok p) :
    (∃ w : String, lower word = w.toList ∧ Stands column (trim rest) w p) ↔
      longS ∉ word ∧ (trim rest ≠ [] ∨ lower word = "in".toList) := by
  constructor
  · rintro ⟨w, hLower, hStands⟩
    obtain ⟨other, rfl, _⟩ := hStands.predicate
    obtain ⟨hLong, rfl⟩ := (hWord.word_eq_iff other).mp hLower
    refine ⟨hLong, ((stands_trim_iff hValue h).mp hStands).imp_right ?_⟩
    rintro rfl
    exact hLower
  · rintro ⟨hLong, hSome⟩
    have hLower : lower word = op.word.toList := (hWord.word_eq_iff op).mpr ⟨hLong, rfl⟩
    refine ⟨op.word, hLower, (stands_trim_iff hValue h).mpr (hSome.imp_right fun hIn => ?_)⟩
    exact ((hWord.word_eq_iff .inList).mp hIn).2.symm

/-- The first two words of a text, and the rest of it after them. -/
structure Words (text name word rest : List Char) : Prop where
  text_eq : ∃ front between, (∀ c ∈ front, isBlank c = true) ∧ Blanks between ∧
    text = front ++ (name ++ (between ++ (word ++ rest)))
  name_solid : name ≠ [] ∧ ∀ c ∈ name, isBlank c = false
  word_solid : word ≠ [] ∧ ∀ c ∈ word, isBlank c = false
  rest_begins : BeginsBlank rest

theorem solid_of_any (hSome : text ≠ []) (h : text.any isBlank = false) :
    text ≠ [] ∧ ∀ c ∈ text, isBlank c = false :=
  ⟨hSome, fun c hc => Bool.eq_false_iff.mpr (List.any_eq_false.mp h c hc)⟩

theorem starts_append (h : x ≠ [] ∧ ∀ c ∈ x, isBlank c = false) (rest : List Char) :
    Starts (x ++ rest) := by
  obtain ⟨c, others, rfl⟩ := List.exists_cons_of_ne_nil h.1
  exact ⟨c, others ++ rest, rfl, h.2 c List.mem_cons_self⟩

theorem Words.unique {name' word' rest' : List Char} (h : Words text name word rest)
    (h' : Words text name' word' rest') : name = name' ∧ word = word' ∧ rest = rest' := by
  obtain ⟨front, between, hFront, hBetween, hText⟩ := h.text_eq
  obtain ⟨front', between', hFront', hBetween', hText'⟩ := h'.text_eq
  obtain ⟨-, hNames⟩ := blanks_append_inj hFront hFront'
    (starts_append h.name_solid _) (starts_append h'.name_solid _) (hText.symm.trans hText')
  obtain ⟨hName, hBlanks⟩ := solid_append_inj h.name_solid.2 h'.name_solid.2 (hBetween.begin _)
    (hBetween'.begin _) hNames
  obtain ⟨-, hWords⟩ := blanks_append_inj hBetween.2 hBetween'.2
    (starts_append h.word_solid _) (starts_append h'.word_solid _) hBlanks
  exact ⟨hName, solid_append_inj h.word_solid.2 h'.word_solid.2 h.rest_begins h'.rest_begins hWords⟩

theorem firstWord_append_eq (text : List Char) :
    (firstWord text).1 ++ (firstWord text).2 = dropBlank text :=
  List.takeWhile_append_dropWhile

theorem solid_firstWord {c : Char} (hc : c ∈ (firstWord text).1) : isBlank c = false := by
  simpa using List.mem_takeWhile_imp hc

theorem firstWord_begins (text : List Char) (hSome : (firstWord text).2 ≠ []) :
    BeginsBlank (firstWord text).2 := by
  have hHead := List.head_dropWhile_not (p := (!isBlank ·)) (l := dropBlank text) hSome
  rw [Bool.not_eq_false'] at hHead
  exact ⟨_, _, (List.cons_head_tail hSome).symm, hHead⟩

theorem BeginsBlank.not_starts (h : BeginsBlank text) : ¬ Starts text := by
  rintro ⟨c, others, rfl, hSolid⟩
  obtain ⟨_, _, hEq, hBlank⟩ := h
  cases hEq
  rw [hSolid] at hBlank
  cases hBlank

theorem words_of_firstWord (hWord : (firstWord (firstWord text).2).1 ≠ [])
    (hRest : BeginsBlank (firstWord (firstWord text).2).2) :
    Words text (firstWord text).1 (firstWord (firstWord text).2).1
      (firstWord (firstWord text).2).2 := by
  have hSecond : (firstWord text).2 ≠ [] := fun hNil => hWord (by rw [hNil]; rfl)
  have hBegins := firstWord_begins text hSecond
  obtain ⟨front, hText, hFront⟩ := exists_dropBlank text
  obtain ⟨between, hAfter, hBetween⟩ := exists_dropBlank (firstWord text).2
  rw [← firstWord_append_eq] at hText hAfter
  refine ⟨⟨front, between, hFront, ⟨?_, hBetween⟩, ?_⟩, ⟨?_, fun _ => solid_firstWord⟩,
    ⟨hWord, fun _ => solid_firstWord⟩, hRest⟩
  · rintro rfl
    exact hBegins.not_starts (hAfter ▸ starts_append ⟨hWord, fun _ => solid_firstWord⟩ _)
  · rw [← hAfter, ← hText]
  · intro hNil
    have hDrop := firstWord_append_eq text
    rw [hNil, List.nil_append] at hDrop
    exact (hDrop ▸ hBegins).not_starts (starts_dropBlank (hDrop ▸ hSecond))

/-- A clause that is read says what its operator, in any letter case, stands for over the field of
the first word and the rest of the text without the blanks at its ends, exactly if the operator has
no long s, and is followed by something or is `in`. The clause asks for a greater text exactly if
the operator is `>` or has a long s. -/
theorem operator_means_iff {fields : List Field} (h : readClause fields text = .ok p) :
    ∃ name word rest field column, Words text name word rest ∧
      findField? fields (String.ofList name) = some field ∧ field.expr? = some column ∧
      (∃ op : Operator, fold word = op.word.toList) ∧
      ((∃ w : String, lower word = w.toList ∧ Stands column (trim rest) w p) ↔
        longS ∉ word ∧ (trim rest ≠ [] ∨ lower word = "in".toList)) ∧
      ((∃ s, p = .compare .greater column (.string s)) ↔
        lower word = ">".toList ∨ longS ∈ word) := by
  unfold readClause at h
  split at h
  · cases h
  · rename_i clause hClause
    obtain ⟨hField, hOperator, hValue⟩ := clause?_eq_some_iff.mp hClause
    split at h
    · cases h
    · rename_i column hColumn
      obtain ⟨field, hFound, hExpr⟩ := Option.bind_eq_some_iff.mp hColumn
      obtain ⟨⟨other, hFold⟩, hTaken⟩ := taken_of_ofWord? hOperator
      obtain ⟨hBegins, hValue⟩ := valueOf_clauseValue? hValue
      have hWord : (firstWord (firstWord text).2).1 ≠ [] := by
        intro hNil
        rw [hNil] at hFold
        cases other <;> cases hFold
      refine ⟨_, _, _, field, column, words_of_firstWord hWord hBegins, hField ▸ hFound, hExpr,
        ⟨other, hFold⟩, hTaken.stands_iff hValue h, ?_⟩
      rw [predicate_greater_iff h, hTaken.greater_iff]

end RowTree.FilterText

namespace RowTree.Sales

open FilterText Text Sql Schema

def portClause : List Char := "Town  EndsWith Port ".toList

theorem words_portClause :
    Words portClause "Town".toList "EndsWith".toList " Port ".toList where
  text_eq := ⟨[], "  ".toList, by simp, ⟨by decide, List.all_eq_true.mp (by decide)⟩, rfl⟩
  name_solid := solid_of_any (by decide) (by decide)
  word_solid := solid_of_any (by decide) (by decide)
  rest_begins := ⟨' ', "Port ".toList, rfl, by decide⟩

/-- The word of the operator is in mixed letter case, and there is a blank at the end. -/
theorem endsWith_port : ∃ p, readClause sale.fields portClause = .ok p ∧
    Stands (.columnOf 2 "name") "Port".toList "endswith" p ∧
    ¬ ∃ s, p = .compare .greater (.columnOf 2 "name") (.string s) := by
  have hRead : readClause sale.fields portClause =
      .ok ((Expr.columnOf 2 "name").endsWith "Port") := rfl
  obtain ⟨name, word, rest, field, column, hWords, hFound, hExpr, -, hStands, hGreater⟩ :=
    operator_means_iff hRead
  obtain ⟨rfl, rfl, rfl⟩ := hWords.unique words_portClause
  have hColumn : (findField? sale.fields (String.ofList "Town".toList)).bind Field.expr? =
      some (.columnOf 2 "name") := rfl
  rw [hFound] at hColumn
  obtain rfl : column = .columnOf 2 "name" := Option.some.inj (hExpr.symm.trans hColumn)
  obtain ⟨w, hLower, hStands⟩ := hStands.mpr ⟨by decide, .inl (by decide)⟩
  obtain rfl : w = "endswith" := String.toList_injective (hLower.symm.trans (by decide))
  exact ⟨_, hRead, hStands, fun h => absurd (hGreater.mp h) (by decide)⟩

def longSClause : List Char := "Town contain\u017F Port".toList

/-- The long s folds to the s of an operator, and the word is the one of none. -/
theorem long_s_misread :
    Words longSClause "Town".toList "contain\u017F".toList " Port".toList ∧
    (∀ op : Operator, lower "contain\u017F".toList ≠ op.word.toList) ∧
    readClause sale.fields longSClause =
      .ok (.compare .greater (.columnOf 2 "name") (.string "Port")) ∧
    FilterText.read (String.ofList longSClause) sale.fields =
      .ok (some (.compare .greater (.columnOf 2 "name") (.string "Port"))) := by
  have hRead : readClause sale.fields longSClause =
      .ok (.compare .greater (.columnOf 2 "name") (.string "Port")) := rfl
  have hWords : Words longSClause "Town".toList "contain\u017F".toList " Port".toList := {
    text_eq := ⟨[], " ".toList, by simp, ⟨by decide, List.all_eq_true.mp (by decide)⟩, rfl⟩
    name_solid := solid_of_any (by decide) (by decide)
    word_solid := solid_of_any (by decide) (by decide)
    rest_begins := ⟨' ', "Port".toList, rfl, by decide⟩ }
  refine ⟨hWords, fun op => lower_ne_of_longS (by decide), hRead, ?_⟩
  have hNone : firstCut? (trim longSClause) = none := by decide
  rw [read_eq_ok_iff (by rw [String.toList_ofList]; decide), String.toList_ofList,
    pieces_of_none hNone]
  exact ⟨_, _, .cons rfl .nil, .bare, rfl⟩

end RowTree.Sales
