import RowTree.Proofs.Built
import RowTree.Proofs.Joined
import RowTree.Proofs.Longer

/-!
# Clauses on several lines

The blanks around a connective do not matter as long as they are not line feeds: a text with
connectives between other texts is read as with one blank on either side of each. With line feeds
it is read so exactly when all of them are at its first connective. Elsewhere they keep the
connectives before them from being found.
-/

namespace RowTree.FilterText

open Text Sql Schema

variable {text tail left x y : List Char} {j k : Junction} {fields : List Field}

theorem firstWord_solid {word : List Char} (hWord : ∀ c ∈ word, isBlank c = false)
    (hText : BeginsBlank text) (hStarts : Starts (word ++ text)) :
    firstWord (word ++ text) = (word, text) := by
  have hTake := takeWhile_solid_append hWord hText
  have hBoth := List.takeWhile_append_dropWhile (p := (!isBlank ·)) (l := word ++ text)
  rw [hTake, List.append_cancel_left_eq] at hBoth
  rw [firstWord, dropBlank_of_starts hStarts, hTake, hBoth]

theorem firstWord_blanks {blanks : List Char} (hBlanks : ∀ c ∈ blanks, isBlank c = true)
    (hText : Starts text) : firstWord (blanks ++ text) = firstWord text := by
  rw [firstWord, firstWord, dropBlank_blanks_append hBlanks hText, dropBlank_of_starts hText]

theorem clause?_similar {clause other : List Char} (h : Similar clause other) :
    clause? clause = clause? other := by
  cases h with
  | same => rfl
  | @headed j k alike clause starts =>
    have hFirst (j : Junction) : firstWord (j.heads clause) = (j.word, j.after ++ clause) :=
      firstWord_solid j.connective.solid (j.blanks_after.begin clause) (j.connective.starts _)
    have hSecond (j : Junction) : firstWord (j.after ++ clause) = firstWord clause :=
      firstWord_blanks j.blanks_after.2 starts
    rw [clause?, clause?, hFirst, hFirst]
    dsimp only
    rw [hSecond, hSecond, show j.word = k.word from alike]

theorem readClause_congr {clause other : List Char} (h : clause? clause = clause? other)
    {p : Expr} : readClause fields clause = .ok p ↔ readClause fields other = .ok p := by
  unfold readClause
  rw [h]
  cases clause? other with
  | none => exact ⟨fun h => (nomatch h), fun h => (nomatch h)⟩
  | some _ => exact Iff.rfl

theorem forall₂_readClause_congr {clauses others : List (List Char)}
    (h : List.Forall₂ Similar clauses others) {predicates : List Expr} :
    List.Forall₂ (fun clause p => readClause fields clause = .ok p) clauses predicates ↔
      List.Forall₂ (fun clause p => readClause fields clause = .ok p) others predicates := by
  induction h generalizing predicates with
  | nil => exact Iff.rfl
  | cons hFirst _ ih =>
    cases predicates with
    | nil => simp
    | cons p rest =>
      rw [List.forall₂_cons, List.forall₂_cons, readClause_congr (clause?_similar hFirst), ih]

/-- There are no line feeds, or all of them are among the blanks around the first connective. -/
def BreaksAtFirst (text : List Char) : Prop :=
  '\n' ∉ text ∨ ∃ left tail, FirstCut text left tail ∧ '\n' ∉ left ∧ '\n' ∉ tail

/-- The texts are the same up to blanks at connectives, and the other one is one line. -/
structure OnLine (text other : List Char) : Prop where
  some : trim text ≠ []
  other_some : trim other ≠ []
  line : '\n' ∉ trim other
  respaced : Respaced (trim text) (trim other)

theorem OnLine.pieces {other : List Char} (h : OnLine text other)
    (hBreaks : BreaksAtFirst (trim text)) :
    List.Forall₂ Similar (pieces (trim text)) (pieces (trim other)) := by
  have hStarts := starts_trim h.some
  have hStarts' := starts_trim h.other_some
  obtain hNone | ⟨left, tail, hFirst, hLeft, hTail⟩ := hBreaks
  · exact pieces_similar hNone h.line hStarts hStarts' (.respaced h.respaced)
  · obtain ⟨tail', hFirst', hTails⟩ := hFirst.of_respaced h.respaced
    have hTail' := hFirst'.cut.tail_line h.line
    rw [pieces_of_some (hFirst.firstCut?_eq hStarts hLeft hTail),
      pieces_of_some (hFirst'.firstCut?_eq hStarts' hLeft hTail')]
    exact .cons (.same left) (pieces_similar hTail hTail' hFirst.cut.starts_tail
      hFirst'.cut.starts_tail hTails)

/-- With all line feeds at the first connective a text is read as it is without them. -/
theorem OnLine.read_iff {text other : String} (h : OnLine text.toList other.toList)
    (fields : List Field) (hBreaks : BreaksAtFirst (trim text.toList)) {e : Option Expr} :
    read text fields = .ok e ↔ read other fields = .ok e := by
  rw [read_eq_ok_iff h.some, read_eq_ok_iff h.other_some]
  simp only [forall₂_readClause_congr (h.pieces hBreaks)]

theorem Cut.ends (hStarts : Starts text) (h : Cut text left tail) : Ends left := by
  obtain ⟨c, hLast⟩ := Option.isSome_iff_exists.mp (List.getLast?_isSome.mpr (h.ne_nil hStarts))
  exact ⟨c, hLast, h.maximal c hLast⟩

theorem IsConnective.ne_comma {word : List Char} (h : IsConnective word) : ∀ c ∈ word, c ≠ ',' := by
  rintro c hc rfl
  have hLetters : ',' ∉ lower word := by
    rcases h with h | h <;> rw [h] <;> decide
  exact hLetters (List.mem_map_of_mem hc)

/-- A clause that does not end before a gap ends after its connective has begun. -/
theorem Gap.continues {rest ext : List Char} (h : Gap rest tail) (hExt : ext <+: rest)
    (hEnds : Ends ext) : Continues ext := by
  obtain ⟨before, word, after, hBefore, hWord, -, -, rfl⟩ := h.parts
  obtain ⟨more, rfl⟩ : before <+: ext :=
    (List.prefix_or_prefix_of_prefix hExt (List.prefix_append _ _)).resolve_left
      (hEnds.not_blanks hBefore.2)
  rw [List.prefix_append_right_inj] at hExt
  have hSome : more ≠ [] := by
    rintro rfl
    exact hEnds.not_blanks hBefore.2 (by simp)
  obtain ⟨c, letters, rfl⟩ := List.exists_cons_of_ne_nil hWord.ne_nil
  obtain ⟨d, others, rfl⟩ := List.exists_cons_of_ne_nil hSome
  obtain rfl : d = c := (List.cons_prefix_cons.mp hExt).1
  exact ⟨hBefore.begin _, hEnds, d, by simp, hWord.solid d List.mem_cons_self,
    hWord.ne_comma d List.mem_cons_self⟩

/-- With a line feed after it the first connective is not found, and the first clause goes on. -/
theorem pieces_continue (hStarts : Starts text) (hEnds : Ends text) (h : FirstCut text left tail)
    (hTail : '\n' ∈ tail) :
    ∃ ext others, pieces text = (left ++ ext) :: others ∧ Continues ext := by
  obtain ⟨rest, hText, hGap⟩ := h.cut.gap
  cases hFound : firstCut? text with
  | none =>
    refine ⟨rest, [], by rw [pieces_of_none hFound, hText], hGap.continues List.prefix_rfl ?_⟩
    obtain ⟨c, others, hRest, _⟩ := hGap.starts_blank
    exact hEnds.of_isSuffix ⟨left, hText.symm⟩ (hRest ▸ List.cons_ne_nil _ _)
  | some found =>
    obtain ⟨l, t⟩ := found
    obtain ⟨hCut, _, hLine, _⟩ := lineCut_of_firstCut? hStarts hFound
    have hLength := h.first _ _ hCut
    have hPrefix : l <+: text := by
      obtain ⟨after, hSplit, _⟩ := hCut.gap
      exact ⟨after, hSplit.symm⟩
    obtain ⟨ext, rfl⟩ := List.prefix_of_prefix_length_le ⟨rest, hText.symm⟩ hPrefix hLength
    refine ⟨ext, pieces t, pieces_of_some hFound, ?_⟩
    have hExt : ext <+: rest := by
      rw [hText, List.prefix_append_right_inj] at hPrefix
      exact hPrefix
    have hSome : ext ≠ [] := by
      rintro rfl
      rw [List.append_nil] at hCut
      obtain ⟨-, rfl⟩ := h.cut.unique hCut rfl
      exact hLine hTail
    exact hGap.continues hExt ((hCut.ends hStarts).of_isSuffix (List.suffix_append _ _) hSome)

theorem Joins.head_eq {p q e : Expr} {ps qs : List Expr} (hp : p.isPredicate = true)
    (hq : q.isPredicate = true) (h : Joins (p :: ps) e) (h' : Joins (q :: qs) e) : p = q := by
  cases h with
  | bare =>
    cases h' with
    | bare => rfl
    | all => cases hp
  | all =>
    cases h' with
    | bare => cases hq
    | all => rfl

theorem OnLine.exists_firstCut {other : List Char} (h : OnLine text other)
    (hBreaks : ¬ BreaksAtFirst (trim text)) :
    ∃ left tail tail', FirstCut (trim text) left tail ∧ FirstCut (trim other) left tail' := by
  have hStarts := starts_trim h.other_some
  cases hFound : firstCut? (trim other) with
  | none =>
    rcases h.respaced.eq_or_cut with hSame | ⟨left, tail, hCut⟩
    · exact absurd (.inl (hSame ▸ h.line)) hBreaks
    · exact absurd hCut (no_cut_of_firstCut? h.line hStarts hFound left tail)
  | some found =>
    have hFirst := firstCut_of_firstCut? h.line hStarts hFound
    obtain ⟨tail, hFirst', _⟩ := hFirst.of_respaced h.respaced.symm
    exact ⟨_, _, _, hFirst', hFirst⟩

/-- With line feeds elsewhere it is not, because its first clause has a longer value. -/
theorem OnLine.read_ne {text other : String} (h : OnLine text.toList other.toList)
    (fields : List Field) (hBreaks : ¬ BreaksAtFirst (trim text.toList)) {e : Option Expr}
    (hOther : read other fields = .ok e) : read text fields ≠ .ok e := by
  intro hText
  obtain ⟨left, tail, tail', hFirst, hFirst'⟩ := h.exists_firstCut hBreaks
  have hStarts := starts_trim h.some
  have hLeft := hFirst'.cut.left_line h.line
  have hTail : '\n' ∈ tail := by
    by_contra hNone
    exact hBreaks (.inr ⟨left, tail, hFirst, hLeft, hNone⟩)
  obtain ⟨ext, others, hPieces, hExt⟩ := pieces_continue hStarts (ends_trim h.some) hFirst hTail
  have hPieces' := pieces_of_some
    (hFirst'.firstCut?_eq (starts_trim h.other_some) hLeft (hFirst'.cut.tail_line h.line))
  obtain ⟨predicates, joined, hEach, hJoins, rfl⟩ := (read_eq_ok_iff h.some).mp hText
  obtain ⟨predicates', joined', hEach', hJoins', hSame⟩ := (read_eq_ok_iff h.other_some).mp hOther
  cases hSame
  rw [hPieces] at hEach
  rw [hPieces'] at hEach'
  obtain ⟨longer, _, hLonger, _, rfl⟩ := List.forall₂_cons_left_iff.mp hEach
  obtain ⟨p, _, hClause, _, rfl⟩ := List.forall₂_cons_left_iff.mp hEach'
  have hEqual := hJoins.head_eq (isPredicate_readClause hLonger) (isPredicate_readClause hClause)
    hJoins'
  exact readClause_append (hFirst.cut.ends hStarts) hExt hClause hLonger hEqual

/-- What a text is joined from has to be one line, and a filter by itself. -/
def Reads (fields : List Field) (text : List Char) : Prop :=
  '\n' ∉ text ∧ ∃ e, read (String.ofList text) fields = .ok (some e)

theorem Reads.trim_ne_nil (h : Reads fields text) : trim text ≠ [] := by
  obtain ⟨-, e, hRead⟩ := h
  intro hNil
  rw [read_of_blank (by rwa [String.toList_ofList])] at hRead
  cases hRead

theorem Reads.clauses (h : Reads fields text) :
    ∀ clause ∈ pieces (trim text), ∃ p, readClause fields clause = .ok p := by
  have hSome := h.trim_ne_nil
  obtain ⟨-, e, hRead⟩ := h
  rw [read_eq_ok_iff (by rwa [String.toList_ofList]), String.toList_ofList] at hRead
  obtain ⟨predicates, _, hEach, -⟩ := hRead
  intro clause hClause
  obtain ⟨p, _, hp⟩ := Outcome.exists_of_mem_left hEach hClause
  exact ⟨p, hp⟩

theorem exists_read {text : String} (hSome : trim text.toList ≠ [])
    (h : ∀ clause ∈ pieces (trim text.toList), ∃ p, readClause fields clause = .ok p) :
    ∃ e, read text fields = .ok e := by
  obtain ⟨predicates, hEach⟩ := Outcome.exists_forall₂ h
  have hPredicates : predicates ≠ [] := by
    rintro rfl
    exact pieces_ne_nil _ (List.forall₂_nil_right_iff.mp hEach)
  obtain ⟨e, hJoins⟩ := exists_joins hPredicates
  exact ⟨some e, (read_eq_ok_iff hSome).mpr ⟨predicates, e, hEach, hJoins, rfl⟩⟩

section Texts

variable {first : List Char} {rest : List (Junction × List Char)}
  (hTexts : ∀ text ∈ first :: rest.map (·.2), Reads fields text)

include hTexts

theorem trim_ne_nil_of_reads : ∀ entry ∈ rest, trim entry.2 ≠ [] := fun entry hEntry =>
  (hTexts entry.2 (List.mem_cons_of_mem _ (List.mem_map_of_mem hEntry))).trim_ne_nil

theorem onLine_joined : OnLine (joined first rest) (joined first (spaced rest)) := by
  have hFirst := (hTexts first List.mem_cons_self).trim_ne_nil
  have hRest := trim_ne_nil_of_reads hTexts
  have hLine := joined_spaced_line rest fun text hText => (hTexts text hText).1
  exact {
    some := trim_joined_ne_nil hFirst rest hRest
    other_some := trim_joined_ne_nil hFirst (spaced rest) (List.forall_mem_map.mpr hRest)
    line := fun hMem => hLine (mem_of_mem_trim hMem)
    respaced := respaced_joined hFirst rest hRest }

theorem exists_read_spaced (hClear : ∀ text ∈ inner first rest, ¬ EndsInConnective (trim text)) :
    ∃ e, read (String.ofList (joined first (spaced rest))) fields = .ok e := by
  have hSame : (spaced rest).map (·.2) = rest.map (·.2) := by
    rw [spaced, List.map_map]
    rfl
  have hOnLine := onLine_joined hTexts
  have hPieces := pieces_trim_joined (spaced rest) hOnLine.line
    (hTexts first List.mem_cons_self).trim_ne_nil
    (List.forall_mem_map.mpr (trim_ne_nil_of_reads hTexts)) (by rwa [inner, hSame])
  refine exists_read (by rw [String.toList_ofList]; exact hOnLine.other_some) ?_
  rw [String.toList_ofList, hPieces, hSame]
  intro clause hClause
  obtain ⟨text, hText, hMem⟩ := List.mem_flatMap.mp hClause
  exact (hTexts text hText).clauses clause hMem

end Texts

/-- Texts between connectives are read as with single blanks around the connectives exactly when
all line feeds are at the first connective. With single blanks they are read, unless one that is
not the last ends with a connective itself. -/
theorem read_joined {first : List Char} {rest : List (Junction × List Char)}
    (hTexts : ∀ text ∈ first :: rest.map (·.2), Reads fields text) :
    (BreaksAtFirst (trim (joined first rest)) → ∀ e,
      read (String.ofList (joined first rest)) fields = .ok e ↔
        read (String.ofList (joined first (spaced rest))) fields = .ok e) ∧
    ((∃ e, read (String.ofList (joined first (spaced rest))) fields = .ok e) →
      (read (String.ofList (joined first rest)) fields =
          read (String.ofList (joined first (spaced rest))) fields ↔
        BreaksAtFirst (trim (joined first rest)))) ∧
    ((∀ text ∈ inner first rest, ¬ EndsInConnective (trim text)) →
      ∃ e, read (String.ofList (joined first (spaced rest))) fields = .ok e) := by
  have hOnLine : OnLine (String.ofList (joined first rest)).toList
      (String.ofList (joined first (spaced rest))).toList := by
    rw [String.toList_ofList, String.toList_ofList]
    exact onLine_joined hTexts
  have hIff := hOnLine.read_iff fields
  have hNe := hOnLine.read_ne fields
  rw [String.toList_ofList] at hIff hNe
  refine ⟨fun hBreaks _ => hIff hBreaks, ?_, exists_read_spaced hTexts⟩
  rintro ⟨e, hRead⟩
  rw [hRead]
  refine ⟨fun hSame => ?_, fun hBreaks => (hIff hBreaks).mpr hRead⟩
  by_contra hBreaks
  exact hNe hBreaks hRead hSame

end RowTree.FilterText

namespace RowTree.Sales

open FilterText Text Sql Schema

/-- AND on a line of its own. -/
def lineAnd : Junction where
  before := "\r\n".toList
  word := "AND".toList
  after := "\n\t".toList
  blanks_before := ⟨List.cons_ne_nil _ _, List.all_eq_true.mp (by decide)⟩
  connective := .inl rfl
  blanks_after := ⟨List.cons_ne_nil _ _, List.all_eq_true.mp (by decide)⟩

/-- An OR that begins a line. -/
def lineOr : Junction where
  before := "\n".toList
  word := "or".toList
  after := " ".toList
  blanks_before := ⟨List.cons_ne_nil _ _, List.all_eq_true.mp (by decide)⟩
  connective := .inr rfl
  blanks_after := ⟨List.cons_ne_nil _ _, List.all_eq_true.mp (by decide)⟩

def harbour : List Char := "SaleID > 7".toList

def harbourLines (j k : Junction) : List (Junction × List Char) :=
  [(j, "Town contains Bandon".toList), (k, "Town beginswith Port".toList)]

theorem reads_of_clause {text : List Char} {p : Expr} (hLine : '\n' ∉ text) (hSome : trim text ≠ [])
    (hOnly : firstCut? (trim text) = none) (h : readClause sale.fields (trim text) = .ok p) :
    Reads sale.fields text := by
  refine ⟨hLine, p, (read_eq_ok_iff (by rwa [String.toList_ofList])).mpr ⟨[p], p, ?_, .bare, rfl⟩⟩
  rw [String.toList_ofList, pieces_of_none hOnly]
  exact .cons h .nil

theorem reads_harbourLines (j k : Junction) :
    ∀ text ∈ harbour :: (harbourLines j k).map (·.2), Reads sale.fields text := by
  simp only [harbourLines, List.map_cons, List.map_nil, List.forall_mem_cons]
  exact ⟨reads_of_clause (by decide) (by decide) (by decide) rfl,
    reads_of_clause (by decide) (by decide) (by decide) rfl,
    reads_of_clause (by decide) (by decide) (by decide) rfl, fun _ h => nomatch h⟩

/-- With single blanks the texts are read one by one. -/
theorem read_harbourLines_spaced :
    FilterText.read (String.ofList (joined harbour (spaced (harbourLines lineAnd lineOr))))
      sale.fields = .ok (some (.conj harbourPredicates)) := by
  have hFirst : firstCut? (trim (joined harbour (spaced (harbourLines lineAnd lineOr)))) =
      some (harbour, "Town contains Bandon or Town beginswith Port".toList) := by decide
  have hSecond : firstCut? "Town contains Bandon or Town beginswith Port".toList =
      some ("Town contains Bandon".toList, "Town beginswith Port".toList) := by decide
  have hLast : firstCut? "Town beginswith Port".toList = none := by decide
  rw [read_eq_ok_iff (by rw [String.toList_ofList]; decide), String.toList_ofList,
    pieces_of_some hFirst, pieces_of_some hSecond, pieces_of_none hLast]
  exact ⟨_, _, .cons rfl (.cons rfl (.cons rfl .nil)), .all, rfl⟩

/-- With the first connective on a line of its own. -/
theorem harbours_read_alike :
    (∀ text ∈ harbour :: (harbourLines lineAnd lineOr.spaced).map (·.2), Reads sale.fields text) ∧
    FilterText.read (String.ofList (joined harbour (harbourLines lineAnd lineOr.spaced)))
      sale.fields = .ok (some (.conj harbourPredicates)) := by
  have hTexts := reads_harbourLines lineAnd lineOr.spaced
  have hSpaced : FirstCut (trim (joined harbour (spaced (harbourLines lineAnd lineOr.spaced))))
      harbour "Town contains Bandon or Town beginswith Port".toList :=
    firstCut_of_firstCut? (by decide) ⟨'S', _, rfl, by decide⟩ (by decide)
  obtain ⟨tail, hFirst, -⟩ := hSpaced.of_respaced
    (respaced_joined (by decide) (harbourLines lineAnd lineOr.spaced) (by decide)).symm
  have hFound : firstCut? (trim (joined harbour (harbourLines lineAnd lineOr.spaced))) =
      some (harbour, "Town contains Bandon or Town beginswith Port".toList) := by decide
  have hCut := (lineCut_of_firstCut? ⟨'S', _, rfl, by decide⟩ hFound).1
  obtain ⟨-, rfl⟩ := hFirst.cut.unique hCut rfl
  have hBreaks : BreaksAtFirst (trim (joined harbour (harbourLines lineAnd lineOr.spaced))) :=
    .inr ⟨_, _, hFirst, by decide, by decide⟩
  exact ⟨hTexts, ((read_joined hTexts).1 hBreaks _).mpr read_harbourLines_spaced⟩

/-- With a line feed at the second connective the first one is part of a value. -/
theorem line_feed_misread :
    (∀ text ∈ harbour :: (harbourLines lineAnd.spaced lineOr).map (·.2), Reads sale.fields text) ∧
    FilterText.read (String.ofList (joined harbour (harbourLines lineAnd.spaced lineOr)))
        sale.fields =
      .ok (some (.conj [.compare .greater (.columnOf 0 "id") (.string "7 AND Town contains Bandon"),
        (Expr.columnOf 2 "name").beginsWith "Port"])) ∧
    FilterText.read (String.ofList (joined harbour (harbourLines lineAnd.spaced lineOr)))
        sale.fields ≠
      FilterText.read (String.ofList (joined harbour (spaced (harbourLines lineAnd.spaced lineOr))))
        sale.fields := by
  have hFirst : firstCut? (trim (joined harbour (harbourLines lineAnd.spaced lineOr))) =
      some ("SaleID > 7 AND Town contains Bandon".toList, "Town beginswith Port".toList) := by
    decide
  have hLast : firstCut? "Town beginswith Port".toList = none := by decide
  have hRead : FilterText.read (String.ofList (joined harbour (harbourLines lineAnd.spaced lineOr)))
        sale.fields =
      .ok (some (.conj [.compare .greater (.columnOf 0 "id") (.string "7 AND Town contains Bandon"),
        (Expr.columnOf 2 "name").beginsWith "Port"])) := by
    rw [read_eq_ok_iff (by rw [String.toList_ofList]; decide), String.toList_ofList,
      pieces_of_some hFirst, pieces_of_none hLast]
    exact ⟨_, _, .cons rfl (.cons rfl .nil), .all, rfl⟩
  refine ⟨reads_harbourLines _ _, hRead, ?_⟩
  rw [hRead, show spaced (harbourLines lineAnd.spaced lineOr) =
    spaced (harbourLines lineAnd lineOr) from rfl, read_harbourLines_spaced]
  simp [harbourPredicates]

end RowTree.Sales
