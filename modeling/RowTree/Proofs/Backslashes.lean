import RowTree.Proofs.Tokens
import RowTree.Statements.Query

/-!
# Constants as MySQL reads them

A constant is written with its quotes doubled, in all dialects. MySQL also takes a backslash in a
string for the beginning of an escape. So it reads a constant as it was written exactly if every
backslash stands before a wildcard of patterns, where it is kept; and it reads a query as it was
meant exactly if it so reads all of the constants.
-/

namespace RowTree.Sql

/-- What MySQL reads for a character after a backslash. Before a wildcard the backslash is kept. -/
def unescaped : Char → List Char
  | '0' => ['\x00']
  | 'b' => ['\x08']
  | 'n' => ['\n']
  | 'r' => ['\r']
  | 't' => ['\t']
  | 'Z' => ['\x1A']
  | '%' => ['\\', '%']
  | '_' => ['\\', '_']
  | c => [c]

/-- The string of MySQL up to the quote that ends it, after the one that begins it, and what comes
next. -/
def mySqlClosing (quote : Char) : List Char → Option (List Char × List Char)
  | [] => none
  | c :: rest =>
    if c = quote then
      match rest with
      | [] => some ([], [])
      | d :: more =>
        if d = quote then (mySqlClosing quote more).map fun found => (quote :: found.1, found.2)
        else some ([], d :: more)
    else if c = '\\' then
      match rest with
      | [] => none
      | d :: more => (mySqlClosing quote more).map fun found => (unescaped d ++ found.1, found.2)
    else (mySqlClosing quote rest).map fun found => (c :: found.1, found.2)

/-- Every backslash is right before a wildcard of patterns. -/
inductive BackslashesKept : List Char → Prop
  | nil : BackslashesKept []
  | other {c : Char} {text : List Char} (not_backslash : c ≠ '\\') (rest : BackslashesKept text) :
      BackslashesKept (c :: text)
  | wildcard {c : Char} {text : List Char} (is_wildcard : c = '%' ∨ c = '_')
      (rest : BackslashesKept text) : BackslashesKept ('\\' :: c :: text)

theorem length_mySqlClosing_le {quote : Char} {text inner after : List Char}
    (h : mySqlClosing quote text = some (inner, after)) : after.length ≤ text.length := by
  fun_induction mySqlClosing quote text generalizing inner after with
  | case1 | case5 => cases h
  | case2 =>
    cases h
    exact Nat.zero_le _
  | case4 =>
    cases h
    exact Nat.le_succ _
  | case3 more ih | case6 d more _ ih =>
    obtain ⟨⟨_, _⟩, hFound, hEq⟩ := Option.map_eq_some_iff.mp h
    cases hEq
    exact Nat.le_trans (ih hFound) (Nat.le_add_right _ 2)
  | case7 c rest _ _ ih =>
    obtain ⟨⟨_, _⟩, hFound, hEq⟩ := Option.map_eq_some_iff.mp h
    cases hEq
    exact Nat.le_trans (ih hFound) (Nat.le_succ _)

theorem mySqlClosing_of_ne {quote c : Char} (hQuote : c ≠ quote) (hBackslash : c ≠ '\\')
    (rest : List Char) : mySqlClosing quote (c :: rest) =
      (mySqlClosing quote rest).map fun found => (c :: found.1, found.2) := by
  rw [mySqlClosing.eq_def]
  simp [hQuote, hBackslash]

variable {text inner after next : List Char}

/-- What MySQL reads of a constant after the quote that begins it. -/
def readBack (text next : List Char) : Option (List Char × List Char) :=
  mySqlClosing '\'' (doubled '\'' text ++ '\'' :: next)

theorem readBack_nil (hNext : next.head? ≠ some '\'') : readBack [] next = some ([], next) := by
  cases next with
  | nil => rfl
  | cons d more =>
    have hOther : d ≠ '\'' := fun h => hNext (congrArg some h)
    simp [readBack, doubled, mySqlClosing, hOther]

/-- If the constant is empty there is nothing of it to read, but what comes next may be taken for a
part of it. -/
theorem readBack_nil_ne (c : Char) (hQuote : c ≠ '\'') :
    readBack [] next ≠ some (c :: inner, after) := by
  intro h
  cases next with
  | nil => cases h
  | cons d more =>
    simp only [readBack, doubled, List.flatMap_nil, List.nil_append, mySqlClosing, if_true] at h
    split at h
    · obtain ⟨_, _, hEq⟩ := Option.map_eq_some_iff.mp h
      cases hEq
      exact hQuote rfl
    · cases h

theorem readBack_cons {c : Char} (h : c ≠ '\\') (text : List Char) :
    readBack (c :: text) next = (readBack text next).map fun found => (c :: found.1, found.2) := by
  rw [readBack, doubled_cons]
  by_cases hQuote : c = '\''
  · subst hQuote
    rfl
  · rw [if_neg hQuote, List.singleton_append, List.cons_append, mySqlClosing_of_ne hQuote h]
    rfl

theorem readBack_backslash {c : Char} (hQuote : c ≠ '\'') (text : List Char) :
    readBack ('\\' :: c :: text) next =
      (readBack text next).map fun found => (unescaped c ++ found.1, found.2) := by
  rw [readBack, doubled_cons, doubled_cons, if_neg hQuote]
  rfl

theorem unescaped_append_eq {c : Char} {rest : List Char}
    (h : unescaped c ++ rest = '\\' :: inner) :
    c = '\\' ∧ rest = inner ∨ (c = '%' ∨ c = '_') ∧ c :: rest = inner := by
  unfold unescaped at h
  split at h <;> simp_all

/-- A backslash is read as one before another, of which it is the escape, and before a wildcard. -/
theorem readBack_backslash_eq (h : readBack ('\\' :: text) next = some ('\\' :: inner, after)) :
    (∃ rest, text = '\\' :: rest ∧ readBack rest next = some (inner, after)) ∨
      ∃ c rest inner', (c = '%' ∨ c = '_') ∧ text = c :: rest ∧ inner = c :: inner' ∧
        readBack rest next = some (inner', after) := by
  cases text with
  | nil =>
    obtain ⟨_, _, hEq⟩ := Option.map_eq_some_iff.mp h
    cases hEq
  | cons c rest =>
    by_cases hQuote : c = '\''
    · subst hQuote
      obtain ⟨_, _, hEq⟩ := Option.map_eq_some_iff.mp h
      cases hEq
    · rw [readBack_backslash hQuote] at h
      obtain ⟨⟨found, _⟩, hFound, hEq⟩ := Option.map_eq_some_iff.mp h
      obtain ⟨hRead, rfl⟩ := Prod.mk.inj hEq
      obtain ⟨rfl, rfl⟩ | ⟨hWild, rfl⟩ := unescaped_append_eq hRead
      · exact .inl ⟨rest, rfl, hFound⟩
      · exact .inr ⟨c, rest, found, hWild, rfl, rfl, hFound⟩

theorem replicate_append_cons (k : Nat) (c : Char) (rest : List Char) :
    List.replicate k c ++ c :: rest = c :: (List.replicate k c ++ rest) := by
  rw [← List.cons_append, ← List.replicate_succ, List.replicate_succ', List.append_assoc,
    List.singleton_append]

/-- What is read has fallen behind by some backslashes, and does not catch up. -/
theorem readBack_ne_behind (k : Nat) (text : List Char) :
    readBack text next ≠ some (List.replicate (k + 1) '\\' ++ text, after) := by
  induction hSize : text.length using Nat.strong_induction_on generalizing k text with
  | h size ih =>
    subst hSize
    intro h
    rw [List.replicate_succ, List.cons_append] at h
    cases text with
    | nil => exact readBack_nil_ne '\\' (by decide) h
    | cons c text =>
      by_cases hc : c = '\\'
      · subst hc
        rw [replicate_append_cons] at h
        obtain ⟨rest, rfl, hRest⟩ | ⟨d, _, _, hWild, _, hInner, _⟩ := readBack_backslash_eq h
        · refine ih rest.length (Nat.lt_add_right 1 (Nat.lt_succ_self _)) (k + 1) rest rfl ?_
          rwa [List.replicate_succ, List.cons_append, ← replicate_append_cons]
        · obtain ⟨rfl, _⟩ := List.cons.inj hInner
          revert hWild
          decide
      · rw [readBack_cons hc] at h
        obtain ⟨_, _, hEq⟩ := Option.map_eq_some_iff.mp h
        exact hc (List.cons.inj (Prod.mk.inj hEq).1).1

theorem kept_of_readBack (h : readBack text next = some (text, after)) : BackslashesKept text := by
  induction hSize : text.length using Nat.strong_induction_on generalizing text with
  | h size ih =>
    subst hSize
    cases text with
    | nil => exact .nil
    | cons c text =>
      by_cases hc : c = '\\'
      · subst hc
        obtain ⟨rest, rfl, hRest⟩ | ⟨d, rest, _, hWild, rfl, hInner, hRest⟩ :=
          readBack_backslash_eq h
        · exact absurd hRest (readBack_ne_behind 0 rest)
        · obtain ⟨-, rfl⟩ := List.cons.inj hInner
          exact .wildcard hWild (ih _ (Nat.lt_add_right 1 (Nat.lt_succ_self _)) hRest rfl)
      · rw [readBack_cons hc] at h
        obtain ⟨⟨_, _⟩, hFound, hEq⟩ := Option.map_eq_some_iff.mp h
        cases hEq
        exact .other hc (ih _ (Nat.lt_succ_self _) hFound rfl)

theorem BackslashesKept.readBack (h : BackslashesKept text) (hNext : next.head? ≠ some '\'') :
    readBack text next = some (text, next) := by
  induction h with
  | nil => exact readBack_nil hNext
  | other hc _ ih => rw [readBack_cons hc, ih]; rfl
  | @wildcard c text hWild _ ih =>
    rcases hWild with rfl | rfl
    · rw [readBack_backslash (by decide), ih]
      rfl
    · rw [readBack_backslash (by decide), ih]
      rfl

/-- The text is read back, whatever comes next, exactly if its backslashes are kept. -/
theorem readBack_eq_iff (hNext : next.head? ≠ some '\'') :
    readBack text next = some (text, next) ↔ BackslashesKept text :=
  ⟨kept_of_readBack, fun h => h.readBack hNext⟩

/-- What is between two quotes: names are told by their quotes alone. -/
def mySqlQuoted (quote : Char) : List Char → Option (List Char × List Char) :=
  if quote = '\x60' then closing quote else mySqlClosing quote

theorem length_mySqlQuoted_le {quote : Char}
    (h : mySqlQuoted quote text = some (inner, after)) : after.length ≤ text.length := by
  unfold mySqlQuoted at h
  split at h
  · exact length_closing_le h
  · exact length_mySqlClosing_le h

/-- Names stand between grave accents, and strings between quotes of the other two kinds. -/
def mySqlToken (quote : Char) (text : List Char) : Token :=
  if quote = '\x60' then .name text else .string text

/-- The tokens of a text as MySQL takes it apart from left to right. -/
def mySqlLex : List Char → Option (List Token)
  | [] => some []
  | c :: rest =>
    if c ∈ quotes then
      match h : mySqlQuoted c rest with
      | none => none
      | some (text, after) =>
        have := length_mySqlQuoted_le h
        (mySqlLex after).map (.cons (mySqlToken c text))
    else (mySqlLex rest).map (.cons (.bare c))
termination_by text => text.length

theorem mySqlLex_quote {quote : Char} (hQuote : quote ∈ quotes) (text : List Char) :
    mySqlLex (quote :: text) = (mySqlQuoted quote text).bind fun found =>
      (mySqlLex found.2).map (.cons (mySqlToken quote found.1)) := by
  rw [mySqlLex, if_pos hQuote]
  split
  · rename_i hNone
    simp [hNone]
  · rename_i hFound
    simp [hFound]

theorem mySqlLex_clear {text : List Char} (h : ∀ c ∈ text, c ∉ quotes) (after : List Char) :
    mySqlLex (text ++ after) = (mySqlLex after).map (text.map .bare ++ ·) := by
  induction text with
  | nil => simp
  | cons c text ih =>
    obtain ⟨hc, hText⟩ := List.forall_mem_cons.mp h
    rw [List.cons_append, mySqlLex, if_neg hc, ih hText, Option.map_map]
    rfl

theorem mySqlLex_name (hNext : next.head? ≠ some '\x60') (text : List Char) :
    mySqlLex ('\x60' :: (doubled '\x60' text ++ '\x60' :: next)) =
      (mySqlLex next).map (.cons (.name text)) := by
  rw [mySqlLex_quote (by decide), mySqlQuoted, if_pos rfl, closing_doubled hNext]
  rfl

theorem mySqlLex_constant_iff (hNext : next.head? ≠ some '\'') {tokens : List Token} :
    mySqlLex ('\'' :: (doubled '\'' text ++ '\'' :: next)) = some (.string text :: tokens) ↔
      BackslashesKept text ∧ mySqlLex next = some tokens := by
  have hLex : mySqlLex ('\'' :: (doubled '\'' text ++ '\'' :: next)) =
      (readBack text next).bind fun found => (mySqlLex found.2).map (.cons (.string found.1)) :=
    mySqlLex_quote List.mem_cons_self _
  constructor
  · intro h
    rw [hLex] at h
    obtain ⟨⟨inner, after⟩, hRead, h⟩ := Option.bind_eq_some_iff.mp h
    obtain ⟨rest, hRest, hEq⟩ := Option.map_eq_some_iff.mp h
    cases hEq
    have hKept := kept_of_readBack hRead
    obtain ⟨-, rfl⟩ := Prod.mk.inj (Option.some.inj (hRead.symm.trans (hKept.readBack hNext)))
    exact ⟨hKept, hRest⟩
  · rintro ⟨hKept, hRest⟩
    rw [hLex, hKept.readBack hNext, Option.bind_some, hRest]
    rfl

variable {ps : List Piece} {ts : List Token}

theorem map_append_eq_some_iff {found : Option (List Token)} {front tokens : List Token} :
    found.map (front ++ ·) = some (front ++ tokens) ↔ found = some tokens := by
  rw [← Option.map_some (f := (front ++ ·))]
  exact (Option.map_injective (List.append_right_injective front)).eq_iff

/-- The pieces are read as they were written exactly if the backslashes of their constants are
kept. -/
theorem Quotes.mySqlLex_iff (h : Quotes ps ts) (bound : Nat) :
    mySqlLex (chars .mySql bound ps) = some (pieceTokens .mySql bound ps) ↔
      ∀ text, .string text ∈ ts → BackslashesKept text := by
  induction h generalizing bound with
  | nil => simp [mySqlLex, pieceTokens]
  | plain hSpacer _ ih =>
    rw [chars_plain, mySqlLex_clear hSpacer.2, pieceTokens, map_append_eq_some_iff, ih]
  | param _ _ ih =>
    rw [chars_param, mySqlLex_clear (spacer_placeholder .mySql _).2, pieceTokens,
      map_append_eq_some_iff, ih]
  | @name text ps ts hBare hRest ih =>
    have hNext : (chars .mySql bound ps).head? ≠ some '\x60' :=
      hRest.head?_chars_ne hBare (by decide) bound
    have hName : mySqlLex (chars .mySql bound (.name text :: ps)) =
        (mySqlLex (chars .mySql bound ps)).map ([.name text.toList] ++ ·) :=
      chars_name .mySql bound text ps ▸ mySqlLex_name hNext text.toList
    have hTokens : pieceTokens .mySql bound (.name text :: ps) =
        [.name text.toList] ++ pieceTokens .mySql bound ps := rfl
    rw [hName, hTokens, map_append_eq_some_iff, ih]
    simp
  | @constant text ps ts hBare hRest ih =>
    have hNext : (chars .mySql bound ps).head? ≠ some '\'' :=
      hRest.head?_chars_ne hBare (by decide) bound
    rw [chars_constant, pieceTokens, mySqlLex_constant_iff hNext, ih]
    simp

open Schema

/-- The texts that the joins of an entity ask columns to be equal to. -/
def joinConstants (entity : Entity) : List String :=
  entity.steps.flatMap fun step => step.join.terms.filterMap fun term =>
    match term.source with
    | .constant text => some text
    | .column _ _ => none

variable {dialect : Dialect} {entity : Entity} {t : List Char}

theorem string_not_mem_names (names : List String) : .string t ∉ nameTokens names := by
  simp [nameTokens]

theorem string_not_mem_field {field : Field} {e : Expr} (h : field.expr? = some e) :
    .string t ∉ e.quotes dialect := by
  obtain ⟨name, _, rfl⟩ := Option.map_eq_some_iff.mp h
  exact string_not_mem_names [name]

theorem exprsQuotes_eq_map (es : List Expr) :
    exprsQuotes dialect es = es.map (·.quotes dialect) := by
  induction es with
  | nil => rfl
  | cons e rest ih => rw [exprsQuotes, ih, List.map_cons]

theorem quotes_all (es : List Expr) :
    ((Expr.all es).getD (.value (.bool true))).quotes dialect = es.flatMap (·.quotes dialect) := by
  match es with
  | [] => rfl
  | [e] => simp [Expr.all]
  | e :: f :: rest =>
    rw [Expr.all, Option.getD_some, Expr.quotes, exprsQuotes_eq_map, List.flatMap_def] <;> simp

theorem string_mem_term {step : Nat} {term : JoinTerm} :
    .string t ∈ (term.expr step).quotes dialect ↔
      ∃ text, term.source = .constant text ∧ text.toList = t := by
  obtain ⟨source, target⟩ := term
  cases source with
  | column number name =>
    simp [JoinTerm.expr, JoinTerm.sourceExpr, Expr.columnOf, Expr.quotes, nameTokens]
  | constant text =>
    simp [JoinTerm.expr, JoinTerm.sourceExpr, Expr.columnOf, Expr.quotes, nameTokens, stringTokens,
      eq_comm]

theorem string_mem_joins (dialect : Dialect) :
    (∃ step ∈ entity.steps, .string t ∈ step.toJoin.condition.quotes dialect) ↔
      ∃ text ∈ joinConstants entity, text.toList = t := by
  simp only [Step.toJoin, quotes_all, List.mem_flatMap, List.mem_map, joinConstants,
    List.mem_filterMap]
  constructor
  · rintro ⟨step, hStep, _, ⟨term, hTerm, rfl⟩, hMem⟩
    obtain ⟨text, hSource, hText⟩ := string_mem_term.mp hMem
    exact ⟨text, ⟨step, hStep, term, hTerm, by rw [hSource]⟩, hText⟩
  · rintro ⟨text, ⟨step, hStep, term, hTerm, hConstant⟩, hText⟩
    refine ⟨step, hStep, _, ⟨term, hTerm, rfl⟩, string_mem_term.mpr ⟨text, ?_, hText⟩⟩
    split at hConstant
    · rename_i hSource
      rw [hSource, Option.some.inj hConstant]
    · cases hConstant

/-- The constants of the query of an entity are those of its joins and of its filter. -/
theorem string_mem_query {filter : Filter} {page : Option UInt64} :
    .string t ∈ (Statement.query (entity.query filter page)).quotes dialect ↔
      (∃ text ∈ joinConstants entity, text.toList = t) ∨
        .string t ∈ (entity.query filter page).filter.quotes dialect := by
  have hItems : .string t ∉ ((entity.query filter page).items.getD []).flatMap fun item =>
      item.expr.quotes dialect ++ nameTokens [item.name] := by
    rw [List.mem_flatMap]
    rintro ⟨item, hItem, hMem⟩
    have hField : item ∈ entity.fields.filterMap Field.selectItem? := by
      simp only [Entity.query] at hItem
      split at hItem
      · cases hItem
      · exact hItem
    obtain ⟨field, _, hItem⟩ := List.mem_filterMap.mp hField
    obtain ⟨e, hExpr, rfl⟩ := Option.map_eq_some_iff.mp hItem
    exact List.not_mem_append (string_not_mem_field hExpr) (string_not_mem_names _) hMem
  have hOrder : .string t ∉ (entity.query filter page).order.flatMap (·.expr.quotes dialect) := by
    rw [List.mem_flatMap]
    rintro ⟨item, hItem, hMem⟩
    obtain ⟨entry, _, hItem⟩ := List.mem_filterMap.mp hItem
    obtain ⟨e, hExpr, rfl⟩ := Option.map_eq_some_iff.mp hItem
    obtain ⟨field, _, hExpr⟩ := Option.bind_eq_some_iff.mp hExpr
    exact string_not_mem_field hExpr hMem
  have hJoins : (.string t ∈ (entity.query filter page).joins.flatMap fun join =>
      nameTokens [join.table] ++ join.condition.quotes dialect) ↔
        ∃ text ∈ joinConstants entity, text.toList = t := by
    rw [← string_mem_joins dialect, List.mem_flatMap]
    simp [Entity.query, string_not_mem_names]
  rw [Statement.quotes, List.mem_append, List.mem_append, List.mem_append, List.mem_append, hJoins]
  simp only [hItems, hOrder, string_not_mem_names, false_or, or_false]

/-- The string that a text begins with, and what comes after it. -/
def mySqlString : List Char → Option (List Char × List Char)
  | '\'' :: rest => mySqlClosing '\'' rest
  | _ => none

theorem mySqlString_constant (text : String) (next : List Char) :
    mySqlString (((Piece.constant text).text .mySql).toList ++ next) =
      readBack text.toList next := by
  rw [Piece.text, toList_quoted, List.cons_append, List.append_assoc]
  rfl

/-- MySQL reads a constant of a join as it was written, up to its own closing quote and whatever
comes next, exactly if the backslashes in it are kept. It reads the query as it was meant, every
name and every constant for itself, exactly if those of all constants in the query are kept. -/
theorem join_constants_read_back_iff (entity : Entity) (filter : Filter) (page : Option UInt64) :
    (∀ text ∈ joinConstants entity, ∀ next : List Char, next.head? ≠ some '\'' →
      (mySqlString (((Piece.constant text).text .mySql).toList ++ next) = some (text.toList, next) ↔
        BackslashesKept text.toList)) ∧
    (mySqlLex ((Statement.query (entity.query filter page)).bound .mySql).toList =
        some (pieceTokens .mySql 0 ((entity.query filter page).pieces .mySql)) ↔
      (∀ text ∈ joinConstants entity, BackslashesKept text.toList) ∧
        ∀ text, .string text ∈ (entity.query filter page).filter.quotes .mySql →
          BackslashesKept text) := by
  refine ⟨fun text _ next hNext => ?_, ?_⟩
  · rw [mySqlString_constant, readBack_eq_iff hNext]
  · have hLex := (quotes_query .mySql (entity.query filter page)).mySqlLex_iff 0
    refine hLex.trans ⟨fun h => ⟨fun text hText => ?_, fun text hText => ?_⟩, ?_⟩
    · exact h _ (string_mem_query.mpr (.inl ⟨text, hText, rfl⟩))
    · exact h _ (string_mem_query.mpr (.inr hText))
    · rintro ⟨hJoins, hFilter⟩ text hText
      obtain ⟨constant, hConstant, rfl⟩ | hText := string_mem_query.mp hText
      · exact hJoins constant hConstant
      · exact hFilter text hText

/-- Files on the drives with a label. -/
def files (label : String) : Entity where
  name := "File"
  basisTable := ⟨"File", "file"⟩
  steps := [⟨"Drive", 1, true, "FileDrive", ⟨"Drive", "drive"⟩,
    [⟨.column 0 "drive_id", "id"⟩, ⟨.constant label, "label"⟩]⟩]

/-- A label with a quote and with a wildcard after a backslash. -/
theorem files_label_read_back :
    BackslashesKept "it's 9\\%".toList ∧
    mySqlString (((Piece.constant "it's 9\\%").text .mySql).toList ++ " WHERE ".toList) =
      some ("it's 9\\%".toList, " WHERE ".toList) ∧
    mySqlLex ((Statement.query ((files "it's 9\\%").query {} none)).bound .mySql).toList =
      some (pieceTokens .mySql 0 (((files "it's 9\\%").query {} none).pieces .mySql)) := by
  have hKept : BackslashesKept "it's 9\\%".toList :=
    .other (by decide) (.other (by decide) (.other (by decide) (.other (by decide)
      (.other (by decide) (.other (by decide) (.wildcard (.inl rfl) .nil))))))
  have hConstants : joinConstants (files "it's 9\\%") = ["it's 9\\%"] := rfl
  obtain ⟨hRead, hLex⟩ := join_constants_read_back_iff (files "it's 9\\%") {} none
  refine ⟨hKept, (hRead _ (hConstants ▸ List.mem_singleton_self _) _ (by decide)).mpr hKept,
    hLex.mpr ⟨?_, ?_⟩⟩
  · rw [hConstants]
    exact List.forall_mem_singleton.mpr hKept
  · rintro text ⟨⟩

/-- The quote after a label that ends in a backslash is read as a part of it, and so is what comes
next. Of another label, the backslash and the letter after it are read as a line feed. -/
theorem files_label_misread :
    joinConstants (files "C:\\") = ["C:\\"] ∧
    mySqlString (((Piece.constant "C:\\").text .mySql).toList ++ " WHERE 'x' = 'y'".toList) =
      some ("C:' WHERE ".toList, "x' = 'y'".toList) ∧
    mySqlLex ((Statement.query ((files "C:\\").query {} none)).bound .mySql).toList ≠
      some (pieceTokens .mySql 0 (((files "C:\\").query {} none).pieces .mySql)) ∧
    mySqlString ((Piece.constant "C:\\new").text .mySql).toList = some ("C:\new".toList, []) := by
  refine ⟨rfl, by rw [mySqlString_constant]; decide +kernel, fun hLex => ?_, ?_⟩
  · have hKept := ((quotes_query .mySql _).mySqlLex_iff 0).mp hLex "C:\\".toList
      (string_mem_query.mpr (.inl ⟨_, List.mem_singleton_self _, rfl⟩))
    have hRead : readBack "C:\\".toList [] = none := by decide
    cases hRead.symm.trans (hKept.readBack nofun)
  · rw [← List.append_nil ((Piece.constant "C:\\new").text .mySql).toList, mySqlString_constant]
    decide +kernel

end RowTree.Sql
