import RowTree.Proofs.Readings
import RowTree.Proofs.SameForm

/-!
# Quotes of a text

A text is taken apart at its quotes, from left to right: a name or a string runs to the first
quote that is not doubled. What is between two quotes of a bound text is one name or one constant,
if its plain texts have no quotes and no two quoted pieces are neighbours.
-/

namespace RowTree.Sql

/-- A part of a text: a character outside of all quotes, or all that is between two of them. -/
inductive Token where
  | bare (c : Char)
  | name (text : List Char)
  | string (text : List Char)
  deriving DecidableEq

namespace Token

def isQuoted : Token → Bool
  | bare _ => false
  | name _ | string _ => true

/-- The token without what is quoted. -/
def hollow : Token → Token
  | bare c => .bare c
  | name _ => .name []
  | string _ => .string []

end Token

/-- The text up to the first quote that is not doubled, in which every doubled quote is one quote,
and what comes after it. -/
def closing (quote : Char) : List Char → Option (List Char × List Char)
  | [] => none
  | c :: rest =>
    if c = quote then
      match rest with
      | [] => some ([], [])
      | d :: more =>
        if d = quote then (closing quote more).map fun found => (quote :: found.1, found.2)
        else some ([], d :: more)
    else (closing quote rest).map fun found => (c :: found.1, found.2)

theorem closing_of_ne {quote c : Char} (h : c ≠ quote) (rest : List Char) :
    closing quote (c :: rest) = (closing quote rest).map fun found => (c :: found.1, found.2) := by
  rw [closing.eq_def]
  simp [h]

theorem length_closing_le {quote : Char} {text inner after : List Char}
    (h : closing quote text = some (inner, after)) : after.length ≤ text.length := by
  induction text using closing.induct quote generalizing inner after with
  | case1 => cases h
  | case2 =>
    rw [closing, if_pos rfl] at h
    cases h
    exact Nat.zero_le _
  | case3 more ih =>
    simp only [closing, if_true] at h
    obtain ⟨⟨_, _⟩, hFound, hEq⟩ := Option.map_eq_some_iff.mp h
    cases hEq
    exact Nat.le_trans (ih hFound) (Nat.le_add_right _ 2)
  | case4 d more hOther =>
    simp only [closing, if_true, if_neg hOther] at h
    cases h
    exact Nat.le_succ _
  | case5 c rest hOther ih =>
    rw [closing_of_ne hOther] at h
    obtain ⟨⟨_, _⟩, hFound, hEq⟩ := Option.map_eq_some_iff.mp h
    cases hEq
    exact Nat.le_trans (ih hFound) (Nat.le_succ _)

/-- The tokens of a text from left to right. There are none if a quote is not closed. -/
def lex (nameQuote : Char) : List Char → Option (List Token)
  | [] => some []
  | c :: rest =>
    if c = nameQuote ∨ c = '\'' then
      match h : closing c rest with
      | none => none
      | some (text, after) =>
        have := length_closing_le h
        (lex nameQuote after).map (.cons (if c = nameQuote then .name text else .string text))
    else (lex nameQuote rest).map (.cons (.bare c))
termination_by text => text.length

theorem closing_doubled {quote : Char} {after : List Char} (hAfter : after.head? ≠ some quote)
    (text : List Char) :
    closing quote (doubled quote text ++ quote :: after) = some (text, after) := by
  induction text with
  | nil =>
    cases after with
    | nil => simp [doubled, closing]
    | cons d more =>
      have hOther : d ≠ quote := fun h => hAfter (congrArg some h)
      simp [doubled, closing, hOther]
  | cons c text ih =>
    rw [doubled_cons]
    by_cases hQuote : c = quote
    · subst hQuote
      simp [closing, ih]
    · rw [if_neg hQuote, List.singleton_append, List.cons_append, closing_of_ne hQuote, ih]
      rfl

variable {nameQuote : Char}

theorem lex_nil : lex nameQuote [] = some [] := by
  rw [lex]

theorem lex_bare {c : Char} (hName : c ≠ nameQuote) (hString : c ≠ '\'') (text : List Char) :
    lex nameQuote (c :: text) = (lex nameQuote text).map (.cons (.bare c)) := by
  rw [lex, if_neg (not_or.mpr ⟨hName, hString⟩)]

theorem lex_quote {quote : Char} (hQuote : quote = nameQuote ∨ quote = '\'')
    {after : List Char} (hAfter : after.head? ≠ some quote) (text : List Char) :
    lex nameQuote (quote :: (doubled quote text ++ quote :: after)) = (lex nameQuote after).map
      (.cons (if quote = nameQuote then .name text else .string text)) := by
  have hClosing := closing_doubled hAfter text
  rw [lex, if_pos hQuote]
  split
  · rename_i hNone
    cases hNone.symm.trans hClosing
  · rename_i hFound
    cases hFound.symm.trans hClosing
    rfl

/-- The quotes of names in all dialects, and that of strings. -/
def quotes : List Char := ['\'', '"', '\x60']

/-- What stands between quoted pieces: a text that is not empty and has no quotes. -/
def Spacer (text : String) : Prop := text.toList ≠ [] ∧ ∀ c ∈ text.toList, c ∉ quotes

instance {text : String} : Decidable (Spacer text) :=
  decidable_of_iff (text.toList.isEmpty = false ∧ text.toList.all (!quotes.contains ·) = true)
    (by simp [Spacer])

theorem nameQuote_mem_quotes (dialect : Dialect) : dialect.nameQuote ∈ quotes := by
  cases dialect <;> decide

theorem not_mem_quotes_of_isDigit {c : Char} (h : c.isDigit = true) : c ∉ quotes := by
  intro hQuote
  simp only [quotes, List.mem_cons, List.not_mem_nil, or_false] at hQuote
  rcases hQuote with rfl | rfl | rfl <;> cases h

theorem Spacer.append {text other : String} (h : Spacer text) (hOther : Spacer other) :
    Spacer (text ++ other) := by
  rw [Spacer, String.toList_append]
  exact ⟨fun hNil => h.1 (List.append_eq_nil_iff.mp hNil).1,
    List.forall_mem_append.mpr ⟨h.2, hOther.2⟩⟩

theorem spacer_repr (n : Nat) : Spacer n.repr := by
  rw [Spacer, Nat.toList_repr]
  refine ⟨Nat.toDigits_ne_nil, fun c hc => ?_⟩
  exact not_mem_quotes_of_isDigit (Nat.isDigit_of_mem_toDigits (by decide) (by decide) hc)

theorem spacer_placeholder (dialect : Dialect) (n : Nat) : Spacer (dialect.placeholder n) := by
  cases dialect with
  | mySql => exact (by decide : Spacer "?")
  | postgreSql => exact (by decide : Spacer "$").append (spacer_repr n)
  | sqlite => exact (by decide : Spacer "?").append (spacer_repr n)

theorem lex_clear {nameQuote : Char} (hName : nameQuote ∈ quotes) {text : List Char}
    (h : ∀ c ∈ text, c ∉ quotes) (after : List Char) :
    lex nameQuote (text ++ after) = (lex nameQuote after).map (text.map .bare ++ ·) := by
  induction text with
  | nil => simp
  | cons c text ih =>
    obtain ⟨hc, hText⟩ := List.forall_mem_cons.mp h
    have hNotName : c ≠ nameQuote := fun hEq => hc (hEq ▸ hName)
    have hNotString : c ≠ '\'' := fun hEq => hc (hEq ▸ List.mem_cons_self)
    rw [List.cons_append, lex_bare hNotName hNotString, ih hText, Option.map_map]
    rfl

def Piece.isQuoted : Piece → Bool
  | .name _ | .constant _ => true
  | .plain _ | .param _ => false

/-- A quoted piece is not the first. -/
def Bare (ps : List Piece) : Prop := ∀ p ∈ ps.head?, p.isQuoted = false

/-- The pieces with these quoted tokens. Their plain texts have no quotes, and no quoted piece
comes right after another one. -/
inductive Quotes : List Piece → List Token → Prop
  | nil : Quotes [] []
  | plain {text : String} {ps : List Piece} {ts : List Token} (spacer : Spacer text)
      (rest : Quotes ps ts) : Quotes (.plain text :: ps) ts
  | name (text : String) {ps : List Piece} {ts : List Token} (bare : Bare ps)
      (rest : Quotes ps ts) : Quotes (.name text :: ps) (.name text.toList :: ts)
  | constant (text : String) {ps : List Piece} {ts : List Token} (bare : Bare ps)
      (rest : Quotes ps ts) : Quotes (.constant text :: ps) (.string text.toList :: ts)
  | param (v : Value) {ps : List Piece} {ts : List Token} (rest : Quotes ps ts) :
      Quotes (.param v :: ps) ts

/-- What the pieces are written as, if the parameters are counted on from `bound`. -/
def pieceTokens (dialect : Dialect) (bound : Nat) : List Piece → List Token
  | [] => []
  | .plain text :: rest => text.toList.map .bare ++ pieceTokens dialect bound rest
  | .name text :: rest => .name text.toList :: pieceTokens dialect bound rest
  | .constant text :: rest => .string text.toList :: pieceTokens dialect bound rest
  | .param _ :: rest =>
    (dialect.placeholder (bound + 1)).toList.map .bare ++ pieceTokens dialect (bound + 1) rest

variable {dialect : Dialect} {ps qs : List Piece} {ts us : List Token}

theorem head?_append_ne {quote : Char} (hQuote : quote ∈ quotes) {text : String}
    (h : Spacer text) (after : List Char) : (text.toList ++ after).head? ≠ some quote := by
  obtain ⟨hSome, hClear⟩ := h
  obtain ⟨c, rest, hText⟩ := List.exists_cons_of_ne_nil hSome
  rw [hText] at hClear ⊢
  rintro hHead
  cases hHead
  exact hClear quote List.mem_cons_self hQuote

theorem Quotes.head?_chars_ne (h : Quotes ps ts) (hBare : Bare ps) {quote : Char}
    (hQuote : quote ∈ quotes) (bound : Nat) : (chars dialect bound ps).head? ≠ some quote := by
  cases h with
  | nil => simp
  | plain hSpacer _ =>
    rw [chars_plain]
    exact head?_append_ne hQuote hSpacer _
  | param _ _ =>
    rw [chars_param]
    exact head?_append_ne hQuote (spacer_placeholder dialect _) _
  | name _ _ _ | constant _ _ _ => cases hBare _ rfl

theorem Quotes.lex_chars (h : Quotes ps ts) (bound : Nat) :
    lex dialect.nameQuote (chars dialect bound ps) = some (pieceTokens dialect bound ps) := by
  have hNameQuote := nameQuote_mem_quotes dialect
  induction h generalizing bound with
  | nil => exact lex_nil
  | plain hSpacer _ ih =>
    rw [chars_plain, lex_clear hNameQuote hSpacer.2, ih]
    rfl
  | param _ _ ih =>
    rw [chars_param, lex_clear hNameQuote (spacer_placeholder dialect _).2, ih]
    rfl
  | name _ hBare hRest ih =>
    rw [chars_name, lex_quote (.inl rfl) (hRest.head?_chars_ne hBare hNameQuote bound), ih,
      if_pos rfl]
    rfl
  | constant _ hBare hRest ih =>
    have hNotName : '\'' ≠ dialect.nameQuote := by cases dialect <;> decide
    rw [chars_constant, lex_quote (.inr rfl) (hRest.head?_chars_ne hBare List.mem_cons_self bound),
      ih, if_neg hNotName]
    rfl

theorem filter_isQuoted_bare (text : List Char) :
    (text.map Token.bare).filter Token.isQuoted = [] := by
  rw [List.filter_eq_nil_iff, List.forall_mem_map]
  exact fun _ _ => Bool.false_ne_true

theorem Quotes.filter_pieceTokens (h : Quotes ps ts) (bound : Nat) :
    (pieceTokens dialect bound ps).filter Token.isQuoted = ts := by
  induction h generalizing bound with
  | nil => rfl
  | plain _ _ ih => rw [pieceTokens, List.filter_append, filter_isQuoted_bare, ih]; rfl
  | param _ _ ih => rw [pieceTokens, List.filter_append, filter_isQuoted_bare, ih]; rfl
  | name _ _ _ ih => rw [pieceTokens, List.filter_cons_of_pos rfl, ih]
  | constant _ _ _ ih => rw [pieceTokens, List.filter_cons_of_pos rfl, ih]

/-- Outside of the quotes nothing depends on names, constants and values. -/
theorem map_hollow_pieceTokens {R : Value → Value → Prop} {N : String → String → Prop}
    (h : SamePieces R N ps qs) (bound : Nat) :
    (pieceTokens dialect bound ps).map Token.hollow =
      (pieceTokens dialect bound qs).map Token.hollow := by
  induction h generalizing bound with
  | nil => rfl
  | cons hPiece _ ih =>
    cases hPiece with
    | plain _ => rw [pieceTokens, pieceTokens, List.map_append, List.map_append, ih]
    | param _ => rw [pieceTokens, pieceTokens, List.map_append, List.map_append, ih]
    | name _ => rw [pieceTokens, pieceTokens, List.map_cons, List.map_cons, ih]; rfl
    | constant _ => rw [pieceTokens, pieceTokens, List.map_cons, List.map_cons, ih]; rfl

theorem Bare.append (h : Bare ps) (hMore : Bare qs) : Bare (ps ++ qs) := by
  cases ps with
  | nil => exact hMore
  | cons p ps => exact h

theorem bare_nil : Bare [] := nofun

theorem bare_plain (text : String) (ps : List Piece) : Bare (.plain text :: ps) := by
  rintro p ⟨⟩
  rfl

theorem Quotes.append (h : Quotes ps ts) (hMore : Quotes qs us) (hBare : Bare qs) :
    Quotes (ps ++ qs) (ts ++ us) := by
  induction h with
  | nil => exact hMore
  | plain hSpacer _ ih => exact .plain hSpacer ih
  | name text hNext _ ih => exact .name text (hNext.append hBare) ih
  | constant text hNext _ ih => exact .constant text (hNext.append hBare) ih
  | param v _ ih => exact .param v ih

/-- More pieces that have no quotes. -/
theorem Quotes.more (h : Quotes ps ts) (hMore : Quotes qs []) (hBare : Bare qs) :
    Quotes (ps ++ qs) ts := by
  have hAll := h.append hMore hBare
  rwa [List.append_nil] at hAll

/-- A plain text at the end. -/
theorem Quotes.last {text : String} (h : Quotes ps ts) (hText : Spacer text) :
    Quotes (ps ++ [.plain text]) ts :=
  h.more (.plain hText .nil) (bare_plain text [])

theorem Quotes.flatMap {α : Type} {pieces : α → List Piece} {tokens : α → List Token}
    (h : ∀ x, Quotes (pieces x) (tokens x)) (hBare : ∀ x, Bare (pieces x)) (xs : List α) :
    Quotes (xs.flatMap pieces) (xs.flatMap tokens) ∧ Bare (xs.flatMap pieces) := by
  induction xs with
  | nil => exact ⟨.nil, bare_nil⟩
  | cons x rest ih => exact ⟨(h x).append ih.1 ih.2, (hBare x).append ih.2⟩

theorem Quotes.separated {sep : String} (hSep : Spacer sep) {parts : List (List Piece)}
    {tokens : List (List Token)} (h : List.Forall₂ Quotes parts tokens) :
    Quotes (separated sep parts) tokens.flatten := by
  cases h with
  | nil => exact .nil
  | @cons first firstTokens rest restTokens hFirst hRest =>
    rw [separated_cons, List.flatten_cons]
    have hOthers : Quotes (rest.flatMap fun part => .plain sep :: part) restTokens.flatten ∧
        Bare (rest.flatMap fun part => .plain sep :: part) := by
      clear hFirst
      induction hRest with
      | nil => exact ⟨.nil, bare_nil⟩
      | cons hNext _ ih =>
        exact ⟨(Quotes.plain hSep hNext).append ih.1 ih.2, (bare_plain sep _).append ih.2⟩
    exact hFirst.append hOthers.1 hOthers.2

theorem Quotes.commas {α : Type} {pieces : α → List Piece} {tokens : α → List Token}
    (h : ∀ x, Quotes (pieces x) (tokens x)) (xs : List α) :
    Quotes (commas (xs.map pieces)) (xs.flatMap tokens) := by
  have hEach : List.Forall₂ Quotes (xs.map pieces) (xs.map tokens) :=
    List.forall₂_map_left_iff.mpr (List.forall₂_map_right_iff.mpr
      (List.forall₂_same.mpr fun x _ => h x))
  exact .separated (by decide) hEach

end RowTree.Sql
