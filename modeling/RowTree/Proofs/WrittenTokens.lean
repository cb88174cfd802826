import RowTree.Json.Token
import RowTree.Proofs.Numerals

/-!
# The tokens of a written text

The text that is written for a tree is taken apart into the tokens it was put together from: a
string into the string itself, a number into the number that its text stands for. Where a number
or a word ends is told by the character after it, which is always a mark.
-/

namespace RowTree.Json

/-- Nothing follows, or a character that is no part of a number or a word. -/
def Ends (rest : List Char) : Prop :=
  ∀ c ∈ rest.head?, isNumberChar c = false ∧ c.isLower = false

/-- Whatever follows, unless it goes on with the last token, the text is these tokens. -/
def Lexes (text : List Char) (ts : List Token) : Prop :=
  ∀ rest, Ends rest →
    tokensFrom .between (text ++ rest) = (tokensFrom .between rest).map (ts ++ ·)

/-- The character is a token by itself. -/
def Mark (c : Char) (t : Token) : Prop := startToken c = some ([t], .between)

variable {text front cs rest : List Char} {ts us : List Token} {c : Char} {t : Token}

theorem Mark.ends (h : Mark c t) (rest : List Char) : Ends (c :: rest) := by
  rintro _ ⟨⟩
  unfold Mark startToken at h
  split_ifs at h
  · cases h
  · cases h
  · cases h
  · cases h
  · split at h
    all_goals first | decide | cases h

theorem tokensFrom_of_lexStep {state next : LexState} (h : lexStep state c = some (ts, next))
    (rest : List Char) : tokensFrom state (c :: rest) = (tokensFrom next rest).map (ts ++ ·) := by
  rw [tokensFrom, h, Option.map_eq_bind]
  rfl

theorem tokensFrom_of_silent {state next : LexState} (h : lexStep state c = some ([], next))
    (rest : List Char) : tokensFrom state (c :: rest) = tokensFrom next rest :=
  (tokensFrom_of_lexStep h rest).trans Option.map_id'

theorem Lexes.nil : Lexes [] [] := by
  intro rest _
  simp

theorem Lexes.append_mark (h : Lexes front ts) (hMark : Mark c t) (hMore : Lexes text us) :
    Lexes (front ++ c :: text) (ts ++ t :: us) := by
  intro rest hRest
  have hStart : lexStep .between c = some ([t], .between) := hMark
  rw [List.append_assoc, List.cons_append, h _ (hMark.ends _), tokensFrom_of_lexStep hStart,
    hMore rest hRest, Option.map_map, Option.map_map]
  congr 1
  funext more
  simp

theorem Lexes.intercalate {texts : List (List Char)} {tss : List (List Token)}
    (h : List.Forall₂ Lexes texts tss) :
    Lexes ([','].intercalate texts) ([Token.comma].intercalate tss) := by
  induction h with
  | nil => exact Lexes.nil
  | cons hFirst hRest ih =>
    cases hRest with
    | nil => simpa using hFirst
    | cons hSecond hMore =>
      rw [List.intercalate_cons_cons, List.intercalate_cons_cons, List.append_assoc,
        List.append_assoc]
      exact hFirst.append_mark rfl ih

/-- The characters of one token are kept while they are seen. -/
theorem tokensFrom_append {state : List Char → LexState}
    (h : ∀ c ∈ cs, ∀ seen, lexStep (state seen) c = some ([], state (c :: seen)))
    (seen rest : List Char) :
    tokensFrom (state seen) (cs ++ rest) = tokensFrom (state (cs.reverse ++ seen)) rest := by
  induction cs generalizing seen with
  | nil => rfl
  | cons c cs ih =>
    obtain ⟨hStep, hSteps⟩ := List.forall_mem_cons.mp h
    rw [List.cons_append, tokensFrom_of_silent (hStep seen), ih hSteps, List.reverse_cons,
      List.append_assoc]
    rfl

theorem tokensFrom_of_pending {state : LexState} (hPending : pending state = some ts)
    (hFinish : ∀ c ∈ rest.head?, lexStep state c = lexStep.finish state c) :
    tokensFrom state rest = (tokensFrom .between rest).map (ts ++ ·) := by
  cases rest with
  | nil => simpa [tokensFrom, pending] using hPending
  | cons c rest =>
    rw [tokensFrom, hFinish c rfl, lexStep.finish, hPending, tokensFrom, lexStep]
    cases startToken c with
    | none => rfl
    | some found =>
      obtain ⟨more, next⟩ := found
      simp only [Option.bind_eq_bind, Option.bind_some, Option.map_bind, List.append_assoc]
      rfl

/-- The first character of the token tells its kind, and the others are kept as long as they are of
this kind. -/
theorem Lexes.of_kind (state : List Char → LexState) {isKind : Char → Bool}
    (hStart : lexStep .between c = some ([], state [c]))
    (hStep : ∀ seen d, lexStep (state seen) d =
      if isKind d then some ([], state (d :: seen)) else lexStep.finish (state seen) d)
    (hKind : ∀ d ∈ cs, isKind d = true)
    (hEnds : ∀ rest, Ends rest → ∀ d ∈ rest.head?, isKind d = false)
    (hPending : pending (state (c :: cs).reverse) = some [t]) : Lexes (c :: cs) [t] := by
  intro rest hRest
  have hMore : ∀ d ∈ cs, ∀ seen, lexStep (state seen) d = some ([], state (d :: seen)) :=
    fun d hd seen => (hStep seen d).trans (if_pos (hKind d hd))
  have hFinish : ∀ d ∈ rest.head?, lexStep (state (c :: cs).reverse) d =
      lexStep.finish (state (c :: cs).reverse) d := by
    intro d hd
    rw [hStep, if_neg (by simp [hEnds rest hRest d hd])]
  rw [List.cons_append, tokensFrom_of_silent hStart, tokensFrom_append hMore,
    ← List.reverse_cons, tokensFrom_of_pending hPending hFinish]

theorem Lexes.word (hStart : startToken c = some ([], .word [c]))
    (hLower : cs.all Char.isLower = true) : Lexes (c :: cs) [.word (c :: cs)] :=
  Lexes.of_kind .word hStart (fun _ _ => rfl) (List.all_eq_true.mp hLower)
    (fun _ hRest d hd => (hRest d hd).2) (by rw [pending, List.reverse_reverse])

theorem startToken_of_digit (h : c.isDigit = true ∨ c = '-') :
    startToken c = some ([], .number [c]) := by
  have hSpace : isSpace c = false := by
    rw [Bool.eq_false_iff]
    intro hSpace
    simp only [isSpace, Bool.or_eq_true, beq_iff_eq] at hSpace
    rcases hSpace with ((rfl | rfl) | rfl) | rfl <;> revert h <;> decide
  have hQuote : c ≠ '"' := by
    rintro rfl
    revert h
    decide
  unfold startToken
  rw [if_neg (Bool.eq_false_iff.mp hSpace), if_neg hQuote, if_pos h]

theorem isNumberChar_of_isDigit (h : c.isDigit = true) : isNumberChar c = true := by
  rw [isNumberChar, h]
  rfl

namespace NumberText

theorem WellFormed.isNumberChar_of_mem_size {x : NumberText} (h : x.WellFormed)
    (hc : c ∈ x.size) : isNumberChar c = true := by
  rcases List.mem_append.mp hc with hWhole | hRest
  · exact isNumberChar_of_isDigit (h.whole c hWhole)
  · rcases List.mem_append.mp hRest with hFraction | hExponent
    · cases hText : x.fraction with
      | nil =>
        rw [hText] at hFraction
        cases hFraction
      | cons d ds =>
        rw [hText] at hFraction
        rcases List.mem_cons.mp hFraction with rfl | hDigit
        · rfl
        · exact isNumberChar_of_isDigit (h.fraction c (hText ▸ hDigit))
    · cases hText : x.exponent with
      | none =>
        rw [hText] at hExponent
        cases hExponent
      | some e =>
        rw [hText] at hExponent
        rcases List.mem_cons.mp hExponent with rfl | hSigned
        · rfl
        · rcases List.mem_cons.mp hSigned with rfl | hDigit
          · split <;> rfl
          · exact isNumberChar_of_isDigit (isDigit_of_mem_decimalDigits hDigit)

theorem WellFormed.lexes {x : NumberText} (h : x.WellFormed) :
    Lexes x.chars [.number x.numeral.value?] := by
  have hToken : numberToken? x.chars = some (.number x.numeral.value?) := by
    rw [numberToken?, ofText?_chars h, Option.map_some]
  obtain ⟨first, rest, hChars, hFirst, hRest⟩ : ∃ first rest, x.chars = first :: rest ∧
      (first.isDigit = true ∨ first = '-') ∧ ∀ c ∈ rest, isNumberChar c = true := by
    cases hNegative : x.negative with
    | true =>
      refine ⟨'-', x.size, ?_, .inr rfl, fun c => h.isNumberChar_of_mem_size⟩
      rw [chars, hNegative, if_pos rfl]
    | false =>
      obtain ⟨first, rest, hWhole, -⟩ := h.begins_digit
      have hSize : x.size =
          first :: (rest ++ (fractionChars x.fraction ++ exponentChars x.exponent)) := by
        rw [size, hWhole, List.cons_append]
      refine ⟨first, rest ++ (fractionChars x.fraction ++ exponentChars x.exponent), ?_,
        .inl (h.whole first (hWhole ▸ List.mem_cons_self)), ?_⟩
      · rw [chars, hNegative, if_neg Bool.false_ne_true, hSize]
      · exact fun c hc => h.isNumberChar_of_mem_size (hSize ▸ List.mem_cons_of_mem _ hc)
  rw [hChars] at hToken ⊢
  refine Lexes.of_kind .number (startToken_of_digit hFirst) (fun _ _ => rfl) hRest
    (fun _ hRest d hd => (hRest d hd).1) ?_
  rw [pending, List.reverse_reverse, hToken, Option.map_some]

end NumberText

/-- A character is written as a short escape, as the number of a control character, or as it is. -/
theorem escapeChar_cases (c : Char) :
    (∃ d, escapeChar c = ['\\', d] ∧ shortEscape? d = some c) ∨
    (c.toNat < 0x20 ∧ escapeChar c =
      ['\\', 'u', '0', '0', hexChar (c.toNat / 16), hexChar (c.toNat % 16)]) ∨
    (escapeChar c = [c] ∧ ¬ (c.toNat < 0x20 ∨ c = '\\') ∧ c ≠ '"') := by
  unfold escapeChar
  split
  all_goals try exact .inl ⟨_, rfl, rfl⟩
  rename_i hQuote hBackslash _ _ _ _ _
  split
  · exact .inr (.inl ⟨‹_›, rfl⟩)
  · exact .inr (.inr ⟨rfl, not_or.mpr ⟨‹_›, hBackslash⟩, hQuote⟩)

theorem hexDigit?_hexChar : ∀ n < 16, Text.hexDigit? (hexChar n) = some n ∧
    hexChar n ≠ '"' ∧ hexChar n ≠ '\\' := by decide

theorem lexStep_text {d : Char} (hQuote : d ≠ '"') (hBackslash : d ≠ '\\') (seen : List Char) :
    lexStep (.text seen) d = some ([], .text (d :: seen)) :=
  (if_neg hQuote).trans (if_neg hBackslash)

theorem tokensFrom_escaped (d : Char) (seen rest : List Char) :
    tokensFrom (.text seen) ('\\' :: d :: rest) = tokensFrom (.text (d :: '\\' :: seen)) rest := by
  have hBackslash : lexStep (.text seen) '\\' = some ([], .escaped ('\\' :: seen)) := rfl
  have hNext : lexStep (.escaped ('\\' :: seen)) d = some ([], .text (d :: '\\' :: seen)) := rfl
  rw [tokensFrom_of_silent hBackslash, tokensFrom_of_silent hNext]

theorem tokensFrom_escapeChar (c : Char) (seen rest : List Char) :
    tokensFrom (.text seen) (escapeChar c ++ rest) =
      tokensFrom (.text ((escapeChar c).reverse ++ seen)) rest := by
  rcases escapeChar_cases c with ⟨d, hText, -⟩ | ⟨hControl, hText⟩ | ⟨hText, hPlain, hQuote⟩
  · rw [hText]
    exact tokensFrom_escaped d seen rest
  · obtain ⟨-, hQuote, hBackslash⟩ := hexDigit?_hexChar (c.toNat / 16) (by omega)
    obtain ⟨-, hQuote', hBackslash'⟩ := hexDigit?_hexChar (c.toNat % 16) (by omega)
    have hDigits : ∀ d ∈ ['0', '0', hexChar (c.toNat / 16), hexChar (c.toNat % 16)], ∀ seen,
        lexStep (.text seen) d = some ([], .text (d :: seen)) := by
      simp only [List.forall_mem_cons]
      exact ⟨lexStep_text (by decide) (by decide), lexStep_text (by decide) (by decide),
        lexStep_text hQuote hBackslash, lexStep_text hQuote' hBackslash', nofun⟩
    have hRun := tokensFrom_append hDigits ('u' :: '\\' :: seen) rest
    rw [hText]
    exact (tokensFrom_escaped 'u' seen _).trans hRun
  · rw [hText]
    exact tokensFrom_of_silent (lexStep_text hQuote (not_or.mp hPlain).2 seen) rest

theorem tokensFrom_flatMap_escapeChar (cs seen rest : List Char) :
    tokensFrom (.text seen) (cs.flatMap escapeChar ++ rest) =
      tokensFrom (.text ((cs.flatMap escapeChar).reverse ++ seen)) rest := by
  induction cs generalizing seen with
  | nil => rfl
  | cons c cs ih =>
    rw [List.flatMap_cons, List.append_assoc, tokensFrom_escapeChar, ih, List.reverse_append,
      List.append_assoc]

theorem unescape_short {d : Char} (h : shortEscape? d = some c) (more : List Char) :
    unescape ('\\' :: d :: more) = (unescape more).map (some c :: ·) := by
  have hNotU : d ≠ 'u' := by
    rintro rfl
    cases h
  rw [unescape, h]
  · rfl
  · exact fun _ _ _ _ _ _ _ _ _ hU _ => hNotU hU
  · exact fun _ _ _ _ _ hU _ => hNotU hU

theorem unescape_plain (h : ¬ (c.toNat < 0x20 ∨ c = '\\')) (more : List Char) :
    unescape (c :: more) = (unescape more).map (some c :: ·) := by
  obtain ⟨-, hBackslash⟩ := not_or.mp h
  rw [unescape, if_neg h]
  · exact fun _ _ _ _ _ _ _ _ _ hText _ => hBackslash hText
  · exact fun _ _ _ _ _ hText _ => hBackslash hText
  · exact fun _ _ hText _ => hBackslash hText

theorem unescape_unit_eq_none {a b c d : Char} (h : hexWord? a b c d = none) (more : List Char) :
    unescape ('\\' :: 'u' :: a :: b :: c :: d :: more) = none := by
  by_cases hWord : ∃ e f g i rest, more = '\\' :: 'u' :: e :: f :: g :: i :: rest
  · obtain ⟨e, f, g, i, rest, rfl⟩ := hWord
    rw [unescape, h]
    rfl
  · rw [unescape, h]
    · rfl
    · exact fun e f g i rest hMore => hWord ⟨e, f, g, i, rest, hMore⟩

/-- A word that is no half of a pair stands for itself, also where another word follows it. -/
theorem unescape_unit {a b c d : Char} {unit : Nat} (h : hexWord? a b c d = some unit)
    (hAlone : ∀ second, surrogatePair? unit second = none) (more : List Char) :
    unescape ('\\' :: 'u' :: a :: b :: c :: d :: more) =
      (unescape more).map (plainUnit? unit :: ·) := by
  by_cases hWord : ∃ e f g i rest, more = '\\' :: 'u' :: e :: f :: g :: i :: rest
  · obtain ⟨e, f, g, i, rest, rfl⟩ := hWord
    rw [unescape, h, Option.bind_eq_bind, Option.bind_some]
    cases hSecond : hexWord? e f g i with
    | none =>
      rw [unescape_unit_eq_none hSecond]
      rfl
    | some second => simp only [Option.bind_some, hAlone]
  · rw [unescape, h]
    · rfl
    · exact fun e f g i rest hMore => hWord ⟨e, f, g, i, rest, hMore⟩

theorem hexWord?_of_control (h : c.toNat < 0x20) :
    hexWord? '0' '0' (hexChar (c.toNat / 16)) (hexChar (c.toNat % 16)) = some c.toNat := by
  obtain ⟨hHigh, -⟩ := hexDigit?_hexChar (c.toNat / 16) (by omega)
  obtain ⟨hLow, -⟩ := hexDigit?_hexChar (c.toNat % 16) (by omega)
  have hZero : Text.hexDigit? '0' = some 0 := rfl
  simp only [hexWord?, hZero, hHigh, hLow, Option.bind_eq_bind, Option.bind_some, Option.some_inj]
  omega

theorem unescape_control (h : c.toNat < 0x20) (more : List Char) :
    unescape (['\\', 'u', '0', '0', hexChar (c.toNat / 16), hexChar (c.toNat % 16)] ++ more) =
      (unescape more).map (some c :: ·) := by
  have hUnit : plainUnit? c.toNat = some c := by
    rw [plainUnit?, if_neg (by omega), Char.ofNat_toNat]
  have hAlone (second : Nat) : surrogatePair? c.toNat second = none := if_neg (by omega)
  rw [← hUnit]
  exact unescape_unit (hexWord?_of_control h) hAlone more

theorem unescape_flatMap_escapeChar (cs : List Char) :
    unescape (cs.flatMap escapeChar) = some (cs.map some) := by
  induction cs with
  | nil => rfl
  | cons c cs ih =>
    have hFirst : unescape (escapeChar c ++ cs.flatMap escapeChar) =
        (unescape (cs.flatMap escapeChar)).map (some c :: ·) := by
      rcases escapeChar_cases c with ⟨d, hText, hShort⟩ | ⟨hControl, hText⟩ | ⟨hText, hPlain, -⟩
      · rw [hText]
        exact unescape_short hShort _
      · rw [hText]
        exact unescape_control hControl _
      · rw [hText]
        exact unescape_plain hPlain _
    rw [List.flatMap_cons, hFirst, ih, Option.map_some, List.map_cons]

theorem Lexes.string (s : String) : Lexes (stringText s) [.string (some s)] := by
  intro rest _
  have hOpen : lexStep .between '"' = some ([], .text []) := rfl
  have hToken : stringToken? (s.toList.flatMap escapeChar) = some (.string (some s)) := by
    have hAll : (s.toList.map some).mapM id = some s.toList := by
      rw [List.mapM_map]
      exact (List.mapM_pure (m := Option)).trans (congrArg some (List.map_id _))
    rw [stringToken?, unescape_flatMap_escapeChar, Option.map_some, hAll, Option.map_some,
      String.ofList_toList]
  have hClose : lexStep (.text (s.toList.flatMap escapeChar).reverse) '"' =
      some ([.string (some s)], .between) := by
    rw [lexStep, if_pos rfl, List.reverse_reverse, hToken, Option.map_some]
  rw [stringText, List.cons_append, List.cons_append, List.append_assoc,
    tokensFrom_of_silent hOpen, tokensFrom_flatMap_escapeChar, List.append_nil]
  exact tokensFrom_of_lexStep hClose rest

def nullToken : Token := .word ['n', 'u', 'l', 'l']

def Number.token : Number → Token
  | .int n => .number (some (.int n))
  | .nat n => .number (some (.ofInt n.toNat))
  | .float x =>
    if x.isFinite then .number ((Numeral.ofText? x.jsonText).bind (·.value?)) else nullToken

mutual

/-- The tokens that the text of a tree is made of. -/
def written : Json → List Token
  | unreadable | null => [nullToken]
  | bool true => [.word ['t', 'r', 'u', 'e']]
  | bool false => [.word ['f', 'a', 'l', 's', 'e']]
  | number n => [n.token]
  | string s => [.string (some s)]
  | array items => .openArray :: ([Token.comma].intercalate (writtenItems items) ++ [.closeArray])
  | object members =>
    .openObject :: ([Token.comma].intercalate (writtenMembers members) ++ [.closeObject])

def writtenItems : List Json → List (List Token)
  | [] => []
  | item :: rest => written item :: writtenItems rest

def writtenMembers : List (String × Json) → List (List Token)
  | [] => []
  | (name, v) :: rest => (.string (some name) :: .colon :: written v) :: writtenMembers rest

end

theorem lexes_null : Lexes ['n', 'u', 'l', 'l'] [nullToken] := Lexes.word rfl rfl

theorem lexes_numberText (n : Number) : Lexes (numberText n) [n.token] := by
  cases n with
  | int n =>
    obtain ⟨text, hText, hChars, hValue⟩ := NumberText.exists_ofInt n
    rw [hChars, Number.token, ← hValue]
    exact hText.lexes
  | nat n =>
    obtain ⟨text, hText, hChars, hValue⟩ := NumberText.exists_ofNat n
    rw [hChars, Number.token, ← hValue]
    exact hText.lexes
  | float x =>
    rw [numberText, Number.token]
    by_cases hFinite : x.isFinite = true
    · obtain ⟨text, hText, hChars, -⟩ := NumberText.exists_ofFloat hFinite
      rw [numberText, if_pos hFinite] at hChars
      rw [if_pos hFinite, if_pos hFinite, hChars, NumberText.ofText?_chars hText.toWellFormed]
      exact hText.lexes
    · rw [if_neg hFinite, if_neg hFinite]
      exact lexes_null

theorem Lexes.enclosed {first last : Char} {t u : Token} (hOpen : Mark first t)
    (hClose : Mark last u) (h : Lexes text ts) :
    Lexes (first :: (text ++ [last])) (t :: (ts ++ [u])) :=
  Lexes.nil.append_mark hOpen (h.append_mark hClose Lexes.nil)

mutual

theorem lexes_textChars (j : Json) : Lexes (textChars j) (written j) := by
  cases j with
  | unreadable => exact lexes_null
  | null => exact lexes_null
  | bool b => cases b <;> exact Lexes.word rfl rfl
  | number n => exact lexes_numberText n
  | string s => exact Lexes.string s
  | array items => exact (Lexes.intercalate (lexes_itemTexts items)).enclosed rfl rfl
  | object members => exact (Lexes.intercalate (lexes_memberTexts members)).enclosed rfl rfl

theorem lexes_itemTexts (items : List Json) :
    List.Forall₂ Lexes (itemTexts items) (writtenItems items) := by
  cases items with
  | nil => exact .nil
  | cons item rest => exact .cons (lexes_textChars item) (lexes_itemTexts rest)

theorem lexes_memberTexts (members : List (String × Json)) :
    List.Forall₂ Lexes (memberTexts members) (writtenMembers members) := by
  cases members with
  | nil => exact .nil
  | cons member rest =>
    obtain ⟨name, v⟩ := member
    exact .cons ((Lexes.string name).append_mark rfl (lexes_textChars v)) (lexes_memberTexts rest)

end

theorem tokens_text (j : Json) : tokens j.text = some (written j) := by
  have hLexes := lexes_textChars j [] nofun
  rw [tokens, text, String.toList_ofList]
  rw [List.append_nil] at hLexes
  rw [hLexes]
  exact congrArg some (List.append_nil _)

end RowTree.Json
