import RowTree.Json.Writer
import RowTree.Json.Numeral
import RowTree.Proofs.Dates
import Mathlib.Data.List.TakeWhile

/-!
# Numbers that are written

The text of a number is an optional minus, digits, and maybe a fraction and an exponent. What is
written for an integer or a double is of this form, and it is read as its parts.
-/

namespace RowTree

namespace Json

/-- A number by the parts of its text. -/
structure NumberText where
  negative : Bool
  whole : List Char
  fraction : List Char := []
  exponent : Option Int := none

namespace NumberText

def digits (cs : List Char) : List Nat := cs.filterMap Text.asciiDigit?

def fractionChars : List Char → List Char
  | [] => []
  | cs => '.' :: cs

theorem fractionChars_of_ne_nil {cs : List Char} (h : cs ≠ []) : fractionChars cs = '.' :: cs := by
  cases cs with
  | nil => exact absurd rfl h
  | cons d ds => rfl

def exponentChars : Option Int → List Char
  | none => []
  | some e => 'e' :: (if e < 0 then '-' else '+') :: decimalDigits e.natAbs

/-- The text without the sign. -/
def size (x : NumberText) : List Char :=
  x.whole ++ (fractionChars x.fraction ++ exponentChars x.exponent)

def chars (x : NumberText) : List Char := if x.negative then '-' :: x.size else x.size

def numeral (x : NumberText) : Numeral :=
  ⟨x.negative, digits x.whole, digits x.fraction, x.exponent⟩

/-- Only a zero by itself begins with the digit zero. -/
structure WellFormed (x : NumberText) : Prop where
  whole : ∀ c ∈ x.whole, c.isDigit = true
  begins : x.whole = ['0'] ∨ ∃ first rest, x.whole = first :: rest ∧ first ≠ '0'
  fraction : ∀ c ∈ x.fraction, c.isDigit = true

theorem asciiDigit?_of_isDigit {c : Char} (h : c.isDigit = true) :
    Text.asciiDigit? c = some (c.toNat - '0'.toNat) := by
  simp only [Char.isDigit, Bool.and_eq_true, decide_eq_true_eq] at h
  exact if_pos h

theorem digits_eq_map {cs : List Char} (h : ∀ c ∈ cs, c.isDigit = true) :
    digits cs = cs.map fun c => c.toNat - '0'.toNat :=
  List.filterMap_eq_map_iff_forall_eq_some.mpr fun c hc => asciiDigit?_of_isDigit (h c hc)

theorem isDigit_of_mem_decimalDigits {n : Nat} {c : Char} (h : c ∈ decimalDigits n) :
    c.isDigit = true := Nat.isDigit_of_mem_toDigits (by decide) (by decide) h

theorem decimalDigits_begins (n : Nat) :
    decimalDigits n = ['0'] ∨ ∃ first rest, decimalDigits n = first :: rest ∧ first ≠ '0' := by
  induction n using Nat.strongRecOn with
  | ind n ih =>
    rcases Nat.lt_or_ge n 10 with hLt | hGe
    · rw [decimalDigits, Nat.toDigits_of_lt_base hLt]
      rcases Nat.eq_zero_or_pos n with rfl | hPos
      · exact .inl rfl
      · refine .inr ⟨_, _, rfl, ?_⟩
        rw [Ne, Nat.digitChar_eq_zero]
        omega
    · right
      rw [decimalDigits, Nat.toDigits_of_base_le (by decide) hGe]
      rcases ih (n / 10) (by omega) with hZero | ⟨first, rest, hRest, hFirst⟩
      · have hValue := congrArg (Nat.ofDigitChars 10 · 0) hZero
        simp only [decimalDigits, Nat.ofDigitChars_ten_toDigits] at hValue
        have hNone : n / 10 = 0 := hValue
        omega
      · rw [show Nat.toDigits 10 (n / 10) = first :: rest from hRest]
        exact ⟨first, rest ++ [(n % 10).digitChar], rfl, hFirst⟩

theorem cutDigits_append {cs rest : List Char} (h : ∀ c ∈ cs, c.isDigit = true)
    (hRest : ∀ c ∈ rest.head?, c.isDigit = false) :
    Numeral.cutDigits (cs ++ rest) = (digits cs, rest) := by
  have hNone : rest.takeWhile Char.isDigit = [] := by
    cases rest with
    | nil => rfl
    | cons c rest => rw [List.takeWhile_cons, hRest c rfl]; rfl
  have hAll : rest.dropWhile Char.isDigit = rest := by
    cases rest with
    | nil => rfl
    | cons c rest => rw [List.dropWhile_cons, hRest c rfl]; rfl
  rw [Numeral.cutDigits, List.takeWhile_append_of_pos h, List.dropWhile_append_of_pos h, hNone,
    hAll, List.append_nil, digits]

theorem digits_ne_nil {cs : List Char} (h : ∀ c ∈ cs, c.isDigit = true) (hSome : cs ≠ []) :
    digits cs ≠ [] := by
  rw [digits_eq_map h]
  simpa using hSome

theorem head?_exponentChars (exponent : Option Int) :
    ∀ c ∈ (exponentChars exponent).head?, c.isDigit = false ∧ c ≠ '.' := by
  cases exponent with
  | none => nofun
  | some e =>
    rintro _ ⟨⟩
    decide

theorem head?_fraction (fraction : List Char) (exponent : Option Int) :
    ∀ c ∈ (fractionChars fraction ++ exponentChars exponent).head?, c.isDigit = false := by
  cases fraction with
  | nil => exact fun c hc => (head?_exponentChars exponent c hc).1
  | cons d ds =>
    rintro _ ⟨⟩
    decide

theorem cutFraction?_eq {fraction : List Char} (h : ∀ c ∈ fraction, c.isDigit = true)
    (exponent : Option Int) :
    Numeral.cutFraction? (fractionChars fraction ++ exponentChars exponent) =
      some (digits fraction, exponentChars exponent) := by
  cases fraction with
  | nil =>
    have hHead := head?_exponentChars exponent
    rw [fractionChars, List.nil_append]
    unfold Numeral.cutFraction?
    split
    · rename_i rest hRest
      rw [hRest] at hHead
      exact absurd rfl (hHead '.' rfl).2
    · rfl
  | cons d ds =>
    have hFilter : Numeral.cutFraction? ('.' :: (d :: ds ++ exponentChars exponent)) =
        (some (Numeral.cutDigits (d :: ds ++ exponentChars exponent))).filter (·.1 ≠ []) := rfl
    rw [fractionChars, List.cons_append, hFilter,
      cutDigits_append h fun c hc => (head?_exponentChars exponent c hc).1]
    · exact Option.filter_some_pos (by simpa using digits_ne_nil h (List.cons_ne_nil d ds))
    · exact List.cons_ne_nil d ds

theorem natural?_decimalDigits (n : Nat) : Text.natural? (decimalDigits n) = some n := by
  have hSome : decimalDigits n ≠ [] := Nat.toDigits_ne_nil
  rw [FilterText.natural?_eq_some hSome fun c => isDigit_of_mem_decimalDigits, decimalDigits,
    Nat.ofDigitChars_ten_toDigits]

theorem integer?_cons_decimalDigits (n : Nat) :
    Decimal.integer? ('-' :: decimalDigits n) = some (-(n : Int)) ∧
      Decimal.integer? ('+' :: decimalDigits n) = some (n : Int) := by
  simp only [Decimal.integer?, Decimal.splitSign, natural?_decimalDigits]
  exact ⟨rfl, rfl⟩

theorem exponent?_eq (exponent : Option Int) :
    Numeral.exponent? (exponentChars exponent) = some exponent := by
  cases exponent with
  | none => rfl
  | some e =>
    obtain ⟨hMinus, hPlus⟩ := integer?_cons_decimalDigits e.natAbs
    rw [exponentChars, Numeral.exponent?, if_pos (.inl rfl)]
    by_cases hSign : e < 0
    · rw [if_pos hSign, hMinus]
      exact congrArg (some ∘ some) (by omega)
    · rw [if_neg hSign, hPlus]
      exact congrArg (some ∘ some) (by omega)

/-- The digits before the point are there, and a zero at their head stands alone. -/
theorem WellFormed.whole_ok {x : NumberText} (h : x.WellFormed) :
    ¬ (digits x.whole = [] ∨ ((digits x.whole).head? = some 0 ∧ digits x.whole ≠ [0])) := by
  rcases h.begins with hZero | ⟨first, rest, hWhole, hFirst⟩
  · rw [hZero]
    decide
  · have hDigit : first.isDigit = true := h.whole first (hWhole ▸ List.mem_cons_self)
    have hValue : first.toNat - '0'.toNat ≠ 0 := by
      intro hNone
      refine hFirst (Char.toNat_inj.mp ?_)
      simp only [Char.isDigit, Bool.and_eq_true, decide_eq_true_eq] at hDigit
      have hLow : '0'.toNat ≤ first.toNat := hDigit.1
      omega
    rw [digits_eq_map h.whole, hWhole, List.map_cons, List.head?_cons, Option.some_inj]
    exact not_or.mpr ⟨List.cons_ne_nil _ _, fun hHead => hValue hHead.1⟩

theorem WellFormed.begins_digit {x : NumberText} (h : x.WellFormed) :
    ∃ first rest, x.whole = first :: rest ∧ first ≠ '-' := by
  rcases h.begins with hZero | ⟨first, rest, hWhole, -⟩
  · exact ⟨'0', [], hZero, by decide⟩
  · refine ⟨first, rest, hWhole, ?_⟩
    rintro rfl
    exact absurd (h.whole '-' (hWhole ▸ List.mem_cons_self)) (by decide)

theorem ofText?_chars {x : NumberText} (h : x.WellFormed) :
    Numeral.ofText? x.chars = some x.numeral := by
  have hCut := cutDigits_append h.whole (head?_fraction x.fraction x.exponent)
  cases hNegative : x.negative with
  | true =>
    simp only [chars, size, numeral, hNegative, if_true, Numeral.ofText?, hCut,
      if_neg h.whole_ok, cutFraction?_eq h.fraction, Option.bind_eq_bind, Option.bind_some,
      exponent?_eq]
  | false =>
    obtain ⟨first, rest, hWhole, hFirst⟩ := h.begins_digit
    rw [hWhole, List.cons_append] at hCut
    have hChars : x.chars =
        first :: (rest ++ (fractionChars x.fraction ++ exponentChars x.exponent)) := by
      rw [chars, size, hNegative, hWhole]
      rfl
    rw [hChars, numeral, hNegative]
    unfold Numeral.ofText?
    split
    rename_i negative size hSign
    split at hSign
    · rename_i hHead
      exact absurd (List.cons.inj hHead).1 hFirst
    · obtain ⟨rfl, rfl⟩ := Prod.mk.inj hSign
      have hOk := h.whole_ok
      rw [hWhole] at hOk ⊢
      simp only [hCut, if_neg hOk, cutFraction?_eq h.fraction, Option.bind_eq_bind,
        Option.bind_some, exponent?_eq]

def ofInteger (negative : Bool) (n : Nat) : NumberText := { negative, whole := decimalDigits n }

theorem ofInteger_wellFormed (negative : Bool) (n : Nat) : (ofInteger negative n).WellFormed where
  whole _ := isDigit_of_mem_decimalDigits
  begins := decimalDigits_begins n
  fraction := nofun

theorem le_ofDigitChars (cs : List Char) (n : Nat) : n ≤ Nat.ofDigitChars 10 cs n := by
  induction cs generalizing n with
  | nil => exact Nat.le_refl n
  | cons c cs ih =>
    rw [Nat.ofDigitChars_cons]
    have hMore := ih (10 * n + (c.toNat - '0'.toNat))
    omega

theorem takeDigits_digits {cs : List Char} (h : ∀ c ∈ cs, c.isDigit = true) {n : Nat}
    (hFits : Nat.ofDigitChars 10 cs n < 0x10000000000000000) :
    Numeral.takeDigits n (digits cs) = (Nat.ofDigitChars 10 cs n, []) := by
  rw [digits_eq_map h]
  clear h
  induction cs generalizing n with
  | nil => rfl
  | cons c cs ih =>
    rw [Nat.ofDigitChars_cons] at hFits ⊢
    have hNext := le_ofDigitChars cs (10 * n + (c.toNat - '0'.toNat))
    rw [List.map_cons, Numeral.takeDigits, if_pos (by omega)]
    exact ih hFits

/-- Minus zero would be read as a double. -/
theorem value?_ofInteger {negative : Bool} {n : Nat} (hFits : n < 0x10000000000000000)
    (hZero : negative = true → n ≠ 0) :
    (ofInteger negative n).numeral.value? =
      some (Number.ofInt (if negative then -(n : Int) else n)) := by
  have hDigits : ∀ c ∈ decimalDigits n, c.isDigit = true := fun c => isDigit_of_mem_decimalDigits
  have hValue : Nat.ofDigitChars 10 (decimalDigits n) 0 = n := Nat.ofDigitChars_ten_toDigits
  have hTake := takeDigits_digits (n := 0) hDigits (by rwa [hValue])
  rw [hValue] at hTake
  have hWhole : ¬ ((ofInteger negative n).numeral.fraction ≠ [] ∨
      (ofInteger negative n).numeral.exponent.isSome = true ∨ negative = true ∧ n = 0) := by
    rintro (hFraction | hExponent | ⟨hNegative, hNone⟩)
    · exact hFraction rfl
    · cases hExponent
    · exact hZero hNegative hNone
  have hInteger : (ofInteger negative n).numeral.integer? =
      some (Number.ofInt (if negative then -(n : Int) else n)) := by
    unfold Numeral.integer?
    rw [show (ofInteger negative n).numeral.whole = digits (decimalDigits n) from rfl, hTake]
    exact if_neg hWhole
  rw [Numeral.value?, hInteger]

/-- The text of a double shows that the number is not an integer. -/
structure Floating (x : NumberText) : Prop extends x.WellFormed where
  shows : x.fraction ≠ [] ∨ x.exponent.isSome = true

theorem Floating.integer?_eq_none {x : NumberText} (h : x.Floating) :
    x.numeral.integer? = none := by
  have hShows : x.numeral.fraction ≠ [] ∨ x.numeral.exponent.isSome = true :=
    h.shows.imp_left (digits_ne_nil h.fraction)
  unfold Numeral.integer?
  split
  · rename_i n _
    exact if_pos (by tauto)
  · rfl

theorem isDigit_of_mem_zeros {n : Nat} {c : Char} (h : c ∈ Decimal.zeros n) : c.isDigit = true := by
  rw [List.eq_of_mem_replicate h]
  rfl

section

variable {cs : List Char} {first : Char} {rest : List Char} (negative : Bool)

theorem exists_floating_plain (hDigits : ∀ c ∈ cs, c.isDigit = true) (hText : cs = first :: rest)
    (hFirst : first ≠ '0') {exponent : Int} (hExponent : exponent < 0) :
    ∃ x : NumberText, x.Floating ∧ x.negative = negative ∧
      Decimal.plain cs exponent = x.size := by
  rw [Decimal.plain, if_neg (by omega)]
  by_cases hInside : (-exponent).toNat < cs.length
  · rw [if_pos hInside]
    generalize hPlace : cs.length - (-exponent).toNat = place
    have hLess : place < cs.length := by omega
    obtain ⟨n, rfl⟩ : ∃ n, place = n + 1 := ⟨place - 1, by omega⟩
    have hDrop : cs.drop (n + 1) ≠ [] := by
      rw [Ne, List.drop_eq_nil_iff]
      omega
    refine ⟨{ negative, whole := cs.take (n + 1), fraction := cs.drop (n + 1) }, ⟨⟨?_, ?_, ?_⟩,
      .inl ?_⟩, rfl, ?_⟩
    · exact fun c hc => hDigits c (List.mem_of_mem_take hc)
    · exact .inr ⟨first, rest.take n, by rw [hText, List.take_succ_cons], hFirst⟩
    · exact fun c hc => hDigits c (List.mem_of_mem_drop hc)
    · exact hDrop
    · rw [size, fractionChars_of_ne_nil hDrop, exponentChars, List.append_nil]
  · rw [if_neg hInside]
    have hSome : Decimal.zeros ((-exponent).toNat - cs.length) ++ cs ≠ [] :=
      List.append_ne_nil_of_right_ne_nil _ (hText ▸ List.cons_ne_nil first rest)
    refine ⟨{ negative, whole := ['0'], fraction := Decimal.zeros _ ++ cs }, ⟨⟨?_, .inl rfl, ?_⟩,
      .inl hSome⟩, rfl, ?_⟩
    · exact List.forall_mem_singleton.mpr rfl
    · intro c hc
      exact (List.mem_append.mp hc).elim isDigit_of_mem_zeros (hDigits c)
    · rw [size, fractionChars_of_ne_nil hSome, exponentChars, List.append_nil]
      rfl

theorem exists_floating_scientific (hDigits : ∀ c ∈ cs, c.isDigit = true)
    (hText : cs = first :: rest) (hFirst : first ≠ '0') (exponent : Int) :
    ∃ x : NumberText, x.Floating ∧ x.negative = negative ∧
      Decimal.scientific cs exponent = x.size := by
  subst hText
  obtain ⟨hc, hRest⟩ := List.forall_mem_cons.mp hDigits
  refine ⟨{ negative, whole := [first], fraction := rest, exponent := some exponent },
    ⟨⟨?_, .inr ⟨first, [], rfl, hFirst⟩, hRest⟩, .inr rfl⟩, rfl, ?_⟩
  · simpa using hc
  · cases rest with
    | nil => rfl
    | cons second rest => rfl

theorem exists_floating_jsonLayout (hDigits : ∀ c ∈ cs, c.isDigit = true)
    (hText : cs = first :: rest) (hFirst : first ≠ '0') (exponent : Int) :
    ∃ x : NumberText, x.Floating ∧ x.negative = negative ∧
      Decimal.jsonLayout cs exponent = x.size := by
  unfold Decimal.jsonLayout
  dsimp only
  split
  · split
    · rename_i hExponent
      refine ⟨{ negative, whole := cs ++ Decimal.zeros exponent.toNat, fraction := ['0'] },
        ⟨⟨?_, .inr ⟨first, _, by rw [hText]; rfl, hFirst⟩, ?_⟩, .inl (List.cons_ne_nil _ _)⟩,
        rfl, ?_⟩
      · intro c hc
        exact (List.mem_append.mp hc).elim (hDigits c) isDigit_of_mem_zeros
      · exact List.forall_mem_singleton.mpr rfl
      · rw [Decimal.plain, if_pos hExponent]
        rfl
    · exact exists_floating_plain negative hDigits hText hFirst (by omega)
  · exact exists_floating_scientific negative hDigits hText hFirst _

end

end NumberText

end Json

namespace Binary64

theorem negate_word_mod (x : Binary64) :
    x.negate.word % 0x8000000000000000 = x.word % 0x8000000000000000 := by
  have hXor : x.negate.word = x.word ^^^ 2 ^ 63 := UInt64.toNat_xor _ _
  rw [hXor, show 0x8000000000000000 = 2 ^ 63 from rfl, Nat.xor_mod_two_pow, Nat.mod_self,
    Nat.xor_zero]

theorem negate_negate (x : Binary64) : x.negate.negate = x := by
  rw [negate, negate, UInt64.xor_assoc, UInt64.xor_self, UInt64.xor_zero]

theorem absolute_withSign (x : Binary64) : x.absolute.withSign x.isNegative = x := by
  rw [absolute]
  cases x.isNegative with
  | true => exact x.negate_negate
  | false => rfl

theorem magnitude_absolute (x : Binary64) : x.absolute.magnitude = x.magnitude := by
  have hMagnitude : x.negate.magnitude = x.magnitude := by
    have hMod := x.negate_word_mod
    have hExponent : x.negate.biasedExponent = x.biasedExponent := by
      simp only [biasedExponent]
      omega
    have hFraction : x.negate.fraction = x.fraction := by
      simp only [fraction]
      omega
    simp only [magnitude, significand, place, hExponent, hFraction]
  rw [absolute]
  cases x.isNegative with
  | true => exact hMagnitude
  | false => rfl

end Binary64

namespace Decimal

variable {tie : Tie} {x : Binary64}

theorem toBinary64_neighbour? {place : Int} {found : Decimal}
    (h : neighbour? tie x place = some found) : found.toBinary64 = x := by
  unfold neighbour? at h
  extract_lets numerator denominator low rest lower upper at h
  have hEither : found = lower ∨ found = upper → lower.toBinary64 = x → upper.toBinary64 = x →
      found.toBinary64 = x := by
    rintro (hFound | hFound) hLower hUpper
    · rwa [hFound]
    · rwa [hFound]
  split at h
  · cases h
  · rw [← Option.some.inj h]
    exact of_decide_eq_true ‹decide (lower.toBinary64 = x) = true›
  · rw [← Option.some.inj h]
    exact of_decide_eq_true ‹decide (upper.toBinary64 = x) = true›
  · rename_i hLower hUpper
    refine hEither ?_ (of_decide_eq_true hLower) (of_decide_eq_true hUpper)
    split at h
    · exact .inl (Option.some.inj h).symm
    · split at h
      · exact .inr (Option.some.inj h).symm
      · cases tie with
        | upper => exact .inr (Option.some.inj h).symm
        | even =>
          rw [← Option.some.inj h]
          exact ite_eq_or_eq _ lower upper

theorem toBinary64_coarsest? {place : Int} {steps : Nat} {found : Decimal}
    (h : coarsest? tie x place steps = some found) : found.toBinary64 = x := by
  induction steps generalizing place with
  | zero => cases h
  | succ steps ih =>
    rw [coarsest?] at h
    split at h
    · cases h
      exact toBinary64_neighbour? ‹_›
    · exact ih h

theorem shortest_ne_zero (tie : Tie) (hx : x.magnitude ≠ 0) :
    (shortest tie x).coefficient ≠ 0 := by
  rw [shortest]
  cases hFound : coarsest? tie x (leadingPlace x.magnitude Binary64.unitsInOne) 22 with
  | none =>
    obtain ⟨n, e, hExact⟩ : ∃ n e, Decimal.exact x = ⟨x.magnitude * Nat.pow 5 n, e⟩ := ⟨_, _, rfl⟩
    rw [Option.getD_none, hExact]
    exact Nat.mul_ne_zero hx (Nat.pow_pos (by decide)).ne'
  | some found =>
    intro hNone
    have hReads := toBinary64_coarsest? hFound
    rw [toBinary64, if_pos (.inl hNone)] at hReads
    exact hx (hReads ▸ rfl)

end Decimal

namespace Json

namespace NumberText

theorem exists_ofInt (n : Int64) : ∃ x : NumberText, x.WellFormed ∧
    numberText (.int n) = x.chars ∧ x.numeral.value? = some (.int n) := by
  have hLow : -0x8000000000000000 ≤ n.toInt := n.le_toInt
  have hHigh : n.toInt < 0x8000000000000000 := n.toInt_lt
  refine ⟨ofInteger (n.toInt < 0) n.toInt.natAbs, ofInteger_wellFormed _ _, ?_, ?_⟩
  · rw [numberText, intText, chars, size]
    simp [ofInteger, fractionChars, exponentChars]
  · have hSigned : (if n.toInt < 0 then -(n.toInt.natAbs : Int) else n.toInt.natAbs) = n.toInt := by
      split <;> omega
    have hZero : decide (n.toInt < 0) = true → n.toInt.natAbs ≠ 0 := by
      intro hNegative
      have := of_decide_eq_true hNegative
      omega
    rw [value?_ofInteger (by omega) hZero]
    simp only [decide_eq_true_eq, hSigned, Number.ofInt, if_pos (And.intro hLow hHigh),
      Int64.ofInt_toInt]

theorem exists_ofNat (n : UInt64) : ∃ x : NumberText, x.WellFormed ∧
    numberText (.nat n) = x.chars ∧ x.numeral.value? = some (.ofInt n.toNat) :=
  ⟨ofInteger false n.toNat, ofInteger_wellFormed _ _, (List.append_nil _).symm,
    value?_ofInteger n.toNat_lt nofun⟩

theorem exists_ofFloat {x : Binary64} (hFinite : x.isFinite = true) : ∃ text : NumberText,
    text.Floating ∧ numberText (.float x) = text.chars ∧ text.negative = x.isNegative := by
  rw [numberText, if_pos hFinite]
  unfold Binary64.jsonText Binary64.signed
  dsimp only
  split
  · refine ⟨{ negative := x.isNegative, whole := ['0'], fraction := ['0'] }, ⟨⟨?_, .inl rfl, ?_⟩,
      .inl (List.cons_ne_nil _ _)⟩, rfl, rfl⟩ <;> exact List.forall_mem_singleton.mpr rfl
  · rename_i hZero
    have hMagnitude : x.absolute.magnitude ≠ 0 := by
      intro hNone
      rw [x.magnitude_absolute] at hNone
      exact hZero (by rw [Binary64.isZero, hFinite, hNone]; rfl)
    rcases decimalDigits_begins (Decimal.shortest .even x.absolute).coefficient with
      hNone | ⟨first, rest, hText, hFirst⟩
    · have hValue := natural?_decimalDigits (Decimal.shortest .even x.absolute).coefficient
      rw [hNone] at hValue
      exact absurd (Option.some.inj hValue).symm (Decimal.shortest_ne_zero .even hMagnitude)
    · obtain ⟨text, hFloating, hNegative, hSize⟩ :=
        exists_floating_jsonLayout x.isNegative (fun c => isDigit_of_mem_decimalDigits) hText
          hFirst (Decimal.shortest .even x.absolute).exponent
      exact ⟨text, hFloating, by rw [hSize, chars, hNegative], hNegative⟩

end NumberText

end Json

/-- The size of the double that its JSON number is read as is its own. Reading rounds twice, so that
this holds of most doubles and not of all. -/
def Binary64.ReadsBack (x : Binary64) : Prop :=
  ∀ numeral, Json.Numeral.ofText? x.jsonText = some numeral →
    Json.Numeral.scale? numeral.leading = some x.absolute

instance (x : Binary64) : Decidable x.ReadsBack :=
  decidable_of_iff ((Json.Numeral.ofText? x.jsonText).all fun numeral =>
    Json.Numeral.scale? numeral.leading = some x.absolute) (by
      rw [Option.all_eq_true]
      simp only [decide_eq_true_eq]
      exact Iff.rfl)

namespace Json

/-- What the text of a number is read as. -/
def Number.reread : Number → Json
  | .int n => number (.int n)
  | .nat n => number (.ofInt n.toNat)
  | .float x =>
    if x.isFinite then leaf number ((Numeral.ofText? x.jsonText).bind (·.value?)) else null

theorem Number.reread_float {x : Binary64} (hFinite : x.isFinite = true) (hReads : x.ReadsBack) :
    (Number.float x).reread = number (.float x) := by
  obtain ⟨text, hFloating, hText, hNegative⟩ := NumberText.exists_ofFloat hFinite
  rw [numberText, if_pos hFinite] at hText
  have hNumeral : Numeral.ofText? x.jsonText = some text.numeral := by
    rw [hText, NumberText.ofText?_chars hFloating.toWellFormed]
  have hValue : text.numeral.value? = some (.float x) := by
    rw [Numeral.value?, hFloating.integer?_eq_none, hReads _ hNumeral, Option.map_some,
      show text.numeral.negative = x.isNegative from hNegative, x.absolute_withSign]
  rw [Number.reread, if_pos hFinite, hNumeral, Option.bind_some, hValue]
  rfl

/-- The seventeen digits 38120423768821243 have no double, and the one below them is divided. -/
example : ¬ (⟨0x3FD865A6757DEB3E⟩ : Binary64).ReadsBack := by decide +kernel

end Json

end RowTree
