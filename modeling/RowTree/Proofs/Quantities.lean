import RowTree.Value.Key
import Mathlib.Tactic.ByContra

/-!
# What numbers amount to

The exact value of a double, in units of the least positive one. Beside its sign a double is told
by its size, so that two doubles of the same value are the same double or two zeros.
-/

namespace RowTree

/-- What a number amounts to: so many units of 2 ^ -1074, or infinitely much. -/
inductive Quantity where
  | finite (units : Int)
  | infinite (negative : Bool)
  deriving DecidableEq

namespace Binary64

/-- A NaN amounts to nothing. -/
def quantity? (x : Binary64) : Option Quantity :=
  if x.isFinite then some (.finite x.scaled)
  else if x.isNaN then none
  else some (.infinite x.isNegative)

theorem fraction_lt (x : Binary64) : x.fraction < 0x10000000000000 := Nat.mod_lt _ (by decide)

theorem significand_lt (x : Binary64) : x.significand < 0x20000000000000 := by
  have hFraction := x.fraction_lt
  unfold significand
  split <;> omega

theorem le_significand {x : Binary64} (h : x.place ≠ 0) : 0x10000000000000 ≤ x.significand := by
  unfold place at h
  rw [significand, if_neg (by omega)]
  omega

theorem unitsInOne_pos : 0 < unitsInOne := Nat.pos_of_ne_zero (by decide +kernel)

theorem place_le_of_magnitude_eq {x y : Binary64} (h : x.magnitude = y.magnitude) :
    y.place ≤ x.place := by
  by_contra hLess
  obtain ⟨d, hPlace⟩ : ∃ d, y.place = x.place + (d + 1) := ⟨y.place - x.place - 1, by omega⟩
  have hSplit : x.significand * 2 ^ x.place = y.significand * 2 ^ (d + 1) * 2 ^ x.place := by
    calc x.significand * 2 ^ x.place = y.significand * 2 ^ y.place := h
      _ = y.significand * 2 ^ (d + 1) * 2 ^ x.place := by
        rw [hPlace, Nat.pow_add, Nat.mul_comm (2 ^ x.place), Nat.mul_assoc]
  have hSignificand := Nat.eq_of_mul_eq_mul_right (Nat.two_pow_pos _) hSplit
  have hLeast : 0x10000000000000 ≤ y.significand := le_significand (by omega)
  have hMost := x.significand_lt
  have hPower : 2 ≤ 2 ^ (d + 1) := by
    rw [Nat.pow_succ]
    have := Nat.two_pow_pos d
    omega
  have hProduct := Nat.mul_le_mul hLeast hPower
  omega

/-- Beside its sign a double is told by its size. -/
theorem fields_of_magnitude_eq {x y : Binary64} (h : x.magnitude = y.magnitude) :
    x.biasedExponent = y.biasedExponent ∧ x.fraction = y.fraction := by
  have hPlace : x.place = y.place :=
    Nat.le_antisymm (place_le_of_magnitude_eq h.symm) (place_le_of_magnitude_eq h)
  have hSize : x.significand * 2 ^ x.place = y.significand * 2 ^ x.place := by
    rw [hPlace]
    calc x.significand * 2 ^ y.place = x.magnitude := by rw [← hPlace]; rfl
      _ = y.significand * 2 ^ y.place := h
  have hSignificand := Nat.eq_of_mul_eq_mul_right (Nat.two_pow_pos _) hSize
  have hFraction := x.fraction_lt
  have hOther := y.fraction_lt
  simp only [place] at hPlace
  simp only [significand] at hSignificand
  split at hSignificand <;> split at hSignificand <;> omega

theorem ext_fields {x y : Binary64} (hSign : x.isNegative = y.isNegative)
    (hExponent : x.biasedExponent = y.biasedExponent) (hFraction : x.fraction = y.fraction) :
    x = y := by
  have hWord : x.word = y.word := by
    have hx : x.word < 0x10000000000000000 := x.bits.toNat_lt
    have hy : y.word < 0x10000000000000000 := y.bits.toNat_lt
    simp only [isNegative, decide_eq_decide] at hSign
    simp only [biasedExponent] at hExponent
    simp only [fraction] at hFraction
    omega
  cases x
  cases y
  exact congrArg _ (UInt64.toNat_inj.mp hWord)

theorem isNegative_iff {x : Binary64} (hSome : x.scaled ≠ 0) : x.isNegative ↔ x.scaled < 0 := by
  unfold scaled at hSome ⊢
  split at hSome
  · rename_i hSign
    rw [if_pos hSign]
    exact iff_of_true hSign (by omega)
  · rename_i hSign
    rw [if_neg hSign]
    exact iff_of_false hSign (by omega)

theorem isNegative_of_scaled_eq {x y : Binary64} (h : x.scaled = y.scaled) (hSome : x.scaled ≠ 0) :
    x.isNegative = y.isNegative := by
  rw [Bool.eq_iff_iff, isNegative_iff hSome, isNegative_iff (h ▸ hSome), h]

theorem magnitude_eq_natAbs (x : Binary64) : x.magnitude = x.scaled.natAbs := by
  unfold scaled
  split <;> omega

theorem eq_of_scaled_eq {x y : Binary64} (h : x.scaled = y.scaled) (hSome : x.scaled ≠ 0) :
    x = y := by
  obtain ⟨hExponent, hFraction⟩ := fields_of_magnitude_eq (x := x) (y := y)
    (by rw [magnitude_eq_natAbs, h, magnitude_eq_natAbs])
  exact ext_fields (isNegative_of_scaled_eq h hSome) hExponent hFraction

theorem quantity?_eq_finite_iff {x : Binary64} {units : Int} :
    x.quantity? = some (.finite units) ↔ x.isFinite = true ∧ x.scaled = units := by
  unfold quantity?
  split
  · rename_i hFinite
    rw [Option.some.injEq, Quantity.finite.injEq]
    exact (and_iff_right hFinite).symm
  · rename_i hFinite
    refine iff_of_false ?_ fun h => hFinite h.1
    split <;> exact nofun

theorem fields_of_infinite {x : Binary64} {negative : Bool}
    (h : x.quantity? = some (.infinite negative)) :
    x.biasedExponent = 2047 ∧ x.fraction = 0 ∧ x.isNegative = negative := by
  unfold quantity? at h
  split at h
  · cases h
  · rename_i hFinite
    have hExponent : x.biasedExponent = 2047 := by simpa [isFinite] using hFinite
    split at h
    · cases h
    · rename_i hNaN
      have hFraction : x.fraction = 0 := by simpa [isNaN, hExponent] using hNaN
      exact ⟨hExponent, hFraction, Quantity.infinite.inj (Option.some.inj h)⟩

theorem eq_of_quantity? {x y : Binary64} {q : Quantity} (hx : x.quantity? = some q)
    (hy : y.quantity? = some q) (hSome : q ≠ .finite 0) : x = y := by
  cases q with
  | finite units =>
    obtain ⟨-, hScaled⟩ := quantity?_eq_finite_iff.mp hx
    obtain ⟨-, hOther⟩ := quantity?_eq_finite_iff.mp hy
    have hUnits : units ≠ 0 := fun hZero => hSome (hZero ▸ rfl)
    exact eq_of_scaled_eq (hScaled.trans hOther.symm) (hScaled ▸ hUnits)
  | infinite negative =>
    obtain ⟨hExponent, hFraction, hSign⟩ := fields_of_infinite hx
    obtain ⟨hExponent', hFraction', hSign'⟩ := fields_of_infinite hy
    exact ext_fields (hSign.trans hSign'.symm) (hExponent.trans hExponent'.symm)
      (hFraction.trans hFraction'.symm)

theorem mod_eq_zero_and_div_eq_iff {m u : Nat} (hu : 0 < u) {k : Int} :
    m % u = 0 ∧ ((m / u : Nat) : Int) = k ↔ (m : Int) = k * u := by
  constructor
  · rintro ⟨hRest, rfl⟩
    have hBoth := Nat.div_add_mod m u
    rw [hRest, Nat.add_zero, Nat.mul_comm] at hBoth
    exact_mod_cast hBoth.symm
  · intro h
    have hu' : (u : Int) ≠ 0 := by omega
    constructor
    · have hMod : (m : Int) % u = 0 := by rw [h, Int.mul_emod_left]
      exact_mod_cast hMod
    · rw [Int.natCast_ediv, h, Int.mul_ediv_cancel _ hu']

theorem integer?_eq_some_iff {x : Binary64} {n : Int} :
    x.integer? = some n ↔ x.quantity? = some (.finite (n * unitsInOne)) := by
  have hWhole (k : Int) := mod_eq_zero_and_div_eq_iff (m := x.magnitude) unitsInOne_pos (k := k)
  simp only [quantity?_eq_finite_iff, integer?, scaled, Option.ite_none_right_eq_some,
    Bool.and_eq_true, beq_iff_eq, Option.some.injEq, and_assoc]
  refine and_congr_right fun _ => ?_
  cases x.isNegative with
  | false => exact hWhole n
  | true =>
    simp only [if_true, Int.neg_eq_comm (b := n), Int.neg_eq_comm (b := n * unitsInOne)]
    rw [← Int.neg_mul, eq_comm (a := -n), eq_comm (a := -n * _)]
    exact hWhole (-n)

theorem wholeKey?_eq_some_iff {x : Binary64} {n : Int} : Value.wholeKey? x = some n ↔
    x.quantity? = some (.finite (n * unitsInOne)) ∧ n.natAbs < 9000000000000000 := by
  rw [Value.wholeKey?, Option.filter_eq_some_iff, integer?_eq_some_iff, decide_eq_true_eq]

end Binary64

end RowTree
