import RowTree.Proofs.Quantities
import Mathlib.Data.List.Forall2

/-!
# Values of one key

Keys are for finding values again, whatever kind of number they are given as. Two values have one
key if they are the same, numbers being compared by what they amount to. There are two exceptions.
From nine quadrillions on, a whole float does not have the key of the integer of its value; and a
list has the key of the list without its nulls.
-/

namespace RowTree

namespace Value

open Binary64 (unitsInOne)

def integer? : Value → Option Int
  | int n => some n.toInt
  | nat n => some n.toNat
  | _ => none

/-- The exact value of a number of any kind. -/
def quantity? : Value → Option Quantity
  | int n => some (.finite (n.toInt * unitsInOne))
  | nat n => some (.finite (n.toNat * unitsInOne))
  | float x => x.quantity?
  | _ => none

/-- The same value, numbers of all kinds being compared by what they amount to. Null is like null
alone. -/
inductive Same : Value → Value → Prop
  | null : Same null null
  | bool (b : Bool) : Same (bool b) (bool b)
  | string (s : String) : Same (string s) (string s)
  | number {v w : Value} {q : Quantity} (left : v.quantity? = some q)
      (right : w.quantity? = some q) : Same v w
  | list {vs ws : List Value} (members : List.Forall₂ Same vs ws) : Same (list vs) (list ws)

/-- An integer in the one value has the place of a float of the same amount in the other, and it is
not below nine quadrillions in size. -/
inductive Parted : Value → Value → Prop
  | integer {v : Value} {n : Int} {x : Binary64} (left : v.integer? = some n)
      (right : x.quantity? = some (.finite (n * unitsInOne)))
      (large : 9000000000000000 ≤ n.natAbs) : Parted v (float x)
  | float {w : Value} {n : Int} {x : Binary64}
      (left : x.quantity? = some (.finite (n * unitsInOne))) (right : w.integer? = some n)
      (large : 9000000000000000 ≤ n.natAbs) : Parted (float x) w
  | list {vs ws : List Value} {i : Nat} {v w : Value} (left : vs[i]? = some v)
      (right : ws[i]? = some w) (members : Parted v w) : Parted (list vs) (list ws)

mutual

def hasNaN : Value → Bool
  | float x => x.isNaN
  | list items => anyNaN items
  | _ => false

def anyNaN : List Value → Bool
  | [] => false
  | v :: rest => hasNaN v || anyNaN rest

end

mutual

/-- The value without the nulls in its lists. -/
def withoutNulls : Value → Value
  | list items => list (nonNulls items)
  | v => v

def nonNulls : List Value → List Value
  | [] => []
  | v :: rest => if v.isNull then nonNulls rest else withoutNulls v :: nonNulls rest

end

variable {v w : Value} {vs ws : List Value}

theorem number_cases {q : Quantity} (h : v.quantity? = some q) :
    (∃ n, v.integer? = some n ∧ v.key? = some (.int n) ∧ q = .finite (n * unitsInOne)) ∨
      ∃ x, v = float x ∧ x.quantity? = some q := by
  cases v with
  | int n => exact .inl ⟨_, rfl, rfl, (Option.some.inj h).symm⟩
  | nat n => exact .inl ⟨_, rfl, rfl, (Option.some.inj h).symm⟩
  | float x => exact .inr ⟨x, rfl, h⟩
  | null | bool _ | string _ | list _ => cases h

theorem finite_inj {m n : Int} :
    Quantity.finite (m * unitsInOne) = .finite (n * unitsInOne) ↔ m = n := by
  have hUnits : (unitsInOne : Int) ≠ 0 :=
    Int.natCast_ne_zero.mpr (Nat.ne_of_gt Binary64.unitsInOne_pos)
  rw [Quantity.finite.injEq]
  exact ⟨Int.eq_of_mul_eq_mul_right hUnits, fun h => h ▸ rfl⟩

theorem not_parted_of_integers {m n : Int} (hv : v.integer? = some m) (hw : w.integer? = some n) :
    ¬ Parted v w := by
  rintro (_ | _ | _)
  · cases hw
  · cases hv
  · cases hv

theorem parted_integer_iff {n : Int} {x : Binary64} (hv : v.integer? = some n) :
    Parted v (float x) ↔
      x.quantity? = some (.finite (n * unitsInOne)) ∧ 9000000000000000 ≤ n.natAbs := by
  constructor
  · rintro (⟨hLeft, hRight, hLarge⟩ | ⟨hLeft, hRight, hLarge⟩)
    · cases hv.symm.trans hLeft
      exact ⟨hRight, hLarge⟩
    · cases hRight
  · exact fun h => .integer hv h.1 h.2

theorem Parted.symm (h : Parted v w) : Parted w v := by
  induction h with
  | integer hLeft hRight hLarge => exact .float hRight hLeft hLarge
  | float hLeft hRight hLarge => exact .integer hRight hLeft hLarge
  | list hLeft hRight _ ih => exact .list hRight hLeft ih

theorem key?_float_eq_int_iff {x : Binary64} {n : Int} : (float x).key? = some (.int n) ↔
    x.quantity? = some (.finite (n * unitsInOne)) ∧ n.natAbs < 9000000000000000 := by
  rw [← Binary64.wholeKey?_eq_some_iff, key?]
  cases wholeKey? x with
  | none => simp
  | some m => simp

theorem key?_integer_float_iff {n : Int} (hv : v.integer? = some n)
    (hKey : v.key? = some (.int n)) (x : Binary64) : v.key? = (float x).key? ↔
      x.quantity? = some (.finite (n * unitsInOne)) ∧ ¬ Parted v (float x) := by
  rw [hKey, eq_comm, key?_float_eq_int_iff, parted_integer_iff hv, ← Nat.not_le]
  tauto

theorem key?_floats_iff {x y : Binary64} {p q : Quantity} (hx : x.quantity? = some p)
    (hy : y.quantity? = some q) : (float x).key? = (float y).key? ↔ p = q := by
  cases hWhole : wholeKey? x with
  | some m =>
    obtain ⟨hQuantity, hSmall⟩ := Binary64.wholeKey?_eq_some_iff.mp hWhole
    rw [key?_float_eq_int_iff.mpr ⟨hQuantity, hSmall⟩, eq_comm, key?_float_eq_int_iff, hy]
    rw [hx, Option.some.injEq] at hQuantity
    rw [hQuantity, Option.some.injEq, eq_comm]
    exact and_iff_left hSmall
  | none =>
    have hx' : (float x).key? = some (.float x.bits) := by rw [key?, hWhole]
    constructor
    · intro h
      cases hOther : wholeKey? y with
      | some n =>
        rw [hx', key?, hOther] at h
        cases h
      | none =>
        rw [hx', key?, hOther] at h
        have hSame : x = y := by
          cases x
          cases y
          exact congrArg _ (Key.float.inj (Option.some.inj h))
        rw [hSame, hy] at hx
        exact (Option.some.inj hx).symm
    · rintro rfl
      have hSome : p ≠ .finite 0 := by
        rintro rfl
        have hZero : wholeKey? x = some 0 :=
          Binary64.wholeKey?_eq_some_iff.mpr ⟨by rwa [Int.zero_mul], by decide⟩
        cases hWhole.symm.trans hZero
      rw [Binary64.eq_of_quantity? hx hy hSome]

theorem number_key?_eq_iff {p q : Quantity} (hv : v.quantity? = some p)
    (hw : w.quantity? = some q) : v.key? = w.key? ↔ p = q ∧ ¬ Parted v w := by
  rcases number_cases hv with ⟨m, hm, hKey, rfl⟩ | ⟨x, rfl, hx⟩
  · rcases number_cases hw with ⟨n, hn, hKey', rfl⟩ | ⟨y, rfl, hy⟩
    · rw [hKey, hKey', finite_inj, Option.some.injEq, Key.int.injEq]
      exact (and_iff_left (not_parted_of_integers hm hn)).symm
    · rw [key?_integer_float_iff hm hKey, hy, Option.some.injEq, eq_comm]
  · rcases number_cases hw with ⟨n, hn, hKey', rfl⟩ | ⟨y, rfl, hy⟩
    · rw [eq_comm, key?_integer_float_iff hn hKey', hx, Option.some.injEq]
      exact and_congr_right fun _ => not_congr ⟨.symm, .symm⟩
    · have hNone : ¬ Parted (float x) (float y) := by
        rintro (⟨hLeft, _, _⟩ | ⟨_, hRight, _⟩)
        · cases hLeft
        · cases hRight
      rw [key?_floats_iff hx hy]
      exact (and_iff_left hNone).symm

theorem number_key? {q : Quantity} (h : v.quantity? = some q) :
    (∃ n, v.key? = some (.int n)) ∨ ∃ bits, v.key? = some (.float bits) := by
  rcases number_cases h with ⟨n, _, hKey, _⟩ | ⟨x, rfl, _⟩
  · exact .inl ⟨n, hKey⟩
  · rw [key?]
    cases wholeKey? x with
    | some n => exact .inl ⟨n, rfl⟩
    | none => exact .inr ⟨x.bits, rfl⟩

theorem quantity?_float_ne_none {x : Binary64} (h : x.isNaN = false) : x.quantity? ≠ none := by
  unfold Binary64.quantity?
  rw [h]
  split <;> simp

theorem quantity?_withoutNulls (v : Value) : v.withoutNulls.quantity? = v.quantity? := by
  cases v <;> rfl

theorem same_numbers_iff {p q : Quantity} (hv : v.quantity? = some p) (hw : w.quantity? = some q) :
    Same v w ↔ p = q := by
  constructor
  · intro h
    cases h with
    | number hLeft hRight =>
      exact Option.some.inj (hv.symm.trans (hLeft.trans (hRight.symm.trans hw)))
    | null | bool _ | string _ | list _ => cases hv
  · rintro rfl
    exact .number hv hw

theorem Same.quantity?_eq (h : Same v w) : v.quantity? = w.quantity? := by
  cases h with
  | number hLeft hRight => exact hLeft.trans hRight.symm
  | null | bool _ | string _ | list _ => rfl

/-- A number has the key of no other value. -/
theorem key?_ne_of_number {q : Quantity} (hv : v.quantity? = some q) (hw : w.quantity? = none)
    (hNaN : w.hasNaN = false) : v.key? ≠ w.key? := by
  have hOther : (∀ n, w.key? ≠ some (.int n)) ∧ ∀ bits, w.key? ≠ some (.float bits) := by
    cases w with
    | int _ | nat _ => cases hw
    | float x => exact absurd hw (quantity?_float_ne_none hNaN)
    | null | bool _ | string _ | list _ => exact ⟨nofun, nofun⟩
  intro h
  rcases number_key? hv with ⟨n, hKey⟩ | ⟨bits, hKey⟩
  · exact hOther.1 n (h.symm.trans hKey)
  · exact hOther.2 bits (h.symm.trans hKey)

theorem same_list_cons :
    Same (list (v :: vs)) (list (w :: ws)) ↔ Same v w ∧ Same (list vs) (list ws) := by
  constructor
  · intro h
    cases h with
    | number hLeft _ => cases hLeft
    | list hMembers =>
      obtain ⟨hFirst, hRest⟩ := List.forall₂_cons.mp hMembers
      exact ⟨hFirst, .list hRest⟩
  · rintro ⟨hFirst, hRest⟩
    cases hRest with
    | number hLeft _ => cases hLeft
    | list hRest => exact .list (.cons hFirst hRest)

theorem parted_list_cons :
    Parted (list (v :: vs)) (list (w :: ws)) ↔ Parted v w ∨ Parted (list vs) (list ws) := by
  constructor
  · intro h
    cases h with
    | @list _ _ i _ _ hLeft hRight hMembers =>
      cases i with
      | zero =>
        cases hLeft
        cases hRight
        exact .inl hMembers
      | succ i => exact .inr (.list hLeft hRight hMembers)
  · rintro (hFirst | hRest)
    · exact .list (i := 0) rfl rfl hFirst
    · cases hRest with
      | @list _ _ i _ _ hLeft hRight hMembers =>
        exact .list (i := i + 1) hLeft hRight hMembers

theorem not_parted_nil_left : ¬ Parted (list []) (list ws) := by
  rintro (_ | _ | ⟨hLeft, _, _⟩)
  cases hLeft

theorem not_same_nil_cons : ¬ Same (list []) (list (w :: ws)) := by
  rintro (_ | _ | _ | ⟨hLeft, _⟩ | ⟨⟨⟩⟩)
  cases hLeft

theorem not_same_cons_nil : ¬ Same (list (v :: vs)) (list []) := by
  rintro (_ | _ | _ | ⟨hLeft, _⟩ | ⟨⟨⟩⟩)
  cases hLeft

theorem keys_cons_of_null (h : v.isNull = true) (vs : List Value) :
    keys (v :: vs) = keys vs ∧ nonNulls (v :: vs) = nonNulls vs := by
  cases v with
  | null => exact ⟨rfl, rfl⟩
  | bool _ | int _ | nat _ | float _ | string _ | list _ => cases h

theorem keys_cons_of_not_null (h : v.isNull = false) (vs : List Value) :
    (∃ k, v.key? = some k ∧ keys (v :: vs) = k :: keys vs) ∧
      nonNulls (v :: vs) = v.withoutNulls :: nonNulls vs := by
  refine ⟨?_, by rw [nonNulls, h, if_neg Bool.false_ne_true]⟩
  rw [isNull_eq_isNone, Option.isNone_eq_false_iff, Option.isSome_iff_exists] at h
  obtain ⟨k, hKey⟩ := h
  exact ⟨k, hKey, by rw [keys, hKey]⟩

theorem withoutNulls_of_number {q : Quantity} (h : v.quantity? = some q) : v.withoutNulls = v := by
  cases v with
  | list _ => cases h
  | null | bool _ | int _ | nat _ | float _ | string _ => rfl

theorem not_same_of_quantity? (h : v.quantity? ≠ w.quantity?) :
    ¬ Same v.withoutNulls w.withoutNulls := by
  intro hSame
  have hQuantity := hSame.quantity?_eq
  rw [quantity?_withoutNulls, quantity?_withoutNulls] at hQuantity
  exact h hQuantity

theorem same_bool_iff {b : Bool} : Same (bool b) w ↔ w = bool b := by
  constructor
  · rintro (_ | _ | _ | ⟨hLeft, _⟩ | _)
    · rfl
    · cases hLeft
  · rintro rfl
    exact .bool b

theorem same_string_iff {s : String} : Same (string s) w ↔ w = string s := by
  constructor
  · rintro (_ | _ | _ | ⟨hLeft, _⟩ | _)
    · rfl
    · cases hLeft
  · rintro rfl
    exact .string s

theorem not_same_list_of_isList (h : w.isList = false) : ¬ Same (list vs) w := by
  rintro (_ | _ | _ | ⟨hLeft, _⟩ | _)
  · cases hLeft
  · cases h

theorem not_parted_of_scalar (hv : v.quantity? = none) (hw : w.quantity? = none)
    (hList : v.isList = false) : ¬ Parted v w := by
  rintro (⟨_, hRight, _⟩ | ⟨hLeft, _, _⟩ | _)
  · cases hw.symm.trans hRight
  · cases hv.symm.trans hLeft
  · cases hList

mutual

/-- Keys agree if the values without their nulls do, unless an integer meets a large float. -/
theorem key?_eq_iff (v w : Value) (hv : v.isNull = false) (hw : w.isNull = false)
    (hNaN : v.hasNaN = false) (hNaN' : w.hasNaN = false) : v.key? = w.key? ↔
      Same v.withoutNulls w.withoutNulls ∧ ¬ Parted v.withoutNulls w.withoutNulls := by
  cases hp : v.quantity? with
  | some p =>
    cases hq : w.quantity? with
    | some q =>
      rw [withoutNulls_of_number hp, withoutNulls_of_number hq, number_key?_eq_iff hp hq,
        same_numbers_iff hp hq]
    | none =>
      exact iff_of_false (key?_ne_of_number hp hq hNaN')
        fun h => not_same_of_quantity? (by rw [hp, hq]; exact nofun) h.1
  | none =>
    cases hq : w.quantity? with
    | some q =>
      exact iff_of_false (key?_ne_of_number hq hp hNaN).symm
        fun h => not_same_of_quantity? (by rw [hp, hq]; exact nofun) h.1
    | none =>
      cases v with
      | null => cases hv
      | int _ | nat _ => cases hp
      | float x => exact absurd hp (quantity?_float_ne_none hNaN)
      | bool b =>
        have hApart : ¬ Parted (bool b) w.withoutNulls :=
          not_parted_of_scalar hp ((quantity?_withoutNulls w).trans hq) rfl
        refine Iff.trans ?_ (and_iff_left hApart).symm
        cases w with
        | null => cases hw
        | int _ | nat _ => cases hq
        | float x => exact absurd hq (quantity?_float_ne_none hNaN')
        | bool c =>
          refine ⟨fun h => ?_, fun h => (congrArg key? (same_bool_iff.mp h)).symm⟩
          cases h
          exact .bool b
        | string _ | list _ => exact iff_of_false nofun fun h => by cases same_bool_iff.mp h
      | string s =>
        have hApart : ¬ Parted (string s) w.withoutNulls :=
          not_parted_of_scalar hp ((quantity?_withoutNulls w).trans hq) rfl
        refine Iff.trans ?_ (and_iff_left hApart).symm
        cases w with
        | null => cases hw
        | int _ | nat _ => cases hq
        | float x => exact absurd hq (quantity?_float_ne_none hNaN')
        | string t =>
          refine ⟨fun h => ?_, fun h => (congrArg key? (same_string_iff.mp h)).symm⟩
          cases h
          exact .string s
        | bool _ | list _ => exact iff_of_false nofun fun h => by cases same_string_iff.mp h
      | list vs =>
        cases w with
        | null => cases hw
        | int _ | nat _ => cases hq
        | float x => exact absurd hq (quantity?_float_ne_none hNaN')
        | bool _ | string _ => exact iff_of_false nofun fun h => not_same_list_of_isList rfl h.1
        | list ws =>
          rw [key?, key?, Option.some.injEq, Key.list.injEq]
          exact keys_eq_iff vs ws hNaN hNaN'

theorem keys_eq_iff (vs ws : List Value) (hNaN : anyNaN vs = false) (hNaN' : anyNaN ws = false) :
    keys vs = keys ws ↔ Same (list (nonNulls vs)) (list (nonNulls ws)) ∧
      ¬ Parted (list (nonNulls vs)) (list (nonNulls ws)) := by
  cases vs with
  | nil =>
    induction ws with
    | nil => exact ⟨fun _ => ⟨.list .nil, not_parted_nil_left⟩, fun _ => rfl⟩
    | cons w ws ih =>
      obtain ⟨hFirst, hRest⟩ := Bool.or_eq_false_iff.mp hNaN'
      cases hw : w.isNull with
      | true =>
        obtain ⟨hKeys, hMembers⟩ := keys_cons_of_null hw ws
        rw [hKeys, hMembers]
        exact ih hRest
      | false =>
        obtain ⟨⟨k, _, hKeys⟩, hMembers⟩ := keys_cons_of_not_null hw ws
        rw [hKeys, hMembers]
        exact ⟨nofun, fun h => absurd h.1 not_same_nil_cons⟩
  | cons v vs =>
    obtain ⟨hFirst, hRest⟩ := Bool.or_eq_false_iff.mp hNaN
    cases hv : v.isNull with
    | true =>
      obtain ⟨hKeys, hMembers⟩ := keys_cons_of_null hv vs
      rw [hKeys, hMembers]
      exact keys_eq_iff vs ws hRest hNaN'
    | false =>
      obtain ⟨⟨k, hKey, hKeys⟩, hMembers⟩ := keys_cons_of_not_null hv vs
      rw [hKeys, hMembers]
      induction ws with
      | nil => exact ⟨nofun, fun h => absurd h.1 not_same_cons_nil⟩
      | cons w ws ih =>
        obtain ⟨hFirst', hRest'⟩ := Bool.or_eq_false_iff.mp hNaN'
        cases hw : w.isNull with
        | true =>
          obtain ⟨hKeys', hMembers'⟩ := keys_cons_of_null hw ws
          rw [hKeys', hMembers']
          exact ih hRest'
        | false =>
          obtain ⟨⟨l, hKey', hKeys'⟩, hMembers'⟩ := keys_cons_of_not_null hw ws
          have hHead := key?_eq_iff v w hv hw hFirst hFirst'
          rw [hKey, hKey', Option.some.injEq] at hHead
          rw [hKeys', hMembers', List.cons.injEq, hHead, keys_eq_iff vs ws hRest hRest',
            same_list_cons, parted_list_cons]
          tauto

end

theorem Same.isNull_eq (h : Same v w) : v.isNull = w.isNull := by
  cases h with
  | number hLeft hRight =>
    have hOther {u : Value} {q : Quantity} (hu : u.quantity? = some q) : u.isNull = false := by
      cases u with
      | null => cases hu
      | bool _ | int _ | nat _ | float _ | string _ | list _ => rfl
    rw [hOther hLeft, hOther hRight]
  | null | bool _ | string _ | list _ => rfl

theorem null_of_isNull (h : v.isNull = true) : v = null := by
  cases v with
  | null => rfl
  | bool _ | int _ | nat _ | float _ | string _ | list _ => cases h

theorem not_parted_null : ¬ Parted null null := by
  rintro (_ | _ | _)

mutual

/-- The same nulls are left out of values that are the same. -/
theorem same_withoutNulls (v : Value) {w : Value} (h : Same v w) :
    Same v.withoutNulls w.withoutNulls ∧
      (Parted v.withoutNulls w.withoutNulls ↔ Parted v w) := by
  cases h with
  | number hLeft hRight =>
    rw [withoutNulls_of_number hLeft, withoutNulls_of_number hRight]
    exact ⟨.number hLeft hRight, Iff.rfl⟩
  | null => exact ⟨.null, Iff.rfl⟩
  | bool b => exact ⟨.bool b, Iff.rfl⟩
  | string s => exact ⟨.string s, Iff.rfl⟩
  | @list vs ws hMembers => exact same_nonNulls vs hMembers

theorem same_nonNulls (vs : List Value) {ws : List Value} (h : List.Forall₂ Same vs ws) :
    Same (list (nonNulls vs)) (list (nonNulls ws)) ∧
      (Parted (list (nonNulls vs)) (list (nonNulls ws)) ↔ Parted (list vs) (list ws)) := by
  cases h with
  | nil => exact ⟨.list .nil, Iff.rfl⟩
  | @cons v w vs ws hFirst hRest =>
    obtain ⟨hSame, hParted⟩ := same_nonNulls vs hRest
    have hNulls := hFirst.isNull_eq
    cases hv : v.isNull with
    | true =>
      have hw : w.isNull = true := hNulls ▸ hv
      rw [(keys_cons_of_null hv vs).2, (keys_cons_of_null hw ws).2, parted_list_cons, hParted,
        null_of_isNull hv, null_of_isNull hw]
      exact ⟨hSame, (or_iff_right not_parted_null).symm⟩
    | false =>
      have hw : w.isNull = false := hNulls ▸ hv
      obtain ⟨hSameFirst, hPartedFirst⟩ := same_withoutNulls v hFirst
      rw [(keys_cons_of_not_null hv vs).2, (keys_cons_of_not_null hw ws).2, same_list_cons,
        parted_list_cons, parted_list_cons, hPartedFirst, hParted]
      exact ⟨⟨hSameFirst, hSame⟩, Iff.rfl⟩

end

/-- Keys are equal exactly if the values are the same apart from nulls in lists and no integer meets
a float of the same amount that is not below nine quadrillions. So keys identify values exactly if
none of them that are the same are parted, and none that are the same without their nulls differ. -/
theorem key_identifies_iff {a b : Value} (ha : a.isNull = false) (hb : b.isNull = false)
    (hNaN : a.hasNaN = false) (hNaN' : b.hasNaN = false) :
    (a.key? = b.key? ↔
      Same a.withoutNulls b.withoutNulls ∧ ¬ Parted a.withoutNulls b.withoutNulls) ∧
    ((a.key? = b.key? ↔ Same a b) ↔
      (Same a b → ¬ Parted a b) ∧
      (Same a.withoutNulls b.withoutNulls → Same a b ∨ Parted a.withoutNulls b.withoutNulls)) := by
  have hKeys := key?_eq_iff a b ha hb hNaN hNaN'
  have hSame : Same a b → Same a.withoutNulls b.withoutNulls ∧
      (Parted a.withoutNulls b.withoutNulls ↔ Parted a b) := same_withoutNulls a
  refine ⟨hKeys, ?_⟩
  rw [hKeys]
  tauto

def five : Binary64 := ⟨0x4014000000000000⟩

/-- Three numbers, a truth value and a null, with integers for the floats or the other way round. -/
theorem fives_identified :
    let a := list [int 5, list [bool true, null], nat 9000000000000000]
    let b := list [float five, list [bool true, null], int 9000000000000000]
    a.isNull = false ∧ b.isNull = false ∧ a.hasNaN = false ∧ b.hasNaN = false ∧
      Same a b ∧ a.key? = b.key? ∧ ¬ Parted a b := by
  intro a b
  have hKey : a.key? = b.key? := by decide +kernel
  have hFive : five.quantity? = some (.finite (5 * unitsInOne)) :=
    Binary64.integer?_eq_some_iff.mp (by decide +kernel)
  have hSame : Same a b := .list (.cons (.number rfl hFive)
    (.cons (.list (.cons (.bool true) (.cons .null .nil))) (.cons (.number rfl rfl) .nil)))
  have hNaN : b.hasNaN = false := by decide +kernel
  have hIdentifies := (key_identifies_iff (a := a) (b := b) rfl rfl rfl hNaN).2
  exact ⟨rfl, rfl, rfl, hNaN, hSame, hKey, (hIdentifies.mp ⟨fun _ => hSame, fun _ => hKey⟩).1 hSame⟩

def nineQuadrillions : Binary64 := ⟨0x433FF973CAFA8000⟩

/-- The first whole float that does not find the integer of its value, and a null that does not
count in a list. -/
theorem large_float_parted :
    Same (int 9000000000000000) (float nineQuadrillions) ∧
      (int 9000000000000000).key? ≠ (float nineQuadrillions).key? ∧
      ¬ Same (list [null]) (list []) ∧ (list [null]).key? = (list []).key? := by
  have hWhole : nineQuadrillions.quantity? = some (.finite (9000000000000000 * unitsInOne)) :=
    Binary64.integer?_eq_some_iff.mp (by decide +kernel)
  exact ⟨.number rfl hWhole, by decide +kernel, not_same_cons_nil, rfl⟩

end Value
end RowTree
