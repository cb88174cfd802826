import RowTree.Proofs.Dates
import RowTree.Proofs.Drafts

/-!
# Shifts of the current time

What the text of a shifted date says in a dialect: how many units it goes ahead or back. A date in
a filter says the same in all dialects, except that SQLite counts seven days for a week. Their
number is counted in 64 bits, so that for SQLite nothing is written exactly if it is 2⁶⁴ or more.
-/

namespace RowTree

open Schema Sql Text
open FilterText (signed)

namespace Sql

/-- The words around a number of units, if the time goes ahead and if it goes back. -/
structure ShiftForm where
  ahead : String
  back : String
  units : List (String × Interval)
  close : String

def intervalWords : List (String × Interval) :=
  [("DAY", .day), ("WEEK", .week), ("MONTH", .month), ("YEAR", .year)]

def Dialect.shiftForm : Dialect → ShiftForm
  | mySql => ⟨"DATE_ADD(NOW(), INTERVAL ", "DATE_SUB(NOW(), INTERVAL ", intervalWords, ")"⟩
  | postgreSql => ⟨"NOW() + INTERVAL '", "NOW() - INTERVAL '", intervalWords, "'"⟩
  | sqlite =>
    ⟨"datetime('now', '+", "datetime('now', '-",
      [("days", .day), ("months", .month), ("years", .year)], "')"⟩

namespace ShiftForm

variable (form : ShiftForm)

/-- A number, a blank, the word of a unit and the end of the text. -/
def count? (text : List Char) : Option (Nat × Interval) :=
  match text.dropWhile Char.isDigit with
  | ' ' :: rest => do
    let n ← natural? (text.takeWhile Char.isDigit)
    let found ← form.units.find? fun entry => (entry.1 ++ form.close).toList == rest
    some (n, found.2)
  | _ => none

/-- How many units of which kind the text goes ahead, or back if the number is negative. -/
def read? (text : List Char) : Option (Int × Interval) :=
  match text.dropPrefix? form.ahead.toList with
  | some rest => (form.count? rest).map fun found => ((found.1 : Int), found.2)
  | none =>
    match text.dropPrefix? form.back.toList with
    | some rest => (form.count? rest).map fun found => (-(found.1 : Int), found.2)
    | none => none

/-- The text of so many units ahead or back. -/
def text (back : Bool) (n : Nat) (word : String) : List Char :=
  (if back then form.back else form.ahead).toList ++
    (n.repr.toList ++ ' ' :: (word ++ form.close).toList)

end ShiftForm

theorem natural?_repr (n : Nat) : natural? n.repr.toList = some n := by
  have hDigits : ∀ c ∈ n.repr.toList, c.isDigit = true := by
    rw [Nat.toList_repr]
    exact fun c hc => Nat.isDigit_of_mem_toDigits (by decide) (by decide) hc
  have hSome : n.repr.toList ≠ [] := by
    rw [Nat.toList_repr]
    exact Nat.toDigits_ne_nil
  rw [FilterText.natural?_eq_some hSome hDigits, Nat.toList_repr,
    Nat.ofDigitChars_toDigits (by decide) (Nat.le_refl _)]

namespace ShiftForm

variable {form : ShiftForm} {word : String} {unit : Interval}

theorem count?_eq_some (n : Nat)
    (hUnit : form.units.find? (fun entry => (entry.1 ++ form.close).toList ==
      (word ++ form.close).toList) = some (word, unit)) :
    form.count? (n.repr.toList ++ ' ' :: (word ++ form.close).toList) = some (n, unit) := by
  have hFree : DigitFree (' ' :: (word ++ form.close).toList) := by
    rintro c ⟨⟩
    rfl
  have hTake := takeWhile_repr_append n hFree
  have hDrop := List.takeWhile_append_dropWhile
    (p := Char.isDigit) (l := n.repr.toList ++ ' ' :: (word ++ form.close).toList)
  rw [hTake, List.append_cancel_left_eq] at hDrop
  rw [count?, hDrop, hTake]
  simp only [natural?_repr, hUnit]
  rfl

theorem dropPrefix?_append (front rest : List Char) :
    (front ++ rest).dropPrefix? front = some rest :=
  List.dropPrefix?_eq_some_iff.mpr ⟨front, rfl, beq_self_eq_true front⟩

theorem dropPrefix?_of_ne {front other : List Char} (hLength : front.length = other.length)
    (hNe : front ≠ other) (rest : List Char) : (other ++ rest).dropPrefix? front = none := by
  rw [Option.eq_none_iff_forall_ne_some]
  intro found hFound
  obtain ⟨same, hText, hSame⟩ := List.dropPrefix?_eq_some_iff.mp hFound
  obtain rfl := beq_iff_eq.mp hSame
  exact hNe (List.append_inj hText hLength.symm).1.symm

theorem read?_text (back : Bool) (n : Nat)
    (hLength : form.ahead.toList.length = form.back.toList.length)
    (hNe : form.ahead.toList ≠ form.back.toList)
    (hUnit : form.units.find? (fun entry => (entry.1 ++ form.close).toList ==
      (word ++ form.close).toList) = some (word, unit)) :
    form.read? (form.text back n word) = some (signed back n, unit) := by
  cases back with
  | false =>
    rw [read?, text, if_neg Bool.false_ne_true, dropPrefix?_append]
    simp only [count?_eq_some n hUnit]
    rfl
  | true =>
    rw [read?, text, if_pos rfl, dropPrefix?_of_ne hLength hNe, dropPrefix?_append]
    simp only [count?_eq_some n hUnit]
    rfl

end ShiftForm

/-- The unit that a dialect counts for a unit. SQLite has no weeks. -/
def Dialect.unitFor : Dialect → Interval → Interval
  | .sqlite, .week => .day
  | _, unit => unit

/-- How many of these make one unit. -/
def Dialect.factor : Dialect → Interval → Nat
  | .sqlite, .week => 7
  | _, _ => 1

def Dialect.unitWord : Dialect → Interval → String
  | .mySql, unit | .postgreSql, unit => unit.word
  | .sqlite, unit => (sqliteShift 0 unit).2

theorem sqliteShift_eq (size : Nat) (unit : Interval) :
    sqliteShift size unit = (Dialect.sqlite.factor unit * size, Dialect.unitWord .sqlite unit) := by
  cases unit with
  | week => exact congrArg (·, "days") (Nat.mul_comm size 7)
  | day | month | year => exact congrArg (·, _) (Nat.one_mul size).symm

theorem chars_shift (dialect : Dialect) (amount : Int64) (unit : Interval) (bound : Nat) :
    chars dialect bound (shiftPieces dialect amount unit) =
      dialect.shiftForm.text (decide (amount < 0))
        (dialect.factor unit * amount.toInt.natAbs) (dialect.unitWord unit) := by
  rw [ShiftForm.text]
  cases dialect with
  | mySql =>
    rw [show Dialect.mySql.factor unit = 1 from rfl, Nat.one_mul]
    by_cases hBack : amount < 0 <;>
      simp [shiftPieces, hBack, Dialect.shiftForm, Dialect.unitWord]
  | postgreSql =>
    have hWord : '\'' ∉ unit.word.toList := by cases unit <;> decide
    rw [show Dialect.postgreSql.factor unit = 1 from rfl, Nat.one_mul]
    by_cases hBack : amount < 0 <;>
      simp [shiftPieces, hBack, chars_constant, doubled_measure _ hWord, Dialect.shiftForm,
        Dialect.unitWord]
  | sqlite =>
    have hWord : '\'' ∉ (Dialect.unitWord .sqlite unit).toList := by cases unit <;> decide
    have hNil : doubled '\'' [] = [] := rfl
    by_cases hBack : amount < 0 <;>
      simp [shiftPieces, hBack, sqliteShift_eq, chars_constant, hNil, doubled_cons,
        doubled_measure _ hWord, Dialect.shiftForm]

theorem find?_unitWord (dialect : Dialect) (unit : Interval) :
    dialect.shiftForm.units.find? (fun entry => (entry.1 ++ dialect.shiftForm.close).toList ==
      (dialect.unitWord unit ++ dialect.shiftForm.close).toList) =
        some (dialect.unitWord unit, dialect.unitFor unit) := by
  cases dialect <;> cases unit <;> decide

theorem read?_shift (dialect : Dialect) (amount : Int64) (unit : Interval) (bound : Nat) :
    dialect.shiftForm.read? (chars dialect bound (shiftPieces dialect amount unit)) =
      some (signed (decide (amount < 0)) (dialect.factor unit * amount.toInt.natAbs),
        dialect.unitFor unit) := by
  rw [chars_shift]
  refine ShiftForm.read?_text _ _ ?_ ?_ (find?_unitWord dialect unit)
  · cases dialect <;> decide
  · cases dialect <;> decide

theorem toInt_ofInt_signed {n : Nat} (h : n < 2 ^ 63) (back : Bool) :
    (Int64.ofInt (signed back n)).toInt = signed back n := by
  have hRange : -2 ^ 63 ≤ signed back n ∧ signed back n < 2 ^ 63 := by
    constructor <;> cases back <;> simp only [signed] <;> omega
  exact Int64.toInt_ofInt_of_le hRange.1 hRange.2

theorem natAbs_ofInt_signed {n : Nat} (h : n < 2 ^ 63) (back : Bool) :
    (Int64.ofInt (signed back n)).toInt.natAbs = n := by
  rw [toInt_ofInt_signed h]
  cases back <;> simp [signed]

/-- The sign of the number zero makes no difference. -/
theorem signed_of_lt_zero {back : Bool} {m n : Nat} (h : n = 0 → m = 0) :
    signed (decide (signed back n < 0)) m = signed back m := by
  cases back with
  | false =>
    have hAhead : ¬ signed false n < 0 := Int.not_lt.mpr (Int.natCast_nonneg n)
    rw [decide_eq_false hAhead]
  | true =>
    by_cases hZero : n = 0
    · rw [h hZero, hZero]
      rfl
    · have hBack : signed true n < 0 := Int.neg_neg_of_pos (by omega)
      rw [decide_eq_true hBack]

/-- A number that a signed 64-bit number can hold, as it is written. -/
theorem read?_signed (dialect : Dialect) (back : Bool) {n : Nat} (h : n < 2 ^ 63)
    (unit : Interval) (bound : Nat) :
    dialect.shiftForm.read?
        (chars dialect bound (shiftPieces dialect (Int64.ofInt (signed back n)) unit)) =
      some (signed back (dialect.factor unit * n), dialect.unitFor unit) := by
  have hInt := toInt_ofInt_signed h back
  have hSize := natAbs_ofInt_signed h back
  have hBack : (Int64.ofInt (signed back n) < 0) ↔ signed back n < 0 := by
    rw [Int64.lt_iff_toInt_lt, hInt, Int64.toInt_zero]
  rw [read?_shift, hSize, decide_eq_decide.mpr hBack, signed_of_lt_zero]
  rintro rfl
  rfl

theorem shiftFits_iff {dialect : Dialect} {amount : Int64} {unit : Interval} :
    shiftFits dialect amount unit = true ↔
      (dialect = .sqlite → unit = .week → 7 * amount.toInt.natAbs < 2 ^ 64) := by
  have hSeven : amount.toInt.natAbs * 7 < UInt64.size ↔ 7 * amount.toInt.natAbs < 2 ^ 64 := by
    rw [Nat.mul_comm]
    exact Iff.rfl
  cases dialect <;> cases unit <;> simp [shiftFits, hSeven]

/-- The text that is written for the expression says to go so many units ahead, or back if their
number is negative. -/
def WritesShift (style : Style) (draft : Draft) (e : Expr) (count : Int) (unit : Interval) : Prop :=
  ∃ text, (e.write.run style).run draft = some ((), { draft with text := draft.text ++ text }) ∧
    style.dialect.shiftForm.read? text.toList = some (count, unit)

/-- A shift is written as the text that says it exactly if its units can be counted, and nothing is
written otherwise. -/
theorem writes_shift_iff (style : Style) (draft : Draft) (back : Bool) {n : Nat} (h : n < 2 ^ 63)
    (unit : Interval) :
    (WritesShift style draft (.shiftedNow (Int64.ofInt (signed back n)) unit)
        (signed back (style.dialect.factor unit * n)) (style.dialect.unitFor unit) ↔
      (style.dialect = .sqlite → unit = .week → 7 * n < 2 ^ 64)) ∧
    (((Expr.shiftedNow (Int64.ofInt (signed back n)) unit).write.run style).run draft = none ↔
      style.dialect = .sqlite ∧ unit = .week ∧ 2 ^ 64 ≤ 7 * n) := by
  have hWritten := adds_shift style (Int64.ofInt (signed back n)) unit draft
  have hCondition : shiftFits style.dialect (Int64.ofInt (signed back n)) unit = true ↔
      (style.dialect = .sqlite → unit = .week → 7 * n < 2 ^ 64) := by
    rw [shiftFits_iff, natAbs_ofInt_signed h]
  rw [Draft.add_of_no_params style draft (paramsOf_shiftPieces _ _ _)] at hWritten
  simp only [hCondition] at hWritten
  rw [WritesShift, Expr.write, hWritten]
  by_cases hFits : style.dialect = .sqlite → unit = .week → 7 * n < 2 ^ 64
  · rw [if_pos hFits]
    refine ⟨iff_of_true ⟨_, rfl, read?_signed _ back h unit 0⟩ hFits, ?_⟩
    exact iff_of_false nofun fun ⟨hDialect, hWeek, hMany⟩ =>
      Nat.not_lt.mpr hMany (hFits hDialect hWeek)
  · rw [if_neg hFits]
    exact ⟨iff_of_false nofun hFits, iff_of_true rfl (by simpa using hFits)⟩

end Sql

open FilterText

namespace Compile

theorem not_isBlank_of_isNamePart {c : Char} (h : isNamePart c = true) : isBlank c = false := by
  rcases Bool.or_eq_true_iff.mp h with hAlphanum | hLine
  · rcases Bool.or_eq_true_iff.mp hAlphanum with hAlpha | hDigit
    · exact not_isBlank_of_isAlpha hAlpha
    · exact not_isBlank_of_isDigit hDigit
  · rw [beq_iff_eq.mp hLine]
    decide

theorem isNamePart_of_isNameStart {c : Char} (h : isNameStart c = true) : isNamePart c = true := by
  rcases Bool.or_eq_true_iff.mp h with hAlpha | hLine
  · exact Bool.or_eq_true_iff.mpr (.inl (Bool.or_eq_true_iff.mpr (.inl hAlpha)))
  · exact Bool.or_eq_true_iff.mpr (.inr hLine)

/-- There are no blanks in a code name. -/
theorem solid_of_isCodeName {name : String} (h : isCodeName name = true) :
    Starts name.toList ∧ ∀ c ∈ name.toList, isBlank c = false := by
  unfold isCodeName at h
  split at h
  · rename_i first second rest hName
    obtain ⟨hFirst, hRest⟩ := Bool.and_eq_true_iff.mp h
    have hSolid : ∀ c ∈ first :: second :: rest, isBlank c = false :=
      List.forall_mem_cons.mpr ⟨not_isBlank_of_isNamePart (isNamePart_of_isNameStart hFirst),
        fun c hc => not_isBlank_of_isNamePart (List.all_eq_true.mp hRest c hc)⟩
    rw [hName]
    exact ⟨⟨first, second :: rest, rfl, hSolid first List.mem_cons_self⟩, hSolid⟩
  · cases h

theorem isCodeName_of_mem_fields {top model : Model} (hTop : top.Compiled)
    (hWithin : top.Within model) {field : Field} (hField : field ∈ model.entity.fields) :
    isCodeName field.name = true := by
  obtain ⟨_, _, _, scope, _, _, hBound, hEntity⟩ := hTop.exists_entityBound hWithin
  rw [hEntity] at hField
  obtain ⟨fieldDefinition, _, hFieldBound⟩ := Outcome.exists_of_mem_left hBound.fields.flip hField
  exact hFieldBound.name_eq ▸ hFieldBound.name

end Compile

/-- A date of a filter is written in every dialect as the shift of the current time that it is, and
SQLite counts seven days for a week; but exactly if the number of days is less than 2⁶⁴. Otherwise
nothing is written for SQLite. -/
theorem date_shift_exact_iff {top model : Model} (hTop : top.Compiled) (hWithin : top.Within model)
    {field : Field} (hField : field ∈ model.entity.fields) {column : Expr}
    (hColumn : field.expr? = some column) {operator : Operator} {word : List Char}
    (hWord : DateWord operator word) {before after : List Char} (hBefore : Blanks before)
    (hAfter : Blanks after) {back : Bool} {n : Nat} {unit : Interval} {value : List Char}
    (hValue : Written back n unit value) :
    ∃ amount : Int64, amount.toInt = signed back n ∧
      FilterText.read (String.ofList (clauseText field.name.toList before word after value))
          model.entity.fields =
        .ok (some (.compare (dateComparison operator) column (.shiftedNow amount unit))) ∧
      ∀ (style : Style) (draft : Draft),
        (WritesShift style draft (.shiftedNow amount unit)
            (signed back (style.dialect.factor unit * n)) (style.dialect.unitFor unit) ↔
          (style.dialect = .sqlite → unit = .week → 7 * n < 2 ^ 64)) ∧
        (((Expr.shiftedNow amount unit).write.run style).run draft = none ↔
          style.dialect = .sqlite ∧ unit = .week ∧ 2 ^ 64 ≤ 7 * n) := by
  obtain ⟨hStarts, hSolid⟩ := Compile.solid_of_isCodeName
    (Compile.isCodeName_of_mem_fields hTop hWithin hField)
  have hNames := (hTop.wellFormed.within hWithin).fields
  have hFound : findField? model.entity.fields field.name = some field :=
    Compile.find?_of_nodup hNames hField
  exact ⟨Int64.ofInt (signed back n), toInt_ofInt_signed hValue.fits back,
    read_date_clause hFound hColumn hStarts hSolid hBefore hWord hAfter hValue,
    fun style draft => writes_shift_iff style draft back hValue.fits unit⟩

namespace Sales

theorem compiled : model.Compiled := ⟨catalog, definition, rfl⟩

theorem sale_within : model.Within (.node sale []) :=
  .child .self (List.mem_singleton.mpr rfl)

def saleID : Field := { name := "SaleID", column := some ⟨"SaleID", "id"⟩ }

theorem blank_space : Blanks [' '] := ⟨List.cons_ne_nil _ _, List.all_eq_true.mp (by decide)⟩

theorem dateWord_before : DateWord .before "Before".toList := ⟨.inl rfl, by decide⟩

theorem written_weeks : Written true 3 .week "-3 weeks".toList :=
  @Written.intro true ['3'] [' '] "weeks".toList .week (List.cons_ne_nil _ _)
    (List.all_eq_true.mp (by decide)) (by decide) (fun _ => List.mem_singleton.mp) (by decide)

/-- As many weeks as a signed 64-bit number can hold. -/
theorem written_most : Written false 9223372036854775807 .week "9223372036854775807 W".toList :=
  @Written.intro false "9223372036854775807".toList [' '] ['W'] .week (by decide)
    (List.all_eq_true.mp (by decide)) (by decide) (fun _ => List.mem_singleton.mp) (by decide)

/-- Three weeks ago, which are 21 days for SQLite. -/
theorem weeks_ago :
    model.Compiled ∧ model.Within (.node sale []) ∧ saleID ∈ sale.fields ∧
    saleID.expr? = some (.columnOf 0 "id") ∧ DateWord .before "Before".toList ∧ Blanks [' '] ∧
    Written true 3 .week "-3 weeks".toList ∧
    ∃ amount : Int64, amount.toInt = -3 ∧
      FilterText.read "SaleID Before -3 weeks" sale.fields =
        .ok (some (.compare .less (.columnOf 0 "id") (.shiftedNow amount .week))) ∧
      WritesShift ⟨.postgreSql, false⟩ {} (.shiftedNow amount .week) (-3) .week ∧
      WritesShift ⟨.sqlite, false⟩ {} (.shiftedNow amount .week) (-21) .day := by
  have hField : saleID ∈ sale.fields := by simp [sale, saleID]
  obtain ⟨amount, hAmount, hRead, hShift⟩ := date_shift_exact_iff compiled sale_within hField rfl
    dateWord_before blank_space blank_space written_weeks
  exact ⟨compiled, sale_within, hField, rfl, dateWord_before, blank_space, written_weeks, amount,
    hAmount, hRead, (hShift ⟨.postgreSql, false⟩ {}).1.mpr (by decide),
    (hShift ⟨.sqlite, false⟩ {}).1.mpr (by decide)⟩

/-- The multiple of seven does not fit into 64 bits, and nothing is written for SQLite. -/
theorem weeks_overflow :
    model.Compiled ∧ model.Within (.node sale []) ∧ saleID ∈ sale.fields ∧
    saleID.expr? = some (.columnOf 0 "id") ∧ DateWord .before "Before".toList ∧ Blanks [' '] ∧
    Written false 9223372036854775807 .week "9223372036854775807 W".toList ∧
    ∃ amount : Int64,
      FilterText.read "SaleID Before 9223372036854775807 W" sale.fields =
        .ok (some (.compare .less (.columnOf 0 "id") (.shiftedNow amount .week))) ∧
      ∀ (inline : Bool) (draft : Draft),
        ((Expr.shiftedNow amount .week).write.run ⟨.sqlite, inline⟩).run draft = none := by
  have hField : saleID ∈ sale.fields := by simp [sale, saleID]
  have hFound : findField? sale.fields saleID.name = some saleID := rfl
  have hSolid := Compile.solid_of_isCodeName (by decide : isCodeName saleID.name = true)
  have hRead := read_date_clause hFound rfl hSolid.1 hSolid.2 blank_space dateWord_before
    blank_space written_most
  refine ⟨compiled, sale_within, hField, rfl, dateWord_before, blank_space, written_most,
    Int64.ofInt 9223372036854775807, hRead, fun inline draft => ?_⟩
  exact (writes_shift_iff ⟨.sqlite, inline⟩ draft false written_most.fits .week).2.mpr
    ⟨rfl, rfl, by decide⟩

end Sales

end RowTree
