import RowTree.MySql.Wire
import RowTree.Proofs.Numerals

/-!
# Dates and times as texts

What the texts that dates and times of a MySQL connection become still tell of them. The numbers of
a text stand apart from each other, whatever their widths, so a text tells all of them. It does not
tell the fraction of a second, except that at midnight there is a time of the day exactly if the
fraction is not zero. And the hours of a time are counted in 32 bits together with those of its
days, so there is a text exactly if there are fewer than 2³².
-/

namespace RowTree.MySql

open Text

theorem isDigit_of_mem_padded {width n : Nat} {c : Char} (h : c ∈ padded width n) :
    c.isDigit = true := by
  simp only [padded, List.mem_append] at h
  rcases h with hZero | hDigit
  · rw [List.eq_of_mem_replicate hZero]
    rfl
  · exact Json.NumberText.isDigit_of_mem_decimalDigits hDigit

theorem not_mem_padded {mark : Char} (hMark : mark.isDigit = false) (width n : Nat) :
    mark ∉ padded width n := by
  intro h
  rw [isDigit_of_mem_padded h] at hMark
  cases hMark

theorem padded_ne_nil (width n : Nat) : padded width n ≠ [] :=
  List.append_ne_nil_of_right_ne_nil _ Nat.toDigits_ne_nil

theorem ofDigitChars_zeros (count : Nat) (digits : List Char) :
    Nat.ofDigitChars 10 (List.replicate count '0' ++ digits) 0 =
      Nat.ofDigitChars 10 digits 0 := by
  induction count with
  | zero => rfl
  | succ count ih =>
    rw [List.replicate_succ, List.cons_append, Nat.ofDigitChars_cons]
    exact ih

theorem natural?_padded (width n : Nat) : natural? (padded width n) = some n := by
  rw [FilterText.natural?_eq_some (padded_ne_nil width n) fun c => isDigit_of_mem_padded, padded,
    ofDigitChars_zeros, decimalDigits, Nat.ofDigitChars_ten_toDigits]

theorem padded_inj {width m n : Nat} : padded width m = padded width n ↔ m = n := by
  constructor
  · intro h
    have hRead := congrArg natural? h
    rwa [natural?_padded, natural?_padded, Option.some.injEq] at hRead
  · exact congrArg _

theorem intercalate_inj {mark : Char} {parts others : List (List Char)}
    (hParts : ∀ part ∈ parts, mark ∉ part) (hOthers : ∀ part ∈ others, mark ∉ part)
    (hSome : parts ≠ []) (hSome' : others ≠ []) :
    [mark].intercalate parts = [mark].intercalate others ↔ parts = others := by
  constructor
  · intro h
    rw [← List.splitOn_intercalate mark hParts hSome, h,
      List.splitOn_intercalate mark hOthers hSome']
  · exact congrArg _

theorem clockText_eq (hours minutes seconds : Nat) : clockText hours minutes seconds =
    [':'].intercalate [padded 2 hours, padded 2 minutes, padded 2 seconds] := by
  simp [clockText, List.intercalate]

theorem dayText_eq (year month day : Nat) : dayText year month day =
    ['-'].intercalate [padded 4 year, padded 2 month, padded 2 day] := by
  simp [dayText, List.intercalate]

theorem clockText_inj {hours minutes seconds hours' minutes' seconds' : Nat} :
    clockText hours minutes seconds = clockText hours' minutes' seconds' ↔
      hours = hours' ∧ minutes = minutes' ∧ seconds = seconds' := by
  have hApart (w n : Nat) : ':' ∉ padded w n := not_mem_padded rfl w n
  rw [clockText_eq, clockText_eq, intercalate_inj (by simp [hApart]) (by simp [hApart])
    (List.cons_ne_nil _ _) (List.cons_ne_nil _ _)]
  simp [padded_inj]

theorem dayText_inj {year month day year' month' day' : Nat} :
    dayText year month day = dayText year' month' day' ↔
      year = year' ∧ month = month' ∧ day = day' := by
  have hApart (w n : Nat) : '-' ∉ padded w n := not_mem_padded rfl w n
  rw [dayText_eq, dayText_eq, intercalate_inj (by simp [hApart]) (by simp [hApart])
    (List.cons_ne_nil _ _) (List.cons_ne_nil _ _)]
  simp [padded_inj]

theorem not_mem_clockText {mark : Char} (hMark : mark.isDigit = false) (hColon : mark ≠ ':')
    (hours minutes seconds : Nat) : mark ∉ clockText hours minutes seconds := by
  simp [clockText, not_mem_padded hMark, hColon]

theorem not_mem_dayText {mark : Char} (hMark : mark.isDigit = false) (hDash : mark ≠ '-')
    (year month day : Nat) : mark ∉ dayText year month day := by
  simp [dayText, not_mem_padded hMark, hDash]

namespace Wire

/-- Two dates, or two times, that are the same as far as texts tell. -/
inductive Alike : Wire → Wire → Prop
  | date {year : UInt16} {month day hour minute second : UInt8} {fraction fraction' : UInt32}
      (midnight : hour = 0 → minute = 0 → second = 0 → (fraction = 0 ↔ fraction' = 0)) :
      Alike (.date year month day hour minute second fraction)
        (.date year month day hour minute second fraction')
  | time {negative : Bool} {days days' : UInt32} {hours hours' minutes seconds : UInt8}
      {fraction fraction' : UInt32}
      (total : 24 * days.toNat + hours.toNat = 24 * days'.toNat + hours'.toNat) :
      Alike (.time negative days hours minutes seconds fraction)
        (.time negative days' hours' minutes seconds fraction')

def isMoment : Wire → Bool
  | .date .. | .time .. => true
  | _ => false

/-- The hours of a time with those of its days. -/
def hours? : Wire → Option Nat
  | .time _ days hours _ _ _ => some (24 * days.toNat + hours.toNat)
  | _ => none

/-- A time of no more hours than a 32-bit word counts, or no time. -/
def Readable (v : Wire) : Prop := ∀ total, v.hours? = some total → total < UInt32.size

end Wire

/-- The day, and the time of the day unless there is none. -/
def dateParts (year : UInt16) (month day hour minute second : UInt8) (fraction : UInt32) :
    List (List Char) :=
  dayText year.toNat month.toNat day.toNat ::
    if hour = 0 ∧ minute = 0 ∧ second = 0 ∧ fraction = 0 then []
    else [clockText hour.toNat minute.toNat second.toNat]

/-- What is written of a date, or of a time with however many hours. -/
def Wire.chars : Wire → List Char
  | .date year month day hour minute second fraction =>
    [' '].intercalate (dateParts year month day hour minute second fraction)
  | .time negative days hours minutes seconds _ =>
    timeText negative (24 * days.toNat + hours.toNat) minutes.toNat seconds.toNat
  | _ => []

theorem totalHours?_eq_some_iff {days : UInt32} {hours : UInt8} {total : Nat} :
    totalHours? days hours = some total ↔
      24 * days.toNat + hours.toNat = total ∧ total < UInt32.size := by
  have hSum : hours.toNat + days.toNat * 24 = 24 * days.toNat + hours.toNat := by omega
  rw [totalHours?, hSum, Option.ite_none_right_eq_some, Option.some.injEq]
  constructor
  · rintro ⟨hFits, rfl⟩
    exact ⟨rfl, hFits⟩
  · rintro ⟨rfl, hFits⟩
    exact ⟨hFits, rfl⟩

theorem decode?_eq_some_iff {v : Wire} (hv : v.isMoment = true) {s : Value} :
    decode? v = some s ↔ v.Readable ∧ s = .string (String.ofList v.chars) := by
  cases v with
  | date year month day hour minute second fraction =>
    have hText : decode? (.date year month day hour minute second fraction) =
        some (.string (String.ofList
          (Wire.date year month day hour minute second fraction).chars)) := by
      simp only [decode?, Wire.chars, dateParts]
      split <;> simp [List.intercalate]
    have hReadable : (Wire.date year month day hour minute second fraction).Readable := nofun
    rw [hText, Option.some.injEq, and_iff_right hReadable, eq_comm]
  | time negative days hours minutes seconds fraction =>
    rw [decode?, Option.map_eq_some_iff]
    constructor
    · rintro ⟨total, hTotal, rfl⟩
      obtain ⟨rfl, hFits⟩ := totalHours?_eq_some_iff.mp hTotal
      exact ⟨fun _ hHours => Option.some.inj hHours ▸ hFits, rfl⟩
    · rintro ⟨hReadable, rfl⟩
      exact ⟨_, totalHours?_eq_some_iff.mpr ⟨rfl, hReadable _ rfl⟩, rfl⟩
  | _ => cases hv

section Dates

variable {year year' : UInt16} {month day hour minute second : UInt8}
  {month' day' hour' minute' second' : UInt8} {fraction fraction' : UInt32}

theorem not_mem_dateParts :
    ∀ part ∈ dateParts year month day hour minute second fraction, ' ' ∉ part := by
  have hDay : ' ' ∉ dayText year.toNat month.toNat day.toNat :=
    not_mem_dayText rfl (by decide) _ _ _
  have hClock : ' ' ∉ clockText hour.toNat minute.toNat second.toNat :=
    not_mem_clockText rfl (by decide) _ _ _
  rw [dateParts]
  split
  · simp [hDay]
  · simp [hDay, hClock]

theorem chars_date_eq_iff : (Wire.date year month day hour minute second fraction).chars =
      (Wire.date year' month' day' hour' minute' second' fraction').chars ↔
    Wire.Alike (.date year month day hour minute second fraction)
      (.date year' month' day' hour' minute' second' fraction') := by
  rw [Wire.chars, Wire.chars, intercalate_inj not_mem_dateParts not_mem_dateParts
    (List.cons_ne_nil _ _) (List.cons_ne_nil _ _), dateParts, dateParts, List.cons.injEq,
    dayText_inj]
  simp only [UInt16.toNat_inj, UInt8.toNat_inj]
  constructor
  · rintro ⟨⟨rfl, rfl, rfl⟩, hClock⟩
    split at hClock <;> split at hClock
    · rename_i hNone hNone'
      obtain ⟨rfl, rfl, rfl, rfl⟩ := hNone
      obtain ⟨rfl, rfl, rfl, rfl⟩ := hNone'
      exact .date fun _ _ _ => .rfl
    · cases hClock
    · cases hClock
    · rename_i hSome hSome'
      simp only [List.cons.injEq, and_true, clockText_inj, UInt8.toNat_inj] at hClock
      obtain ⟨rfl, rfl, rfl⟩ := hClock
      exact .date fun hHour hMinute hSecond => iff_of_false
        (fun hWhole => hSome ⟨hHour, hMinute, hSecond, hWhole⟩)
        (fun hWhole => hSome' ⟨hHour, hMinute, hSecond, hWhole⟩)
  · rintro ⟨hMidnight⟩
    refine ⟨⟨rfl, rfl, rfl⟩, if_congr ?_ rfl rfl⟩
    constructor
    · rintro ⟨hHour, hMinute, hSecond, hWhole⟩
      exact ⟨hHour, hMinute, hSecond, (hMidnight hHour hMinute hSecond).mp hWhole⟩
    · rintro ⟨hHour, hMinute, hSecond, hWhole⟩
      exact ⟨hHour, hMinute, hSecond, (hMidnight hHour hMinute hSecond).mpr hWhole⟩

end Dates

theorem dash_not_mem_clockText (hours minutes seconds : Nat) :
    '-' ∉ clockText hours minutes seconds := not_mem_clockText rfl (by decide) hours minutes seconds

theorem timeText_inj {negative negative' : Bool}
    {hours minutes seconds hours' minutes' seconds' : Nat} :
    timeText negative hours minutes seconds = timeText negative' hours' minutes' seconds' ↔
      negative = negative' ∧ hours = hours' ∧ minutes = minutes' ∧ seconds = seconds' := by
  rw [← clockText_inj]
  have hDash := dash_not_mem_clockText hours minutes seconds
  have hDash' := dash_not_mem_clockText hours' minutes' seconds'
  cases negative <;> cases negative'
  · simp [timeText]
  · refine iff_of_false (fun h => ?_) nofun
    rw [timeText, timeText, if_neg Bool.false_ne_true, if_pos rfl] at h
    exact hDash (h ▸ List.mem_cons_self)
  · refine iff_of_false (fun h => ?_) nofun
    rw [timeText, timeText, if_neg Bool.false_ne_true, if_pos rfl] at h
    exact hDash' (h ▸ List.mem_cons_self)
  · simp [timeText]

theorem dropWhile_timeText (negative : Bool) (hours minutes seconds : Nat) :
    (timeText negative hours minutes seconds).dropWhile (· == '-') =
      clockText hours minutes seconds := by
  have hUnsigned : (clockText hours minutes seconds).dropWhile (· == '-') =
      clockText hours minutes seconds := by
    refine List.dropWhile_eq_self_iff.mpr fun hLength hFirst => ?_
    rw [beq_iff_eq] at hFirst
    exact dash_not_mem_clockText hours minutes seconds (hFirst ▸ List.getElem_mem hLength)
  cases negative with
  | false => exact hUnsigned
  | true => exact hUnsigned

theorem takeWhile_clockText (hours minutes seconds : Nat) :
    (clockText hours minutes seconds).takeWhile (· != ':') = padded 2 hours := by
  have hBefore : ∀ c ∈ padded 2 hours, (c != ':') = true := by
    intro c hc
    rw [bne_iff_ne]
    rintro rfl
    exact not_mem_padded rfl 2 hours hc
  rw [clockText, List.append_assoc, List.takeWhile_append_of_pos hBefore, List.cons_append,
    List.takeWhile_cons_of_neg (by simp), List.append_nil]

/-- The number in front of the first colon, behind the sign. -/
def hoursShown? : Value → Option Nat
  | .string text => natural? ((text.toList.dropWhile (· == '-')).takeWhile (· != ':'))
  | _ => none

section Times

variable {negative negative' : Bool} {days days' : UInt32} {hours minutes seconds : UInt8}
  {hours' minutes' seconds' : UInt8} {fraction fraction' : UInt32}

theorem chars_time_eq_iff : (Wire.time negative days hours minutes seconds fraction).chars =
      (Wire.time negative' days' hours' minutes' seconds' fraction').chars ↔
    Wire.Alike (.time negative days hours minutes seconds fraction)
      (.time negative' days' hours' minutes' seconds' fraction') := by
  rw [Wire.chars, Wire.chars, timeText_inj]
  simp only [UInt8.toNat_inj]
  constructor
  · rintro ⟨rfl, hTotal, rfl, rfl⟩
    exact .time hTotal
  · rintro (_ | ⟨hTotal⟩)
    exact ⟨rfl, hTotal, rfl, rfl⟩

/-- A date has a dash behind its first digit, and a time has none there. -/
theorem chars_date_ne_time {year : UInt16} {month day hour minute second : UInt8} :
    (Wire.date year month day hour minute second fraction).chars ≠
      (Wire.time negative days hours minutes seconds fraction').chars := by
  intro h
  have hDate : '-' ∈ (Wire.date year month day hour minute second fraction).chars.tail := by
    obtain ⟨digit, digits, hYear⟩ := List.exists_cons_of_ne_nil (padded_ne_nil 4 year.toNat)
    rw [Wire.chars, dateParts]
    split <;> simp [List.intercalate, dayText, hYear]
  have hTime : '-' ∉ (Wire.time negative days hours minutes seconds fraction').chars.tail := by
    have hDash := dash_not_mem_clockText (24 * days.toNat + hours.toNat) minutes.toNat seconds.toNat
    cases negative with
    | false => exact fun hTail => hDash (List.mem_of_mem_tail hTail)
    | true => exact hDash
  exact hTime (h ▸ hDate)

theorem hoursShown?_chars {v : Wire} {total : Nat} (h : v.hours? = some total) :
    hoursShown? (.string (String.ofList v.chars)) = some total := by
  cases v with
  | time negative days hours minutes seconds fraction =>
    cases h
    rw [Wire.chars, hoursShown?, String.toList_ofList, dropWhile_timeText, takeWhile_clockText,
      natural?_padded]
  | _ => cases h

end Times

namespace Wire

/-- A date, or a time whose hours are those of a day and with those of its days below 2³². -/
def Fits : Wire → Prop
  | .date .. => True
  | .time _ days hours _ _ _ => hours.toNat < 24 ∧ 24 * days.toNat + hours.toNat < UInt32.size
  | _ => False

/-- The same without the fraction of a second. -/
def wholeSeconds : Wire → Wire
  | .date year month day hour minute second _ => .date year month day hour minute second 0
  | .time negative days hours minutes seconds _ => .time negative days hours minutes seconds 0
  | v => v

theorem Fits.isMoment {v : Wire} (h : v.Fits) : v.isMoment = true := by
  cases v with
  | date | time => rfl
  | _ => exact h.elim

theorem Fits.readable {v : Wire} (h : v.Fits) : v.Readable := by
  cases v with
  | time => exact fun _ hTotal => Option.some.inj hTotal ▸ h.2
  | date => exact nofun
  | _ => exact h.elim

theorem Alike.wholeSeconds_eq {v w : Wire} (h : v.Alike w) (hv : v.Fits) (hw : w.Fits) :
    v.wholeSeconds = w.wholeSeconds := by
  cases h with
  | date => rfl
  | @time negative days days' hours hours' _ _ _ _ hTotal =>
    obtain ⟨hHours, -⟩ := hv
    obtain ⟨hHours', -⟩ := hw
    obtain rfl := UInt32.toNat_inj.mp (show days.toNat = days'.toNat by omega)
    obtain rfl := UInt8.toNat_inj.mp (show hours.toNat = hours'.toNat by omega)
    rfl

/-- Both are read, and as different texts. -/
def ToldApart (v w : Wire) : Prop := ∃ s t, decode? v = some s ∧ decode? w = some t ∧ s ≠ t

end Wire

theorem chars_eq_iff {v w : Wire} (hv : v.isMoment = true) (hw : w.isMoment = true) :
    v.chars = w.chars ↔ v.Alike w := by
  cases v with
  | date =>
    cases w with
    | date => exact chars_date_eq_iff
    | time => exact iff_of_false chars_date_ne_time nofun
    | _ => cases hw
  | time =>
    cases w with
    | date => exact iff_of_false chars_date_ne_time.symm nofun
    | time => exact chars_time_eq_iff
    | _ => cases hw
  | _ => cases hv

theorem toldApart_iff {v w : Wire} (hv : v.isMoment = true) (hw : w.isMoment = true) :
    v.ToldApart w ↔ v.Readable ∧ w.Readable ∧ ¬v.Alike w := by
  have hTexts : Value.string (String.ofList v.chars) = .string (String.ofList w.chars) ↔
      v.Alike w := by
    rw [Value.string.injEq, String.ofList_inj, chars_eq_iff hv hw]
  constructor
  · rintro ⟨s, t, hs, ht, hApart⟩
    obtain ⟨hReadable, rfl⟩ := (decode?_eq_some_iff hv).mp hs
    obtain ⟨hReadable', rfl⟩ := (decode?_eq_some_iff hw).mp ht
    exact ⟨hReadable, hReadable', mt hTexts.mpr hApart⟩
  · rintro ⟨hReadable, hReadable', hApart⟩
    exact ⟨_, _, (decode?_eq_some_iff hv).mpr ⟨hReadable, rfl⟩,
      (decode?_eq_some_iff hw).mpr ⟨hReadable', rfl⟩, mt hTexts.mp hApart⟩

/-- Dates and times are read as different texts exactly if their hours can be counted and they are
not alike. If the hours fit, these are all that differ in more than the fraction of a second. And
the hours of a time are shown with those of its days exactly if they can be counted; there is no
text otherwise. -/
theorem moments_told_apart_iff {v w : Wire} (hv : v.isMoment = true) (hw : w.isMoment = true) :
    (v.ToldApart w ↔ v.Readable ∧ w.Readable ∧ ¬v.Alike w) ∧
    (v.Fits → w.Fits → v.wholeSeconds ≠ w.wholeSeconds → v.ToldApart w) ∧
    ∀ total, v.hours? = some total →
      ((decode? v).bind hoursShown? = some total ↔ total < UInt32.size) ∧
      (decode? v = none ↔ UInt32.size ≤ total) := by
  have hIff := toldApart_iff hv hw
  refine ⟨hIff, fun hFits hFits' hApart => ?_, fun total hTotal => ?_⟩
  · refine hIff.mpr ⟨hFits.readable, hFits'.readable, fun hAlike => ?_⟩
    exact hApart (hAlike.wholeSeconds_eq hFits hFits')
  · by_cases hCounted : total < UInt32.size
    · have hReadable : v.Readable := fun _ h => Option.some.inj (hTotal.symm.trans h) ▸ hCounted
      rw [(decode?_eq_some_iff hv).mpr ⟨hReadable, rfl⟩, Option.bind_some,
        hoursShown?_chars hTotal]
      exact ⟨iff_of_true rfl hCounted, iff_of_false nofun (Nat.not_le.mpr hCounted)⟩
    · have hNone : decode? v = none := by
        refine Option.eq_none_iff_forall_ne_some.mpr fun s hs => hCounted ?_
        exact ((decode?_eq_some_iff hv).mp hs).1 total hTotal
      rw [hNone]
      exact ⟨iff_of_false nofun hCounted, iff_of_true rfl (Nat.not_lt.mp hCounted)⟩

/-- The longest time that a server sends, and the one a second before. -/
theorem longest_time_told_apart :
    (Wire.time true 34 22 59 59 999999).isMoment = true ∧
    (Wire.time true 34 22 59 58 999999).isMoment = true ∧
    (Wire.time true 34 22 59 59 999999).Fits ∧ (Wire.time true 34 22 59 58 999999).Fits ∧
    (Wire.time true 34 22 59 59 999999).wholeSeconds ≠
      (Wire.time true 34 22 59 58 999999).wholeSeconds ∧
    (Wire.time true 34 22 59 59 999999).ToldApart (.time true 34 22 59 58 999999) ∧
    (decode? (.time true 34 22 59 59 999999)).bind hoursShown? = some 838 := by
  have hFits : (Wire.time true 34 22 59 59 999999).Fits := ⟨by decide, by decide⟩
  have hFits' : (Wire.time true 34 22 59 58 999999).Fits := ⟨by decide, by decide⟩
  have hApart : (Wire.time true 34 22 59 59 999999).wholeSeconds ≠
      (Wire.time true 34 22 59 58 999999).wholeSeconds := by simp [Wire.wholeSeconds]
  obtain ⟨-, hTold, hHours⟩ := moments_told_apart_iff hFits.isMoment hFits'.isMoment
  exact ⟨rfl, rfl, hFits, hFits', hApart, hTold hFits hFits' hApart,
    (hHours 838 rfl).1.mpr (by decide)⟩

/-- Half a second is lost, and the hours of so many days cannot be counted. -/
theorem moments_not_told_apart :
    Wire.date 2024 2 29 13 5 9 500000 ≠ .date 2024 2 29 13 5 9 0 ∧
    decode? (.date 2024 2 29 13 5 9 500000) = some (.string "2024-02-29 13:05:09") ∧
    decode? (.date 2024 2 29 13 5 9 0) = some (.string "2024-02-29 13:05:09") ∧
    decode? (.time false 178956971 0 0 0 0) = none ∧
    (Wire.time false 178956971 0 0 0 0).hours? = some 4294967304 :=
  ⟨by simp, rfl, rfl, by decide, by decide⟩

end RowTree.MySql
