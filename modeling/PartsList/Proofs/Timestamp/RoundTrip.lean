import Mathlib.Data.List.TakeWhile
import PartsList.Proofs.Number.Numeral
import PartsList.Timestamp

/-!
# Reading points in time back

What the clock of the system can show is read back from its text: every year that can be told, every
date of the calendar, every time of day and every fraction of a second.

The date of a day is a date of the calendar, and it leads back to the day.  Years begin in March, so
that a leap day is the last day of its year; four hundred of them are an era.  Which year of its era
a day lies in is computed without a search, from the number of days that would be left if there were
no leap days.
-/

namespace PartsList

namespace Timestamp

/-! ## Years of an era -/

/-- Days of an era in front of one of its years. -/
def yearStart (year : Int) : Int :=
  365 * year + year / 4 - year / 100 + year / 400

/-- Days of an era, leap days left out. -/
def plainDays (day : Int) : Int :=
  day - day / 1460 + day / 36524 - day / 146096

theorem plainDays_mono {day later : Int} (le : day ≤ later) : plainDays day ≤ plainDays later := by
  -- The last two terms grow together: of four centuries the last one is a day longer.
  have centuries (day : Int) : day / 146096 = day / 36524 / 4 := by
    rw [Int.ediv_ediv_of_nonneg (by decide)]
    rfl
  have years : day - day / 1460 ≤ later - later / 1460 := by omega
  have hundreds : day / 36524 ≤ later / 36524 := by omega
  unfold plainDays
  rw [centuries, centuries]
  omega

/-- Days without leap days tell the year apart at its first day and at the day before. -/
theorem plainDays_yearStart : ∀ year : Fin 401,
    365 * (year : Int) ≤ plainDays (yearStart year) ∧
      (0 < (year : Int) → plainDays (yearStart year - 1) < 365 * (year : Int)) := by
  decide +kernel

/-- The year of a day begins no later than the day, and the next one later. -/
theorem yearStart_le {day : Int} (lower : 0 ≤ day) (upper : day < 146097) :
    0 ≤ plainDays day / 365 ∧ plainDays day / 365 < 400 ∧
      yearStart (plainDays day / 365) ≤ day ∧ day < yearStart (plainDays day / 365 + 1) := by
  have least : plainDays 0 ≤ plainDays day := plainDays_mono lower
  have most : plainDays day ≤ plainDays 146096 := plainDays_mono (by omega)
  have zero : plainDays 0 = 0 := rfl
  have last : plainDays 146096 = 145999 := rfl
  have starts (year : Int) (nonneg : 0 ≤ year) (fits : year ≤ 400) :
      365 * year ≤ plainDays (yearStart year) ∧
        (0 < year → plainDays (yearStart year - 1) < 365 * year) := by
    obtain ⟨index, rfl⟩ := Int.eq_ofNat_of_zero_le nonneg
    exact plainDays_yearStart ⟨index, by omega⟩
  generalize named : plainDays day / 365 = year
  have nonneg : 0 ≤ year := by omega
  have below : year < 400 := by omega
  refine ⟨nonneg, below, ?_, ?_⟩
  · rcases Int.lt_or_le 0 year with later | first
    · refine Int.not_lt.1 fun before => ?_
      have less := plainDays_mono (Int.le_sub_one_of_lt before)
      have bound := (starts year nonneg (by omega)).2 later
      omega
    · have none : yearStart 0 = 0 := rfl
      have same : year = 0 := by omega
      rw [same, none]
      exact lower
  · refine Int.not_le.1 fun behind => ?_
    have less := plainDays_mono behind
    have bound := (starts (year + 1) (by omega) (by omega)).1
    omega

theorem isLeapYear_iff {year : Int} :
    isLeapYear year = true ↔ year % 4 = 0 ∧ (year % 100 ≠ 0 ∨ year % 400 = 0) := by
  simp [isLeapYear]

/-- A year that is a day longer ends with the leap day of the year that has begun in January. -/
theorem isLeapYear_of_yearStart {year : Int} (era : Int) (lower : 0 ≤ year) (upper : year < 400)
    (long : yearStart year + 365 < yearStart (year + 1)) :
    isLeapYear (year + era * 400 + 1) = true := by
  unfold yearStart at long
  rw [isLeapYear_iff]
  omega

/-- A year has no more than 366 days. -/
theorem yearStart_succ_le (year : Int) : yearStart (year + 1) ≤ yearStart year + 366 := by
  unfold yearStart
  omega

/-- A year has no less than 365 days. -/
theorem yearStart_add_le {year later : Int} (le : year ≤ later) :
    yearStart year + 365 * (later - year) ≤ yearStart later := by
  -- Every fourth year has a leap day but for one in a hundred.
  have hundreds (year : Int) : year / 100 = year / 4 / 25 := by
    rw [Int.ediv_ediv_of_nonneg (by decide)]
    rfl
  unfold yearStart
  rw [hundreds, hundreds]
  omega

/-! ## Dates -/

/-- There is such a date. -/
structure IsDate (year : Int) (month day : Nat) : Prop where
  /-- There is such a month. -/
  inYear : 1 ≤ month ∧ month ≤ 12
  /-- It has such a day. -/
  inMonth : 1 ≤ day ∧ day ≤ monthLength year month

/-- The day of a date, by the beginning of the year that is counted from March on. -/
theorem daysOfDate_eq (year : Int) (month day : Nat) : daysOfDate year month day =
    yearStart (if month ≤ 2 then year - 1 else year) +
      ((153 * ((month + 9) % 12) + 2) / 5 + day - 1) - 719468 := by
  unfold daysOfDate yearStart
  dsimp only
  generalize (if month ≤ 2 then year - 1 else year) = year
  omega

section Year

variable {year dayOfYear shifted month : Int} (lower : 0 ≤ dayOfYear) (upper : dayOfYear ≤ 365)
  (shifts : shifted = (5 * dayOfYear + 2) / 153)
  (months : month = if shifted < 10 then shifted + 3 else shifted - 9)
include lower upper shifts months

/-- The days of a year that begins in March have dates. -/
theorem isDate_of_dayOfYear (leap : dayOfYear = 365 → isLeapYear (year + 1) = true) :
    IsDate (year + if month ≤ 2 then 1 else 0) month.toNat
      (dayOfYear - (153 * shifted + 2) / 5 + 1).toNat := by
  have inYear : 1 ≤ month ∧ month ≤ 12 := by split at months <;> omega
  refine ⟨by omega, by omega, ?_⟩
  unfold monthLength
  by_cases february : month = 2
  · have last : shifted = 11 := by split at months <;> omega
    rw [if_pos (show month.toNat = 2 by omega), if_pos (show month ≤ 2 by omega)]
    split
    · omega
    · next plain =>
        have short : dayOfYear ≠ 365 := fun same => plain (leap same)
        omega
  · rw [if_neg (show month.toNat ≠ 2 by omega)]
    split at months <;> split <;> omega

/-- Such a date leads back to the day. -/
theorem daysOfDate_of_dayOfYear :
    daysOfDate (year + if month ≤ 2 then 1 else 0) month.toNat
        (dayOfYear - (153 * shifted + 2) / 5 + 1).toNat = yearStart year + dayOfYear - 719468 := by
  have inYear : 1 ≤ month ∧ month ≤ 12 := by split at months <;> omega
  have back : ((month.toNat : Int) + 9) % 12 = shifted := by split at months <;> omega
  have begun : (if month.toNat ≤ 2 then (year + if month ≤ 2 then 1 else 0) - 1
      else year + if month ≤ 2 then 1 else 0) = year := by
    by_cases early : month ≤ 2
    · rw [if_pos (show month.toNat ≤ 2 by omega), if_pos early, Int.add_sub_cancel]
    · rw [if_neg (show ¬month.toNat ≤ 2 by omega), if_neg early, Int.add_zero]
  rw [daysOfDate_eq, begun, back]
  omega

end Year

/-- The date of a day is a date, and leads back to the day. -/
theorem isDate_dateOfDays (days : Int) : ∃ year month day, dateOfDays days = (year, month, day) ∧
    IsDate year month day ∧ daysOfDate year month day = days := by
  generalize eras : (days + 719468) / 146097 = era
  generalize ofEra : days + 719468 - era * 146097 = dayOfEra
  obtain ⟨nonneg, below, begun, next⟩ := @yearStart_le dayOfEra (by omega) (by omega)
  generalize years : plainDays dayOfEra / 365 = year at nonneg below begun next
  generalize ofYear : dayOfEra - (365 * year + year / 4 - year / 100) = dayOfYear
  have start : yearStart year = 365 * year + year / 4 - year / 100 := by
    unfold yearStart
    omega
  have whole : yearStart (year + era * 400) = yearStart year + era * 146097 := by
    unfold yearStart
    omega
  have most := yearStart_succ_le year
  have lower : 0 ≤ dayOfYear := by omega
  have upper : dayOfYear ≤ 365 := by omega
  have leap : dayOfYear = 365 → isLeapYear (year + era * 400 + 1) = true := fun last =>
    isLeapYear_of_yearStart era nonneg below (by omega)
  have date := isDate_of_dayOfYear lower upper rfl rfl leap
  have back := @daysOfDate_of_dayOfYear (year + era * 400) dayOfYear _ _ lower upper rfl rfl
  refine ⟨_, _, _, ?_, date, back.trans (by omega)⟩
  unfold plainDays at years
  unfold dateOfDays
  dsimp only
  rw [eras, ofEra, years, ofYear]

/-- A day that comes no earlier than the first day of a year and no later than the last day of
another one has a date in a year between them. -/
theorem year_of_daysOfDate {first last year : Int} {month day : Nat} (date : IsDate year month day)
    (lower : daysOfDate first 1 1 ≤ daysOfDate year month day)
    (upper : daysOfDate year month day ≤ daysOfDate last 12 31) : first ≤ year ∧ year ≤ last := by
  obtain ⟨inYear, inMonth⟩ := date
  have short : day ≤ 31 := by
    refine Nat.le_trans inMonth.2 ?_
    unfold monthLength
    split
    · split <;> omega
    · split <;> omega
  rw [daysOfDate_eq, daysOfDate_eq] at lower upper
  rw [if_pos (by decide)] at lower
  rw [if_neg (show ¬12 ≤ 2 by decide)] at upper
  constructor
  · refine Int.not_lt.1 fun before => ?_
    split at lower
    · have earlier := @yearStart_add_le (year - 1) (first - 1) (by omega)
      omega
    · have earlier := @yearStart_add_le year (first - 1) (by omega)
      omega
  · refine Int.not_lt.1 fun behind => ?_
    split at upper
    · have later := @yearStart_add_le last (year - 1) (by omega)
      omega
    · have later := @yearStart_add_le last year (by omega)
      omega

end Timestamp

namespace Text

theorem isBlank_of_isDigit {c : Char} (digit : c.isDigit = true) : isBlank c = false := by
  simp only [Char.isDigit, Bool.and_eq_true, decide_eq_true_eq, ge_iff_le,
    UInt32.le_iff_toNat_le] at digit
  have bounds : 48 ≤ c.toNat ∧ c.toNat ≤ 57 := digit
  refine List.any_eq_false.2 fun range mem => ?_
  have apart : range.2 < 48 ∨ 57 < range.1 := by
    revert range
    decide
  simp only [Bool.and_eq_true, decide_eq_true_eq]
  omega

theorem dropBlank_cons {c : Char} (solid : isBlank c = false) (rest : List Char) :
    dropBlank (c :: rest) = c :: rest := by
  rw [dropBlank, List.dropWhile_cons, if_neg (by rw [solid]; decide)]

end Text

namespace Timestamp

open Numeral (AreDigits)
open Text (dropBlank)

/-! ## Numbers -/

variable {width n : Nat} {rest : List Char}

theorem areDigits_padded (width n : Nat) : AreDigits (padded width n) := by
  obtain ⟨some, digits⟩ := Numeral.areDigits_digits n
  refine ⟨by simp [padded, some], fun c mem => ?_⟩
  rcases List.mem_append.1 mem with zero | mem
  · rw [List.eq_of_mem_replicate zero]
    decide
  · exact digits c mem

theorem digitsValue_padded (width n : Nat) : Numeral.digitsValue (padded width n) = n := by
  have zeros (count : Nat) (digits : List Char) :
      Numeral.digitsValue (List.replicate count '0' ++ digits) = Numeral.digitsValue digits := by
    induction count with
    | zero => rfl
    | succ count induction => exact induction
  rw [padded, zeros, Numeral.digitsValue_digits]

theorem length_padded
    (small : n < 10 ^ (width + 1)) : (padded (width + 1) n).length = width + 1 := by
  have most := Numeral.length_digits_le small
  simp only [padded, List.length_append, List.length_replicate]
  omega

/-- No character that follows is a digit. -/
def Ends (rest : List Char) : Prop :=
  ∀ c ∈ rest.head?, c.isDigit = false

theorem takeWhile_digits {digits : List Char} (all : AreDigits digits) (ends : Ends rest) :
    (digits ++ rest).takeWhile Char.isDigit = digits := by
  rw [List.takeWhile_append_of_pos all.2]
  cases rest with
  | nil => simp
  | cons c rest => simp [ends c rfl]

theorem dropBlank_digits {digits : List Char} (all : AreDigits digits) :
    dropBlank (digits ++ rest) = digits ++ rest := by
  obtain ⟨some, each⟩ := all
  obtain ⟨first, others, rfl⟩ := List.exists_cons_of_ne_nil some
  exact Text.dropBlank_cons (Text.isBlank_of_isDigit (each first List.mem_cons_self)) _

/-- A number of full width is read back, whatever follows. -/
theorem readDigits_padded (small : n < 10 ^ (width + 1)) :
    readDigits (width + 1) (padded (width + 1) n ++ rest) = some (n, rest) := by
  have all := areDigits_padded (width + 1) n
  have taken : (padded (width + 1) n ++ rest).take (width + 1) = padded (width + 1) n := by
    rw [List.take_append_of_le_length (Nat.le_of_eq (length_padded small).symm),
      List.take_of_length_le (Nat.le_of_eq (length_padded small))]
  have kept : (padded (width + 1) n).takeWhile Char.isDigit = padded (width + 1) n :=
    List.takeWhile_eq_self_iff.2 all.2
  unfold readDigits
  dsimp only
  rw [dropBlank_digits all, taken, kept, if_neg (by simpa using all.1), digitsValue_padded,
    List.drop_left]

theorem readMark_cons {mark : Char} (solid : Text.isBlank mark = false) (rest : List Char) :
    readMark mark (mark :: rest) = some rest := by
  rw [readMark, Text.dropBlank_cons solid]
  exact if_pos rfl

theorem readSigned_padded (ends : Ends rest) :
    readYear.readSigned (padded 4 n ++ rest) = some ((n : Int), rest) := by
  have all := areDigits_padded 4 n
  unfold readYear.readSigned
  dsimp only
  rw [takeWhile_digits all ends, if_neg (by simpa using all.1), digitsValue_padded, List.drop_left]

/-- A year is read back, if no digit follows. -/
theorem readYear_writeYear (year : Int) (ends : Ends rest) :
    readYear (writeYear year ++ rest) = some (year, rest) := by
  unfold writeYear
  split
  · next plain =>
      have number : (year.toNat : Int) = year := Int.toNat_of_nonneg plain.1
      have all := areDigits_padded 4 year.toNat
      have read : readDigits 4 (padded 4 year.toNat ++ rest) = some (year.toNat, rest) :=
        readDigits_padded (by omega)
      obtain ⟨first, others, split⟩ := List.exists_cons_of_ne_nil all.1
      have digit := all.2 first (split ▸ List.mem_cons_self)
      rw [readYear, dropBlank_digits all]
      rw [split] at read ⊢
      rw [List.cons_append] at read ⊢
      split
      · next same =>
          cases same
          cases digit
      · next same =>
          cases same
          cases digit
      · rw [read]
        exact congrArg (fun year => some (year, rest)) number
  · have read := @readSigned_padded year.natAbs rest ends
    by_cases negative : year < 0
    · have number : -(year.natAbs : Int) = year := by omega
      rw [if_pos negative, List.cons_append, readYear, Text.dropBlank_cons (by decide)]
      refine (congrArg (Option.map _) read).trans ?_
      exact congrArg (fun year => some (year, rest)) number
    · have number : (year.natAbs : Int) = year := by omega
      rw [if_neg negative, List.cons_append, readYear, Text.dropBlank_cons (by decide)]
      exact read.trans (congrArg (fun year => some (year, rest)) number)

/-- A fraction of a second is read back, if no digit and no point follows. -/
theorem readFraction_writeFraction {nanos : Nat} (small : nanos < 1000000000) :
    readFraction (writeFraction nanos ++ ['Z']) = some (nanos, ['Z']) := by
  -- Digits in groups of three count billionths after zeros are added.
  have groups {width k : Nat} (fits : k < 10 ^ (width + 1)) (short : width + 1 ≤ 9)
      (same : k * 10 ^ (9 - (width + 1)) = nanos) :
      readFraction (('.' :: padded (width + 1) k) ++ ['Z']) = some (nanos, ['Z']) := by
    have all := areDigits_padded (width + 1) k
    have digits : (padded (width + 1) k ++ ['Z']).takeWhile Char.isDigit = padded (width + 1) k :=
      takeWhile_digits all (by simp [Ends])
    have kept : (padded (width + 1) k).take 9 = padded (width + 1) k :=
      List.take_of_length_le (by rw [length_padded fits]; exact short)
    rw [List.cons_append, readFraction]
    dsimp only
    rw [digits, if_neg (by simpa using all.1), kept, digitsValue_padded, List.drop_left,
      length_padded fits]
    exact congrArg (fun value => some (value, ['Z'])) same
  unfold writeFraction
  split
  · next zero =>
      rw [zero]
      rfl
  · split
    · exact @groups 2 _ (by omega) (by decide) (by omega)
    · split
      · exact @groups 5 _ (by omega) (by decide) (by omega)
      · exact @groups 8 _ (by omega) (by decide) (by omega)

/-- The clock of the system can show the point in time. -/
structure IsClockTime (time : Timestamp) : Prop where
  /-- It can be told. -/
  tellable : time.isTellable = true
  /-- It lies in no leap second. -/
  nanos : time.nanos < 1000000000

theorem isClockTime_iff {time : Timestamp} :
    time.IsClockTime ↔ time.isTellable = true ∧ time.nanos < 1000000000 :=
  ⟨fun told => ⟨told.tellable, told.nanos⟩, fun ⟨tellable, nanos⟩ => ⟨tellable, nanos⟩⟩

instance (time : Timestamp) : Decidable time.IsClockTime :=
  decidable_of_iff' _ isClockTime_iff

/-- What the clock shows is read back from its text. -/
theorem IsClockTime.read?_write {time : Timestamp} (told : time.IsClockTime) :
    read? time.write = some time := by
  obtain ⟨tellable, small⟩ := told
  obtain ⟨year, month, day, date, isDate, back⟩ := isDate_dateOfDays (time.seconds / 86400)
  generalize clocked : (time.seconds % 86400).toNat = clock
  have clock_lt : clock < 86400 := by omega
  have short : monthLength year month < 100 := by
    unfold monthLength
    split
    · split <;> decide
    · split <;> decide
  obtain ⟨inYear, inMonth⟩ := isDate
  have none : time.nanos / 1000000000 = 0 := Nat.div_eq_of_lt small
  have whole : time.nanos % 1000000000 = time.nanos := Nat.mod_eq_of_lt small
  -- Every part is read back from what the parts in front of it leave.
  unfold write read?
  rw [date, clocked, none, whole, String.toList_ofList]
  simp only [List.append_assoc, List.cons_append]
  rw [Option.bind_eq_bind, Option.bind_eq_bind, Option.bind_eq_bind,
    readYear_writeYear year (by simp [Ends]), Option.bind_some]
  dsimp only
  rw [readMark_cons (by decide), Option.bind_some, readDigits_padded (by omega), Option.bind_some]
  dsimp only
  rw [readMark_cons (by decide), Option.bind_some, readDigits_padded (by omega), Option.bind_some]
  dsimp only
  rw [readSeparator, if_pos (Or.inl rfl), Option.bind_some, readDigits_padded (by omega),
    Option.bind_some]
  dsimp only
  rw [readMark_cons (by decide), Option.bind_some, readDigits_padded (by omega), Option.bind_some]
  dsimp only
  rw [readMark_cons (by decide), Option.bind_some, Nat.add_zero, readDigits_padded (by omega),
    Option.bind_some]
  dsimp only
  have offset : readOffset ['Z'] = some (0, []) := rfl
  rw [readFraction_writeFraction small, Option.bind_some, offset, Option.bind_some]
  dsimp only
  have years : firstYear ≤ year ∧ year ≤ lastYear := by
    simp only [isTellable, Bool.and_eq_true, decide_eq_true_eq, ← back] at tellable
    exact year_of_daysOfDate ⟨inYear, inMonth⟩ tellable.1 tellable.2
  have seconds : daysOfDate year month day * 86400 +
      ((clock / 3600 : Nat) * 3600 + (clock / 60 % 60 : Nat) * 60 +
        (Nat.min (clock % 60) 59 : Nat)) - 0 = time.seconds := by
    have full : (clock % 60).min 59 = clock % 60 := Nat.min_eq_left (by omega)
    rw [back, full]
    omega
  have nanos : (if clock % 60 = 60 then time.nanos + 1000000000 else time.nanos) = time.nanos :=
    if_neg (by omega)
  rw [if_neg (by decide), if_neg (by omega), if_neg (by omega), if_neg (by omega), seconds, nanos]
  exact if_pos tellable

end Timestamp

end PartsList
