import Bowerbird.Foundation.Calendar
import Mathlib.Algebra.Group.Int.Defs
import Mathlib.Algebra.Group.Nat.Defs

namespace Bowerbird.Shim.Log

open Foundation.Calendar

/-! The date on a line of the shim's log. -/

/-- A result outside the type is the panic of the operation. -/
def i64? (value : Int) : Option Int :=
  if -2 ^ 63 ≤ value ∧ value < 2 ^ 63 then some value else none

def u64? (value : Int) : Option Nat :=
  if 0 ≤ value ∧ value < 2 ^ 64 then some value.toNat else none

/-! A cast keeps the low bits. -/

def asI32 (value : Int) : Int :=
  value.bmod (2 ^ 32)

def asI64 (value : Nat) : Int :=
  (value : Int).bmod (2 ^ 64)

def asU32 (value : Nat) : Nat :=
  value % 2 ^ 32

def asU64 (value : Int) : Nat :=
  (value % 2 ^ 64).toNat

def civilFromDays (z : Int) : Option (Int × Nat × Nat) := do
  let z ← i64? (z + 719468)
  let shifted ← (if 0 ≤ z then some z else i64? (z - 146096))
  let era := shifted / 146097
  let eraDays ← i64? (era * 146097)
  let doe := asU64 (← i64? (z - eraDays))
  let fewer ← u64? (doe - (doe / 1460 : Nat))
  let more ← u64? (fewer + (doe / 36524 : Nat))
  let whole ← u64? (more - (doe / 146096 : Nat))
  let yoe := whole / 365
  let eraYears ← i64? (era * 400)
  let y ← i64? (asI64 yoe + eraYears)
  let julian ← u64? ((365 * yoe + yoe / 4 : Nat))
  let before ← u64? (julian - (yoe / 100 : Nat))
  let doy ← u64? (doe - before)
  let scaled ← u64? (5 * doy + 2)
  let mp := scaled / 153
  let months ← u64? (153 * mp + 2)
  let inMonth ← u64? (doy - (months / 5 : Nat))
  let d := asU32 (← u64? (inMonth + 1))
  let m := asU32 (← (if mp < 10 then u64? (mp + 3) else u64? (mp - 9)))
  let y ← (if m ≤ 2 then i64? (y + 1) else some y)
  return (asI32 y, m, d)

/-! What the conversion computes, where every operation stays in its type. -/

def yearOfEra (doe : Nat) : Nat :=
  (doe - doe / 1460 + doe / 36524 - doe / 146096) / 365

def monthIndex (doy : Nat) : Nat :=
  (5 * doy + 2) / 153

def monthOf (doy : Nat) : Nat :=
  if monthIndex doy < 10 then monthIndex doy + 3 else monthIndex doy - 9

def dayOf (doy : Nat) : Nat :=
  doy - (153 * monthIndex doy + 2) / 5 + 1

/-- A day of a year that begins in March. -/
structure Shows (year : Nat) (doy : Nat) (date : Date) : Prop where
  short : doy < yearDays year
  year : date.year = if monthOf doy ≤ 2 then (year : Int) + 1 else year
  month : date.month = monthOf doy
  day : date.day = dayOf doy

/-! The months of a year that begins in March. -/

/-- The day that comes next in a year, and the month it is in. -/
structure Follows (leap : Bool) (doy : Nat) : Prop where
  inside : dayOf doy < monthLength leap (monthOf doy) →
    monthOf (doy + 1) = monthOf doy ∧ dayOf (doy + 1) = dayOf doy + 1
  later : ¬ dayOf doy < monthLength leap (monthOf doy) →
    dayOf (doy + 1) = 1 ∧ monthOf doy ≠ 2 ∧
      monthOf (doy + 1) = if monthOf doy < 12 then monthOf doy + 1 else 1

instance (leap : Bool) (doy : Nat) : Decidable (Follows leap doy) :=
  decidable_of_iff
    ((dayOf doy < monthLength leap (monthOf doy) →
      monthOf (doy + 1) = monthOf doy ∧ dayOf (doy + 1) = dayOf doy + 1) ∧
    (¬ dayOf doy < monthLength leap (monthOf doy) →
      dayOf (doy + 1) = 1 ∧ monthOf doy ≠ 2 ∧
        monthOf (doy + 1) = if monthOf doy < 12 then monthOf doy + 1 else 1))
    ⟨fun ⟨inside, later⟩ => ⟨inside, later⟩,
      fun follows => ⟨follows.inside, follows.later⟩⟩

theorem follows {leap : Bool} {doy : Nat}
    (more : doy + 1 < if leap then 366 else 365) : Follows leap doy := by
  have plain : ∀ day < 364, Follows false day := by decide +kernel
  have leaping : ∀ day < 365, Follows true day := by decide +kernel
  cases leap with
  | false => exact plain doy (Nat.succ_lt_succ_iff.mp more)
  | true => exact leaping doy (Nat.succ_lt_succ_iff.mp more)

/-- The last of the year is the last of February. -/
theorem last_day {leap : Bool} {doy : Nat}
    (last : doy + 1 = if leap then 366 else 365) :
    monthOf doy = 2 ∧ dayOf doy = monthLength leap 2 := by
  cases leap with
  | false =>
      obtain rfl : doy = 364 := Nat.succ.inj last
      decide
  | true =>
      obtain rfl : doy = 365 := Nat.succ.inj last
      decide

namespace Shows

variable {year doy : Nat} {date : Date}

theorem length (shows : Shows year doy date) :
    monthLength (isLeap date.year) date.month =
      monthLength (isLeap (year + 1)) (monthOf doy) := by
  rw [shows.month]
  by_cases february : monthOf doy = 2
  · have same := shows.year
    rw [if_pos (by omega)] at same
    rw [same]
  · rw [monthLength_plain february, ← monthLength_plain february]

/-- The next date is shown by the next day of the year. -/
theorem next (shows : Shows year doy date) (more : doy + 1 < yearDays year) :
    Shows year (doy + 1) date.next := by
  have follows := follows more
  have years := shows.year
  unfold Date.next
  split
  · rename_i inside
    rw [shows.length, shows.day] at inside
    obtain ⟨month, day⟩ := follows.inside inside
    exact {
      short := more
      year := by rw [month]; exact years
      month := by rw [month]; exact shows.month
      day := by rw [day]; exact congrArg (· + 1) shows.day }
  · rename_i last
    rw [shows.length, shows.day] at last
    obtain ⟨day, march, month⟩ := follows.later last
    have positive := date.month_pos
    rw [shows.month] at positive
    split
    · rename_i later
      rw [shows.month] at later
      rw [if_pos later] at month
      refine ⟨more, ?_, ?_, day.symm⟩
      · change date.year = _
        rw [years, month]
        split_ifs <;> omega
      · change date.month + 1 = _
        rw [month, shows.month]
    · rename_i december
      rw [shows.month] at december
      rw [if_neg december] at month
      refine ⟨more, ?_, month.symm, day.symm⟩
      change date.year + 1 = _
      rw [years, month, if_neg (by omega), if_pos (by decide)]

theorem nextYear (shows : Shows year doy date) (last : doy + 1 = yearDays year) :
    Shows (year + 1) 0 date.next := by
  obtain ⟨february, day⟩ := last_day last
  have years := shows.year
  rw [if_pos (by omega)] at years
  have long := shows.length
  have first : monthOf 0 = 3 ∧ dayOf 0 = 1 := by decide
  unfold Date.next
  rw [dif_neg (by rw [long, shows.day, day, february]; exact Nat.lt_irrefl _),
    dif_pos (by rw [shows.month, february]; decide)]
  refine ⟨?_, ?_, ?_, first.2.symm⟩
  · unfold yearDays
    split <;> decide
  · change date.year = _
    rw [years, first.1, if_neg (by decide), Int.natCast_succ]
  · change date.month + 1 = _
    rw [shows.month, february, first.1]

end Shows

theorem first_pos : 1 ≤ 1 :=
  Nat.le_refl 1

theorem january_le : 1 ≤ 12 := by
  decide

def epoch : Date where
  year := 1970
  month := 1
  day := 1
  month_pos := first_pos
  month_le := january_le
  day_pos := first_pos
  day_le := by decide

/-- Each date is some day of some year. -/
theorem after_epoch (days : Nat) :
    ∃ year doy, days + 719468 = daysBefore year + doy ∧
      Shows year doy (epoch.after days) := by
  induction days with
  | zero => exact ⟨1969, 306, by decide, by decide, by decide, by decide, by decide⟩
  | succ days induction =>
      obtain ⟨year, doy, counted, shows⟩ := induction
      rcases Nat.lt_or_ge (doy + 1) (yearDays year) with more | last
      · exact ⟨year, doy + 1, by omega, shows.next more⟩
      · have short := shows.short
        refine ⟨year + 1, 0, ?_, shows.nextYear (by omega)⟩
        rw [daysBefore_succ]
        omega

/-! The day and the year out of a count of days. -/

/-- A year in its place among four hundred, in the days of its era. -/
theorem yearOfEra_eq {century four year doy doe : Nat} (centuries : century ≤ 3)
    (fours : four ≤ 24) (years : year ≤ 3)
    (short : doy ≤ 364 ∨ doy = 365 ∧ year = 3 ∧ (four ≤ 23 ∨ century = 3))
    (counted : doe = 36524 * century + 1461 * four + 365 * year + doy) :
    yearOfEra doe = 100 * century + 4 * four + year := by
  unfold yearOfEra
  by_cases last : doe = 146096
  · subst last
    have : century = 3 := by omega
    have : four = 24 := by omega
    omega
  · have inside : 1461 * four + 365 * year + doy < 36524 := by omega
    have hundreds : doe / 36524 = century := by omega
    have eras : doe / 146096 = 0 := by omega
    obtain ⟨late, fourths⟩ : ∃ late, doe / 1460 = 25 * century + four + late :=
      ⟨doe / 1460 - (25 * century + four), by omega⟩
    have lateness : late = 0 ∨ late = 1 ∧ year = 3 ∧ 269 ≤ doy := by omega
    have within : (365 * year + doy - late) / 365 = year := by omega
    rw [hundreds, eras, fourths]
    omega

/-- A day of a year, in its era. -/
structure InEra (year doy era doe : Nat) : Prop where
  counted : daysBefore year + doy = 146097 * era + doe
  inside : doe < 146097
  year : year = 400 * era + yearOfEra doe
  day : doe = 365 * yearOfEra doe + yearOfEra doe / 4 - yearOfEra doe / 100 + doy
  short : doy ≤ 365

theorem inEra {year doy : Nat} (short : doy < yearDays year) :
    ∃ era doe, InEra year doy era doe := by
  rw [yearDays_natCast] at short
  have parts : year = 400 * (year / 400) + (100 * (year % 400 / 100) +
      4 * (year % 100 / 4) + year % 4) := by omega
  have years : daysBefore year = 146097 * (year / 400) +
      (36524 * (year % 400 / 100) + 1461 * (year % 100 / 4) +
        365 * (year % 4)) := by
    unfold daysBefore
    omega
  have last : doy ≤ 364 ∨ doy = 365 ∧ year % 4 = 3 ∧
      (year % 100 / 4 ≤ 23 ∨ year % 400 / 100 = 3) := by
    split at short <;> omega
  have centuries : year % 400 / 100 ≤ 3 := by omega
  have fours : year % 100 / 4 ≤ 24 := by omega
  have rest : year % 4 ≤ 3 := by omega
  generalize year / 400 = era at *
  generalize year % 400 / 100 = century at *
  generalize year % 100 / 4 = four at *
  generalize year % 4 = one at *
  clear short
  have found := yearOfEra_eq centuries fours rest last rfl
  have quarter : (100 * century + 4 * four + one) / 4 =
      25 * century + four := by omega
  have hundredth : (100 * century + 4 * four + one) / 100 = century := by omega
  exact ⟨era, 36524 * century + 1461 * four + 365 * one + doy, {
    counted := by omega
    inside := by omega
    year := by rw [found]; exact parts
    day := by rw [found, quarter, hundredth]; omega
    short := by omega }⟩

/-! No operation leaves its type. -/

theorem i64?_eq {value : Int} (low : -2 ^ 63 ≤ value) (high : value < 2 ^ 63) :
    i64? value = some value :=
  if_pos ⟨low, high⟩

theorem u64?_eq {value : Int} {result : Nat} (same : value = result)
    (high : result < 2 ^ 64) : u64? value = some result := by
  rw [same, u64?, if_pos (by omega), Int.toNat_natCast]

theorem u64?_natCast {value : Nat} (high : value < 2 ^ 64) :
    u64? value = some value :=
  u64?_eq rfl high

theorem u64?_sub {left right : Nat} (less : right ≤ left) (high : left < 2 ^ 64) :
    u64? (left - right : Int) = some (left - right) :=
  u64?_eq (Int.natCast_sub less).symm (by omega)

theorem asU64_natCast {value : Nat} (high : value < 2 ^ 64) :
    asU64 (value : Int) = value := by
  unfold asU64
  omega

theorem asI64_eq {value : Nat} (high : value < 2 ^ 63) :
    asI64 value = value := by
  unfold asI64
  rw [Int.bmod_eq_of_le (by omega) (by omega)]

theorem asU32_eq {value : Nat} (high : value < 2 ^ 32) : asU32 value = value :=
  Nat.mod_eq_of_lt high

theorem asI32_eq {value : Int} (low : -2 ^ 31 ≤ value) (high : value < 2 ^ 31) :
    asI32 value = value := by
  unfold asI32
  rw [Int.bmod_eq_of_le (by omega) (by omega)]

theorem bind_eq {input : Option α} {next : α → Option β} {a : α} {b : β}
    (reads : input = some a) (rest : next a = some b) :
    (input >>= next) = some b := by
  rw [reads]
  exact rest

theorem month_eq {doy : Nat} (small : monthIndex doy ≤ 11) :
    (if monthIndex doy < 10 then u64? (monthIndex doy + 3)
      else u64? (monthIndex doy - 9)) = some (monthOf doy) := by
  unfold monthOf
  split
  · exact u64?_eq (by omega) (by omega)
  · exact u64?_eq (by omega) (by omega)

theorem civilFromDays_eq {days year doy : Nat} {date : Date}
    (counted : days + 719468 = daysBefore year + doy)
    (shows : Shows year doy date) (fits : date.year < 2 ^ 31) :
    civilFromDays days = some (date.year, date.month, date.day) := by
  obtain ⟨era, doe, part⟩ := inEra shows.short
  have inside := part.inside
  have eraBound : era < 2 ^ 31 := by
    have years := shows.year
    have := part.year
    split at years <;> omega
  have yoeBound : yearOfEra doe < 400 := by
    unfold yearOfEra
    omega
  have short := part.short
  have day := part.day
  have months : (153 * monthIndex doy + 2) / 5 ≤ doy := by
    unfold monthIndex
    omega
  have index : monthIndex doy ≤ 11 := by
    unfold monthIndex
    omega
  obtain ⟨whole, z⟩ : ∃ whole : Int, whole = 146097 * era + doe := ⟨_, rfl⟩
  have moved : (days : Int) + 719468 = whole := by
    have := part.counted
    omega
  have eraOf : whole / 146097 = era := by omega
  have doeOf : whole - era * 146097 = doe := by omega
  have yoe : (doe - doe / 1460 + doe / 36524 - doe / 146096) / 365 =
      yearOfEra doe := rfl
  have doyOf : doe - (365 * yearOfEra doe + yearOfEra doe / 4 -
      yearOfEra doe / 100) = doy := by omega
  unfold civilFromDays
  refine bind_eq (i64?_eq (by omega) (by omega)) ?_
  rw [moved]
  refine bind_eq (if_pos (by omega)) ?_
  rw [eraOf]
  refine bind_eq (i64?_eq (by omega) (by omega)) ?_
  refine bind_eq (i64?_eq (by omega) (by omega)) ?_
  rw [doeOf, asU64_natCast (by omega)]
  refine bind_eq (u64?_sub (by omega) (by omega)) ?_
  refine bind_eq (u64?_natCast (by omega)) ?_
  refine bind_eq (u64?_sub (by omega) (by omega)) ?_
  rw [yoe]
  refine bind_eq (i64?_eq (by omega) (by omega)) ?_
  rw [asI64_eq (by omega)]
  refine bind_eq (i64?_eq (by omega) (by omega)) ?_
  refine bind_eq (u64?_natCast (by omega)) ?_
  refine bind_eq (u64?_sub (by omega) (by omega)) ?_
  refine bind_eq (u64?_sub (by omega) (by omega)) ?_
  rw [doyOf]
  have scaled : u64? (5 * doy + 2) = some (5 * doy + 2) :=
    u64?_eq (by omega) (by omega)
  have mp : (5 * doy + 2) / 153 = monthIndex doy := rfl
  have monthDays : u64? (153 * monthIndex doy + 2) =
      some (153 * monthIndex doy + 2) := u64?_eq (by omega) (by omega)
  have dayNext : u64? ((doy - (153 * monthIndex doy + 2) / 5 : Nat) + 1) =
      some (dayOf doy) := by
    unfold dayOf
    exact u64?_eq (by omega) (by omega)
  refine bind_eq scaled ?_
  rw [mp]
  refine bind_eq monthDays ?_
  refine bind_eq (u64?_sub (by omega) (by omega)) ?_
  refine bind_eq dayNext ?_
  refine bind_eq (month_eq index) ?_
  have dayBound : dayOf doy ≤ 366 := by
    unfold dayOf
    omega
  have monthBound : monthOf doy ≤ 12 := by
    unfold monthOf
    split <;> omega
  rw [asU32_eq (by omega), asU32_eq (by omega)]
  have years := shows.year
  have inYear := part.year
  refine bind_eq (a := date.year) ?_ ?_
  · split at years
    · rename_i winter
      rw [if_pos winter, i64?_eq (by omega) (by omega), Option.some.injEq]
      omega
    · rename_i summer
      rw [if_neg summer, Option.some.injEq]
      omega
  · rw [asI32_eq (by split at years <;> omega) fits, shows.month, shows.day]
    rfl

/-- Every day count that has a year of the type is converted to the date so many
days after the first of January 1970. -/
theorem civil_from_days_after_epoch (days : Nat)
    (fits : (epoch.after days).year < 2 ^ 31) :
    civilFromDays days = some ((epoch.after days).year,
      (epoch.after days).month, (epoch.after days).day) := by
  obtain ⟨year, doy, counted, shows⟩ := after_epoch days
  exact civilFromDays_eq counted shows fits

theorem civil_from_days_after_epoch_leap :
    (epoch.after 789).year < 2 ^ 31 ∧
      civilFromDays (789 : Nat) = some ((epoch.after 789).year,
        (epoch.after 789).month, (epoch.after 789).day) :=
  ⟨by decide +kernel, civil_from_days_after_epoch 789 (by decide +kernel)⟩

example : civilFromDays 20591 = some (2026, 5, 18) := by decide

end Bowerbird.Shim.Log
