import Mathlib.Tactic.Common

namespace Bowerbird.Foundation.Calendar

/-! The proleptic Gregorian calendar. -/

def isLeap (year : Int) : Bool :=
  decide (year % 4 = 0 ∧ (year % 100 ≠ 0 ∨ year % 400 = 0))

def monthLength (leap : Bool) (month : Nat) : Nat :=
  if month = 2 then if leap then 29 else 28
  else if month = 4 ∨ month = 6 ∨ month = 9 ∨ month = 11 then 30
  else 31

theorem monthLength_pos (leap : Bool) (month : Nat) :
    1 ≤ monthLength leap month := by
  unfold monthLength
  split_ifs <;> decide

/-- Only February is longer in a leap year. -/
theorem monthLength_plain {month : Nat} (plain : month ≠ 2) (leap : Bool) :
    monthLength leap month = monthLength false month := by
  rw [monthLength, monthLength, if_neg plain, if_neg plain]

@[ext] structure Date where
  year : Int
  month : Nat
  day : Nat
  month_pos : 1 ≤ month
  month_le : month ≤ 12
  day_pos : 1 ≤ day
  day_le : day ≤ monthLength (isLeap year) month

namespace Date

def next (date : Date) : Date :=
  if inside : date.day < monthLength (isLeap date.year) date.month then
    { date with
      day := date.day + 1
      day_pos := Nat.succ_pos _
      day_le := inside }
  else if later : date.month < 12 then
    { date with
      month := date.month + 1
      day := 1
      month_pos := Nat.succ_pos _
      month_le := later
      day_pos := Nat.le_refl 1
      day_le := monthLength_pos _ _ }
  else
    { year := date.year + 1
      month := 1
      day := 1
      month_pos := Nat.le_refl 1
      month_le := by decide
      day_pos := Nat.le_refl 1
      day_le := monthLength_pos _ _ }

/-- The date so many days later. -/
def after (date : Date) : Nat → Date
  | 0 => date
  | days + 1 => (date.after days).next

end Date

/-! A year counted from its first of March, so that the day which a leap year
has more is the last one. -/

def yearDays (year : Int) : Nat :=
  if isLeap (year + 1) then 366 else 365

/-- The days from the first of March of year zero. -/
def daysBefore (year : Nat) : Nat :=
  365 * year + year / 4 - year / 100 + year / 400

theorem yearDays_natCast (year : Nat) :
    yearDays year = if (year + 1) % 4 = 0 ∧
      ((year + 1) % 100 ≠ 0 ∨ (year + 1) % 400 = 0) then 366 else 365 := by
  have same : isLeap (year + 1) = decide ((year + 1) % 4 = 0 ∧
      ((year + 1) % 100 ≠ 0 ∨ (year + 1) % 400 = 0)) := by
    rw [isLeap, decide_eq_decide]
    omega
  rw [yearDays, same]
  simp only [decide_eq_true_eq]

theorem daysBefore_succ (year : Nat) :
    daysBefore (year + 1) = daysBefore year + yearDays year := by
  have step (count : Nat) : (year + 1) / count =
      year / count + if (year + 1) % count = 0 then 1 else 0 := by
    simp only [Nat.succ_div, Nat.dvd_iff_mod_eq_zero]
  have fewer : year / 100 ≤ year / 4 := by omega
  have hundred : (year + 1) % 100 = 0 → (year + 1) % 4 = 0 := by omega
  have fourHundred : (year + 1) % 400 = 0 → (year + 1) % 100 = 0 := by omega
  rw [yearDays_natCast, daysBefore, daysBefore, step 4, step 100, step 400]
  generalize year / 4 = fours at *
  generalize year / 100 = hundreds at *
  split_ifs <;> omega

end Bowerbird.Foundation.Calendar
