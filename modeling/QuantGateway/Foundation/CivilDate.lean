import Mathlib.Data.Int.Init
import Mathlib.Data.Nat.Init
import Mathlib.Tactic.Common

/-!
Owns calendar dates of the proleptic Gregorian calendar and their day number,
counted from 1970-01-01 as `std::chrono::sys_days` counts them.

The day number is pinned down by two facts, `sysDays_epoch` and `sysDays_next`;
`sysDays_injective` says that different valid dates are different days.
-/

namespace QuantGateway.Foundation

/-- A year, month and day that need not name a date (`year_month_day`). -/
structure YearMonthDay where
  year : Int
  month : Nat
  day : Nat
deriving DecidableEq, Repr

namespace YearMonthDay

def isLeap (year : Int) : Bool :=
  year % 4 == 0 && (year % 100 != 0 || year % 400 == 0)

/-- The last day of a month, `year_month_day_last::day`. -/
def lastDay (year : Int) (month : Nat) : Nat :=
  match month with
  | 2 => if isLeap year then 29 else 28
  | 4 => 30
  | 6 => 30
  | 9 => 30
  | 11 => 30
  | _ => 31

/-- `year_month_day::ok`. -/
def ok (date : YearMonthDay) : Bool :=
  1 ≤ date.month && date.month ≤ 12 && 1 ≤ date.day && date.day ≤ lastDay date.year date.month

def yearLength (year : Int) : Nat :=
  if isLeap year then 366 else 365

/-- The leap years up to and including a year, counted from a fixed year. -/
def leapCount (year : Int) : Int :=
  year / 4 - year / 100 + year / 400

/-- The day number of the first of January. -/
def daysBeforeYear (year : Int) : Int :=
  365 * (year - 1970) + (leapCount (year - 1) - leapCount 1969)

/-- The days of a year before the first of a month. -/
def daysBeforeMonth (year : Int) : Nat → Nat
  | 0 => 0
  | 1 => 0
  | month + 2 => daysBeforeMonth year (month + 1) + lastDay year (month + 1)

/-- The number of days since 1970-01-01, as `sys_days` has it. -/
def sysDays (date : YearMonthDay) : Int :=
  daysBeforeYear date.year + daysBeforeMonth date.year date.month + date.day - 1

/-- The calendar successor of a date. -/
def next (date : YearMonthDay) : YearMonthDay :=
  if date.day < lastDay date.year date.month then { date with day := date.day + 1 }
  else if date.month < 12 then { date with month := date.month + 1, day := 1 }
  else ⟨date.year + 1, 1, 1⟩

theorem ok_iff {date : YearMonthDay} :
    date.ok = true ↔ (1 ≤ date.month ∧ date.month ≤ 12) ∧
      1 ≤ date.day ∧ date.day ≤ lastDay date.year date.month := by
  simp [ok, and_assoc]

theorem lastDay_le (year : Int) (month : Nat) : lastDay year month ≤ 31 := by
  unfold lastDay
  split <;> try split
  all_goals omega

/-! ## Years and months fill up without gaps -/

theorem daysBeforeYear_succ (year : Int) :
    daysBeforeYear (year + 1) = daysBeforeYear year + yearLength year := by
  unfold daysBeforeYear yearLength isLeap leapCount
  simp only [Bool.and_eq_true, Bool.or_eq_true, beq_iff_eq, bne_iff_ne, ne_eq]
  split <;> omega

theorem daysBeforeYear_le_of_lt {early late : Int} (before : early < late) :
    daysBeforeYear early + yearLength early ≤ daysBeforeYear late := by
  induction late, before using Int.leInduction with
  | base => exact Int.le_of_eq (daysBeforeYear_succ early).symm
  | succ late _ inductionHypothesis =>
      rw [daysBeforeYear_succ]
      omega

theorem daysBeforeMonth_succ (year : Int) {month : Nat} (positive : 1 ≤ month) :
    daysBeforeMonth year (month + 1) = daysBeforeMonth year month + lastDay year month := by
  obtain ⟨before, rfl⟩ := Nat.exists_eq_add_of_le' positive
  rfl

theorem daysBeforeMonth_le_of_lt (year : Int) {early late : Nat} (positive : 1 ≤ early)
    (before : early < late) :
    daysBeforeMonth year early + lastDay year early ≤ daysBeforeMonth year late := by
  induction late, before using Nat.le_induction with
  | base => exact Nat.le_of_eq (daysBeforeMonth_succ year positive).symm
  | succ late reached inductionHypothesis =>
      rw [daysBeforeMonth_succ year (by omega)]
      omega

theorem daysBeforeMonth_all (year : Int) : daysBeforeMonth year 13 = yearLength year := by
  unfold yearLength
  cases leap : isLeap year <;> simp [daysBeforeMonth, lastDay, leap]

/-- A valid date lies within its year. -/
theorem dayOfYear_le {date : YearMonthDay} (valid : date.ok = true) :
    daysBeforeMonth date.year date.month + date.day ≤ yearLength date.year := by
  obtain ⟨⟨positive, below⟩, _, inMonth⟩ := ok_iff.mp valid
  have monthEnd := daysBeforeMonth_le_of_lt date.year positive (Nat.lt_succ_of_le below)
  rw [daysBeforeMonth_all] at monthEnd
  omega

/-! ## The day number is the calendar -/

theorem sysDays_epoch : sysDays ⟨1970, 1, 1⟩ = 0 := rfl

/-- The next date is the next day. -/
theorem sysDays_next {date : YearMonthDay} (valid : date.ok = true) :
    sysDays date.next = sysDays date + 1 := by
  obtain ⟨⟨positive, below⟩, _, inMonth⟩ := ok_iff.mp valid
  unfold next
  split
  next within =>
    simp only [sysDays]
    omega
  next last =>
    have full : date.day = lastDay date.year date.month := by omega
    split
    next within =>
      simp only [sysDays, daysBeforeMonth_succ date.year positive]
      omega
    next december =>
      have isDecember : date.month = 12 := by omega
      have whole := daysBeforeMonth_all date.year
      rw [daysBeforeMonth_succ date.year (by omega), ← isDecember] at whole
      simp only [sysDays, daysBeforeYear_succ, daysBeforeMonth]
      omega

private theorem year_le_of_sysDays {first second : YearMonthDay} (firstValid : first.ok = true)
    (secondValid : second.ok = true) (same : first.sysDays = second.sysDays) :
    first.year ≤ second.year := by
  by_contra later
  have apart := daysBeforeYear_le_of_lt (Int.not_le.mp later)
  have inYear := dayOfYear_le secondValid
  have positive := (ok_iff.mp firstValid).2.1
  simp only [sysDays] at same
  omega

private theorem month_le_of_sysDays {first second : YearMonthDay} (firstValid : first.ok = true)
    (secondValid : second.ok = true) (sameYear : first.year = second.year)
    (same : first.sysDays = second.sysDays) : first.month ≤ second.month := by
  by_contra later
  obtain ⟨⟨positive, -⟩, -, inMonth⟩ := ok_iff.mp secondValid
  have apart := daysBeforeMonth_le_of_lt second.year positive (Nat.not_le.mp later)
  have firstPositive := (ok_iff.mp firstValid).2.1
  simp only [sysDays, sameYear] at same
  omega

/-- Different valid dates have different day numbers. -/
theorem sysDays_injective {first second : YearMonthDay} (firstValid : first.ok = true)
    (secondValid : second.ok = true) (same : first.sysDays = second.sysDays) :
    first = second := by
  have sameYear : first.year = second.year :=
    Int.le_antisymm (year_le_of_sysDays firstValid secondValid same)
      (year_le_of_sysDays secondValid firstValid same.symm)
  have sameMonth : first.month = second.month :=
    Nat.le_antisymm (month_le_of_sysDays firstValid secondValid sameYear same)
      (month_le_of_sysDays secondValid firstValid sameYear.symm same.symm)
  have sameDay : first.day = second.day := by
    simp only [sysDays, sameYear, sameMonth] at same
    omega
  cases first
  cases second
  simp_all

/-- The day numbers of the years 2000 to 2099. -/
theorem sysDays_bounds {date : YearMonthDay} (valid : date.ok = true)
    (early : 2000 ≤ date.year) (late : date.year ≤ 2099) :
    10957 ≤ date.sysDays ∧ date.sysDays ≤ 47481 := by
  have inYear := dayOfYear_le valid
  have positive := (ok_iff.mp valid).2.1
  have afterYear := daysBeforeYear_succ date.year
  simp only [sysDays]
  simp only [daysBeforeYear, leapCount] at afterYear ⊢
  omega

example : sysDays ⟨2025, 6, 27⟩ = 20266 := by decide

end YearMonthDay

end QuantGateway.Foundation
