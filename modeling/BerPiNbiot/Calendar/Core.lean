import Mathlib.Order.Monotone.Basic
import Mathlib.Tactic.IntervalCases

/-!
# The Gregorian calendar

Dates, the moments of a day and their places on the time line.  The days are
counted by recursion over the years and the months in front of a date, so that
the count follows the rules of the calendar and no closed formula.  Two moments at
the same place are equal, and the successor of a date stands one place behind it.
-/

namespace BerPiNbiot.Calendar

/-- The leap years. -/
def IsLeap (year : Nat) : Prop :=
  year % 4 = 0 ∧ (year % 100 ≠ 0 ∨ year % 400 = 0)

instance (year : Nat) : Decidable (IsLeap year) :=
  inferInstanceAs (Decidable (_ ∧ _))

/-- The days of a month; the months count from 1. -/
def daysInMonth (year : Nat) : Nat → Nat
  | 0 => 0
  | 2 => if IsLeap year then 29 else 28
  | 4 | 6 | 9 | 11 => 30
  | _ => 31

@[simp]
theorem daysInMonth_zero (year : Nat) : daysInMonth year 0 = 0 :=
  rfl

/-- In a leap year February is the only month of at most 29 days. -/
theorem daysInMonth_of_isLeap {year month : Nat} (leap : IsLeap year) (positive : 0 < month)
    (bounded : month ≤ 12) :
    29 ≤ daysInMonth year month ∧ (daysInMonth year month = 29 ↔ month = 2) := by
  interval_cases month <;> simp [daysInMonth, leap]

/-- The days of the year in front of a month. -/
def daysBeforeMonth (year : Nat) : Nat → Nat
  | 0 => 0
  | month + 1 => daysBeforeMonth year month + daysInMonth year month

/-- The days in front of a year. -/
def daysBeforeYear : Nat → Nat
  | 0 => 0
  | year + 1 => daysBeforeYear year + daysBeforeMonth year 13

/-- A date of the calendar. -/
@[ext]
structure Date where
  year : Nat
  month : Nat
  day : Nat
  month_pos : 0 < month
  month_le : month ≤ 12
  day_pos : 0 < day
  day_le : day ≤ daysInMonth year month

/-- A second of a day of the calendar. -/
@[ext]
structure Moment where
  date : Date
  hour : Nat
  minute : Nat
  second : Nat
  hour_lt : hour < 24
  minute_lt : minute < 60
  second_lt : second < 60

/-- The number of a day. -/
def Date.number (date : Date) : Nat :=
  daysBeforeYear date.year + daysBeforeMonth date.year date.month + date.day

/-- The number of a second. -/
def Moment.instant (moment : Moment) : Nat :=
  ((moment.date.number * 24 + moment.hour) * 60 + moment.minute) * 60 + moment.second

/-- The ISO weekday, 1 for Monday and 7 for Sunday. -/
def Date.weekday (date : Date) : Nat :=
  (date.number + 4) % 7 + 1

/-! ## The successor of a date -/

theorem daysInMonth_pos (year : Nat) {month : Nat} (positive : 0 < month) :
    0 < daysInMonth year month := by
  unfold daysInMonth
  split <;> first | omega | (split <;> omega)

/-- The next day. -/
def Date.next (date : Date) : Date :=
  if inside : date.day < daysInMonth date.year date.month then
    { date with day := date.day + 1, day_pos := Nat.succ_pos _, day_le := inside }
  else if early : date.month < 12 then
    { year := date.year, month := date.month + 1, day := 1, month_pos := Nat.succ_pos _,
      month_le := early, day_pos := Nat.one_pos,
      day_le := daysInMonth_pos date.year (Nat.succ_pos _) }
  else
    { year := date.year + 1, month := 1, day := 1, month_pos := Nat.one_pos,
      month_le := by decide, day_pos := Nat.one_pos,
      day_le := daysInMonth_pos (date.year + 1) Nat.one_pos }

theorem Date.next_of_lt {date : Date} (inside : date.day < daysInMonth date.year date.month) :
    date.next.year = date.year ∧ date.next.month = date.month ∧ date.next.day = date.day + 1 := by
  rw [Date.next, dif_pos inside]
  exact ⟨rfl, rfl, rfl⟩

theorem Date.next_of_last {date : Date} (last : date.day = daysInMonth date.year date.month) :
    date.next.year = (if date.month < 12 then date.year else date.year + 1) ∧
      date.next.month = (if date.month < 12 then date.month + 1 else 1) ∧ date.next.day = 1 := by
  rw [Date.next, dif_neg (Nat.not_lt_of_le (Nat.le_of_eq last.symm))]
  split <;> exact ⟨rfl, rfl, rfl⟩

theorem Date.number_next (date : Date) : date.next.number = date.number + 1 := by
  unfold Date.next
  have last := date.day_le
  split
  · rfl
  · split
    · simp only [Date.number, daysBeforeMonth]
      omega
    · have december : date.month = 12 := by
        have := date.month_le
        omega
      rw [december] at last
      simp only [Date.number, daysBeforeYear, daysBeforeMonth, daysInMonth_zero, december] at *
      omega

/-- The weekday advances by one from each day to the next. -/
theorem Date.weekday_next (date : Date) : date.next.weekday = date.weekday % 7 + 1 := by
  rw [Date.weekday, Date.weekday, Date.number_next]
  omega

/-! ## Places on the time line -/

/-- A number lies in one gap of a monotone sequence only. -/
theorem eq_of_between {start : Nat → Nat} (monotone : Monotone start) (place : Nat)
    {first second : Nat} (above : start first < place) (below : place ≤ start (first + 1))
    (above' : start second < place) (below' : place ≤ start (second + 1)) : first = second := by
  rcases Nat.lt_trichotomy first second with before | same | behind
  · have : start (first + 1) ≤ start second := monotone before
    omega
  · exact same
  · have : start (second + 1) ≤ start first := monotone behind
    omega

theorem monotone_daysBeforeMonth (year : Nat) : Monotone (daysBeforeMonth year) :=
  monotone_nat_of_le_succ fun _ => Nat.le_add_right _ _

theorem monotone_daysBeforeYear : Monotone daysBeforeYear :=
  monotone_nat_of_le_succ fun _ => Nat.le_add_right _ _

/-- A date lies in its month. -/
theorem Date.day_mem_month (date : Date) :
    daysBeforeMonth date.year date.month + date.day ≤
      daysBeforeMonth date.year (date.month + 1) := by
  have := date.day_le
  rw [daysBeforeMonth]
  omega

/-- A date lies in its year. -/
theorem Date.day_mem_year (date : Date) :
    daysBeforeMonth date.year date.month + date.day ≤ daysBeforeMonth date.year 13 :=
  date.day_mem_month.trans
    (monotone_daysBeforeMonth date.year (Nat.succ_le_succ date.month_le))

theorem Date.number_injective : Function.Injective Date.number := by
  intro first second same
  have inFirst := first.day_mem_year
  have inSecond := second.day_mem_year
  have positive := first.day_pos
  have positive' := second.day_pos
  have year : first.year = second.year := by
    apply eq_of_between monotone_daysBeforeYear first.number
    all_goals simp only [Date.number, daysBeforeYear] at *
    all_goals omega
  have inMonth := first.day_mem_month
  have inMonth' := second.day_mem_month
  have month : first.month = second.month := by
    simp only [Date.number, year] at *
    apply eq_of_between (monotone_daysBeforeMonth second.year)
      (daysBeforeMonth second.year first.month + first.day)
    all_goals omega
  apply Date.ext year month
  simp only [Date.number, year, month] at same
  omega

theorem Moment.instant_injective : Function.Injective Moment.instant := by
  intro first second same
  have := first.hour_lt
  have := first.minute_lt
  have := first.second_lt
  have := second.hour_lt
  have := second.minute_lt
  have := second.second_lt
  simp only [Moment.instant] at same
  apply Moment.ext
  · apply Date.number_injective
    omega
  all_goals omega

/-- The moment some hours behind another one, up to the end of the next day. -/
def Moment.later (moment : Moment) (hours : Nat) (bounded : hours ≤ 24) : Moment :=
  if sameDay : moment.hour + hours < 24 then
    { moment with hour := moment.hour + hours, hour_lt := sameDay }
  else
    { moment with
      date := moment.date.next
      hour := moment.hour + hours - 24
      hour_lt := by
        have := moment.hour_lt
        omega }

theorem Moment.instant_later (moment : Moment) (hours : Nat) (bounded : hours ≤ 24) :
    (moment.later hours bounded).instant = moment.instant + hours * 3600 := by
  unfold Moment.later
  split
  · simp only [Moment.instant]
    omega
  · simp only [Moment.instant, Date.number_next]
    omega

/-! ## Closed form -/

theorem daysBeforeMonth_end (year : Nat) :
    daysBeforeMonth year 13 = if IsLeap year then 366 else 365 := by
  simp only [daysBeforeMonth, daysInMonth]
  split <;> rfl

/-- The days of the year in front of a month, with the days that February lacks. -/
theorem daysBeforeMonth_eq {year month : Nat} (positive : 0 < month) (bounded : month ≤ 12) :
    daysBeforeMonth year month + (if month ≤ 2 then 0 else if IsLeap year then 1 else 2) =
      (367 * month - 362) / 12 := by
  by_cases leap : IsLeap year <;>
    interval_cases month <;> simp [daysBeforeMonth, daysInMonth, leap]

/-- The days in front of a year, with one leap day for each leap year. -/
theorem daysBeforeYear_eq (year : Nat) :
    daysBeforeYear year + (year + 99) / 100 = 365 * year + (year + 3) / 4 + (year + 399) / 400 := by
  induction year with
  | zero => rfl
  | succ year ih =>
      -- a quotient grows where the year before is a multiple
      have four : (year + 1 + 3) / 4 = (year + 3) / 4 + if year % 4 = 0 then 1 else 0 := by
        split <;> omega
      have hundred :
          (year + 1 + 99) / 100 = (year + 99) / 100 + if year % 100 = 0 then 1 else 0 := by
        split <;> omega
      have fourHundred :
          (year + 1 + 399) / 400 = (year + 399) / 400 + if year % 400 = 0 then 1 else 0 := by
        split <;> omega
      rw [daysBeforeYear, daysBeforeMonth_end, four, hundred, fourHundred]
      by_cases leap : IsLeap year
      · rw [if_pos leap]
        rcases leap with ⟨multiple, notHundred | multiple400⟩
        · have not400 : year % 400 ≠ 0 := by omega
          rw [if_pos multiple, if_neg notHundred, if_neg not400]
          omega
        · have multiple100 : year % 100 = 0 := by omega
          rw [if_pos multiple, if_pos multiple100, if_pos multiple400]
          omega
      · rw [if_neg leap]
        by_cases multiple : year % 4 = 0
        · have century : year % 100 = 0 ∧ year % 400 ≠ 0 := by
            rw [IsLeap, not_and_or, not_or, not_not] at leap
            exact leap.resolve_left (not_not_intro multiple)
          rw [if_pos multiple, if_pos century.1, if_neg century.2]
          omega
        · have not100 : year % 100 ≠ 0 := by omega
          have not400 : year % 400 ≠ 0 := by omega
          rw [if_neg multiple, if_neg not100, if_neg not400]
          omega

/-- The weekday from the days in front of the year, which the closed form gives
without counting the years. -/
theorem Date.weekday_of_closed {date : Date} {days : Nat}
    (closed : days + (date.year + 99) / 100 =
      365 * date.year + (date.year + 3) / 4 + (date.year + 399) / 400) :
    date.weekday = (days + daysBeforeMonth date.year date.month + date.day + 4) % 7 + 1 := by
  have before : daysBeforeYear date.year = days :=
    Nat.add_right_cancel ((daysBeforeYear_eq date.year).trans closed.symm)
  rw [Date.weekday, Date.number, before]

/-- The first of January 2000 was a Saturday. -/
example : Date.weekday ⟨2000, 1, 1, by decide, by decide, by decide, by decide⟩ = 6 := by
  rw [@Date.weekday_of_closed _ 730485 rfl]
  rfl

end BerPiNbiot.Calendar
