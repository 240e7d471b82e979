import BerPiNbiot.Calendar.Core
import BerPiNbiot.Modem.Connect

/-!
# Setting the clock

The network reports its time in UTC with a two-digit year.
`qsdk_nb_set_rtc_time` moves it by `QSDK_TIME_ZONE` hours, carries into the date
and computes the weekday before it calls `qsdk_rtc_set_time_callback`.  Here the
arguments of the callback are compared with the calendar.
-/

namespace BerPiNbiot.Modem

open BerPiNbiot.Calendar

/-- `QSDK_TIME_ZONE` -/
def timeZone : Nat := 8

/-- The arguments of the callback for a moment of UTC. -/
def rtcTimeAt (utc : Moment) : CivilTime :=
  qsdkNbSetRtcTime (utc.date.year - 2000) utc.date.month utc.date.day utc.hour utc.minute
    utc.second

/-- The year has two digits in the answer of the network. -/
def TwoDigitYear (utc : Moment) : Prop :=
  2000 ≤ utc.date.year ∧ utc.date.year < 2100

instance (utc : Moment) : Decidable (TwoDigitYear utc) :=
  inferInstanceAs (Decidable (_ ∧ _))

/-- The arguments are those of a moment. -/
def CivilTime.Shows (time : CivilTime) (moment : Moment) : Prop :=
  time.year = moment.date.year ∧ time.month = moment.date.month ∧ time.day = moment.date.day ∧
    time.hour = moment.hour ∧ time.min = moment.minute ∧ time.sec = moment.second

/-- The moment in the time zone. -/
def zoned (utc : Moment) : Moment :=
  utc.later timeZone (by decide)

/-! ## The source's arithmetic -/

section Arithmetic

variable (year month day hour min sec : Int)

/-- Up to 16 hours nothing is carried; the hour 16 becomes 24. -/
theorem qsdkNbSetRtcTime_of_le (early : hour ≤ 16) :
    qsdkNbSetRtcTime year month day hour min sec =
      { year := year + 2000, month, day, hour := hour + 8, min, sec
        week := (day + 2 * month + (3 * (month + 1)).tdiv 5 + year + year.tdiv 4 -
          year.tdiv 100 + year.tdiv 400).tmod 7 + 1 } := by
  have stays : ¬ hour + 8 > 24 := by omega
  simp only [qsdkNbSetRtcTime, if_neg stays]

/-- Later hours carry into the day. -/
theorem qsdkNbSetRtcTime_next_day (late : 16 < hour) (bounded : month ≤ 12)
    (inside : day + 1 ≤ lastDay year month) :
    ∃ week, qsdkNbSetRtcTime year month day hour min sec =
      { year := year + 2000, month, day := day + 1, hour := hour - 16, min, sec, week } := by
  have carried : hour + 8 > 24 := by omega
  have stays : ¬ day + 1 > lastDay year month := by omega
  have within : ¬ month > 12 := by omega
  have shifted : hour + 8 - 24 = hour - 16 := by omega
  simp only [qsdkNbSetRtcTime, if_pos carried, if_neg stays, if_neg within, shifted]
  exact ⟨_, rfl⟩

/-- Behind the last day they carry into the month, and from there into the year. -/
theorem qsdkNbSetRtcTime_next_month (late : 16 < hour) (past : lastDay year month < day + 1) :
    ∃ week, qsdkNbSetRtcTime year month day hour min sec =
      { year := (if month < 12 then year else year + 1) + 2000
        month := if month < 12 then month + 1 else month - 11
        day := day + 1 - lastDay year month, hour := hour - 16, min, sec, week } := by
  have carried : hour + 8 > 24 := by omega
  have shifted : hour + 8 - 24 = hour - 16 := by omega
  simp only [qsdkNbSetRtcTime, if_pos carried, if_pos past, shifted]
  by_cases december : month < 12
  · have within : ¬ month + 1 > 12 := by omega
    simp only [if_pos december, if_neg within]
    exact ⟨_, rfl⟩
  · have wrapped : month + 1 > 12 := by omega
    have first : month + 1 - 12 = month - 11 := by omega
    simp only [if_neg december, if_pos wrapped, first]
    exact ⟨_, rfl⟩

end Arithmetic

/-- In a leap year every month is taken to end with its 29th day. -/
theorem lastDay_eq {utc : Moment} (century : TwoDigitYear utc) :
    lastDay (utc.date.year - 2000) utc.date.month =
      if IsLeap utc.date.year then 29 else (daysInMonth utc.date.year utc.date.month : Int) := by
  have leap : ((((utc.date.year : Int) - 2000).tmod 4 = 0 ∧
      ((utc.date.year : Int) - 2000).tmod 100 ≠ 0) ∨
      ((utc.date.year : Int) - 2000).tmod 400 = 0) ↔ IsLeap utc.date.year := by
    rcases century with ⟨_, _⟩
    have positive : (0 : Int) ≤ utc.date.year - 2000 := by omega
    simp only [Int.tmod_eq_emod_of_nonneg positive, IsLeap]
    omega
  unfold lastDay
  by_cases year : IsLeap utc.date.year
  · rw [if_pos (leap.mpr year), if_pos year]
  · rw [if_neg (leap.not.mpr year), if_neg year]
    have positive := utc.date.month_pos
    have bounded := utc.date.month_le
    interval_cases utc.date.month <;> simp [daysInMonth, year]

/-! ## Time of day -/

theorem zoned_of_lt {utc : Moment} (early : utc.hour < 16) :
    (zoned utc).date = utc.date ∧ (zoned utc).hour = utc.hour + 8 ∧
      (zoned utc).minute = utc.minute ∧ (zoned utc).second = utc.second := by
  have same : utc.hour + timeZone < 24 := by
    unfold timeZone
    omega
  rw [zoned, Moment.later, dif_pos same]
  exact ⟨rfl, rfl, rfl, rfl⟩

theorem zoned_of_le {utc : Moment} (late : 16 ≤ utc.hour) :
    (zoned utc).date = utc.date.next ∧ (zoned utc).hour = utc.hour - 16 ∧
      (zoned utc).minute = utc.minute ∧ (zoned utc).second = utc.second := by
  have next : ¬ utc.hour + timeZone < 24 := by
    unfold timeZone
    omega
  rw [zoned, Moment.later, dif_neg next]
  refine ⟨rfl, ?_, rfl, rfl⟩
  change utc.hour + 8 - 24 = utc.hour - 16
  omega

/-- Up to 15 hours the date stays and the time is right. -/
theorem rtcTimeAt_early {utc : Moment} (early : utc.hour ≤ 15) :
    (rtcTimeAt utc).Shows (zoned utc) := by
  rcases zoned_of_lt (Nat.lt_succ_of_le early) with ⟨date, hour, minute, second⟩
  rw [rtcTimeAt, qsdkNbSetRtcTime_of_le _ _ _ _ _ _ (by omega), CivilTime.Shows, date, hour, minute,
    second]
  refine ⟨?_, rfl, rfl, ?_, rfl, rfl⟩
  · exact Int.sub_add_cancel _ _
  · exact (Int.natCast_add _ _).symm

/-- 16 hours become hour 24 of the same day. -/
theorem rtcTimeAt_sixteen {utc : Moment} (sixteen : utc.hour = 16) :
    ¬ (rtcTimeAt utc).Shows (zoned utc) := by
  rcases zoned_of_le (Nat.le_of_eq sixteen.symm) with ⟨_, hour, _⟩
  rintro ⟨_, _, _, shown, _⟩
  rw [rtcTimeAt, qsdkNbSetRtcTime_of_le _ _ _ _ _ _ (by omega), hour, sixteen] at shown
  change (16 : Int) + 8 = 0 at shown
  contradiction

/-- The next day within the month that the source assumes. -/
theorem rtcTimeAt_next_day {utc : Moment} (late : 17 ≤ utc.hour)
    (inside : (utc.date.day : Int) + 1 ≤ lastDay (utc.date.year - 2000) utc.date.month) :
    (rtcTimeAt utc).Shows (zoned utc) ↔
      utc.date.day < daysInMonth utc.date.year utc.date.month := by
  rcases zoned_of_le (by omega : 16 ≤ utc.hour) with ⟨date, hour, minute, second⟩
  rcases qsdkNbSetRtcTime_next_day (utc.date.year - 2000) utc.date.month utc.date.day utc.hour
    utc.minute utc.second (by omega) (by exact_mod_cast utc.date.month_le) inside with ⟨week, set⟩
  rw [rtcTimeAt, set, CivilTime.Shows, date, hour, minute, second]
  dsimp only
  rcases Nat.lt_or_eq_of_le utc.date.day_le with within | last
  · rcases Date.next_of_lt within with ⟨nextYear, nextMonth, nextDay⟩
    rw [nextYear, nextMonth, nextDay]
    omega
  · rcases Date.next_of_last last with ⟨_, _, nextDay⟩
    have positive := utc.date.day_pos
    rw [nextDay]
    omega

/-- The first days behind the month that the source assumes. -/
theorem rtcTimeAt_next_month {utc : Moment} (late : 17 ≤ utc.hour)
    (past : lastDay (utc.date.year - 2000) utc.date.month < (utc.date.day : Int) + 1) :
    (rtcTimeAt utc).Shows (zoned utc) ↔
      utc.date.day = daysInMonth utc.date.year utc.date.month ∧
        lastDay (utc.date.year - 2000) utc.date.month = utc.date.day := by
  rcases zoned_of_le (by omega : 16 ≤ utc.hour) with ⟨date, hour, minute, second⟩
  rcases qsdkNbSetRtcTime_next_month (utc.date.year - 2000) utc.date.month utc.date.day utc.hour
    utc.minute utc.second (by omega) past with ⟨week, set⟩
  rw [rtcTimeAt, set, CivilTime.Shows, date, hour, minute, second]
  dsimp only
  have bounded := utc.date.month_le
  rcases Nat.lt_or_eq_of_le utc.date.day_le with within | last
  · rcases Date.next_of_lt within with ⟨_, nextMonth, _⟩
    rw [nextMonth]
    simp only [ne_of_lt within, false_and, iff_false]
    split_ifs <;> omega
  · rcases Date.next_of_last last with ⟨nextYear, nextMonth, nextDay⟩
    rw [nextYear, nextMonth, nextDay]
    by_cases december : utc.date.month < 12
    · have december' : (utc.date.month : Int) < 12 := by omega
      rw [if_pos december, if_pos december, if_pos december', if_pos december']
      omega
    · have december' : ¬ (utc.date.month : Int) < 12 := by omega
      rw [if_neg december, if_neg december, if_neg december', if_neg december']
      omega

/-- A later hour carries into the next day, and the carry is right unless a month
of a leap year is cut short. -/
theorem rtcTimeAt_late {utc : Moment} (century : TwoDigitYear utc) (late : 17 ≤ utc.hour) :
    (rtcTimeAt utc).Shows (zoned utc) ↔
      ¬ IsLeap utc.date.year ∨ utc.date.day ≤ 28 ∨ utc.date.month = 2 := by
  have inMonth := utc.date.day_le
  have last := lastDay_eq century
  have past_or_inside := lt_or_ge (lastDay (utc.date.year - 2000) utc.date.month)
    ((utc.date.day : Int) + 1)
  by_cases leap : IsLeap utc.date.year
  · rcases daysInMonth_of_isLeap leap utc.date.month_pos utc.date.month_le with ⟨_, february⟩
    rw [if_pos leap] at last
    simp only [leap, not_true_eq_false, false_or]
    rcases past_or_inside with past | inside
    · rw [rtcTimeAt_next_month late past]
      omega
    · rw [rtcTimeAt_next_day late inside]
      omega
  · rw [if_neg leap] at last
    simp only [leap, not_false_eq_true, true_or, iff_true]
    rcases past_or_inside with past | inside
    · rw [rtcTimeAt_next_month late past]
      omega
    · rw [rtcTimeAt_next_day late inside]
      omega

/-- The moment in the time zone is the only one at its place. -/
theorem shows_zoned_iff (utc : Moment) :
    (∃ moment : Moment, moment.instant = utc.instant + timeZone * 3600 ∧
      (rtcTimeAt utc).Shows moment) ↔ (rtcTimeAt utc).Shows (zoned utc) := by
  have place : (zoned utc).instant = utc.instant + timeZone * 3600 :=
    Moment.instant_later utc timeZone _
  constructor
  · rintro ⟨moment, same, shown⟩
    rw [← Moment.instant_injective (same.trans place.symm)]
    exact shown
  · intro shown
    exact ⟨zoned utc, place, shown⟩

/-- The callback receives the moment in the time zone, eight hours behind UTC on
the time line, if and only if the hour is not 16 and no month of a leap year
other than February is left from its 29th day on. -/
theorem rtcTimeAt_shows_iff (utc : Moment) (century : TwoDigitYear utc) :
    (∃ moment : Moment, moment.instant = utc.instant + timeZone * 3600 ∧
      (rtcTimeAt utc).Shows moment) ↔
    utc.hour ≠ 16 ∧ (utc.hour ≤ 15 ∨ ¬ IsLeap utc.date.year ∨ utc.date.day ≤ 28 ∨
      utc.date.month = 2) := by
  rw [shows_zoned_iff]
  rcases Nat.lt_trichotomy utc.hour 16 with early | sixteen | late
  · exact iff_of_true (rtcTimeAt_early (by omega)) ⟨by omega, Or.inl (by omega)⟩
  · exact iff_of_false (rtcTimeAt_sixteen sixteen) fun condition => condition.1 sixteen
  · rw [rtcTimeAt_late century late]
    have differs : utc.hour ≠ 16 := by omega
    have behind : ¬ utc.hour ≤ 15 := by omega
    simp only [ne_eq, differs, behind, not_false_eq_true, false_or, true_and]

/-- The evening of the 29th of February 2024. -/
def leapEvening : Moment :=
  { date := ⟨2024, 2, 29, by decide, by decide, by decide, by decide⟩, hour := 20, minute := 30
    second := 0, hour_lt := by decide, minute_lt := by decide, second_lt := by decide }

theorem leapEvening_shown : ∃ moment : Moment,
    moment.instant = leapEvening.instant + timeZone * 3600 ∧
      (rtcTimeAt leapEvening).Shows moment :=
  (rtcTimeAt_shows_iff leapEvening (by decide)).mpr (by decide)

theorem january_le : 1 ≤ 12 := by
  decide

theorem thirtieth_pos : 0 < 30 := by
  decide

/-- The evening of the 30th of January 2024 becomes the second of February. -/
def januaryEvening : Moment :=
  { date := ⟨2024, 1, 30, Nat.one_pos, january_le, thirtieth_pos, by decide⟩
    hour := 20
    minute := 30
    second := 0, hour_lt := by decide, minute_lt := by decide, second_lt := by decide }

theorem januaryEvening_not_shown : TwoDigitYear januaryEvening ∧ ¬ ∃ moment : Moment,
    moment.instant = januaryEvening.instant + timeZone * 3600 ∧
      (rtcTimeAt januaryEvening).Shows moment := by
  have century : TwoDigitYear januaryEvening := by decide
  rw [shows_zoned_iff, rtcTimeAt_late century (by decide)]
  decide

/-! ## Weekday -/

/-- The formula of the source, over natural numbers and without the terms that
vanish for a year of two digits. -/
theorem week_eq {utc : Moment} {offset : Nat} (year : utc.date.year = 2000 + offset)
    (small : offset < 100) (early : utc.hour ≤ 15) :
    (rtcTimeAt utc).week =
      ((utc.date.day + 2 * utc.date.month + 3 * (utc.date.month + 1) / 5 + offset +
        offset / 4) % 7 + 1 : Nat) := by
  rw [rtcTimeAt, qsdkNbSetRtcTime_of_le _ _ _ _ _ _ (by omega), year]
  have two : ((2000 + offset : Nat) : Int) - 2000 = offset := by omega
  have years : (0 : Int) ≤ offset := Int.natCast_nonneg offset
  have months : (0 : Int) ≤ 3 * ((utc.date.month : Int) + 1) := by omega
  have hundred : (offset : Int) / 100 = 0 := by omega
  have fourHundred : (offset : Int) / 400 = 0 := by omega
  have nonneg : (0 : Int) ≤ utc.date.day + 2 * utc.date.month +
      3 * ((utc.date.month : Int) + 1) / 5 + offset + (offset : Int) / 4 := by omega
  rw [two]
  simp only [Int.tdiv_eq_ediv_of_nonneg years, Int.tdiv_eq_ediv_of_nonneg months, hundred,
    fourHundred, Int.sub_zero, Int.add_zero, Int.tmod_eq_emod_of_nonneg nonneg]
  push_cast
  rfl

/-- The number of a day of this century. -/
theorem number_eq {date : Date} {offset : Nat} (year : date.year = 2000 + offset)
    (small : offset < 100) :
    date.number + (if date.month ≤ 2 then 0 else if offset % 4 = 0 then 1 else 2) =
      730485 + 365 * offset + (offset + 3) / 4 + (367 * date.month - 362) / 12 + date.day := by
  have months := @daysBeforeMonth_eq date.year _ date.month_pos date.month_le
  have leap : IsLeap date.year ↔ offset % 4 = 0 := by
    unfold IsLeap
    omega
  have before : daysBeforeYear date.year = 730485 + 365 * offset + (offset + 3) / 4 := by
    have closed := daysBeforeYear_eq date.year
    rw [year] at closed ⊢
    rcases Nat.eq_zero_or_pos offset with rfl | positive
    · omega
    · omega
  simp only [leap] at months
  rw [Date.number, before]
  omega

/-- From March on the leap day of the year and the days that February lacks make
one day together. -/
theorem number_of_march_le {date : Date} {offset : Nat} (year : date.year = 2000 + offset)
    (small : offset < 100) (later : 3 ≤ date.month) :
    date.number + 1 =
      730485 + 365 * offset + offset / 4 + (367 * date.month - 362) / 12 + date.day := by
  have number := number_eq year small
  rw [if_neg (by omega)] at number
  split_ifs at number <;> omega

/-- Without a carry the callback receives the ISO weekday of the date if and only
if the month is not January or February. -/
theorem week_eq_weekday_iff (utc : Moment) (century : TwoDigitYear utc) (early : utc.hour ≤ 15) :
    (rtcTimeAt utc).week = utc.date.weekday ↔ 3 ≤ utc.date.month := by
  rcases century with ⟨least, most⟩
  rcases Nat.exists_eq_add_of_le least with ⟨offset, year⟩
  have small : offset < 100 := by omega
  rw [week_eq year small early, Nat.cast_inj, Date.weekday]
  have positive := utc.date.month_pos
  have bounded := utc.date.month_le
  by_cases later : 3 ≤ utc.date.month
  · have number := number_of_march_le year small later
    refine iff_of_true ?_ later
    clear year least most
    generalize offset / 4 = quad at *
    interval_cases utc.date.month <;> omega
  · have number := number_eq year small
    rw [if_pos (by omega)] at number
    refine iff_of_false ?_ later
    -- the two counts of leap days differ by at most one, which does not make up for the month
    have leapDay : (offset + 3) / 4 = offset / 4 ∨ (offset + 3) / 4 = offset / 4 + 1 := by omega
    clear year least most
    generalize offset / 4 = quad at *
    rcases leapDay with before | behind
    · rw [before] at number
      interval_cases utc.date.month <;> omega
    · rw [behind] at number
      interval_cases utc.date.month <;> omega

/-- Noon of the 29th of July 2021, a Thursday. -/
def julyNoon : Moment :=
  { date := ⟨2021, 7, 29, by decide, by decide, by decide, by decide⟩, hour := 12, minute := 0
    second := 0, hour_lt := by decide, minute_lt := by decide, second_lt := by decide }

theorem julyNoon_weekday : (rtcTimeAt julyNoon).week = julyNoon.date.weekday :=
  (week_eq_weekday_iff julyNoon (by decide) (by decide)).mpr (by decide)

/-- Noon of the first of January 2024, a Monday. -/
def januaryNoon : Moment :=
  { date := ⟨2024, 1, 1, Nat.one_pos, january_le, Nat.one_pos, by decide⟩, hour := 12, minute := 0
    second := 0, hour_lt := by decide, minute_lt := by decide, second_lt := by decide }

/-- It is shown as a Sunday. -/
theorem januaryNoon_weekday_wrong : TwoDigitYear januaryNoon ∧ januaryNoon.hour ≤ 15 ∧
    (rtcTimeAt januaryNoon).week = 7 ∧ januaryNoon.date.weekday = 1 := by
  have monday : januaryNoon.date.weekday = 1 := by
    rw [@Date.weekday_of_closed januaryNoon.date 739251 rfl]
    rfl
  refine ⟨?_, ?_, ?_, monday⟩
  all_goals decide

end BerPiNbiot.Modem
