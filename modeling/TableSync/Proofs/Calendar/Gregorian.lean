import Mathlib.Tactic.IntervalCases
import Std.Time.Date
import TableSync.Calendar.Date

/-!
# The Gregorian calendar

The standard library has the proleptic Gregorian calendar on its own terms: a date has a year of any
sign, a month and a day of bounded types, and the day is in the month of that year.  The days that
exist here are its dates in the years 1 to 9999, and they come in the same order.  What is no such
day fails a check, of which the first is reported.
-/

namespace TableSync.Calendar

open Std.Time

/-- A date of the calendar has the year, the month and the day of a day. -/
structure Date.Agrees (d : Date) (date : PlainDate) : Prop where
  year : date.year.toInt = d.year
  month : date.month.val = d.month
  day : date.day.val = d.day

/-! ## Months -/

theorem isLeap_eq {offset : Year.Offset} {year : Nat} (h : offset.toInt = year) :
    offset.isLeap = isLeapYear year := by
  unfold Year.Offset.isLeap isLeapYear
  rw [h, Bool.eq_iff_iff]
  simp only [Bool.and_eq_true, Bool.or_eq_true, decide_eq_true_eq,
    Int.tmod_eq_emod_of_nonneg (Int.natCast_nonneg year)]
  omega

theorem days_eq (month : Month.Ordinal) (year : Nat) :
    (month.days (isLeapYear year)).val = daysInMonth year month.val.toNat := by
  obtain ⟨m, hlow, hhigh⟩ := month
  unfold daysInMonth
  cases isLeapYear year <;> interval_cases m <;> rfl

/-! ## Days -/

theorem Date.Agrees.valid {d : Date} {date : PlainDate} (h : d.Agrees date) (hlow : 1 ≤ d.year)
    (hhigh : d.year ≤ 9999) : d.Valid := by
  have hmonth : date.month.val.toNat = d.month := by rw [h.month, Int.toNat_natCast]
  have hdays : date.day.val ≤ (date.month.days date.year.isLeap).val := date.valid
  rw [isLeap_eq h.year, days_eq, hmonth, h.day] at hdays
  have hmonths : 1 ≤ date.month.val ∧ date.month.val ≤ 12 := date.month.property
  have hfirst : 1 ≤ date.day.val := date.day.property.1
  rw [h.month] at hmonths
  rw [h.day] at hfirst
  unfold Date.Valid
  omega

theorem daysInMonth_le (year month : Nat) : daysInMonth year month ≤ 31 := by
  unfold daysInMonth
  split
  · split <;> decide
  · split <;> decide

theorem Date.Valid.bounds {d : Date} (h : d.Valid) :
    d.year ≤ 9999 ∧ d.month ≤ 12 ∧ d.day ≤ 31 := by
  have hthirty := daysInMonth_le d.year d.month
  obtain ⟨-, hyear, -, hmonth, -, hday⟩ := h
  exact ⟨hyear, hmonth, hday.trans hthirty⟩

theorem Date.Valid.exists_agrees {d : Date} (h : d.Valid) : ∃ date, d.Agrees date := by
  obtain ⟨-, hmonths, hthirty⟩ := h.bounds
  obtain ⟨-, -, hmonth, -, hday, hdays⟩ := h
  let year : Year.Offset := (d.year : Int)
  let month : Month.Ordinal := ⟨d.month, by omega, by omega⟩
  let day : Day.Ordinal := ⟨d.day, by omega, by omega⟩
  have hlength : (month.days year.isLeap).val = daysInMonth d.year d.month := by
    rw [isLeap_eq (rfl : year.toInt = d.year), days_eq]
    rfl
  have hvalid : day.val ≤ (month.days year.isLeap).val := by
    show (d.day : Int) ≤ _
    omega
  exact ⟨⟨year, month, day, hvalid⟩, rfl, rfl, rfl⟩

/-- The days that exist are the dates of the calendar in the years 1 to 9999. -/
theorem Date.valid_iff (d : Date) :
    d.Valid ↔ 1 ≤ d.year ∧ d.year ≤ 9999 ∧ ∃ date, d.Agrees date := by
  constructor
  · intro h
    exact ⟨h.1, h.2.1, h.exists_agrees⟩
  · rintro ⟨hlow, hhigh, date, h⟩
    exact h.valid hlow hhigh

/-! ## Faults -/

/-- The first check that a day fails, in the order of year, month and day; the last one asks for a
date of the calendar. -/
inductive Date.Fails (d : Date) : DateFault → Prop
  | year (hyear : ¬ (1 ≤ d.year ∧ d.year ≤ 9999)) : d.Fails (.yearRange d.year)
  | month (hyear : 1 ≤ d.year ∧ d.year ≤ 9999) (hmonth : ¬ (1 ≤ d.month ∧ d.month ≤ 12)) :
      d.Fails .monthRange
  | day (hyear : 1 ≤ d.year ∧ d.year ≤ 9999) (hmonth : 1 ≤ d.month ∧ d.month ≤ 12)
      (hday : ¬ ∃ date, d.Agrees date) : d.Fails .dayRange

theorem Date.of?_eq_error_iff {d : Date} {fault : DateFault} :
    Date.of? d.year d.month d.day = .error fault ↔ d.Fails fault := by
  have hcalendar := d.valid_iff
  unfold Date.Valid at hcalendar
  unfold Date.of?
  constructor
  · intro h
    split at h
    · cases h
      exact .year (by omega)
    · split at h
      · cases h
        exact .month (by omega) (by omega)
      · split at h
        · cases h
          refine .day (by omega) (by omega) fun hday => ?_
          have hvalid := hcalendar.mpr ⟨by omega, by omega, hday⟩
          omega
        · cases h
  · intro h
    cases h with
    | year hyear => rw [if_pos (by omega)]
    | month hyear hmonth => rw [if_neg (by omega), if_pos (by omega)]
    | day hyear hmonth hday =>
        have hlast : d.day < 1 ∨ daysInMonth d.year d.month < d.day := by
          by_contra hin
          exact hday (hcalendar.mp ⟨by omega, by omega, by omega, by omega, by omega, by omega⟩).2.2
        rw [if_neg (by omega), if_neg (by omega), if_pos hlast]

/-! ## Order -/

/-- A day is before another by its year, then by its month, then by its day. -/
def Date.Before (d e : Date) : Prop :=
  d.year < e.year ∨ d.year = e.year ∧ (d.month < e.month ∨ d.month = e.month ∧ d.day < e.day)

/-- The order of days is that of the dates of the calendar. -/
theorem Date.Agrees.before_iff {d e : Date} {date other : PlainDate} (h : d.Agrees date)
    (hother : e.Agrees other) : d.Before e ↔ compare date other = .lt := by
  have hcompare : compare date other =
      (compare date.year.toInt other.year.toInt).then
        ((compare date.month.val other.month.val).then
          (compare date.day.val other.day.val)) := rfl
  rw [hcompare, h.year, h.month, h.day, hother.year, hother.month, hother.day]
  simp only [Ordering.then_eq_lt, Int.compare_eq_lt, Int.compare_eq_eq, Int.ofNat_lt,
    Int.natCast_inj]
  rfl

end TableSync.Calendar
