import TableSync.Text.Integer

/-!
# Calendar dates

Dates of the proleptic Gregorian calendar in the years 1 to 9999.  A date is built from three
numbers; first the numbers must fit a machine integer, all three of them, and only then are year,
month and day checked, in this order.
-/

namespace TableSync.Calendar

open TableSync.Text

/-- A year divisible by four is a leap year, one divisible by a hundred only if four hundred
divides it too. -/
def isLeapYear (year : Nat) : Bool :=
  year % 4 = 0 && (year % 100 ≠ 0 || year % 400 = 0)

def daysInMonth (year month : Nat) : Nat :=
  if month = 2 then (if isLeapYear year then 29 else 28)
  else if month = 4 ∨ month = 6 ∨ month = 9 ∨ month = 11 then 30
  else 31

/-- A day of the calendar. -/
structure Date where
  year : Nat
  month : Nat
  day : Nat
deriving DecidableEq, Repr

/-- The days that exist. -/
def Date.Valid (d : Date) : Prop :=
  1 ≤ d.year ∧ d.year ≤ 9999 ∧ 1 ≤ d.month ∧ d.month ≤ 12 ∧
    1 ≤ d.day ∧ d.day ≤ daysInMonth d.year d.month

instance (d : Date) : Decidable d.Valid := by
  unfold Date.Valid
  infer_instance

inductive DateFault
  | yearRange (found : Nat)
  | monthRange
  | dayRange
deriving DecidableEq, Repr

def DateFault.message : DateFault → String
  | .yearRange found => "year " ++ decimal found ++ " is out of range"
  | .monthRange => "month must be in 1..12"
  | .dayRange => "day is out of range for month"

/-- Which machine integer a number does not fit. -/
inductive Overflow
  | long
  | int
deriving DecidableEq, Repr

def Overflow.message : Overflow → String
  | .long => "Python int too large to convert to C long"
  | .int => "signed integer is greater than maximum"

/-- The machine integer that a number does not fit, if there is one. -/
def overflow? (n : Nat) : Option Overflow :=
  if Nat.pow 2 63 ≤ n then some .long
  else if Nat.pow 2 31 ≤ n then some .int
  else none

theorem overflow?_eq_none_iff {n : Nat} : overflow? n = none ↔ n < Nat.pow 2 31 := by
  have hle : Nat.pow 2 31 ≤ Nat.pow 2 63 := by decide +kernel
  unfold overflow?
  split
  · rename_i hlong
    exact ⟨fun h => (by cases h), fun h => absurd (Nat.le_trans hle hlong) (Nat.not_le.mpr h)⟩
  · split
    · rename_i hint
      exact ⟨fun h => (by cases h), fun h => absurd hint (Nat.not_le.mpr h)⟩
    · rename_i hint
      exact ⟨fun _ => Nat.not_le.mp hint, fun _ => rfl⟩

/-- The date that three numbers make, or the first check that they fail. -/
def Date.of? (year month day : Nat) : Except DateFault Date :=
  if year < 1 ∨ 9999 < year then .error (.yearRange year)
  else if month < 1 ∨ 12 < month then .error .monthRange
  else if day < 1 ∨ daysInMonth year month < day then .error .dayRange
  else .ok ⟨year, month, day⟩

/-- A date as year, month and day between dashes, the year in a given width at least. -/
def Date.dashed (yearWidth : Nat) (d : Date) : String :=
  padded yearWidth d.year ++ "-" ++ padded 2 d.month ++ "-" ++ padded 2 d.day

theorem Date.of?_eq_ok_iff {year month day : Nat} {d : Date} :
    Date.of? year month day = .ok d ↔ d = ⟨year, month, day⟩ ∧ d.Valid := by
  constructor
  · intro h
    unfold Date.of? at h
    split at h
    · simp at h
    · split at h
      · simp at h
      · split at h
        · simp at h
        · injection h with h
          subst h
          exact ⟨rfl, by simp only [Date.Valid]; omega⟩
  · rintro ⟨rfl, hd⟩
    simp only [Date.Valid] at hd
    unfold Date.of?
    rw [if_neg (by omega), if_neg (by omega), if_neg (by omega)]

end TableSync.Calendar
