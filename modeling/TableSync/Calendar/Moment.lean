import TableSync.Calendar.Date

/-!
# Moments

A moment is a time of a day, to the microsecond, which may be given relative to universal time.
Two moments with an offset are the same if they are the same instant; without one, the same
reading of calendar and clock.
-/

namespace TableSync.Calendar

open TableSync.Text

/-- A day with a time, and the minutes that its clock is ahead of universal time, if known. -/
structure Moment where
  date : Date
  hour : Nat
  minute : Nat
  second : Nat
  microsecond : Nat
  offset? : Option Int
deriving DecidableEq, Repr

inductive MomentFault
  | date (fault : DateFault)
  | hourRange
  | minuteRange
  | secondRange
  | offsetRange (minutes : Int)
deriving DecidableEq, Repr

/-- A length of time in days and seconds, written with the seconds not negative. -/
def durationLiteral (minutes : Int) : String :=
  let days := minutes.fdiv 1440
  let seconds := minutes.fmod 1440 * 60
  let parts :=
    (if days = 0 then [] else ["days=" ++ integer days]) ++
      (if seconds = 0 then [] else ["seconds=" ++ integer seconds])
  "datetime.timedelta(" ++ (if parts = [] then "0" else ", ".intercalate parts) ++ ")"

def MomentFault.message : MomentFault → String
  | date fault => fault.message
  | hourRange => "hour must be in 0..23"
  | minuteRange => "minute must be in 0..59"
  | secondRange => "second must be in 0..59"
  | offsetRange minutes =>
      "offset must be a timedelta strictly between -timedelta(hours=24) and " ++
        "timedelta(hours=24), not " ++ durationLiteral minutes ++ "."

/-- Check an offset, which must be shorter than a day. -/
def checkOffset : Option Int → Except MomentFault Unit
  | some minutes => if 1440 ≤ minutes.natAbs then .error (.offsetRange minutes) else .ok ()
  | none => .ok ()

/-- The moment that numbers make, or the first check that they fail: first the offset, then the
date, then the time. -/
def Moment.of? (year month day hour minute second microsecond : Nat) (offset? : Option Int) :
    Except MomentFault Moment := do
  checkOffset offset?
  let date ← (Date.of? year month day).mapError .date
  if 24 ≤ hour then throw .hourRange
  if 60 ≤ minute then throw .minuteRange
  if 60 ≤ second then throw .secondRange
  return { date, hour, minute, second, microsecond, offset? }

def daysBeforeYear (year : Nat) : Nat :=
  let past := year - 1
  365 * past + past / 4 - past / 100 + past / 400

/-- The number of a day, the first day of the year 1 being 1. -/
def Date.number (d : Date) : Nat :=
  let daysBeforeMonth :=
    (List.range (d.month - 1)).foldl (fun n m => n + daysInMonth d.year (m + 1)) 0
  daysBeforeYear d.year + daysBeforeMonth + d.day

namespace Moment

/-- Minutes of universal time. -/
def universalMinutes (m : Moment) (offset : Int) : Int :=
  (m.date.number * 1440 + m.hour * 60 + m.minute : Nat) - offset

def same (a b : Moment) : Bool :=
  match a.offset?, b.offset? with
  | none, none => a = b
  | some x, some y =>
      a.universalMinutes x = b.universalMinutes y && a.second = b.second &&
        a.microsecond = b.microsecond
  | _, _ => false

def offsetText (minutes : Int) : String :=
  let size := minutes.natAbs
  (if minutes < 0 then "-" else "+") ++ padded 2 (size / 60) ++ ":" ++ padded 2 (size % 60)

/-- Date and time with a blank between them, microseconds only if there are some. -/
def text (m : Moment) : String :=
  m.date.dashed 4 ++ " " ++ padded 2 m.hour ++ ":" ++ padded 2 m.minute ++ ":" ++
    padded 2 m.second ++
    (if m.microsecond = 0 then "" else "." ++ padded 6 m.microsecond) ++
    (m.offset?.map offsetText).getD ""

def offsetLiteral (minutes : Int) : String :=
  if minutes = 0 then "datetime.timezone.utc"
  else "datetime.timezone(" ++ durationLiteral minutes ++ ")"

/-- A moment as a literal; seconds and microseconds at the end are left out if they are zero. -/
def literal (m : Moment) : String :=
  let fraction := if m.microsecond = 0 then [] else [m.microsecond]
  let tail := if m.second = 0 ∧ fraction = [] then [] else m.second :: fraction
  let numbers := [m.date.year, m.date.month, m.date.day, m.hour, m.minute] ++ tail
  "datetime.datetime(" ++ ", ".intercalate (numbers.map decimal) ++
    (m.offset?.map fun minutes => ", tzinfo=" ++ offsetLiteral minutes).getD "" ++ ")"

end Moment

def Date.literal (d : Date) : String :=
  "datetime.date(" ++ ", ".intercalate ([d.year, d.month, d.day].map decimal) ++ ")"

end TableSync.Calendar
