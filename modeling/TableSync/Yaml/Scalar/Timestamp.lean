import TableSync.Calendar.Moment
import TableSync.Text.Integer

/-!
# Dates and times in scalars

A date is year, month and day between dashes.  A time may follow behind a `T` or blanks, with a
fraction of a second and an offset from universal time.  The form is read first; whether the
numbers make a day and a time is checked afterwards.
-/

namespace TableSync.Yaml

open TableSync.Text TableSync.Calendar

/-- The offset of a time: universal time itself, or hours and minutes with a sign. -/
inductive Zone
  | universal
  | offset (negative : Bool) (hour minute : List Char)

/-- The digits of a time. -/
structure Clock where
  hour : List Char
  minute : List Char
  second : List Char
  fraction : List Char
  zone? : Option Zone

/-- The digits of a date, and of a time if there is one. -/
structure Timestamp where
  year : List Char
  month : List Char
  day : List Char
  clock? : Option Clock

namespace Timestamp

/-- A reader of a part of a text that may not fit. -/
abbrev Matcher (α : Type) := StateT (List Char) Option α

/-- Digits, as many as there are, the number of them in a range. -/
def digits (least most : Nat) : Matcher (List Char) := fun cs =>
  let ds := cs.takeWhile isAsciiDigit
  if least ≤ ds.length && ds.length ≤ most then some (ds, cs.dropWhile isAsciiDigit) else none

/-- A character of a class. -/
def one (p : Char → Bool) : Matcher Unit
  | c :: cs => if p c then some ((), cs) else none
  | [] => none

/-- Spaces and tabs, as many as there are. -/
def blanks : Matcher Unit := fun cs =>
  some ((), cs.dropWhile fun c => c = ' ' || c = '\t')

/-- What a matcher reads behind a character, or nothing where another character comes. -/
def behind {α : Type} (mark : Char) (matcher : Matcher α) : Matcher (Option α)
  | c :: cs => if c = mark then (matcher cs).map fun r => (some r.1, r.2) else some (none, c :: cs)
  | [] => some (none, [])

def zone : Matcher Zone := do
  match ← get with
  | 'Z' :: rest =>
      set rest
      return .universal
  | _ =>
      let sign := (← get).head?
      one fun c => c = '+' || c = '-'
      let hour ← digits 1 2
      let minute ← behind ':' (digits 2 2)
      return .offset (sign = some '-') hour (minute.getD [])

/-- Nothing or blanks and an offset, at the end of a time. -/
def zone? : Matcher (Option Zone) := do
  if (← get).isEmpty then return none
  blanks
  some <$> zone

def clock : Matcher Clock := do
  let hour ← digits 1 2
  one (· = ':')
  let minute ← digits 2 2
  one (· = ':')
  let second ← digits 2 2
  let fraction ← behind '.' fun cs => some (cs.takeWhile isAsciiDigit, cs.dropWhile isAsciiDigit)
  return { hour, minute, second, fraction := fraction.getD [], zone? := ← zone? }

/-- What separates a date from a time. -/
def gap : Matcher Unit := do
  match ← get with
  | 'T' :: rest => set rest
  | 't' :: rest => set rest
  | _ =>
      one fun c => c = ' ' || c = '\t'
      blanks

/-- A date, and a time unless the text ends. -/
def stamp : Matcher Timestamp := do
  let year ← digits 4 4
  one (· = '-')
  let month ← digits 1 2
  one (· = '-')
  let day ← digits 1 2
  if (← get).isEmpty then return { year, month, day, clock? := none }
  gap
  return { year, month, day, clock? := some (← clock) }

/-- The digits of a text that has the form of a date or a time. -/
def read? (cs : List Char) : Option Timestamp :=
  match StateT.run stamp cs with
  | some (t, []) => some t
  | _ => none

/-- Whether the form shows without a tag: a date alone needs all its digits. -/
def isPlain (t : Timestamp) : Bool :=
  t.clock?.isSome || (t.month.length = 2 && t.day.length = 2)

/-- The microseconds of a fraction; further digits are dropped. -/
def microseconds (fraction : List Char) : Nat :=
  decimalValue ((fraction ++ List.replicate 6 '0').take 6)

def Zone.minutes : Zone → Int
  | .universal => 0
  | .offset negative hour minute =>
      let size : Int := decimalValue hour * 60 + decimalValue minute
      if negative then -size else size

/-- The date that a timestamp without a time names. -/
def date (t : Timestamp) : Except MomentFault Date :=
  (Date.of? (decimalValue t.year) (decimalValue t.month) (decimalValue t.day)).mapError .date

/-- The moment that a timestamp with a time names. -/
def moment (t : Timestamp) (c : Clock) : Except MomentFault Moment :=
  Moment.of? (decimalValue t.year) (decimalValue t.month) (decimalValue t.day)
    (decimalValue c.hour) (decimalValue c.minute) (decimalValue c.second)
    (microseconds c.fraction) (c.zone?.map Zone.minutes)

end Timestamp

end TableSync.Yaml
