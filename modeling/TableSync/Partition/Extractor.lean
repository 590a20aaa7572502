import TableSync.Calendar.Date
import TableSync.Partition.Path
import TableSync.Partition.Strategy
import TableSync.Text.Percent

/-!
# Extractors

An extractor is a strategy together with its settings.  It turns a partition path into the values
of the partition fields, in path order, or rejects the path with a reason.  Two faults are no
rejection: a number of more digits than can be read, and one that fits no machine integer.  Whoever
uses extractors takes them as readers of paths and knows no more of them than a name and what they
read.
-/

namespace TableSync.Partition

open TableSync.Text TableSync.Calendar

/-- Why a path does not match its layout. -/
inductive Reason
  | wrongDayDepth (found : Nat)
  | notNumeric (segment : String)
  | notCalendarDay (fault : DateFault)
  | notAssignment (segment : String)
  | wrongDepth (expected : Int) (found : Nat)
  | wrongValueCount (found : Nat) (fields : List Text)
deriving DecidableEq, Repr

def Reason.message : Reason → Text
  | .wrongDayDepth found => "expected 3 segments (yyyy/mm/dd), got " ++ decimal found
  | .notNumeric segment => "segment '" ++ segment ++ "' is not numeric"
  | .notCalendarDay fault => fault.message
  | .notAssignment segment => "segment '" ++ segment ++ "' is not in key=value form"
  | .wrongDepth expected found =>
      "expected " ++ integer expected ++ " segments, got " ++ decimal found
  | .wrongValueCount found fields =>
      "extracted " ++ decimal found ++ " values for " ++ decimal fields.length ++
        " partition fields (" ++ Text.joined ", " fields ++ ")"

/-- A path that the strategy of a name does not accept. -/
structure Rejection where
  path : String
  strategy : String
  reason : Reason
deriving DecidableEq, Repr

/-- The text of a rejection, for a strategy's name and a reason in words. -/
def rejectionText (path strategy reason : Text) : Text :=
  "Cannot extract partition values from '" ++ path ++ "' with " ++ strategy ++ ": " ++ reason

def Rejection.message (r : Rejection) : Text :=
  rejectionText r.path r.strategy r.reason.message

inductive ExtractionError
  | rejected (rejection : Rejection)
  | tooManyDigits (count : Nat)
  | overflow (o : Overflow)
deriving DecidableEq, Repr

def ExtractionError.message : ExtractionError → Text
  | .rejected rejection => rejection.message
  | .tooManyDigits count => tooManyDigitsText count
  | .overflow o => o.message

/-- A strategy with its settings. -/
inductive Extractor
  | nonPartitioned
  | slashEncodedDay
  | hiveStyle (decode : Bool)
  | multiPartKeys (depth : Int) (decode : Bool)
deriving DecidableEq, Repr

namespace Extractor

def strategy : Extractor → Strategy
  | nonPartitioned => .nonPartitioned
  | slashEncodedDay => .slashEncodedDay
  | hiveStyle _ => .hiveStyle
  | multiPartKeys _ _ => .multiPartKeys

/-- The name shown in logs and errors. -/
def name (e : Extractor) : String :=
  e.strategy.className

end Extractor

/-- A value, percent-decoded if decoding is on. -/
def decodeValue (decode : Bool) (value : String) : String :=
  if decode then Percent.decode value else value

@[simp] theorem decodeValue_false : decodeValue false = id := rfl

/-- The number of a day segment, which may stand behind a name and `=`. -/
def dayNumber (reject : Reason → ExtractionError) (segment : String) :
    Except ExtractionError Nat :=
  let digits := ((assignedValue? segment).getD segment).toList
  if digits.isEmpty ∨ ¬ digits.all isAsciiDigit then .error (reject (.notNumeric segment))
  else if digitLimit < digits.length then .error (.tooManyDigits digits.length)
  else .ok (decimalValue digits)

/-- The date of a year, a month and a day segment. -/
def calendarDay (reject : Reason → ExtractionError) (year month day : String) :
    Except ExtractionError Date := do
  let y ← dayNumber reject year
  let m ← dayNumber reject month
  let d ← dayNumber reject day
  match [y, m, d].findSome? overflow? with
  | some o => throw (.overflow o)
  | none =>
      match Date.of? y m d with
      | .error fault => throw (reject (.notCalendarDay fault))
      | .ok date => return date

/-- The values of the segments of a path in `name=value` form. -/
def assignedValues (reject : Reason → ExtractionError) (decode : Bool) :
    List String → Except ExtractionError (List String)
  | [] => .ok []
  | segment :: rest =>
      match assignedValue? segment with
      | none => .error (reject (.notAssignment segment))
      | some value =>
          (assignedValues reject decode rest).map (decodeValue decode value :: ·)

/-- The partition values of a path. -/
def Extractor.extract (e : Extractor) (path : String) : Except ExtractionError (List String) :=
  let reject (reason : Reason) : ExtractionError := .rejected ⟨path, e.name, reason⟩
  match e with
  | .nonPartitioned => .ok []
  | .slashEncodedDay =>
      match segments path with
      | [year, month, day] => (calendarDay reject year month day).map fun d => [d.dashed 1]
      | others => .error (reject (.wrongDayDepth others.length))
  | .hiveStyle decode => assignedValues reject decode (segments path)
  | .multiPartKeys depth decode =>
      let found := segments path
      if (found.length : Int) = depth then .ok (found.map (decodeValue decode))
      else .error (reject (.wrongDepth depth found.length))

/-- Anything that reads partition values from paths, under a name for logs and errors. -/
structure PathReader where
  name : String
  read : String → Except ExtractionError (List String)

/-- An extractor as a reader of paths. -/
def Extractor.reader (e : Extractor) : PathReader :=
  ⟨e.name, e.extract⟩

instance : Coe Extractor PathReader := ⟨Extractor.reader⟩

end TableSync.Partition
