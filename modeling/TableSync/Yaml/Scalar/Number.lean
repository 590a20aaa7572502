import TableSync.Decimal.Notation
import TableSync.Text.LowerCase
import TableSync.Text.Split
import TableSync.Yaml.Problem

/-!
# Numbers in scalars

Integers in base two, eight, ten, sixteen and sixty, and decimal numbers, also in base sixty.
Underscores are left out.  A scalar that is declared to be a number need not look like one; what
cannot be read is refused.
-/

namespace TableSync.Yaml.Number

open TableSync.Text TableSync.Decimal

def withoutUnderscores (t : Text) : Text :=
  t.filter (· ≠ .char '_')

/-- A text with its sign split off; an empty text has no sign to look at. -/
def splitSign : Text → Except Problem (Bool × Text)
  | [] => .error .emptyNumber
  | .char '-' :: rest => .ok (true, rest)
  | .char '+' :: rest => .ok (false, rest)
  | rest => .ok (false, rest)

def readIn (base : Nat) (t : Text) : Except Problem Int :=
  (readInteger base t).mapError fun
    | .malformed => .notInteger base t
    | .tooManyDigits count => .tooManyDigits count

/-- The number that places in base sixty write, the first one the highest. -/
def sexagesimal (places : List Int) : Int :=
  places.foldl (fun n place => n * 60 + place) 0

/-- Read an integer without a sign; its beginning tells the base. -/
def readMagnitude : Text → Except Problem Int
  | [.char '0'] => .ok 0
  | .char '0' :: .char 'b' :: rest => readIn 2 rest
  | .char '0' :: .char 'x' :: rest => readIn 16 rest
  | .char '0' :: rest => readIn 8 (.char '0' :: rest)
  | [] => .error .emptyNumber
  | t =>
      if t.contains (.char ':') then ((splitOn (.char ':') t).mapM (readIn 10)).map sexagesimal
      else readIn 10 t

def readInt (t : Text) : Except Problem Int := do
  let (negative, rest) ← splitSign (withoutUnderscores t)
  let n ← readMagnitude rest
  return if negative then -n else n

/-- Read a decimal number. -/
def readDecimal (t : Text) : Except Problem Binary64 :=
  match read? t with
  | some x => .ok x
  | none => .error (.notReal t)

/-- The sum of places in base sixty, the first one of the lowest weight; a weight must be finite. -/
def weighed (sum : Binary64) (weight : Nat) : List Binary64 → Except Problem Binary64
  | [] => .ok sum
  | place :: places =>
      match Binary64.ofNat weight with
      | .infinite _ => .error .weightOverflow
      | factor => weighed (sum.add (place.mul factor)) (weight * 60) places

/-- The mark of no number, in lower case and without a sign. -/
def nanMark : Text := ".nan"

/-- Read a number without a sign. -/
def readRealMagnitude (t : Text) : Except Problem Binary64 :=
  if t = ".inf" then .ok (.infinite false)
  else if t = nanMark then .ok .nan
  else if t.contains (.char ':') then do
    let places ← (splitOn (.char ':') t).mapM readDecimal
    weighed (.finite false 0 minExponent) 1 places.reverse
  else readDecimal t

def readReal (t : Text) : Except Problem Binary64 := do
  let (negative, rest) ← splitSign (lowerCase (withoutUnderscores t))
  let x ← readRealMagnitude rest
  return if negative then x.neg else x

/-- Whether a text that has been read as a number is the mark of no number. -/
def isNanMark (t : Text) : Bool :=
  match splitSign (lowerCase (withoutUnderscores t)) with
  | .ok (_, rest) => rest = nanMark
  | .error _ => false

end TableSync.Yaml.Number
