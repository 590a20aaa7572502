import TableSync.Text.Numeral
import TableSync.Text.Split

/-!
# Integers in text

Reading an integer from a numeral: blanks around it, a sign, and digits that single underscores may
group; outside the decimal base a `0b`, `0o` or `0x` of the base may come first.  A decimal text of
more digits than the limit is refused, read or written, because both take quadratic time; in
reading, the digits are counted before anything behind them is looked at.
-/

namespace TableSync.Text

/-- The number of decimal digits up to which integers are read and written. -/
def digitLimit : Nat := 4300

/-- Why a text is not read as an integer. -/
inductive IntegerFault
  | malformed
  | tooManyDigits (count : Nat)
deriving DecidableEq, Repr

/-- The value of an ASCII digit in a base; letters count from ten. -/
def digitIn? (base : Nat) (c : Char) : Option Nat :=
  let value? :=
    if 'a' ≤ c ∧ c ≤ 'z' then some (c.toNat - 'a'.toNat + 10)
    else if 'A' ≤ c ∧ c ≤ 'Z' then some (c.toNat - 'A'.toNat + 10)
    else if isAsciiDigit c then some (c.toNat - '0'.toNat)
    else none
  value?.filter (· < base)

/-- The number that digits write, the first digit the highest. -/
def ofDigits (base : Nat) (digits : List Nat) : Nat :=
  digits.foldl (fun n d => n * base + d) 0

/-- The number that ASCII decimal digits write. -/
def decimalValue (cs : List Char) : Nat :=
  ofDigits 10 (cs.map fun c => c.toNat - '0'.toNat)

/-- The letters of a base that may stand behind a leading zero. -/
def baseLetters : Nat → List Char
  | 2 => ['b', 'B']
  | 8 => ['o', 'O']
  | 16 => ['x', 'X']
  | _ => []

/-- Leave out the mark of a base and one underscore behind it. -/
def dropBaseMark (base : Nat) : List Char → List Char
  | '0' :: letter :: cs =>
      if (baseLetters base).contains letter then
        match cs with
        | '_' :: rest => rest
        | rest => rest
      else '0' :: letter :: cs
  | cs => cs

/-- Read digits in which single underscores may stand between two of them, and blanks. -/
def readDigits (base : Nat) (cs : List Char) : Except IntegerFault Nat :=
  let isPart (c : Char) : Bool := (digitIn? base c).isSome || c = '_'
  let part := cs.takeWhile isPart
  let digits := part.filterMap (digitIn? base)
  if (splitOn '_' part).any List.isEmpty then .error .malformed
  else if base = 10 ∧ digitLimit < digits.length then .error (.tooManyDigits digits.length)
  else if (cs.dropWhile isPart).all isNumeralBlank then .ok (ofDigits base digits)
  else .error .malformed

/-- Read an integer in a base. -/
def readInteger (base : Nat) (t : Text) : Except IntegerFault Int :=
  match (numeral t).dropWhile isNumeralBlank with
  | '-' :: rest => (readDigits base (dropBaseMark base rest)).map fun n => -(n : Int)
  | '+' :: rest => (readDigits base (dropBaseMark base rest)).map fun n => (n : Int)
  | rest => (readDigits base (dropBaseMark base rest)).map fun n => (n : Int)

/-- Whether writing an integer in decimal would pass the digit limit. -/
def exceedsDigitLimit (n : Int) : Bool :=
  Nat.pow 10 digitLimit ≤ n.natAbs

def decimal (n : Nat) : String :=
  String.ofList (Nat.toDigits 10 n)

/-- The text of a number that has too many digits to be read. -/
def tooManyDigitsText (count : Nat) : String :=
  "Exceeds the limit (4300 digits) for integer string conversion: value has " ++
    decimal count ++ " digits; use sys.set_int_max_str_digits() to increase the limit"

/-- An integer in decimal, a minus in front of a negative one. -/
def integer (n : Int) : String :=
  if n < 0 then "-" ++ decimal n.natAbs else decimal n.natAbs

/-- Digits of a number with zeros in front up to a width. -/
def padded (width n : Nat) : String :=
  let digits := Nat.toDigits 10 n
  String.ofList (List.replicate (width - digits.length) '0' ++ digits)

end TableSync.Text
