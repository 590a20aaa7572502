import TableSync.Decimal.Shortest

/-!
# Decimal notation

How a double-precision number is written and read.  Numbers from `0.0001` up to `10 ^ 16` are
written positionally, always with a digit on both sides of the point; the others have one digit
before the point and an exponent of two digits at least, with its sign.
-/

namespace TableSync.Decimal

open TableSync.Text

/-- Digits in positional notation, the point `point` places from their start. -/
def positional (digits : List Char) (point : Int) : List Char :=
  let places := point.toNat
  if point ≤ 0 then ['0', '.'] ++ List.replicate (-point).toNat '0' ++ digits
  else if digits.length ≤ places then
    digits ++ List.replicate (places - digits.length) '0' ++ ['.', '0']
  else digits.take places ++ '.' :: digits.drop places

/-- Digits in exponent notation. -/
def scientific (digits : List Char) (point : Int) : List Char :=
  let exponent := point - 1
  let sign := if exponent < 0 then '-' else '+'
  let mantissa := match digits with
    | [] => []
    | [d] => [d]
    | d :: rest => d :: '.' :: rest
  mantissa ++ 'e' :: sign :: (padded 2 exponent.natAbs).toList

/-- A number in its shortest decimal form. -/
def Binary64.text : Binary64 → String
  | .nan => "nan"
  | .infinite negative => if negative then "-inf" else "inf"
  | .finite negative significand exponent =>
      let body :=
        if significand = 0 then ['0', '.', '0']
        else
          let s := shortest significand exponent
          if -4 < s.point ∧ s.point ≤ 16 then positional s.digits s.point
          else scientific s.digits s.point
      String.ofList (if negative then '-' :: body else body)

/-- The exponent behind a mantissa: nothing, or an `e` of either case and an integer. -/
def readExponent : List Char → Option Int
  | [] => some 0
  | c :: cs =>
      if c = 'e' ∨ c = 'E' then
        let (negative, digits) := match cs with
          | '-' :: rest => (true, rest)
          | '+' :: rest => (false, rest)
          | rest => (false, rest)
        if digits.isEmpty then none
        else if digits.all isAsciiDigit then
          some (if negative then -(decimalValue digits : Int) else decimalValue digits)
        else none
      else none

/-- Read digits, a point among them or not, and an exponent. -/
def readUnsigned (negative : Bool) (cs : List Char) : Option Binary64 :=
  let whole := cs.takeWhile isAsciiDigit
  let rest := cs.dropWhile isAsciiDigit
  let (part, tail) := match rest with
    | '.' :: more => (more.takeWhile isAsciiDigit, more.dropWhile isAsciiDigit)
    | _ => ([], rest)
  if whole.isEmpty && part.isEmpty then none
  else do
    let exponent ← readExponent tail
    return .ofDecimal negative (decimalValue (whole ++ part)) (exponent - part.length)

/-- Read a number: digits, an infinity or `nan`, with a sign or without, blanks around it. -/
def read? (t : Text) : Option Binary64 :=
  let cs := trimEnds isNumeralBlank (numeral t)
  let (negative, body) := match cs with
    | '-' :: rest => (true, rest)
    | '+' :: rest => (false, rest)
    | rest => (false, rest)
  let word := String.ofList (body.map Char.toLower)
  if word = "inf" ∨ word = "infinity" then some (.infinite negative)
  else if word = "nan" then some .nan
  else readUnsigned negative body

end TableSync.Decimal
