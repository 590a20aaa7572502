/-!
# Double-precision numbers

A number is a signed significand times a power of two, an infinity, or not a number.  Rounding
takes an exact fraction to the nearest number, an exact half to the even significand; sums and
products are the exact ones, rounded, and not a number where there is no exact one.
-/

namespace TableSync.Decimal

/-- A double-precision number; a finite one is `significand * 2 ^ exponent`, with its sign. -/
inductive Binary64
  | finite (negative : Bool) (significand : Nat) (exponent : Int)
  | infinite (negative : Bool)
  | nan
deriving DecidableEq, Repr

/-- The exponent of the numbers next to zero. -/
def minExponent : Int := -1074

/-- The exponent of the largest numbers. -/
def maxExponent : Int := 971

/-- A fraction rounded to a whole number, a half to the even one. -/
def roundHalfEven (num den : Nat) : Nat :=
  let quotient := num / den
  let twice := 2 * (num % den)
  if twice < den then quotient
  else if den < twice then quotient + 1
  else if quotient % 2 = 0 then quotient else quotient + 1

/-- A fraction `num / den` divided by a power of two. -/
def scaleDown (num den : Nat) (exponent : Int) : Nat × Nat :=
  if 0 ≤ exponent then (num, den * Nat.pow 2 exponent.toNat)
  else (num * Nat.pow 2 (-exponent).toNat, den)

namespace Binary64

/-- The number nearest to a fraction. -/
def ofRatio (negative : Bool) (num den : Nat) : Binary64 :=
  if num = 0 then .finite negative 0 minExponent
  else
    let guess : Int := (num.log2 : Int) - (den.log2 : Int) - 53
    let (n, d) := scaleDown num den guess
    let fitted := if n < d * Nat.pow 2 53 then guess else guess + 1
    let exponent := max fitted minExponent
    let (n, d) := scaleDown num den exponent
    let significand := roundHalfEven n d
    if significand = Nat.pow 2 53 then
      if exponent + 1 > maxExponent then .infinite negative
      else .finite negative (Nat.pow 2 52) (exponent + 1)
    else if exponent > maxExponent then .infinite negative
    else .finite negative significand exponent

/-- The number nearest to `digits * 10 ^ exponent`. -/
def ofDecimal (negative : Bool) (digits : Nat) (exponent : Int) : Binary64 :=
  let magnitude : Int := (Nat.toDigits 10 digits).length + exponent
  if digits = 0 ∨ magnitude < -400 then .finite negative 0 minExponent
  else if magnitude > 400 then .infinite negative
  else if 0 ≤ exponent then ofRatio negative (digits * Nat.pow 10 exponent.toNat) 1
  else ofRatio negative digits (Nat.pow 10 (-exponent).toNat)

def ofNat (n : Nat) : Binary64 :=
  ofRatio false n 1

def isNegative : Binary64 → Bool
  | .finite negative _ _ => negative
  | .infinite negative => negative
  | .nan => false

def neg : Binary64 → Binary64
  | .finite negative significand exponent => .finite (!negative) significand exponent
  | .infinite negative => .infinite (!negative)
  | .nan => .nan

/-- The fraction that a finite number is, as a signed numerator and a denominator. -/
def ratio? : Binary64 → Option (Int × Nat)
  | .finite negative significand exponent =>
      let num : Int := if negative then -(significand : Int) else significand
      some (if 0 ≤ exponent then (num * Nat.pow 2 exponent.toNat, 1)
        else (num, Nat.pow 2 (-exponent).toNat))
  | .infinite _ => none
  | .nan => none

def isZero : Binary64 → Bool
  | .finite _ significand _ => significand = 0
  | _ => false

/-- The sum of two numbers.  Infinities of both signs have none; a sum of zero is negative only if
both numbers are. -/
def add (x y : Binary64) : Binary64 :=
  match ratio? x, ratio? y with
  | some (a, b), some (c, d) =>
      let num := a * d + c * b
      let negative := if num = 0 then isNegative x && isNegative y else decide (num < 0)
      ofRatio negative num.natAbs (b * d)
  | _, _ =>
      match x, y with
      | .infinite m, .infinite n => if m = n then x else .nan
      | .infinite _, .finite _ _ _ => x
      | .finite _ _ _, .infinite _ => y
      | _, _ => .nan

/-- The product of two numbers.  Zero times an infinity has none. -/
def mul (x y : Binary64) : Binary64 :=
  let negative := isNegative x != isNegative y
  match ratio? x, ratio? y with
  | some (a, b), some (c, d) => ofRatio negative (a * c).natAbs (b * d)
  | _, _ =>
      if x = .nan || y = .nan || isZero x || isZero y then .nan else .infinite negative

/-- Two numbers are the same amount if their exact values agree; nothing is the same as `nan`. -/
def sameAmount (x y : Binary64) : Bool :=
  match x, y with
  | .infinite a, .infinite b => a = b
  | _, _ =>
      match ratio? x, ratio? y with
      | some (a, b), some (c, d) => a * d = c * b
      | _, _ => false

/-- Whether a number is exactly a given integer. -/
def isInteger (x : Binary64) (n : Int) : Bool :=
  match ratio? x with
  | some (a, b) => a = n * b
  | none => false

end Binary64

end TableSync.Decimal
