import TableSync.Decimal.Binary64
import TableSync.Text.Integer

/-!
# Shortest decimals

The fewest decimal digits that read back as a given double-precision number, and of those with
that many digits the nearest.  A number is read back by every decimal in the interval around it
that rounds to it, ends included if its significand is even.  If a decimal grid has a point in that
interval, so is one of the two grid points next to the number, so these two are tried, on grids of
one digit, two digits, and so on.
-/

namespace TableSync.Decimal

/-- Decimal digits and the place of the point: the value is `0.d₁d₂… * 10 ^ point`. -/
structure Shortest where
  digits : List Char
  point : Int
deriving DecidableEq, Repr

/-- An exact fraction that stands for a positive number and for the ends of its interval. -/
structure Interval where
  /-- The number, its lower and its upper end, over one denominator. -/
  value : Nat
  low : Nat
  high : Nat
  denominator : Nat
  /-- Whether the ends themselves round to the number. -/
  closed : Bool

/-- The decimals that read back as `significand * 2 ^ exponent`. -/
def interval (significand : Nat) (exponent : Int) : Interval :=
  let below := if significand = Nat.pow 2 52 ∧ minExponent < exponent then 1 else 2
  let unit := exponent - 2
  let scale := if 0 ≤ unit then Nat.pow 2 unit.toNat else 1
  { value := 4 * significand * scale
    low := (4 * significand - below) * scale
    high := (4 * significand + 2) * scale
    denominator := if 0 ≤ unit then 1 else Nat.pow 2 (-unit).toNat
    closed := significand % 2 = 0 }

/-- `10 ^ e` as a fraction. -/
def powerOfTen (e : Int) : Nat × Nat :=
  if 0 ≤ e then (Nat.pow 10 e.toNat, 1) else (1, Nat.pow 10 (-e).toNat)

/-- Whether `k * 10 ^ e` lies in the interval. -/
def Interval.admits (i : Interval) (k : Nat) (e : Int) : Bool :=
  let (num, den) := powerOfTen e
  let point := k * num * i.denominator
  if i.closed then i.low * den ≤ point && point ≤ i.high * den
  else i.low * den < point && point < i.high * den

/-- The grid point `k * 10 ^ e` next to the number that reads back, if there is one; of two the
nearer, and the even one where both are as near. -/
def Interval.nearest? (i : Interval) (e : Int) : Option Nat :=
  let (num, den) := powerOfTen e
  let below := i.value * den / (i.denominator * num)
  let twice := (2 * below + 1) * num * i.denominator
  let value := 2 * i.value * den
  let preferBelow := value < twice || (value = twice && below % 2 = 0)
  match i.admits below e, i.admits (below + 1) e with
  | true, true => some (if preferBelow then below else below + 1)
  | true, false => some below
  | false, true => some (below + 1)
  | false, false => none

/-- The least `p` with the number below `10 ^ p`, sought from a point not above it. -/
def Interval.magnitude (i : Interval) : Nat → Int → Int
  | 0, p => p
  | fuel + 1, p =>
      let (num, den) := powerOfTen p
      if i.value * den < num * i.denominator then p else i.magnitude fuel (p + 1)

def dropTrailingZeros (cs : List Char) : List Char :=
  (cs.reverse.dropWhile (· = '0')).reverse

/-- The shortest decimal of a positive number `significand * 2 ^ exponent`. -/
def shortest (significand : Nat) (exponent : Int) : Shortest :=
  let i := interval significand exponent
  let bits : Int := (significand.log2 : Int) + exponent
  let p := i.magnitude 6 (Int.fdiv (bits * 30103) 100000 - 1)
  let found := (List.range 17).findSome? fun (n : Nat) =>
    let e := p - ((n : Int) + 1)
    (i.nearest? e).map fun k => (k, e)
  match found with
  | some (k, e) =>
      let digits := Nat.toDigits 10 k
      ⟨dropTrailingZeros digits, digits.length + e⟩
  | none => ⟨['0'], 0⟩

end TableSync.Decimal
