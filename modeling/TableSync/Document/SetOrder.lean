import TableSync.Document.Value

/-!
# The order of sets

A set of numbers is written in the order of a table with a power of two of places.  A number has a
home, by its residue modulo a prime, so that numbers of one amount have one home; where that place
is taken the number moves on by a fixed rule.  For members that are not numbers there is no such
rule, and a set with one of them keeps the order in which its members came.
-/

namespace TableSync.Document

open TableSync.Decimal

/-- The number of bits of the prime modulo which amounts are taken. -/
def residueBits : Nat := 61

/-- The residue of a fraction whose denominator is a power of two.  The power of the number of bits
is one, so to halve is to multiply by the power one lower. -/
def residue (num den : Nat) : Nat :=
  num * Nat.pow 2 (residueBits - den.log2 % residueBits) % (Nat.pow 2 residueBits - 1)

/-- A residue with its sign as a word; minus one counts as minus two. -/
def signedWord (negative : Bool) (r : Nat) : Nat :=
  if !negative || r = 0 then r else Nat.pow 2 64 - (if r = 1 then 2 else r)

/-- The home of an amount as a word; what is not a number has none. -/
def home? : Amount → Option Nat
  | .whole n => some (signedWord (decide (n < 0)) (residue n.natAbs 1))
  | .real (.infinite negative) => some (signedWord negative 314159)
  | .real x => x.ratio?.map fun r => signedWord x.isNegative (residue r.1.natAbs r.2)

/-- A table: in each place a member or nothing. -/
abbrev SetTable := List (Option Value)

namespace SetTable

/-- An empty table for a number of members; less than two thirds of its places will be taken. -/
def forMembers (count : Nat) : SetTable :=
  List.replicate (if count < 5 then 8 else Nat.pow 2 ((2 * count).log2 + 1)) none

/-- The places that are tried together, from one on: ten in a row if the table has so many left. -/
def row (t : SetTable) (place : Nat) : List Nat :=
  if place + 9 < t.length then (List.range 10).map (place + ·) else [place]

def isFree (t : SetTable) (place : Nat) : Bool :=
  (t[place]?.map Option.isNone).getD false

/-- The first free place from a row on; `rest` is what is left of a home, which goes into the jump
to the next row. -/
def freePlace? (t : SetTable) : Nat → Nat → Nat → Option Nat
  | 0, _, _ => none
  | fuel + 1, place, rest =>
      match (t.row place).find? t.isFree with
      | some free => some free
      | none => freePlace? t fuel ((place * 5 + 1 + rest / 32) % t.length) (rest / 32)

/-- The table with one more member, given its home.  Once nothing is left of the home, the jumps
lead to every place. -/
def insert (t : SetTable) (home : Nat) (v : Value) : SetTable :=
  match t.freePlace? (t.length + 16) (home % t.length) home with
  | some place => t.set place (some v)
  | none => t ++ [some v]

end SetTable

/-- The home of a value, if it is a number. -/
def Value.home? (v : Value) : Option Nat :=
  v.amount?.bind Document.home?

/-- The members of a set in the order in which they are written. -/
def setOrder (members : List Value) : List Value :=
  match members.mapM Value.home? with
  | none => members
  | some homes =>
      let table := (homes.zip members).foldl (fun t m => t.insert m.1 m.2)
        (SetTable.forMembers members.length)
      table.filterMap id

end TableSync.Document
