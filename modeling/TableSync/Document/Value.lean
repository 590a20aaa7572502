import TableSync.Calendar.Moment
import TableSync.Decimal.Notation
import TableSync.Text.CodePoint

/-!
# Document values

The values that a document holds: scalars, lists, tuples, maps and sets.  A map keeps its entries
in order and holds a key once.  Numbers count as one key if they are the same amount, whatever
their kind, and the truth values count as one and zero.
-/

namespace TableSync.Document

open TableSync.Calendar TableSync.Decimal

/-- A value; `listAgain` and `mapAgain` stand for a list or a map inside itself. -/
inductive Value
  | null
  | bool (b : Bool)
  | int (n : Int)
  | real (x : Binary64)
  | text (t : Text)
  | bytes (content : List UInt8)
  | date (d : Date)
  | moment (m : Moment)
  | list (items : List Value)
  | tuple (items : List Value)
  | map (entries : List (Value × Value))
  | set (items : List Value)
  | listAgain
  | mapAgain

instance : Inhabited Value := ⟨.null⟩

/-- A number of either kind. -/
inductive Amount
  | whole (n : Int)
  | real (x : Binary64)

/-- Whether two numbers are the same amount. -/
def Amount.same : Amount → Amount → Bool
  | .whole m, .whole n => m = n
  | .whole n, .real x => x.isInteger n
  | .real x, .whole n => x.isInteger n
  | .real x, .real y => x.sameAmount y

namespace Value

/-- The amount that a value counts as, if it is a number or a truth value. -/
def amount? : Value → Option Amount
  | bool b => some (.whole (if b then 1 else 0))
  | int n => some (.whole n)
  | real x => some (.real x)
  | _ => none

/-- Whether two scalars are one key. -/
def sameScalar (v w : Value) : Bool :=
  match v, w with
  | null, null => true
  | text s, text t => s = t
  | bytes s, bytes t => s = t
  | date d, date e => d = e
  | moment m, moment n => m.same n
  | _, _ =>
      match v.amount?, w.amount? with
      | some a, some b => a.same b
      | _, _ => false

mutual

/-- Whether two values are one key; tuples are compared item by item. -/
def sameKey : Value → Value → Bool
  | tuple xs, tuple ys => sameKeys xs ys
  | v, w => sameScalar v w

def sameKeys : List Value → List Value → Bool
  | [], [] => true
  | x :: xs, y :: ys => sameKey x y && sameKeys xs ys
  | _, _ => false

end

end Value

/-- Assign a value to a key: a key that is present stays and gets the value, another one is added
at the end. -/
def assignEntry {κ α : Type} (same : κ → κ → Bool) (key : κ) (value : α) :
    List (κ × α) → List (κ × α)
  | [] => [(key, value)]
  | entry :: rest =>
      if same entry.1 key then (entry.1, value) :: rest
      else entry :: assignEntry same key value rest

/-- The entries that a list of assignments leaves. -/
def entriesOf {κ α : Type} (same : κ → κ → Bool) (pairs : List (κ × α)) : List (κ × α) :=
  pairs.foldl (fun entries pair => assignEntry same pair.1 pair.2 entries) []

end TableSync.Document
