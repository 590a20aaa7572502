import TableSync.Document.Value
import TableSync.Text.Quoted

/-!
# Values as text

A value is written as a literal, which shows its kind, or plainly, where a text stands for itself
and a date or a moment is written as on a calendar.
-/

namespace TableSync.Document

open TableSync.Text

def bracketed (opening closing : String) (items : List String) : String :=
  opening ++ ", ".intercalate items ++ closing

/-- The literal of a tuple; a single item has a comma behind it. -/
def tupleLiteral : List String → String
  | [item] => "(" ++ item ++ ",)"
  | items => bracketed "(" ")" items

def setLiteral : List String → String
  | [] => "set()"
  | items => bracketed "\x7b" "\x7d" items

namespace Value

mutual

def literal : Value → String
  | null => "None"
  | bool b => if b then "True" else "False"
  | int n => integer n
  | real x => x.text
  | text t => quoted t
  | bytes content => quotedBytes content
  | date d => d.literal
  | moment m => m.literal
  | list items => bracketed "[" "]" (literals items)
  | tuple items => tupleLiteral (literals items)
  | map entries => bracketed "\x7b" "\x7d" (entryLiterals entries)
  | set items => setLiteral (literals items)
  | listAgain => "[...]"
  | mapAgain => "\x7b...\x7d"

def literals : List Value → List String
  | [] => []
  | v :: vs => literal v :: literals vs

/-- The entries of a map, a colon between key and value. -/
def entryLiterals : List (Value × Value) → List String
  | [] => []
  | (key, value) :: rest => (literal key ++ ": " ++ literal value) :: entryLiterals rest

end

mutual

/-- How many literals stand inside each other in the literal of a value, itself included.  A set
holds a list of its items, and a moment holds its offset. -/
def depth : Value → Nat
  | list items | tuple items => depths items + 1
  | map entries => entryDepths entries + 1
  | set items => if items.isEmpty then 1 else depths items + 2
  | moment m =>
      match m.offset? with
      | none => 1
      | some minutes => if minutes = 0 then 2 else 3
  | _ => 1

def depths : List Value → Nat
  | [] => 0
  | v :: vs => max (depth v) (depths vs)

/-- The depth of the deepest key or value of several entries. -/
def entryDepths : List (Value × Value) → Nat
  | [] => 0
  | (key, value) :: rest => max (max (depth key) (depth value)) (entryDepths rest)

end

/-- A value written plainly. -/
def plain : Value → Text
  | text t => t
  | date d => d.dashed 4
  | moment m => m.text
  | v => v.literal

end Value

end TableSync.Document
