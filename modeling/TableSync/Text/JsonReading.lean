import TableSync.Text.Json

/-!
# Reading JSON texts

A JSON text is read in two steps.  First it is cut into tokens: marks, words and strings, with
blanks between them left out.  A string is read as UTF-16 units, whatever its characters are
written as, and two units that make a pair are one character.  Then the tokens are put together,
with what is open so far kept on a stack.  There are no numbers in the texts that are read here,
and a text that holds one is refused.
-/

namespace TableSync.Text

/-- What a JSON text says. -/
inductive JsonValue
  | null
  | bool (b : Bool)
  | string (t : Text)
  | list (items : List JsonValue)
  | object (members : List (Text × JsonValue))
deriving Repr

/-! ### Strings -/

/-- Whether a unit is the first one of a pair. -/
def isHighUnit (unit : Nat) : Bool :=
  0xD800 ≤ unit && unit < 0xDC00

/-- Whether a unit is the second one of a pair. -/
def isLowUnit (unit : Nat) : Bool :=
  0xDC00 ≤ unit && unit < 0xE000

/-- The text of UTF-16 units; a surrogate that is in no pair stays what it is. -/
def ofUnits : List Nat → Text
  | [] => []
  | [unit] => [.ofNat unit]
  | first :: second :: units =>
      if isHighUnit first && isLowUnit second then
        .ofNat (0x10000 + (first - 0xD800) * 0x400 + (second - 0xDC00)) :: ofUnits units
      else .ofNat first :: ofUnits (second :: units)

/-- The unit that a letter stands for behind a backslash. -/
def escapedUnit? : Char → Option Nat
  | '"' => some 0x22
  | '\\' => some 0x5C
  | '/' => some 0x2F
  | 'b' => some 0x08
  | 'f' => some 0x0C
  | 'n' => some 0x0A
  | 'r' => some 0x0D
  | 't' => some 0x09
  | _ => none

/-- The number that hexadecimal digits write behind a number. -/
def hexNumber? : Nat → List Char → Option Nat
  | n, [] => some n
  | n, c :: cs =>
      match hexValue? c with
      | some digit => hexNumber? (n * 16 + digit) cs
      | none => none

/-! ### Tokens -/

inductive JsonToken
  | openList
  | closeList
  | openObject
  | closeObject
  | comma
  | colon
  | string (t : Text)
  | word (v : JsonValue)
deriving Repr

/-- The mark that a character is. -/
def jsonMark? : Char → Option JsonToken
  | '[' => some .openList
  | ']' => some .closeList
  | '\x7b' => some .openObject
  | '\x7d' => some .closeObject
  | ',' => some .comma
  | ':' => some .colon
  | _ => none

/-- Whether a character may stand between tokens without a meaning. -/
def isJsonBlank (c : Char) : Bool :=
  c = ' ' || c = '\t' || c = '\n' || c = '\r'

/-- The tokens of a text, from a place between tokens or from one inside a string of which some
units have been read. -/
def jsonTokens? : Option (List Nat) → List Char → Option (List JsonToken)
  | none, [] => some []
  | some _, [] => none
  | none, 'n' :: 'u' :: 'l' :: 'l' :: cs => (jsonTokens? none cs).map (.word .null :: ·)
  | none, 't' :: 'r' :: 'u' :: 'e' :: cs => (jsonTokens? none cs).map (.word (.bool true) :: ·)
  | none, 'f' :: 'a' :: 'l' :: 's' :: 'e' :: cs =>
      (jsonTokens? none cs).map (.word (.bool false) :: ·)
  | none, c :: cs =>
      if c = '"' then jsonTokens? (some []) cs
      else if isJsonBlank c then jsonTokens? none cs
      else
        match jsonMark? c with
        | some mark => (jsonTokens? none cs).map (mark :: ·)
        | none => none
  | some units, '\\' :: 'u' :: a :: b :: c :: d :: cs =>
      match hexNumber? 0 [a, b, c, d] with
      | some unit => jsonTokens? (some (units ++ [unit])) cs
      | none => none
  | some units, '\\' :: c :: cs =>
      match escapedUnit? c with
      | some unit => jsonTokens? (some (units ++ [unit])) cs
      | none => none
  | some units, c :: cs =>
      if c = '"' then (jsonTokens? none cs).map (.string (ofUnits units) :: ·)
      else if c = '\\' || c.toNat < 0x20 then none
      else jsonTokens? (some (units ++ utf16Units c)) cs

/-! ### Values -/

/-- A list or an object that is still open, with what it holds so far; an object also with the key
whose value comes next. -/
inductive JsonFrame
  | list (items : List JsonValue)
  | object (members : List (Text × JsonValue)) (key : Text)
deriving Repr

mutual

/-- Read tokens where a value is due, inside of open lists and objects, the innermost first. -/
def jsonValue? : List JsonFrame → List JsonToken → Option JsonValue
  | frames, .string t :: tokens => jsonRest? frames (.string t) tokens
  | frames, .word v :: tokens => jsonRest? frames v tokens
  | frames, .openList :: .closeList :: tokens => jsonRest? frames (.list []) tokens
  | frames, .openList :: tokens => jsonValue? (.list [] :: frames) tokens
  | frames, .openObject :: .closeObject :: tokens => jsonRest? frames (.object []) tokens
  | frames, .openObject :: .string key :: .colon :: tokens =>
      jsonValue? (.object [] key :: frames) tokens
  | _, _ => none

/-- Read tokens behind a value. -/
def jsonRest? : List JsonFrame → JsonValue → List JsonToken → Option JsonValue
  | [], v, [] => some v
  | .list items :: frames, v, .comma :: tokens =>
      jsonValue? (.list (items ++ [v]) :: frames) tokens
  | .list items :: frames, v, .closeList :: tokens =>
      jsonRest? frames (.list (items ++ [v])) tokens
  | .object members key :: frames, v, .comma :: .string next :: .colon :: tokens =>
      jsonValue? (.object (members ++ [(key, v)]) next :: frames) tokens
  | .object members key :: frames, v, .closeObject :: tokens =>
      jsonRest? frames (.object (members ++ [(key, v)])) tokens
  | _, _, _ => none

end

def readJson? (cs : List Char) : Option JsonValue :=
  (jsonTokens? none cs).bind (jsonValue? [])

end TableSync.Text
