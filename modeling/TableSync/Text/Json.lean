import TableSync.Text.CodePoint
import TableSync.Text.Hex

/-!
# JSON texts

Strings, lists and objects written in ASCII: a code point outside printable ASCII stands as a
`\u` escape of its UTF-16 units, so a pair of surrogates is written like the character that it
encodes.  A document is written either on one line, a blank behind each
comma and colon, or with one item a line, each level indented by two blanks.
-/

namespace TableSync.Text

/-- A value to be written as JSON. -/
inductive Json
  | string (t : Text)
  | bool (b : Bool)
  | list (items : List Text)

/-- The UTF-16 units of a code point. -/
def utf16Units (p : CodePoint) : List Nat :=
  let n := p.value
  if n < 0x10000 then [n]
  else [0xD800 + (n - 0x10000) / 0x400, 0xDC00 + (n - 0x10000) % 0x400]

/-- The escape of the UTF-16 units of a code point. -/
def unitEscape (p : CodePoint) : List Char :=
  (utf16Units p).flatMap fun unit => '\\' :: 'u' :: hex 4 unit

/-- How one code point stands in a JSON string. -/
def jsonPoint : CodePoint → List Char
  | .char c =>
      if c = '"' then ['\\', '"']
      else if c = '\\' then ['\\', '\\']
      else if c = '\n' then ['\\', 'n']
      else if c = '\r' then ['\\', 'r']
      else if c = '\t' then ['\\', 't']
      else if c = '\x0c' then ['\\', 'f']
      else if c = '\x08' then ['\\', 'b']
      else if ' ' ≤ c && c ≤ '~' then [c]
      else unitEscape c
  | p => unitEscape p

def jsonString (t : Text) : String :=
  String.ofList ('"' :: t.flatMap jsonPoint ++ ['"'])

/-- A value on one line. -/
def Json.compact : Json → String
  | .string s => jsonString s
  | .bool b => if b then "true" else "false"
  | .list items => "[" ++ ", ".intercalate (items.map jsonString) ++ "]"

/-- A member of the outermost object, with each item of a list on a line of its own. -/
def Json.indented : Json → String
  | .list [] => "[]"
  | .list items =>
      "[\n" ++ ",\n".intercalate (items.map fun item => "    " ++ jsonString item) ++ "\n  ]"
  | value => value.compact

/-- An object on one line. -/
def jsonLine (members : List (String × Json)) : String :=
  "\x7b" ++ ", ".intercalate (members.map fun m => jsonString m.1 ++ ": " ++ m.2.compact) ++ "\x7d"

/-- An object with one member a line. -/
def jsonBlock (members : List (String × Json)) : String :=
  "\x7b\n" ++
    ",\n".intercalate (members.map fun m => "  " ++ jsonString m.1 ++ ": " ++ m.2.indented) ++
    "\n\x7d"

end TableSync.Text
