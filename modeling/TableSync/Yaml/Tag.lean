import TableSync.Yaml.Scalar.Timestamp

/-!
# Tags

The type of a node.  A scalar without a tag and without quotes gets its type from its form: words
for truth and nothing, numbers in several bases, dates and times, and two marks with a meaning in
maps.  Any other scalar is a text.
-/

namespace TableSync.Yaml

open TableSync.Text

inductive Tag
  | null
  | bool
  | int
  | real
  | binary
  | timestamp
  | orderedMap
  | pairs
  | set
  | text
  | list
  | map
  | merge
  | default
  | other (name : String)
deriving DecidableEq, Repr

/-- What the names of the known tags start with. -/
def tagBase : String := "tag:yaml.org,2002:"

/-- The known tags by name. -/
def knownTags : List (String × Tag) :=
  [("null", .null), ("bool", .bool), ("int", .int), ("float", .real), ("binary", .binary),
    ("timestamp", .timestamp), ("omap", .orderedMap), ("pairs", .pairs), ("set", .set),
    ("str", .text), ("seq", .list), ("map", .map), ("merge", .merge), ("value", .default)]

def Tag.ofName (name : String) : Tag :=
  ((knownTags.find? fun known => tagBase ++ known.1 = name).map Prod.snd).getD (.other name)

abbrev Form := List Char → Bool

namespace Form

/-- One of a list of words. -/
def word (words : List String) : Form := fun cs =>
  words.contains (String.ofList cs)

/-- A form with a sign in front or without one. -/
def signed (form : Form) : Form
  | '+' :: rest => form rest
  | '-' :: rest => form rest
  | cs => form cs

/-- At least one character, all of them in a class. -/
def some (p : Char → Bool) : Form := fun cs =>
  !cs.isEmpty && cs.all p

/-- A digit and then digits and underscores, the first digit in a class. -/
def digits (first : Char → Bool) : Form
  | [] => false
  | c :: rest => first c && rest.all fun d => isAsciiDigit d || d = '_'

/-- One or two digits of a place in base sixty. -/
def sixtieth : Form
  | [c] => isAsciiDigit c
  | [c, d] => '0' ≤ c && c ≤ '5' && isAsciiDigit d
  | _ => false

/-- Places in base sixty between colons, at least two, the first in a form of its own. -/
def places (first : Form) : Form := fun cs =>
  match splitOn ':' cs with
  | leading :: place :: rest => first leading && (place :: rest).all sixtieth
  | _ => false

/-- The exponent of a number: nothing, or a letter, a sign and digits. -/
def exponent : Form
  | [] => true
  | e :: sign :: rest =>
      (e = 'e' || e = 'E') && (sign = '+' || sign = '-') && some isAsciiDigit rest
  | _ => false

/-- Digits and underscores, and an exponent behind them. -/
def fraction : Form := fun cs =>
  exponent (cs.dropWhile fun c => isAsciiDigit c || c = '_')

/-- An integer in base two, eight, ten, sixteen or sixty, each with its own beginning. -/
def int : Form :=
  signed fun cs =>
    match cs with
    | ['0'] => true
    | '0' :: 'b' :: rest => some (fun c => c = '0' || c = '1' || c = '_') rest
    | '0' :: 'x' :: rest =>
        some (fun c => isAsciiDigit c || ('a' ≤ c && c ≤ 'f') || ('A' ≤ c && c ≤ 'F') || c = '_')
          rest
    | '0' :: rest => some (fun c => ('0' ≤ c && c ≤ '7') || c = '_') rest
    | _ =>
        let positive (c : Char) : Bool := '1' ≤ c && c ≤ '9'
        digits positive cs || places (digits positive) cs

/-- Digits with a point among them or behind them, then an exponent; or places in base sixty. -/
def decimal : Form := fun cs =>
  match cut? '.' cs with
  | none => false
  | Option.some (whole, behind) =>
      (digits isAsciiDigit whole && fraction behind) ||
        (places (digits isAsciiDigit) whole && behind.all fun c => isAsciiDigit c || c = '_')

/-- A number with a point, an infinity, or the mark of no number.  Where no digit stands before
the point there is no sign either. -/
def real : Form := fun cs =>
  signed decimal cs ||
    (match cs with
    | '.' :: behind => digits isAsciiDigit (behind.take 1) && fraction behind
    | _ => false) ||
    signed (word [".inf", ".Inf", ".INF"]) cs || word [".nan", ".NaN", ".NAN"] cs

end Form

def flagWords : List String :=
  ["yes", "Yes", "YES", "no", "No", "NO", "true", "True", "TRUE", "false", "False", "FALSE",
    "on", "On", "ON", "off", "Off", "OFF"]

/-- The words for nothing, of which the empty text is one. -/
def nullWords : List String :=
  ["~", "null", "Null", "NULL", ""]

def timestampForm : Form := fun cs =>
  ((Timestamp.read? cs).map Timestamp.isPlain).getD false

/-- The forms that give a scalar its type, in the order in which they are tried. -/
def implicitForms : List (Form × Tag) :=
  [(Form.word flagWords, .bool), (Form.real, .real), (Form.int, .int), (Form.word ["<<"], .merge),
    (Form.word nullWords, .null), (timestampForm, .timestamp), (Form.word ["="], .default),
    (Form.word ["!", "&", "*"], .other (tagBase ++ "yaml"))]

/-- Whether a text has a form, a line feed at its end ignored. -/
def Form.fits (form : Form) (cs : List Char) : Bool :=
  form cs || (cs.length > 1 && cs.getLast? = Option.some '\n' && form cs.dropLast)

/-- The type that a scalar gets from its form; no form has surrogates. -/
def implicitTag (text : Text) : Tag :=
  match text.chars? with
  | some cs => ((implicitForms.find? fun entry => entry.1.fits cs).map Prod.snd).getD .text
  | none => .text

end TableSync.Yaml
