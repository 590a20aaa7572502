import TableSync.Document.Value
import TableSync.Text.Base64
import TableSync.Yaml.Node
import TableSync.Yaml.Scalar.Number

/-!
# Values of scalars

The value of a node that stands for a single one, as its tag says.  A map may stand for a scalar
through the value of its key `=`.
-/

namespace TableSync.Yaml

open TableSync.Text TableSync.Document TableSync.Calendar

/-- The words for truth values in lower case. -/
def flagValues : List (String × Bool) :=
  [("yes", true), ("no", false), ("true", true), ("false", false), ("on", true), ("off", false)]

def readFlagWord (text : Text) : Except Problem Bool :=
  let word := lowerCase text
  match flagValues.find? fun flag => word = flag.1 with
  | some flag => .ok flag.2
  | none => .error (.unknownFlag word)

def readTimestamp (cs : List Char) : Except Problem Value :=
  let stamp? := match Timestamp.read? cs with
    | some stamp => some stamp
    | none => if cs.getLast? = some '\n' then Timestamp.read? cs.dropLast else none
  match stamp? with
  | none => .error .notTimestamp
  | some stamp =>
      match stamp.clock? with
      | none => (stamp.date.map Value.date).mapError .notMoment
      | some clock => ((stamp.moment clock).map Value.moment).mapError .notMoment

/-- The bytes of characters in base sixty-four, which must be ASCII. -/
def readBinary (cs : List Char) : Except Problem (List UInt8) :=
  if cs.all fun c => c.toNat < 0x80 then
    match decodeBase64? cs with
    | some bytes => .ok bytes
    | none => .error .illFormed
  else .error .illFormed

/-- The number of maps that may stand for a scalar one through the other. -/
def substitutionLimit : Nat := 980

/-- The text that a node stands for, through a number of maps at most. -/
def scalarTextWithin (g : Graph) : Nat → Nat → Except Problem Text
  | 0, _ => .error (.tooDeep .value)
  | depth + 1, id =>
      match (g.node id).content with
      | .scalar text => .ok text
      | .list _ => .error .illFormed
      | .map entries =>
          match entries.find? fun entry => (g.node entry.1).tag = .default with
          | some entry => scalarTextWithin g depth entry.2
          | none => .error .illFormed

/-- The text that a node stands for. -/
def scalarText (g : Graph) (id : Nat) : Except Problem Text :=
  scalarTextWithin g substitutionLimit id

/-- The value of a text under a tag for single values. -/
def valueOfText (tag : Tag) (isMap : Bool) (text : Text) : Except Problem Value :=
  match tag with
  | .null => .ok .null
  | .bool => (readFlagWord text).map .bool
  | .int => (Number.readInt text).map .int
  | .real => (Number.readReal text).map .real
  | .binary =>
      match text.chars? with
      | some cs => (readBinary cs).map .bytes
      | none => .error .illFormed
  | .timestamp =>
      match isMap, text.chars? with
      | true, _ => .error .timestampOfMap
      | false, some cs => readTimestamp cs
      | false, none => .error .notTimestamp
  | .text => .ok (.text text)
  | _ => .error .illFormed

/-- The value of a node under its tag, which must be one for single values. -/
def scalarValue (g : Graph) (id : Nat) : Except Problem Value := do
  let node := g.node id
  let isMap := match node.content with
    | .map _ => true
    | _ => false
  valueOfText node.tag isMap (← scalarText g id)

end TableSync.Yaml
