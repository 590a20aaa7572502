import TableSync.Document.Literal
import TableSync.Yaml.Data

/-!
# Trees of values

The values of a document for flattening.  Maps are flattened and the items of lists are written one
by one, as deep as there is room for; what holds itself has no end and finds no room.  But a map
among the items of a list is written as one literal, in which a collection inside itself is only
hinted at.  An integer must not be too long to write.
-/

namespace TableSync.Yaml

open TableSync.Text TableSync.Document

/-- The room for collections inside each other.  A map takes one place of it and a list three. -/
def nestingLimit : Nat := 993

/-- Refuse what needs more room than there is. -/
def require (room amount : Nat) (need : Need) : Except Problem Unit :=
  if room < amount then .error (.tooDeep need) else .ok ()

/-- The room that a day or a moment takes besides its text; an offset takes more. -/
def clockRoom : Value → Nat
  | .date _ => 1
  | .moment m => if m.offset?.isSome then 2 else 1
  | _ => 0

/-- Refuse a key that there is no room for.  A text is its own text. -/
def checkKey (room : Nat) (key : Value) : Except Problem Unit := do
  match key with
  | .text _ => return ()
  | .int _ => require room 1 .text
  | _ =>
      require room 2 .text
      require room (2 + clockRoom key) .parts

/-- Refuse a single value that there is no room for.  Truth values need the least. -/
def checkSingle (room : Nat) (v : Value) : Except Problem Unit := do
  require room 1 .value
  match v with
  | .bool _ => return ()
  | _ =>
      require room 2 .kind
      require room (2 + clockRoom v) .parts

/-- Refuse a literal that there is no room for. -/
def checkLiteral (room : Nat) (v : Value) : Except Problem Unit := do
  require room 1 .value
  require room 2 .kind
  require room (v.depth + 1) .literal

/-- What a list lacks in a room that is too small for it. -/
def listLack (room : Nat) : Need :=
  if room = 1 then .kind else .value

namespace Data

/-- A single value that can be written. -/
def writable (v : Value) : Except Problem Value :=
  match v with
  | .int n => if exceedsDigitLimit n then .error .tooLongToWrite else .ok v
  | _ => .ok v

def collection (d : Data) (id : Nat) : Collection :=
  (d.collections[id]?.join).getD (.list [])

/-- The value of a datum in a literal, inside the collections of a path. -/
def literal (d : Data) (fuel : Nat) (path : List Nat) (datum : Datum) : Except Problem Value :=
  match datum, fuel with
  | .single v, _ => writable v
  | .collection _, 0 => .error (.tooDeep .value)
  | .collection id, fuel + 1 =>
      match d.collection id with
      | .list items =>
          if path.contains id then .ok .listAgain
          else return .list (← items.mapM (d.literal fuel (id :: path)))
      | .pairs items =>
          if path.contains id then .ok .listAgain
          else return .list (← items.mapM fun pair => do
            let key ← d.literal fuel (id :: path) pair.1
            return .tuple [key, ← d.literal fuel (id :: path) pair.2])
      | .map entries =>
          if path.contains id then .ok .mapAgain
          else return .map (← entries.mapM fun entry => do
            let key ← writable entry.1
            return (key, ← d.literal fuel (id :: path) entry.2))
      | .set items => return .set (← items.mapM writable)

/-- The value of a datum that is written as a literal. -/
def literalOf (d : Data) (datum : Datum) : Except Problem Value :=
  d.literal (d.collections.size + 1) [] datum

/-- The value of a datum that is not flattened, in a given room. -/
def leaf (d : Data) (room : Nat) (datum : Datum) : Except Problem Value :=
  match datum with
  | .single v => do
      checkSingle room v
      writable v
  | .collection id =>
      match d.collection id, room with
      | .list items, room + 3 => return .list (← items.mapM (d.leaf room))
      | .pairs items, room + 3 =>
          return .list (← items.mapM fun pair => do
            match room with
            | room + 3 =>
                let key ← d.leaf room pair.1
                return .tuple [key, ← d.leaf room pair.2]
            | room => throw (.tooDeep (listLack room)))
      | .map _, room | .set _, room => do
          let v ← d.literalOf datum
          checkLiteral room v
          return v
      | _, room => .error (.tooDeep (listLack room))

/-- The value of a datum that is flattened, in a given room. -/
def flattened (d : Data) (room : Nat) (datum : Datum) : Except Problem Value :=
  match datum with
  | .single _ => d.leaf room datum
  | .collection id =>
      match d.collection id, room with
      | .map entries, room + 2 =>
          return .map (← entries.mapM fun entry => do
            checkKey (room + 1) entry.1
            let key ← writable entry.1
            return (key, ← d.flattened (room + 1) entry.2))
      | .map _, _ => .error (.tooDeep .parts)
      | _, room => d.leaf room datum

/-- Whether there is nothing at the root: no document, nothing, a zero, or an empty text or
collection. -/
def isVoid (d : Data) : Bool :=
  match d.root? with
  | none => true
  | some (.single v) =>
      match v with
      | .null => true
      | .bool b => !b
      | .int n => n = 0
      | .real x => x.isZero
      | .text s => s.isEmpty
      | .bytes content => content.isEmpty
      | _ => false
  | some (.collection id) =>
      match d.collection id with
      | .list items => items.isEmpty
      | .pairs items => items.isEmpty
      | .map entries => entries.isEmpty
      | .set items => items.isEmpty

/-- The entries of the map at the root, if there is one. -/
def entries? (d : Data) : Except Problem (Option (List (Value × Value))) :=
  match d.root? with
  | some (.collection id) =>
      match d.collection id with
      | .map _ => do
          match ← d.flattened nestingLimit (.collection id) with
          | .map entries => return some entries
          | _ => return none
      | _ => return none
  | _ => return none

end Data

end TableSync.Yaml
