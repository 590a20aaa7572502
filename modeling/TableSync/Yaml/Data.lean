import TableSync.Document.SetOrder
import TableSync.Yaml.Composition
import TableSync.Yaml.Merge
import TableSync.Yaml.Scalar.Value

/-!
# Data

What a document says, as a graph: single values, and collections by the number of their node.
The collections are filled level by level from the root, so that one may hold itself; of several
problems the first in this order counts.  The keys of maps and sets are single values.
-/

namespace TableSync.Yaml

open TableSync.Document TableSync.Text

/-- A single value, or a collection by its number. -/
inductive Datum
  | single (v : Value)
  | collection (id : Nat)

/-- What a collection holds; the items of an ordered map are pairs. -/
inductive Collection
  | list (items : List Datum)
  | pairs (items : List (Datum × Datum))
  | map (entries : List (Value × Datum))
  | set (items : List Value)

/-- The data of a document; a text without a document has no root. -/
structure Data where
  root? : Option Datum
  collections : Array (Option Collection)

/-- A single value as a key, with the node that it comes from.  The mark of no number comes from no
node, for it is the same wherever it stands. -/
structure Key where
  value : Value
  origin? : Option Nat

/-- Whether two keys are one.  What is not a number equals nothing, so it is one key only with what
comes from the same node. -/
def Key.same (k l : Key) : Bool :=
  match k.value, l.value with
  | .real .nan, .real .nan => k.origin? = l.origin?
  | v, w => v.sameKey w

/-- The state of reading data: the nodes, what is known of them, the collections that are filled,
and those that wait for it, the latest first; and a bound for the steps of following merge keys. -/
structure Builder where
  graph : Graph
  mergeBound : Nat
  known : Array (Option Datum)
  filled : Array (Option Collection)
  waiting : List Nat := []

abbrev Building := StateT Builder (Except Problem)

namespace Builder

/-- Whether a tag is one for collections. -/
def isCollection : Tag → Bool
  | .list | .map | .set | .orderedMap | .pairs => true
  | _ => false

/-- Whether a tag is one for single values. -/
def isSingle : Tag → Bool
  | .null | .bool | .int | .real | .binary | .timestamp | .text => true
  | _ => false

/-- What a node not met before says; a collection has to wait to be filled. -/
def meet (id : Nat) : Building Datum := do
  let b ← get
  let tag := (b.graph.node id).tag
  if isCollection tag then
    set { b with waiting := id :: b.waiting }
    return .collection id
  else if isSingle tag then
    return .single (← scalarValue b.graph id)
  else throw .illFormed

/-- What a node says. -/
def datum (id : Nat) : Building Datum := do
  match (← get).known[id]?.join with
  | some d => return d
  | none =>
      let d ← meet id
      modify fun b => { b with known := b.known.setIfInBounds id (some d) }
      return d

/-- What a key says; it must be a single value. -/
def key (id : Nat) : Building Key := do
  match ← datum id with
  | .single value =>
      let g := (← get).graph
      let isMark := match scalarText g id with
        | .ok text => Number.isNanMark text
        | .error _ => false
      return { value, origin? := if isMark then none else some id }
  | .collection _ => throw .illFormed

def listItems (id : Nat) : Building (List Nat) := do
  match ((← get).graph.node id).content with
  | .list items => return items
  | _ => throw .illFormed

/-- The entries of a map, merge keys followed. -/
def mapEntries (id : Nat) : Building (List (Value × Datum)) := do
  let b ← get
  match (b.graph.node id).content with
  | .map _ =>
      let (pairs, graph) ← (Merging.merged b.mergeBound id).run b.graph
      set { b with graph }
      let entries ← pairs.mapM fun pair => do
        let key ← key pair.1
        return (key, ← datum pair.2)
      return (entriesOf Key.same entries).map fun entry => (entry.1.value, entry.2)
  | _ => throw .illFormed

/-- What an item of an ordered map says, which is a map with one entry. -/
def pairOf (id : Nat) : Building (Datum × Datum) := do
  match ((← get).graph.node id).content with
  | .map [(key, value)] =>
      let key ← datum key
      return (key, ← datum value)
  | _ => throw .illFormed

/-- What a collection holds. -/
def contents (id : Nat) : Building Collection := do
  match ((← get).graph.node id).tag with
  | .list => return .list (← (← listItems id).mapM datum)
  | .map => return .map (← mapEntries id)
  | .set => return .set (setOrder ((← mapEntries id).map Prod.fst))
  | _ => return .pairs (← (← listItems id).mapM pairOf)

/-- Fill a collection. -/
def fill (id : Nat) : Building Unit := do
  let c ← contents id
  modify fun b => { b with filled := b.filled.setIfInBounds id (some c) }

/-- Fill the collections that wait, and then those that come up by it. -/
def fillAll : Nat → Building Unit
  | 0 => throw (.tooDeep .value)
  | fuel + 1 => do
      match (← get).waiting with
      | [] => return ()
      | level =>
          modify fun b => { b with waiting := [] }
          level.reverse.forM fill
          fillAll fuel

end Builder

/-- The data of a composed document. -/
def Composition.data (c : Composition) : Except Problem Data :=
  match c.root? with
  | none => .ok ⟨none, #[]⟩
  | some root => do
      let extent := Merging.extent c.nodes + 2
      let blank := Array.replicate c.nodes.size none
      let build : Building Datum := do
        let d ← Builder.datum root
        Builder.fillAll (c.nodes.size + 2)
        return d
      let (d, b) ← build.run
        { graph := c.nodes
          mergeBound := 4 * extent * extent
          known := blank
          filled := blank.map fun _ => none }
      return ⟨some d, b.filled⟩

/-- The data of a text in pages. -/
def read (text : Pages) : Except Problem Data := do
  (← compose (← Source.ofPages text)).data

end TableSync.Yaml
