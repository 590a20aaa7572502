import TableSync.Yaml.Node
import TableSync.Yaml.Problem

/-!
# Merge keys

The value of a merge key is a map or a list of maps, whose entries come before those of the map
itself, so that its own entries win; of several maps the first wins.  A map is changed in place,
and the maps that it takes entries from are merged before.
-/

namespace TableSync.Yaml

abbrev Merging := StateT Graph (Except Problem)

namespace Merging

/-- The entries of a node, which must be a map. -/
def entriesOf (id : Nat) : Merging (List (Nat × Nat)) := do
  match ((← get).node id).content with
  | .map entries => return entries
  | _ => throw .illFormed

def setEntries (id : Nat) (entries : List (Nat × Nat)) : Merging Unit :=
  modify fun g => g.change id fun node => { node with content := .map entries }

def tagOf (id : Nat) : Merging Tag := do
  return ((← get).node id).tag

/-- Take the first entry with a merge key out of a map. -/
def takeMerge (id : Nat) : Merging (Option Nat) := do
  let entries ← entriesOf id
  let g ← get
  let isMerge (entry : Nat × Nat) : Bool := (g.node entry.1).tag = .merge
  match entries.find? isMerge with
  | none => return none
  | some entry =>
      setEntries id (entries.eraseP isMerge)
      return some entry.2

/-- A key `=` of a map is a text like others. -/
def nameDefaults (id : Nat) : Merging Unit := do
  for entry in ← entriesOf id do
    if (← tagOf entry.1) = .default then
      modify fun g => g.change entry.1 fun node => { node with tag := .text }

mutual

/-- Merge into a map and give its entries. -/
def merged (fuel : Nat) (id : Nat) : Merging (List (Nat × Nat)) := do
  match fuel with
  | 0 => throw (.tooDeep .value)
  | fuel + 1 =>
      let before ← sources fuel id
      nameDefaults id
      let own ← entriesOf id
      unless before.isEmpty do setEntries id (before ++ own)
      return before ++ own

/-- Take all merge keys out of a map, and give the entries of their values. -/
def sources (fuel : Nat) (id : Nat) : Merging (List (Nat × Nat)) := do
  match fuel with
  | 0 => throw (.tooDeep .value)
  | fuel + 1 =>
      match ← takeMerge id with
      | none => return []
      | some value =>
          let first ← source fuel value
          return first ++ (← sources fuel id)

/-- The entries of the value of a merge key. -/
def source (fuel : Nat) (id : Nat) : Merging (List (Nat × Nat)) := do
  match fuel with
  | 0 => throw (.tooDeep .value)
  | fuel + 1 =>
      match ((← get).node id).content with
      | .map _ => merged fuel id
      | .list items => return (← several fuel items).reverse.flatten
      | .scalar _ => throw .illFormed

/-- The entries of several maps, each by itself. -/
def several (fuel : Nat) (ids : List Nat) : Merging (List (List (Nat × Nat))) := do
  match fuel, ids with
  | 0, _ => throw (.tooDeep .value)
  | _, [] => return []
  | fuel + 1, id :: rest =>
      let _ ← entriesOf id
      let first ← merged fuel id
      return first :: (← several fuel rest)

end

/-- The number of keys and items in a graph, a bound for the steps of merging. -/
def extent (g : Graph) : Nat :=
  g.foldl (fun n node => n + match node.content with
    | .scalar _ => 1
    | .list items => items.length + 1
    | .map entries => entries.length + 1) 0

end Merging

end TableSync.Yaml
