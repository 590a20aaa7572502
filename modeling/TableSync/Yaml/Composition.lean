import TableSync.Yaml.Node
import TableSync.Yaml.Token.Lexer

/-!
# Composition

Nodes are put together from tokens, which are asked for one by one, so that a problem with the nodes
counts before one with the tokens behind them.  A node may be left out where a key, a value or an
item can stand, and then stands for nothing.  A list may be written in a map at the indentation of
its key, and a pair between the brackets of a list is a map of its own.
-/

namespace TableSync.Yaml

/-- The number of collections that may be put together inside each other. -/
def depthLimit : Nat := 490

/-- What is known while nodes are put together; the depth is the number of collections around the
next node. -/
structure Composer where
  lexer : Lexer
  nodes : Graph := #[]
  depth : Nat := 0
  anchors : List (String × Nat) := []
  handles : List (String × String) := []

abbrev Composing := StateT Composer (Except Problem)

/-- The handles that need no directive. -/
def standardHandles : List (String × String) :=
  [("!", "!"), ("!!", tagBase)]

namespace Composer

/-- Let the lexer make a step. -/
def lexing {α : Type} (step : Lexing α) : Composing α := do
  match StateT.run step (← get).lexer with
  | .ok (a, lexer) =>
      modify fun c => { c with lexer }
      return a
  | .error p => throw p

/-- The next token, if the text is not over. -/
def peek : Composing (Option Token) :=
  lexing Lexer.peek

def advance : Composing Unit :=
  lexing Lexer.advance

def nextIs (ts : List Token) : Composing Bool := do
  match ← peek with
  | some t => return ts.contains t
  | none => return false

def expect (t : Token) : Composing Unit := do
  if ← nextIs [t] then advance else throw .illFormed

def add (node : Node) : Composing Nat :=
  modifyGet fun c => (c.nodes.size, { c with nodes := c.nodes.push node })

def addEmpty : Composing Nat :=
  add ⟨implicitTag [], .scalar []⟩

/-- What stands before the content of a node. -/
structure Properties where
  anchor? : Option String := none
  tag? : Option String := none

/-- The name of a tag whose handle has been declared. -/
def tagName (handle? : Option String) (suffix : String) : Composing String := do
  match handle? with
  | none => return suffix
  | some handle =>
      match (← get).handles.lookup handle with
      | some start => return start ++ suffix
      | none => throw .illFormed

/-- Read an anchor and a tag, in either order, each of them or not. -/
def properties : Composing Properties := do
  match ← peek with
  | some (.anchor name) =>
      advance
      match ← peek with
      | some (.tag handle? suffix) =>
          advance
          return ⟨some name, some (← tagName handle? suffix)⟩
      | _ => return ⟨some name, none⟩
  | some (.tag handle? suffix) =>
      advance
      match ← peek with
      | some (.anchor name) =>
          advance
          return ⟨some name, some (← tagName handle? suffix)⟩
      | _ => return ⟨none, some (← tagName handle? suffix)⟩
  | _ => return {}

/-- The tag of a collection; the tag `!` says nothing. -/
def Properties.tagOr (p : Properties) (tag : Tag) : Tag :=
  match p.tag? with
  | none => tag
  | some "!" => tag
  | some name => .ofName name

/-- The tag of a scalar: the given one, or else what its form says; a scalar in quotes or in a
block is a text, unless its tag is `!`. -/
def Properties.scalarTag (p : Properties) (text : Text) (plain : Bool) : Tag :=
  match p.tag? with
  | none => if plain then implicitTag text else .text
  | some "!" => implicitTag text
  | some name => .ofName name

/-- Add a node with its properties; an anchor must be new. -/
def addWith (p : Properties) (node : Node) : Composing Nat := do
  let id ← add node
  match p.anchor? with
  | none => return id
  | some name =>
      if ((← get).anchors.lookup name).isSome then throw .illFormed
      modify fun c => { c with anchors := (name, id) :: c.anchors }
      return id

/-- Add a collection and put its parts together. -/
def addCollection (p : Properties) (tag : Tag) (empty : Content) (parts : Composing Content) :
    Composing Nat := do
  let id ← addWith p ⟨p.tagOr tag, empty⟩
  modify fun c => { c with depth := c.depth + 1 }
  if depthLimit < (← get).depth then throw (.tooDeep .value)
  let content ← parts
  modify fun c =>
    { c with
      nodes := c.nodes.change id fun node => { node with content }
      depth := c.depth - 1 }
  return id

/-- Where a node stands: between brackets, in a block, or in a block as a part of a map. -/
inductive Place
  | flow
  | block
  | mapPart
deriving DecidableEq

mutual

def node (fuel : Nat) (place : Place) : Composing Nat := do
  match fuel with
  | 0 => throw .illFormed
  | fuel + 1 =>
      match ← peek with
      | some (.alias name) =>
          advance
          match (← get).anchors.lookup name with
          | some id => return id
          | none => throw .illFormed
      | _ => content fuel place (← properties)

def content (fuel : Nat) (place : Place) (p : Properties) : Composing Nat := do
  match fuel with
  | 0 => throw .illFormed
  | fuel + 1 =>
      let list := addCollection p .list (.list [])
      let map := addCollection p .map (.map [])
      match ← peek, place with
      | some .entry, .mapPart => list (return .list (← entries fuel true []))
      | some (.scalar text plain), _ =>
          advance
          addWith p ⟨p.scalarTag text plain, .scalar text⟩
      | some .flowSequence, _ =>
          advance
          list (return .list (← flowItems fuel true []))
      | some .flowMapping, _ =>
          advance
          map (return .map (← flowEntries fuel true []))
      | some .blockSequence, .block | some .blockSequence, .mapPart =>
          advance
          list (return .list (← entries fuel false []))
      | some .blockMapping, .block | some .blockMapping, .mapPart =>
          advance
          map (return .map (← blockEntries fuel []))
      | _, _ =>
          if p.anchor?.isNone && p.tag?.isNone then throw .illFormed
          addWith p ⟨p.scalarTag [] true, .scalar []⟩

/-- The items of a list in a block; one at the indentation of its key has no end of its own. -/
def entries (fuel : Nat) (indentless : Bool) (items : List Nat) : Composing (List Nat) := do
  match fuel with
  | 0 => throw .illFormed
  | fuel + 1 =>
      if ← nextIs [.entry] then
        advance
        let ends : List Token := if indentless then [.entry, .key, .value, .blockEnd]
          else [.entry, .blockEnd]
        let item ← if ← nextIs ends then addEmpty else node fuel .block
        entries fuel indentless (item :: items)
      else
        unless indentless do expect .blockEnd
        return items.reverse

/-- The entries of a map in a block. -/
def blockEntries (fuel : Nat) (pairs : List (Nat × Nat)) : Composing (List (Nat × Nat)) := do
  match fuel with
  | 0 => throw .illFormed
  | fuel + 1 =>
      let part : Composing Nat := do
        advance
        if ← nextIs [.key, .value, .blockEnd] then addEmpty else node fuel .mapPart
      if ← nextIs [.key] then
        let key ← part
        let value ← if ← nextIs [.value] then part else addEmpty
        blockEntries fuel ((key, value) :: pairs)
      else
        expect .blockEnd
        return pairs.reverse

/-- The items of a list between brackets. -/
def flowItems (fuel : Nat) (first : Bool) (items : List Nat) : Composing (List Nat) := do
  match fuel with
  | 0 => throw .illFormed
  | fuel + 1 =>
      let part : Composing Nat := do
        advance
        if ← nextIs [.value, .comma, .flowSequenceEnd] then addEmpty else node fuel .flow
      let valuePart : Composing Nat := do
        advance
        if ← nextIs [.comma, .flowSequenceEnd] then addEmpty else node fuel .flow
      if ← nextIs [.flowSequenceEnd] then
        advance
        return items.reverse
      unless first do expect .comma
      if ← nextIs [.key] then
        let id ← addCollection {} .map (.map []) do
          let key ← part
          let value ← if ← nextIs [.value] then valuePart else addEmpty
          return .map [(key, value)]
        flowItems fuel false (id :: items)
      else if ← nextIs [.flowSequenceEnd] then
        advance
        return items.reverse
      else
        let item ← node fuel .flow
        flowItems fuel false (item :: items)

/-- The entries of a map between brackets; a node without a colon is a key without a value. -/
def flowEntries (fuel : Nat) (first : Bool) (pairs : List (Nat × Nat)) :
    Composing (List (Nat × Nat)) := do
  match fuel with
  | 0 => throw .illFormed
  | fuel + 1 =>
      let part (ends : List Token) : Composing Nat := do
        advance
        if ← nextIs ends then addEmpty else node fuel .flow
      if ← nextIs [.flowMappingEnd] then
        advance
        return pairs.reverse
      unless first do expect .comma
      if ← nextIs [.key] then
        let key ← part [.value, .comma, .flowMappingEnd]
        let value ← if ← nextIs [.value] then part [.comma, .flowMappingEnd] else addEmpty
        flowEntries fuel false ((key, value) :: pairs)
      else if ← nextIs [.flowMappingEnd] then
        advance
        return pairs.reverse
      else
        let key ← node fuel .flow
        let value ← addEmpty
        flowEntries fuel false ((key, value) :: pairs)

end

/-- Take a directive: there is one version at most, whose major number is 1, and a handle is
declared once. -/
def directive (versioned : Bool) : Directive → Composing Bool
  | .version major _ => do
      if versioned || major ≠ 1 then throw .illFormed
      return true
  | .handle handle start => do
      if ((← get).handles.lookup handle).isSome then throw .illFormed
      modify fun c => { c with handles := (handle, start) :: c.handles }
      return versioned
  | .other => return versioned

def directives : Nat → Bool → Composing Unit
  | 0, _ => return ()
  | fuel + 1, versioned => do
      match ← peek with
      | some (.directive d) =>
          advance
          directives fuel (← directive versioned d)
      | _ => return ()

/-- Skip the marks that end documents. -/
def skipEnds : Nat → Composing Unit
  | 0 => return ()
  | fuel + 1 => do
      if ← nextIs [.documentEnd] then
        advance
        skipEnds fuel

/-- The root of the document behind its mark. -/
def explicitRoot (fuel : Nat) : Composing Nat := do
  let ends ← match ← peek with
    | some (.directive _) => pure true
    | some .documentStart => pure true
    | some .documentEnd => pure true
    | none => pure true
    | _ => pure false
  if ends then addEmpty else node fuel .block

/-- Take what stands before the root of a document that is marked as one. -/
def opening (fuel : Nat) : Composing Unit := do
  modify fun c => { c with handles := [] }
  directives fuel false
  modify fun c => { c with handles := c.handles ++ standardHandles }
  expect .documentStart

/-- The root of the only document of a text, if it holds one. -/
def root (fuel : Nat) : Composing (Option Nat) := do
  let top ← match ← peek with
    | none => return none
    | some (.directive _) | some .documentStart => do
        opening fuel
        explicitRoot fuel
    | some _ => do
        modify fun c => { c with handles := standardHandles }
        node fuel .block
  skipEnds fuel
  if (← peek).isSome then
    opening fuel
    throw .illFormed
  return some top

end Composer

/-- A document: its nodes and the root among them, if it has one. -/
structure Composition where
  nodes : Graph
  root? : Option Nat

/-- Put the nodes of a document together.  A character makes no more than three tokens, and a token
no more than five steps. -/
def compose (source : Source) : Except Problem Composition :=
  ((Composer.root (16 * source.bound + 16)).run { lexer := { source } }).map fun result =>
    ⟨result.2.nodes, result.1⟩

end TableSync.Yaml
