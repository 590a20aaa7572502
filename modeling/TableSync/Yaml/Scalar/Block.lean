import TableSync.Text.Digit
import TableSync.Yaml.Source

/-!
# Block scalars

Text in lines that are indented deeper than the block around it.  A header tells how deep, if it
is not the first line that tells, and what becomes of the line endings at the end.  A literal
scalar keeps its line endings; a folded one joins lines that do not start with a blank.
-/

namespace TableSync.Yaml.Block

open TableSync.Text

/-- What becomes of the line endings at the end of a scalar. -/
inductive Chomping
  | strip
  | clip
  | keep
deriving DecidableEq, Repr

/-- The header of a scalar; the depth is relative to the block around it. -/
structure Header where
  chomping : Chomping := .clip
  depth? : Option Nat := none
deriving Repr

/-- The chomping that a sign asks for. -/
def chomping? (c : Char) : Option Chomping :=
  if c = '+' then some .keep else if c = '-' then some .strip else none

/-- Read a chomping, if there is one. -/
def readChomping? : Reader (Option Chomping) := do
  let asked? := chomping? (← Reader.here)
  if asked?.isSome then Reader.skip 1
  return asked?

/-- Read a depth, if there is one; it is a digit from 1 to 9. -/
def readDepth? : Reader (Option Nat) := do
  let c ← Reader.here
  if !isAsciiDigit c then return none
  if c = '0' then Reader.fail
  Reader.skip 1
  return some (c.toNat - '0'.toNat)

/-- Read a chomping and a depth, in either order. -/
def readSigns : Reader Header := do
  match ← readChomping? with
  | some chomping => return ⟨chomping, ← readDepth?⟩
  | none =>
      match ← readDepth? with
      | some depth => return ⟨(← readChomping?).getD .clip, some depth⟩
      | none => return {}

/-- Read a header up to the end of its line, where only a comment may stand. -/
def readHeader : Reader Header := do
  let header ← readSigns
  Reader.expect isSpaceOrLineEnd
  Reader.lineEnd
  return header

/-- The empty lines in front of a scalar, and the deepest column that spaces reach there. -/
def takeLeading : List Spot → (List Char × Nat) × List Spot
  | [] => (([], 0), [])
  | s :: rest =>
      if s.char = ' ' then
        let ((breaks, deepest), rest) := takeLeading rest
        ((breaks, max (s.column + 1) deepest), rest)
      else if isBreak s.char then
        let ((breaks, deepest), rest) := takeLeading rest
        ((breakText s.char :: breaks, deepest), rest)
      else (([], 0), s :: rest)

/-- The empty lines in front of the next line, and the spaces up to an indentation. -/
def takeEmpties (indent : Nat) : List Spot → List Char × List Spot
  | [] => ([], [])
  | s :: rest =>
      if s.char = ' ' && decide (s.column < indent) then takeEmpties indent rest
      else if isBreak s.char then
        let more := takeEmpties indent rest
        (breakText s.char :: more.1, more.2)
      else ([], s :: rest)

/-- Whether a line of a scalar is next. -/
def atLine (indent : Nat) : Reader Bool := do
  let s ← Reader.spot
  return s.column = indent && s.char ≠ endMark

/-- What stands between two lines: the line ending of the first and the empty lines behind it.  A
line that starts with a blank is not joined with its neighbours. -/
def between (folded indented : Bool) (lineBreak empties : List Char) : List Char :=
  if folded && lineBreak = ['\n'] && !indented then
    (if empties = [] then [' '] else []) ++ empties
  else lineBreak ++ empties

/-- The lines of a scalar: their text up to the last line ending, that ending, and the empty lines
behind it. -/
structure Lines where
  text : List Char
  lineBreak : List Char
  empties : List Char

/-- Read the lines of a scalar from the first one on. -/
def readLines (folded : Bool) (indent : Nat) : Nat → Reader Lines
  | 0 => Reader.fail
  | fuel + 1 => do
      let first ← Reader.here
      let line ← Reader.run fun c => !isLineEnd c
      let lineBreak := (← Reader.lineBreak?).toList
      let empties ← Reader.scan (takeEmpties indent)
      if ← atLine indent then
        let indented := isBlankMark first || isBlankMark (← Reader.here)
        let more ← readLines folded indent fuel
        return { more with text := line ++ between folded indented lineBreak empties ++ more.text }
      else return ⟨line, lineBreak, empties⟩

/-- The text of a scalar, its end chomped. -/
def chomp (chomping : Chomping) (lines : Lines) : List Char :=
  match chomping with
  | .strip => lines.text
  | .clip => lines.text ++ lines.lineBreak
  | .keep => lines.text ++ lines.lineBreak ++ lines.empties

/-- Read a scalar with its mark, in a block with a given least indentation. -/
def read (folded : Bool) (least : Nat) : Reader (List Char) := do
  Reader.skip 1
  let header ← readHeader
  let (leading, indent) ← match header.depth? with
    | some depth => do
        let indent := least + depth - 1
        pure (← Reader.scan (takeEmpties indent), indent)
    | none => do
        let (leading, deepest) ← Reader.scan takeLeading
        pure (leading, max least deepest)
  if ← atLine indent then
    return leading ++ chomp header.chomping (← readLines folded indent (← get).bound)
  else return chomp header.chomping ⟨[], [], leading⟩

end TableSync.Yaml.Block
