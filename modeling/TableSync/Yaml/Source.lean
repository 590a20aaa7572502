import TableSync.Text.Hex
import TableSync.Text.Pages
import TableSync.Yaml.Problem

/-!
# Source text

The text of a document as a list of spots: each character with its index, line and column.  Behind
the last character comes an end mark, which no well-formed text holds, so that a reader may always
ask for the next character.  A document that cannot be read to its end is broken off: its spots
end without an end mark, and the problem behind them only meets a reader who asks for what is
there.  So of two problems in a document that one counts which is met first.
-/

namespace TableSync.Yaml

open TableSync.Text

/-- A character and its place. -/
structure Spot where
  char : Char
  index : Nat
  line : Nat
  column : Nat
deriving DecidableEq, Repr

/-- The character that ends a source. -/
def endMark : Char := '\x00'

instance : Inhabited Spot := ⟨⟨endMark, 0, 0, 0⟩⟩

/-- The spots that are still to be read and the problem behind them, if the document is broken off
there.  The bound is the number of spots at the beginning, which no reader passes. -/
structure Source where
  spots : List Spot
  problem? : Option Problem
  bound : Nat

/-! ## Classes of characters -/

/-- The characters that end a line; every other line ending has become a line feed before. -/
def isBreak (c : Char) : Bool :=
  c = '\n' || c = '\x85' || c = '\u2028' || c = '\u2029'

/-- The end of a line or of the text. -/
def isLineEnd (c : Char) : Bool :=
  isBreak c || c = endMark

/-- Blanks within a line. -/
def isBlankMark (c : Char) : Bool :=
  c = ' ' || c = '\t'

/-- A blank or the end of a line. -/
def isGap (c : Char) : Bool :=
  isBlankMark c || isLineEnd c

/-- A space or the end of a line; a tab is neither. -/
def isSpaceOrLineEnd (c : Char) : Bool :=
  c = ' ' || isLineEnd c

/-- A letter, digit, dash or underscore. -/
def isWordMark (c : Char) : Bool :=
  ('0' ≤ c && c ≤ '9') || ('A' ≤ c && c ≤ 'Z') || ('a' ≤ c && c ≤ 'z') || c = '-' || c = '_'

/-- How a line ending counts in a scalar: next line as a line feed, the separators as themselves. -/
def breakText (c : Char) : Char :=
  if c = '\x85' then '\n' else c

/-- The characters that a document may hold. -/
def isAllowed (c : Char) : Bool :=
  let n := c.toNat
  c = '\t' || c = '\n' || c = '\r' || (0x20 ≤ n && n ≤ 0x7E) || n = 0x85 ||
    (0xA0 ≤ n && n ≤ 0xFFFD) || 0x10000 ≤ n

/-! ## Sources of texts -/

/-- Give each character its place, from a given one on, and the end mark if the text is whole; a
byte order mark has no width. -/
def placed (whole : Bool) (index line column : Nat) : List Char → List Spot
  | [] => if whole then [⟨endMark, index, line, column⟩] else []
  | c :: cs =>
      ⟨c, index, line, column⟩ ::
        if isBreak c then placed whole (index + 1) (line + 1) 0 cs
        else placed whole (index + 1) line (if c = '\uFEFF' then column else column + 1) cs

/-- A text from its beginning; a byte order mark there is not part of it. -/
def Source.ofChars (cs : List Char) (problem? : Option Problem) : Source :=
  let all := placed problem?.isNone 0 0 0 cs
  { spots := if cs.head? = some '\uFEFF' then all.tail else all
    problem?
    bound := all.length + 1 }

/-- The pages with the first two as one, for both of them are read before anything else. -/
def joinFirst : List (List Char) → List (List Char)
  | first :: second :: rest => (first ++ second) :: rest
  | pages => pages

/-- The source of a text in pages.  It is broken off in front of the first page that holds a
character that is not allowed, or that is no text; if that is the first page, nothing is read. -/
def Source.ofPages (text : Pages) : Except Problem Source :=
  let pages := joinFirst text.pages
  let good := pages.takeWhile fun page => page.all isAllowed
  if text.broken && text.pages.length < 2 then .error .notText
  else if good.length < pages.length then
    if good.isEmpty then .error .illFormed else .ok (.ofChars good.flatten (some .illFormed))
  else .ok (.ofChars good.flatten (if text.broken then some .notText else none))

/-! ## Reading -/

abbrev Reader (α : Type) := StateT Source (Except Problem) α

/-- The characters of a class at the front of spots, and what is behind them. -/
def takeRun (p : Char → Bool) : List Spot → List Char × List Spot
  | [] => ([], [])
  | s :: rest =>
      if p s.char then
        let run := takeRun p rest
        (s.char :: run.1, run.2)
      else ([], s :: rest)

namespace Reader

def fail {α : Type} : Reader α :=
  throw .illFormed

/-- A spot of the source; behind the end mark there is nothing else, and behind the spots of a
source that is broken off there is its problem. -/
def orProblem (spot? : Option Spot) : Reader Spot := do
  match spot?, (← get).problem? with
  | some s, _ => return s
  | none, some p => throw p
  | none, none => return default

def spot : Reader Spot := do
  orProblem (← get).spots.head?

def here : Reader Char := do
  return (← spot).char

/-- The character a number of places ahead. -/
def ahead (n : Nat) : Reader Char := do
  return (← orProblem ((← get).spots.drop n).head?).char

/-- Read by a function on spots that stops in front of what it does not read; what is next must be
there to be seen. -/
def scan {α : Type} (f : List Spot → α × List Spot) : Reader α := do
  let (a, rest) := f (← get).spots
  modify fun src => { src with spots := rest }
  discard spot
  return a

def run (p : Char → Bool) : Reader (List Char) :=
  scan (takeRun p)

def skipRun (p : Char → Bool) : Reader Unit :=
  discard (run p)

def skip (n : Nat) : Reader Unit :=
  scan fun spots => ((), spots.drop n)

/-- Refuse the document unless the next character is in a class. -/
def expect (p : Char → Bool) : Reader Unit := do
  unless p (← here) do fail

/-- Read a hexadecimal digit a number of places ahead. -/
def hexAhead (n : Nat) : Reader Nat := do
  match hexValue? (← ahead n) with
  | some d => return d
  | none => fail

/-- Whether a line starts with three of a character and then a gap. -/
def isTriple (c : Char) : Reader Bool := do
  discard (ahead 2)
  if ((← get).spots.take 3).map Spot.char = [c, c, c] then return isGap (← ahead 3)
  else return false

/-- Whether a line starts with a mark that begins or ends a document. -/
def atMarker : Reader Bool := do
  return (← isTriple '-') || (← isTriple '.')

/-- Read the end of a line, if there is one, as it counts in a scalar. -/
def lineBreak? : Reader (Option Char) := do
  let c ← here
  if isBreak c then
    skip 1
    return some (breakText c)
  else return none

/-- Skip spaces and a comment, which must reach up to the end of the line. -/
def skipComment : Reader Unit := do
  skipRun (· = ' ')
  if (← here) = '#' then skipRun fun c => !isLineEnd c

/-- Read up to the end of the line, where only a comment may stand. -/
def lineEnd : Reader Unit := do
  skipComment
  expect isLineEnd
  discard lineBreak?

end Reader

/-- What a line ending and the empty lines behind it count as where lines are joined: a lone line
feed is a space, of several the first is dropped, and a separator is kept. -/
def foldBreaks (first : Char) (empties : List Char) : List Char :=
  if first ≠ '\n' then first :: empties
  else if empties = [] then [' '] else empties

end TableSync.Yaml
