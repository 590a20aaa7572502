import TableSync.Yaml.Source

/-!
# Quoted scalars

Text between quotes.  Between single quotes only the quote itself is written in a special way,
twice; between double quotes a backslash starts an escape.  Lines are joined as in plain scalars,
and a line that marks a document must not come up.
-/

namespace TableSync.Yaml.Quoted

open TableSync.Text

/-- The characters that a backslash and one character stand for. -/
def simpleEscapes : List (Char × Char) :=
  [('0', '\x00'), ('a', '\x07'), ('b', '\x08'), ('t', '\t'), ('\t', '\t'), ('n', '\n'),
    ('v', '\x0b'), ('f', '\x0c'), ('r', '\r'), ('e', '\x1b'), (' ', ' '), ('"', '"'),
    ('\\', '\\'), ('/', '/'), ('N', '\x85'), ('_', '\xa0'), ('L', '\u2028'), ('P', '\u2029')]

/-- The number of digits behind the letter of a numeric escape. -/
def codeWidths : List (Char × Nat) :=
  [('x', 2), ('u', 4), ('U', 8)]

/-- The characters that stand for themselves between quotes of either kind. -/
def isOrdinary (c : Char) : Bool :=
  !isGap c && c ≠ '\'' && c ≠ '"' && c ≠ '\\'

/-- Read the line endings behind a first one, up to the next text. -/
def readEmpties : Nat → Reader (List Char)
  | 0 => Reader.fail
  | fuel + 1 => do
      if ← Reader.atMarker then Reader.fail
      Reader.skipRun isBlankMark
      match ← Reader.lineBreak? with
      | none => return []
      | some c => return c :: (← readEmpties fuel)

/-- Read blanks and line endings within a scalar as what they count as. -/
def readSpaces : Reader (List Char) := do
  let blanks ← Reader.run isBlankMark
  if (← Reader.here) = endMark then Reader.fail
  match ← Reader.lineBreak? with
  | some c => return foldBreaks c (← readEmpties (← get).bound)
  | none => return blanks

/-- Read a code in a number of hexadecimal digits.  It may be the code of a surrogate, which is
never joined with another one. -/
def readCode (width : Nat) : Reader CodePoint := do
  let digits ← (List.range width).mapM Reader.hexAhead
  let code := digits.foldl (fun n d => 16 * n + d) 0
  if 0x80000000 ≤ code then throw .codeOverflow
  if 0x110000 ≤ code then throw .notCharacter
  Reader.skip width
  return .ofNat code

def readEscape : Reader Text := do
  Reader.skip 1
  let c ← Reader.here
  match simpleEscapes.lookup c, codeWidths.lookup c with
  | some meant, _ =>
      Reader.skip 1
      return [.char meant]
  | none, some width =>
      Reader.skip 1
      return [← readCode width]
  | none, none =>
      match ← Reader.lineBreak? with
      | some _ => return .ofChars (← readEmpties (← get).bound)
      | none => Reader.fail

/-- Read one part of a scalar; nothing is left of a scalar at its closing quote. -/
def readPart (double : Bool) : Reader (Option Text) := do
  let itself (c : Char) : Reader (Option Text) := do
    Reader.skip 1
    return some [.char c]
  let c ← Reader.here
  if isGap c then return some (.ofChars (← readSpaces))
  else if isOrdinary c then return some (.ofChars (← Reader.run isOrdinary))
  else if double then
    if c = '"' then
      Reader.skip 1
      return none
    else if c = '\\' then return some (← readEscape)
    else itself c
  else if c ≠ '\'' then itself c
  else if (← Reader.ahead 1) = '\'' then
    Reader.skip 1
    itself c
  else
    Reader.skip 1
    return none

/-- Read the parts of a scalar up to its closing quote. -/
def readParts (double : Bool) : Nat → Reader (List Text)
  | 0 => Reader.fail
  | fuel + 1 => do
      match ← readPart double with
      | none => return []
      | some part => return part :: (← readParts double fuel)

/-- Read a quoted scalar with its quotes. -/
def read (double : Bool) : Reader Text := do
  Reader.skip 1
  return (← readParts double (← get).bound).flatten

end TableSync.Yaml.Quoted
