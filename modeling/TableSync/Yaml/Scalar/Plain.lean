import TableSync.Yaml.Source

/-!
# Plain scalars

Text without quotes.  It ends at a comment, at a colon with a gap behind it, between brackets also
at their punctuation, and at a line that is not indented deeper than the block around it.  Lines
are joined.
-/

namespace TableSync.Yaml.Plain

/-- The marks at which a plain scalar ends between brackets. -/
def flowMarks : List Char :=
  [',', '?', '[', ']', '\x7b', '\x7d']

/-- Whether a colon ends a scalar, by the character behind it. -/
def endsAtColon (inFlow : Bool) (next : Char) : Bool :=
  isGap next || (inFlow && [',', '[', ']', '\x7b', '\x7d'].contains next)

/-- The characters of a scalar up to the next blank or its end.  What a colon does is told by the
spot behind it; if that is not there, nothing is. -/
def takeChunk (inFlow : Bool) : List Spot → List Char × List Spot
  | [] => ([], [])
  | s :: rest =>
      if s.char = ':' && rest.isEmpty then ([], [])
      else if isGap s.char || (s.char = ':' && endsAtColon inFlow (rest.headD default).char) ||
          (inFlow && flowMarks.contains s.char) then
        ([], s :: rest)
      else
        let chunk := takeChunk inFlow rest
        (s.char :: chunk.1, chunk.2)

/-- Read the line endings behind a first one; there are none to join where a document marker
comes. -/
def readEmpties : Nat → Reader (Option (List Char))
  | 0 => Reader.fail
  | fuel + 1 => do
      if ← Reader.atMarker then return none
      Reader.skipRun (· = ' ')
      match ← Reader.lineBreak? with
      | none => return some []
      | some c => return (← readEmpties fuel).map (c :: ·)

/-- What lies between two chunks of a scalar: the text that it counts as, which is empty where
the scalar cannot go on, and whether a line ended there. -/
structure Between where
  text : List Char
  newLine : Bool

/-- Read what lies behind a chunk. -/
def readBetween : Reader Between := do
  let spaces ← Reader.run (· = ' ')
  match ← Reader.lineBreak? with
  | none => return ⟨spaces, false⟩
  | some c =>
      let empties? ← readEmpties (← get).bound
      return ⟨(empties?.map (foldBreaks c)).getD [], true⟩

/-- A plain scalar as read, and whether a line ended behind its last chunk. -/
structure Result where
  text : List Char
  newLine : Bool

/-- Read the chunks of a scalar, the first behind a given text. -/
def readChunks (inFlow : Bool) (indent : Nat) : Nat → List Char → Bool → Reader Result
  | 0, _, _ => Reader.fail
  | fuel + 1, before, newLine => do
      if (← Reader.here) = '#' then return ⟨[], newLine⟩
      let chunk ← Reader.scan (takeChunk inFlow)
      if chunk.isEmpty then return ⟨[], newLine⟩
      let between ← readBetween
      let text := before ++ chunk
      let s ← Reader.spot
      if between.text.isEmpty || s.char = '#' || (!inFlow && decide (s.column < indent)) then
        return ⟨text, between.newLine⟩
      else
        let more ← readChunks inFlow indent fuel between.text between.newLine
        return { more with text := text ++ more.text }

/-- Read a plain scalar, whose further lines are indented by a number of columns. -/
def read (inFlow : Bool) (indent : Nat) : Reader Result := do
  readChunks inFlow indent (← get).bound [] false

end TableSync.Yaml.Plain
