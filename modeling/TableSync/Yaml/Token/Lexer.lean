import TableSync.Yaml.Scalar.Block
import TableSync.Yaml.Scalar.Plain
import TableSync.Yaml.Scalar.Quoted
import TableSync.Yaml.Token.Property

/-!
# The lexer

Tokens are read one by one, when they are asked for.  That a node is the key of a map shows only
at the colon behind it, so the lexer remembers for each nesting of brackets the last token that
could start a key, and puts the tokens of the key in front of it when a colon comes; a token that
may still turn out to start a key is not given away before that is settled.  Outside brackets the
indentation opens and closes blocks.
-/

namespace TableSync.Yaml

/-- A token that may turn out to start a key, and the number of tokens before it.  One at the
indentation of its block must be a key, for nothing else can stand there. -/
structure Candidate where
  position : Nat
  required : Bool
  spot : Spot

/-- A key lies on one line and within this many characters. -/
def keyReach : Nat := 1024

/-- Whether a candidate has been left too far behind to be a key. -/
def Candidate.isStale (c : Candidate) (now : Spot) : Bool :=
  c.spot.line ≠ now.line || keyReach < now.index - c.spot.index

/-- The state of the lexer.  Of the tokens, `taken` have been given away and `waiting` have been
read; `indents` are the columns of the open blocks, the innermost first; `outer` are the candidates
outside the innermost brackets, one for each nesting. -/
structure Lexer where
  source : Source
  taken : Nat := 0
  waiting : List Token := []
  indents : List Nat := []
  current : Option Candidate := none
  outer : List (Option Candidate) := []
  mayBeKey : Bool := true
  ended : Bool := false

abbrev Lexing := StateT Lexer (Except Problem)

namespace Lexer

def inFlow (lx : Lexer) : Bool :=
  !lx.outer.isEmpty

/-- Whether a column is deeper than the innermost block. -/
def isDeeper (lx : Lexer) (column : Nat) : Bool :=
  match lx.indents with
  | [] => true
  | indent :: _ => indent < column

/-- The column behind the indentation of the innermost block. -/
def contentColumn (lx : Lexer) : Nat :=
  match lx.indents with
  | [] => 0
  | indent :: _ => indent + 1

/-- The lexer with a token behind the others, several times if need be. -/
def adding (t : Token) (lx : Lexer) (times : Nat := 1) : Lexer :=
  { lx with waiting := lx.waiting ++ List.replicate times t }

/-- The lexer with one more token behind the first `position` ones. -/
def inserting (position : Nat) (t : Token) (lx : Lexer) : Lexer :=
  { lx with waiting := lx.waiting.insertIdx (position - lx.taken) t }

def push (t : Token) : Lexing Unit :=
  modify (adding t)

/-- Let a reader read from the source. -/
def read {α : Type} (reader : Reader α) : Lexing α := do
  match StateT.run reader (← get).source with
  | .ok (a, source) =>
      modify fun lx => { lx with source }
      return a
  | .error p => throw p

/-- Say whether the next token may start a key without brackets around it. -/
def allowKey (allowed : Bool) : Lexing Unit :=
  modify fun lx => { lx with mayBeKey := allowed }

/-- Give up the candidate of the innermost nesting; a required one cannot be given up. -/
def dropCandidate : Lexing Unit := do
  match (← get).current with
  | some c => if c.required then throw .illFormed
  | none => pure ()
  modify fun lx => { lx with current := none }

/-- Make the next token a candidate, if a key may start here. -/
def saveCandidate : Lexing Unit := do
  let lx ← get
  if lx.mayBeKey then
    let spot ← read Reader.spot
    dropCandidate
    modify fun lx => { lx with
      current := some
        { position := lx.taken + lx.waiting.length
          required := !lx.inFlow && lx.indents.head? = some spot.column
          spot } }

/-- Give up a candidate that has been left behind. -/
def refresh (now : Spot) : Option Candidate → Lexing (Option Candidate)
  | some c =>
      if c.isStale now then
        if c.required then throw .illFormed else return none
      else return some c
  | none => return none

/-- Give up all candidates that have been left behind. -/
def refreshAll : Lexing Unit := do
  let now ← read Reader.spot
  let lx ← get
  let outer ← lx.outer.mapM (refresh now)
  let current ← refresh now lx.current
  modify fun lx => { lx with outer, current }

/-- Skip blanks, comments and line ends, and say whether a line ended. -/
def skipGaps : Nat → Reader Bool
  | 0 => return false
  | fuel + 1 => do
      Reader.skipComment
      match ← Reader.lineBreak? with
      | none => return false
      | some _ =>
          discard (skipGaps fuel)
          return true

/-- Go to the next token; outside brackets a key may start on a new line. -/
def toNextToken : Lexing Unit := do
  let newLine ← read (skipGaps (← get).source.bound)
  modify fun lx => { lx with mayBeKey := lx.mayBeKey || (newLine && !lx.inFlow) }

/-- The columns of the blocks that go on at a column, and the number of those that end. -/
def closeBlocks (column : Nat) : List Nat → List Nat × Nat
  | [] => ([], 0)
  | indent :: indents =>
      if column < indent then
        let (open?, closed) := closeBlocks column indents
        (open?, closed + 1)
      else (indent :: indents, 0)

/-- End the blocks that are indented deeper than a column. -/
def unwind (column : Nat) : Lexing Unit :=
  modify fun lx =>
    if lx.inFlow then lx
    else
      let (indents, closed) := closeBlocks column lx.indents
      { lx with indents }.adding .blockEnd closed

def unwindAll : Lexing Unit :=
  modify fun lx =>
    if lx.inFlow then lx else { lx with indents := [] }.adding .blockEnd lx.indents.length

/-- Begin a block at a column, if it is deeper than the innermost one. -/
def openBlock (start : Token) (column : Nat) : Lexing Unit :=
  modify fun lx =>
    if lx.isDeeper column then { lx with indents := column :: lx.indents }.adding start else lx

/-- End all blocks in front of a document mark or a directive. -/
def endContent : Lexing Unit := do
  unwindAll
  dropCandidate
  allowKey false

def directive : Lexing Unit := do
  endContent
  push (.directive (← read readDirective))

/-- A mark that begins or ends a document. -/
def documentMark (t : Token) : Lexing Unit := do
  endContent
  read (Reader.skip 3)
  push t

def openFlow (t : Token) : Lexing Unit := do
  saveCandidate
  modify fun lx => { lx with outer := lx.current :: lx.outer, current := none }
  allowKey true
  read (Reader.skip 1)
  push t

/-- A closing bracket, which must have an opening one. -/
def closeFlow (t : Token) : Lexing Unit := do
  dropCandidate
  read (Reader.skip 1)
  match (← get).outer with
  | [] => throw .illFormed
  | current :: outer => modify fun lx => { lx with outer, current }
  allowKey false
  push t

/-- A comma between brackets. -/
def comma : Lexing Unit := do
  allowKey true
  dropCandidate
  read (Reader.skip 1)
  push .comma

/-- Outside brackets, begin a block at the next character, which must be able to start a key. -/
def openBlockHere (start : Token) : Lexing Unit := do
  let lx ← get
  unless lx.inFlow do
    unless lx.mayBeKey do throw .illFormed
    openBlock start (← read Reader.spot).column

def entry : Lexing Unit := do
  openBlockHere .blockSequence
  allowKey true
  dropCandidate
  read (Reader.skip 1)
  push .entry

def key : Lexing Unit := do
  openBlockHere .blockMapping
  allowKey (!(← get).inFlow)
  dropCandidate
  read (Reader.skip 1)
  push .key

/-- Put the tokens of a key in front of a candidate. -/
def insertKey (c : Candidate) (lx : Lexer) : Lexer :=
  let keyed := lx.inserting c.position .key
  if !lx.inFlow && lx.isDeeper c.spot.column then
    { keyed with indents := c.spot.column :: lx.indents }.inserting c.position .blockMapping
  else keyed

/-- The colon in front of a value.  What the candidate started is its key; without a candidate the
key is empty. -/
def value : Lexing Unit := do
  match (← get).current with
  | some c =>
      modify fun lx => insertKey c { lx with current := none }
      allowKey false
  | none =>
      openBlockHere .blockMapping
      allowKey (!(← get).inFlow)
  read (Reader.skip 1)
  push .value

/-- A token that may start a key. -/
def word (reader : Reader Token) : Lexing Unit := do
  saveCandidate
  allowKey false
  push (← read reader)

/-- A scalar in a block of its own lines. -/
def blockScalar (folded : Bool) : Lexing Unit := do
  allowKey true
  dropCandidate
  let least := max 1 (← get).contentColumn
  push (.scalar (.ofChars (← read (Block.read folded least))) false)

def quotedScalar (double : Bool) : Lexing Unit :=
  word do return .scalar (← Quoted.read double) false

/-- A scalar without quotes; a key may start behind it if its last line has ended. -/
def plainScalar : Lexing Unit := do
  saveCandidate
  let lx ← get
  let result ← read (Plain.read lx.inFlow lx.contentColumn)
  allowKey result.newLine
  push (.scalar (.ofChars result.text) true)

/-- The marks that cannot start a plain scalar by themselves. -/
def indicators : List Char :=
  "-?:,[]\x7b\x7d#&*!|>'\"%@\x60".toList

/-- Whether a plain scalar is next. -/
def startsPlain (inFlow : Bool) : Reader Bool := do
  let c ← Reader.here
  if !isGap c && !indicators.contains c then return true
  let next ← Reader.ahead 1
  return !isGap next && (c = '-' || (!inFlow && (c = '?' || c = ':')))

/-- What a token starts with, as far as it takes more than one character to tell. -/
inductive Lead
  | documentStart
  | documentEnd
  | entry
  | key
  | value
  | plain

/-- What is next, where its first character alone does not tell. -/
def readLead (inFlow : Bool) : Reader Lead := do
  let s ← Reader.spot
  if s.char = '-' && s.column = 0 then
    if ← Reader.isTriple '-' then return .documentStart
  if s.char = '.' && s.column = 0 then
    if ← Reader.isTriple '.' then return .documentEnd
  if s.char = '?' && inFlow then return .key
  if s.char = ':' && inFlow then return .value
  if s.char = '-' || s.char = '?' || s.char = ':' then
    if isGap (← Reader.ahead 1) then
      return if s.char = '-' then .entry else if s.char = '?' then .key else .value
  if ← startsPlain inFlow then return .plain else Reader.fail

/-- Read a token that its first character alone does not tell. -/
def leadToken : Lexing Unit := do
  match ← read (readLead (← get).inFlow) with
  | .documentStart => documentMark .documentStart
  | .documentEnd => documentMark .documentEnd
  | .entry => entry
  | .key => key
  | .value => value
  | .plain => plainScalar

def token : Lexing Unit := do
  let s ← read Reader.spot
  let inFlow := (← get).inFlow
  match s.char with
  | '%' => if s.column = 0 then directive else leadToken
  | '[' => openFlow .flowSequence
  | ']' => closeFlow .flowSequenceEnd
  | '\x7b' => openFlow .flowMapping
  | '\x7d' => closeFlow .flowMappingEnd
  | ',' => comma
  | '*' => word do return .alias (← readName)
  | '&' => word do return .anchor (← readName)
  | '!' => word readTag
  | '\'' => quotedScalar false
  | '"' => quotedScalar true
  | '|' => if inFlow then leadToken else blockScalar false
  | '>' => if inFlow then leadToken else blockScalar true
  | _ => leadToken

/-- Go to the next token and read it; the text may be over. -/
def step : Lexing Unit := do
  toNextToken
  refreshAll
  let s ← read Reader.spot
  unwind s.column
  if s.char = endMark then
    unwindAll
    dropCandidate
    modify fun lx => { lx with outer := [], ended := true }
  else token

/-- Whether a candidate is the first of the tokens that have not been given away. -/
def isUnsettled (lx : Lexer) : Bool :=
  (lx.current :: lx.outer).any fun c? => c?.any fun c => c.position = lx.taken

/-- Read tokens until the first one that has not been given away is settled. -/
def settle : Nat → Lexing Unit
  | 0 => throw .illFormed
  | fuel + 1 => do
      if (← get).ended then return ()
      if (← get).waiting.isEmpty then
        step
        settle fuel
      else
        refreshAll
        if (← get).isUnsettled then
          step
          settle fuel

/-- The next token, if the text is not over. -/
def peek : Lexing (Option Token) := do
  settle ((← get).source.bound + 1)
  return (← get).waiting.head?

/-- Give the next token away. -/
def advance : Lexing Unit :=
  modify fun lx => { lx with taken := lx.taken + 1, waiting := lx.waiting.tail }

end Lexer

end TableSync.Yaml
