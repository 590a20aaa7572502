import TableSync.Text.Integer
import TableSync.Text.Utf8
import TableSync.Yaml.Token

/-!
# Directives, anchors and tags

The words that stand before a document or a node.  A tag is given by its whole name between angle
brackets, or by a handle and a suffix, in which a percent sign starts the code of a byte.
-/

namespace TableSync.Yaml

open TableSync.Text

/-- Read a word of letters, digits, dashes and underscores, which must not be empty. -/
def readWord : Reader String := do
  let cs ← Reader.run isWordMark
  if cs.isEmpty then Reader.fail
  return String.ofList cs

/-- The characters behind an anchor or an alias. -/
def endsName (c : Char) : Bool :=
  isGap c || ['?', ':', ',', ']', '\x7d', '%', '@', '\x60'].contains c

/-- Read the name of an anchor or an alias behind its mark. -/
def readName : Reader String := do
  Reader.skip 1
  let name ← readWord
  Reader.expect endsName
  return name

/-- The characters of a tag other than letters, digits and escapes. -/
def tagMarks : List Char :=
  "-;/?:@&=+$,_.!~*'()[]".toList

/-- The characters of a tag that stand for themselves. -/
def isTagMark (c : Char) : Bool :=
  ('0' ≤ c && c ≤ '9') || ('A' ≤ c && c ≤ 'Z') || ('a' ≤ c && c ≤ 'z') || tagMarks.contains c

/-- Read escapes as far as they follow each other: percent signs with two digits, each the code of
a byte. -/
def readEscapes : Nat → Reader (List UInt8)
  | 0 => return []
  | fuel + 1 => do
      if (← Reader.here) ≠ '%' then return []
      Reader.skip 1
      let high ← Reader.hexAhead 0
      let low ← Reader.hexAhead 1
      Reader.skip 2
      return UInt8.ofNat (16 * high + low) :: (← readEscapes fuel)

/-- Read characters of a tag, at least one; those that escapes write are given by the bytes that
encode them. -/
def readTagParts : Nat → Reader (List Char)
  | 0 => Reader.fail
  | fuel + 1 => do
      let cs ← Reader.run isTagMark
      if (← Reader.here) = '%' then
        match Utf8.decode? (← readEscapes (← get).bound) with
        | some escaped => return cs ++ escaped ++ (← readTagParts fuel)
        | none => Reader.fail
      else return cs

/-- Read the characters of a tag, at least one or an escape. -/
def readTagText : Reader String := do
  let c ← Reader.here
  unless isTagMark c || c = '%' do Reader.fail
  return String.ofList (← readTagParts (← get).bound)

/-- Read a handle: an exclamation mark, or a word between two of them. -/
def readHandle : Reader String := do
  Reader.expect (· = '!')
  Reader.skip 1
  if (← Reader.here) = ' ' then return "!"
  let cs ← Reader.run isWordMark
  Reader.expect (· = '!')
  Reader.skip 1
  return "!" ++ String.ofList cs ++ "!"

/-- Whether behind the next character an exclamation mark comes before the next space or the end of
the line. -/
def hasHandle : Reader Bool := do
  let ends (s : Spot) : Bool := s.char = '!' || isSpaceOrLineEnd s.char
  return (← Reader.orProblem ((← get).spots.tail.find? ends)).char = '!'

/-- Read the handle and the suffix of a tag. -/
def readTagName : Reader Token := do
  let next ← Reader.ahead 1
  if next = '<' then
    Reader.skip 2
    let text ← readTagText
    Reader.expect (· = '>')
    Reader.skip 1
    return .tag none text
  else if isGap next then
    Reader.skip 1
    return .tag none "!"
  else if ← hasHandle then
    let handle ← readHandle
    return .tag (some handle) (← readTagText)
  else
    Reader.skip 1
    return .tag (some "!") (← readTagText)

/-- Read a tag up to the gap behind it. -/
def readTag : Reader Token := do
  let tag ← readTagName
  Reader.expect isSpaceOrLineEnd
  return tag

/-- Read a number of ASCII digits, at least one and no more than can be read. -/
def readNumber : Reader Nat := do
  let cs ← Reader.run isAsciiDigit
  if cs.isEmpty then Reader.fail
  if digitLimit < cs.length then throw (.tooManyDigits cs.length)
  return decimalValue cs

/-- Read what stands behind the name of a directive. -/
def readDirectiveBody (name : String) : Reader Directive := do
  if name = "YAML" then
    Reader.skipRun (· = ' ')
    let major ← readNumber
    Reader.expect (· = '.')
    Reader.skip 1
    let minor ← readNumber
    Reader.expect isSpaceOrLineEnd
    return .version major minor
  else if name = "TAG" then
    Reader.skipRun (· = ' ')
    let handle ← readHandle
    Reader.expect (· = ' ')
    Reader.skipRun (· = ' ')
    let start ← readTagText
    Reader.expect isSpaceOrLineEnd
    return .handle handle start
  else
    Reader.skipRun fun c => !isLineEnd c
    return .other

/-- Read a directive with the rest of its line. -/
def readDirective : Reader Directive := do
  Reader.skip 1
  let name ← readWord
  Reader.expect isSpaceOrLineEnd
  let directive ← readDirectiveBody name
  Reader.lineEnd
  return directive

end TableSync.Yaml
