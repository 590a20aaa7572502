import TableSync.Text.Split
import TableSync.Text.Utf8

/-!
# Pages

A text that is read bit by bit: characters are asked for in pages, and bytes are taken in chunks,
more at once where the last chunk had many bytes to a character.  That some bytes are no text is
noticed only when their chunk is taken, so the pages before it can be read all the same; an
unfinished character at the end of the bytes is noticed when no more bytes come.  Line endings are
unified on the way.
-/

namespace TableSync.Text

/-- The number of characters of a page; the last one may have fewer. -/
def pageSize : Nat := 4096

/-- The number of bytes that are taken at once, at least. -/
def chunkSize : Nat := 8192

/-- The pages of a text up to its end, or up to bytes that are no text. -/
structure Pages where
  pages : List (List Char)
  broken : Bool
deriving DecidableEq, Repr

/-- What has been taken of a text: the bytes to come, the character left unfinished, whether a
carriage return waits for what comes behind it, the bytes and characters of the last chunk, and
the characters that belong to no page yet. -/
structure Intake where
  bytes : List UInt8
  pending : Option Utf8.Pending := none
  heldReturn : Bool := false
  lastBytes : Nat := 0
  lastChars : Nat := 0
  ready : List Char := []

namespace Intake

def isOver (s : Intake) : Bool :=
  s.bytes.isEmpty && s.pending.isNone && !s.heldReturn

/-- The number of bytes to take for a number of characters. -/
def wanted (s : Intake) (missing : Nat) : Nat :=
  max chunkSize (s.lastBytes * missing / s.lastChars)

/-- Take in characters behind those that are ready; a carriage return at their end waits unless
they are the last ones. -/
def accept (s : Intake) (final : Bool) (cs : List Char) : Intake :=
  let cs := if s.heldReturn then '\r' :: cs else cs
  let held := !final && cs.getLast? = some '\r'
  let cs := unifyNewlines (if held then cs.dropLast else cs)
  { s with heldReturn := held, lastChars := cs.length, ready := s.ready ++ cs }

/-- Take a chunk of bytes for a number of characters; none if they are no text. -/
def chunk? (s : Intake) (missing : Nat) : Option Intake := do
  let now := s.bytes.take (s.wanted missing)
  let final := now.isEmpty
  let (decoded, pending) := Utf8.feedAll s.pending now
  let cs ← (if final then decoded ++ Utf8.flush pending else decoded).mapM id
  let s := { s with bytes := s.bytes.drop now.length, pending, lastBytes := now.length }
  return if cs.isEmpty && !final then { s with lastChars := 0 } else s.accept final cs

/-- Take chunks until a page is ready or nothing more can come. -/
def page? : Nat → Intake → Option Intake
  | 0, s => some s
  | fuel + 1, s =>
      if pageSize ≤ s.ready.length || s.isOver then some s
      else (s.chunk? (pageSize - s.ready.length)).bind (page? fuel)

/-- The pages of what is left. -/
def pages : Nat → Intake → Pages
  | 0, _ => ⟨[], false⟩
  | fuel + 1, s =>
      match page? (s.bytes.length + 2) s with
      | none => ⟨[], true⟩
      | some s =>
          if s.ready.isEmpty then ⟨[], false⟩
          else
            let rest := pages fuel { s with ready := s.ready.drop pageSize }
            { rest with pages := s.ready.take pageSize :: rest.pages }

end Intake

/-- The pages of a text that is given by its bytes. -/
def Pages.ofBytes (bytes : List UInt8) : Pages :=
  Intake.pages (bytes.length + 1) { bytes }

end TableSync.Text
