import TableSync.Text.Hex
import TableSync.Text.Utf8

/-!
# Percent-decoding

An escape `%XX` of two hexadecimal digits stands for a byte.  Escapes and ASCII characters
together are read as UTF-8, malformed parts becoming replacement characters; a character that is
not ASCII stands for itself and ends whatever bytes came before it, so no character is ever put
together from bytes on both sides of it.  A `%` that starts no escape is kept, and so is `+`.
-/

namespace TableSync.Text.Percent

/-- The byte that two hexadecimal digits write. -/
def escapedByte? (high low : Char) : Option UInt8 :=
  match hexValue? high, hexValue? low with
  | some h, some l => some (UInt8.ofNat (h * 16 + l))
  | _, _ => none

inductive Piece
  | byte (b : UInt8)
  | literal (c : Char)
deriving DecidableEq, Repr

/-- A character outside an escape: a byte if it is ASCII, and itself otherwise. -/
def Piece.ofChar (c : Char) : Piece :=
  if c.toNat < 0x80 then .byte (UInt8.ofNat c.toNat) else .literal c

/-- Read the escapes of a text from left to right. -/
def pieces : List Char → List Piece
  | '%' :: high :: low :: cs =>
      match escapedByte? high low with
      | some b => .byte b :: pieces cs
      | none => .ofChar '%' :: pieces (high :: low :: cs)
  | c :: cs => .ofChar c :: pieces cs
  | [] => []

/-- Put the characters together, given a character left unfinished by earlier bytes. -/
def assemble : Option Utf8.Pending → List Piece → List Char
  | state, [] => Utf8.replaced (Utf8.flush state)
  | state, .byte b :: ps =>
      Utf8.replaced (Utf8.feed state b).1 ++ assemble (Utf8.feed state b).2 ps
  | state, .literal c :: ps => Utf8.replaced (Utf8.flush state) ++ c :: assemble none ps

def decode (s : String) : String :=
  String.ofList (assemble none (pieces s.toList))

/-- A literal character separates what stands before it from what stands after it. -/
theorem assemble_literal (state : Option Utf8.Pending) (ps qs : List Piece) (c : Char) :
    assemble state (ps ++ .literal c :: qs) =
      assemble state ps ++ c :: assemble none qs := by
  induction ps generalizing state with
  | nil => simp [assemble]
  | cons p ps ih =>
      cases p with
      | byte b => simp [assemble, ih]
      | literal d => simp [assemble, ih]

end TableSync.Text.Percent
