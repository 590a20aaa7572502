/-!
# UTF-8

A decoder that reads one byte at a time and keeps what it has gathered of an unfinished
character.  A malformed part, the longest run of bytes that could have started a character, is
answered by `none`; strict reading refuses it and lossy reading writes the replacement character.
-/

namespace TableSync.Text.Utf8

/-- An unfinished character: its bits so far, the closed range of bytes that may follow, and how
many bytes come after that one. -/
structure Pending where
  bits : Nat
  low : Nat
  high : Nat
  missing : Nat
deriving DecidableEq, Repr

/-- What a byte does where no character is unfinished. -/
inductive Start
  | character (c : Char)
  | pending (p : Pending)
  | malformed

/-- Overlong forms, surrogates and values above U+10FFFF are excluded by the second byte. -/
def start (byte : UInt8) : Start :=
  let b := byte.toNat
  if b < 0x80 then .character (Char.ofNat b)
  else if b < 0xC2 then .malformed
  else if b < 0xE0 then .pending ⟨b - 0xC0, 0x80, 0xBF, 0⟩
  else if b = 0xE0 then .pending ⟨0, 0xA0, 0xBF, 1⟩
  else if b = 0xED then .pending ⟨0xD, 0x80, 0x9F, 1⟩
  else if b < 0xF0 then .pending ⟨b - 0xE0, 0x80, 0xBF, 1⟩
  else if b = 0xF0 then .pending ⟨0, 0x90, 0xBF, 2⟩
  else if b < 0xF4 then .pending ⟨b - 0xF0, 0x80, 0xBF, 2⟩
  else if b = 0xF4 then .pending ⟨4, 0x80, 0x8F, 2⟩
  else .malformed

/-- Whether a byte may follow an unfinished character. -/
def Pending.admits (p : Pending) (byte : UInt8) : Bool :=
  p.low ≤ byte.toNat && byte.toNat ≤ p.high

/-- The bits with those of one more byte. -/
def Pending.extended (p : Pending) (byte : UInt8) : Nat :=
  p.bits * 64 + (byte.toNat - 0x80)

/-- Read a byte where no character is unfinished. -/
def feedStart (byte : UInt8) : List (Option Char) × Option Pending :=
  match start byte with
  | .character c => ([some c], none)
  | .pending p => ([], some p)
  | .malformed => ([none], none)

/-- Read one byte: what it settles, and the character it leaves unfinished. -/
def feed : Option Pending → UInt8 → List (Option Char) × Option Pending
  | none, byte => feedStart byte
  | some p, byte =>
      if p.admits byte then
        match p.missing with
        | 0 => ([some (Char.ofNat (p.extended byte))], none)
        | more + 1 => ([], some ⟨p.extended byte, 0x80, 0xBF, more⟩)
      else (none :: (feedStart byte).1, (feedStart byte).2)

/-- What an unfinished character leaves where the bytes end. -/
def flush : Option Pending → List (Option Char)
  | none => []
  | some _ => [none]

/-- Read bytes one after the other: what they settle, and the character they leave unfinished. -/
def feedAll : Option Pending → List UInt8 → List (Option Char) × Option Pending
  | state, [] => ([], state)
  | state, byte :: bytes =>
      let (first, next) := feed state byte
      let (rest, last) := feedAll next bytes
      (first ++ rest, last)

/-- Decode bytes from a given state. -/
def decodeFrom : Option Pending → List UInt8 → List (Option Char)
  | state, [] => flush state
  | state, byte :: bytes => (feed state byte).1 ++ decodeFrom (feed state byte).2 bytes

/-- Decode bytes; malformed parts are `none`. -/
def decode (bytes : List UInt8) : List (Option Char) :=
  decodeFrom none bytes

/-- Write the replacement character for each malformed part. -/
def replaced (cs : List (Option Char)) : List Char :=
  cs.map fun c => c.getD '\uFFFD'

/-- The text that bytes encode, if no part of them is malformed. -/
def decode? (bytes : List UInt8) : Option (List Char) :=
  let cs := decode bytes
  if cs.all Option.isSome then some (cs.filterMap id) else none

def size (s : String) : Nat :=
  s.utf8ByteSize

theorem decodeFrom_eq (state : Option Pending) (bytes : List UInt8) :
    decodeFrom state bytes = (feedAll state bytes).1 ++ flush (feedAll state bytes).2 := by
  induction bytes generalizing state with
  | nil => rfl
  | cons byte bytes ih => simp [decodeFrom, feedAll, ih]

theorem replaced_append (xs ys : List (Option Char)) :
    replaced (xs ++ ys) = replaced xs ++ replaced ys := by
  simp [replaced]

theorem feedStart_ascii {byte : UInt8} (h : byte.toNat < 0x80) :
    feedStart byte = ([some (Char.ofNat byte.toNat)], none) := by
  simp [feedStart, start, h]

end TableSync.Text.Utf8
