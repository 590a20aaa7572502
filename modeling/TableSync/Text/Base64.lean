/-!
# Base 64

Bytes written in an alphabet of sixty-four characters, six bits each.  Other characters are
skipped.  Padding ends the text where it completes four characters; a text that ends elsewhere
than behind a multiple of four characters is refused.
-/

namespace TableSync.Text

/-- The six bits of a character of the alphabet. -/
def base64Value? (c : Char) : Option Nat :=
  let n := c.toNat
  if 'A' ≤ c ∧ c ≤ 'Z' then some (n - 0x41)
  else if 'a' ≤ c ∧ c ≤ 'z' then some (n - 0x61 + 26)
  else if '0' ≤ c ∧ c ≤ '9' then some (n - 0x30 + 52)
  else if c = '+' then some 62
  else if c = '/' then some 63
  else none

/-- Where a reader stands in a group of four characters, the bits that wait for a byte, and the
number of padding marks just before. -/
structure Base64State where
  place : Nat := 0
  bits : Nat := 0
  padding : Nat := 0

/-- Take up six bits: a byte, if one is complete, and the state behind it. -/
def Base64State.feed (s : Base64State) (value : Nat) : Option UInt8 × Base64State :=
  match s.place with
  | 0 => (none, ⟨1, value, 0⟩)
  | 1 => (some (UInt8.ofNat (s.bits * 4 + value / 16)), ⟨2, value % 16, 0⟩)
  | 2 => (some (UInt8.ofNat (s.bits * 16 + value / 4)), ⟨3, value % 4, 0⟩)
  | _ => (some (UInt8.ofNat (s.bits * 64 + value)), ⟨0, 0, 0⟩)

/-- Read characters from a state on. -/
def decodeBase64From (s : Base64State) : List Char → Option (List UInt8)
  | [] => if s.place = 0 then some [] else none
  | c :: cs =>
      if c = '=' then
        if 2 ≤ s.place then
          if 4 ≤ s.place + s.padding + 1 then some []
          else decodeBase64From { s with padding := s.padding + 1 } cs
        else decodeBase64From s cs
      else
        match base64Value? c with
        | none => decodeBase64From s cs
        | some value =>
            match s.feed value with
            | (some byte, s) => (decodeBase64From s cs).map (byte :: ·)
            | (none, s) => decodeBase64From s cs

def decodeBase64? (cs : List Char) : Option (List UInt8) :=
  decodeBase64From {} cs

end TableSync.Text
