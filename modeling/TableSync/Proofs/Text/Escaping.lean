import TableSync.Text.Percent

/-!
# Escaped texts

A writer of partition paths may put a character down as it is or as the escapes of its UTF-8
bytes, and it may choose anew for every character.  Only `%` and `/` must be escaped.  Decoding
gives the text back whatever was chosen.

The proof goes character by character.  Between characters the decoder has no unfinished bytes,
whether the character before was literal or escaped, so what a written character decodes to does
not depend on what stands around it.
-/

namespace TableSync.Text

/-! ## The bytes of a character -/

namespace Utf8

theorem toNat_ofNat_of_lt {n : Nat} (h : n < 256) : (UInt8.ofNat n).toNat = n := by
  rw [UInt8.toNat_ofNat']
  exact Nat.mod_eq_of_lt h

theorem feedAll_of_start {byte : UInt8} {p : Pending} (h : start byte = .pending p)
    (bytes : List UInt8) : feedAll none (byte :: bytes) = feedAll (some p) bytes := by
  simp [feedAll, feed, feedStart, h]

section Following

variable {bits low high n : Nat}

theorem admits_following {missing : Nat} (hlow : low ≤ n % 64 + 128) (hhigh : n % 64 + 128 ≤ high) :
    Pending.admits ⟨bits, low, high, missing⟩ (UInt8.ofNat (n % 64 + 128)) = true := by
  unfold Pending.admits
  rw [toNat_ofNat_of_lt (by omega)]
  simp [hlow, hhigh]

theorem extended_following {missing : Nat} :
    Pending.extended ⟨bits, low, high, missing⟩ (UInt8.ofNat (n % 64 + 128)) =
      bits * 64 + n % 64 := by
  unfold Pending.extended
  rw [toNat_ofNat_of_lt (by omega)]
  simp

/-- The last byte of a character. -/
theorem feedAll_last (hlow : low ≤ n % 64 + 128) (hhigh : n % 64 + 128 ≤ high) :
    feedAll (some ⟨bits, low, high, 0⟩) [UInt8.ofNat (n % 64 + 128)] =
      ([some (Char.ofNat (bits * 64 + n % 64))], none) := by
  simp only [feedAll, feed, admits_following hlow hhigh, if_true, extended_following]
  rfl

/-- A byte of a character before the last one. -/
theorem feedAll_inner {more : Nat} (hlow : low ≤ n % 64 + 128) (hhigh : n % 64 + 128 ≤ high)
    (bytes : List UInt8) :
    feedAll (some ⟨bits, low, high, more + 1⟩) (UInt8.ofNat (n % 64 + 128) :: bytes) =
      feedAll (some ⟨bits * 64 + n % 64, 0x80, 0xBF, more⟩) bytes := by
  simp only [feedAll, feed, admits_following hlow hhigh, if_true, extended_following]
  rfl

end Following

/-- The first of two bytes. -/
theorem start_two {v : Nat} (hlow : 0x80 ≤ v) (hhigh : v ≤ 0x7FF) :
    start (UInt8.ofNat (v / 64 % 32 + 192)) = .pending ⟨v / 64, 0x80, 0xBF, 0⟩ := by
  have hbyte : (UInt8.ofNat (v / 64 % 32 + 192)).toNat = v / 64 + 192 := by
    rw [toNat_ofNat_of_lt (by omega)]
    omega
  unfold start
  simp only [hbyte]
  rw [if_neg (by omega), if_neg (by omega), if_pos (by omega)]
  simp

/-- The first of three bytes.  What it lets follow is wide enough for every character. -/
theorem start_three {v : Nat} (hlow : 0x800 ≤ v) (hhigh : v ≤ 0xFFFF)
    (hchar : v < 0xD800 ∨ 0xDFFF < v) :
    ∃ low high, start (UInt8.ofNat (v / 4096 % 16 + 224)) = .pending ⟨v / 4096, low, high, 1⟩ ∧
      low ≤ v / 64 % 64 + 128 ∧ v / 64 % 64 + 128 ≤ high := by
  have hbyte : (UInt8.ofNat (v / 4096 % 16 + 224)).toNat = v / 4096 + 224 := by
    rw [toNat_ofNat_of_lt (by omega)]
    omega
  unfold start
  simp only [hbyte]
  rw [if_neg (by omega), if_neg (by omega), if_neg (by omega)]
  by_cases hfirst : v / 4096 = 0
  · refine ⟨0xA0, 0xBF, ?_, by omega, by omega⟩
    rw [if_pos (by omega), hfirst]
  · rw [if_neg (by omega)]
    by_cases hsurrogate : v / 4096 = 0xD
    · refine ⟨0x80, 0x9F, ?_, by omega, by omega⟩
      rw [if_pos (by omega), hsurrogate]
    · refine ⟨0x80, 0xBF, ?_, by omega, by omega⟩
      rw [if_neg (by omega), if_pos (by omega)]
      simp

/-- The first of four bytes. -/
theorem start_four {v : Nat} (hlow : 0x10000 ≤ v) (hhigh : v < 0x110000) :
    ∃ low high, start (UInt8.ofNat (v / 262144 % 8 + 240)) = .pending ⟨v / 262144, low, high, 2⟩ ∧
      low ≤ v / 4096 % 64 + 128 ∧ v / 4096 % 64 + 128 ≤ high := by
  have hbyte : (UInt8.ofNat (v / 262144 % 8 + 240)).toNat = v / 262144 + 240 := by
    rw [toNat_ofNat_of_lt (by omega)]
    omega
  unfold start
  simp only [hbyte]
  rw [if_neg (by omega), if_neg (by omega), if_neg (by omega), if_neg (by omega),
    if_neg (by omega), if_neg (by omega)]
  by_cases hfirst : v / 262144 = 0
  · refine ⟨0x90, 0xBF, ?_, by omega, by omega⟩
    rw [if_pos (by omega), hfirst]
  · rw [if_neg (by omega)]
    by_cases hlast : v / 262144 = 4
    · refine ⟨0x80, 0x8F, ?_, by omega, by omega⟩
      rw [if_neg (by omega), if_pos (by omega), hlast]
    · refine ⟨0x80, 0xBF, ?_, by omega, by omega⟩
      rw [if_pos (by omega)]
      simp

/-- The bytes of a character are read back as the character, and none is left over. -/
theorem feedAll_utf8EncodeChar (c : Char) :
    feedAll none (String.utf8EncodeChar c) = ([some c], none) := by
  have hvalid : c.val.toNat < 0xD800 ∨ 0xDFFF < c.val.toNat ∧ c.val.toNat < 0x110000 := c.valid
  have hchar : Char.ofNat c.val.toNat = c := Char.ofNat_toNat c
  unfold String.utf8EncodeChar
  generalize c.val.toNat = v at hvalid hchar
  dsimp only
  by_cases hone : v ≤ 0x7F
  · rw [if_pos hone]
    have hbyte : (UInt8.ofNat v).toNat = v := toNat_ofNat_of_lt (by omega)
    have hascii : (UInt8.ofNat v).toNat < 0x80 := by omega
    simp only [feedAll, feed, feedStart_ascii hascii, hbyte, hchar]
    rfl
  · rw [if_neg hone]
    by_cases htwo : v ≤ 0x7FF
    · have hbits : v / 64 * 64 + v % 64 = v := by omega
      rw [if_pos htwo, feedAll_of_start (start_two (by omega) htwo),
        feedAll_last (by omega) (by omega), hbits, hchar]
    · rw [if_neg htwo]
      by_cases hthree : v ≤ 0xFFFF
      · obtain ⟨low, high, hstart, hlow, hhigh⟩ :=
          start_three (v := v) (by omega) hthree (by omega)
        have hbits : (v / 4096 * 64 + v / 64 % 64) * 64 + v % 64 = v := by omega
        rw [if_pos hthree, feedAll_of_start hstart, feedAll_inner hlow hhigh,
          feedAll_last (by omega) (by omega), hbits, hchar]
      · obtain ⟨low, high, hstart, hlow, hhigh⟩ := start_four (v := v) (by omega) (by omega)
        have hbits :
            ((v / 262144 * 64 + v / 4096 % 64) * 64 + v / 64 % 64) * 64 + v % 64 = v := by omega
        rw [if_neg hthree, feedAll_of_start hstart, feedAll_inner hlow hhigh,
          feedAll_inner (by omega) (by omega), feedAll_last (by omega) (by omega), hbits, hchar]

end Utf8

/-! ## Writing with escapes -/

namespace Percent

/-- The digit of a value below sixteen, an upper-case one if it is a letter and that is asked. -/
def digit (upper : Bool) (n : Nat) : Char :=
  if upper then (hexDigit n).toUpper else hexDigit n

/-- The escape of a byte, with the case of either digit. -/
def escape (upperHigh upperLow : Bool) (byte : UInt8) : List Char :=
  ['%', digit upperHigh (byte.toNat / 16), digit upperLow (byte.toNat % 16)]

/-- Bytes written as escapes, each in whatever case. -/
inductive EscapedBytes : List UInt8 → List Char → Prop
  | nil : EscapedBytes [] []
  | cons {bytes : List UInt8} {written : List Char} (upperHigh upperLow : Bool) (byte : UInt8)
      (rest : EscapedBytes bytes written) :
      EscapedBytes (byte :: bytes) (escape upperHigh upperLow byte ++ written)

/-- A character written as itself, unless it is `%` or `/`, or as the escapes of its bytes. -/
inductive WrittenChar (c : Char) : List Char → Prop
  | literal (percent : c ≠ '%') (slash : c ≠ '/') : WrittenChar c [c]
  | escaped {written : List Char} (bytes : EscapedBytes (String.utf8EncodeChar c) written) :
      WrittenChar c written

/-- A text written character by character. -/
inductive Escaping : List Char → List Char → Prop
  | nil : Escaping [] []
  | cons {c : Char} {cs first rest : List Char} (head : WrittenChar c first)
      (tail : Escaping cs rest) : Escaping (c :: cs) (first ++ rest)

/-! ### What is written holds no slash, and it is empty only for the empty text -/

theorem digit_facts (upper : Bool) {n : Nat} (h : n < 16) :
    hexValue? (digit upper n) = some n ∧ digit upper n ≠ '/' := by
  have hall : ∀ (upper : Bool) (m : Fin 16),
      hexValue? (digit upper m.val) = some m.val ∧ digit upper m.val ≠ '/' := by
    decide
  exact hall upper ⟨n, h⟩

theorem slash_not_mem_escape (upperHigh upperLow : Bool) (byte : UInt8) :
    '/' ∉ escape upperHigh upperLow byte := by
  have hbyte : byte.toNat < 256 := byte.toNat_lt
  have hhigh := (digit_facts upperHigh (n := byte.toNat / 16) (by omega)).2
  have hlow := (digit_facts upperLow (n := byte.toNat % 16) (by omega)).2
  simp [escape, hhigh.symm, hlow.symm]

theorem EscapedBytes.slash_not_mem {bytes : List UInt8} {written : List Char}
    (h : EscapedBytes bytes written) : '/' ∉ written := by
  induction h with
  | nil => simp
  | cons upperHigh upperLow byte rest ih =>
      rw [List.mem_append, not_or]
      exact ⟨slash_not_mem_escape upperHigh upperLow byte, ih⟩

theorem EscapedBytes.ne_nil {bytes : List UInt8} {written : List Char}
    (h : EscapedBytes bytes written) (hbytes : bytes ≠ []) : written ≠ [] := by
  cases h with
  | nil => exact absurd rfl hbytes
  | cons upperHigh upperLow byte rest => simp [escape]

theorem utf8EncodeChar_ne_nil (c : Char) : String.utf8EncodeChar c ≠ [] := by
  intro h
  have hread := Utf8.feedAll_utf8EncodeChar c
  rw [h] at hread
  cases hread

theorem WrittenChar.slash_not_mem {c : Char} {written : List Char} (h : WrittenChar c written) :
    '/' ∉ written := by
  cases h with
  | literal percent slash => simpa using slash.symm
  | escaped bytes => exact bytes.slash_not_mem

theorem WrittenChar.ne_nil {c : Char} {written : List Char} (h : WrittenChar c written) :
    written ≠ [] := by
  cases h with
  | literal percent slash => simp
  | escaped bytes => exact bytes.ne_nil (utf8EncodeChar_ne_nil c)

theorem Escaping.slash_not_mem {text written : List Char} (h : Escaping text written) :
    '/' ∉ written := by
  induction h with
  | nil => simp
  | cons head tail ih =>
      rw [List.mem_append, not_or]
      exact ⟨head.slash_not_mem, ih⟩

theorem Escaping.ne_nil {text written : List Char} (h : Escaping text written)
    (htext : text ≠ []) : written ≠ [] := by
  cases h with
  | nil => exact absurd rfl htext
  | cons head tail => simp [head.ne_nil]

/-! ### Decoding -/

theorem escapedByte?_digit (upperHigh upperLow : Bool) (byte : UInt8) :
    escapedByte? (digit upperHigh (byte.toNat / 16)) (digit upperLow (byte.toNat % 16)) =
      some byte := by
  have hbyte : byte.toNat < 256 := byte.toNat_lt
  have hhigh := (digit_facts upperHigh (n := byte.toNat / 16) (by omega)).1
  have hlow := (digit_facts upperLow (n := byte.toNat % 16) (by omega)).1
  have hsum : byte.toNat / 16 * 16 + byte.toNat % 16 = byte.toNat := by omega
  simp [escapedByte?, hhigh, hlow, hsum]

theorem pieces_escape (upperHigh upperLow : Bool) (byte : UInt8) (cs : List Char) :
    pieces (escape upperHigh upperLow byte ++ cs) = .byte byte :: pieces cs := by
  simp [escape, pieces, escapedByte?_digit]

theorem pieces_escapedBytes {bytes : List UInt8} {written : List Char}
    (h : EscapedBytes bytes written) (cs : List Char) :
    pieces (written ++ cs) = bytes.map .byte ++ pieces cs := by
  induction h with
  | nil => rfl
  | cons upperHigh upperLow byte rest ih =>
      rw [List.append_assoc, pieces_escape, ih]
      rfl

theorem pieces_of_ne_percent {c : Char} (h : c ≠ '%') (cs : List Char) :
    pieces (c :: cs) = .ofChar c :: pieces cs := by
  rw [pieces]
  simp [h]

theorem assemble_bytes (state : Option Utf8.Pending) (bytes : List UInt8) (ps : List Piece) :
    assemble state (bytes.map .byte ++ ps) =
      Utf8.replaced (Utf8.feedAll state bytes).1 ++ assemble (Utf8.feedAll state bytes).2 ps := by
  induction bytes generalizing state with
  | nil => rfl
  | cons byte bytes ih => simp [assemble, Utf8.feedAll, Utf8.replaced_append, ih]

theorem assemble_ofChar (c : Char) (ps : List Piece) :
    assemble none (.ofChar c :: ps) = c :: assemble none ps := by
  unfold Piece.ofChar
  split
  · rename_i hascii
    have hbyte : (UInt8.ofNat c.toNat).toNat = c.toNat := Utf8.toNat_ofNat_of_lt (by omega)
    have hfeed : Utf8.feedStart (UInt8.ofNat c.toNat) = ([some c], none) := by
      rw [Utf8.feedStart_ascii (by omega), hbyte, Char.ofNat_toNat]
    simp [assemble, Utf8.feed, hfeed, Utf8.replaced]
  · simp [assemble, Utf8.flush, Utf8.replaced]

/-- A written character is read back, and what follows it is read on its own. -/
theorem assemble_writtenChar {c : Char} {written : List Char} (h : WrittenChar c written)
    (cs : List Char) :
    assemble none (pieces (written ++ cs)) = c :: assemble none (pieces cs) := by
  cases h with
  | literal percent slash =>
      rw [List.singleton_append, pieces_of_ne_percent percent, assemble_ofChar]
  | escaped bytes =>
      rw [pieces_escapedBytes bytes, assemble_bytes, Utf8.feedAll_utf8EncodeChar]
      rfl

theorem assemble_escaping {text written : List Char} (h : Escaping text written) :
    assemble none (pieces written) = text := by
  induction h with
  | nil => rfl
  | cons head tail ih => rw [assemble_writtenChar head, ih]

/-- Decoding gives the text back, whichever characters were escaped. -/
theorem decode_of_escaping {text written : String} (h : Escaping text.toList written.toList) :
    decode written = text := by
  unfold decode
  rw [assemble_escaping h, String.ofList_toList]

end Percent

end TableSync.Text
