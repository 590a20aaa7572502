import Mathlib.Data.List.Infix
import TableSync.Partition.Extractor
import TableSync.Proofs.Text.Escaping

/-!
# Decoded values

Decoding changes a value where an escape stands, a `%` with two hexadecimal digits behind it, and
nowhere else.  A character that belongs to no escape is kept, and what stands before it and what
stands after it are decoded on their own.  A value with escapes becomes shorter: the three
characters of an escape stand for one byte, and bytes never give more characters than there are
bytes.

Both facts are counted on the pieces that escapes and other characters are read as.  For the second
one an unfinished character counts as one more piece, since it may yet leave a replacement
character.
-/

namespace TableSync.Text

namespace Utf8

/-! ## How many characters bytes give -/

theorem length_feedStart (byte : UInt8) :
    (feedStart byte).1.length + (flush (feedStart byte).2).length = 1 := by
  unfold feedStart
  cases start byte <;> rfl

/-- A byte settles at most one character, or two where it ends an unfinished one. -/
theorem length_feed_le (state : Option Pending) (byte : UInt8) :
    (feed state byte).1.length + (flush (feed state byte).2).length ≤
      (flush state).length + 1 := by
  have hstart := length_feedStart byte
  cases state with
  | none => exact hstart.le
  | some p =>
      simp only [feed]
      split
      · split
        · simp [flush]
        · simp [flush]
      · have hpending : (flush (some p)).length = 1 := rfl
        simp only [List.length_cons]
        omega

/-! ## Where a character ends -/

/-- An unfinished character, if there is one, goes on with no ASCII byte. -/
def EndsAtAscii (state : Option Pending) : Prop :=
  ∀ p ∈ state, 0x80 ≤ p.low

theorem endsAtAscii_none : EndsAtAscii none := nofun

theorem low_of_start {byte : UInt8} {p : Pending} (h : start byte = .pending p) :
    0x80 ≤ p.low := by
  grind [start]

theorem endsAtAscii_feedStart (byte : UInt8) : EndsAtAscii (feedStart byte).2 := by
  intro p hp
  unfold feedStart at hp
  split at hp
  · cases hp
  · rename_i q hstart
    obtain rfl : q = p := Option.some.inj hp
    exact low_of_start hstart
  · cases hp

theorem endsAtAscii_feed (state : Option Pending) (byte : UInt8) :
    EndsAtAscii (feed state byte).2 := by
  cases state with
  | none => exact endsAtAscii_feedStart byte
  | some p =>
      simp only [feed]
      split
      · split
        · exact endsAtAscii_none
        · intro q hq
          rw [← Option.some.inj hq]
      · exact endsAtAscii_feedStart byte

/-- An ASCII byte is a character by itself, whatever was left unfinished before it. -/
theorem feed_ascii {state : Option Pending} (hstate : EndsAtAscii state) {byte : UInt8}
    (hbyte : byte.toNat < 0x80) :
    feed state byte = (flush state ++ [some (Char.ofNat byte.toNat)], none) := by
  cases state with
  | none => exact feedStart_ascii hbyte
  | some p =>
      have hlow : 0x80 ≤ p.low := hstate p rfl
      have hadmits : p.admits byte = false := by
        unfold Pending.admits
        have hbelow : ¬ p.low ≤ byte.toNat := by omega
        simp [hbelow]
      simp only [feed, hadmits, feedStart_ascii hbyte]
      rfl

end Utf8

namespace Percent

/-! ## Escapes -/

def isHexDigit (c : Char) : Bool :=
  ('0' ≤ c && c ≤ '9') || ('A' ≤ c && c ≤ 'F') || ('a' ≤ c && c ≤ 'f')

/-- A `%` with two hexadecimal digits behind it, and no more. -/
def isEscape : List Char → Bool
  | ['%', high, low] => isHexDigit high && isHexDigit low
  | _ => false

def escapeCount (cs : List Char) : Nat :=
  cs.tails.countP fun rest => isEscape (rest.take 3)

/-- A character stands in no escape of a text, for what is before it and what is after it. -/
def Kept (before : List Char) (c : Char) (after : List Char) : Prop :=
  ∀ inner inner', inner <:+ before → inner' <+: after → isEscape (inner ++ c :: inner') = false

theorem isEscape_iff {cs : List Char} :
    isEscape cs = true ↔
      ∃ high low, cs = ['%', high, low] ∧ isHexDigit high = true ∧ isHexDigit low = true := by
  constructor
  · intro h
    unfold isEscape at h
    split at h
    · exact ⟨_, _, rfl, Bool.and_eq_true_iff.mp h⟩
    · cases h
  · rintro ⟨high, low, rfl, hhigh, hlow⟩
    simp [isEscape, hhigh, hlow]

theorem ne_percent_of_isHexDigit {c : Char} (h : isHexDigit c = true) : c ≠ '%' := by
  rintro rfl
  cases h

theorem isEscape_of_ne_percent {c : Char} (h : c ≠ '%') (cs : List Char) :
    isEscape (c :: cs) = false := by
  rw [← Bool.not_eq_true, isEscape_iff]
  rintro ⟨high, low, hcs, -⟩
  exact h (List.cons.inj hcs).1

/-- A text begins with an escape or with a character that starts none, unless it is empty. -/
@[elab_as_elim]
theorem escape_induction {motive : List Char → Prop} (nil : motive [])
    (escape : ∀ high low cs, isHexDigit high = true → isHexDigit low = true → motive cs →
      motive ('%' :: high :: low :: cs))
    (other : ∀ c cs, isEscape ((c :: cs).take 3) = false → motive cs → motive (c :: cs))
    (cs : List Char) : motive cs := by
  induction h : cs.length using Nat.strong_induction_on generalizing cs with
  | _ n ih =>
      subst h
      cases cs with
      | nil => exact nil
      | cons c cs =>
          by_cases hescape : isEscape ((c :: cs).take 3) = true
          · obtain ⟨high, low, htake, hhigh, hlow⟩ := isEscape_iff.mp hescape
            obtain ⟨rest, hrest⟩ : ['%', high, low] <+: c :: cs := htake ▸ List.take_prefix 3 _
            rw [← hrest]
            refine escape high low rest hhigh hlow (ih _ ?_ rest rfl)
            rw [← hrest, List.length_append]
            exact Nat.lt_add_of_pos_left (Nat.succ_pos _)
          · exact other c cs (Bool.eq_false_iff.mpr hescape) (ih _ (Nat.lt_succ_self _) cs rfl)

theorem escapeCount_cons (c : Char) (cs : List Char) :
    escapeCount (c :: cs) = escapeCount cs + if isEscape ((c :: cs).take 3) then 1 else 0 := by
  unfold escapeCount
  rw [List.tails_cons, List.countP_cons]

theorem escapeCount_cons_of_not_escape {c : Char} {cs : List Char}
    (h : isEscape ((c :: cs).take 3) = false) : escapeCount (c :: cs) = escapeCount cs := by
  rw [escapeCount_cons, h]
  rfl

theorem escapeCount_cons_of_ne_percent {c : Char} (h : c ≠ '%') (cs : List Char) :
    escapeCount (c :: cs) = escapeCount cs :=
  escapeCount_cons_of_not_escape (isEscape_of_ne_percent h _)

/-- The digits of an escape start none. -/
theorem escapeCount_escape {high low : Char} (hhigh : isHexDigit high = true)
    (hlow : isHexDigit low = true) (cs : List Char) :
    escapeCount ('%' :: high :: low :: cs) = escapeCount cs + 1 := by
  have hescape : isEscape ['%', high, low] = true := isEscape_iff.mpr ⟨high, low, rfl, hhigh, hlow⟩
  rw [escapeCount_cons, escapeCount_cons_of_ne_percent (ne_percent_of_isHexDigit hhigh),
    escapeCount_cons_of_ne_percent (ne_percent_of_isHexDigit hlow)]
  simp [hescape]

theorem escapeCount_pos_iff {cs : List Char} :
    0 < escapeCount cs ↔ ∃ escape, isEscape escape = true ∧ escape <:+: cs := by
  unfold escapeCount
  simp only [List.countP_pos_iff, List.mem_tails]
  constructor
  · rintro ⟨rest, hrest, hescape⟩
    exact ⟨rest.take 3, hescape, (List.take_prefix 3 rest).isInfix.trans hrest.isInfix⟩
  · rintro ⟨escape, hescape, before, after, rfl⟩
    obtain ⟨high, low, rfl, -⟩ := isEscape_iff.mp hescape
    refine ⟨['%', high, low] ++ after, ?_, hescape⟩
    rw [List.append_assoc]
    exact List.suffix_append before _

/-! ## Reading pieces -/

theorem isHexDigit_iff_toNat {c : Char} :
    isHexDigit c = true ↔
      (0x30 ≤ c.toNat ∧ c.toNat ≤ 0x39 ∨ 0x41 ≤ c.toNat ∧ c.toNat ≤ 0x46) ∨
        0x61 ≤ c.toNat ∧ c.toNat ≤ 0x66 := by
  simp only [isHexDigit, Bool.or_eq_true, Bool.and_eq_true, decide_eq_true_eq, Char.le_def,
    UInt32.le_iff_toNat_le]
  rfl

theorem isSome_hexValue? (c : Char) : (hexValue? c).isSome = isHexDigit c := by
  rw [Bool.eq_iff_iff, isHexDigit_iff_toNat]
  unfold hexValue?
  dsimp only
  split_ifs
  all_goals
    simp only [Option.isSome_some, Option.isSome_none]
    grind

theorem isSome_escapedByte? (high low : Char) :
    (escapedByte? high low).isSome = (isHexDigit high && isHexDigit low) := by
  rw [← isSome_hexValue?, ← isSome_hexValue?]
  unfold escapedByte?
  cases hexValue? high <;> cases hexValue? low <;> rfl

theorem exists_pieces_escape {high low : Char} (hhigh : isHexDigit high = true)
    (hlow : isHexDigit low = true) :
    ∃ byte, ∀ cs, pieces ('%' :: high :: low :: cs) = .byte byte :: pieces cs := by
  have hsome : (escapedByte? high low).isSome = true := by
    rw [isSome_escapedByte?, hhigh, hlow]
    rfl
  obtain ⟨byte, hbyte⟩ := Option.isSome_iff_exists.mp hsome
  refine ⟨byte, fun cs => ?_⟩
  rw [pieces, hbyte]

theorem pieces_of_not_escape {c : Char} {cs : List Char}
    (h : isEscape ((c :: cs).take 3) = false) : pieces (c :: cs) = .ofChar c :: pieces cs := by
  by_cases hc : c = '%'
  · subst hc
    match cs, h with
    | [], _ => rfl
    | [_], _ => rfl
    | high :: low :: rest, h =>
        have hnone : escapedByte? high low = none := by
          rw [← Option.not_isSome_iff_eq_none, isSome_escapedByte?, Bool.not_eq_true]
          exact h
        rw [pieces, hnone]
  · exact pieces_of_ne_percent hc cs

theorem length_pieces (cs : List Char) : (pieces cs).length + 2 * escapeCount cs = cs.length := by
  induction cs using escape_induction with
  | nil => rfl
  | escape high low cs hhigh hlow ih =>
      obtain ⟨byte, hbyte⟩ := exists_pieces_escape hhigh hlow
      rw [hbyte, escapeCount_escape hhigh hlow]
      simp only [List.length_cons]
      omega
  | other c cs hother ih =>
      rw [pieces_of_not_escape hother, escapeCount_cons_of_not_escape hother]
      simp only [List.length_cons]
      omega

theorem pieces_of_escapeCount_eq_zero {cs : List Char} (h : escapeCount cs = 0) :
    pieces cs = cs.map .ofChar := by
  induction cs using escape_induction with
  | nil => rfl
  | escape high low cs hhigh hlow ih =>
      rw [escapeCount_escape hhigh hlow] at h
      cases h
  | other c cs hother ih =>
      rw [escapeCount_cons_of_not_escape hother] at h
      rw [pieces_of_not_escape hother, ih h, List.map_cons]

theorem Kept.of_suffix {before before' after : List Char} {c : Char} (h : Kept before c after)
    (hsuffix : before' <:+ before) : Kept before' c after :=
  fun inner inner' hinner => h inner inner' (hinner.trans hsuffix)

/-- A character that stands in no escape is a piece of its own.  An escape could reach it only from
one of the two places in front of it. -/
theorem pieces_append_cons {before after : List Char} {c : Char} (h : Kept before c after) :
    pieces (before ++ c :: after) = pieces before ++ .ofChar c :: pieces after := by
  induction before using escape_induction with
  | nil =>
      apply pieces_of_not_escape
      exact h [] (after.take 2) List.nil_suffix (List.take_prefix 2 after)
  | escape high low before hhigh hlow ih =>
      obtain ⟨byte, hbyte⟩ := exists_pieces_escape hhigh hlow
      have hsuffix : before <:+ '%' :: high :: low :: before :=
        List.suffix_append ['%', high, low] before
      rw [List.cons_append, List.cons_append, List.cons_append, hbyte, hbyte,
        ih (h.of_suffix hsuffix), List.cons_append]
  | other d before hother ih =>
      have hwhole : isEscape ((d :: (before ++ c :: after)).take 3) = false := by
        match before, h, hother with
        | [], h, _ => exact h [d] (after.take 1) (List.suffix_refl _) (List.take_prefix 1 after)
        | [e], h, _ => exact h [d, e] [] (List.suffix_refl _) List.nil_prefix
        | _ :: _ :: _, _, hother => exact hother
      rw [List.cons_append, pieces_of_not_escape hwhole, pieces_of_not_escape hother,
        ih (h.of_suffix (List.suffix_cons d before)), List.cons_append]

theorem kept_of_not_hexDigit {before after : List Char} {c : Char} (hc : isHexDigit c = false)
    (h : isEscape (c :: after.take 2) = false) : Kept before c after := by
  intro inner inner' _ hinner'
  rw [← Bool.not_eq_true, isEscape_iff]
  rintro ⟨high, low, hescape, hhigh, hlow⟩
  have hother {d : Char} (hd : isHexDigit d = true) : c ≠ d := by
    rintro rfl
    rw [hc] at hd
    cases hd
  match inner, hescape with
  | [], hescape =>
      obtain ⟨rfl, rfl⟩ := List.cons.inj hescape
      have htake : after.take 2 = [high, low] := (List.prefix_iff_eq_take.mp hinner').symm
      rw [htake] at h
      exact Bool.eq_false_iff.mp h (isEscape_iff.mpr ⟨high, low, rfl, hhigh, hlow⟩)
  | [_], hescape => exact hother hhigh (List.cons.inj (List.cons.inj hescape).2).1
  | [_, _], hescape =>
      exact hother hlow (List.cons.inj (List.cons.inj (List.cons.inj hescape).2).2).1
  | _ :: _ :: _ :: _, hescape =>
      have hlength := congrArg List.length hescape
      simp at hlength

/-! ## Putting characters together -/

theorem length_replaced (cs : List (Option Char)) : (Utf8.replaced cs).length = cs.length :=
  List.length_map _

theorem length_assemble_le (state : Option Utf8.Pending) (ps : List Piece) :
    (assemble state ps).length ≤ ps.length + (Utf8.flush state).length := by
  induction ps generalizing state with
  | nil => simp [assemble, length_replaced]
  | cons p ps ih =>
      cases p with
      | byte b =>
          have hfeed := Utf8.length_feed_le state b
          have hrest := ih (Utf8.feed state b).2
          simp only [assemble, List.length_append, length_replaced, List.length_cons]
          omega
      | literal c =>
          have hrest := ih none
          simp only [assemble, List.length_append, length_replaced, List.length_cons,
            Utf8.flush, List.length_nil] at hrest ⊢
          omega

/-- A character outside escapes separates what stands before it from what stands after it. -/
theorem assemble_append_cons {state : Option Utf8.Pending} (hstate : Utf8.EndsAtAscii state)
    (ps qs : List Piece) (c : Char) :
    assemble state (ps ++ .ofChar c :: qs) = assemble state ps ++ c :: assemble none qs := by
  unfold Piece.ofChar
  split
  · rename_i hascii
    have hbyte : (UInt8.ofNat c.toNat).toNat = c.toNat := Utf8.toNat_ofNat_of_lt (by omega)
    induction ps generalizing state with
    | nil =>
        simp [assemble, Utf8.feed_ascii hstate (hbyte ▸ hascii), hbyte, Utf8.replaced]
    | cons p ps ih =>
        cases p with
        | byte b => simp [assemble, ih (Utf8.endsAtAscii_feed state b)]
        | literal d => simp [assemble, ih Utf8.endsAtAscii_none]
  · exact assemble_literal state ps qs c

/-! ## Decoding -/

theorem length_decode_le (s : String) :
    (decode s).length + 2 * escapeCount s.toList ≤ s.length := by
  have hpieces := length_pieces s.toList
  have hdecode := length_assemble_le none (pieces s.toList)
  simp only [Utf8.flush, List.length_nil] at hdecode
  unfold decode
  rw [String.length_ofList, ← String.length_toList]
  omega

theorem decode_of_escapeCount_eq_zero {s : String} (h : escapeCount s.toList = 0) :
    decode s = s := by
  have hassemble (cs : List Char) : assemble none (cs.map .ofChar) = cs := by
    induction cs with
    | nil => rfl
    | cons c cs ih => rw [List.map_cons, assemble_ofChar, ih]
  unfold decode
  rw [pieces_of_escapeCount_eq_zero h, hassemble, String.ofList_toList]

theorem decode_eq_self_iff {s : String} :
    decode s = s ↔ ¬ ∃ escape, isEscape escape = true ∧ escape <:+: s.toList := by
  rw [← escapeCount_pos_iff]
  constructor
  · intro h hpos
    have hlength := length_decode_le s
    rw [h] at hlength
    omega
  · intro h
    exact decode_of_escapeCount_eq_zero (by omega)

theorem decode_push_append {before after : String} {c : Char}
    (h : Kept before.toList c after.toList) :
    decode (before.push c ++ after) = (decode before).push c ++ decode after := by
  apply String.toList_injective
  unfold decode
  simp [pieces_append_cons h, assemble_append_cons Utf8.endsAtAscii_none]

/-- The bytes of one character are never joined across another character. -/
theorem kept_of_not_ascii {before after : List Char} {c : Char} (h : 0x80 ≤ c.toNat) :
    Kept before c after := by
  have hdigit : isHexDigit c = false := by
    rw [← Bool.not_eq_true, isHexDigit_iff_toNat]
    omega
  have hpercent : c ≠ '%' := by
    rintro rfl
    exact absurd h (by decide)
  exact kept_of_not_hexDigit hdigit (isEscape_of_ne_percent hpercent _)

end Percent

end TableSync.Text

namespace TableSync.Partition

open TableSync.Text TableSync.Text.Percent

/-- A value stays what it is under decoding exactly if it holds no escape, and it becomes shorter by
at least two characters for each escape that it holds.  A character that belongs to no escape is
kept, and what stands on either side of it is decoded on its own.  Every character that is not ASCII
is of this kind, and so is every character that neither is a hexadecimal digit nor starts an escape,
such as `+` or the `%` of a broken escape. -/
theorem decoding_changes_escapes_only :
    (∀ v, decodeValue true v = v ↔
      ¬ ∃ escape, isEscape escape = true ∧ escape <:+: v.toList) ∧
    (∀ v, (decodeValue true v).length + 2 * escapeCount v.toList ≤ v.length) ∧
    (∀ (before after : String) (c : Char), 0x80 ≤ c.toNat →
      decodeValue true (before.push c ++ after) =
        (decodeValue true before).push c ++ decodeValue true after) ∧
    (∀ (before after : String) (c : Char), Kept before.toList c after.toList →
      decodeValue true (before.push c ++ after) =
        (decodeValue true before).push c ++ decodeValue true after) ∧
    ∀ (before after : List Char) (c : Char), isHexDigit c = false →
      isEscape (c :: after.take 2) = false → Kept before c after := by
  refine ⟨fun v => decode_eq_self_iff, length_decode_le, fun before after c hc => ?_,
    fun before after c hc => decode_push_append hc, fun before after c => kept_of_not_hexDigit⟩
  exact decode_push_append (kept_of_not_ascii hc)

/-- Bytes of a character on both sides of another one, a `%` with one digit, and one with none. -/
theorem decoding_keeps_broken_escapes :
    0x80 ≤ 'é'.toNat ∧ Kept "%A9".toList '%' "4+%zz".toList ∧
      decodeValue true "%C3é%A9%4+%zz" = "\uFFFDé\uFFFD%4+%zz" := by
  have hascii : 0x80 ≤ 'é'.toNat := by decide
  have hkept : Kept "%A9".toList '%' "4+%zz".toList :=
    decoding_changes_escapes_only.2.2.2.2 _ _ _ rfl (by decide)
  have hplain : decodeValue true "4+%zz" = "4+%zz" :=
    (decoding_changes_escapes_only.1 _).mpr (by rw [← escapeCount_pos_iff]; decide)
  have hlead : decodeValue true "%C3" = "\uFFFD" := by decide +kernel
  have hcontinued : decodeValue true "%A9" = "\uFFFD" := by decide +kernel
  refine ⟨hascii, hkept, ?_⟩
  calc
    decodeValue true "%C3é%A9%4+%zz" =
        (decodeValue true "%C3").push 'é' ++ decodeValue true "%A9%4+%zz" :=
      decoding_changes_escapes_only.2.2.1 "%C3" "%A9%4+%zz" 'é' hascii
    _ = (decodeValue true "%C3").push 'é' ++
          ((decodeValue true "%A9").push '%' ++ decodeValue true "4+%zz") :=
      congrArg _ (decoding_changes_escapes_only.2.2.2.1 "%A9" "4+%zz" '%' hkept)
    _ = "\uFFFDé\uFFFD%4+%zz" := by
      rw [hlead, hcontinued, hplain]
      decide +kernel

/-- A `%` before an escape starts none. -/
example : escapeCount "%%41%4".toList = 1 := by decide

end TableSync.Partition
