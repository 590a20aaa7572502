import Mathlib.Data.List.Forall2
import TableSync.Proofs.Text.Pieces
import TableSync.Text.LowerCase

/-!
# Words in letters of either case

A word of small ASCII letters is the lower case of a text if the text writes it letter by letter,
each of them small or capital.  Capitals from beyond ASCII do not matter: their lower case lies
beyond ASCII too, except that the Kelvin sign becomes a `k`.  Nor do the two characters whose lower
case depends on more than themselves.
-/

namespace TableSync.Text

/-! ## Letters -/

/-- A small letter that only itself and its own capital have as their lower case. -/
def IsPlainLetter (c : Char) : Prop :=
  c.isLower = true ∧ c ≠ 'k'

instance (c : Char) : Decidable (IsPlainLetter c) :=
  inferInstanceAs (Decidable (_ ∧ _))

/-- A code point writes a letter, small or capital. -/
def IsCaseOf (p : CodePoint) (c : Char) : Prop :=
  p = .char c ∨ p = .char c.toUpper

theorem capitalRanges_eq_cons : capitalRanges = ⟨0x41, 0x5A, 1, 32⟩ :: capitalRanges.tail :=
  rfl

/-- Only the first range is one of ASCII capitals.  Those of the others stay beyond ASCII in lower
case, except for the Kelvin sign. -/
theorem beyond_ascii_of_mem_tail : ∀ r ∈ capitalRanges.tail, 128 ≤ r.first ∧
    (r.first = 0x212A ∧ r.last = 0x212A ∨ 128 ≤ r.first + r.shift ∧
      (r.last + r.shift < 0xD800 ∨ 0xDFFF < r.first + r.shift ∧ r.last + r.shift < 0x110000)) := by
  decide +kernel

theorem toNat_ofNat_of_isValidChar {n : Nat} (h : n.isValidChar) : (Char.ofNat n).toNat = n := by
  rw [Char.ofNat, dif_pos h]
  rfl

theorem toNat_lowerChar_of_ascii {c : Char} (hc : c.toNat < 128) :
    (lowerChar c).toNat = if 0x41 ≤ c.toNat ∧ c.toNat ≤ 0x5A then c.toNat + 32 else c.toNat := by
  unfold lowerChar
  dsimp only
  rw [capitalRanges_eq_cons, List.find?_cons]
  by_cases hcapital : 0x41 ≤ c.toNat ∧ c.toNat ≤ 0x5A
  · have hvalid : (c.toNat + 32).isValidChar := Or.inl (by omega)
    have hnumber : ((c.toNat : Int) + 32).toNat = c.toNat + 32 := by omega
    simp [hcapital, Nat.mod_one, hnumber, toNat_ofNat_of_isValidChar hvalid]
  · have hfirst : ((0x41 ≤ c.toNat && c.toNat ≤ 0x5A) && (c.toNat - 0x41) % 1 = 0) = false := by
      simpa [Nat.mod_one] using hcapital
    have hrest : capitalRanges.tail.find? (fun r =>
        r.first ≤ c.toNat && c.toNat ≤ r.last && (c.toNat - r.first) % r.step = 0) = none := by
      rw [List.find?_eq_none]
      intro r hr
      have hbeyond := (beyond_ascii_of_mem_tail r hr).1
      have hbelow : ¬ r.first ≤ c.toNat := by omega
      simp [hbelow]
    rw [hfirst, hrest, if_neg hcapital]

theorem beyond_ascii_lowerChar {c : Char} (hc : 128 ≤ c.toNat) (hkelvin : c.toNat ≠ 0x212A) :
    128 ≤ (lowerChar c).toNat := by
  unfold lowerChar
  dsimp only
  split
  · rename_i r hfind
    have hrange := List.find?_some hfind
    simp only [Bool.and_eq_true, decide_eq_true_eq] at hrange
    obtain ⟨⟨hfirst, hlast⟩, -⟩ := hrange
    have hmem : r ∈ capitalRanges.tail := by
      rcases List.mem_cons.mp (List.mem_of_find?_eq_some hfind) with rfl | hmem
      · have hascii : c.toNat ≤ 0x5A := hlast
        omega
      · exact hmem
    rcases (beyond_ascii_of_mem_tail r hmem).2 with ⟨hlow, hhigh⟩ | ⟨hlow, hvalid⟩
    · omega
    · have hchar : ((c.toNat : Int) + r.shift).toNat.isValidChar := by
        unfold Nat.isValidChar
        omega
      rw [toNat_ofNat_of_isValidChar hchar]
      omega
  · exact hc

theorem IsPlainLetter.between {c : Char} (h : IsPlainLetter c) :
    'a'.val ≤ c.val ∧ c.val ≤ 'z'.val := by
  have hbounds : (decide ('a'.val ≤ c.val) && decide (c.val ≤ 'z'.val)) = true := h.1
  rwa [Bool.and_eq_true, decide_eq_true_eq, decide_eq_true_eq] at hbounds

theorem IsPlainLetter.toNat {c : Char} (h : IsPlainLetter c) : 97 ≤ c.toNat ∧ c.toNat ≤ 122 :=
  ⟨UInt32.le_iff_toNat_le.mp h.between.1, UInt32.le_iff_toNat_le.mp h.between.2⟩

theorem IsPlainLetter.toNat_toUpper {c : Char} (h : IsPlainLetter c) :
    c.toUpper.toNat = c.toNat - 32 := by
  have hbounds : 97 ≤ c.val.toNat ∧ c.val.toNat ≤ 122 := h.toNat
  have hstep : ('A'.val - 'a'.val).toNat = 2 ^ 32 - 32 := rfl
  unfold Char.toUpper
  rw [dif_pos h.between]
  show (c.val + ('A'.val - 'a'.val)).toNat = c.val.toNat - 32
  rw [UInt32.toNat_add, hstep]
  omega

theorem lowerChar_eq_iff {c d : Char} (hd : IsPlainLetter d) :
    lowerChar c = d ↔ c = d ∨ c = d.toUpper := by
  obtain ⟨hlow, hhigh⟩ := hd.toNat
  by_cases hkelvin : c = '\u212A'
  · subst hkelvin
    have hother : lowerChar '\u212A' = 'k' := by decide +kernel
    simp only [hother, ← Char.toNat_inj, hd.toNat_toUpper]
    have hk : 'k'.toNat ≠ d.toNat := fun h => hd.2 (Char.toNat_inj.mp h).symm
    have hsign : '\u212A'.toNat = 0x212A := rfl
    omega
  · simp only [← Char.toNat_inj, hd.toNat_toUpper] at hkelvin ⊢
    by_cases hc : c.toNat < 128
    · rw [toNat_lowerChar_of_ascii hc]
      split <;> omega
    · have hbeyond := beyond_ascii_lowerChar (Nat.le_of_not_lt hc) hkelvin
      omega

theorem mapChar_lowerChar_eq_iff {p : CodePoint} {c : Char} (hc : IsPlainLetter c) :
    p.mapChar lowerChar = .char c ↔ IsCaseOf p c := by
  unfold IsCaseOf
  cases p with
  | char d => simpa [CodePoint.mapChar] using lowerChar_eq_iff hc
  | surrogate index => simp [CodePoint.mapChar]

/-! ## Words -/

theorem lowerPoint_of_isCaseOf {p : CodePoint} {c : Char} (hc : IsPlainLetter c)
    (h : IsCaseOf p c) (before behind : Text) : lowerPoint before p behind = [.char c] := by
  have hascii {d : Char} (hp : p = .char d) : d.toNat < 128 := by
    have hbounds := hc.toNat
    rcases h with rfl | rfl
    · rw [← CodePoint.char.inj hp]
      omega
    · rw [← CodePoint.char.inj hp, hc.toNat_toUpper]
      omega
  have hdotted : p ≠ .char '\u0130' := fun hp => absurd (hascii hp) (by decide)
  have hsigma : p ≠ .char '\u03A3' := fun hp => absurd (hascii hp) (by decide)
  unfold lowerPoint
  rw [if_neg hdotted, decide_eq_false hsigma, Bool.false_and, Bool.false_and,
    if_neg Bool.false_ne_true, (mapChar_lowerChar_eq_iff hc).mpr h]

theorem isCaseOf_of_lowerPoint {before behind rest word : Text} {p : CodePoint} {c : Char}
    (hc : IsPlainLetter c) (hword : ∀ d, .char d ∈ word → IsPlainLetter d)
    (h : lowerPoint before p behind ++ rest = .char c :: word) : IsCaseOf p c ∧ rest = word := by
  unfold lowerPoint at h
  split at h
  · obtain ⟨-, hrest⟩ := List.cons.inj h
    exact absurd (hword '\u0307' (by simp [← hrest])) (by decide)
  · split at h
    · obtain ⟨hfirst, -⟩ := List.cons.inj h
      rw [← CodePoint.char.inj hfirst] at hc
      exact absurd hc (by decide)
    · obtain ⟨hfirst, hrest⟩ := List.cons.inj h
      exact ⟨(mapChar_lowerChar_eq_iff hc).mp hfirst, hrest⟩

theorem lowerBehind_eq_iff {before text : Text} {word : List Char}
    (hword : ∀ c ∈ word, IsPlainLetter c) :
    lowerBehind before text = Text.ofChars word ↔ List.Forall₂ IsCaseOf text word := by
  induction text generalizing before word with
  | nil =>
      cases word with
      | nil => simp [lowerBehind, ofChars]
      | cons c word => simp [lowerBehind, ofChars]
  | cons p text ih =>
      cases word with
      | nil =>
          have hsome : lowerPoint before p text ≠ [] := by
            unfold lowerPoint
            split_ifs <;> simp
          simp [lowerBehind, ofChars, hsome]
      | cons c word =>
          obtain ⟨hc, hrest⟩ := List.forall_mem_cons.mp hword
          rw [List.forall₂_cons, ← ih hrest, lowerBehind]
          constructor
          · intro h
            exact isCaseOf_of_lowerPoint hc (by simpa [ofChars] using hrest) h
          · rintro ⟨hp, htext⟩
            rw [lowerPoint_of_isCaseOf hc hp, htext]
            rfl

/-- A text spells a word: it has its letters, each small or capital, and blanks around them or
none. -/
def SpellsWord (word : String) (text : Text) : Prop :=
  ∃ front letters back : Text, text = front ++ letters ++ back ∧
    (∀ p ∈ front ++ back, isBlankPoint p = true) ∧ List.Forall₂ IsCaseOf letters word.toList

theorem notBlank_of_isCaseOf {p : CodePoint} {c : Char} (hc : IsPlainLetter c)
    (h : IsCaseOf p c) : isBlankPoint p = false := by
  have hall : ∀ n : Fin 128, IsPlainLetter (Char.ofNat n) →
      isBlank (Char.ofNat n) = false ∧ isBlank (Char.ofNat n).toUpper = false := by
    decide +kernel
  obtain ⟨hsmall, hcapital⟩ : isBlank c = false ∧ isBlank c.toUpper = false := by
    simpa [hc] using hall ⟨c.toNat, Nat.lt_of_le_of_lt hc.toNat.2 (by decide)⟩
  rcases h with rfl | rfl
  · exact hsmall
  · exact hcapital

theorem notBlank_of_forall₂ {letters : Text} {word : List Char}
    (hword : ∀ c ∈ word, IsPlainLetter c) (h : List.Forall₂ IsCaseOf letters word) :
    ∀ p ∈ letters, isBlankPoint p = false := by
  induction h with
  | nil => exact nofun
  | cons hp _ ih =>
      rw [List.forall_mem_cons] at hword ⊢
      exact ⟨notBlank_of_isCaseOf hword.1 hp, ih hword.2⟩

/-- What is left of a text in lower case and without blanks around it is a word if the text spells
the word. -/
theorem lowerCase_strip_eq_iff {word : String} (hword : ∀ c ∈ word.toList, IsPlainLetter c)
    {text : Text} : lowerCase (strip text) = word ↔ SpellsWord word text := by
  have hlower (letters : Text) :
      lowerCase letters = word ↔ List.Forall₂ IsCaseOf letters word.toList :=
    lowerBehind_eq_iff hword
  rw [hlower]
  constructor
  · intro hletters
    obtain ⟨front, back, htext, hfront, hback⟩ := exists_trimEnds isBlankPoint text
    refine ⟨front, strip text, back, htext, fun p hp => ?_, hletters⟩
    exact (List.mem_append.mp hp).elim (hfront p) (hback p)
  · rintro ⟨front, letters, back, rfl, hblank, hletters⟩
    obtain ⟨hfront, hback⟩ := List.forall_mem_append.mp hblank
    have hkept := notBlank_of_forall₂ hword hletters
    have hstrip : strip (front ++ letters ++ back) = letters := by
      apply trimEnds_append_append hfront hback
      · exact fun p hp => hkept p (List.mem_of_head? hp)
      · exact fun p hp => hkept p (List.mem_of_getLast? hp)
    rwa [hstrip]

end TableSync.Text
