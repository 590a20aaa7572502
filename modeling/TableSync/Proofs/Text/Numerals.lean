import Mathlib.Data.List.Basic
import Mathlib.Tactic.Linarith
import TableSync.Text.Digit
import TableSync.Text.Integer

/-!
# Decimal numerals

A numeral is read as the number that it writes, with or without zeros in front.  Numerals of one
length are in the order of their numbers; numerals of several lengths are not, as `999` stands
behind `1000`.  Texts that begin with a numeral and a mark below all digits are in the order of the
numerals first.
-/

namespace TableSync.Text

/-! ## Numbers from digits -/

theorem isAsciiDigit_iff {c : Char} : isAsciiDigit c = true ↔ '0' ≤ c ∧ c ≤ '9' := by
  simp [isAsciiDigit]

theorem isAsciiDigit_iff_toNat {c : Char} :
    isAsciiDigit c = true ↔ 48 ≤ c.toNat ∧ c.toNat ≤ 57 := by
  simp only [isAsciiDigit_iff, Char.le_def, UInt32.le_iff_toNat_le]
  rfl

theorem decimalValue_eq_ofDigitChars (cs : List Char) :
    decimalValue cs = Nat.ofDigitChars 10 cs 0 := by
  unfold decimalValue ofDigits
  rw [Nat.ofDigitChars_eq_foldl, List.foldl_map]
  simp only [Nat.mul_comm]

theorem decimalValue_cons (c : Char) (cs : List Char) :
    decimalValue (c :: cs) = 10 ^ cs.length * (c.toNat - '0'.toNat) + decimalValue cs := by
  rw [decimalValue_eq_ofDigitChars, decimalValue_eq_ofDigitChars, Nat.ofDigitChars_cons,
    Nat.ofDigitChars_eq_ofDigitChars_zero, Nat.mul_zero, Nat.zero_add]

theorem decimalValue_toDigits (n : Nat) : decimalValue (Nat.toDigits 10 n) = n := by
  rw [decimalValue_eq_ofDigitChars]
  exact Nat.ofDigitChars_ten_toDigits

theorem all_isAsciiDigit_toDigits (n : Nat) : (Nat.toDigits 10 n).all isAsciiDigit = true := by
  rw [List.all_eq_true]
  intro c hc
  have hdigit := Nat.isDigit_of_mem_toDigits (by decide) (by decide) hc
  simpa [isAsciiDigit, Char.isDigit, Char.le_def] using hdigit

theorem decimalValue_lt {cs : List Char} (h : cs.all isAsciiDigit = true) :
    decimalValue cs < 10 ^ cs.length := by
  induction cs with
  | nil => decide
  | cons c cs ih =>
      rw [List.all_cons, Bool.and_eq_true] at h
      have hdigit := isAsciiDigit_iff_toNat.mp h.1
      have hrest := ih h.2
      have hfirst : c.toNat - '0'.toNat ≤ 9 := by
        show c.toNat - 48 ≤ 9
        omega
      rw [decimalValue_cons, List.length_cons, Nat.pow_succ]
      nlinarith

theorem weighted_lt_iff {weight a b v w : Nat} (hv : v < weight) (hw : w < weight) :
    weight * a + v < weight * b + w ↔ a < b ∨ a = b ∧ v < w := by
  rcases Nat.lt_trichotomy a b with hlt | rfl | hgt
  · have hnext : weight * (a + 1) ≤ weight * b := Nat.mul_le_mul_left _ hlt
    rw [Nat.mul_succ] at hnext
    constructor
    · intro _
      exact .inl hlt
    · intro _
      omega
  · simp
  · have hnext : weight * (b + 1) ≤ weight * a := Nat.mul_le_mul_left _ hgt
    rw [Nat.mul_succ] at hnext
    constructor
    · intro h
      omega
    · rintro (h | ⟨rfl, -⟩)
      · omega
      · omega

/-- Numerals of one length are in the order of their numbers. -/
theorem lt_iff_decimalValue_lt {cs ds : List Char} (hcs : cs.all isAsciiDigit = true)
    (hds : ds.all isAsciiDigit = true) (hlength : cs.length = ds.length) :
    cs < ds ↔ decimalValue cs < decimalValue ds := by
  induction cs generalizing ds with
  | nil =>
      obtain rfl : ds = [] := List.eq_nil_of_length_eq_zero hlength.symm
      simp
  | cons c cs ih =>
      cases ds with
      | nil => cases hlength
      | cons d ds =>
          rw [List.all_cons, Bool.and_eq_true] at hcs hds
          have hlength : cs.length = ds.length := Nat.succ.inj hlength
          have hvalue := decimalValue_lt hcs.2
          have hother := decimalValue_lt hds.2
          rw [← hlength] at hother
          have hc := isAsciiDigit_iff_toNat.mp hcs.1
          have hd := isAsciiDigit_iff_toNat.mp hds.1
          have hlt : c < d ↔ c.toNat - '0'.toNat < d.toNat - '0'.toNat := by
            rw [Char.lt_def, UInt32.lt_iff_toNat_lt]
            show c.toNat < d.toNat ↔ c.toNat - 48 < d.toNat - 48
            omega
          have heq : c = d ↔ c.toNat - '0'.toNat = d.toNat - '0'.toNat := by
            rw [← Char.toNat_inj]
            show c.toNat = d.toNat ↔ c.toNat - 48 = d.toNat - 48
            omega
          rw [List.cons_lt_cons_iff, decimalValue_cons, decimalValue_cons, ← hlength,
            weighted_lt_iff hvalue hother, ih hcs.2 hds.2 hlength, hlt, heq]

/-! ## Numerals of a width -/

section Padding

variable (width n : Nat)

theorem toList_padded :
    (padded width n).toList =
      List.replicate (width - (Nat.toDigits 10 n).length) '0' ++ Nat.toDigits 10 n :=
  String.toList_ofList

theorem all_isAsciiDigit_padded : (padded width n).toList.all isAsciiDigit = true := by
  rw [toList_padded, List.all_append, Bool.and_eq_true]
  constructor
  · rw [List.all_eq_true]
    intro c hc
    rw [List.eq_of_mem_replicate hc]
    rfl
  · exact all_isAsciiDigit_toDigits n

theorem isAsciiDigit_of_mem_padded {c : Char} (h : c ∈ (padded width n).toList) :
    isAsciiDigit c = true :=
  List.all_eq_true.mp (all_isAsciiDigit_padded width n) c h

theorem decimalValue_padded : decimalValue (padded width n).toList = n := by
  rw [toList_padded, decimalValue_eq_ofDigitChars, Nat.ofDigitChars_append,
    Nat.ofDigitChars_replicate_zero, Nat.mul_zero, Nat.ofDigitChars_ten_toDigits]

theorem padded_inj {m n : Nat} : padded width m = padded width n ↔ m = n := by
  constructor
  · intro h
    have hvalue := congrArg (fun text : String => decimalValue text.toList) h
    simpa only [decimalValue_padded] using hvalue
  · rintro rfl
    rfl

theorem length_padded :
    (padded width n).toList.length = max width (Nat.toDigits 10 n).length := by
  rw [toList_padded, List.length_append, List.length_replicate]
  omega

variable {width n}

theorem length_padded_of_lt (hwidth : 0 < width) (h : n < 10 ^ width) :
    (padded width n).toList.length = width := by
  have hdigits := (Nat.length_toDigits_le_iff (by decide) hwidth).mpr h
  rw [length_padded]
  omega

theorem padded_lt_padded_iff {m : Nat} (hwidth : 0 < width) (hm : m < 10 ^ width)
    (hn : n < 10 ^ width) : padded width m < padded width n ↔ m < n := by
  have hlength : (padded width m).toList.length = (padded width n).toList.length := by
    rw [length_padded_of_lt hwidth hm, length_padded_of_lt hwidth hn]
  rw [String.lt_iff, lt_iff_decimalValue_lt (all_isAsciiDigit_padded _ _)
    (all_isAsciiDigit_padded _ _) hlength, decimalValue_padded, decimalValue_padded]

end Padding

/-! ## Numerals as short as can be -/

theorem padded_one (n : Nat) : padded 1 n = decimal n := by
  have hpositive := Nat.length_toDigits_pos (b := 10) (n := n)
  apply String.toList_injective
  rw [toList_padded, decimal, String.toList_ofList, Nat.sub_eq_zero_of_le hpositive]
  rfl

theorem length_decimal_le_iff {n k : Nat} (hk : 0 < k) : (decimal n).length ≤ k ↔ n < 10 ^ k := by
  rw [decimal, String.length_ofList]
  exact Nat.length_toDigits_le_iff (by decide) hk

theorem decimal_lt_decimal_iff {m n : Nat} (h : (decimal m).length = (decimal n).length) :
    decimal m < decimal n ↔ m < n := by
  rw [decimal, decimal, String.length_ofList, String.length_ofList] at h
  rw [String.lt_iff, decimal, decimal, String.toList_ofList, String.toList_ofList,
    lt_iff_decimalValue_lt (all_isAsciiDigit_toDigits m) (all_isAsciiDigit_toDigits n) h,
    decimalValue_toDigits, decimalValue_toDigits]

/-! ## Numerals in front of a mark -/

/-- Texts with a mark below all that stands before it are in the order of what stands before the
mark, and then of what stands behind it. -/
theorem append_mark_lt_iff {mark : Char} {cs ds : List Char} (hcs : ∀ c ∈ cs, mark < c)
    (hds : ∀ d ∈ ds, mark < d) (rest others : List Char) :
    cs ++ mark :: rest < ds ++ mark :: others ↔ cs < ds ∨ cs = ds ∧ rest < others := by
  induction cs generalizing ds with
  | nil =>
      cases ds with
      | nil => simp
      | cons d ds =>
          have hd := hds d (List.mem_cons_self ..)
          rw [List.nil_append, List.cons_append, List.cons_lt_cons_iff]
          simp [hd]
  | cons c cs ih =>
      have hc := hcs c (List.mem_cons_self ..)
      cases ds with
      | nil =>
          have hbelow : ¬ c < mark := Char.lt_asymm hc
          have hother : c ≠ mark := (Char.ne_of_lt hc).symm
          rw [List.nil_append, List.cons_append, List.cons_lt_cons_iff]
          simp only [hbelow, hother, List.not_lt_nil, false_and, or_self, reduceCtorEq]
      | cons d ds =>
          have hrest := ih (fun c hc => hcs c (List.mem_cons_of_mem _ hc))
            fun d hd => hds d (List.mem_cons_of_mem _ hd)
          simp only [List.cons_append, List.cons_lt_cons_iff, hrest, List.cons.injEq]
          tauto

end TableSync.Text
