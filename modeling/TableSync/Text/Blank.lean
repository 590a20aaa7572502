import TableSync.Text.CodePoint

/-!
# Blank characters

The characters that count as blank when a value is trimmed: the ASCII blanks and information
separators, next line, no-break space, and the space, line and paragraph separators of the
other scripts.  Trimming removes them from both ends of a text and nowhere else.
-/

namespace TableSync.Text

/-- The blank code points, as closed ranges in increasing order. -/
def blankRanges : List (Nat × Nat) :=
  [(0x09, 0x0D), (0x1C, 0x20), (0x85, 0x85), (0xA0, 0xA0), (0x1680, 0x1680),
    (0x2000, 0x200A), (0x2028, 0x2029), (0x202F, 0x202F), (0x205F, 0x205F), (0x3000, 0x3000)]

/-- A character is blank if its code point lies in one of the ranges. -/
def isBlank (c : Char) : Bool :=
  blankRanges.any fun range => range.1 ≤ c.toNat && c.toNat ≤ range.2

/-- A code point is blank if it is a blank character; no surrogate is. -/
def isBlankPoint : CodePoint → Bool :=
  CodePoint.isChar isBlank

/-- Remove the members of a class from both ends of a list. -/
def trimEnds {α : Type} (p : α → Bool) (xs : List α) : List α :=
  ((xs.dropWhile p).reverse.dropWhile p).reverse

/-- A text without its leading and trailing blanks. -/
def strip (t : Text) : Text :=
  trimEnds isBlankPoint t

/-- A text with no code point other than blanks; the empty text is one. -/
def isBlankText (t : Text) : Bool :=
  t.all isBlankPoint

theorem dropWhile_eq_nil {α : Type} {p : α → Bool} {xs : List α} :
    xs.dropWhile p = [] ↔ xs.all p = true := by
  induction xs with
  | nil => simp
  | cons x xs ih => cases h : p x <;> simp [h, ← ih]

theorem trimEnds_eq_nil_iff {α : Type} {p : α → Bool} {xs : List α} :
    trimEnds p xs = [] ↔ xs.all p = true := by
  unfold trimEnds
  rw [List.reverse_eq_nil_iff, dropWhile_eq_nil, List.all_reverse]
  induction xs with
  | nil => simp
  | cons x xs ih => cases h : p x <;> simp_all

end TableSync.Text
