import TableSync.Proofs.Text.Escaping
import TableSync.Proofs.Text.Pieces

/-!
# The lines of a text

A text may end its lines with a line feed, a carriage return or both, and change from line to line;
the last line need not be ended.  The lines that are not blank are read in their order, just as they
are, and blank lines leave no trace.

A carriage return and an empty line that ends in a line feed look like one line that ends in both.
Nothing comes of that, since the empty line is blank.
-/

namespace TableSync.Text

/-! ## Encoded texts -/

namespace Utf8

def encode (cs : List Char) : List UInt8 :=
  cs.flatMap String.utf8EncodeChar

theorem feedAll_append (state : Option Pending) (xs ys : List UInt8) :
    feedAll state (xs ++ ys) =
      ((feedAll state xs).1 ++ (feedAll (feedAll state xs).2 ys).1,
        (feedAll (feedAll state xs).2 ys).2) := by
  induction xs generalizing state with
  | nil => rfl
  | cons byte xs ih => simp [feedAll, ih]

theorem feedAll_encode (cs : List Char) : feedAll none (encode cs) = (cs.map some, none) := by
  induction cs with
  | nil => rfl
  | cons c cs ih =>
      have hcons : encode (c :: cs) = String.utf8EncodeChar c ++ encode cs := List.flatMap_cons
      rw [hcons, feedAll_append, feedAll_utf8EncodeChar, ih]
      rfl

/-- An encoded text is read back. -/
theorem decode?_encode (cs : List Char) : decode? (encode cs) = some cs := by
  have hdecode : decode (encode cs) = cs.map some := by
    rw [decode, decodeFrom_eq, feedAll_encode]
    simp [flush]
  simp [decode?, hdecode, List.filterMap_map, Function.comp_def]

end Utf8

/-! ## Lines -/

/-- The ways in which a line may end. -/
inductive LineEnd
  | lineFeed
  | carriageReturn
  | both
deriving DecidableEq, Repr

def LineEnd.chars : LineEnd → List Char
  | lineFeed => ['\n']
  | carriageReturn => ['\r']
  | both => ['\r', '\n']

/-- A text of one line: no character of it ends a line. -/
def IsLine (cs : List Char) : Prop :=
  '\n' ∉ cs ∧ '\r' ∉ cs

def IsBlankLine (cs : List Char) : Prop :=
  cs.all isBlank = true

instance (cs : List Char) : Decidable (IsLine cs) :=
  inferInstanceAs (Decidable (_ ∧ _))

instance (cs : List Char) : Decidable (IsBlankLine cs) :=
  inferInstanceAs (Decidable (_ = _))

/-- A text in which some lines that are not blank stand in order, each ended in one way or another,
with any number of blank lines before, between and behind them.  The last line may have no end. -/
inductive LaysOut : List (List Char) → List Char → Prop
  | lastLine {line : List Char} (isLine : IsLine line) (full : ¬ IsBlankLine line) :
      LaysOut [line] line
  | lastBlank {line : List Char} (isLine : IsLine line) (blank : IsBlankLine line) :
      LaysOut [] line
  | line {line text : List Char} {more : List (List Char)} (isLine : IsLine line)
      (full : ¬ IsBlankLine line) (ending : LineEnd) (tail : LaysOut more text) :
      LaysOut (line :: more) (line ++ ending.chars ++ text)
  | blank {line text : List Char} {more : List (List Char)} (isLine : IsLine line)
      (blank : IsBlankLine line) (ending : LineEnd) (tail : LaysOut more text) :
      LaysOut more (line ++ ending.chars ++ text)

/-- The lines of a text that are not blank. -/
def fullLines (cs : List Char) : List (List Char) :=
  (lines cs).filter fun line => !line.all isBlank

theorem unifyNewlines_append {line : List Char} (h : '\r' ∉ line) (rest : List Char) :
    unifyNewlines (line ++ rest) = line ++ unifyNewlines rest := by
  induction line with
  | nil => rfl
  | cons c line ih =>
      obtain ⟨hc, hline⟩ := List.ne_and_not_mem_of_not_mem_cons h
      rw [List.cons_append, unifyNewlines, if_neg (Ne.symm hc), ih hline, List.cons_append]
      rintro cs rfl
      exact absurd rfl hc

theorem unifyNewlines_lineFeed (rest : List Char) :
    unifyNewlines ('\n' :: rest) = '\n' :: unifyNewlines rest := by
  rw [unifyNewlines, if_neg (by decide)]
  intro cs h
  cases h

theorem lines_of_unified {line rest unified : List Char} (h : IsLine line)
    (hrest : unifyNewlines rest = '\n' :: unified) :
    lines (line ++ rest) = line :: splitOn '\n' unified := by
  rw [lines, unifyNewlines_append h.2, hrest, splitOn_append_cons h.1]

/-- A line in front of others, which counts unless it is blank. -/
def consFull (line : List Char) (ls : List (List Char)) : List (List Char) :=
  if line.all isBlank then ls else line :: ls

theorem consFull_of_full {line : List Char} (h : ¬ IsBlankLine line) (ls : List (List Char)) :
    consFull line ls = line :: ls :=
  if_neg h

theorem consFull_of_blank {line : List Char} (h : IsBlankLine line) (ls : List (List Char)) :
    consFull line ls = ls :=
  if_pos h

theorem filter_cons_eq_consFull (line : List Char) (ls : List (List Char)) :
    ((line :: ls).filter fun line => !line.all isBlank) =
      consFull line (ls.filter fun line => !line.all isBlank) := by
  unfold consFull
  by_cases h : line.all isBlank = true <;> simp [h]

theorem fullLines_of_isLine {line : List Char} (h : IsLine line) :
    fullLines line = consFull line [] := by
  have hunified : unifyNewlines line = line := by
    simpa [unifyNewlines] using unifyNewlines_append h.2 []
  rw [fullLines, lines, hunified, splitOn_of_notMem h.1, filter_cons_eq_consFull]
  rfl

/-- The first line of a text and what stands behind it are read apart from each other.  A line feed
behind a carriage return belongs to the same ending, so an empty line is lost there. -/
theorem fullLines_append {line : List Char} (h : IsLine line) (ending : LineEnd)
    (rest : List Char) :
    fullLines (line ++ ending.chars ++ rest) = consFull line (fullLines rest) := by
  have hlines : ∀ unified, unifyNewlines (ending.chars ++ rest) = '\n' :: unified →
      fullLines (line ++ ending.chars ++ rest) =
        consFull line ((splitOn '\n' unified).filter fun line => !line.all isBlank) := by
    intro unified hunified
    rw [fullLines, List.append_assoc, lines_of_unified h hunified, filter_cons_eq_consFull]
  cases ending with
  | lineFeed => exact hlines _ (unifyNewlines_lineFeed rest)
  | both => exact hlines _ rfl
  | carriageReturn =>
      by_cases hrest : ∃ cs, rest = '\n' :: cs
      · obtain ⟨cs, rfl⟩ := hrest
        have hblank : fullLines ('\n' :: cs) = fullLines cs := by
          rw [fullLines, lines, unifyNewlines_lineFeed, splitOn, if_pos rfl,
            filter_cons_eq_consFull]
          rfl
        rw [hlines (unifyNewlines cs) rfl, hblank]
        rfl
      · refine hlines (unifyNewlines rest) ?_
        show unifyNewlines ('\r' :: rest) = _
        rw [unifyNewlines, if_pos rfl]
        rintro cs - rfl
        exact hrest ⟨cs, rfl⟩

/-- The lines that are not blank are found again, in their order and as they are. -/
theorem fullLines_of_laysOut {ls : List (List Char)} {text : List Char} (h : LaysOut ls text) :
    fullLines text = ls := by
  induction h with
  | lastLine isLine full => rw [fullLines_of_isLine isLine, consFull_of_full full]
  | lastBlank isLine blank => rw [fullLines_of_isLine isLine, consFull_of_blank blank]
  | line isLine full ending tail ih => rw [fullLines_append isLine, ih, consFull_of_full full]
  | blank isLine blank ending tail ih => rw [fullLines_append isLine, ih, consFull_of_blank blank]

end TableSync.Text
