import TableSync.Text.Blank
import TableSync.Text.Split

/-!
# Joining, splitting and trimming

Joining goes from one text to the next.  Splitting goes piece by piece: at any separator a text may
be cut in two and both parts split on their own.  Trimming takes characters from the two ends, and
leaves alone what has none to take.
-/

namespace TableSync.Text

theorem joined_cons_cons (sep first second : Text) (rest : List Text) :
    joined sep (first :: second :: rest) = first ++ sep ++ joined sep (second :: rest) :=
  List.intercalate_cons_cons

/-! ## Splitting -/

section Splitting

variable {α : Type} [DecidableEq α] {sep : α} {piece : List α}

/-- Splitting at a separator as the standard library does it. -/
theorem splitOn_eq_listSplitOn (sep : α) (xs : List α) : splitOn sep xs = xs.splitOn sep := by
  induction xs with
  | nil => simp [splitOn]
  | cons x xs ih =>
      rw [List.splitOn_cons_eq_if_modifyHead, ← ih, splitOn]
      simp only [beq_iff_eq]
      split
      · rfl
      · cases h : splitOn sep xs with
        | nil => exact absurd h (splitOn_ne_nil sep xs)
        | cons piece pieces => rfl

theorem splitOn_intercalate {pieces : List (List α)} (hsep : ∀ piece ∈ pieces, sep ∉ piece)
    (hne : pieces ≠ []) : splitOn sep ([sep].intercalate pieces) = pieces := by
  rw [splitOn_eq_listSplitOn]
  exact List.splitOn_intercalate sep hsep hne

/-- What stands on either side of a separator is split on its own. -/
theorem splitOn_append (xs rest : List α) :
    splitOn sep (xs ++ sep :: rest) = splitOn sep xs ++ splitOn sep rest := by
  simp only [splitOn_eq_listSplitOn, List.splitOn_eq_splitOnP]
  exact List.splitOnP_append_cons xs rest (beq_self_eq_true sep)

theorem splitOn_of_notMem (h : sep ∉ piece) : splitOn sep piece = [piece] := by
  induction piece with
  | nil => rfl
  | cons x piece ih =>
      obtain ⟨hx, hpiece⟩ := List.ne_and_not_mem_of_not_mem_cons h
      rw [splitOn, if_neg (Ne.symm hx), ih hpiece]

theorem splitOn_append_cons (h : sep ∉ piece) (rest : List α) :
    splitOn sep (piece ++ sep :: rest) = piece :: splitOn sep rest := by
  rw [splitOn_append, splitOn_of_notMem h]
  rfl

end Splitting

/-! ## Trimming -/

section Trimming

variable {α : Type} {p : α → Bool} {xs : List α}

theorem dropWhile_eq_self (h : ∀ x ∈ xs.head?, p x = false) : xs.dropWhile p = xs := by
  cases xs with
  | nil => rfl
  | cons x xs => simp [h x rfl]

theorem trimEnds_eq_self (hfirst : ∀ x ∈ xs.head?, p x = false)
    (hlast : ∀ x ∈ xs.getLast?, p x = false) : trimEnds p xs = xs := by
  rw [← List.head?_reverse] at hlast
  unfold trimEnds
  rw [dropWhile_eq_self hfirst, dropWhile_eq_self hlast, List.reverse_reverse]

/-- Members of the class are trimmed from around a list that neither starts nor ends with one. -/
theorem trimEnds_append_append {front back : List α} (hfront : ∀ x ∈ front, p x = true)
    (hback : ∀ x ∈ back, p x = true) (hfirst : ∀ x ∈ xs.head?, p x = false)
    (hlast : ∀ x ∈ xs.getLast?, p x = false) : trimEnds p (front ++ xs ++ back) = xs := by
  cases xs with
  | nil =>
      rw [List.append_nil, trimEnds_eq_nil_iff, List.all_append, Bool.and_eq_true,
        List.all_eq_true, List.all_eq_true]
      exact ⟨hfront, hback⟩
  | cons x xs =>
      have hrest : (x :: xs ++ back).dropWhile p = x :: xs ++ back := by
        apply dropWhile_eq_self
        intro y hy
        exact hfirst y hy
      have hend : (x :: xs).reverse.dropWhile p = (x :: xs).reverse := by
        apply dropWhile_eq_self
        intro y hy
        rw [List.head?_reverse] at hy
        exact hlast y hy
      unfold trimEnds
      rw [List.append_assoc, List.dropWhile_append_of_pos hfront, hrest, List.reverse_append,
        List.dropWhile_append_of_pos fun y hy => hback y (List.mem_reverse.mp hy), hend,
        List.reverse_reverse]

/-- Trimming takes members of the class from the two ends, and nothing else. -/
theorem exists_trimEnds (p : α → Bool) (xs : List α) :
    ∃ front back, xs = front ++ trimEnds p xs ++ back ∧ (∀ x ∈ front, p x = true) ∧
      ∀ x ∈ back, p x = true := by
  let rest := xs.dropWhile p
  refine ⟨xs.takeWhile p, (rest.reverse.takeWhile p).reverse, ?_, ?_, ?_⟩
  · have hrest : trimEnds p xs ++ (rest.reverse.takeWhile p).reverse = rest := by
      unfold trimEnds
      rw [← List.reverse_append, List.takeWhile_append_dropWhile, List.reverse_reverse]
    rw [List.append_assoc, hrest, List.takeWhile_append_dropWhile]
  · intro x hx
    exact List.all_eq_true.mp List.all_takeWhile x hx
  · intro x hx
    exact List.all_eq_true.mp List.all_takeWhile x (List.mem_reverse.mp hx)

theorem head?_dropWhile {x : α} (h : x ∈ (xs.dropWhile p).head?) : p x = false := by
  have hnot := List.head?_dropWhile_not p xs
  rw [Option.mem_def.mp h] at hnot
  exact hnot

theorem getLast?_trimEnds {x : α} (h : x ∈ (trimEnds p xs).getLast?) : p x = false := by
  rw [trimEnds, List.getLast?_reverse] at h
  exact head?_dropWhile h

theorem head?_trimEnds {x : α} (h : x ∈ (trimEnds p xs).head?) : p x = false := by
  have hprefix : trimEnds p xs <+: xs.dropWhile p := by
    rw [← List.reverse_suffix, trimEnds, List.reverse_reverse]
    exact List.dropWhile_suffix p
  obtain ⟨back, hback⟩ := hprefix
  have hhead : x ∈ (xs.dropWhile p).head? := by
    rw [← hback, List.head?_append, Option.mem_def.mp h]
    rfl
  exact head?_dropWhile hhead

end Trimming

end TableSync.Text
