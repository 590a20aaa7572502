/-!
# Splitting a text

Pieces of a text between separators, and the lines of a text.  A text with `n` separators has
`n + 1` pieces, and joining the pieces with the separator gives the text back.
-/

namespace TableSync.Text

/-- The pieces of a text between the occurrences of a separator, the empty ones included. -/
def splitOn {α : Type} [DecidableEq α] (sep : α) : List α → List (List α)
  | [] => [[]]
  | x :: xs =>
      if x = sep then [] :: splitOn sep xs
      else
        match splitOn sep xs with
        | [] => [[x]]
        | piece :: pieces => (x :: piece) :: pieces

/-- The text before the first separator and the text after it, if there is a separator. -/
def cut? {α : Type} [DecidableEq α] (sep : α) : List α → Option (List α × List α)
  | [] => none
  | x :: xs =>
      if x = sep then some ([], xs)
      else (cut? sep xs).map fun parts => (x :: parts.1, parts.2)

/-- Write each line ending, carriage return or line feed or both, as one line feed. -/
def unifyNewlines : List Char → List Char
  | [] => []
  | '\r' :: '\n' :: cs => '\n' :: unifyNewlines cs
  | c :: cs => (if c = '\r' then '\n' else c) :: unifyNewlines cs

/-- The lines of a text without their endings; a text that ends a line ends in an empty one. -/
def lines (cs : List Char) : List (List Char) :=
  splitOn '\n' (unifyNewlines cs)

section Pieces

variable {α : Type} [DecidableEq α]

theorem splitOn_ne_nil (sep : α) (xs : List α) : splitOn sep xs ≠ [] := by
  induction xs with
  | nil => simp [splitOn]
  | cons x xs ih =>
      unfold splitOn
      split
      · simp
      · cases h : splitOn sep xs with
        | nil => exact absurd h ih
        | cons piece pieces => simp

theorem intercalate_splitOn (sep : α) (xs : List α) :
    List.intercalate [sep] (splitOn sep xs) = xs := by
  induction xs with
  | nil => simp [splitOn, List.intercalate]
  | cons x xs ih =>
      unfold splitOn
      split
      · rename_i hc
        cases h : splitOn sep xs with
        | nil => exact absurd h (splitOn_ne_nil sep xs)
        | cons piece pieces =>
            rw [h] at ih
            simp [List.intercalate, List.intersperse, hc] at ih ⊢
            exact ih
      · cases h : splitOn sep xs with
        | nil => exact absurd h (splitOn_ne_nil sep xs)
        | cons piece pieces =>
            rw [h] at ih
            cases pieces with
            | nil => simpa [List.intercalate, List.intersperse] using ih
            | cons next rest =>
                simpa [List.intercalate, List.intersperse] using ih

theorem not_mem_of_mem_splitOn {sep : α} {xs piece : List α}
    (h : piece ∈ splitOn sep xs) : sep ∉ piece := by
  induction xs generalizing piece with
  | nil =>
      simp only [splitOn, List.mem_singleton] at h
      simp [h]
  | cons x xs ih =>
      unfold splitOn at h
      split at h
      · rcases List.mem_cons.mp h with rfl | h
        · simp
        · exact ih h
      · rename_i hc
        cases hs : splitOn sep xs with
        | nil => exact absurd hs (splitOn_ne_nil sep xs)
        | cons first rest =>
            rw [hs] at h ih
            rcases List.mem_cons.mp h with rfl | h
            · have := ih (List.mem_cons_self ..)
              simp only [List.mem_cons, not_or]
              exact ⟨fun e => hc e.symm, this⟩
            · exact ih (List.mem_cons_of_mem _ h)

theorem cut?_eq_none_iff {sep : α} {xs : List α} : cut? sep xs = none ↔ sep ∉ xs := by
  induction xs with
  | nil => simp [cut?]
  | cons x xs ih =>
      unfold cut?
      split
      · rename_i hsep
        simp [hsep]
      · rename_i hsep
        rw [Option.map_eq_none_iff, ih, List.mem_cons, not_or]
        exact ⟨fun h => ⟨Ne.symm hsep, h⟩, And.right⟩

theorem cut?_eq_some_iff {sep : α} {xs before after : List α} :
    cut? sep xs = some (before, after) ↔ xs = before ++ sep :: after ∧ sep ∉ before := by
  induction xs generalizing before after with
  | nil => simp [cut?]
  | cons x xs ih =>
      unfold cut?
      split
      · rename_i hsep
        subst hsep
        cases before with
        | nil => simp
        | cons y before =>
            simp only [Option.some.injEq, Prod.mk.injEq, List.cons_append, List.cons.injEq,
              List.mem_cons, not_or]
            constructor
            · rintro ⟨h, -⟩
              cases h
            · rintro ⟨⟨rfl, -⟩, hne, -⟩
              exact absurd rfl hne
      · rename_i hsep
        simp only [Option.map_eq_some_iff, Prod.exists, ih, Prod.mk.injEq]
        constructor
        · rintro ⟨front, back, ⟨rfl, hfront⟩, rfl, rfl⟩
          exact ⟨rfl, by simp [hfront, Ne.symm hsep]⟩
        · rintro ⟨h, hbefore⟩
          cases before with
          | nil =>
              rw [List.nil_append, List.cons.injEq] at h
              exact absurd h.1 hsep
          | cons y before =>
              rw [List.cons_append, List.cons.injEq] at h
              obtain ⟨rfl, rfl⟩ := h
              rw [List.mem_cons, not_or] at hbefore
              exact ⟨before, after, ⟨rfl, hbefore.2⟩, rfl, rfl⟩

/-- What stands before the first separator and what stands after it are known from the whole. -/
theorem append_separator_inj {sep : α} {before before' after after' : List α} (h : sep ∉ before)
    (h' : sep ∉ before') :
    before ++ sep :: after = before' ++ sep :: after' ↔ before = before' ∧ after = after' := by
  constructor
  · intro heq
    have hcut := cut?_eq_some_iff.mpr ⟨heq, h'⟩
    rw [cut?_eq_some_iff.mpr ⟨rfl, h⟩, Option.some.injEq, Prod.mk.injEq] at hcut
    exact hcut
  · rintro ⟨rfl, rfl⟩
    rfl

end Pieces

end TableSync.Text
