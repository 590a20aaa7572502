import Mathlib.Data.List.Basic

/-!
# First and last occurrences

Which member of a list is the first with a property and which is the last, and the members of a list
in the order of their first occurrences.
-/

namespace TableSync

section Members

variable {α β : Type} {p : α → Prop} {x y : α} {xs : List α}

/-- A member of a list is the first one with a property. -/
def IsFirst (p : α → Prop) (xs : List α) (x : α) : Prop :=
  ∃ before after, xs = before ++ x :: after ∧ (∀ y ∈ before, ¬ p y) ∧ p x

/-- A member of a list is the last one with a property. -/
def IsLast (p : α → Prop) (xs : List α) (x : α) : Prop :=
  ∃ before after, xs = before ++ x :: after ∧ p x ∧ ∀ y ∈ after, ¬ p y

theorem isFirst_iff_find?_eq_some {test : α → Bool} (htest : ∀ y, test y = true ↔ p y) :
    IsFirst p xs x ↔ xs.find? test = some x := by
  rw [List.find?_eq_some_iff_append, htest]
  constructor
  · rintro ⟨before, after, hxs, hbefore, hx⟩
    refine ⟨hx, before, after, hxs, fun y hy => ?_⟩
    rw [Bool.not_eq_true', ← Bool.not_eq_true, htest]
    exact hbefore y hy
  · rintro ⟨hx, before, after, hxs, hbefore⟩
    refine ⟨before, after, hxs, fun y hy => ?_, hx⟩
    rw [← htest, Bool.not_eq_true, ← Bool.not_eq_true']
    exact hbefore y hy

theorem not_isFirst_nil : ¬ IsFirst p [] x := by
  rintro ⟨before, after, h, -⟩
  cases before <;> cases h

theorem isFirst_cons_iff : IsFirst p (x :: xs) y ↔ p x ∧ y = x ∨ ¬ p x ∧ IsFirst p xs y := by
  constructor
  · rintro ⟨before, after, hxs, hbefore, hy⟩
    cases before with
    | nil =>
        obtain ⟨rfl, rfl⟩ := List.cons.inj hxs
        exact .inl ⟨hy, rfl⟩
    | cons first before =>
        obtain ⟨rfl, rfl⟩ := List.cons.inj hxs
        rw [List.forall_mem_cons] at hbefore
        exact .inr ⟨hbefore.1, before, after, rfl, hbefore.2, hy⟩
  · rintro (⟨hx, rfl⟩ | ⟨hx, before, after, rfl, hbefore, hy⟩)
    · exact ⟨[], xs, rfl, nofun, hx⟩
    · exact ⟨x :: before, after, rfl, List.forall_mem_cons.mpr ⟨hx, hbefore⟩, hy⟩

theorem exists_isFirst_iff : (∃ x, IsFirst p xs x) ↔ ∃ x ∈ xs, p x := by
  induction xs with
  | nil => simp [not_isFirst_nil]
  | cons first rest ih =>
      simp only [isFirst_cons_iff, exists_or, exists_and_left, ih, List.mem_cons,
        exists_eq_or_imp, exists_eq, and_true]
      by_cases hfirst : p first <;> simp [hfirst]

theorem not_isLast_nil : ¬ IsLast p [] x := by
  rintro ⟨before, after, h, -⟩
  cases before <;> cases h

theorem isLast_cons_iff :
    IsLast p (x :: xs) y ↔ IsLast p xs y ∨ y = x ∧ p x ∧ ∀ z ∈ xs, ¬ p z := by
  constructor
  · rintro ⟨before, after, hxs, hy, hafter⟩
    cases before with
    | nil =>
        obtain ⟨rfl, rfl⟩ := List.cons.inj hxs
        exact .inr ⟨rfl, hy, hafter⟩
    | cons first before =>
        obtain ⟨rfl, rfl⟩ := List.cons.inj hxs
        exact .inl ⟨before, after, rfl, hy, hafter⟩
  · rintro (⟨before, after, rfl, hy, hafter⟩ | ⟨rfl, hy, hxs⟩)
    · exact ⟨x :: before, after, rfl, hy, hafter⟩
    · exact ⟨[], xs, rfl, hy, hxs⟩

theorem isLast_concat_iff : IsLast p (xs ++ [x]) y ↔ p x ∧ y = x ∨ ¬ p x ∧ IsLast p xs y := by
  constructor
  · rintro ⟨before, after, hxs, hy, hafter⟩
    rcases List.eq_nil_or_concat after with rfl | ⟨rest, last, rfl⟩
    · obtain ⟨rfl, hlast⟩ := List.append_inj' hxs rfl
      obtain rfl : x = y := List.head_eq_of_cons_eq hlast
      exact .inl ⟨hy, rfl⟩
    · rw [List.concat_eq_append, ← List.cons_append, ← List.append_assoc] at hxs
      obtain ⟨rfl, hlast⟩ := List.append_inj' hxs rfl
      obtain rfl : x = last := List.head_eq_of_cons_eq hlast
      rw [List.concat_eq_append] at hafter
      refine .inr ⟨hafter x (by simp), before, rest, rfl, hy, fun z hz => hafter z ?_⟩
      exact List.mem_append_left _ hz
  · rintro (⟨hx, rfl⟩ | ⟨hx, before, after, rfl, hy, hafter⟩)
    · exact ⟨xs, [], rfl, hx, nofun⟩
    · refine ⟨before, after ++ [x], by simp, hy, fun z hz => ?_⟩
      rcases List.mem_append.mp hz with hz | hz
      · exact hafter z hz
      · rwa [List.mem_singleton.mp hz]

theorem exists_isLast_iff : (∃ x, IsLast p xs x) ↔ ∃ x ∈ xs, p x := by
  induction xs with
  | nil => simp [not_isLast_nil]
  | cons first rest ih =>
      simp only [isLast_cons_iff, exists_or, ih, exists_eq_left, List.mem_cons, exists_eq_or_imp]
      constructor
      · rintro (hrest | ⟨hfirst, -⟩)
        · exact .inr hrest
        · exact .inl hfirst
      · rintro (hfirst | hrest)
        · by_cases hrest : ∃ x ∈ rest, p x
          · exact .inl hrest
          · exact .inr ⟨hfirst, fun z hz hpz => hrest ⟨z, hz, hpz⟩⟩
        · exact .inl hrest

/-- Where no two members have a property, the one that has it is the last one. -/
theorem isLast_iff_mem (h : xs.Pairwise fun y z => p y → ¬ p z) :
    IsLast p xs x ↔ x ∈ xs ∧ p x := by
  constructor
  · rintro ⟨before, after, rfl, hx, -⟩
    exact ⟨by simp, hx⟩
  · rintro ⟨hmem, hx⟩
    obtain ⟨before, after, rfl⟩ := List.append_of_mem hmem
    have hafter := (List.pairwise_cons.mp (List.pairwise_append.mp h).2.1).1
    exact ⟨before, after, rfl, hx, fun y hy => hafter y hy hx⟩

theorem isLast_map_iff {f : α → β} {p : β → Prop} {b : β} :
    IsLast p (xs.map f) b ↔ ∃ a, IsLast (fun a => p (f a)) xs a ∧ f a = b := by
  constructor
  · rintro ⟨before, after, hxs, hb, hafter⟩
    obtain ⟨front, rest, rfl, rfl, hrest⟩ := List.map_eq_append_iff.mp hxs
    obtain ⟨a, back, rfl, rfl, rfl⟩ := List.map_eq_cons_iff.mp hrest
    refine ⟨a, ⟨front, back, rfl, hb, fun y hy => ?_⟩, rfl⟩
    exact hafter _ (List.mem_map_of_mem hy)
  · rintro ⟨a, ⟨before, after, rfl, ha, hafter⟩, rfl⟩
    refine ⟨before.map f, after.map f, by simp, ha, fun y hy => ?_⟩
    obtain ⟨c, hc, rfl⟩ := List.mem_map.mp hy
    exact hafter c hc

end Members

section Duplicates

variable {α : Type} [BEq α] [LawfulBEq α] {xs : List α} {x : α}

theorem eraseDups_concat_of_mem (h : x ∈ xs) : (xs ++ [x]).eraseDups = xs.eraseDups := by
  rw [List.eraseDups_append, List.removeAll]
  simp [h]

theorem eraseDups_concat_of_notMem (h : x ∉ xs) :
    (xs ++ [x]).eraseDups = xs.eraseDups ++ [x] := by
  rw [List.eraseDups_append, List.removeAll]
  simp [h, List.eraseDups_cons]

theorem eraseDups_of_nodup (h : xs.Nodup) : xs.eraseDups = xs := by
  induction xs with
  | nil => rfl
  | cons x xs ih =>
      obtain ⟨hx, hxs⟩ := List.nodup_cons.mp h
      have hothers : xs.filter (fun y => !y == x) = xs := by
        apply List.filter_eq_self.mpr
        intro y hy
        have hne : y ≠ x := ne_of_mem_of_not_mem hy hx
        simpa using hne
      rw [List.eraseDups_cons, hothers, ih hxs]

end Duplicates

end TableSync
