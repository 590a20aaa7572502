import TableSync.Partition.Extractor
import TableSync.Proofs.Partition.Segments

/-!
# Splitting and joining

Splitting a path and joining texts by slashes undo each other.  What a path is split into are texts
without slashes of which neither the first nor the last is empty, and what they are joined to is the
path without the slashes at its ends.  So two paths have the same segments exactly if they differ in
such slashes and in nothing else, and the extractor for plain segments, whose values are the
segments as they stand, tells all other paths apart.
-/

namespace TableSync.Partition

open TableSync.Text

/-! ## Slashes at the ends -/

def withSlashes (before after : Nat) (inner : String) : String :=
  String.ofList (List.replicate before '/') ++ inner ++ String.ofList (List.replicate after '/')

/-- What is left of a path without its leading and trailing slashes. -/
structure IsInside (path inner : String) : Prop where
  added : ∃ before after, path = withSlashes before after inner
  first : inner.toList.head? ≠ some '/'
  last : inner.toList.getLast? ≠ some '/'

/-- Two paths that differ in leading and trailing slashes and in nothing else. -/
def DifferInEndSlashes (path other : String) : Prop :=
  ∃ inner before after before' after',
    path = withSlashes before after inner ∧ other = withSlashes before' after' inner

theorem toList_withSlashes (before after : Nat) (inner : String) :
    (withSlashes before after inner).toList =
      List.replicate before '/' ++ inner.toList ++ List.replicate after '/' := by
  simp [withSlashes]

/-- Slashes that are added are trimmed together with those that were there. -/
theorem trimSlashes_withSlashes (before after : Nat) (inner : String) :
    trimSlashes (withSlashes before after inner).toList = trimSlashes inner.toList := by
  obtain ⟨front, back, hinner⟩ := exists_replicate_trimSlashes inner.toList
  have hall : (withSlashes before after inner).toList =
      List.replicate (before + front) '/' ++ trimSlashes inner.toList ++
        List.replicate (back + after) '/' := by
    calc
      (withSlashes before after inner).toList =
          List.replicate before '/' ++ inner.toList ++ List.replicate after '/' :=
        toList_withSlashes before after inner
      _ = List.replicate before '/' ++ (List.replicate front '/' ++ trimSlashes inner.toList ++
            List.replicate back '/') ++ List.replicate after '/' := by
        rw [← hinner]
      _ = List.replicate (before + front) '/' ++ trimSlashes inner.toList ++
            List.replicate (back + after) '/' := by
        simp only [← List.replicate_append_replicate, List.append_assoc]
  rw [hall]
  apply trimSlashes_replicate
  · intro c hc
    simpa using head?_trimEnds hc
  · intro c hc
    simpa using getLast?_trimEnds hc

theorem toList_joined_segments (path : String) :
    ("/".intercalate (segments path)).toList = trimSlashes path.toList := by
  rw [String.toList_intercalate]
  exact intercalate_segments path

theorem segments_eq_of_trimSlashes_eq {path other : String}
    (h : trimSlashes path.toList = trimSlashes other.toList) : segments path = segments other := by
  unfold segments
  rw [h]

theorem segments_withSlashes (before after : Nat) (inner : String) :
    segments (withSlashes before after inner) = segments inner :=
  segments_eq_of_trimSlashes_eq (trimSlashes_withSlashes before after inner)

/-! ## Joined segments -/

/-- The segments of a path are joined to the path without the slashes at its ends. -/
theorem isInside_iff {path inner : String} :
    IsInside path inner ↔ inner = "/".intercalate (segments path) := by
  have htrim : trimSlashes path.toList = ("/".intercalate (segments path)).toList :=
    (toList_joined_segments path).symm
  constructor
  · rintro ⟨⟨before, after, rfl⟩, hfirst, hlast⟩
    have hinner : trimSlashes (withSlashes before after inner).toList = inner.toList := by
      rw [toList_withSlashes]
      apply trimSlashes_replicate
      · rintro c hc rfl
        exact hfirst hc
      · rintro c hc rfl
        exact hlast hc
    exact String.toList_injective (hinner.symm.trans htrim)
  · rintro rfl
    refine ⟨exists_slashedPath path, ?_, ?_⟩
    · intro hfirst
      rw [← htrim] at hfirst
      exact absurd (head?_trimEnds hfirst) (by simp)
    · intro hlast
      rw [← htrim] at hlast
      exact absurd (getLast?_trimEnds hlast) (by simp)

/-- Paths have the same segments if they differ in nothing but slashes at their ends. -/
theorem segments_eq_iff {path other : String} :
    segments path = segments other ↔ DifferInEndSlashes path other := by
  constructor
  · intro h
    obtain ⟨before, after, hpath⟩ := exists_slashedPath path
    obtain ⟨before', after', hother⟩ := exists_slashedPath other
    rw [← h] at hother
    exact ⟨"/".intercalate (segments path), before, after, before', after', hpath, hother⟩
  · rintro ⟨inner, before, after, before', after', rfl, rfl⟩
    rw [segments_withSlashes, segments_withSlashes]

/-! ## What a path is split into -/

/-- Texts that a path can be split into. -/
structure AreSegments (parts : List String) : Prop where
  slash : ∀ part ∈ parts, '/' ∉ part.toList
  first : ∀ part ∈ parts.head?, part ≠ ""
  last : ∀ part ∈ parts.getLast?, part ≠ ""

theorem segments_ne_singleton_empty (path : String) : segments path ≠ [""] := by
  intro h
  have htrim : trimSlashes path.toList = [] := by
    rw [← toList_joined_segments, h]
    rfl
  rw [segments_of_trimSlashes_eq_nil htrim] at h
  cases h

/-- An empty text at the start would put a slash there. -/
theorem head?_segments_ne_empty (path : String) : ∀ part ∈ (segments path).head?, part ≠ "" := by
  rintro part hpart rfl
  obtain ⟨rest, hsegments⟩ := List.head?_eq_some_iff.mp hpart
  have hrest : rest ≠ [] := by
    rintro rfl
    exact segments_ne_singleton_empty path hsegments
  have hinside : IsInside path ("/".intercalate (segments path)) := isInside_iff.mpr rfl
  apply hinside.first
  rw [hsegments, String.intercalate_cons_of_ne_nil hrest]
  simp

/-- An empty text at the end would put a slash there. -/
theorem getLast?_segments_ne_empty (path : String) :
    ∀ part ∈ (segments path).getLast?, part ≠ "" := by
  rintro part hpart rfl
  obtain ⟨front, hsegments⟩ := List.getLast?_eq_some_iff.mp hpart
  have hfront : front ≠ [] := by
    rintro rfl
    exact segments_ne_singleton_empty path hsegments
  have hinside : IsInside path ("/".intercalate (segments path)) := isInside_iff.mpr rfl
  apply hinside.last
  rw [hsegments, String.intercalate_append_of_ne_nil hfront (by simp)]
  simp

theorem areSegments_segments (path : String) : AreSegments (segments path) :=
  ⟨fun _ => slash_notMem_of_mem_segments, head?_segments_ne_empty path,
    getLast?_segments_ne_empty path⟩

theorem segments_slashedPath_eq_iff {parts : List String} {before after : Nat} :
    segments (slashedPath before after parts) = parts ↔ AreSegments parts := by
  constructor
  · intro h
    rw [← h]
    exact areSegments_segments _
  · intro h
    exact segments_slashedPath h.slash h.first h.last before after

/-! ## Values that are segments -/

theorem extract_plain_eq_ok_iff {n : Int} {path : String} {values : List String} :
    (Extractor.multiPartKeys n false).extract path = .ok values ↔
      ((segments path).length : Int) = n ∧ values = segments path := by
  unfold Extractor.extract
  dsimp only
  split
  · rename_i hlength
    simp [hlength, eq_comm]
  · rename_i hlength
    simp [hlength]

/-- A path is split into texts without slashes, neither the first nor the last of them empty, which
are joined to the path without the slashes at its ends.  Such texts, and no others, come back from
what they are joined to, whatever slashes are added at its ends.  Paths have the same segments if
they differ in such slashes only.  The extractor for `n` plain segments accepts the paths with as
many segments, and it gives one list of values for two of them if they differ in such slashes
only. -/
theorem splitting_undoes_joining :
    (∀ path, AreSegments (segments path) ∧
      ∀ inner, IsInside path inner ↔ inner = "/".intercalate (segments path)) ∧
    (∀ parts before after,
      segments (slashedPath before after parts) = parts ↔ AreSegments parts) ∧
    (∀ path other, segments path = segments other ↔ DifferInEndSlashes path other) ∧
    ∀ (n : Int) (path : String),
      (∀ values, (Extractor.multiPartKeys n false).extract path = .ok values ↔
        ((segments path).length : Int) = n ∧ values = segments path) ∧
      ∀ other,
        (∃ values, (Extractor.multiPartKeys n false).extract path = .ok values ∧
          (Extractor.multiPartKeys n false).extract other = .ok values) ↔
        ((segments path).length : Int) = n ∧ DifferInEndSlashes path other := by
  refine ⟨fun path => ⟨areSegments_segments path, fun inner => isInside_iff⟩,
    fun parts before after => segments_slashedPath_eq_iff, fun path other => segments_eq_iff,
    fun n path => ⟨fun values => extract_plain_eq_ok_iff, fun other => ?_⟩⟩
  simp only [extract_plain_eq_ok_iff, ← segments_eq_iff]
  constructor
  · rintro ⟨values, ⟨hlength, rfl⟩, -, hsame⟩
    exact ⟨hlength, hsame⟩
  · rintro ⟨hlength, hsame⟩
    exact ⟨segments path, ⟨hlength, rfl⟩, hsame ▸ hlength, hsame⟩

/-- Inner empty segments are kept, and a path of slashes has none. -/
example : segments "//a///b/" = ["a", "", "", "b"] ∧ segments "///" = [] := by decide +kernel

end TableSync.Partition
