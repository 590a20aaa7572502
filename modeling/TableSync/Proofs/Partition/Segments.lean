import TableSync.Partition.Path
import TableSync.Proofs.Text.Pieces

/-!
# Paths and their segments

Segments joined by slashes, with any number of slashes added at either end, make a path.  Splitting
the path gives the segments back if none of them holds a slash and neither the first nor the last
one is empty.
-/

namespace TableSync.Partition

open TableSync.Text

/-- The path of some segments, with slashes added before and after. -/
def slashedPath (before after : Nat) (parts : List String) : String :=
  String.ofList (List.replicate before '/') ++ "/".intercalate parts ++
    String.ofList (List.replicate after '/')

/-! ## Trimming -/

/-- Trimming removes the slashes that were added and no others. -/
theorem trimSlashes_replicate {cs : List Char} (hfirst : ∀ c ∈ cs.head?, c ≠ '/')
    (hlast : ∀ c ∈ cs.getLast?, c ≠ '/') (before after : Nat) :
    trimSlashes (List.replicate before '/' ++ cs ++ List.replicate after '/') = cs := by
  have hslash {n : Nat} {c : Char} (hc : c ∈ List.replicate n '/') : decide (c = '/') = true :=
    decide_eq_true (List.eq_of_mem_replicate hc)
  apply trimEnds_append_append
  · exact fun c => hslash
  · exact fun c => hslash
  · exact fun c hc => decide_eq_false (hfirst c hc)
  · exact fun c hc => decide_eq_false (hlast c hc)

theorem exists_replicate_trimSlashes (cs : List Char) :
    ∃ before after,
      cs = List.replicate before '/' ++ trimSlashes cs ++ List.replicate after '/' := by
  obtain ⟨front, back, hcs, hfront, hback⟩ := exists_trimEnds (· = '/') cs
  have hslashes {part : List Char} (h : ∀ c ∈ part, decide (c = '/') = true) :
      part = List.replicate part.length '/' :=
    List.eq_replicate_of_mem fun c hc => of_decide_eq_true (h c hc)
  refine ⟨front.length, back.length, ?_⟩
  rw [← hslashes hfront, ← hslashes hback]
  exact hcs

/-! ## Joining -/

section Joining

variable {sep : Char} {pieces : List (List Char)} {piece : List Char}

theorem head?_intercalate (hpiece : piece ∈ pieces.head?) (hne : piece ≠ []) :
    ([sep].intercalate pieces).head? = piece.head? := by
  cases pieces with
  | nil => cases hpiece
  | cons first rest =>
      obtain rfl : first = piece := Option.some.inj hpiece
      cases rest with
      | nil => simp [List.intercalate]
      | cons second rest =>
          obtain ⟨c, cs, rfl⟩ := List.exists_cons_of_ne_nil hne
          rw [List.intercalate_cons_cons]
          rfl

theorem getLast?_intercalate (hpiece : piece ∈ pieces.getLast?) (hne : piece ≠ []) :
    ([sep].intercalate pieces).getLast? = piece.getLast? := by
  induction pieces with
  | nil => cases hpiece
  | cons first rest ih =>
      cases rest with
      | nil =>
          obtain rfl : first = piece := Option.some.inj hpiece
          simp [List.intercalate]
      | cons second rest =>
          have hrest : ([sep].intercalate (second :: rest)).getLast? = piece.getLast? :=
            ih (by simpa using hpiece)
          obtain ⟨c, hc⟩ := Option.ne_none_iff_exists'.mp (mt List.getLast?_eq_none_iff.mp hne)
          rw [List.intercalate_cons_cons, List.getLast?_append, hrest, hc]
          rfl

end Joining

/-! ## Segments -/

theorem toList_slashedPath (before after : Nat) (parts : List String) :
    (slashedPath before after parts).toList =
      List.replicate before '/' ++ ['/'].intercalate (parts.map String.toList) ++
        List.replicate after '/' := by
  simp [slashedPath, String.toList_intercalate]

theorem segments_of_trimSlashes_eq_nil {path : String} (h : trimSlashes path.toList = []) :
    segments path = [] := by
  simp [segments, h]

theorem segments_of_trimSlashes_ne_nil {path : String} (h : trimSlashes path.toList ≠ []) :
    segments path = (splitOn '/' (trimSlashes path.toList)).map String.ofList := by
  simp [segments, h]

/-- The segments of a path are those that it was made of. -/
theorem segments_slashedPath {parts : List String} (hslash : ∀ part ∈ parts, '/' ∉ part.toList)
    (hfirst : ∀ part ∈ parts.head?, part ≠ "") (hlast : ∀ part ∈ parts.getLast?, part ≠ "")
    (before after : Nat) : segments (slashedPath before after parts) = parts := by
  have hnonempty (part : String) (h : part ≠ "") : part.toList ≠ [] :=
    fun hnil => h (String.toList_eq_nil_iff.mp hnil)
  have htrim : trimSlashes (slashedPath before after parts).toList =
      ['/'].intercalate (parts.map String.toList) := by
    rw [toList_slashedPath]
    apply trimSlashes_replicate
    · intro c hc hcslash
      cases hhead : parts.head? with
      | none =>
          rw [List.head?_eq_none_iff.mp hhead] at hc
          cases hc
      | some part =>
          have hpart : part.toList ∈ (parts.map String.toList).head? := by simp [hhead]
          rw [head?_intercalate hpart (hnonempty part (hfirst part hhead))] at hc
          exact hslash part (List.mem_of_head? hhead) (hcslash ▸ List.mem_of_head? hc)
    · intro c hc hcslash
      cases hend : parts.getLast? with
      | none =>
          rw [List.getLast?_eq_none_iff.mp hend] at hc
          cases hc
      | some part =>
          have hpart : part.toList ∈ (parts.map String.toList).getLast? := by simp [hend]
          rw [getLast?_intercalate hpart (hnonempty part (hlast part hend))] at hc
          exact hslash part (List.mem_of_getLast? hend) (hcslash ▸ List.mem_of_getLast? hc)
  cases parts with
  | nil => exact segments_of_trimSlashes_eq_nil htrim
  | cons part parts =>
      have hne : ['/'].intercalate ((part :: parts).map String.toList) ≠ [] := by
        intro hnil
        have hpart := hnonempty part (hfirst part rfl)
        have hhead : (['/'].intercalate ((part :: parts).map String.toList)).head? =
            part.toList.head? := head?_intercalate rfl hpart
        rw [hnil] at hhead
        exact hpart (List.head?_eq_none_iff.mp hhead.symm)
      rw [segments_of_trimSlashes_ne_nil (htrim ▸ hne), htrim, splitOn_intercalate]
      · simp [Function.comp_def]
      · intro piece hpiece
        obtain ⟨other, hother, rfl⟩ := List.mem_map.mp hpiece
        exact hslash other hother
      · simp

/-- The segments of a path are joined to what trimming leaves of it. -/
theorem intercalate_segments (path : String) :
    ['/'].intercalate ((segments path).map String.toList) = trimSlashes path.toList := by
  by_cases htrim : trimSlashes path.toList = []
  · rw [segments_of_trimSlashes_eq_nil htrim, htrim]
    rfl
  · have hsplit : (segments path).map String.toList = splitOn '/' (trimSlashes path.toList) := by
      rw [segments_of_trimSlashes_ne_nil htrim, List.map_map]
      simp [Function.comp_def]
    rw [hsplit]
    exact intercalate_splitOn '/' _

/-- Every path is made of its segments. -/
theorem exists_slashedPath (path : String) :
    ∃ before after, path = slashedPath before after (segments path) := by
  obtain ⟨before, after, hpath⟩ := exists_replicate_trimSlashes path.toList
  refine ⟨before, after, String.toList_injective ?_⟩
  rw [toList_slashedPath, intercalate_segments]
  exact hpath

theorem slash_notMem_of_mem_segments {path segment : String} (h : segment ∈ segments path) :
    '/' ∉ segment.toList := by
  by_cases htrim : trimSlashes path.toList = []
  · rw [segments_of_trimSlashes_eq_nil htrim] at h
    cases h
  · rw [segments_of_trimSlashes_ne_nil htrim] at h
    obtain ⟨piece, hpiece, rfl⟩ := List.mem_map.mp h
    rw [String.toList_ofList]
    exact not_mem_of_mem_splitOn hpiece

end TableSync.Partition
