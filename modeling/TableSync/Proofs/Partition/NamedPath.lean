import TableSync.Partition.Extractor
import TableSync.Proofs.Occurrences
import TableSync.Proofs.Partition.Segments

/-!
# Paths of named values

Each segment of such a path is a name, a `=` and a value.  The name holds no `=` and neither of them
a slash, but the value may hold further `=`, and both may be empty.  These are the paths that the
extractor for named segments accepts, and the values are what it gives.  A path is read in one way
only, because the first `=` of a segment ends the name.  Every other path has a first segment
without `=`, for which it is rejected.  Values are decoded when the path has already been taken
apart, so decoding changes the values and nothing else.
-/

namespace TableSync.Partition

open TableSync.Text

/-! ## Segments with names -/

/-- A value with the name that it has in a path. -/
structure NamedValue where
  name : String
  value : String
  name_equals : '=' ∉ name.toList
  name_slash : '/' ∉ name.toList
  value_slash : '/' ∉ value.toList

namespace NamedValue

def segment (field : NamedValue) : String :=
  field.name ++ "=" ++ field.value

theorem toList_segment (field : NamedValue) :
    field.segment.toList = field.name.toList ++ '=' :: field.value.toList := by
  simp [segment]

theorem segment_ne_empty (field : NamedValue) : field.segment ≠ "" := by
  intro h
  have hlist := field.toList_segment
  rw [h] at hlist
  simp at hlist

theorem slash_notMem_segment (field : NamedValue) : '/' ∉ field.segment.toList := by
  simp [toList_segment, field.name_slash, field.value_slash]

theorem assignedValue?_segment (field : NamedValue) :
    assignedValue? field.segment = some field.value := by
  unfold assignedValue?
  rw [field.toList_segment, cut?_eq_some_iff.mpr ⟨rfl, field.name_equals⟩]
  simp

/-- The first `=` tells the name from the value. -/
theorem segment_injective : Function.Injective segment := by
  intro field other h
  have hlist := congrArg String.toList h
  rw [toList_segment, toList_segment,
    append_separator_inj field.name_equals other.name_equals] at hlist
  obtain ⟨name, value, _, _, _⟩ := field
  obtain ⟨name', value', _, _, _⟩ := other
  obtain rfl : name = name' := String.toList_injective hlist.1
  obtain rfl : value = value' := String.toList_injective hlist.2
  rfl

/-- A segment with a `=` is that of a named value. -/
theorem exists_segment_eq {part : String} (hslash : '/' ∉ part.toList)
    (hequals : '=' ∈ part.toList) : ∃ field : NamedValue, field.segment = part := by
  obtain ⟨⟨name, value⟩, hcut⟩ :=
    Option.ne_none_iff_exists'.mp (mt cut?_eq_none_iff.mp (not_not_intro hequals))
  obtain ⟨hpart, hname⟩ := cut?_eq_some_iff.mp hcut
  rw [hpart, List.mem_append, List.mem_cons, not_or, not_or] at hslash
  obtain ⟨hnameSlash, -, hvalueSlash⟩ := hslash
  refine ⟨⟨String.ofList name, String.ofList value, by simpa, by simpa, by simpa⟩, ?_⟩
  apply String.toList_injective
  simp [toList_segment, hpart]

end NamedValue

/-! ## Reading segments -/

section Reading

variable {reject : Reason → ExtractionError} {decode : Bool} {parts : List String}

theorem assignedValues_map_segment (fields : List NamedValue) :
    assignedValues reject decode (fields.map NamedValue.segment) =
      .ok (fields.map fun field => decodeValue decode field.value) := by
  induction fields with
  | nil => rfl
  | cons field fields ih =>
      simp only [List.map_cons, assignedValues, field.assignedValue?_segment, ih]
      rfl

theorem assignedValue?_eq_none_iff {part : String} :
    assignedValue? part = none ↔ '=' ∉ part.toList := by
  unfold assignedValue?
  rw [Option.map_eq_none_iff, cut?_eq_none_iff]

/-- The first segment without `=` is the one that reading stops at. -/
theorem assignedValues_of_isFirst {part : String}
    (h : IsFirst (fun part => '=' ∉ part.toList) parts part) :
    assignedValues reject decode parts = .error (reject (.notAssignment part)) := by
  induction parts with
  | nil => exact absurd h not_isFirst_nil
  | cons first rest ih =>
      rcases isFirst_cons_iff.mp h with ⟨hfirst, rfl⟩ | ⟨hfirst, hrest⟩
      · simp only [assignedValues, assignedValue?_eq_none_iff.mpr hfirst]
      · obtain ⟨value, hvalue⟩ :=
          Option.ne_none_iff_exists'.mp (mt assignedValue?_eq_none_iff.mp hfirst)
        simp only [assignedValues, hvalue, ih hrest]
        rfl

/-- Texts without slashes are the segments of named values, or a first one of them has no `=`. -/
theorem exists_fields_or_isFirst (hslash : ∀ part ∈ parts, '/' ∉ part.toList) :
    (∃ fields : List NamedValue, parts = fields.map NamedValue.segment) ∨
      ∃ part, IsFirst (fun part => '=' ∉ part.toList) parts part := by
  induction parts with
  | nil => exact .inl ⟨[], rfl⟩
  | cons first rest ih =>
      obtain ⟨hfirst, hrest⟩ := List.forall_mem_cons.mp hslash
      by_cases hequals : '=' ∈ first.toList
      · obtain ⟨field, rfl⟩ := NamedValue.exists_segment_eq hfirst hequals
        rcases ih hrest with ⟨fields, rfl⟩ | ⟨part, hpart⟩
        · exact .inl ⟨field :: fields, rfl⟩
        · exact .inr ⟨part, isFirst_cons_iff.mpr (.inr ⟨not_not_intro hequals, hpart⟩)⟩
      · exact .inr ⟨first, isFirst_cons_iff.mpr (.inl ⟨hequals, rfl⟩)⟩

theorem assignedValues_true :
    assignedValues reject true parts =
      (assignedValues reject false parts).map (List.map (decodeValue true)) := by
  induction parts with
  | nil => rfl
  | cons first rest ih =>
      simp only [assignedValues]
      split
      · rfl
      · rw [ih]
        cases assignedValues reject false rest <;> rfl

end Reading

/-! ## Paths -/

/-- A path joins named values by slashes, with any number of slashes added at either end. -/
def JoinsNamed (path : String) (fields : List NamedValue) : Prop :=
  ∃ before after, path = slashedPath before after (fields.map NamedValue.segment)

theorem segments_slashedPath_named (before after : Nat) (fields : List NamedValue) :
    segments (slashedPath before after (fields.map NamedValue.segment)) =
      fields.map NamedValue.segment := by
  have hsegment {part : String} (h : part ∈ fields.map NamedValue.segment) :
      '/' ∉ part.toList ∧ part ≠ "" := by
    obtain ⟨field, -, rfl⟩ := List.mem_map.mp h
    exact ⟨field.slash_notMem_segment, field.segment_ne_empty⟩
  apply segments_slashedPath
  · exact fun part hpart => (hsegment hpart).1
  · exact fun part hpart => (hsegment (List.mem_of_head? hpart)).2
  · exact fun part hpart => (hsegment (List.mem_of_getLast? hpart)).2

theorem joinsNamed_iff {path : String} {fields : List NamedValue} :
    JoinsNamed path fields ↔ segments path = fields.map NamedValue.segment := by
  constructor
  · rintro ⟨before, after, rfl⟩
    exact segments_slashedPath_named before after fields
  · intro h
    obtain ⟨before, after, hpath⟩ := exists_slashedPath path
    exact ⟨before, after, h ▸ hpath⟩

theorem JoinsNamed.unique {path : String} {fields others : List NamedValue}
    (h : JoinsNamed path fields) (h' : JoinsNamed path others) : fields = others := by
  rw [joinsNamed_iff] at h h'
  exact NamedValue.segment_injective.list_map (h.symm.trans h')

section Extraction

variable {decode : Bool} {path : String}

theorem extract_named_of_joinsNamed {fields : List NamedValue} (h : JoinsNamed path fields) :
    (Extractor.hiveStyle decode).extract path =
      .ok (fields.map fun field => decodeValue decode field.value) := by
  unfold Extractor.extract
  rw [joinsNamed_iff.mp h]
  exact assignedValues_map_segment fields

theorem extract_named_of_isFirst {part : String}
    (h : IsFirst (fun part => '=' ∉ part.toList) (segments path) part) :
    (Extractor.hiveStyle decode).extract path =
      .error (.rejected ⟨path, (Extractor.hiveStyle decode).name, .notAssignment part⟩) :=
  assignedValues_of_isFirst h

theorem exists_joinsNamed_or_isFirst (path : String) :
    (∃ fields, JoinsNamed path fields) ∨
      ∃ part, IsFirst (fun part => '=' ∉ part.toList) (segments path) part := by
  simp only [joinsNamed_iff]
  exact exists_fields_or_isFirst fun part => slash_notMem_of_mem_segments

theorem extract_named_eq_ok_iff {values : List String} :
    (Extractor.hiveStyle decode).extract path = .ok values ↔
      ∃ fields, JoinsNamed path fields ∧
        values = fields.map fun field => decodeValue decode field.value := by
  constructor
  · intro h
    rcases exists_joinsNamed_or_isFirst path with ⟨fields, hfields⟩ | ⟨part, hpart⟩
    · rw [extract_named_of_joinsNamed hfields] at h
      exact ⟨fields, hfields, (Except.ok.inj h).symm⟩
    · rw [extract_named_of_isFirst hpart] at h
      cases h
  · rintro ⟨fields, hfields, rfl⟩
    exact extract_named_of_joinsNamed hfields

theorem extract_named_eq_error_iff {error : ExtractionError} :
    (Extractor.hiveStyle decode).extract path = .error error ↔
      ∃ part, IsFirst (fun part => '=' ∉ part.toList) (segments path) part ∧
        error = .rejected ⟨path, (Extractor.hiveStyle decode).name, .notAssignment part⟩ := by
  constructor
  · intro h
    rcases exists_joinsNamed_or_isFirst path with ⟨fields, hfields⟩ | ⟨part, hpart⟩
    · rw [extract_named_of_joinsNamed hfields] at h
      cases h
    · rw [extract_named_of_isFirst hpart] at h
      exact ⟨part, hpart, (Except.error.inj h).symm⟩
  · rintro ⟨part, hpart, rfl⟩
    exact extract_named_of_isFirst hpart

end Extraction

/-- The extractor for named segments accepts the paths that join named values, whether or not it
decodes, and gives the values in order.  They are the values of all the segments, and there is one
way only to read them.  Any other path is rejected, under the name of the extractor and with the
path, for its first segment without `=`, which the text of the error names.  Decoding comes last: it
is applied to each of the values that come without it, and to nothing else. -/
theorem values_of_named_paths (path : String) :
    (∀ decode values, (Extractor.hiveStyle decode).extract path = .ok values ↔
      ∃ fields, JoinsNamed path fields ∧
        values = fields.map fun field => decodeValue decode field.value) ∧
    (∀ fields, JoinsNamed path fields ↔ segments path = fields.map NamedValue.segment) ∧
    (∀ decode, (∃ values, (Extractor.hiveStyle decode).extract path = .ok values) ↔
      ∃! fields, JoinsNamed path fields) ∧
    (∀ decode error, (Extractor.hiveStyle decode).extract path = .error error ↔
      ∃ part, IsFirst (fun part => '=' ∉ part.toList) (segments path) part ∧
        error = .rejected ⟨path, "HiveStylePartitionValueExtractor", .notAssignment part⟩ ∧
        error.message = rejectionText path "HiveStylePartitionValueExtractor"
          ("segment '" ++ part ++ "' is not in key=value form")) ∧
    (Extractor.hiveStyle true).extract path =
      ((Extractor.hiveStyle false).extract path).map (List.map (decodeValue true)) := by
  refine ⟨fun decode values => extract_named_eq_ok_iff, fun fields => joinsNamed_iff,
    fun decode => ⟨?_, ?_⟩, fun decode error => ?_, assignedValues_true⟩
  · rintro ⟨values, h⟩
    obtain ⟨fields, hfields, -⟩ := extract_named_eq_ok_iff.mp h
    exact ⟨fields, hfields, fun others hothers => hothers.unique hfields⟩
  · rintro ⟨fields, hfields, -⟩
    exact ⟨_, extract_named_of_joinsNamed hfields⟩
  · rw [extract_named_eq_error_iff]
    constructor
    · rintro ⟨part, hpart, rfl⟩
      exact ⟨part, hpart, rfl, rfl⟩
    · rintro ⟨part, hpart, rfl, -⟩
      exact ⟨part, hpart, rfl⟩

/-- An escaped slash or `=` is part of a value, and a double slash leaves a segment without `=`. -/
example :
    (Extractor.hiveStyle true).extract "/a=b%2Fc=d/%3D=/" = .ok ["b/c=d", ""] ∧
      (Extractor.hiveStyle true).extract "a=b//c" = .error (.rejected
        ⟨"a=b//c", "HiveStylePartitionValueExtractor", .notAssignment ""⟩) :=
  ⟨by decide +kernel, by decide +kernel⟩

end TableSync.Partition
