import TableSync.Partition.Extractor
import TableSync.Proofs.Partition.NamedPath
import TableSync.Proofs.Text.Escaping

/-!
# Paths that a writer made

A writer puts the values of a row into a path, each value escaped in its own way, with or without
the name of its field.  The extractors for the two layouts give back exactly the values that were
written, since an escaped value holds no slash, and the first `=` of a segment stands behind the
name.
-/

namespace TableSync.Partition

open TableSync.Text TableSync.Text.Percent

/-- A value and an escaping of it. -/
structure WrittenValue where
  value : String
  written : String
  escaping : Escaping value.toList written.toList

/-- A written value with the name of its field, which is put down as it is. -/
structure WrittenField extends WrittenValue where
  name : String
  name_slash : '/' ∉ name.toList
  name_equals : '=' ∉ name.toList

def WrittenField.segment (field : WrittenField) : String :=
  field.name ++ "=" ++ field.written

namespace WrittenValue

theorem decodeValue_written (v : WrittenValue) : decodeValue true v.written = v.value :=
  decode_of_escaping v.escaping

theorem slash_not_mem (v : WrittenValue) : '/' ∉ v.written.toList :=
  v.escaping.slash_not_mem

theorem written_ne_empty {v : WrittenValue} (h : v.value ≠ "") : v.written ≠ "" := by
  intro hwritten
  have hvalue : v.value.toList ≠ [] := fun hnil => h (String.toList_eq_nil_iff.mp hnil)
  exact v.escaping.ne_nil hvalue (String.toList_eq_nil_iff.mpr hwritten)

end WrittenValue

/-- A written field as a named value: the value of the segment is the escaping. -/
def WrittenField.named (field : WrittenField) : NamedValue :=
  ⟨field.name, field.written, field.name_equals, field.name_slash,
    field.toWrittenValue.slash_not_mem⟩

/-! ## Named segments -/

theorem joinsNamed_written (before after : Nat) (fields : List WrittenField) :
    JoinsNamed (slashedPath before after (fields.map WrittenField.segment))
      (fields.map WrittenField.named) := by
  refine ⟨before, after, ?_⟩
  rw [List.map_map]
  rfl

/-- The extractor for named segments reads back what was written. -/
theorem hiveStyle_extract_written (before after : Nat) (fields : List WrittenField) :
    (Extractor.hiveStyle true).extract
        (slashedPath before after (fields.map WrittenField.segment)) =
      .ok (fields.map fun field => field.value) := by
  rw [extract_named_of_joinsNamed (joinsNamed_written before after fields), List.map_map]
  congr 1
  apply List.map_congr_left
  intro field _
  exact field.decodeValue_written

/-! ## Plain segments -/

/-- The extractor for plain segments reads back what was written, unless an empty value stands at
an end of the path. -/
theorem multiPartKeys_extract_written (before after : Nat) {values : List WrittenValue}
    (hfirst : ∀ v ∈ values.head?, v.value ≠ "") (hlast : ∀ v ∈ values.getLast?, v.value ≠ "") :
    (Extractor.multiPartKeys values.length true).extract
        (slashedPath before after (values.map WrittenValue.written)) =
      .ok (values.map WrittenValue.value) := by
  have hsegments : segments (slashedPath before after (values.map WrittenValue.written)) =
      values.map WrittenValue.written := by
    apply segments_slashedPath
    · intro part hpart
      obtain ⟨v, -, rfl⟩ := List.mem_map.mp hpart
      exact v.slash_not_mem
    · intro part hpart
      rw [List.head?_map] at hpart
      obtain ⟨v, hv, rfl⟩ := Option.map_eq_some_iff.mp hpart
      exact v.written_ne_empty (hfirst v hv)
    · intro part hpart
      rw [List.getLast?_map] at hpart
      obtain ⟨v, hv, rfl⟩ := Option.map_eq_some_iff.mp hpart
      exact v.written_ne_empty (hlast v hv)
  unfold Extractor.extract
  dsimp only
  rw [hsegments, List.length_map, if_pos rfl, List.map_map]
  congr 1
  apply List.map_congr_left
  intro v _
  exact v.decodeValue_written

/-! ## Round trip -/

/-- Decoding extraction gives back the values of a written path, whatever their characters and
however these were escaped, and with any number of slashes added at either end.  Named values may
all be empty; where there are no names, the first and the last value must not be. -/
theorem extract_written_path (before after : Nat) :
    (∀ fields : List WrittenField,
      (Extractor.hiveStyle true).extract
          (slashedPath before after (fields.map WrittenField.segment)) =
        .ok (fields.map fun field => field.value)) ∧
      ∀ values : List WrittenValue, (∀ v ∈ values.head?, v.value ≠ "") →
        (∀ v ∈ values.getLast?, v.value ≠ "") →
        (Extractor.multiPartKeys values.length true).extract
            (slashedPath before after (values.map WrittenValue.written)) =
          .ok (values.map WrittenValue.value) := by
  constructor
  · intro fields
    exact hiveStyle_extract_written before after fields
  · intro values hfirst hlast
    exact multiPartKeys_extract_written before after hfirst hlast

/-- Two characters escaped in digits of either case, and one left as it is. -/
theorem escaping_mixed : Escaping "é/€".toList "%c3%A9%2f€".toList := by
  have hacute : WrittenChar 'é' "%c3%A9".toList :=
    .escaped (.cons false false 0xC3 (.cons true true 0xA9 .nil))
  have hslash : WrittenChar '/' "%2f".toList := .escaped (.cons false false 0x2F .nil)
  have heuro : WrittenChar '€' ['€'] := .literal (by decide) (by decide)
  exact .cons hacute (.cons hslash (.cons heuro .nil))

def mixedValue : WrittenValue := ⟨"é/€", "%c3%A9%2f€", escaping_mixed⟩

def emptyValue : WrittenValue := ⟨"", "", .nil⟩

theorem extract_written_mixedValue :
    mixedValue.value ≠ "" ∧
      (Extractor.hiveStyle true).extract "///=/k=%c3%A9%2f€/" = .ok ["", "é/€"] ∧
      (Extractor.multiPartKeys 3 true).extract "//%c3%A9%2f€//%c3%A9%2f€/" =
        .ok ["é/€", "", "é/€"] := by
  have hmixed : mixedValue.value ≠ "" := by decide
  refine ⟨hmixed, ?_, ?_⟩
  · exact (extract_written_path 3 1).1
      [⟨emptyValue, "", by decide, by decide⟩, ⟨mixedValue, "k", by decide, by decide⟩]
  · apply (extract_written_path 2 1).2 [mixedValue, emptyValue, mixedValue]
    · intro v hv
      cases hv
      exact hmixed
    · intro v hv
      cases hv
      exact hmixed

end TableSync.Partition
