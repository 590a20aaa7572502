import TableSync.Partition.Extractor
import TableSync.Config.Reading

/-!
# Faults of extractors

An extractor that has no values for a path rejects it, but for one case.  The numbers of a day are
read before they are checked, so a number may be too long to be read, or too large for a machine
integer.  The segments are read from left to right, and the first that cannot be read as a number
decides.
-/

namespace TableSync.Partition

open TableSync.Config TableSync.Text TableSync.Calendar

def ExtractionError.isRejection : ExtractionError → Bool
  | .rejected _ => true
  | _ => false

/-- A reader of paths fails on a path without rejecting it. -/
def PathReader.FaultsOn (reader : PathReader) (path : String) : Prop :=
  ∃ error, reader.read path = .error error ∧ error.isRejection = false

instance (reader : PathReader) (path : String) : Decidable (reader.FaultsOn path) :=
  match h : reader.read path with
  | .ok _ => isFalse (by
      rintro ⟨error, herror, -⟩
      cases h.symm.trans herror)
  | .error error => decidable_of_iff (error.isRejection = false)
      ⟨fun hkind => ⟨error, h, hkind⟩, by
        rintro ⟨found, hfound, hkind⟩
        cases h.symm.trans hfound
        exact hkind⟩

/-! ### Numbers of days -/

/-- The part of a segment that is read as a number. -/
def dayText (segment : String) : List Char :=
  ((assignedValue? segment).getD segment).toList

def isNumber (segment : String) : Bool :=
  !(dayText segment).isEmpty && (dayText segment).all isAsciiDigit

/-- Whether a segment has a number that is not too long to be read. -/
def isReadable (segment : String) : Bool :=
  isNumber segment && (dayText segment).length ≤ digitLimit

/-- The error of a segment that cannot be read as a number. -/
def unreadable (reject : Reason → ExtractionError) (segment : String) : ExtractionError :=
  if isNumber segment then .tooManyDigits (dayText segment).length
  else reject (.notNumeric segment)

theorem dayNumber_eq (reject : Reason → ExtractionError) (segment : String) :
    dayNumber reject segment =
      if isReadable segment then .ok (decimalValue (dayText segment))
      else .error (unreadable reject segment) := by
  have hmalformed : ((dayText segment).isEmpty ∨ ¬ (dayText segment).all isAsciiDigit) ↔
      isNumber segment = false := by
    unfold isNumber
    cases (dayText segment).isEmpty <;> cases (dayText segment).all isAsciiDigit <;> simp
  show (if (dayText segment).isEmpty ∨ ¬ (dayText segment).all isAsciiDigit then _
    else if digitLimit < (dayText segment).length then _ else _) = _
  unfold isReadable unreadable
  cases hnumber : isNumber segment with
  | false =>
      rw [if_pos (hmalformed.mpr hnumber)]
      rfl
  | true =>
      rw [if_neg fun h => Bool.noConfusion (hnumber.symm.trans (hmalformed.mp h))]
      by_cases hlong : digitLimit < (dayText segment).length
      · rw [if_pos hlong, if_neg (by simpa using hlong)]
        rfl
      · rw [if_neg hlong, if_pos (by simpa using hlong)]
        rfl

/-! ### Faults of days -/

section Days

variable {reject : Reason → ExtractionError}

/-- Numbers are read from left to right, up to the first that cannot be read. -/
theorem calendarDay_of_unreadable {year month day segment : String}
    (hfind : [year, month, day].find? (fun segment => !isReadable segment) = some segment) :
    calendarDay reject year month day = .error (unreadable reject segment) := by
  unfold calendarDay
  simp only [List.find?_cons, List.find?_nil] at hfind
  rw [dayNumber_eq, dayNumber_eq, dayNumber_eq]
  cases hyear : isReadable year with
  | false =>
      rw [hyear] at hfind
      cases hfind
      rfl
  | true =>
      cases hmonth : isReadable month with
      | false =>
          rw [hyear, hmonth] at hfind
          cases hfind
          rfl
      | true =>
          cases hday : isReadable day with
          | false =>
              rw [hyear, hmonth, hday] at hfind
              cases hfind
              rfl
          | true =>
              rw [hyear, hmonth, hday] at hfind
              cases hfind

/-- Numbers that can all be read have to fit a machine integer before they are looked up in the
calendar. -/
theorem calendarDay_of_readable {year month day : String}
    (hfind : [year, month, day].find? (fun segment => !isReadable segment) = none) :
    calendarDay reject year month day =
      match ([year, month, day].map fun segment => decimalValue (dayText segment)).findSome?
        overflow? with
      | some o => .error (.overflow o)
      | none =>
          match Date.of? (decimalValue (dayText year)) (decimalValue (dayText month))
            (decimalValue (dayText day)) with
          | .error fault => .error (reject (.notCalendarDay fault))
          | .ok date => .ok date := by
  have hreadable : ∀ segment ∈ [year, month, day], isReadable segment = true := by
    simpa using hfind
  unfold calendarDay
  rw [dayNumber_eq, dayNumber_eq, dayNumber_eq, hreadable year (by simp),
    hreadable month (by simp), hreadable day (by simp), List.map_cons, List.map_cons,
    List.map_cons, List.map_nil]
  show (pure _ >>= fun y => pure _ >>= fun m => pure _ >>= fun d => _) = _
  rw [pure_bind, pure_bind, pure_bind]
  cases List.findSome? overflow? _ with
  | some o => rfl
  | none => rfl

end Days

/-! ### Faults of extractors -/

theorem assignedValues_isRejection {reject : Reason → ExtractionError}
    (hreject : ∀ reason, (reject reason).isRejection = true) (decode : Bool)
    {found : List String} {error : ExtractionError}
    (h : assignedValues reject decode found = .error error) : error.isRejection = true := by
  induction found generalizing error with
  | nil => cases h
  | cons segment rest ih =>
      unfold assignedValues at h
      split at h
      · cases h
        exact hreject _
      · cases hrest : assignedValues reject decode rest with
        | error found =>
            rw [hrest] at h
            cases h
            exact ih hrest
        | ok values =>
            rw [hrest] at h
            cases h

theorem slashEncodedDay_extract_of_length_ne {path : String} (h : (segments path).length ≠ 3) :
    Extractor.slashEncodedDay.extract path = .error (.rejected
      ⟨path, Extractor.slashEncodedDay.name, .wrongDayDepth (segments path).length⟩) := by
  simp only [Extractor.extract]
  split
  · rename_i hsegments
    rw [hsegments] at h
    exact absurd rfl h
  · rfl

theorem slashEncodedDay_extract_of_segments {path year month day : String}
    (h : segments path = [year, month, day]) :
    Extractor.slashEncodedDay.extract path =
      (calendarDay (fun reason => .rejected ⟨path, Extractor.slashEncodedDay.name, reason⟩)
        year month day).map fun d => [d.dashed 1] := by
  simp only [Extractor.extract, h]

end TableSync.Partition
