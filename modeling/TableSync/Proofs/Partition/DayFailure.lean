import TableSync.Proofs.Occurrences
import TableSync.Proofs.Partition.DayPath

/-!
# Where days fail

The extractor of days fails in three ways, and which one it is depends on what is looked at first.
The segments are read as numbers from left to right, so the first that cannot be read decides; then
all three numbers have to fit a machine integer, so the first that does not decides; only then are
year, month and day checked, in this order.  Every other path denotes a day.
-/

namespace TableSync.Partition

open TableSync.Config TableSync.Text TableSync.Calendar

/-! ## Kinds of failure -/

/-- A path has the three segments of a day, and this is the first that is not read as a number. -/
structure StopsAt (path segment : String) : Prop where
  three : (segments path).length = 3
  first : IsFirst (fun part => ¬ IsNumeral (dayText part)) (segments path) segment

/-- A text has at least one digit and nothing else. -/
structure IsDigits (text : List Char) : Prop where
  nonempty : text ≠ []
  ascii : ∀ c ∈ text, '0' ≤ c ∧ c ≤ '9'

/-- Why a path is rejected: it has not three segments, or it stops at a text that is empty or has
something else than digits, or its numbers all fit a machine integer and are no day. -/
inductive RejectsDay (path : String) : Reason → Prop
  | depth (hlength : (segments path).length ≠ 3) :
      RejectsDay path (.wrongDayDepth (segments path).length)
  | text {segment : String} (hstops : StopsAt path segment)
      (htext : dayText segment = [] ∨ ∃ c ∈ dayText segment, ¬ ('0' ≤ c ∧ c ≤ '9')) :
      RejectsDay path (.notNumeric segment)
  | date {d : Date} {fault : DateFault} (hwrites : WritesDay path d)
      (hfit : ∀ n ∈ [d.year, d.month, d.day], n ≤ 2 ^ 31 - 1) (hfault : d.Fails fault) :
      RejectsDay path (.notCalendarDay fault)

/-- The overflow of a number beyond all machine integers. -/
def overflowOf (n : Nat) : Overflow :=
  if 2 ^ 63 - 1 < n then .long else .int

/-- What comes of a path that does not denote a day. -/
inductive DayFailure (path : String) : ExtractionError → Prop
  | rejected {reason : Reason} (h : RejectsDay path reason) :
      DayFailure path (.rejected ⟨path, Extractor.slashEncodedDay.name, reason⟩)
  | tooManyDigits {segment : String} (hstops : StopsAt path segment)
      (hdigits : IsDigits (dayText segment)) :
      DayFailure path (.tooManyDigits (dayText segment).length)
  | overflow {d : Date} {n : Nat} (hwrites : WritesDay path d)
      (hfirst : IsFirst (2 ^ 31 - 1 < ·) [d.year, d.month, d.day] n) :
      DayFailure path (.overflow (overflowOf n))

/-! ## Texts that are not read -/

theorem isNumber_iff {segment : String} :
    isNumber segment = true ↔ IsDigits (dayText segment) := by
  unfold isNumber
  simp only [Bool.and_eq_true, Bool.not_eq_true', List.isEmpty_eq_false_iff, List.all_eq_true,
    isAsciiDigit_iff]
  exact ⟨fun h => ⟨h.1, h.2⟩, fun h => ⟨h.nonempty, h.ascii⟩⟩

theorem isNumber_eq_false_iff {segment : String} :
    isNumber segment = false ↔
      dayText segment = [] ∨ ∃ c ∈ dayText segment, ¬ ('0' ≤ c ∧ c ≤ '9') := by
  rw [← Bool.not_eq_true, isNumber_iff]
  constructor
  · intro h
    by_cases hempty : dayText segment = []
    · exact .inl hempty
    · right
      by_contra hascii
      push Not at hascii
      exact h ⟨hempty, hascii⟩
  · rintro (hempty | ⟨c, hc, hother⟩) h
    · exact h.nonempty hempty
    · exact hother (h.ascii c hc)

/-- Digits that are not read are too many. -/
theorem IsDigits.long {text : List Char} (h : IsDigits text) (hnumeral : ¬ IsNumeral text) :
    4300 < text.length := by
  by_contra hshort
  exact hnumeral ⟨h.nonempty, h.ascii, by omega⟩

theorem stopsAt_iff {path year month day segment : String}
    (hsegments : segments path = [year, month, day]) :
    StopsAt path segment ↔
      [year, month, day].find? (fun part => !isReadable part) = some segment := by
  have htest (part : String) : (!isReadable part) = true ↔ ¬ IsNumeral (dayText part) := by
    rw [Bool.not_eq_true', ← Bool.not_eq_true, isReadable_iff]
  rw [← isFirst_iff_find?_eq_some htest, ← hsegments]
  refine ⟨StopsAt.first, fun h => ⟨?_, h⟩⟩
  rw [hsegments]
  rfl

/-! ## Numbers that do not fit -/

theorem overflow?_eq_some_iff {n : Nat} {o : Overflow} :
    overflow? n = some o ↔ 2 ^ 31 - 1 < n ∧ o = overflowOf n := by
  have hword : 2 ^ 31 - 1 < n ↔ 2 ^ 31 ≤ n := by omega
  have hlimit : 2 ^ 63 - 1 < n ↔ 2 ^ 63 ≤ n := by omega
  unfold overflow? overflowOf
  simp only [Nat.pow_eq, hword, hlimit]
  by_cases hlong : 2 ^ 63 ≤ n
  · rw [if_pos hlong, if_pos hlong, Option.some.injEq, eq_comm, and_iff_right (by omega)]
  · rw [if_neg hlong, if_neg hlong]
    by_cases hint : 2 ^ 31 ≤ n
    · rw [if_pos hint, Option.some.injEq, eq_comm, and_iff_right hint]
    · rw [if_neg hint]
      constructor
      · intro h
        cases h
      · rintro ⟨hlarge, -⟩
        exact absurd hlarge hint

theorem findSome?_overflow?_eq_some_iff {numbers : List Nat} {o : Overflow} :
    numbers.findSome? overflow? = some o ↔
      ∃ n, IsFirst (2 ^ 31 - 1 < ·) numbers n ∧ o = overflowOf n := by
  have hfits (n : Nat) : overflow? n = none ↔ ¬ 2 ^ 31 - 1 < n := by
    rw [overflow?_eq_none_iff, Nat.pow_eq]
    omega
  rw [List.findSome?_eq_some_iff]
  constructor
  · rintro ⟨before, n, after, hnumbers, hn, hbefore⟩
    obtain ⟨hlarge, ho⟩ := overflow?_eq_some_iff.mp hn
    exact ⟨n, ⟨before, after, hnumbers, fun m hm => (hfits m).mp (hbefore m hm), hlarge⟩, ho⟩
  · rintro ⟨n, ⟨before, after, hnumbers, hbefore, hlarge⟩, ho⟩
    exact ⟨before, n, after, hnumbers, overflow?_eq_some_iff.mpr ⟨hlarge, ho⟩,
      fun m hm => (hfits m).mpr (hbefore m hm)⟩

theorem findSome?_overflow?_eq_none {numbers : List Nat} :
    numbers.findSome? overflow? = none ↔ ∀ n ∈ numbers, n ≤ 2 ^ 31 - 1 := by
  simp only [List.findSome?_eq_none_iff, overflow?_eq_none_iff, Nat.pow_eq]
  refine forall₂_congr fun n _ => ?_
  omega

/-- The text of an overflow says which machine integer the number does not fit. -/
theorem message_eq_iff {n : Nat} {o : Overflow} :
    o.message = (if 2 ^ 63 - 1 < n then "Python int too large to convert to C long"
      else "signed integer is greater than maximum") ↔ o = overflowOf n := by
  unfold overflowOf
  split
  · cases o <;> decide
  · cases o <;> decide

/-! ## The three stages -/

section Stages

variable {path : String}

theorem extract_day_of_stopsAt {segment : String} (h : StopsAt path segment) :
    Extractor.slashEncodedDay.extract path = .error
      (unreadable (fun reason => .rejected ⟨path, Extractor.slashEncodedDay.name, reason⟩)
        segment) := by
  obtain ⟨year, month, day, hsegments⟩ := List.length_eq_three.mp h.three
  rw [slashEncodedDay_extract_of_segments hsegments,
    calendarDay_of_unreadable ((stopsAt_iff hsegments).mp h)]
  rfl

theorem extract_day_of_writesDay {d : Date} (h : WritesDay path d) :
    Extractor.slashEncodedDay.extract path =
      match [d.year, d.month, d.day].findSome? overflow? with
      | some o => .error (.overflow o)
      | none =>
          match Date.of? d.year d.month d.day with
          | .error fault => .error
              (.rejected ⟨path, Extractor.slashEncodedDay.name, .notCalendarDay fault⟩)
          | .ok date => .ok [date.dashed 1] := by
  obtain ⟨year, month, day, hsegments⟩ := List.length_eq_three.mp h.length_segments
  obtain ⟨hreadable, rfl⟩ := (writesDay_iff_of_segments hsegments).mp h
  have hfind : [year, month, day].find? (fun segment => !isReadable segment) = none := by
    simpa using hreadable
  rw [slashEncodedDay_extract_of_segments hsegments, calendarDay_of_readable hfind]
  simp only [List.map_cons, List.map_nil]
  cases [decimalValue (dayText year), decimalValue (dayText month),
      decimalValue (dayText day)].findSome? overflow? with
  | some o => rfl
  | none => cases Date.of? _ _ _ <;> rfl

/-- A path with three segments stops at one of them, or it writes three numbers. -/
theorem exists_stopsAt_or_writesDay (hlength : (segments path).length = 3) :
    (∃ segment, StopsAt path segment) ∨ ∃ d, WritesDay path d := by
  obtain ⟨year, month, day, hsegments⟩ := List.length_eq_three.mp hlength
  cases hfind : [year, month, day].find? fun segment => !isReadable segment with
  | some segment => exact .inl ⟨segment, (stopsAt_iff hsegments).mpr hfind⟩
  | none =>
      have hreadable : ∀ segment ∈ [year, month, day], isReadable segment = true := by
        simpa using hfind
      exact .inr ⟨_, (writesDay_iff_of_segments hsegments).mpr ⟨hreadable, rfl⟩⟩

/-- An error of the extractor of days is the failure of the path, and the other way round. -/
theorem extract_day_eq_error_iff {error : ExtractionError} :
    Extractor.slashEncodedDay.extract path = .error error ↔ DayFailure path error := by
  constructor
  · intro h
    by_cases hlength : (segments path).length = 3
    · rcases exists_stopsAt_or_writesDay hlength with ⟨segment, hstops⟩ | ⟨d, hwrites⟩
      · rw [extract_day_of_stopsAt hstops] at h
        cases hnumber : isNumber segment with
        | true =>
            rw [unreadable, if_pos hnumber] at h
            cases h
            exact .tooManyDigits hstops (isNumber_iff.mp hnumber)
        | false =>
            rw [unreadable, if_neg (Bool.eq_false_iff.mp hnumber)] at h
            cases h
            exact .rejected (.text hstops (isNumber_eq_false_iff.mp hnumber))
      · rw [extract_day_of_writesDay hwrites] at h
        cases hover : [d.year, d.month, d.day].findSome? overflow? with
        | some o =>
            rw [hover] at h
            cases h
            obtain ⟨n, hfirst, rfl⟩ := findSome?_overflow?_eq_some_iff.mp hover
            exact .overflow hwrites hfirst
        | none =>
            rw [hover] at h
            cases hdate : Date.of? d.year d.month d.day with
            | ok date =>
                rw [hdate] at h
                cases h
            | error fault =>
                rw [hdate] at h
                cases h
                exact .rejected (.date hwrites (findSome?_overflow?_eq_none.mp hover)
                  (Date.of?_eq_error_iff.mp hdate))
    · rw [slashEncodedDay_extract_of_length_ne hlength] at h
      cases h
      exact .rejected (.depth hlength)
  · intro h
    cases h with
    | rejected h =>
        cases h with
        | depth hlength => exact slashEncodedDay_extract_of_length_ne hlength
        | text hstops htext =>
            rw [extract_day_of_stopsAt hstops, unreadable,
              if_neg (Bool.eq_false_iff.mp (isNumber_eq_false_iff.mpr htext))]
        | date hwrites hfit hfault =>
            rw [extract_day_of_writesDay hwrites, findSome?_overflow?_eq_none.mpr hfit,
              Date.of?_eq_error_iff.mpr hfault]
    | tooManyDigits hstops hdigits =>
        rw [extract_day_of_stopsAt hstops, unreadable, if_pos (isNumber_iff.mpr hdigits)]
    | overflow hwrites hfirst =>
        rw [extract_day_of_writesDay hwrites,
          findSome?_overflow?_eq_some_iff.mpr ⟨_, hfirst, rfl⟩]

/-- A path overflows if it writes the numbers of a day and one of them fits no machine integer;
whether they make a day of the calendar is not looked at any more. -/
theorem extract_day_eq_overflow_iff {o : Overflow} :
    Extractor.slashEncodedDay.extract path = .error (.overflow o) ↔
      ∃ d, WritesDay path d ∧ [d.year, d.month, d.day].findSome? overflow? = some o := by
  simp only [extract_day_eq_error_iff, findSome?_overflow?_eq_some_iff]
  constructor
  · intro h
    cases h with
    | overflow hwrites hfirst => exact ⟨_, hwrites, _, hfirst, rfl⟩
  · rintro ⟨d, hwrites, n, hfirst, rfl⟩
    exact .overflow hwrites hfirst

end Stages

/-! ## Failing without a rejection -/

/-- A path on which the extractor of days fails without rejecting it: it stops at digits that are
too many to be read, or it writes a number that fits no machine integer. -/
inductive IsOversizedDay (path : String) : Prop
  | tooLong {segment : String} (hstops : StopsAt path segment)
      (hdigits : IsDigits (dayText segment)) : IsOversizedDay path
  | tooLarge {d : Date} {n : Nat} (hwrites : WritesDay path d)
      (hn : n ∈ [d.year, d.month, d.day]) (hlarge : 2 ^ 31 - 1 < n) : IsOversizedDay path

theorem slashEncodedDay_faultsOn_iff {path : String} :
    Extractor.slashEncodedDay.reader.FaultsOn path ↔ IsOversizedDay path := by
  constructor
  · rintro ⟨error, herror, hfault⟩
    cases extract_day_eq_error_iff.mp herror with
    | rejected h => cases hfault
    | tooManyDigits hstops hdigits => exact .tooLong hstops hdigits
    | overflow hwrites hfirst =>
        obtain ⟨n, hn, hlarge⟩ := exists_isFirst_iff.mp ⟨_, hfirst⟩
        exact .tooLarge hwrites hn hlarge
  · intro h
    cases h with
    | tooLong hstops hdigits =>
        exact ⟨_, extract_day_eq_error_iff.mpr (.tooManyDigits hstops hdigits), rfl⟩
    | tooLarge hwrites hn hlarge =>
        obtain ⟨m, hfirst⟩ := exists_isFirst_iff.mpr ⟨_, hn, hlarge⟩
        exact ⟨_, extract_day_eq_error_iff.mpr (.overflow hwrites hfirst), rfl⟩

/-- The extractors fail without rejecting on no other paths than oversized days. -/
theorem faultsOn_iff (extractor : Extractor) (path : String) :
    extractor.reader.FaultsOn path ↔ extractor = .slashEncodedDay ∧ IsOversizedDay path := by
  unfold PathReader.FaultsOn
  cases extractor with
  | nonPartitioned =>
      refine ⟨fun ⟨error, herror, _⟩ => ?_, fun h => nomatch h.1⟩
      cases herror
  | slashEncodedDay =>
      rw [and_iff_right rfl]
      exact slashEncodedDay_faultsOn_iff
  | hiveStyle decode =>
      refine ⟨fun ⟨error, herror, hfault⟩ => ?_, fun h => nomatch h.1⟩
      have hrejection := assignedValues_isRejection (fun _ => rfl) decode herror
      rw [hfault] at hrejection
      cases hrejection
  | multiPartKeys depth decode =>
      refine ⟨fun ⟨error, herror, hfault⟩ => ?_, fun h => nomatch h.1⟩
      have hextract : (if ((segments path).length : Int) = depth then _ else _) = _ := herror
      split at hextract
      · cases hextract
      · cases hextract
        cases hfault

instance (path : String) : Decidable (IsOversizedDay path) :=
  decidable_of_iff _ slashEncodedDay_faultsOn_iff

/-- The extractor of days rejects a path, under its own name and with the path, exactly for one of
three reasons.  It meets a number of too many digits exactly where a path stops at more than 4300
digits.  It overflows exactly where a path writes three numbers of which one is greater than the
largest machine integer, and the first such number decides on the text.  In all other cases the
path denotes a day, and the value is that day. -/
theorem outcomes_of_days (path : String) :
    (∀ rejection, Extractor.slashEncodedDay.extract path = .error (.rejected rejection) ↔
      rejection.path = path ∧ rejection.strategy = "SlashEncodedDayPartitionValueExtractor" ∧
        RejectsDay path rejection.reason) ∧
    (∀ count, Extractor.slashEncodedDay.extract path = .error (.tooManyDigits count) ↔
      ∃ segment, StopsAt path segment ∧ IsDigits (dayText segment) ∧ 4300 < count ∧
        count = (dayText segment).length) ∧
    (∀ o, Extractor.slashEncodedDay.extract path = .error (.overflow o) ↔
      ∃ d n, WritesDay path d ∧ IsFirst (2 ^ 31 - 1 < ·) [d.year, d.month, d.day] n ∧
        o.message = if 2 ^ 63 - 1 < n then "Python int too large to convert to C long"
          else "signed integer is greater than maximum") ∧
    ∀ values, Extractor.slashEncodedDay.extract path = .ok values ↔
      ∃ d, DenotesDay path d ∧ values = [d.dashed 1] := by
  refine ⟨fun rejection => ?_, fun count => ?_, fun o => ?_, fun values => extract_day_eq_ok_iff⟩
  · rw [extract_day_eq_error_iff]
    constructor
    · intro h
      cases h with
      | rejected h => exact ⟨rfl, rfl, h⟩
    · obtain ⟨found, strategy, reason⟩ := rejection
      rintro ⟨rfl, rfl, h⟩
      exact .rejected h
  · rw [extract_day_eq_error_iff]
    constructor
    · intro h
      cases h with
      | tooManyDigits hstops hdigits =>
          obtain ⟨-, -, -, -, hnumeral⟩ := hstops.first
          exact ⟨_, hstops, hdigits, hdigits.long hnumeral, rfl⟩
    · rintro ⟨segment, hstops, hdigits, -, rfl⟩
      exact .tooManyDigits hstops hdigits
  · rw [extract_day_eq_error_iff]
    simp only [message_eq_iff]
    constructor
    · intro h
      cases h with
      | overflow hwrites hfirst => exact ⟨_, _, hwrites, hfirst, rfl⟩
    · rintro ⟨d, n, hwrites, hfirst, rfl⟩
      exact .overflow hwrites hfirst

/-- A number beyond all machine integers comes before a month that does not exist, and a segment
that is no number before both. -/
example :
    Extractor.slashEncodedDay.extract "2024/13/9223372036854775808" =
        .error (.overflow .long) ∧
      Extractor.slashEncodedDay.extract "9223372036854775808/13/x" =
        .error (.rejected ⟨"9223372036854775808/13/x", "SlashEncodedDayPartitionValueExtractor",
          .notNumeric "x"⟩) :=
  ⟨by rfl, by rfl⟩

end TableSync.Partition
