import TableSync.Proofs.Calendar.Gregorian
import TableSync.Proofs.Partition.Fault
import TableSync.Proofs.Partition.Segments
import TableSync.Proofs.Text.Numerals

/-!
# Paths of days

A path denotes a day if its three segments write the year, the month and the day of a date of the
calendar.  These are the paths that the extractor of days accepts, and its one value says no more
than which day it is: paths of one day have one value, and paths of different days have different
ones.  The value is itself a path of its day once its dashes are slashes.  Three numbers that can be
read are not always looked up in the calendar: one of them may be beyond all machine integers.
-/

namespace TableSync.Partition

open TableSync.Config TableSync.Text TableSync.Calendar

/-! ## Numbers in segments -/

/-- A numeral that can be read. -/
structure IsNumeral (digits : List Char) : Prop where
  nonempty : digits ≠ []
  ascii : ∀ c ∈ digits, '0' ≤ c ∧ c ≤ '9'
  short : digits.length ≤ 4300

/-- A segment writes a number as a numeral, which may stand behind a name and `=`. -/
inductive Writes : String → Nat → Prop
  | plain {digits : List Char} (numeral : IsNumeral digits) :
      Writes (String.ofList digits) (decimalValue digits)
  | named {name digits : List Char} (equals : '=' ∉ name) (slash : '/' ∉ name)
      (numeral : IsNumeral digits) :
      Writes (String.ofList (name ++ '=' :: digits)) (decimalValue digits)

theorem IsNumeral.all_isAsciiDigit {digits : List Char} (h : IsNumeral digits) :
    digits.all isAsciiDigit = true := by
  rw [List.all_eq_true]
  intro c hc
  exact isAsciiDigit_iff.mpr (h.ascii c hc)

theorem IsNumeral.notMem {digits : List Char} (h : IsNumeral digits) {c : Char}
    (hc : isAsciiDigit c = false) : c ∉ digits := by
  intro hmem
  have hdigit := List.all_eq_true.mp h.all_isAsciiDigit c hmem
  rw [hc] at hdigit
  cases hdigit

theorem isReadable_iff {segment : String} :
    isReadable segment = true ↔ IsNumeral (dayText segment) := by
  unfold isReadable isNumber
  simp only [Bool.and_eq_true, Bool.not_eq_true', List.isEmpty_eq_false_iff, List.all_eq_true,
    decide_eq_true_eq]
  constructor
  · rintro ⟨⟨hnonempty, hdigits⟩, hshort⟩
    exact ⟨hnonempty, fun c hc => isAsciiDigit_iff.mp (hdigits c hc), hshort⟩
  · intro h
    exact ⟨⟨h.nonempty, List.all_eq_true.mp h.all_isAsciiDigit⟩, h.short⟩

theorem dayText_of_plain {digits : List Char} (h : '=' ∉ digits) :
    dayText (String.ofList digits) = digits := by
  unfold dayText assignedValue?
  rw [String.toList_ofList, cut?_eq_none_iff.mpr h]
  exact String.toList_ofList

theorem dayText_of_named {name : List Char} (h : '=' ∉ name) (digits : List Char) :
    dayText (String.ofList (name ++ '=' :: digits)) = digits := by
  unfold dayText assignedValue?
  rw [String.toList_ofList, cut?_eq_some_iff.mpr ⟨rfl, h⟩]
  exact String.toList_ofList

/-- A segment writes a number if its text behind a name, if it has one, can be read. -/
theorem writes_iff {segment : String} (hslash : '/' ∉ segment.toList) {n : Nat} :
    Writes segment n ↔ isReadable segment = true ∧ n = decimalValue (dayText segment) := by
  rw [isReadable_iff]
  constructor
  · intro h
    cases h with
    | plain numeral =>
        rw [dayText_of_plain (numeral.notMem rfl)]
        exact ⟨numeral, rfl⟩
    | named equals slash numeral =>
        rw [dayText_of_named equals]
        exact ⟨numeral, rfl⟩
  · rintro ⟨hnumeral, rfl⟩
    cases hcut : cut? '=' segment.toList with
    | none =>
        have htext : dayText segment = segment.toList := by
          have hplain := dayText_of_plain (cut?_eq_none_iff.mp hcut)
          rwa [String.ofList_toList] at hplain
        rw [htext] at hnumeral ⊢
        have hwrites := Writes.plain hnumeral
        rwa [String.ofList_toList] at hwrites
    | some parts =>
        obtain ⟨name, digits⟩ := parts
        obtain ⟨hsegment, hequals⟩ := cut?_eq_some_iff.mp hcut
        have hname : '/' ∉ name := by
          intro hmem
          apply hslash
          rw [hsegment]
          exact List.mem_append_left _ hmem
        have htext : dayText segment = digits := by
          have hnamed := dayText_of_named hequals digits
          rwa [← hsegment, String.ofList_toList] at hnamed
        rw [htext] at hnumeral ⊢
        have hwrites := Writes.named hequals hname hnumeral
        rwa [← hsegment, String.ofList_toList] at hwrites

theorem Writes.slash_notMem {segment : String} {n : Nat} (h : Writes segment n) :
    '/' ∉ segment.toList := by
  cases h with
  | plain numeral =>
      rw [String.toList_ofList]
      exact numeral.notMem rfl
  | named equals slash numeral =>
      rw [String.toList_ofList, List.mem_append, List.mem_cons]
      rintro (hmem | hmem | hmem)
      · exact slash hmem
      · exact absurd hmem (by decide)
      · exact numeral.notMem rfl hmem

theorem Writes.ne_empty {segment : String} {n : Nat} (h : Writes segment n) : segment ≠ "" := by
  intro hempty
  have hnil : segment.toList = [] := String.toList_eq_nil_iff.mpr hempty
  cases h with
  | plain numeral =>
      rw [String.toList_ofList] at hnil
      exact numeral.nonempty hnil
  | named equals slash numeral =>
      rw [String.toList_ofList] at hnil
      exact List.append_ne_nil_of_right_ne_nil _ (List.cons_ne_nil _ _) hnil

/-! ## Days in paths -/

/-- A path, but for slashes at its ends, writes the numbers of a day in three segments. -/
inductive WritesDay : String → Date → Prop
  | intro (before after : Nat) {year month day : String} {d : Date} (hyear : Writes year d.year)
      (hmonth : Writes month d.month) (hday : Writes day d.day) :
      WritesDay (slashedPath before after [year, month, day]) d

/-- A path denotes a day of the calendar in the years 1 to 9999. -/
structure DenotesDay (path : String) (d : Date) : Prop where
  writes : WritesDay path d
  low : 1 ≤ d.year
  high : d.year ≤ 9999
  calendar : ∃ date, d.Agrees date

theorem denotesDay_iff {path : String} {d : Date} :
    DenotesDay path d ↔ WritesDay path d ∧ d.Valid := by
  rw [Date.valid_iff]
  constructor
  · rintro ⟨hwrites, hlow, hhigh, hcalendar⟩
    exact ⟨hwrites, hlow, hhigh, hcalendar⟩
  · rintro ⟨hwrites, hlow, hhigh, hcalendar⟩
    exact ⟨hwrites, hlow, hhigh, hcalendar⟩

theorem writesDay_iff {path : String} {d : Date} :
    WritesDay path d ↔
      ∃ year month day, segments path = [year, month, day] ∧ Writes year d.year ∧
        Writes month d.month ∧ Writes day d.day := by
  constructor
  · rintro ⟨before, after, hyear, hmonth, hday⟩
    rename_i year month day
    refine ⟨year, month, day, ?_, hyear, hmonth, hday⟩
    apply segments_slashedPath
    · intro part hpart
      simp only [List.mem_cons, List.not_mem_nil, or_false] at hpart
      rcases hpart with rfl | rfl | rfl
      · exact hyear.slash_notMem
      · exact hmonth.slash_notMem
      · exact hday.slash_notMem
    · intro part hpart
      cases hpart
      exact hyear.ne_empty
    · intro part hpart
      cases hpart
      exact hday.ne_empty
  · rintro ⟨year, month, day, hsegments, hyear, hmonth, hday⟩
    obtain ⟨before, after, hpath⟩ := exists_slashedPath path
    rw [hsegments] at hpath
    rw [hpath]
    exact .intro before after hyear hmonth hday

theorem WritesDay.length_segments {path : String} {d : Date} (h : WritesDay path d) :
    (segments path).length = 3 := by
  obtain ⟨year, month, day, hsegments, -⟩ := writesDay_iff.mp h
  rw [hsegments]
  rfl

/-! ## Acceptance -/

/-- The numbers of a day all fit a machine integer. -/
theorem findSome?_overflow?_of_valid {d : Date} (h : d.Valid) :
    [d.year, d.month, d.day].findSome? overflow? = none := by
  have hlimit : 9999 < Nat.pow 2 31 := by decide
  obtain ⟨hyear, hmonth, hday⟩ := h.bounds
  simp only [List.findSome?_eq_none_iff, List.mem_cons, List.not_mem_nil, or_false,
    forall_eq_or_imp, forall_eq, overflow?_eq_none_iff]
  omega

theorem calendarDay_eq_ok_iff {reject : Reason → ExtractionError} {year month day : String}
    {d : Date} :
    calendarDay reject year month day = .ok d ↔
      (∀ segment ∈ [year, month, day], isReadable segment = true) ∧
        d = ⟨decimalValue (dayText year), decimalValue (dayText month),
          decimalValue (dayText day)⟩ ∧ d.Valid := by
  cases hfind : [year, month, day].find? fun segment => !isReadable segment with
  | some segment =>
      rw [calendarDay_of_unreadable hfind]
      have hunreadable : isReadable segment = false := by simpa using List.find?_some hfind
      constructor
      · intro h
        cases h
      · rintro ⟨hreadable, -⟩
        rw [hreadable segment (List.mem_of_find?_eq_some hfind)] at hunreadable
        cases hunreadable
  | none =>
      have hreadable : ∀ segment ∈ [year, month, day], isReadable segment = true := by
        simpa using hfind
      rw [calendarDay_of_readable hfind, and_iff_right hreadable, ← Date.of?_eq_ok_iff]
      cases hover : ([year, month, day].map fun segment =>
          decimalValue (dayText segment)).findSome? overflow? with
      | none =>
          cases Date.of? (decimalValue (dayText year)) (decimalValue (dayText month))
            (decimalValue (dayText day)) <;> simp
      | some o =>
          constructor
          · intro h
            cases h
          · intro h
            obtain ⟨rfl, hvalid⟩ := Date.of?_eq_ok_iff.mp h
            have hnone := findSome?_overflow?_of_valid hvalid
            cases hnone.symm.trans hover

theorem writesDay_iff_of_segments {path year month day : String}
    (hsegments : segments path = [year, month, day]) {d : Date} :
    WritesDay path d ↔
      (∀ segment ∈ [year, month, day], isReadable segment = true) ∧
        d = ⟨decimalValue (dayText year), decimalValue (dayText month),
          decimalValue (dayText day)⟩ := by
  have hslash (segment : String) (hmem : segment ∈ [year, month, day]) : '/' ∉ segment.toList :=
    slash_notMem_of_mem_segments (hsegments ▸ hmem)
  have hwrites : WritesDay path d ↔
      Writes year d.year ∧ Writes month d.month ∧ Writes day d.day := by
    rw [writesDay_iff, hsegments]
    constructor
    · rintro ⟨_, _, _, hsame, h⟩
      cases hsame
      exact h
    · intro h
      exact ⟨year, month, day, rfl, h⟩
  rw [hwrites, writes_iff (hslash year (by simp)), writes_iff (hslash month (by simp)),
    writes_iff (hslash day (by simp))]
  obtain ⟨y, m, d⟩ := d
  simp only [List.mem_cons, List.not_mem_nil, or_false, forall_eq_or_imp, forall_eq,
    Date.mk.injEq]
  constructor
  · rintro ⟨⟨hyear, rfl⟩, ⟨hmonth, rfl⟩, hday, rfl⟩
    exact ⟨⟨hyear, hmonth, hday⟩, rfl, rfl, rfl⟩
  · rintro ⟨⟨hyear, hmonth, hday⟩, rfl, rfl, rfl⟩
    exact ⟨⟨hyear, rfl⟩, ⟨hmonth, rfl⟩, hday, rfl⟩

theorem calendarDay_eq_ok_iff_denotesDay {path year month day : String}
    (hsegments : segments path = [year, month, day]) (reject : Reason → ExtractionError)
    {d : Date} : calendarDay reject year month day = .ok d ↔ DenotesDay path d := by
  rw [denotesDay_iff, writesDay_iff_of_segments hsegments, calendarDay_eq_ok_iff, and_assoc]

/-- The extractor of days accepts the paths that denote a day, and gives the day with dashes. -/
theorem extract_day_eq_ok_iff {path : String} {values : List String} :
    Extractor.slashEncodedDay.extract path = .ok values ↔
      ∃ d, DenotesDay path d ∧ values = [d.dashed 1] := by
  by_cases hlength : (segments path).length = 3
  · obtain ⟨year, month, day, hsegments⟩ := List.length_eq_three.mp hlength
    let reject (reason : Reason) : ExtractionError :=
      .rejected ⟨path, Extractor.slashEncodedDay.name, reason⟩
    rw [slashEncodedDay_extract_of_segments hsegments]
    simp only [← calendarDay_eq_ok_iff_denotesDay hsegments reject]
    show (calendarDay reject year month day).map _ = _ ↔ _
    cases calendarDay reject year month day with
    | error error => simp [Except.map]
    | ok d => simp [Except.map, eq_comm]
  · rw [slashEncodedDay_extract_of_length_ne hlength]
    constructor
    · intro h
      cases h
    · rintro ⟨d, hdenotes, -⟩
      exact absurd hdenotes.writes.length_segments hlength

/-! ## Values -/

theorem toList_dashed (width : Nat) (d : Date) :
    (d.dashed width).toList =
      (padded width d.year).toList ++ '-' ::
        ((padded 2 d.month).toList ++ '-' :: (padded 2 d.day).toList) := by
  simp [Date.dashed]

theorem dash_notMem_padded (width n : Nat) : '-' ∉ (padded width n).toList := by
  intro hmem
  exact absurd (isAsciiDigit_of_mem_padded width n hmem) (by decide)

/-- A day with dashes says which day it is. -/
theorem dashed_inj {width : Nat} {d e : Date} : d.dashed width = e.dashed width ↔ d = e := by
  constructor
  · intro h
    have hlists := congrArg String.toList h
    rw [toList_dashed, toList_dashed] at hlists
    obtain ⟨hyear, hrest⟩ := (append_separator_inj (dash_notMem_padded width d.year)
      (dash_notMem_padded width e.year)).mp hlists
    obtain ⟨hmonth, hday⟩ := (append_separator_inj (dash_notMem_padded 2 d.month)
      (dash_notMem_padded 2 e.month)).mp hrest
    have hyears := (padded_inj _).mp (String.toList_injective hyear)
    have hmonths := (padded_inj _).mp (String.toList_injective hmonth)
    have hdays := (padded_inj _).mp (String.toList_injective hday)
    obtain ⟨year, month, day⟩ := d
    obtain ⟨year', month', day'⟩ := e
    rw [Date.mk.injEq]
    exact ⟨hyears, hmonths, hdays⟩
  · rintro rfl
    rfl

theorem extract_day_eq_dashed_iff {path : String} {d : Date} :
    Extractor.slashEncodedDay.extract path = .ok [d.dashed 1] ↔ DenotesDay path d := by
  rw [extract_day_eq_ok_iff]
  constructor
  · rintro ⟨e, hdenotes, htexts⟩
    rwa [dashed_inj.mp (List.head_eq_of_cons_eq htexts)]
  · intro hdenotes
    exact ⟨d, hdenotes, rfl⟩

theorem DenotesDay.unique {path : String} {d e : Date} (h : DenotesDay path d)
    (h' : DenotesDay path e) : d = e := by
  have hd := extract_day_eq_dashed_iff.mpr h
  have he := extract_day_eq_dashed_iff.mpr h'
  have htexts := List.head_eq_of_cons_eq (Except.ok.inj (hd.symm.trans he))
  exact dashed_inj.mp htexts

def slashed (text : String) : String :=
  text.map fun c => if c = '-' then '/' else c

theorem map_slash_of_notMem {cs : List Char} (h : '-' ∉ cs) :
    cs.map (fun c => if c = '-' then '/' else c) = cs := by
  have hsame : ∀ c ∈ cs, (if c = '-' then '/' else c) = id c := by
    intro c hc
    have hdash : c ≠ '-' := by
      rintro rfl
      exact h hc
    rw [if_neg hdash, id_eq]
  rw [List.map_congr_left hsame, List.map_id]

theorem slashed_dashed (width : Nat) (d : Date) :
    slashed (d.dashed width) =
      slashedPath 0 0 [padded width d.year, padded 2 d.month, padded 2 d.day] := by
  apply String.toList_injective
  rw [slashed, String.toList_map, toList_dashed, toList_slashedPath]
  simp only [List.map_append, List.map_cons, map_slash_of_notMem (dash_notMem_padded _ _),
    if_pos, List.map_nil, List.replicate_zero, List.nil_append, List.append_nil,
    List.intercalate_cons_cons, List.intercalate_singleton, List.append_assoc,
    List.singleton_append]

theorem writes_padded {width n : Nat} (hwidth : width ≤ 4) (hn : n ≤ 9999) :
    Writes (padded width n) n := by
  have hlength : (padded width n).toList.length ≤ 4 := by
    have hdigits : (Nat.toDigits 10 n).length ≤ 4 :=
      (Nat.length_toDigits_le_iff (by decide) (by decide)).mpr (by omega)
    rw [length_padded]
    omega
  have hnumeral : IsNumeral (padded width n).toList := by
    refine ⟨?_, ?_, by omega⟩
    · rw [toList_padded]
      exact List.append_ne_nil_of_right_ne_nil _ Nat.toDigits_ne_nil
    · intro c hc
      exact isAsciiDigit_iff.mp (isAsciiDigit_of_mem_padded width n hc)
  have hwrites := Writes.plain hnumeral
  rwa [String.ofList_toList, decimalValue_padded] at hwrites

/-- A day with its dashes made slashes is a path of the day. -/
theorem DenotesDay.slashed {path : String} {d : Date} (h : DenotesDay path d) :
    DenotesDay (slashed (d.dashed 1)) d := by
  obtain ⟨hwrites, hvalid⟩ := denotesDay_iff.mp h
  obtain ⟨hyear, hmonth, hday⟩ := hvalid.bounds
  refine denotesDay_iff.mpr ⟨?_, hvalid⟩
  rw [slashed_dashed]
  exact .intro 0 0 (writes_padded (by decide) hyear) (writes_padded (by decide) (by omega))
    (writes_padded (by decide) (by omega))

/-- The extractor of days accepts exactly the paths that denote a day of the calendar.  An accepted
path denotes one day and has one value, which exactly the paths of this day have; and this value,
with slashes in place of dashes, is one of them. -/
theorem accepts_days_of_calendar (path : String) :
    ((∃ values, Extractor.slashEncodedDay.extract path = .ok values) ↔
      ∃ d, DenotesDay path d) ∧
    ∀ values, Extractor.slashEncodedDay.extract path = .ok values →
      ∃ text d, values = [text] ∧ (∀ e, DenotesDay path e ↔ e = d) ∧
        (∀ other, Extractor.slashEncodedDay.extract other = .ok [text] ↔ DenotesDay other d) ∧
        Extractor.slashEncodedDay.extract (slashed text) = .ok [text] := by
  constructor
  · constructor
    · rintro ⟨values, h⟩
      obtain ⟨d, hdenotes, -⟩ := extract_day_eq_ok_iff.mp h
      exact ⟨d, hdenotes⟩
    · rintro ⟨d, hdenotes⟩
      exact ⟨_, extract_day_eq_ok_iff.mpr ⟨d, hdenotes, rfl⟩⟩
  · intro values h
    obtain ⟨d, hdenotes, rfl⟩ := extract_day_eq_ok_iff.mp h
    refine ⟨d.dashed 1, d, rfl, fun e => ⟨fun he => he.unique hdenotes, ?_⟩,
      fun other => extract_day_eq_dashed_iff, ?_⟩
    · rintro rfl
      exact hdenotes
    · exact extract_day_eq_dashed_iff.mpr hdenotes.slashed

/-- A leap day of an early year, with names for its segments and without. -/
theorem accepts_leap_day :
    Extractor.slashEncodedDay.extract "/year=0996/=2/0029//" = .ok ["996-02-29"] ∧
      ∃ d, (∀ e, DenotesDay "/year=0996/=2/0029//" e ↔ e = d) ∧
        (∀ other,
          Extractor.slashEncodedDay.extract other = .ok ["996-02-29"] ↔ DenotesDay other d) ∧
        Extractor.slashEncodedDay.extract "996/02/29" = .ok ["996-02-29"] := by
  have haccepted : Extractor.slashEncodedDay.extract "/year=0996/=2/0029//" = .ok ["996-02-29"] :=
    ok_of_toOption (by decide +kernel)
  have hslashed : slashed "996-02-29" = "996/02/29" := by decide +kernel
  obtain ⟨text, d, htext, hday, hothers, hagain⟩ :=
    (accepts_days_of_calendar "/year=0996/=2/0029//").2 _ haccepted
  obtain rfl := List.head_eq_of_cons_eq htext
  rw [hslashed] at hagain
  exact ⟨haccepted, d, hday, hothers, hagain⟩

end TableSync.Partition
