import TableSync.Proofs.Partition.DayPath

/-!
# The texts of days

The text of a day has its month and its day in two digits, but its year in as few as it takes.  So
it is a date in the usual ten characters from the year 1000 on, and shorter before.  Texts come in
the order of the numerals of their years, which is the order of the years only among years of as
many digits; within a year they come in the order of the days.
-/

namespace TableSync.Partition

open TableSync.Config TableSync.Text TableSync.Calendar

/-- A text spells a day with the year in so many digits, the month and the day in two, and dashes
between them. -/
def SpellsDay (yearWidth : Nat) (text : String) (d : Date) : Prop :=
  ∃ year month day : List Char, text.toList = year ++ '-' :: (month ++ '-' :: day) ∧
    (∀ c ∈ year ++ month ++ day, '0' ≤ c ∧ c ≤ '9') ∧
    year.length = yearWidth ∧ month.length = 2 ∧ day.length = 2 ∧
    decimalValue year = d.year ∧ decimalValue month = d.month ∧ decimalValue day = d.day

/-- A day is earlier than another if its date comes first in the calendar. -/
def Earlier (d e : Date) : Prop :=
  ∃ date other, d.Agrees date ∧ e.Agrees other ∧ compare date other = .lt

theorem earlier_iff {d e : Date} (hd : d.Valid) (he : e.Valid) : Earlier d e ↔ d.Before e := by
  constructor
  · rintro ⟨date, other, hdate, hother, hcompare⟩
    exact (hdate.before_iff hother).mpr hcompare
  · intro hbefore
    obtain ⟨date, hdate⟩ := hd.exists_agrees
    obtain ⟨other, hother⟩ := he.exists_agrees
    exact ⟨date, other, hdate, hother, (hdate.before_iff hother).mp hbefore⟩

/-! ## Form -/

theorem length_month_of_valid {d : Date} (h : d.Valid) : (padded 2 d.month).toList.length = 2 := by
  obtain ⟨-, hmonth, -⟩ := h.bounds
  exact length_padded_of_lt (by decide) (by omega)

theorem length_day_of_valid {d : Date} (h : d.Valid) : (padded 2 d.day).toList.length = 2 := by
  obtain ⟨-, -, hday⟩ := h.bounds
  exact length_padded_of_lt (by decide) (by omega)

theorem spellsDay_dashed_iff {d : Date} (h : d.Valid) {width : Nat} :
    SpellsDay width (d.dashed 1) d ↔ width = (decimal d.year).length := by
  constructor
  · rintro ⟨year, month, day, htext, hdigits, rfl, -⟩
    have hdash : '-' ∉ year := by
      intro hmem
      have hdigit := hdigits '-' (List.mem_append_left _ (List.mem_append_left _ hmem))
      exact absurd hdigit (by decide)
    rw [toList_dashed] at htext
    obtain ⟨rfl, -⟩ := (append_separator_inj (dash_notMem_padded 1 d.year) hdash).mp htext
    rw [padded_one, String.length_toList]
  · rintro rfl
    refine ⟨_, _, _, toList_dashed 1 d, ?_, ?_, length_month_of_valid h, length_day_of_valid h,
      decimalValue_padded _ _, decimalValue_padded _ _, decimalValue_padded _ _⟩
    · intro c hc
      apply isAsciiDigit_iff.mp
      rcases List.mem_append.mp hc with hc | hc
      · rcases List.mem_append.mp hc with hc | hc
        · exact isAsciiDigit_of_mem_padded 1 _ hc
        · exact isAsciiDigit_of_mem_padded 2 _ hc
      · exact isAsciiDigit_of_mem_padded 2 _ hc
    · rw [padded_one, String.length_toList]

theorem length_dashed {d : Date} (h : d.Valid) :
    (d.dashed 1).length = (decimal d.year).length + 6 := by
  have hmonth := length_month_of_valid h
  have hday := length_day_of_valid h
  rw [← String.length_toList, toList_dashed]
  simp only [List.length_append, List.length_cons, hmonth, hday, padded_one, String.length_toList]

/-- Years have four digits from the year 1000 on. -/
theorem length_year_iff {d : Date} (h : d.Valid) : (decimal d.year).length = 4 ↔ 1000 ≤ d.year := by
  have hfour : (decimal d.year).length ≤ 4 :=
    (length_decimal_le_iff (by decide)).mpr (by have := h.2.1; omega)
  have hthree : (decimal d.year).length ≤ 3 ↔ d.year < 1000 := length_decimal_le_iff (by decide)
  omega

/-! ## Order -/

theorem dash_lt_of_mem_padded {width n : Nat} {c : Char} (h : c ∈ (padded width n).toList) :
    '-' < c := by
  have hdigit := isAsciiDigit_iff_toNat.mp (isAsciiDigit_of_mem_padded width n h)
  rw [Char.lt_def, UInt32.lt_iff_toNat_lt]
  show 45 < c.toNat
  omega

theorem dashed_lt_dashed_iff_padded {width : Nat} {d e : Date} :
    d.dashed width < e.dashed width ↔
      padded width d.year < padded width e.year ∨ d.year = e.year ∧
        (padded 2 d.month < padded 2 e.month ∨
          d.month = e.month ∧ padded 2 d.day < padded 2 e.day) := by
  have hdash (width n : Nat) : ∀ c ∈ (padded width n).toList, '-' < c :=
    fun _ => dash_lt_of_mem_padded
  rw [String.lt_iff, toList_dashed, toList_dashed, append_mark_lt_iff (hdash _ _) (hdash _ _),
    append_mark_lt_iff (hdash _ _) (hdash _ _)]
  simp only [String.toList_inj, padded_inj, ← String.lt_iff]

/-- Texts of days come in the order of the numerals of their years, then of the months and days. -/
theorem dashed_lt_dashed_iff {d e : Date} (hd : d.Valid) (he : e.Valid) :
    d.dashed 1 < e.dashed 1 ↔
      decimal d.year < decimal e.year ∨
        d.year = e.year ∧ (d.month < e.month ∨ d.month = e.month ∧ d.day < e.day) := by
  obtain ⟨-, hmonth, hday⟩ := hd.bounds
  obtain ⟨-, hmonth', hday'⟩ := he.bounds
  have hmonths : padded 2 d.month < padded 2 e.month ↔ d.month < e.month :=
    padded_lt_padded_iff (by decide) (by omega) (by omega)
  have hdays : padded 2 d.day < padded 2 e.day ↔ d.day < e.day :=
    padded_lt_padded_iff (by decide) (by omega) (by omega)
  rw [dashed_lt_dashed_iff_padded, padded_one, padded_one, hmonths, hdays]

/-- The order of the texts of two days is that of the days exactly if the numerals of their years
are in the order of the years. -/
theorem dashed_lt_iff_earlier_iff {d e : Date} (hd : d.Valid) (he : e.Valid) :
    (d.dashed 1 < e.dashed 1 ↔ Earlier d e) ↔
      (decimal d.year < decimal e.year ↔ d.year < e.year) := by
  rw [dashed_lt_dashed_iff hd he, earlier_iff hd he, Date.Before]
  by_cases hyear : d.year = e.year
  · simp [hyear]
  · simp [hyear]

/-- An accepted path has for its text the day with its month and its day in two digits, and its year
in as many as it takes; these are four, and the text has ten characters, from the year 1000 on.
Texts come in the order of the numerals of the years, then of the months and of the days.  That is
the order of the days where the numerals of the years are in the order of the years, as they are
where they have as many digits, and nowhere else. -/
theorem order_of_day_texts {path other : String} {values values' : List String}
    (h : Extractor.slashEncodedDay.extract path = .ok values)
    (h' : Extractor.slashEncodedDay.extract other = .ok values') :
    ∃ d e text text', DenotesDay path d ∧ DenotesDay other e ∧ values = [text] ∧
      values' = [text'] ∧
      (∀ width, SpellsDay width text d ↔ width = (decimal d.year).length) ∧
      ((decimal d.year).length = 4 ↔ 1000 ≤ d.year) ∧ (text.length = 10 ↔ 1000 ≤ d.year) ∧
      (text < text' ↔ decimal d.year < decimal e.year ∨
        d.year = e.year ∧ (d.month < e.month ∨ d.month = e.month ∧ d.day < e.day)) ∧
      ((text < text' ↔ Earlier d e) ↔ (decimal d.year < decimal e.year ↔ d.year < e.year)) ∧
      ((decimal d.year).length = (decimal e.year).length → (text < text' ↔ Earlier d e)) := by
  obtain ⟨d, hdenotes, rfl⟩ := extract_day_eq_ok_iff.mp h
  obtain ⟨e, hdenotes', rfl⟩ := extract_day_eq_ok_iff.mp h'
  have hd := (denotesDay_iff.mp hdenotes).2
  have he := (denotesDay_iff.mp hdenotes').2
  have hfour := length_year_iff hd
  have hlength := length_dashed hd
  refine ⟨d, e, _, _, hdenotes, hdenotes', rfl, rfl, fun _ => spellsDay_dashed_iff hd, hfour, ?_,
    dashed_lt_dashed_iff hd he, dashed_lt_iff_earlier_iff hd he, ?_⟩
  · omega
  · intro hdigits
    exact (dashed_lt_iff_earlier_iff hd he).mpr (decimal_lt_decimal_iff hdigits)

/-- The last day of the year 999 is earlier than the first of the year 1000, and its text is behind
the other one. -/
theorem order_of_day_texts_around_thousand :
    Extractor.slashEncodedDay.extract "0999/12/31" = .ok ["999-12-31"] ∧
      Extractor.slashEncodedDay.extract "1000/01/01" = .ok ["1000-01-01"] ∧
      ∃ d e, DenotesDay "0999/12/31" d ∧ DenotesDay "1000/01/01" e ∧
        ¬ SpellsDay 4 "999-12-31" d ∧ Earlier d e ∧ ¬ "999-12-31" < "1000-01-01" := by
  have haccepted : Extractor.slashEncodedDay.extract "0999/12/31" = .ok ["999-12-31"] :=
    ok_of_toOption (by decide +kernel)
  have haccepted' : Extractor.slashEncodedDay.extract "1000/01/01" = .ok ["1000-01-01"] :=
    ok_of_toOption (by decide +kernel)
  have hlast : (⟨999, 12, 31⟩ : Date).dashed 1 = "999-12-31" := by decide +kernel
  have hfirst : (⟨1000, 1, 1⟩ : Date).dashed 1 = "1000-01-01" := by decide +kernel
  obtain ⟨d, e, text, text', hdenotes, hdenotes', htext, htext', hspells, hfour, -⟩ :=
    order_of_day_texts haccepted haccepted'
  obtain rfl := List.head_eq_of_cons_eq htext
  obtain rfl := List.head_eq_of_cons_eq htext'
  obtain rfl := hdenotes.unique (extract_day_eq_dashed_iff.mp (hlast ▸ haccepted))
  obtain rfl := hdenotes'.unique (extract_day_eq_dashed_iff.mp (hfirst ▸ haccepted'))
  have hd := (denotesDay_iff.mp hdenotes).2
  have he := (denotesDay_iff.mp hdenotes').2
  refine ⟨haccepted, haccepted', _, _, hdenotes, hdenotes', ?_, ?_, by decide⟩
  · rw [hspells, eq_comm, hfour]
    decide
  · exact (earlier_iff hd he).mpr (.inl (by decide))

end TableSync.Partition
