import TableSync.CommandLine.Collect

/-!
# What the sources of a run see

Collecting properties asks for the files to which the sources resolve, and for no others.  So two
file systems that differ only under some names give the same properties, as long as no source
resolves to one of the names.  Trees that differ in one file are such file systems.
-/

namespace TableSync.Files

/-- Whether what is found is a file that can be read, or nothing that can be: in neither case does
it stop a search for files. -/
def Lookup.isPlain : Lookup → Bool
  | .file _ | .directory | .missing | .notDirectory => true
  | .tooLong | .denied => false

/-- Two file systems that show the same but under some names, where each may hold a file or not. -/
structure DifferOnlyIn (names : String → Prop) (files others : FileSystem) : Prop where
  elsewhere : ∀ path, ¬ names path → files path = others path
  there : ∀ path, names path → (files path).isPlain ∧ (others path).isPlain

end TableSync.Files

namespace TableSync.Document

open TableSync.Files TableSync.Text

/-- A source resolves to the first of its candidates that is a file. -/
def ResolvesTo (files : FileSystem) (source path : String) : Prop :=
  ∃ paths content, candidates "." source = .ok paths ∧
    firstFile files paths = .ok (some (path, content))

/-- A plain name is the one that is searched for, or it is passed over. -/
theorem firstFile_cons_of_isPlain {files : FileSystem} {path : String} (paths : List String)
    (hnull : ¬ path.toList.contains '\x00' = true) (hplain : (files path).isPlain = true) :
    (∃ content, firstFile files (path :: paths) = .ok (some (path, content))) ∨
      firstFile files (path :: paths) = firstFile files paths := by
  rw [firstFile, if_neg hnull]
  cases hfound : files path with
  | file content => exact .inl ⟨content, rfl⟩
  | directory => exact .inr rfl
  | missing => exact .inr rfl
  | notDirectory => exact .inr rfl
  | tooLong => simp [hfound, Lookup.isPlain] at hplain
  | denied => simp [hfound, Lookup.isPlain] at hplain

section Difference

variable {names : String → Prop} {files others : FileSystem}

/-- A search that finds none of the names in either file system comes to the same in both. -/
theorem firstFile_eq_of_differOnlyIn (h : DifferOnlyIn names files others) {paths : List String}
    (hfiles : ∀ path content, firstFile files paths = .ok (some (path, content)) → ¬ names path)
    (hothers : ∀ path content,
      firstFile others paths = .ok (some (path, content)) → ¬ names path) :
    firstFile files paths = firstFile others paths := by
  induction paths with
  | nil => rfl
  | cons path paths ih =>
      by_cases hnull : path.toList.contains '\x00' = true
      · rw [firstFile, if_pos hnull] at hfiles hothers ⊢
        rw [firstFile, if_pos hnull]
        exact ih hfiles hothers
      · by_cases hnames : names path
        · obtain ⟨hplain, hplain'⟩ := h.there path hnames
          rcases firstFile_cons_of_isPlain paths hnull hplain with ⟨content, hfound⟩ | hpassed
          · exact absurd hnames (hfiles path content hfound)
          · rcases firstFile_cons_of_isPlain paths hnull hplain' with ⟨content, hfound⟩ | hpassed'
            · exact absurd hnames (hothers path content hfound)
            · rw [hpassed] at hfiles ⊢
              rw [hpassed'] at hothers ⊢
              exact ih hfiles hothers
        · have hsame := h.elsewhere path hnames
          rw [firstFile, if_neg hnull] at hfiles hothers ⊢
          rw [firstFile, if_neg hnull]
          rw [← hsame] at hothers ⊢
          cases hfound : files path with
          | file content => rfl
          | tooLong => rfl
          | denied => rfl
          | directory =>
              rw [hfound] at hfiles hothers
              exact ih hfiles hothers
          | missing =>
              rw [hfound] at hfiles hothers
              exact ih hfiles hothers
          | notDirectory =>
              rw [hfound] at hfiles hothers
              exact ih hfiles hothers

theorem loadProperties_eq_of_differOnlyIn (h : DifferOnlyIn names files others) {source : String}
    (hfiles : ∀ path, ResolvesTo files source path → ¬ names path)
    (hothers : ∀ path, ResolvesTo others source path → ¬ names path) :
    loadProperties files source = loadProperties others source := by
  unfold loadProperties
  cases hpaths : candidates "." source with
  | error e => rfl
  | ok paths =>
      have hfirst : firstFile files paths = firstFile others paths :=
        firstFile_eq_of_differOnlyIn h
          (fun path content hfound => hfiles path ⟨paths, content, hpaths, hfound⟩)
          (fun path content hfound => hothers path ⟨paths, content, hpaths, hfound⟩)
      show (firstFile files paths >>= _) = (firstFile others paths >>= _)
      rw [hfirst]

end Difference

end TableSync.Document

namespace TableSync.CommandLine

open TableSync.Files TableSync.Document

variable {names : String → Prop} {files others : FileSystem}

theorem withSources_congr {sources : List String}
    (h : ∀ source ∈ sources, loadProperties files source = loadProperties others source)
    (bag : PropertyBag Text) : withSources files bag sources = withSources others bag sources := by
  induction sources generalizing bag with
  | nil => rfl
  | cons source rest ih =>
      rw [withSources_cons, withSources_cons, h source (List.mem_cons_self ..)]
      cases loadProperties others source with
      | error e => rfl
      | ok properties => exact ih (fun s hs => h s (List.mem_cons_of_mem _ hs)) _

/-- File systems that differ where no source of a run resolves to give it the same properties. -/
theorem collectProperties_eq_of_differOnlyIn (h : DifferOnlyIn names files others) {a : Arguments}
    (hsources : ∀ source ∈ a.sources, ∀ path, names path →
      ¬ ResolvesTo files source path ∧ ¬ ResolvesTo others source path) :
    collectProperties files a = collectProperties others a := by
  have hload : ∀ source ∈ a.sources, loadProperties files source = loadProperties others source :=
    fun source hsource => loadProperties_eq_of_differOnlyIn h
      (fun path hresolves hnames => (hsources source hsource path hnames).1 hresolves)
      (fun path hresolves hnames => (hsources source hsource path hnames).2 hresolves)
  show (withSources files .empty a.sources >>= _) = (withSources others .empty a.sources >>= _)
  rw [withSources_congr hload]

end TableSync.CommandLine

/-! ## Trees that differ in one file -/

namespace TableSync.Files.FileTree

/-- Two trees with different entries at one place only, and there a file or nothing. -/
structure DifferAt (place : List String) (t u : FileTree) : Prop where
  working : t.working = u.working
  elsewhere : ∀ other, other ≠ place → t.entry? other = u.entry? other
  there : t.entry? place ≠ some .directory ∧ u.entry? place ≠ some .directory

variable {place : List String} {t u : FileTree}

theorem isPlain_walk_of_ne_directory {start : List String} (h : t.entry? start ≠ some .directory)
    (names : List String) : (t.walk start names).isPlain = true := by
  cases hentry : t.entry? start with
  | none => cases names <;> simp [walk, hentry, Lookup.isPlain]
  | some e =>
      cases e with
      | file content => cases names <;> simp [walk, hentry, Lookup.isPlain]
      | directory => exact absurd hentry h

/-- A walk is the same in both trees unless it comes to the place of the difference; and there it
ends. -/
theorem walk_eq_or_isPlain (h : DifferAt place t u) (start names : List String) :
    t.walk start names = u.walk start names ∨
      (t.walk start names).isPlain = true ∧ (u.walk start names).isPlain = true := by
  induction names generalizing start with
  | nil =>
      by_cases hplace : start = place
      · subst hplace
        exact .inr ⟨isPlain_walk_of_ne_directory h.there.1 [],
          isPlain_walk_of_ne_directory h.there.2 []⟩
      · left
        rw [walk, walk, h.elsewhere start hplace]
  | cons name names ih =>
      by_cases hplace : start = place
      · subst hplace
        exact .inr ⟨isPlain_walk_of_ne_directory h.there.1 _,
          isPlain_walk_of_ne_directory h.there.2 _⟩
      · rw [walk, walk, h.elsewhere start hplace]
        cases u.entry? start with
        | none => exact .inl rfl
        | some e =>
            cases e with
            | file content => exact .inl rfl
            | directory =>
                dsimp only
                split
                · exact ih start
                · split
                  · exact ih start.dropLast
                  · split
                    · exact .inl rfl
                    · exact ih (start ++ [name])

/-- Trees that differ in one file are file systems that differ under the names of that file. -/
theorem differOnlyIn_of_differAt (h : DifferAt place t u) :
    DifferOnlyIn (fun path => t.lookup path ≠ u.lookup path) t.lookup u.lookup where
  elsewhere _ hsame := Classical.not_not.mp hsame
  there path hdiffer := by
    have hwalk : t.lookup path = u.lookup path ∨
        (t.lookup path).isPlain = true ∧ (u.lookup path).isPlain = true := by
      unfold lookup
      rw [h.working]
      split
      · exact .inl rfl
      · split
        · exact .inl rfl
        · exact walk_eq_or_isPlain h _ _
    exact hwalk.resolve_left hdiffer

/-- A tree with one more file in its working directory. -/
def withFile (t : FileTree) (name : String) (content : List UInt8) : FileTree :=
  { t with entries := (t.working ++ [name], .file content) :: t.entries }

/-- A file more in the working directory makes a difference there and nowhere else. -/
theorem differAt_withFile {name : String} (h : t.entry? (t.working ++ [name]) = none)
    (content : List UInt8) : DifferAt (t.working ++ [name]) t (t.withFile name content) where
  working := rfl
  elsewhere other hother := by
    have hway : other.isPrefixOf (t.working ++ [name]) = true →
        other.isPrefixOf t.working = true := by
      rw [List.isPrefixOf_iff_prefix, List.isPrefixOf_iff_prefix, List.prefix_concat_iff]
      exact fun hway => hway.resolve_left hother
    unfold entry? withFile
    rw [List.lookup_cons, beq_false_of_ne hother]
    dsimp only
    cases t.entries.lookup other with
    | some e => rfl
    | none =>
        dsimp only
        by_cases hworking : other.isPrefixOf t.working = true
        · simp [hworking]
        · have haway : other.isPrefixOf (t.working ++ [name]) = false :=
            eq_false_of_ne_true (mt hway hworking)
          rw [List.any_cons, haway, Bool.false_or]
  there := by
    refine ⟨by rw [h]; nofun, ?_⟩
    unfold entry? withFile
    simp

end TableSync.Files.FileTree
