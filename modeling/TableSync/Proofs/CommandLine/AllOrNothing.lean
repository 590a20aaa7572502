import TableSync.Proofs.CommandLine.Sources
import TableSync.Proofs.CommandLine.Stages

/-!
# All or nothing

A run that fails has written nothing, wherever it failed; and a run whose settings do not stand
fails before it looks at its paths, so neither the input nor the file of paths makes a difference
to it.
-/

namespace TableSync.CommandLine

open TableSync.Config TableSync.Partition TableSync.Document TableSync.Files

/-! ## A failed run has written nothing -/

theorem output_eq_nil_of_failed {files : FileSystem} {input : Input} {a : Arguments}
    (h : Failed (report files input a).1) : (report files input a).2.output = [] :=
  unwritten_work files input a (opening a) rfl h

theorem ending_leaves_ok (w : Wording) (verbose : Bool) (console : Console) :
    (leaves w verbose (.ok ()) console).ending = .exit 0 := rfl

theorem output_leaves (w : Wording) (verbose : Bool) (result : Except Fault Unit)
    (console : Console) : (leaves w verbose result console).output = console.output := by
  unfold leaves
  cases result with
  | ok _ => rfl
  | error fault =>
      dsimp only
      split <;> rfl

theorem output_run_of_ending {w : Wording} {files : FileSystem} {input : Input}
    {argv : List String} (h : (run w files input argv).ending ≠ .exit 0) :
    (run w files input argv).output = [] := by
  unfold run at h ⊢
  split
  · rfl
  · rename_i hread
    rw [hread] at h
    exact absurd rfl h
  · rename_i a hread
    rw [hread] at h
    dsimp only at h ⊢
    rw [output_leaves]
    cases hresult : (report files input a).1 with
    | ok _ =>
        rw [hresult] at h
        exact absurd (ending_leaves_ok ..) h
    | error fault => exact output_eq_nil_of_failed ⟨fault, hresult⟩

/-! ## Settings that do not stand -/

/-- The settings of a run do not stand: its properties cannot be collected, or they give no
configuration, or the configuration gives no extractor. -/
inductive Unsettled (files : FileSystem) (a : Arguments) : Prop
  | collecting {fault : Fault} (h : collectProperties files a = .error fault)
  | configuring {properties : PropertyBag Text} {e : ConfigError}
      (collected : collectProperties files a = .ok properties)
      (h : (SyncConfig.fromProperties (properties.mapValues some)).1 = .error e)
  | choosing {properties : PropertyBag Text} {config : SyncConfig} {e : ConfigError}
      (collected : collectProperties files a = .ok properties)
      (configured : (SyncConfig.fromProperties (properties.mapValues some)).1 = .ok config)
      (h : Registry.builtin.create config = .error e)

/-- No paths are due in a run whose settings do not stand. -/
theorem prepare_of_unsettled {files : FileSystem} {a : Arguments} (h : Unsettled files a)
    (console : Console) (batch : Batch) :
    ((prepare files a).from console).1 ≠ .ok (some batch) := by
  unfold prepare
  split
  · rw [Running.from_bind_of_ok (Running.from_writeAll _ _)]
    exact nofun
  · cases h with
    | collecting h =>
        rw [h, Running.from_bind_of_error (Running.from_ofExcept _ _)]
        exact nofun
    | configuring collected h =>
        rw [collected, Running.from_bind_of_ok (Running.from_ofExcept _ _),
          Running.from_bind_of_error (from_configure_of_error _ h)]
        exact nofun
    | choosing collected configured h =>
        rw [collected, Running.from_bind_of_ok (Running.from_ofExcept _ _),
          Running.from_bind_of_ok (from_configure_of_ok _ configured),
          Running.from_bind_of_error (from_choose_of_error _ h)]
        exact nofun

/-- Work for which no paths are due is over when it is prepared. -/
theorem from_work_of_not_due {files : FileSystem} {a : Arguments} {console : Console}
    (h : ∀ batch, ((prepare files a).from console).1 ≠ .ok (some batch)) (input : Input) :
    (work files input a).from console =
      (((prepare files a).from console).1.map fun _ => (), ((prepare files a).from console).2) := by
  unfold work
  rw [Running.from_bind]
  cases hresult : ((prepare files a).from console).1 with
  | error fault => rfl
  | ok due =>
      cases due with
      | none => rfl
      | some batch => exact absurd hresult (h batch)

theorem prepare_congr {files others : FileSystem} {a : Arguments}
    (h : collectProperties files a = collectProperties others a) :
    prepare files a = prepare others a := by
  unfold prepare
  rw [h]

theorem Unsettled.congr {files others : FileSystem} {a : Arguments} (h : Unsettled files a)
    (hcollect : collectProperties files a = collectProperties others a) : Unsettled others a := by
  cases h with
  | collecting h => exact .collecting (hcollect ▸ h)
  | configuring collected h => exact .configuring (hcollect ▸ collected) h
  | choosing collected configured h => exact .choosing (hcollect ▸ collected) configured h

/-- A run whose settings do not stand comes to the same as any other with these properties. -/
theorem report_congr_of_unsettled {files others : FileSystem} {a : Arguments}
    (h : Unsettled files a) (hcollect : collectProperties files a = collectProperties others a)
    (input other : Input) : report files input a = report others other a := by
  unfold report
  rw [from_work_of_not_due (prepare_of_unsettled h _),
    from_work_of_not_due (prepare_of_unsettled (h.congr hcollect) _), prepare_congr hcollect]

theorem unextracted_report_of_unsettled {files : FileSystem} {a : Arguments}
    (h : Unsettled files a) (input : Input) : (report files input a).2.Unextracted := by
  have hkept : Keeps Console.Unextracted (fun _ => True) (prepare files a) :=
    unextracted_prepare files a
  unfold report
  rw [from_work_of_not_due (prepare_of_unsettled h _)]
  refine hkept (opening a) ?_ trivial
  intro n hn
  unfold opening at hn
  split at hn
  · rw [List.mem_singleton.mp hn]
    rfl
  · cases hn

/-! ## The two together -/

/-- A run that does not end well has written nothing.  A run whose settings do not stand never
begins to extract, and all that it leaves is the same whatever its input is and whatever its file
of paths holds or whether there is one, as long as no source of properties resolves to that file. -/
theorem run_all_or_nothing (w : Wording) (files : FileSystem) (argv : List String) :
    (∀ input, (run w files input argv).ending ≠ .exit 0 →
      (run w files input argv).output = []) ∧
    ∀ a, readArguments argv = .ok (.run a) → Unsettled files a → ∀ input,
      (∀ n ∈ (report files input a).2.notices, isExtracting n = false) ∧
      ∀ names others other, DifferOnlyIn names files others →
        (∀ source ∈ a.sources, ∀ path, names path →
          ¬ ResolvesTo files source path ∧ ¬ ResolvesTo others source path) →
        run w files input argv = run w others other argv := by
  refine ⟨fun input => output_run_of_ending, ?_⟩
  intro a hread hunsettled input
  refine ⟨unextracted_report_of_unsettled hunsettled input, ?_⟩
  intro names others other hdiffer hsources
  have hcollect := collectProperties_eq_of_differOnlyIn hdiffer hsources
  have hreport := report_congr_of_unsettled hunsettled hcollect input other
  unfold run
  rw [hread]
  dsimp only
  rw [hreport]

/-! ### A run with a flag that is neither true nor false -/

def deskTree : FileTree :=
  { working := ["desk"]
    entries := [(["desk", "job.yml"], .file "sync:\n  table: orders\n".toUTF8.toList)] }

def deskCommand : List String :=
  ["--props", "job", "--prop", "sync.enabled=maybe", "--paths-file", "paths"]

def deskArguments : Arguments :=
  { sources := ["job"], assignments := ["sync.enabled=maybe"], pathsFile := "paths" }

theorem unsettled_desk : Unsettled deskTree.lookup deskArguments := by
  have h : (collectProperties deskTree.lookup deskArguments).toOption.map (fun properties =>
      (SyncConfig.fromProperties (properties.mapValues some)).1.toOption) = some none := by
    decide +kernel
  cases hcollected : collectProperties deskTree.lookup deskArguments with
  | error fault => simp [hcollected, Except.toOption] at h
  | ok properties =>
      cases hconfigured : (SyncConfig.fromProperties (properties.mapValues some)).1 with
      | error e => exact .configuring hcollected hconfigured
      | ok config => simp [hcollected, hconfigured, Except.toOption] at h

/-- The source of the run resolves to its properties file. -/
theorem eq_of_resolvesTo_job {files : FileSystem} {path : String}
    (hfound : (firstFile files ["job", "job.yml", "job.yaml"]).toOption.map (Option.map Prod.fst) =
      some (some "job.yml"))
    (h : ResolvesTo files "job" path) : path = "job.yml" := by
  obtain ⟨paths, content, hpaths, hfirst⟩ := h
  have hjob : candidates "." "job" = .ok ["job", "job.yml", "job.yaml"] :=
    ok_of_toOption (by decide +kernel)
  obtain rfl := Except.ok.inj (hjob.symm.trans hpaths)
  simpa [hfirst, Except.toOption] using hfound

def fullDeskTree : FileTree :=
  deskTree.withFile "paths" "2024/01/05\n".toUTF8.toList

def deskWording : Wording :=
  { time := "09:00", illFormed := "not well-formed", notText := "not text" }

/-- The flag ends the run, and neither an interrupted input nor a file of paths changes that. -/
theorem run_all_or_nothing_desk :
    readArguments deskCommand = .ok (.run deskArguments) ∧
      Unsettled deskTree.lookup deskArguments ∧
      (run deskWording deskTree.lookup (.bytes []) deskCommand).ending ≠ .exit 0 ∧
      (run deskWording deskTree.lookup (.bytes []) deskCommand).output = [] ∧
      run deskWording deskTree.lookup (.bytes []) deskCommand =
        run deskWording fullDeskTree.lookup .interrupted deskCommand := by
  have hread : readArguments deskCommand = .ok (.run deskArguments) :=
    ok_of_toOption (by decide +kernel)
  have hending : (run deskWording deskTree.lookup (.bytes []) deskCommand).ending ≠ .exit 0 := by
    decide +kernel
  have hfree : deskTree.entry? (deskTree.working ++ ["paths"]) = none := by decide +kernel
  have hdiffer := FileTree.differOnlyIn_of_differAt
    (FileTree.differAt_withFile hfree "2024/01/05\n".toUTF8.toList)
  have hsame : deskTree.lookup "job.yml" = fullDeskTree.lookup "job.yml" := by decide +kernel
  refine ⟨hread, unsettled_desk, hending, (run_all_or_nothing deskWording _ _).1 _ hending, ?_⟩
  refine ((run_all_or_nothing deskWording _ _).2 _ hread unsettled_desk (.bytes [])).2 _ _
    .interrupted hdiffer ?_
  intro source hsource path hpath
  obtain rfl := List.mem_singleton.mp hsource
  refine ⟨fun hresolves => hpath ?_, fun hresolves => hpath ?_⟩
  · rwa [eq_of_resolvesTo_job (by decide +kernel) hresolves]
  · rwa [eq_of_resolvesTo_job (by decide +kernel) hresolves]

end TableSync.CommandLine
