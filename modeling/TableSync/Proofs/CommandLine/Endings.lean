import TableSync.Proofs.CommandLine.Framing
import TableSync.Proofs.CommandLine.Layers
import TableSync.Proofs.Partition.DayFailure
import TableSync.Proofs.Partition.Execution

/-!
# How runs end

A run that has read its arguments ends with an exit code, and with a report if it failed, unless a
fault breaks it off for which no report is foreseen.  There are two kinds of these: a properties
file with a problem that loading does not provide for, and a day with a number beyond all machine
integers.  What stands in their way are the stages before, which may end the run with a report
first.
-/

namespace TableSync.CommandLine

open TableSync.Config TableSync.Partition TableSync.Document TableSync.Files TableSync.Calendar
  TableSync.Text

/-! ## Faults that are not foreseen -/

/-- The problems of a document for which no report is foreseen. -/
inductive Unforeseen : Yaml.Problem → Prop
  | codeOverflow : Unforeseen .codeOverflow
  | weightOverflow : Unforeseen .weightOverflow
  | unknownFlag (word : Text) : Unforeseen (.unknownFlag word)
  | emptyNumber : Unforeseen .emptyNumber
  | notTimestamp : Unforeseen .notTimestamp
  | timestampOfMap : Unforeseen .timestampOfMap
  | tooDeep (need : Yaml.Need) : Unforeseen (.tooDeep need)

theorem loadHeading?_problem_eq_none_iff {p : Yaml.Problem} :
    loadHeading? (.problem p) = none ↔ Unforeseen p := by
  constructor
  · intro h
    cases p with
    | codeOverflow => exact .codeOverflow
    | weightOverflow => exact .weightOverflow
    | unknownFlag word => exact .unknownFlag word
    | emptyNumber => exact .emptyNumber
    | notTimestamp => exact .notTimestamp
    | timestampOfMap => exact .timestampOfMap
    | tooDeep need => exact .tooDeep need
    | _ => cases h
  · intro h
    cases h <;> rfl

theorem heading?_eq_none_iff {fault : Fault} :
    fault.heading? = none ↔
      (∃ p, fault = .load (.problem p) ∧ Unforeseen p) ∨
        ∃ o, fault = .extraction (.overflow o) := by
  constructor
  · intro h
    cases fault with
    | load e =>
        cases e with
        | problem p => exact .inl ⟨p, rfl, loadHeading?_problem_eq_none_iff.mp h⟩
        | _ => cases h
    | config e => cases e <;> cases h
    | extraction e =>
        cases e with
        | overflow o => exact .inr ⟨o, rfl⟩
        | _ => cases h
    | _ => cases h
  · rintro (⟨p, rfl, hp⟩ | ⟨o, rfl⟩)
    · exact loadHeading?_problem_eq_none_iff.mpr hp
    · rfl

theorem openHeading_ne_cancelled (e : OpenError) : openHeading e ≠ .cancelled := by
  cases e <;> exact nofun

/-- Only a run that is interrupted is cancelled. -/
theorem heading?_eq_cancelled_iff {fault : Fault} :
    fault.heading? = some .cancelled ↔ fault = .interrupted := by
  constructor
  · intro h
    cases fault with
    | interrupted => rfl
    | load e =>
        cases e with
        | access e => exact absurd (Option.some.inj h) (openHeading_ne_cancelled e)
        | problem p => cases p <;> cases h
        | _ => cases h
    | config e => cases e <;> cases h
    | extraction e => cases e <;> cases h
    | paths e => exact absurd (Option.some.inj h) (openHeading_ne_cancelled e)
    | pathsNotText => cases h
  · rintro rfl
    rfl

/-! ## Where faults come from -/

section Stages

variable {files : FileSystem} {input : Input} {a : Arguments} {fault : Fault}

/-- A sequence ends in a fault if its first part does, or its second part behind the first. -/
theorem from_bind_eq_error_iff {α β : Type} {work : Running α} {next : α → Running β}
    {console : Console} :
    (Running.from (work >>= next) console).1 = .error fault ↔
      (work.from console).1 = .error fault ∨
        ∃ value, (work.from console).1 = .ok value ∧
          ((next value).from (work.from console).2).1 = .error fault := by
  rw [Running.from_bind]
  cases (work.from console).1 <;> simp

theorem from_bind_eq_ok_iff {α β : Type} {work : Running α} {next : α → Running β}
    {console : Console} {result : β} :
    (Running.from (work >>= next) console).1 = .ok result ↔
      ∃ value, (work.from console).1 = .ok value ∧
        ((next value).from (work.from console).2).1 = .ok result := by
  rw [Running.from_bind]
  cases (work.from console).1 <;> simp

/-! ### Collecting -/

/-- The error of loading a source, if there is one. -/
def loadError? (files : FileSystem) (source : String) : Option LoadError :=
  match loadProperties files source with
  | .ok _ => none
  | .error e => some e

theorem loadError?_eq_some_iff {source : String} {e : LoadError} :
    loadError? files source = some e ↔ loadProperties files source = .error e := by
  unfold loadError?
  cases loadProperties files source <;> simp

/-- The first error of loading is that of the first source that cannot be loaded. -/
theorem findSome?_loadError?_eq_some_iff {sources : List String} {e : LoadError} :
    sources.findSome? (loadError? files) = some e ↔
      ∃ source, IsFirst (fun source => ∃ e, loadProperties files source = .error e)
        sources source ∧ loadProperties files source = .error e := by
  have hnone (source : String) :
      loadError? files source = none ↔ ¬ ∃ e, loadProperties files source = .error e := by
    simp only [← loadError?_eq_some_iff, Option.eq_none_iff_forall_ne_some, not_exists]
  simp only [List.findSome?_eq_some_iff, loadError?_eq_some_iff, hnone]
  constructor
  · rintro ⟨before, source, after, hsources, herror, hbefore⟩
    exact ⟨source, ⟨before, after, hsources, hbefore, e, herror⟩, herror⟩
  · rintro ⟨source, ⟨before, after, hsources, hbefore, -⟩, herror⟩
    exact ⟨before, source, after, hsources, herror, hbefore⟩

theorem collectProperties_of_loadError {e : LoadError}
    (h : a.sources.findSome? (loadError? files) = some e) :
    collectProperties files a = .error (.load e) := by
  obtain ⟨source, hfirst, herror⟩ := findSome?_loadError?_eq_some_iff.mp h
  exact collectProperties_eq_error_iff.mpr (.inl ⟨source, e, hfirst, herror, rfl⟩)

/-- Behind the sources, only assignments can fail. -/
theorem collectProperties_eq_error (h : collectProperties files a = .error fault) :
    (∃ e, a.sources.findSome? (loadError? files) = some e ∧ fault = .load e) ∨
      ∃ e, fault = .config e := by
  rcases collectProperties_eq_error_iff.mp h with ⟨source, e, hfirst, herror, rfl⟩ | ⟨-, _, -, rfl⟩
  · exact .inl ⟨e, findSome?_loadError?_eq_some_iff.mpr ⟨source, hfirst, herror⟩, rfl⟩
  · exact .inr ⟨_, rfl⟩

/-! ### Preparing -/

theorem configure_eq_error {properties : PropertyBag Text} {console : Console}
    (h : ((configure properties).from console).1 = .error fault) : ∃ e, fault = .config e := by
  rw [from_configure] at h
  cases hconfig : (SyncConfig.fromProperties (properties.mapValues some)).1 with
  | ok config =>
      rw [hconfig] at h
      cases h
  | error e =>
      rw [hconfig] at h
      cases h
      exact ⟨e, rfl⟩

theorem choose_eq_error {config : SyncConfig} {console : Console}
    (h : ((choose config).from console).1 = .error fault) : ∃ e, fault = .config e := by
  cases hcreate : Registry.builtin.create config with
  | ok chosen =>
      rw [from_choose_of_ok _ hcreate] at h
      cases h
  | error e =>
      rw [from_choose_of_error _ hcreate] at h
      cases h
      exact ⟨e, rfl⟩

/-- Preparing fails at the first source that cannot be loaded, or at a fault of the settings. -/
theorem prepare_eq_error {console : Console}
    (h : ((prepare files a).from console).1 = .error fault) :
    (a.listProperties = false ∧
      ∃ e, a.sources.findSome? (loadError? files) = some e ∧ fault = .load e) ∨
      ∃ e, fault = .config e := by
  unfold prepare at h
  split at h
  · rw [Running.from_bind, Running.from_writeAll] at h
    cases h
  · rename_i hlist
    rcases from_bind_eq_error_iff.mp h with hcollect | ⟨properties, -, h⟩
    · rw [Running.from_ofExcept] at hcollect
      exact (collectProperties_eq_error hcollect).imp_left (.intro (Bool.eq_false_iff.mpr hlist))
    · right
      rcases from_bind_eq_error_iff.mp h with hconfigure | ⟨config, -, h⟩
      · exact configure_eq_error hconfigure
      · rcases from_bind_eq_error_iff.mp h with hchoose | ⟨extractor, -, h⟩
        · exact choose_eq_error hchoose
        · split at h
          · cases h
          · cases h

theorem prepare_of_loadError {console : Console} {e : LoadError} (hlist : a.listProperties = false)
    (h : a.sources.findSome? (loadError? files) = some e) :
    ((prepare files a).from console).1 = .error (.load e) := by
  unfold prepare
  rw [hlist, if_neg Bool.false_ne_true, collectProperties_of_loadError h,
    Running.from_bind_of_error (Running.from_ofExcept _ _)]

/-- The batch of a run reads paths as one of the extractors does. -/
theorem exists_extractor_of_prepare {console : Console} {batch : Batch}
    (h : ((prepare files a).from console).1 = .ok (some batch)) :
    ∃ extractor : Extractor, batch.extractor = extractor := by
  unfold prepare at h
  split at h
  · rw [Running.from_bind, Running.from_writeAll] at h
    cases h
  · obtain ⟨properties, -, h⟩ := from_bind_eq_ok_iff.mp h
    obtain ⟨config, -, h⟩ := from_bind_eq_ok_iff.mp h
    obtain ⟨extractor, -, h⟩ := from_bind_eq_ok_iff.mp h
    split at h
    · cases h
    · cases h
      exact ⟨extractor, rfl⟩

/-! ### Working -/

theorem deliver_eq_error_iff {batch : Batch} {paths : List String} {console : Console} :
    ((deliver batch paths).from console).1 = .error fault ↔
      ∃ error, (batch.execute paths).1 = .error error ∧ fault = .extraction error := by
  unfold deliver
  rw [from_bind_eq_error_iff, from_extract]
  simp only [Running.from_writeAll]
  cases (batch.execute paths).1 with
  | ok results => simp [Except.mapError]
  | error error => simp [Except.mapError, eq_comm]

/-- A run fails in preparing, or with the paths that are then due: in reading them or in extracting
their values. -/
theorem report_eq_error_iff :
    (report files input a).1 = .error fault ↔
      ((prepare files a).from (opening a)).1 = .error fault ∨
        ∃ batch, ((prepare files a).from (opening a)).1 = .ok (some batch) ∧
          (readPaths files input a = .error fault ∨
            ∃ paths error, readPaths files input a = .ok paths ∧
              (batch.execute paths).1 = .error error ∧ fault = .extraction error) := by
  unfold report work
  rw [from_bind_eq_error_iff]
  refine or_congr_right ?_
  constructor
  · rintro ⟨due, hprepare, h⟩
    cases due with
    | none => cases h
    | some batch =>
        refine ⟨batch, hprepare, ?_⟩
        rcases from_bind_eq_error_iff.mp h with hread | ⟨paths, hread, hdeliver⟩
        · rw [Running.from_ofExcept] at hread
          exact .inl hread
        · rw [Running.from_ofExcept] at hread
          obtain ⟨error, herror, rfl⟩ := deliver_eq_error_iff.mp hdeliver
          exact .inr ⟨paths, error, hread, herror, rfl⟩
  · rintro ⟨batch, hprepare, h⟩
    refine ⟨some batch, hprepare, from_bind_eq_error_iff.mpr ?_⟩
    simp only [Running.from_ofExcept, deliver_eq_error_iff]
    rcases h with hread | ⟨paths, error, hread, herror, rfl⟩
    · exact .inl hread
    · exact .inr ⟨paths, hread, error, herror, rfl⟩

theorem pathsOf_eq_error {content : List UInt8} (h : pathsOf content = .error fault) :
    fault = .pathsNotText := by
  unfold pathsOf at h
  split at h
  · cases h
  · cases h
    rfl

theorem readPaths_eq_error (h : readPaths files input a = .error fault) :
    fault = .pathsNotText ∨ (∃ e, fault = .paths e) ∨
      fault = .interrupted ∧ a.pathsFile = "" ∧ input = .interrupted := by
  unfold readPaths at h
  split at h
  · rename_i hstandard
    split at h
    · exact .inl (pathsOf_eq_error h)
    · cases h
      exact .inr (.inr ⟨rfl, hstandard, rfl⟩)
  · split at h
    · exact .inl (pathsOf_eq_error h)
    · cases h
      exact .inr (.inl ⟨_, rfl⟩)

end Stages

/-! ## What breaks a run off -/

/-- A fault that breaks a run off.  It is a problem, of a kind that is not foreseen, with the first
source that cannot be loaded; or it is the overflow of a day, if nothing ended the run before: the
settings stand, the paths can be read, and none of the paths before the day ends the batch. -/
inductive Breaks (files : FileSystem) (input : Input) (a : Arguments) : Fault → Prop
  | source {before after : List String} {source : String} {p : Yaml.Problem}
      (working : a.listProperties = false) (sources : a.sources = before ++ source :: after)
      (loaded : ∀ other ∈ before, loadError? files other = none)
      (found : loadError? files source = some (.problem p)) (unforeseen : Unforeseen p) :
      Breaks files input a (.load (.problem p))
  | day {batch : Batch} {paths before after : List String} {path : String} {d : Date}
      {o : Overflow} (due : ((prepare files a).from (opening a)).1 = .ok (some batch))
      (read : readPaths files input a = .ok paths) (split : paths = before ++ path :: after)
      (passed : ∀ other ∈ before, batch.fault? other = none)
      (extractor : batch.extractor = Extractor.slashEncodedDay) (writes : WritesDay path d)
      (overflow : [d.year, d.month, d.day].findSome? overflow? = some o) :
      Breaks files input a (.extraction (.overflow o))

section Breaking

variable {files : FileSystem} {input : Input} {a : Arguments} {fault : Fault}

theorem Breaks.heading? (h : Breaks files input a fault) : fault.heading? = none := by
  cases h with
  | source working sources loaded found unforeseen =>
      exact loadHeading?_problem_eq_none_iff.mpr unforeseen
  | day due read split passed extractor writes overflow => rfl

theorem Breaks.report (h : Breaks files input a fault) :
    (report files input a).1 = .error fault := by
  apply report_eq_error_iff.mpr
  cases h with
  | source working sources loaded found unforeseen =>
      left
      apply prepare_of_loadError working
      rw [sources]
      exact List.findSome?_eq_some_iff.mpr ⟨_, _, _, rfl, found, loaded⟩
  | day due read split passed extractor writes overflow =>
      rename_i batch paths before after path d o
      have hfault : batch.fault? path = some (.overflow o) := by
        rw [Batch.fault?_of_fault rfl, extractor]
        exact extract_day_eq_overflow_iff.mpr ⟨d, writes, overflow⟩
      right
      refine ⟨batch, due, .inr ⟨paths, .overflow o, read, ?_, rfl⟩⟩
      exact Batch.executeBy_eq_error_iff.mpr ⟨before, path, after, split, hfault, passed⟩

theorem breaks_of_problem {p : Yaml.Problem} (hp : Unforeseen p)
    (h : (report files input a).1 = .error (.load (.problem p))) :
    Breaks files input a (.load (.problem p)) := by
  rcases report_eq_error_iff.mp h with hprepare | ⟨batch, -, hread | ⟨paths, error, -, -, hfault⟩⟩
  · rcases prepare_eq_error hprepare with ⟨hlist, e, hfirst, he⟩ | ⟨e, he⟩
    · cases he
      obtain ⟨before, source, after, hsplit, hfound, hloaded⟩ :=
        List.findSome?_eq_some_iff.mp hfirst
      exact .source hlist hsplit hloaded hfound hp
    · cases he
  · rcases readPaths_eq_error hread with hfault | ⟨e, hfault⟩ | ⟨hfault, -⟩ <;> cases hfault
  · cases hfault

theorem breaks_of_overflow {o : Overflow}
    (h : (report files input a).1 = .error (.extraction (.overflow o))) :
    Breaks files input a (.extraction (.overflow o)) := by
  rcases report_eq_error_iff.mp h with
    hprepare | ⟨batch, hdue, hread | ⟨paths, error, hread, herror, hfault⟩⟩
  · rcases prepare_eq_error hprepare with ⟨-, e, -, he⟩ | ⟨e, he⟩ <;> cases he
  · rcases readPaths_eq_error hread with hfault | ⟨e, hfault⟩ | ⟨hfault, -⟩ <;> cases hfault
  · cases hfault
    obtain ⟨before, path, after, hsplit, hpath, hpassed⟩ := Batch.executeBy_eq_error_iff.mp herror
    obtain ⟨extractor, hextractor⟩ := exists_extractor_of_prepare hdue
    have hextract : extractor.extract path = .error (.overflow o) := by
      rw [Batch.fault?_of_fault rfl, hextractor] at hpath
      exact hpath
    obtain ⟨rfl, -⟩ := (faultsOn_iff extractor path).mp ⟨_, hextract, rfl⟩
    obtain ⟨d, hwrites, hover⟩ := extract_day_eq_overflow_iff.mp hextract
    exact .day hdue hread hsplit hpassed hextractor hwrites hover

/-- The faults that break a run off are those with which it fails and for which no report is
foreseen. -/
theorem breaks_iff :
    Breaks files input a fault ↔
      (report files input a).1 = .error fault ∧ fault.heading? = none := by
  constructor
  · intro h
    exact ⟨h.report, h.heading?⟩
  · rintro ⟨hreport, hnone⟩
    rcases heading?_eq_none_iff.mp hnone with ⟨p, rfl, hp⟩ | ⟨o, rfl⟩
    · exact breaks_of_problem hp hreport
    · exact breaks_of_overflow hreport

/-- A run is cancelled where it would read the input and cannot. -/
theorem report_eq_interrupted_iff :
    (report files input a).1 = .error .interrupted ↔
      readsInput files a = true ∧ input = .interrupted := by
  rw [report_eq_error_iff]
  constructor
  · rintro (hprepare | ⟨batch, hdue, hread | ⟨paths, error, -, -, hfault⟩⟩)
    · rcases prepare_eq_error hprepare with ⟨-, e, -, he⟩ | ⟨e, he⟩ <;> cases he
    · rcases readPaths_eq_error hread with hfault | ⟨e, hfault⟩ | ⟨-, hstandard, hinput⟩
      · cases hfault
      · cases hfault
      · unfold readsInput
        rw [hdue]
        exact ⟨decide_eq_true hstandard, hinput⟩
    · cases hfault
  · rintro ⟨hreads, rfl⟩
    unfold readsInput at hreads
    split at hreads
    · rename_i batch hdue
      right
      refine ⟨batch, hdue, .inl ?_⟩
      unfold readPaths
      rw [if_pos (of_decide_eq_true hreads)]
    · cases hreads

end Breaking

/-! ## How runs end -/

def titles : List String :=
  ["File not found", "Invalid YAML properties", "Configuration inference error",
    "Partition parse error", "Configuration error", "I/O error", "Unexpected error"]

/-- A report that goes with an exit code: a title and the text of a fault on one line, or that the
run was cancelled. -/
inductive IsReport (text : Text) : Nat → Text → Prop
  | line {title : String} (listed : title ∈ titles) :
      IsReport text 1 (("✗ " ++ title ++ ": " : String) ++ text ++ "\n")
  | cancelled : IsReport text 130 "\n✗ Operation cancelled by user\n"

theorem isReport_of_lead (title : String) {lead : String}
    (h : title ∈ titles ∧ "✗ " ++ title ++ ": " = lead) (text : Text) :
    IsReport text 1 (lead ++ text ++ "\n") :=
  h.2 ▸ .line h.1

theorem isReport_report (heading : Heading) (text : Text) :
    IsReport text heading.exitCode (heading.report text) := by
  cases heading with
  | fileNotFound => exact isReport_of_lead "File not found" (by decide +kernel) text
  | invalidDocument => exact isReport_of_lead "Invalid YAML properties" (by decide +kernel) text
  | inferenceCycle =>
      exact isReport_of_lead "Configuration inference error" (by decide +kernel) text
  | partitionPath => exact isReport_of_lead "Partition parse error" (by decide +kernel) text
  | configuration => exact isReport_of_lead "Configuration error" (by decide +kernel) text
  | inputOutput => exact isReport_of_lead "I/O error" (by decide +kernel) text
  | unexpected => exact isReport_of_lead "Unexpected error" (by decide +kernel) text
  | cancelled => exact .cancelled

/-- The lines on which the notices of a run are shown. -/
def noticeLines (w : Wording) (files : FileSystem) (input : Input) : Request → Text
  | .help => []
  | .run a =>
      ((report files input a).2.notices.filter (isShown a.verbose)).flatMap (Notice.line w.time)

/-- How a run ends that has arguments to work with: well, with the report of a fault, or broken
off. -/
inductive Ends (w : Wording) (files : FileSystem) (input : Input) (a : Arguments)
    (outcome : Outcome) : Prop
  | well (worked : (report files input a).1 = .ok ()) (ending : outcome.ending = .exit 0)
      (errors : outcome.errors = noticeLines w files input (.run a))
  | reported {fault : Fault} {heading : Heading}
      (failed : (report files input a).1 = .error fault) (foreseen : fault.heading? = some heading)
      (ending : outcome.ending = .exit heading.exitCode)
      (errors : outcome.errors =
        noticeLines w files input (.run a) ++ heading.report (fault.message w))
  | broken {fault : Fault} (breaks : Breaks files input a fault)
      (ending : outcome.ending = .broken fault)
      (errors : outcome.errors = noticeLines w files input (.run a))

theorem ends_run (w : Wording) (files : FileSystem) (input : Input) {argv : List String}
    {a : Arguments} (hread : readArguments argv = .ok (.run a)) :
    Ends w files input a (run w files input argv) := by
  unfold run leaves
  rw [hread]
  dsimp only
  cases hresult : (report files input a).1 with
  | ok done => exact .well hresult rfl rfl
  | error fault =>
      dsimp only
      cases hheading : fault.heading? with
      | some heading => exact .reported hresult hheading rfl rfl
      | none => exact .broken (breaks_iff.mpr ⟨hresult, hheading⟩) rfl rfl

theorem run_help (w : Wording) (files : FileSystem) (input : Input) {argv : List String}
    (hread : readArguments argv = .ok .help) :
    (run w files input argv).ending = .exit 0 ∧ (run w files input argv).errors = [] := by
  unfold run
  rw [hread]
  exact ⟨rfl, rfl⟩

section Endings

variable {w : Wording} {files : FileSystem} {input : Input} {a : Arguments} {outcome : Outcome}

theorem Ends.broken_iff (h : Ends w files input a outcome) {fault : Fault} :
    outcome.ending = .broken fault ↔ Breaks files input a fault := by
  constructor
  · intro hbroken
    cases h with
    | well worked ending errors => cases ending.symm.trans hbroken
    | reported failed foreseen ending errors => cases ending.symm.trans hbroken
    | broken breaks ending errors =>
        cases ending.symm.trans hbroken
        exact breaks
  · intro hbreaks
    obtain ⟨hreport, hnone⟩ := breaks_iff.mp hbreaks
    cases h with
    | well worked ending errors => cases worked.symm.trans hreport
    | reported failed foreseen ending errors =>
        cases failed.symm.trans hreport
        cases foreseen.symm.trans hnone
    | broken breaks ending errors =>
        cases breaks.report.symm.trans hreport
        exact ending

theorem Ends.errors_of_broken (h : Ends w files input a outcome) {fault : Fault}
    (hbroken : outcome.ending = .broken fault) :
    outcome.errors = noticeLines w files input (.run a) := by
  cases h with
  | well worked ending errors => exact errors
  | reported failed foreseen ending errors => cases ending.symm.trans hbroken
  | broken breaks ending errors => exact errors

theorem Ends.exit_of_heading (h : Ends w files input a outcome) {fault : Fault} {heading : Heading}
    (hfailed : (report files input a).1 = .error fault) (hheading : fault.heading? = some heading) :
    outcome.ending = .exit heading.exitCode := by
  cases h with
  | well worked ending errors => cases worked.symm.trans hfailed
  | reported failed foreseen ending errors =>
      obtain rfl := Except.error.inj (failed.symm.trans hfailed)
      obtain rfl := Option.some.inj (foreseen.symm.trans hheading)
      exact ending
  | broken breaks ending errors =>
      obtain rfl := Except.error.inj (breaks.report.symm.trans hfailed)
      cases breaks.heading?.symm.trans hheading

theorem exitCode_eq (heading : Heading) :
    heading.exitCode = 1 ∧ heading ≠ .cancelled ∨
      heading.exitCode = 130 ∧ heading = .cancelled := by
  cases heading with
  | cancelled => exact .inr ⟨rfl, rfl⟩
  | _ => exact .inl ⟨rfl, nofun⟩

theorem Ends.code_cases (h : Ends w files input a outcome) {code : Nat}
    (hexit : outcome.ending = .exit code) : code = 0 ∨ code = 1 ∨ code = 130 := by
  cases h with
  | well worked ending errors =>
      cases ending.symm.trans hexit
      exact .inl rfl
  | reported failed foreseen ending errors =>
      cases ending.symm.trans hexit
      exact .inr ((exitCode_eq _).imp And.left And.left)
  | broken breaks ending errors => cases ending.symm.trans hexit

theorem Ends.code_eq_cancelled_iff (h : Ends w files input a outcome) {code : Nat}
    (hexit : outcome.ending = .exit code) :
    code = 130 ↔ readsInput files a = true ∧ input = .interrupted := by
  rw [← report_eq_interrupted_iff]
  cases h with
  | well worked ending errors =>
      cases ending.symm.trans hexit
      rw [worked]
      exact ⟨nofun, nofun⟩
  | reported failed foreseen ending errors =>
      cases ending.symm.trans hexit
      rw [failed, Except.error.injEq, ← heading?_eq_cancelled_iff, foreseen, Option.some.injEq]
      rcases exitCode_eq _ with ⟨hcode, hother⟩ | ⟨hcode, hsame⟩
      · rw [hcode]
        exact ⟨nofun, fun h => absurd h hother⟩
      · exact ⟨fun _ => hsame, fun _ => hcode⟩
  | broken breaks ending errors => cases ending.symm.trans hexit

theorem Ends.errors_of_zero (h : Ends w files input a outcome)
    (hexit : outcome.ending = .exit 0) : outcome.errors = noticeLines w files input (.run a) := by
  cases h with
  | well worked ending errors => exact errors
  | reported failed foreseen ending errors =>
      have hcode := Ending.exit.inj (ending.symm.trans hexit)
      rcases exitCode_eq _ with ⟨hone, -⟩ | ⟨hone, -⟩ <;> cases hone.symm.trans hcode
  | broken breaks ending errors => cases ending.symm.trans hexit

theorem Ends.errors_of_ne_zero (h : Ends w files input a outcome) {code : Nat}
    (hexit : outcome.ending = .exit code) (hcode : code ≠ 0) :
    ∃ fault heading, (report files input a).1 = .error fault ∧ fault.heading? = some heading ∧
      IsReport (fault.message w) code (heading.report (fault.message w)) ∧
      outcome.errors = noticeLines w files input (.run a) ++ heading.report (fault.message w) := by
  cases h with
  | well worked ending errors =>
      cases ending.symm.trans hexit
      exact absurd rfl hcode
  | reported failed foreseen ending errors =>
      cases ending.symm.trans hexit
      exact ⟨_, _, failed, foreseen, isReport_report _ _, errors⟩
  | broken breaks ending errors => cases ending.symm.trans hexit

end Endings

/-- A run is broken off by the faults that are not foreseen, and by no others; it then says nothing
of the fault.  Otherwise it ends with the exit code 0, 1 or 130, and 130 means that the input was to
be read and was interrupted.  Behind its notices a run says nothing more if the exit code is 0, and
if it is not, there stands one report, of the fault that ended the run: a title and the text of the
fault, or with 130 that the run was cancelled. -/
theorem endings_of_runs (w : Wording) (files : FileSystem) (input : Input) {argv : List String}
    {request : Request} (hread : readArguments argv = .ok request) :
    let outcome := run w files input argv
    (∀ fault, outcome.ending = .broken fault ↔
      ∃ a, request = .run a ∧ Breaks files input a fault) ∧
    (∀ fault, outcome.ending = .broken fault →
      outcome.errors = noticeLines w files input request) ∧
    ∀ code, outcome.ending = .exit code →
      (code = 0 ∨ code = 1 ∨ code = 130) ∧
      (code = 130 ↔
        ∃ a, request = .run a ∧ readsInput files a = true ∧ input = .interrupted) ∧
      (code = 0 → outcome.errors = noticeLines w files input request) ∧
      (code ≠ 0 → ∃ a fault heading, request = .run a ∧
        (report files input a).1 = .error fault ∧ fault.heading? = some heading ∧
        IsReport (fault.message w) code (heading.report (fault.message w)) ∧
        outcome.errors =
          noticeLines w files input request ++ heading.report (fault.message w)) := by
  intro outcome
  cases request with
  | help =>
      obtain ⟨hending, herrors⟩ : outcome.ending = .exit 0 ∧ outcome.errors = [] :=
        run_help w files input hread
      refine ⟨fun fault => ?_, fun fault _ => herrors, fun code hexit => ?_⟩
      · constructor
        · intro hbroken
          cases hending.symm.trans hbroken
        · rintro ⟨a, hsame, -⟩
          cases hsame
      · cases hending.symm.trans hexit
        refine ⟨.inl rfl, ⟨nofun, ?_⟩, fun _ => herrors, fun hcode => absurd rfl hcode⟩
        rintro ⟨a, hsame, -⟩
        cases hsame
  | run a =>
      have hends : Ends w files input a outcome := ends_run w files input hread
      refine ⟨fun fault => ?_, fun fault => hends.errors_of_broken, fun code hexit => ?_⟩
      · rw [hends.broken_iff]
        constructor
        · intro hbreaks
          exact ⟨a, rfl, hbreaks⟩
        · rintro ⟨_, hsame, hbreaks⟩
          cases hsame
          exact hbreaks
      · refine ⟨hends.code_cases hexit, ?_, ?_, ?_⟩
        · rw [hends.code_eq_cancelled_iff hexit]
          constructor
          · intro hcancelled
            exact ⟨a, rfl, hcancelled⟩
          · rintro ⟨_, hsame, hcancelled⟩
            cases hsame
            exact hcancelled
        · rintro rfl
          exact hends.errors_of_zero hexit
        · intro hcode
          obtain ⟨fault, heading, hfailed, hforeseen, hreport, herrors⟩ :=
            hends.errors_of_ne_zero hexit hcode
          exact ⟨a, fault, heading, rfl, hfailed, hforeseen, hreport, herrors⟩

/-! ### A run over a year beyond all machine integers -/

def daysCommand : List String :=
  ["--base-path", "/data/orders"]

def daysArguments : Arguments :=
  { basePath? := some "/data/orders" }

def daysInput : Input :=
  .bytes "99999999999/1/1\n".toUTF8.toList

def daysProperties : PropertyBag Text :=
  .ofList [(basePathKey, "/data/orders")]

def daysConfig : SyncConfig :=
  { enabled := false, table := "unknown", basePath := "/data/orders",
    extractorClass := Strategy.slashEncodedDay.identifier }

def daysBatch : Batch :=
  { config := daysConfig, extractor := Extractor.slashEncodedDay }

theorem due_days :
    ((prepare noFiles daysArguments).from (opening daysArguments)).1 = .ok (some daysBatch) := by
  have hcollect : collectProperties noFiles daysArguments = .ok daysProperties :=
    ok_of_toOption (by decide +kernel)
  have hconfig : (SyncConfig.fromProperties (daysProperties.mapValues some)).1 = .ok daysConfig :=
    ok_of_toOption (by decide +kernel)
  have hcreate : Registry.builtin.create daysConfig =
      .ok (.slashEncodedDay, .selected .slashEncodedDay "default" "unknown") := by
    have hstrategy : Registry.builtin.strategy daysConfig.extractorClass = .ok .slashEncodedDay :=
      Registry.strategy_builtin_identifier .slashEncodedDay
    rw [Registry.create, hstrategy]
    rfl
  rw [from_prepare_of_settled _ rfl rfl hcollect hconfig hcreate]
  rfl

def monthInput : Input :=
  .bytes "2024/13/01\n".toUTF8.toList

def monthFault : Fault :=
  .extraction (.rejected ⟨"2024/13/01", "SlashEncodedDayPartitionValueExtractor",
    .notCalendarDay .monthRange⟩)

theorem report_month : (report noFiles monthInput daysArguments).1 = .error monthFault := by
  have hpaths : readPaths noFiles monthInput daysArguments = .ok ["2024/13/01"] :=
    ok_of_toOption (by decide +kernel)
  have hexecute : (daysBatch.execute ["2024/13/01"]).1 = .error (.rejected ⟨"2024/13/01",
      "SlashEncodedDayPartitionValueExtractor", .notCalendarDay .monthRange⟩) := by
    decide +kernel
  exact report_eq_error_iff.mpr
    (.inr ⟨daysBatch, due_days, .inr ⟨_, _, hpaths, hexecute, rfl⟩⟩)

theorem partitionReport_month :
    Heading.partitionPath.report (monthFault.message oddWording) =
      Text.ofString ("✗ Partition parse error: Cannot extract partition values from " ++
        "'2024/13/01' with SlashEncodedDayPartitionValueExtractor: " ++
        "month must be in 1..12\n") := by
  unfold Heading.report Fault.message monthFault ExtractionError.message Rejection.message
    rejectionText Reason.message DateFault.message
  simp only [← Text.ofString_append]
  exact congrArg Text.ofString (by decide +kernel)

/-- A year beyond all machine integers breaks the run off, and nothing is reported of it; a month
that does not exist is reported. -/
theorem endings_of_runs_over_days :
    readArguments daysCommand = .ok (.run daysArguments) ∧
      Breaks noFiles daysInput daysArguments (.extraction (.overflow .int)) ∧
      (run oddWording noFiles daysInput daysCommand).ending =
        .broken (.extraction (.overflow .int)) ∧
      (run oddWording noFiles daysInput daysCommand).errors =
        noticeLines oddWording noFiles daysInput (.run daysArguments) ∧
      (run oddWording noFiles monthInput daysCommand).ending = .exit 1 ∧
      (run oddWording noFiles monthInput daysCommand).errors =
        noticeLines oddWording noFiles monthInput (.run daysArguments) ++
          Text.ofString ("✗ Partition parse error: Cannot extract partition values from " ++
            "'2024/13/01' with SlashEncodedDayPartitionValueExtractor: " ++
            "month must be in 1..12\n") := by
  have hread : readArguments daysCommand = .ok (.run daysArguments) :=
    ok_of_toOption (by decide +kernel)
  have hpaths : readPaths noFiles daysInput daysArguments = .ok ["99999999999/1/1"] :=
    ok_of_toOption (by decide +kernel)
  have hsegments : segments "99999999999/1/1" = ["99999999999", "1", "1"] := by decide +kernel
  have hwrites : WritesDay "99999999999/1/1" ⟨99999999999, 1, 1⟩ :=
    (writesDay_iff_of_segments hsegments).mpr ⟨by decide +kernel, by decide +kernel⟩
  have hover : [99999999999, 1, 1].findSome? overflow? = some .int := by decide +kernel
  have hbreaks : Breaks noFiles daysInput daysArguments (.extraction (.overflow .int)) :=
    .day due_days hpaths (List.nil_append _).symm nofun rfl hwrites hover
  have hending := ((endings_of_runs oddWording noFiles daysInput hread).1 _).mpr ⟨_, rfl, hbreaks⟩
  have hsilent := (endings_of_runs oddWording noFiles daysInput hread).2.1 _ hending
  have hexit : (run oddWording noFiles monthInput daysCommand).ending = .exit 1 :=
    (ends_run oddWording noFiles monthInput hread).exit_of_heading report_month rfl
  obtain ⟨-, -, -, hreport⟩ := (endings_of_runs oddWording noFiles monthInput hread).2.2 1 hexit
  obtain ⟨_, _, _, hsame, hfailed, hforeseen, -, herrors⟩ := hreport (by decide)
  cases hsame
  cases hfailed.symm.trans report_month
  cases hforeseen
  refine ⟨hread, hbreaks, hending, hsilent, hexit, ?_⟩
  rw [herrors, partitionReport_month]

end TableSync.CommandLine
