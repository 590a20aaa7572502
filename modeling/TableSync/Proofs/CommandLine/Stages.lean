import TableSync.CommandLine.Run

/-!
# The stages of a run

What each stage of a run does, and what it keeps on the console.  `Keeps` says that a property of
the console outlasts some work, at least if the work ends in a certain way, and `Keeps.bind` carries
it over a sequence.  The stages that settle the configuration do no more than give notices, so they
keep whatever these do not touch.  That preparing a run writes nothing is true only if paths are
still due, and that processing writes nothing only if it fails; the two ways of ending fit together
in `unwritten_work`.
-/

namespace TableSync.CommandLine

open TableSync.Config TableSync.Partition TableSync.Document TableSync.Files

/-! ## What the stages do -/

section Pieces

variable (console : Console)

theorem from_configure (properties : PropertyBag Text) :
    (configure properties).from console =
      ((SyncConfig.fromProperties (properties.mapValues some)).1.mapError .config,
        { console with
          notices := console.notices ++
            (SyncConfig.fromProperties (properties.mapValues some)).2.notices }) := by
  unfold configure
  simp only [Running.from_bind, Running.from_notify, Running.from_ofExcept]

theorem from_configure_of_ok {properties : PropertyBag Text} {config : SyncConfig}
    (h : (SyncConfig.fromProperties (properties.mapValues some)).1 = .ok config) :
    (configure properties).from console =
      (.ok config,
        { console with
          notices := console.notices ++
            (SyncConfig.fromProperties (properties.mapValues some)).2.notices }) := by
  rw [from_configure, h]
  rfl

theorem from_configure_of_error {properties : PropertyBag Text} {e : ConfigError}
    (h : (SyncConfig.fromProperties (properties.mapValues some)).1 = .error e) :
    (configure properties).from console =
      (.error (.config e),
        { console with
          notices := console.notices ++
            (SyncConfig.fromProperties (properties.mapValues some)).2.notices }) := by
  rw [from_configure, h]
  rfl

theorem from_choose_of_ok {config : SyncConfig} {extractor : Extractor} {selected : Notice}
    (h : Registry.builtin.create config = .ok (extractor, selected)) :
    (choose config).from console =
      (.ok extractor, { console with notices := console.notices ++ [selected] }) := by
  unfold choose
  rw [h]
  rfl

theorem from_choose_of_error {config : SyncConfig} {e : ConfigError}
    (h : Registry.builtin.create config = .error e) :
    (choose config).from console = (.error (.config e), console) := by
  unfold choose
  rw [h]
  rfl

theorem from_extract (batch : Batch) (paths : List String) :
    (extract batch paths).from console =
      ((batch.execute paths).1.mapError .extraction,
        { console with notices := console.notices ++ (batch.execute paths).2 }) := by
  unfold extract
  simp only [Running.from_bind, Running.from_notify, Running.from_ofExcept]

/-- Paths are due once the properties give a configuration and the configuration an extractor. -/
theorem from_prepare_of_settled {files : FileSystem} {a : Arguments}
    {properties : PropertyBag Text} {config : SyncConfig} {extractor : Extractor}
    {selected : Notice} (hlist : a.listProperties = false) (hshow : a.showConfig = false)
    (hcollect : collectProperties files a = .ok properties)
    (hconfig : (SyncConfig.fromProperties (properties.mapValues some)).1 = .ok config)
    (hcreate : Registry.builtin.create config = .ok (extractor, selected)) :
    (prepare files a).from console =
      (.ok (some { config, extractor, skipInvalid := a.skipInvalid, workers := a.workers }),
        { console with
          notices := console.notices ++
            (SyncConfig.fromProperties (properties.mapValues some)).2.notices ++ [selected] }) := by
  have hconfigured := from_configure_of_ok console hconfig
  have hchosen := from_choose_of_ok
    { console with
      notices := console.notices ++
        (SyncConfig.fromProperties (properties.mapValues some)).2.notices } hcreate
  unfold prepare
  rw [hlist, if_neg Bool.false_ne_true, hcollect,
    Running.from_bind_of_ok (Running.from_ofExcept _ _), Running.from_bind_of_ok hconfigured,
    Running.from_bind_of_ok hchosen, hshow, if_neg Bool.false_ne_true, Running.from_pure]

end Pieces

/-! ## What work keeps -/

/-- A property of the console outlasts the work whenever the work ends in a way of a kind. -/
def Keeps {α : Type} (property : Console → Prop) (kind : Except Fault α → Prop)
    (work : Running α) : Prop :=
  ∀ console, property console → kind (work.from console).1 → property (work.from console).2

def Failed {α : Type} (result : Except Fault α) : Prop :=
  ∃ fault, result = .error fault

section Keeping

variable {α β : Type} {property : Console → Prop} {kind : Except Fault α → Prop}

theorem keeps_pure (a : α) : Keeps property kind (pure a) :=
  fun _ hproperty _ => hproperty

theorem keeps_ofExcept (outcome : Except Fault α) : Keeps property kind (ofExcept outcome) := by
  intro console hproperty _
  rwa [Running.from_ofExcept]

/-- Work that never ends in a way of the kind keeps whatever one likes. -/
theorem keeps_of_never {work : Running α} (h : ∀ console, ¬ kind (work.from console).1) :
    Keeps property kind work :=
  fun console _ hkind => absurd hkind (h console)

/-- A sequence keeps what its two parts keep.  The first part has to keep it only for the values
from which the second part can still come to an ending of the kind. -/
theorem Keeps.bind {first : Running α} {next : α → Running β} {last : Except Fault β → Prop}
    (hfirst : Keeps property kind first) (hnext : ∀ a, Keeps property last (next a))
    (herror : ∀ fault, last (.error fault) → kind (.error fault))
    (hvalue : ∀ a console, last ((next a).from console).1 → kind (.ok a)) :
    Keeps property last (first >>= next) := by
  intro console hproperty hlast
  have hkept := hfirst console hproperty
  rw [Running.from_bind] at hlast ⊢
  cases hresult : (first.from console).1 with
  | error fault =>
      rw [hresult] at hlast hkept
      exact hkept (herror fault hlast)
  | ok a =>
      rw [hresult] at hlast hkept
      exact hnext a _ (hkept (hvalue a _ hlast)) hlast

/-- If the first part of a sequence keeps something anyway, there is nothing more to ask. -/
theorem Keeps.andThen {first : Running α} {next : α → Running β} {last : Except Fault β → Prop}
    (hfirst : Keeps property (fun _ => True) first) (hnext : ∀ a, Keeps property last (next a)) :
    Keeps property last (first >>= next) :=
  hfirst.bind hnext (fun _ _ => trivial) fun _ _ _ => trivial

end Keeping

/-! ## What the settings stages keep -/

/-- Whether a notice says that extraction begins. -/
def isExtracting : Notice → Bool
  | .extracting _ _ _ _ => true
  | _ => false

theorem isExtracting_of_mem_notices {r : Resolver} {n : Notice} (h : n ∈ r.notices) :
    isExtracting n = false := by
  obtain ⟨event, -, hevent⟩ := List.mem_filterMap.mp h
  cases event with
  | inferred key value =>
      cases value with
      | some value =>
          cases hevent
          rfl
      | none => cases hevent
  | started key => cases hevent
  | failed key => cases hevent
  | cycled key chain => cases hevent

theorem isExtracting_of_create {r : Registry} {config : SyncConfig} {extractor : Extractor}
    {selected : Notice} (h : r.create config = .ok (extractor, selected)) :
    isExtracting selected = false := by
  unfold Registry.create at h
  cases hstrategy : r.strategy config.extractorClass with
  | error e =>
      rw [hstrategy] at h
      cases h
  | ok s =>
      rw [hstrategy] at h
      cases h
      rfl

/-- A property of the console outlasts notices that do not say that extraction begins. -/
def OutlastsNotices (property : Console → Prop) : Prop :=
  ∀ console notices, property console → (∀ n ∈ notices, isExtracting n = false) →
    property { console with notices := console.notices ++ notices }

section Settings

variable {property : Console → Prop} (h : OutlastsNotices property)
include h

theorem keeps_configure (properties : PropertyBag Text) {kind : Except Fault SyncConfig → Prop} :
    Keeps property kind (configure properties) := by
  intro console hproperty _
  rw [from_configure]
  exact h _ _ hproperty fun _ => isExtracting_of_mem_notices

theorem keeps_choose (config : SyncConfig) {kind : Except Fault Extractor → Prop} :
    Keeps property kind (choose config) := by
  intro console hproperty _
  cases hcreate : Registry.builtin.create config with
  | error e =>
      rw [from_choose_of_error _ hcreate]
      exact hproperty
  | ok chosen =>
      rw [from_choose_of_ok _ hcreate]
      refine h _ _ hproperty fun n hn => ?_
      rw [List.mem_singleton.mp hn]
      exact isExtracting_of_create hcreate

/-- What follows the settings need only keep what outlasts them. -/
theorem keeps_settings (files : FileSystem) (a : Arguments) {α : Type}
    {last : Except Fault α → Prop} {next : SyncConfig → Extractor → Running α}
    (hnext : ∀ config extractor, Keeps property last (next config extractor)) :
    Keeps property last (do
      let properties ← ofExcept (collectProperties files a)
      let config ← configure properties
      let extractor ← choose config
      next config extractor) := by
  refine (keeps_ofExcept _).andThen fun properties => ?_
  refine (keeps_configure h properties).andThen fun config => ?_
  exact (keeps_choose h config).andThen fun extractor => hnext config extractor

end Settings

/-! ## Nothing is written before the end -/

def Console.Unwritten (console : Console) : Prop :=
  console.output = []

theorem unwritten_outlastsNotices : OutlastsNotices Console.Unwritten :=
  fun _ _ hunwritten _ => hunwritten

theorem unwritten_extract (batch : Batch) (paths : List String)
    {kind : Except Fault (List PartitionValues) → Prop} :
    Keeps Console.Unwritten kind (extract batch paths) := by
  intro console hunwritten _
  rwa [from_extract]

/-- As long as paths are due, or preparation has failed, nothing has been written. -/
theorem unwritten_prepare (files : FileSystem) (a : Arguments) :
    Keeps Console.Unwritten (· ≠ .ok none) (prepare files a) := by
  unfold prepare
  split
  · refine keeps_of_never fun console => ?_
    rw [Running.from_bind, Running.from_writeAll]
    exact fun hdue => hdue rfl
  · refine keeps_settings unwritten_outlastsNotices files a fun config extractor => ?_
    split
    · refine keeps_of_never fun console => ?_
      rw [Running.from_bind, Running.from_write]
      exact fun hdue => hdue rfl
    · exact keeps_pure _

theorem unwritten_deliver (batch : Batch) (paths : List String) :
    Keeps Console.Unwritten Failed (deliver batch paths) := by
  refine (unwritten_extract _ _).andThen fun _ => keeps_of_never fun console => ?_
  rw [Running.from_writeAll]
  rintro ⟨fault, hfault⟩
  cases hfault

theorem unwritten_process (files : FileSystem) (input : Input) (a : Arguments) (batch : Batch) :
    Keeps Console.Unwritten Failed (process files input a batch) :=
  (keeps_ofExcept _).andThen fun _ => unwritten_deliver _ _

theorem unwritten_work (files : FileSystem) (input : Input) (a : Arguments) :
    Keeps Console.Unwritten Failed (work files input a) := by
  refine (unwritten_prepare files a).bind (fun due => ?_) (fun _ _ => by simp) ?_
  · cases due with
    | none => exact keeps_pure _
    | some batch => exact unwritten_process files input a batch
  · rintro due console ⟨fault, hfault⟩ hnone
    cases hnone
    cases hfault

/-! ## Nothing is extracted before paths are due -/

def Console.Unextracted (console : Console) : Prop :=
  ∀ n ∈ console.notices, isExtracting n = false

theorem unextracted_outlastsNotices : OutlastsNotices Console.Unextracted := by
  intro console notices hbefore hnotices n hn
  rcases List.mem_append.mp hn with hn | hn
  · exact hbefore n hn
  · exact hnotices n hn

theorem unextracted_prepare (files : FileSystem) (a : Arguments)
    {kind : Except Fault (Option Batch) → Prop} :
    Keeps Console.Unextracted kind (prepare files a) := by
  unfold prepare
  split
  · intro console hbefore _
    rwa [Running.from_bind, Running.from_writeAll]
  · refine keeps_settings unextracted_outlastsNotices files a fun config extractor => ?_
    split
    · intro console hbefore _
      rwa [Running.from_bind, Running.from_write]
    · exact keeps_pure _

end TableSync.CommandLine
