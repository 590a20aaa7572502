import TableSync.CommandLine.Collect
import TableSync.Config.Reading
import TableSync.Proofs.Document.LeafPaths

/-!
# Layers of properties

Properties come in three layers: the sources, the assignments, and the options of their own.  Each
layer puts what its members hold one above the other, and what a key gets depends on nothing but
what is held for this key.  So the value of a key can be looked up without collecting anything: an
option prevails over the assignments, an assignment over the sources, and within a layer the last
member that has the key over the others.  A layer fails at the first member that cannot be read.
-/

namespace TableSync.Document

open TableSync.Config TableSync.Files TableSync.Text

theorem mapError_eq_ok_iff {ε ε' α : Type} {f : ε → ε'} {outcome : Except ε α} {a : α} :
    outcome.mapError f = .ok a ↔ outcome = .ok a := by
  cases outcome <;> simp [Except.mapError]

/-- A source is a document whose root is a map with these entries; an empty one has none. -/
inductive SourceMap (files : FileSystem) (source : String) : List (Value × Value) → Prop
  | void {paths : List String} {path : String} {content : List UInt8} {data : Yaml.Data}
      (hpaths : candidates "." source = .ok paths)
      (hfile : firstFile files paths = .ok (some (path, content)))
      (hread : Yaml.read (.ofBytes content) = .ok data) (hvoid : data.isVoid = true) :
      SourceMap files source []
  | map {paths : List String} {path : String} {content : List UInt8} {data : Yaml.Data}
      {entries : List (Value × Value)} (hpaths : candidates "." source = .ok paths)
      (hfile : firstFile files paths = .ok (some (path, content)))
      (hread : Yaml.read (.ofBytes content) = .ok data) (hvoid : data.isVoid = false)
      (hentries : data.entries? = .ok (some entries)) : SourceMap files source entries

/-- The properties of a source are its entries, flattened. -/
theorem loadProperties_eq_ok_iff {files : FileSystem} {source : String}
    {properties : PropertyBag Text} :
    loadProperties files source = .ok properties ↔
      ∃ entries, SourceMap files source entries ∧ properties = flatten entries := by
  constructor
  · intro h
    obtain ⟨paths, hpaths, h⟩ := ok_of_bind h
    obtain ⟨found, hfile, h⟩ := ok_of_bind h
    cases found with
    | none => cases h
    | some found =>
        obtain ⟨data, hdata, h⟩ := ok_of_bind h
        have hread := mapError_eq_ok_iff.mp hdata
        cases hvoid : data.isVoid with
        | true =>
            rw [hvoid] at h
            cases h
            exact ⟨[], .void hpaths hfile hread hvoid, rfl⟩
        | false =>
            rw [hvoid] at h
            obtain ⟨root, hroot, h⟩ := ok_of_bind h
            cases root with
            | none => cases h
            | some entries =>
                cases h
                exact ⟨entries, .map hpaths hfile hread hvoid (mapError_eq_ok_iff.mp hroot), rfl⟩
  · rintro ⟨entries, hmap, rfl⟩
    unfold loadProperties readProperties
    cases hmap with
    | void hpaths hfile hread hvoid =>
        simp only [hpaths, hfile, hread, hvoid, Except.mapError, bind, Except.bind, if_true]
        rfl
    | map hpaths hfile hread hvoid hentries =>
        simp only [hpaths, hfile, hread, hvoid, hentries, Except.mapError, bind, Except.bind]
        rfl

end TableSync.Document

namespace TableSync.CommandLine

open TableSync.Config TableSync.Document TableSync.Files TableSync.Text

/-! ## One layer -/

/-- Of the members that hold something for a key, the last one holds this value. -/
def LastValue (holds : Text → Text → String → Prop) (members : List String)
    (key value : Text) : Prop :=
  ∃ member, IsLast (fun member => ∃ v, holds key v member) members member ∧ holds key value member

theorem lastValue_cons {holds : Text → Text → String → Prop} {member : String}
    {rest : List String} {key value : Text} :
    LastValue holds (member :: rest) key value ↔
      LastValue holds rest key value ∨
        (∀ other ∈ rest, ∀ v, ¬ holds key v other) ∧ holds key value member := by
  unfold LastValue
  simp only [isLast_cons_iff, not_exists]
  constructor
  · rintro ⟨last, hlast | ⟨rfl, -, hrest⟩, hvalue⟩
    · exact .inl ⟨last, hlast, hvalue⟩
    · exact .inr ⟨hrest, hvalue⟩
  · rintro (⟨last, hlast, hvalue⟩ | ⟨hrest, hvalue⟩)
    · exact ⟨last, .inl hlast, hvalue⟩
    · exact ⟨member, .inr ⟨rfl, ⟨value, hvalue⟩, hrest⟩, hvalue⟩

section Layer

variable {read : String → Except Fault (PropertyBag Text)} {bag result : PropertyBag Text}
  {members : List String} {key value : Text} {fault : Fault}

/-- What the members of a layer hold, one above the other, over a bag. -/
def layered (read : String → Except Fault (PropertyBag Text)) (bag : PropertyBag Text)
    (members : List String) : Except Fault (PropertyBag Text) :=
  members.foldlM (fun bag member => (read member).map bag.update) bag

/-- A member of a layer holds a value for a key. -/
def Holds (read : String → Except Fault (PropertyBag Text)) (key value : Text)
    (member : String) : Prop :=
  ∃ properties, read member = .ok properties ∧ properties.get? key = some value

theorem layered_cons (member : String) (rest : List String) :
    layered read bag (member :: rest) =
      match read member with
      | .ok properties => layered read (bag.update properties) rest
      | .error e => .error e := by
  rw [layered, List.foldlM_cons]
  cases read member <;> rfl

theorem layered_append (first second : List String) :
    layered read bag (first ++ second) =
      layered read bag first >>= fun bag => layered read bag second :=
  List.foldlM_append

theorem layered_eq_error_iff :
    layered read bag members = .error fault ↔
      ∃ member, IsFirst (fun member => ∃ e, read member = .error e) members member ∧
        read member = .error fault := by
  induction members generalizing bag with
  | nil =>
      constructor
      · intro h
        cases h
      · rintro ⟨member, hfirst, -⟩
        exact (not_isFirst_nil hfirst).elim
  | cons member rest ih =>
      rw [layered_cons]
      simp only [isFirst_cons_iff]
      cases hread : read member with
      | ok properties => simp [ih]
      | error e => simp [hread]

theorem exists_layered_eq_ok_iff :
    (∃ result, layered read bag members = .ok result) ↔
      ∀ member ∈ members, ∃ properties, read member = .ok properties := by
  induction members generalizing bag with
  | nil => exact ⟨fun _ _ => nofun, fun _ => ⟨bag, rfl⟩⟩
  | cons member rest ih =>
      rw [layered_cons, List.forall_mem_cons]
      cases hread : read member with
      | ok properties => simp [ih]
      | error e => simp

/-- What a member holds for a key prevails over what is there. -/
theorem get?_update_of_read {member : String} {properties : PropertyBag Text}
    (h : read member = .ok properties) :
    (bag.update properties).get? key = some value ↔
      Holds read key value member ∨
        (∀ v, ¬ Holds read key v member) ∧ bag.get? key = some value := by
  have hholds (v : Text) : Holds read key v member ↔ properties.get? key = some v := by
    simp [Holds, h]
  simp only [hholds]
  rw [PropertyBag.get?_update, Option.or_eq_some_iff, Option.eq_none_iff_forall_ne_some]

/-- A key has the value of the last member that has the key, or else the value from below. -/
theorem get?_layered (h : layered read bag members = .ok result) :
    result.get? key = some value ↔
      LastValue (Holds read) members key value ∨
        (∀ member ∈ members, ∀ v, ¬ Holds read key v member) ∧ bag.get? key = some value := by
  induction members generalizing bag with
  | nil =>
      cases h
      simp [LastValue, not_isLast_nil]
  | cons member rest ih =>
      rw [layered_cons] at h
      cases hread : read member with
      | error e =>
          rw [hread] at h
          cases h
      | ok properties =>
          rw [hread] at h
          rw [ih h, get?_update_of_read hread, lastValue_cons, List.forall_mem_cons]
          tauto

/-- What a layer makes of a key depends on the key alone. -/
theorem get?_layered_congr {other result' : PropertyBag Text}
    (h : layered read bag members = .ok result) (h' : layered read other members = .ok result')
    (hkey : bag.get? key = other.get? key) : result.get? key = result'.get? key := by
  refine Option.ext fun value => ?_
  rw [get?_layered h, get?_layered h', hkey]

/-- A member that does not hold a key may be left out. -/
theorem get?_layered_without {before after : List String} {member : String}
    {properties others : PropertyBag Text} (hread : read member = .ok properties)
    (hkey : properties.get? key = none)
    (h : layered read bag (before ++ member :: after) = .ok result)
    (hothers : layered read bag (before ++ after) = .ok others) :
    result.get? key = others.get? key := by
  rw [layered_append] at h hothers
  obtain ⟨first, hfirst, h⟩ := ok_of_bind h
  obtain ⟨_, hsame, hothers⟩ := ok_of_bind hothers
  cases hfirst.symm.trans hsame
  rw [layered_cons, hread] at h
  refine get?_layered_congr h hothers ?_
  rw [PropertyBag.get?_update, hkey, Option.none_or]

end Layer

/-! ## Sources -/

/-- A source holds a value for a key if that is what a leaf of its map gives. -/
def Sets (files : FileSystem) (key value : Text) (source : String) : Prop :=
  ∃ entries, SourceMap files source entries ∧ (flatten entries).get? key = some value

def readSource (files : FileSystem) (source : String) : Except Fault (PropertyBag Text) :=
  (loadProperties files source).mapError .load

theorem withSources_eq_layered (files : FileSystem) (bag : PropertyBag Text)
    (sources : List String) :
    withSources files bag sources = layered (readSource files) bag sources := by
  induction sources generalizing bag with
  | nil => rfl
  | cons source rest ih =>
      rw [withSources_cons, layered_cons, readSource]
      cases loadProperties files source with
      | ok properties => exact ih _
      | error e => rfl

theorem holds_readSource (files : FileSystem) : Holds (readSource files) = Sets files := by
  funext key value source
  unfold Holds Sets readSource
  simp only [mapError_eq_ok_iff, loadProperties_eq_ok_iff]
  apply propext
  constructor
  · rintro ⟨properties, ⟨entries, hmap, rfl⟩, hvalue⟩
    exact ⟨entries, hmap, hvalue⟩
  · rintro ⟨entries, hmap, hvalue⟩
    exact ⟨_, ⟨entries, hmap, rfl⟩, hvalue⟩

theorem readSource_eq_error_iff {files : FileSystem} {source : String} {fault : Fault} :
    readSource files source = .error fault ↔
      ∃ e, loadProperties files source = .error e ∧ fault = .load e := by
  unfold readSource
  cases loadProperties files source <;> simp [Except.mapError, eq_comm]

theorem exists_readSource_eq_error_iff {files : FileSystem} {source : String} :
    (∃ fault, readSource files source = .error fault) ↔
      ∃ e, loadProperties files source = .error e := by
  simp only [readSource_eq_error_iff]
  exact ⟨fun ⟨_, e, h, _⟩ => ⟨e, h⟩, fun ⟨e, h⟩ => ⟨_, e, h, rfl⟩⟩

theorem exists_sourced_iff {files : FileSystem} {bag : PropertyBag Text} {sources : List String} :
    (∃ sourced, layered (readSource files) bag sources = .ok sourced) ↔
      ∀ source ∈ sources, ∃ properties, loadProperties files source = .ok properties := by
  simp only [exists_layered_eq_ok_iff, readSource, mapError_eq_ok_iff]

/-- The first source that cannot be loaded decides on the error. -/
theorem sourced_eq_error_iff {files : FileSystem} {bag : PropertyBag Text}
    {sources : List String} {fault : Fault} :
    layered (readSource files) bag sources = .error fault ↔
      ∃ source e, IsFirst (fun source => ∃ e, loadProperties files source = .error e)
        sources source ∧ loadProperties files source = .error e ∧ fault = .load e := by
  simp only [layered_eq_error_iff, exists_readSource_eq_error_iff]
  simp only [readSource_eq_error_iff, exists_and_left]

/-! ## Assignments -/

/-- An argument assigns a value to a key: the key stands before the first equals sign, not blank,
but maybe between blanks, and everything behind the sign is the value. -/
inductive Assigns : Text → Text → String → Prop
  | intro {item : String} {name value : Text}
      (hitem : Text.ofString item = name ++ .char '=' :: value) (hname : .char '=' ∉ name)
      (hblank : ∃ c ∈ name, isBlankPoint c = false) : Assigns (strip name) value item

def IsAssignment (item : String) : Prop :=
  ∃ key value, Assigns key value item

theorem isBlankText_eq_false_iff {t : Text} :
    isBlankText t = false ↔ ∃ c ∈ t, isBlankPoint c = false := by
  simp [isBlankText]

theorem readAssignment_eq_ok_iff {item : String} {key value : Text} :
    readAssignment item = .ok (key, value) ↔ Assigns key value item := by
  unfold readAssignment
  constructor
  · intro h
    split at h
    · rename_i name rest hcut
      obtain ⟨hitem, hname⟩ := cut?_eq_some_iff.mp hcut
      split at h
      · cases h
      · rename_i hblank
        cases h
        exact .intro hitem hname (isBlankText_eq_false_iff.mp (Bool.eq_false_iff.mpr hblank))
    · cases h
  · rintro ⟨hitem, hname, hblank⟩
    rw [cut?_eq_some_iff.mpr ⟨hitem, hname⟩]
    simp [isBlankText_eq_false_iff.mpr hblank]

theorem readAssignment_eq_error_iff {item : String} {e : ConfigError} :
    readAssignment item = .error e ↔ ¬ IsAssignment item ∧ e = .malformedAssignment item := by
  have hfault (e : ConfigError) (h : readAssignment item = .error e) :
      e = .malformedAssignment item := by
    unfold readAssignment at h
    split at h
    · split at h <;> cases h
      rfl
    · cases h
      rfl
  unfold IsAssignment
  simp only [← readAssignment_eq_ok_iff]
  cases hread : readAssignment item with
  | ok pair => exact ⟨nofun, fun h => (h.1 ⟨pair.1, pair.2, rfl⟩).elim⟩
  | error fault => simp [hfault fault hread, eq_comm]

def readPair (item : String) : Except Fault (PropertyBag Text) :=
  ((readAssignment item).mapError .config).map fun pair => .ofList [pair]

theorem readPair_eq_error_iff {item : String} {fault : Fault} :
    readPair item = .error fault ↔
      ¬ IsAssignment item ∧ fault = .config (.malformedAssignment item) := by
  unfold readPair
  cases hread : readAssignment item with
  | ok pair =>
      have hassignment : IsAssignment item := ⟨_, _, readAssignment_eq_ok_iff.mp hread⟩
      exact ⟨nofun, fun h => (h.1 hassignment).elim⟩
  | error e =>
      obtain ⟨hmalformed, rfl⟩ := readAssignment_eq_error_iff.mp hread
      exact ⟨fun h => ⟨hmalformed, (Except.error.inj h).symm⟩, fun h => congrArg _ h.2.symm⟩

theorem exists_readPair_eq_error_iff {item : String} :
    (∃ fault, readPair item = .error fault) ↔ ¬ IsAssignment item := by
  simp only [readPair_eq_error_iff]
  exact ⟨fun ⟨_, h, _⟩ => h, fun h => ⟨_, h, rfl⟩⟩

theorem exists_readPair_eq_ok_iff {item : String} :
    (∃ properties, readPair item = .ok properties) ↔ IsAssignment item := by
  rw [← not_iff_not, ← exists_readPair_eq_error_iff]
  cases readPair item <;> simp

theorem withAssignments_eq_layered (bag : PropertyBag Text) (items : List String) :
    withAssignments bag items = layered readPair bag items := by
  induction items generalizing bag with
  | nil => rfl
  | cons item rest ih =>
      rw [withAssignments, layered_cons, readPair]
      cases readAssignment item with
      | ok pair =>
          show withAssignments (bag.insert pair.1 pair.2) rest =
            layered readPair (bag.update (.ofList [pair])) rest
          rw [ih, PropertyBag.update_ofList]
          rfl
      | error e => rfl

theorem get?_ofList_singleton {pair : Text × Text} {key value : Text} :
    (PropertyBag.ofList [pair]).get? key = some value ↔ pair = (key, value) := by
  show (PropertyBag.empty.insert pair.1 pair.2).get? key = some value ↔ _
  rw [PropertyBag.get?_insert, PropertyBag.get?_empty]
  by_cases hkey : key = pair.1
  · simp [hkey, Prod.ext_iff]
  · simp [hkey, Prod.ext_iff, Ne.symm hkey]

theorem holds_readPair : Holds readPair = Assigns := by
  funext key value item
  apply propext
  rw [← readAssignment_eq_ok_iff]
  unfold Holds readPair
  constructor
  · rintro ⟨properties, hread, hvalue⟩
    cases hpair : readAssignment item with
    | error e =>
        rw [hpair] at hread
        cases hread
    | ok pair =>
        rw [hpair] at hread
        cases hread
        rw [get?_ofList_singleton.mp hvalue]
  · intro hread
    rw [hread]
    exact ⟨_, rfl, get?_ofList_singleton.mpr rfl⟩

theorem exists_assigned_iff {bag : PropertyBag Text} {items : List String} :
    (∃ assigned, layered readPair bag items = .ok assigned) ↔
      ∀ item ∈ items, IsAssignment item := by
  simp only [exists_layered_eq_ok_iff, exists_readPair_eq_ok_iff]

/-- The first argument that is no assignment decides on the error. -/
theorem assigned_eq_error_iff {bag : PropertyBag Text} {items : List String} {fault : Fault} :
    layered readPair bag items = .error fault ↔
      ∃ item, IsFirst (fun item => ¬ IsAssignment item) items item ∧
        fault = .config (.malformedAssignment item) := by
  simp only [layered_eq_error_iff, exists_readPair_eq_error_iff]
  simp only [readPair_eq_error_iff]
  refine exists_congr fun item => and_congr_right fun hfirst => and_iff_right ?_
  obtain ⟨-, -, -, -, hmalformed⟩ := hfirst
  exact hmalformed

/-! ## Options -/

/-- An option of its own that is given has a value for its key. -/
inductive GivenByOption (a : Arguments) : Text → Text → Prop
  | database {value : String} (h : a.database? = some value) : GivenByOption a databaseKey value
  | table {value : String} (h : a.table? = some value) : GivenByOption a tableKey value
  | basePath {value : String} (h : a.basePath? = some value) : GivenByOption a basePathKey value
  | baseFileFormat {value : String} (h : a.baseFileFormat? = some value) :
      GivenByOption a baseFileFormatKey value
  | partitionedBy (h : a.partitionedBy ≠ []) :
      GivenByOption a partitionFieldsKey
        (Text.joined "," (a.partitionedBy.map Text.ofString))
  | extractor {value : String} (h : a.extractor? = some value) :
      GivenByOption a extractorClassKey value
  | assumeDate (h : a.assumeDate = true) : GivenByOption a assumeDateKey "true"
  | decode (h : a.decode = true) : GivenByOption a decodeKey "true"

section Options

variable {a : Arguments} {bag : PropertyBag Text} {key value : Text}

theorem givenByOption_iff : GivenByOption a key value ↔ (key, some value) ∈ optionProperties a := by
  have hset : writeFlag true = "true" := rfl
  simp only [optionProperties, hset, List.mem_cons, Prod.mk.injEq, List.not_mem_nil, or_false,
    eq_comm (a := some value), Option.map_eq_some_iff, Option.ite_none_left_eq_some,
    Option.ite_none_right_eq_some, Option.some.injEq]
  constructor
  · intro h
    cases h <;> simp [*]
  · rintro (⟨rfl, _, h, rfl⟩ | ⟨rfl, _, h, rfl⟩ | ⟨rfl, _, h, rfl⟩ | ⟨rfl, _, h, rfl⟩ |
      ⟨rfl, h, rfl⟩ | ⟨rfl, _, h, rfl⟩ | ⟨rfl, h, rfl⟩ | ⟨rfl, h, rfl⟩)
    · exact .database h
    · exact .table h
    · exact .basePath h
    · exact .baseFileFormat h
    · exact .partitionedBy h
    · exact .extractor h
    · exact .assumeDate h
    · exact .decode h

/-- The options set keys of their own. -/
theorem nodup_keys_optionProperties (a : Arguments) :
    ((optionProperties a).map Prod.fst).Nodup := by
  unfold optionProperties
  simp only [List.map_cons, List.map_nil]
  decide +kernel

/-- An option prevails over what is there. -/
theorem get?_withOptions :
    (withOptions bag (optionProperties a)).get? key = some value ↔
      GivenByOption a key value ∨ (∀ v, ¬ GivenByOption a key v) ∧ bag.get? key = some value := by
  have hmem (k v : Text) :
      (k, v) ∈ ((optionProperties a).filterMap fun setting =>
        setting.2.map fun value => (setting.1, value)) ↔ GivenByOption a k v := by
    rw [givenByOption_iff, List.mem_filterMap]
    simp
  have hdistinct : ((optionProperties a).filterMap fun setting =>
      setting.2.map fun value => (setting.1, value)).Pairwise
        fun pair other => pair.1 = key → ¬ other.1 = key := by
    refine List.Pairwise.filterMap _ ?_ (List.pairwise_map.mp (nodup_keys_optionProperties a))
    rintro ⟨k, _⟩ ⟨k', _⟩ hne pair hpair other hother rfl hkey
    obtain ⟨v, -, rfl⟩ := Option.map_eq_some_iff.mp hpair
    obtain ⟨v', -, rfl⟩ := Option.map_eq_some_iff.mp hother
    exact hne hkey.symm
  rw [withOptions, PropertyBag.get?_insertAll_eq_some_iff, isLast_iff_mem hdistinct, hmem]
  refine or_congr (and_iff_left rfl) (and_congr_left' ?_)
  constructor
  · intro h v hgiven
    exact h _ ((hmem key v).mpr hgiven) rfl
  · rintro h ⟨k, v⟩ hpair rfl
    exact h v ((hmem k v).mp hpair)

end Options

/-! ## All layers -/

/-- The value that prevails for a key. -/
inductive Prevails (files : FileSystem) (a : Arguments) (key value : Text) : Prop
  | option (hoption : GivenByOption a key value)
  | assignment (hoption : ∀ v, ¬ GivenByOption a key v)
      (hlast : LastValue Assigns a.assignments key value)
  | source (hoption : ∀ v, ¬ GivenByOption a key v)
      (hassignment : ∀ item ∈ a.assignments, ∀ v, ¬ Assigns key v item)
      (hlast : LastValue (Sets files) a.sources key value)

section Collecting

variable {files : FileSystem} {a : Arguments} {bag : PropertyBag Text} {fault : Fault}

theorem collectProperties_eq_layers (files : FileSystem) (a : Arguments) :
    collectProperties files a =
      layered (readSource files) .empty a.sources >>= fun bag =>
        (layered readPair bag a.assignments).map fun bag =>
          withOptions bag (optionProperties a) := by
  unfold collectProperties
  rw [withSources_eq_layered]
  cases layered (readSource files) .empty a.sources with
  | error e => rfl
  | ok bag =>
      show (withAssignments bag a.assignments >>= fun bag =>
        pure (withOptions bag (optionProperties a))) = _
      rw [withAssignments_eq_layered]
      rfl

theorem collectProperties_eq_ok_iff :
    collectProperties files a = .ok bag ↔
      ∃ sourced assigned, layered (readSource files) .empty a.sources = .ok sourced ∧
        layered readPair sourced a.assignments = .ok assigned ∧
        bag = withOptions assigned (optionProperties a) := by
  rw [collectProperties_eq_layers]
  constructor
  · intro h
    obtain ⟨sourced, hsourced, h⟩ := ok_of_bind h
    cases hassigned : layered readPair sourced a.assignments with
    | error e =>
        rw [hassigned] at h
        cases h
    | ok assigned =>
        rw [hassigned] at h
        cases h
        exact ⟨sourced, assigned, hsourced, hassigned, rfl⟩
  · rintro ⟨sourced, assigned, hsourced, hassigned, rfl⟩
    rw [hsourced]
    show (layered readPair sourced a.assignments).map _ = _
    rw [hassigned]
    rfl

/-- A key has the value that prevails for it. -/
theorem get?_collectProperties (h : collectProperties files a = .ok bag) {key value : Text} :
    bag.get? key = some value ↔ Prevails files a key value := by
  obtain ⟨sourced, assigned, hsourced, hassigned, rfl⟩ := collectProperties_eq_ok_iff.mp h
  rw [get?_withOptions, get?_layered hassigned, get?_layered hsourced, holds_readSource,
    holds_readPair]
  constructor
  · rintro (hoption | ⟨hoption, hlast | ⟨hassignment, hlast | ⟨-, hempty⟩⟩⟩)
    · exact .option hoption
    · exact .assignment hoption hlast
    · exact .source hoption hassignment hlast
    · cases hempty
  · intro hprevails
    cases hprevails with
    | option hoption => exact .inl hoption
    | assignment hoption hlast => exact .inr ⟨hoption, .inl hlast⟩
    | source hoption hassignment hlast =>
        exact .inr ⟨hoption, .inr ⟨hassignment, .inl hlast⟩⟩

theorem exists_collectProperties_eq_ok_iff :
    (∃ bag, collectProperties files a = .ok bag) ↔
      (∀ source ∈ a.sources, ∃ properties, loadProperties files source = .ok properties) ∧
        ∀ item ∈ a.assignments, IsAssignment item := by
  simp only [collectProperties_eq_ok_iff]
  constructor
  · rintro ⟨bag, sourced, assigned, hsourced, hassigned, -⟩
    exact ⟨exists_sourced_iff.mp ⟨sourced, hsourced⟩, exists_assigned_iff.mp ⟨assigned, hassigned⟩⟩
  · rintro ⟨hsources, hitems⟩
    obtain ⟨sourced, hsourced⟩ := exists_sourced_iff.mpr hsources
    obtain ⟨assigned, hassigned⟩ := exists_assigned_iff.mpr hitems
    exact ⟨_, sourced, assigned, hsourced, hassigned, rfl⟩

/-- The sources fail before the assignments are looked at. -/
theorem collectProperties_eq_error_iff :
    collectProperties files a = .error fault ↔
      (∃ source e, IsFirst (fun source => ∃ e, loadProperties files source = .error e)
          a.sources source ∧ loadProperties files source = .error e ∧ fault = .load e) ∨
        (∀ source ∈ a.sources, ∃ properties, loadProperties files source = .ok properties) ∧
          ∃ item, IsFirst (fun item => ¬ IsAssignment item) a.assignments item ∧
            fault = .config (.malformedAssignment item) := by
  rw [collectProperties_eq_layers, ← sourced_eq_error_iff, ← exists_sourced_iff]
  constructor
  · intro h
    rcases error_of_bind h with h | ⟨sourced, hsourced, h⟩
    · exact .inl h
    · exact .inr ⟨⟨sourced, hsourced⟩, assigned_eq_error_iff.mp (map_eq_error_iff.mp h)⟩
  · rintro (h | ⟨⟨sourced, hsourced⟩, hitem⟩)
    · rw [h]
      rfl
    · rw [hsourced]
      exact map_eq_error_iff.mpr (assigned_eq_error_iff.mpr hitem)

/-- Options make the same of bags that agree on a key. -/
theorem get?_withOptions_congr {other : PropertyBag Text} {key : Text}
    (h : bag.get? key = other.get? key) :
    (withOptions bag (optionProperties a)).get? key =
      (withOptions other (optionProperties a)).get? key := by
  refine Option.ext fun value => ?_
  rw [get?_withOptions, get?_withOptions, h]

/-- Without one of the sources, the keys that are none of its leaves have the same values, for each
later layer makes the same of them. -/
theorem exists_collectProperties_without {before after : List String} {source : String}
    {entries : List (Value × Value)} (hsources : a.sources = before ++ source :: after)
    (hmap : SourceMap files source entries) (h : collectProperties files a = .ok bag) :
    ∃ others, collectProperties files { a with sources := before ++ after } = .ok others ∧
      ∀ key, (∀ leaf ∈ entryLeaves entries, leafKey [] leaf.path ≠ key) →
        bag.get? key = others.get? key := by
  obtain ⟨others, hothers⟩ : ∃ others,
      collectProperties files { a with sources := before ++ after } = .ok others := by
    have hok := exists_collectProperties_eq_ok_iff.mp ⟨bag, h⟩
    refine exists_collectProperties_eq_ok_iff.mpr ⟨fun other hother => hok.1 other ?_, hok.2⟩
    rw [hsources]
    simp only [List.mem_append, List.mem_cons] at hother ⊢
    tauto
  refine ⟨others, hothers, fun key hkey => ?_⟩
  have hread : readSource files source = .ok (flatten entries) :=
    mapError_eq_ok_iff.mpr (loadProperties_eq_ok_iff.mpr ⟨entries, hmap, rfl⟩)
  have hnone : (flatten entries).get? key = none := by
    rw [Option.eq_none_iff_forall_ne_some]
    intro text htext
    obtain ⟨leaf, ⟨front, back, hleaves, hleaf, -⟩, -⟩ := get?_flatten_eq_some_iff.mp htext
    exact hkey leaf (by simp [hleaves]) hleaf
  obtain ⟨sourced, assigned, hsourced, hassigned, rfl⟩ := collectProperties_eq_ok_iff.mp h
  obtain ⟨sourced', assigned', hsourced', hassigned', rfl⟩ :=
    collectProperties_eq_ok_iff.mp hothers
  rw [hsources] at hsourced
  exact get?_withOptions_congr (get?_layered_congr hassigned hassigned'
    (get?_layered_without hread hnone hsourced hsourced'))

end Collecting

/-- Properties can be collected if and only if every source can be loaded and every argument that
should be an assignment is one.  Then each key has the value that prevails for it, and a key for
which none does is not there.  Otherwise the first source that cannot be loaded decides on the
error, or, if there is none, the first argument that is no assignment.  A source changes nothing for
the keys of which its map has no leaf. -/
theorem collected_in_layers (files : FileSystem) (a : Arguments) :
    ((∃ bag, collectProperties files a = .ok bag) ↔
      (∀ source ∈ a.sources, ∃ properties, loadProperties files source = .ok properties) ∧
        ∀ item ∈ a.assignments, IsAssignment item) ∧
    (∀ bag, collectProperties files a = .ok bag →
      ∀ key value, bag.get? key = some value ↔ Prevails files a key value) ∧
    (∀ fault, collectProperties files a = .error fault ↔
      (∃ source e, IsFirst (fun source => ∃ e, loadProperties files source = .error e)
          a.sources source ∧ loadProperties files source = .error e ∧ fault = .load e) ∨
        (∀ source ∈ a.sources, ∃ properties, loadProperties files source = .ok properties) ∧
          ∃ item, IsFirst (fun item => ¬ IsAssignment item) a.assignments item ∧
            fault = .config (.malformedAssignment item)) ∧
    ∀ before source after entries bag, a.sources = before ++ source :: after →
      SourceMap files source entries → collectProperties files a = .ok bag →
      ∃ others, collectProperties files { a with sources := before ++ after } = .ok others ∧
        ∀ key, (∀ leaf ∈ entryLeaves entries, leafKey [] leaf.path ≠ key) →
          bag.get? key = others.get? key := by
  exact ⟨exists_collectProperties_eq_ok_iff, fun bag h key value => get?_collectProperties h,
    fun fault => collectProperties_eq_error_iff,
    fun before source after entries bag => exists_collectProperties_without⟩

/-! ### A source over another -/

def twoFiles : FileTree :=
  { working := ["desk"]
    entries :=
      [(["desk", "job.yml"],
          .file "sync:\n  database: sales\n  table: orders\n".toUTF8.toList),
        (["desk", "night.yaml"], .file "sync:\n  table: returns\n".toUTF8.toList)] }

def twoArguments : Arguments :=
  { sources := ["job", "night"], assignments := [" sync.base_path =/data/a=b"]
    partitionedBy := ["region", "day"] }

def twoProperties : PropertyBag Text :=
  .ofList [(databaseKey, "sales"), (tableKey, "returns"), (basePathKey, "/data/a=b"),
    (partitionFieldsKey, "region,day")]

/-- The second file changes the table, and the database that stands beside it in the first file
stays as it is without the second. -/
theorem collected_in_layers_of_two_files :
    collectProperties twoFiles.lookup twoArguments = .ok twoProperties ∧
      Prevails twoFiles.lookup twoArguments tableKey "returns" ∧
      Prevails twoFiles.lookup twoArguments basePathKey "/data/a=b" ∧
      Prevails twoFiles.lookup twoArguments partitionFieldsKey "region,day" ∧
      ∃ others, collectProperties twoFiles.lookup { twoArguments with sources := ["job"] } =
        .ok others ∧ twoProperties.get? databaseKey = others.get? databaseKey := by
  have hcollect : collectProperties twoFiles.lookup twoArguments = .ok twoProperties :=
    ok_of_toOption (by decide +kernel)
  have hnight : loadProperties twoFiles.lookup "night" = .ok (.ofList [(tableKey, "returns")]) :=
    ok_of_toOption (by decide +kernel)
  obtain ⟨entries, hmap, hflat⟩ := loadProperties_eq_ok_iff.mp hnight
  have hkeys : ∀ leaf ∈ entryLeaves entries, leafKey [] leaf.path ≠ databaseKey := by
    intro leaf hleaf hkey
    have hmem : databaseKey ∈ (flatten entries).keys := by
      rw [keys_flatten, List.mem_eraseDups, ← hkey]
      exact List.mem_map_of_mem hleaf
    rw [← hflat] at hmem
    revert hmem
    decide +kernel
  obtain ⟨-, hvalues, -, hothers⟩ := collected_in_layers twoFiles.lookup twoArguments
  obtain ⟨others, hcollected, hsame⟩ := hothers ["job"] "night" [] entries _ rfl hmap hcollect
  refine ⟨hcollect, (hvalues _ hcollect _ _).mp ?_, (hvalues _ hcollect _ _).mp ?_,
    (hvalues _ hcollect _ _).mp ?_, others, hcollected, hsame _ hkeys⟩
  · decide +kernel
  · decide +kernel
  · decide +kernel

end TableSync.CommandLine
