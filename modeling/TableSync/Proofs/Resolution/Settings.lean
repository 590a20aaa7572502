import TableSync.Notice
import TableSync.Proofs.Resolution.Course
import TableSync.Proofs.Resolution.SyncValues

/-!
# The settings of a job in closed form

The text of each setting can be read off the bag, and so can whether it is as it has to be.  The
settings are read in the order of the catalog up to the first one that is not; a notice is given of
each of them whose text was inferred, once, although the strategy of a job is inferred from its
partition fields again.
-/

namespace TableSync.Config

open TableSync.Partition

/-! ## Texts and faults

Three of the settings are true or false, five have a text other than the empty one, and the
partition fields may be anything.
-/

section ClosedForm

variable (bag : PropertyBag (Option Text))

/-- The name that is inferred for a table.  The name it was written under decides where it is
present, even if it has no value. -/
def inferredTable : Option Text :=
  if bag.contains writtenNameKey then (bag.get? writtenNameKey).join
  else (bag.get? tableNameKey).join

/-- The text that is inferred for a setting. -/
def inferredText (key : Text) : Option Text :=
  if key = tableKey then inferredTable bag
  else if key = partitionFieldsKey then (bag.get? keyFieldsKey).join
  else if key = extractorClassKey then inferredIdentifier? bag
  else if key = decodeKey then (bag.get? keyUrlEncodeKey).join
  else none

/-- The text of a setting: what the bag has, even if that is nothing, or else what is inferred, or
else the default. -/
def settingText (key : Text) : Option Text :=
  (bag.get? key).getD ((inferredText bag key).or ((syncCatalog.find? key).bind Property.default?))

/-- The settings in the order in which they are read. -/
def settingKeys : List Text :=
  [enabledKey, databaseKey, tableKey, basePathKey, baseFileFormatKey, partitionFieldsKey,
    extractorClassKey, assumeDateKey, decodeKey]

def flagKeys : List Text :=
  [enabledKey, assumeDateKey, decodeKey]

def textKeys : List Text :=
  [databaseKey, tableKey, basePathKey, baseFileFormatKey, extractorClassKey]

def flagFault? (key : Text) : Option Text → Option ConfigError
  | none => some (.missingFlag key)
  | some text => if ∃ b, SpellsFlag b text then none else some (.invalidFlag key text)

def textFault? (key : Text) (value : Option Text) : Option ConfigError :=
  if value = none ∨ value = some [] then some (.missingText key) else none

/-- What is wrong with a setting. -/
def settingFault? (key : Text) : Option ConfigError :=
  if key ∈ flagKeys then flagFault? key (settingText bag key)
  else if key ∈ textKeys then textFault? key (settingText bag key)
  else none

/-- The truth value of a flag that nothing is wrong with. -/
def settingFlag (key : Text) : Bool :=
  (settingText bag key).any fun text => SpellsFlag true text

/-- The settings of a bag that nothing is wrong with. -/
def closedSettings : SyncConfig where
  enabled := settingFlag bag enabledKey
  database := (settingText bag databaseKey).getD []
  table := (settingText bag tableKey).getD []
  basePath := (settingText bag basePathKey).getD []
  baseFileFormat := (settingText bag baseFileFormatKey).getD []
  partitionFields := listItems (settingText bag partitionFieldsKey)
  extractorClass := (settingText bag extractorClassKey).getD []
  assumeDate := settingFlag bag assumeDateKey
  decode := settingFlag bag decodeKey

/-- The first fault of some settings, or else a configuration. -/
def verdict (keys : List Text) (config : SyncConfig) : Except ConfigError SyncConfig :=
  (keys.findSome? (settingFault? bag)).elim (.ok config) .error

/-- The settings that are read of some: all up to the first one that something is wrong with. -/
def keysRead : List Text → List Text
  | [] => []
  | key :: keys => key :: if (settingFault? bag key).isSome then [] else keysRead keys

/-- The notice that is given of a setting: its text, if that was inferred. -/
def inferredNotice? (key : Text) : Option Notice :=
  if bag.contains key then none else (inferredText bag key).map (.inferred key)

end ClosedForm

/-! ## Reading one value -/

section Values

variable {bag : PropertyBag (Option Text)}

theorem inferredText_of_notMem {key : Text}
    (hkey : key ∉ [tableKey, partitionFieldsKey, extractorClassKey, decodeKey]) :
    inferredText bag key = none := by
  simp only [List.mem_cons, List.not_mem_nil, or_false, not_or] at hkey
  obtain ⟨htable, hfields, hclass, hdecode⟩ := hkey
  unfold inferredText
  rw [if_neg htable, if_neg hfields, if_neg hclass, if_neg hdecode]

theorem inferredText_tableKey : inferredText bag tableKey = inferredTable bag :=
  if_pos rfl

theorem inferredText_partitionFieldsKey :
    inferredText bag partitionFieldsKey = (bag.get? keyFieldsKey).join := by
  have htable : partitionFieldsKey ≠ tableKey := by decide +kernel
  unfold inferredText
  rw [if_neg htable, if_pos rfl]

theorem inferredText_extractorClassKey :
    inferredText bag extractorClassKey = inferredIdentifier? bag := by
  have htable : extractorClassKey ≠ tableKey := by decide +kernel
  have hfields : extractorClassKey ≠ partitionFieldsKey := by decide +kernel
  unfold inferredText
  rw [if_neg htable, if_neg hfields, if_pos rfl]

theorem inferredText_decodeKey :
    inferredText bag decodeKey = (bag.get? keyUrlEncodeKey).join := by
  have hkeys : decodeKey ∉ [tableKey, partitionFieldsKey, extractorClassKey] := by decide +kernel
  simp only [List.mem_cons, List.not_mem_nil, or_false, not_or] at hkeys
  obtain ⟨htable, hfields, hclass⟩ := hkeys
  unfold inferredText
  rw [if_neg htable, if_neg hfields, if_neg hclass, if_pos rfl]

theorem eval_inferTable :
    inferTable.eval bag (syncValue bag) = .ok (inferredTable bag) := by
  unfold inferTable inferredTable Inference.eval
  split
  · rfl
  · exact eval_rawIfPresent tableNameKey

/-- The rules of the catalog infer the texts of the closed form. -/
theorem eval_syncProperties (bag : PropertyBag (Option Text)) : ∀ property ∈ syncProperties,
    match property.infer? with
    | none => inferredText bag property.key = none
    | some rule => rule.eval bag (syncValue bag) = .ok (inferredText bag property.key) := by
  unfold syncProperties
  simp only [List.forall_mem_cons, List.not_mem_nil, false_implies, implies_true, and_true,
    inferredText_tableKey, inferredText_partitionFieldsKey, inferredText_extractorClassKey,
    inferredText_decodeKey]
  refine ⟨?_, ?_, eval_inferTable, ?_, ?_, eval_rawIfPresent _, eval_inferExtractorClass, ?_,
    eval_rawIfPresent _⟩
  all_goals exact inferredText_of_notMem (by decide +kernel)

/-- The value of a sync property is the text of the closed form. -/
theorem syncValue_eq {property : Property} (hmem : property ∈ syncProperties) :
    syncValue bag property.key = .ok (settingText bag property.key) := by
  have hfind : syncCatalog.find? property.key = some property := Catalog.find?_of_mem hmem
  have hinferred := eval_syncProperties bag property hmem
  rw [syncValue_of_mem hmem]
  unfold Property.valueBy settingText
  rw [hfind]
  cases bag.get? property.key with
  | some value => rfl
  | none =>
      cases hinfer : property.infer? with
      | none =>
          rw [hinfer] at hinferred
          rw [hinferred]
          rfl
      | some rule =>
          rw [hinfer] at hinferred
          show rule.eval bag (syncValue bag) >>= _ = _
          rw [hinferred]
          rfl

variable {source : PropertyBag (Option Text)} {lookup : Text → Resolving (Option Text)}
  {value : Text → Except ConfigError (Option Text)} {p : Progress}

theorem compositional_unchanged (p : Progress) :
    Inference.Compositional fun α (step : Resolving α) (outcome : Except ConfigError α) =>
      step.from p = some (outcome, p) := by
  refine ⟨?_, ?_, ?_⟩
  · intro α a
    rfl
  · intro α β step outcome next rest hstep hnext
    rw [from_bind, hstep, Option.bind_some]
    cases outcome with
    | ok a => exact hnext a
    | error e => rfl
  · intro α step outcome fallback rest hstep hfallback
    rw [from_tryCatch, hstep, Option.bind_some]
    cases outcome with
    | ok a => rfl
    | error e => exact hfallback e

/-- A rule that only looks up what is kept already changes nothing. -/
theorem Inference.from_eval_of_kept {rule : Inference}
    (hkept : ∀ key ∈ rule.references, (lookup key).from p = some (value key, p)) :
    (rule.eval source lookup).from p = some (rule.eval source value, p) :=
  rule.eval_related (compositional_unchanged p) hkept

end Values

/-! ## Reading one setting after the other -/

section Reading

variable {bag : PropertyBag (Option Text)}

/-- A resolver of which some settings have been read. -/
structure ReadUpTo (bag : PropertyBag (Option Text)) (done : List Text) (r : Resolver) : Prop where
  source_eq : r.source = bag
  catalog_eq : r.catalog = syncCatalog
  active_eq : r.progress.active = []
  settled_eq : ∀ key, r.progress.settled? key =
    if key ∈ done then some (settingText bag key) else none
  notices_eq : r.notices = done.filterMap (inferredNotice? bag)

/-- A rule only refers to settings that are read before its own. -/
theorem references_mem_take : ∀ n < settingKeys.length, ∀ property ∈ syncProperties[n]?,
    ∀ rule ∈ property.infer?, ∀ other ∈ rule.references, other ∈ settingKeys.take n := by
  decide +kernel

theorem keys_syncProperties : syncProperties.map Property.key = settingKeys :=
  rfl

theorem property_of_split {done keys : List Text} {key : Text}
    (hsplit : settingKeys = done ++ key :: keys) :
    key ∉ done ∧ ∃ property ∈ syncProperties, property.key = key ∧
      ∀ rule ∈ property.infer?, ∀ other ∈ rule.references, other ∈ done := by
  have hnodup : (done ++ key :: keys).Nodup := hsplit ▸ syncCatalog.keys_nodup
  have hget : (syncProperties.map Property.key)[done.length]? = some key := by
    rw [keys_syncProperties, hsplit, List.getElem?_append_right (Nat.le_refl _), Nat.sub_self]
    rfl
  rw [List.getElem?_map, Option.map_eq_some_iff] at hget
  obtain ⟨property, hproperty, hkey⟩ := hget
  have hlength : done.length < settingKeys.length := by
    rw [hsplit, List.length_append, List.length_cons]
    omega
  have htake : settingKeys.take done.length = done := by
    rw [hsplit, List.take_left]
  refine ⟨?_, property, List.mem_of_getElem? hproperty, hkey, ?_⟩
  · intro hmem
    exact (List.nodup_append.mp hnodup).2.2 key hmem key (List.mem_cons_self ..) rfl
  · rw [← htake]
    exact references_mem_take done.length hlength property hproperty

theorem from_compute_setting {lookup : Text → Resolving (Option Text)} {property : Property}
    {p : Progress} (hmem : property ∈ syncProperties)
    (hkept : ∀ rule ∈ property.infer?, ∀ other ∈ rule.references,
      (lookup other).from (p.record (.started property.key)) =
        some (syncValue bag other, p.record (.started property.key))) :
    ∃ events, (compute bag lookup property).from p =
        some (.ok (settingText bag property.key), { p with trace := p.trace ++ events }) ∧
      events.filterMap Event.notice? = (inferredNotice? bag property.key).toList := by
  have hfind : syncCatalog.find? property.key = some property := Catalog.find?_of_mem hmem
  have hinferred := eval_syncProperties bag property hmem
  unfold settingText inferredNotice? PropertyBag.contains
  rw [hfind]
  cases hsource : bag.get? property.key with
  | some value =>
      refine ⟨[], ?_, rfl⟩
      rw [from_compute_of_raw p hsource, List.append_nil]
      rfl
  | none =>
      cases hinfer : property.infer? with
      | none =>
          rw [hinfer] at hinferred
          rw [hinferred]
          refine ⟨[], ?_, rfl⟩
          rw [from_compute_of_default p hsource hinfer, List.append_nil]
          rfl
      | some rule =>
          rw [hinfer] at hinferred
          refine ⟨[.started property.key, .inferred property.key (inferredText bag property.key)],
            ?_, ?_⟩
          · rw [from_compute_of_rule p hsource hinfer,
              Inference.from_eval_of_kept (hkept rule hinfer), hinferred]
            simp [Progress.record]
          · cases inferredText bag property.key <;> rfl

section Further

variable {done keys : List Text} {r : Resolver} {key : Text}

theorem ReadUpTo.resolveFrom (hr : ReadUpTo bag done r)
    (hsplit : settingKeys = done ++ key :: keys) :
    ∃ events, r.resolveFrom key = (.ok (settingText bag key),
        { r.progress with trace := r.progress.trace ++ events }.settle key (settingText bag key)) ∧
      events.filterMap Event.notice? = (inferredNotice? bag key).toList := by
  obtain ⟨hnew, property, hmem, rfl, hrefs⟩ := property_of_split hsplit
  obtain ⟨rfl, hcatalog, hactive, hsettled, -⟩ := hr
  have hfind : syncCatalog.find? property.key = some property := Catalog.find?_of_mem hmem
  have hidle : r.progress.settled? property.key = none := by
    rw [hsettled, if_neg hnew]
  have hinactive : property.key ∉ r.progress.active := by
    simp [hactive]
  have hkept : ∀ rule ∈ property.infer?, ∀ other ∈ rule.references,
      (resolveWithin r.source syncCatalog syncCatalog.keys.length other).from
          ((r.progress.enter property.key).record (.started property.key)) =
        some (syncValue r.source other,
          (r.progress.enter property.key).record (.started property.key)) := by
    intro rule hrule other hother
    have hdone : other ∈ done := hrefs rule hrule other hother
    have hother : other ∈ syncProperties.map Property.key := by
      rw [keys_syncProperties, hsplit]
      exact List.mem_append_left _ hdone
    obtain ⟨referred, hreferred, rfl⟩ := List.mem_map.mp hother
    rw [syncValue_eq hreferred]
    refine from_resolveWithin_of_settled (Catalog.find?_of_mem hreferred) ?_
    show r.progress.settled? referred.key = _
    rw [hsettled, if_pos hdone]
  obtain ⟨events, hcompute, hevents⟩ := from_compute_setting hmem hkept
  refine ⟨events, ?_, hevents⟩
  apply Option.some.inj
  rw [← r.from_resolveFrom, hcatalog]
  refine (from_resolveWithin_of_idle hfind hidle hinactive).trans ?_
  rw [hcompute]
  simp [Progress.enter, Progress.leave]

/-- Reading a further setting gives its text, and notice of it if it was inferred. -/
theorem ReadUpTo.resolve (hr : ReadUpTo bag done r)
    (hsplit : settingKeys = done ++ key :: keys) : ∃ r',
    (Resolver.resolve key).run.run r = (.ok (settingText bag key), r') ∧
      ReadUpTo bag (done ++ [key]) r' := by
  obtain ⟨events, hresolved, hevents⟩ := hr.resolveFrom hsplit
  rw [run_resolve, hresolved]
  refine ⟨_, rfl, hr.source_eq, hr.catalog_eq, hr.active_eq, ?_, ?_⟩
  · intro k
    show Progress.settled? (Progress.settle _ key (settingText bag key)) k = _
    rw [Progress.settled?_settle]
    by_cases hk : k = key
    · simp [hk]
    · rw [if_neg hk]
      refine (hr.settled_eq k).trans ?_
      simp [hk]
  · show (r.progress.trace ++ events).filterMap Event.notice? = _
    have hnotices : r.progress.trace.filterMap Event.notice? =
        done.filterMap (inferredNotice? bag) := hr.notices_eq
    rw [List.filterMap_append, List.filterMap_append, hnotices, hevents]
    cases h : inferredNotice? bag key with
    | none => simp [h]
    | some notice => simp [h]

end Further

/-- From all resolvers of which some settings have been read, an access comes to one outcome, and
then further settings have been read. -/
def Reads {α : Type} (bag : PropertyBag (Option Text)) (done : List Text) (access : Access α)
    (outcome : Except ConfigError α) (read : List Text) : Prop :=
  ∀ r, ReadUpTo bag done r → ∃ r', access.run.run r = (outcome, r') ∧ ReadUpTo bag (done ++ read) r'

section Steps

variable {α : Type} {done keys : List Text} {key : Text} {config : SyncConfig}
  {reading : Text → Option Text → Except ConfigError α} {next : α → Access SyncConfig} {a : α}

theorem reads_pure : Reads bag done (pure config) (verdict bag [] config) (keysRead bag []) := by
  intro r hr
  refine ⟨r, rfl, ?_⟩
  rw [keysRead, List.append_nil]
  exact hr

/-- A setting is read, and then the others unless something is wrong with it. -/
theorem reads_setting (hsplit : settingKeys = done ++ key :: keys)
    (hreading : reading key (settingText bag key) = (settingFault? bag key).elim (.ok a) .error)
    (hnext : Reads bag (done ++ [key]) (next a) (verdict bag keys config) (keysRead bag keys)) :
    Reads bag done (Config.read Resolver.resolve reading key >>= next)
      (verdict bag (key :: keys) config) (keysRead bag (key :: keys)) := by
  intro r hr
  obtain ⟨r', hresolve, hr'⟩ := hr.resolve hsplit
  have hread : (Config.read Resolver.resolve reading key).run.run r =
      (reading key (settingText bag key), r') := by
    unfold Config.read
    rw [run_bind_ok hresolve, run_ofExcept]
  rw [hreading] at hread
  unfold verdict keysRead
  rw [List.findSome?_cons]
  cases hfault : settingFault? bag key with
  | some e =>
      rw [hfault] at hread
      exact ⟨r', run_bind_error hread, hr'⟩
  | none =>
      rw [hfault] at hread
      obtain ⟨r'', hrun, hr''⟩ := hnext r' hr'
      rw [List.append_assoc] at hr''
      exact ⟨r'', (run_bind_ok hread).trans hrun, hr''⟩

theorem flagOf_eq (value : Option Text) : flagOf key value =
    (flagFault? key value).elim (.ok (value.any fun text => SpellsFlag true text)) .error := by
  cases value with
  | none => rfl
  | some text =>
      unfold flagOf flagFault?
      simp only [← readFlag?_eq_some_iff, Option.any_some]
      cases readFlag? text with
      | none => simp
      | some b => simp

theorem textOf_eq (value : Option Text) :
    textOf key value = (textFault? key value).elim (.ok (value.getD [])) .error := by
  rcases value with _ | _ | _ <;> rfl

end Steps

section Kinds

variable {done keys : List Text} {key : Text} {config : SyncConfig}

theorem reads_flag {next : Bool → Access SyncConfig} (hsplit : settingKeys = done ++ key :: keys)
    (hkey : key ∈ flagKeys)
    (hnext : Reads bag (done ++ [key]) (next (settingFlag bag key)) (verdict bag keys config)
      (keysRead bag keys)) :
    Reads bag done (Config.read Resolver.resolve flagOf key >>= next)
      (verdict bag (key :: keys) config) (keysRead bag (key :: keys)) := by
  have hfault : settingFault? bag key = flagFault? key (settingText bag key) := if_pos hkey
  refine reads_setting hsplit ?_ hnext
  rw [hfault]
  exact flagOf_eq (settingText bag key)

theorem settingFault?_of_mem_textKeys (hkey : key ∈ textKeys) :
    settingFault? bag key = textFault? key (settingText bag key) := by
  have hflag : ∀ k ∈ textKeys, k ∉ flagKeys := by decide +kernel
  unfold settingFault?
  rw [if_neg (hflag key hkey), if_pos hkey]

theorem reads_text {next : Text → Access SyncConfig} (hsplit : settingKeys = done ++ key :: keys)
    (hkey : key ∈ textKeys)
    (hnext : Reads bag (done ++ [key]) (next ((settingText bag key).getD []))
      (verdict bag keys config) (keysRead bag keys)) :
    Reads bag done (Config.read Resolver.resolve textOf key >>= next)
      (verdict bag (key :: keys) config) (keysRead bag (key :: keys)) := by
  refine reads_setting hsplit ?_ hnext
  rw [settingFault?_of_mem_textKeys hkey]
  exact textOf_eq (settingText bag key)

theorem reads_items {next : List Text → Access SyncConfig}
    (hsplit : settingKeys = done ++ key :: keys)
    (hkey : key ∉ flagKeys ∧ key ∉ textKeys)
    (hnext : Reads bag (done ++ [key]) (next (listItems (settingText bag key)))
      (verdict bag keys config) (keysRead bag keys)) :
    Reads bag done (Config.read Resolver.resolve itemsOf key >>= next)
      (verdict bag (key :: keys) config) (keysRead bag (key :: keys)) := by
  have hfault : settingFault? bag key = none := by
    unfold settingFault?
    rw [if_neg hkey.1, if_neg hkey.2]
  refine reads_setting hsplit ?_ hnext
  rw [hfault]
  rfl

theorem reads_fromResolver : Reads bag [] SyncConfig.fromResolver
    (verdict bag settingKeys (closedSettings bag)) (keysRead bag settingKeys) := by
  refine reads_flag rfl (by simp [flagKeys]) ?_
  refine reads_text rfl (by simp [textKeys]) ?_
  refine reads_text rfl (by simp [textKeys]) ?_
  refine reads_text rfl (by simp [textKeys]) ?_
  refine reads_text rfl (by simp [textKeys]) ?_
  refine reads_items rfl (by decide +kernel) ?_
  refine reads_text rfl (by simp [textKeys]) ?_
  refine reads_flag rfl (by simp [flagKeys]) ?_
  refine reads_flag rfl (by simp [flagKeys]) ?_
  exact reads_pure

end Kinds

/-! ### Faults and notices -/

theorem flagFault?_eq_none_iff {key : Text} {value : Option Text} :
    flagFault? key value = none ↔ ∃ text b, value = some text ∧ SpellsFlag b text := by
  unfold flagFault?
  cases value with
  | none => simp
  | some text =>
      have hspells : (∃ found b, some text = some found ∧ SpellsFlag b found) ↔
          ∃ b, SpellsFlag b text := by
        simp only [Option.some.injEq, exists_and_left, exists_eq_left']
      rw [hspells]
      show (if _ then _ else _) = none ↔ _
      split <;> simp [*]

theorem textFault?_eq_none_iff {key : Text} {value : Option Text} :
    textFault? key value = none ↔ ∃ text, value = some text ∧ text ≠ [] := by
  unfold textFault?
  cases value with
  | none => simp
  | some text => simp

theorem isOk_verdict_iff {keys : List Text} {config : SyncConfig} :
    (∃ c, verdict bag keys config = .ok c) ↔ ∀ key ∈ keys, settingFault? bag key = none := by
  unfold verdict
  rw [← List.findSome?_eq_none_iff]
  cases keys.findSome? (settingFault? bag) with
  | none => simp
  | some e => simp

theorem settingFaults_eq_none_iff :
    (∀ key ∈ settingKeys, settingFault? bag key = none) ↔
      (∀ key ∈ flagKeys, ∃ text b, settingText bag key = some text ∧ SpellsFlag b text) ∧
        ∀ key ∈ textKeys, ∃ text, settingText bag key = some text ∧ text ≠ [] := by
  have hflag {key : Text} (hkey : key ∈ flagKeys) :
      settingFault? bag key = flagFault? key (settingText bag key) := if_pos hkey
  constructor
  · intro h
    refine ⟨?_, ?_⟩
    · intro key hkey
      have hmem : key ∈ settingKeys := by
        simp only [flagKeys, List.mem_cons, List.not_mem_nil, or_false] at hkey
        rcases hkey with rfl | rfl | rfl <;> simp [settingKeys]
      rw [← flagFault?_eq_none_iff, ← hflag hkey]
      exact h key hmem
    · intro key hkey
      have hmem : key ∈ settingKeys := by
        simp only [textKeys, List.mem_cons, List.not_mem_nil, or_false] at hkey
        rcases hkey with rfl | rfl | rfl | rfl | rfl <;> simp [settingKeys]
      rw [← textFault?_eq_none_iff, ← settingFault?_of_mem_textKeys hkey]
      exact h key hmem
  · rintro ⟨hflags, htexts⟩ key -
    by_cases hkey : key ∈ flagKeys
    · rw [hflag hkey, flagFault?_eq_none_iff]
      exact hflags key hkey
    · by_cases htext : key ∈ textKeys
      · rw [settingFault?_of_mem_textKeys htext, textFault?_eq_none_iff]
        exact htexts key htext
      · unfold settingFault?
        rw [if_neg hkey, if_neg htext]

theorem keysRead_sublist (keys : List Text) : (keysRead bag keys).Sublist keys := by
  induction keys with
  | nil => exact .slnil
  | cons key keys ih =>
      unfold keysRead
      split
      · exact (List.nil_sublist keys).cons_cons key
      · exact ih.cons_cons key

/-- No two settings have one notice. -/
theorem nodup_inferredNotices {keys : List Text} (hkeys : keys.Nodup) :
    (keys.filterMap (inferredNotice? bag)).Nodup := by
  have hinferred {key : Text} {notice : Notice} (h : notice ∈ inferredNotice? bag key) :
      ∃ text, notice = .inferred key text := by
    unfold inferredNotice? at h
    split at h
    · cases h
    · obtain ⟨text, -, rfl⟩ := Option.map_eq_some_iff.mp h
      exact ⟨text, rfl⟩
  refine List.Pairwise.filterMap (inferredNotice? bag) ?_ hkeys
  intro key other hne notice hnotice notice' hnotice' hsame
  obtain ⟨text, rfl⟩ := hinferred hnotice
  obtain ⟨text', rfl⟩ := hinferred hnotice'
  cases hsame
  exact hne rfl

end Reading

/-- The configuration of a bag is that of its texts in closed form, unless something is wrong with
one of them: then it is the fault of the first such one, in the order in which the settings are
read.  Notice is given of each setting that is read and whose text was inferred, once. -/
theorem fromProperties_closed_form (bag : PropertyBag (Option Text)) :
    (SyncConfig.fromProperties bag).1 = verdict bag settingKeys (closedSettings bag) ∧
      ((∃ config, (SyncConfig.fromProperties bag).1 = .ok config) ↔
        (∀ key ∈ flagKeys, ∃ text b, settingText bag key = some text ∧ SpellsFlag b text) ∧
          ∀ key ∈ textKeys, ∃ text, settingText bag key = some text ∧ text ≠ []) ∧
      (SyncConfig.fromProperties bag).2.notices =
        (keysRead bag settingKeys).filterMap (inferredNotice? bag) ∧
      (SyncConfig.fromProperties bag).2.notices.Nodup := by
  have hnew : ReadUpTo bag [] (.new bag syncCatalog) :=
    ⟨rfl, rfl, rfl, fun _ => rfl, rfl⟩
  obtain ⟨r, hrun, hr⟩ := reads_fromResolver (.new bag syncCatalog) hnew
  have houtcome : (SyncConfig.fromProperties bag).1 =
      verdict bag settingKeys (closedSettings bag) := congrArg Prod.fst hrun
  have hnotices : (SyncConfig.fromProperties bag).2.notices =
      (keysRead bag settingKeys).filterMap (inferredNotice? bag) := by
    refine Eq.trans (congrArg (fun result => Resolver.notices result.2) hrun) ?_
    exact hr.notices_eq
  have hnodup : (keysRead bag settingKeys).Nodup :=
    (keysRead_sublist settingKeys).nodup syncCatalog.keys_nodup
  refine ⟨houtcome, ?_, hnotices, ?_⟩
  · rw [houtcome, isOk_verdict_iff, settingFaults_eq_none_iff]
  · rw [hnotices]
    exact nodup_inferredNotices hnodup

def spelledBag : PropertyBag (Option Text) :=
  .ofList [(enabledKey, some " TRUE\t"), (basePathKey, some "/data"), (writtenNameKey, none),
    (tableNameKey, some "orders"), (keyFieldsKey, some "day"),
    (keyHiveStyleKey, some "\u00A0True "), (keyUrlEncodeKey, some "fAlSe")]

def spelledSettings : SyncConfig :=
  { enabled := true, database := "default", table := "unknown", basePath := "/data",
    partitionFields := ["day"], extractorClass := Strategy.hiveStyle.identifier, decode := false }

/-- Flags are spelled with capitals and with blanks around them, but not with one inside. -/
theorem settings_of_spelledBag :
    (SyncConfig.fromProperties spelledBag).1 = .ok spelledSettings ∧
      (SyncConfig.fromProperties spelledBag).2.notices =
        [.inferred partitionFieldsKey "day",
          .inferred extractorClassKey Strategy.hiveStyle.identifier,
          .inferred decodeKey "fAlSe"] ∧
      (SyncConfig.fromProperties (.ofList [(enabledKey, some "tru e")])).1 =
        .error (.invalidFlag enabledKey "tru e") := by
  obtain ⟨hsettings, -, hnotices, -⟩ := fromProperties_closed_form spelledBag
  obtain ⟨hfault, -⟩ := fromProperties_closed_form (.ofList [(enabledKey, some "tru e")])
  rw [hsettings, hnotices, hfault]
  decide +kernel

end TableSync.Config
