import TableSync.Proofs.Resolution.Ranked
import TableSync.Proofs.Text.Spelling

/-!
# Values of the sync properties

The catalog of sync properties is ranked: the strategy of a job is inferred from its partition
fields, and no other rule refers to a property.  So the settings that a bag gives can be read off
the values by recursion, and these off the bag itself.
-/

namespace TableSync.Config

open TableSync.Partition TableSync.Text

/-! ## Truth values -/

/-- A text spells a truth value. -/
def SpellsFlag (b : Bool) : Text → Prop :=
  SpellsWord (if b then "true" else "false")

theorem flagText_eq_iff (b : Bool) {text : Text} :
    flagText text = (if b then "true" else "false" : String) ↔ SpellsFlag b text := by
  apply lowerCase_strip_eq_iff
  cases b <;> simp [IsPlainLetter]

theorem readFlag?_eq_some_iff {b : Bool} {text : Text} :
    readFlag? text = some b ↔ SpellsFlag b text := by
  rw [← flagText_eq_iff]
  unfold readFlag?
  by_cases htrue : flagText text = "true"
  · cases b <;> simp [htrue]
  · cases b <;> simp [htrue]

instance (b : Bool) (text : Text) : Decidable (SpellsFlag b text) :=
  decidable_of_iff _ readFlag?_eq_some_iff

theorem map_flagText_eq_true_iff {value : Option Text} :
    value.map flagText = some "true" ↔ (value.any fun text => SpellsFlag true text) = true := by
  cases value with
  | none => simp
  | some text => simpa using flagText_eq_iff true

/-! ## Ranks -/

/-- The strategy stands above the properties that its rule looks up. -/
def syncRank (key : Text) : Nat :=
  if key = extractorClassKey then 1 else 0

theorem rankedBy_syncRank : syncCatalog.RankedBy syncRank := by
  decide +kernel

/-- The value of a sync property. -/
def syncValue (properties : PropertyBag (Option Text)) :
    Text → Except ConfigError (Option Text) :=
  rankedValue properties syncCatalog syncRank

/-- The settings that a bag gives are read off the values of the sync properties. -/
theorem fromProperties_eq_read (properties : PropertyBag (Option Text)) :
    (SyncConfig.fromProperties properties).1 = SyncConfig.read (syncValue properties) := by
  obtain ⟨r, hrun, -⟩ := answers_fromResolver (answers_rankedValue rankedBy_syncRank)
    (.new properties syncCatalog) agreesWith_new
  exact congrArg Prod.fst hrun

section Values

variable {properties : PropertyBag (Option Text)}

theorem syncValue_of_mem {property : Property} (hmem : property ∈ syncProperties) :
    syncValue properties property.key = property.valueBy properties (syncValue properties) :=
  rankedValue_of_find?_eq_some rankedBy_syncRank (Catalog.find?_of_mem hmem)

theorem eval_rawIfPresent (key : Text) :
    (rawIfPresent key).eval properties (syncValue properties) =
      .ok (properties.get? key).join := by
  unfold rawIfPresent Inference.eval
  split
  · rfl
  · rename_i hkey
    rw [PropertyBag.get?_eq_none_of_contains (by simpa using hkey)]
    rfl

/-! ### The partition fields -/

/-- The fields that a bag declares, or else those that the table was written with. -/
def fieldsText (properties : PropertyBag (Option Text)) : Option Text :=
  (properties.get? partitionFieldsKey).getD ((properties.get? keyFieldsKey).join.or (some ""))

theorem partitionFieldsKey_mem : ∃ documentation,
    (⟨partitionFieldsKey, some "", some (rawIfPresent keyFieldsKey), documentation⟩ : Property) ∈
      syncProperties :=
  ⟨_, List.mem_of_getElem? (rfl : syncProperties[5]? = some _)⟩

theorem syncValue_partitionFieldsKey :
    syncValue properties partitionFieldsKey = .ok (fieldsText properties) := by
  obtain ⟨_, hmem⟩ := partitionFieldsKey_mem
  refine (syncValue_of_mem hmem).trans ?_
  unfold Property.valueBy fieldsText
  cases properties.get? partitionFieldsKey with
  | some value => rfl
  | none =>
      show (rawIfPresent keyFieldsKey).eval properties _ >>= _ = _
      rw [eval_rawIfPresent]
      rfl

theorem listItems_fieldsText_of_unset (hfields : properties.contains partitionFieldsKey = false)
    (hkey : properties.contains keyFieldsKey = false) :
    listItems (fieldsText properties) = [] := by
  unfold fieldsText
  rw [PropertyBag.get?_eq_none_of_contains hfields, PropertyBag.get?_eq_none_of_contains hkey]
  rfl

/-! ### The strategy -/

/-- The strategy for the partition fields of a table that was written in hive style or not. -/
def strategyOfFields (hive : Bool) : List Text → Strategy
  | [] => .nonPartitioned
  | [_] => if hive then .hiveStyle else .multiPartKeys
  | _ => .multiPartKeys

/-- Whether a bag says that the table was written in hive style. -/
def writtenInHiveStyle (properties : PropertyBag (Option Text)) : Bool :=
  (properties.get? keyHiveStyleKey).join.any fun text => SpellsFlag true text

/-- The strategy of a bag that names none. -/
def inferredStrategy (properties : PropertyBag (Option Text)) : Strategy :=
  if properties.contains partitionFieldsKey || properties.contains keyFieldsKey then
    strategyOfFields (writtenInHiveStyle properties) (listItems (fieldsText properties))
  else .slashEncodedDay

theorem eval_strategyRule (s : Strategy) :
    (strategyRule s).eval properties (syncValue properties) = .ok (some s.identifier) :=
  rfl

theorem eval_inferByFields :
    inferByFields.eval properties (syncValue properties) =
      .ok (some (strategyOfFields (writtenInHiveStyle properties)
        (listItems (fieldsText properties))).identifier) := by
  unfold inferByFields Inference.eval
  rw [syncValue_partitionFieldsKey]
  show (pure (fieldsText properties) >>= _) = _
  rw [pure_bind]
  cases listItems (fieldsText properties) with
  | nil => exact eval_strategyRule _
  | cons field fields =>
      cases fields with
      | cons second rest => exact eval_strategyRule _
      | nil =>
          show (if _ then _ else _) = _
          by_cases hhive : writtenInHiveStyle properties = true
          · rw [if_pos (map_flagText_eq_true_iff.mpr hhive), hhive]
            exact eval_strategyRule _
          · rw [if_neg (mt map_flagText_eq_true_iff.mp hhive), Bool.eq_false_iff.mpr hhive]
            exact eval_strategyRule _

/-- The identifier that is inferred for the strategy of a bag that says anything about partition
fields. -/
def inferredIdentifier? (properties : PropertyBag (Option Text)) : Option Text :=
  if properties.contains partitionFieldsKey || properties.contains keyFieldsKey then
    some (strategyOfFields (writtenInHiveStyle properties)
      (listItems (fieldsText properties))).identifier
  else none

theorem eval_inferExtractorClass :
    inferExtractorClass.eval properties (syncValue properties) =
      .ok (inferredIdentifier? properties) := by
  unfold inferExtractorClass inferredIdentifier? Inference.eval
  split
  · rename_i hfields
    rw [eval_inferByFields, hfields]
    rfl
  · rename_i hfields
    unfold Inference.eval
    split
    · rename_i hkey
      rw [eval_inferByFields, hkey, Bool.or_true]
      rfl
    · rename_i hkey
      rw [Bool.eq_false_iff.mpr hfields, Bool.eq_false_iff.mpr hkey]
      rfl

theorem extractorClassKey_mem : ∃ documentation,
    (⟨extractorClassKey, some Strategy.slashEncodedDay.identifier, some inferExtractorClass,
      documentation⟩ : Property) ∈ syncProperties :=
  ⟨_, List.mem_of_getElem? (rfl : syncProperties[6]? = some _)⟩

theorem syncValue_extractorClassKey (hunset : properties.contains extractorClassKey = false) :
    syncValue properties extractorClassKey =
      .ok (some (inferredStrategy properties).identifier) := by
  obtain ⟨_, hmem⟩ := extractorClassKey_mem
  refine (syncValue_of_mem hmem).trans ?_
  unfold Property.valueBy
  rw [PropertyBag.get?_eq_none_of_contains hunset]
  show inferExtractorClass.eval properties _ >>= _ = _
  rw [eval_inferExtractorClass]
  unfold inferredIdentifier? inferredStrategy
  split <;> rfl

/-! ### The settings -/

/-- Settings each of which is read off the value of its property. -/
structure SyncConfig.ReadFrom (value : Text → Except ConfigError (Option Text))
    (config : SyncConfig) : Prop where
  enabled : Config.read value flagOf enabledKey = .ok config.enabled
  database : Config.read value textOf databaseKey = .ok config.database
  table : Config.read value textOf tableKey = .ok config.table
  basePath : Config.read value textOf basePathKey = .ok config.basePath
  baseFileFormat : Config.read value textOf baseFileFormatKey = .ok config.baseFileFormat
  partitionFields : Config.read value itemsOf partitionFieldsKey = .ok config.partitionFields
  extractorClass : Config.read value textOf extractorClassKey = .ok config.extractorClass
  assumeDate : Config.read value flagOf assumeDateKey = .ok config.assumeDate
  decode : Config.read value flagOf decodeKey = .ok config.decode

theorem SyncConfig.readFrom_of_read {value : Text → Except ConfigError (Option Text)}
    {config : SyncConfig} (h : SyncConfig.read value = .ok config) : config.ReadFrom value := by
  obtain ⟨_, henabled, h⟩ := ok_of_bind h
  obtain ⟨_, hdatabase, h⟩ := ok_of_bind h
  obtain ⟨_, htable, h⟩ := ok_of_bind h
  obtain ⟨_, hbasePath, h⟩ := ok_of_bind h
  obtain ⟨_, hbaseFileFormat, h⟩ := ok_of_bind h
  obtain ⟨_, hpartitionFields, h⟩ := ok_of_bind h
  obtain ⟨_, hextractorClass, h⟩ := ok_of_bind h
  obtain ⟨_, hassumeDate, h⟩ := ok_of_bind h
  obtain ⟨_, hdecode, h⟩ := ok_of_bind h
  cases h
  exact ⟨henabled, hdatabase, htable, hbasePath, hbaseFileFormat, hpartitionFields,
    hextractorClass, hassumeDate, hdecode⟩

variable {config : SyncConfig}

theorem readFrom_of_fromProperties (h : (SyncConfig.fromProperties properties).1 = .ok config) :
    config.ReadFrom (syncValue properties) :=
  SyncConfig.readFrom_of_read ((fromProperties_eq_read properties).symm.trans h)

theorem partitionFields_of_fromProperties
    (h : (SyncConfig.fromProperties properties).1 = .ok config) :
    config.partitionFields = listItems (fieldsText properties) := by
  have hread := (readFrom_of_fromProperties h).partitionFields
  rw [read_itemsOf, syncValue_partitionFieldsKey] at hread
  exact (Except.ok.inj hread).symm

theorem extractorClass_of_fromProperties
    (hunset : properties.contains extractorClassKey = false)
    (h : (SyncConfig.fromProperties properties).1 = .ok config) :
    config.extractorClass = (inferredStrategy properties).identifier := by
  have hread := (readFrom_of_fromProperties h).extractorClass
  rw [read_eq_bind, syncValue_extractorClassKey hunset] at hread
  exact (Option.some.inj (textOf_eq_ok hread)).symm

end Values

end TableSync.Config
