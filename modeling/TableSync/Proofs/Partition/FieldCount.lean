import TableSync.Partition.Registry
import TableSync.Proofs.Partition.Execution
import TableSync.Proofs.Resolution.SyncValues

/-!
# As many values as fields

The strategy of a job is inferred from its partition fields, and the extractor takes their number
from the settings, so both see the fields that the bag declares.  A batch checks the number of
values only where fields are declared.  Where none are, the strategy that was inferred gives no
value, or the one day of a table whose bag does not speak of fields at all.
-/

namespace TableSync.Partition

open TableSync.Config

/-! ### Built-in strategies -/

theorem builtin_create_of_identifier {config : SyncConfig} {s : Strategy}
    (hclass : config.extractorClass = s.identifier) :
    Registry.builtin.create config =
      .ok (.configured config s, .selected s config.database config.table) := by
  unfold Registry.create
  rw [hclass, Registry.strategy_builtin_identifier]
  rfl

/-! ### The shape of an inferred extractor -/

/-- How an extractor fits the partition fields of settings, given the bag that they come from. -/
def Extractor.Fits (properties : PropertyBag (Option Text)) (config : SyncConfig) :
    Extractor → Prop
  | .multiPartKeys depth _ =>
      depth = config.partitionFields.length ∧ 1 ≤ config.partitionFields.length
  | .hiveStyle _ => config.partitionFields.length = 1
  | .nonPartitioned =>
      config.partitionFields = [] ∧
        (properties.contains partitionFieldsKey ∨ properties.contains keyFieldsKey)
  | .slashEncodedDay =>
      config.partitionFields = [] ∧
        ¬ (properties.contains partitionFieldsKey ∨ properties.contains keyFieldsKey)

/-- The strategy for some fields fits them wherever the bag speaks of fields. -/
theorem fits_strategyOfFields {properties : PropertyBag (Option Text)} (config : SyncConfig)
    (hive : Bool)
    (hset : properties.contains partitionFieldsKey ∨ properties.contains keyFieldsKey) :
    (Extractor.configured config (strategyOfFields hive config.partitionFields)).Fits properties
      config := by
  cases hfields : config.partitionFields with
  | nil => exact ⟨hfields, hset⟩
  | cons field fields =>
      cases fields with
      | nil => cases hive <;> simp [strategyOfFields, Extractor.configured, Extractor.Fits, hfields]
      | cons second rest => simp [strategyOfFields, Extractor.configured, Extractor.Fits, hfields]

theorem fits_inferredStrategy {properties : PropertyBag (Option Text)} {config : SyncConfig}
    (hconfig : (SyncConfig.fromProperties properties).1 = .ok config) :
    (Extractor.configured config (inferredStrategy properties)).Fits properties config := by
  have hfields := partitionFields_of_fromProperties hconfig
  unfold inferredStrategy
  split
  · rename_i hset
    rw [← hfields]
    exact fits_strategyOfFields config _ (by simpa using hset)
  · rename_i hset
    simp only [Bool.or_eq_true, not_or, Bool.not_eq_true] at hset
    refine ⟨hfields.trans (listItems_fieldsText_of_unset hset.1 hset.2), ?_⟩
    simp [hset]

/-! ### The number of values -/

theorem length_extract_nonPartitioned {path : String} {values : List String}
    (h : Extractor.nonPartitioned.extract path = .ok values) : values.length = 0 := by
  cases h
  rfl

theorem length_extract_slashEncodedDay {path : String} {values : List String}
    (h : Extractor.slashEncodedDay.extract path = .ok values) : values.length = 1 := by
  simp only [Extractor.extract] at h
  split at h
  · rename_i year month day _
    cases hday : calendarDay
        (fun reason => .rejected ⟨path, Extractor.slashEncodedDay.name, reason⟩) year month day with
    | error error =>
        rw [hday] at h
        cases h
    | ok date =>
        rw [hday] at h
        cases h
        rfl
  · cases h

/-- The number of values of a path, where the extractor fits the fields of the settings. -/
theorem length_of_fits {properties : PropertyBag (Option Text)} {b : Batch}
    {extractor : Extractor} (hfits : extractor.Fits properties b.config)
    (hreader : b.extractor = extractor) {path : String} {values : List String}
    (h : b.valuesOf path = .ok values) :
    values.length =
      if extractor = .slashEncodedDay then 1 else b.config.partitionFields.length := by
  obtain ⟨hread, hcount⟩ := Batch.valuesOf_eq_ok_iff.mp h
  rw [hreader] at hread
  have hextract : extractor.extract path = .ok values := hread
  cases extractor with
  | nonPartitioned =>
      rw [if_neg (by simp), hfits.1]
      exact length_extract_nonPartitioned hextract
  | slashEncodedDay =>
      rw [if_pos rfl]
      exact length_extract_slashEncodedDay hextract
  | hiveStyle decode =>
      rw [if_neg (by simp)]
      exact hcount (List.ne_nil_of_length_eq_add_one hfits)
  | multiPartKeys depth decode =>
      rw [if_neg (by simp)]
      exact hcount (List.ne_nil_of_length_pos hfits.2)

/-- Where a bag names no strategy, the built-in registry has an extractor for the settings that the
bag gives, and it fits their partition fields; so what a batch of paths returns has one value for
each field, or one day where the bag does not speak of fields.  And whatever the settings, and
whatever reads the paths, what a batch returns has one value for each field if there are any. -/
theorem returned_values_fit_fields :
    (∀ (properties : PropertyBag (Option Text)) (config : SyncConfig),
      properties.contains extractorClassKey = false →
      (SyncConfig.fromProperties properties).1 = .ok config →
      ∃ extractor notice, Registry.builtin.create config = .ok (extractor, notice) ∧
        extractor.Fits properties config ∧
        ∀ skipInvalid workers schedule paths returned,
          ((⟨config, extractor, skipInvalid, workers⟩ : Batch).executeBy schedule paths).1 =
            .ok returned →
          ∀ result ∈ returned, result.values.length =
            if extractor = .slashEncodedDay then 1 else config.partitionFields.length) ∧
    ∀ (b : Batch) (schedule : List Nat) (paths : List String) (returned : List PartitionValues),
      b.config.partitionFields ≠ [] → (b.executeBy schedule paths).1 = .ok returned →
      ∀ result ∈ returned, result.values.length = b.config.partitionFields.length := by
  constructor
  · intro properties config hunset hconfig
    have hfits := fits_inferredStrategy hconfig
    refine ⟨_, _, builtin_create_of_identifier (extractorClass_of_fromProperties hunset hconfig),
      hfits, ?_⟩
    intro skipInvalid workers schedule paths returned hreturned result hmem
    exact length_of_fits hfits rfl (Batch.valuesOf_of_mem_returned hreturned hmem).2
  · intro b schedule paths returned hfields hreturned result hmem
    obtain ⟨-, hvalues⟩ := Batch.valuesOf_of_mem_returned hreturned hmem
    exact (Batch.valuesOf_eq_ok_iff.mp hvalues).2 hfields

/-- Fields that a table was written with, in hive style, one of them blank. -/
def writtenFields : PropertyBag (Option Text) :=
  .ofList [(basePathKey, some "/data"), (keyFieldsKey, some " region ,, city"),
    (keyHiveStyleKey, some "true")]

def writtenConfig : SyncConfig :=
  { enabled := false
    table := "unknown"
    partitionFields := ["region", "city"]
    extractorClass := Strategy.multiPartKeys.identifier }

/-- The extractor of the table, and a batch of paths that do not all have two values. -/
theorem returned_values_fit_writtenFields :
    (SyncConfig.fromProperties writtenFields).1 = .ok writtenConfig ∧
      (∃ extractor notice, Registry.builtin.create writtenConfig = .ok (extractor, notice) ∧
        extractor.Fits writtenFields writtenConfig) ∧
      ((⟨writtenConfig, Extractor.hiveStyle false, true, 4⟩ : Batch).executeBy [2, 0, 1]
        ["region=eu/city=Riga", "region=eu", "eu/Riga"]).1 =
          .ok [⟨"region=eu/city=Riga", ["eu", "Riga"]⟩] ∧
      ∀ result ∈ [(⟨"region=eu/city=Riga", ["eu", "Riga"]⟩ : PartitionValues)],
        result.values.length = 2 := by
  have hconfig : (SyncConfig.fromProperties writtenFields).1 = .ok writtenConfig :=
    ok_of_toOption (by decide +kernel)
  have hreturned : ((⟨writtenConfig, Extractor.hiveStyle false, true, 4⟩ : Batch).executeBy
      [2, 0, 1] ["region=eu/city=Riga", "region=eu", "eu/Riga"]).1 =
        .ok [⟨"region=eu/city=Riga", ["eu", "Riga"]⟩] :=
    ok_of_toOption (by decide +kernel)
  obtain ⟨extractor, notice, hcreate, hfits, -⟩ :=
    returned_values_fit_fields.1 _ _ (by decide +kernel) hconfig
  exact ⟨hconfig, ⟨extractor, notice, hcreate, hfits⟩, hreturned,
    returned_values_fit_fields.2 _ _ _ _ (by decide) hreturned⟩

end TableSync.Partition
