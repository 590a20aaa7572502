import TableSync.Config.Catalog
import TableSync.Partition.Strategy

/-!
# The properties of a sync job

The catalog of the properties that configure a sync job.  Some of them are inferred from the
properties that were written with the table data, which are not in the catalog themselves.
-/

namespace TableSync.Config

open TableSync.Partition

/-! ## Keys of the catalog -/

def enabledKey : Text := "sync.enabled"
def databaseKey : Text := "sync.database"
def tableKey : Text := "sync.table"
def basePathKey : Text := "sync.base_path"
def baseFileFormatKey : Text := "sync.base_file_format"
def partitionFieldsKey : Text := "sync.partition_fields"
def extractorClassKey : Text := "sync.partition_extractor_class"
def assumeDateKey : Text := "sync.assume_date_partitioning"
def decodeKey : Text := "sync.decode_partition_values"

/-! ## Keys that were written with the table data -/

def writtenNameKey : Text := "table.write.name"
def tableNameKey : Text := "table.name"
def keyFieldsKey : Text := "keygen.partitionpath.field"
def keyHiveStyleKey : Text := "keygen.hive_style_partitioning"
def keyUrlEncodeKey : Text := "keygen.partitionpath.urlencode"

/-! ## Rules of inference -/

/-- The raw value of a key, or nothing if the bag lacks it. -/
def rawIfPresent (key : Text) : Inference :=
  .ifContains key (.raw key) (.const none)

/-- The name that the table was written under, or else the name of the table. -/
def inferTable : Inference :=
  .ifContains writtenNameKey (.raw writtenNameKey) (rawIfPresent tableNameKey)

def strategyRule (s : Strategy) : Inference :=
  .const (some s.identifier)

/-- The strategy for the number of partition fields and the hive-style flag. -/
def inferByFields : Inference :=
  .byCount partitionFieldsKey
    (strategyRule .nonPartitioned)
    (.ifTrue keyHiveStyleKey (strategyRule .hiveStyle) (strategyRule .multiPartKeys))
    (strategyRule .multiPartKeys)

/-- A table whose bag says nothing about partition fields keeps the default strategy. -/
def inferExtractorClass : Inference :=
  .ifContains partitionFieldsKey inferByFields
    (.ifContains keyFieldsKey inferByFields (.const none))

/-! ## The catalog -/

/-- The properties of a sync job, in the order in which they are listed. -/
def syncProperties : List Property :=
  [ { key := enabledKey
      default? := some "false"
      documentation :=
        "Enable syncing the table with an external metastore or data catalog." },
    { key := databaseKey
      default? := some "default"
      documentation := "Name of the destination database to sync the table to." },
    { key := tableKey
      default? := some "unknown"
      infer? := some inferTable
      documentation :=
        "Name of the destination table. Falls back to the table's write name, " ++
          "then to the table name." },
    { key := basePathKey
      documentation := "Base path of the table to sync. Required." },
    { key := baseFileFormatKey
      default? := some "PARQUET"
      documentation := "Format of the table's base files (e.g., PARQUET, ORC, HFILE)." },
    { key := partitionFieldsKey
      default? := some ""
      infer? := some (rawIfPresent keyFieldsKey)
      documentation :=
        "Comma-separated partition columns. Falls back to the key generator's " ++
          "partition path fields." },
    { key := extractorClassKey
      default? := some Strategy.slashEncodedDay.identifier
      infer? := some inferExtractorClass
      documentation :=
        "Extractor used to turn partition paths into partition values. Chosen from " ++
          "the partition fields and hive-style flag when not set." },
    { key := assumeDateKey
      default? := some "false"
      documentation := "Assume partitions are laid out as yyyy/mm/dd." },
    { key := decodeKey
      default? := some "false"
      infer? := some (rawIfPresent keyUrlEncodeKey)
      documentation :=
        "URL-decode partition values. Falls back to the table's URL-encode " ++
          "partitioning flag." } ]

def syncCatalog : Catalog :=
  ⟨syncProperties, by decide +kernel⟩

end TableSync.Config
