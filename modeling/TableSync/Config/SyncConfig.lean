import TableSync.Config.Resolver
import TableSync.Config.SyncProperties
import TableSync.Text.Json

/-!
# The configuration of a sync job

The nine settings of a job, read one after the other from a resolver; the first that is missing or
malformed ends the reading.
-/

namespace TableSync.Config

open TableSync.Text

/-- The settings of a sync job. -/
structure SyncConfig where
  enabled : Bool := true
  database : Text := "default"
  table : Text := "orders"
  basePath : Text := "/data"
  baseFileFormat : Text := "PARQUET"
  partitionFields : List Text := []
  extractorClass : Text := "slash_encoded_day"
  assumeDate : Bool := false
  decode : Bool := false
deriving DecidableEq, Repr

namespace SyncConfig

/-- Read the settings in their order, given how properties are resolved. -/
def read {m : Type → Type} [Monad m] [MonadExcept ConfigError m]
    (resolve : Text → m (Option Text)) : m SyncConfig := do
  let enabled ← Config.read resolve flagOf enabledKey
  let database ← Config.read resolve textOf databaseKey
  let table ← Config.read resolve textOf tableKey
  let basePath ← Config.read resolve textOf basePathKey
  let baseFileFormat ← Config.read resolve textOf baseFileFormatKey
  let partitionFields ← Config.read resolve itemsOf partitionFieldsKey
  let extractorClass ← Config.read resolve textOf extractorClassKey
  let assumeDate ← Config.read resolve flagOf assumeDateKey
  let decode ← Config.read resolve flagOf decodeKey
  return { enabled, database, table, basePath, baseFileFormat, partitionFields, extractorClass,
           assumeDate, decode }

def fromResolver : Access SyncConfig :=
  read Resolver.resolve

/-- The settings that a bag gives over the catalog of sync properties, and the resolver that is
left. -/
def fromProperties (properties : PropertyBag (Option Text)) :
    Except ConfigError SyncConfig × Resolver :=
  fromResolver.run.run (.new properties syncCatalog)

/-- The settings by name, in their order. -/
def members (c : SyncConfig) : List (String × Json) :=
  [("enabled", .bool c.enabled), ("database_name", .string c.database),
    ("table_name", .string c.table), ("base_path", .string c.basePath),
    ("base_file_format", .string c.baseFileFormat), ("partition_fields", .list c.partitionFields),
    ("partition_value_extractor_class", .string c.extractorClass),
    ("assume_date_partitioning", .bool c.assumeDate), ("decode_partition", .bool c.decode)]

end SyncConfig

end TableSync.Config
