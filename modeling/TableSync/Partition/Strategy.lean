/-!
# Extraction strategies

The ways in which partition values are read from partition paths.  Each has a class name, which
logs and errors show, a fully-qualified identifier, and a short alias.
-/

namespace TableSync.Partition

/-- A way of reading partition values from a path. -/
inductive Strategy
  | nonPartitioned
  | slashEncodedDay
  | hiveStyle
  | multiPartKeys
deriving DecidableEq, Repr

namespace Strategy

/-- The name shown in logs and errors. -/
def className : Strategy → String
  | nonPartitioned => "NonPartitionedExtractor"
  | slashEncodedDay => "SlashEncodedDayPartitionValueExtractor"
  | hiveStyle => "HiveStylePartitionValueExtractor"
  | multiPartKeys => "MultiPartKeysValueExtractor"

def aliasName : Strategy → String
  | nonPartitioned => "non_partitioned"
  | slashEncodedDay => "slash_encoded_day"
  | hiveStyle => "hive_style"
  | multiPartKeys => "multi_part_keys"

/-- The fully-qualified name. -/
def identifier (s : Strategy) : String :=
  "meta_sync.infrastructure.partitioning.extractors." ++ s.aliasName ++ "." ++ s.className

def all : List Strategy :=
  [nonPartitioned, slashEncodedDay, hiveStyle, multiPartKeys]

theorem identifier_inj {s t : Strategy} : s.identifier = t.identifier ↔ s = t := by
  cases s <;> cases t <;> decide +kernel

theorem aliasName_inj {s t : Strategy} : s.aliasName = t.aliasName ↔ s = t := by
  cases s <;> cases t <;> decide +kernel

theorem aliasName_ne_empty (s : Strategy) : s.aliasName ≠ "" := by
  cases s <;> decide

theorem identifier_ne_aliasName (s t : Strategy) : s.identifier ≠ t.aliasName := by
  cases s <;> cases t <;> decide +kernel

end Strategy

end TableSync.Partition
