import TableSync.Config.Resolver
import TableSync.Partition.Extractor

/-!
# Notices

What a run reports while it works.  A notice has a level, the part of the program that reports it,
and a text; on the error stream it stands on one line behind the time.
-/

namespace TableSync

open TableSync.Config TableSync.Partition TableSync.Text

/-- How much attention a notice asks for. -/
inductive Level
  | debug
  | info
  | warning
deriving DecidableEq, Repr

def Level.name : Level → String
  | debug => "DEBUG"
  | info => "INFO"
  | warning => "WARNING"

/-- Something that a run reports. -/
inductive Notice
  /-- Debug notices are shown. -/
  | verbose
  /-- A property got an inferred value. -/
  | inferred (key value : Text)
  /-- An extractor was chosen for a table. -/
  | selected (strategy : Strategy) (database table : Text)
  /-- Extraction begins for a number of paths of a table. -/
  | extracting (count : Nat) (database table : Text) (strategy : String)
  /-- A path was left out. -/
  | skipping (rejection : Rejection)
  /-- A number of paths was left out. -/
  | skipped (count total : Nat)
  /-- Extraction is over for a number of paths. -/
  | extracted (count : Nat)
deriving DecidableEq, Repr

namespace Notice

def level : Notice → Level
  | verbose => .info
  | inferred _ _ => .debug
  | selected _ _ _ => .debug
  | extracting _ _ _ _ => .info
  | skipping _ => .warning
  | skipped _ _ => .warning
  | extracted _ => .info

/-- The part of the program that reports a notice. -/
def reporter : Notice → String
  | verbose => "root"
  | inferred _ _ => "meta_sync.application.config_resolver"
  | selected _ _ _ => "meta_sync.infrastructure.partitioning.partition_value_extractor_factory"
  | extracting _ _ _ _ | skipping _ | skipped _ _ | extracted _ =>
      "meta_sync.application.partition_sync_use_case"

def message : Notice → Text
  | verbose => "Verbose logging enabled"
  | inferred key value => "Inferred " ++ key ++ "=" ++ value
  | selected strategy database table =>
      "Selected " ++ strategy.className ++ " for " ++ database ++ "." ++ table
  | extracting count database table strategy =>
      "Extracting partition values for " ++ decimal count ++ " paths of " ++ database ++ "." ++
        table ++ " using " ++ strategy
  | skipping rejection => "Skipping partition path: " ++ rejection.message
  | skipped count total =>
      "Skipped " ++ decimal count ++ " of " ++ decimal total ++ " partition paths"
  | extracted count => "Extracted partition values for " ++ decimal count ++ " paths"

/-- A notice on the error stream. -/
def line (time : String) (n : Notice) : Text :=
  time ++ " - " ++ n.reporter ++ " - " ++ n.level.name ++ " - " ++ n.message ++ "\n"

end Notice

/-- The notice that an event of resolution gives rise to: an inferred text is reported. -/
def Config.Event.notice? : Config.Event → Option Notice
  | .inferred key (some value) => some (.inferred key value)
  | .inferred _ none => none
  | .started _ => none
  | .failed _ => none
  | .cycled _ _ => none

/-- The notices of a resolver so far. -/
def Config.Resolver.notices (r : Config.Resolver) : List Notice :=
  r.progress.trace.filterMap Config.Event.notice?

end TableSync
