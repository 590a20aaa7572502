import TableSync.Config.Error
import TableSync.Document.PropertiesFile
import TableSync.Partition.Extractor

/-!
# Faults of a run

Everything that can end a run, and how it is reported: each kind of fault has a heading of its own
on the error stream.  Some faults are not foreseen; a run that meets one breaks off without a
report.
-/

namespace TableSync.CommandLine

open TableSync.Config TableSync.Partition TableSync.Document TableSync.Files TableSync.Text

inductive Fault
  | load (e : LoadError)
  | config (e : ConfigError)
  | extraction (e : ExtractionError)
  | paths (e : OpenError)
  | pathsNotText
  | interrupted
deriving DecidableEq, Repr

inductive Heading
  | fileNotFound
  | invalidDocument
  | inferenceCycle
  | partitionPath
  | configuration
  | inputOutput
  | cancelled
  | unexpected
deriving DecidableEq, Repr

/-- The report of a fault with a given text. -/
def Heading.report (heading : Heading) (text : Text) : Text :=
  match heading with
  | fileNotFound => "✗ File not found: " ++ text ++ "\n"
  | invalidDocument => "✗ Invalid YAML properties: " ++ text ++ "\n"
  | inferenceCycle => "✗ Configuration inference error: " ++ text ++ "\n"
  | partitionPath => "✗ Partition parse error: " ++ text ++ "\n"
  | configuration => "✗ Configuration error: " ++ text ++ "\n"
  | inputOutput => "✗ I/O error: " ++ text ++ "\n"
  | cancelled => "\n✗ Operation cancelled by user\n"
  | unexpected => "✗ Unexpected error: " ++ text ++ "\n"

def Heading.exitCode : Heading → Nat
  | cancelled => 130
  | _ => 1

/-- The words for what the library has no text for. -/
structure Wording where
  time : String
  illFormed : String
  notText : String

/-- The heading under which a fault of opening a file is reported. -/
def openHeading : OpenError → Heading
  | .missing _ => .fileNotFound
  | .isDirectory _ | .notDirectory _ | .tooLong _ | .denied _ => .inputOutput
  | .nullCharacter => .configuration

/-- The heading under which a fault of loading is reported, if it is foreseen. -/
def loadHeading? : LoadError → Option Heading
  | .notFound _ => some .fileNotFound
  | .noName _ | .notMap _ => some .configuration
  | .access e => some (openHeading e)
  | .problem .illFormed => some .invalidDocument
  | .problem p => if p.isBadValue then some .configuration else none

/-- The heading under which a fault is reported, if it is foreseen. -/
def Fault.heading? : Fault → Option Heading
  | load e => loadHeading? e
  | config (.cycle _ _) => some .inferenceCycle
  | config _ => some .configuration
  | extraction (.rejected _) => some .partitionPath
  | extraction (.tooManyDigits _) => some .configuration
  | extraction (.overflow _) => none
  | paths e => some (openHeading e)
  | pathsNotText => some .configuration
  | interrupted => some .cancelled

def Fault.message (w : Wording) : Fault → Text
  | load (.problem .notText) => w.notText
  | load (.problem .illFormed) => w.illFormed
  | load e => e.message
  | config e => e.message
  | extraction e => e.message
  | paths e => e.message
  | pathsNotText => w.notText
  | interrupted => []

end TableSync.CommandLine
