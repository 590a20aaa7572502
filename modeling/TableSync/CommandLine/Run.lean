import TableSync.CommandLine.Collect
import TableSync.CommandLine.Console
import TableSync.Partition.Batch
import TableSync.Partition.Registry

/-!
# Runs

A run collects its properties, resolves the configuration and chooses the extractor; only then
does it read the partition paths, from a file or from the standard input.  It writes a result only
once all paths have been tried.
-/

namespace TableSync.CommandLine

open TableSync.Config TableSync.Partition TableSync.Document TableSync.Files TableSync.Text

/-- What reading the standard input gives. -/
inductive Input
  | bytes (content : List UInt8)
  | interrupted
deriving DecidableEq, Repr

/-- A property in the list of all properties. -/
def describe (p : Property) : Text :=
  p.key ++ "\n    default: " ++ p.default?.getD "(required)" ++ "\n    " ++ p.documentation ++ "\n"

/-- A result on a line of its own. -/
def resultLine (v : PartitionValues) : String :=
  jsonLine [("partition_path", .string v.path), ("values", .list (v.values.map Text.ofString))] ++
    "\n"

/-- The paths that the lines of a text hold; blank lines hold none. -/
def pathsOf (content : List UInt8) : Except Fault (List String) :=
  match Utf8.decode? content with
  | some cs => .ok (((lines cs).map String.ofList).filter fun line => !isBlankText line)
  | none => .error .pathsNotText

/-- Resolve the configuration that properties give. -/
def configure (properties : PropertyBag Text) : Running SyncConfig := do
  let (outcome, resolver) := SyncConfig.fromProperties (properties.mapValues some)
  notify resolver.notices
  ofExcept (outcome.mapError .config)

def choose (config : SyncConfig) : Running Extractor := do
  let (extractor, selected) ← ofExcept ((Registry.builtin.create config).mapError .config)
  notify [selected]
  return extractor

/-- Take a run to the point where its paths are due.  A run that only lists the properties or shows
its configuration has written it by then, and no paths are due. -/
def prepare (files : FileSystem) (a : Arguments) : Running (Option Batch) := do
  if a.listProperties then
    writeAll (syncProperties.map describe)
    return none
  else
    let properties ← ofExcept (collectProperties files a)
    let config ← configure properties
    let extractor ← choose config
    if a.showConfig then
      write (jsonBlock config.members ++ "\n")
      return none
    else
      return some { config, extractor, skipInvalid := a.skipInvalid, workers := a.workers }

/-- The paths of a run: those of its file, if it names one, or else those of the input. -/
def readPaths (files : FileSystem) (input : Input) (a : Arguments) :
    Except Fault (List String) :=
  if a.pathsFile = "" then
    match input with
    | .bytes content => pathsOf content
    | .interrupted => .error .interrupted
  else
    match openFile files a.pathsFile with
    | .ok content => pathsOf content
    | .error e => .error (.paths e)

/-- Extract the values of paths. -/
def extract (batch : Batch) (paths : List String) : Running (List PartitionValues) := do
  let (outcome, notices) := batch.execute paths
  notify notices
  ofExcept (outcome.mapError .extraction)

/-- Extract the values of paths and write them, a result a line. -/
def deliver (batch : Batch) (paths : List String) : Running Unit := do
  let results ← extract batch paths
  writeAll (results.map fun v => resultLine v)

def process (files : FileSystem) (input : Input) (a : Arguments) (batch : Batch) :
    Running Unit := do
  let paths ← ofExcept (readPaths files input a)
  deliver batch paths

/-- Do what the arguments ask for. -/
def work (files : FileSystem) (input : Input) (a : Arguments) : Running Unit := do
  match ← prepare files a with
  | none => return
  | some batch => process files input a batch

/-- The console on which a run begins. -/
def opening (a : Arguments) : Console :=
  { notices := if a.verbose then [.verbose] else [] }

/-- A run with its files and its input: what ended it, if anything did, and its console. -/
def report (files : FileSystem) (input : Input) (a : Arguments) : Except Fault Unit × Console :=
  (work files input a).from (opening a)

/-- How a run ends: with an exit code, or broken off by a fault that is not foreseen. -/
inductive Ending
  | exit (code : Nat)
  | broken (fault : Fault)
deriving DecidableEq, Repr

/-- What a run leaves: its ending and what it wrote. -/
structure Outcome where
  ending : Ending
  output : Text
  errors : Text
deriving DecidableEq, Repr

def isShown (verbose : Bool) (n : Notice) : Bool :=
  verbose || n.level ≠ .debug

/-- What a run leaves on its streams; debug notices are shown only if that was asked for. -/
def leaves (w : Wording) (verbose : Bool) (result : Except Fault Unit) (console : Console) :
    Outcome :=
  let shown := (console.notices.filter (isShown verbose)).flatMap (Notice.line w.time)
  match result with
  | .ok () => ⟨.exit 0, console.output, shown⟩
  | .error fault =>
      match fault.heading? with
      | some heading =>
          ⟨.exit heading.exitCode, console.output, shown ++ heading.report (fault.message w)⟩
      | none => ⟨.broken fault, console.output, shown⟩

def programName : String := "meta-sync"

def usageOutcome (e : UsageError) : Outcome :=
  ⟨.exit 2, [], programName ++ ": error: " ++ e.message ++ "\n"⟩

def helpText : String :=
  String.join (Opt.all.map fun o => o.title ++ "\n")

/-- The paths of the files that a run may ask for. -/
def askedPaths (a : Arguments) : List String :=
  let sources := a.sources.flatMap fun source =>
    (candidates "." source).toOption.getD []
  if a.pathsFile = "" then sources else sources ++ [a.pathsFile]

def readsInput (files : FileSystem) (a : Arguments) : Bool :=
  match ((prepare files a).from (opening a)).1 with
  | .ok (some _) => a.pathsFile = ""
  | _ => false

/-- Run the program. -/
def run (w : Wording) (files : FileSystem) (input : Input) (argv : List String) : Outcome :=
  match readArguments argv with
  | .error e => usageOutcome e
  | .ok .help => ⟨.exit 0, helpText, []⟩
  | .ok (.run a) =>
      let (result, console) := report files input a
      leaves w a.verbose result console

end TableSync.CommandLine
