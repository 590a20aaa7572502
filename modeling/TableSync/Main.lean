import Std.Time.Zoned
import TableSync.CommandLine.Run

/-!
# The program

Reads the files that the arguments name and, if it is wanted, the standard input, and writes what
the run leaves.
-/

namespace TableSync.CommandLine

open TableSync.Files TableSync.Text

/-- What the file system holds under a path. -/
def lookUp (path : String) : IO Lookup := do
  try
    return .file (← IO.FS.readBinFile path).toList
  catch
    | .noFileOrDirectory _ _ _ => return .missing
    | .permissionDenied _ _ _ => return .denied
    | .inappropriateType _ code _ => return if code = 20 then .notDirectory else .directory
    | .invalidArgument _ code _ => return if code = 36 then .tooLong else .missing
    | _ => return .missing

def snapshot (paths : List String) : IO FileSystem := do
  let found ← paths.mapM fun path => return (path, ← lookUp path)
  return fun path => (found.lookup path).getD .missing

/-- The time for notices. -/
def timeText : IO String := do
  let now ← Std.Time.PlainDateTime.now
  let date := now.date
  let time := now.time
  return padded 4 date.year.toNat ++ "-" ++ padded 2 date.month.toNat ++ "-" ++
    padded 2 date.day.toNat ++ " " ++ padded 2 time.hour.toNat ++ ":" ++
    padded 2 time.minute.toNat ++ ":" ++ padded 2 time.second.toNat

def wording : IO Wording := do
  return { time := ← timeText
           illFormed := "the document is not well-formed"
           notText := "the text is not encoded in UTF-8" }

def readInput : IO Input := do
  return .bytes (← (← IO.getStdin).readBinToEnd).toList

/-- Read what a run with given arguments needs. -/
def gather : Except UsageError Request → IO (FileSystem × Input)
  | .ok (.run a) => do
      let files ← snapshot (askedPaths a)
      return (files, ← if readsInput files a then readInput else pure (.bytes []))
  | _ => return (fun _ => .missing, .bytes [])

end TableSync.CommandLine

open TableSync.CommandLine TableSync.Text in
def main (argv : List String) : IO UInt32 := do
  let (files, input) ← gather (readArguments argv)
  let words ← wording
  let outcome := run words files input argv
  IO.print (shown outcome.output)
  IO.eprint (shown outcome.errors)
  match outcome.ending with
  | .exit code => return code.toUInt32
  | .broken fault => do
      IO.eprintln (shown (fault.message words))
      return 1
