import TableSync.Document.Flatten
import TableSync.Files.Lookup
import TableSync.Text.Pages
import TableSync.Yaml.Tree

/-!
# Properties files

A properties file is a document whose root is a map, in UTF-8; an empty document counts as an
empty map.  It is named by its path, absolute or below a directory, and the suffix of the path may
be left out.
-/

namespace TableSync.Document

open TableSync.Files TableSync.Text

/-- The suffixes that may be left out. -/
def fileSuffixes : List String := [".yml", ".yaml"]

inductive LoadError
  | notFound (source : String)
  | noName (path : String)
  | access (e : OpenError)
  | notMap (path : String)
  | problem (p : Yaml.Problem)
deriving DecidableEq, Repr

def LoadError.message : LoadError → String
  | notFound source => "Properties file not found: " ++ source
  | noName path => "PosixPath(" ++ quoted path ++ ") has an empty name"
  | access e => e.message
  | notMap path => "Properties file must contain a mapping: " ++ path
  | problem p => p.message

/-- The paths under which a properties file is looked for, if it has a name. -/
def candidates (directory source : String) : Except LoadError (List String) :=
  let base := (Path.parse directory).under (Path.parse source)
  match fileSuffixes.mapM base.extended? with
  | some others => .ok ((base :: others).map Path.text)
  | none => .error (.noName base.text)

/-- The first of several paths that is a file, with its content. -/
def firstFile (files : FileSystem) : List String → Except LoadError (Option (String × List UInt8))
  | [] => .ok none
  | path :: paths =>
      if path.toList.contains '\x00' then firstFile files paths
      else
        match files path with
        | .file content => .ok (some (path, content))
        | .tooLong => .error (.access (.tooLong path))
        | .denied => .error (.access (.denied path))
        | .directory | .missing | .notDirectory => firstFile files paths

/-- The properties that the bytes of a file hold. -/
def readProperties (path : String) (content : List UInt8) :
    Except LoadError (PropertyBag Text) := do
  let data ← (Yaml.read (.ofBytes content)).mapError .problem
  if data.isVoid then return .empty
  match ← data.entries?.mapError .problem with
  | some entries => return flatten entries
  | none => throw (.notMap path)

def loadProperties (files : FileSystem) (source : String) (directory : String := ".") :
    Except LoadError (PropertyBag Text) := do
  match ← firstFile files (← candidates directory source) with
  | some (path, content) => readProperties path content
  | none => throw (.notFound source)

end TableSync.Document
