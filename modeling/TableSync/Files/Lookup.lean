import TableSync.Files.Path
import TableSync.Text.Quoted

/-!
# Files

What the file system holds, as far as a program asks for it: under each path a file, a directory,
or nothing for one of several reasons.  A tree of files answers for every path.
-/

namespace TableSync.Files

open TableSync.Text

/-- What is found under a path. -/
inductive Lookup
  | file (content : List UInt8)
  | directory
  | missing
  | notDirectory
  | tooLong
  | denied
deriving DecidableEq, Repr

/-- What is found under each path. -/
abbrev FileSystem := String → Lookup

inductive OpenError
  | missing (path : String)
  | isDirectory (path : String)
  | notDirectory (path : String)
  | tooLong (path : String)
  | denied (path : String)
  | nullCharacter
deriving DecidableEq, Repr

def OpenError.message : OpenError → String
  | missing path => "[Errno 2] No such file or directory: " ++ quoted path
  | isDirectory path => "[Errno 21] Is a directory: " ++ quoted path
  | notDirectory path => "[Errno 20] Not a directory: " ++ quoted path
  | tooLong path => "[Errno 36] File name too long: " ++ quoted path
  | denied path => "[Errno 13] Permission denied: " ++ quoted path
  | nullCharacter => "embedded null byte"

def openFile (files : FileSystem) (path : String) : Except OpenError (List UInt8) :=
  if path.toList.contains '\x00' then .error .nullCharacter
  else
    match files path with
    | .file content => .ok content
    | .directory => .error (.isDirectory path)
    | .missing => .error (.missing path)
    | .notDirectory => .error (.notDirectory path)
    | .tooLong => .error (.tooLong path)
    | .denied => .error (.denied path)

/-- The number of bytes that a name may have. -/
def nameLimit : Nat := 255

/-- The number of bytes that a path must stay below. -/
def pathLimit : Nat := 4096

/-- A file or a directory in a tree. -/
inductive Entry
  | file (content : List UInt8)
  | directory
deriving DecidableEq, Repr

/-- Files and directories by their names from the root, and the directory where relative paths
start. -/
structure FileTree where
  entries : List (List String × Entry)
  working : List String

namespace FileTree

/-- What stands at a place.  A directory is also whatever lies on the way to an entry or to the
working directory. -/
def entry? (t : FileTree) (place : List String) : Option Entry :=
  match t.entries.lookup place with
  | some e => some e
  | none =>
      if place.isPrefixOf t.working || t.entries.any fun e => place.isPrefixOf e.1 then
        some .directory
      else none

/-- Follow names from a place. -/
def walk (t : FileTree) (place : List String) : List String → Lookup
  | [] =>
      match t.entry? place with
      | some (.file content) => .file content
      | some .directory => .directory
      | none => .missing
  | name :: names =>
      match t.entry? place with
      | some (.file _) => .notDirectory
      | none => .missing
      | some .directory =>
          if name = "" || name = "." then t.walk place names
          else if name = ".." then t.walk place.dropLast names
          else if nameLimit < name.utf8ByteSize then .tooLong
          else t.walk (place ++ [name]) names

/-- What is found under a path. -/
def lookup (t : FileTree) (path : String) : Lookup :=
  if path = "" then .missing
  else if pathLimit ≤ path.utf8ByteSize then .tooLong
  else
    t.walk (if path.startsWith "/" then [] else t.working)
      ((splitOn '/' path.toList).map String.ofList)

end FileTree

end TableSync.Files
