import TableSync.Text.Split

/-!
# Paths

A path is a root and the names behind it.  Empty names and single dots are left out, names of two
dots are kept.  Two slashes at the beginning, and no more, are a root of their own.
-/

namespace TableSync.Files

open TableSync.Text

/-- A path; the root of a relative one is empty. -/
structure Path where
  root : String := ""
  names : List String := []
deriving DecidableEq, Repr

namespace Path

/-- The root of a path text, by the number of slashes at its beginning. -/
def rootOf (cs : List Char) : String :=
  match (cs.takeWhile (· = '/')).length with
  | 0 => ""
  | 2 => "//"
  | _ => "/"

def parse (s : String) : Path :=
  let names := (splitOn '/' s.toList).map String.ofList
  { root := rootOf s.toList, names := names.filter fun name => name ≠ "" && name ≠ "." }

def text (p : Path) : String :=
  let body := "/".intercalate p.names
  if p.root = "" && p.names.isEmpty then "." else p.root ++ body

def isAbsolute (p : Path) : Bool :=
  p.root ≠ ""

/-- A path seen from a directory. -/
def under (directory p : Path) : Path :=
  if p.isAbsolute then p else { directory with names := directory.names ++ p.names }

/-- The path with something added to its last name, if it has one. -/
def extended? (p : Path) (suffix : String) : Option Path :=
  p.names.getLast?.map fun name => { p with names := p.names.dropLast ++ [name ++ suffix] }

end Path

end TableSync.Files
