import TableSync.Text.Split
import TableSync.Text.Blank

/-!
# Partition paths

A partition path is a text relative to the base path of a table.  Its segments are the texts
between its slashes once the slashes at both ends are gone; a path of slashes alone has none.
-/

namespace TableSync.Partition

open TableSync.Text

/-- A path without the slashes at its ends. -/
def trimSlashes (cs : List Char) : List Char :=
  trimEnds (· = '/') cs

/-- The directory segments of a path, in path order; inner empty ones are kept. -/
def segments (path : String) : List String :=
  let trimmed := trimSlashes path.toList
  if trimmed.isEmpty then [] else (splitOn '/' trimmed).map String.ofList

/-- The part of a segment behind its first `=`, if it has one. -/
def assignedValue? (segment : String) : Option String :=
  (cut? '=' segment.toList).map fun parts => String.ofList parts.2

end TableSync.Partition
