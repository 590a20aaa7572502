import TableSync.Text.Blank
import TableSync.Text.LowerCase
import TableSync.Text.Split

/-!
# Property values as lists and flags

A property value is a text.  Read as a list it is split at its commas, each item trimmed and the
blank ones dropped; read as a flag it is `true` or `false` in any case, blanks around it ignored.
-/

namespace TableSync.Config

open TableSync.Text

/-- The items of a comma-separated text, trimmed, without the blank ones. -/
def splitList (value : Text) : List Text :=
  ((splitOn (.char ',') value).map strip).filter (· ≠ [])

/-- The items of a value; a property without a value has none. -/
def listItems (value : Option Text) : List Text :=
  (value.map splitList).getD []

/-- A value without blanks around it, in lower case. -/
def flagText (value : Text) : Text :=
  lowerCase (strip value)

/-- The truth value that a text spells. -/
def readFlag? (value : Text) : Option Bool :=
  if flagText value = "true" then some true
  else if flagText value = "false" then some false
  else none

def writeFlag (b : Bool) : Text :=
  if b then "true" else "false"

end TableSync.Config
