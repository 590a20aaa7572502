import TableSync.Config.Text
import TableSync.Document.Literal
import TableSync.PropertyBag

/-!
# Flattening

A nested map becomes a bag of properties: the key of a leaf is the keys on the way to it, joined
by dots, and its value is a text.  Lists and tuples are leaves; their items stand between commas.
Of two leaves with one key the later wins.
-/

namespace TableSync.Document

open TableSync.Config

namespace Value

mutual

/-- The text of a leaf. -/
def propertyText : Value → Text
  | bool b => writeFlag b
  | list items => Text.joined "," (propertyTexts items)
  | tuple items => Text.joined "," (propertyTexts items)
  | null => []
  | v => v.plain

def propertyTexts : List Value → List Text
  | [] => []
  | v :: vs => propertyText v :: propertyTexts vs

end

end Value

/-- The key of an entry below a path; an empty path leaves no dot. -/
def keyBelow (path : Text) (key : Value) : Text :=
  if path = [] then key.plain else path ++ "." ++ key.plain

mutual

/-- Assign what a value flattens to below its key. -/
def flattenValue (bag : PropertyBag Text) (key : Text) : Value → PropertyBag Text
  | .map entries => bag.update (flattenEntries .empty key entries)
  | v => bag.insert key v.propertyText

/-- Assign what entries flatten to below a path, in their order. -/
def flattenEntries (bag : PropertyBag Text) (path : Text) :
    List (Value × Value) → PropertyBag Text
  | [] => bag
  | (key, value) :: rest => flattenEntries (flattenValue bag (keyBelow path key) value) path rest

end

/-- The properties of the entries of a map below a path. -/
def flatten (entries : List (Value × Value)) (path : Text := []) : PropertyBag Text :=
  flattenEntries .empty path entries

end TableSync.Document
