import TableSync.Yaml.Source

/-!
# Tokens

The tokens of a document.  Besides what stands in the text there are tokens for the beginning and
the end of a block, which the indentation shows.
-/

namespace TableSync.Yaml

/-- A directive: the version of the format, a short handle for the beginning of tags, or another
one, which has no effect. -/
inductive Directive
  | version (major minor : Nat)
  | handle (handle start : String)
  | other
deriving DecidableEq, Repr

inductive Token
  | directive (d : Directive)
  | documentStart
  | documentEnd
  | blockSequence
  | blockMapping
  | blockEnd
  | flowSequence
  | flowSequenceEnd
  | flowMapping
  | flowMappingEnd
  | entry
  | comma
  | key
  | value
  | alias (name : String)
  | anchor (name : String)
  | tag (handle? : Option String) (suffix : String)
  | scalar (text : Text) (plain : Bool)
deriving DecidableEq, Repr

end TableSync.Yaml
