import TableSync.Text.CodePoint

/-!
# Configuration errors

The faults for which a table cannot be configured.  Each names the key it is about and the
offending text, as far as it has them.
-/

namespace TableSync.Config

inductive ConfigError
  /-- The key is not in the catalog. -/
  | unknownProperty (key : Text)
  /-- A property that must have a text has none. -/
  | missingText (key : Text)
  /-- A property that must be true or false has no value. -/
  | missingFlag (key : Text)
  /-- The value of a property is neither true nor false. -/
  | invalidFlag (key value : Text)
  /-- Inference of the key came back to it while the keys of the chain were being resolved. -/
  | cycle (key : Text) (chain : List Text)
  /-- No extractor is registered under the name. -/
  | unknownExtractor (name : Text) (known : List Text)
  /-- A property given on the command line is not of the form `KEY=VALUE`. -/
  | malformedAssignment (item : Text)
deriving DecidableEq, Repr

def cycleText (key : Text) (chain : List Text) : Text :=
  "Inference cycle detected while resolving '" ++ key ++ "': " ++
    Text.joined " -> " (chain ++ [key])

namespace ConfigError

def message : ConfigError → Text
  | unknownProperty key => "Unknown config property: " ++ key
  | missingText key => "Missing required config property: " ++ key
  | missingFlag key => "Missing boolean config property: " ++ key
  | invalidFlag key value =>
      "Invalid boolean value for " ++ key ++ ": '" ++ value ++
        "' (expected 'true' or 'false')"
  | cycle key chain => cycleText key chain
  | unknownExtractor name known =>
      "Unknown partition value extractor '" ++ name ++ "'. Known extractors: " ++
        Text.joined ", " known
  | malformedAssignment item => "Invalid --prop '" ++ item ++ "' (expected KEY=VALUE)"

/-- The key that an error is about. -/
def key? : ConfigError → Option Text
  | unknownProperty key => some key
  | missingText key => some key
  | missingFlag key => some key
  | invalidFlag key _ => some key
  | cycle key _ => some key
  | unknownExtractor _ _ => some "sync.partition_extractor_class"
  | malformedAssignment _ => none

/-- The value that an error refuses. -/
def value? : ConfigError → Option Text
  | invalidFlag _ value => some value
  | unknownExtractor name _ => some name
  | unknownProperty _ | missingText _ | missingFlag _ | cycle _ _ | malformedAssignment _ => none

end ConfigError

end TableSync.Config
