/-!
# Options

The options of the command line in the order of their declaration.  An option has one name or two;
it takes a value or is a flag.
-/

namespace TableSync.CommandLine

inductive Opt
  | help
  | database
  | table
  | basePath
  | baseFileFormat
  | partitionedBy
  | extractor
  | assumeDate
  | decode
  | source
  | assignment
  | pathsFile
  | skipInvalid
  | workers
  | showConfig
  | listProperties
  | verbose
deriving DecidableEq, Repr

namespace Opt

def all : List Opt :=
  [help, database, table, basePath, baseFileFormat, partitionedBy, extractor, assumeDate, decode,
    source, assignment, pathsFile, skipInvalid, workers, showConfig, listProperties, verbose]

def names : Opt → List String
  | help => ["-h", "--help"]
  | database => ["--database"]
  | table => ["--table"]
  | basePath => ["--base-path"]
  | baseFileFormat => ["--base-file-format"]
  | partitionedBy => ["--partitioned-by"]
  | extractor => ["--partition-value-extractor"]
  | assumeDate => ["--assume-date-partitioning"]
  | decode => ["--decode-partition"]
  | source => ["--props"]
  | assignment => ["--prop"]
  | pathsFile => ["--paths-file"]
  | skipInvalid => ["--skip-invalid"]
  | workers => ["--workers"]
  | showConfig => ["--show-config"]
  | listProperties => ["--list-properties"]
  | verbose => ["--verbose", "-v"]

/-- The names of an option in a message. -/
def title (o : Opt) : String :=
  "/".intercalate o.names

/-- Whether an option takes a value. -/
def takesValue : Opt → Bool
  | database | table | basePath | baseFileFormat | partitionedBy | extractor | source
  | assignment | pathsFile | workers => true
  | help | assumeDate | decode | skipInvalid | showConfig | listProperties | verbose => false

/-- Every name with its option. -/
def byName : List (String × Opt) :=
  all.flatMap fun o => o.names.map fun name => (name, o)

def named? (name : String) : Option Opt :=
  byName.lookup name

end Opt

end TableSync.CommandLine
