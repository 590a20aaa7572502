import TableSync.CommandLine.Option
import TableSync.Text.Integer
import TableSync.Text.Quoted

/-!
# Arguments

The arguments of the command line are sorted into options and other words, before any of them is
taken up.  A long name may be shortened as long as it is clear which option is meant.  The value
of an option is the rest of its argument behind an equals sign, or the next argument, if that is
a word.  Flags of one letter may share an argument; they are taken up together, and only if the
whole argument can be read.
-/

namespace TableSync.CommandLine

open TableSync.Text

inductive UsageError
  | ambiguous (argument : String) (names : List String)
  | noValue (o : Opt)
  | valueIgnored (o : Opt) (value : String)
  | notInteger (o : Opt) (value : String)
  | unrecognized (arguments : List String)
deriving DecidableEq, Repr

def UsageError.message : UsageError → String
  | ambiguous argument names =>
      "ambiguous option: " ++ argument ++ " could match " ++ ", ".intercalate names
  | noValue o => "argument " ++ o.title ++ ": expected one argument"
  | valueIgnored o value =>
      "argument " ++ o.title ++ ": ignored explicit argument " ++ quoted value
  | notInteger o value => "argument " ++ o.title ++ ": invalid int value: " ++ quoted value
  | unrecognized arguments => "unrecognized arguments: " ++ " ".intercalate arguments

structure Arguments where
  database? : Option String := none
  table? : Option String := none
  basePath? : Option String := none
  baseFileFormat? : Option String := none
  partitionedBy : List String := []
  extractor? : Option String := none
  assumeDate : Bool := false
  decode : Bool := false
  sources : List String := []
  assignments : List String := []
  pathsFile : String := ""
  skipInvalid : Bool := false
  workers : Int := 1
  showConfig : Bool := false
  listProperties : Bool := false
  verbose : Bool := false
deriving DecidableEq, Repr

/-- What an argument is: an option, with a value in the same argument or not; a flag of one letter
with more letters behind it; an option that does not exist; the mark behind which there are no
options; or a word. -/
inductive Kind
  | option (o : Opt) (value? : Option String)
  | letters (o : Opt) (rest : List Char)
  | unknown
  | separator
  | word
deriving DecidableEq, Repr

/-- The text before and behind the first equals sign. -/
def splitValue (argument : String) : String × Option String :=
  match cut? '=' argument.toList with
  | some (name, value) => (String.ofList name, some (String.ofList value))
  | none => (argument, none)

/-- The names that an argument that starts with two dashes may be short for, each with what the
argument is then. -/
def longMatches (argument : String) : List (String × Kind) :=
  let (start, value?) := splitValue argument
  (Opt.byName.filter fun entry => start.toList.isPrefixOf entry.1.toList).map fun entry =>
    (entry.1, .option entry.2 value?)

def flagOf? (letter : Char) : Option Opt :=
  Opt.named? (String.ofList ['-', letter])

/-- Whether a text is a negative number in digits, with a point or without; a line feed may stand
behind it. -/
def isNegativeNumber (cs : List Char) : Bool :=
  let isDigit (c : Char) : Bool := (digitValue? c).isSome
  let digits (ds : List Char) : Bool := !ds.isEmpty && ds.all isDigit
  let body := if cs.getLast? = some '\n' then cs.dropLast else cs
  match body with
  | '-' :: rest =>
      digits rest ||
        match cut? '.' rest with
        | some (whole, part) => whole.all isDigit && digits part
        | none => false
  | _ => false

/-- What an argument is that is neither an option nor short for one. -/
def kindOfRest (argument : String) : Kind :=
  if isNegativeNumber argument.toList || argument.toList.contains ' ' then .word else .unknown

/-- What an argument is that is no option by its full name. -/
def kindOfOther (argument : String) : Except UsageError Kind :=
  match argument.toList with
  | '-' :: '-' :: _ =>
      match longMatches argument with
      | [] => .ok (kindOfRest argument)
      | [(_, kind)] => .ok kind
      | found => .error (.ambiguous argument (found.map Prod.fst))
  | _ :: letter :: rest =>
      match flagOf? letter with
      | some o => .ok (.letters o rest)
      | none => .ok (kindOfRest argument)
  | _ => .ok (kindOfRest argument)

/-- What an argument is, where options may stand. -/
def kindOf (argument : String) : Except UsageError Kind :=
  if argument.toList.head? ≠ some '-' || argument = "-" then .ok .word
  else
    match Opt.named? argument with
    | some o => .ok (.option o none)
    | none =>
        match splitValue argument with
        | (name, some value) =>
            match Opt.named? name with
            | some o => .ok (.option o (some value))
            | none => kindOfOther argument
        | (_, none) => kindOfOther argument

/-- Sort arguments; behind the separator all of them are words. -/
def sorted : List String → Except UsageError (List (String × Kind))
  | [] => .ok []
  | argument :: rest =>
      if argument = "--" then .ok ((argument, .separator) :: rest.map fun a => (a, .word))
      else do
        let kind ← kindOf argument
        return (argument, kind) :: (← sorted rest)

/-- The flags that an argument holds from a first flag on, and what is left over behind a dash from
the first letter on that is no flag.  A flag takes no value, so an equals sign behind it is refused
together with what follows, and so is a further dash. -/
def cluster (o : Opt) : List Char → Except UsageError (List Opt × List String)
  | [] => .ok ([o], [])
  | '-' :: rest => .error (.valueIgnored o (String.ofList ('-' :: rest)))
  | letter :: rest =>
      match flagOf? letter, rest with
      | none, _ => .ok ([o], [String.ofList ('-' :: letter :: rest)])
      | some next, '=' :: value => .error (.valueIgnored next (String.ofList value))
      | some next, rest => (cluster next rest).map fun (flags, left) => (o :: flags, left)

/-- What comes of reading arguments: a run, or that help is wanted. -/
inductive Request
  | help
  | run (arguments : Arguments)
deriving DecidableEq, Repr

/-- Arguments with an option taken up, whose value a flag ignores; asking for help ends the
reading. -/
def Arguments.set (a : Arguments) (value : String) (o : Opt) : Except UsageError Request :=
  let run (a : Arguments) : Except UsageError Request := .ok (.run a)
  match o with
  | .help => .ok .help
  | .database => run { a with database? := some value }
  | .table => run { a with table? := some value }
  | .basePath => run { a with basePath? := some value }
  | .baseFileFormat => run { a with baseFileFormat? := some value }
  | .partitionedBy => run { a with partitionedBy := a.partitionedBy ++ [value] }
  | .extractor => run { a with extractor? := some value }
  | .assumeDate => run { a with assumeDate := true }
  | .decode => run { a with decode := true }
  | .source => run { a with sources := a.sources ++ [value] }
  | .assignment => run { a with assignments := a.assignments ++ [value] }
  | .pathsFile => run { a with pathsFile := value }
  | .skipInvalid => run { a with skipInvalid := true }
  | .workers =>
      match readInteger 10 value with
      | .ok n => run { a with workers := n }
      | .error _ => .error (.notInteger o value)
  | .showConfig => run { a with showConfig := true }
  | .listProperties => run { a with listProperties := true }
  | .verbose => run { a with verbose := true }

def Arguments.setFlags (a : Arguments) : List Opt → Except UsageError Request
  | [] => .ok (.run a)
  | o :: rest => do
      match ← a.set "" o with
      | .help => return .help
      | .run a => a.setFlags rest

/-- Take up an option that has its value, if any, in the same argument. -/
def Arguments.setOption (a : Arguments) (o : Opt) (value? : Option String) :
    Except UsageError Request :=
  match value? with
  | none => a.set "" o
  | some value => if o.takesValue then a.set value o else .error (.valueIgnored o value)

/-- Take up sorted arguments in their order; what is no option and no value is left over. -/
def Arguments.takeUp (a : Arguments) (left : List String) :
    List (String × Kind) → Except UsageError Request
  | [] => if left = [] then .ok (.run a) else .error (.unrecognized left)
  | (_, .option o value?) :: rest =>
      if o.takesValue && value?.isNone then
        match rest with
        | (value, .word) :: rest => do
            match ← a.set value o with
            | .help => return .help
            | .run a => a.takeUp left rest
        | _ => .error (.noValue o)
      else do
        match ← a.setOption o value? with
        | .help => return .help
        | .run a => a.takeUp left rest
  | (_, .letters o letters) :: rest => do
      let (flags, more) ← cluster o letters
      match ← a.setFlags flags with
      | .help => return .help
      | .run a => a.takeUp (left ++ more) rest
  | (argument, _) :: rest => a.takeUp (left ++ [argument]) rest

def readArguments (argv : List String) : Except UsageError Request := do
  Arguments.takeUp {} [] (← sorted argv)

end TableSync.CommandLine
