import TableSync.Calendar.Moment
import TableSync.Text.Quoted

/-!
# Problems with a document

Why a document cannot be read.  Most often it is ill-formed; some scalars are well-formed but have
no value, and a few have a form that their type does not provide for.
-/

namespace TableSync.Yaml

open TableSync.Calendar TableSync.Text

/-- What there is no room for where values stand inside each other. -/
inductive Need
  /-- A value inside another. -/
  | value
  /-- The parts of a value. -/
  | parts
  /-- The text of a value. -/
  | text
  /-- A look at the kind of a value. -/
  | kind
  /-- The literal of a value inside another. -/
  | literal
deriving DecidableEq, Repr

/-- Why a document cannot be read. -/
inductive Problem
  /-- The bytes of the document encode no text. -/
  | notText
  /-- The text breaks the rules of the format. -/
  | illFormed
  /-- The text is not an integer in the base. -/
  | notInteger (base : Nat) (text : Text)
  /-- An integer has more decimal digits than can be read. -/
  | tooManyDigits (count : Nat)
  /-- An integer has more decimal digits than can be written. -/
  | tooLongToWrite
  /-- The text is not a number. -/
  | notReal (text : Text)
  /-- The numbers of a time do not make one. -/
  | notMoment (fault : MomentFault)
  /-- An escape is the code of no character. -/
  | notCharacter
  /-- An escape is a code beyond all machine integers. -/
  | codeOverflow
  /-- A number in base sixty has more places than a machine number can weigh. -/
  | weightOverflow
  /-- A scalar declared to be a truth value is not a word for one. -/
  | unknownFlag (word : Text)
  /-- A scalar declared to be a number is empty. -/
  | emptyNumber
  /-- A scalar declared to be a time does not look like one. -/
  | notTimestamp
  /-- A map stands where the text of a time is needed. -/
  | timestampOfMap
  /-- A value is nested too deep, or in itself. -/
  | tooDeep (need : Need)
deriving DecidableEq, Repr

namespace Problem

/-- Whether the document is well-formed and a value in it is bad. -/
def isBadValue : Problem → Bool
  | notText | notInteger _ _ | tooManyDigits _ | tooLongToWrite | notReal _ | notMoment _
  | notCharacter => true
  | _ => false

/-- What the text of a problem says of a need. -/
def needText : Need → String
  | .value => ""
  | .parts => " while calling a Python object"
  | .text => " while getting the str of an object"
  | .kind => " in __instancecheck__"
  | .literal => " while getting the repr of an object"

/-- The text of a problem; a document that is no text or ill-formed has none of its own. -/
def message : Problem → String
  | notText => ""
  | illFormed => ""
  | notInteger base text =>
      "invalid literal for int() with base " ++ decimal base ++ ": " ++
        String.ofList ((quoted text).toList.take 200)
  | tooManyDigits count => tooManyDigitsText count
  | tooLongToWrite =>
      "Exceeds the limit (4300 digits) for integer string conversion; " ++
        "use sys.set_int_max_str_digits() to increase the limit"
  | notReal text => "could not convert string to float: " ++ quoted text
  | notMoment fault => fault.message
  | notCharacter => "chr() arg not in range(0x110000)"
  | codeOverflow => "Python int too large to convert to C int"
  | weightOverflow => "int too large to convert to float"
  | unknownFlag word => quoted word
  | emptyNumber => "string index out of range"
  | notTimestamp => "'NoneType' object has no attribute 'groupdict'"
  | timestampOfMap => "expected string or bytes-like object, got 'list'"
  | tooDeep need => "maximum recursion depth exceeded" ++ needText need

end Problem

end TableSync.Yaml
