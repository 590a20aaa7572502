import TableSync.Text.CodePoint
import TableSync.Text.Hex
import TableSync.Text.Printable

/-!
# Quoted literals

A text or a byte string written between quotes on one line.  The quote is a single one unless the
text holds single quotes and no double ones.  The quote and the backslash are written behind a
backslash, tabs and line ends by letter, and whatever is not printable by its code in hexadecimal.
-/

namespace TableSync.Text

/-- The quote that a text is written between. -/
def quoteFor (t : Text) : Char :=
  if t.contains (.char '\'') && !t.contains (.char '"') then '"' else '\''

/-- A number behind a backslash, in two, four or eight digits. -/
def codeEscape (n : Nat) : List Char :=
  if n < 0x100 then '\\' :: 'x' :: hex 2 n
  else if n < 0x10000 then '\\' :: 'u' :: hex 4 n
  else '\\' :: 'U' :: hex 8 n

/-- How one code point stands between two quotes; a surrogate is not printable. -/
def quotedPoint (quote : Char) (printable : Char → Bool) : CodePoint → List Char
  | .char c =>
      if c = quote || c = '\\' then ['\\', c]
      else if c = '\t' then ['\\', 't']
      else if c = '\n' then ['\\', 'n']
      else if c = '\r' then ['\\', 'r']
      else if printable c then [c]
      else codeEscape c.toNat
  | p => codeEscape p.value

/-- A text with its surrogates written by their codes. -/
def shown (t : Text) : String :=
  String.ofList <| t.flatMap fun
    | .char c => [c]
    | p => codeEscape p.value

/-- A text between two quotes. -/
def between (quote : Char) (printable : Char → Bool) (t : Text) : String :=
  String.ofList (quote :: t.flatMap (quotedPoint quote printable) ++ [quote])

def quoted (t : Text) : String :=
  between (quoteFor t) isPrintable t

/-- A byte string as a literal, behind a `b`; of the bytes only ASCII characters are printable. -/
def quotedBytes (bytes : List UInt8) : String :=
  let t := Text.ofChars (bytes.map fun byte => Char.ofNat byte.toNat)
  "b" ++ between (quoteFor t) (fun c => ' ' ≤ c && c ≤ '~') t

end TableSync.Text
