/-!
# Code points

A text is a list of code points.  Besides the characters there are the surrogates, which encode
characters in pairs and stand for none by themselves.  No encoded text holds one, but a document
may write one by an escape, and then it is part of the text like a character.  A text without
surrogates is the text of a string, and two strings with one text are the same.
-/

namespace TableSync

/-- A character, or one of the surrogates by its place among them. -/
inductive CodePoint
  | char (c : Char)
  | surrogate (index : Fin 2048)
deriving DecidableEq, Repr

/-- A text that may hold surrogates. -/
abbrev Text := List CodePoint

instance : LawfulBEq Text := inferInstance

namespace CodePoint

def value : CodePoint → Nat
  | char c => c.toNat
  | surrogate index => 0xD800 + index.val

/-- The code point of a number below 0x110000. -/
def ofNat (n : Nat) : CodePoint :=
  if h : 0xD800 ≤ n ∧ n < 0xE000 then surrogate ⟨n - 0xD800, by omega⟩ else char (Char.ofNat n)

/-- The character that a code point is, if it is one. -/
def char? : CodePoint → Option Char
  | char c => some c
  | surrogate _ => none

/-- Whether a code point is a character of a class. -/
def isChar (p : Char → Bool) : CodePoint → Bool
  | char c => p c
  | surrogate _ => false

/-- Change a character; a surrogate stays what it is. -/
def mapChar (f : Char → Char) : CodePoint → CodePoint
  | char c => char (f c)
  | surrogate index => surrogate index

instance : Coe Char CodePoint := ⟨char⟩

end CodePoint

namespace Text

def ofChars (cs : List Char) : Text :=
  cs.map .char

def ofString (s : String) : Text :=
  ofChars s.toList

instance : Coe String Text := ⟨ofString⟩

/-- The characters of a text, if it holds no surrogate. -/
def chars? (t : Text) : Option (List Char) :=
  t.mapM CodePoint.char?

/-- Texts joined with a separator between them. -/
def joined (sep : Text) (parts : List Text) : Text :=
  List.intercalate sep parts

/-- Whether a text stands before another one in the order of code points, or is the same. -/
def atMost : Text → Text → Bool
  | [], _ => true
  | _ :: _, [] => false
  | c :: cs, d :: ds => c.value < d.value || c.value = d.value && atMost cs ds

theorem ofChars_inj {cs ds : List Char} : ofChars cs = ofChars ds ↔ cs = ds := by
  refine ⟨fun h => ?_, fun h => by rw [h]⟩
  exact (List.map_inj_right fun _ _ hcd => CodePoint.char.inj hcd).mp h

@[simp] theorem ofString_inj {s t : String} : ofString s = ofString t ↔ s = t := by
  rw [ofString, ofString, ofChars_inj, String.toList_inj]

theorem ofString_append (s t : String) : ofString (s ++ t) = ofString s ++ ofString t := by
  simp [ofString, ofChars]

end Text

end TableSync
