import Mathlib.Algebra.Group.Nat.Defs
import Mathlib.Tactic.SplitIfs
import TableSync.Text.JsonReading

/-!
# Written JSON is read back

What a line of JSON says is what was written, as long as its texts can be written in UTF-16 at all,
which texts of strings can.  A line is written in printable ASCII, so it holds no line feed.

The tokens come first.  `Spells` relates a piece of text to its tokens whatever stands behind it,
so the pieces of a line can be taken one by one.  Then the tokens of a value are put together, the
items of a list by induction over what is still to come, with what has been read on the stack.
-/

namespace TableSync.Text

/-! ## Units -/

/-- A text that its UTF-16 units give back. -/
def IsUtf16 (t : Text) : Prop :=
  ofUnits (t.flatMap utf16Units) = t

theorem ofUnits_cons_of_not_high {unit : Nat} (h : isHighUnit unit = false) (units : List Nat) :
    ofUnits (unit :: units) = .ofNat unit :: ofUnits units := by
  cases units with
  | nil => rfl
  | cons second units => simp [ofUnits, h]

theorem ofUnits_pair {first second : Nat} (hfirst : isHighUnit first = true)
    (hsecond : isLowUnit second = true) (units : List Nat) :
    ofUnits (first :: second :: units) =
      .ofNat (0x10000 + (first - 0xD800) * 0x400 + (second - 0xDC00)) :: ofUnits units := by
  simp [ofUnits, hfirst, hsecond]

theorem value_lt (p : CodePoint) : p.value < 0x110000 := by
  cases p with
  | char c =>
      have hvalid : c.toNat < 0xD800 ∨ 0xDFFF < c.toNat ∧ c.toNat < 0x110000 := c.valid
      show c.toNat < _
      omega
  | surrogate index =>
      show 0xD800 + index.val < _
      omega

theorem utf16Units_lt {p : CodePoint} {unit : Nat} (h : unit ∈ utf16Units p) : unit < 0x10000 := by
  have hp := value_lt p
  unfold utf16Units at h
  dsimp only at h
  split at h
  · rw [List.mem_singleton] at h
    omega
  · simp only [List.mem_cons, List.not_mem_nil, or_false] at h
    omega

theorem ofNat_value_char (c : Char) : CodePoint.ofNat c.toNat = .char c := by
  have hvalid : c.toNat < 0xD800 ∨ 0xDFFF < c.toNat ∧ c.toNat < 0x110000 := c.valid
  unfold CodePoint.ofNat
  rw [dif_neg (by omega), Char.ofNat_toNat]

/-- The units of a character are read as the character, whatever stands behind them. -/
theorem ofUnits_utf16Units_char (c : Char) (units : List Nat) :
    ofUnits (utf16Units (.char c) ++ units) = .char c :: ofUnits units := by
  have hvalid : c.toNat < 0xD800 ∨ 0xDFFF < c.toNat ∧ c.toNat < 0x110000 := c.valid
  have hvalue : CodePoint.value (.char c) = c.toNat := rfl
  unfold utf16Units
  simp only [hvalue]
  split
  · have hhigh : isHighUnit c.toNat = false := by
      simp [isHighUnit]
      omega
    rw [List.singleton_append, ofUnits_cons_of_not_high hhigh, ofNat_value_char]
  · have hhigh : isHighUnit (0xD800 + (c.toNat - 0x10000) / 0x400) = true := by
      simp [isHighUnit]
      omega
    have hlow : isLowUnit (0xDC00 + (c.toNat - 0x10000) % 0x400) = true := by
      simp [isLowUnit]
      omega
    have hpair : 0x10000 + (0xD800 + (c.toNat - 0x10000) / 0x400 - 0xD800) * 0x400 +
        (0xDC00 + (c.toNat - 0x10000) % 0x400 - 0xDC00) = c.toNat := by
      omega
    rw [List.cons_append, List.singleton_append, ofUnits_pair hhigh hlow, hpair, ofNat_value_char]

theorem isUtf16_ofChars (cs : List Char) : IsUtf16 (ofChars cs) := by
  unfold IsUtf16 ofChars
  induction cs with
  | nil => rfl
  | cons c cs ih =>
      rw [List.map_cons, List.flatMap_cons, ofUnits_utf16Units_char, ih]

theorem isUtf16_ofString (s : String) : IsUtf16 s :=
  isUtf16_ofChars s.toList

/-! ## Strings -/

theorem hexNumber?_hex (width m n : Nat) (cs : List Char) :
    hexNumber? m (hex width n ++ cs) = hexNumber? (m * 16 ^ width + n % 16 ^ width) cs := by
  induction width generalizing n cs with
  | zero => simp [hex, Nat.mod_one]
  | succ width ih =>
      have hdigit : hexValue? (hexDigit (n % 16)) = some (n % 16) :=
        hexValue?_hexDigit (Nat.mod_lt _ (by omega))
      have hsum : (m * 16 ^ width + n / 16 % 16 ^ width) * 16 + n % 16 =
          m * 16 ^ (width + 1) + n % 16 ^ (width + 1) := by
        rw [Nat.pow_succ', Nat.mod_mul, Nat.add_mul, Nat.mul_assoc, Nat.mul_comm (16 ^ width) 16,
          Nat.mul_comm (n / 16 % 16 ^ width) 16]
        omega
      rw [hex, List.append_assoc, ih, List.singleton_append, hexNumber?, hdigit]
      dsimp only
      rw [hsum]

section Units

variable (units : List Nat) (rest : List Char)

/-- A unit that is written as an escape. -/
theorem jsonTokens?_hex {unit : Nat} (h : unit < 0x10000) :
    jsonTokens? (some units) ('\\' :: 'u' :: hex 4 unit ++ rest) =
      jsonTokens? (some (units ++ [unit])) rest := by
  obtain ⟨a, b, c, d, hdigits⟩ : ∃ a b c d, hex 4 unit = [a, b, c, d] := ⟨_, _, _, _, rfl⟩
  have hnumber : hexNumber? 0 [a, b, c, d] = some unit := by
    have hread := hexNumber?_hex 4 0 unit []
    rwa [List.append_nil, hdigits, Nat.zero_mul, Nat.zero_add,
      Nat.mod_eq_of_lt (show unit < 16 ^ 4 from h)] at hread
  rw [hdigits]
  show jsonTokens? (some units) ('\\' :: 'u' :: a :: b :: c :: d :: rest) = _
  rw [jsonTokens?, hnumber]

theorem jsonTokens?_hexUnits {more : List Nat} (h : ∀ unit ∈ more, unit < 0x10000) :
    jsonTokens? (some units) ((more.flatMap fun unit => '\\' :: 'u' :: hex 4 unit) ++ rest) =
      jsonTokens? (some (units ++ more)) rest := by
  induction more generalizing units with
  | nil => simp
  | cons unit more ih =>
      obtain ⟨hunit, hmore⟩ := List.forall_mem_cons.mp h
      rw [List.flatMap_cons, List.append_assoc, jsonTokens?_hex _ _ hunit, ih _ hmore,
        List.append_assoc, List.singleton_append]

theorem jsonTokens?_unitEscape (p : CodePoint) :
    jsonTokens? (some units) (unitEscape p ++ rest) =
      jsonTokens? (some (units ++ utf16Units p)) rest :=
  jsonTokens?_hexUnits units rest fun _ hunit => utf16Units_lt hunit

/-- A letter behind a backslash. -/
theorem jsonTokens?_escaped {c : Char} {unit : Nat} (h : escapedUnit? c = some unit) :
    jsonTokens? (some units) ('\\' :: c :: rest) =
      jsonTokens? (some (units ++ [unit])) rest := by
  have hletter : c ≠ 'u' := by
    rintro rfl
    cases h
  rw [jsonTokens?]
  · rw [h]
  · rintro _ _ _ _ _ rfl
    exact absurd rfl hletter

/-- A character that stands for itself. -/
theorem jsonTokens?_literal {c : Char} (hquote : c ≠ '"') (hbackslash : c ≠ '\\')
    (hcontrol : ¬ c.toNat < 0x20) :
    jsonTokens? (some units) (c :: rest) =
      jsonTokens? (some (units ++ utf16Units (.char c))) rest := by
  rw [jsonTokens?]
  · simp [hquote, hbackslash, hcontrol]
  · intros
    contradiction
  · intros
    contradiction

/-- A code point is read as its units, however it is written. -/
theorem jsonTokens?_jsonPoint (p : CodePoint) :
    jsonTokens? (some units) (jsonPoint p ++ rest) =
      jsonTokens? (some (units ++ utf16Units p)) rest := by
  cases p with
  | surrogate index => exact jsonTokens?_unitEscape units rest _
  | char c =>
      have hescaped {letter : Char} {unit : Nat} (h : escapedUnit? letter = some unit)
          (hunit : utf16Units (.char c) = [unit]) :
          jsonTokens? (some units) (['\\', letter] ++ rest) =
            jsonTokens? (some (units ++ utf16Units (.char c))) rest := by
        rw [hunit]
        exact jsonTokens?_escaped units rest h
      simp only [jsonPoint]
      split_ifs with hquote hbackslash hfeed hreturn htab hform hback hprintable
      · exact hescaped rfl (hquote ▸ rfl)
      · exact hescaped rfl (hbackslash ▸ rfl)
      · exact hescaped rfl (hfeed ▸ rfl)
      · exact hescaped rfl (hreturn ▸ rfl)
      · exact hescaped rfl (htab ▸ rfl)
      · exact hescaped rfl (hform ▸ rfl)
      · exact hescaped rfl (hback ▸ rfl)
      · have hcontrol : ¬ c.toNat < 0x20 := by
          simp only [Bool.and_eq_true, decide_eq_true_eq] at hprintable
          exact Nat.not_lt.mpr hprintable.1
        exact jsonTokens?_literal units rest hquote hbackslash hcontrol
      · exact jsonTokens?_unitEscape units rest c

theorem jsonTokens?_points (t : Text) :
    jsonTokens? (some units) (t.flatMap jsonPoint ++ rest) =
      jsonTokens? (some (units ++ t.flatMap utf16Units)) rest := by
  induction t generalizing units with
  | nil => simp
  | cons p t ih =>
      rw [List.flatMap_cons, List.append_assoc, jsonTokens?_jsonPoint, ih, List.append_assoc,
        List.flatMap_cons]

end Units

/-! ## Tokens -/

/-- A piece of text is read as some tokens, whatever stands behind it. -/
def Spells (piece : List Char) (tokens : List JsonToken) : Prop :=
  ∀ rest, jsonTokens? none (piece ++ rest) = (jsonTokens? none rest).map (tokens ++ ·)

theorem spells_nil : Spells [] [] := by
  intro rest
  simp

theorem Spells.append {piece piece' : List Char} {tokens tokens' : List JsonToken}
    (h : Spells piece tokens) (h' : Spells piece' tokens') :
    Spells (piece ++ piece') (tokens ++ tokens') := by
  intro rest
  rw [List.append_assoc, h, h', Option.map_map]
  simp [Function.comp_def, List.append_assoc]

theorem jsonTokens?_of_spells {piece : List Char} {tokens : List JsonToken}
    (h : Spells piece tokens) : jsonTokens? none piece = some tokens := by
  have hread := h []
  rw [List.append_nil] at hread
  simp [hread, jsonTokens?]

/-- What begins with none of the first letters of the words is no word. -/
theorem jsonTokens?_of_no_word {c : Char} (hn : c ≠ 'n') (ht : c ≠ 't') (hf : c ≠ 'f')
    (rest : List Char) :
    jsonTokens? none (c :: rest) =
      if c = '"' then jsonTokens? (some []) rest
      else if isJsonBlank c then jsonTokens? none rest
      else
        match jsonMark? c with
        | some mark => (jsonTokens? none rest).map (mark :: ·)
        | none => none := by
  rewrite [jsonTokens?]
  · rfl
  · intro cs h
    exact absurd h hn
  · intro cs h
    exact absurd h ht
  · intro cs h
    exact absurd h hf

theorem spells_blank : Spells [' '] [] := by
  intro rest
  rw [List.singleton_append, jsonTokens?_of_no_word (by decide) (by decide) (by decide)]
  simp [isJsonBlank]

theorem spells_mark {c : Char} {mark : JsonToken} (h : jsonMark? c = some mark) :
    Spells [c] [mark] := by
  intro rest
  have hne {d : Char} (hd : jsonMark? d = none) : c ≠ d := by
    rintro rfl
    rw [hd] at h
    cases h
  have hblank : isJsonBlank c = false := by
    simp [isJsonBlank, hne (d := ' ') rfl, hne (d := '\t') rfl, hne (d := '\n') rfl,
      hne (d := '\r') rfl]
  rw [List.singleton_append, jsonTokens?_of_no_word (hne rfl) (hne rfl) (hne rfl),
    if_neg (hne rfl), hblank, h]
  rfl

theorem spells_string {t : Text} (h : IsUtf16 t) : Spells (jsonString t).toList [.string t] := by
  intro rest
  have hquoted : (jsonString t).toList ++ rest = '"' :: (t.flatMap jsonPoint ++ '"' :: rest) := by
    simp [jsonString]
  rw [hquoted, jsonTokens?_of_no_word (by decide) (by decide) (by decide), if_pos rfl,
    jsonTokens?_points, List.nil_append, jsonTokens?]
  · rw [if_pos rfl, h]
    rfl
  · intros
    contradiction
  · intros
    contradiction

theorem spells_bool (b : Bool) : Spells (Json.bool b).compact.toList [.word (.bool b)] := by
  intro rest
  cases b with
  | true => rfl
  | false => rfl

/-- Pieces with a comma and a blank between them. -/
theorem spells_intercalate {α : Type} {piece : α → List Char} {tokens : α → List JsonToken}
    {xs : List α} (h : ∀ x ∈ xs, Spells (piece x) (tokens x)) :
    Spells ([',', ' '].intercalate (xs.map piece)) ([.comma].intercalate (xs.map tokens)) := by
  have hcomma : Spells [',', ' '] [.comma] := (spells_mark rfl).append spells_blank
  induction xs with
  | nil => exact spells_nil
  | cons x xs ih =>
      obtain ⟨hx, hrest⟩ := List.forall_mem_cons.mp h
      cases xs with
      | nil => simpa using hx
      | cons y xs =>
          have hpieces := ih hrest
          simp only [List.map_cons, List.intercalate_cons_cons] at hpieces ⊢
          exact (hx.append hcomma).append hpieces

/-! ## Values -/

def itemTokens (items : List Text) : List JsonToken :=
  [.comma].intercalate (items.map fun t => [.string t])

def Json.tokens : Json → List JsonToken
  | .string t => [.string t]
  | .bool b => [.word (.bool b)]
  | .list items => .openList :: itemTokens items ++ [.closeList]

def Json.value : Json → JsonValue
  | .string t => .string t
  | .bool b => .bool b
  | .list items => .list (items.map .string)

def Json.texts : Json → List Text
  | .string t => [t]
  | .bool _ => []
  | .list items => items

theorem spells_compact {v : Json} (h : ∀ t ∈ v.texts, IsUtf16 t) :
    Spells v.compact.toList v.tokens := by
  cases v with
  | string t => exact spells_string (h t (by simp [Json.texts]))
  | bool b => exact spells_bool b
  | list items =>
      have hitems : Spells ([',', ' '].intercalate (items.map fun t => (jsonString t).toList))
          ([.comma].intercalate (items.map fun t => [.string t])) :=
        spells_intercalate fun t ht => spells_string (h t ht)
      have hlist := ((spells_mark (c := '[') rfl).append hitems).append (spells_mark (c := ']') rfl)
      simpa [Json.compact, Json.tokens, itemTokens, String.toList_intercalate,
        Function.comp_def] using hlist

def memberTokens (m : String × Json) : List JsonToken :=
  .string m.1 :: .colon :: m.2.tokens

def membersTokens (members : List (String × Json)) : List JsonToken :=
  [.comma].intercalate (members.map memberTokens)

/-- What a member says. -/
def memberValue (m : String × Json) : Text × JsonValue :=
  (m.1, m.2.value)

theorem spells_jsonLine {members : List (String × Json)}
    (h : ∀ m ∈ members, ∀ t ∈ m.2.texts, IsUtf16 t) :
    Spells (jsonLine members).toList
      (.openObject :: membersTokens members ++ [.closeObject]) := by
  have hmember : ∀ m ∈ members,
      Spells (jsonString m.1 ++ ": " ++ m.2.compact).toList (memberTokens m) := by
    intro m hm
    have hkey := spells_string (isUtf16_ofString m.1)
    have hcolon := (spells_mark (c := ':') rfl).append spells_blank
    simpa [memberTokens] using (hkey.append hcolon).append (spells_compact (h m hm))
  have hline := ((spells_mark (c := '\x7b') rfl).append (spells_intercalate hmember)).append
    (spells_mark (c := '\x7d') rfl)
  simpa [jsonLine, membersTokens, String.toList_intercalate, Function.comp_def] using hline

/-! ### From tokens to values -/

/-- Tokens with commas between them: the first ones, and the others each behind a comma. -/
theorem commas_cons (x : List JsonToken) (xs : List (List JsonToken)) :
    [JsonToken.comma].intercalate (x :: xs) = x ++ xs.flatMap (.comma :: ·) := by
  induction xs generalizing x with
  | nil => simp
  | cons y xs ih =>
      rw [List.intercalate_cons_cons, ih, List.flatMap_cons, List.append_assoc]
      rfl

theorem itemTokens_cons (t : Text) (ts : List Text) :
    itemTokens (t :: ts) = .string t :: ts.flatMap fun t => [.comma, .string t] := by
  rw [itemTokens, List.map_cons, commas_cons, List.flatMap_map]
  rfl

theorem membersTokens_cons (m : String × Json) (ms : List (String × Json)) :
    membersTokens (m :: ms) = memberTokens m ++ ms.flatMap fun m => .comma :: memberTokens m := by
  rw [membersTokens, List.map_cons, commas_cons, List.flatMap_map]

section Reading

variable (frames : List JsonFrame) (rest : List JsonToken)

/-- The items of an open list behind one of them, up to the end of the list. -/
theorem jsonRest?_items (done : List JsonValue) (v : JsonValue) (ts : List Text) :
    jsonRest? (.list done :: frames) v
        ((ts.flatMap fun t => [.comma, .string t]) ++ .closeList :: rest) =
      jsonRest? frames (.list (done ++ v :: ts.map .string)) rest := by
  induction ts generalizing done v with
  | nil => rfl
  | cons t ts ih =>
      rw [List.flatMap_cons, List.append_assoc, List.cons_append, List.cons_append,
        List.nil_append, jsonRest?, jsonValue?, ih, List.append_assoc]
      rfl

/-- The tokens of a value are read as the value, whatever is open and whatever comes next. -/
theorem jsonValue?_tokens (v : Json) :
    jsonValue? frames (v.tokens ++ rest) = jsonRest? frames v.value rest := by
  cases v with
  | string t => rfl
  | bool b => rfl
  | list items =>
      cases items with
      | nil => rfl
      | cons t ts =>
          rw [Json.tokens, itemTokens_cons]
          show jsonValue? frames
            (.openList :: .string t :: ((ts.flatMap _ ++ [.closeList]) ++ rest)) = _
          rw [List.append_assoc]
          exact jsonRest?_items frames rest [] (.string t) ts

/-- The members of an open object behind one of its values, up to the end of the object. -/
theorem jsonRest?_members (done : List (Text × JsonValue)) (key : Text) (v : JsonValue)
    (ms : List (String × Json)) :
    jsonRest? (.object done key :: frames) v
        ((ms.flatMap fun m => .comma :: memberTokens m) ++ .closeObject :: rest) =
      jsonRest? frames (.object (done ++ (key, v) :: ms.map memberValue)) rest := by
  induction ms generalizing done key v with
  | nil => rfl
  | cons m ms ih =>
      rw [List.flatMap_cons, List.append_assoc]
      show jsonRest? _ _ (.comma :: .string m.1 :: .colon :: (m.2.tokens ++ _)) = _
      rw [jsonRest?, jsonValue?_tokens, ih, List.append_assoc]
      rfl

end Reading

/-- What a line of JSON says is what was written. -/
theorem readJson?_jsonLine {members : List (String × Json)}
    (h : ∀ m ∈ members, ∀ t ∈ m.2.texts, IsUtf16 t) :
    readJson? (jsonLine members).toList = some (.object (members.map memberValue)) := by
  unfold readJson?
  rw [jsonTokens?_of_spells (spells_jsonLine h), Option.bind_some]
  cases members with
  | nil => rfl
  | cons m ms =>
      rw [membersTokens_cons]
      show jsonValue? [] (.openObject :: .string m.1 :: .colon :: ((m.2.tokens ++ _) ++ _)) = _
      rw [jsonValue?, List.append_assoc, jsonValue?_tokens]
      exact jsonRest?_members [] [] [] m.1 m.2.value ms

/-! ## Printable ASCII -/

def IsPrintableAscii (c : Char) : Prop :=
  0x20 ≤ c.toNat ∧ c.toNat < 0x7F

instance (c : Char) : Decidable (IsPrintableAscii c) :=
  inferInstanceAs (Decidable (_ ∧ _))

theorem isPrintableAscii_hexDigit {n : Nat} (h : n < 16) : IsPrintableAscii (hexDigit n) := by
  have hall : ∀ m : Fin 16, IsPrintableAscii (hexDigit m.val) := by decide
  exact hall ⟨n, h⟩

theorem isPrintableAscii_of_mem_hex {width n : Nat} {c : Char} (h : c ∈ hex width n) :
    IsPrintableAscii c := by
  induction width generalizing n with
  | zero => cases h
  | succ width ih =>
      rcases List.mem_append.mp h with h | h
      · exact ih h
      · rw [List.mem_singleton.mp h]
        exact isPrintableAscii_hexDigit (Nat.mod_lt _ (by omega))

theorem isPrintableAscii_of_mem_unitEscape {p : CodePoint} {c : Char} (h : c ∈ unitEscape p) :
    IsPrintableAscii c := by
  obtain ⟨unit, -, hc⟩ := List.mem_flatMap.mp h
  simp only [List.mem_cons] at hc
  rcases hc with rfl | rfl | hc
  · decide
  · decide
  · exact isPrintableAscii_of_mem_hex hc

theorem isPrintableAscii_of_mem_jsonPoint {p : CodePoint} {c : Char} (h : c ∈ jsonPoint p) :
    IsPrintableAscii c := by
  cases p with
  | surrogate index => exact isPrintableAscii_of_mem_unitEscape h
  | char d =>
      have hescaped {letter : Char} (hletter : IsPrintableAscii letter)
          (hmem : c ∈ ['\\', letter]) : IsPrintableAscii c := by
        simp only [List.mem_cons, List.not_mem_nil, or_false] at hmem
        rcases hmem with rfl | rfl
        · decide
        · exact hletter
      simp only [jsonPoint] at h
      split_ifs at h with hquote hbackslash hfeed hreturn htab hform hback hprintable
      · exact hescaped (by decide) h
      · exact hescaped (by decide) h
      · exact hescaped (by decide) h
      · exact hescaped (by decide) h
      · exact hescaped (by decide) h
      · exact hescaped (by decide) h
      · exact hescaped (by decide) h
      · simp only [Bool.and_eq_true, decide_eq_true_eq] at hprintable
        rw [List.mem_singleton.mp h]
        exact ⟨hprintable.1, Nat.lt_succ_of_le hprintable.2⟩
      · exact isPrintableAscii_of_mem_unitEscape h

def InPrintableAscii (s : String) : Prop :=
  ∀ c ∈ s.toList, IsPrintableAscii c

instance (s : String) : Decidable (InPrintableAscii s) :=
  List.decidableBAll IsPrintableAscii s.toList

theorem InPrintableAscii.append {s t : String} (hs : InPrintableAscii s)
    (ht : InPrintableAscii t) : InPrintableAscii (s ++ t) := by
  intro c hc
  rw [String.toList_append, List.mem_append] at hc
  exact hc.elim (hs c) (ht c)

theorem inPrintableAscii_intercalate {separator : String} {pieces : List String}
    (hseparator : InPrintableAscii separator) (h : ∀ piece ∈ pieces, InPrintableAscii piece) :
    InPrintableAscii (separator.intercalate pieces) := by
  unfold InPrintableAscii
  rw [String.toList_intercalate]
  induction pieces with
  | nil => simp
  | cons piece pieces ih =>
      obtain ⟨hpiece, hpieces⟩ := List.forall_mem_cons.mp h
      cases pieces with
      | nil =>
          rw [List.map_cons, List.map_nil, List.intercalate_singleton]
          exact hpiece
      | cons next pieces =>
          rw [List.map_cons, List.map_cons, List.intercalate_cons_cons]
          intro c hc
          simp only [List.mem_append] at hc
          rcases hc with (hc | hc) | hc
          · exact hpiece c hc
          · exact hseparator c hc
          · exact ih hpieces c hc

theorem inPrintableAscii_jsonString (t : Text) : InPrintableAscii (jsonString t) := by
  intro c hc
  simp only [jsonString, String.toList_ofList, List.mem_append, List.mem_cons, List.mem_flatMap,
    List.not_mem_nil, or_false] at hc
  rcases hc with (rfl | ⟨p, -, hc⟩) | rfl
  · decide
  · exact isPrintableAscii_of_mem_jsonPoint hc
  · decide

theorem inPrintableAscii_compact (v : Json) : InPrintableAscii v.compact := by
  cases v with
  | string t => exact inPrintableAscii_jsonString t
  | bool b => cases b <;> decide
  | list items =>
      have hitems : InPrintableAscii (", ".intercalate (items.map jsonString)) :=
        inPrintableAscii_intercalate (by decide)
          (List.forall_mem_map.mpr fun t _ => inPrintableAscii_jsonString t)
      have hopen : InPrintableAscii "[" := by decide
      have hclose : InPrintableAscii "]" := by decide
      exact (hopen.append hitems).append hclose

theorem inPrintableAscii_jsonLine (members : List (String × Json)) :
    InPrintableAscii (jsonLine members) := by
  have hmembers : InPrintableAscii
      (", ".intercalate (members.map fun m => jsonString m.1 ++ ": " ++ m.2.compact)) :=
    inPrintableAscii_intercalate (by decide) <| List.forall_mem_map.mpr fun m _ =>
      ((inPrintableAscii_jsonString m.1).append (by decide)).append (inPrintableAscii_compact m.2)
  have hopen : InPrintableAscii "\x7b" := by decide
  have hclose : InPrintableAscii "\x7d" := by decide
  exact (hopen.append hmembers).append hclose

end TableSync.Text
