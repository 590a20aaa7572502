import TableSync.Document.Flatten
import TableSync.Proofs.PropertyBag
import TableSync.Proofs.Text.Pieces

/-!
# The leaves of nested maps

A nested map has a leaf wherever something else than a map stands in it, and the keys on the way
from the root to a leaf are its path.  Flattening assigns the texts of the leaves to their paths
joined by dots, in the order of the document.  Nothing else comes of how the keys are distributed
over maps: a key with dots and the keys between them, each in a map of its own, are one path, and a
map without leaves leaves no trace.
-/

namespace TableSync.Document

open TableSync.Config TableSync.Text

/-! ## Leaves -/

/-- A leaf of a nested map, with the keys on the way to it from the root. -/
structure Leaf where
  path : List Value
  value : Value

/-- A leaf as it is seen from one map further out. -/
def Leaf.below (key : Value) (leaf : Leaf) : Leaf :=
  ⟨key :: leaf.path, leaf.value⟩

mutual

/-- The leaves of a value in the order of the document; what is no map is a leaf itself. -/
def Value.leaves : Value → List Leaf
  | .map entries => entryLeaves entries
  | v => [⟨[], v⟩]

def entryLeaves : List (Value × Value) → List Leaf
  | [] => []
  | (key, value) :: rest => value.leaves.map (Leaf.below key) ++ entryLeaves rest

end

/-- The keys of a path as texts, joined by dots.  Where nothing stands before them, the leading
empty ones are left out. -/
def dotted (start : Text) (path : List Value) : Text :=
  Text.joined "." (if start = [] then (path.map Value.plain).dropWhile (· = [])
    else path.map Value.plain)

/-- The key under which a leaf is found. -/
def leafKey (start : Text) (path : List Value) : Text :=
  if start = [] then dotted start path else start ++ "." ++ dotted start path

def Leaf.assignment (start : Text) (leaf : Leaf) : Text × Text :=
  (leafKey start leaf.path, leaf.value.propertyText)

def Value.IsLeaf (v : Value) : Prop :=
  ∀ entries, v ≠ .map entries

theorem leaves_of_isLeaf {v : Value} (h : v.IsLeaf) : v.leaves = [⟨[], v⟩] := by
  rw [Value.leaves]
  exact h

theorem entryLeaves_append (entries more : List (Value × Value)) :
    entryLeaves (entries ++ more) = entryLeaves entries ++ entryLeaves more := by
  induction entries with
  | nil => rfl
  | cons entry rest ih =>
      rw [List.cons_append, entryLeaves, entryLeaves, ih, List.append_assoc]

/-! ## Keys step by step -/

/-- The path of a leaf as flattening joins it on its way to the leaf. -/
def keyDown (start : Text) (path : List Value) : Text :=
  path.foldl keyBelow start

def Leaf.assignmentDown (start : Text) (leaf : Leaf) : Text × Text :=
  (keyDown start leaf.path, leaf.value.propertyText)

theorem keyDown_of_ne_nil {start : Text} (h : start ≠ []) (key : Value) (path : List Value) :
    keyDown start (key :: path) =
      start ++ "." ++ Text.joined "." ((key :: path).map Value.plain) := by
  induction path generalizing start key with
  | nil =>
      show keyBelow start key = _
      rw [keyBelow, if_neg h]
      simp [Text.joined]
  | cons next path ih =>
      have hbelow : keyBelow start key = start ++ "." ++ key.plain := if_neg h
      show keyDown (keyBelow start key) (next :: path) = _
      rw [ih (by simp [hbelow, h]), hbelow, List.map_cons, List.map_cons, List.map_cons,
        joined_cons_cons]
      simp only [List.append_assoc]

/-- Behind a start, all keys of a path are kept. -/
theorem leafKey_of_ne_nil {start : Text} (h : start ≠ []) (path : List Value) :
    leafKey start path = start ++ "." ++ Text.joined "." (path.map Value.plain) := by
  unfold leafKey dotted
  rw [if_neg h, if_neg h]

theorem leafKey_nil (path : List Value) :
    leafKey [] path = Text.joined "." ((path.map Value.plain).dropWhile (· = [])) := by
  unfold leafKey dotted
  rw [if_pos rfl, if_pos rfl]

theorem keyDown_nil (path : List Value) : keyDown [] path = leafKey [] path := by
  induction path with
  | nil => rfl
  | cons key path ih =>
      show keyDown key.plain path = _
      by_cases hkey : key.plain = []
      · rw [hkey, ih, leafKey_nil, leafKey_nil, List.map_cons,
          List.dropWhile_cons_of_pos (by simpa using hkey)]
      · rw [leafKey_nil, List.map_cons, List.dropWhile_cons_of_neg (by simpa using hkey)]
        cases path with
        | nil => simp [keyDown, Text.joined]
        | cons next path => rw [keyDown_of_ne_nil hkey, List.map_cons, joined_cons_cons]

theorem keyDown_eq_leafKey (start : Text) {path : List Value} (h : path ≠ []) :
    keyDown start path = leafKey start path := by
  by_cases hstart : start = []
  · rw [hstart, keyDown_nil]
  · obtain ⟨key, rest, rfl⟩ := List.exists_cons_of_ne_nil h
    rw [keyDown_of_ne_nil hstart, leafKey_of_ne_nil hstart]

theorem path_ne_nil_of_mem_entryLeaves {entries : List (Value × Value)} {leaf : Leaf}
    (h : leaf ∈ entryLeaves entries) : leaf.path ≠ [] := by
  induction entries with
  | nil => cases h
  | cons entry rest ih =>
      rw [entryLeaves] at h
      rcases List.mem_append.mp h with h | h
      · obtain ⟨inner, -, rfl⟩ := List.mem_map.mp h
        exact List.cons_ne_nil _ _
      · exact ih h

/-! ## Flattening as a sequence of assignments -/

theorem flattenValue_of_isLeaf {v : Value} (h : v.IsLeaf) (bag : PropertyBag Text) (key : Text) :
    flattenValue bag key v = bag.insertAll (v.leaves.map (Leaf.assignmentDown key)) := by
  rw [flattenValue, leaves_of_isLeaf h]
  · rfl
  · exact h

mutual

theorem flattenValue_eq_insertAll (bag : PropertyBag Text) (key : Text) (v : Value) :
    flattenValue bag key v =
      bag.insertAll (v.leaves.map (Leaf.assignmentDown key)) := by
  cases v with
  | map entries =>
      rw [flattenValue, flattenEntries_eq_insertAll, Value.leaves]
      exact PropertyBag.update_ofList _
  | _ =>
      refine flattenValue_of_isLeaf ?_ bag key
      intro _ h
      cases h

theorem flattenEntries_eq_insertAll (bag : PropertyBag Text) (path : Text)
    (entries : List (Value × Value)) :
    flattenEntries bag path entries =
      bag.insertAll ((entryLeaves entries).map (Leaf.assignmentDown path)) := by
  cases entries with
  | nil => rfl
  | cons entry rest =>
      obtain ⟨key, value⟩ := entry
      rw [flattenEntries, flattenEntries_eq_insertAll, flattenValue_eq_insertAll, entryLeaves,
        List.map_append, PropertyBag.insertAll_append, List.map_map]
      rfl

end

/-- Flattening makes an assignment for each leaf, in the order of the document. -/
theorem flatten_eq_ofList (entries : List (Value × Value)) (start : Text) :
    flatten entries start = .ofList ((entryLeaves entries).map (Leaf.assignment start)) := by
  rw [flatten, flattenEntries_eq_insertAll]
  refine congrArg PropertyBag.ofList (List.map_congr_left fun leaf hleaf => ?_)
  rw [Leaf.assignmentDown, keyDown_eq_leafKey start (path_ne_nil_of_mem_entryLeaves hleaf)]
  rfl

/-! ## What is read off the leaves -/

section Leaves

variable {entries : List (Value × Value)} {start : Text}

theorem keys_flatten :
    (flatten entries start).keys =
      ((entryLeaves entries).map fun leaf => leafKey start leaf.path).eraseDups := by
  rw [flatten_eq_ofList, PropertyBag.ofList, PropertyBag.keys_insertAll, List.map_map]
  rfl

theorem get?_flatten_eq_some_iff {key text : Text} :
    (flatten entries start).get? key = some text ↔
      ∃ leaf, IsLast (fun leaf => leafKey start leaf.path = key) (entryLeaves entries) leaf ∧
        leaf.value.propertyText = text := by
  rw [flatten_eq_ofList, PropertyBag.ofList, PropertyBag.get?_insertAll_eq_some_iff,
    isLast_map_iff, PropertyBag.get?_empty]
  constructor
  · rintro (⟨leaf, hlast, hleaf⟩ | ⟨-, hempty⟩)
    · exact ⟨leaf, hlast, (Prod.mk.inj hleaf).2⟩
    · cases hempty
  · rintro ⟨leaf, hlast, rfl⟩
    obtain ⟨-, -, -, hkey, -⟩ := id hlast
    exact .inl ⟨leaf, hlast, Prod.ext hkey rfl⟩

theorem flatten_append (more : List (Value × Value)) :
    flatten (entries ++ more) start =
      (flatten entries start).insertAll ((entryLeaves more).map (Leaf.assignment start)) := by
  rw [flatten_eq_ofList, flatten_eq_ofList, entryLeaves_append, List.map_append]
  exact PropertyBag.insertAll_append _ _

end Leaves

/-! ### Keys with dots -/

/-- A value at the end of some keys, each of which stands in a map of its own. -/
def nested : List Value → Value → Value
  | [], v => v
  | key :: keys, v => .map [(key, nested keys v)]

theorem leaves_nested {v : Value} (h : v.IsLeaf) (keys : List Value) :
    (nested keys v).leaves = [⟨keys, v⟩] := by
  induction keys with
  | nil => exact leaves_of_isLeaf h
  | cons key keys ih =>
      rw [nested, Value.leaves, entryLeaves, ih]
      rfl

theorem dotted_text (start text : Text) : dotted start [.text text] = text := by
  have hplain : Value.plain (.text text) = text := rfl
  unfold dotted
  rw [List.map_singleton, hplain]
  split
  · by_cases htext : text = []
    · simp [htext, Text.joined]
    · simp [htext, Text.joined]
  · simp [Text.joined]

theorem assignment_text (key text : Text) :
    Leaf.assignment [] ⟨[.text key], .text text⟩ = (key, text) := by
  have hkey : leafKey [] [.text key] = key := dotted_text [] key
  rw [Leaf.assignment, hkey]
  rfl

/-- A key with dots stands where the keys between its dots lead. -/
theorem leafKey_dotted (start : Text) (path : List Value) :
    leafKey start [.text (dotted start path)] = leafKey start path := by
  unfold leafKey
  rw [dotted_text]

theorem entryLeaves_nested {v : Value} (h : v.IsLeaf) (key : Value) (keys : List Value) :
    entryLeaves [(key, nested keys v)] = [⟨key :: keys, v⟩] := by
  rw [entryLeaves, leaves_nested h]
  rfl

/-! ### Flat maps -/

/-- A bag as a map of texts. -/
def bagEntries (bag : PropertyBag Text) : List (Value × Value) :=
  bag.entries.map fun entry => (.text entry.1, .text entry.2)

theorem entryLeaves_texts (pairs : List (Text × Text)) :
    entryLeaves (pairs.map fun pair => (.text pair.1, .text pair.2)) =
      pairs.map fun pair => ⟨[.text pair.1], .text pair.2⟩ := by
  induction pairs with
  | nil => rfl
  | cons pair rest ih =>
      rw [List.map_cons, entryLeaves, ih]
      rfl

theorem flatten_bagEntries (bag : PropertyBag Text) : flatten (bagEntries bag) = bag := by
  have hsame : (bag.entries.map fun pair => (⟨[.text pair.1], .text pair.2⟩ : Leaf)).map
      (Leaf.assignment []) = bag.entries.map id := by
    rw [List.map_map]
    exact List.map_congr_left fun pair _ => assignment_text pair.1 pair.2
  rw [List.map_id] at hsame
  rw [flatten_eq_ofList, bagEntries, entryLeaves_texts, hsame, PropertyBag.ofList_entries]

/-! ### Maps without leaves -/

mutual

/-- A value without the maps inside it that have no leaves. -/
def Value.pruned : Value → Value
  | .map entries => .map (prunedEntries entries)
  | v => v

/-- Entries without the maps among and inside them that have no leaves. -/
def prunedEntries : List (Value × Value) → List (Value × Value)
  | [] => []
  | (key, value) :: rest =>
      if value.leaves.isEmpty then prunedEntries rest
      else (key, value.pruned) :: prunedEntries rest

end

theorem pruned_of_isLeaf {v : Value} (h : v.IsLeaf) : v.pruned = v := by
  rw [Value.pruned]
  exact h

mutual

theorem leaves_pruned (v : Value) : v.pruned.leaves = v.leaves := by
  cases v with
  | map entries => rw [Value.pruned, Value.leaves, Value.leaves, entryLeaves_pruned]
  | _ =>
      rw [pruned_of_isLeaf]
      intro _ h
      cases h

theorem entryLeaves_pruned (entries : List (Value × Value)) :
    entryLeaves (prunedEntries entries) = entryLeaves entries := by
  cases entries with
  | nil => rfl
  | cons entry rest =>
      obtain ⟨key, value⟩ := entry
      rw [prunedEntries, entryLeaves]
      split
      · rename_i hempty
        rw [List.isEmpty_iff.mp hempty, entryLeaves_pruned rest]
        rfl
      · rw [entryLeaves, leaves_pruned value, entryLeaves_pruned rest]

end

/-- Flattening gives the keys of the leaves in the order in which they first come, and each of them
the text of the last leaf that it stands for.  Of a key with dots and the keys between its dots,
each in a map of its own, the later one wins.  Maps without leaves leave no trace.  And what has
been flattened stays as it is when it is flattened again. -/
theorem flatten_computes_leaf_map (entries : List (Value × Value)) (start : Text) :
    let bag := flatten entries start
    bag.keys = ((entryLeaves entries).map fun leaf => leafKey start leaf.path).eraseDups ∧
    (∀ key text, bag.get? key = some text ↔
      ∃ leaf, IsLast (fun leaf => leafKey start leaf.path = key) (entryLeaves entries) leaf ∧
        leaf.value.propertyText = text) ∧
    (∀ key keys v w, v.IsLeaf → w.IsLeaf →
      let single := (.text (dotted start (key :: keys)), v)
      let spread := (key, nested keys w)
      let place := leafKey start (key :: keys)
      flatten (entries ++ [single, spread]) start = bag.insert place w.propertyText ∧
        flatten (entries ++ [spread, single]) start = bag.insert place v.propertyText) ∧
    flatten (prunedEntries entries) start = bag ∧
    flatten (bagEntries bag) = bag := by
  intro bag
  refine ⟨keys_flatten, fun _ _ => get?_flatten_eq_some_iff, fun key keys v w hv hw => ?_, ?_,
    flatten_bagEntries bag⟩
  · intro single spread place
    have hsingle : (entryLeaves [single]).map (Leaf.assignment start) =
        [(place, v.propertyText)] := by
      have hleaves : entryLeaves [single] = [⟨[.text (dotted start (key :: keys))], v⟩] :=
        entryLeaves_nested hv _ []
      rw [hleaves, List.map_singleton, Leaf.assignment, leafKey_dotted]
    have hspread : (entryLeaves [spread]).map (Leaf.assignment start) =
        [(place, w.propertyText)] := by
      rw [entryLeaves_nested hw key keys]
      rfl
    have hboth (one other : Value × Value) :
        flatten (entries ++ [one, other]) start =
          (bag.insertAll ((entryLeaves [one]).map (Leaf.assignment start))).insertAll
            ((entryLeaves [other]).map (Leaf.assignment start)) := by
      rw [← flatten_append, ← flatten_append, List.append_assoc]
      rfl
    constructor
    · rw [hboth, hsingle, hspread]
      exact PropertyBag.insert_insert _ _ _
    · rw [hboth, hsingle, hspread]
      exact PropertyBag.insert_insert _ _ _
  · rw [flatten_eq_ofList, entryLeaves_pruned, ← flatten_eq_ofList]

/-- Keys that are written alike, an empty key at the root and below it, maps without leaves, and a
key with a dot before the map that it leads into. -/
theorem flatten_computes_leaf_map_of_oddities :
    flatten
        ([(.int 1, .bool true), (.text "", .map [(.text "x", .null), (.text "y", .map [])]),
          (.text "1", .list [.text "p", .tuple [], .int 2])] ++
          [(.text "x..z", .text "old"),
            (.text "x", .map [(.text "", .map [(.text "z", .text "new")])])]) =
      .ofList [("1", "p,,2"), ("x", ""), ("x..z", "new")] := by
  refine ((flatten_computes_leaf_map _ []).2.2.1 (.text "x") [.text "", .text "z"] (.text "old")
    (.text "new") ?_ ?_).1.trans ?_
  · intro _ h
    cases h
  · intro _ h
    cases h
  · decide +kernel

end TableSync.Document
