import TableSync.Text.CodePoint

/-!
# Property bags

A bag assigns values to keys and keeps its keys in the order in which they first came.  Setting a
key that is present keeps its place and changes its value, so of two assignments to one key the
later wins.
-/

namespace TableSync

/-- Keys with their values, each key once, in order of first assignment. -/
structure PropertyBag (α : Type) where
  entries : List (Text × α)
  keys_nodup : (entries.map Prod.fst).Nodup
deriving DecidableEq, Repr

namespace PropertyBag

variable {α : Type}

/-- Change the value of a key in place, or add the key at the end. -/
def assign (key : Text) (value : α) : List (Text × α) → List (Text × α)
  | [] => [(key, value)]
  | entry :: rest =>
      if entry.1 = key then (key, value) :: rest else entry :: assign key value rest

theorem keys_assign (key : Text) (value : α) (entries : List (Text × α)) :
    (assign key value entries).map Prod.fst =
      if key ∈ entries.map Prod.fst then entries.map Prod.fst
      else entries.map Prod.fst ++ [key] := by
  induction entries with
  | nil => simp [assign]
  | cons entry rest ih =>
      unfold assign
      by_cases h : entry.1 = key
      · simp [h]
      · simp only [h, if_false, List.map_cons, ih, List.mem_cons, Ne.symm h, false_or]
        split <;> simp

theorem nodup_keys_assign {key : Text} {value : α} {entries : List (Text × α)}
    (h : (entries.map Prod.fst).Nodup) :
    ((assign key value entries).map Prod.fst).Nodup := by
  rw [keys_assign]
  split
  · exact h
  · rename_i hkey
    rw [List.nodup_append]
    refine ⟨h, by simp, ?_⟩
    intro a ha b hb
    rw [List.mem_singleton] at hb
    intro hab
    exact hkey (hb ▸ hab ▸ ha)

def empty : PropertyBag α := ⟨[], List.nodup_nil⟩

instance : Inhabited (PropertyBag α) := ⟨empty⟩

/-- The keys in order of first assignment. -/
def keys (bag : PropertyBag α) : List Text :=
  bag.entries.map Prod.fst

def get? (bag : PropertyBag α) (key : Text) : Option α :=
  bag.entries.lookup key

def contains (bag : PropertyBag α) (key : Text) : Bool :=
  (bag.get? key).isSome

/-- Assign a value to a key. -/
def insert (bag : PropertyBag α) (key : Text) (value : α) : PropertyBag α :=
  ⟨assign key value bag.entries, nodup_keys_assign bag.keys_nodup⟩

/-- Assign every pair of a list, in order. -/
def insertAll (bag : PropertyBag α) (pairs : List (Text × α)) : PropertyBag α :=
  pairs.foldl (fun bag pair => bag.insert pair.1 pair.2) bag

/-- The bag that a list of assignments leaves. -/
def ofList (pairs : List (Text × α)) : PropertyBag α :=
  empty.insertAll pairs

/-- Assign every entry of another bag, in its order. -/
def update (bag other : PropertyBag α) : PropertyBag α :=
  bag.insertAll other.entries

def mapValues {β : Type} (f : α → β) (bag : PropertyBag α) : PropertyBag β :=
  ⟨bag.entries.map fun entry => (entry.1, f entry.2), by
    simpa [List.map_map, Function.comp_def] using bag.keys_nodup⟩

theorem lookup_assign (key key' : Text) (value : α) (entries : List (Text × α)) :
    (assign key value entries).lookup key' =
      if key' = key then some value else entries.lookup key' := by
  induction entries with
  | nil =>
      by_cases h : key' = key
      · simp [assign, h]
      · simp [assign, List.lookup_cons, h, beq_false_of_ne h]
  | cons entry rest ih =>
      obtain ⟨k, v⟩ := entry
      unfold assign
      by_cases hk : k = key
      · by_cases h : key' = key
        · simp [hk, h]
        · simp [hk, List.lookup_cons, h, beq_false_of_ne h]
      · by_cases h : key' = k
        · subst h
          simp [hk]
        · simp [hk, List.lookup_cons, beq_false_of_ne h, ih]

theorem get?_eq_none_of_contains {bag : PropertyBag α} {key : Text}
    (h : bag.contains key = false) : bag.get? key = none := by
  simpa [contains] using h

@[simp] theorem get?_empty (key : Text) : (empty : PropertyBag α).get? key = none := rfl

@[simp] theorem get?_insert (bag : PropertyBag α) (key key' : Text) (value : α) :
    (bag.insert key value).get? key' = if key' = key then some value else bag.get? key' :=
  lookup_assign key key' value bag.entries

end PropertyBag

end TableSync
