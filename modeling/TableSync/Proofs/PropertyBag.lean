import Mathlib.Data.List.Induction
import TableSync.PropertyBag
import TableSync.Proofs.Occurrences

/-!
# What assignments leave in a bag

After a sequence of assignments a key has the value of the last one to it, and the keys stand in the
order of their first ones.  These two things are all that there is to a bag.  So to put one bag over
another is to make the assignments that it was made of, and a bag over an empty one is itself.
-/

namespace TableSync

namespace PropertyBag

variable {α : Type} {bag other : PropertyBag α}

/-! ## Keys and values -/

theorem lookup_eq_none_iff_notMem {entries : List (Text × α)} {key : Text} :
    entries.lookup key = none ↔ key ∉ entries.map Prod.fst := by
  rw [List.lookup_eq_none_iff, List.mem_map]
  constructor
  · rintro h ⟨entry, hentry, rfl⟩
    simpa using h entry hentry
  · intro h entry hentry
    simpa using fun hkey => h ⟨entry, hentry, hkey.symm⟩

theorem get?_eq_none_iff {key : Text} : bag.get? key = none ↔ key ∉ bag.keys :=
  lookup_eq_none_iff_notMem

theorem mem_keys_iff {key : Text} : key ∈ bag.keys ↔ ∃ value, bag.get? key = some value := by
  rw [← Option.ne_none_iff_exists', ne_eq, get?_eq_none_iff, not_not]

theorem entries_eq_of_lookup {entries others : List (Text × α)}
    (hnodup : (entries.map Prod.fst).Nodup) (hkeys : entries.map Prod.fst = others.map Prod.fst)
    (hlookup : ∀ key, entries.lookup key = others.lookup key) : entries = others := by
  induction entries generalizing others with
  | nil => exact (List.map_eq_nil_iff.mp hkeys.symm).symm
  | cons entry rest ih =>
      obtain ⟨key, value⟩ := entry
      obtain ⟨hkey, hrest⟩ := List.nodup_cons.mp hnodup
      cases others with
      | nil => cases hkeys
      | cons other more =>
          obtain ⟨key', value'⟩ := other
          obtain ⟨rfl, htails⟩ := List.cons.inj hkeys
          have hvalue : some value = some value' := by simpa using hlookup key
          have hmore : rest = more := by
            refine ih hrest htails fun k => ?_
            by_cases hk : k = key
            · rw [hk, lookup_eq_none_iff_notMem.mpr hkey,
                lookup_eq_none_iff_notMem.mpr (htails ▸ hkey)]
            · simpa [List.lookup_cons, beq_false_of_ne hk] using hlookup k
          rw [Option.some.inj hvalue, hmore]

/-- A bag is known from its keys in their order and from their values. -/
theorem eq_of_keys_of_get? (hkeys : bag.keys = other.keys)
    (hget : ∀ key, bag.get? key = other.get? key) : bag = other := by
  obtain ⟨entries, hnodup⟩ := bag
  obtain ⟨others, hnodup'⟩ := other
  obtain rfl : entries = others := entries_eq_of_lookup hnodup hkeys hget
  rfl

theorem keys_insert_of_mem {key : Text} (h : key ∈ bag.keys) (value : α) :
    (bag.insert key value).keys = bag.keys :=
  (keys_assign key value bag.entries).trans (if_pos h)

theorem keys_insert_of_notMem {key : Text} (h : key ∉ bag.keys) (value : α) :
    (bag.insert key value).keys = bag.keys ++ [key] :=
  (keys_assign key value bag.entries).trans (if_neg h)

/-- Of two assignments to one key the later wins. -/
theorem insert_insert (key : Text) (value later : α) :
    (bag.insert key value).insert key later = bag.insert key later := by
  apply eq_of_keys_of_get?
  · have hkey : key ∈ (bag.insert key value).keys := mem_keys_iff.mpr ⟨value, by simp⟩
    rw [keys_insert_of_mem hkey]
    exact (keys_assign key value _).trans (keys_assign key later _).symm
  · intro k
    rw [get?_insert, get?_insert, get?_insert]
    split <;> rfl

theorem insertAll_append (pairs more : List (Text × α)) :
    bag.insertAll (pairs ++ more) = (bag.insertAll pairs).insertAll more :=
  List.foldl_append

theorem insertAll_concat (pairs : List (Text × α)) (pair : Text × α) :
    bag.insertAll (pairs ++ [pair]) = (bag.insertAll pairs).insert pair.1 pair.2 :=
  insertAll_append pairs [pair]

/-- Keys stand in the order in which they first came. -/
theorem keys_insertAll (pairs : List (Text × α)) :
    (bag.insertAll pairs).keys = (bag.keys ++ pairs.map Prod.fst).eraseDups := by
  induction pairs using List.reverseRecOn with
  | nil =>
      rw [List.map_nil, List.append_nil]
      exact (eraseDups_of_nodup bag.keys_nodup).symm
  | append_singleton pairs pair ih =>
      rw [insertAll_concat, List.map_append, ← List.append_assoc]
      by_cases hkey : pair.1 ∈ bag.keys ++ pairs.map Prod.fst
      · rw [keys_insert_of_mem (ih ▸ List.mem_eraseDups.mpr hkey), ih]
        exact (eraseDups_concat_of_mem hkey).symm
      · rw [keys_insert_of_notMem (ih ▸ mt List.mem_eraseDups.mp hkey), ih]
        exact (eraseDups_concat_of_notMem hkey).symm

/-- A key has the value that it was assigned last. -/
theorem get?_insertAll (pairs : List (Text × α)) (key : Text) :
    (bag.insertAll pairs).get? key = (pairs.reverse.lookup key).or (bag.get? key) := by
  induction pairs using List.reverseRecOn with
  | nil => rfl
  | append_singleton pairs pair ih =>
      rw [insertAll_concat, get?_insert, ih, List.reverse_concat, List.lookup_cons]
      by_cases hkey : key = pair.1
      · simp [hkey]
      · simp [hkey, beq_false_of_ne hkey]

theorem get?_insertAll_eq_some_iff {pairs : List (Text × α)} {key : Text} {value : α} :
    (bag.insertAll pairs).get? key = some value ↔
      IsLast (fun pair => pair.1 = key) pairs (key, value) ∨
        (∀ pair ∈ pairs, pair.1 ≠ key) ∧ bag.get? key = some value := by
  have hlast : pairs.reverse.lookup key = some value ↔
      IsLast (fun pair => pair.1 = key) pairs (key, value) := by
    rw [List.lookup_eq_some_iff]
    simp only [bne_iff_ne]
    constructor
    · rintro ⟨after, before, hpairs, hafter⟩
      refine ⟨before.reverse, after.reverse, ?_, rfl, fun pair hpair => ?_⟩
      · rw [← List.reverse_reverse pairs, hpairs]
        simp
      · exact (hafter pair (List.mem_reverse.mp hpair)).symm
    · rintro ⟨before, after, rfl, -, hafter⟩
      refine ⟨after.reverse, before.reverse, by simp, fun pair hpair => ?_⟩
      exact Ne.symm (hafter pair (List.mem_reverse.mp hpair))
  have hnone : pairs.reverse.lookup key = none ↔ ∀ pair ∈ pairs, pair.1 ≠ key := by
    simp only [List.lookup_eq_none_iff, List.mem_reverse, bne_iff_ne, ne_comm]
  rw [get?_insertAll, Option.or_eq_some_iff, hlast, hnone]

/-! ## One bag over another -/

theorem keys_update : (bag.update other).keys = (bag.keys ++ other.keys).eraseDups :=
  keys_insertAll other.entries

theorem lookup_reverse {entries : List (Text × α)} (h : (entries.map Prod.fst).Nodup)
    (key : Text) : entries.reverse.lookup key = entries.lookup key := by
  induction entries with
  | nil => rfl
  | cons entry rest ih =>
      obtain ⟨hkey, hrest⟩ := List.nodup_cons.mp h
      rw [List.reverse_cons, List.lookup_append, ih hrest, List.lookup_cons, List.lookup_cons,
        List.lookup_nil]
      by_cases hk : key = entry.1
      · subst hk
        simp [lookup_eq_none_iff_notMem.mpr hkey]
      · simp [beq_false_of_ne hk]

theorem get?_update (key : Text) :
    (bag.update other).get? key = (other.get? key).or (bag.get? key) := by
  rw [update, get?_insertAll, lookup_reverse other.keys_nodup]
  rfl

theorem update_insert (key : Text) (value : α) :
    bag.update (other.insert key value) = (bag.update other).insert key value := by
  apply eq_of_keys_of_get?
  · by_cases hother : key ∈ other.keys
    · have hkey : key ∈ (bag.update other).keys := by
        rw [keys_update]
        exact List.mem_eraseDups.mpr (List.mem_append_right _ hother)
      rw [keys_insert_of_mem hkey, keys_update, keys_update, keys_insert_of_mem hother]
    · rw [keys_update, keys_insert_of_notMem hother, ← List.append_assoc]
      by_cases hkey : key ∈ bag.keys ++ other.keys
      · rw [keys_insert_of_mem (keys_update ▸ List.mem_eraseDups.mpr hkey), keys_update]
        exact eraseDups_concat_of_mem hkey
      · rw [keys_insert_of_notMem (keys_update ▸ mt List.mem_eraseDups.mp hkey), keys_update]
        exact eraseDups_concat_of_notMem hkey
  · intro k
    rw [get?_update, get?_insert, get?_insert, get?_update]
    split <;> rfl

/-- To put a bag over another is to make the assignments that it was made of. -/
theorem update_ofList (pairs : List (Text × α)) :
    bag.update (ofList pairs) = bag.insertAll pairs := by
  induction pairs using List.reverseRecOn with
  | nil => rfl
  | append_singleton pairs pair ih =>
      unfold ofList at ih ⊢
      rw [insertAll_concat, update_insert, ih, insertAll_concat]

/-- The assignments of a bag make the bag. -/
theorem ofList_entries : ofList bag.entries = bag := by
  show empty.update bag = bag
  apply eq_of_keys_of_get?
  · rw [keys_update]
    exact eraseDups_of_nodup bag.keys_nodup
  · intro key
    rw [get?_update, get?_empty, Option.or_none]

/-! ## Changed values -/

theorem get?_mapValues {β : Type} (f : α → β) (bag : PropertyBag α) (key : Text) :
    (bag.mapValues f).get? key = (bag.get? key).map f := by
  obtain ⟨entries, hnodup⟩ := bag
  show (entries.map fun entry => (entry.1, f entry.2)).lookup key = (entries.lookup key).map f
  clear hnodup
  induction entries with
  | nil => rfl
  | cons entry rest ih =>
      obtain ⟨k, v⟩ := entry
      by_cases hk : key = k
      · simp [hk]
      · simpa [List.lookup_cons, beq_false_of_ne hk] using ih

end PropertyBag

end TableSync
