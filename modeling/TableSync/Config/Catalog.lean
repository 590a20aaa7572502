import TableSync.Config.Inference

/-!
# Catalogs of properties

A catalog lists the properties that are recognised, each key once.  A property has a default, or
none, a rule that infers its value, or none, and a line of documentation.
-/

namespace TableSync.Config

/-- A recognised property. -/
structure Property where
  key : Text
  default? : Option Text := none
  infer? : Option Inference := none
  documentation : String := ""
deriving DecidableEq, Repr

/-- Properties with distinct keys. -/
structure Catalog where
  properties : List Property
  keys_nodup : (properties.map Property.key).Nodup
deriving DecidableEq, Repr

/-- Two properties have one key. -/
structure DuplicateProperty where
  key : Text
deriving DecidableEq, Repr

def DuplicateProperty.message (d : DuplicateProperty) : Text :=
  "Duplicate config property: " ++ d.key

/-- The first key of a list that stands before in it. -/
def firstRepeated? : List Text → List Text → Option Text
  | _, [] => none
  | seen, key :: keys => if key ∈ seen then some key else firstRepeated? (seen ++ [key]) keys

theorem nodup_of_firstRepeated?_eq_none {seen keys : List Text}
    (hseen : seen.Nodup) (h : firstRepeated? seen keys = none) : (seen ++ keys).Nodup := by
  induction keys generalizing seen with
  | nil => simpa using hseen
  | cons key keys ih =>
      unfold firstRepeated? at h
      split at h
      · simp at h
      · rename_i hkey
        have hseen' : (seen ++ [key]).Nodup := by
          rw [List.nodup_append]
          refine ⟨hseen, by simp, ?_⟩
          intro a ha b hb
          rw [List.mem_singleton] at hb
          intro hab
          exact hkey (hb ▸ hab ▸ ha)
        simpa using ih hseen' h

namespace Catalog

/-- The catalog of a list of properties, unless two of them share a key. -/
def ofProperties? (properties : List Property) : Except DuplicateProperty Catalog :=
  match h : firstRepeated? [] (properties.map Property.key) with
  | some key => .error ⟨key⟩
  | none => .ok ⟨properties, by simpa using nodup_of_firstRepeated?_eq_none List.nodup_nil h⟩

def keys (catalog : Catalog) : List Text :=
  catalog.properties.map Property.key

def find? (catalog : Catalog) (key : Text) : Option Property :=
  catalog.properties.find? fun property => property.key = key

theorem mem_of_find? {catalog : Catalog} {key : Text} {property : Property}
    (h : catalog.find? key = some property) :
    property ∈ catalog.properties ∧ property.key = key :=
  ⟨List.mem_of_find?_eq_some h, by simpa using List.find?_some h⟩

theorem find?_of_mem {catalog : Catalog} {property : Property}
    (h : property ∈ catalog.properties) : catalog.find? property.key = some property := by
  obtain ⟨before, after, hsplit⟩ := List.append_of_mem h
  have hnodup := catalog.keys_nodup
  rw [hsplit, List.map_append, List.nodup_append] at hnodup
  refine List.find?_eq_some_iff_append.mpr ⟨by simp, before, after, hsplit, fun other hother => ?_⟩
  simpa using hnodup.2.2 other.key (List.mem_map_of_mem hother) property.key (by simp)

theorem mem_keys_of_find? {catalog : Catalog} {key : Text} {property : Property}
    (h : catalog.find? key = some property) : key ∈ catalog.keys :=
  List.mem_map.mpr ⟨property, mem_of_find? h⟩

theorem find?_eq_none_iff {catalog : Catalog} {key : Text} :
    catalog.find? key = none ↔ key ∉ catalog.keys := by
  simp [find?, keys]

end Catalog

end TableSync.Config
