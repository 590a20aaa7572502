import TableSync.Partition.Batch
import TableSync.Proofs.Partition.Fault

/-!
# What a batch comes to

However many workers take up the paths of a batch, and in whatever order, the batch comes to what
its paths come to one by one: the first path in the order of the paths that ends the batch decides
the error, and where no path does, the entries of the paths are returned in this order.
-/

namespace TableSync.Partition.Batch

/-- What a path gives to the results. -/
def entry? (b : Batch) (path : String) : Option PartitionValues :=
  match b.valuesOf path with
  | .ok values => some ⟨path, values⟩
  | .error _ => none

/-- The error with which a path ends the batch. -/
def fault? (b : Batch) (path : String) : Option ExtractionError :=
  match b.valuesOf path with
  | .ok _ => none
  | .error error => if b.skipInvalid && error.isRejection then none else some error

section Outcome

variable {b : Batch}

/-- The values of a path are those that the extractor reads, if they line up with the fields. -/
theorem valuesOf_eq_ok_iff {path : String} {values : List String} :
    b.valuesOf path = .ok values ↔
      b.extractor.read path = .ok values ∧
        (b.config.partitionFields ≠ [] → values.length = b.config.partitionFields.length) := by
  unfold valuesOf
  cases b.extractor.read path with
  | error error => simp [bind, Except.bind]
  | ok read =>
      show (if _ then _ else _) = _ ↔ _
      split
      · rename_i hcount
        constructor
        · intro h
          cases h
        · rintro ⟨h, hlength⟩
          cases h
          exact absurd (hlength hcount.1) hcount.2
      · rename_i hcount
        constructor
        · intro h
          cases h
          exact ⟨rfl, fun hfields => by simpa [hfields] using hcount⟩
        · rintro ⟨h, -⟩
          cases h
          rfl

/-- A fault of the extractor is none of the count of values. -/
theorem valuesOf_fault_iff {path : String} {error : ExtractionError}
    (herror : error.isRejection = false) :
    b.valuesOf path = .error error ↔ b.extractor.read path = .error error := by
  unfold valuesOf
  cases b.extractor.read path with
  | error found => exact Iff.rfl
  | ok read =>
      show (if _ then _ else _) = _ ↔ _
      split
      · constructor
        · intro h
          cases h
          cases herror
        · intro h
          cases h
      · constructor
        · intro h
          cases h
        · intro h
          cases h

/-- A fault of the extractor ends every batch, skipping or not. -/
theorem fault?_of_fault {path : String} {error : ExtractionError}
    (herror : error.isRejection = false) :
    b.fault? path = some error ↔ b.extractor.read path = .error error := by
  rw [← valuesOf_fault_iff herror]
  unfold fault?
  cases b.valuesOf path with
  | ok values => simp
  | error found =>
      constructor
      · intro h
        dsimp only at h
        split at h
        · cases h
        · exact congrArg Except.error (Option.some.inj h)
      · intro h
        cases h
        simp [herror]

theorem attempt_outcome (path : String) :
    (b.attempt path).outcome =
      match b.fault? path with
      | some error => .error error
      | none => .ok (b.entry? path) := by
  unfold attempt fault? entry?
  cases b.valuesOf path with
  | ok values => rfl
  | error error => cases error <;> cases b.skipInvalid <;> rfl

/-- One path after the other, or all of them first and the results put together after: the outcome
is the same. -/
theorem sequential_eq_mapM (paths : List String) :
    (b.sequential paths).1 = paths.mapM fun path => (b.attempt path).outcome := by
  induction paths with
  | nil => rfl
  | cons path paths ih =>
      rw [List.mapM_cons, ← ih, sequential]
      cases (b.attempt path).outcome with
      | error error => rfl
      | ok result =>
          show (b.sequential paths).1.map _ = (b.sequential paths).1 >>= _
          cases (b.sequential paths).1 <;> rfl

theorem scheduled_eq_mapM (schedule : List Nat) (paths : List String) :
    (b.scheduled schedule paths).1 = paths.mapM fun path => (b.attempt path).outcome := by
  show (paths.map b.attempt).mapM Attempt.outcome = _
  rw [List.mapM_map]
  rfl

theorem mapM_outcome (paths : List String) :
    (paths.mapM fun path => (b.attempt path).outcome) =
      match paths.findSome? b.fault? with
      | some error => .error error
      | none => .ok (paths.map b.entry?) := by
  induction paths with
  | nil => rfl
  | cons path paths ih =>
      rw [List.mapM_cons, ih, attempt_outcome, List.findSome?_cons]
      cases b.fault? path with
      | some error => rfl
      | none => cases paths.findSome? b.fault? <;> rfl

/-- The outcome of a batch, by its paths one by one. -/
theorem executeBy_fst (schedule : List Nat) (paths : List String) :
    (b.executeBy schedule paths).1 =
      match paths.findSome? b.fault? with
      | some error => .error error
      | none => .ok (paths.filterMap b.entry?) := by
  have hboth : (if b.isParallel paths then b.scheduled schedule paths
      else b.sequential paths).1 =
        match paths.findSome? b.fault? with
        | some error => .error error
        | none => .ok (paths.map b.entry?) := by
    rw [← mapM_outcome]
    split
    · exact scheduled_eq_mapM schedule paths
    · exact sequential_eq_mapM paths
  unfold executeBy conclude
  generalize (if b.isParallel paths then b.scheduled schedule paths
    else b.sequential paths) = tried at hboth
  obtain ⟨outcome, notices⟩ := tried
  subst hboth
  cases paths.findSome? b.fault? with
  | some error => rfl
  | none => simp [List.filterMap_map]

theorem executeBy_eq_ok_iff {schedule : List Nat} {paths : List String}
    {returned : List PartitionValues} :
    (b.executeBy schedule paths).1 = .ok returned ↔
      (∀ path ∈ paths, b.fault? path = none) ∧ returned = paths.filterMap b.entry? := by
  rw [executeBy_fst, ← List.findSome?_eq_none_iff]
  cases paths.findSome? b.fault? with
  | some error => simp
  | none => simp [eq_comm]

theorem executeBy_eq_error_iff {schedule : List Nat} {paths : List String}
    {error : ExtractionError} :
    (b.executeBy schedule paths).1 = .error error ↔
      ∃ before path after, paths = before ++ path :: after ∧
        b.fault? path = some error ∧ ∀ other ∈ before, b.fault? other = none := by
  rw [executeBy_fst, ← List.findSome?_eq_some_iff]
  cases paths.findSome? b.fault? with
  | some found => simp
  | none => simp

/-- Every entry that is returned has the values of its path, which is one of the paths. -/
theorem valuesOf_of_mem_returned {schedule : List Nat} {paths : List String}
    {returned : List PartitionValues} {result : PartitionValues}
    (h : (b.executeBy schedule paths).1 = .ok returned) (hmem : result ∈ returned) :
    result.path ∈ paths ∧ b.valuesOf result.path = .ok result.values := by
  obtain ⟨-, rfl⟩ := executeBy_eq_ok_iff.mp h
  obtain ⟨path, hpath, hentry⟩ := List.mem_filterMap.mp hmem
  unfold entry? at hentry
  split at hentry
  · rename_i values hvalues
    cases hentry
    exact ⟨hpath, hvalues⟩
  · cases hentry

end Outcome

end TableSync.Partition.Batch
