import TableSync.Proofs.Partition.DayFailure
import TableSync.Proofs.Partition.Execution

/-!
# Skipping batches

A skipping batch leaves out the paths that are rejected, so only a fault of its extractor can end
it.  Every other path is returned or left out by itself, as it would be alone.
-/

namespace TableSync.Partition

open TableSync.Config

namespace Batch

variable {b : Batch}

/-- A path ends a skipping batch if the extractor fails on it without rejecting it. -/
theorem fault?_of_skipInvalid (hskip : b.skipInvalid = true) {path : String}
    {error : ExtractionError} :
    b.fault? path = some error ↔
      error.isRejection = false ∧ b.extractor.read path = .error error := by
  have hvalues : b.fault? path = some error ↔
      error.isRejection = false ∧ b.valuesOf path = .error error := by
    unfold fault?
    rw [hskip]
    cases b.valuesOf path with
    | ok values => simp
    | error found =>
        show (if found.isRejection = true then _ else _) = _ ↔ _
        by_cases hfound : found.isRejection = true
        · rw [if_pos hfound]
          constructor
          · intro h
            cases h
          · rintro ⟨hkind, h⟩
            cases h
            exact absurd hfound (Bool.eq_false_iff.mp hkind)
        · rw [if_neg hfound]
          constructor
          · intro h
            cases h
            exact ⟨Bool.eq_false_iff.mpr hfound, rfl⟩
          · rintro ⟨-, h⟩
            cases h
            rfl
  rw [hvalues]
  exact and_congr_right valuesOf_fault_iff

theorem fault?_eq_none_of_skipInvalid (hskip : b.skipInvalid = true) {path : String} :
    b.fault? path = none ↔ ¬ b.extractor.FaultsOn path := by
  rw [Option.eq_none_iff_forall_ne_some, PathReader.FaultsOn, not_exists]
  exact forall_congr' fun error => not_congr ((fault?_of_skipInvalid hskip).trans And.comm)

def strict (b : Batch) : Batch :=
  { b with skipInvalid := false }

/-- A strict batch of one path comes to the entry of the path, or to the error. -/
theorem strict_execute_singleton (path : String) :
    (b.strict.execute [path]).1 = (b.valuesOf path).map fun values => [⟨path, values⟩] := by
  unfold execute
  rw [executeBy_fst, List.findSome?_singleton]
  unfold fault?
  have hvalues : b.strict.valuesOf path = b.valuesOf path := rfl
  simp only [List.filterMap_cons, List.filterMap_nil, entry?, hvalues]
  cases b.valuesOf path <;> rfl

/-- The entries of paths are what the paths return alone. -/
theorem filterMap_entry?_eq_flatMap (paths : List String) :
    paths.filterMap b.entry? =
      paths.flatMap fun path => (b.strict.execute [path]).1.toOption.getD [] := by
  induction paths with
  | nil => rfl
  | cons path paths ih =>
      rw [List.filterMap_cons, List.flatMap_cons, ← ih, strict_execute_singleton]
      unfold entry?
      cases b.valuesOf path <;> rfl

/-- A path that ends a skipping batch has the same error alone. -/
theorem fault?_iff_strict_execute (hskip : b.skipInvalid = true) {path : String}
    {error : ExtractionError} :
    b.fault? path = some error ↔
      b.extractor.FaultsOn path ∧ (b.strict.execute [path]).1 = .error error := by
  rw [strict_execute_singleton, map_eq_error_iff, fault?_of_skipInvalid hskip]
  constructor
  · rintro ⟨hkind, hread⟩
    exact ⟨⟨error, hread, hkind⟩, (valuesOf_fault_iff hkind).mpr hread⟩
  · rintro ⟨⟨found, hread, hkind⟩, hvalues⟩
    cases ((valuesOf_fault_iff hkind).mpr hread).symm.trans hvalues
    exact ⟨hkind, hread⟩

end Batch

/-- A skipping batch without oversized days returns, in the order of the paths, what each of them
returns alone in a strict batch.  Otherwise the first oversized day ends the batch, with the error
that it has alone. -/
theorem skipping_outcome (config : SyncConfig) (extractor : Extractor) (workers : Int)
    (schedule : List Nat) (paths : List String) :
    let oversized (path : String) : Prop :=
      extractor = .slashEncodedDay ∧ IsOversizedDay path
    let alone (path : String) := ((⟨config, extractor, false, workers⟩ : Batch).execute [path]).1
    let outcome := ((⟨config, extractor, true, workers⟩ : Batch).executeBy schedule paths).1
    (∀ returned, outcome = .ok returned ↔
      (∀ path ∈ paths, ¬ oversized path) ∧
        returned = paths.flatMap fun path => (alone path).toOption.getD []) ∧
    ∀ error, outcome = .error error ↔
      ∃ before path after, paths = before ++ path :: after ∧
        oversized path ∧ alone path = .error error ∧ ∀ other ∈ before, ¬ oversized other := by
  intro oversized alone outcome
  let b : Batch := ⟨config, extractor, true, workers⟩
  have hfault (path : String) : b.fault? path = none ↔ ¬ oversized path :=
    (Batch.fault?_eq_none_of_skipInvalid rfl).trans (not_congr (faultsOn_iff extractor path))
  have hending (path : String) (error : ExtractionError) :
      b.fault? path = some error ↔ oversized path ∧ alone path = .error error :=
    (Batch.fault?_iff_strict_execute rfl).trans
      (and_congr_left' (faultsOn_iff extractor path))
  constructor
  · intro returned
    have hentries : paths.filterMap b.entry? =
        paths.flatMap fun path => (alone path).toOption.getD [] :=
      Batch.filterMap_entry?_eq_flatMap paths
    rw [← hentries]
    refine Batch.executeBy_eq_ok_iff.trans (and_congr_left' ?_)
    exact forall₂_congr fun path _ => hfault path
  · intro error
    refine Batch.executeBy_eq_error_iff.trans ?_
    refine exists_congr fun before => exists_congr fun path => exists_congr fun after => ?_
    refine and_congr_right' ((and_congr (hending path error) ?_).trans and_assoc)
    exact forall₂_congr fun other _ => hfault other

/-- A word is left out, and a year beyond machine integers is not. -/
theorem skipping_outcome_days :
    ((⟨{}, Extractor.slashEncodedDay, true, 2⟩ : Batch).executeBy [1, 0]
      ["today", "2024/01/15"]).1 = .ok [⟨"2024/01/15", ["2024-01-15"]⟩] ∧
    ((⟨{}, Extractor.slashEncodedDay, true, 1⟩ : Batch).executeBy []
      ["2024/01/15", "99999999999/1/1"]).1 = .error (.overflow .int) := by
  constructor
  · exact ((skipping_outcome {} .slashEncodedDay 2 [1, 0] _).1 _).mpr
      ⟨by decide +kernel, by decide +kernel⟩
  · exact ((skipping_outcome {} .slashEncodedDay 1 [] _).2 _).mpr
      ⟨["2024/01/15"], "99999999999/1/1", [], rfl, by decide +kernel, by rfl, by decide +kernel⟩

end TableSync.Partition
