import TableSync.Config.SyncConfig
import TableSync.Notice
import TableSync.Partition.Extractor

/-!
# Batches of paths

Extraction of the values of many paths.  A strict batch ends at the first path that fails; a
skipping one leaves rejected paths out and reports them, while the other faults end it all the
same.  Several workers may take up the paths of a batch in any order; the results are still put
together in the order of the paths.
-/

namespace TableSync.Partition

open TableSync.Config

structure PartitionValues where
  path : String
  values : List String
deriving DecidableEq, Repr

/-- What a batch is run with. -/
structure Batch where
  config : SyncConfig
  extractor : PathReader
  skipInvalid : Bool := false
  workers : Int := 1

/-- What is known of a path once it has been tried: its values or that it was left out, or an
error; and what was reported. -/
structure Attempt where
  outcome : Except ExtractionError (Option PartitionValues)
  notices : List Notice

namespace Batch

/-- The values of a path, as many as there are declared fields if any are declared. -/
def valuesOf (b : Batch) (path : String) : Except ExtractionError (List String) := do
  let values ← b.extractor.read path
  let fields := b.config.partitionFields
  if fields ≠ [] ∧ values.length ≠ fields.length then
    throw (.rejected ⟨path, b.extractor.name, .wrongValueCount values.length fields⟩)
  return values

def attempt (b : Batch) (path : String) : Attempt :=
  match b.valuesOf path with
  | .ok values => ⟨.ok (some ⟨path, values⟩), []⟩
  | .error (.rejected rejection) =>
      if b.skipInvalid then ⟨.ok none, [.skipping rejection]⟩
      else ⟨.error (.rejected rejection), []⟩
  | .error error => ⟨.error error, []⟩

/-- Try paths one after the other, up to the first error. -/
def sequential (b : Batch) :
    List String → Except ExtractionError (List (Option PartitionValues)) × List Notice
  | [] => (.ok [], [])
  | path :: paths =>
      let first := b.attempt path
      match first.outcome with
      | .error error => (.error error, first.notices)
      | .ok result =>
          let rest := b.sequential paths
          (rest.1.map (result :: ·), first.notices ++ rest.2)

/-- Try paths in the order of a schedule of positions, and put the results together in the order
of the paths; the first error in that order counts. -/
def scheduled (b : Batch) (schedule : List Nat) (paths : List String) :
    Except ExtractionError (List (Option PartitionValues)) × List Notice :=
  let attempts := paths.map b.attempt
  (attempts.mapM Attempt.outcome,
    schedule.flatMap fun i => (attempts[i]?.map Attempt.notices).getD [])

/-- Whether the paths are given to several workers. -/
def isParallel (b : Batch) (paths : List String) : Bool :=
  1 < b.workers && 1 < paths.length

/-- What a batch comes to once its paths have been tried: the values of the paths that were not left
out, or the error. -/
def conclude (b : Batch) (paths : List String)
    (tried : Except ExtractionError (List (Option PartitionValues)) × List Notice) :
    Except ExtractionError (List PartitionValues) × List Notice :=
  let opening : Notice :=
    .extracting paths.length b.config.database b.config.table b.extractor.name
  match tried.1 with
  | .error error => (.error error, opening :: tried.2)
  | .ok results =>
      let kept := results.filterMap id
      let left := paths.length - kept.length
      let summary : List Notice := if left = 0 then [] else [.skipped left paths.length]
      (.ok kept, opening :: tried.2 ++ summary ++ [.extracted kept.length])

/-- Extract the values of paths, the workers, if there are several, following a schedule. -/
def executeBy (b : Batch) (schedule : List Nat) (paths : List String) :
    Except ExtractionError (List PartitionValues) × List Notice :=
  b.conclude paths (if b.isParallel paths then b.scheduled schedule paths else b.sequential paths)

/-- Extract the values of paths, the workers taking them up in their order. -/
def execute (b : Batch) (paths : List String) :
    Except ExtractionError (List PartitionValues) × List Notice :=
  b.executeBy (List.range paths.length) paths

end Batch

end TableSync.Partition
