import TableSync.Proofs.Partition.Skipping
import TableSync.Proofs.Partition.Workers

/-!
# Strict and skipping batches

Both kinds of batch try the same paths in the same order, and a path has the same values in both.
They part only where a path is rejected: there a strict batch ends with the error that the path has
by itself, and a skipping one leaves the path out and warns of that error.  Everything follows from
what single paths come to, because a batch is put together from them.
-/

namespace TableSync.Partition.Batch

open TableSync.Text

variable {b : Batch} {paths : List String}

def skipping (b : Batch) : Batch :=
  { b with skipInvalid := true }

/-- The error that a path has by itself, in a strict batch of no other path. -/
def errorAlone? (b : Batch) (path : String) : Option ExtractionError :=
  match (b.strict.execute [path]).1 with
  | .ok _ => none
  | .error error => some error

/-! ### Paths by themselves -/

theorem errorAlone?_eq (path : String) :
    b.errorAlone? path =
      match b.valuesOf path with
      | .ok _ => none
      | .error error => some error := by
  unfold errorAlone?
  rw [strict_execute_singleton]
  cases b.valuesOf path <;> rfl

theorem fault?_strict (path : String) : b.strict.fault? path = b.errorAlone? path := by
  rw [errorAlone?_eq]
  rfl

theorem valuesOf_of_errorAlone?_eq_none {path : String} (h : b.errorAlone? path = none) :
    ∃ values, b.valuesOf path = .ok values := by
  rw [errorAlone?_eq] at h
  cases hvalues : b.valuesOf path with
  | ok values => exact ⟨values, rfl⟩
  | error error =>
      rw [hvalues] at h
      cases h

/-- A path without an error of its own is tried alike in both kinds of batch. -/
theorem attempt_skipping {path : String} (h : b.errorAlone? path = none) :
    b.skipping.attempt path = b.strict.attempt path := by
  obtain ⟨values, hvalues⟩ := valuesOf_of_errorAlone?_eq_none h
  have hskipping : b.skipping.valuesOf path = .ok values := hvalues
  have hstrict : b.strict.valuesOf path = .ok values := hvalues
  unfold attempt
  rw [hskipping, hstrict]

/-- A path gives either an entry or an error of its own. -/
theorem entry?_isSome (path : String) :
    (b.entry? path).isSome = (b.errorAlone? path).isNone := by
  rw [errorAlone?_eq]
  unfold entry?
  cases b.valuesOf path <;> rfl

theorem length_entries_add_length_errors (paths : List String) :
    (paths.filterMap b.entry?).length + (paths.filterMap b.errorAlone?).length = paths.length := by
  induction paths with
  | nil => rfl
  | cons path paths ih =>
      have hone := entry?_isSome (b := b) path
      rw [List.filterMap_cons, List.filterMap_cons, List.length_cons]
      cases hentry : b.entry? path with
      | none =>
          obtain ⟨error, herror⟩ : ∃ error, b.errorAlone? path = some error := by
            simpa [hentry, Option.isSome_iff_exists] using hone
          rw [herror]
          dsimp only [List.length_cons]
          omega
      | some entry =>
          have herror : b.errorAlone? path = none := by simpa [hentry] using hone
          rw [herror]
          dsimp only [List.length_cons]
          omega

/-! ### Batches from their paths -/

theorem execute_fst (paths : List String) :
    (b.execute paths).1 =
      match paths.findSome? b.fault? with
      | some error => .error error
      | none => .ok (paths.filterMap b.entry?) :=
  executeBy_fst _ paths

/-- A batch of two lists of paths comes to what the two come to one behind the other. -/
theorem execute_append (paths others : List String) :
    (b.execute (paths ++ others)).1 = do
      let first ← (b.execute paths).1
      let rest ← (b.execute others).1
      return first ++ rest := by
  rw [execute_fst, execute_fst, execute_fst, List.findSome?_append, List.filterMap_append]
  cases paths.findSome? b.fault? with
  | some error => rfl
  | none => cases others.findSome? b.fault? <;> rfl

/-- A batch comes to what its paths come to by themselves, one behind the other. -/
theorem execute_eq_mapM (paths : List String) :
    (b.execute paths).1 =
      (paths.mapM fun path => (b.execute [path]).1).map List.flatten := by
  induction paths with
  | nil => exact execute_fst []
  | cons path paths ih =>
      have happend := execute_append (b := b) [path] paths
      rw [List.singleton_append] at happend
      rw [happend, ih, List.mapM_cons]
      cases (b.execute [path]).1 with
      | error error => rfl
      | ok entries => cases paths.mapM fun path => (b.execute [path]).1 <;> rfl

/-! ### Logs -/

theorem execute_of_single (hone : b.workers ≤ 1) (paths : List String) :
    b.execute paths = b.conclude paths (b.sequential paths) := by
  have hparallel : b.isParallel paths = false := by
    simp only [isParallel, Bool.and_eq_false_iff, decide_eq_false_iff_not]
    exact .inl (by omega)
  unfold execute executeBy
  rw [hparallel]
  rfl

theorem sequential_congr {b' : Batch} (h : ∀ path ∈ paths, b.attempt path = b'.attempt path) :
    b.sequential paths = b'.sequential paths := by
  induction paths with
  | nil => rfl
  | cons path paths ih =>
      have hrest := ih fun other hother => h other (List.mem_cons_of_mem _ hother)
      unfold sequential
      rw [h path (List.mem_cons_self ..), hrest]

/-- The log of a batch that comes to its end with one worker. -/
theorem notices_execute (hone : b.workers ≤ 1) {returned : List PartitionValues}
    (h : (b.execute paths).1 = .ok returned) :
    (b.execute paths).2 =
      .extracting paths.length b.config.database b.config.table b.extractor.name ::
        (paths.flatMap fun path => (b.attempt path).notices) ++
        (if paths.length - returned.length = 0 then []
          else [.skipped (paths.length - returned.length) paths.length]) ++
        [.extracted returned.length] := by
  rw [execute_of_single hone] at h ⊢
  unfold conclude at h ⊢
  cases htried : (b.sequential paths).1 with
  | error error =>
      rw [htried] at h
      cases h
  | ok results =>
      rw [htried] at h
      cases h
      rw [sequential_notices htried]

/-- What a log shows of notices. -/
def logged (notices : List Notice) : List (Level × Text) :=
  notices.map fun n => (n.level, n.message)

/-- The warning that a path is left out because of an error. -/
def skipWarning (error : ExtractionError) : Level × Text :=
  (.warning, "Skipping partition path: " ++ error.message)

/-- The warning that some of all paths were left out. -/
def summaryWarning (left total : Nat) : Level × Text :=
  (.warning, "Skipped " ++ decimal left ++ " of " ++ decimal total ++ " partition paths")

/-- The warnings of a skipping batch that nothing ends are of the errors that its paths have by
themselves. -/
theorem logged_attempts_skipping (h : ∀ path ∈ paths, b.skipping.fault? path = none) :
    logged (paths.flatMap fun path => (b.skipping.attempt path).notices) =
      (paths.filterMap b.errorAlone?).map skipWarning := by
  induction paths with
  | nil => rfl
  | cons path paths ih =>
      have hpath := h path (List.mem_cons_self ..)
      have hrest := ih fun other hother => h other (List.mem_cons_of_mem _ hother)
      have hvalues : b.skipping.valuesOf path = b.valuesOf path := rfl
      unfold logged at hrest ⊢
      rw [List.flatMap_cons, List.filterMap_cons, List.map_append, hrest, errorAlone?_eq]
      unfold fault? at hpath
      unfold attempt
      rw [hvalues] at hpath ⊢
      cases hread : b.valuesOf path with
      | ok values => rfl
      | error error =>
          rw [hread] at hpath
          cases error with
          | rejected rejection => rfl
          | tooManyDigits count => cases hpath
          | overflow o => cases hpath

theorem logged_execute_skipping (hone : b.workers ≤ 1) {returned : List PartitionValues}
    (h : (b.skipping.execute paths).1 = .ok returned) :
    logged (b.skipping.execute paths).2 =
      logged [.extracting paths.length b.config.database b.config.table b.extractor.name] ++
        (paths.filterMap b.errorAlone?).map skipWarning ++
        (if (paths.filterMap b.errorAlone?).length = 0 then []
          else [summaryWarning (paths.filterMap b.errorAlone?).length paths.length]) ++
        logged [.extracted returned.length] := by
  obtain ⟨hending, hreturned⟩ := executeBy_eq_ok_iff.mp h
  have hlength := length_entries_add_length_errors (b := b) paths
  have hentries : returned.length = (paths.filterMap b.entry?).length :=
    congrArg List.length hreturned
  have hleft : paths.length - returned.length = (paths.filterMap b.errorAlone?).length := by omega
  have hwarnings := logged_attempts_skipping hending
  rw [notices_execute (b := b.skipping) hone h, hleft, ← hwarnings]
  unfold logged
  rw [List.map_append, List.map_append, List.map_cons]
  by_cases hnone : (paths.filterMap b.errorAlone?).length = 0
  · rw [if_pos hnone, if_pos hnone]
    rfl
  · rw [if_neg hnone, if_neg hnone]
    rfl

end Batch

open TableSync.Config Batch

/-- With one worker, where a strict batch returns, a skipping one comes to the same with the same
log; and where it fails, it fails with the error that the first path to fail has by itself.  What a
skipping batch returns is what its paths return by themselves, and its log has, in the order of the
paths, a warning for each path that is left out, and one of their number if there are any.  A batch
of two lists of paths comes to what the two come to. -/
theorem strict_and_skipping_agree {b : Batch} (hone : b.workers ≤ 1) (paths : List String) :
    (∀ returned, (b.strict.execute paths).1 = .ok returned →
      b.skipping.execute paths = b.strict.execute paths) ∧
    (∀ error, (b.strict.execute paths).1 = .error error →
      ∃ before path after, paths = before ++ path :: after ∧
        b.errorAlone? path = some error ∧ ∀ other ∈ before, b.errorAlone? other = none) ∧
    (∀ returned, (b.skipping.execute paths).1 = .ok returned →
      let errors := paths.filterMap b.errorAlone?
      (∃ pieces, paths.mapM (fun path => (b.skipping.execute [path]).1) = .ok pieces ∧
        returned = pieces.flatten) ∧
      returned.length + errors.length = paths.length ∧
      logged (b.skipping.execute paths).2 =
        logged [.extracting paths.length b.config.database b.config.table b.extractor.name] ++
          errors.map skipWarning ++
          (if errors.length = 0 then [] else [summaryWarning errors.length paths.length]) ++
          logged [.extracted returned.length]) ∧
    ∀ others, (b.execute (paths ++ others)).1 = do
      let first ← (b.execute paths).1
      let rest ← (b.execute others).1
      return first ++ rest := by
  refine ⟨?_, ?_, ?_, fun others => execute_append paths others⟩
  · intro returned hreturned
    obtain ⟨hfaults, -⟩ := executeBy_eq_ok_iff.mp hreturned
    have hsame : b.skipping.sequential paths = b.strict.sequential paths := by
      apply sequential_congr
      intro path hpath
      exact attempt_skipping ((fault?_strict path).symm.trans (hfaults path hpath))
    rw [execute_of_single (b := b.skipping) hone, execute_of_single (b := b.strict) hone, hsame]
    rfl
  · intro error herror
    obtain ⟨before, path, after, hpaths, hpath, hbefore⟩ := executeBy_eq_error_iff.mp herror
    refine ⟨before, path, after, hpaths, (fault?_strict path).symm.trans hpath, ?_⟩
    intro other hother
    exact (fault?_strict other).symm.trans (hbefore other hother)
  · intro returned hreturned errors
    refine ⟨?_, ?_, logged_execute_skipping hone hreturned⟩
    · have hpieces := execute_eq_mapM (b := b.skipping) paths
      rw [hreturned] at hpieces
      cases hall : paths.mapM fun path => (b.skipping.execute [path]).1 with
      | error error =>
          rw [hall] at hpieces
          cases hpieces
      | ok pieces =>
          rw [hall] at hpieces
          exact ⟨pieces, rfl, Except.ok.inj hpieces⟩
    · obtain ⟨-, rfl⟩ := executeBy_eq_ok_iff.mp hreturned
      exact length_entries_add_length_errors (b := b) paths

/-- A day alone, and the same day with a word behind it. -/
theorem strict_and_skipping_agree_on_days :
    let b : Batch := ⟨{}, Extractor.slashEncodedDay, false, 1⟩
    let entry : PartitionValues := ⟨"2024/1/5", ["2024-01-05"]⟩
    let error : ExtractionError :=
      .rejected ⟨"today", Extractor.slashEncodedDay.name, .wrongDayDepth 1⟩
    b.workers ≤ 1 ∧
      (b.strict.execute ["2024/1/5"]).1 = .ok [entry] ∧
      b.skipping.execute ["2024/1/5"] = b.strict.execute ["2024/1/5"] ∧
      (b.strict.execute ["2024/1/5", "today"]).1 = .error error ∧
      (∃ before path after, ["2024/1/5", "today"] = before ++ path :: after ∧
        b.errorAlone? path = some error ∧ ∀ other ∈ before, b.errorAlone? other = none) ∧
      (b.skipping.execute ["2024/1/5", "today"]).1 = .ok [entry] ∧
      logged (b.skipping.execute ["2024/1/5", "today"]).2 =
        logged [.extracting 2 "default" "orders" Extractor.slashEncodedDay.name] ++
          [skipWarning error] ++ [summaryWarning 1 2] ++ logged [.extracted 1] := by
  intro b entry error
  have hone : b.workers ≤ 1 := by decide
  have hday : (b.strict.execute ["2024/1/5"]).1 = .ok [entry] := ok_of_toOption (by decide +kernel)
  have herrors : ["2024/1/5", "today"].filterMap b.errorAlone? = [error] := by decide +kernel
  have hword : (b.strict.execute ["2024/1/5", "today"]).1 = .error error := by
    rw [execute_fst]
    have hfault : ["2024/1/5", "today"].findSome? b.strict.fault? = some error := by
      decide +kernel
    rw [hfault]
  have hskipped : (b.skipping.execute ["2024/1/5", "today"]).1 = .ok [entry] :=
    ok_of_toOption (by decide +kernel)
  have hmixed := strict_and_skipping_agree hone ["2024/1/5", "today"]
  have hlog := (hmixed.2.2.1 _ hskipped).2.2
  rw [herrors] at hlog
  exact ⟨hone, hday, (strict_and_skipping_agree hone _).1 _ hday, hword, hmixed.2.1 _ hword,
    hskipped, hlog⟩

end TableSync.Partition
