import Mathlib.Algebra.GroupWithZero.Nat
import Mathlib.Data.List.Perm.Basic
import Mathlib.Logic.Relation
import TableSync.Partition.Pool
import TableSync.Proofs.Partition.Execution

/-!
# Batches with several workers

A batch with several workers comes to what it comes to with one, however the tasks are taken up, go
on and end.  What the caller has taken up is at every moment what the first paths come to one after
the other, and an error that it takes up is that of the path behind them; so neither a task that
fails early nor one that is withdrawn changes anything.  As long as no error was taken up no task is
withdrawn, so in the end every task has given its notices once.

The pool never gets stuck, and it cannot go on for ever.
-/

namespace TableSync.Partition

open Relation

/-! ## What the caller takes up -/

namespace Pool

/-- The notices that a task has given so far. -/
def given (b : Batch) (t : Task) : List Notice :=
  match t.phase with
  | .reported | .finished => (b.attempt t.path).notices
  | .waiting | .running | .withdrawn => []

/-- A pool in which the caller has taken up what the first paths come to one after the other, and
perhaps the error of the next one, in which each notice given is one of a task, and in which no task
is withdrawn before there is an error. -/
structure Sound (b : Batch) (paths : List String) (p : Pool) : Prop where
  paths_eq : p.tasks.map Task.path = paths
  taken : ∃ first rest, paths = first ++ rest ∧
    first.map (fun path => (b.attempt path).outcome) = p.taken.map .ok ∧
    ∀ error, p.failure? = some error →
      ∃ path after, rest = path :: after ∧ (b.attempt path).outcome = .error error
  notices : p.notices.Perm (p.tasks.flatMap (given b))
  kept : p.failure? = none → ∀ t ∈ p.tasks, t.phase ≠ .withdrawn

section Steps

variable {b : Batch} {paths : List String} {p q : Pool}

theorem sound_new (b : Batch) (paths : List String) : (Pool.new paths).Sound b paths where
  paths_eq := by simp [new, Function.comp_def]
  taken := ⟨[], paths, rfl, rfl, fun error h => nomatch h⟩
  notices := by simp [new, given, List.flatMap_map]
  kept _ t ht := by
    obtain ⟨path, -, rfl⟩ := List.mem_map.mp ht
    simp

/-- The path of the task that the caller waits for is the first that it has not taken up. -/
theorem Sound.next (h : p.Sound b paths) {before after : List Task} {path : String} {phase : Phase}
    (htasks : p.tasks = before ++ ⟨path, phase⟩ :: after)
    (hnext : before.length = p.taken.length) :
    ∃ first rest, paths = first ++ path :: rest ∧
      first.map (fun path => (b.attempt path).outcome) = p.taken.map .ok := by
  obtain ⟨first, rest, hpaths, houtcomes, -⟩ := h.taken
  have hlength : first.length = p.taken.length := by
    simpa using congrArg List.length houtcomes
  have hsplit : before.map Task.path ++ path :: after.map Task.path = first ++ rest := by
    rw [← hpaths, ← h.paths_eq, htasks, List.map_append, List.map_cons]
  obtain ⟨hfirst, hrest⟩ := List.append_inj hsplit (by rw [List.length_map, hnext, hlength])
  exact ⟨first, after.map Task.path, by rw [hpaths, ← hrest], houtcomes⟩

/-- A task that goes on from one phase to the next, with the notices that it gives thereby. -/
theorem Sound.advance (h : p.Sound b paths) {before after : List Task} {path : String}
    {old : Phase} (htasks : p.tasks = before ++ ⟨path, old⟩ :: after) (new : Phase)
    (more : List Notice)
    (hgiven : given b ⟨path, new⟩ = given b ⟨path, old⟩ ++ more)
    (hkept : p.failure? = none → new ≠ .withdrawn) :
    ({ p with tasks := before ++ ⟨path, new⟩ :: after, notices := p.notices ++ more } : Pool).Sound
      b paths where
  paths_eq := by rw [← h.paths_eq, htasks, List.map_append, List.map_append]; rfl
  taken := h.taken
  notices := by
    have hnotices := h.notices
    rw [htasks, List.flatMap_append, List.flatMap_cons] at hnotices
    rw [List.flatMap_append, List.flatMap_cons, hgiven, List.append_assoc]
    refine (hnotices.append_right more).trans ?_
    rw [List.append_assoc, List.append_assoc]
    exact (List.perm_append_comm.append_left _).append_left _
  kept hfailure t ht := by
    have hold := h.kept hfailure
    rw [htasks] at hold
    rcases List.mem_append.mp ht with ht | ht
    · exact hold t (List.mem_append_left _ ht)
    · rcases List.mem_cons.mp ht with rfl | ht
      · exact hkept hfailure
      · exact hold t (List.mem_append_right _ (List.mem_cons_of_mem _ ht))

theorem Sound.step (h : p.Sound b paths) (hstep : Step b p q) : q.Sound b paths := by
  cases hstep with
  | start tasks free =>
      have hnext := h.advance tasks .running [] rfl (by simp)
      rwa [List.append_nil] at hnext
  | report tasks => exact h.advance tasks .reported _ rfl (by simp)
  | finish tasks =>
      have hnext := h.advance tasks .finished [] (by simp [given]) (by simp)
      rwa [List.append_nil] at hnext
  | withdraw failed tasks =>
      have hnext := h.advance tasks .withdrawn [] rfl fun hnone => by simp [hnone] at failed
      rwa [List.append_nil] at hnext
  | @take before after path result unfailed tasks next outcome =>
      obtain ⟨first, rest, hpaths, houtcomes⟩ := h.next tasks next
      refine ⟨h.paths_eq, ⟨first ++ [path], rest, by simp [hpaths], ?_, ?_⟩, h.notices, h.kept⟩
      · simp [houtcomes, outcome]
      · intro error herror
        rw [unfailed] at herror
        cases herror
  | @fail before after path error unfailed tasks next outcome =>
      obtain ⟨first, rest, hpaths, houtcomes⟩ := h.next tasks next
      refine ⟨h.paths_eq, ⟨first, path :: rest, hpaths, houtcomes, ?_⟩, h.notices, by simp⟩
      intro e he
      cases he
      exact ⟨path, rest, rfl, outcome⟩

theorem Sound.run (h : p.Sound b paths) (hrun : ReflTransGen (Step b) p q) : q.Sound b paths := by
  induction hrun with
  | refl => exact h
  | tail _ hstep ih => exact ih.step hstep

end Steps

/-! ## Pools that are done -/

section Done

variable {b : Batch} {paths : List String} {p : Pool}

/-- Results of the first paths in front of what the others come to. -/
theorem mapM_append_of_map_eq {first rest : List String} {taken : List (Option PartitionValues)}
    {f : String → Except ExtractionError (Option PartitionValues)}
    (h : first.map f = taken.map .ok) :
    (first ++ rest).mapM f = (rest.mapM f).map (taken ++ ·) := by
  induction first generalizing taken with
  | nil =>
      obtain rfl : taken = [] := by simpa using h.symm
      rw [List.nil_append]
      cases rest.mapM f <;> rfl
  | cons path first ih =>
      obtain ⟨result, taken, rfl⟩ : ∃ result more, taken = result :: more := by
        cases taken with
        | nil => cases h
        | cons result more => exact ⟨result, more, rfl⟩
      obtain ⟨hresult, hrest⟩ := List.cons.inj h
      rw [List.cons_append, List.mapM_cons, hresult, ih hrest]
      cases rest.mapM f <;> rfl

theorem Sound.outcome_eq (h : p.Sound b paths) (hdone : p.isDone = true) :
    p.outcome = (b.sequential paths).1 := by
  obtain ⟨first, rest, hpaths, houtcomes, hfailure⟩ := h.taken
  rw [Batch.sequential_eq_mapM, hpaths, mapM_append_of_map_eq houtcomes]
  unfold outcome
  cases hfailed : p.failure? with
  | some error =>
      obtain ⟨path, after, rfl, herror⟩ := hfailure error hfailed
      rw [List.mapM_cons, herror]
      rfl
  | none =>
      have htaken : p.taken.length = p.tasks.length := by
        simp only [isDone, hfailed, Bool.and_eq_true] at hdone
        simpa using hdone.1
      have hlength : first.length = p.taken.length := by
        simpa using congrArg List.length houtcomes
      have hall : p.tasks.length = first.length + rest.length := by
        rw [← List.length_append, ← hpaths, ← h.paths_eq, List.length_map]
      obtain rfl : rest = [] := List.eq_nil_of_length_eq_zero (by omega)
      show _ = Except.ok (p.taken ++ [])
      rw [List.append_nil]

/-- Where the caller has got all results, every task has given its notices. -/
theorem Sound.notices_perm (h : p.Sound b paths) (hdone : p.isDone = true)
    (hfailure : p.failure? = none) :
    p.notices.Perm (paths.flatMap fun path => (b.attempt path).notices) := by
  have hover : ∀ t ∈ p.tasks, t.isOver = true := by
    simp only [isDone, Bool.and_eq_true, List.all_eq_true] at hdone
    exact hdone.2
  have hgiven : p.tasks.flatMap (given b) =
      paths.flatMap fun path => (b.attempt path).notices := by
    rw [← h.paths_eq, List.flatMap_map]
    refine List.flatMap_congr fun t ht => ?_
    have hfinished : t.phase = .finished := by
      have hkept := h.kept hfailure t ht
      simpa [Task.isOver, hkept] using hover t ht
    simp [given, hfinished]
  exact hgiven ▸ h.notices

end Done

/-! ## Pools that go on -/

section Progress

variable {b : Batch} {paths : List String} {p q : Pool}

/-- As long as a pool is not done, something can happen in it: where every task is over, it is the
caller's turn. -/
theorem Sound.exists_step (h : p.Sound b paths) (hworkers : 0 < b.workers)
    (hdone : p.isDone = false) : ∃ q, Step b p q := by
  by_cases hbusy : ∃ t ∈ p.tasks, t.isBusy = true
  · obtain ⟨⟨path, phase⟩, ht, hphase⟩ := hbusy
    obtain ⟨before, after, htasks⟩ := List.append_of_mem ht
    cases phase with
    | running => exact ⟨_, .report htasks⟩
    | reported => exact ⟨_, .finish htasks⟩
    | waiting => cases hphase
    | finished => cases hphase
    | withdrawn => cases hphase
  · have hfree : p.tasks.countP Task.isBusy = 0 := by
      rw [List.countP_eq_zero]
      exact fun t ht ht' => hbusy ⟨t, ht, ht'⟩
    by_cases hwaiting : ∃ t ∈ p.tasks, t.phase = .waiting
    · obtain ⟨⟨path, phase⟩, ht, rfl⟩ := hwaiting
      obtain ⟨before, after, htasks⟩ := List.append_of_mem ht
      exact ⟨_, .start htasks (by rw [hfree]; exact hworkers)⟩
    · have hover : ∀ t ∈ p.tasks, t.isOver = true := by
        rintro ⟨path, phase⟩ ht
        cases phase with
        | waiting => exact absurd ⟨_, ht, rfl⟩ hwaiting
        | running => exact absurd ⟨_, ht, rfl⟩ hbusy
        | reported => exact absurd ⟨_, ht, rfl⟩ hbusy
        | finished => rfl
        | withdrawn => rfl
      have hall : p.tasks.all Task.isOver = true := List.all_eq_true.mpr hover
      simp only [isDone, hall, Bool.and_true, Bool.or_eq_false_iff, Option.isSome_eq_false_iff,
        Option.isNone_iff_eq_none, decide_eq_false_iff_not] at hdone
      obtain ⟨hfailure, hlength⟩ := hdone
      have hlt : p.taken.length < p.tasks.length := by
        obtain ⟨first, rest, hpaths, houtcomes, -⟩ := h.taken
        have hfirst : first.length = p.taken.length := by
          simpa using congrArg List.length houtcomes
        have hsum : p.tasks.length = first.length + rest.length := by
          rw [← List.length_append, ← hpaths, ← h.paths_eq, List.length_map]
        omega
      have htasks : p.tasks = p.tasks.take p.taken.length ++
          p.tasks[p.taken.length] :: p.tasks.drop (p.taken.length + 1) := by
        rw [← List.drop_eq_getElem_cons hlt, List.take_append_drop]
      have hnext : (p.tasks.take p.taken.length).length = p.taken.length := by
        rw [List.length_take]
        omega
      have hmem : p.tasks[p.taken.length] ∈ p.tasks := List.getElem_mem hlt
      generalize p.tasks[p.taken.length] = t at htasks hmem
      obtain ⟨path, phase⟩ := t
      obtain rfl : phase = .finished := by
        have hkept := h.kept hfailure _ hmem
        simpa [Task.isOver, hkept] using hover _ hmem
      cases houtcome : (b.attempt path).outcome with
      | ok result => exact ⟨_, .take hfailure htasks hnext houtcome⟩
      | error error => exact ⟨_, .fail hfailure htasks hnext houtcome⟩

/-- The number of steps that a task may still make. -/
def stepsLeft (t : Task) : Nat :=
  match t.phase with
  | .waiting => 3
  | .running => 2
  | .reported => 1
  | .finished | .withdrawn => 0

/-- The number of steps that may still be made in a pool, by its tasks and by the caller. -/
def remaining (p : Pool) : Nat :=
  (p.tasks.map stepsLeft).sum + (p.tasks.length - p.taken.length) +
    if p.failure?.isSome then 0 else 1

theorem remaining_lt_of_step (hstep : Step b p q) : q.remaining < p.remaining := by
  cases hstep with
  | start tasks free => simp [remaining, tasks, stepsLeft]
  | report tasks => simp [remaining, tasks, stepsLeft]
  | finish tasks => simp [remaining, tasks, stepsLeft]
  | withdraw failed tasks => simp [remaining, tasks, stepsLeft]
  | take unfailed tasks next outcome => simp [remaining, tasks, unfailed]; omega
  | fail unfailed tasks next outcome => simp [remaining, unfailed]

theorem wellFounded_step (b : Batch) : WellFounded fun q p => Step b p q :=
  Subrelation.wf (fun hstep => remaining_lt_of_step hstep) (measure remaining).wf

/-- Whatever has happened in a pool, it can be brought to an end. -/
theorem Sound.exists_done (h : p.Sound b paths) (hworkers : 0 < b.workers) :
    ∃ q, ReflTransGen (Step b) p q ∧ q.isDone = true := by
  induction p using (wellFounded_step b).induction with
  | _ p ih =>
      cases hdone : p.isDone with
      | true => exact ⟨p, .refl, hdone⟩
      | false =>
          obtain ⟨next, hstep⟩ := h.exists_step hworkers hdone
          obtain ⟨q, hrun, hq⟩ := ih next hstep (h.step hstep)
          exact ⟨q, .head hstep hrun, hq⟩

end Progress

/-! ## A pool for every schedule -/

section Schedules

variable {b : Batch} {paths : List String}

/-- The tasks of some paths, of which those at some positions are finished. -/
def scheduledTasks (paths : List String) (ended : List Nat) : List Task :=
  paths.mapIdx fun i path => ⟨path, if i ∈ ended then .finished else .waiting⟩

theorem scheduledTasks_nil : scheduledTasks paths [] = (new paths).tasks :=
  List.ext_getElem (by simp [scheduledTasks, new]) fun i _ _ => by simp [scheduledTasks, new]

theorem scheduledTasks_all {ended : List Nat} (h : ∀ i < paths.length, i ∈ ended) :
    scheduledTasks paths ended = paths.map fun path => ⟨path, .finished⟩ := by
  unfold scheduledTasks
  refine List.ext_getElem (by simp) fun i hi _ => ?_
  have hended : i ∈ ended := h i (by simpa using hi)
  simp [hended]

/-- The tasks before and after one more of them is finished. -/
theorem scheduledTasks_split {ended : List Nat} {i : Nat} {path : String} (hended : i ∉ ended)
    (hpath : paths[i]? = some path) : ∃ before after,
      scheduledTasks paths ended = before ++ ⟨path, .waiting⟩ :: after ∧
        scheduledTasks paths (ended ++ [i]) = before ++ ⟨path, .finished⟩ :: after := by
  obtain ⟨hi, rfl⟩ := List.getElem?_eq_some_iff.mp hpath
  have hlength : i < (scheduledTasks paths ended).length := by simpa [scheduledTasks] using hi
  have hwaiting : (scheduledTasks paths ended)[i] = ⟨paths[i], .waiting⟩ := by
    simp [scheduledTasks, hended]
  have hset : scheduledTasks paths (ended ++ [i]) =
      (scheduledTasks paths ended).set i ⟨paths[i], .finished⟩ := by
    refine List.ext_getElem (by simp [scheduledTasks]) fun j hj _ => ?_
    by_cases hij : i = j
    · subst hij
      simp [scheduledTasks]
    · simp [scheduledTasks, hij, Ne.symm hij]
  refine ⟨(scheduledTasks paths ended).take i, (scheduledTasks paths ended).drop (i + 1), ?_, ?_⟩
  · rw [← hwaiting, ← List.drop_eq_getElem_cons, List.take_append_drop]
  · rw [hset, List.set_eq_take_append_cons_drop, if_pos hlength]

theorem isBusy_scheduledTasks (paths : List String) (ended : List Nat) :
    (scheduledTasks paths ended).countP Task.isBusy = 0 := by
  rw [List.countP_eq_zero]
  intro t ht
  obtain ⟨i, hi, rfl⟩ := List.mem_mapIdx.mp ht
  split <;> simp [Task.isBusy]

/-- One task after the other, in the order of a schedule. -/
theorem run_schedule (hworkers : 0 < b.workers) {ended schedule : List Nat}
    (hschedule : (ended ++ schedule).Nodup) (hbound : ∀ i ∈ schedule, i < paths.length)
    (notices : List Notice) :
    ReflTransGen (Step b) ⟨scheduledTasks paths ended, notices, [], none⟩
      ⟨scheduledTasks paths (ended ++ schedule), notices ++ schedule.flatMap fun i =>
        ((paths.map b.attempt)[i]?.map Attempt.notices).getD [], [], none⟩ := by
  induction schedule generalizing ended notices with
  | nil =>
      rw [List.append_nil, List.flatMap_nil, List.append_nil]
  | cons i schedule ih =>
      have hi : i < paths.length := hbound i (List.mem_cons_self ..)
      have hended : i ∉ ended := by
        intro hmem
        exact (List.nodup_append.mp hschedule).2.2 i hmem i (List.mem_cons_self ..) rfl
      have hpath : paths[i]? = some paths[i] := List.getElem?_eq_getElem hi
      obtain ⟨before, after, hbefore, hafter⟩ := scheduledTasks_split hended hpath
      have hattempt : ((paths.map b.attempt)[i]?.map Attempt.notices).getD [] =
          (b.attempt paths[i]).notices := by simp [hi]
      have hfree : ((scheduledTasks paths ended).countP Task.isBusy : Int) < b.workers := by
        rw [isBusy_scheduledTasks]
        exact hworkers
      have hnodup : ((ended ++ [i]) ++ schedule).Nodup := by simpa using hschedule
      have hrest := ih hnodup (fun j hj => hbound j (List.mem_cons_of_mem _ hj))
        (notices ++ (b.attempt paths[i]).notices)
      rw [List.append_assoc, List.singleton_append] at hrest
      rw [List.flatMap_cons, hattempt, ← List.append_assoc]
      refine .head (.start hbefore hfree) (.head (.report rfl) (.head (.finish rfl) ?_))
      rw [← hafter]
      exact hrest

/-- Where all tasks are finished, the caller takes up the results up to the first error. -/
theorem run_take {first : List String} (rest : List String) (notices : List Notice)
    {taken : List (Option PartitionValues)} (hlength : first.length = taken.length) :
    ∃ q, ReflTransGen (Step b)
        ⟨(first ++ rest).map fun path => ⟨path, .finished⟩, notices, taken, none⟩ q ∧
      q.isDone = true ∧ q.notices = notices ∧
      q.outcome = (rest.mapM fun path => (b.attempt path).outcome).map (taken ++ ·) := by
  induction rest generalizing first taken with
  | nil =>
      refine ⟨_, .refl, ?_, rfl, ?_⟩
      · simp [isDone, hlength, Task.isOver]
      · show Except.ok taken = Except.ok (taken ++ [])
        rw [List.append_nil]
  | cons path rest ih =>
      have htasks : (first ++ path :: rest).map (fun path => Task.mk path .finished) =
          first.map (fun path => ⟨path, .finished⟩) ++ ⟨path, .finished⟩ ::
            rest.map fun path => ⟨path, .finished⟩ := by simp
      have hnext : (first.map fun path => Task.mk path .finished).length = taken.length := by
        rw [List.length_map, hlength]
      cases houtcome : (b.attempt path).outcome with
      | error error =>
          refine ⟨_, .single (.fail rfl htasks hnext houtcome), ?_, rfl, ?_⟩
          · simp [isDone, Task.isOver]
          · rw [List.mapM_cons, houtcome]
            rfl
      | ok result =>
          have hlength' : (first ++ [path]).length = (taken ++ [result]).length := by
            simp [hlength]
          obtain ⟨q, hrun, hdone, hnotices, hq⟩ := ih hlength'
          rw [List.append_assoc, List.singleton_append] at hrun
          refine ⟨q, .head (.take rfl htasks hnext houtcome) hrun, hdone, hnotices, ?_⟩
          rw [hq, List.mapM_cons, houtcome]
          simp only [List.append_assoc, List.singleton_append]
          show _ = Except.map _ ((rest.mapM _) >>= _)
          cases rest.mapM fun path => (b.attempt path).outcome <;> rfl

/-- Every schedule is one of the ways in which a pool may come to its end. -/
theorem exists_run_scheduled (hworkers : 0 < b.workers) {schedule : List Nat}
    (hschedule : schedule.Perm (List.range paths.length)) :
    ∃ q, ReflTransGen (Step b) (new paths) q ∧ q.isDone = true ∧
      (q.outcome, q.notices) = b.scheduled schedule paths := by
  have hall : ∀ i < paths.length, i ∈ schedule := by
    intro i hi
    exact hschedule.mem_iff.mpr (List.mem_range.mpr hi)
  have hbound : ∀ i ∈ schedule, i < paths.length := by
    intro i hi
    exact List.mem_range.mp (hschedule.mem_iff.mp hi)
  have hnodup : ([] ++ schedule).Nodup := hschedule.nodup_iff.mpr List.nodup_range
  have htry := run_schedule hworkers hnodup hbound []
  rw [List.nil_append, List.nil_append, scheduledTasks_nil, scheduledTasks_all hall] at htry
  have hnone : ([] : List String).length = ([] : List (Option PartitionValues)).length := rfl
  obtain ⟨q, htake, hdone, hnotices, houtcome⟩ := run_take (b := b) paths
    (schedule.flatMap fun i => ((paths.map b.attempt)[i]?.map Attempt.notices).getD []) hnone
  refine ⟨q, htry.trans htake, hdone, ?_⟩
  rw [hnotices, houtcome, ← Batch.scheduled_eq_mapM schedule]
  show (Except.map id _, _) = _
  rw [Except.map_id]
  rfl

end Schedules

end Pool

/-! ## Batches -/

namespace Batch

/-- What a batch may come to: with one worker there is one way, with several every way in which a
pool may come to its end. -/
inductive MayComeTo (b : Batch) (paths : List String) :
    Except ExtractionError (List PartitionValues) × List Notice → Prop
  | alone (single : b.isParallel paths = false) :
      MayComeTo b paths (b.conclude paths (b.sequential paths))
  | together {p : Pool} (several : b.isParallel paths = true)
      (run : ReflTransGen (Pool.Step b) (.new paths) p) (done : p.isDone = true) :
      MayComeTo b paths (b.conclude paths (p.outcome, p.notices))

variable {b : Batch} {paths : List String}

/-- The notices of a batch that comes to its end. -/
theorem sequential_notices {results : List (Option PartitionValues)}
    (h : (b.sequential paths).1 = .ok results) :
    (b.sequential paths).2 = paths.flatMap fun path => (b.attempt path).notices := by
  induction paths generalizing results with
  | nil => rfl
  | cons path paths ih =>
      cases houtcome : (b.attempt path).outcome with
      | error error =>
          simp only [sequential, houtcome] at h
          cases h
      | ok result =>
          simp only [sequential, houtcome] at h ⊢
          cases hrest : (b.sequential paths).1 with
          | error error =>
              rw [hrest] at h
              cases h
          | ok more => rw [List.flatMap_cons, ih hrest]

def single (b : Batch) : Batch :=
  { b with workers := 1 }

theorem sequential_single (paths : List String) :
    b.single.sequential paths = b.sequential paths := by
  induction paths with
  | nil => rfl
  | cons path paths ih =>
      unfold sequential
      rw [ih]
      rfl

theorem execute_single (paths : List String) :
    b.single.execute paths = b.conclude paths (b.sequential paths) := by
  rw [← sequential_single]
  rfl

/-- Where the trials come to one outcome, with the same notices in some order if it is no error, so
does the batch. -/
theorem conclude_agree
    {tried other : Except ExtractionError (List (Option PartitionValues)) × List Notice}
    (houtcome : tried.1 = other.1)
    (hnotices : ∀ results, other.1 = .ok results → tried.2.Perm other.2) :
    (b.conclude paths tried).1 = (b.conclude paths other).1 ∧
      ∀ returned, (b.conclude paths other).1 = .ok returned →
        (b.conclude paths tried).2.Perm (b.conclude paths other).2 := by
  obtain ⟨outcome, notices⟩ := tried
  obtain ⟨outcome', notices'⟩ := other
  obtain rfl : outcome = outcome' := houtcome
  cases outcome with
  | error error => exact ⟨rfl, fun returned h => nomatch h⟩
  | ok results =>
      refine ⟨rfl, fun _ _ => ?_⟩
      have hperm : notices.Perm notices' := hnotices results rfl
      exact ((hperm.cons _).append_right _).append_right _

/-- Whatever a batch may come to, it comes to the same with one worker. -/
theorem MayComeTo.agrees
    {result : Except ExtractionError (List PartitionValues) × List Notice}
    (h : b.MayComeTo paths result) :
    result.1 = (b.single.execute paths).1 ∧
      ∀ returned, (b.single.execute paths).1 = .ok returned →
        result.2.Perm (b.single.execute paths).2 := by
  rw [execute_single]
  cases h with
  | alone single => exact ⟨rfl, fun _ _ => .refl _⟩
  | @together p several run done =>
      have hsound := (Pool.sound_new b paths).run run
      have houtcome := hsound.outcome_eq done
      refine conclude_agree houtcome ?_
      intro results hresults
      have hok := houtcome.trans hresults
      have hfailure : p.failure? = none := by
        unfold Pool.outcome at hok
        cases hfailed : p.failure? with
        | none => rfl
        | some error =>
            rw [hfailed] at hok
            cases hok
      rw [sequential_notices hresults]
      exact hsound.notices_perm done hfailure

/-- With one worker a batch ends in the error of the first path that fails. -/
theorem execute_single_eq_error_iff {error : ExtractionError} :
    (b.single.execute paths).1 = .error error ↔
      ∃ before path after, paths = before ++ path :: after ∧
        (b.attempt path).outcome = .error error ∧
        ∀ other ∈ before, ∃ result, (b.attempt other).outcome = .ok result := by
  have hfault (path : String) : b.single.fault? path = b.fault? path := rfl
  have herror (path : String) (e : ExtractionError) :
      b.fault? path = some e ↔ (b.attempt path).outcome = .error e := by
    rw [attempt_outcome]
    cases b.fault? path with
    | some found => simp
    | none => simp
  have hnone (path : String) :
      b.fault? path = none ↔ ∃ result, (b.attempt path).outcome = .ok result := by
    rw [attempt_outcome]
    cases b.fault? path with
    | some found => simp
    | none => simp
  refine executeBy_eq_error_iff.trans ?_
  simp only [hfault, herror, hnone]

/-- To follow a schedule is one way for a batch to come to its end. -/
theorem mayComeTo_executeBy (hworkers : 0 < b.workers) {schedule : List Nat}
    (hschedule : schedule.Perm (List.range paths.length)) :
    b.MayComeTo paths (b.executeBy schedule paths) := by
  unfold executeBy
  cases hparallel : b.isParallel paths with
  | false => exact .alone hparallel
  | true =>
      obtain ⟨q, hrun, hdone, hscheduled⟩ := Pool.exists_run_scheduled hworkers hschedule
      rw [if_pos rfl, ← hscheduled]
      exact .together hparallel hrun hdone

end Batch

/-- With several workers a batch comes to what it comes to with one: the same values, with the same
notices in some order, or the error of the first path that fails in the order of the paths.  This
holds however the workers take up their tasks and go on with them; they never get stuck nor go on
for ever, and to follow a schedule is one of their ways. -/
theorem workers_agree (b : Batch) (paths : List String) (hworkers : 1 < b.workers) :
    (∀ result, b.MayComeTo paths result →
      result.1 = (b.single.execute paths).1 ∧
        ∀ returned, (b.single.execute paths).1 = .ok returned →
          result.2.Perm (b.single.execute paths).2) ∧
      (∀ error, (b.single.execute paths).1 = .error error ↔
        ∃ before path after, paths = before ++ path :: after ∧
          (b.attempt path).outcome = .error error ∧
          ∀ other ∈ before, ∃ result, (b.attempt other).outcome = .ok result) ∧
      (∀ p, ReflTransGen (Pool.Step b) (.new paths) p →
        ∃ q, ReflTransGen (Pool.Step b) p q ∧ q.isDone = true) ∧
      (WellFounded fun q p => Pool.Step b p q) ∧
      ∀ schedule, schedule.Perm (List.range paths.length) →
        b.MayComeTo paths (b.executeBy schedule paths) := by
  have hpositive : 0 < b.workers := by omega
  refine ⟨fun result h => h.agrees, fun error => Batch.execute_single_eq_error_iff, ?_,
    Pool.wellFounded_step b, fun schedule => Batch.mayComeTo_executeBy hpositive⟩
  intro p hrun
  exact ((Pool.sound_new b paths).run hrun).exists_done hpositive

/-- Of two paths the later one fails before the earlier one is taken up; still the error is that of
the earlier one, as it is with one worker. -/
theorem workers_agree_on_words :
    let b : Batch := ⟨{}, Extractor.hiveStyle false, false, 2⟩
    let error : ExtractionError :=
      .rejected ⟨"now", (Extractor.hiveStyle false).name, .notAssignment "now"⟩
    ∃ notices, b.MayComeTo ["now", "today"] (.error error, notices) ∧
      (b.single.execute ["now", "today"]).1 = .error error := by
  intro b error
  let tasks (first second : Phase) : List Task := [⟨"now", first⟩, ⟨"today", second⟩]
  have hrun : ReflTransGen (Pool.Step b) (.new ["now", "today"])
      ⟨tasks .finished .finished, [], [], some error⟩ := by
    have hlater : ReflTransGen (Pool.Step b) ⟨tasks .waiting .waiting, [], [], none⟩
        ⟨tasks .waiting .finished, [], [], none⟩ :=
      .head (@Pool.Step.start b _ [⟨"now", .waiting⟩] [] "today" rfl (by decide))
        (.head (@Pool.Step.report b _ [⟨"now", .waiting⟩] [] "today" rfl)
          (.single (@Pool.Step.finish b _ [⟨"now", .waiting⟩] [] "today" rfl)))
    have hearlier : ReflTransGen (Pool.Step b) ⟨tasks .waiting .finished, [], [], none⟩
        ⟨tasks .finished .finished, [], [], none⟩ :=
      .head (@Pool.Step.start b _ [] [⟨"today", .finished⟩] "now" rfl (by decide))
        (.head (@Pool.Step.report b _ [] [⟨"today", .finished⟩] "now" rfl)
          (.single (@Pool.Step.finish b _ [] [⟨"today", .finished⟩] "now" rfl)))
    have htaken : Pool.Step b ⟨tasks .finished .finished, [], [], none⟩
        ⟨tasks .finished .finished, [], [], some error⟩ :=
      @Pool.Step.fail b _ [] [⟨"today", .finished⟩] "now" error rfl rfl rfl rfl
    exact (hlater.trans hearlier).tail htaken
  have hresult := Batch.MayComeTo.together rfl hrun rfl
  exact ⟨_, hresult, ((workers_agree b _ (by decide)).1 _ hresult).1.symm⟩

end TableSync.Partition
