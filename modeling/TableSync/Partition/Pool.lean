import TableSync.Partition.Batch

/-!
# Pools of workers

Several workers try the paths of a batch, each path as a task of its own.  Any task that waits may
be taken up as long as a worker is free, and the tasks that are taken up go on independently of each
other, so they report and finish in any order.  Meanwhile the caller takes up the results in the
order of the paths, each once its task is finished.  The first error that the caller takes up ends
this; then tasks that still wait may be withdrawn, but the pool is only done when no task waits or
is at work.
-/

namespace TableSync.Partition

/-- How far a task has come. -/
inductive Phase
  | waiting
  | running
  | reported
  | finished
  | withdrawn
deriving DecidableEq, Repr

/-- The trial of a path. -/
structure Task where
  path : String
  phase : Phase := .waiting
deriving DecidableEq, Repr

/-- Whether a worker is at work on a task. -/
def Task.isBusy (t : Task) : Bool :=
  t.phase = .running || t.phase = .reported

/-- Whether nothing more happens to a task. -/
def Task.isOver (t : Task) : Bool :=
  t.phase = .finished || t.phase = .withdrawn

/-- The tasks in the order of their paths, the notices so far in the order in which they were given,
the results that the caller has taken up, and the error if it was one that was taken up last. -/
structure Pool where
  tasks : List Task
  notices : List Notice := []
  taken : List (Option PartitionValues) := []
  failure? : Option ExtractionError := none
deriving DecidableEq, Repr

namespace Pool

def new (paths : List String) : Pool :=
  { tasks := paths.map fun path => { path } }

/-- Whether the caller has nothing more to take up and no worker anything more to do. -/
def isDone (p : Pool) : Bool :=
  (p.failure?.isSome || p.taken.length = p.tasks.length) && p.tasks.all Task.isOver

/-- What the caller has got from a pool that is done. -/
def outcome (p : Pool) : Except ExtractionError (List (Option PartitionValues)) :=
  match p.failure? with
  | some error => .error error
  | none => .ok p.taken

/-- What may happen next in a pool. -/
inductive Step (b : Batch) (p : Pool) : Pool → Prop
  /-- A free worker takes up a task. -/
  | start {before after : List Task} {path : String}
      (tasks : p.tasks = before ++ ⟨path, .waiting⟩ :: after)
      (free : (p.tasks.countP Task.isBusy : Int) < b.workers) :
      Step b p { p with tasks := before ++ ⟨path, .running⟩ :: after }
  /-- A task gives notice of what it has found. -/
  | report {before after : List Task} {path : String}
      (tasks : p.tasks = before ++ ⟨path, .running⟩ :: after) :
      Step b p { p with
        tasks := before ++ ⟨path, .reported⟩ :: after
        notices := p.notices ++ (b.attempt path).notices }
  /-- A task is finished, and its worker is free again. -/
  | finish {before after : List Task} {path : String}
      (tasks : p.tasks = before ++ ⟨path, .reported⟩ :: after) :
      Step b p { p with tasks := before ++ ⟨path, .finished⟩ :: after }
  /-- The caller takes up the next result. -/
  | take {before after : List Task} {path : String} {result : Option PartitionValues}
      (unfailed : p.failure? = none) (tasks : p.tasks = before ++ ⟨path, .finished⟩ :: after)
      (next : before.length = p.taken.length) (outcome : (b.attempt path).outcome = .ok result) :
      Step b p { p with taken := p.taken ++ [result] }
  /-- The next result is an error, and the caller takes up no more. -/
  | fail {before after : List Task} {path : String} {error : ExtractionError}
      (unfailed : p.failure? = none) (tasks : p.tasks = before ++ ⟨path, .finished⟩ :: after)
      (next : before.length = p.taken.length) (outcome : (b.attempt path).outcome = .error error) :
      Step b p { p with failure? := some error }
  /-- After an error a task that still waits is withdrawn. -/
  | withdraw {before after : List Task} {path : String} (failed : p.failure?.isSome = true)
      (tasks : p.tasks = before ++ ⟨path, .waiting⟩ :: after) :
      Step b p { p with tasks := before ++ ⟨path, .withdrawn⟩ :: after }

end Pool

end TableSync.Partition
