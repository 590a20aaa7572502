import TableSync.CommandLine.Fault
import TableSync.Notice

/-!
# The console

A run reports notices and writes output as it goes on.  A fault ends it on the spot, and whatever
it has reported and written by then stays.
-/

namespace TableSync.CommandLine

/-- What a run has reported and written so far. -/
structure Console where
  notices : List Notice := []
  output : Text := []
deriving DecidableEq, Repr

/-- Work that reports and writes; a fault may end it, but takes nothing back. -/
abbrev Running := ExceptT Fault (StateM Console)

def notify (notices : List Notice) : Running Unit :=
  modify fun console => { console with notices := console.notices ++ notices }

def write (t : Text) : Running Unit :=
  modify fun console => { console with output := console.output ++ t }

def writeAll : List Text → Running Unit
  | [] => pure ()
  | t :: ts => do
      write t
      writeAll ts

/-- Do the work on a console: how it ends and what is then on the console. -/
def Running.from {α : Type} (work : Running α) (console : Console) : Except Fault α × Console :=
  work.run.run console

namespace Running

variable {α β : Type} (console : Console)

@[simp] theorem from_pure (a : α) : Running.from (pure a) console = (.ok a, console) := rfl

@[simp] theorem from_notify (notices : List Notice) :
    (notify notices).from console =
      (.ok (), { console with notices := console.notices ++ notices }) :=
  rfl

@[simp] theorem from_write (t : Text) :
    (write t).from console = (.ok (), { console with output := console.output ++ t }) :=
  rfl

@[simp] theorem from_ofExcept (outcome : Except Fault α) :
    Running.from (ofExcept outcome) console = (outcome, console) := by
  cases outcome <;> rfl

theorem from_bind (work : Running α) (next : α → Running β) :
    Running.from (work >>= next) console =
      match (work.from console).1 with
      | .ok a => (next a).from (work.from console).2
      | .error fault => (.error fault, (work.from console).2) := by
  change (ExceptT.bindCont next (work.from console).1).run (work.from console).2 = _
  cases (work.from console).1 <;> rfl

theorem from_bind_of_ok {work : Running α} {next : α → Running β} {console console' : Console}
    {a : α} (h : work.from console = (.ok a, console')) :
    Running.from (work >>= next) console = (next a).from console' := by
  rw [from_bind, h]

theorem from_bind_of_error {work : Running α} {next : α → Running β}
    {console console' : Console} {fault : Fault}
    (h : work.from console = (.error fault, console')) :
    Running.from (work >>= next) console = (.error fault, console') := by
  rw [from_bind, h]

/-- The texts stand on the output one behind the other. -/
theorem from_writeAll (ts : List Text) :
    (writeAll ts).from console =
      (.ok (), { console with output := console.output ++ ts.flatten }) := by
  induction ts generalizing console with
  | nil => simp [writeAll]
  | cons t ts ih => simp [writeAll, from_bind, ih]

end Running

end TableSync.CommandLine
