import PosixQuic.Model.TaskRunner

/-! # The order in which tasks are scheduled and started

`TaskRunner` counts how often a task was run; the log beside it keeps the order: storages as `Schedule` inserts
them into `tasks_`, and as `RunOnce` starts their tasks.
-/

namespace PosixQuic

/-- A runner with the storages in the order of their insertion and of the starts of their tasks. -/
structure TaskLog (Thread : Type) where
  runner : TaskRunner Thread := {}
  scheduled : List Nat := []
  started : List Nat := []

namespace TaskLog

variable {Thread : Type}

/-- The storage that the operation inserts into `tasks_`, if it does. -/
def inserts (r : TaskRunner Thread) : Thread × TaskOp → List Nat
  | (t, .advance) =>
    match r.calls t with
    | .scheduleInsert storage :: _ => [storage]
    | _ => []
  | _ => []

/-- The storage whose task the operation starts: `callMutex` goes over to `running`. -/
def starts (r r' : TaskRunner Thread) : Thread × TaskOp → List Nat
  | (t, .advance) =>
    match r.calls t, r'.calls t with
    | .callMutex storage _ :: _, .running _ _ :: _ => [storage]
    | _, _ => []
  | _ => []

variable [DecidableEq Thread]

def step (l : TaskLog Thread) (label : Thread × TaskOp) : Except TaskWait (TaskLog Thread) := do
  let runner ← l.runner.step label
  return { runner
           scheduled := l.scheduled ++ inserts l.runner label
           started := l.started ++ starts l.runner runner label }

/-- Every operation may be issued by every thread at any time. -/
def system : Machine.System (TaskLog Thread) (Thread × TaskOp) TaskWait where
  guard _ _ := True
  step := step

instance (l : TaskLog Thread) (label : Thread × TaskOp) : Decidable (system.guard l label) :=
  inferInstanceAs (Decidable True)

end TaskLog

/-- The storages of the tasks that are due, in the order of `tasks_`. -/
def dueAt (now : Int) (tasks : List (Int × Nat)) : List Nat := (tasks.filter fun task => task.1 < now).map Prod.snd

end PosixQuic
