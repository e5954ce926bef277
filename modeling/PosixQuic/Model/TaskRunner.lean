import Mathlib
import PosixQuic.Machine.Reachable

/-! # `QuicTaskRunner` under any interleaving of its threads

Every thread carries the stack of library calls it is inside of, each call at its next atomic step:
one operation on a spin lock, one `try_lock` of a session mutex, or one step of a section protected
by `mtx_`. A thread whose topmost call is running a task, or that is in no call, may start another
one, so a task may schedule, cancel and even run tasks itself.

A `TaskStorage` is named by its creation order, and so is its node in `tasks_`, because `Schedule`
inserts every storage once. The history records what the results are about: how often a node was
erased and a task run, and who took a storage's `invalid` flag.
-/

namespace PosixQuic

/-- The members of `TaskStorage` that its protocol reads; `key` is its deadline in `tasks_`. -/
structure TaskStorage where
  key : Int := 0
  mtx : Nat := 0
  itr : Option Nat := none
  invalid : Bool := false
  callLock : Bool := false
deriving DecidableEq, Repr

/-- A call in progress, named by its next atomic step. -/
inductive TaskCall where
  | scheduleLock (storage : Nat)
  | scheduleInsert (storage : Nat)
  | scheduleSetItr (storage : Nat)
  | scheduleUnlock (storage : Nat)
  | cancelTry (storage : Nat)
  | cancelLock (storage : Nat)
  | cancelErase (storage : Nat)
  | cancelUnlock (storage : Nat)
  | cancelWait (storage : Nat)
  | collectLock (now : Int)
  | collect (now : Int) (rest : List (Int × Nat)) (triggers : List Nat)
  | collectErase (now : Int) (node : Nat) (rest : List (Int × Nat)) (triggers : List Nat)
  | callTry (triggers : List Nat)
  | callMutex (storage : Nat) (triggers : List Nat)
  | callRetry (storage : Nat) (triggers : List Nat)
  | running (storage : Nat) (triggers : List Nat)
  | callUnlockMutex (storage : Nat) (triggers : List Nat)
  | callUnlock (storage : Nat) (triggers : List Nat)
deriving DecidableEq, Repr

/-- The call is `RunOnce`. -/
def TaskCall.isRunOnce : TaskCall → Bool
  | .collectLock _ | .collect _ _ _ | .collectErase _ _ _ _ | .callTry _ | .callMutex _ _
  | .callRetry _ _ | .running _ _ | .callUnlockMutex _ _ | .callUnlock _ _ => true
  | _ => false

/-- A thread with these calls in progress is in application code: outside of every call, or inside
some task's `Run`. -/
def inApplication : List TaskCall → Bool
  | [] => true
  | .running _ _ :: _ => true
  | _ => false

/-- What has happened to each storage so far. `cancelled` records that a `Cancel` of it has returned on
a thread outside of `RunOnce`, `staleErase` an `erase` with an iterator whose node is not in `tasks_`. -/
structure TaskHistory where
  inserted : Nat → Bool := fun _ => false
  erased : Nat → Nat := fun _ => 0
  runs : Nat → Nat := fun _ => 0
  claimedByCancel : Nat → Bool := fun _ => false
  cancelHolds : Nat → Bool := fun _ => false
  cancelled : Nat → Bool := fun _ => false
  staleErase : Bool := false

/-- One runner, the session mutexes its tasks name, and the threads that use it with their
`IsInTaskRunnerThread` flags. -/
structure TaskRunner (Thread : Type) where
  storages : Nat → TaskStorage := fun _ => {}
  count : Nat := 0
  tasks : List (Int × Nat) := []
  mtx : Option Thread := none
  sessions : Nat → Option (Thread × Nat) := fun _ => none
  returned : Nat → Bool := fun _ => false
  inRunner : Thread → Bool := fun _ => false
  calls : Thread → List TaskCall := fun _ => []
  history : TaskHistory := {}

/-- A thread starts a call, takes its next atomic step, or works in application code. -/
inductive TaskOp where
  | beginSchedule (key : Int) (mtx : Nat)
  | beginCancel (storage : Nat)
  | beginRunOnce (now : Int)
  | lockSession (mtx : Nat)
  | unlockSession (mtx : Nat)
  | advance
deriving DecidableEq, Repr

/-- The operation has to wait, or its thread is not at a point where it can be issued. -/
inductive TaskWait where
  | blocked
deriving DecidableEq, Repr

/-- `multimap::insert` places an element after all elements of the same key. -/
def insertTask (key : Int) (node : Nat) : List (Int × Nat) → List (Int × Nat)
  | [] => [(key, node)]
  | head :: rest =>
    if key < head.1 then (key, node) :: head :: rest else head :: insertTask key node rest

/-- The node is no longer among the tasks. -/
def eraseTask (node : Nat) (tasks : List (Int × Nat)) : List (Int × Nat) :=
  tasks.filter fun task => task.2 ≠ node

namespace TaskRunner

variable {Thread : Type} [DecidableEq Thread]

def modStorage (r : TaskRunner Thread) (storage : Nat) (f : TaskStorage → TaskStorage) :
    TaskRunner Thread :=
  { r with storages := Function.update r.storages storage (f (r.storages storage)) }

def setStack (r : TaskRunner Thread) (t : Thread) (stack : List TaskCall) : TaskRunner Thread :=
  { r with calls := Function.update r.calls t stack }

def setInRunner (r : TaskRunner Thread) (t : Thread) (inRunner : Bool) : TaskRunner Thread :=
  { r with inRunner := Function.update r.inRunner t inRunner }

def modHistory (r : TaskRunner Thread) (f : TaskHistory → TaskHistory) : TaskRunner Thread :=
  { r with history := f r.history }

/-- `tasks_.erase` through an iterator to `node`. -/
def eraseNode (r : TaskRunner Thread) (node : Nat) : TaskRunner Thread :=
  { r with
    tasks := eraseTask node r.tasks
    history :=
      { r.history with
        erased := Function.update r.history.erased node (r.history.erased node + 1)
        staleErase := r.history.staleErase || !(r.tasks.map Prod.snd).contains node } }

/-- A `Cancel` returns to the calls `rest`. -/
def noteCancelled (r : TaskRunner Thread) (rest : List TaskCall) (storage : Nat) : TaskRunner Thread :=
  if rest.any TaskCall.isRunOnce then r
  else r.modHistory fun h => { h with cancelled := Function.update h.cancelled storage true }

/-- The steps of `Schedule` after the storage has been built. -/
def advanceSchedule (r : TaskRunner Thread) (t : Thread) (rest : List TaskCall) :
    TaskCall → Except TaskWait (TaskRunner Thread)
  | .scheduleLock storage =>
    if r.mtx.isNone then .ok ({ r with mtx := some t }.setStack t (.scheduleInsert storage :: rest))
    else .error .blocked
  | .scheduleInsert storage =>
    .ok ({ r with
      tasks := insertTask (r.storages storage).key storage r.tasks
      history :=
        { r.history with inserted := Function.update r.history.inserted storage true }
      }.setStack t (.scheduleSetItr storage :: rest))
  | .scheduleSetItr storage =>
    .ok ((r.modStorage storage fun s => { s with itr := some storage }).setStack t
      (.scheduleUnlock storage :: rest))
  | .scheduleUnlock storage =>
    .ok ({ r with mtx := none, returned := Function.update r.returned storage true }.setStack t rest)
  | _ => .error .blocked

/-- The steps of `ScheduledTask::Cancel` and of the `QuicTaskRunner::Cancel` it calls. -/
def advanceCancel (r : TaskRunner Thread) (t : Thread) (rest : List TaskCall) :
    TaskCall → Except TaskWait (TaskRunner Thread)
  | .cancelTry storage =>
    if (r.storages storage).invalid then
      if r.inRunner t then .ok ((r.noteCancelled rest storage).setStack t rest)
      else .ok (r.setStack t (.cancelWait storage :: rest))
    else
      .ok (((r.modStorage storage fun s => { s with invalid := true }).modHistory fun h =>
        { h with claimedByCancel := Function.update h.claimedByCancel storage true }).setStack t
          (.cancelLock storage :: rest))
  | .cancelLock storage =>
    if r.mtx.isNone then .ok ({ r with mtx := some t }.setStack t (.cancelErase storage :: rest))
    else .error .blocked
  | .cancelErase storage =>
    -- the stored iterator is dereferenced; an unset one would be as stale as an erased one
    match (r.storages storage).itr with
    | some node => .ok ((r.eraseNode node).setStack t (.cancelUnlock storage :: rest))
    | none =>
      .ok ((r.modHistory fun h => { h with staleErase := true }).setStack t
        (.cancelUnlock storage :: rest))
  | .cancelUnlock storage =>
    .ok (({ r with mtx := none }.noteCancelled rest storage).setStack t rest)
  | .cancelWait storage =>
    if (r.storages storage).callLock then .error .blocked
    else
      .ok ((((r.modStorage storage fun s => { s with callLock := true }).modHistory fun h =>
        { h with cancelHolds := Function.update h.cancelHolds storage true }).noteCancelled
          rest storage).setStack t rest)
  | _ => .error .blocked

/-- The section of `RunOnce` that collects the due tasks. -/
def advanceCollect (r : TaskRunner Thread) (t : Thread) (stack : List TaskCall) :
    TaskCall → Except TaskWait (TaskRunner Thread)
  | .collectLock now =>
    if r.mtx.isNone then .ok ({ r with mtx := some t }.setStack t (.collect now r.tasks [] :: stack))
    else .error .blocked
  | .collect _ [] triggers => .ok ({ r with mtx := none }.setStack t (.callTry triggers :: stack))
  | .collect now ((key, storage) :: rest) triggers =>
    if now > key then
      if (r.storages storage).invalid then
        .ok (r.setStack t (.collect now rest triggers :: stack))
      else
        .ok ((r.modStorage storage fun s => { s with invalid := true }).setStack t
          (.collectErase now storage rest (triggers ++ [storage]) :: stack))
    else .ok ({ r with mtx := none }.setStack t (.callTry triggers :: stack))
  | .collectErase now node rest triggers =>
    .ok ((r.eraseNode node).setStack t (.collect now rest triggers :: stack))
  | _ => .error .blocked

/-- The calling loop of `RunOnce`, with its retry when the session mutex is taken. -/
def advanceCall (r : TaskRunner Thread) (t : Thread) (stack : List TaskCall) :
    TaskCall → Except TaskWait (TaskRunner Thread)
  | .callTry [] => .ok ((r.setInRunner t false).setStack t stack)
  | .callTry (storage :: triggers) =>
    if (r.storages storage).callLock then .ok (r.setStack t (.callTry triggers :: stack))
    else
      .ok ((r.modStorage storage fun s => { s with callLock := true }).setStack t
        (.callMutex storage triggers :: stack))
  | .callMutex storage triggers =>
    let mtx := (r.storages storage).mtx
    let started (depth : Nat) : TaskRunner Thread :=
      { r with
        sessions := Function.update r.sessions mtx (some (t, depth))
        history :=
          { r.history with
            runs := Function.update r.history.runs storage (r.history.runs storage + 1) }
        }.setStack t (.running storage triggers :: stack)
    match r.sessions mtx with
    | none => .ok (started 1)
    | some (owner, depth) =>
      if owner = t then .ok (started (depth + 1))
      else .ok (r.setStack t (.callRetry storage triggers :: stack))
  | .callRetry storage triggers =>
    .ok ((r.modStorage storage fun s => { s with callLock := false }).setStack t
      (.callTry (storage :: triggers) :: stack))
  | .running storage triggers => .ok (r.setStack t (.callUnlockMutex storage triggers :: stack))
  | .callUnlockMutex storage triggers =>
    let mtx := (r.storages storage).mtx
    let released : Option (Thread × Nat) :=
      match r.sessions mtx with
      | some (owner, depth + 2) => some (owner, depth + 1)
      | _ => none
    .ok ({ r with sessions := Function.update r.sessions mtx released }.setStack t
      (.callUnlock storage triggers :: stack))
  | .callUnlock storage triggers =>
    .ok ((r.modStorage storage fun s => { s with callLock := false }).setStack t
      (.callTry triggers :: stack))
  | _ => .error .blocked

/-- The next atomic step of the thread's topmost call. -/
def advance (r : TaskRunner Thread) (t : Thread) : Except TaskWait (TaskRunner Thread) :=
  match r.calls t with
  | [] => .error .blocked
  | call :: rest =>
    match call with
    | .scheduleLock _ | .scheduleInsert _ | .scheduleSetItr _ | .scheduleUnlock _ =>
      r.advanceSchedule t rest call
    | .cancelTry _ | .cancelLock _ | .cancelErase _ | .cancelUnlock _ | .cancelWait _ =>
      r.advanceCancel t rest call
    | .collectLock _ | .collect _ _ _ | .collectErase _ _ _ _ => r.advanceCollect t rest call
    | .callTry _ | .callMutex _ _ | .callRetry _ _ | .running _ _ | .callUnlockMutex _ _
    | .callUnlock _ _ => r.advanceCall t rest call

/-- One atomic step of one thread. -/
def step (r : TaskRunner Thread) : Thread × TaskOp → Except TaskWait (TaskRunner Thread)
  | (t, .advance) => r.advance t
  | (t, op) =>
    if inApplication (r.calls t) then
      let stack := r.calls t
      match op with
      | .beginSchedule key mtx =>
        .ok (({ r with count := r.count + 1 }.modStorage r.count fun _ => { key, mtx }).setStack t
          (.scheduleLock r.count :: stack))
      | .beginCancel storage =>
        if r.returned storage then .ok (r.setStack t (.cancelTry storage :: stack))
        else .error .blocked
      | .beginRunOnce now =>
        .ok ((r.setInRunner t true).setStack t (.collectLock now :: stack))
      | .lockSession mtx =>
        match r.sessions mtx with
        | none => .ok { r with sessions := Function.update r.sessions mtx (some (t, 1)) }
        | some (owner, depth) =>
          if owner = t then
            .ok { r with sessions := Function.update r.sessions mtx (some (t, depth + 1)) }
          else .error .blocked
      | .unlockSession mtx =>
        match r.sessions mtx with
        | some (owner, depth) =>
          if owner = t then
            .ok { r with
              sessions := Function.update r.sessions mtx
                (if depth ≤ 1 then none else some (t, depth - 1)) }
          else .error .blocked
        | none => .error .blocked
      | .advance => .error .blocked
    else .error .blocked

/-- Every operation may be issued by every thread at any time. -/
def system : Machine.System (TaskRunner Thread) (Thread × TaskOp) TaskWait where
  guard _ _ := True
  step := step

instance (r : TaskRunner Thread) (label : Thread × TaskOp) : Decidable (system.guard r label) :=
  inferInstanceAs (Decidable True)

end TaskRunner

end PosixQuic
