import PosixQuic.Model.TaskRunner

/-! # `QuicTaskRunnerProxy` over any number of runners

One thread schedules and cancels tasks through a proxy, links the proxy to a runner and unlinks it, and calls
`RunOnce` on the runners. Every call is one step, except `RunOnce`, which gives way to whatever the tasks it
runs do, other proxies' tasks included; they may even call `RunOnce` again. A `Storage` of the proxy is named
by its creation order and stands for its task; a `TaskStorage` of a runner is named by its own creation order,
as is its node in `tasks_`. A label says in which order the unordered map `storages_` is walked, and by how
many milliseconds the clock has advanced before each reading. Sums of a reading and a delay are those of
`int64_t` and `uint64_t`.
-/

namespace PosixQuic

/-- A `TaskStorage` of some runner. -/
structure TaskNode where
  task : Nat := 0
  runner : Nat := 0
  invalid : Bool := false
  callLock : Bool := false
deriving DecidableEq, Repr

/-- A `Storage` of the proxy. -/
structure ProxyRecord where
  deadline : Nat := 0
  link : Option Nat := none
deriving DecidableEq, Repr

/-- A `RunOnce` in progress: the tasks it has collected and not started, and the one that is running. -/
structure RunOnceCall where
  triggers : List Nat
  running : Option Nat := none
deriving DecidableEq, Repr

/-- The proxy, its records and `storages_`, the runners, and the calls of `RunOnce` in progress, innermost
first. `due`, `cancelled` and `runs` are the history of each task: when it was to run at the earliest,
whether it was cancelled, and how often it was run. -/
structure TaskProxy where
  clock : Nat := 0
  nodes : Nat → TaskNode := fun _ => {}
  numNodes : Nat := 0
  tasks : Nat → List (Int × Nat) := fun _ => []
  records : Nat → ProxyRecord := fun _ => {}
  numRecords : Nat := 0
  storages : List Nat := []
  runner : Option Nat := none
  inRunner : Bool := false
  calls : List RunOnceCall := []
  due : Nat → Nat := fun _ => 0
  cancelled : Nat → Bool := fun _ => false
  runs : Nat → Nat := fun _ => 0

/-- An iteration of the loop of `Link`, with the advances of the clock before its two readings. -/
structure LinkVisit where
  task : Nat
  tick : Nat := 0
  tick' : Nat := 0
deriving DecidableEq, Repr

inductive ProxyOp where
  | schedule (delay : Nat) (tick : Nat) (tick' : Nat)
  | cancel (task : Nat)
  | link (runner : Nat) (visits : List LinkVisit)
  | unlink (order : List Nat)
  | runOnce (runner : Nat) (tick : Nat)
  | advance
deriving DecidableEq, Repr

/-- `now + delay_ms` as the `uint64_t` member `deadline_`. -/
def deadlineOf (now delay : Nat) : Nat := (now + delay) % 2 ^ 64

/-- `now + delay_ms` as the `int64_t` key of `tasks_`. -/
def keyOf (now delay : Nat) : Int := Int.bmod (now + delay) (2 ^ 64)

/-- The delay with which `Link` schedules a record again. -/
def linkDelay (now deadline : Nat) : Nat := if now > deadline then 0 else deadline - now

/-- The first loop of `RunOnce`: the storages it claims, and what stays in `tasks_`. -/
def collectDue (now : Int) (invalid : Nat → Bool) : List (Int × Nat) → List Nat × List (Int × Nat)
  | [] => ([], [])
  | (key, node) :: rest =>
    if now > key then
      let (triggers, left) := collectDue now invalid rest
      if invalid node then (triggers, (key, node) :: left) else (node :: triggers, left)
    else ([], (key, node) :: rest)

namespace TaskProxy

def modNode (p : TaskProxy) (node : Nat) (f : TaskNode → TaskNode) : TaskProxy :=
  { p with nodes := Function.update p.nodes node (f (p.nodes node)) }

def setLink (p : TaskProxy) (task : Nat) (link : Option Nat) : TaskProxy :=
  { p with records := Function.update p.records task { p.records task with link } }

/-- `QuicTaskRunner::Schedule` for a record, with the resulting `ScheduledTask` stored in its `link_`. -/
def runnerSchedule (p : TaskProxy) (task runner delay tick : Nat) : TaskProxy :=
  let now := p.clock + tick
  let node := p.numNodes
  { p with
    clock := now
    nodes := Function.update p.nodes node { task, runner }
    numNodes := node + 1
    tasks := Function.update p.tasks runner (insertTask (keyOf now delay) node (p.tasks runner)) }.setLink task
      (some node)

/-- `ScheduledTask::Cancel`. -/
def scheduledCancel (p : TaskProxy) (node : Nat) : Except TaskWait TaskProxy :=
  if !(p.nodes node).invalid then
    let runner := (p.nodes node).runner
    .ok { p.modNode node fun storage => { storage with invalid := true } with
      tasks := Function.update p.tasks runner (eraseTask node (p.tasks runner)) }
  else if p.inRunner then .ok p
  else if (p.nodes node).callLock then .error .blocked
  else .ok (p.modNode node fun storage => { storage with callLock := true })

/-- Cancel a record's `link_` and reset it, if there is one. -/
def dropLink (p : TaskProxy) (task : Nat) : Except TaskWait TaskProxy :=
  match (p.records task).link with
  | none => .ok p
  | some node => do
    let p ← p.scheduledCancel node
    return p.setLink task none

/-- `QuicTaskRunnerProxy::Schedule`. -/
def schedule (p : TaskProxy) (delay tick tick' : Nat) : TaskProxy :=
  let now := p.clock + tick
  let task := p.numRecords
  let p := { p with
    clock := now
    records := Function.update p.records task { deadline := deadlineOf now delay }
    numRecords := task + 1
    storages := p.storages ++ [task]
    due := Function.update p.due task (now + delay) }
  match p.runner with
  | none => p
  | some runner => p.runnerSchedule task runner delay tick'

/-- `ProxyScheduledTask::Cancel`; only the first call has a storage to take out of `storages_`. -/
def cancel (p : TaskProxy) (task : Nat) : Except TaskWait TaskProxy :=
  if task ∈ p.storages then do
    let p ← p.dropLink task
    return { p with storages := p.storages.filter (· ≠ task) }
  else .ok p

/-- The body of the loop of `Link`. -/
def linkOne (p : TaskProxy) (runner : Nat) (visit : LinkVisit) : TaskProxy :=
  let now := p.clock + visit.tick
  { p with clock := now }.runnerSchedule visit.task runner
    (linkDelay now (p.records visit.task).deadline) visit.tick'

/-- The loop of `Link`. -/
def linkAll (runner : Nat) (visits : List LinkVisit) (p : TaskProxy) : TaskProxy :=
  visits.foldl (fun p visit => p.linkOne runner visit) p

/-- `QuicTaskRunnerProxy::Link`. -/
def link (p : TaskProxy) (runner : Nat) (visits : List LinkVisit) : TaskProxy :=
  match p.runner with
  | some _ => p
  | none => linkAll runner visits { p with runner := some runner }

/-- The loop of `Unlink`. -/
def unlinkAll : List Nat → TaskProxy → Except TaskWait TaskProxy
  | [], p => .ok p
  | task :: rest, p => do
    let p ← p.dropLink task
    unlinkAll rest p

/-- `QuicTaskRunnerProxy::Unlink`. -/
def unlink (p : TaskProxy) (order : List Nat) : Except TaskWait TaskProxy :=
  match p.runner with
  | none => .ok p
  | some _ => do
    let p ← unlinkAll order p
    return { p with runner := none }

/-- `RunOnce` up to its second loop. -/
def runOnce (p : TaskProxy) (runner tick : Nat) : TaskProxy :=
  let now := p.clock + tick
  let (triggers, left) := collectDue now (fun node => (p.nodes node).invalid) (p.tasks runner)
  { p with
    clock := now
    inRunner := true
    tasks := Function.update p.tasks runner left
    nodes := fun node => if node ∈ triggers then { p.nodes node with invalid := true } else p.nodes node
    calls := { triggers } :: p.calls }

/-- The second loop of `RunOnce`: a task starts or is skipped, the running task returns, or the loop ends. The
session's mutex is recursive and no other thread holds it. -/
def advance (p : TaskProxy) : TaskProxy :=
  match p.calls with
  | [] => p
  | ⟨triggers, some node⟩ :: outer =>
    { p.modNode node fun storage => { storage with callLock := false } with calls := { triggers } :: outer }
  | ⟨node :: rest, none⟩ :: outer =>
    if (p.nodes node).callLock then { p with calls := { triggers := rest } :: outer }
    else
      let task := (p.nodes node).task
      { p.modNode node fun storage => { storage with callLock := true } with
        calls := { triggers := rest, running := some node } :: outer
        runs := Function.update p.runs task (p.runs task + 1) }
  | ⟨[], none⟩ :: outer => { p with calls := outer, inRunner := false }

def step (p : TaskProxy) : ProxyOp → Except TaskWait TaskProxy
  | .schedule delay tick tick' => .ok (p.schedule delay tick tick')
  | .cancel task => do
    let p ← p.cancel task
    return { p with cancelled := Function.update p.cancelled task true }
  | .link runner visits => .ok (p.link runner visits)
  | .unlink order => p.unlink order
  | .runOnce runner tick => .ok (p.runOnce runner tick)
  | .advance => .ok p.advance

/-- The storages that calls of `RunOnce` in progress have collected and not yet come to. -/
def collected (p : TaskProxy) : List Nat := p.calls.flatMap RunOnceCall.triggers

/-- A task's nodes in the `tasks_` of a runner. -/
def nodesOf (p : TaskProxy) (runner task : Nat) : List (Int × Nat) :=
  (p.tasks runner).filter fun entry => (p.nodes entry.2).task = task

/-- Microseconds in an `int64_t` are fewer milliseconds than this. -/
def clockBound : Nat := 2 ^ 54

/-- A handle to cancel exists, `storages_` is walked in some order, and the clock stays in its range. -/
def admits (p : TaskProxy) (op : ProxyOp) : Bool :=
  (match op with
    | .cancel task => decide (task < p.numRecords)
    | .link _ visits => p.runner.isSome || (visits.map LinkVisit.task).isPerm p.storages
    | .unlink order => p.runner.isNone || order.isPerm p.storages
    | _ => true) &&
  (match p.step op with
    | .ok p' => decide (p'.clock < clockBound)
    | .error _ => true)

def system : Machine.System TaskProxy ProxyOp TaskWait where
  guard p op := p.admits op = true
  step := step

instance (p : TaskProxy) (op : ProxyOp) : Decidable (system.guard p op) :=
  inferInstanceAs (Decidable (p.admits op = true))

end TaskProxy

end PosixQuic
