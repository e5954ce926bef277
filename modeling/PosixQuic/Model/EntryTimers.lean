import PosixQuic.Model.System
import PosixQuic.Model.TaskProxy

/-! # Entries with their task runner proxies

The library together with the `QuicTaskRunnerProxy` of each entry and what the proxy has in the task runners of the
epollers; the runner of an epoller has the epoller's name. An action that links an entry to an epoller, or unlinks
it, does so with the entry's proxy, which walks its `storages_` in an order that the label gives. Between actions the
session of an entry schedules and cancels tasks on its proxy, and epollers run what is due.
-/

namespace PosixQuic

/-- `Link` and `Unlink` are the library's own calls. -/
def ProxyOp.ofSession : ProxyOp → Bool
  | .link .. | .unlink _ => false
  | _ => true

/-- What a proxy goes through that was linked to one runner and is linked to another. -/
def relinking (before after : Option EpollerId) (visits : List LinkVisit) (order : List Nat) : List ProxyOp :=
  if before = after then []
  else (if before.isSome then [.unlink order] else []) ++ after.toList.map fun e => .link e visits

structure EntryTimers where
  world : World := {}
  proxies : SocketId → TaskProxy := fun _ => {}

namespace EntryTimers

inductive Label where
  | act (action : Action) (visits : SocketId → List LinkVisit) (orders : SocketId → List Nat)
  | task (s : SocketId) (op : ProxyOp)

/-- The proxy of an entry after an action that has led to `world`. -/
def follow? (n : EntryTimers) (world : World) (visits : SocketId → List LinkVisit) (orders : SocketId → List Nat)
    (s : SocketId) : Option TaskProxy :=
  TaskProxy.system.replay? (n.proxies s)
    (relinking (n.proxies s).runner (world.sockets s).runner (visits s) (orders s))

/-- A call that faults or never returns ends the run. -/
def step (n : EntryTimers) : Label → Except Unit EntryTimers
  | .act action visits orders =>
    match n.world.perform action with
    | .error _ => .error ()
    | .ok (_, world) =>
      if ∀ s < world.numSockets, (n.follow? world visits orders s).isSome = true then
        .ok { world, proxies := fun s => (n.follow? world visits orders s).getD (n.proxies s) }
      else .error ()
  | .task s op =>
    match (n.proxies s).step op with
    | .error _ => .error ()
    | .ok proxy => .ok { n with proxies := Function.update n.proxies s proxy }

def admits (n : EntryTimers) : Label → Bool
  | .act action _ _ => n.world.admits action
  | .task s op => op.ofSession && decide (s < n.world.numSockets) && (n.proxies s).admits op

def system : Machine.System EntryTimers Label Unit where
  guard n label := n.admits label = true
  step := step

instance (n : EntryTimers) (label : Label) : Decidable (system.guard n label) :=
  inferInstanceAs (Decidable (n.admits label = true))

end EntryTimers

end PosixQuic
