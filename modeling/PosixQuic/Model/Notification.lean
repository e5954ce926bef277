import PosixQuic.Machine.Reachable
import PosixQuic.Model.World

/-! # Waking the thread in `QuicEpollerEntry::Wait`, step by step

One thread runs `Wait` while any number of others trigger events, change registrations and, as
`timerNotifyThread_` does, call `Notify`. The atomic steps are those of the source: the `or` into `revents`,
the test-and-set of `notifyProtect_`, the `EPOLL_CTL_MOD` that arms the edge-triggered `socketPair_[0]`, the
return of `epoll_wait` that disarms it, `notifyProtect_.clear`, and the `and` of `Poll` for one descriptor.
`mtx_` is held over a whole `Poll`, `ModInner`, `AddInner` and `DelInner`. The mutex of the triggered `Event`
is left out, so `DelInner` may come between two steps of a trigger. What the waiting thread triggers itself,
in `RunOnce` and while it processes datagrams, is a trigger of some other thread here.
-/

namespace PosixQuic

/-- A registration, with the bits of `revents` that a trigger or `ModInner` has set and no `Poll` has taken. -/
structure Watched extends QuicEpollEvent where
  announced : PollMask := {}
deriving DecidableEq, Repr

namespace Watched

/-- The bits `Poll` reports. -/
def reportable (watched : Watched) : PollMask := watched.events.set .pollerr

/-- The atomic `or` of a trigger or of `ModInner`. -/
def announce (watched : Watched) (bit : PollBit) : Watched :=
  { watched with revents := watched.revents.set bit, announced := watched.announced.set bit }

/-- The atomic `and` of `Poll`. -/
def take (watched : Watched) : Watched :=
  { watched with
    revents := watched.revents.diff watched.reportable
    announced := watched.announced.diff watched.reportable }

end Watched

/-- The next step of a thread. `inMod` says that `Notify` was called by `ModInner`, which holds `mtx_`. -/
inductive NotifyCall where
  | idle
  | triggerOr (fd : Fd) (bit : PollBit)
  | modOr (fd : Fd)
  | testAndSet (inMod : Bool)
  | rearm (inMod : Bool)
deriving DecidableEq, Repr

/-- Where the waiting thread is. `polling first` is inside `Poll`, with the registrations it has still to
visit and the number of events it has stored. -/
inductive Waiter where
  | outside
  | polling (first : Bool) (maxevents : Nat) (rest : List Fd) (count : Nat)
  | waiting (maxevents : Nat)
  | returned (maxevents : Nat)
  | cleared (maxevents : Nat)
deriving DecidableEq, Repr

/-- An epoller, the waiting thread and the threads that notify it. -/
structure Notification (Thread : Type) where
  fds : AList (fun _ : Fd => Watched) := ∅
  mtx : Bool := false
  notifyProtect : Bool := false
  armed : Bool := true
  waiter : Waiter := .outside
  calls : Thread → NotifyCall := fun _ => .idle

inductive NotifyAction (Thread : Type) where
  | add (fd : Fd) (events : PollMask) (data : Nat) (ready : PollMask)
  | del (fd : Fd)
  | trigger (thread : Thread) (fd : Fd) (bit : PollBit)
  | mod (thread : Thread) (fd : Fd) (events : PollMask) (data : Nat)
  | timer (thread : Thread)
  | advance (thread : Thread)
  | wait (maxevents : Nat) (order : List Fd)
  | poll
  | epollWaitReturns (notified : Bool)
  | epollWaitFails
  | clear
  | pollAgain (order : List Fd)
deriving Repr

namespace Notification

variable {Thread : Type} [DecidableEq Thread] {waiter : Waiter}

def setCall (n : Notification Thread) (thread : Thread) (call : NotifyCall) : Notification Thread :=
  { n with calls := Function.update n.calls thread call }

/-- Apply `change` to the registration of `fd`, if there is one. -/
def modify (n : Notification Thread) (fd : Fd) (change : Watched → Watched) : Notification Thread :=
  match n.fds.lookup fd with
  | none => n
  | some watched => { n with fds := n.fds.insert fd (change watched) }

/-- `Notify` returns; `ModInner` releases its lock. -/
def leave (n : Notification Thread) (thread : Thread) (inMod : Bool) : Notification Thread :=
  { n.setCall thread .idle with mtx := n.mtx && !inMod }

/-- `TriggerWithoutLock` for the waiter of this epoller, up to the check of its mask. -/
def trigger (n : Notification Thread) (thread : Thread) (fd : Fd) (bit : PollBit) : Notification Thread :=
  match n.fds.lookup fd with
  | none => n
  | some watched => if watched.reportable.has bit then n.setCall thread (.triggerOr fd bit) else n

/-- `ModInner` up to its `or`. -/
def mod (n : Notification Thread) (thread : Thread) (fd : Fd) (events : PollMask) (data : Nat) :
    Notification Thread :=
  match n.fds.lookup fd with
  | none => n
  | some _ =>
    { (n.modify fd fun watched => { watched with events, data }).setCall thread
        (if events.pollout then .modOr fd else .testAndSet true) with
      mtx := true }

/-- The next step of a thread's call. -/
def advance (n : Notification Thread) (thread : Thread) : Notification Thread :=
  match n.calls thread with
  | .idle => n
  | .triggerOr fd bit => (n.modify fd (·.announce bit)).setCall thread (.testAndSet false)
  | .modOr fd => (n.modify fd (·.announce .pollout)).setCall thread (.testAndSet true)
  | .testAndSet inMod =>
    if n.notifyProtect then n.leave thread inMod
    else { n.setCall thread (.rearm inMod) with notifyProtect := true }
  | .rearm inMod => { n.leave thread inMod with armed := true }

/-- `Poll` returns: after the first one, `Wait` goes on only if nothing was stored. -/
def pollReturns (n : Notification Thread) (first : Bool) (maxevents count : Nat) : Notification Thread :=
  { n with mtx := false, waiter := if first && count == 0 then .waiting maxevents else .outside }

/-- One iteration of the loop of `Poll`, or its end. -/
def poll (n : Notification Thread) : Notification Thread :=
  match n.waiter with
  | .polling first maxevents [] count => n.pollReturns first maxevents count
  | .polling first maxevents (fd :: rest) count =>
    if count ≥ maxevents then n.pollReturns first maxevents count
    else
      match n.fds.lookup fd with
      | none => { n with waiter := .polling first maxevents rest count }
      | some watched =>
        let revents := watched.revents.inter watched.reportable
        { n.modify fd Watched.take with
          waiter := .polling first maxevents rest (if revents = {} then count else count + 1) }
  | _ => n

/-- `Poll` starts; it visits `fds_` in the order of its buckets. -/
def beginPoll (n : Notification Thread) (first : Bool) (maxevents : Nat) (order : List Fd) :
    Notification Thread :=
  { n with mtx := true, waiter := .polling first maxevents order 0 }

def step (n : Notification Thread) : NotifyAction Thread → Notification Thread
  | .add fd events data ready => { n with fds := n.fds.insert fd { events, data, revents := ready } }
  | .del fd => { n with fds := n.fds.erase fd }
  | .trigger thread fd bit => n.trigger thread fd bit
  | .mod thread fd events data => n.mod thread fd events data
  | .timer thread => n.setCall thread (.testAndSet false)
  | .advance thread => n.advance thread
  | .wait maxevents order => n.beginPoll true maxevents order
  | .poll => n.poll
  | .epollWaitReturns notified =>
    match n.waiter with
    | .waiting maxevents => { n with waiter := .returned maxevents, armed := n.armed && !notified }
    | _ => n
  | .epollWaitFails => { n with waiter := .outside }
  | .clear =>
    match n.waiter with
    | .returned maxevents => { n with waiter := .cleared maxevents, notifyProtect := false }
    | _ => n
  | .pollAgain order =>
    match n.waiter with
    | .cleared maxevents => n.beginPoll false maxevents order
    | _ => n

def isWaiting : Waiter → Bool
  | .waiting _ => true
  | _ => false

def isReturned : Waiter → Bool
  | .returned _ => true
  | _ => false

def isCleared : Waiter → Bool
  | .cleared _ => true
  | _ => false

def isPolling : Waiter → Bool
  | .polling .. => true
  | _ => false

theorem isWaiting_iff : isWaiting waiter = true ↔ ∃ maxevents, waiter = .waiting maxevents := by
  cases waiter <;> simp [isWaiting]

theorem isReturned_iff : isReturned waiter = true ↔ ∃ maxevents, waiter = .returned maxevents := by
  cases waiter <;> simp [isReturned]

theorem isCleared_iff : isCleared waiter = true ↔ ∃ maxevents, waiter = .cleared maxevents := by
  cases waiter <;> simp [isCleared]

/-- A step of a lock holder needs the lock, a new call an idle thread, and a step of `Wait` its place there. -/
def admits (n : Notification Thread) : NotifyAction Thread → Bool
  | .add fd _ _ _ => !n.mtx && (n.fds.lookup fd).isNone
  | .del _ => !n.mtx
  | .trigger thread _ _ => n.calls thread = .idle
  | .mod thread _ _ _ => n.calls thread = .idle && !n.mtx
  | .timer thread => n.calls thread = .idle
  | .advance _ => true
  | .wait maxevents order => n.waiter = .outside && !n.mtx && decide (1 ≤ maxevents) && decide (order.Perm n.fds.keys)
  | .poll => isPolling n.waiter
  | .epollWaitReturns notified => isWaiting n.waiter && (n.armed || !notified)
  | .epollWaitFails => isWaiting n.waiter
  | .clear => isReturned n.waiter
  | .pollAgain order => isCleared n.waiter && !n.mtx && decide (order.Perm n.fds.keys)

variable (Thread) in
def system : Machine.System (Notification Thread) (NotifyAction Thread) Empty where
  guard n action := n.admits action = true
  step n action := .ok (n.step action)

instance (n : Notification Thread) (action : NotifyAction Thread) : Decidable ((system Thread).guard n action) :=
  inferInstanceAs (Decidable (n.admits action = true))

end Notification

end PosixQuic
