import PosixQuic.Machine.Reachable
import PosixQuic.Model.World

/-! # `Poll` among triggers and changes of registrations

The registrations of one epoller, and threads that add, modify and delete them, trigger events and call `Poll`. Each
`or` and `and` on `revents` is a step of its own: a trigger reads the mask of the waiter in one step and sets the
bit in another, `ModInner` stores mask and data before it sets `POLLOUT`, and `Poll` visits one registration at a time,
in the order of the buckets of `fds_`, which the label gives. `mtx_` is held over the whole of `Poll` and `ModInner`.
The mutex of the triggered `Event` is left out. `log` is the history of the table, newest first; nothing reads it.
-/

namespace PosixQuic

namespace PollMask

def bits (mask : PollMask) : List PollBit := [.pollin, .pollout, .pollerr].filter mask.has

theorem mem_bits {mask : PollMask} {bit : PollBit} : bit ∈ mask.bits ↔ mask.has bit = true := by
  have listed : bit ∈ [PollBit.pollin, .pollout, .pollerr] := by cases bit <;> decide
  simp [bits, listed]

end PollMask

namespace QuicEpollEvent

/-- The bits that `Poll` looks at. -/
def reportable (qev : QuicEpollEvent) : PollMask := qev.events.set .pollerr

/-- The bits that `Poll` reports. -/
def taken (qev : QuicEpollEvent) : PollMask := qev.revents.inter qev.reportable

/-- The registration after the `and` of `Poll`. -/
def left (qev : QuicEpollEvent) : QuicEpollEvent := { qev with revents := qev.revents.diff qev.reportable }

/-- The registration after an `or`. -/
def announce (qev : QuicEpollEvent) (bit : PollBit) : QuicEpollEvent := { qev with revents := qev.revents.set bit }

end QuicEpollEvent

/-- An element of the caller's array that `Poll` has written, and the descriptor it was written for. -/
structure PollSlot where
  fd : Fd
  data : Nat
  events : PollMask
deriving DecidableEq, Repr

/-- What a thread does next. -/
inductive TableCall where
  | idle
  | triggerOr (fd : Fd) (bit : PollBit)
  | modOr (fd : Fd)
  | polling (maxevents : Int) (rest : List Fd) (slots : List PollSlot)
  | returned (maxevents value : Int) (slots : List PollSlot)
deriving DecidableEq, Repr

inductive PollRecord where
  | registered (fd : Fd) (events : PollMask) (data : Nat)
  | modified (fd : Fd) (events : PollMask) (data : Nat)
  | set (fd : Fd) (bit : PollBit)
  | reported (fd : Fd) (bit : PollBit)
deriving DecidableEq, Repr

structure PollTable (Thread : Type) where
  fds : AList (fun _ : Fd => QuicEpollEvent) := ∅
  mtx : Option Thread := none
  calls : Thread → TableCall := fun _ => .idle
  log : List PollRecord := []

inductive TableAction (Thread : Type) where
  | add (fd : Fd) (events : PollMask) (data : Nat) (readable writable error : Bool)
  | del (fd : Fd)
  | trigger (thread : Thread) (fd : Fd) (bit : PollBit)
  | mod (thread : Thread) (fd : Fd) (events : PollMask) (data : Nat)
  | poll (thread : Thread) (maxevents : Int) (order : List Fd)
  | advance (thread : Thread)
deriving Repr

namespace PollTable

variable {Thread : Type} [DecidableEq Thread]

def setCall (n : PollTable Thread) (thread : Thread) (call : TableCall) : PollTable Thread :=
  { n with calls := Function.update n.calls thread call }

theorem setCall_self (n : PollTable Thread) (thread : Thread) (call : TableCall) :
    (n.setCall thread call).calls thread = call := Function.update_self ..

theorem setCall_of_ne (n : PollTable Thread) {thread other : Thread} (call : TableCall) (differs : other ≠ thread) :
    (n.setCall thread call).calls other = n.calls other := Function.update_of_ne differs ..

/-- A new registration, with the bits that `StartWait` sets. -/
def add (n : PollTable Thread) (fd : Fd) (events : PollMask) (data : Nat) (readable writable error : Bool) :
    PollTable Thread :=
  let revents : PollMask :=
    { pollin := events.pollin && readable, pollout := events.pollout && writable, pollerr := error }
  { n with
    fds := n.fds.insert fd { events, data, revents }
    log := revents.bits.map (PollRecord.set fd) ++ .registered fd events data :: n.log }

/-- `TriggerWithoutLock` up to its check of the mask. -/
def trigger (n : PollTable Thread) (thread : Thread) (fd : Fd) (bit : PollBit) : PollTable Thread :=
  match n.fds.lookup fd with
  | none => n
  | some qev => if qev.reportable.has bit then n.setCall thread (.triggerOr fd bit) else n

/-- `ModInner` up to its `or`. -/
def mod (n : PollTable Thread) (thread : Thread) (fd : Fd) (events : PollMask) (data : Nat) : PollTable Thread :=
  match n.fds.lookup fd with
  | none => n
  | some qev =>
    let n := { n with fds := n.fds.insert fd { qev with events, data }, log := .modified fd events data :: n.log }
    if events.pollout then { n with mtx := some thread }.setCall thread (.modOr fd) else n

/-- An atomic `or` on the `revents` of a registration. -/
def setBit (n : PollTable Thread) (fd : Fd) (bit : PollBit) : PollTable Thread :=
  match n.fds.lookup fd with
  | none => n
  | some qev => { n with fds := n.fds.insert fd (qev.announce bit), log := .set fd bit :: n.log }

/-- An iteration of the loop of `Poll`. -/
def visit (n : PollTable Thread) (thread : Thread) (maxevents : Int) (fd : Fd) (rest : List Fd)
    (slots : List PollSlot) : PollTable Thread :=
  match n.fds.lookup fd with
  | none => n.setCall thread (.polling maxevents rest slots)
  | some qev =>
    let slots := if qev.taken = {} then slots else slots ++ [⟨fd, qev.data, qev.taken⟩]
    let n := { n with fds := n.fds.insert fd qev.left, log := qev.taken.bits.map (PollRecord.reported fd) ++ n.log }
    n.setCall thread (.polling maxevents rest slots)

/-- `Poll` returns the number of events that it has stored. -/
def pollReturns (n : PollTable Thread) (thread : Thread) (maxevents : Int) (slots : List PollSlot) :
    PollTable Thread :=
  { n with mtx := none }.setCall thread (.returned maxevents slots.length slots)

/-- The next step of a thread's call. -/
def advance (n : PollTable Thread) (thread : Thread) : PollTable Thread :=
  match n.calls thread with
  | .idle => n
  | .triggerOr fd bit => (n.setBit fd bit).setCall thread .idle
  | .modOr fd => { n.setBit fd .pollout with mtx := none }.setCall thread .idle
  | .polling maxevents [] slots => n.pollReturns thread maxevents slots
  | .polling maxevents (fd :: rest) slots =>
    if (slots.length : Int) ≥ maxevents then n.pollReturns thread maxevents slots
    else n.visit thread maxevents fd rest slots
  | .returned _ _ _ => n.setCall thread .idle

def step (n : PollTable Thread) : TableAction Thread → PollTable Thread
  | .add fd events data readable writable error => n.add fd events data readable writable error
  | .del fd => { n with fds := n.fds.erase fd }
  | .trigger thread fd bit => n.trigger thread fd bit
  | .mod thread fd events data => n.mod thread fd events data
  | .poll thread maxevents order => { n with mtx := some thread }.setCall thread (.polling maxevents order [])
  | .advance thread => n.advance thread

/-- A call needs an idle thread, and all but triggers the lock; `Add` of a live registration changes nothing. -/
def admits (n : PollTable Thread) : TableAction Thread → Bool
  | .add fd _ _ _ _ _ => n.mtx.isNone && (n.fds.lookup fd).isNone
  | .del _ => n.mtx.isNone
  | .trigger thread _ _ => n.calls thread = .idle
  | .mod thread _ _ _ => n.calls thread = .idle && n.mtx.isNone
  | .poll thread _ order => n.calls thread = .idle && n.mtx.isNone && decide (order.Perm n.fds.keys)
  | .advance _ => true

variable (Thread) in
def system : Machine.System (PollTable Thread) (TableAction Thread) Empty where
  guard n action := n.admits action = true
  step n action := .ok (n.step action)

instance (n : PollTable Thread) (action : TableAction Thread) : Decidable ((system Thread).guard n action) :=
  inferInstanceAs (Decidable (n.admits action = true))

end PollTable

end PosixQuic
