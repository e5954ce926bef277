import PosixQuic.Machine.Reachable
import PosixQuic.Model.Basic
import Mathlib.Data.List.AList

/-! # An `Event` that several threads use

Threads call `SetReadable`, `SetWritable`, `SetError`, `StartWait`, `StopWait` and `ClearWaitingsByClose` on one
`Event`, each access to its fields a step of its own. The flags are written and read without a lock; the map of the
waiters is read and written under `mtx_`. A waiter is a name for the pair of pointers that `StartWait` gets: the mask
behind the first does not change, the bits behind the second are set here and cleared by `Poll`. The trigger pass
visits the waiters in the order of the map, which the label gives. `began` and `log` are history that nothing reads;
the newest record comes first, and `began` is the length of `log` when `StartWait` was called.
-/

namespace PosixQuic

/-- A waiter in `waitings_`, with the start of the `StartWait` that put it there. -/
structure Registered (Waiter : Type) where
  waiter : Waiter
  began : Nat
deriving DecidableEq, Repr

/-- What a thread does next. -/
inductive EventCall (Trigger Waiter : Type) where
  | idle
  | writeReadable (b : Bool)
  | writeWritable (b : Bool)
  | checkError (err quicErr : Int)
  | writeError (err quicErr : Int)
  | trigger (bit : PollBit)
  | passing (bit : PollBit) (rest : List Trigger)
  | startWait (trigger : Trigger) (waiter : Waiter) (began : Nat)
  | starting (unread : List PollBit) (trigger : Trigger) (waiter : Waiter) (began : Nat)
  | stopWait (trigger : Trigger)
  | checkClose
  | closing
  | clearing
deriving DecidableEq, Repr

inductive EventRecord (Trigger Waiter : Type) where
  | set (waiter : Waiter) (bit : PollBit)
  | taken (waiter : Waiter) (mask : PollMask)
  | triggered (trigger : Trigger) (bit : PollBit)
  | started (trigger : Trigger) (waiter : Waiter)
  | cleared
deriving DecidableEq, Repr

structure SharedEvent (Thread Trigger Waiter : Type) where
  readable : Bool := false
  writable : Bool := false
  error : Int := 0
  quicErrorCode : Int := 0
  waitings : AList (fun _ : Trigger => Registered Waiter) := ∅
  closeTrigger : Bool := false
  mtx : Option Thread := none
  revents : Waiter → PollMask := fun _ => {}
  calls : Thread → EventCall Trigger Waiter := fun _ => .idle
  log : List (EventRecord Trigger Waiter) := []

inductive EventAction (Thread Trigger Waiter : Type) where
  | setReadable (thread : Thread) (b : Bool)
  | setWritable (thread : Thread) (b : Bool)
  | setError (thread : Thread) (err quicErr : Int)
  | startWait (thread : Thread) (trigger : Trigger) (waiter : Waiter)
  | stopWait (thread : Thread) (trigger : Trigger)
  | clearWaitingsByClose (thread : Thread)
  | pass (thread : Thread) (bit : PollBit) (order : List Trigger)
  | advance (thread : Thread)
  | take (waiter : Waiter) (mask : PollMask)
deriving Repr

namespace PollMask

/-- Whether a waiter with this mask is to hear of the bit: of an error always. -/
def asks (events : PollMask) (bit : PollBit) : Bool := (events.set .pollerr).has bit

end PollMask

namespace EventCall

variable {Trigger Waiter : Type}

/-- The step waits for `mtx_`. -/
def needsLock : EventCall Trigger Waiter → Bool
  | trigger _ | startWait _ _ _ | stopWait _ | closing => true
  | idle | writeReadable _ | writeWritable _ | checkError _ _ | writeError _ _ | passing _ _ | starting _ _ _ _
  | checkClose | clearing => false

end EventCall

namespace SharedEvent

variable {Thread Trigger Waiter : Type} [DecidableEq Thread] [DecidableEq Trigger] [DecidableEq Waiter]

/-- `Readable`, `Writable` and `Error`. -/
def flag (n : SharedEvent Thread Trigger Waiter) : PollBit → Bool
  | .pollin => n.readable
  | .pollout => n.writable
  | .pollerr => n.error != 0

def setCall (n : SharedEvent Thread Trigger Waiter) (thread : Thread) (call : EventCall Trigger Waiter) :
    SharedEvent Thread Trigger Waiter :=
  { n with calls := Function.update n.calls thread call }

/-- An `or` on the `revents` of a waiter. -/
def setBit (n : SharedEvent Thread Trigger Waiter) (waiter : Waiter) (bit : PollBit) :
    SharedEvent Thread Trigger Waiter :=
  { n with
    revents := Function.update n.revents waiter ((n.revents waiter).set bit)
    log := .set waiter bit :: n.log }

variable (events : Waiter → PollMask)

/-- One of the three tests of `StartWait`. -/
def readFlag (n : SharedEvent Thread Trigger Waiter) (waiter : Waiter) (bit : PollBit) :
    SharedEvent Thread Trigger Waiter :=
  if (events waiter).asks bit && n.flag bit then n.setBit waiter bit else n

/-- `StartWait` stores the waiter, over another of the same trigger. -/
def enlist (n : SharedEvent Thread Trigger Waiter) (trigger : Trigger) (waiter : Waiter) (began : Nat) :
    SharedEvent Thread Trigger Waiter :=
  { n with
    waitings := n.waitings.insert trigger ⟨waiter, began⟩
    mtx := none
    log := .started trigger waiter :: n.log }

/-- An iteration of `TriggerWithoutLock`. -/
def visit (n : SharedEvent Thread Trigger Waiter) (trigger : Trigger) (bit : PollBit) :
    SharedEvent Thread Trigger Waiter :=
  match n.waitings.lookup trigger with
  | none => n
  | some registered =>
    if (events registered.waiter).asks bit then
      let n := n.setBit registered.waiter bit
      { n with log := .triggered trigger bit :: n.log }
    else n

/-- The next step of a thread's call. -/
def advance (n : SharedEvent Thread Trigger Waiter) (thread : Thread) : SharedEvent Thread Trigger Waiter :=
  match n.calls thread with
  | .idle | .trigger _ => n
  | .writeReadable b => { n with readable := b }.setCall thread (.trigger .pollin)
  | .writeWritable b => { n with writable := b }.setCall thread (.trigger .pollout)
  | .checkError err quicErr => n.setCall thread (if n.error = 0 then .writeError err quicErr else .idle)
  | .writeError err quicErr => { n with error := err, quicErrorCode := quicErr }.setCall thread (.trigger .pollerr)
  | .passing _ [] => { n with mtx := none }.setCall thread .idle
  | .passing bit (trigger :: rest) => (n.visit events trigger bit).setCall thread (.passing bit rest)
  | .startWait trigger waiter began =>
    -- with `closeTrigger_` set it returns false
    if n.closeTrigger then n.setCall thread .idle
    else { n with mtx := some thread }.setCall thread (.starting [.pollin, .pollout, .pollerr] trigger waiter began)
  | .starting (bit :: unread) trigger waiter began =>
    (n.readFlag events waiter bit).setCall thread (.starting unread trigger waiter began)
  | .starting [] trigger waiter began => (n.enlist trigger waiter began).setCall thread .idle
  | .stopWait trigger => { n with waitings := n.waitings.erase trigger }.setCall thread .idle
  | .checkClose =>
    if n.closeTrigger then { n with log := .cleared :: n.log }.setCall thread .idle else n.setCall thread .closing
  | .closing =>
    if n.closeTrigger then { n with log := .cleared :: n.log }.setCall thread .idle
    else { n with closeTrigger := true, mtx := some thread }.setCall thread .clearing
  | .clearing => { n with waitings := ∅, mtx := none, log := .cleared :: n.log }.setCall thread .idle

def step (n : SharedEvent Thread Trigger Waiter) : EventAction Thread Trigger Waiter → SharedEvent Thread Trigger Waiter
  | .setReadable thread b => n.setCall thread (.writeReadable b)
  | .setWritable thread b => n.setCall thread (.writeWritable b)
  | .setError thread err quicErr => n.setCall thread (.checkError err quicErr)
  | .startWait thread trigger waiter => n.setCall thread (.startWait trigger waiter n.log.length)
  | .stopWait thread trigger => n.setCall thread (.stopWait trigger)
  | .clearWaitingsByClose thread => n.setCall thread .checkClose
  | .pass thread bit order => { n with mtx := some thread }.setCall thread (.passing bit order)
  | .advance thread => n.advance events thread
  | .take waiter mask =>
    { n with
      revents := Function.update n.revents waiter ((n.revents waiter).diff mask)
      log := .taken waiter mask :: n.log }

/-- A call needs an idle thread, and a step that takes `mtx_` needs it free. -/
def admits (n : SharedEvent Thread Trigger Waiter) : EventAction Thread Trigger Waiter → Bool
  | .setReadable thread _ | .setWritable thread _ | .setError thread _ _ | .startWait thread _ _ | .stopWait thread _
  | .clearWaitingsByClose thread => n.calls thread = .idle
  | .pass thread bit order => n.calls thread = .trigger bit && n.mtx.isNone && decide (order.Perm n.waitings.keys)
  | .advance thread => !(n.calls thread).needsLock || n.mtx.isNone
  | .take _ _ => true

variable (Thread Trigger) in
def system : Machine.System (SharedEvent Thread Trigger Waiter) (EventAction Thread Trigger Waiter) Empty where
  guard n action := n.admits action = true
  step n action := .ok (n.step events action)

instance (n : SharedEvent Thread Trigger Waiter) (action : EventAction Thread Trigger Waiter) :
    Decidable ((system Thread Trigger events).guard n action) :=
  inferInstanceAs (Decidable (n.admits action = true))

end SharedEvent

end PosixQuic
