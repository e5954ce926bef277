import PosixQuic.Model.Notification

/-! # The timeout of `QuicEpollerEntry::Wait`

`Notification` follows the thread in `Wait` from its first `Poll` to its last; here the loop between the two is
added, with the deadline, the slices of ten milliseconds and the answers of `epoll_wait`. The clock is the one
`NowMS` reads, in milliseconds. Time passes between any two steps, and while `epoll_wait` blocks.
-/

namespace PosixQuic

/-- Where `Wait` is between its two `Poll`s, with the variables of the loop. `ended` keeps whether `epoll_wait`
had returned a positive count. -/
inductive WaitLoop where
  | unset
  | turning (deadline : Int)
  | blocked (deadline timeRemain onceTimeout : Int)
  | ended (fired : Bool)
deriving DecidableEq, Repr

/-- What `epoll_wait` answers: `EINTR`, another error, zero after the given time, or a positive count, which
`socketPair_[0]` may be part of. -/
inductive EpollAnswer where
  | interrupted
  | failed
  | timedOut (elapsed : Nat)
  | fired (notified : Bool)
deriving DecidableEq, Repr

/-- An epoller with the thread in its `Wait`; `began` and `result` are the time of the last call and what it has
returned. -/
structure TimedWait (Thread : Type) where
  notification : Notification Thread := {}
  clock : Int := 0
  loop : WaitLoop := .unset
  timeout : Int := 0
  began : Int := 0
  result : Option Int := none

inductive WaitLabel (Thread : Type) where
  | other (action : NotifyAction Thread)
  | tick (elapsed : Nat)
  | wait (maxevents : Nat) (timeout : Int) (order : List Fd)
  | poll
  | setDeadline
  | turn
  | epollWait (answer : EpollAnswer)
  | clear
  | pollAgain (order : List Fd)
deriving Repr

/-- Not a step of `Wait`. -/
def NotifyAction.isOther {Thread : Type} : NotifyAction Thread → Bool
  | .add .. | .del _ | .trigger .. | .mod .. | .timer _ | .advance _ => true
  | .wait .. | .poll | .epollWaitReturns _ | .epollWaitFails | .clear | .pollAgain _ => false

namespace TimedWait

variable {Thread : Type}

/-- The epoller has just been created. -/
def created (clock : Int) : TimedWait Thread := { clock, began := clock }

/-- The count that `Wait` returns with this step of `Poll`, if it does. -/
def returned (before after : Notification Thread) : Option Int :=
  match before.waiter, after.waiter with
  | .polling _ _ _ count, .outside => some count
  | _, _ => none

variable [DecidableEq Thread]

/-- The part of the loop that follows `epoll_wait`. -/
def epollWaitReturns (r : TimedWait Thread) (deadline timeRemain onceTimeout : Int) : EpollAnswer → TimedWait Thread
  | .interrupted => r
  | .failed => { r with notification := r.notification.step .epollWaitFails, result := some (-1) }
  | .fired notified =>
    { r with notification := r.notification.step (.epollWaitReturns notified), loop := .ended true }
  | .timedOut elapsed =>
    if onceTimeout = 0 ∨ timeRemain = onceTimeout then
      { r with
        clock := r.clock + elapsed
        notification := r.notification.step (.epollWaitReturns false)
        loop := .ended false }
    else { r with clock := r.clock + elapsed, loop := .turning deadline }

def step (r : TimedWait Thread) : WaitLabel Thread → TimedWait Thread
  | .other action => { r with notification := r.notification.step action }
  | .tick elapsed => { r with clock := r.clock + elapsed }
  | .wait maxevents timeout order =>
    { r with
      notification := r.notification.step (.wait maxevents order)
      loop := .unset
      timeout
      began := r.clock
      result := none }
  | .poll =>
    let notification := r.notification.step .poll
    { r with notification, result := returned r.notification notification }
  | .setDeadline => { r with loop := .turning (r.clock + r.timeout) }
  | .turn =>
    match r.loop with
    | .turning deadline =>
      -- what `RunOnce` triggers here is a step of the others
      let timeRemain := if deadline > r.clock then deadline - r.clock else 0
      { r with loop := .blocked deadline timeRemain (min timeRemain 10) }
    | _ => r
  | .epollWait answer =>
    match r.loop with
    | .blocked deadline timeRemain onceTimeout => r.epollWaitReturns deadline timeRemain onceTimeout answer
    | _ => r
  | .clear => { r with notification := r.notification.step .clear }
  | .pollAgain order => { r with notification := r.notification.step (.pollAgain order) }

/-- `epoll_wait` returns zero only after the slice it was given, and the notification only if it is armed. -/
def answers (n : Notification Thread) (onceTimeout : Int) : EpollAnswer → Bool
  | .interrupted | .failed => true
  | .timedOut elapsed => onceTimeout ≤ elapsed
  | .fired notified => n.admits (.epollWaitReturns notified)

def admits (r : TimedWait Thread) : WaitLabel Thread → Bool
  | .other action => action.isOther && r.notification.admits action
  | .tick _ => true
  | .wait maxevents _ order => r.notification.admits (.wait maxevents order)
  | .poll => r.notification.admits .poll
  | .setDeadline => Notification.isWaiting r.notification.waiter && r.loop = .unset
  | .turn =>
    match r.loop with
    | .turning _ => Notification.isWaiting r.notification.waiter
    | _ => false
  | .epollWait answer =>
    match r.loop with
    | .blocked _ _ onceTimeout =>
      Notification.isWaiting r.notification.waiter && answers r.notification onceTimeout answer
    | _ => false
  | .clear => r.notification.admits .clear
  | .pollAgain order => r.notification.admits (.pollAgain order)

variable (Thread) in
def system : Machine.System (TimedWait Thread) (WaitLabel Thread) Empty where
  guard r label := r.admits label = true
  step r label := .ok (r.step label)

instance (r : TimedWait Thread) (label : WaitLabel Thread) : Decidable ((system Thread).guard r label) :=
  inferInstanceAs (Decidable (r.admits label = true))

end TimedWait

end PosixQuic
