import PosixQuic.Model.System

/-! # What the reader of a stream has been told

The history of one registration, of stream `t` under descriptor `fd` in epoller `e`: whether `Poll` has
reported `POLLIN` for it and no `Readv` has answered `EAGAIN` since, and whether libquic is between the two
callbacks with which it announces the end of the stream. Nothing in the library depends on it.
-/

namespace PosixQuic

structure ReadWatch where
  world : World := {}
  reported : Bool := false
  ending : Bool := false

namespace ReadWatch

variable (e : EpollerId) (fd : Fd) (t : StreamId)

/-- A new registration starts without a report. -/
def recordReport (c : ReadWatch) (action : Action) (result : CallResult) : Bool :=
  match action with
  | .poll e' maxevents =>
    if e' = e ∧ (c.world.epollers e').live = true then
      c.reported || (c.world.poll e' maxevents).1.any fun event => event.source = .stream t && event.events.pollin
    else c.reported
  | .readv stream _ =>
    if c.world.fdManager stream = some (.stream t) ∧ result.errno = some .eagain then false else c.reported
  | .epollAdd e' fd' _ _ _ => if e' = e ∧ fd' = fd ∧ result = .ok then false else c.reported
  | _ => c.reported

def recordEnding (c : ReadWatch) : Action → Bool
  | .streamFinRead t' => t' = t || c.ending
  | .streamReceived t' _ => if t' = t then false else c.ending
  | _ => c.ending

def step (c : ReadWatch) (action : Action) : Run ReadWatch := do
  let (result, world) ← c.world.perform action
  return { world, reported := c.recordReport e fd t action result, ending := c.recordEnding t action }

/-- The runs of the library with the history of one registration. -/
def system : Machine.System ReadWatch Action Fault where
  guard c action := c.world.admits action = true
  step := step e fd t

instance (c : ReadWatch) (action : Action) : Decidable ((system e fd t).guard c action) :=
  inferInstanceAs (Decidable (c.world.admits action = true))

end ReadWatch

end PosixQuic
