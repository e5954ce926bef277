import PosixQuic.Model.System

/-! # Which descriptors the application has been given

The history of a run that decides who is responsible for a descriptor: the calls that return one, and the
calls that close one. Nothing in the library depends on it.
-/

namespace PosixQuic

namespace Action

/-- The calls that return a descriptor. -/
def gives : Action → Bool
  | .createSocket _ | .socketAccept _ | .createStream .. | .streamAccept _ => true
  | _ => false

/-- The descriptor that the application closes. -/
def closedFd : Action → Option Fd
  | .closeSocket fd | .closeStream fd => some fd
  | _ => none

end Action

/-- The library together with the descriptors, and the entries behind them, that the application was given and
has not closed. -/
structure Custody where
  world : World := {}
  given : List (Fd × EntryPtr) := []

namespace Custody

def record (given : List (Fd × EntryPtr)) (action : Action) (result : CallResult) (after : World) :
    List (Fd × EntryPtr) :=
  if action.gives then
    match after.fdManager result.value with
    | some entry => (result.value, entry) :: given
    | none => given
  else
    match action.closedFd with
    | some fd => if result = .ok then given.filter fun held => held.1 ≠ fd else given
    | none => given

def step (c : Custody) (action : Action) : Run Custody := do
  let (result, world) ← c.world.perform action
  return { world, given := record c.given action result world }

/-- The runs of the library with their history. -/
def system : Machine.System Custody Action Fault where
  guard c action := c.world.admits action = true
  step := step

instance (c : Custody) (action : Action) : Decidable (system.guard c action) :=
  inferInstanceAs (Decidable (c.world.admits action = true))

end Custody

end PosixQuic
