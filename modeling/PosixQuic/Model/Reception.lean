import PosixQuic.Model.System

/-! # What comes and goes at the accept queues

The history of a run as listeners see it: the connections whose handshake was completed for each of them and the
ones that its `AcceptSocket` has returned, both in their order, and how often each entry's descriptor was given to
`FdFactory::Free`. Nothing in the library depends on it.
-/

namespace PosixQuic

namespace World

/-- The owner for whom the action completes a handshake, and the connection. -/
def completes (w : World) : Action → Option (SocketId × SocketId)
  | .handshakeComplete s =>
    if (w.sockets s).perspective = .isServer then
      match (w.sockets s).udpSocket.bind fun udp => w.fdManager (w.connectionManager.getOwner udp) with
      | some (.socket owner) => some (owner, s)
      | _ => none
    else none
  | _ => none

/-- The listener whose `AcceptSocket` has returned an entry in this action, and the entry: the one waiting there whose
descriptor is the result of the call. -/
def accepts (w : World) (result : CallResult) : Action → Option (SocketId × SocketId)
  | .socketAccept sock =>
    match w.fdManager sock with
    | some (.socket o) =>
      if result.errno = none then
        ((w.sockets o).acceptSockets.find? fun child => (w.sockets child).fd = result.value).map fun child => (o, child)
      else none
    | _ => none
  | _ => none

/-- How often the descriptor that the entry had before has come into the `free_` queue; no action allocates and
frees. -/
def frees (w after : World) (s : SocketId) : Nat :=
  after.fdFactory.freeQueue.count (w.sockets s).fd - w.fdFactory.freeQueue.count (w.sockets s).fd

end World

/-- The connection that joins the list of `o`, if there is one. -/
def joining (event : Option (SocketId × SocketId)) (o : SocketId) : List SocketId :=
  match event with
  | some (owner, child) => if o = owner then [child] else []
  | none => []

structure Reception where
  world : World := {}
  completed : SocketId → List SocketId := fun _ => []
  returned : SocketId → List SocketId := fun _ => []
  freed : SocketId → Nat := fun _ => 0

namespace Reception

def step (r : Reception) (action : Action) : Run Reception := do
  let (result, world) ← r.world.perform action
  return {
    world
    completed := fun o => r.completed o ++ joining (r.world.completes action) o
    returned := fun o => r.returned o ++ joining (r.world.accepts result action) o
    freed := fun s => r.freed s + r.world.frees world s }

/-- The runs of the library with their history. -/
def system : Machine.System Reception Action Fault where
  guard r action := r.world.admits action = true
  step := step

instance (r : Reception) (action : Action) : Decidable (system.guard r action) :=
  inferInstanceAs (Decidable (r.world.admits action = true))

end Reception

end PosixQuic
