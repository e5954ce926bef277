import PosixQuic.Model.System

/-! # The operations of `QuicSocketEntry`, called on the entry

The API finds an entry by its descriptor and never closes it without deleting it. Here every operation is called
on the entry itself, whether it is still in the tables or not, and with any outcome of its system calls. What the
session guarantees is less than in the system of the whole library: it reports the end of the handshake after
`StartCryptoHandshake` and while its connection is open, and the end of its connection at any time.
-/

namespace PosixQuic

inductive EntryOp where
  | create (id : QuicConnectionId)
  | syn (owner : SocketId) (id : QuicConnectionId)
  | bind (s : SocketId) (udp : Except Errno UdpSocket) (os : Option Errno)
  | bindUdp (s : SocketId) (udp : UdpSocket) (os : Option Errno)
  | connect (s : SocketId) (udp : Except Errno UdpSocket)
  | handshakeComplete (s : SocketId)
  | connectionClosed (s : SocketId) (errorCode : Int) (fromRemote : Bool)
  | close (s : SocketId)
  | delete (s : SocketId)

namespace EntryOp

open World

/-- Execute the operation; `OnSyn` is called on a fresh entry. -/
def apply (w : World) : EntryOp → Run (CallResult × World)
  | .create id => .ok (.ok, (w.newQuicSocketEntry .isClient id).2)
  | .syn owner id => do
    let (s, w) := w.newQuicSocketEntry .isServer id
    let w ← w.onSyn s owner
    return (.ok, w)
  | .bind s udp os => .ok (w.bind s udp os)
  | .bindUdp s udp os => .ok (w.bindUdp s udp os)
  | .connect s udp => .ok (w.connect s udp)
  | .handshakeComplete s => do
    let w ← w.onCryptoHandshakeComplete s
    return (.ok, w)
  | .connectionClosed s errorCode fromRemote => do
    let w ← onConnectionClosed World.close s errorCode fromRemote (w.disconnect s)
    return (.ok, w)
  | .close s => do
    let w ← World.close s w
    return (.ok, w)
  | .delete s => .ok (.ok, w.deleteQuicSocketEntry s)

/-- The operation, which has come to `after`, has called `StartCryptoHandshake` of the entry's session. -/
def starts (w after : World) (entry : SocketId) : EntryOp → Bool
  | .syn _ _ => entry = w.numSockets
  | .connect s _ => decide (entry = s ∧ (after.sockets s).socketState = .connecting)
  | _ => false

/-- The error with which the state switches of `Bind` and `Connect` refuse the operation. -/
def refusal (w : World) : EntryOp → Option Errno
  | .bind s _ _ =>
    match (w.sockets s).socketState with
    | .none | .inited => none
    | _ => some .einval
  | .bindUdp s _ _ =>
    match (w.sockets s).socketState with
    | .none => none
    | _ => some .einval
  | .connect s _ =>
    match (w.sockets s).socketState with
    | .none | .inited | .binded => none
    | .connecting => some .ealready
    | _ => some .einval
  | _ => none

end EntryOp

/-- The process, with the sessions whose handshake has been started. -/
structure SocketLife where
  world : World := {}
  started : SocketId → Bool := fun _ => false

namespace SocketLife

/-- What a session guarantees about its callbacks. -/
def admits (n : SocketLife) : EntryOp → Bool
  | .handshakeComplete s => n.started s && (n.world.sockets s).connected
  | _ => true

def step (n : SocketLife) (op : EntryOp) : Run SocketLife := do
  let (_, world) ← op.apply n.world
  return { world, started := fun entry => n.started entry || op.starts n.world world entry }

/-- Every sequence of operations on any number of entries. -/
def system : Machine.System SocketLife EntryOp Fault where
  guard n op := n.admits op = true
  step := step

instance (n : SocketLife) (op : EntryOp) : Decidable (system.guard n op) :=
  inferInstanceAs (Decidable (n.admits op = true))

end SocketLife

end PosixQuic
