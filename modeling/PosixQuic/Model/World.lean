import PosixQuic.Model.StreamEntry
import Mathlib.Data.List.AList
import Mathlib.Logic.Function.Basic

/-! # The process-wide tables and the objects they name

One `World` holds the two static tables of the library, every socket, stream and epoller that was ever
created, and the epollers' registrations. A `shared_ptr` or `weak_ptr` to an entry is the entry's name.
Entries that no table holds any more stay readable under their name; their descriptor is `-1`, so a
`weak_ptr` that would no longer lock fails the check of `Fd()` that follows each lock in the source.

An epoller's descriptor belongs to the operating system, and the model names the epoller itself.
-/

namespace PosixQuic

/-- An `EntryPtr`; its `Category()` is the constructor. -/
inductive EntryPtr where
  | socket (id : SocketId)
  | stream (id : StreamId)
deriving DecidableEq, Repr

inductive QuicSocketState where
  | none | shared | inited | binded | connecting | connected | closed
deriving DecidableEq, Repr

/-- Whether the session's connection has its `visitor_`: `Connect` and `OnSyn` call `Initialize` in the step that takes
the entry out of the first three states. -/
def QuicSocketState.initialized : QuicSocketState → Bool
  | .none | .inited | .binded => false
  | .shared | .connecting | .connected | .closed => true

inductive Perspective where
  | isClient | isServer
deriving DecidableEq, Repr

/-- The members of `QuicSocketEntry`, with the runner its `QuicTaskRunnerProxy` is linked to and with
libquic's `connected_` of its session. -/
structure QuicSocketEntry extends Event where
  perspective : Perspective := .isClient
  connectionId : QuicConnectionId := invalidQuicConnectionId
  socketState : QuicSocketState := .none
  udpSocket : Option UdpSocket := none
  acceptSockets : List SocketId := []
  acceptStreams : List StreamId := []
  runner : Option EpollerId := none
  connected : Bool := true
deriving DecidableEq, Repr

/-- `FdFactory` with its `free_` queue. -/
structure FdFactory where
  acq : Int := 0
  freeQueue : List Fd := []
deriving DecidableEq, Repr

namespace FdFactory

def alloc (factory : FdFactory) : Fd × FdFactory :=
  match factory.freeQueue with
  | [] => (factory.acq + 1, { factory with acq := factory.acq + 1 })
  | fd :: rest => (fd, { factory with freeQueue := rest })

def free (factory : FdFactory) (fd : Fd) : FdFactory :=
  { factory with freeQueue := factory.freeQueue ++ [fd] }

end FdFactory

/-- `ConnectionManager`; the nested map is a function of both keys. -/
structure ConnectionManager where
  connections : UdpSocket → QuicConnectionId → Option Fd := fun _ _ => none
  owners : UdpSocket → Option Fd := fun _ => none

namespace ConnectionManager

def put (m : ConnectionManager) (udpSocket : UdpSocket) (connectionId : QuicConnectionId)
    (quicSocket : Fd) (owner : Bool) : ConnectionManager where
  connections := Function.update m.connections udpSocket
    (Function.update (m.connections udpSocket) connectionId (some quicSocket))
  owners := if owner then Function.update m.owners udpSocket (some quicSocket) else m.owners

def get (m : ConnectionManager) (udpSocket : UdpSocket) (connectionId : QuicConnectionId) : Fd :=
  (m.connections udpSocket connectionId).getD (-1)

def getOwner (m : ConnectionManager) (udpSocket : UdpSocket) : Fd := (m.owners udpSocket).getD (-1)

/-- The owner is only looked at when the connection was there. -/
def delete (m : ConnectionManager) (udpSocket : UdpSocket) (connectionId : QuicConnectionId)
    (quicSocket : Fd) : ConnectionManager :=
  match m.connections udpSocket connectionId with
  | none => m
  | some _ =>
    { connections := Function.update m.connections udpSocket
        (Function.update (m.connections udpSocket) connectionId none)
      owners :=
        if m.owners udpSocket = some quicSocket then Function.update m.owners udpSocket none
        else m.owners }

end ConnectionManager

/-- `quic_epoll_event` of one registration. -/
structure QuicEpollEvent where
  events : PollMask := {}
  revents : PollMask := {}
  data : Nat := 0
deriving DecidableEq, Repr

/-- The members of `QuicEpollerEntry`. `qev` holds the second components of `fds_`, `interest` is the
kernel's view of the epoll instance, and `dispatch` is the UDP event whose datagrams `Wait` is
receiving, with the loop's cached `owner`. -/
structure QuicEpollerEntry where
  live : Bool := true
  fds : AList (fun _ : Fd => EntryPtr) := ∅
  qev : Fd → QuicEpollEvent := fun _ => {}
  udps : UdpSocket → Option Int := fun _ => none
  interest : UdpSocket → Bool := fun _ => false
  dispatch : Option (UdpSocket × Option SocketId) := none

/-- The whole process. A name that is not in use yet reads like a deleted entry. -/
structure World where
  fdFactory : FdFactory := {}
  fdManager : Fd → Option EntryPtr := fun _ => none
  connectionManager : ConnectionManager := {}
  sockets : SocketId → QuicSocketEntry := fun _ =>
    { fd := -1, closeTrigger := true, socketState := .closed, connected := false }
  numSockets : Nat := 0
  streams : StreamId → QuicStreamEntry := fun _ =>
    { fd := -1, closeTrigger := true, udpSocket := none, socketEntry := 0, streamId := 0, quartcOpen := false }
  numStreams : Nat := 0
  epollers : EpollerId → QuicEpollerEntry := fun _ => { live := false }
  numEpollers : Nat := 0

/-- How a step of the library can go wrong; fuel is proved to suffice. -/
inductive Fault where
  | assertFailed | nullDereference | outOfFuel
deriving DecidableEq, Repr

abbrev Run (α : Type) := Except Fault α

namespace World

def modSocket (w : World) (s : SocketId) (f : QuicSocketEntry → QuicSocketEntry) : World :=
  { w with sockets := Function.update w.sockets s (f (w.sockets s)) }

def modStream (w : World) (t : StreamId) (f : QuicStreamEntry → QuicStreamEntry) : World :=
  { w with streams := Function.update w.streams t (f (w.streams t)) }

def modEpoller (w : World) (e : EpollerId) (f : QuicEpollerEntry → QuicEpollerEntry) : World :=
  { w with epollers := Function.update w.epollers e (f (w.epollers e)) }

/-- The `Event` base of an entry. -/
def event (w : World) : EntryPtr → Event
  | .socket s => (w.sockets s).toEvent
  | .stream t => (w.streams t).toEvent

def setEvent (w : World) (entry : EntryPtr) (event : Event) : World :=
  match entry with
  | .socket s => w.modSocket s fun socket => { socket with toEvent := event }
  | .stream t => w.modStream t fun stream => { stream with toEvent := event }

def nativeUdpFd (w : World) : EntryPtr → Option UdpSocket
  | .socket s => (w.sockets s).udpSocket
  | .stream t => (w.streams t).udpSocket

end World

/-- The registration of `entry` sees the poll event, if it asked for it; `POLLERR` is always seen. -/
def QuicEpollerEntry.raise (epoller : QuicEpollerEntry) (entry : EntryPtr) (bit : PollBit) :
    QuicEpollerEntry :=
  { epoller with
    qev := fun fd =>
      let qev := epoller.qev fd
      if epoller.fds.lookup fd = some entry ∧ (qev.events.has bit = true ∨ bit = .pollerr) then
        { qev with revents := qev.revents.set bit }
      else qev }

namespace World

/-- `Event::Trigger`. Every waiter belongs to another epoller, so their order does not matter. -/
def trigger (w : World) (entry : EntryPtr) (bit : PollBit) : World :=
  { w with
    epollers := fun e =>
      if e ∈ (w.event entry).waitings then (w.epollers e).raise entry bit else w.epollers e }

/-- Store an entry's new event state and trigger what it asks for. -/
def signal (w : World) (entry : EntryPtr) (change : Event → Event × Option PollBit) : World :=
  let (event, bit) := change (w.event entry)
  let w := w.setEvent entry event
  match bit with
  | some bit => w.trigger entry bit
  | none => w

def setReadable (w : World) (entry : EntryPtr) (b : Bool) : World := w.signal entry (·.setReadable b)

def setWritable (w : World) (entry : EntryPtr) (b : Bool) : World := w.signal entry (·.setWritable b)

def setError (w : World) (entry : EntryPtr) (err : Errno) (quicErr : Int) : World :=
  w.signal entry (·.setError err quicErr)

def setCloseByPeer (w : World) (entry : EntryPtr) (b : Bool) : World :=
  w.signal entry fun event => ({ event with closeByPeer := b }, none)

end World

end PosixQuic
