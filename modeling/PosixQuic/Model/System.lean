import PosixQuic.Machine.Reachable
import PosixQuic.Model.Socket

/-! # The library as a transition system

An action is one API call, one datagram that `Wait` dispatches, or one callback of a session, each
executed to completion. The guards state what the operating system and libquic guarantee: `::socket`
returns a descriptor that nobody holds open, a session reports its handshake, its streams and the end
of its connection in their order, and the end only once. No epoller is closed while a thread is
dispatching datagrams on it, because that thread keeps the object alive.
-/

namespace PosixQuic

inductive Action where
  | createSocket (id : QuicConnectionId)
  | bind (sock : Fd) (udp : Except Errno UdpSocket) (os : Option Errno)
  | bindUdp (sock : Fd) (udp : UdpSocket) (os : Option Errno)
  | connect (sock : Fd) (udp : Except Errno UdpSocket)
  | socketAccept (sock : Fd)
  | closeSocket (sock : Fd)
  | streamAccept (sock : Fd)
  | createStream (sock : Fd) (streamId : Nat)
  | closeStream (stream : Fd)
  | readv (stream : Fd) (iov : List Nat)
  | createEpoll
  | closeEpoller (e : EpollerId)
  | epollAdd (e : EpollerId) (fd : Fd) (events : PollMask) (data : Nat) (full : Bool)
  | epollMod (e : EpollerId) (fd : Fd) (events : PollMask) (data : Nat)
  | epollDel (e : EpollerId) (fd : Fd)
  | poll (e : EpollerId) (maxevents : Nat)
  | beginUdpEvent (e : EpollerId) (udp : UdpSocket)
  | datagram (e : EpollerId) (connectionId : QuicConnectionId)
  | endUdpEvent (e : EpollerId)
  | handshakeComplete (s : SocketId)
  | incomingStream (s : SocketId) (streamId : Nat)
  | connectionClosed (s : SocketId) (errorCode : Int) (fromRemote : Bool)
  | streamReceived (t : StreamId) (data : List UInt8)
  | streamFinRead (t : StreamId)
  | streamClosed (t : StreamId)
  | streamCanWrite (t : StreamId)

namespace World

/-- No socket entry that has a descriptor uses the UDP socket. -/
def UdpUnbound (w : World) (udp : UdpSocket) : Prop :=
  ∀ s < w.numSockets, 0 ≤ (w.sockets s).fd → (w.sockets s).udpSocket ≠ some udp

instance (w : World) (udp : UdpSocket) : Decidable (w.UdpUnbound udp) :=
  inferInstanceAs (Decidable (∀ s < w.numSockets, _))

/-- `::socket` returns no descriptor that is still open. -/
def udpFresh (w : World) : Except Errno UdpSocket → Bool
  | .ok udp => decide (w.UdpUnbound udp ∧ w.UdpUnstreamed udp)
  | .error _ => true

/-- What the environment guarantees about an action. -/
def admits (w : World) : Action → Bool
  | .bind _ udp _ | .connect _ udp => w.udpFresh udp
  | .bindUdp _ udp _ => decide (w.UdpUnbound udp)
  | .handshakeComplete s =>
    (w.sockets s).connected &&
      decide ((w.sockets s).socketState = .connecting ∨ (w.sockets s).socketState = .shared)
  | .incomingStream s _ =>
    (w.sockets s).connected &&
      decide ((w.sockets s).socketState = .connecting ∨ (w.sockets s).socketState = .shared ∨
        (w.sockets s).socketState = .connected)
  | .connectionClosed s _ _ => (w.sockets s).connected && (w.sockets s).socketState.initialized
  | .closeEpoller e => (w.epollers e).dispatch.isNone
  | .streamReceived t _ | .streamFinRead t | .streamClosed t | .streamCanWrite t =>
    (w.streams t).quartcOpen
  | _ => true

/-- The API calls on a socket descriptor first look the entry up. -/
def withSocket (w : World) (sock : Fd) (body : SocketId → Run (CallResult × World)) :
    Run (CallResult × World) :=
  match w.fdManager sock with
  | some (.socket s) => body s
  | _ => .ok (.fail .ebadf, w)

def withStream (w : World) (stream : Fd) (body : StreamId → Run (CallResult × World)) :
    Run (CallResult × World) :=
  match w.fdManager stream with
  | some (.stream t) => body t
  | _ => .ok (.fail .ebadf, w)

def withEpoller (w : World) (e : EpollerId) (body : Run (CallResult × World)) :
    Run (CallResult × World) :=
  if (w.epollers e).live then body else .ok (.fail .ebadf, w)

/-- `QuicCloseSocket`. -/
def quicCloseSocket (w : World) (sock : Fd) : Run (CallResult × World) :=
  w.withSocket sock fun s => do
    let w ← close s w
    return (.ok, w.deleteQuicSocketEntry s)

/-- `QuicCloseStream`. -/
def quicCloseStream (w : World) (stream : Fd) : Run (CallResult × World) :=
  w.withStream stream fun t => do
    let w ← closeStreamEntry t w
    return (.ok, w.deleteQuicStream t)

/-- Execute one action; a callback has no result. -/
def perform (w : World) : Action → Run (CallResult × World)
  | .createSocket id =>
    let (s, w) := w.newQuicSocketEntry .isClient id
    .ok (⟨(w.sockets s).fd, none⟩, w)
  | .bind sock udp os => w.withSocket sock fun s => .ok (w.bind s udp os)
  | .bindUdp sock udp os => w.withSocket sock fun s => .ok (w.bindUdp s udp os)
  | .connect sock udp => w.withSocket sock fun s => .ok (w.connect s udp)
  | .socketAccept sock => w.withSocket sock fun s => .ok (w.acceptSocket s)
  | .closeSocket sock => w.quicCloseSocket sock
  | .streamAccept sock => w.withSocket sock fun s => .ok (w.acceptStream s)
  | .createStream sock streamId => w.withSocket sock fun s => .ok (w.createStream s streamId)
  | .closeStream stream => w.quicCloseStream stream
  | .readv stream iov => w.withStream stream fun t =>
    let outcome := (w.streams t).readv iov
    .ok (outcome.result, w.modStream t fun _ => outcome.entry)
  | .createEpoll => .ok (.ok, w.createEpoll)
  | .closeEpoller e => w.withEpoller e (.ok (.ok, w.closeEpoller e))
  | .epollAdd e fd events data full => w.withEpoller e (.ok (w.addInner e fd events data full))
  | .epollMod e fd events data => w.withEpoller e (.ok (w.modInner e fd events data))
  | .epollDel e fd => w.withEpoller e (w.delInner e fd)
  | .poll e maxevents => w.withEpoller e (.ok (.ok, (w.poll e maxevents).2))
  | .beginUdpEvent e udp => w.withEpoller e
    (.ok (.ok, w.modEpoller e fun epoller => { epoller with dispatch := some (udp, none) }))
  | .datagram e connectionId =>
    match (w.epollers e).dispatch with
    | none => .ok (.ok, w)
    | some (udp, cached) => do
      let w ← w.dispatchDatagram e udp cached connectionId
      return (.ok, w)
  | .endUdpEvent e => .ok (.ok, w.modEpoller e fun epoller => { epoller with dispatch := none })
  | .handshakeComplete s => do
    let w ← w.onCryptoHandshakeComplete s
    return (.ok, w)
  | .incomingStream s streamId => .ok (.ok, w.onIncomingStream s streamId)
  | .connectionClosed s errorCode fromRemote => do
    let w ← onConnectionClosed close s errorCode fromRemote (w.disconnect s)
    return (.ok, w)
  | .streamReceived t data => .ok (.ok, w.streamCallback t (·.onReceived data))
  | .streamFinRead t => .ok (.ok, w.streamCallback t fun stream => (stream.onFinRead, none))
  | .streamClosed t => .ok (.ok, w.streamCallback t QuicStreamEntry.onClose)
  | .streamCanWrite t => .ok (.ok, w.streamCallback t QuicStreamEntry.onCanWriteNewData)

def step (w : World) (action : Action) : Run World := do
  let (_, w) ← w.perform action
  return w

/-- Every interleaving of API calls, dispatched datagrams and session callbacks. -/
def system : Machine.System World Action Fault where
  guard w action := w.admits action = true
  step := step

instance (w : World) (action : Action) : Decidable (system.guard w action) :=
  inferInstanceAs (Decidable (w.admits action = true))

end World

end PosixQuic
