import PosixQuic.Model.Epoller

/-! # `QuicSocketEntry`: life cycle, session callbacks and datagram dispatch

`Close` re-enters the entry: libquic's `CloseConnection` calls `OnConnectionClosed`, which for a server
side entry that is not connected closes and deletes the entry again, all before the waiters are told.
The recursion is bounded by the number of sockets, because every level that gets past the first test
marks another socket as closed.

libquic is the environment: a session reports a finished handshake, an incoming stream and the end of
its connection, the last one once and also from inside `CloseConnection`.
-/

namespace PosixQuic.World

/-- `QuicSocketEntry::NewQuicSocketEntry`; for a client, `id` is the random connection id. -/
def newQuicSocketEntry (w : World) (perspective : Perspective) (id : QuicConnectionId) :
    SocketId × World :=
  let (fd, fdFactory) := w.fdFactory.alloc
  let s := w.numSockets
  (s, { w with
    fdFactory
    fdManager := Function.update w.fdManager fd (some (.socket s))
    sockets := Function.update w.sockets s { fd, perspective, connectionId := id }
    numSockets := s + 1 })

/-- Take the entry's descriptor out of the tables, unless that has been done before. -/
def releaseFd (w : World) (entry : EntryPtr) : World :=
  let event := w.event entry
  if 0 ≤ event.fd then
    { w with
      fdManager := Function.update w.fdManager event.fd none
      fdFactory := w.fdFactory.free event.fd }.setEvent entry { event with fd := -1 }
  else w

/-- `QuicSocketEntry::DeleteQuicSocketEntry`. -/
def deleteQuicSocketEntry (w : World) (s : SocketId) : World := w.releaseFd (.socket s)

/-- `QuicStreamEntry::DeleteQuicStream`. -/
def deleteQuicStream (w : World) (t : StreamId) : World := w.releaseFd (.stream t)

/-- `QuicStreamEntry::NewQuicStream` on the session of socket `s`. -/
def newQuicStream (w : World) (s : SocketId) (streamId : Nat) : StreamId × World :=
  let (fd, fdFactory) := w.fdFactory.alloc
  let t := w.numStreams
  (t, { w with
    fdFactory
    fdManager := Function.update w.fdManager fd (some (.stream t))
    streams := Function.update w.streams t
      (QuicStreamEntry.new fd (w.sockets s).udpSocket s streamId)
    numStreams := t + 1 })

/-- Deliver a stream callback and trigger what it asks for. -/
def streamCallback (w : World) (t : StreamId) (callback : QuicStreamEntry → QuicStreamEntry × Option PollBit) :
    World :=
  let (stream, bit) := callback (w.streams t)
  let w := w.modStream t fun _ => stream
  match bit with
  | some bit => w.trigger (.stream t) bit
  | none => w

/-- The session drops its open streams, each with `OnClose`. -/
def closeStreams (w : World) (s : SocketId) : World :=
  (List.range w.numStreams).foldl
    (fun w t =>
      if (w.streams t).socketEntry = s ∧ (w.streams t).quartcOpen = true then
        w.streamCallback t QuicStreamEntry.onClose
      else w)
    w

def setSocketState (w : World) (s : SocketId) (socketState : QuicSocketState) : World :=
  w.modSocket s fun socket => { socket with socketState }

/-- libquic tears the connection down, before it tells the delegate. -/
def disconnect (w : World) (s : SocketId) : World :=
  (w.modSocket s fun socket => { socket with connected := false }).closeStreams s

/-- `QuicSocketEntry::OnConnectionClosed`, with `close` for the entry's own `Close`. -/
def onConnectionClosed (close : SocketId → World → Run World) (s : SocketId) (errorCode : Int)
    (fromRemote : Bool) (w : World) : Run World :=
  let w := (w.setCloseByPeer (.socket s) fromRemote).setError (.socket s) .eshutdown errorCode
  if (w.sockets s).socketState ≠ .connected ∧ (w.sockets s).perspective = .isServer then do
    let w ← close s w
    return w.deleteQuicSocketEntry s
  else return w

/-- `QuicErrorCode::QUIC_CONNECTION_CANCELLED`, the error of a local close. -/
def quicConnectionCancelled : Int := 70

/-- libquic's `CloseConnection`: nothing on a closed connection, otherwise one `OnConnectionClosed` by way of `visitor_`,
which is null before `Initialize`. -/
def closeConnection (close : SocketId → World → Run World) (s : SocketId) (initialized : Bool) (w : World) :
    Run World :=
  if (w.sockets s).connected then
    if initialized then onConnectionClosed close s quicConnectionCancelled false (w.disconnect s)
    else .error .nullDereference
  else .ok w

/-- The entry leaves the routing table. -/
def unroute (w : World) (s : SocketId) : World :=
  match (w.sockets s).udpSocket with
  | none => w
  | some udp =>
    { w with
      connectionManager :=
        w.connectionManager.delete udp (w.sockets s).connectionId (w.sockets s).fd }

/-- `ClearAcceptSocketByClose` over the queued children; the queue's mutex is held meanwhile. -/
def clearAcceptSockets (close : SocketId → World → Run World) (s : SocketId) :
    List SocketId → World → Run World
  | [], w => .ok w
  | child :: rest, w => do
    let w := w.modSocket s fun socket => { socket with acceptSockets := socket.acceptSockets.tail }
    let w ← close child w
    clearAcceptSockets close s rest (w.deleteQuicSocketEntry child)

/-- `QuicSocketEntry::Close` with at most `fuel` nested calls. -/
def closeSocket : Nat → SocketId → World → Run World
  | 0, _, _ => .error .outOfFuel
  | fuel + 1, s, w =>
    if (w.sockets s).socketState = .closed then .ok w
    else do
      let initialized := (w.sockets s).socketState.initialized
      let w := (w.setSocketState s .closed).unroute s
      let w ← closeConnection (closeSocket fuel) s initialized w
      let w ← w.clearWaitingsByClose (.socket s)
      clearAcceptSockets (closeSocket fuel) s (w.sockets s).acceptSockets w

/-- Enough nesting for every socket there is. -/
def close (s : SocketId) (w : World) : Run World := closeSocket (w.numSockets + 1) s w

/-- `QuicStreamEntry::Close`. -/
def closeStreamEntry (t : StreamId) (w : World) : Run World :=
  let w := if (w.streams t).quartcOpen then w.streamCallback t QuicStreamEntry.onClose else w
  w.clearWaitingsByClose (.stream t)

/-- `SetUdpSocket`; the system calls on the descriptor have succeeded. -/
def setUdpSocket (w : World) (s : SocketId) (udp : UdpSocket) : World :=
  let w := w.modSocket s fun socket => { socket with udpSocket := some udp, socketState := .inited }
  { w with
    connectionManager :=
      w.connectionManager.put udp (w.sockets s).connectionId (w.sockets s).fd true }

/-- No stream entry that has a descriptor uses the UDP socket. -/
def UdpUnstreamed (w : World) (udp : UdpSocket) : Prop :=
  ∀ t < w.numStreams, 0 ≤ (w.streams t).fd → (w.streams t).udpSocket ≠ some udp

instance (w : World) (udp : UdpSocket) : Decidable (w.UdpUnstreamed udp) :=
  inferInstanceAs (Decidable (∀ t < w.numStreams, _))

/-- A descriptor number that no entry has kept open is in no epoll set: its former owner was closed. -/
def openUdp (w : World) (udp : UdpSocket) : World :=
  if w.UdpUnstreamed udp then
    { w with
      epollers := fun e =>
        { w.epollers e with interest := Function.update (w.epollers e).interest udp false } }
  else w

/-- `CreateNewUdpSocket`; `udp` is what `::socket` and the system calls on its result come to. -/
def createNewUdpSocket (w : World) (s : SocketId) (udp : Except Errno UdpSocket) :
    Except Errno World :=
  if (w.sockets s).udpSocket.isSome then .error .einval
  else do
    let udp ← udp
    return (w.openUdp udp).setUdpSocket s udp

theorem createNewUdpSocket_eq_ok {w w' : World} {s : SocketId} {udp : Except Errno UdpSocket}
    (created : w.createNewUdpSocket s udp = .ok w') :
    ¬ (w.sockets s).udpSocket.isSome = true ∧
      ∃ number, udp = .ok number ∧ w' = (w.openUdp number).setUdpSocket s number := by
  unfold createNewUdpSocket at created
  split_ifs at created with unset
  cases udp with
  | error err => cases created
  | ok number =>
    cases created
    exact ⟨unset, number, rfl, rfl⟩

/-- `Bind` to an address; `os` is the error of `::bind`, if any. -/
def bind (w : World) (s : SocketId) (udp : Except Errno UdpSocket) (os : Option Errno) :
    CallResult × World :=
  let bindInited (w : World) : CallResult × World :=
    match os with
    | none => (.ok, w.setSocketState s .binded)
    | some err => (.fail err, w)
  match (w.sockets s).socketState with
  | .none =>
    match w.createNewUdpSocket s udp with
    | .error err => (.fail err, w)
    | .ok w => bindInited w
  | .inited => bindInited w
  | _ => (.fail .einval, w)

/-- `Bind` to a UDP descriptor of the application; `os` is the error of the calls on it, if any. -/
def bindUdp (w : World) (s : SocketId) (udp : UdpSocket) (os : Option Errno) : CallResult × World :=
  match (w.sockets s).socketState with
  | .none =>
    if (w.sockets s).udpSocket.isSome then (.fail .einval, w)
    else
      match os with
      | none => (.ok, ((w.openUdp udp).setUdpSocket s udp).setSocketState s .binded)
      | some err => (.fail err, w)
  | _ => (.fail .einval, w)

/-- `Connect`, up to the start of the handshake. -/
def connect (w : World) (s : SocketId) (udp : Except Errno UdpSocket) : CallResult × World :=
  let start (w : World) : CallResult × World := (.fail .einprogress, w.setSocketState s .connecting)
  match (w.sockets s).socketState with
  | .none =>
    match w.createNewUdpSocket s udp with
    | .error err => (.fail err, w)
    | .ok w => start w
  | .inited | .binded => start w
  | .connecting => (.fail .ealready, w)
  | _ => (.fail .einval, w)

/-- `AcceptSocket` together with the descriptor its caller returns. -/
def acceptSocket (w : World) (s : SocketId) : CallResult × World :=
  if (w.sockets s).socketState ≠ .binded then (.fail .einval, w)
  else
    match (w.sockets s).acceptSockets with
    | [] => (.fail .eagain, w)
    | child :: rest =>
      (⟨(w.sockets child).fd, none⟩,
        w.modSocket s fun socket => { socket with acceptSockets := rest })

/-- `AcceptStream` together with the descriptor its caller returns. -/
def acceptStream (w : World) (s : SocketId) : CallResult × World :=
  if (w.sockets s).socketState ≠ .connected then (.fail .enotconn, w)
  else
    match (w.sockets s).acceptStreams with
    | [] => (.fail .eagain, w)
    | t :: rest =>
      (⟨(w.streams t).fd, none⟩, w.modSocket s fun socket => { socket with acceptStreams := rest })

/-- `CreateStream` together with the descriptor its caller returns. -/
def createStream (w : World) (s : SocketId) (streamId : Nat) : CallResult × World :=
  if (w.sockets s).socketState ≠ .connected then (.fail .enotconn, w)
  else
    let (t, w) := w.newQuicStream s streamId
    (⟨(w.streams t).fd, none⟩, w)

/-- A pointer read from `FdManager` is dereferenced for its category and used as a socket. -/
def asSocket : Option EntryPtr → Run SocketId
  | none => .error .nullDereference
  | some (.stream _) => .error .assertFailed
  | some (.socket s) => .ok s

/-- `OnSyn` of a new entry. -/
def onSyn (w : World) (s owner : SocketId) : Run World :=
  match (w.sockets owner).udpSocket with
  | none => .error .nullDereference
  | some udp =>
    let w := w.modSocket s fun socket => { socket with socketState := .shared, udpSocket := some udp }
    .ok { w with
      connectionManager :=
        w.connectionManager.put udp (w.sockets s).connectionId (w.sockets s).fd false }

/-- `PushAcceptQueue`. -/
def pushAcceptQueue (w : World) (s entry : SocketId) : World :=
  (w.modSocket s fun socket => { socket with acceptSockets := socket.acceptSockets ++ [entry] }).setReadable
    (.socket s) true

/-- `OnCryptoHandshakeComplete`. -/
def onCryptoHandshakeComplete (w : World) (s : SocketId) : Run World :=
  let w := (w.setSocketState s .connected).setWritable (.socket s) true
  match (w.sockets s).perspective with
  | .isClient => .ok w
  | .isServer =>
    match (w.sockets s).udpSocket with
    | none => .error .assertFailed
    | some udp => do
      let owner ← asSocket (w.fdManager (w.connectionManager.getOwner udp))
      return w.pushAcceptQueue owner s

/-- `OnIncomingStream`. -/
def onIncomingStream (w : World) (s : SocketId) (streamId : Nat) : World :=
  let (t, w) := w.newQuicStream s streamId
  (w.modSocket s fun socket => { socket with acceptStreams := socket.acceptStreams ++ [t] }).setReadable
    (.socket s) true

/-- The owner that `Wait` uses for a new connection: the cached one, or the one it looks up. -/
def findOwner (w : World) (udp : UdpSocket) (cached : Option SocketId) : Run (Option SocketId) :=
  match cached with
  | some owner => .ok (some owner)
  | none =>
    let ownerFd := w.connectionManager.getOwner udp
    if 0 ≤ ownerFd then do
      let owner ← asSocket (w.fdManager ownerFd)
      return some owner
    else return none

/-- One round of the receive loop of `Wait` for a datagram with this connection id. What the packet
makes the session report are the session's own callbacks. -/
def dispatchDatagram (w : World) (e : EpollerId) (udp : UdpSocket) (cached : Option SocketId)
    (connectionId : QuicConnectionId) : Run World :=
  if connectionId = invalidQuicConnectionId then .ok w
  else if w.connectionManager.get udp connectionId = -1 then do
    match ← w.findOwner udp cached with
    | none => return w
    | some owner =>
      let w := w.modEpoller e fun epoller => { epoller with dispatch := some (udp, some owner) }
      let (s, w) := w.newQuicSocketEntry .isServer connectionId
      w.onSyn s owner
  else do
    let _ ← asSocket (w.fdManager (w.connectionManager.get udp connectionId))
    return w

end PosixQuic.World
