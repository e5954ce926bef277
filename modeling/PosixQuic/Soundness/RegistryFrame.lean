import PosixQuic.Soundness.Registry
import PosixQuic.Soundness.DescriptorTable

/-! # What the rest of the library does to the registry

Calls and callbacks that neither close an entry nor operate on an epoller only create entries, which
start without waiters, and open UDP sockets, which start outside of every epoll set.
-/

namespace PosixQuic

open Machine

/-- No entry that has a descriptor works on the UDP socket. -/
def Directory.Unused (d : Directory) (udp : UdpSocket) : Prop :=
  ∀ entry, 0 ≤ d.fd entry → d.udp entry ≠ some udp

/-- Registrations and counts are as before; waiters and links of entries in use as well. -/
structure Registry.Kept (d : Directory) (r r' : Registry) : Prop where
  fds : r'.fds = r.fds
  udps : r'.udps = r.udps
  live : r'.live = r.live
  numEpollers : r'.numEpollers = r.numEpollers
  interest : ∀ e udp, r'.interest e udp = r.interest e udp ∨ r'.interest e udp = false ∧ d.Unused udp
  waitings : ∀ entry, r'.waitings entry = r.waitings entry ∨ r'.waitings entry = [] ∧ d.fd entry = -1
  runner : ∀ s, r'.runner s = r.runner s ∨ r'.runner s = none ∧ d.fd (.socket s) = -1

theorem Registry.Kept.of_eq {d : Directory} {r r' : Registry} (same : r' = r) : Registry.Kept d r r' := by
  subst same
  exact ⟨rfl, rfl, rfl, rfl, fun _ _ => .inl rfl, fun _ => .inl rfl, fun _ => .inl rfl⟩

theorem Registry.Kept.of_directory {d d' : Directory} {r r' : Registry} (kept : Registry.Kept d' r r')
    (fd : d'.fd = d.fd) (udp : d'.udp = d.udp) : Registry.Kept d r r' := by
  obtain ⟨fds, udps, live, numEpollers, interest, waitings, runner⟩ := kept
  simp only [Directory.Unused, fd, udp] at interest
  rw [fd] at waitings runner
  exact ⟨fds, udps, live, numEpollers, interest, waitings, runner⟩

namespace Action

/-- The calls that change registrations. -/
def Registers : Action → Prop
  | .createEpoll | .closeEpoller _ | .epollAdd .. | .epollDel .. => True
  | _ => False

end Action

namespace World

variable {w w' : World} {udp : UdpSocket} {s : SocketId}

theorem kept_newQuicSocketEntry (tables : w.directory.Tables) (perspective : Perspective) (id : QuicConnectionId) :
    Registry.Kept w.directory w.registry (w.newQuicSocketEntry perspective id).2.registry := by
  have changed : (w.newQuicSocketEntry perspective id).2.registry =
      { w.registry with
        waitings := Function.update w.registry.waitings (.socket w.numSockets) []
        runner := Function.update w.registry.runner w.numSockets none } :=
    registry_modSocket
      { w with
        fdFactory := w.fdFactory.alloc.2
        fdManager := Function.update w.fdManager w.fdFactory.alloc.1 (some (.socket w.numSockets))
        numSockets := w.numSockets + 1 }
      w.numSockets fun _ => { fd := w.fdFactory.alloc.1, perspective, connectionId := id }
  have unused : w.directory.fd (.socket w.numSockets) = -1 := tables.freshSocket _ le_rfl
  rw [changed]
  refine ⟨rfl, rfl, rfl, rfl, fun _ _ => .inl rfl, ?_, ?_⟩
  · intro entry
    by_cases same : entry = .socket w.numSockets
    · subst same
      exact .inr ⟨Function.update_self .., unused⟩
    · exact .inl (Function.update_of_ne same ..)
  · intro s
    by_cases same : s = w.numSockets
    · subst same
      exact .inr ⟨Function.update_self .., unused⟩
    · exact .inl (Function.update_of_ne same ..)

theorem kept_newQuicStream (tables : w.directory.Tables) (s : SocketId) (streamId : Nat) :
    Registry.Kept w.directory w.registry (w.newQuicStream s streamId).2.registry := by
  have changed : (w.newQuicStream s streamId).2.registry =
      { w.registry with waitings := Function.update w.registry.waitings (.stream w.numStreams) [] } :=
    registry_modStream
      { w with
        fdFactory := w.fdFactory.alloc.2
        fdManager := Function.update w.fdManager w.fdFactory.alloc.1 (some (.stream w.numStreams))
        numStreams := w.numStreams + 1 }
      w.numStreams fun _ => QuicStreamEntry.new w.fdFactory.alloc.1 (w.sockets s).udpSocket s streamId
  rw [changed]
  refine ⟨rfl, rfl, rfl, rfl, fun _ _ => .inl rfl, ?_, fun _ => .inl rfl⟩
  intro entry
  by_cases same : entry = .stream w.numStreams
  · subst same
    exact .inr ⟨Function.update_self .., tables.freshStream _ le_rfl⟩
  · exact .inl (Function.update_of_ne same ..)

/-- A UDP socket that neither sockets nor streams use is not used at all. -/
theorem unused_of_unbound (tables : w.directory.Tables) (unbound : w.UdpUnbound udp)
    (unstreamed : w.UdpUnstreamed udp) : w.directory.Unused udp := by
  intro entry inUse
  rcases entry with s | t
  · refine unbound s ?_ inUse
    by_contra beyond
    rw [tables.freshSocket s (not_lt.mp beyond)] at inUse
    exact absurd inUse (by decide)
  · refine unstreamed t ?_ inUse
    by_contra beyond
    rw [tables.freshStream t (not_lt.mp beyond)] at inUse
    exact absurd inUse (by decide)

theorem kept_openUdp (tables : w.directory.Tables) (unbound : w.UdpUnbound udp) :
    Registry.Kept w.directory w.registry (w.openUdp udp).registry := by
  unfold openUdp
  split_ifs with unstreamed
  · refine ⟨rfl, rfl, rfl, rfl, ?_, fun _ => .inl rfl, fun _ => .inl rfl⟩
    intro e u
    by_cases same : u = udp
    · subst same
      exact .inr ⟨Function.update_self .., unused_of_unbound tables unbound unstreamed⟩
    · exact .inl (Function.update_of_ne same ..)
  · exact .of_eq rfl

theorem registry_setUdpSocket (w : World) (s : SocketId) (udp : UdpSocket) :
    (w.setUdpSocket s udp).registry = w.registry :=
  registry_modSocket_kept (w := w) (s := s)
    (f := fun socket => { socket with udpSocket := some udp, socketState := .inited }) rfl rfl

theorem registry_onSyn {owner : SocketId} (synced : w.onSyn s owner = .ok w') : w'.registry = w.registry := by
  simp only [onSyn] at synced
  split at synced
  · cases synced
  · next udp _ =>
    cases synced
    exact registry_modSocket_kept (w := w) (s := s)
      (f := fun socket => { socket with socketState := .shared, udpSocket := some udp }) rfl rfl

theorem kept_configures (tables : w.directory.Tables) (s : SocketId) :
    Configures (fun after => Registry.Kept w.directory w.registry after.registry) w s w.UdpUnbound where
  holds := .of_eq rfl
  set _ unbound _ _ := by
    rw [registry_setUdpSocket]
    exact kept_openUdp tables unbound
  moves _ _ _ kept _ := by
    rw [registry_setSocketState]
    exact kept

theorem registry_acceptSocket (w : World) (s : SocketId) : (w.acceptSocket s).2.registry = w.registry := by
  unfold acceptSocket
  split_ifs
  · rfl
  · split
    · rfl
    · exact registry_modSocket_kept rfl rfl

theorem registry_acceptStream (w : World) (s : SocketId) : (w.acceptStream s).2.registry = w.registry := by
  unfold acceptStream
  split_ifs
  · rfl
  · split
    · rfl
    · exact registry_modSocket_kept rfl rfl

theorem kept_createStream (tables : w.directory.Tables) (s : SocketId) (streamId : Nat) :
    Registry.Kept w.directory w.registry (w.createStream s streamId).2.registry := by
  unfold World.createStream
  split_ifs
  · exact .of_eq rfl
  · exact kept_newQuicStream tables s streamId

theorem kept_onIncomingStream (tables : w.directory.Tables) (s : SocketId) (streamId : Nat) :
    Registry.Kept w.directory w.registry (w.onIncomingStream s streamId).registry := by
  unfold onIncomingStream
  rw [registry_setReadable, registry_modSocket_kept rfl rfl]
  exact kept_newQuicStream tables s streamId

theorem registry_onCryptoHandshakeComplete (completed : w.onCryptoHandshakeComplete s = .ok w') :
    w'.registry = w.registry := by
  have connected : ((w.setSocketState s .connected).setWritable (.socket s) true).registry = w.registry :=
    (registry_setWritable ..).trans (registry_setSocketState ..)
  obtain ⟨ready, rfl, -, ⟨-, rfl⟩ | ⟨-, -, owner, -, -, rfl⟩⟩ := onCryptoHandshakeComplete_outcome completed
  · exact connected
  · rw [pushAcceptQueue, registry_setReadable, registry_modSocket_kept rfl rfl]
    exact connected

theorem kept_dispatchDatagram (tables : w.directory.Tables) {e : EpollerId} {cached : Option SocketId}
    {id : QuicConnectionId} (dispatched : w.dispatchDatagram e udp cached id = .ok w') :
    Registry.Kept w.directory w.registry w'.registry := by
  obtain rfl | ⟨owner, -, -, opened⟩ := dispatchDatagram_outcome dispatched
  · exact .of_eq rfl
  · have set : (w.modEpoller e fun epoller => { epoller with dispatch := some (udp, some owner) }).registry =
        w.registry := registry_modEpoller_kept ⟨rfl, rfl, rfl, rfl⟩
    have tablesSet : (w.modEpoller e fun epoller =>
        { epoller with dispatch := some (udp, some owner) }).directory.Tables := by
      rw [directory_modEpoller]
      exact tables.of_eq rfl rfl rfl
    have created := kept_newQuicSocketEntry tablesSet .isServer id
    rw [set, directory_modEpoller] at created
    have kept := created.of_directory (d := w.directory) rfl rfl
    rw [registry_onSyn opened]
    exact kept

theorem registry_modInner (w : World) (e : EpollerId) (fd : Fd) (events : PollMask) (data : Nat) :
    (w.modInner e fd events data).2.registry = w.registry := by
  simp only [modInner]
  split
  · rfl
  · dsimp only
    exact registry_modEpoller_kept ⟨rfl, rfl, rfl, rfl⟩

theorem registry_poll (w : World) (e : EpollerId) (maxevents : Nat) :
    (w.poll e maxevents).2.registry = w.registry := by
  unfold poll
  dsimp only
  exact registry_modEpoller_kept ⟨rfl, rfl, rfl, rfl⟩

theorem registry_setDispatch (w : World) (e : EpollerId) (dispatch : Option (UdpSocket × Option SocketId)) :
    (w.modEpoller e fun epoller => { epoller with dispatch }).registry = w.registry :=
  registry_modEpoller_kept ⟨rfl, rfl, rfl, rfl⟩

/-- Whatever neither closes nor registers keeps the registry. -/
theorem perform_kept (tables : w.directory.Tables) {action : Action} (admitted : w.admits action = true)
    (quiet : ¬ action.Closes) (idle : ¬ action.Registers) :
    Yields (fun _ => True) (fun result => Registry.Kept w.directory w.registry result.2.registry)
      (w.perform action) := by
  have same : ∀ w' : World, w'.registry = w.registry → Registry.Kept w.directory w.registry w'.registry :=
    fun _ => .of_eq
  have refl := same w rfl
  cases action with
  | createSocket id => exact kept_newQuicSocketEntry tables .isClient id
  | bind sock udp os =>
    exact withSocket_yields refl fun s _ => (kept_configures tables s).bind (unbound_of_udpFresh admitted) os
  | bindUdp sock udp os =>
    exact withSocket_yields refl fun s _ => (kept_configures tables s).bindUdp (of_decide_eq_true admitted) os
  | connect sock udp =>
    exact withSocket_yields refl fun s _ =>
      (kept_configures tables s).connect (unbound_of_udpFresh admitted) fun _ => .of_eq (registry_setSocketState ..)
  | socketAccept sock => exact withSocket_yields refl fun s _ => same _ (registry_acceptSocket w s)
  | closeSocket sock => exact (quiet trivial).elim
  | streamAccept sock => exact withSocket_yields refl fun s _ => same _ (registry_acceptStream w s)
  | createStream sock streamId =>
    exact withSocket_yields refl fun s _ => kept_createStream tables s streamId
  | closeStream stream => exact (quiet trivial).elim
  | readv stream iov =>
    refine withStream_yields refl fun t _ => same _ ?_
    exact registry_modStream_kept (waitings_readv (w.streams t) iov)
  | createEpoll => exact (idle trivial).elim
  | closeEpoller e => exact (idle trivial).elim
  | epollAdd e fd events data full => exact (idle trivial).elim
  | epollMod e fd events data => exact withEpoller_yields refl (same _ (registry_modInner ..))
  | epollDel e fd => exact (idle trivial).elim
  | poll e maxevents => exact withEpoller_yields refl (same _ (registry_poll ..))
  | beginUdpEvent e udp => exact withEpoller_yields refl (same _ (registry_setDispatch ..))
  | datagram e id =>
    exact datagram_yields refl fun _ _ _ _ dispatched => kept_dispatchDatagram tables dispatched
  | endUdpEvent e => exact same _ (registry_setDispatch ..)
  | handshakeComplete s =>
    exact handshakeComplete_yields fun _ completed => same _ (registry_onCryptoHandshakeComplete completed)
  | incomingStream s streamId => exact kept_onIncomingStream tables s streamId
  | connectionClosed s errorCode fromRemote => exact (quiet trivial).elim
  | streamReceived t data => exact same _ (registry_streamCallback _ _ (waitings_onReceived data))
  | streamFinRead t =>
    have kept := w.registry_streamCallback t (f := fun stream => (stream.onFinRead, none)) fun _ => rfl
    exact same _ kept
  | streamClosed t => exact same _ (registry_streamCallback _ _ waitings_onClose)
  | streamCanWrite t =>
    have kept := w.registry_streamCallback t (f := QuicStreamEntry.onCanWriteNewData) fun _ => rfl
    exact same _ kept

/-- The same for one action that returns, together with the elementary steps it takes. -/
theorem perform_keeps_registry (tables : w.directory.Tables) (settled : w.Settled) {action : Action}
    (admitted : w.admits action = true) (quiet : ¬ action.Closes) (idle : ¬ action.Registers)
    {result : CallResult × World} (performed : w.perform action = .ok result) :
    Directory.Steps (fun _ => False) w.directory result.2.directory ∧ result.2.directory.Tables ∧
      Registry.Kept w.directory w.registry result.2.registry := by
  obtain ⟨steps, -⟩ : Refines (fun _ => False) w.directory result.2 :=
    (perform_refines_quiet settled admitted quiet).of_ok performed
  exact ⟨steps, steps.invariant (fun _ _ before => before.step) tables,
    (perform_kept tables admitted quiet idle).of_ok performed⟩

end World

end PosixQuic
