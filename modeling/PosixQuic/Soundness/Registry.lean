import PosixQuic.Soundness.CloseRule

/-! # The registry of a world

What the epollers hold and what they are held by: the registrations with their reference counts, the
kernel's interest, the waiters of every entry and the links of the task runners. The operations on
sockets and sessions leave the registry alone, except that a new entry has no waiters.
-/

namespace PosixQuic

/-- The abstract state that the registration invariants speak about. -/
@[ext]
structure Registry where
  fds : EpollerId → AList (fun _ : Fd => EntryPtr)
  udps : EpollerId → UdpSocket → Option Int
  interest : EpollerId → UdpSocket → Bool
  live : EpollerId → Bool
  numEpollers : Nat
  waitings : EntryPtr → List EpollerId
  runner : SocketId → Option EpollerId

namespace World

def registry (w : World) : Registry where
  fds e := (w.epollers e).fds
  udps e := (w.epollers e).udps
  interest e := (w.epollers e).interest
  live e := (w.epollers e).live
  numEpollers := w.numEpollers
  waitings entry := (w.event entry).waitings
  runner s := (w.sockets s).runner

/-- A function of the entries that reads one member, after one entry has changed. -/
private theorem read_update {α β : Type} (table : Nat → α) (i : Nat) (value : α) (member : α → β) :
    (fun x => member (Function.update table i value x)) =
      Function.update (fun x => member (table x)) i (member value) :=
  funext fun x => Function.apply_update (fun _ => member) table i value x

theorem registry_modSocket (w : World) (s : SocketId) (f : QuicSocketEntry → QuicSocketEntry) :
    (w.modSocket s f).registry =
      { w.registry with
        waitings := Function.update w.registry.waitings (.socket s) (f (w.sockets s)).waitings
        runner := Function.update w.registry.runner s (f (w.sockets s)).runner } := by
  refine Registry.ext rfl rfl rfl rfl rfl ?_ (read_update w.sockets s _ QuicSocketEntry.runner)
  funext entry
  rcases entry with x | t
  · by_cases same : x = s <;> simp [registry, modSocket, event, Function.update, same]
  · rfl

variable {w : World}

theorem registry_modSocket_kept {s : SocketId} {f : QuicSocketEntry → QuicSocketEntry}
    (waitings : (f (w.sockets s)).waitings = (w.sockets s).waitings)
    (runner : (f (w.sockets s)).runner = (w.sockets s).runner) : (w.modSocket s f).registry = w.registry := by
  rw [registry_modSocket, waitings, runner]
  exact Registry.ext rfl rfl rfl rfl rfl (Function.update_eq_self ..) (Function.update_eq_self ..)

theorem registry_modStream (w : World) (t : StreamId) (f : QuicStreamEntry → QuicStreamEntry) :
    (w.modStream t f).registry =
      { w.registry with
        waitings := Function.update w.registry.waitings (.stream t) (f (w.streams t)).waitings } := by
  refine Registry.ext rfl rfl rfl rfl rfl ?_ rfl
  funext entry
  rcases entry with s | x
  · rfl
  · by_cases same : x = t <;> simp [registry, modStream, event, Function.update, same]

theorem registry_modStream_kept {t : StreamId} {f : QuicStreamEntry → QuicStreamEntry}
    (waitings : (f (w.streams t)).waitings = (w.streams t).waitings) : (w.modStream t f).registry = w.registry := by
  rw [registry_modStream, waitings]
  exact Registry.ext rfl rfl rfl rfl rfl (Function.update_eq_self ..) rfl

theorem registry_modEpoller (w : World) (e : EpollerId) (f : QuicEpollerEntry → QuicEpollerEntry) :
    (w.modEpoller e f).registry =
      { w.registry with
        fds := Function.update w.registry.fds e (f (w.epollers e)).fds
        udps := Function.update w.registry.udps e (f (w.epollers e)).udps
        interest := Function.update w.registry.interest e (f (w.epollers e)).interest
        live := Function.update w.registry.live e (f (w.epollers e)).live } :=
  Registry.ext (read_update w.epollers e _ QuicEpollerEntry.fds)
    (read_update w.epollers e _ QuicEpollerEntry.udps) (read_update w.epollers e _ QuicEpollerEntry.interest)
    (read_update w.epollers e _ QuicEpollerEntry.live) rfl rfl rfl

/-- The members of an epoller that the registry records. -/
def SameRegistrations (a b : QuicEpollerEntry) : Prop :=
  a.fds = b.fds ∧ a.udps = b.udps ∧ a.interest = b.interest ∧ a.live = b.live

theorem registry_modEpoller_kept {e : EpollerId} {f : QuicEpollerEntry → QuicEpollerEntry}
    (kept : SameRegistrations (f (w.epollers e)) (w.epollers e)) : (w.modEpoller e f).registry = w.registry := by
  obtain ⟨fds, udps, interest, live⟩ := kept
  rw [registry_modEpoller, fds, udps, interest, live]
  exact Registry.ext (Function.update_eq_self ..) (Function.update_eq_self ..) (Function.update_eq_self ..)
    (Function.update_eq_self ..) rfl rfl rfl

theorem registry_setEvent (w : World) (entry : EntryPtr) (event : Event) :
    (w.setEvent entry event).registry =
      { w.registry with waitings := Function.update w.registry.waitings entry event.waitings } := by
  cases entry with
  | socket s =>
    rw [setEvent, registry_modSocket]
    exact Registry.ext rfl rfl rfl rfl rfl rfl (Function.update_eq_self ..)
  | stream t => exact w.registry_modStream t _

theorem registry_setEvent_kept {entry : EntryPtr} {event : Event}
    (waitings : event.waitings = (w.event entry).waitings) : (w.setEvent entry event).registry = w.registry := by
  rw [registry_setEvent, waitings]
  exact Registry.ext rfl rfl rfl rfl rfl (Function.update_eq_self ..) rfl

/-! ## Operations that leave the registry alone -/

@[simp]
theorem registry_trigger (w : World) (entry : EntryPtr) (bit : PollBit) :
    (w.trigger entry bit).registry = w.registry := by
  refine Registry.ext ?_ ?_ ?_ ?_ rfl rfl rfl
  all_goals
    funext e
    simp only [registry, trigger]
    split_ifs <;> rfl

theorem registry_signal (w : World) (entry : EntryPtr) {change : Event → Event × Option PollBit}
    (kept : ∀ event, (change event).1.waitings = event.waitings) : (w.signal entry change).registry = w.registry := by
  have stored := registry_setEvent_kept (kept (w.event entry))
  simp only [signal]
  cases (change (w.event entry)).2 with
  | none => exact stored
  | some bit => exact (registry_trigger _ _ _).trans stored

@[simp]
theorem registry_setReadable (w : World) (entry : EntryPtr) (b : Bool) :
    (w.setReadable entry b).registry = w.registry := w.registry_signal entry fun _ => rfl

@[simp]
theorem registry_setWritable (w : World) (entry : EntryPtr) (b : Bool) :
    (w.setWritable entry b).registry = w.registry := w.registry_signal entry fun _ => rfl

@[simp]
theorem registry_setCloseByPeer (w : World) (entry : EntryPtr) (b : Bool) :
    (w.setCloseByPeer entry b).registry = w.registry := w.registry_signal entry fun _ => rfl

@[simp]
theorem registry_setError (w : World) (entry : EntryPtr) (err : Errno) (quicErr : Int) :
    (w.setError entry err quicErr).registry = w.registry := by
  refine w.registry_signal entry fun event => ?_
  simp only [Event.setError]
  split <;> rfl

/-- The callbacks of a stream keep its waiters. -/
theorem registry_streamCallback (w : World) (t : StreamId)
    {f : QuicStreamEntry → QuicStreamEntry × Option PollBit}
    (keeps : ∀ stream, (f stream).1.waitings = stream.waitings) :
    (w.streamCallback t f).registry = w.registry := by
  have stored : (w.modStream t fun _ => (f (w.streams t)).1).registry = w.registry :=
    registry_modStream_kept (keeps (w.streams t))
  simp only [streamCallback]
  split
  · exact (registry_trigger _ _ _).trans stored
  · exact stored

theorem waitings_onClose (stream : QuicStreamEntry) : stream.onClose.1.waitings = stream.waitings := by
  simp only [QuicStreamEntry.onClose, Event.setError]
  split <;> rfl

theorem waitings_onReceived (data : List UInt8) (stream : QuicStreamEntry) :
    (stream.onReceived data).1.waitings = stream.waitings := by
  simp only [QuicStreamEntry.onReceived, Event.setReadable]
  split_ifs <;> rfl

theorem waitings_readv (stream : QuicStreamEntry) (iov : List Nat) :
    (stream.readv iov).entry.waitings = stream.waitings := by
  simp only [QuicStreamEntry.readv]
  split
  · rfl
  · split_ifs <;> rfl

theorem registry_closeStreams (w : World) (s : SocketId) : (w.closeStreams s).registry = w.registry :=
  closeStreams_keeps (P := fun after => after.registry = w.registry)
    (fun _ _ same => (registry_streamCallback _ _ waitings_onClose).trans same) s rfl

@[simp]
theorem registry_setSocketState (w : World) (s : SocketId) (socketState : QuicSocketState) :
    (w.setSocketState s socketState).registry = w.registry := registry_modSocket_kept rfl rfl

theorem registry_disconnect (w : World) (s : SocketId) : (w.disconnect s).registry = w.registry :=
  (registry_closeStreams ..).trans (registry_modSocket_kept rfl rfl)

theorem registry_mark (w : World) (s : SocketId) : (w.mark s).registry = w.registry := by
  have marked := w.registry_setSocketState s .closed
  rw [mark, unroute]
  split
  · exact marked
  · exact marked

theorem registry_announce (w : World) (s : SocketId) (errorCode : Int) (fromRemote : Bool) :
    (w.announce s errorCode fromRemote).registry = w.registry := by
  rw [announce, registry_setError, registry_setCloseByPeer, registry_disconnect]

theorem registry_popAccept (w : World) (s : SocketId) : (w.popAccept s).registry = w.registry :=
  registry_modSocket_kept rfl rfl

theorem registry_releaseFd (w : World) (entry : EntryPtr) : (w.releaseFd entry).registry = w.registry := by
  simp only [releaseFd]
  split_ifs
  · rw [registry_setEvent_kept (by cases entry <;> rfl)]
    rfl
  · rfl

theorem registry_deleteQuicSocketEntry (w : World) (s : SocketId) :
    (w.deleteQuicSocketEntry s).registry = w.registry :=
  w.registry_releaseFd (.socket s)

end World

end PosixQuic
