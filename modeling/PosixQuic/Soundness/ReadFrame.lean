import PosixQuic.Soundness.CloseRule

/-! # What leaves readers and registrations alone

Most of the library neither adds to a stream's receive buffer, nor takes back its readiness, nor withdraws a
pending `POLLIN`, nor registers anybody. `Quiet` says so for all streams and registrations at once; it is kept
by everything but the callbacks that deliver data, `Poll`, and the calls on the registration itself.
-/

namespace PosixQuic

/-- The event state of an entry that is not registered anywhere new and keeps its readiness. -/
structure Event.Calm (event event' : Event) : Prop where
  readable : event.readable = true → event'.readable = true
  error : event'.error = some .eagain → event.error = some .eagain
  waitings : ∀ e ∈ event'.waitings, e ∈ event.waitings

/-- A stream that has nothing new to read. -/
structure QuicStreamEntry.Calm (stream stream' : QuicStreamEntry) : Prop where
  recvBuffer : stream'.recvBuffer ≠ [] → stream.recvBuffer ≠ []
  finRead : stream'.finRead = true → stream.finRead = true
  readable : stream'.recvBuffer ≠ [] ∨ stream'.finRead = true → stream.readable = true → stream'.readable = true
  error : stream'.error = some .eagain → stream.error = some .eagain
  waitings : ∀ e ∈ stream'.waitings, e ∈ stream.waitings

/-- A registration that asks for the same and keeps its pending bits. -/
structure QuicEpollEvent.Calm (qev qev' : QuicEpollEvent) : Prop where
  events : qev'.events.pollin = qev.events.pollin
  revents : qev.revents.pollin = true → qev'.revents.pollin = true

namespace QuicEpollEvent.Calm

theorem refl (qev : QuicEpollEvent) : qev.Calm qev := ⟨rfl, id⟩

theorem trans {first middle last : QuicEpollEvent} (left : first.Calm middle) (right : middle.Calm last) :
    first.Calm last := ⟨right.events.trans left.events, right.revents ∘ left.revents⟩

end QuicEpollEvent.Calm

namespace QuicStreamEntry.Calm

theorem refl (stream : QuicStreamEntry) : stream.Calm stream := ⟨id, id, fun _ => id, id, fun _ => id⟩

theorem trans {first middle last : QuicStreamEntry} (left : first.Calm middle) (right : middle.Calm last) :
    first.Calm last where
  recvBuffer := left.recvBuffer ∘ right.recvBuffer
  finRead := left.finRead ∘ right.finRead
  readable unread ready := right.readable unread (left.readable (unread.imp right.recvBuffer right.finRead) ready)
  error := left.error ∘ right.error
  waitings e member := left.waitings e (right.waitings e member)

/-- Only the event state changes. -/
theorem of_event {stream : QuicStreamEntry} {event : Event} (calm : stream.toEvent.Calm event) :
    stream.Calm { stream with toEvent := event } := ⟨id, id, fun _ => calm.readable, calm.error, calm.waitings⟩

end QuicStreamEntry.Calm

namespace World

open Machine

/-- Registrations in an epoller that are there before and after are calm, and none is new. -/
def CalmEpoller (epoller epoller' : QuicEpollerEntry) : Prop :=
  ∀ fd entry, epoller'.fds.lookup fd = some entry →
    epoller.fds.lookup fd = some entry ∧ (epoller.qev fd).Calm (epoller'.qev fd)

theorem CalmEpoller.refl (epoller : QuicEpollerEntry) : CalmEpoller epoller epoller :=
  fun _ _ found => ⟨found, .refl _⟩

theorem CalmEpoller.trans {first middle last : QuicEpollerEntry} (left : CalmEpoller first middle)
    (right : CalmEpoller middle last) : CalmEpoller first last := by
  intro fd entry found
  obtain ⟨foundMiddle, calmRight⟩ := right fd entry found
  obtain ⟨foundFirst, calmLeft⟩ := left fd entry foundMiddle
  exact ⟨foundFirst, calmLeft.trans calmRight⟩

structure Quiet (w w' : World) : Prop where
  streams : ∀ t, (w.streams t).Calm (w'.streams t)
  epollers : ∀ e, CalmEpoller (w.epollers e) (w'.epollers e)

namespace Quiet

theorem of_eq {w w' : World} (streams : w'.streams = w.streams) (epollers : w'.epollers = w.epollers) :
    Quiet w w' := by
  constructor
  · intro t
    rw [streams]
    exact .refl _
  · intro e
    rw [epollers]
    exact .refl _

theorem refl (w : World) : Quiet w w := of_eq rfl rfl

theorem trans {first middle last : World} (left : Quiet first middle) (right : Quiet middle last) :
    Quiet first last where
  streams t := (left.streams t).trans (right.streams t)
  epollers e := (left.epollers e).trans (right.epollers e)

end Quiet

variable {w w' : World} {e : EpollerId} {entry : EntryPtr} {s : SocketId}

theorem quiet_modStream {t : StreamId} {f : QuicStreamEntry → QuicStreamEntry}
    (calm : (w.streams t).Calm (f (w.streams t))) : Quiet w (w.modStream t f) := by
  refine ⟨fun other => ?_, fun e => .refl _⟩
  by_cases same : other = t
  · subst same
    simpa [modStream] using calm
  · simpa [modStream, same] using QuicStreamEntry.Calm.refl (w.streams other)

theorem quiet_modEpoller {f : QuicEpollerEntry → QuicEpollerEntry}
    (calm : CalmEpoller (w.epollers e) (f (w.epollers e))) : Quiet w (w.modEpoller e f) := by
  refine ⟨fun t => .refl _, fun other => ?_⟩
  by_cases same : other = e
  · subst same
    simpa [modEpoller] using calm
  · simpa [modEpoller, same] using CalmEpoller.refl (w.epollers other)

theorem quiet_setDispatch (w : World) (e : EpollerId) (dispatch : Option (UdpSocket × Option SocketId)) :
    Quiet w (w.modEpoller e fun epoller => { epoller with dispatch }) :=
  quiet_modEpoller (CalmEpoller.refl (w.epollers e))

theorem quiet_setEvent {event : Event} (calm : (w.event entry).Calm event) : Quiet w (w.setEvent entry event) := by
  cases entry with
  | socket s => exact .of_eq rfl rfl
  | stream t => exact quiet_modStream (f := fun stream => { stream with toEvent := event }) (.of_event calm)

theorem calm_raise (epoller : QuicEpollerEntry) (entry : EntryPtr) (bit : PollBit) :
    CalmEpoller epoller (epoller.raise entry bit) := by
  refine fun fd other found => ⟨found, ?_⟩
  dsimp only [QuicEpollerEntry.raise]
  split_ifs
  · refine ⟨rfl, fun pending => ?_⟩
    cases bit <;> first | rfl | exact pending
  · exact .refl _

theorem quiet_trigger (w : World) (entry : EntryPtr) (bit : PollBit) : Quiet w (w.trigger entry bit) := by
  refine ⟨fun t => .refl _, fun e => ?_⟩
  dsimp only [trigger]
  split_ifs
  · exact calm_raise _ _ _
  · exact .refl _

theorem quiet_signal {change : Event → Event × Option PollBit}
    (calm : (w.event entry).Calm (change (w.event entry)).1) : Quiet w (w.signal entry change) := by
  have stored := quiet_setEvent calm
  simp only [signal]
  cases (change (w.event entry)).2 with
  | none => exact stored
  | some bit => exact stored.trans (quiet_trigger _ entry bit)

theorem quiet_setReadable (w : World) (entry : EntryPtr) : Quiet w (w.setReadable entry true) :=
  quiet_signal ⟨fun _ => rfl, id, fun _ => id⟩

theorem quiet_setWritable (w : World) (entry : EntryPtr) (b : Bool) : Quiet w (w.setWritable entry b) :=
  quiet_signal ⟨id, id, fun _ => id⟩

theorem quiet_setError (w : World) (entry : EntryPtr) {err : Errno} (quicErr : Int) (other : err ≠ .eagain) :
    Quiet w (w.setError entry err quicErr) := by
  apply quiet_signal
  unfold Event.setError
  split
  · refine ⟨id, fun failed => ?_, fun _ => id⟩
    cases failed
    exact (other rfl).elim
  · exact ⟨id, id, fun _ => id⟩

theorem quiet_streamCallback {t : StreamId} {callback : QuicStreamEntry → QuicStreamEntry × Option PollBit}
    (calm : (w.streams t).Calm (callback (w.streams t)).1) : Quiet w (w.streamCallback t callback) := by
  have stored : Quiet w (w.modStream t fun _ => (callback (w.streams t)).1) := quiet_modStream calm
  simp only [streamCallback]
  cases (callback (w.streams t)).2 with
  | none => exact stored
  | some bit => exact stored.trans (quiet_trigger _ (.stream t) bit)

/-! ## Closing -/

theorem calm_onClose (stream : QuicStreamEntry) : stream.Calm stream.onClose.1 := by
  simp only [QuicStreamEntry.onClose, Event.setError]
  cases failed : stream.error with
  | none => exact ⟨id, id, fun _ => id, fun already => absurd already (by simp), fun _ => id⟩
  | some err => exact ⟨id, id, fun _ => id, id, fun _ => id⟩

theorem quiet_closeStreams (w : World) (s : SocketId) : Quiet w (w.closeStreams s) :=
  closeStreams_keeps (P := Quiet w) (fun _ _ quiet => quiet.trans (quiet_streamCallback (calm_onClose _))) s (.refl w)

theorem quiet_announce (w : World) (s : SocketId) (errorCode : Int) (fromRemote : Bool) :
    Quiet w (w.announce s errorCode fromRemote) := by
  have cleared : Quiet w (w.modSocket s fun socket => { socket with connected := false }) := .of_eq rfl rfl
  have told : Quiet (w.disconnect s) ((w.disconnect s).setCloseByPeer (.socket s) fromRemote) :=
    quiet_signal ⟨id, id, fun _ => id⟩
  refine (cleared.trans (quiet_closeStreams _ s)).trans ?_
  exact told.trans (quiet_setError _ _ errorCode (by decide))

theorem quiet_mark (w : World) (s : SocketId) : Quiet w (w.mark s) := by
  rw [mark, unroute]
  split
  · exact .of_eq rfl rfl
  · exact .of_eq rfl rfl

theorem quiet_releaseFd (w : World) (entry : EntryPtr) : Quiet w (w.releaseFd entry) := by
  simp only [releaseFd]
  split_ifs
  · have removed : Quiet w { w with
        fdManager := Function.update w.fdManager (w.event entry).fd none
        fdFactory := w.fdFactory.free (w.event entry).fd } := .of_eq rfl rfl
    exact removed.trans (quiet_setEvent (by cases entry <;> exact ⟨id, id, fun _ => id⟩))
  · exact .refl w

theorem calm_onCanWriteNewData (stream : QuicStreamEntry) : stream.Calm stream.onCanWriteNewData.1 :=
  ⟨id, id, fun _ => id, id, fun _ => id⟩

/-! ## Leaving an epoller -/

theorem quiet_stopWait (w : World) (entry : EntryPtr) (e : EpollerId) : Quiet w (w.stopWait entry e) :=
  quiet_setEvent ⟨id, id, fun _ member => (List.mem_filter.mp member).1⟩

theorem quiet_eraseFd (w : World) (e : EpollerId) (fd : Fd) : Quiet w (w.eraseFd e fd) := by
  apply quiet_modEpoller
  intro other entry found
  by_cases same : other = fd
  · subst same
    rw [AList.lookup_erase] at found
    cases found
  · rw [AList.lookup_erase_ne same] at found
    exact ⟨found, .refl _⟩

theorem quiet_dropUdp (w : World) (e : EpollerId) (udp : UdpSocket) (count : Int) :
    Quiet w (w.dropUdp e udp count) := by
  simp only [dropUdp, epollCtlDel]
  split_ifs
  · exact (quiet_modEpoller (CalmEpoller.refl (w.epollers e))).trans (quiet_modEpoller (CalmEpoller.refl _))
  · exact quiet_modEpoller (CalmEpoller.refl _)

theorem quiet_deregister (w : World) (e : EpollerId) (fd : Fd) (entry : EntryPtr) (udp : UdpSocket) (count : Int) :
    Quiet w (w.deregister e fd entry udp count) := by
  have erased : Quiet w (((w.dropUdp e udp count).stopWait entry e).eraseFd e fd) :=
    (quiet_dropUdp ..).trans ((quiet_stopWait ..).trans (quiet_eraseFd ..))
  cases entry with
  | socket s => exact erased.trans (.of_eq rfl rfl)
  | stream t => exact erased

theorem quiet_delInner {fd : Fd} {result : CallResult × World} (deleted : w.delInner e fd = .ok result) :
    Quiet w result.2 := by
  rcases delInner_cases deleted with ⟨-, rfl⟩ | ⟨entry, -, -, rfl⟩ | ⟨entry, udp, count, -, -, -, -, rfl⟩
  · exact .refl w
  · exact quiet_eraseFd ..
  · exact quiet_deregister ..

theorem quiet_clearWaitingsByClose (cleared : w.clearWaitingsByClose entry = .ok w') : Quiet w w' := by
  have notified : ∀ (epollers : List EpollerId) (before : World),
      before.notifyClosed entry epollers = .ok w' → Quiet before w' := by
    intro epollers
    induction epollers with
    | nil =>
      rintro before ⟨⟩
      exact .refl _
    | cons e rest ih =>
      intro before continues
      obtain ⟨result, deleted, continued⟩ := bind_eq_ok continues
      exact (quiet_delInner deleted).trans (ih _ continued)
  simp only [clearWaitingsByClose] at cleared
  split_ifs at cleared
  · cases cleared
    exact .refl w
  · have emptied : Quiet w (w.setEvent entry { w.event entry with waitings := [], closeTrigger := true }) :=
      quiet_setEvent ⟨id, id, fun _ member => absurd member List.not_mem_nil⟩
    exact emptied.trans (notified _ _ cleared)

theorem quiet_closeEpoller (w : World) (e : EpollerId) : Quiet w (w.closeEpoller e) := by
  have stopped : ∀ (entries : List EntryPtr) (before : World),
      Quiet before (entries.foldl (fun w entry => w.stopWait entry e) before) := by
    intro entries
    induction entries with
    | nil => exact fun before => .refl before
    | cons entry rest ih => exact fun before => (quiet_stopWait ..).trans (ih _)
  have left := stopped ((w.epollers e).fds.entries.map Sigma.snd) w
  have destroyed : CalmEpoller (((w.epollers e).fds.entries.map Sigma.snd).foldl
      (fun w entry => w.stopWait entry e) w |>.epollers e) { live := false } := nofun
  exact left.trans (quiet_modEpoller (f := fun _ => { live := false }) destroyed)

/-- Everything that a close does is quiet. -/
theorem closable_quiet (w : World) : Closable (fun _ => True) (fun _ => True) (Quiet w) where
  queued _ _ _ _ _ _ := trivial
  mark before s quiet _ _ := quiet.trans (before.quiet_mark s)
  announce before s errorCode fromRemote quiet _ _ := quiet.trans (before.quiet_announce s errorCode fromRemote)
  releaseServer before s quiet _ _ _ _ :=
    quiet.trans ((before.quiet_announce s quicConnectionCancelled false).trans (quiet_releaseFd ..))
  clear before s quiet _ _ _ := yields_of_ok fun _ cleared => quiet.trans (quiet_clearWaitingsByClose cleared)
  release before s quiet _ _ _ := quiet.trans (quiet_releaseFd ..)
  pop before s quiet _ := quiet.trans (.of_eq rfl rfl)

/-! ## Binding, connecting and new entries -/

theorem quiet_openUdp (w : World) (udp : UdpSocket) : Quiet w (w.openUdp udp) := by
  rw [openUdp]
  split_ifs
  · exact ⟨fun t => .refl _, fun e fd entry found => ⟨found, .refl _⟩⟩
  · exact .refl w

theorem quiet_configures (w : World) (s : SocketId) : Configures (Quiet w) w s fun _ => True where
  holds := .refl w
  set udp _ _ _ := (quiet_openUdp w udp).trans (.of_eq rfl rfl)
  moves _ _ _ quiet _ := quiet.trans (.of_eq rfl rfl)

/-- A new stream has nothing to read and no waiter. -/
theorem quiet_newQuicStream (w : World) (s : SocketId) (streamId : Nat) :
    Quiet w (w.newQuicStream s streamId).2 := by
  refine ⟨fun t => ?_, fun e => .refl _⟩
  by_cases same : t = w.numStreams
  · subst same
    simp only [newQuicStream, Function.update_self]
    refine ⟨fun unread => (unread rfl).elim, nofun, fun unread => ?_, nofun, nofun⟩
    exact unread.elim (fun nonempty => (nonempty rfl).elim) nofun
  · simp only [newQuicStream, Function.update_of_ne same]
    exact .refl _

theorem quiet_onIncomingStream (w : World) (s : SocketId) (streamId : Nat) :
    Quiet w (w.onIncomingStream s streamId) := by
  have queued : Quiet w ((w.newQuicStream s streamId).2.modSocket s fun socket =>
      { socket with acceptStreams := socket.acceptStreams ++ [(w.newQuicStream s streamId).1] }) :=
    (w.quiet_newQuicStream s streamId).trans (.of_eq rfl rfl)
  exact queued.trans (quiet_setReadable ..)

theorem quiet_onSyn {owner : SocketId} (synced : w.onSyn s owner = .ok w') : Quiet w w' := by
  unfold onSyn at synced
  split at synced
  · cases synced
  · cases synced
    exact .of_eq rfl rfl

theorem quiet_dispatchDatagram {udp : UdpSocket} {cached : Option SocketId} {key : QuicConnectionId}
    (dispatched : w.dispatchDatagram e udp cached key = .ok w') : Quiet w w' := by
  obtain rfl | ⟨owner, -, -, opened⟩ := dispatchDatagram_outcome dispatched
  · exact .refl _
  · have noted := w.quiet_setDispatch e (some (udp, some owner))
    have created : Quiet w ((w.modEpoller e fun epoller =>
        { epoller with dispatch := some (udp, some owner) }).newQuicSocketEntry .isServer key).2 :=
      noted.trans (.of_eq rfl rfl)
    exact created.trans (quiet_onSyn opened)

theorem quiet_onCryptoHandshakeComplete (completed : w.onCryptoHandshakeComplete s = .ok w') : Quiet w w' := by
  have stored : Quiet w (w.setSocketState s .connected) := .of_eq rfl rfl
  have connected := stored.trans (quiet_setWritable _ (.socket s) true)
  unfold onCryptoHandshakeComplete at completed
  dsimp only at completed
  split at completed
  · cases completed
    exact connected
  · split at completed
    · cases completed
    · obtain ⟨owner, -, returned⟩ := bind_eq_ok completed
      cases returned
      have pushed : Quiet ((w.setSocketState s .connected).setWritable (.socket s) true)
          (((w.setSocketState s .connected).setWritable (.socket s) true).modSocket owner fun socket =>
            { socket with acceptSockets := socket.acceptSockets ++ [s] }) := .of_eq rfl rfl
      exact (connected.trans pushed).trans (quiet_setReadable ..)

theorem quiet_createEpoll (w : World) : Quiet w w.createEpoll := by
  refine ⟨fun t => .refl _, fun e => ?_⟩
  by_cases same : e = w.numEpollers
  · subst same
    simp only [createEpoll, Function.update_self]
    exact nofun
  · simp only [createEpoll, Function.update_of_ne same]
    exact .refl _

end World

end PosixQuic
