import PosixQuic.Soundness.DirectorySteps

/-! # Entries that nobody has accepted yet, and the sockets that streams belong to

`acceptStreams_` of a socket changes when a stream arrives, when one is accepted and when the socket is
created, and a stream entry never changes its socket. Everything else leaves both alone, and that includes
`Close`. Most of it leaves the queue of accepted connections alone as well. One frame proves it for every view of
the world that reads nothing but these members.
-/

namespace PosixQuic

/-- The callback leaves the stream with its socket. -/
def KeepsHome (callback : QuicStreamEntry → QuicStreamEntry × Option PollBit) : Prop :=
  ∀ stream, (callback stream).1.socketEntry = stream.socketEntry

theorem keepsHome_onReceived (data : List UInt8) : KeepsHome (·.onReceived data) := by
  intro stream
  simp only [QuicStreamEntry.onReceived]
  split_ifs <;> rfl

theorem keepsHome_onFinRead : KeepsHome fun stream => (stream.onFinRead, none) := fun _ => rfl

theorem keepsHome_onClose : KeepsHome QuicStreamEntry.onClose := fun _ => rfl

theorem keepsHome_onCanWriteNewData : KeepsHome QuicStreamEntry.onCanWriteNewData := fun _ => rfl

theorem socketEntry_readv (stream : QuicStreamEntry) (iov : List Nat) :
    (stream.readv iov).entry.socketEntry = stream.socketEntry := by
  simp only [QuicStreamEntry.readv]
  split
  · rfl
  · split_ifs <;> rfl

namespace World

open Machine

/-- The streams that wait to be accepted. -/
def backlog (w : World) (s : SocketId) : List StreamId := (w.sockets s).acceptStreams

/-- The socket that a stream belongs to. -/
def home (w : World) (t : StreamId) : SocketId := (w.streams t).socketEntry

/-- The connections that wait to be accepted. -/
def queue (w : World) (s : SocketId) : List SocketId := (w.sockets s).acceptSockets

/-- The view reads no members of the entries but the two queues and the sockets of the streams. -/
structure Frame {α : Type} (view : World → α) : Prop where
  modSocket : ∀ (w : World) (s : SocketId) (f : QuicSocketEntry → QuicSocketEntry),
    (f (w.sockets s)).acceptStreams = (w.sockets s).acceptStreams →
    (f (w.sockets s)).acceptSockets = (w.sockets s).acceptSockets → view (w.modSocket s f) = view w
  modStream : ∀ (w : World) (t : StreamId) (f : QuicStreamEntry → QuicStreamEntry),
    (f (w.streams t)).socketEntry = (w.streams t).socketEntry → view (w.modStream t f) = view w
  entries : ∀ w w' : World, w'.sockets = w.sockets → w'.streams = w.streams → view w' = view w

theorem backlog_modSocket (w : World) (s : SocketId) (f : QuicSocketEntry → QuicSocketEntry) :
    (w.modSocket s f).backlog = Function.update w.backlog s (f (w.sockets s)).acceptStreams :=
  funext fun x => Function.apply_update (fun _ => QuicSocketEntry.acceptStreams) w.sockets s (f (w.sockets s)) x

theorem backlog_modSocket_kept {w : World} {s : SocketId} {f : QuicSocketEntry → QuicSocketEntry}
    (kept : (f (w.sockets s)).acceptStreams = (w.sockets s).acceptStreams) :
    (w.modSocket s f).backlog = w.backlog := by
  rw [backlog_modSocket, kept]
  exact Function.update_eq_self ..

theorem queue_modSocket (w : World) (s : SocketId) (f : QuicSocketEntry → QuicSocketEntry) :
    (w.modSocket s f).queue = Function.update w.queue s (f (w.sockets s)).acceptSockets :=
  funext fun x => Function.apply_update (fun _ => QuicSocketEntry.acceptSockets) w.sockets s (f (w.sockets s)) x

theorem home_modStream (w : World) (t : StreamId) (f : QuicStreamEntry → QuicStreamEntry) :
    (w.modStream t f).home = Function.update w.home t (f (w.streams t)).socketEntry :=
  funext fun x => Function.apply_update (fun _ => QuicStreamEntry.socketEntry) w.streams t (f (w.streams t)) x

theorem backlogFrame : Frame backlog where
  modSocket _ _ _ kept _ := backlog_modSocket_kept kept
  modStream _ _ _ _ := rfl
  entries w w' sockets _ := by
    funext s
    rw [backlog, sockets]
    rfl

theorem queueFrame : Frame queue where
  modSocket w s f _ kept := by
    rw [queue_modSocket, kept]
    exact Function.update_eq_self ..
  modStream _ _ _ _ := rfl
  entries w w' sockets _ := by
    funext s
    rw [queue, sockets]
    rfl

theorem homeFrame : Frame home where
  modSocket _ _ _ _ _ := rfl
  modStream w t f kept := by
    rw [home_modStream, kept]
    exact Function.update_eq_self ..
  entries w w' _ streams := by
    funext t
    rw [home, streams]
    rfl

namespace Frame

variable {α : Type} {view : World → α} {w w' : World} {e : EpollerId} {s : SocketId}

/-- Tables and epollers may change afterwards. -/
theorem after (frame : Frame view) {last : World} (stored : view w' = view w) (sockets : last.sockets = w'.sockets)
    (streams : last.streams = w'.streams) : view last = view w :=
  (frame.entries w' last sockets streams).trans stored

theorem setEvent (frame : Frame view) (w : World) (entry : EntryPtr) (event : Event) :
    view (w.setEvent entry event) = view w := by
  cases entry with
  | socket s => exact frame.modSocket w s (fun socket => { socket with toEvent := event }) rfl rfl
  | stream t => exact frame.modStream w t (fun stream => { stream with toEvent := event }) rfl

theorem signal (frame : Frame view) (w : World) (entry : EntryPtr) (change : Event → Event × Option PollBit) :
    view (w.signal entry change) = view w := by
  have stored := frame.setEvent w entry (change (w.event entry)).1
  simp only [World.signal]
  cases (change (w.event entry)).2 with
  | none => exact stored
  | some bit => exact frame.after stored rfl rfl

theorem streamCallback (frame : Frame view) (w : World) (t : StreamId)
    {callback : QuicStreamEntry → QuicStreamEntry × Option PollBit} (keeps : KeepsHome callback) :
    view (w.streamCallback t callback) = view w := by
  have stored : view (w.modStream t fun _ => (callback (w.streams t)).1) = view w :=
    frame.modStream w t _ (keeps _)
  simp only [World.streamCallback]
  split
  · exact frame.after stored rfl rfl
  · exact stored

theorem closeStreams (frame : Frame view) (w : World) (s : SocketId) : view (w.closeStreams s) = view w :=
  closeStreams_keeps (P := fun after => view after = view w)
    (fun t before same => (frame.streamCallback before t keepsHome_onClose).trans same) s rfl

theorem announce (frame : Frame view) (w : World) (s : SocketId) (errorCode : Int) (fromRemote : Bool) :
    view (w.announce s errorCode fromRemote) = view w := by
  rw [World.announce, setError, setCloseByPeer, frame.signal, frame.signal, disconnect, frame.closeStreams]
  exact frame.modSocket w s _ rfl rfl

theorem setSocketState (frame : Frame view) (w : World) (s : SocketId) (socketState : QuicSocketState) :
    view (w.setSocketState s socketState) = view w := frame.modSocket w s _ rfl rfl

theorem mark (frame : Frame view) (w : World) (s : SocketId) : view (w.mark s) = view w := by
  have marked := frame.setSocketState w s .closed
  rw [World.mark, unroute]
  split
  · exact marked
  · exact frame.after marked rfl rfl

theorem releaseFd (frame : Frame view) (w : World) (entry : EntryPtr) : view (w.releaseFd entry) = view w := by
  simp only [World.releaseFd]
  split_ifs
  · exact (frame.setEvent _ entry _).trans (frame.entries w _ rfl rfl)
  · rfl

/-! ## Epollers -/

theorem startWait (frame : Frame view) {entry : EntryPtr} {fd : Fd} (started : w.startWait entry e fd = some w') :
    view w' = view w := by
  simp only [World.startWait] at started
  split_ifs at started
  all_goals
    cases started
    exact (frame.setEvent ..).trans (frame.entries w _ rfl rfl)

theorem stopWait (frame : Frame view) (w : World) (entry : EntryPtr) (e : EpollerId) :
    view (w.stopWait entry e) = view w := frame.setEvent ..

theorem link (frame : Frame view) (linked : w.link s e = some w') : view w' = view w := by
  simp only [World.link] at linked
  split at linked
  · cases linked
  · cases linked
    apply frame.modSocket
    · rfl
    · rfl

theorem listenUdp (frame : Frame view) (w : World) (e : EpollerId) (udp : UdpSocket) (full : Bool) :
    view (w.listenUdp e udp full).2 = view w := by
  simp only [World.listenUdp, epollCtlAdd]
  split
  · split_ifs
    · rfl
    · rfl
    · exact frame.entries w _ rfl rfl
  · exact frame.entries w _ rfl rfl

theorem addInner (frame : Frame view) (w : World) (e : EpollerId) (fd : Fd) (events : PollMask) (data : Nat)
    (full : Bool) : view (w.addInner e fd events data full).2 = view w := by
  have adding : Adding (fun after => view after = view w) e :=
    { epoller := fun _ _ same => frame.after same rfl rfl
      startWait := fun started same => (frame.startWait started).trans same
      stopWait := fun _ _ same => (frame.stopWait ..).trans same
      link := fun linked same => (frame.link linked).trans same
      listenUdp := fun _ _ _ same => (frame.listenUdp ..).trans same }
  exact adding.addInner rfl ..

theorem modInner (frame : Frame view) (w : World) (e : EpollerId) (fd : Fd) (events : PollMask) (data : Nat) :
    view (w.modInner e fd events data).2 = view w := by
  simp only [World.modInner]
  split
  · rfl
  · exact frame.entries w _ rfl rfl

theorem deregister (frame : Frame view) (w : World) (e : EpollerId) (fd : Fd) (entry : EntryPtr) (udp : UdpSocket)
    (count : Int) : view (w.deregister e fd entry udp count) = view w := by
  have dropped : view (w.dropUdp e udp count) = view w := by
    simp only [dropUdp, epollCtlDel]
    split_ifs <;> exact frame.entries w _ rfl rfl
  have erased : view (((w.dropUdp e udp count).stopWait entry e).eraseFd e fd) = view w :=
    frame.after ((frame.stopWait ..).trans dropped) rfl rfl
  cases entry with
  | socket s =>
    rw [World.deregister, unlink, frame.modSocket _ _ _ rfl rfl]
    exact erased
  | stream t => exact erased

theorem delInner (frame : Frame view) {fd : Fd} {result : CallResult × World} (deleted : w.delInner e fd = .ok result) :
    view result.2 = view w := by
  rcases delInner_cases deleted with ⟨-, rfl⟩ | ⟨entry, -, -, rfl⟩ | ⟨entry, udp, count, -, -, -, -, rfl⟩
  · rfl
  · exact frame.entries w _ rfl rfl
  · exact frame.deregister ..

theorem clearWaitingsByClose (frame : Frame view) {entry : EntryPtr} (cleared : w.clearWaitingsByClose entry = .ok w') :
    view w' = view w := by
  have notified : ∀ (epollers : List EpollerId) (before : World),
      before.notifyClosed entry epollers = .ok w' → view w' = view before := by
    intro epollers
    induction epollers with
    | nil =>
      rintro before ⟨⟩
      rfl
    | cons e rest ih =>
      intro before continues
      obtain ⟨result, deleted, continued⟩ := bind_eq_ok continues
      exact (ih _ continued).trans (frame.delInner deleted)
  simp only [World.clearWaitingsByClose] at cleared
  split_ifs at cleared
  · cases cleared
    rfl
  · exact (notified _ _ cleared).trans (frame.setEvent ..)

theorem closeEpoller (frame : Frame view) (w : World) (e : EpollerId) : view (w.closeEpoller e) = view w := by
  have stopped : ∀ (entries : List EntryPtr) (before : World),
      view (entries.foldl (fun w entry => w.stopWait entry e) before) = view before := by
    intro entries
    induction entries with
    | nil => exact fun _ => rfl
    | cons entry rest ih => exact fun before => (ih _).trans (frame.stopWait ..)
  exact frame.after (stopped _ w) rfl rfl

/-! ## Binding and connecting -/

theorem openUdp (frame : Frame view) (w : World) (udp : UdpSocket) : view (w.openUdp udp) = view w := by
  rw [World.openUdp]
  split_ifs
  · exact frame.entries w _ rfl rfl
  · rfl

theorem setUdpSocket (frame : Frame view) (w : World) (s : SocketId) (udp : UdpSocket) :
    view (w.setUdpSocket s udp) = view w := by
  have stored : view (w.modSocket s fun socket => { socket with udpSocket := some udp, socketState := .inited }) =
      view w := frame.modSocket w s _ rfl rfl
  exact frame.after stored rfl rfl

theorem configures (frame : Frame view) (w : World) (s : SocketId) :
    Configures (fun after => view after = view w) w s fun _ => True where
  holds := rfl
  set _ _ _ _ := (frame.setUdpSocket ..).trans (frame.openUdp ..)
  moves _ _ _ same _ := (frame.setSocketState ..).trans same

theorem onSyn (frame : Frame view) {owner : SocketId} (synced : w.onSyn s owner = .ok w') : view w' = view w := by
  unfold World.onSyn at synced
  split at synced
  · cases synced
  · next udp _ =>
    cases synced
    have stored : view (w.modSocket s fun socket => { socket with socketState := .shared, udpSocket := some udp }) =
        view w := frame.modSocket w s _ rfl rfl
    exact frame.after stored rfl rfl

end Frame

theorem backlog_popAccept (w : World) (s : SocketId) : (w.popAccept s).backlog = w.backlog :=
  backlog_modSocket_kept rfl

theorem backlog_pushAcceptQueue (w : World) (owner s : SocketId) : (w.pushAcceptQueue owner s).backlog = w.backlog := by
  rw [pushAcceptQueue, setReadable, backlogFrame.signal]
  exact backlog_modSocket_kept rfl

theorem home_pushAcceptQueue (w : World) (owner s : SocketId) : (w.pushAcceptQueue owner s).home = w.home := by
  rw [pushAcceptQueue, setReadable, homeFrame.signal]
  rfl

end World

end PosixQuic
