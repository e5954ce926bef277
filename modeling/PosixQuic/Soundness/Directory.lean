import PosixQuic.Machine.Outcome
import PosixQuic.Model.System
import Mathlib.Tactic

/-! # The directory of a world

The tables of the library and what they are keyed by, without readiness, stream data and
registrations: who has which descriptor, which UDP socket, which connection id and which state. Most
operations leave the directory alone, and each of the others has one lemma that says what it changes.
-/

namespace PosixQuic

theorem EntryPtr.socket_ne {s s' : SocketId} (different : s ≠ s') : EntryPtr.socket s ≠ .socket s' :=
  fun same => different (EntryPtr.socket.inj same)

/-- The abstract state that the descriptor and routing invariants speak about. -/
@[ext]
structure Directory where
  fdFactory : FdFactory
  fdManager : Fd → Option EntryPtr
  connectionManager : ConnectionManager
  numSockets : Nat
  numStreams : Nat
  fd : EntryPtr → Fd
  closeTrigger : EntryPtr → Bool
  udp : EntryPtr → Option UdpSocket
  perspective : SocketId → Perspective
  connectionId : SocketId → QuicConnectionId
  socketState : SocketId → QuicSocketState
  connected : SocketId → Bool
  acceptSockets : SocketId → List SocketId
  dispatch : EpollerId → Option (UdpSocket × Option SocketId)

namespace World

def directory (w : World) : Directory where
  fdFactory := w.fdFactory
  fdManager := w.fdManager
  connectionManager := w.connectionManager
  numSockets := w.numSockets
  numStreams := w.numStreams
  fd entry := (w.event entry).fd
  closeTrigger entry := (w.event entry).closeTrigger
  udp := w.nativeUdpFd
  perspective s := (w.sockets s).perspective
  connectionId s := (w.sockets s).connectionId
  socketState s := (w.sockets s).socketState
  connected s := (w.sockets s).connected
  acceptSockets s := (w.sockets s).acceptSockets
  dispatch e := (w.epollers e).dispatch

/-- A function of the sockets that reads one member, after one socket has changed. -/
private theorem member_update {α β : Type} (table : Nat → α) (i : Nat) (value : α) (member : α → β) :
    (fun x => member (Function.update table i value x)) =
      Function.update (fun x => member (table x)) i (member value) :=
  funext fun x => Function.apply_update (fun _ => member) table i value x

/-- Changing one socket changes the directory at that socket only. -/
theorem directory_modSocket (w : World) (s : SocketId) (f : QuicSocketEntry → QuicSocketEntry) :
    (w.modSocket s f).directory =
      { w.directory with
        fd := Function.update w.directory.fd (.socket s) (f (w.sockets s)).fd
        closeTrigger := Function.update w.directory.closeTrigger (.socket s) (f (w.sockets s)).closeTrigger
        udp := Function.update w.directory.udp (.socket s) (f (w.sockets s)).udpSocket
        perspective := Function.update w.directory.perspective s (f (w.sockets s)).perspective
        connectionId := Function.update w.directory.connectionId s (f (w.sockets s)).connectionId
        socketState := Function.update w.directory.socketState s (f (w.sockets s)).socketState
        connected := Function.update w.directory.connected s (f (w.sockets s)).connected
        acceptSockets := Function.update w.directory.acceptSockets s (f (w.sockets s)).acceptSockets } := by
  refine Directory.ext rfl rfl rfl rfl rfl ?_ ?_ ?_
    (member_update w.sockets s _ QuicSocketEntry.perspective)
    (member_update w.sockets s _ QuicSocketEntry.connectionId)
    (member_update w.sockets s _ QuicSocketEntry.socketState)
    (member_update w.sockets s _ QuicSocketEntry.connected)
    (member_update w.sockets s _ QuicSocketEntry.acceptSockets) rfl
  · funext entry
    rcases entry with x | t
    · by_cases same : x = s <;> simp [directory, modSocket, event, Function.update, same]
    · rfl
  · funext entry
    rcases entry with x | t
    · by_cases same : x = s <;> simp [directory, modSocket, event, Function.update, same]
    · rfl
  · funext entry
    rcases entry with x | t
    · by_cases same : x = s <;> simp [directory, modSocket, nativeUdpFd, Function.update, same]
    · rfl

/-- The members of a socket entry that the directory records. -/
def SameIdentity (a b : QuicSocketEntry) : Prop :=
  a.fd = b.fd ∧ a.closeTrigger = b.closeTrigger ∧ a.udpSocket = b.udpSocket ∧ a.perspective = b.perspective ∧
    a.connectionId = b.connectionId ∧ a.socketState = b.socketState ∧ a.connected = b.connected ∧
    a.acceptSockets = b.acceptSockets

variable {w w' : World} {s : SocketId} {e : EpollerId} {entry : EntryPtr} {fd : Fd}

theorem directory_modSocket_kept {f : QuicSocketEntry → QuicSocketEntry}
    (kept : SameIdentity (f (w.sockets s)) (w.sockets s)) : (w.modSocket s f).directory = w.directory := by
  obtain ⟨fd, closeTrigger, udp, perspective, connectionId, socketState, connected, acceptSockets⟩ := kept
  rw [directory_modSocket, fd, closeTrigger, udp, perspective, connectionId, socketState, connected,
    acceptSockets]
  exact Directory.ext rfl rfl rfl rfl rfl (Function.update_eq_self ..) (Function.update_eq_self ..)
    (Function.update_eq_self ..) (Function.update_eq_self ..) (Function.update_eq_self ..)
    (Function.update_eq_self ..) (Function.update_eq_self ..) (Function.update_eq_self ..) rfl

theorem directory_modStream (w : World) (t : StreamId) (f : QuicStreamEntry → QuicStreamEntry) :
    (w.modStream t f).directory =
      { w.directory with
        fd := Function.update w.directory.fd (.stream t) (f (w.streams t)).fd
        closeTrigger := Function.update w.directory.closeTrigger (.stream t) (f (w.streams t)).closeTrigger
        udp := Function.update w.directory.udp (.stream t) (f (w.streams t)).udpSocket } := by
  refine Directory.ext rfl rfl rfl rfl rfl ?_ ?_ ?_ rfl rfl rfl rfl rfl rfl
  · funext entry
    rcases entry with s | x
    · rfl
    · by_cases same : x = t <;> simp [directory, modStream, event, Function.update, same]
  · funext entry
    rcases entry with s | x
    · rfl
    · by_cases same : x = t <;> simp [directory, modStream, event, Function.update, same]
  · funext entry
    rcases entry with s | x
    · rfl
    · by_cases same : x = t <;> simp [directory, modStream, nativeUdpFd, Function.update, same]

theorem directory_modStream_kept {t : StreamId} {f : QuicStreamEntry → QuicStreamEntry}
    (fd : (f (w.streams t)).fd = (w.streams t).fd)
    (closeTrigger : (f (w.streams t)).closeTrigger = (w.streams t).closeTrigger)
    (udp : (f (w.streams t)).udpSocket = (w.streams t).udpSocket) : (w.modStream t f).directory = w.directory := by
  rw [directory_modStream, fd, closeTrigger, udp]
  exact Directory.ext rfl rfl rfl rfl rfl (Function.update_eq_self ..) (Function.update_eq_self ..)
    (Function.update_eq_self ..) rfl rfl rfl rfl rfl rfl

theorem directory_modEpoller (w : World) (e : EpollerId) (f : QuicEpollerEntry → QuicEpollerEntry) :
    (w.modEpoller e f).directory =
      { w.directory with
        dispatch := Function.update w.directory.dispatch e (f (w.epollers e)).dispatch } :=
  Directory.ext rfl rfl rfl rfl rfl rfl rfl rfl rfl rfl rfl rfl rfl
    (member_update w.epollers e _ QuicEpollerEntry.dispatch)

theorem directory_modEpoller_kept {f : QuicEpollerEntry → QuicEpollerEntry}
    (kept : (f (w.epollers e)).dispatch = (w.epollers e).dispatch) : (w.modEpoller e f).directory = w.directory := by
  rw [directory_modEpoller, kept]
  exact Directory.ext rfl rfl rfl rfl rfl rfl rfl rfl rfl rfl rfl rfl rfl (Function.update_eq_self ..)

theorem directory_setEvent (w : World) (entry : EntryPtr) (event : Event) :
    (w.setEvent entry event).directory =
      { w.directory with
        fd := Function.update w.directory.fd entry event.fd
        closeTrigger := Function.update w.directory.closeTrigger entry event.closeTrigger } := by
  cases entry with
  | socket s =>
    simp only [setEvent, directory_modSocket]
    exact Directory.ext rfl rfl rfl rfl rfl rfl rfl (Function.update_eq_self ..) (Function.update_eq_self ..)
      (Function.update_eq_self ..) (Function.update_eq_self ..) (Function.update_eq_self ..)
      (Function.update_eq_self ..) rfl
  | stream t =>
    simp only [setEvent, directory_modStream]
    exact Directory.ext rfl rfl rfl rfl rfl rfl rfl (Function.update_eq_self ..) rfl rfl rfl rfl rfl rfl

theorem directory_setEvent_kept {event : Event} (fd : event.fd = (w.event entry).fd)
    (closeTrigger : event.closeTrigger = (w.event entry).closeTrigger) :
    (w.setEvent entry event).directory = w.directory := by
  rw [directory_setEvent, fd, closeTrigger]
  exact Directory.ext rfl rfl rfl rfl rfl (Function.update_eq_self ..) (Function.update_eq_self ..)
    rfl rfl rfl rfl rfl rfl rfl

/-! ## Operations that leave the directory alone -/

@[simp]
theorem directory_trigger (w : World) (entry : EntryPtr) (bit : PollBit) :
    (w.trigger entry bit).directory = w.directory := by
  refine Directory.ext rfl rfl rfl rfl rfl rfl rfl rfl rfl rfl rfl rfl rfl (funext fun e => ?_)
  simp only [directory, trigger]
  split_ifs <;> rfl

theorem directory_signal (w : World) (entry : EntryPtr) {change : Event → Event × Option PollBit}
    (kept : ∀ event, (change event).1.fd = event.fd ∧ (change event).1.closeTrigger = event.closeTrigger) :
    (w.signal entry change).directory = w.directory := by
  have stored := directory_setEvent_kept (kept (w.event entry)).1 (kept (w.event entry)).2
  simp only [signal]
  cases (change (w.event entry)).2 with
  | none => exact stored
  | some bit => exact (directory_trigger _ _ _).trans stored

@[simp]
theorem directory_setReadable (w : World) (entry : EntryPtr) (b : Bool) :
    (w.setReadable entry b).directory = w.directory := w.directory_signal entry fun _ => ⟨rfl, rfl⟩

@[simp]
theorem directory_setWritable (w : World) (entry : EntryPtr) (b : Bool) :
    (w.setWritable entry b).directory = w.directory := w.directory_signal entry fun _ => ⟨rfl, rfl⟩

@[simp]
theorem directory_setCloseByPeer (w : World) (entry : EntryPtr) (b : Bool) :
    (w.setCloseByPeer entry b).directory = w.directory := w.directory_signal entry fun _ => ⟨rfl, rfl⟩

@[simp]
theorem directory_setError (w : World) (entry : EntryPtr) (err : Errno) (quicErr : Int) :
    (w.setError entry err quicErr).directory = w.directory := by
  refine w.directory_signal entry fun event => ?_
  simp only [Event.setError]
  split <;> exact ⟨rfl, rfl⟩

theorem directory_stopWait (w : World) (entry : EntryPtr) (e : EpollerId) :
    (w.stopWait entry e).directory = w.directory := directory_setEvent_kept rfl rfl

theorem directory_startWait (started : w.startWait entry e fd = some w') : w'.directory = w.directory := by
  simp only [startWait] at started
  split_ifs at started
  all_goals
    cases started
    refine (directory_setEvent_kept ?_ ?_).trans (directory_modEpoller_kept ?_) <;> rfl

theorem directory_unlink (w : World) (s : SocketId) : (w.unlink s).directory = w.directory :=
  directory_modSocket_kept ⟨rfl, rfl, rfl, rfl, rfl, rfl, rfl, rfl⟩

theorem directory_link (linked : w.link s e = some w') : w'.directory = w.directory := by
  simp only [link] at linked
  split at linked
  · cases linked
  · cases linked
    exact directory_modSocket_kept ⟨rfl, rfl, rfl, rfl, rfl, rfl, rfl, rfl⟩

theorem directory_listenUdp (w : World) (e : EpollerId) (udp : UdpSocket) (full : Bool) :
    (w.listenUdp e udp full).2.directory = w.directory := by
  simp only [listenUdp, epollCtlAdd]
  split
  · split_ifs
    · rfl
    · rfl
    · exact (directory_modEpoller_kept rfl).trans (directory_modEpoller_kept rfl)
  · exact directory_modEpoller_kept rfl

/-- `AddInner` with the registration of an entry that has another descriptor by now left out. -/
inductive Vacates (e : EpollerId) (fd : Fd) (w : World) : World → Prop
  | unregistered : (w.epollers e).fds.lookup fd = none → Vacates e fd w w
  | stale (old : EntryPtr) : (w.epollers e).fds.lookup fd = some old → (w.event old).fd ≠ fd →
    Vacates e fd w (w.eraseFd e fd)

theorem Vacates.lookup {before : World} (vacates : Vacates e fd w before) :
    (before.epollers e).fds.lookup fd = none := by
  cases vacates with
  | unregistered absent => exact absent
  | stale old _ _ => simp [eraseFd, modEpoller]

theorem Vacates.event {before : World} (vacates : Vacates e fd w before) : before.event = w.event := by
  cases vacates <;> rfl

/-- The ways through `AddInner`: the descriptor is registered already, or it is vacated and then names no entry
or one that is registered. -/
theorem addInner_outcome (w : World) (e : EpollerId) (fd : Fd) (events : PollMask) (data : Nat) (full : Bool) :
    ((∃ old, (w.epollers e).fds.lookup fd = some old ∧ (w.event old).fd = fd) ∧
      w.addInner e fd events data full = (.fail .eexist, w)) ∨
    ∃ before, Vacates e fd w before ∧
      ((∀ entry, w.fdManager fd = some entry → (w.event entry).fd ≠ fd) ∧
          w.addInner e fd events data full = (.fail .ebadf, before) ∨
        ∃ entry, w.fdManager fd = some entry ∧ (w.event entry).fd = fd ∧
          w.addInner e fd events data full = before.register e fd entry events data full) := by
  simp only [addInner]
  cases found : (w.epollers e).fds.lookup fd with
  | none =>
    refine .inr ⟨w, .unregistered found, ?_⟩
    cases held : w.fdManager fd with
    | none => exact .inl ⟨nofun, rfl⟩
    | some entry =>
      by_cases own : (w.event entry).fd = fd
      · exact .inr ⟨entry, rfl, own, if_neg (not_not.mpr own)⟩
      · exact .inl ⟨fun _ same => Option.some.inj same ▸ own, if_pos own⟩
  | some old =>
    by_cases current : (w.event old).fd = fd
    · exact .inl ⟨⟨old, rfl, current⟩, if_pos current⟩
    · refine .inr ⟨w.eraseFd e fd, .stale old found current, ?_⟩
      simp only [if_neg current]
      have table : (w.eraseFd e fd).fdManager = w.fdManager := rfl
      have events : (w.eraseFd e fd).event = w.event := rfl
      rw [table, events]
      cases held : w.fdManager fd with
      | none => exact .inl ⟨nofun, rfl⟩
      | some entry =>
        by_cases own : (w.event entry).fd = fd
        · exact .inr ⟨entry, rfl, own, if_neg (not_not.mpr own)⟩
        · exact .inl ⟨fun _ same => Option.some.inj same ▸ own, if_pos own⟩

/-- What each part of `AddInner` keeps. -/
structure Adding (P : World → Prop) (e : EpollerId) : Prop where
  epoller : ∀ {w : World} (f : QuicEpollerEntry → QuicEpollerEntry),
    (∀ epoller, (f epoller).dispatch = epoller.dispatch) → P w → P (w.modEpoller e f)
  startWait : ∀ {w w' : World} {entry : EntryPtr} {fd : Fd}, w.startWait entry e fd = some w' → P w → P w'
  stopWait : ∀ (w : World) (entry : EntryPtr), P w → P (w.stopWait entry e)
  link : ∀ {w w' : World} {s : SocketId}, w.link s e = some w' → P w → P w'
  listenUdp : ∀ (w : World) (udp : UdpSocket) (full : Bool), P w → P (w.listenUdp e udp full).2

theorem Adding.register {P : World → Prop} (adding : Adding P e) (holds : P w) (fd : Fd) (entry : EntryPtr)
    (events : PollMask) (data : Nat) (full : Bool) : P (w.register e fd entry events data full).2 := by
  have noted := adding.epoller
    (fun epoller => { epoller with qev := Function.update epoller.qev fd { events, data } }) (fun _ => rfl) holds
  simp only [World.register]
  split
  · exact noted
  · next starts =>
    have inserted := adding.epoller (fun epoller => { epoller with fds := epoller.fds.insert fd entry })
      (fun _ => rfl) (adding.startWait starts noted)
    split
    · exact adding.stopWait _ _ inserted
    · split
      · exact adding.listenUdp _ _ _ inserted
      · split
        · dsimp only
          exact adding.stopWait _ _ inserted
        · next linked => exact adding.listenUdp _ _ _ (adding.link linked inserted)

theorem Adding.addInner {P : World → Prop} (adding : Adding P e) (holds : P w) (fd : Fd) (events : PollMask)
    (data : Nat) (full : Bool) : P (w.addInner e fd events data full).2 := by
  have vacated : ∀ before, Vacates e fd w before → P before := by
    intro before vacates
    cases vacates with
    | unregistered _ => exact holds
    | stale _ _ _ => exact adding.epoller _ (fun _ => rfl) holds
  rcases w.addInner_outcome e fd events data full with
    ⟨-, added⟩ | ⟨before, vacates, ⟨-, added⟩ | ⟨entry, -, -, added⟩⟩ <;> rw [added]
  · exact holds
  · exact vacated before vacates
  · exact adding.register (vacated before vacates) fd entry events data full

theorem directory_addInner (w : World) (e : EpollerId) (fd : Fd) (events : PollMask) (data : Nat) (full : Bool) :
    (w.addInner e fd events data full).2.directory = w.directory := by
  have adding : Adding (fun after => after.directory = w.directory) e :=
    { epoller := fun _ kept same => (directory_modEpoller_kept (kept _)).trans same
      startWait := fun started same => (directory_startWait started).trans same
      stopWait := fun _ _ same => (directory_stopWait ..).trans same
      link := fun linked same => (directory_link linked).trans same
      listenUdp := fun _ _ _ same => (directory_listenUdp ..).trans same }
  exact adding.addInner rfl ..

theorem directory_modInner (w : World) (e : EpollerId) (fd : Fd) (events : PollMask) (data : Nat) :
    (w.modInner e fd events data).2.directory = w.directory := by
  simp only [modInner]
  split
  · rfl
  · exact directory_modEpoller_kept rfl

theorem directory_dropUdp (w : World) (e : EpollerId) (udp : UdpSocket) (count : Int) :
    (w.dropUdp e udp count).directory = w.directory := by
  simp only [dropUdp, epollCtlDel]
  split_ifs
  · exact (directory_modEpoller_kept rfl).trans (directory_modEpoller_kept rfl)
  · exact directory_modEpoller_kept rfl

/-- What a `DelInner` that returns has done. -/
theorem delInner_cases {result : CallResult × World} (deleted : w.delInner e fd = .ok result) :
    (w.epollers e).fds.lookup fd = none ∧ result = (.fail .enoent, w) ∨
    (∃ entry, (w.epollers e).fds.lookup fd = some entry ∧ (w.event entry).fd ≠ fd ∧
      result = (.fail .enoent, w.eraseFd e fd)) ∨
    ∃ entry udp count, (w.epollers e).fds.lookup fd = some entry ∧ (w.event entry).fd = fd ∧
      w.nativeUdpFd entry = some udp ∧ (w.epollers e).udps udp = some count ∧
      result = (.ok, w.deregister e fd entry udp count) := by
  simp only [delInner] at deleted
  cases found : (w.epollers e).fds.lookup fd with
  | none =>
    simp only [found, Except.ok.injEq] at deleted
    exact .inl ⟨rfl, deleted.symm⟩
  | some entry =>
    simp only [found] at deleted
    by_cases stale : (w.event entry).fd ≠ fd
    · rw [if_pos stale, Except.ok.injEq] at deleted
      exact .inr (.inl ⟨entry, rfl, stale, deleted.symm⟩)
    · rw [if_neg stale] at deleted
      cases native : w.nativeUdpFd entry with
      | none => simp [native] at deleted
      | some udp =>
        cases counted : (w.epollers e).udps udp with
        | none => simp [native, counted] at deleted
        | some count =>
          simp only [native, counted, Except.ok.injEq] at deleted
          exact .inr (.inr ⟨entry, udp, count, rfl, not_not.mp stale, native, counted, deleted.symm⟩)

theorem directory_deregister (w : World) (e : EpollerId) (fd : Fd) (entry : EntryPtr) (udp : UdpSocket)
    (count : Int) : (w.deregister e fd entry udp count).directory = w.directory := by
  have erased : (((w.dropUdp e udp count).stopWait entry e).eraseFd e fd).directory = w.directory :=
    (directory_modEpoller_kept rfl).trans ((directory_stopWait _ _ _).trans (directory_dropUdp _ _ _ _))
  cases entry with
  | socket s => exact (directory_unlink _ _).trans erased
  | stream t => exact erased

theorem directory_delInner {result : CallResult × World} (deleted : w.delInner e fd = .ok result) :
    result.2.directory = w.directory := by
  rcases delInner_cases deleted with ⟨-, rfl⟩ | ⟨entry, -, -, rfl⟩ | ⟨entry, udp, count, -, -, -, -, rfl⟩
  · rfl
  · exact directory_modEpoller_kept rfl
  · exact directory_deregister ..

theorem directory_notifyClosed {epollers : List EpollerId} (notified : w.notifyClosed entry epollers = .ok w') :
    w'.directory = w.directory := by
  induction epollers generalizing w with
  | nil =>
    cases notified
    rfl
  | cons e rest ih =>
    obtain ⟨result, deleted, continued⟩ := Machine.bind_eq_ok notified
    exact (ih continued).trans (directory_delInner deleted)

theorem directory_clearWaitingsByClose (cleared : w.clearWaitingsByClose entry = .ok w') :
    w'.directory = { w.directory with closeTrigger := Function.update w.directory.closeTrigger entry true } := by
  simp only [clearWaitingsByClose] at cleared
  split_ifs at cleared with before
  · cases cleared
    have same : w.directory.closeTrigger entry = true := before
    rw [← same, Function.update_eq_self]
  · rw [directory_notifyClosed cleared, directory_setEvent]
    exact Directory.ext rfl rfl rfl rfl rfl (Function.update_eq_self ..) rfl rfl rfl rfl rfl rfl rfl rfl

theorem directory_poll (w : World) (e : EpollerId) (maxevents : Nat) :
    (w.poll e maxevents).2.directory = w.directory := directory_modEpoller_kept rfl

theorem directory_closeEpoller (idle : (w.epollers e).dispatch = none) :
    (w.closeEpoller e).directory = w.directory := by
  -- only waitings change while the destructor walks over the registrations
  have stopped : ∀ (entries : List EntryPtr) (before : World),
      (entries.foldl (fun w entry => w.stopWait entry e) before).directory = before.directory := by
    intro entries
    induction entries with
    | nil => exact fun _ => rfl
    | cons entry rest ih => exact fun before => (ih _).trans (directory_stopWait _ _ _)
  have stoppedHere := stopped ((w.epollers e).fds.entries.map Sigma.snd) w
  refine (directory_modEpoller_kept ?_).trans stoppedHere
  exact (idle.symm.trans (congrFun (congrArg Directory.dispatch stoppedHere) e).symm)

/-- The callbacks of a stream keep its descriptor, its UDP socket and its waiters' close flag. -/
def KeepsStream (callback : QuicStreamEntry → QuicStreamEntry × Option PollBit) : Prop :=
  ∀ stream, (callback stream).1.fd = stream.fd ∧
    (callback stream).1.closeTrigger = stream.closeTrigger ∧
    (callback stream).1.udpSocket = stream.udpSocket

theorem keepsStream_onClose : KeepsStream QuicStreamEntry.onClose := by
  intro stream
  simp only [QuicStreamEntry.onClose, Event.setError]
  split <;> simp

theorem keepsStream_onReceived (data : List UInt8) : KeepsStream (·.onReceived data) := by
  intro stream
  simp only [QuicStreamEntry.onReceived, Event.setReadable]
  split_ifs <;> simp

theorem directory_streamCallback (w : World) (t : StreamId)
    {callback : QuicStreamEntry → QuicStreamEntry × Option PollBit} (keeps : KeepsStream callback) :
    (w.streamCallback t callback).directory = w.directory := by
  obtain ⟨fd, closeTrigger, udp⟩ := keeps (w.streams t)
  have stored : (w.modStream t fun _ => (callback (w.streams t)).1).directory = w.directory :=
    directory_modStream_kept fd closeTrigger udp
  simp only [streamCallback]
  split
  · exact (directory_trigger _ _ _).trans stored
  · exact stored

/-- What every `OnClose` keeps is kept when a session closes its streams. -/
theorem closeStreams_keeps {P : World → Prop} (keeps : ∀ t w, P w → P (w.streamCallback t QuicStreamEntry.onClose))
    (s : SocketId) (holds : P w) : P (w.closeStreams s) := by
  refine List.foldlRecOn _ _ holds fun before kept t _ => ?_
  split_ifs
  · exact keeps t before kept
  · exact kept

theorem directory_closeStreams (w : World) (s : SocketId) : (w.closeStreams s).directory = w.directory :=
  closeStreams_keeps (P := fun after => after.directory = w.directory)
    (fun _ _ same => (directory_streamCallback _ _ keepsStream_onClose).trans same) s rfl

theorem readv_keeps (stream : QuicStreamEntry) (iov : List Nat) :
    (stream.readv iov).entry.fd = stream.fd ∧
      (stream.readv iov).entry.closeTrigger = stream.closeTrigger ∧
      (stream.readv iov).entry.udpSocket = stream.udpSocket := by
  simp only [QuicStreamEntry.readv]
  split
  · exact ⟨rfl, rfl, rfl⟩
  · split_ifs <;> exact ⟨rfl, rfl, rfl⟩

@[simp]
theorem directory_openUdp (w : World) (udp : UdpSocket) : (w.openUdp udp).directory = w.directory := by
  unfold openUdp
  split_ifs <;> rfl

/-- The ways through a round of the receive loop: nothing happens, or an entry opens for the owner that is found. -/
theorem dispatchDatagram_outcome {udp : UdpSocket} {cached : Option SocketId} {id : QuicConnectionId}
    (dispatched : w.dispatchDatagram e udp cached id = .ok w') :
    w' = w ∨ ∃ owner, w.connectionManager.get udp id = -1 ∧ w.findOwner udp cached = .ok (some owner) ∧
      ((w.modEpoller e fun epoller =>
        { epoller with dispatch := some (udp, some owner) }).newQuicSocketEntry .isServer id).2.onSyn
          w.numSockets owner = .ok w' := by
  unfold dispatchDatagram at dispatched
  split_ifs at dispatched with invalid unknown
  · cases dispatched
    exact .inl rfl
  · obtain ⟨found, owned, continued⟩ := Machine.bind_eq_ok dispatched
    cases found with
    | none =>
      cases continued
      exact .inl rfl
    | some owner => exact .inr ⟨owner, unknown, owned, continued⟩
  · obtain ⟨-, -, continued⟩ := Machine.bind_eq_ok dispatched
    cases continued
    exact .inl rfl

/-! ## Operations that change the directory -/

theorem directory_setSocketState (w : World) (s : SocketId) (socketState : QuicSocketState) :
    (w.setSocketState s socketState).directory =
      { w.directory with socketState := Function.update w.directory.socketState s socketState } := by
  rw [setSocketState, directory_modSocket]
  exact Directory.ext rfl rfl rfl rfl rfl (Function.update_eq_self ..) (Function.update_eq_self ..)
    (Function.update_eq_self ..) (Function.update_eq_self ..) (Function.update_eq_self ..) rfl
    (Function.update_eq_self ..) (Function.update_eq_self ..) rfl

theorem directory_modAcceptSockets (w : World) (s : SocketId) (f : List SocketId → List SocketId) :
    (w.modSocket s fun socket => { socket with acceptSockets := f socket.acceptSockets }).directory =
      { w.directory with
        acceptSockets := Function.update w.directory.acceptSockets s (f (w.directory.acceptSockets s)) } := by
  rw [directory_modSocket]
  exact Directory.ext rfl rfl rfl rfl rfl (Function.update_eq_self ..) (Function.update_eq_self ..)
    (Function.update_eq_self ..) (Function.update_eq_self ..) (Function.update_eq_self ..)
    (Function.update_eq_self ..) (Function.update_eq_self ..) rfl rfl

theorem directory_disconnect (w : World) (s : SocketId) :
    (w.disconnect s).directory =
      { w.directory with connected := Function.update w.directory.connected s false } := by
  rw [disconnect, directory_closeStreams, directory_modSocket]
  exact Directory.ext rfl rfl rfl rfl rfl (Function.update_eq_self ..) (Function.update_eq_self ..)
    (Function.update_eq_self ..) (Function.update_eq_self ..) (Function.update_eq_self ..)
    (Function.update_eq_self ..) rfl (Function.update_eq_self ..) rfl

theorem directory_releaseFd (w : World) (entry : EntryPtr) :
    (w.releaseFd entry).directory =
      if 0 ≤ w.directory.fd entry then
        { w.directory with
          fdManager := Function.update w.directory.fdManager (w.directory.fd entry) none
          fdFactory := w.directory.fdFactory.free (w.directory.fd entry)
          fd := Function.update w.directory.fd entry (-1) }
      else w.directory := by
  simp only [releaseFd]
  change (if 0 ≤ w.directory.fd entry then _ else _ : World).directory = _
  split_ifs
  · rw [directory_setEvent]
    exact Directory.ext rfl rfl rfl rfl rfl rfl (Function.update_eq_self ..) rfl rfl rfl rfl rfl rfl rfl
  · rfl

/-- A socket gets its UDP socket and is entered into the routing table. -/
private theorem directory_route (w : World) (s : SocketId) (udp : UdpSocket) (socketState : QuicSocketState)
    (owner : Bool) :
    let stored := w.modSocket s fun socket => { socket with udpSocket := some udp, socketState }
    ({ stored with
      connectionManager := stored.connectionManager.put udp (stored.sockets s).connectionId
        (stored.sockets s).fd owner } : World).directory =
      { w.directory with
        udp := Function.update w.directory.udp (.socket s) (some udp)
        socketState := Function.update w.directory.socketState s socketState
        connectionManager := w.directory.connectionManager.put udp (w.directory.connectionId s)
          (w.directory.fd (.socket s)) owner } := by
  intro stored
  have entry : stored.sockets s = { w.sockets s with udpSocket := some udp, socketState } :=
    Function.update_self ..
  have changed : stored.directory = _ := w.directory_modSocket s _
  change
    { stored.directory with
      connectionManager := w.connectionManager.put udp (stored.sockets s).connectionId
        (stored.sockets s).fd owner } = _
  rw [entry, changed]
  exact Directory.ext rfl rfl rfl rfl rfl (Function.update_eq_self ..) (Function.update_eq_self ..) rfl
    (Function.update_eq_self ..) (Function.update_eq_self ..) rfl (Function.update_eq_self ..)
    (Function.update_eq_self ..) rfl

theorem directory_setUdpSocket (w : World) (s : SocketId) (udp : UdpSocket) :
    (w.setUdpSocket s udp).directory =
      { w.directory with
        udp := Function.update w.directory.udp (.socket s) (some udp)
        socketState := Function.update w.directory.socketState s .inited
        connectionManager := w.directory.connectionManager.put udp (w.directory.connectionId s)
          (w.directory.fd (.socket s)) true } := w.directory_route s udp .inited true

/-! ## `Bind` and `Connect` -/

/-- A freshly routed socket is `Inited`. -/
theorem socketState_setUdpSocket (w : World) (s : SocketId) (udp : UdpSocket) :
    ((w.openUdp udp).setUdpSocket s udp).directory.socketState s = .inited := by
  rw [directory_setUdpSocket]
  simp

theorem unbound_of_udpFresh {udp : Except Errno UdpSocket} (fresh : w.udpFresh udp = true) {number : UdpSocket}
    (same : udp = .ok number) : w.UdpUnbound number := by
  subst same
  exact (of_decide_eq_true fresh : w.UdpUnbound number ∧ w.UdpUnstreamed number).1

/-- What is kept when a new socket gets a UDP socket that `opens` allows, and when it moves on from `Inited`. -/
structure Configures (P : World → Prop) (w : World) (s : SocketId) (opens : UdpSocket → Prop) : Prop where
  holds : P w
  set : ∀ udp, opens udp → w.directory.socketState s = .none → ¬ (w.sockets s).udpSocket.isSome = true →
    P ((w.openUdp udp).setUdpSocket s udp)
  moves : ∀ before next, before.directory.socketState s = .inited → P before → next = .binded ∨ next = .connecting →
    P (before.setSocketState s next)

namespace Configures

variable {P : World → Prop} {opens : UdpSocket → Prop} {udp : Except Errno UdpSocket}
  (configures : Configures P w s opens) (opened : ∀ {number}, udp = .ok number → opens number)

include configures opened in
theorem createNewUdpSocket (new : w.directory.socketState s = .none) (created : w.createNewUdpSocket s udp = .ok w') :
    P w' ∧ w'.directory.socketState s = .inited := by
  obtain ⟨unset, number, same, rfl⟩ := createNewUdpSocket_eq_ok created
  exact ⟨configures.set number (opened same) new unset, socketState_setUdpSocket w s number⟩

include configures opened in
theorem bind (os : Option Errno) : P (w.bind s udp os).2 := by
  unfold World.bind
  dsimp only
  split
  · next new =>
    split
    · exact configures.holds
    · next created =>
      obtain ⟨holds, inited⟩ := configures.createNewUdpSocket opened new created
      cases os with
      | none => exact configures.moves _ _ inited holds (.inl rfl)
      | some err => exact holds
  · next inited =>
    cases os with
    | none => exact configures.moves _ _ inited configures.holds (.inl rfl)
    | some err => exact configures.holds
  · exact configures.holds

include configures in
theorem bindUdp {udp : UdpSocket} (opened : opens udp) (os : Option Errno) : P (w.bindUdp s udp os).2 := by
  unfold World.bindUdp
  split
  · next new =>
    split_ifs with unset
    · exact configures.holds
    · cases os with
      | none =>
        exact configures.moves _ _ (socketState_setUdpSocket w s udp) (configures.set udp opened new unset) (.inl rfl)
      | some err => exact configures.holds
  · exact configures.holds

include configures opened in
/-- A listener connects from a state of its own. -/
theorem connect (listens : w.directory.socketState s = .binded → P (w.setSocketState s .connecting)) :
    P (w.connect s udp).2 := by
  unfold World.connect
  dsimp only
  split
  · next new =>
    split
    · exact configures.holds
    · next created =>
      obtain ⟨holds, inited⟩ := configures.createNewUdpSocket opened new created
      exact configures.moves _ _ inited holds (.inr rfl)
  · next inited => exact configures.moves _ _ inited configures.holds (.inr rfl)
  · next binded => exact listens binded
  · exact configures.holds
  · exact configures.holds

end Configures

/-! ## New entries -/

theorem directory_onSyn {owner : SocketId} (synced : w.onSyn s owner = .ok w') :
    ∃ udp, w.directory.udp (.socket owner) = some udp ∧
      w'.directory =
        { w.directory with
          udp := Function.update w.directory.udp (.socket s) (some udp)
          socketState := Function.update w.directory.socketState s .shared
          connectionManager := w.directory.connectionManager.put udp (w.directory.connectionId s)
            (w.directory.fd (.socket s)) false } := by
  simp only [onSyn] at synced
  split at synced
  · cases synced
  · next udp native =>
    cases synced
    exact ⟨udp, native, w.directory_route s udp .shared false⟩

theorem directory_newQuicSocketEntry (w : World) (perspective : Perspective) (id : QuicConnectionId) :
    (w.newQuicSocketEntry perspective id).2.directory =
      { w.directory with
        fdFactory := w.directory.fdFactory.alloc.2
        fdManager := Function.update w.directory.fdManager w.directory.fdFactory.alloc.1
          (some (.socket w.numSockets))
        numSockets := w.numSockets + 1
        fd := Function.update w.directory.fd (.socket w.numSockets) w.directory.fdFactory.alloc.1
        closeTrigger := Function.update w.directory.closeTrigger (.socket w.numSockets) false
        udp := Function.update w.directory.udp (.socket w.numSockets) none
        perspective := Function.update w.directory.perspective w.numSockets perspective
        connectionId := Function.update w.directory.connectionId w.numSockets id
        socketState := Function.update w.directory.socketState w.numSockets .none
        connected := Function.update w.directory.connected w.numSockets true
        acceptSockets := Function.update w.directory.acceptSockets w.numSockets [] } :=
  directory_modSocket
    { w with
      fdFactory := w.fdFactory.alloc.2
      fdManager := Function.update w.fdManager w.fdFactory.alloc.1 (some (.socket w.numSockets))
      numSockets := w.numSockets + 1 }
    w.numSockets fun _ => { fd := w.fdFactory.alloc.1, perspective, connectionId := id }

theorem directory_newQuicStream (w : World) (s : SocketId) (streamId : Nat) :
    (w.newQuicStream s streamId).2.directory =
      { w.directory with
        fdFactory := w.directory.fdFactory.alloc.2
        fdManager := Function.update w.directory.fdManager w.directory.fdFactory.alloc.1
          (some (.stream w.numStreams))
        numStreams := w.numStreams + 1
        fd := Function.update w.directory.fd (.stream w.numStreams) w.directory.fdFactory.alloc.1
        closeTrigger := Function.update w.directory.closeTrigger (.stream w.numStreams) false
        udp := Function.update w.directory.udp (.stream w.numStreams) (w.directory.udp (.socket s)) } :=
  directory_modStream
    { w with
      fdFactory := w.fdFactory.alloc.2
      fdManager := Function.update w.fdManager w.fdFactory.alloc.1 (some (.stream w.numStreams))
      numStreams := w.numStreams + 1 }
    w.numStreams fun _ => QuicStreamEntry.new w.fdFactory.alloc.1 (w.sockets s).udpSocket s streamId

theorem directory_unroute (w : World) (s : SocketId) :
    (w.unroute s).directory =
      match w.directory.udp (.socket s) with
      | none => w.directory
      | some udp =>
        { w.directory with
          connectionManager := w.directory.connectionManager.delete udp (w.directory.connectionId s)
            (w.directory.fd (.socket s)) } := by
  simp only [unroute]
  change (match w.directory.udp (.socket s) with | none => w | some udp => _ : World).directory = _
  cases w.directory.udp (.socket s) <;> rfl

end World

end PosixQuic
