import PosixQuic.Model.Custody
import PosixQuic.Soundness.Carries

/-! # Descriptors that nobody is responsible for

Over whole runs, with the history of what the application was given and has closed.
-/

namespace PosixQuic

namespace Custody

open World Machine

variable {w w' : World} {given : List (Fd × EntryPtr)} {action : Action} {result : CallResult} {entry : EntryPtr}
  {c : Custody}

theorem mem_record_of_mem (gives : action.gives = true) {held : Fd × EntryPtr} (member : held ∈ given) :
    held ∈ record given action result w' := by
  rw [record, if_pos gives]
  split
  · exact List.mem_cons_of_mem _ member
  · exact member

theorem mem_record_new (gives : action.gives = true) (held : w'.fdManager result.value = some entry) :
    (result.value, entry) ∈ record given action result w' := by
  rw [record, if_pos gives, held]
  exact List.mem_cons_self ..

/-- A call that hands nothing out after all. -/
theorem accounted_fail (accounted : w.Accounted given) (gives : action.gives = true) :
    w.Accounted (record given action result w) :=
  accounted.carry (show Carries World.nobody w w from .refl w) (fun _ _ _ => mem_record_of_mem gives) nofun

/-- A call that hands out the descriptor of the entry set apart. -/
theorem accounted_give (accounted : w.Accounted given) (gives : action.gives = true)
    (carries : Carries (· = entry) w w') (value : result.value = (w'.event entry).fd) (tables : w'.directory.Tables) :
    w'.Accounted (record given action result w') := by
  refine accounted.carry carries (fun _ _ _ => mem_record_of_mem gives) ?_
  rintro fd _ rfl held
  have remembered : (w'.event _).fd = fd := tables.sound.handle_of_holder fd _ held
  left
  rw [← remembered, ← value]
  refine mem_record_new gives ?_
  rw [value, remembered]
  exact held

/-- A close that succeeds takes its own descriptor only, and that is no longer in use. -/
theorem accounted_take (accounted : w.Accounted given) {fd : Fd} (gives : action.gives = false)
    (closes : action.closedFd = some fd) (carries : Carries World.nobody w w')
    (released : result = .ok → w'.fdManager fd = none) : w'.Accounted (record given action result w') := by
  refine accounted.carry carries ?_ nofun
  intro k entry held member
  rw [record, gives, closes]
  dsimp only
  rw [if_neg Bool.false_ne_true]
  split_ifs with done
  · refine List.mem_filter.mpr ⟨member, decide_eq_true ?_⟩
    rintro rfl
    rw [released done] at held
    cases held
  · exact member

theorem released_of_lost (carries : Carries World.nobody w w') (tables : w'.directory.Tables) {fd : Fd}
    (held : w.fdManager fd = some entry) (lost : w'.directory.fd entry < 0) : w'.fdManager fd = none := by
  cases after : w'.fdManager fd with
  | none => rfl
  | some other =>
    obtain rfl : other = entry := Option.some.inj ((carries.held fd other id after).symm.trans held)
    rw [show w'.directory.fd other = fd from tables.sound.handle_of_holder fd other after] at lost
    exact absurd (tables.sound.pos_of_held after).1 (not_le.mpr (lt_of_lt_of_le lost Int.one_nonneg))

theorem accounted_quicCloseSocket (roles : w.directory.Roles) (settled : w.Settled) {sock : Fd}
    (leaves : w.LeavesNoStreams (.closeSocket sock)) (accounted : w.Accounted given) {after : CallResult × World}
    (closed : w.quicCloseSocket sock = .ok after) (tables : after.2.directory.Tables) :
    after.2.Accounted (record given (.closeSocket sock) after.1 after.2) := by
  have carries := carries_quicCloseSocket roles settled tables leaves closed
  refine accounted_take accounted rfl rfl carries fun done => ?_
  unfold World.quicCloseSocket withSocket at closed
  split at closed
  · next s found =>
    obtain ⟨last, -, returned⟩ := bind_eq_ok closed
    cases returned
    exact released_of_lost carries tables found (last.fd_deleteQuicSocketEntry_neg s).1
  · cases closed
    cases done

theorem accounted_quicCloseStream {stream : Fd} (accounted : w.Accounted given) {after : CallResult × World}
    (closed : w.quicCloseStream stream = .ok after) (tables : after.2.directory.Tables) :
    after.2.Accounted (record given (.closeStream stream) after.1 after.2) := by
  have carries := carries_quicCloseStream closed
  refine accounted_take accounted rfl rfl carries fun done => ?_
  unfold World.quicCloseStream withStream at closed
  split at closed
  · next t found =>
    obtain ⟨last, -, returned⟩ := bind_eq_ok closed
    cases returned
    exact released_of_lost carries tables found (last.fd_releaseFd_neg (.stream t)).1
  · cases closed
    cases done

/-- The entry of a new connection is half open. -/
theorem accounted_dispatchDatagram (tables : w.directory.Tables) (accounted : w.Accounted given) {e : EpollerId}
    {udp : UdpSocket} {cached : Option SocketId} {key : QuicConnectionId}
    (dispatched : w.dispatchDatagram e udp cached key = .ok w') : w'.Accounted given := by
  obtain ⟨carries, half⟩ := carries_dispatchDatagram tables dispatched
  refine accounted.carry carries (fun _ _ _ => id) ?_
  rintro fd _ rfl held
  exact .inr (.inl (half fd held))

/-- A connection that finishes its handshake waits in the queue of its listener. -/
theorem accounted_onCryptoHandshakeComplete (routing : w.directory.Routing) (accounted : w.Accounted given)
    {s : SocketId} (completed : w.onCryptoHandshakeComplete s = .ok w') : w'.Accounted given := by
  obtain ⟨carries, queues⟩ := carries_onCryptoHandshakeComplete routing completed
  refine accounted.carry carries (fun _ _ _ => id) ?_
  rintro fd _ ⟨rfl, server⟩ -
  exact .inr (.inr (queues server))

/-- A stream of an open connection waits in the queue of its socket. -/
theorem accounted_onIncomingStream (roles : w.directory.Roles) (accounted : w.Accounted given) {s : SocketId}
    {streamId : Nat} (admitted : w.admits (.incomingStream s streamId) = true) :
    (w.onIncomingStream s streamId).Accounted given := by
  obtain ⟨carries, queues⟩ := w.carries_onIncomingStream s streamId
  refine accounted.carry carries (fun _ _ _ => id) ?_
  rintro fd _ rfl -
  -- libquic reports streams of connections that are not closed
  simp only [admits, Bool.and_eq_true, decide_eq_true_eq] at admitted
  have isOpen : w.directory.socketState s ≠ .closed := by
    intro closed
    rw [show (w.sockets s).socketState = .closed from closed] at admitted
    exact absurd admitted.2 (by decide)
  refine .inr (.inr (queues ⟨fun released => ?_, isOpen⟩))
  exact absurd (released ▸ roles.held s isOpen : (0 : Int) ≤ -1) (by decide)

/-- Every action accounts for the descriptors that are in use afterwards. -/
theorem perform_accounted (reachable : World.system.Reachable {} w) (admitted : w.admits action = true)
    (leaves : w.LeavesNoStreams action) (accounted : w.Accounted given) :
    Yields (fun _ => True) (fun result => result.2.directory.Tables →
      result.2.Accounted (record given action result.1 result.2)) (w.perform action) := by
  obtain ⟨-, queued, settled⟩ := reachable_linked reachable
  have roles := queued.toRoles
  have quiet : ∀ w', Carries World.nobody w w' → w'.Accounted given := fun w' carries =>
    accounted.carry carries (fun _ _ _ => id) nofun
  have same : ∀ w' : World, w'.directory = w.directory → w'.backlog = w.backlog → w'.Accounted given :=
    fun w' directory backlog => quiet w' (.of_directory_eq directory backlog)
  cases action with
  | createSocket id =>
    intro tables
    exact accounted_give accounted rfl (carries_newQuicSocketEntry roles.toTables .isClient id) rfl tables
  | bind sock udp os =>
    exact withSocket_yields (fun _ => accounted) fun s _ _ =>
      quiet _ ((w.carries_configures s).bind (fun _ => trivial) os)
  | bindUdp sock udp os =>
    exact withSocket_yields (fun _ => accounted) fun s _ _ => quiet _ ((w.carries_configures s).bindUdp trivial os)
  | connect sock udp =>
    exact withSocket_yields (fun _ => accounted) fun s _ _ =>
      quiet _ ((w.carries_configures s).connect (fun _ => trivial) fun binded =>
        carries_setSocketState (not_halfOpen binded (by decide)) (by decide))
  | socketAccept sock =>
    refine withSocket_yields (fun _ => accounted_fail accounted rfl) fun s _ tables => ?_
    rcases w.acceptSocket_cases s with ⟨err, refused⟩ | ⟨child, carries, value⟩
    · rw [refused]
      exact accounted_fail accounted rfl
    · exact accounted_give accounted rfl carries value tables
  | closeSocket sock =>
    cases closed : w.quicCloseSocket sock with
    | error fault =>
      rw [World.perform, closed]
      trivial
    | ok after =>
      rw [World.perform, closed]
      exact accounted_quicCloseSocket roles settled leaves accounted closed
  | streamAccept sock =>
    refine withSocket_yields (fun _ => accounted_fail accounted rfl) fun s _ tables => ?_
    rcases w.acceptStream_cases s with ⟨err, refused⟩ | ⟨t, carries, value⟩
    · rw [refused]
      exact accounted_fail accounted rfl
    · exact accounted_give accounted rfl carries value tables
  | createStream sock streamId =>
    refine withSocket_yields (fun _ => accounted_fail accounted rfl) fun s _ => ?_
    unfold World.createStream
    split_ifs
    · exact fun _ => accounted_fail accounted rfl
    · exact fun tables => accounted_give accounted rfl (w.carries_newQuicStream s streamId) rfl tables
  | closeStream stream =>
    cases closed : w.quicCloseStream stream with
    | error fault =>
      rw [World.perform, closed]
      trivial
    | ok after =>
      rw [World.perform, closed]
      exact accounted_quicCloseStream accounted closed
  | readv stream iov =>
    refine withStream_yields (fun _ => accounted) fun t _ _ => same _ ?_ rfl
    obtain ⟨fd, closeTrigger, udp⟩ := readv_keeps (w.streams t) iov
    exact directory_modStream_kept fd closeTrigger udp
  | createEpoll => exact fun _ => quiet _ (.of_eq rfl rfl rfl rfl rfl rfl)
  | closeEpoller e =>
    exact withEpoller_yields (fun _ => accounted) fun _ =>
      same _ (directory_closeEpoller (Option.isNone_iff_eq_none.mp admitted)) (backlogFrame.closeEpoller ..)
  | epollAdd e fd events data full =>
    exact withEpoller_yields (fun _ => accounted) fun _ => same _ (directory_addInner ..) (backlogFrame.addInner ..)
  | epollMod e fd events data =>
    exact withEpoller_yields (fun _ => accounted) fun _ => same _ (directory_modInner ..) (backlogFrame.modInner w e fd events data)
  | epollDel e fd =>
    exact withEpoller_yields (fun _ => accounted) (yields_of_ok fun _ deleted => fun _ => same _ (directory_delInner deleted) (backlogFrame.delInner deleted))
  | poll e maxevents =>
    exact withEpoller_yields (fun _ => accounted) fun _ => same _ (directory_poll ..) rfl
  | beginUdpEvent e udp =>
    exact withEpoller_yields (fun _ => accounted) fun _ => quiet _ (.of_eq rfl rfl rfl rfl rfl rfl)
  | datagram e key =>
    exact datagram_yields (fun _ => accounted) fun _ _ _ _ dispatched _ =>
      accounted_dispatchDatagram roles.toTables accounted dispatched
  | endUdpEvent e => exact fun _ => quiet _ (.of_eq rfl rfl rfl rfl rfl rfl)
  | handshakeComplete s =>
    exact handshakeComplete_yields fun _ completed _ =>
      accounted_onCryptoHandshakeComplete roles.toRouting accounted completed
  | incomingStream s streamId => exact fun _ => accounted_onIncomingStream roles accounted admitted
  | connectionClosed s errorCode fromRemote =>
    refine (yields_of_ok fun after closed => ?_).bind fun _ holds => holds
    exact fun tables => quiet _ (carries_connectionClosed roles settled tables leaves closed)
  | streamReceived t data =>
    exact fun _ => same _ (directory_streamCallback _ _ (keepsStream_onReceived data))
      (backlogFrame.streamCallback w t (keepsHome_onReceived data))
  | streamFinRead t =>
    exact fun _ => same _ (directory_streamCallback _ _ fun _ => ⟨rfl, rfl, rfl⟩)
      (backlogFrame.streamCallback w t keepsHome_onFinRead)
  | streamClosed t =>
    exact fun _ => same _ (directory_streamCallback _ _ keepsStream_onClose)
      (backlogFrame.streamCallback w t keepsHome_onClose)
  | streamCanWrite t =>
    exact fun _ => same _ (directory_streamCallback _ _ fun _ => ⟨rfl, rfl, rfl⟩)
      (backlogFrame.streamCallback w t keepsHome_onCanWriteNewData)

theorem step_eq_ok {c' : Custody} (stepped : c.step action = .ok c') :
    ∃ result, c.world.perform action = .ok result ∧ c' = ⟨result.2, record c.given action result.1 result.2⟩ := by
  obtain ⟨result, performed, returned⟩ := bind_eq_ok stepped
  cases returned
  exact ⟨result, performed, rfl⟩

theorem step_world {c' : Custody} (stepped : c.step action = .ok c') : c.world.step action = .ok c'.world := by
  obtain ⟨result, performed, rfl⟩ := step_eq_ok stepped
  rw [World.step, performed]
  rfl

theorem reachable_world (run : system.Reachable {} c) : World.system.Reachable {} c.world := by
  refine run.invariant (P := fun c => World.system.Reachable {} c.world) (.refl _) ?_
  intro before action after reached admitted stepped
  exact reached.move (show World.system.guard before.world action from admitted) (step_world stepped)

/-- In runs in which no close leaves a stream behind, every descriptor in use is one that the application was
given and has not closed, or belongs to a half open connection, or waits to be accepted on an open socket. -/
theorem no_orphaned_descriptors
    (run : (system.restrict fun c action => c.world.LeavesNoStreams action).Reachable {} c) :
    ∀ fd entry, c.world.fdManager fd = some entry →
      (fd, entry) ∈ c.given ∨ c.world.HalfOpen entry ∨ c.world.AwaitsAccept entry := by
  refine (run.invariant (P := fun c => World.system.Reachable {} c.world ∧ c.world.Accounted c.given)
    ⟨.refl _, nofun⟩ ?_).2
  rintro before action after ⟨reached, accounted⟩ ⟨admitted, leaves⟩ stepped
  have admittedThere : World.system.guard before.world action := admitted
  have reachedAfter := reached.move admittedThere (step_world stepped)
  refine ⟨reachedAfter, ?_⟩
  obtain ⟨result, performed, rfl⟩ := step_eq_ok stepped
  exact (perform_accounted reached admitted leaves accounted).of_ok performed (reachable_tables reachedAfter)

/-- A connection is accepted, its first stream is accepted and its second one waits. -/
def acceptsStream : List Action :=
  [.createSocket 7, .bind 1 (.ok 5) none, .createEpoll, .epollAdd 0 1 { pollin := true } 0 false,
    .beginUdpEvent 0 5, .datagram 0 98, .handshakeComplete 1, .datagram 0 99, .endUdpEvent 0, .socketAccept 1,
    .incomingStream 1 3, .streamAccept 2, .incomingStream 1 5]

theorem acceptsStream_accounted :
    ∃ c, (system.restrict fun c action => c.world.LeavesNoStreams action).replay? {} acceptsStream = some c ∧
      c.world.fdManager 5 = some (.stream 1) ∧ c.world.AwaitsAccept (.stream 1) := by
  have ends : ∃ c ∈ (system.restrict fun c action => c.world.LeavesNoStreams action).replay? {} acceptsStream,
      c.world.fdManager 5 = some (.stream 1) ∧ (5, EntryPtr.stream 1) ∉ c.given := by decide
  obtain ⟨c, executed, held, notGiven⟩ := ends
  rcases no_orphaned_descriptors (Machine.System.reachable_of_replay? executed) 5 (.stream 1) held with
    given | half | waits
  · exact (notGiven given).elim
  · exact half.elim
  · exact ⟨c, executed, held, waits⟩

/-- The accepted connection is closed before its stream is accepted. -/
def closesUnaccepted : List Action :=
  [.createSocket 7, .bind 1 (.ok 5) none, .createEpoll, .epollAdd 0 1 { pollin := true } 0 false,
    .beginUdpEvent 0 5, .datagram 0 98, .handshakeComplete 1, .endUdpEvent 0, .socketAccept 1,
    .incomingStream 1 3, .closeSocket 2]

/-- The stream keeps its descriptor, and nobody can close it. -/
theorem closesUnaccepted_orphans :
    ∃ c, system.replay? {} closesUnaccepted = some c ∧ c.world.fdManager 3 = some (.stream 0) ∧
      (3, EntryPtr.stream 0) ∉ c.given ∧ ¬ c.world.HalfOpen (.stream 0) ∧ ¬ c.world.AwaitsAccept (.stream 0) := by
  have ends : ∃ c ∈ system.replay? {} closesUnaccepted, c.world.fdManager 3 = some (.stream 0) ∧
      (3, EntryPtr.stream 0) ∉ c.given ∧ c.world.numSockets = 2 ∧ (c.world.sockets 0).acceptStreams = [] ∧
      (c.world.sockets 1).socketState = .closed := by decide
  obtain ⟨c, executed, held, notGiven, number, nothing, closed⟩ := ends
  have reached := reachable_world (Machine.System.reachable_of_replay? executed)
  refine ⟨c, executed, held, notGiven, id, ?_⟩
  rintro ⟨s, ⟨-, isOpen⟩, waits⟩
  match s with
  | 0 => rw [nothing] at waits; cases waits
  | 1 => exact isOpen closed
  | later + 2 =>
    refine isOpen ((reachable_linked reached).2.2.bounded _ ?_)
    rw [show c.world.directory.numSockets = 2 from number]
    exact Nat.le_add_left 2 later

end Custody

end PosixQuic
