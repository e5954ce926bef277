import PosixQuic.Soundness.Following
import PosixQuic.Soundness.Silence

/-! # When a close takes an entry out of every epoller

`QuicCloseSocket` and `QuicCloseStream` take every registration of the entry back and nothing else,
exactly if every registration has its waiter and its count, and the entry is not a server side one with
an open connection, which loses its descriptor before the waiters are told.
-/

namespace PosixQuic.World

open Machine Directory

/-- The entry loses its descriptor before its waiters are told. -/
def Lingers (w : World) : EntryPtr → Prop
  | .socket s => (w.sockets s).perspective = .isServer ∧ (w.sockets s).connected = true
  | .stream _ => False

/-- The UDP socket of the entry, if it has one. -/
def udpOf (w : World) (entry : EntryPtr) : UdpSocket := (w.nativeUdpFd entry).getD 0

variable {w : World} {entry : EntryPtr}

theorem udp_eq_udpOf (linked : Linked w.directory w.registry) (watched : w.registry.waitings entry ≠ []) :
    w.directory.udp entry = some (w.udpOf entry) := by
  obtain ⟨e, waiting⟩ := List.exists_mem_of_ne_nil _ watched
  obtain ⟨udp, set⟩ := Option.ne_none_iff_exists'.mp (linked.native e entry waiting)
  have native : w.nativeUdpFd entry = some udp := set
  rw [udpOf, native]
  exact set

section OwnPart

variable {w : World} {s : SocketId}

theorem registry_teardown (w : World) (s : SocketId) : ((w.mark s).teardown s).registry = w.registry := by
  have marked := w.registry_mark s
  unfold teardown
  split_ifs
  · rw [registry_deleteQuicSocketEntry, registry_announce, marked]
  · rw [registry_announce, marked]
  · exact marked

theorem directory_teardown (w : World) (s : SocketId) :
    (w.teardown s).directory =
      if w.directory.connected s then
        if w.directory.perspective s = .isServer then (w.directory.disconnect s).release (.socket s)
        else w.directory.disconnect s
      else w.directory := by
  have announced := w.announce_directory s quicConnectionCancelled false
  unfold teardown
  split_ifs
  · rw [directory_deleteQuicSocketEntry, announced]
  · exact announced
  · rfl

/-- What the end of the connection leaves alone. -/
theorem teardown_keeps (w : World) (s : SocketId) :
    ((w.mark s).teardown s).directory.udp = w.directory.udp ∧
      ((w.mark s).teardown s).directory.perspective = w.directory.perspective ∧
      ((w.mark s).teardown s).directory.socketState = Function.update w.directory.socketState s .closed ∧
      ∀ x, x ≠ .socket s → ((w.mark s).teardown s).directory.fd x = w.directory.fd x := by
  rw [directory_teardown, directory_mark]
  dsimp only [Directory.disconnect, Directory.release]
  split_ifs
  · exact ⟨rfl, rfl, rfl, fun x other => Function.update_of_ne other ..⟩
  all_goals exact ⟨rfl, rfl, rfl, fun _ _ => rfl⟩

/-- Only a lingering socket loses its descriptor with its connection. -/
theorem fd_teardown (w : World) (s : SocketId) :
    (w.Lingers (.socket s) → ((w.mark s).teardown s).directory.fd (.socket s) < 0) ∧
      (¬ w.Lingers (.socket s) → ((w.mark s).teardown s).directory.fd = w.directory.fd) := by
  have fd : (w.mark s).directory.fd = w.directory.fd := by rw [directory_mark]
  have connected : (w.mark s).directory.connected s = (w.sockets s).connected := by
    rw [directory_mark]
    rfl
  have perspective : (w.mark s).directory.perspective s = (w.sockets s).perspective := by
    rw [directory_mark]
    rfl
  refine ⟨?_, ?_⟩
  · rintro ⟨server, isConnected⟩
    rw [teardown, connected, perspective, if_pos isConnected, if_pos server, fd_deleteQuicSocketEntry]
    split_ifs with inUse
    · decide
    · exact not_le.mp fun nonneg => inUse ⟨rfl, nonneg⟩
  · intro stays
    rw [teardown, connected, perspective]
    split_ifs with isConnected server
    · exact (stays ⟨server, isConnected⟩).elim
    · rw [fd_announce, fd]
    · exact fd

theorem linked_teardown (linked : Linked w.directory w.registry) (isOpen : ¬ w.Closed s) :
    Linked ((w.mark s).teardown s).directory ((w.mark s).teardown s).registry :=
  closable_linked.teardown (closable_linked.mark w s linked trivial isOpen) trivial (w.mark_closed s)

/-- A socket with its descriptor takes its registrations with it. -/
theorem tellWaiters_departs (linked : Linked w.directory w.registry) (settled : w.Settled) (isOpen : ¬ w.Closed s)
    (stays : ¬ w.Lingers (.socket s)) :
    Yields (fun _ => w.Crashes s ∨
        ∃ e ∈ w.registry.waitings (.socket s), w.registry.udps e (w.udpOf (.socket s)) = none)
      (fun told => Departs (.socket s) (w.directory.fd (.socket s)) (w.udpOf (.socket s))
        (w.registry.waitings (.socket s)) w.registry told.registry) (tellWaiters s w) := by
  have fd := (w.fd_teardown s).2 stays
  have registry := w.registry_teardown s
  have udp := (w.teardown_keeps s).1
  have cleared := clearWaitingsByClose_departs (.socket s) (w.udpOf (.socket s)) (linked_teardown linked isOpen)
  rw [fd, registry, udp] at cleared
  unfold tellWaiters
  split_ifs with crashes
  · exact .inl crashes
  · exact (cleared (fun e waiting => linked.registered settled.told waiting) (udp_eq_udpOf linked)).mono fun _ => .inr

/-- A lingering socket leaves its registrations behind. -/
theorem tellWaiters_misses (linked : Linked w.directory w.registry) (roles : w.directory.Roles) (isOpen : ¬ w.Closed s)
    (lingers : w.Lingers (.socket s)) :
    ∃ told, tellWaiters s w = .ok told ∧ told.registry.fds = w.registry.fds ∧
      told.registry.udps = w.registry.udps ∧ told.registry.runner = w.registry.runner ∧
      ∀ x, x ≠ .socket s → told.registry.waitings x = w.registry.waitings x := by
  have cleared := clearWaitingsByClose_misses (linked_teardown linked isOpen) ((w.fd_teardown s).1 lingers)
  rw [registry_teardown] at cleared
  rw [tellWaiters, if_neg fun crashes => Bool.false_ne_true (crashes.2.symm.trans (roles.initialized lingers.1))]
  exact cleared

/-- After the socket itself, its children follow. -/
theorem following_start (linked : Linked w.directory w.registry) (queued : w.directory.Queued)
    (settled : w.Settled) (isOpen : ¬ w.Closed s) {told : World} (tells : tellWaiters s w = .ok told)
    (waitings : ∀ x, x ≠ .socket s → told.registry.waitings x = w.registry.waitings x)
    (kept : ∀ e fd x, x ≠ .socket s →
      ((told.registry.fds e).lookup fd = some x ↔ (w.registry.fds e).lookup fd = some x)) :
    told.Following s (w.directory.acceptSockets s) (w.udpOf (.socket s)) told.registry := by
  have stage := told_of_open settled isOpen tells
  obtain ⟨-, tells⟩ := tellWaiters_eq_ok tells
  have changed := directory_clearWaitingsByClose tells
  obtain ⟨udp, perspective, state, fd⟩ := w.teardown_keeps s
  have others : ∀ c ∈ w.directory.acceptSockets s, c ≠ s := by
    rintro c member rfl
    have client := queued.queueClient c (List.ne_nil_of_mem member)
    rw [queued.queuedServer c c member] at client
    cases client
  refine ⟨linked_clearWaitingsByClose (linked_teardown linked isOpen) tells, stage.closed, ?_, ?_, ?_, ?_, ?_, ?_, ?_,
    fun _ _ => Iff.rfl, rfl⟩
  · rw [changed]
    exact Function.update_self ..
  · rw [changed]
    exact connected_teardown _ s
  · intro x aimed child member
    rw [stage.queue] at member
    rcases aimed with rfl | isChild
    · exact member
    · rw [queued.queue_server (queued.queuedServer s x isChild)] at member
      cases member
  · intro c member
    rw [changed, perspective]
    exact ⟨others c member, queued.queuedServer s c member⟩
  · intro c member
    have kept : told.directory.socketState c = w.directory.socketState c := by
      rw [changed]
      exact (congrFun state c).trans (Function.update_of_ne (others c member) ..)
    rw [kept]
    exact queued.toRoles.initialized (queued.queuedServer s c member)
  · intro c member
    obtain ⟨set, -⟩ := queued.udp_ne_none member
    obtain ⟨number, native⟩ := Option.ne_none_iff_exists'.mp set
    have owner : w.nativeUdpFd (.socket s) = some number := (queued.sameUdp s c member).symm.trans native
    rw [changed, udp, native, udpOf, owner]
    rfl
  · intro c member
    have other := EntryPtr.socket_ne (others c member)
    refine .inr fun e waiting => ?_
    rw [waitings _ other] at waiting
    rw [changed, fd _ other, kept e _ _ other]
    exact linked.registered settled.told waiting

end OwnPart

/-- Other connections and descriptors stay. -/
theorem told_others {told : World} {s c : SocketId} (tells : tellWaiters s w = .ok told) (other : c ≠ s) :
    told.directory.connected c = w.directory.connected c ∧
      told.directory.fd (.socket c) = w.directory.fd (.socket c) := by
  rw [directory_clearWaitingsByClose (tellWaiters_eq_ok tells).2]
  refine ⟨?_, (w.teardown_keeps s).2.2.2 _ (EntryPtr.socket_ne other)⟩
  rw [directory_teardown, directory_mark]
  dsimp only [Directory.disconnect, Directory.release]
  split_ifs
  · exact Function.update_of_ne other ..
  · exact Function.update_of_ne other ..
  · exact Function.update_of_ne other ..
  · rfl

/-- What the close of an entry does to its own registrations. -/
def OwnEffect (w : World) (entry : EntryPtr) (r : Registry) : Prop :=
  w.Lingers entry ∧ r.fds = w.registry.fds ∧ r.udps = w.registry.udps ∧ r.runner = w.registry.runner ∨
    ¬ w.Lingers entry ∧ Departs entry (w.directory.fd entry) (w.udpOf entry) (w.registry.waitings entry) w.registry r

/-- The first half of `Close`, for both kinds of sockets. -/
theorem tellWaiters_yields {s : SocketId} (linked : Linked w.directory w.registry) (queued : w.directory.Queued)
    (settled : w.Settled) (isOpen : ¬ w.Closed s) :
    Yields (fun _ => w.Crashes s ∨
        ∃ e ∈ w.registry.waitings (.socket s), w.registry.udps e (w.udpOf (.socket s)) = none)
      (fun told => w.OwnEffect (.socket s) told.registry ∧ Told w s told ∧
        told.Following s (w.directory.acceptSockets s) (w.udpOf (.socket s)) told.registry ∧
        ∀ x, x ≠ .socket s → told.registry.waitings x = w.registry.waitings x)
      (tellWaiters s w) := by
  by_cases lingers : w.Lingers (.socket s)
  · obtain ⟨told, tells, fds, udps, runner, waitings⟩ := tellWaiters_misses linked queued.toRoles isOpen lingers
    rw [tells]
    refine ⟨.inl ⟨lingers, fds, udps, runner⟩, told_of_open settled isOpen tells, ?_, waitings⟩
    exact following_start linked queued settled isOpen tells waitings fun e fd x _ => by rw [fds]
  · refine ((tellWaiters_departs linked settled isOpen lingers).and_ok fun _ tells => tells).imp ?_
    rintro told ⟨departs, tells⟩
    refine ⟨.inr ⟨lingers, departs⟩, told_of_open settled isOpen tells, ?_, departs.waitings⟩
    exact following_start linked queued settled isOpen tells departs.waitings fun e fd x other =>
      departs.lookup_other (fun _ waiting => linked.registered settled.told waiting) other

/-- A socket that is closed already has nobody to tell. -/
theorem ownEffect_of_nobody (nobody : w.registry.waitings entry = []) : w.OwnEffect entry w.registry := by
  by_cases lingers : w.Lingers entry
  · exact .inl ⟨lingers, rfl, rfl, rfl⟩
  · rw [OwnEffect, nobody]
    exact .inr ⟨lingers, .nobody ..⟩

section Close

variable {w : World} {s : SocketId} {sock : Fd} {result : CallResult × World}

theorem quicCloseSocket_of_found (found : w.fdManager sock = some (.socket s)) :
    w.quicCloseSocket sock = (do
      let last ← close s w
      return (.ok, last.deleteQuicSocketEntry s)) := by
  rw [quicCloseSocket, withSocket, found]

/-- A close that returns has found a session that was initialized, or nothing left to close. -/
theorem not_crashes_of_closed (settled : w.Settled) (found : w.fdManager sock = some (.socket s))
    (closed : w.quicCloseSocket sock = .ok result) : ¬ w.Crashes s := by
  by_cases already : w.Closed s
  · rintro ⟨-, missing⟩
    rw [show w.directory.socketState s = .closed from already] at missing
    cases missing
  · rw [quicCloseSocket_of_found found, close_of_open settled already] at closed
    obtain ⟨last, closes, -⟩ := bind_eq_ok closed
    obtain ⟨told, tells, -⟩ := bind_eq_ok closes
    exact (tellWaiters_eq_ok tells).1

/-- What a successful close has done to the socket's own registrations. -/
theorem quicCloseSocket_own (linked : Linked w.directory w.registry) (queued : w.directory.Queued)
    (settled : w.Settled) (found : w.fdManager sock = some (.socket s)) (closed : w.quicCloseSocket sock = .ok result) :
    ∃ r, w.OwnEffect (.socket s) r ∧
      (∀ e fd, (result.2.registry.fds e).lookup fd = some (.socket s) ↔ (r.fds e).lookup fd = some (.socket s)) ∧
      result.2.registry.runner s = r.runner s := by
  rw [quicCloseSocket_of_found found] at closed
  obtain ⟨last, closes, returned⟩ := bind_eq_ok closed
  cases returned
  dsimp only
  rw [registry_deleteQuicSocketEntry]
  by_cases already : w.Closed s
  · rw [close, closeSocket_of_closed already] at closes
    cases closes
    exact ⟨_, ownEffect_of_nobody (linked.told _ (settled.told s already)), fun _ _ => Iff.rfl, rfl⟩
  · rw [close_of_open settled already] at closes
    obtain ⟨told, tells, follows⟩ := bind_eq_ok closes
    obtain ⟨own, stage, following, -⟩ := (tellWaiters_yields linked queued settled already).of_ok tells
    have done := ((queue_yields closable_following stage following (.inl rfl)).of_ok follows).1.holds
    exact ⟨told.registry, own, done.same, done.runner⟩

/-- With idle children the close of an initialized session returns, unless a waiter has no count to lower, and the
children change no count. -/
theorem quicCloseSocket_idle (linked : Linked w.directory w.registry) (queued : w.directory.Queued)
    (settled : w.Settled) (found : w.fdManager sock = some (.socket s)) (sound : ¬ w.Crashes s)
    (counted : ∀ e ∈ w.registry.waitings (.socket s), w.registry.udps e (w.udpOf (.socket s)) ≠ none)
    (idle : ¬ w.Closed s → ∀ c ∈ w.directory.acceptSockets s, w.directory.connected c = false →
      w.registry.waitings (.socket c) = []) :
    ∃ result r, w.quicCloseSocket sock = .ok result ∧ w.OwnEffect (.socket s) r ∧
      (∀ e fd, (result.2.registry.fds e).lookup fd = some (.socket s) ↔ (r.fds e).lookup fd = some (.socket s)) ∧
      result.2.registry.runner s = r.runner s ∧
      ∀ e, result.2.registry.udps e (w.udpOf (.socket s)) = r.udps e (w.udpOf (.socket s)) := by
  rw [quicCloseSocket_of_found found]
  by_cases already : w.Closed s
  · rw [close, closeSocket_of_closed already]
    refine ⟨_, w.registry, rfl, ownEffect_of_nobody (linked.told _ (settled.told s already)), ?_⟩
    rw [registry_deleteQuicSocketEntry]
    exact ⟨fun _ _ => Iff.rfl, rfl, fun _ => rfl⟩
  · rw [close_of_open settled already]
    cases tells : tellWaiters s w with
    | error fault =>
      have uncounted := tellWaiters_yields linked queued settled already
      rw [tells] at uncounted
      obtain ⟨e, waiting, missing⟩ := uncounted.resolve_left sound
      exact (counted e waiting missing).elim
    | ok told =>
      obtain ⟨own, stage, following, waitings⟩ := (tellWaiters_yields linked queued settled already).of_ok tells
      have idles : told.Idle s (w.directory.acceptSockets s) (w.udpOf (.socket s)) told.registry := by
        refine ⟨following, ?_, fun _ => rfl⟩
        intro c member
        have other := (following.servers c member).1
        rw [waitings _ (EntryPtr.socket_ne other)]
        by_cases cut : told.directory.connected c = true
        · exact .inr (.inr cut)
        · refine .inl (idle already c member ?_)
          rw [← (told_others tells other).1]
          simpa using cut
      obtain ⟨last, follows, done, -⟩ := (queue_yields closable_idle stage idles (.inl rfl)).exists_ok
      refine ⟨(.ok, last.deleteQuicSocketEntry s), told.registry, ?_, own, ?_, ?_, ?_⟩
      · change clearAcceptSockets _ s _ told >>= _ = _
        rw [follows]
        rfl
      all_goals rw [registry_deleteQuicSocketEntry]
      · exact done.holds.same
      · exact done.holds.runner
      · exact done.holds.counts

/-- A disconnected child that somebody waits for gives a reference back as well. -/
theorem quicCloseSocket_indebted (linked : Linked w.directory w.registry) (queued : w.directory.Queued)
    (settled : w.Settled) (found : w.fdManager sock = some (.socket s)) (isOpen : ¬ w.Closed s) {c : SocketId}
    (member : c ∈ w.directory.acceptSockets s) (cut : w.directory.connected c = false) {e : EpollerId}
    (waiting : e ∈ w.registry.waitings (.socket c)) (closed : w.quicCloseSocket sock = .ok result) :
    ∃ r, w.OwnEffect (.socket s) r ∧
      (result.2.registry.udps e (w.udpOf (.socket s))).getD 0 + 1 ≤ (r.udps e (w.udpOf (.socket s))).getD 0 := by
  rw [quicCloseSocket_of_found found] at closed
  obtain ⟨last, closes, returned⟩ := bind_eq_ok closed
  cases returned
  dsimp only
  rw [registry_deleteQuicSocketEntry]
  rw [close_of_open settled isOpen] at closes
  obtain ⟨told, tells, follows⟩ := bind_eq_ok closes
  obtain ⟨own, stage, following, waitings⟩ := (tellWaiters_yields linked queued settled isOpen).of_ok tells
  have other := (following.servers c member).1
  obtain ⟨connected, fd⟩ := told_others tells other
  have waitsStill : e ∈ told.registry.waitings (.socket c) := by
    rw [waitings _ (EntryPtr.socket_ne other)]
    exact waiting
  have inUse : 1 ≤ w.directory.fd (.socket c) := (linked.key e _ _ (linked.registered settled.told waiting)).1
  have indebted : told.Indebted s (w.directory.acceptSockets s) (w.udpOf (.socket s)) told.registry c e := by
    refine ⟨following, connected.trans cut, fun _ => ?_, ?_⟩
    · rw [fd]
      exact not_lt.mpr (le_trans Int.one_nonneg inUse)
    · rw [if_pos waitsStill, add_zero]
  obtain ⟨done, closedQueue⟩ := (queue_yields (closable_indebted member) stage indebted (.inl rfl)).of_ok follows
  have nobody : last.registry.waitings (.socket c) = [] :=
    done.holds.linked.told _ (done.settled.told c (closedQueue c member).1)
  have debt := done.holds.debt
  rw [nobody, if_neg List.not_mem_nil] at debt
  exact ⟨told.registry, own, debt⟩

end Close

/-- A stream has its descriptor until its waiters have been told. -/
theorem quicCloseStream_own {t : StreamId} {stream : Fd} (linked : Linked w.directory w.registry)
    (settled : w.Settled) (found : w.fdManager stream = some (.stream t)) :
    Yields (fun _ => ∃ e ∈ w.registry.waitings (.stream t), w.registry.udps e (w.udpOf (.stream t)) = none)
      (fun result => w.OwnEffect (.stream t) result.2.registry) (w.quicCloseStream stream) := by
  obtain ⟨reset, directory, registry, closes⟩ := closeStreamEntry_eq t w
  have cleared := clearWaitingsByClose_departs (w := reset) (.stream t) (w.udpOf (.stream t))
  rw [directory, registry] at cleared
  rw [quicCloseStream, withStream, found]
  dsimp only
  rw [closes]
  refine (cleared linked (fun e waiting => linked.registered settled.told waiting) (udp_eq_udpOf linked)).bind ?_
  intro after departs
  change w.OwnEffect (.stream t) (after.releaseFd (.stream t)).registry
  rw [registry_releaseFd]
  exact .inr ⟨id, departs⟩

/-- The call that closes the entry. -/
def closeEntry (w : World) (fd : Fd) : EntryPtr → Run (CallResult × World)
  | .socket _ => w.quicCloseSocket fd
  | .stream _ => w.quicCloseStream fd

/-- The entry is out of every epoller, its UDP socket has one reference less wherever the entry was
registered and as many as before elsewhere, its timers are unlinked, and nothing is heard of it later. -/
structure Deregistered (before : World) (entry : EntryPtr) (after : World) : Prop where
  absent : ∀ e, ¬ after.Registered e entry
  lowered : ∀ udp, before.nativeUdpFd entry = some udp → ∀ e, before.Registered e entry →
    ((after.epollers e).udps udp).getD 0 = ((before.epollers e).udps udp).getD 0 - 1
  unchanged : ∀ udp, before.nativeUdpFd entry = some udp → ∀ e, ¬ before.Registered e entry →
    (after.epollers e).udps udp = (before.epollers e).udps udp
  unlinked : ∀ s, entry = .socket s → (after.sockets s).runner = none
  silent : ∀ later, system.Reachable after later → ∀ e maxevents, ∀ event ∈ (later.poll e maxevents).1,
    event.source ≠ entry

/-- Every registration of the entry has its waiter and its count. The open connection of a socket has been initialized,
a socket has no registration while it is a server side one with an open connection, its link comes with a registration,
and no disconnected connection in its accept queue has a waiter. -/
def ClosesCleanly (w : World) (entry : EntryPtr) : Prop :=
  (∀ e, w.Registered e entry → e ∈ (w.event entry).waitings ∧ (w.epollers e).udps (w.udpOf entry) ≠ none) ∧
    ∀ s, entry = .socket s →
      ((w.sockets s).connected = true → (w.sockets s).socketState.initialized = true) ∧
      ((w.sockets s).perspective = .isServer → (w.sockets s).connected = true → ∀ e, ¬ w.Registered e entry) ∧
      ((w.sockets s).runner ≠ none → ∃ e, w.Registered e entry) ∧
      ((w.sockets s).socketState ≠ .closed → ∀ child ∈ (w.sockets s).acceptSockets,
        (w.sockets child).connected = false → (w.sockets child).waitings = [])

section Outcome

variable {w : World} {entry : EntryPtr} {fd : Fd} {r : Registry} {result : CallResult × World}

/-- An entry in use is registered under its descriptor. -/
theorem lookup_iff (linked : Linked w.directory w.registry) (tables : w.directory.Tables)
    (held : w.fdManager fd = some entry) (e : EpollerId) (k : Fd) :
    (w.registry.fds e).lookup k = some entry ↔ k = fd ∧ w.Registered e entry := by
  have remembered : w.directory.fd entry = fd := tables.sound.handle_of_holder fd entry held
  have positive : 1 ≤ fd := (tables.sound.pos_of_held held).1
  have only : ∀ k, (w.registry.fds e).lookup k = some entry → k = fd := by
    intro k found
    rcases (linked.key e k entry found).2.2 with same | gone
    · exact same.symm.trans remembered
    · rw [← remembered, gone] at positive
      exact absurd positive (by decide)
  refine ⟨fun found => ⟨only k found, k, found⟩, ?_⟩
  rintro ⟨rfl, k', found⟩
  exact only k' found ▸ found

/-- Which registrations the entry leaves behind. -/
theorem OwnEffect.registered_iff (own : w.OwnEffect entry r) (linked : Linked w.directory w.registry)
    (tables : w.directory.Tables) (held : w.fdManager fd = some entry) (e : EpollerId) (k : Fd) :
    (r.fds e).lookup k = some entry ↔
      k = fd ∧ w.Registered e entry ∧ (w.Lingers entry ∨ e ∉ w.registry.waitings entry) := by
  have remembered : w.directory.fd entry = fd := tables.sound.handle_of_holder fd entry held
  rcases own with ⟨lingers, fds, -, -⟩ | ⟨stays, departs⟩
  · rw [fds, lookup_iff linked tables held]
    simp [lingers]
  · rw [departs.fds, remembered]
    split_ifs with waiting
    · refine ⟨fun found => ?_, ?_⟩
      · by_cases here : k = fd
        · subst here
          rw [AList.lookup_erase] at found
          cases found
        · rw [AList.lookup_erase_ne here] at found
          exact (here ((lookup_iff linked tables held e k).mp found).1).elim
      · rintro ⟨-, -, lingers | absent⟩
        · exact (stays lingers).elim
        · exact (absent waiting).elim
    · rw [lookup_iff linked tables held]
      simp [waiting]

/-- The registry after the close shows the entry's own effect `r`. -/
structure Shows (w : World) (entry : EntryPtr) (after r : Registry) : Prop where
  own : w.OwnEffect entry r
  lookup : ∀ e k, (after.fds e).lookup k = some entry ↔ (r.fds e).lookup k = some entry
  runner : ∀ s, entry = .socket s → after.runner s = r.runner s

/-- A close that returns has had the entry's own effect. -/
theorem closeEntry_shows (linked : Linked w.directory w.registry) (queued : w.directory.Queued) (settled : w.Settled)
    (held : w.fdManager fd = some entry) (closed : w.closeEntry fd entry = .ok result) :
    ∃ r, w.Shows entry result.2.registry r := by
  cases entry with
  | socket s =>
    obtain ⟨r, own, lookup, runner⟩ := quicCloseSocket_own linked queued settled held closed
    refine ⟨r, own, lookup, ?_⟩
    rintro _ ⟨⟩
    exact runner
  | stream t =>
    have own := (quicCloseStream_own linked settled held).of_ok closed
    exact ⟨_, own, fun _ _ => Iff.rfl, nofun⟩

/-- A clean close returns, and no count changes but by the entry's own effect. -/
theorem ClosesCleanly.shows (cleanly : w.ClosesCleanly entry) (linked : Linked w.directory w.registry)
    (queued : w.directory.Queued) (settled : w.Settled) (held : w.fdManager fd = some entry) :
    ∃ result r, w.closeEntry fd entry = .ok result ∧ w.Shows entry result.2.registry r ∧
      ∀ e, result.2.registry.udps e (w.udpOf entry) = r.udps e (w.udpOf entry) := by
  obtain ⟨registrations, sockets⟩ := cleanly
  have counted : ∀ e ∈ w.registry.waitings entry, w.registry.udps e (w.udpOf entry) ≠ none := by
    intro e waiting
    exact (registrations e ⟨_, linked.registered settled.told waiting⟩).2
  cases entry with
  | socket s =>
    obtain ⟨initialized, -, -, idle⟩ := sockets s rfl
    have sound : ¬ w.Crashes s :=
      fun crashes => Bool.false_ne_true (crashes.2.symm.trans (initialized crashes.1))
    obtain ⟨result, r, closed, own, lookup, runner, counts⟩ :=
      quicCloseSocket_idle linked queued settled held sound counted idle
    refine ⟨result, r, closed, ⟨own, lookup, ?_⟩, counts⟩
    rintro _ ⟨⟩
    exact runner
  | stream t =>
    have yields := quicCloseStream_own linked settled held
    cases closed : w.quicCloseStream fd with
    | error fault =>
      rw [closed] at yields
      obtain ⟨e, waiting, missing⟩ := yields
      exact (counted e waiting missing).elim
    | ok result => exact ⟨result, _, closed, ⟨yields.of_ok closed, fun _ _ => Iff.rfl, nofun⟩, fun _ => rfl⟩

/-- The counts that the entry's own effect leaves. -/
theorem OwnEffect.counts (own : w.OwnEffect entry r) (stays : ¬ w.Lingers entry) (e : EpollerId) :
    (r.udps e (w.udpOf entry)).getD 0 + (if e ∈ w.registry.waitings entry then 1 else 0) =
      (w.registry.udps e (w.udpOf entry)).getD 0 := by
  rcases own with ⟨lingers, -⟩ | ⟨-, departs⟩
  · exact (stays lingers).elim
  · exact departs.getD_udps e

theorem OwnEffect.udps_elsewhere (own : w.OwnEffect entry r) {e : EpollerId}
    (elsewhere : e ∉ w.registry.waitings entry) : r.udps e = w.registry.udps e := by
  rcases own with ⟨-, -, udps, -⟩ | ⟨-, departs⟩
  · rw [udps]
  · rw [departs.udps, if_neg elsewhere]

theorem OwnEffect.unlinked_iff (own : w.OwnEffect entry r) {s : SocketId} (self : entry = .socket s) :
    r.runner s = none ↔ w.registry.runner s = none ∨ ¬ w.Lingers entry ∧ w.registry.waitings entry ≠ [] := by
  subst self
  rcases own with ⟨lingers, -, -, runner⟩ | ⟨stays, departs⟩
  · simp [runner, lingers]
  · rw [departs.runner]
    by_cases nobody : w.registry.waitings (.socket s) = []
    · simp [nobody]
    · simp [nobody, stays]

theorem directory_release_fd (d : Directory) (entry : EntryPtr) (tables : (d.release entry).Tables) :
    (d.release entry).fd entry = -1 := by
  unfold Directory.release at tables ⊢
  split_ifs at tables ⊢ with remembers
  · exact Function.update_self ..
  · rcases tables.sound.holder_of_handle entry with none | held
    · exact none
    · exact (remembers (le_trans Int.one_nonneg (tables.sound.pos_of_held held).1)).elim

/-- The closed entry has no descriptor. -/
theorem closeEntry_releases (held : w.fdManager fd = some entry) (closed : w.closeEntry fd entry = .ok result)
    (tables : result.2.directory.Tables) : result.2.directory.fd entry = -1 := by
  have released : ∃ last : World, result.2.directory = last.directory.release entry := by
    cases entry with
    | socket s =>
      rw [closeEntry, quicCloseSocket_of_found held] at closed
      obtain ⟨last, -, returned⟩ := bind_eq_ok closed
      cases returned
      exact ⟨last, last.directory_releaseFd _⟩
    | stream t =>
      rw [closeEntry, quicCloseStream, withStream, held] at closed
      obtain ⟨last, -, returned⟩ := bind_eq_ok closed
      cases returned
      exact ⟨last, last.directory_releaseFd _⟩
  obtain ⟨last, same⟩ := released
  rw [same] at tables ⊢
  exact directory_release_fd _ _ tables

/-- The close creates nothing and gives no descriptor to an old entry. -/
theorem closeEntry_ages (settled : w.Settled) (closed : w.closeEntry fd entry = .ok result) :
    Ages w.directory result.2.directory := by
  cases entry with
  | socket s => exact .steps ((perform_refines settled (show w.admits (.closeSocket fd) = true from rfl)).of_ok closed).1
  | stream t => exact .steps ((perform_refines settled (show w.admits (.closeStream fd) = true from rfl)).of_ok closed).1

/-- Closing an entry is one step of the library. -/
theorem closeEntry_reachable (reachable : system.Reachable {} w) (closed : w.closeEntry fd entry = .ok result) :
    system.Reachable {} result.2 := by
  cases entry with
  | socket s =>
    refine reachable.move (show system.guard w (.closeSocket fd) from rfl) ?_
    change w.quicCloseSocket fd >>= _ = _
    rw [show w.quicCloseSocket fd = .ok result from closed]
    rfl
  | stream t =>
    refine reachable.move (show system.guard w (.closeStream fd) from rfl) ?_
    change w.quicCloseStream fd >>= _ = _
    rw [show w.quicCloseStream fd = .ok result from closed]
    rfl

/-- A clean close deregisters the entry for good. -/
theorem ClosesCleanly.deregistered (cleanly : w.ClosesCleanly entry) (reachable : system.Reachable {} w)
    (held : w.fdManager fd = some entry) :
    ∃ result, w.closeEntry fd entry = .ok result ∧ w.Deregistered entry result.2 := by
  obtain ⟨linked, queued, settled⟩ := reachable_linked reachable
  have tables := queued.toTables
  obtain ⟨result, r, closed, shown, counts⟩ := cleanly.shows linked queued settled held
  obtain ⟨registrations, sockets⟩ := cleanly
  have waits : ∀ e, e ∈ w.registry.waitings entry → w.Registered e entry :=
    fun e waiting => ⟨_, linked.registered settled.told waiting⟩
  have stays : ∀ e, w.Registered e entry → ¬ w.Lingers entry := by
    intro e registered lingers
    cases entry with
    | socket s => exact (sockets s rfl).2.1 lingers.1 lingers.2 e registered
    | stream t => exact lingers
  have absent : ∀ e, ¬ result.2.Registered e entry := by
    rintro e ⟨k, found⟩
    obtain ⟨-, registered, lingers | missing⟩ :=
      (shown.own.registered_iff linked tables held e k).mp ((shown.lookup e k).mp found)
    · exact stays e registered lingers
    · exact missing (registrations e registered).1
  have after := closeEntry_reachable reachable closed
  have gone : result.2.Gone entry := by
    refine ⟨?_, closeEntry_releases held closed (reachable_linked after).2.1.toTables, absent⟩
    have inUse : w.directory.fd entry ≠ -1 := by
      rw [show w.directory.fd entry = fd from tables.sound.handle_of_holder fd entry held]
      rintro rfl
      exact absurd (tables.sound.pos_of_held held).1 (by decide)
    exact (closeEntry_ages settled closed).allocated _ (tables.allocated inUse)
  refine ⟨result, closed, absent, ?_, ?_, ?_, ?_⟩
  · intro udp native e registered
    have count := shown.own.counts (stays e registered) e
    have waiting : e ∈ w.registry.waitings entry := (registrations e registered).1
    rw [if_pos waiting, ← counts, udpOf, native] at count
    exact eq_sub_of_add_eq count
  · intro udp native e elsewhere
    have count := counts e
    rw [shown.own.udps_elsewhere fun waiting => elsewhere (waits e waiting), udpOf, native] at count
    exact count
  · intro s self
    refine (shown.runner s self).trans ((shown.own.unlinked_iff self).mpr ?_)
    by_cases linkedTo : w.registry.runner s = none
    · exact .inl linkedTo
    · obtain ⟨e, registered⟩ := (sockets s self).2.2.1 linkedTo
      exact .inr ⟨stays e registered, List.ne_nil_of_mem (registrations e registered).1⟩
  · rintro later run e maxevents event reported rfl
    exact (gone.reachable after run).absent e (poll_registered reported)

/-- A disconnected child with a waiter gives a reference back that its listener's deregistration does not
account for. -/
theorem Deregistered.idle {s : SocketId} (deregistered : w.Deregistered (.socket s) result.2)
    (linked : Linked w.directory w.registry) (queued : w.directory.Queued) (settled : w.Settled)
    (held : w.fdManager fd = some (.socket s)) (closed : w.quicCloseSocket fd = .ok result)
    (registrations : ∀ e, w.Registered e (.socket s) → e ∈ w.registry.waitings (.socket s)) (isOpen : ¬ w.Closed s)
    {c : SocketId} (member : c ∈ w.directory.acceptSockets s) (cut : w.directory.connected c = false) :
    w.registry.waitings (.socket c) = [] := by
  by_contra watched
  obtain ⟨e, waiting⟩ := List.exists_mem_of_ne_nil _ watched
  obtain ⟨r, own, debt⟩ := quicCloseSocket_indebted linked queued settled held isOpen member cut waiting closed
  have stays : ¬ w.Lingers (.socket s) := by
    rintro ⟨server, -⟩
    have client : w.directory.perspective s = .isClient := queued.queueClient s (List.ne_nil_of_mem member)
    rw [show w.directory.perspective s = .isServer from server] at client
    cases client
  obtain ⟨udp, native⟩ : ∃ udp, w.nativeUdpFd (.socket s) = some udp := by
    obtain ⟨set, -⟩ := queued.udp_ne_none member
    obtain ⟨number, native⟩ := Option.ne_none_iff_exists'.mp set
    exact ⟨number, (queued.sameUdp s c member).symm.trans native⟩
  have count := own.counts stays e
  rw [udpOf, native, Option.getD_some] at count debt
  by_cases registered : w.Registered e (.socket s)
  · have lowered : (result.2.registry.udps e udp).getD 0 = (w.registry.udps e udp).getD 0 - 1 :=
      deregistered.lowered udp native e registered
    rw [if_pos (registrations e registered)] at count
    omega
  · have unchanged : result.2.registry.udps e udp = w.registry.udps e udp :=
      deregistered.unchanged udp native e registered
    rw [if_neg fun waits => registered ⟨_, linked.registered settled.told waits⟩] at count
    rw [unchanged] at debt
    omega

/-- Only a clean close deregisters the entry. -/
theorem Deregistered.closesCleanly (deregistered : w.Deregistered entry result.2) (reachable : system.Reachable {} w)
    (held : w.fdManager fd = some entry) (closed : w.closeEntry fd entry = .ok result) : w.ClosesCleanly entry := by
  obtain ⟨linked, queued, settled⟩ := reachable_linked reachable
  obtain ⟨r, shown⟩ := closeEntry_shows linked queued settled held closed
  have left : ∀ e, w.Registered e entry → ¬ w.Lingers entry ∧ e ∈ w.registry.waitings entry := by
    intro e registered
    by_contra stays
    have lookup := (shown.own.registered_iff linked queued.toTables held e fd).mpr
      ⟨rfl, registered, not_and_or.mp stays |>.imp not_not.mp id⟩
    exact deregistered.absent e ⟨fd, (shown.lookup e fd).mpr lookup⟩
  refine ⟨?_, ?_⟩
  · intro e registered
    obtain ⟨stays, waiting⟩ := left e registered
    rcases shown.own with ⟨lingers, -⟩ | ⟨-, departs⟩
    · exact (stays lingers).elim
    · exact ⟨waiting, departs.counted e waiting⟩
  · rintro s rfl
    refine ⟨?_, ?_, ?_, ?_⟩
    · intro connected
      exact Bool.of_not_eq_false fun missing => not_crashes_of_closed settled held closed ⟨connected, missing⟩
    · exact fun server connected e registered => (left e registered).1 ⟨server, connected⟩
    · intro linkedTo
      have unlinked := (shown.runner s rfl).symm.trans (deregistered.unlinked s rfl)
      rcases (shown.own.unlinked_iff rfl).mp unlinked with already | ⟨-, watched⟩
      · exact (linkedTo already).elim
      · obtain ⟨e, waiting⟩ := List.exists_mem_of_ne_nil _ watched
        exact ⟨e, _, linked.registered settled.told waiting⟩
    · intro isOpen c member cut
      exact deregistered.idle linked queued settled held closed (fun e registered => (left e registered).2)
        isOpen member cut

end Outcome

/-- Closing an entry takes it out of every epoller, and nothing else with it, exactly if the close is clean. -/
theorem close_deregisters_iff {fd : Fd} (reachable : system.Reachable {} w) (held : w.fdManager fd = some entry) :
    (∃ result, w.closeEntry fd entry = .ok result ∧ w.Deregistered entry result.2) ↔ w.ClosesCleanly entry := by
  constructor
  · rintro ⟨result, closed, deregistered⟩
    exact deregistered.closesCleanly reachable held closed
  · exact fun cleanly => cleanly.deregistered reachable held

/-- A bound socket is registered in the second of two epollers and connects. -/
def registersListener : List Action :=
  [.createSocket 7, .bind 1 (.ok 5) none, .createEpoll, .createEpoll, .epollAdd 1 1 { pollin := true } 0 false,
    .connect 1 (.ok 6)]

theorem registersListener_deregisters :
    ∃ w result, system.replay? {} registersListener = some w ∧ w.Registered 1 (.socket 0) ∧
      w.quicCloseSocket 1 = .ok result ∧ w.Deregistered (.socket 0) result.2 := by
  have ends : ∃ w ∈ system.replay? {} registersListener, w.fdManager 1 = some (.socket 0) ∧ w.numEpollers = 2 ∧
      (w.epollers 0).fds.lookup 1 = none ∧ (w.epollers 1).fds.lookup 1 = some (.socket 0) ∧
      (w.event (.socket 0)).waitings = [1] ∧ w.nativeUdpFd (.socket 0) = some 5 ∧
      (w.epollers 1).udps 5 = some 1 ∧ (w.sockets 0).socketState = .connecting ∧
      (w.sockets 0).perspective = .isClient ∧ (w.sockets 0).acceptSockets = [] := by decide
  obtain ⟨w, executed, held, epollers, notFirst, second, waitings, native, counted, connecting, client, queue⟩ := ends
  have reachable := System.reachable_of_replay? executed
  obtain ⟨linked, queued, -⟩ := reachable_linked reachable
  have only : ∀ e, w.Registered e (.socket 0) → e = 1 := by
    intro e registered
    have found := (lookup_iff linked queued.toTables held e 1).mpr ⟨rfl, registered⟩
    by_contra other
    rcases Nat.lt_or_ge e w.numEpollers with born | unborn
    · have first : e = 0 := by
        rw [epollers] at born
        exact Nat.lt_one_iff.mp (lt_of_le_of_ne (Nat.le_of_lt_succ born) other)
      rw [first, show w.registry.fds 0 = (w.epollers 0).fds from rfl, notFirst] at found
      cases found
    · rw [(linked.unborn e unborn).1] at found
      cases found
  have cleanly : w.ClosesCleanly (.socket 0) := by
    refine ⟨?_, ?_⟩
    · intro e registered
      rw [only e registered, waitings, udpOf, native, Option.getD_some, counted]
      decide
    · rintro _ ⟨⟩
      rw [connecting, client, queue]
      exact ⟨fun _ => rfl, nofun, fun _ => ⟨1, 1, second⟩, fun _ => nofun⟩
  obtain ⟨result, closed, deregistered⟩ := (close_deregisters_iff reachable held).mpr cleanly
  exact ⟨w, result, executed, ⟨1, second⟩, closed, deregistered⟩

/-- An accepted connection is registered beside its listener. -/
def registersAccepted : List Action :=
  [.createSocket 7, .bind 1 (.ok 5) none, .createEpoll, .epollAdd 0 1 { pollin := true } 0 false,
    .beginUdpEvent 0 5, .datagram 0 98, .handshakeComplete 1, .endUdpEvent 0, .socketAccept 1,
    .epollAdd 0 2 { pollin := true } 1 false]

/-- Closing it leaves the registration, the reference and the link of its task runner behind. -/
theorem registersAccepted_lingers :
    ∃ w result, system.replay? {} registersAccepted = some w ∧ w.fdManager 2 = some (.socket 1) ∧
      w.quicCloseSocket 2 = .ok result ∧ result.2.Registered 0 (.socket 1) ∧
      (w.epollers 0).udps 5 = some 2 ∧ (result.2.epollers 0).udps 5 = some 2 ∧
      (result.2.sockets 1).runner = some 0 := by
  have ends : ∃ w ∈ system.replay? {} registersAccepted, w.fdManager 2 = some (.socket 1) ∧
      (w.epollers 0).udps 5 = some 2 ∧ ∃ result ∈ (w.quicCloseSocket 2).toOption,
        (result.2.epollers 0).fds.lookup 2 = some (.socket 1) ∧ (result.2.epollers 0).udps 5 = some 2 ∧
        (result.2.sockets 1).runner = some 0 := by decide
  obtain ⟨w, executed, held, counted, result, returned, registered, stillCounted, linked⟩ := ends
  have closed : w.quicCloseSocket 2 = .ok result := eq_ok_of_toOption returned
  exact ⟨w, result, executed, held, closed, ⟨2, registered⟩, counted, stillCounted, linked⟩

end PosixQuic.World
