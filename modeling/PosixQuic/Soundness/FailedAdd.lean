import PosixQuic.Soundness.OneEpoller

/-! # What a failing `Add` leaves behind

`AddInner` stores the registration before its last three checks. If one of these fails, the registration stays in
`fds_`, and behind a failed `epoll_ctl` the waiter and the link of the timers stay too. A failure before that point
leaves everything as it was, apart from the registration of an entry that has been closed.
-/

namespace PosixQuic.World

variable {w before : World} {e : EpollerId} {fd : Fd} {entry : EntryPtr} {events : PollMask} {data : Nat} {full : Bool}

/-- The last three checks of `AddInner` would let the entry pass: it has a UDP socket, nobody runs its timers, and the
UDP socket is counted already or the kernel takes it. -/
def Storable (w : World) (e : EpollerId) (entry : EntryPtr) (full : Bool) : Prop :=
  ∃ udp, w.nativeUdpFd entry = some udp ∧ (∀ s, entry = .socket s → (w.sockets s).runner = none) ∧
    ((w.epollers e).udps udp = none → (w.epollers e).interest udp = false ∧ full = false)

/-- The descriptor has a registration of an entry that still has it. -/
def Occupied (w : World) (e : EpollerId) (fd : Fd) : Prop :=
  ∃ old, (w.epollers e).fds.lookup fd = some old ∧ (w.event old).fd = fd

/-- If `AddInner` comes to store the registration, it does not fail any more. -/
def AddsWhole (w : World) (e : EpollerId) (fd : Fd) (full : Bool) : Prop :=
  ¬ w.Occupied e fd → ∀ entry, w.fdManager fd = some entry → (w.event entry).fd = fd →
    (w.event entry).closeTrigger = false → w.Storable e entry full

theorem listenUdp_outcome (w : World) (e : EpollerId) (udp : UdpSocket) (full : Bool) :
    ((w.epollers e).udps udp = none → (w.epollers e).interest udp = false ∧ full = false) ∧
        (w.listenUdp e udp full).1 = .ok ∨
      ¬ ((w.epollers e).udps udp = none → (w.epollers e).interest udp = false ∧ full = false) ∧
        ∃ err, w.listenUdp e udp full = (.fail err, w) := by
  unfold listenUdp epollCtlAdd
  cases (w.epollers e).udps udp with
  | some count => simp
  | none => cases (w.epollers e).interest udp <;> cases full <;> simp

/-- An open entry is stored, and it depends on the last three checks whether the call succeeds. -/
theorem register_open (isOpen : (w.event entry).closeTrigger = false) :
    w.Storable e entry full ∧ (w.register e fd entry events data full).1 = .ok ∨
      ¬ w.Storable e entry full ∧ (w.register e fd entry events data full).1.value = -1 ∧
        (w.register e fd entry events data full).2.registry.fds e = (w.registry.fds e).insert fd entry := by
  rcases w.register_stages e fd entry events data full with ⟨closed, -⟩ | ⟨inserted, -, changed, staged⟩
  · cases isOpen.symm.trans closed
  have stored : inserted.registry.fds e = (w.registry.fds e).insert fd entry := by
    rw [changed]
    exact Function.update_self ..
  rw [staged]
  cases native : w.nativeUdpFd entry with
  | none =>
    refine .inr ⟨?_, rfl, ?_⟩
    · rintro ⟨udp, set, -⟩
      cases native.symm.trans set
    · rw [registry_stopWait]
      exact stored
  | some udp =>
    have only : w.Storable e entry full ↔ (∀ s, entry = .socket s → (w.sockets s).runner = none) ∧
        ((w.epollers e).udps udp = none → (w.epollers e).interest udp = false ∧ full = false) := by
      rw [Storable, native]
      simp
    -- the kernel is asked last
    have asks : ∀ ready : World, (∀ s, entry = .socket s → (w.sockets s).runner = none) →
        ready.registry = { inserted.registry with runner := ready.registry.runner } →
        w.Storable e entry full ∧ (ready.listenUdp e udp full).1 = .ok ∨
          ¬ w.Storable e entry full ∧ (ready.listenUdp e udp full).1.value = -1 ∧
            (ready.listenUdp e udp full).2.registry.fds e = (w.registry.fds e).insert fd entry := by
      intro ready free same
      have udps : (ready.epollers e).udps = (w.epollers e).udps :=
        congrFun (congrArg Registry.udps (changed ▸ same)) e
      have interest : (ready.epollers e).interest = (w.epollers e).interest :=
        congrFun (congrArg Registry.interest (changed ▸ same)) e
      have outcome := ready.listenUdp_outcome e udp full
      rw [udps, interest] at outcome
      rcases outcome with ⟨takes, done⟩ | ⟨refuses, err, failed⟩
      · exact .inl ⟨only.mpr ⟨free, takes⟩, done⟩
      · rw [failed, same]
        exact .inr ⟨fun storable => refuses (only.mp storable).2, rfl, stored⟩
    cases entry with
    | stream t => exact asks inserted nofun rfl
    | socket s =>
      have runner : (inserted.sockets s).runner = (w.sockets s).runner := congrFun (congrArg Registry.runner changed) s
      dsimp only
      cases links : inserted.link s e with
      | none =>
        refine .inr ⟨fun storable => ?_, rfl, ?_⟩
        · rw [link, runner, (only.mp storable).1 s rfl] at links
          cases links
        · rw [registry_stopWait]
          exact stored
      | some linked =>
        refine asks linked ?_ ?_
        · rintro _ ⟨⟩
          unfold link at links
          split at links
          · cases links
          · next free => exact runner.symm.trans free
        · rw [registry_link links]

theorem register_refused (closed : (w.event entry).closeTrigger = true) :
    w.register e fd entry events data full = (.fail .ebadf, w.modEpoller e fun epoller =>
      { epoller with qev := Function.update epoller.qev fd { events, data } }) := by
  have refused : (w.modEpoller e fun epoller =>
      { epoller with qev := Function.update epoller.qev fd { events, data } }).startWait entry e fd = none :=
    startWait_eq_none_iff.mpr closed
  unfold register
  dsimp only
  rw [refused]

/-- The call has changed no registration, count, waiter or link, except that it may have dropped a registration whose
entry has been closed. -/
structure Untouched (w : World) (e : EpollerId) (fd : Fd) (after : World) : Prop where
  registry : after.registry = w.registry ∨
    (∃ old, (w.epollers e).fds.lookup fd = some old ∧ (w.event old).fd ≠ fd) ∧
      after.registry = { w.registry with fds := Function.update w.registry.fds e ((w.registry.fds e).erase fd) }
  qev : ∀ key ∈ (after.epollers e).fds, (after.epollers e).qev key = (w.epollers e).qev key

theorem Vacates.untouched (vacates : Vacates e fd w before) : w.Untouched e fd before := by
  cases vacates with
  | unregistered absent => exact ⟨.inl rfl, fun _ _ => rfl⟩
  | stale old found closed =>
    refine ⟨.inr ⟨⟨old, found, closed⟩, registry_eraseFd w e fd⟩, fun _ _ => ?_⟩
    simp [eraseFd, modEpoller]

theorem Vacates.refused (vacates : Vacates e fd w before) :
    w.Untouched e fd (before.modEpoller e fun epoller =>
      { epoller with qev := Function.update epoller.qev fd { events, data } }) := by
  have same : (before.modEpoller e fun epoller =>
      { epoller with qev := Function.update epoller.qev fd { events, data } }).registry = before.registry :=
    registry_modEpoller_kept ⟨rfl, rfl, rfl, rfl⟩
  constructor
  · rw [same]
    exact vacates.untouched.registry
  · intro key registered
    simp only [modEpoller, Function.update_self] at registered ⊢
    -- the new event is under the descriptor that is not registered
    have differs : key ≠ fd := by
      rintro rfl
      have absent := vacates.lookup
      rw [← AList.lookup_isSome, absent] at registered
      cases registered
    rw [Function.update_of_ne differs]
    exact vacates.untouched.qev key registered

theorem Vacates.not_occupied (vacates : Vacates e fd w before) : ¬ w.Occupied e fd := by
  rintro ⟨other, listed, own⟩
  cases vacates with
  | unregistered absent => cases absent.symm.trans listed
  | stale old found closed =>
    cases found.symm.trans listed
    exact closed own

theorem Vacates.storable_iff (vacates : Vacates e fd w before) :
    before.Storable e entry full ↔ w.Storable e entry full := by
  cases vacates with
  | unregistered absent => exact Iff.rfl
  | stale old found closed =>
    have native : (w.eraseFd e fd).nativeUdpFd = w.nativeUdpFd := congrArg Directory.udp (directory_modEpoller_kept rfl)
    rw [Storable, Storable, native]
    simp [eraseFd, modEpoller]

/-- An `Add` that passes the first checks and not the last three fails behind the stored registration. -/
theorem addInner_stores (vacant : ¬ w.Occupied e fd) (held : w.fdManager fd = some entry)
    (own : (w.event entry).fd = fd) (isOpen : (w.event entry).closeTrigger = false)
    (unstorable : ¬ w.Storable e entry full) :
    (w.addInner e fd events data full).1.value = -1 ∧
      ((w.addInner e fd events data full).2.registry.fds e).lookup fd = some entry := by
  rcases w.addInner_outcome e fd events data full with
    ⟨occupied, -⟩ | ⟨before, vacates, ⟨absent, -⟩ | ⟨other, named, -, added⟩⟩
  · exact (vacant occupied).elim
  · exact (absent entry held own).elim
  · cases held.symm.trans named
    have flag : (before.event entry).closeTrigger = false := by rw [vacates.event, isOpen]
    rw [added]
    have outcome : before.Storable e entry full ∧ (before.register e fd entry events data full).1 = .ok ∨ _ :=
      register_open flag
    rcases outcome with ⟨storable, -⟩ | ⟨-, failed, stored⟩
    · exact (unstorable (vacates.storable_iff.mp storable)).elim
    · rw [stored, AList.lookup_insert]
      exact ⟨failed, rfl⟩

/-- The failures of an `Add` that would have stored the registration as a whole. -/
theorem addInner_failed (whole : w.AddsWhole e fd full) (failed : (w.addInner e fd events data full).1.value = -1) :
    w.Occupied e fd ∧ w.addInner e fd events data full = (.fail .eexist, w) ∨
      ∃ after, w.addInner e fd events data full = (.fail .ebadf, after) ∧ w.Untouched e fd after ∧
        (after.epollers e).fds.lookup fd = none := by
  rcases w.addInner_outcome e fd events data full with
    ⟨occupied, added⟩ | ⟨before, vacates, ⟨-, added⟩ | ⟨entry, held, own, added⟩⟩
  · exact .inl ⟨occupied, added⟩
  · exact .inr ⟨before, added, vacates.untouched, vacates.lookup⟩
  · have flag : (before.event entry).closeTrigger = (w.event entry).closeTrigger := by rw [vacates.event]
    cases closed : (w.event entry).closeTrigger with
    | true =>
      refine .inr ⟨_, added.trans (register_refused (flag.trans closed)), vacates.refused, ?_⟩
      simpa [modEpoller] using vacates.lookup
    | false =>
      have storable := vacates.storable_iff.mpr (whole vacates.not_occupied entry held own closed)
      rw [added] at failed
      have outcome : before.Storable e entry full ∧ (before.register e fd entry events data full).1 = .ok ∨ _ :=
        register_open (flag.trans closed)
      rcases outcome with ⟨-, done⟩ | ⟨unstorable, -⟩
      · rw [done] at failed
        cases failed
      · exact (unstorable storable).elim

/-- `AddInner` has changed nothing whenever it fails, exactly if it would have stored the registration as a whole. Then
a later call, unless this one failed because the descriptor was occupied, does not fail for that reason. -/
theorem failed_add_changes_nothing :
    (((w.addInner e fd events data full).1.value = -1 → w.Untouched e fd (w.addInner e fd events data full).2) ↔
      w.AddsWhole e fd full) ∧
    (w.AddsWhole e fd full → (w.addInner e fd events data full).1.value = -1 →
      (w.addInner e fd events data full).1 ≠ .fail .eexist →
        ∀ (later : World) (mask : PollMask) (value : Nat) (refuses : Bool),
          (later.epollers e).fds.lookup fd = ((w.addInner e fd events data full).2.epollers e).fds.lookup fd →
          later.AddsWhole e fd refuses → (later.addInner e fd mask value refuses).1 ≠ .fail .eexist) := by
  refine ⟨⟨?_, ?_⟩, ?_⟩
  · intro unharmed vacant entry held own isOpen
    by_contra unstorable
    obtain ⟨failed, stored⟩ := addInner_stores vacant held own isOpen unstorable
    -- what is stored now was not before, or it would have occupied the descriptor
    rcases (unharmed failed).registry with same | ⟨-, erased⟩
    · exact vacant ⟨entry, (congrArg (fun r => (r.fds e).lookup fd) same).symm.trans stored, own⟩
    · rw [erased] at stored
      simp at stored
  · intro whole failed
    rcases addInner_failed whole failed with ⟨-, added⟩ | ⟨after, added, untouched, -⟩
    · rw [added]
      exact ⟨.inl rfl, fun _ _ => rfl⟩
    · rw [added]
      exact untouched
  · intro whole failed differs later mask value refuses same whole' again
    have failed' : (later.addInner e fd mask value refuses).1.value = -1 := by
      rw [again]
      rfl
    rcases addInner_failed whole failed with ⟨-, added⟩ | ⟨after, added, -, absent⟩
    · exact differs (congrArg Prod.fst added)
    rw [added] at same
    rcases addInner_failed whole' failed' with ⟨⟨old, found, -⟩, -⟩ | ⟨after', added', -⟩
    · cases found.symm.trans (same.trans absent)
    · rw [added'] at again
      cases again

/-- A bound socket is added, and once more. -/
def addsTwice : List Action :=
  [.createSocket 7, .bind 1 (.ok 5) none, .createEpoll, .epollAdd 0 1 { pollin := true } 3 false]

theorem addsTwice_untouched :
    ∃ w, system.replay? {} addsTwice = some w ∧ (w.addInner 0 1 { pollout := true } 4 false).1 = .fail .eexist ∧
      w.Untouched 0 1 (w.addInner 0 1 { pollout := true } 4 false).2 := by
  have ends : ∃ w ∈ system.replay? {} addsTwice, (w.epollers 0).fds.lookup 1 = some (.socket 0) ∧
      (w.event (.socket 0)).fd = 1 ∧ (w.addInner 0 1 { pollout := true } 4 false).1 = .fail .eexist := by decide
  obtain ⟨w, executed, found, own, refused⟩ := ends
  have occupied : w.Occupied 0 1 := ⟨.socket 0, found, own⟩
  refine ⟨w, executed, refused, failed_add_changes_nothing.1.mpr (fun vacant => absurd occupied vacant) ?_⟩
  rw [refused]
  rfl

/-- A socket without a UDP socket is added to an epoller, then bound. -/
def addsUnbound : List Action :=
  [.createSocket 7, .createEpoll, .epollAdd 0 1 { pollin := true } 3 false, .bind 1 (.ok 5) none]

/-- The kernel has no room for the UDP socket. -/
def addsToFull : List Action := [.createSocket 7, .bind 1 (.ok 5) none, .createEpoll]

/-- The refused registration of the unbound socket is stored, and bound it cannot be added any more; behind a failed
`epoll_ctl` the registration, its waiter and the link are stored. -/
theorem addsUnbound_occupies :
    (∃ w, system.replay? {} (addsUnbound.take 2) = some w ∧ (w.addInner 0 1 { pollin := true } 3 false).1 = .fail .einval ∧
      (w.epollers 0).fds.lookup 1 = none ∧
      ((w.addInner 0 1 { pollin := true } 3 false).2.epollers 0).fds.lookup 1 = some (.socket 0)) ∧
    (∃ w, system.replay? {} addsUnbound = some w ∧ w.nativeUdpFd (.socket 0) = some 5 ∧
      (w.addInner 0 1 { pollin := true } 3 false).1 = .fail .eexist) ∧
    ∃ w, system.replay? {} addsToFull = some w ∧ (w.addInner 0 1 { pollin := true } 3 true).1 = .fail .enospc ∧
      (w.event (.socket 0)).waitings = [] ∧ (w.sockets 0).runner = none ∧
      ((w.addInner 0 1 { pollin := true } 3 true).2.event (.socket 0)).waitings = [0] ∧
      ((w.addInner 0 1 { pollin := true } 3 true).2.sockets 0).runner = some 0 ∧
      ((w.addInner 0 1 { pollin := true } 3 true).2.epollers 0).fds.lookup 1 = some (.socket 0) := by
  have first : ∃ w ∈ system.replay? {} (addsUnbound.take 2),
      (w.addInner 0 1 { pollin := true } 3 false).1 = .fail .einval ∧ (w.epollers 0).fds.lookup 1 = none ∧
      ((w.addInner 0 1 { pollin := true } 3 false).2.epollers 0).fds.lookup 1 = some (.socket 0) := by decide
  have second : ∃ w ∈ system.replay? {} addsUnbound, w.nativeUdpFd (.socket 0) = some 5 ∧
      (w.addInner 0 1 { pollin := true } 3 false).1 = .fail .eexist := by decide
  have third : ∃ w ∈ system.replay? {} addsToFull, (w.addInner 0 1 { pollin := true } 3 true).1 = .fail .enospc ∧
      (w.event (.socket 0)).waitings = [] ∧ (w.sockets 0).runner = none ∧
      ((w.addInner 0 1 { pollin := true } 3 true).2.event (.socket 0)).waitings = [0] ∧
      ((w.addInner 0 1 { pollin := true } 3 true).2.sockets 0).runner = some 0 ∧
      ((w.addInner 0 1 { pollin := true } 3 true).2.epollers 0).fds.lookup 1 = some (.socket 0) := by decide
  exact ⟨first, second, third⟩

end PosixQuic.World
