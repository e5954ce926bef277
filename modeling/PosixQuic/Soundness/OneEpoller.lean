import PosixQuic.Soundness.Silence
import PosixQuic.Soundness.TimerLinks

/-! # A socket and its epoller

`Link` keeps a socket with one epoller, but `AddInner` stores the registration before it asks, and
neither a refused `Add` nor the destructor of an epoller undoes what is stored. Where this does not
happen, a socket is registered in exactly the epoller that drives its timers. A destroyed epoller is
forgotten by every waiter, and by the task runners exactly if none of its sockets was linked to it.
-/

namespace PosixQuic.World

open Machine Directory

variable {w : World} {e : EpollerId}

/-- In runs without refused registrations and without stranded sockets, a socket in use is linked to the
epoller that it is registered in, and to no other. -/
theorem linked_iff_registered (run : (system.restrict KeepsLinks).Reachable {} w) :
    (∀ s e, (w.sockets s).fd ≠ -1 → ((w.sockets s).runner = some e ↔ w.Registered e (.socket s))) ∧
      ∀ s e e', (w.sockets s).fd ≠ -1 → w.Registered e (.socket s) → w.Registered e' (.socket s) → e = e' := by
  have timed : Timed True w.directory w.registry := reachable_exclusive run
  have links : ∀ s e, (w.sockets s).fd ≠ -1 → w.Registered e (.socket s) → (w.sockets s).runner = some e := by
    rintro s e uses ⟨fd, found⟩
    exact timed.linked trivial s e fd uses found
  refine ⟨?_, ?_⟩
  · intro s e uses
    refine ⟨fun isLinked => ⟨(w.sockets s).fd, ?_⟩, links s e uses⟩
    exact timed.follows s e uses (timed.alive trivial s e uses isLinked) isLinked
  · intro s e e' uses here there
    exact Option.some.inj ((links s e uses here).symm.trans (links s e' uses there))

/-- A listener moves from one epoller to another. -/
def movesListener : List Action :=
  [.createSocket 7, .bind 1 (.ok 5) none, .createEpoll, .createEpoll, .epollAdd 0 1 { pollin := true } 0 false,
    .epollDel 0 1, .epollAdd 1 1 { pollin := true } 0 false, .epollAdd 1 1 { pollin := true } 0 false]

theorem movesListener_registered :
    ∃ w, (system.restrict KeepsLinks).replay? {} movesListener = some w ∧
      ∀ e, w.Registered e (.socket 0) ↔ e = 1 := by
  have ends : ∃ w ∈ (system.restrict KeepsLinks).replay? {} movesListener,
      (w.sockets 0).fd ≠ -1 ∧ (w.sockets 0).runner = some 1 := by decide
  obtain ⟨w, executed, uses, isLinked⟩ := ends
  obtain ⟨linked, -⟩ := linked_iff_registered (System.reachable_of_replay? executed)
  refine ⟨w, executed, fun e => ?_⟩
  rw [← linked 0 e uses, isLinked, Option.some.injEq, eq_comm]

/-- An accepted connection is in epoller 0, its listener in epoller 1, which refuses the connection. -/
def refusedElsewhere : List Action :=
  [.createSocket 7, .bind 1 (.ok 5) none, .createEpoll, .createEpoll, .epollAdd 1 1 { pollin := true } 0 false,
    .beginUdpEvent 1 5, .datagram 1 98, .handshakeComplete 1, .endUdpEvent 1, .socketAccept 1,
    .epollAdd 0 2 { pollin := true } 1 false, .epollAdd 1 2 { pollin := true } 1 false]

/-- The refused registration is stored all the same, and deleting it there stops the timers here. -/
theorem refusedElsewhere_unlinks :
    (∃ w, system.replay? {} refusedElsewhere = some w ∧ (w.sockets 1).runner = some 0 ∧
      w.Registered 0 (.socket 1) ∧ w.Registered 1 (.socket 1)) ∧
    ∃ w, system.replay? {} (refusedElsewhere ++ [.epollDel 1 2]) = some w ∧ (w.sockets 1).fd = 2 ∧
      (w.sockets 1).runner = none ∧ w.Registered 0 (.socket 1) := by
  have refused : ∃ w ∈ system.replay? {} refusedElsewhere, (w.sockets 1).runner = some 0 ∧
      (w.epollers 0).fds.lookup 2 = some (.socket 1) ∧ (w.epollers 1).fds.lookup 2 = some (.socket 1) := by decide
  have deleted : ∃ w ∈ system.replay? {} (refusedElsewhere ++ [.epollDel 1 2]), (w.sockets 1).fd = 2 ∧
      (w.sockets 1).runner = none ∧ (w.epollers 0).fds.lookup 2 = some (.socket 1) := by decide
  obtain ⟨w, executed, isLinked, here, there⟩ := refused
  obtain ⟨w', executed', uses, unlinked, still⟩ := deleted
  exact ⟨⟨w, executed, isLinked, ⟨2, here⟩, 2, there⟩, w', executed', uses, unlinked, 2, still⟩

/-- Nobody refers to the destroyed epoller: no entry waits for it, no socket in use is linked to it, and the
sockets that only it had can be added elsewhere. -/
structure Vacated (before : World) (e : EpollerId) (after : World) : Prop where
  waiters : ∀ entry, e ∉ (after.event entry).waitings
  unlinked : ∀ s, (after.sockets s).fd ≠ -1 → (after.sockets s).runner ≠ some e
  addable : ∀ s, before.Registered e (.socket s) → ((before.sockets s).runner = none ∨ (before.sockets s).runner = some e) →
    ∀ e' events data full, (after.addInner e' (after.sockets s).fd events data full).1 ≠ .fail .ebusy

theorem register_not_busy {fd : Fd} {entry : EntryPtr} {events : PollMask} {data : Nat} {full : Bool}
    (free : ∀ s, entry = .socket s → (w.sockets s).runner = none) :
    (w.register e fd entry events data full).1 ≠ .fail .ebusy := by
  have listens : ∀ (ready : World) (udp : UdpSocket), (ready.listenUdp e udp full).1 ≠ .fail .ebusy := by
    intro ready udp
    rcases ready.listenUdp_cases e udp full with refused | ⟨refused, -⟩ | ⟨done, -⟩
    · rw [refused]
      simp [CallResult.fail]
    · rw [refused]
      simp [CallResult.fail]
    · rw [done]
      decide
  rcases w.register_stages e fd entry events data full with ⟨-, before, refused, -⟩ | ⟨inserted, -, changed, staged⟩
  · rw [refused]
    simp [CallResult.fail]
  rw [staged]
  cases w.nativeUdpFd entry with
  | none =>
    simp [CallResult.fail]
  | some udp =>
    cases entry with
    | stream t => exact listens inserted udp
    | socket s =>
      have unlinked : (inserted.sockets s).runner = none := by
        change inserted.registry.runner s = none
        rw [changed]
        exact free s rfl
      dsimp only
      rw [link, unlinked]
      exact listens _ udp

/-- Only the socket under the descriptor can be busy. -/
theorem addInner_not_busy {fd : Fd} {events : PollMask} {data : Nat} {full : Bool}
    (free : ∀ s, w.fdManager fd = some (.socket s) → (w.sockets s).runner = none) :
    (w.addInner e fd events data full).1 ≠ .fail .ebusy := by
  rcases w.addInner_outcome e fd events data full with
    ⟨-, added⟩ | ⟨before, vacates, ⟨-, added⟩ | ⟨entry, held, -, added⟩⟩ <;> rw [added]
  · simp [CallResult.fail]
  · simp [CallResult.fail]
  · refine register_not_busy ?_
    rintro s rfl
    have sockets : before.sockets = w.sockets := by cases vacates <;> rfl
    rw [sockets]
    exact free s held

/-- A destroyed epoller is forgotten exactly if none of its sockets in use was linked to it. -/
theorem closeEpoller_vacates_iff (reachable : system.Reachable {} w) (live : (w.epollers e).live = true)
    (idle : (w.epollers e).dispatch = none) :
    w.Vacated e (w.closeEpoller e) ↔
      ∀ s, w.Registered e (.socket s) → (w.sockets s).fd ≠ -1 → (w.sockets s).runner ≠ some e := by
  obtain ⟨keyed, queued, settled⟩ := reachable_linked reachable
  have timed := reachable_timed reachable
  obtain ⟨waitings, changed, -, own, -⟩ := w.registry_closeEpoller e
  have directory : (w.closeEpoller e).directory = w.directory := directory_closeEpoller idle
  have fd : ∀ s, ((w.closeEpoller e).sockets s).fd = (w.sockets s).fd := fun s =>
    congrFun (congrArg Directory.fd directory) (.socket s)
  have runner : ∀ s, ((w.closeEpoller e).sockets s).runner = (w.sockets s).runner := fun s =>
    congrFun (congrArg Registry.runner changed) s
  constructor
  · intro vacated s registered uses isLinked
    exact vacated.unlinked s (fd s ▸ uses) ((runner s).trans isLinked)
  · intro free
    have unlinked : ∀ s, (w.sockets s).fd ≠ -1 → (w.sockets s).runner ≠ some e := fun s uses isLinked =>
      free s ⟨_, timed.follows s e uses live isLinked⟩ uses isLinked
    refine ⟨?_, ?_, ?_⟩
    · intro entry waiting
      have stored : e ∈ waitings entry := by
        rw [show ((w.closeEpoller e).event entry).waitings = waitings entry from
          congrFun (congrArg Registry.waitings changed) entry] at waiting
        exact waiting
      obtain ⟨waited, absent⟩ := own entry stored
      exact absent _ (keyed.registered settled.told waited)
    · intro s uses isLinked
      rw [fd] at uses
      rw [runner] at isLinked
      exact unlinked s uses isLinked
    · intro s registered single e' events data full
      refine addInner_not_busy fun s' held => ?_
      -- the descriptor is that of the socket itself
      have heldBefore : w.fdManager (w.sockets s).fd = some (.socket s') := by
        rw [← fd, ← held]
        exact (congrFun (congrArg Directory.fdManager directory) _).symm
      have remembered : (w.sockets s').fd = (w.sockets s).fd :=
        queued.toTables.sound.handle_of_holder _ (.socket s') heldBefore
      have uses : (w.sockets s).fd ≠ -1 := by
        intro released
        rw [released] at heldBefore
        exact absurd (queued.toTables.sound.pos_of_held heldBefore).1 (by decide)
      have same : s' = s := by
        have holder := (queued.toTables.sound.holder_of_handle (.socket s)).resolve_left uses
        exact EntryPtr.socket.inj (Option.some.inj (heldBefore.symm.trans holder))
      rw [same, runner]
      exact single.resolve_right (unlinked s uses)

/-- The socket is taken out before its epoller is destroyed, its stream is not. -/
def emptiesEpoller : List Action :=
  [.createSocket 7, .connect 1 (.ok 5), .handshakeComplete 0, .createStream 1 3, .createEpoll,
    .epollAdd 0 1 { pollin := true } 0 false, .epollAdd 0 2 { pollin := true } 0 false, .epollDel 0 1]

theorem emptiesEpoller_vacates :
    ∃ w, system.replay? {} emptiesEpoller = some w ∧ (w.epollers 0).live = true ∧ w.Registered 0 (.stream 0) ∧
      w.Vacated 0 (w.closeEpoller 0) := by
  have ends : ∃ w ∈ system.replay? {} emptiesEpoller, (w.epollers 0).live = true ∧
      (w.epollers 0).dispatch = none ∧ (w.epollers 0).fds.entries = [⟨2, .stream 0⟩] := by decide
  obtain ⟨w, executed, live, idle, only⟩ := ends
  refine ⟨w, executed, live, ⟨2, AList.mem_lookup_iff.mpr (only ▸ List.mem_singleton_self _)⟩,
    (closeEpoller_vacates_iff (System.reachable_of_replay? executed) live idle).mpr ?_⟩
  rintro s ⟨fd, found⟩
  have member := AList.mem_lookup_iff.mp found
  rw [only] at member
  cases List.mem_singleton.mp member

/-- The epoller is destroyed with a listener in it. -/
def strandsListener : List Action :=
  [.createSocket 7, .bind 1 (.ok 5) none, .createEpoll, .createEpoll, .epollAdd 0 1 { pollin := true } 0 false]

/-- The listener stays linked, and no other epoller accepts it. -/
theorem strandsListener_busy :
    ∃ w, system.replay? {} strandsListener = some w ∧ (w.epollers 0).live = true ∧ (w.epollers 0).dispatch = none ∧
      (w.sockets 0).fd = 1 ∧ ((w.closeEpoller 0).sockets 0).runner = some 0 ∧
      ((w.closeEpoller 0).addInner 1 1 { pollin := true } 0 false).1 = .fail .ebusy := by
  have ends : ∃ w ∈ system.replay? {} strandsListener, (w.epollers 0).live = true ∧
      (w.epollers 0).dispatch = none ∧ (w.sockets 0).fd = 1 ∧ ((w.closeEpoller 0).sockets 0).runner = some 0 ∧
      ((w.closeEpoller 0).addInner 1 1 { pollin := true } 0 false).1 = .fail .ebusy := by decide
  exact ends

end PosixQuic.World
