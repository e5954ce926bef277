import PosixQuic.Soundness.Departure

/-! # What the children of a closed socket take with them

Behind the waiters of a socket, `Close` goes through the accept queue. The children have registrations
of their own, under the same UDP socket; nothing of that touches the registrations and the task runner
of the socket itself.
-/

namespace PosixQuic.World

open Machine Directory

/-- The socket `o` is closed and its waiters have been told; `children` are closed after it. -/
structure Following (o : SocketId) (children : List SocketId) (udp : UdpSocket) (base : Registry) (w : World) :
    Prop where
  linked : Linked w.directory w.registry
  closed : w.Closed o
  told : w.directory.closeTrigger (.socket o) = true
  disconnected : w.directory.connected o = false
  queue : ∀ s, s = o ∨ s ∈ children → ∀ child ∈ w.directory.acceptSockets s, child ∈ children
  servers : ∀ c ∈ children, c ≠ o ∧ w.directory.perspective c = .isServer
  initialized : ∀ c ∈ children, (w.directory.socketState c).initialized = true
  set : ∀ c ∈ children, w.directory.udp (.socket c) = some udp
  steady : ∀ c ∈ children, w.directory.fd (.socket c) < 0 ∨
    ∀ e ∈ w.registry.waitings (.socket c),
      (w.registry.fds e).lookup (w.directory.fd (.socket c)) = some (.socket c)
  same : ∀ e fd, (w.registry.fds e).lookup fd = some (.socket o) ↔ (base.fds e).lookup fd = some (.socket o)
  runner : w.registry.runner o = base.runner o

namespace Following

variable {o : SocketId} {children : List SocketId} {udp : UdpSocket} {base : Registry} {w w' : World}

/-- A part of a close that changes no registration. -/
theorem of_same (follows : w.Following o children udp base) (linked : Linked w'.directory w'.registry)
    (registry : w'.registry = w.registry) (closed : ∀ s, w.Closed s → w'.Closed s)
    (closeTrigger : w'.directory.closeTrigger = w.directory.closeTrigger)
    (connected : ∀ s, w'.directory.connected s = true → w.directory.connected s = true)
    (queue : ∀ s, ∀ child ∈ w'.directory.acceptSockets s, child ∈ w.directory.acceptSockets s)
    (perspective : w'.directory.perspective = w.directory.perspective) (udps : w'.directory.udp = w.directory.udp)
    (state : ∀ s, w'.directory.socketState s = w.directory.socketState s ∨ w'.Closed s)
    (fd : ∀ x, w'.directory.fd x = w.directory.fd x ∨ w'.directory.fd x < 0) :
    w'.Following o children udp base where
  linked := linked
  closed := closed o follows.closed
  told := closeTrigger ▸ follows.told
  disconnected := by
    by_contra again
    have before := connected o (by simpa using again)
    rw [follows.disconnected] at before
    cases before
  queue s aimed child member := follows.queue s aimed child (queue s child member)
  servers := perspective ▸ follows.servers
  initialized c member := by
    rcases state c with same | marked
    · rw [same]
      exact follows.initialized c member
    · rw [show w'.directory.socketState c = .closed from marked]
      rfl
  set := udps ▸ follows.set
  steady c member := by
    rw [registry]
    rcases fd (.socket c) with unchanged | released
    · rw [unchanged]
      exact follows.steady c member
    · exact .inl released
  same := registry ▸ follows.same
  runner := registry ▸ follows.runner

theorem announce (follows : w.Following o children udp base) (s : SocketId) (errorCode : Int) (fromRemote : Bool) :
    (w.announce s errorCode fromRemote).Following o children udp base := by
  have changed := w.announce_directory s errorCode fromRemote
  refine follows.of_same (linked_announce follows.linked s errorCode fromRemote)
    (w.registry_announce s errorCode fromRemote) (w.progress_announce s errorCode fromRemote).closed ?_ ?_ ?_ ?_ ?_
    ?_ ?_
  · rw [changed]
    rfl
  · intro x connected
    rw [changed] at connected
    by_cases here : x = s
    · subst here
      simp [Directory.disconnect] at connected
    · simpa [Directory.disconnect, here] using connected
  · rw [changed]
    exact fun _ _ => id
  · rw [changed]
    rfl
  · rw [changed]
    rfl
  · rw [changed]
    exact fun _ => .inl rfl
  · rw [changed]
    exact fun _ => .inl rfl

theorem delete (follows : w.Following o children udp base) {s : SocketId} (closed : w.Closed s) :
    (w.deleteQuicSocketEntry s).Following o children udp base := by
  have changed := w.directory_deleteQuicSocketEntry s
  refine follows.of_same (linked_delete follows.linked closed) (w.registry_releaseFd _)
    (w.progress_deleteQuicSocketEntry s).closed (w.kept_deleteQuicSocketEntry s).closeTrigger ?_ ?_ ?_ ?_
    (fun x => .inl (congrFun (w.kept_deleteQuicSocketEntry s).socketState x)) ?_
  all_goals
    rw [changed]
    unfold Directory.release
  · split_ifs <;> exact fun _ => id
  · split_ifs <;> exact fun _ _ => id
  · split_ifs <;> rfl
  · split_ifs <;> rfl
  · intro x
    split_ifs
    · by_cases here : x = .socket s
      · subst here
        refine .inr (lt_of_eq_of_lt (Function.update_self ..) ?_)
        decide
      · exact .inl (Function.update_of_ne here ..)
    · exact .inl rfl

theorem mark (follows : w.Following o children udp base) {s : SocketId} (isOpen : ¬ w.Closed s) :
    (w.mark s).Following o children udp base := by
  have changed := w.mark_directory s
  refine follows.of_same (closable_linked.mark w s follows.linked trivial isOpen) (w.registry_mark s)
    (w.mark_progress s).closed ?_ ?_ ?_ ?_ ?_ (fun x => ?_) ?_
  on_goal 6 =>
    by_cases here : x = s
    · exact .inr (here ▸ w.mark_closed s)
    · rw [changed]
      exact .inl (Function.update_of_ne here ..)
  all_goals rw [changed]
  · rfl
  · exact fun _ => id
  · exact fun _ _ => id
  · rfl
  · rfl
  · exact fun _ => .inl rfl

theorem pop (follows : w.Following o children udp base) (s : SocketId) :
    (w.popAccept s).Following o children udp base := by
  have changed := w.popAccept_directory s
  refine follows.of_same (closable_linked.pop w s follows.linked trivial) (w.registry_popAccept s)
    (w.progress_popAccept s).closed ?_ ?_ ?_ ?_ ?_ ?_ ?_
  all_goals rw [changed]
  · rfl
  · exact fun _ => id
  · intro x child member
    by_cases here : x = s
    · subst here
      simp only [Directory.dequeue, Function.update_self] at member
      exact List.mem_of_mem_tail member
    · simpa [Directory.dequeue, here] using member
  · rfl
  · rfl
  · exact fun _ => .inl rfl
  · exact fun _ => .inl rfl

end Following

/-- What telling the waiters of the child `x` has changed. -/
structure Cleared (x : SocketId) (udp : UdpSocket) (w w' : World) : Prop where
  counts : w.directory.fd (.socket x) < 0 ∧ w'.registry.udps = w.registry.udps ∨
    ¬ w.directory.fd (.socket x) < 0 ∧
      Departs (.socket x) (w.directory.fd (.socket x)) udp (w.registry.waitings (.socket x)) w.registry w'.registry
  others : ∀ y, y ≠ .socket x → w'.registry.waitings y = w.registry.waitings y
  own : w'.registry.waitings (.socket x) = []

namespace Following

variable {o : SocketId} {children : List SocketId} {udp : UdpSocket} {base : Registry} {w w' : World}

/-- Telling the waiters keeps everything that is said of other sockets. -/
theorem of_told (follows : w.Following o children udp base) {x : SocketId}
    (cleared : w.clearWaitingsByClose (.socket x) = .ok w')
    (others : ∀ y, y ≠ .socket x → w'.registry.waitings y = w.registry.waitings y)
    (kept : ∀ e fd y, y ≠ .socket x →
      ((w'.registry.fds e).lookup fd = some y ↔ (w.registry.fds e).lookup fd = some y))
    (owner : x ≠ o) (runner : w'.registry.runner o = w.registry.runner o) :
    w'.Following o children udp base ∧ w'.registry.waitings (.socket x) = [] := by
  have changed : w'.directory = w.directory.tell (.socket x) := directory_clearWaitingsByClose cleared
  have linked := linked_clearWaitingsByClose follows.linked cleared
  have own : w'.registry.waitings (.socket x) = [] := by
    refine linked.told _ ?_
    rw [changed]
    exact Function.update_self ..
  have flag : w'.directory.closeTrigger (.socket o) = true := by
    rw [changed]
    exact (Function.update_of_ne (EntryPtr.socket_ne owner.symm) ..).trans follows.told
  refine ⟨⟨linked, ?_, flag, ?_, ?_, ?_, ?_, ?_, ?_, ?_, runner.trans follows.runner⟩, own⟩
  · rw [Closed, changed]
    exact follows.closed
  · rw [changed]
    exact follows.disconnected
  · rw [changed]
    exact follows.queue
  · rw [changed]
    exact follows.servers
  · rw [changed]
    exact follows.initialized
  · rw [changed]
    exact follows.set
  · intro c member
    rw [show w'.directory.fd = w.directory.fd by rw [changed]; rfl]
    refine (follows.steady c member).imp_right fun registered => ?_
    by_cases same : c = x
    · subst same
      rw [own]
      exact fun e waiting => absurd waiting List.not_mem_nil
    · intro e waiting
      rw [others _ (EntryPtr.socket_ne same)] at waiting
      exact (kept e _ _ (EntryPtr.socket_ne same)).mpr (registered e waiting)
  · intro e fd
    rw [kept e fd _ (EntryPtr.socket_ne owner.symm)]
    exact follows.same e fd

/-- One child tells its waiters. -/
theorem clear (follows : w.Following o children udp base) {x : SocketId} (member : x ∈ children) :
    Yields (fun _ => ∃ e ∈ w.registry.waitings (.socket x), ¬ w.directory.fd (.socket x) < 0 ∧
        w.registry.udps e udp = none)
      (fun w' => w'.Following o children udp base ∧ Cleared x udp w w') (w.clearWaitingsByClose (.socket x)) := by
  have owner := (follows.servers x member).1
  have set := follows.set x member
  by_cases lost : w.directory.fd (.socket x) < 0
  · obtain ⟨w', cleared, fds, udps, runner, others⟩ := clearWaitingsByClose_misses follows.linked lost
    rw [cleared]
    obtain ⟨after, own⟩ := follows.of_told cleared others (fun e fd y _ => by rw [fds]) owner (by rw [runner])
    exact ⟨after, .inl ⟨lost, udps⟩, others, own⟩
  · have registered := (follows.steady x member).resolve_left lost
    refine ((clearWaitingsByClose_departs (.socket x) udp follows.linked registered fun _ => set).and_ok
      fun _ cleared => cleared).imp ?_ |>.mono ?_
    · rintro w' ⟨departs, cleared⟩
      have runner : w'.registry.runner o = w.registry.runner o := by
        rw [departs.runner, if_neg]
        exact fun both => EntryPtr.socket_ne owner both.1
      obtain ⟨after, own⟩ := follows.of_told cleared departs.waitings
        (fun _ _ _ => departs.lookup_other registered) owner runner
      exact ⟨after, .inr ⟨lost, departs⟩, departs.waitings, own⟩
    · rintro _ ⟨e, waiting, uncounted⟩
      exact ⟨e, waiting, lost, uncounted⟩

/-- The socket itself has told its waiters before. -/
theorem clear_owner (follows : w.Following o children udp base) :
    w.clearWaitingsByClose (.socket o) = .ok w := by
  unfold clearWaitingsByClose
  exact if_pos follows.told

end Following

/-- No child that is closed has anything to take with it: nobody waits for it, or its waiters will look in
vain. -/
structure Idle (o : SocketId) (children : List SocketId) (udp : UdpSocket) (base : Registry) (w : World) : Prop
    extends w.Following o children udp base where
  idle : ∀ c ∈ children, w.registry.waitings (.socket c) = [] ∨ w.directory.fd (.socket c) < 0 ∨
    w.directory.connected c = true
  counts : ∀ e, w.registry.udps e udp = base.udps e udp

/-- The waiter `e` of the disconnected child `c` gives a reference back. -/
structure Indebted (o : SocketId) (children : List SocketId) (udp : UdpSocket) (base : Registry) (c : SocketId)
    (e : EpollerId) (w : World) : Prop extends w.Following o children udp base where
  cut : w.directory.connected c = false
  waits : e ∈ w.registry.waitings (.socket c) → ¬ w.directory.fd (.socket c) < 0
  debt : (w.registry.udps e udp).getD 0 + (if e ∈ w.registry.waitings (.socket c) then 0 else 1) ≤
    (base.udps e udp).getD 0

section Closable

variable {o : SocketId} {children : List SocketId} {udp : UdpSocket} {base : Registry} {w : World}

/-- The descriptor of a deleted entry. -/
theorem fd_deleteQuicSocketEntry (w : World) (s x : SocketId) :
    (w.deleteQuicSocketEntry s).directory.fd (.socket x) =
      if x = s ∧ 0 ≤ w.directory.fd (.socket s) then -1 else w.directory.fd (.socket x) := by
  rw [directory_deleteQuicSocketEntry, Directory.release]
  by_cases inUse : 0 ≤ w.directory.fd (.socket s)
  · rw [if_pos inUse]
    by_cases same : x = s
    · subst same
      simp [inUse]
    · simp [same]
  · simp [inUse]

theorem connected_deleteQuicSocketEntry (w : World) (s : SocketId) :
    (w.deleteQuicSocketEntry s).directory.connected = w.directory.connected := by
  rw [directory_deleteQuicSocketEntry, Directory.release]
  split_ifs <;> rfl

theorem connected_announce_ne {s x : SocketId} (other : x ≠ s) (errorCode : Int) (fromRemote : Bool) :
    (w.announce s errorCode fromRemote).directory.connected x = w.directory.connected x := by
  rw [directory_announce]
  exact Function.update_of_ne other ..

theorem fd_announce (w : World) (s : SocketId) (errorCode : Int) (fromRemote : Bool) :
    (w.announce s errorCode fromRemote).directory.fd = w.directory.fd := by
  rw [directory_announce]

/-- Deleting a closed entry leaves idle children idle. -/
theorem Idle.delete (idles : w.Idle o children udp base) {s : SocketId} (closed : w.Closed s) :
    (w.deleteQuicSocketEntry s).Idle o children udp base := by
  have registry := w.registry_deleteQuicSocketEntry s
  refine ⟨idles.toFollowing.delete closed, ?_, ?_⟩
  · intro c member
    rw [registry, connected_deleteQuicSocketEntry, fd_deleteQuicSocketEntry]
    split_ifs
    · exact .inr (.inl (by decide))
    · exact idles.idle c member
  · rw [registry]
    exact idles.counts

theorem closable_following :
    Closable (fun _ => True) (fun s => s = o ∨ s ∈ children) (Following o children udp base) where
  queued w s follows aimed child member := .inr (follows.queue s aimed child member)
  mark w s follows _ isOpen := follows.mark isOpen
  announce w s errorCode fromRemote follows _ _ := follows.announce s errorCode fromRemote
  releaseServer w s follows _ closed _ _ :=
    (follows.announce s quicConnectionCancelled false).delete
      (((w.kept_announce s quicConnectionCancelled false).closed_iff s).mpr closed)
  clear w s follows aimed _ _ := by
    rcases aimed with rfl | member
    · rw [follows.clear_owner]
      exact follows
    · exact ((follows.clear member).imp fun _ cleared => cleared.1).mono fun _ _ => trivial
  release w s follows _ closed _ := follows.delete closed
  pop w s follows _ := follows.pop s

theorem closable_idle : Closable (fun _ => False) (fun s => s = o ∨ s ∈ children) (Idle o children udp base) where
  queued w s idles aimed child member := .inr (idles.queue s aimed child member)
  crash w s idles aimed isOpen crashes := by
    rcases aimed with rfl | member
    · exact isOpen idles.closed
    · exact Bool.false_ne_true (crashes.2.symm.trans (idles.initialized s member))
  mark w s idles _ isOpen := by
    have changed := w.mark_directory s
    refine ⟨idles.toFollowing.mark isOpen, ?_, ?_⟩
    · rw [registry_mark, changed]
      exact idles.idle
    · rw [registry_mark]
      exact idles.counts
  announce w s errorCode fromRemote idles client _ := by
    refine ⟨idles.toFollowing.announce s errorCode fromRemote, ?_, ?_⟩
    · intro c member
      have other : c ≠ s := by
        rintro rfl
        exact client (idles.servers c member).2
      rw [registry_announce, fd_announce, connected_announce_ne other]
      exact idles.idle c member
    · rw [registry_announce]
      exact idles.counts
  releaseServer w s idles aimed closed connected _ := by
    have announced := idles.toFollowing.announce s quicConnectionCancelled false
    have closedAnnounced := ((w.kept_announce s quicConnectionCancelled false).closed_iff s).mpr closed
    refine ⟨announced.delete closedAnnounced, ?_, ?_⟩
    · intro c member
      rw [fd_deleteQuicSocketEntry, connected_deleteQuicSocketEntry, fd_announce]
      by_cases same : c = s
      · subst same
        refine .inr (.inl ?_)
        split_ifs with inUse
        · decide
        · exact not_le.mp fun nonneg => inUse ⟨rfl, nonneg⟩
      · rw [if_neg fun both => same both.1, connected_announce_ne same, registry_deleteQuicSocketEntry,
          registry_announce]
        exact idles.idle c member
    · rw [registry_deleteQuicSocketEntry, registry_announce]
      exact idles.counts
  clear w s idles aimed _ cut := by
    rcases aimed with rfl | member
    · rw [idles.toFollowing.clear_owner]
      exact idles
    · have silent : w.registry.waitings (.socket s) = [] ∨ w.directory.fd (.socket s) < 0 := by
        refine (idles.idle s member).imp_right fun lost => lost.resolve_right ?_
        rw [cut]
        decide
      refine (((idles.toFollowing.clear member).and_ok fun _ cleared => cleared).imp ?_).mono ?_
      · rintro w' ⟨⟨follows, cleared⟩, told⟩
        have changed : w'.directory = w.directory.tell (.socket s) := directory_clearWaitingsByClose told
        refine ⟨follows, ?_, ?_⟩
        · intro c childMember
          by_cases same : c = s
          · subst same
            exact .inl cleared.own
          · rw [cleared.others _ (EntryPtr.socket_ne same), changed]
            exact idles.idle c childMember
        · intro e
          rw [← idles.counts e]
          rcases cleared.counts with ⟨-, udps⟩ | ⟨kept, departs⟩
          · rw [udps]
          · rw [departs.udps, silent.resolve_right kept]
            simp
      · rintro _ ⟨e, waiting, kept, -⟩
        rw [silent.resolve_right kept] at waiting
        cases waiting
  release w s idles _ closed _ := idles.delete closed
  pop w s idles _ := by
    have changed := w.popAccept_directory s
    refine ⟨idles.toFollowing.pop s, ?_, ?_⟩
    · rw [registry_popAccept, changed]
      exact idles.idle
    · rw [registry_popAccept]
      exact idles.counts

variable {c : SocketId} {e : EpollerId}

/-- What changes no registration changes no debt. -/
theorem Indebted.of_same {w' : World} (indebted : w.Indebted o children udp base c e)
    (follows : w'.Following o children udp base) (registry : w'.registry = w.registry)
    (connected : w'.directory.connected c = false)
    (fd : e ∈ w.registry.waitings (.socket c) → ¬ w'.directory.fd (.socket c) < 0) :
    w'.Indebted o children udp base c e := by
  refine ⟨follows, connected, ?_, ?_⟩
  · rw [registry]
    exact fd
  · rw [registry]
    exact indebted.debt

theorem closable_indebted (member : c ∈ children) :
    Closable (fun _ => True) (fun s => s = o ∨ s ∈ children) (Indebted o children udp base c e) where
  queued w s indebted aimed child queued := .inr (indebted.queue s aimed child queued)
  mark w s indebted _ isOpen := by
    have changed := w.mark_directory s
    refine indebted.of_same (indebted.toFollowing.mark isOpen) (w.registry_mark s) ?_ ?_
    · rw [changed]
      exact indebted.cut
    · rw [changed]
      exact indebted.waits
  announce w s errorCode fromRemote indebted client _ := by
    have other : c ≠ s := by
      rintro rfl
      exact client (indebted.servers c member).2
    refine indebted.of_same (indebted.toFollowing.announce s errorCode fromRemote)
      (w.registry_announce s errorCode fromRemote) ?_ ?_
    · rw [connected_announce_ne other]
      exact indebted.cut
    · rw [fd_announce]
      exact indebted.waits
  releaseServer w s indebted _ closed connected _ := by
    have other : c ≠ s := by
      rintro rfl
      rw [indebted.cut] at connected
      cases connected
    have announced := indebted.toFollowing.announce s quicConnectionCancelled false
    have closedAnnounced := ((w.kept_announce s quicConnectionCancelled false).closed_iff s).mpr closed
    refine indebted.of_same (announced.delete closedAnnounced)
      ((registry_releaseFd ..).trans (registry_announce ..)) ?_ ?_
    · rw [connected_deleteQuicSocketEntry, connected_announce_ne other]
      exact indebted.cut
    · rw [fd_deleteQuicSocketEntry, if_neg fun both => other both.1, fd_announce]
      exact indebted.waits
  clear w s indebted aimed _ _ := by
    rcases aimed with rfl | child
    · rw [indebted.toFollowing.clear_owner]
      exact indebted
    · refine (((indebted.toFollowing.clear child).and_ok fun _ cleared => cleared).imp ?_).mono fun _ _ => trivial
      rintro w' ⟨⟨follows, cleared⟩, told⟩
      have changed : w'.directory = w.directory.tell (.socket s) := directory_clearWaitingsByClose told
      have debt := indebted.debt
      have cut : w'.directory.connected c = false := by
        rw [changed]
        exact indebted.cut
      by_cases same : c = s
      · subst same
        refine ⟨follows, cut, ?_, ?_⟩
        · rw [cleared.own]
          exact nofun
        · rw [cleared.own]
          rcases cleared.counts with ⟨lost, udps⟩ | ⟨-, departs⟩
          · rw [if_neg fun waiting => indebted.waits waiting lost] at debt
            simpa [udps] using debt
          · have given := departs.getD_udps e
            split_ifs at debt given <;> simp <;> omega
      · have others := cleared.others _ (EntryPtr.socket_ne same)
        refine ⟨follows, cut, ?_, ?_⟩
        · rw [others, changed]
          exact indebted.waits
        · rw [others]
          rcases cleared.counts with ⟨-, udps⟩ | ⟨-, departs⟩
          · rw [udps]
            exact debt
          · have given := departs.getD_udps e
            split_ifs at debt given ⊢ <;> omega
  release w s indebted _ closed told := by
    refine indebted.of_same (indebted.toFollowing.delete closed) (w.registry_releaseFd _) ?_ ?_
    · rw [connected_deleteQuicSocketEntry]
      exact indebted.cut
    · intro waiting
      have other : c ≠ s := by
        rintro rfl
        rw [indebted.linked.told _ told] at waiting
        cases waiting
      rw [fd_deleteQuicSocketEntry, if_neg fun both => other both.1]
      exact indebted.waits waiting
  pop w s indebted _ := by
    have changed := w.popAccept_directory s
    refine indebted.of_same (indebted.toFollowing.pop s) (w.registry_popAccept s) ?_ ?_
    · rw [changed]
      exact indebted.cut
    · rw [changed]
      exact indebted.waits

end Closable

end PosixQuic.World
