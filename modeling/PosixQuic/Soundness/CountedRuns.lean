import PosixQuic.Soundness.UdpRefcount

/-! # Exact counts over whole runs

The counts of an epoller stay exact through every action, as long as two things do not happen: a
refused `Add` that leaves its registration behind, and the close of a registered server side entry
whose connection is open. Such an entry loses its descriptor inside `CloseConnection`, so that the
waiters that are told afterwards look for the registration under the wrong number.

The epollers that follow the rule are a parameter. The others may do as they like; an assertion that
they break ends the process.
-/

namespace PosixQuic.World

open Machine Directory

variable {disciplined : EpollerId → Prop} {e x : EpollerId} {pending : EntryPtr → Prop} {w w' : World} {fd : Fd}
  {entry : EntryPtr}

/-- `DelInner` passes its assertions. -/
theorem delInner_counted (counted : Counted e pending w.directory w.registry) (tables : w.directory.Tables) (fd : Fd) :
    ∃ result, w.delInner e fd = .ok result ∧
      Counted e (fun x => pending x ∧ w.directory.fd x ≠ fd) result.2.directory result.2.registry := by
  cases found : (w.epollers e).fds.lookup fd with
  | none =>
    refine ⟨(.fail .enoent, w), by simp only [delInner, found], counted.narrow ?_⟩
    intro k x lookup waiting
    refine ⟨waiting, ?_⟩
    rintro rfl
    rw [counted.fd_eq tables lookup] at found
    exact absurd (found.symm.trans lookup) (Option.some_ne_none x).symm
  | some entry =>
    have remembered : (w.event entry).fd = fd := counted.fd_eq tables found
    obtain ⟨udp, native⟩ := counted.native fd entry found
    obtain ⟨count, counts⟩ : ∃ count, w.registry.udps e udp = some count :=
      ⟨_, (counted.exactCounts.counted found native).1⟩
    refine ⟨(.ok, w.deregister e fd entry udp count), ?_, ?_⟩
    · have set : w.nativeUdpFd entry = some udp := native
      have stored : (w.epollers e).udps udp = some count := counts
      simp only [delInner, found, remembered, ne_eq, not_true_eq_false, if_false, set, stored]
    · dsimp only
      rw [directory_deregister, registry_deregister]
      refine (counted.deregister tables found native counts).narrow ?_
      rintro k x lookup ⟨waiting, -⟩
      obtain ⟨elsewhere, before⟩ := Counted.lookup_deregister.mp lookup
      exact ⟨waiting, fun same => elsewhere ((counted.fd_eq tables before).symm.trans same)⟩

/-- The counts of all epollers that follow the rule are exact. -/
def CountsExact (disciplined : EpollerId → Prop) (w : World) : Prop :=
  ∀ e, disciplined e → Counted e (fun _ => False) w.directory w.registry

/-- Whatever goes wrong, except for the close of a connection that was never initialized, is the fault of an epoller
that does not follow the rule. -/
def Blames (disciplined : EpollerId → Prop) (fault : Fault) : Prop :=
  fault ≠ .nullDereference → ∃ e, ¬ disciplined e

/-- One `DelInner`, of an epoller that may not follow the rule. -/
theorem delInner_blames {fault : Fault} (counted : disciplined e → Counted e pending w.directory w.registry)
    (tables : w.directory.Tables) (failed : w.delInner e fd = .error fault) : Blames disciplined fault := by
  refine fun _ => ⟨e, fun rule => ?_⟩
  obtain ⟨result, deleted, -⟩ := delInner_counted (counted rule) tables fd
  exact absurd (deleted.symm.trans failed) nofun

/-- Every waiter deregisters the closed entry from its epoller. -/
theorem notifyClosed_counted (epollers : List EpollerId) (tables : w.directory.Tables)
    (counted : ∀ e, disciplined e → Counted e (fun x => x = entry ∧ e ∈ epollers) w.directory w.registry) :
    Yields (Blames disciplined) (CountsExact disciplined) (w.notifyClosed entry epollers) := by
  induction epollers generalizing w with
  | nil => exact fun e rule => (counted e rule).narrow fun _ _ _ => by simp
  | cons e rest ih =>
    cases deleted : w.delInner e (w.event entry).fd with
    | error fault =>
      simp only [notifyClosed, deleted]
      exact delInner_blames (counted e) tables deleted
    | ok result =>
      simp only [notifyClosed, deleted]
      refine ih (w := result.2) ?_ ?_
      · rw [directory_delInner deleted]
        exact tables
      · intro x rule
        by_cases same : x = e
        · -- the registration of the entry is gone
          subst same
          obtain ⟨other, again, after⟩ := delInner_counted (counted x rule) tables (w.event entry).fd
          obtain rfl : result = other := Except.ok.inj (deleted.symm.trans again)
          refine after.narrow ?_
          rintro fd y - ⟨⟨rfl, -⟩, moved⟩
          exact (moved rfl).elim
        · rw [directory_delInner deleted]
          refine ((counted x rule).elsewhere same (elsewhere_delInner deleted)).narrow ?_
          rintro fd y - ⟨equal, member⟩
          exact ⟨equal, (List.mem_cons.mp member).resolve_left same⟩

/-- Forgetting the waiters, which comes first. -/
theorem directory_forget (w : World) (entry : EntryPtr) :
    (w.setEvent entry { w.event entry with waitings := [], closeTrigger := true }).directory =
      w.directory.tell entry := by
  rw [directory_setEvent]
  exact Directory.ext rfl rfl rfl rfl rfl (Function.update_eq_self ..) rfl rfl rfl rfl rfl rfl rfl rfl

theorem clearWaitingsByClose_counted (entry : EntryPtr) (tables : w.directory.Tables)
    (counted : w.CountsExact disciplined) :
    Yields (Blames disciplined) (CountsExact disciplined) (w.clearWaitingsByClose entry) := by
  unfold clearWaitingsByClose
  dsimp only
  split_ifs
  · exact counted
  · refine notifyClosed_counted _ ?_ ?_
    · rw [directory_forget]
      exact tables.of_eq rfl rfl rfl
    · intro e rule
      rw [directory_forget, registry_setEvent]
      exact (counted e rule).tell entry

/-- Waiters only go away while a close is announced. -/
theorem waitings_delInner {result : CallResult × World} (deleted : w.delInner e fd = .ok result)
    (waiting : x ∈ result.2.registry.waitings entry) : x ∈ w.registry.waitings entry := by
  by_cases same : x = e
  · subst same
    rcases delInner_cases deleted with ⟨-, rfl⟩ | ⟨_, -, -, rfl⟩ | ⟨other, udp, count, -, -, -, -, rfl⟩
    · exact waiting
    · exact waiting
    · rw [registry_deregister] at waiting
      exact (Counted.mem_waitings_deregister.mp waiting).2
  · exact ((elsewhere_delInner deleted).waitings x entry same).mp waiting

theorem waitings_notifyClosed {epollers : List EpollerId} (notified : w.notifyClosed entry epollers = .ok w')
    {other : EntryPtr} (waiting : x ∈ w'.registry.waitings other) : x ∈ w.registry.waitings other := by
  induction epollers generalizing w with
  | nil =>
    cases notified
    exact waiting
  | cons e rest ih =>
    obtain ⟨result, deleted, continued⟩ := bind_eq_ok notified
    exact waitings_delInner deleted (ih continued)

theorem waitings_clearWaitingsByClose (cleared : w.clearWaitingsByClose entry = .ok w') {other : EntryPtr}
    (waiting : x ∈ w'.registry.waitings other) : x ∈ w.registry.waitings other := by
  unfold clearWaitingsByClose at cleared
  dsimp only at cleared
  split_ifs at cleared
  · cases cleared
    exact waiting
  · have before := waitings_notifyClosed cleared waiting
    rw [registry_setEvent] at before
    by_cases same : other = entry
    · subst same
      simp at before
    · simpa [same] using before

theorem CountsExact.of_eq (counted : w.CountsExact disciplined) (registry : w'.registry = w.registry)
    (fdManager : w'.directory.fdManager = w.directory.fdManager) (udp : w'.directory.udp = w.directory.udp)
    (closeTrigger : w'.directory.closeTrigger = w.directory.closeTrigger) : w'.CountsExact disciplined := by
  intro e rule
  rw [registry]
  exact (counted e rule).of_eq fdManager udp closeTrigger

theorem CountsExact.announce (counted : w.CountsExact disciplined) (s : SocketId) (errorCode : Int)
    (fromRemote : Bool) : (w.announce s errorCode fromRemote).CountsExact disciplined := by
  have changed := w.directory_announce s errorCode fromRemote
  refine counted.of_eq (w.registry_announce s errorCode fromRemote) ?_ ?_ ?_ <;> rw [changed]

/-- An entry that nobody waits for may lose its descriptor. -/
theorem CountsExact.releaseFd (counted : w.CountsExact disciplined) (tables : w.directory.Tables)
    (unwatched : ∀ e, disciplined e → e ∉ w.registry.waitings entry) : (w.releaseFd entry).CountsExact disciplined := by
  intro e rule
  rw [registry_releaseFd, show (w.releaseFd entry).directory = w.directory.release entry from w.directory_releaseFd _]
  refine (counted e rule).release tables ?_
  intro fd found
  exact unwatched e rule (((counted e rule).waits fd entry found).resolve_right id)

/-- What a close of `o`, with `children` in its accept queue, keeps. -/
structure ClosesCounted (disciplined : EpollerId → Prop) (perspective : SocketId → Perspective) (o : SocketId)
    (children : List SocketId) (w : World) : Prop where
  counted : w.CountsExact disciplined
  roles : w.directory.Roles
  perspectives : w.directory.perspective = perspective
  queue : ∀ child ∈ w.directory.acceptSockets o, child ∈ children
  spared : ∀ s, s = o ∨ s ∈ children → perspective s = .isServer → w.directory.connected s = true →
    ∀ e, disciplined e → e ∉ w.registry.waitings (.socket s)

namespace ClosesCounted

variable {perspective : SocketId → Perspective} {o : SocketId} {children : List SocketId} {w w' : World}

/-- A part of a close that takes waiters, connections and queued children away at most. -/
theorem of_step (closes : w.ClosesCounted disciplined perspective o children)
    (step : Step (fun _ => True) w.directory w'.directory) (counted : w'.CountsExact disciplined)
    (perspectives : w'.directory.perspective = w.directory.perspective)
    (queue : ∀ child ∈ w'.directory.acceptSockets o, child ∈ w.directory.acceptSockets o)
    (connected : ∀ s, w'.directory.connected s = true → w.directory.connected s = true)
    (waitings : ∀ e entry, e ∈ w'.registry.waitings entry → e ∈ w.registry.waitings entry) :
    w'.ClosesCounted disciplined perspective o children where
  counted := counted
  roles := closes.roles.step step
  perspectives := perspectives.trans closes.perspectives
  queue child member := closes.queue child (queue child member)
  spared s aimed server isConnected e rule waiting :=
    closes.spared s aimed server (connected s isConnected) e rule (waitings e _ waiting)

theorem announce (closes : w.ClosesCounted disciplined perspective o children) (s : SocketId) (errorCode : Int)
    (fromRemote : Bool) : (w.announce s errorCode fromRemote).ClosesCounted disciplined perspective o children := by
  have changed := w.announce_directory s errorCode fromRemote
  refine closes.of_step ?_ (closes.counted.announce s errorCode fromRemote) ?_ ?_ ?_ ?_
  · rw [changed]
    exact .disconnect _ s
  · rw [changed]
    rfl
  · rw [changed]
    exact fun _ => id
  · intro x connected
    rw [changed] at connected
    by_cases same : x = s
    · subst same
      simp [Directory.disconnect] at connected
    · simpa [Directory.disconnect, same] using connected
  · rw [registry_announce]
    exact fun _ _ => id

theorem delete (closes : w.ClosesCounted disciplined perspective o children) {s : SocketId} (closed : w.Closed s)
    (unwatched : ∀ e, disciplined e → e ∉ w.registry.waitings (.socket s)) :
    (w.deleteQuicSocketEntry s).ClosesCounted disciplined perspective o children := by
  have changed := w.directory_deleteQuicSocketEntry s
  refine closes.of_step ?_ (closes.counted.releaseFd closes.roles.toTables unwatched) ?_ ?_ ?_ ?_
  · rw [changed]
    refine .release _ _ trivial ?_
    rintro _ ⟨⟩
    exact closed
  · rw [changed, Directory.release]
    split_ifs <;> rfl
  · rw [changed, Directory.release]
    split_ifs <;> exact fun _ => id
  · rw [changed, Directory.release]
    split_ifs <;> exact fun _ => id
  · rw [registry_deleteQuicSocketEntry]
    exact fun _ _ => id

end ClosesCounted

theorem closable_counted (disciplined : EpollerId → Prop) (perspective : SocketId → Perspective) (o : SocketId)
    (children : List SocketId) (servers : ∀ child ∈ children, perspective child = .isServer) :
    Closable (Blames disciplined) (fun s => s = o ∨ s ∈ children)
      (ClosesCounted disciplined perspective o children) where
  queued w s closes aimed child member := by
    rcases aimed with rfl | queued
    · exact .inr (closes.queue child member)
    · -- a server side entry has no queue of its own
      have server : w.directory.perspective s = .isServer := closes.perspectives ▸ servers s queued
      have nobody : (w.sockets s).acceptSockets = [] := closes.roles.queue_server server
      rw [nobody] at member
      cases member
  crash _ _ _ _ _ _ other := absurd rfl other
  mark w s closes _ isOpen := by
    have changed := w.mark_directory s
    refine closes.of_step ?_ (closes.counted.of_eq (w.registry_mark s) ?_ ?_ ?_) ?_ ?_ ?_ ?_
    · rw [changed]
      exact .mark _ s trivial isOpen
    · rw [changed]
      rfl
    · rw [changed]
      rfl
    · rw [changed]
      rfl
    · rw [changed]
      rfl
    · rw [changed]
      exact fun _ => id
    · rw [changed]
      exact fun _ => id
    · rw [registry_mark]
      exact fun _ _ => id
  announce w s errorCode fromRemote closes _ _ := closes.announce s errorCode fromRemote
  releaseServer w s closes aimed closed connected server := by
    refine (closes.announce s quicConnectionCancelled false).delete ?_ ?_
    · exact ((w.kept_announce s quicConnectionCancelled false).closed_iff s).mpr closed
    · rw [registry_announce]
      exact closes.spared s aimed (closes.perspectives ▸ server) connected
  clear w s closes _ _ _ := by
    refine ((clearWaitingsByClose_counted (.socket s) closes.roles.toTables closes.counted).and_ok
      fun _ cleared => cleared).imp ?_
    rintro w' ⟨counted, cleared⟩
    have changed : w'.directory = w.directory.tell (.socket s) := directory_clearWaitingsByClose cleared
    refine closes.of_step ?_ counted ?_ ?_ ?_ fun e entry => waitings_clearWaitingsByClose cleared
    · rw [changed]
      exact .tell _ _ trivial
    · rw [changed]
      rfl
    · rw [changed]
      exact fun _ => id
    · rw [changed]
      exact fun _ => id
  release w s closes _ closed told :=
    closes.delete closed fun e rule => (closes.counted e rule).told (.socket s) told
  pop w s closes _ := by
    have changed := w.popAccept_directory s
    refine closes.of_step ?_ (closes.counted.of_eq (w.registry_popAccept s) ?_ ?_ ?_) ?_ ?_ ?_ ?_
    · rw [changed]
      exact .dequeue _ s
    · rw [changed]
      rfl
    · rw [changed]
      rfl
    · rw [changed]
      rfl
    · rw [changed]
      rfl
    · intro child member
      rw [changed] at member
      by_cases same : o = s
      · subst same
        simp only [Directory.dequeue, Function.update_self] at member
        exact List.mem_of_mem_tail member
      · simpa [Directory.dequeue, same] using member
    · rw [changed]
      exact fun _ => id
    · rw [registry_popAccept]
      exact fun _ _ => id

/-- The socket is a server side entry with an open connection, and registered where the rule is followed. -/
def LosesRegistration (disciplined : EpollerId → Prop) (w : World) (s : SocketId) : Prop :=
  (w.sockets s).perspective = .isServer ∧ (w.sockets s).connected = true ∧
    ∃ e ∈ (w.sockets s).waitings, disciplined e

instance [DecidablePred disciplined] (w : World) (s : SocketId) : Decidable (w.LosesRegistration disciplined s) :=
  inferInstanceAs (Decidable (_ ∧ _ ∧ _))

theorem quicCloseSocket_counted (roles : w.directory.Roles) (settled : w.Settled)
    (counted : w.CountsExact disciplined) (sock : Fd)
    (spares : ∀ x ∈ w.closeReach (.closeSocket sock), ¬ w.LosesRegistration disciplined x) :
    Yields (Blames disciplined) (fun result => result.2.CountsExact disciplined) (w.quicCloseSocket sock) := by
  by_cases found : ∃ s, w.fdManager sock = some (.socket s)
  · obtain ⟨s, found⟩ := found
    rw [closeReach_of_found found] at spares
    have servers : ∀ child ∈ (w.sockets s).acceptSockets, w.directory.perspective child = .isServer :=
      fun child member => roles.queuedServer s child member
    have closable := closable_counted disciplined w.directory.perspective s _ servers
    have starts : w.ClosesCounted disciplined w.directory.perspective s (w.sockets s).acceptSockets := by
      refine ⟨counted, roles, rfl, fun _ => id, ?_⟩
      intro x aimed server connected e rule waiting
      exact spares x (List.mem_cons.mpr aimed) ⟨server, connected, e, waiting, rule⟩
    refine (quicCloseSocket_yields closable sock w starts ?_ settled).imp fun _ closed => closed.1.counted
    intro other held
    rw [found] at held
    cases held
    exact .inl rfl
  · unfold quicCloseSocket
    exact withSocket_yields counted fun s held => (found ⟨s, held⟩).elim

/-- Reports of a closed connection change no counts while nothing is closed. -/
theorem closable_nothing (disciplined : EpollerId → Prop) :
    Closable (Blames disciplined) (fun _ => False) (CountsExact disciplined) where
  queued _ _ _ never := never.elim
  mark _ _ _ never := never.elim
  announce _ s errorCode fromRemote counted _ _ := counted.announce s errorCode fromRemote
  releaseServer _ _ _ never := never.elim
  clear _ _ _ never := never.elim
  release _ _ _ never := never.elim
  pop _ _ _ never := never.elim
  crash _ _ _ never := never.elim

/-- The connection is closed already when the entry hears of it, so that a server side entry is closed in
order. -/
theorem connectionClosed_counted (roles : w.directory.Roles) (settled : w.Settled)
    (counted : w.CountsExact disciplined) (s : SocketId) (errorCode : Int) (fromRemote : Bool) :
    Yields (Blames disciplined) (CountsExact disciplined)
      (onConnectionClosed close s errorCode fromRemote (w.disconnect s)) := by
  by_cases server : w.directory.perspective s = .isServer
  · have closable := closable_counted disciplined w.directory.perspective s [] nofun
    refine (connectionClosed_yields closable s errorCode fromRemote w ?_ (fun _ => .inl rfl) settled).imp
      fun _ closed => closed.1.counted
    have changed := w.announce_directory s errorCode fromRemote
    refine ⟨counted.announce s errorCode fromRemote, ?_, ?_, ?_, ?_⟩
    · have step : Step (fun _ => True) w.directory (w.directory.disconnect s) := .disconnect _ s
      rw [changed]
      exact roles.step step
    · rw [changed]
      rfl
    · intro child member
      rw [changed] at member
      have nobody : w.directory.acceptSockets s = [] := roles.queue_server server
      exact nobody ▸ member
    · intro x aimed _ connected
      rcases aimed with rfl | never
      · simp [changed, Directory.disconnect] at connected
      · cases never
  · exact (connectionClosed_yields (closable_nothing disciplined) s errorCode fromRemote w
      (counted.announce s errorCode fromRemote) server settled).imp fun _ closed => closed.1

/-- A stream is reset before its waiters are told. -/
theorem closeStreamEntry_eq (t : StreamId) (w : World) :
    ∃ reset : World, reset.directory = w.directory ∧ reset.registry = w.registry ∧
      closeStreamEntry t w = reset.clearWaitingsByClose (.stream t) := by
  by_cases isOpen : (w.streams t).quartcOpen = true
  · refine ⟨w.streamCallback t QuicStreamEntry.onClose, ?_, ?_, ?_⟩
    · exact directory_streamCallback _ _ keepsStream_onClose
    · exact w.registry_streamCallback t waitings_onClose
    · simp only [closeStreamEntry, isOpen, if_true]
  · exact ⟨w, rfl, rfl, by simp only [closeStreamEntry, isOpen, if_neg, Bool.false_eq_true, not_false_eq_true]⟩

theorem quicCloseStream_counted (tables : w.directory.Tables) (counted : w.CountsExact disciplined) (stream : Fd) :
    Yields (Blames disciplined) (fun result => result.2.CountsExact disciplined) (w.quicCloseStream stream) := by
  unfold quicCloseStream
  refine withStream_yields counted fun t found => ?_
  obtain ⟨reset, directory, registry, closes⟩ := closeStreamEntry_eq t w
  have tablesReset : reset.directory.Tables := directory ▸ tables
  have countedReset : reset.CountsExact disciplined := by
    refine counted.of_eq registry ?_ ?_ ?_ <;> rw [directory]
  rw [closes]
  refine ((clearWaitingsByClose_counted (.stream t) tablesReset countedReset).and_ok
    fun _ cleared => cleared).bind ?_
  rintro after ⟨countedAfter, cleared⟩
  have told : after.directory = reset.directory.tell (.stream t) := directory_clearWaitingsByClose cleared
  refine countedAfter.releaseFd ?_ ?_
  · rw [told]
    exact tablesReset.of_eq rfl rfl rfl
  · intro e rule
    refine (countedAfter e rule).told (.stream t) ?_
    rw [told]
    exact Function.update_self ..

theorem createEpoll_counted (counted : w.CountsExact disciplined) : w.createEpoll.CountsExact disciplined := by
  intro e rule
  have before := counted e rule
  by_cases same : e = w.numEpollers
  · subst same
    refine .empty ?_ ?_ ?_ (before.nobody_of_unborn le_rfl) ?_
    · simp [registry, createEpoll]
    · simp [registry, createEpoll]
    · simp [registry, createEpoll]
    · intro beyond
      exact absurd beyond (Nat.not_succ_le_self _)
  · have others : w.createEpoll.epollers e = w.epollers e := Function.update_of_ne same ..
    refine Counted.of_same (before.of_eq rfl rfl rfl) ?_ ?_ ?_ ?_ (Nat.le_succ _) fun _ => Iff.rfl
    · exact congrArg QuicEpollerEntry.fds others
    · exact congrArg QuicEpollerEntry.udps others
    · exact congrArg QuicEpollerEntry.interest others
    · exact congrArg QuicEpollerEntry.live others

/-- Closing an epoller takes it from the waiters of everything registered there. -/
theorem waitings_foldl_stopWait (w : World) (e : EpollerId) (entries : List EntryPtr) :
    ∃ waitings, (entries.foldl (fun w entry => w.stopWait entry e) w).registry = { w.registry with waitings } ∧
      (∀ x entry, x ≠ e → (x ∈ waitings entry ↔ x ∈ w.registry.waitings entry)) ∧
      (∀ entry, e ∈ waitings entry → e ∈ w.registry.waitings entry ∧ entry ∉ entries) ∧
      ∀ entry, (waitings entry).Sublist (w.registry.waitings entry) := by
  induction entries generalizing w with
  | nil =>
    exact ⟨w.registry.waitings, rfl, fun _ _ _ => Iff.rfl, fun _ waiting => ⟨waiting, nofun⟩, fun _ => .refl _⟩
  | cons head rest ih =>
    obtain ⟨waitings, changed, others, own, fewer⟩ := ih (w.stopWait head e)
    have stopped := w.registry_stopWait head e
    refine ⟨waitings, ?_, ?_, ?_, ?_⟩
    · rw [List.foldl_cons, changed, stopped]
    · intro x entry different
      rw [others x entry different, (elsewhere_stopWait w head e).waitings x entry different]
    · intro entry waiting
      obtain ⟨before, absent⟩ := own entry waiting
      rw [stopped] at before
      dsimp only at before
      by_cases same : entry = head
      · subst same
        simp at before
      · rw [Function.update_of_ne same] at before
        exact ⟨before, by simp [same, absent]⟩
    · intro entry
      refine (fewer entry).trans ?_
      rw [stopped]
      dsimp only
      by_cases same : entry = head
      · subst same
        rw [Function.update_self]
        exact List.filter_sublist
      · rw [Function.update_of_ne same]

/-- What the end of an epoller changes. -/
theorem registry_closeEpoller (w : World) (e : EpollerId) :
    ∃ waitings, (w.closeEpoller e).registry =
        { w.registry with
          fds := Function.update w.registry.fds e ∅
          udps := Function.update w.registry.udps e fun _ => none
          interest := Function.update w.registry.interest e fun _ => false
          live := Function.update w.registry.live e false
          waitings } ∧
      (∀ x entry, x ≠ e → (x ∈ waitings entry ↔ x ∈ w.registry.waitings entry)) ∧
      (∀ entry, e ∈ waitings entry → e ∈ w.registry.waitings entry ∧ ∀ fd, (w.registry.fds e).lookup fd ≠ some entry) ∧
      ∀ entry, (waitings entry).Sublist (w.registry.waitings entry) := by
  obtain ⟨waitings, stopped, others, own, fewer⟩ :=
    w.waitings_foldl_stopWait e ((w.epollers e).fds.entries.map Sigma.snd)
  refine ⟨waitings, ?_, others, ?_, fewer⟩
  · unfold closeEpoller
    dsimp only
    rw [registry_modEpoller, stopped]
  · intro entry waiting
    obtain ⟨before, absent⟩ := own entry waiting
    refine ⟨before, fun fd found => absent ?_⟩
    exact List.mem_map.mpr ⟨⟨fd, entry⟩, AList.mem_lookup_iff.mp found, rfl⟩

theorem closeEpoller_counted (e : EpollerId) (idle : (w.epollers e).dispatch = none)
    (counted : w.CountsExact disciplined) : (w.closeEpoller e).CountsExact disciplined := by
  intro x rule
  have before := counted x rule
  obtain ⟨waitings, changed, others, own, -⟩ := w.registry_closeEpoller e
  rw [directory_closeEpoller idle, changed]
  by_cases same : x = e
  · subst same
    refine .empty (by simp) (by simp) (by simp) ?_ (by simp)
    intro entry waiting
    obtain ⟨waited, absent⟩ := own entry waiting
    obtain ⟨fd, found⟩ := before.registered entry waited
    exact absent fd found
  · refine before.elsewhere same ⟨?_, ?_, ?_, ?_, rfl, fun other entry different => others other entry different⟩
    all_goals exact fun other different => Function.update_of_ne different ..

theorem addInner_counted (tables : w.directory.Tables) (counted : w.CountsExact disciplined)
    (born : (w.epollers e).live = true) {events : PollMask} {data : Nat} {full : Bool}
    (accepted : disciplined e → ∀ err, (w.addInner e fd events data full).1 = .fail err → ¬ Leftover err) :
    (w.addInner e fd events data full).2.CountsExact disciplined := by
  intro x rule
  have before := counted x rule
  rw [directory_addInner]
  by_cases same : x = e
  · subst same
    have inUse : ∀ fd entry, (w.epollers x).fds.lookup fd = some entry → (w.event entry).fd = fd :=
      fun fd entry found => before.fd_eq tables found
    rcases addInner_cases fd events data full inUse with
      ⟨err, refused, left⟩ | unchanged | ⟨entry, udp, held, fresh, native, outcome⟩
    · exact (accepted rule err refused left).elim
    · rw [unchanged]
      exact before
    · rcases outcome with ⟨absent, interested⟩ | ⟨isOpen, changed⟩
      · exact ((before.interest udp).mp interested absent).elim
      · rw [changed]
        exact before.register born held fresh isOpen native
  · exact before.elsewhere same (elsewhere_addInner ..)

/-- The epoller that an action registers something with. -/
def addsTo : Action → Option EpollerId
  | .epollAdd e .. => some e
  | _ => none

/-- An `Add` on one of the epollers succeeds, or fails with `EEXIST` or `EBADF`. -/
def AddAccepted (disciplined : EpollerId → Prop) (w : World) (action : Action) : Prop :=
  ∀ e ∈ addsTo action, disciplined e → Yields (fun _ => True)
    (fun result => result.1 = .ok ∨ result.1 = .fail .eexist ∨ result.1 = .fail .ebadf) (w.perform action)

/-- The rule that keeps the counts of the epollers exact. -/
def KeepsCounts (disciplined : EpollerId → Prop) (w : World) (action : Action) : Prop :=
  w.AddAccepted disciplined action ∧ ∀ s ∈ w.closeReach action, ¬ w.LosesRegistration disciplined s

instance [DecidablePred disciplined] (w : World) (action : Action) : Decidable (w.AddAccepted disciplined action) :=
  inferInstanceAs (Decidable (∀ e ∈ addsTo action, disciplined e → _))

instance [DecidablePred disciplined] (w : World) (action : Action) : Decidable (w.KeepsCounts disciplined action) :=
  inferInstanceAs (Decidable (_ ∧ _))

theorem epollDel_counted (tables : w.directory.Tables) (counted : w.CountsExact disciplined) (fd : Fd) :
    Yields (Blames disciplined) (fun result => result.2.CountsExact disciplined) (w.delInner e fd) := by
  cases deleted : w.delInner e fd with
  | error fault => exact delInner_blames (counted e) tables deleted
  | ok result =>
    intro x rule
    by_cases same : x = e
    · subst same
      obtain ⟨other, again, after⟩ := delInner_counted (counted x rule) tables fd
      obtain rfl : result = other := Except.ok.inj (deleted.symm.trans again)
      exact after.narrow fun _ _ _ never => never.1
    · rw [directory_delInner deleted]
      exact (counted x rule).elsewhere same (elsewhere_delInner deleted)

/-- The two ways into `DelInner`. -/
def Deletes (action : Action) : Prop := action.Closes ∨ ∃ e fd, action = .epollDel e fd

theorem epollAdd_counted (tables : w.directory.Tables) (counted : w.CountsExact disciplined) {events : PollMask}
    {data : Nat} {full : Bool} (accepted : w.AddAccepted disciplined (.epollAdd e fd events data full)) :
    Yields (fun _ => True) (fun result => result.2.CountsExact disciplined)
      (w.perform (.epollAdd e fd events data full)) := by
  have known := accepted e rfl
  simp only [perform, withEpoller] at known ⊢
  by_cases born : (w.epollers e).live = true
  · rw [if_pos born] at known ⊢
    refine addInner_counted tables counted born ?_
    intro rule err refused left
    have outcome : (w.addInner e fd events data full).1 = .ok ∨ (w.addInner e fd events data full).1 = .fail .eexist ∨
        (w.addInner e fd events data full).1 = .fail .ebadf := known rule
    rw [refused] at outcome
    rcases left with rfl | rfl | rfl <;> exact absurd outcome (by decide)
  · rw [if_neg born]
    exact counted

theorem perform_counted (roles : w.directory.Roles) (settled : w.Settled) (counted : w.CountsExact disciplined)
    {action : Action} (admitted : w.admits action = true) (keeps : w.KeepsCounts disciplined action) :
    Yields (fun fault => Deletes action → Blames disciplined fault)
      (fun result => result.2.CountsExact disciplined) (w.perform action) := by
  have blames : ∀ {result : Run (CallResult × World)},
      Yields (Blames disciplined) (fun result => result.2.CountsExact disciplined) result →
      Yields (fun fault => Deletes action → Blames disciplined fault)
        (fun result => result.2.CountsExact disciplined) result :=
    fun yields => yields.mono fun _ blamed _ => blamed
  by_cases closes : action.Closes
  · cases action with
    | closeSocket sock => exact blames (quicCloseSocket_counted roles settled counted sock keeps.2)
    | closeStream stream => exact blames (quicCloseStream_counted roles.toTables counted stream)
    | connectionClosed s errorCode fromRemote =>
      exact blames ((connectionClosed_counted roles settled counted s errorCode fromRemote).bind fun _ after => after)
    | _ => exact closes.elim
  by_cases registers : action.Registers
  · cases action with
    | createEpoll => exact createEpoll_counted counted
    | closeEpoller e =>
      refine withEpoller_yields counted (closeEpoller_counted e ?_ counted)
      simpa [admits] using admitted
    | epollAdd e fd events data full =>
      refine (epollAdd_counted roles.toTables counted keeps.1).mono ?_
      rintro fault - (closing | ⟨_, _, deleting⟩)
      · exact closing.elim
      · cases deleting
    | epollDel e fd => exact blames (withEpoller_yields counted (epollDel_counted roles.toTables counted fd))
    | _ => exact registers.elim
  · -- the entries in use stay as they are, and so do the registrations
    cases performed : w.perform action with
    | error fault =>
      rintro (closing | ⟨e, fd, rfl⟩)
      · exact (closes closing).elim
      · exact (registers trivial).elim
    | ok result =>
      obtain ⟨steps, -, kept⟩ := perform_keeps_registry roles.toTables settled admitted closes registers performed
      exact fun e rule => (counted e rule).kept roles.toTables (.steps roles.toTables steps) kept

/-- What a run that follows the rule keeps. -/
theorem reachable_counted (reachable : (system.restrict (KeepsCounts disciplined)).Reachable {} w) :
    w.CountsExact disciplined ∧ w.directory.Roles ∧ w.Settled := by
  refine reachable.invariant (P := fun w => w.CountsExact disciplined ∧ w.directory.Roles ∧ w.Settled) ?_ ?_
  · refine ⟨fun e _ => .empty rfl (fun _ => rfl) (fun _ => rfl) ?_ (fun _ => rfl), start_roles, ?_⟩
    · rintro (s | t) waiting <;> cases waiting
    · exact ⟨fun _ _ => rfl, fun _ _ => rfl⟩
  · rintro before action after ⟨counted, roles, settled⟩ ⟨admitted, keeps⟩ stepped
    obtain ⟨result, performed⟩ := step_eq_ok stepped
    obtain ⟨steps, settledAfter⟩ := (perform_refines settled admitted).of_ok performed
    exact ⟨(perform_counted roles settled counted admitted keeps).of_ok performed,
      steps.invariant (fun _ _ holds => holds.step) roles, settledAfter⟩

/-- In every run that follows the rule, the counts of UDP sockets are exact, the kernel watches exactly the
UDP sockets in use, an epoller waits for exactly the entries registered with it, and both assertions of
`DelInner` hold whichever way it is called: nothing but the close of a connection that was never initialized fails. -/
theorem udp_counts_exact (disciplined : EpollerId → Prop)
    (reachable : (system.restrict (KeepsCounts disciplined)).Reachable {} w) :
    (∀ e, disciplined e →
      (∀ udp, (w.epollers e).udps udp =
        if users (w.epollers e).fds w.nativeUdpFd udp = 0 then none
        else some (users (w.epollers e).fds w.nativeUdpFd udp : Int)) ∧
      (∀ udp, (w.epollers e).interest udp = true ↔ 0 < users (w.epollers e).fds w.nativeUdpFd udp) ∧
      (∀ entry, e ∈ (w.event entry).waitings ↔ ∃ fd, (w.epollers e).fds.lookup fd = some entry) ∧
      ∀ fd, ∃ result, w.delInner e fd = .ok result) ∧
    ∀ action, w.admits action = true → w.KeepsCounts disciplined action → Deletes action →
      ∀ fault, w.step action = .error fault → fault ≠ .nullDereference → ∃ e, ¬ disciplined e := by
  obtain ⟨counted, roles, settled⟩ := reachable_counted reachable
  refine ⟨?_, ?_⟩
  · intro e rule
    have exactly := counted e rule
    refine ⟨exactly.exactCounts, ?_, ?_, ?_⟩
    · intro udp
      have used : (w.epollers e).udps udp ≠ none ↔ users (w.epollers e).fds w.nativeUdpFd udp ≠ 0 :=
        not_congr exactly.exactCounts.eq_none_iff
      rw [Nat.pos_iff_ne_zero, ← used]
      exact exactly.interest udp
    · intro entry
      refine ⟨exactly.registered entry, ?_⟩
      rintro ⟨fd, found⟩
      exact (exactly.waits fd entry found).resolve_right id
    · intro fd
      obtain ⟨result, deleted, -⟩ := delInner_counted exactly roles.toTables fd
      exact ⟨result, deleted⟩
  · intro action admitted keeps deletes fault failed other
    have yields := perform_counted roles settled counted admitted keeps
    cases performed : w.perform action with
    | ok result =>
      simp only [step, performed] at failed
      cases failed
    | error fault' =>
      rw [performed] at yields
      simp only [step, performed] at failed
      obtain rfl : fault' = fault := Except.error.inj failed
      exact yields deletes other

/-- A listener, an accepted connection and a stream share a UDP socket; the connection is deregistered and
the stream closed. -/
def sharesUdp : List Action :=
  [.createSocket 7, .bind 1 (.ok 5) none, .createEpoll, .epollAdd 0 1 { pollin := true } 0 false,
    .beginUdpEvent 0 5, .datagram 0 98, .handshakeComplete 1, .endUdpEvent 0, .socketAccept 1,
    .epollAdd 0 2 { pollin := true } 1 false, .createStream 2 3, .epollAdd 0 3 { pollin := true } 2 false,
    .epollAdd 0 3 { pollin := true } 2 false, .epollDel 0 2, .closeStream 3]

theorem sharesUdp_counts_exact :
    ∃ w, (system.restrict (KeepsCounts fun _ => True)).replay? {} sharesUdp = some w ∧
      (w.epollers 0).udps 5 = some 1 ∧ users (w.epollers 0).fds w.nativeUdpFd 5 = 1 ∧
      (w.epollers 0).interest 5 = true ∧ ∀ fd, ∃ result, w.delInner 0 fd = .ok result := by
  have ends : ((system.restrict (KeepsCounts fun _ => True)).replay? {} sharesUdp).map
      (fun w => (w.epollers 0).udps 5) = some (some 1) := by decide
  obtain ⟨w, executed, count⟩ := Option.map_eq_some_iff.mp ends
  obtain ⟨exactly, -⟩ := udp_counts_exact (fun _ => True) (System.reachable_of_replay? executed)
  obtain ⟨counts, interest, -, deletes⟩ := exactly 0 trivial
  have users : users (w.epollers 0).fds w.nativeUdpFd 5 = 1 := by
    have stored := counts 5
    rw [count] at stored
    split_ifs at stored
    exact Nat.cast_injective (Option.some.inj stored).symm
  exact ⟨w, executed, count, users, (interest 5).mpr (by omega), deletes⟩

/-- Only sockets of clients are closed by the application. -/
def ClosesClients (w : World) (action : Action) : Prop :=
  ∀ s ∈ (w.closeReach action).head?, (w.sockets s).perspective = .isClient

instance (w : World) (action : Action) : Decidable (w.ClosesClients action) :=
  inferInstanceAs (Decidable (∀ s ∈ _, _))

/-- A listener that has also connected is closed with a registered connection in its accept queue. -/
def closesQueued : List Action :=
  [.createSocket 7, .bind 1 (.ok 5) none, .createEpoll, .epollAdd 0 1 { pollin := true } 0 false,
    .beginUdpEvent 0 5, .datagram 0 98, .handshakeComplete 1, .endUdpEvent 0,
    .epollAdd 0 2 { pollin := true } 1 false, .connect 1 (.ok 6), .closeSocket 1]

/-- The registration of the queued connection stays behind without a waiter, and deregistering it leaves the
count and the kernel's interest with nobody to use them. -/
theorem closesQueued_counts_wrong :
    (∃ w, (system.restrict fun w action => w.AddAccepted (fun _ => True) action ∧ w.ClosesClients action).replay? {}
        closesQueued = some w ∧
      (w.epollers 0).fds.lookup 2 = some (.socket 1) ∧ 0 ∉ (w.event (.socket 1)).waitings) ∧
    ∃ w, (system.restrict fun w action => w.AddAccepted (fun _ => True) action ∧ w.ClosesClients action).replay? {}
        (closesQueued ++ [.epollDel 0 2]) = some w ∧
      users (w.epollers 0).fds w.nativeUdpFd 5 = 0 ∧ (w.epollers 0).udps 5 = some 1 ∧
      (w.epollers 0).interest 5 = true := by
  have closed : ((system.restrict fun w action => w.AddAccepted (fun _ => True) action ∧
      w.ClosesClients action).replay? {} closesQueued).map (fun w =>
        ((w.epollers 0).fds.lookup 2, (w.event (.socket 1)).waitings)) = some (some (.socket 1), []) := by decide
  have deleted : ((system.restrict fun w action => w.AddAccepted (fun _ => True) action ∧
      w.ClosesClients action).replay? {} (closesQueued ++ [.epollDel 0 2])).map (fun w =>
        (users (w.epollers 0).fds w.nativeUdpFd 5, (w.epollers 0).udps 5, (w.epollers 0).interest 5)) =
      some (0, some 1, true) := by decide
  obtain ⟨w, executed, observed⟩ := Option.map_eq_some_iff.mp closed
  obtain ⟨w', executed', observed'⟩ := Option.map_eq_some_iff.mp deleted
  simp only [Prod.mk.injEq] at observed observed'
  refine ⟨⟨w, executed, observed.1, ?_⟩, w', executed', observed'⟩
  rw [observed.2]
  exact List.not_mem_nil

end PosixQuic.World
