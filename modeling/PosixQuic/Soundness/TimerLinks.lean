import PosixQuic.Soundness.LinkedRuns

/-! # Which epoller drives the timers of a socket

A socket in use is registered in every epoller in use that its task runner is linked to. The converse
needs that no `Add` is refused after it has stored the registration, and that no epoller is destroyed
under its sockets; then a socket is linked to exactly the one epoller that it is registered in.
-/

namespace PosixQuic

open Machine Directory

/-- The links of the task runners; if they are `exclusive`, a registration comes with a link. -/
structure Timed (exclusive : Prop) (d : Directory) (r : Registry) : Prop where
  known : ∀ s e, r.runner s = some e → d.Allocated (.socket s) ∧ e < r.numEpollers
  follows : ∀ s e, d.fd (.socket s) ≠ -1 → r.live e = true → r.runner s = some e →
    (r.fds e).lookup (d.fd (.socket s)) = some (.socket s)
  linked : exclusive → ∀ s e fd, d.fd (.socket s) ≠ -1 → (r.fds e).lookup fd = some (.socket s) → r.runner s = some e
  alive : exclusive → ∀ s e, d.fd (.socket s) ≠ -1 → r.runner s = some e → r.live e = true

namespace Timed

variable {exclusive : Prop} {d d' : Directory} {r r' : Registry} {e : EpollerId} {fd : Fd} {x : EntryPtr}

/-- Waiters and counts may change, and sockets may lose their descriptors. -/
theorem of_released (timed : Timed exclusive d r) (ages : Ages d d')
    (fds : ∀ s, d'.fd (.socket s) = d.fd (.socket s) ∨ d'.fd (.socket s) = -1) (same : r'.fds = r.fds)
    (live : r'.live = r.live) (numEpollers : r'.numEpollers = r.numEpollers) (runner : r'.runner = r.runner) :
    Timed exclusive d' r' := by
  have inUse : ∀ s, d'.fd (.socket s) ≠ -1 → d'.fd (.socket s) = d.fd (.socket s) ∧ d.fd (.socket s) ≠ -1 := by
    intro s uses
    have kept := (fds s).resolve_right uses
    exact ⟨kept, kept ▸ uses⟩
  refine ⟨?_, ?_, ?_, ?_⟩
  · rw [runner, numEpollers]
    exact fun s e isLinked => ⟨ages.allocated _ (timed.known s e isLinked).1, (timed.known s e isLinked).2⟩
  · intro s e uses
    obtain ⟨kept, used⟩ := inUse s uses
    rw [live, runner, same, kept]
    exact timed.follows s e used
  · intro strict s e fd uses
    rw [runner, same]
    exact timed.linked strict s e fd (inUse s uses).2
  · intro strict s e uses
    rw [live, runner]
    exact timed.alive strict s e (inUse s uses).2

/-- A registration is taken out; if it was a current one of a socket, the socket is unlinked. -/
theorem erase (timed : Timed exclusive d r) (keyed : Linked d r) (found : (r.fds e).lookup fd = some x)
    (fds : r'.fds = Function.update r.fds e ((r.fds e).erase fd)) (live : r'.live = r.live)
    (numEpollers : r'.numEpollers = r.numEpollers)
    (others : ∀ s, x ≠ .socket s ∨ d.fd x ≠ fd → r'.runner s = r.runner s)
    (unlinked : ∀ s, x = .socket s → d.fd x = fd → r'.runner s = none) : Timed exclusive d r' := by
  have runner : ∀ s e', r'.runner s = some e' → r.runner s = some e' ∧ (x ≠ .socket s ∨ d.fd x ≠ fd) := by
    intro s e' isLinked
    have other : x ≠ .socket s ∨ d.fd x ≠ fd := by
      by_contra own
      push Not at own
      rw [unlinked s own.1 own.2] at isLinked
      cases isLinked
    exact ⟨(others s other).symm.trans isLinked, other⟩
  have lookup : ∀ e' k y, (r'.fds e').lookup k = some y ↔ (r.fds e').lookup k = some y ∧ ¬ (e' = e ∧ k = fd) := by
    intro e' k y
    rw [fds]
    by_cases here : e' = e
    · subst here
      rw [Function.update_self]
      by_cases erased : k = fd
      · subst erased
        simp
      · rw [AList.lookup_erase_ne erased]
        simp [erased]
    · rw [Function.update_of_ne here]
      simp [here]
  refine ⟨?_, ?_, ?_, ?_⟩
  · intro s e' isLinked
    rw [numEpollers]
    exact timed.known s e' (runner s e' isLinked).1
  · intro s e' uses isLive isLinked
    obtain ⟨wasLinked, other⟩ := runner s e' isLinked
    rw [live] at isLive
    have registered := timed.follows s e' uses isLive wasLinked
    refine (lookup _ _ _).mpr ⟨registered, ?_⟩
    rintro ⟨rfl, here⟩
    rw [here, found] at registered
    cases registered
    exact other.elim (fun ne => ne rfl) fun ne => ne here
  · intro strict s e' k uses after
    obtain ⟨registered, elsewhere⟩ := (lookup _ _ _).mp after
    have wasLinked := timed.linked strict s e' k uses registered
    have key : d.fd (.socket s) = k := ((keyed.key e' k _ registered).2.2).resolve_right uses
    refine (others s ?_).trans wasLinked
    -- the epoller that this socket is registered in is the one that it is linked to
    by_contra own
    push Not at own
    obtain ⟨rfl, current⟩ := own
    have single := wasLinked.symm.trans (timed.linked strict s e fd uses found)
    exact elsewhere ⟨Option.some.inj single, key.symm.trans current⟩
  · intro strict s e' uses isLinked
    rw [live]
    exact timed.alive strict s e' uses (runner s e' isLinked).1

/-- A registration is stored, and its socket is linked unless the `Add` is refused. -/
theorem insert (timed : Timed exclusive d r) (keyed : Linked d r) (tables : d.Tables)
    (held : d.fdManager fd = some x) (born : r.live e = true)
    (fds : r'.fds = Function.update r.fds e ((r.fds e).insert fd x)) (live : r'.live = r.live)
    (numEpollers : r'.numEpollers = r.numEpollers)
    (runner : (r'.runner = r.runner ∧ (exclusive → ∀ s, x ≠ .socket s)) ∨
      ∃ s, x = .socket s ∧ r.runner s = none ∧ r'.runner = Function.update r.runner s (some e)) :
    Timed exclusive d r' := by
  have remembered : d.fd x = fd := tables.sound.handle_of_holder fd x held
  have inUse : d.fd x ≠ -1 := by
    rw [remembered]
    rintro rfl
    exact absurd (tables.sound.pos_of_held held).1 (by decide)
  have early : e < r.numEpollers := by
    by_contra late
    rw [(keyed.unborn e (not_lt.mp late)).2] at born
    cases born
  have lookup : ∀ e' k y, (r'.fds e').lookup k = some y ↔
      (e' = e ∧ k = fd) ∧ y = x ∨ ¬ (e' = e ∧ k = fd) ∧ (r.fds e').lookup k = some y := by
    intro e' k y
    rw [fds]
    by_cases here : e' = e
    · subst here
      rw [Function.update_self]
      by_cases replaced : k = fd
      · subst replaced
        simp [eq_comm]
      · rw [AList.lookup_insert_ne replaced]
        simp [replaced]
    · rw [Function.update_of_ne here]
      simp [here]
  have links : ∀ s e', r'.runner s = some e' → r.runner s = some e' ∨ x = .socket s ∧ e' = e := by
    intro s e' isLinked
    rcases runner with ⟨same, -⟩ | ⟨s', rfl, -, changed⟩
    · exact .inl (same ▸ isLinked)
    · by_cases own : s = s'
      · subst own
        rw [changed, Function.update_self] at isLinked
        exact .inr ⟨rfl, (Option.some.inj isLinked).symm⟩
      · rw [changed, Function.update_of_ne own] at isLinked
        exact .inl isLinked
  refine ⟨?_, ?_, ?_, ?_⟩
  · intro s e' isLinked
    rw [numEpollers]
    rcases links s e' isLinked with before | ⟨rfl, rfl⟩
    · exact timed.known s e' before
    · exact ⟨tables.allocated inUse, early⟩
  · intro s e' uses isLive isLinked
    rw [live] at isLive
    refine (lookup _ _ _).mpr ?_
    rcases links s e' isLinked with before | ⟨rfl, rfl⟩
    · by_cases here : e' = e ∧ d.fd (.socket s) = fd
      · -- the same descriptor belongs to the same socket
        have holder : d.fdManager (d.fd (.socket s)) = some (.socket s) :=
          (tables.sound.holder_of_handle (.socket s)).resolve_left uses
        rw [here.2, held] at holder
        exact .inl ⟨here, (Option.some.inj holder).symm⟩
      · exact .inr ⟨here, timed.follows s e' uses isLive before⟩
    · exact .inl ⟨⟨rfl, remembered⟩, rfl⟩
  · intro strict s e' k uses after
    rcases (lookup _ _ _).mp after with ⟨⟨rfl, -⟩, own⟩ | ⟨-, before⟩
    · rcases runner with ⟨-, stranger⟩ | ⟨s', self, -, changed⟩
      · exact (stranger strict s own.symm).elim
      · obtain rfl : s' = s := EntryPtr.socket.inj (self.symm.trans own.symm)
        rw [changed, Function.update_self]
    · have wasLinked := timed.linked strict s e' k uses before
      rcases runner with ⟨same, -⟩ | ⟨s', -, free, changed⟩
      · exact same ▸ wasLinked
      · rw [changed, Function.update_of_ne, wasLinked]
        rintro rfl
        rw [free] at wasLinked
        cases wasLinked
  · intro strict s e' uses isLinked
    rw [live]
    rcases links s e' isLinked with before | ⟨-, rfl⟩
    · exact timed.alive strict s e' uses before
    · exact born

/-- New entries have no link yet. -/
theorem kept (timed : Timed exclusive d r) (keyed : Linked d r) (tables : d.Tables) (tables' : d'.Tables)
    (grows : Grows d d') (ages : Ages d d') (kept : Registry.Kept d r r') : Timed exclusive d' r' := by
  have wasLinked : ∀ s e, r'.runner s = some e → r.runner s = some e := by
    intro s e isLinked
    rcases kept.runner s with same | ⟨none, -⟩
    · exact same ▸ isLinked
    · rw [none] at isLinked
      cases isLinked
  have inUse : ∀ s, d.Allocated (.socket s) → d'.fd (.socket s) ≠ -1 →
      d.fd (.socket s) ≠ -1 ∧ d'.fd (.socket s) = d.fd (.socket s) := by
    intro s allocated uses
    have used : d.fd (.socket s) ≠ -1 := fun released => uses (ages.released _ allocated released)
    have holder := (tables.sound.holder_of_handle (.socket s)).resolve_left used
    exact ⟨used, tables'.sound.handle_of_holder _ _ (grows.held _ _ holder)⟩
  refine ⟨?_, ?_, ?_, ?_⟩
  · intro s e isLinked
    rw [kept.numEpollers]
    obtain ⟨allocated, early⟩ := timed.known s e (wasLinked s e isLinked)
    exact ⟨ages.allocated _ allocated, early⟩
  · intro s e uses isLive isLinked
    have before := wasLinked s e isLinked
    obtain ⟨used, same⟩ := inUse s (timed.known s e before).1 uses
    rw [kept.fds, same]
    exact timed.follows s e used (kept.live ▸ isLive) before
  · intro strict s e k uses found
    rw [kept.fds] at found
    have used := (inUse s (keyed.key e k _ found).2.1 uses).1
    have before := timed.linked strict s e k used found
    rcases kept.runner s with same | ⟨-, released⟩
    · exact same.trans before
    · exact (used released).elim
  · intro strict s e uses isLinked
    have before := wasLinked s e isLinked
    rw [kept.live]
    exact timed.alive strict s e (inUse s (timed.known s e before).1 uses).1 before

end Timed

namespace World

variable {exclusive : Prop} {w w' : World} {e : EpollerId} {fd : Fd} {entry : EntryPtr}

theorem timed_delInner {result : CallResult × World} (timed : Timed exclusive w.directory w.registry)
    (keyed : Linked w.directory w.registry) (deleted : w.delInner e fd = .ok result) :
    Timed exclusive result.2.directory result.2.registry := by
  rw [directory_delInner deleted]
  rcases delInner_cases deleted with ⟨-, rfl⟩ | ⟨x, found, stale, rfl⟩ | ⟨x, udp, count, found, fresh, -, -, rfl⟩
  · exact timed
  · dsimp only
    rw [registry_eraseFd]
    exact timed.erase keyed found rfl rfl rfl (fun _ _ => rfl) fun _ _ current => (stale current).elim
  · dsimp only
    rw [registry_deregister]
    refine timed.erase keyed found rfl rfl rfl ?_ ?_
    · intro s other
      have stranger : x ≠ .socket s := other.resolve_right (not_not.mpr fresh)
      cases x with
      | stream t => rfl
      | socket s' => exact Function.update_of_ne (fun same => stranger (congrArg _ same.symm)) ..
    · rintro s rfl -
      exact Function.update_self ..

theorem timed_notifyClosed {epollers : List EpollerId} (timed : Timed exclusive w.directory w.registry)
    (keyed : Linked w.directory w.registry) (notified : w.notifyClosed entry epollers = .ok w') :
    Timed exclusive w'.directory w'.registry := by
  induction epollers generalizing w with
  | nil =>
    cases notified
    exact timed
  | cons e rest ih =>
    obtain ⟨result, deleted, continued⟩ := bind_eq_ok notified
    exact ih (timed_delInner timed keyed deleted) (linked_delInner keyed deleted) continued

theorem timed_clearWaitingsByClose (timed : Timed exclusive w.directory w.registry)
    (keyed : Linked w.directory w.registry) (cleared : w.clearWaitingsByClose entry = .ok w') :
    Timed exclusive w'.directory w'.registry := by
  unfold clearWaitingsByClose at cleared
  dsimp only at cleared
  split_ifs at cleared
  · cases cleared
    exact timed
  · refine timed_notifyClosed ?_ ?_ cleared
    · rw [directory_forget, registry_setEvent]
      have told : Step (fun _ => True) w.directory (w.directory.tell entry) := .tell _ _ trivial
      exact timed.of_released (.step told) (fun _ => .inl rfl) rfl rfl rfl rfl
    · rw [directory_forget, registry_setEvent]
      exact keyed.tell entry

/-- What the part of `AddInner` behind the lookup does to registrations and links. -/
theorem register_links (w : World) (e : EpollerId) (fd : Fd) (entry : EntryPtr) (events : PollMask) (data : Nat)
    (full : Bool) :
    (w.register e fd entry events data full).2.registry = w.registry ∨
      ∃ r, (w.register e fd entry events data full).2.registry = r ∧
        r.fds = Function.update w.registry.fds e ((w.registry.fds e).insert fd entry) ∧ r.live = w.registry.live ∧
        r.numEpollers = w.registry.numEpollers ∧
        ((r.runner = w.registry.runner ∧
            ∀ s, entry = .socket s → w.registry.runner s ≠ none ∨ w.nativeUdpFd entry = none) ∨
          ∃ s, entry = .socket s ∧ w.registry.runner s = none ∧
            r.runner = Function.update w.registry.runner s (some e)) := by
  rcases w.register_stages e fd entry events data full with
    ⟨-, before, refused, same⟩ | ⟨inserted, -, changed, staged⟩
  · rw [refused]
    exact .inl same
  right
  refine ⟨_, rfl, ?_⟩
  rw [staged]
  cases set : w.nativeUdpFd entry with
  | none =>
    rw [registry_stopWait, changed]
    exact ⟨rfl, rfl, rfl, .inl ⟨rfl, fun _ _ => .inr rfl⟩⟩
  | some udp =>
    dsimp only
    cases entry with
    | stream t =>
      obtain ⟨udps, interest, listened, -⟩ := inserted.listenUdp_frame e udp full
      rw [listened, changed]
      exact ⟨rfl, rfl, rfl, .inl ⟨rfl, nofun⟩⟩
    | socket s =>
      dsimp only
      have runner : inserted.registry.runner s = w.registry.runner s := by rw [changed]
      cases links : inserted.link s e with
      | none =>
        dsimp only
        rw [registry_stopWait, changed]
        refine ⟨rfl, rfl, rfl, .inl ⟨rfl, ?_⟩⟩
        rintro _ ⟨⟩
        left
        rw [← runner]
        rintro free
        rw [link, show (inserted.sockets s).runner = none from free] at links
        cases links
      | some linked =>
        obtain ⟨udps, interest, listened, -⟩ := linked.listenUdp_frame e udp full
        dsimp only
        rw [listened, registry_link links, changed]
        refine ⟨rfl, rfl, rfl, .inr ⟨s, rfl, ?_, rfl⟩⟩
        rw [← runner]
        cases free : inserted.registry.runner s with
        | none => rfl
        | some other =>
          rw [link, show (inserted.sockets s).runner = some other from free] at links
          cases links

/-- The socket that an `Add` would register anew. -/
def addsSocket (w : World) : Action → Option SocketId
  | .epollAdd e fd _ _ _ =>
    match w.fdManager fd with
    | some (.socket s) =>
      if (w.epollers e).live ∧ (w.epollers e).fds.lookup fd ≠ some (.socket s) then some s else none
    | _ => none
  | _ => none

/-- The sockets in use that are registered in an epoller which the action destroys. -/
def strandedSockets (w : World) : Action → List SocketId
  | .closeEpoller e => (w.epollers e).fds.entries.filterMap fun registration =>
    match registration.2 with
    | .socket s => if (w.sockets s).fd ≠ -1 then some s else none
    | .stream _ => none
  | _ => []

/-- A socket is added when it has its UDP socket and is linked to no epoller, and no epoller is destroyed while
sockets are registered in it. -/
def KeepsLinks (w : World) (action : Action) : Prop :=
  (∀ s ∈ w.addsSocket action, (w.sockets s).runner = none ∧ (w.sockets s).udpSocket ≠ none) ∧
    w.strandedSockets action = []

instance (w : World) (action : Action) : Decidable (w.KeepsLinks action) :=
  inferInstanceAs (Decidable (_ ∧ _))

theorem timed_addInner (timed : Timed exclusive w.directory w.registry) (keyed : Linked w.directory w.registry)
    (tables : w.directory.Tables) (born : (w.epollers e).live = true) (events : PollMask) (data : Nat) (full : Bool)
    (keeps : exclusive → w.KeepsLinks (.epollAdd e fd events data full)) :
    Timed exclusive (w.addInner e fd events data full).2.directory (w.addInner e fd events data full).2.registry := by
  rw [directory_addInner]
  have vacated : ∀ before, Vacates e fd w before → before.directory = w.directory ∧
      Linked w.directory before.registry ∧ Timed exclusive w.directory before.registry ∧
      (before.epollers e).live = true ∧ before.registry.runner = w.registry.runner ∧
      ∀ s, w.fdManager fd = some (.socket s) → (w.epollers e).fds.lookup fd ≠ some (.socket s) := by
    intro before vacates
    cases vacates with
    | unregistered found =>
      exact ⟨rfl, keyed, timed, born, rfl, fun s _ registered => by rw [found] at registered; cases registered⟩
    | stale old found moved =>
      refine ⟨directory_modEpoller_kept rfl, ?_, ?_, by simpa [eraseFd, modEpoller] using born, ?_, ?_⟩
      all_goals try rw [registry_eraseFd]
      · refine keyed.erase found ?_ rfl keyed.nodup keyed.positive rfl rfl
        exact fun e' y waiting => ⟨waiting, fun gone => moved gone.2.2⟩
      · exact timed.erase keyed found rfl rfl rfl (fun _ _ => rfl) fun _ _ here => (moved here).elim
      · intro s held registered
        obtain rfl : old = .socket s := Option.some.inj (found.symm.trans registered)
        exact moved (tables.sound.handle_of_holder fd _ held)
  rcases w.addInner_outcome e fd events data full with
    ⟨-, added⟩ | ⟨before, vacates, ⟨-, added⟩ | ⟨entry, held, -, added⟩⟩ <;> rw [added]
  · exact timed
  · exact (vacated before vacates).2.2.1
  · obtain ⟨directory, keyedBefore, timedBefore, bornBefore, runner, absent⟩ := vacated before vacates
    rcases before.register_links e fd entry events data full with same | ⟨r, changed, fds, live, epollers, links⟩
    · rw [same]
      exact timedBefore
    · rw [changed]
      refine timedBefore.insert keyedBefore tables held bornBefore fds live epollers (links.imp_left ?_)
      rintro ⟨same, refused⟩
      refine ⟨same, ?_⟩
      -- the `Add` of a free socket with a UDP socket is not refused
      rintro strict s rfl
      have adds : w.addsSocket (.epollAdd e fd events data full) = some s := by
        simp only [addsSocket]
        rw [held]
        exact if_pos ⟨born, absent s held⟩
      obtain ⟨free, bound⟩ := (keeps strict).1 s adds
      have native : before.nativeUdpFd = w.nativeUdpFd := congrArg Directory.udp directory
      rcases refused s rfl with busy | unbound
      · rw [runner] at busy
        exact busy free
      · rw [native] at unbound
        exact bound unbound

theorem timed_createEpoll (timed : Timed exclusive w.directory w.registry) (keyed : Linked w.directory w.registry) :
    Timed exclusive w.createEpoll.directory w.createEpoll.registry := by
  have fds : ∀ e, w.createEpoll.registry.fds e = w.registry.fds e := by
    intro e
    by_cases same : e = w.numEpollers
    · subst same
      rw [(keyed.unborn w.numEpollers le_rfl).1]
      simp [registry, createEpoll]
    · simp [registry, createEpoll, same]
  have live : ∀ s e, w.registry.runner s = some e → w.createEpoll.registry.live e = w.registry.live e := by
    intro s e isLinked
    have older : e ≠ w.numEpollers := (timed.known s e isLinked).2.ne
    simp [registry, createEpoll, older]
  refine ⟨?_, ?_, ?_, ?_⟩
  · intro s e isLinked
    obtain ⟨allocated, early⟩ := timed.known s e isLinked
    exact ⟨allocated, Nat.lt_succ_of_lt early⟩
  · intro s e uses isLive isLinked
    rw [live s e isLinked] at isLive
    rw [fds]
    exact timed.follows s e uses isLive isLinked
  · intro strict s e k uses found
    rw [fds] at found
    exact timed.linked strict s e k uses found
  · intro strict s e uses isLinked
    rw [live s e isLinked]
    exact timed.alive strict s e uses isLinked

theorem timed_closeEpoller (timed : Timed exclusive w.directory w.registry) (idle : (w.epollers e).dispatch = none)
    (keeps : exclusive → w.KeepsLinks (.closeEpoller e)) :
    Timed exclusive (w.closeEpoller e).directory (w.closeEpoller e).registry := by
  obtain ⟨waitings, changed, -, -, -⟩ := w.registry_closeEpoller e
  rw [directory_closeEpoller idle, changed]
  refine ⟨?_, ?_, ?_, ?_⟩
  · intro s e' isLinked
    obtain ⟨allocated, early⟩ := timed.known s e' isLinked
    exact ⟨allocated, early⟩
  · intro s e' uses isLive isLinked
    dsimp only at isLive ⊢
    by_cases same : e' = e
    · subst same
      simp at isLive
    · rw [Function.update_of_ne same] at isLive ⊢
      exact timed.follows s e' uses isLive isLinked
  · intro strict s e' k uses found
    dsimp only at found
    by_cases same : e' = e
    · subst same
      simp at found
    · rw [Function.update_of_ne same] at found
      exact timed.linked strict s e' k uses found
  · intro strict s e' uses isLinked
    have isLive := timed.alive strict s e' uses isLinked
    dsimp only
    by_cases same : e' = e
    · subst same
      -- the socket would still be registered here
      have registered := timed.follows s e' uses isLive isLinked
      have stranded : s ∈ w.strandedSockets (.closeEpoller e') := by
        refine List.mem_filterMap.mpr ⟨⟨_, .socket s⟩, AList.mem_lookup_iff.mp registered, ?_⟩
        exact if_pos uses
      rw [(keeps strict).2] at stranded
      cases stranded
    · rw [Function.update_of_ne same]
      exact isLive

/-- A step of a close that touches neither registrations nor links. -/
theorem timed_of_step (timed : Timed exclusive w.directory w.registry)
    (step : Step (fun _ => True) w.directory w'.directory) (registry : w'.registry = w.registry)
    (fds : ∀ s, w'.directory.fd (.socket s) = w.directory.fd (.socket s) ∨ w'.directory.fd (.socket s) = -1) :
    Timed exclusive w'.directory w'.registry := by
  rw [registry]
  exact timed.of_released (.step step) fds rfl rfl rfl rfl

theorem timed_announce (timed : Timed exclusive w.directory w.registry) (s : SocketId) (errorCode : Int)
    (fromRemote : Bool) :
    Timed exclusive (w.announce s errorCode fromRemote).directory (w.announce s errorCode fromRemote).registry := by
  have changed := w.directory_announce s errorCode fromRemote
  refine timed_of_step timed ?_ (w.registry_announce s errorCode fromRemote) fun x => .inl ?_
  · rw [changed]
    exact .disconnect _ s
  · rw [changed]

theorem timed_releaseFd (timed : Timed exclusive w.directory w.registry)
    (closed : ∀ s, entry = .socket s → w.Closed s) :
    Timed exclusive (w.releaseFd entry).directory (w.releaseFd entry).registry := by
  have changed : (w.releaseFd entry).directory = w.directory.release entry := w.directory_releaseFd entry
  refine timed_of_step timed ?_ (w.registry_releaseFd entry) fun x => ?_
  · rw [changed]
    exact .release _ _ trivial closed
  · rw [changed]
    exact Tables.fd_release _ _ _

theorem closable_timed (exclusive : Prop) :
    Closable (fun _ => True) (fun _ => True) fun w =>
      Linked w.directory w.registry ∧ Timed exclusive w.directory w.registry where
  queued _ _ _ _ _ _ := trivial
  mark w s holds aimed isOpen := by
    have changed := w.mark_directory s
    refine ⟨closable_linked.mark w s holds.1 aimed isOpen, ?_⟩
    refine timed_of_step holds.2 ?_ (w.registry_mark s) fun x => .inl ?_
    · rw [changed]
      exact .mark _ s trivial isOpen
    · rw [changed]
      rfl
  announce w s errorCode fromRemote holds client closed :=
    ⟨closable_linked.announce w s errorCode fromRemote holds.1 client closed,
      timed_announce holds.2 s errorCode fromRemote⟩
  releaseServer w s holds aimed closed connected server := by
    refine ⟨closable_linked.releaseServer w s holds.1 aimed closed connected server, ?_⟩
    refine timed_releaseFd (timed_announce holds.2 s quicConnectionCancelled false) ?_
    rintro _ ⟨⟩
    exact ((w.kept_announce s quicConnectionCancelled false).closed_iff s).mpr closed
  clear w s holds _ _ _ := yields_of_ok fun _ cleared =>
    ⟨linked_clearWaitingsByClose holds.1 cleared, timed_clearWaitingsByClose holds.2 holds.1 cleared⟩
  release w s holds aimed closed told := by
    refine ⟨closable_linked.release w s holds.1 aimed closed told, timed_releaseFd holds.2 ?_⟩
    rintro _ ⟨⟩
    exact closed
  pop w s holds aimed := by
    have changed := w.popAccept_directory s
    refine ⟨closable_linked.pop w s holds.1 aimed, ?_⟩
    refine timed_of_step holds.2 ?_ (w.registry_popAccept s) fun x => .inl ?_
    · rw [changed]
      exact .dequeue _ s
    · rw [changed]
      rfl

theorem quicCloseStream_timed (timed : Timed exclusive w.directory w.registry)
    (keyed : Linked w.directory w.registry) (stream : Fd) :
    Yields (fun _ => True) (fun result => Timed exclusive result.2.directory result.2.registry)
      (w.quicCloseStream stream) := by
  unfold quicCloseStream
  refine withStream_yields timed fun t found => ?_
  obtain ⟨reset, directory, registry, closes⟩ := closeStreamEntry_eq t w
  rw [closes]
  cases cleared : reset.clearWaitingsByClose (.stream t) with
  | error fault => trivial
  | ok after =>
    have told : Timed exclusive after.directory after.registry := by
      refine timed_clearWaitingsByClose ?_ ?_ cleared
      · rw [directory, registry]
        exact timed
      · rw [directory, registry]
        exact keyed
    exact timed_releaseFd told nofun

theorem perform_timed (timed : Timed exclusive w.directory w.registry) (keyed : Linked w.directory w.registry)
    (tables : w.directory.Tables) (settled : w.Settled) {action : Action} (admitted : w.admits action = true)
    (keeps : exclusive → w.KeepsLinks action) :
    Yields (fun _ => True) (fun result => Timed exclusive result.2.directory result.2.registry) (w.perform action) := by
  by_cases closes : action.Closes
  · cases action with
    | closeSocket sock =>
      exact (quicCloseSocket_yields (closable_timed exclusive) sock w ⟨keyed, timed⟩ (fun _ _ => trivial) settled).imp
        fun _ closed => closed.1.2
    | closeStream stream => exact quicCloseStream_timed timed keyed stream
    | connectionClosed s errorCode fromRemote =>
      exact (connectionClosed_yields (closable_timed exclusive) s errorCode fromRemote w
        ⟨linked_announce keyed s errorCode fromRemote, timed_announce timed s errorCode fromRemote⟩
        (fun _ => trivial) settled).bind fun _ closed => closed.1.2
    | _ => exact closes.elim
  by_cases registers : action.Registers
  · cases action with
    | createEpoll => exact timed_createEpoll timed keyed
    | closeEpoller e =>
      refine withEpoller_yields timed (timed_closeEpoller timed ?_ keeps)
      simpa [admits] using admitted
    | epollAdd e fd events data full =>
      simp only [perform, withEpoller]
      by_cases born : (w.epollers e).live = true
      · rw [if_pos born]
        exact timed_addInner timed keyed tables born events data full keeps
      · rw [if_neg born]
        exact timed
    | epollDel e fd =>
      exact withEpoller_yields timed (yields_of_ok fun _ deleted => timed_delInner timed keyed deleted)
    | _ => exact registers.elim
  · refine yields_of_ok fun result performed => ?_
    obtain ⟨steps, tablesAfter, kept⟩ := perform_keeps_registry tables settled admitted closes registers performed
    exact timed.kept keyed tables tablesAfter (.steps tables steps) (.steps steps) kept

theorem timed_start (exclusive : Prop) : Timed exclusive ({} : World).directory ({} : World).registry :=
  ⟨nofun, nofun, nofun, nofun⟩

/-- Every step keeps the links. -/
theorem step_timed {action : Action} (reached : system.Reachable {} w) (admitted : w.admits action = true)
    (keeps : exclusive → w.KeepsLinks action) (stepped : w.step action = .ok w')
    (timed : Timed exclusive w.directory w.registry) : Timed exclusive w'.directory w'.registry := by
  obtain ⟨keyed, queued, settled⟩ := reachable_linked reached
  obtain ⟨result, performed⟩ := step_eq_ok stepped
  exact (perform_timed timed keyed queued.toTables settled admitted keeps).of_ok performed

theorem reachable_timed (reachable : system.Reachable {} w) : Timed False w.directory w.registry := by
  refine (reachable.invariant (P := fun w => system.Reachable {} w ∧ Timed False w.directory w.registry)
    ⟨.refl _, timed_start False⟩ ?_).2
  rintro before action after ⟨reached, timed⟩ admitted stepped
  exact ⟨reached.move admitted stepped, step_timed reached admitted nofun stepped timed⟩

theorem reachable_exclusive (run : (system.restrict KeepsLinks).Reachable {} w) :
    Timed True w.directory w.registry := by
  refine (run.invariant (P := fun w => system.Reachable {} w ∧ Timed True w.directory w.registry)
    ⟨.refl _, timed_start True⟩ ?_).2
  rintro before action after ⟨reached, timed⟩ ⟨admitted, keeps⟩ stepped
  exact ⟨reached.move admitted stepped, step_timed reached admitted (fun _ => keeps) stepped timed⟩

end World

end PosixQuic
