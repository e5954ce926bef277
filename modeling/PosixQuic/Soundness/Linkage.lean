import PosixQuic.Soundness.UdpRefcount

/-! # How registrations and waiters hang together

Whatever the application does, a registration is stored under the descriptor of its entry or belongs
to an entry that has lost its descriptor, and an epoller among the waiters of an entry has the entry
registered. The other way round fails: a refused `Add` leaves registrations without a waiter.
-/

namespace PosixQuic

open Machine

namespace Directory

variable {d d' : Directory} {may : EntryPtr → Prop}

/-- The entry has been created. -/
def Allocated (d : Directory) : EntryPtr → Prop
  | .socket s => s < d.numSockets
  | .stream t => t < d.numStreams

theorem Tables.allocated (tables : d.Tables) {entry : EntryPtr} (inUse : d.fd entry ≠ -1) : d.Allocated entry := by
  rcases entry with s | t
  · by_contra beyond
    exact inUse (tables.freshSocket s (not_lt.mp beyond))
  · by_contra beyond
    exact inUse (tables.freshStream t (not_lt.mp beyond))

/-- Entries stay created, and one without a descriptor never gets one again. -/
structure Ages (d d' : Directory) : Prop where
  allocated : ∀ entry, d.Allocated entry → d'.Allocated entry
  released : ∀ entry, d.Allocated entry → d.fd entry = -1 → d'.fd entry = -1

theorem Ages.of_eq (numSockets : d'.numSockets = d.numSockets) (numStreams : d'.numStreams = d.numStreams)
    (fd : d'.fd = d.fd) : Ages d d' := by
  refine ⟨?_, fun _ _ => fd ▸ id⟩
  rintro (s | t)
  · exact fun old => lt_of_lt_of_eq old numSockets.symm
  · exact fun old => lt_of_lt_of_eq old numStreams.symm

theorem Ages.trans {d'' : Directory} (first : Ages d d') (second : Ages d' d'') : Ages d d'' where
  allocated entry old := second.allocated entry (first.allocated entry old)
  released entry old gone := second.released entry (first.allocated entry old) (first.released entry old gone)

theorem Ages.createSocket (d : Directory) (perspective : Perspective) (id : QuicConnectionId) :
    Ages d (d.createSocket perspective id) := by
  refine ⟨?_, ?_⟩
  · rintro (s | t)
    · exact fun old => Nat.lt_succ_of_lt old
    · exact fun old => old
  · intro entry old gone
    refine (Function.update_of_ne ?_ ..).trans gone
    rintro rfl
    exact lt_irrefl _ old

theorem Ages.createStream (d : Directory) (s : SocketId) : Ages d (d.createStream s) := by
  refine ⟨?_, ?_⟩
  · rintro (x | t)
    · exact fun old => old
    · exact fun old => Nat.lt_succ_of_lt old
  · intro entry old gone
    refine (Function.update_of_ne ?_ ..).trans gone
    rintro rfl
    exact lt_irrefl _ old

theorem Ages.release (d : Directory) (entry : EntryPtr) : Ages d (d.release entry) := by
  unfold Directory.release
  split_ifs
  · refine ⟨?_, ?_⟩
    · rintro (s | t) <;> exact id
    · intro x _ gone
      by_cases same : x = entry
      · subst same
        exact Function.update_self ..
      · exact (Function.update_of_ne same ..).trans gone
  · exact .of_eq rfl rfl rfl

theorem Ages.step (step : Step may d d') : Ages d d' := by
  cases step with
  | createSocket id => exact .createSocket d .isClient id
  | createStream s => exact .createStream d s
  | setUdpSocket s sock udp _ _ _ _ => exact .of_eq rfl rfl rfl
  | syn e udp cached owner ownerUdp key _ _ _ _ =>
    have dispatches : Ages d (d.setDispatch e (some (udp, some owner))) := .of_eq rfl rfl rfl
    exact (dispatches.trans (.createSocket _ .isServer key)).trans (.of_eq rfl rfl rfl)
  | setState s socketState _ => exact .of_eq rfl rfl rfl
  | enqueue s child udp _ _ _ => exact .of_eq rfl rfl rfl
  | dequeue s => exact .of_eq rfl rfl rfl
  | mark s _ _ => exact .of_eq rfl rfl rfl
  | disconnect s => exact .of_eq rfl rfl rfl
  | release entry _ _ => exact .release d entry
  | tell entry _ => exact .of_eq rfl rfl rfl
  | setDispatch e udp => exact .of_eq rfl rfl rfl

theorem Ages.steps (steps : Steps may d d') : Ages d d' :=
  steps.invariant (P := Ages d) (fun _ _ before step => before.trans (.step step)) (.of_eq rfl rfl rfl)

/-- A connection waits to be accepted on the UDP socket it came in by. -/
structure Queued (d : Directory) : Prop extends Roles d where
  sameUdp : ∀ s, ∀ child ∈ d.acceptSockets s, d.udp (.socket child) = d.udp (.socket s)

namespace Queued

theorem of_eq (queued : d.Queued) (roles : d'.Roles) (udp : ∀ s, d'.udp (.socket s) = d.udp (.socket s))
    (acceptSockets : ∀ s, ∀ child ∈ d'.acceptSockets s, child ∈ d.acceptSockets s) : d'.Queued where
  toRoles := roles
  sameUdp s child member := by
    rw [udp, udp]
    exact queued.sameUdp s child (acceptSockets s child member)

/-- Somebody in a queue has a UDP socket, and so has the owner of the queue. -/
theorem udp_ne_none (queued : d.Queued) {s child : SocketId} (member : child ∈ d.acceptSockets s) :
    d.udp (.socket child) ≠ none ∧ d.udp (.socket s) ≠ none := by
  obtain ⟨-, udp, set⟩ := queued.served child (queued.queuedServer s child member)
  rw [← queued.sameUdp s child member, set]
  simp

theorem createSocket (queued : d.Queued) {perspective : Perspective} {id : QuicConnectionId} {s child : SocketId}
    (member : child ∈ (d.createSocket perspective id).acceptSockets s) :
    child ≠ d.numSockets ∧ s ≠ d.numSockets ∧ child ∈ d.acceptSockets s := by
  have old : s ≠ d.numSockets := by
    rintro rfl
    simp [Directory.createSocket] at member
  have before : child ∈ d.acceptSockets s := by simpa [Directory.createSocket, old] using member
  exact ⟨(queued.server_lt (queued.queuedServer s child before)).ne, old, before⟩

theorem step (queued : d.Queued) (step : Step may d d') : d'.Queued := by
  have roles := queued.toRoles.step step
  cases step with
  | createSocket id =>
    refine ⟨roles, ?_⟩
    intro s child member
    obtain ⟨oldChild, old, before⟩ := queued.createSocket member
    simpa [Directory.createSocket, old, oldChild] using queued.sameUdp s child before
  | createStream s => exact queued.of_eq roles (fun x => by simp [Directory.createStream]) fun _ _ => id
  | setUdpSocket s sock udp _ _ unset _ =>
    refine ⟨roles, ?_⟩
    intro x child member
    obtain ⟨setChild, setOwner⟩ := queued.udp_ne_none member
    have otherChild : child ≠ s := by
      rintro rfl
      exact setChild unset
    have other : x ≠ s := by
      rintro rfl
      exact setOwner unset
    simpa [Directory.route, other, otherChild] using queued.sameUdp x child member
  | syn e udp cached owner ownerUdp key _ _ _ _ =>
    refine ⟨roles, ?_⟩
    intro s child member
    have created : child ∈ (d.createSocket .isServer key).acceptSockets s := member
    obtain ⟨oldChild, old, before⟩ := queued.createSocket created
    simpa [Directory.route, Directory.createSocket, Directory.setDispatch, old, oldChild]
      using queued.sameUdp s child before
  | setState s socketState _ => exact queued.of_eq roles (fun _ => rfl) fun _ _ => id
  | enqueue s child udp found _ set =>
    refine ⟨roles, ?_⟩
    intro x other member
    rcases mem_update_append.mp member with before | ⟨rfl, rfl⟩
    · exact queued.sameUdp x other before
    · exact set.trans (queued.udp_of_listens (queued.listens_of_getOwner found)).symm
  | dequeue s =>
    exact queued.of_eq roles (fun _ => rfl) fun x child member => (update_tail_sublist ..).subset member
  | mark s _ _ => exact queued.of_eq roles (fun _ => rfl) fun _ _ => id
  | disconnect s => exact queued.of_eq roles (fun _ => rfl) fun _ _ => id
  | release entry _ _ =>
    refine queued.of_eq roles ?_ ?_
    all_goals
      unfold Directory.release
      split_ifs
    · exact fun _ => rfl
    · exact fun _ => rfl
    · exact fun _ _ => id
    · exact fun _ _ => id
  | tell entry _ => exact queued.of_eq roles (fun _ => rfl) fun _ _ => id
  | setDispatch e udp => exact queued.of_eq roles (fun _ => rfl) fun _ _ => id

end Queued

end Directory

/-- What holds of registrations and waiters in every run. Inside a close, a socket that is marked as closed
may have lost its descriptor before its waiters are told. -/
structure Linked (d : Directory) (r : Registry) : Prop where
  key : ∀ e fd x, (r.fds e).lookup fd = some x → 1 ≤ fd ∧ d.Allocated x ∧ (d.fd x = fd ∨ d.fd x = -1)
  waits : ∀ e x, e ∈ r.waitings x →
    (r.fds e).lookup (d.fd x) = some x ∨ ∃ s, x = .socket s ∧ d.socketState s = .closed
  native : ∀ e x, e ∈ r.waitings x → d.udp x ≠ none
  nodup : ∀ x, (r.waitings x).Nodup
  positive : ∀ e udp count, r.udps e udp = some count → 1 ≤ count
  told : ∀ x, d.closeTrigger x = true → r.waitings x = []
  unborn : ∀ e, r.numEpollers ≤ e → r.fds e = ∅ ∧ r.live e = false

namespace Linked

open Directory

variable {d d' : Directory} {r r' : Registry} {e : EpollerId} {x : EntryPtr}

/-- Changes of the directory that do not concern registrations. -/
theorem of_eq (linked : Linked d r) (ages : Ages d d') (fd : d'.fd = d.fd) (udp : d'.udp = d.udp)
    (closeTrigger : d'.closeTrigger = d.closeTrigger)
    (closed : ∀ s, d.socketState s = .closed → d'.socketState s = .closed) : Linked d' r := by
  refine ⟨?_, ?_, ?_, linked.nodup, linked.positive, ?_, linked.unborn⟩
  · intro e k x found
    obtain ⟨positive, allocated, remembered⟩ := linked.key e k x found
    exact ⟨positive, ages.allocated x allocated, fd ▸ remembered⟩
  · intro e x waiting
    rw [fd]
    rcases linked.waits e x waiting with found | ⟨s, same, already⟩
    · exact .inl found
    · exact .inr ⟨s, same, closed s already⟩
  · rw [udp]
    exact linked.native
  · rw [closeTrigger]
    exact linked.told

/-- An entry that loses its descriptor has no waiters left, or is a closed socket. -/
theorem release (linked : Linked d r) (unwatched : r.waitings x = [] ∨ ∃ s, x = .socket s ∧ d.socketState s = .closed) :
    Linked (d.release x) r := by
  have ages := Ages.release d x
  unfold Directory.release at ages ⊢
  split_ifs at ages ⊢
  · refine ⟨?_, ?_, linked.native, linked.nodup, linked.positive, linked.told, linked.unborn⟩
    · intro e k y found
      obtain ⟨positive, allocated, remembered⟩ := linked.key e k y found
      refine ⟨positive, ages.allocated y allocated, ?_⟩
      by_cases same : y = x
      · subst same
        exact .inr (Function.update_self ..)
      · exact remembered.imp (Function.update_of_ne same ..).trans (Function.update_of_ne same ..).trans
    · intro e y waiting
      by_cases same : y = x
      · subst same
        rcases unwatched with nobody | closed
        · rw [nobody] at waiting
          cases waiting
        · exact .inr closed
      · dsimp only
        rw [Function.update_of_ne same]
        exact linked.waits e y waiting
  · exact linked

/-- The waiters of an entry are forgotten before they are told. -/
theorem tell (linked : Linked d r) (x : EntryPtr) :
    Linked (d.tell x) { r with waitings := Function.update r.waitings x [] } := by
  have kept : ∀ e y, e ∈ Function.update r.waitings x [] y → y ≠ x ∧ e ∈ r.waitings y := by
    intro e y waiting
    by_cases same : y = x
    · subst same
      simp at waiting
    · exact ⟨same, by simpa [same] using waiting⟩
  refine ⟨?_, ?_, ?_, ?_, linked.positive, ?_, linked.unborn⟩
  · intro e k y found
    obtain ⟨positive, allocated, remembered⟩ := linked.key e k y found
    refine ⟨positive, ?_, remembered⟩
    cases y <;> exact allocated
  · exact fun e y waiting => linked.waits e y (kept e y waiting).2
  · exact fun e y waiting => linked.native e y (kept e y waiting).2
  · intro y
    by_cases same : y = x
    · subst same
      simp
    · simpa [same] using linked.nodup y
  · intro y closed
    by_cases same : y = x
    · subst same
      simp
    · have before : d.closeTrigger y = true := by simpa [Directory.tell, same] using closed
      simpa [same] using linked.told y before

/-- Taking a registration out that no waiter relies on. -/
theorem erase (linked : Linked d r) {fd : Fd} (found : (r.fds e).lookup fd = some x)
    (waitings : ∀ e' y, e' ∈ r'.waitings y → e' ∈ r.waitings y ∧ ¬ (e' = e ∧ y = x ∧ d.fd x = fd))
    (fds : r'.fds = Function.update r.fds e ((r.fds e).erase fd)) (nodup : ∀ y, (r'.waitings y).Nodup)
    (positive : ∀ e udp count, r'.udps e udp = some count → 1 ≤ count) (live : r'.live = r.live)
    (numEpollers : r'.numEpollers = r.numEpollers) : Linked d r' := by
  have lookup : ∀ e' k y, (r'.fds e').lookup k = some y → (r.fds e').lookup k = some y := by
    intro e' k y after
    rw [fds] at after
    by_cases same : e' = e
    · subst same
      rw [Function.update_self] at after
      by_cases erased : k = fd
      · subst erased
        simp [AList.lookup_erase] at after
      · rwa [AList.lookup_erase_ne erased] at after
    · rwa [Function.update_of_ne same] at after
  refine ⟨fun e' k y after => linked.key e' k y (lookup e' k y after), ?_, ?_, nodup, positive, ?_, ?_⟩
  · intro e' y waiting
    obtain ⟨before, other⟩ := waitings e' y waiting
    refine (linked.waits e' y before).imp_left fun registered => ?_
    rw [fds]
    by_cases same : e' = e
    · subst same
      rw [Function.update_self, AList.lookup_erase_ne]
      · exact registered
      · intro erased
        rw [erased, found] at registered
        obtain rfl : x = y := Option.some.inj registered
        exact other ⟨rfl, rfl, erased⟩
    · rw [Function.update_of_ne same]
      exact registered
  · exact fun e' y waiting => linked.native e' y (waitings e' y waiting).1
  · intro y closed
    refine List.eq_nil_iff_forall_not_mem.mpr fun e' waiting => ?_
    have before := (waitings e' y waiting).1
    rw [linked.told y closed] at before
    cases before
  · intro e' beyond
    rw [numEpollers] at beyond
    obtain ⟨empty, dead⟩ := linked.unborn e' beyond
    refine ⟨?_, live ▸ dead⟩
    have other : e' ≠ e := by
      rintro rfl
      rw [empty] at found
      cases found
    rw [fds, Function.update_of_ne other]
    exact empty

/-- What an `Add` of `x` under `fd` has changed, whether it was refused in the end or not. -/
structure Adds (d : Directory) (e : EpollerId) (fd : Fd) (x : EntryPtr) (r r' : Registry) : Prop where
  fds : r'.fds = Function.update r.fds e ((r.fds e).insert fd x)
  waitings : ∀ e' y, e' ∈ r'.waitings y → e' ∈ r.waitings y ∨
    e' = e ∧ y = x ∧ d.udp x ≠ none ∧ d.closeTrigger x = false
  nodup : (∀ y, (r.waitings y).Nodup) → ∀ y, (r'.waitings y).Nodup
  positive : (∀ e udp count, r.udps e udp = some count → 1 ≤ count) →
    ∀ e udp count, r'.udps e udp = some count → 1 ≤ count
  live : r'.live = r.live
  numEpollers : r'.numEpollers = r.numEpollers

theorem add (linked : Linked d r) (tables : d.Tables) {fd : Fd} (held : d.fdManager fd = some x)
    (fresh : (r.fds e).lookup fd = none) (born : r.live e = true) (adds : Adds d e fd x r r') : Linked d r' := by
  have remembered : d.fd x = fd := tables.sound.handle_of_holder fd x held
  have positive : 1 ≤ fd := (tables.sound.pos_of_held held).1
  have allocated : d.Allocated x := by
    refine tables.allocated ?_
    rw [remembered]
    rintro rfl
    exact absurd positive (by decide)
  have lookup_iff : ∀ e' k y, (r'.fds e').lookup k = some y ↔
      (e' = e ∧ k = fd ∧ y = x) ∨ (r.fds e').lookup k = some y := by
    intro e' k y
    rw [adds.fds]
    by_cases same : e' = e
    · subst same
      rw [Function.update_self]
      by_cases here : k = fd
      · subst here
        simp [AList.lookup_insert, fresh, eq_comm]
      · simp [AList.lookup_insert_ne here, here]
    · simp [same]
  refine ⟨?_, ?_, ?_, adds.nodup linked.nodup, adds.positive linked.positive, ?_, ?_⟩
  · intro e' k y found
    rcases (lookup_iff e' k y).mp found with ⟨-, rfl, rfl⟩ | before
    · exact ⟨positive, allocated, .inl remembered⟩
    · exact linked.key e' k y before
  · intro e' y waiting
    rcases adds.waitings e' y waiting with before | ⟨rfl, rfl, -, -⟩
    · exact (linked.waits e' y before).imp_left fun found => (lookup_iff e' _ y).mpr (.inr found)
    · exact .inl ((lookup_iff e' _ y).mpr (.inl ⟨rfl, remembered, rfl⟩))
  · intro e' y waiting
    rcases adds.waitings e' y waiting with before | ⟨rfl, rfl, set, -⟩
    · exact linked.native e' y before
    · exact set
  · intro y closed
    refine List.eq_nil_iff_forall_not_mem.mpr fun e' waiting => ?_
    rcases adds.waitings e' y waiting with before | ⟨rfl, rfl, -, isOpen⟩
    · rw [linked.told y closed] at before
      cases before
    · rw [isOpen] at closed
      cases closed
  · intro e' beyond
    rw [adds.numEpollers] at beyond
    obtain ⟨empty, dead⟩ := linked.unborn e' beyond
    have other : e' ≠ e := by
      rintro rfl
      rw [born] at dead
      cases dead
    rw [adds.fds, adds.live, Function.update_of_ne other]
    exact ⟨empty, dead⟩

/-- Between two actions the waiters of an entry have it registered. -/
theorem registered (linked : Linked d r)
    (settled : ∀ s, d.socketState s = .closed → d.closeTrigger (.socket s) = true) (waiting : e ∈ r.waitings x) :
    (r.fds e).lookup (d.fd x) = some x := by
  refine (linked.waits e x waiting).resolve_right ?_
  rintro ⟨s, rfl, closed⟩
  rw [linked.told _ (settled s closed)] at waiting
  cases waiting

/-- Everything that lets the entries in use be. -/
theorem kept (linked : Linked d r) (tables : d.Tables) (tables' : d'.Tables) (grows : Grows d d') (ages : Ages d d')
    (settled : ∀ s, d.socketState s = .closed → d.closeTrigger (.socket s) = true) (kept : Registry.Kept d r r') :
    Linked d' r' := by
  have held : ∀ x, 1 ≤ d.fd x → d.fdManager (d.fd x) = some x := fun x positive =>
    tables.sound.holder_eq_of_nonneg (le_trans Int.one_nonneg positive)
  have same : ∀ x, 1 ≤ d.fd x → d'.fd x = d.fd x := fun x positive =>
    tables'.sound.handle_of_holder _ x (grows.held _ x (held x positive))
  have waitings : ∀ e x, e ∈ r'.waitings x → e ∈ r.waitings x ∧ 1 ≤ d.fd x := by
    intro e x waiting
    rcases kept.waitings x with unchanged | ⟨nobody, -⟩
    · rw [unchanged] at waiting
      exact ⟨waiting, (linked.key e _ x (linked.registered settled waiting)).1⟩
    · rw [nobody] at waiting
      cases waiting
  refine ⟨?_, ?_, ?_, ?_, ?_, ?_, ?_⟩
  · intro e k x found
    rw [kept.fds] at found
    obtain ⟨positive, allocated, remembered⟩ := linked.key e k x found
    refine ⟨positive, ages.allocated x allocated, ?_⟩
    rcases remembered with rfl | gone
    · exact .inl (same x positive)
    · exact .inr (ages.released x allocated gone)
  · intro e x waiting
    obtain ⟨before, positive⟩ := waitings e x waiting
    rw [kept.fds, same x positive]
    exact .inl (linked.registered settled before)
  · intro e x waiting
    obtain ⟨before, positive⟩ := waitings e x waiting
    obtain ⟨udp, set⟩ := Option.ne_none_iff_exists'.mp (linked.native e x before)
    rw [grows.udp _ x udp (held x positive) set]
    simp
  · intro x
    rcases kept.waitings x with unchanged | ⟨nobody, -⟩
    · rw [unchanged]
      exact linked.nodup x
    · rw [nobody]
      exact List.nodup_nil
  · rw [kept.udps]
    exact linked.positive
  · intro x closed
    refine List.eq_nil_iff_forall_not_mem.mpr fun e waiting => ?_
    obtain ⟨before, positive⟩ := waitings e x waiting
    rw [grows.closeTrigger _ x (held x positive)] at closed
    rw [linked.told x closed] at before
    cases before
  · rw [kept.numEpollers, kept.fds, kept.live]
    exact linked.unborn

end Linked

end PosixQuic
