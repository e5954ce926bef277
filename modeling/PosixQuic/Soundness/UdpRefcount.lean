import PosixQuic.Machine.RefCount
import PosixQuic.Soundness.Registration
import PosixQuic.Soundness.RegistryFrame
import PosixQuic.Soundness.Roles

/-! # Reference counts of UDP sockets

An epoller counts for every UDP socket the registrations that use it, and keeps the kernel's interest
in the UDP socket while the count is positive. `AddInner` adds a reference, and `DelInner` takes it
back whether the application calls it or the close of an entry does. The counts are exact as long as
every entry is deregistered before it loses its descriptor.
-/

namespace PosixQuic

open Machine

namespace Directory

variable {d d' d'' : Directory}

/-- Entries in use keep their descriptors, their UDP sockets and their close flags. -/
structure Grows (d d' : Directory) : Prop where
  held : ∀ fd entry, d.fdManager fd = some entry → d'.fdManager fd = some entry
  udp : ∀ fd entry udp, d.fdManager fd = some entry → d.udp entry = some udp → d'.udp entry = some udp
  closeTrigger : ∀ fd entry, d.fdManager fd = some entry → d'.closeTrigger entry = d.closeTrigger entry

theorem Grows.refl (d : Directory) : Grows d d := ⟨fun _ _ => id, fun _ _ _ _ => id, fun _ _ _ => rfl⟩

theorem Grows.trans (first : Grows d d') (second : Grows d' d'') : Grows d d'' where
  held fd entry found := second.held fd entry (first.held fd entry found)
  udp fd entry udp found set := second.udp fd entry udp (first.held fd entry found) (first.udp fd entry udp found set)
  closeTrigger fd entry found :=
    (second.closeTrigger fd entry (first.held fd entry found)).trans (first.closeTrigger fd entry found)

/-- An entry in use is not a new one. -/
theorem Tables.held_ne_new (tables : d.Tables) {fd : Fd} {entry : EntryPtr} (found : d.fdManager fd = some entry) :
    fd ≠ d.fdFactory.alloc.1 ∧ entry ≠ .socket d.numSockets ∧ entry ≠ .stream d.numStreams := by
  have remembered : d.fd entry = fd := tables.sound.handle_of_holder fd entry found
  have positive : 1 ≤ fd := (tables.sound.pos_of_held found).1
  refine ⟨?_, ?_, ?_⟩
  · rintro rfl
    rw [alloc_fst] at found
    have free : d.fdManager d.handles.next = none := tables.sound.next_not_held
    rw [free] at found
    cases found
  · rintro rfl
    rw [← remembered, tables.freshSocket _ le_rfl] at positive
    exact absurd positive (by decide)
  · rintro rfl
    rw [← remembered, tables.freshStream _ le_rfl] at positive
    exact absurd positive (by decide)

theorem Grows.createSocket (tables : d.Tables) (perspective : Perspective) (id : QuicConnectionId) :
    Grows d (d.createSocket perspective id) := by
  refine ⟨?_, ?_, ?_⟩
  · intro fd entry found
    exact (Function.update_of_ne (tables.held_ne_new found).1 ..).trans found
  · intro fd entry udp found set
    exact (Function.update_of_ne (tables.held_ne_new found).2.1 ..).trans set
  · intro fd entry found
    exact Function.update_of_ne (tables.held_ne_new found).2.1 ..

theorem Grows.createStream (tables : d.Tables) (s : SocketId) : Grows d (d.createStream s) := by
  refine ⟨?_, ?_, ?_⟩
  · intro fd entry found
    exact (Function.update_of_ne (tables.held_ne_new found).1 ..).trans found
  · intro fd entry udp found set
    exact (Function.update_of_ne (tables.held_ne_new found).2.2 ..).trans set
  · intro fd entry found
    exact Function.update_of_ne (tables.held_ne_new found).2.2 ..

/-- Giving a UDP socket to an entry that had none. -/
theorem Grows.route {s : SocketId} {udp : UdpSocket} {socketState : QuicSocketState} {owner : Bool}
    (unset : d.udp (.socket s) = none) : Grows d (d.route s udp socketState owner) := by
  refine ⟨fun _ _ => id, ?_, fun _ _ _ => rfl⟩
  intro fd entry u found set
  refine (Function.update_of_ne ?_ ..).trans set
  rintro rfl
  rw [unset] at set
  cases set

theorem Grows.step (tables : d.Tables) (step : Step (fun _ => False) d d') : Grows d d' := by
  have same : Grows d d := .refl d
  cases step with
  | createSocket id => exact .createSocket tables .isClient id
  | createStream s => exact .createStream tables s
  | setUdpSocket s sock udp found state unset unbound => exact .route unset
  | syn e udp cached owner ownerUdp id dispatching missing owns set =>
    have dispatches : (d.setDispatch e (some (udp, some owner))).Tables := tables.of_eq rfl rfl rfl
    have created : Grows d ((d.setDispatch e (some (udp, some owner))).createSocket .isServer id) := by
      obtain ⟨held, udps, flags⟩ := Grows.createSocket dispatches .isServer id
      exact ⟨held, udps, flags⟩
    refine created.trans (.route ?_)
    exact Function.update_self ..
  | setState s socketState _ => exact ⟨same.held, same.udp, same.closeTrigger⟩
  | enqueue s child udp _ _ _ => exact ⟨same.held, same.udp, same.closeTrigger⟩
  | dequeue s => exact ⟨same.held, same.udp, same.closeTrigger⟩
  | mark s never _ => exact never.elim
  | disconnect s => exact ⟨same.held, same.udp, same.closeTrigger⟩
  | release entry never _ => exact never.elim
  | tell entry never => exact never.elim
  | setDispatch e udp => exact ⟨same.held, same.udp, same.closeTrigger⟩

theorem Grows.steps (tables : d.Tables) (steps : Steps (fun _ => False) d d') : Grows d d' := by
  have both : d'.Tables ∧ Grows d d' := by
    refine steps.invariant (P := fun x => x.Tables ∧ Grows d x) ?_ ⟨tables, .refl d⟩
    rintro x y ⟨tablesX, grows⟩ step
    exact ⟨tablesX.step step, grows.trans (.step tablesX step)⟩
  exact both.2

end Directory

/-- The counts of the epoller are exact. While an entry is being closed it is `pending`: its waiters are
forgotten already, its registration is not. -/
structure Counted (e : EpollerId) (pending : EntryPtr → Prop) (d : Directory) (r : Registry) : Prop where
  held : ∀ fd entry, (r.fds e).lookup fd = some entry → d.fdManager fd = some entry
  registered : ∀ entry, e ∈ r.waitings entry → ∃ fd, (r.fds e).lookup fd = some entry
  waits : ∀ fd entry, (r.fds e).lookup fd = some entry → e ∈ r.waitings entry ∨ pending entry
  native : ∀ fd entry, (r.fds e).lookup fd = some entry → ∃ udp, d.udp entry = some udp
  exactCounts : ExactCounts (r.fds e) d.udp (r.udps e)
  interest : ∀ udp, r.interest e udp = true ↔ r.udps e udp ≠ none
  told : ∀ entry, d.closeTrigger entry = true → e ∉ r.waitings entry
  unborn : r.numEpollers ≤ e → r.live e = false ∧ r.fds e = ∅

namespace Counted

open Directory

variable {e : EpollerId} {pending : EntryPtr → Prop} {d d' : Directory} {r r' : Registry} {fd : Fd} {entry : EntryPtr}
  {udp : UdpSocket} {count : Int}

/-- An entry is registered under the descriptor that it remembers. -/
theorem fd_eq (counted : Counted e pending d r) (tables : d.Tables) (found : (r.fds e).lookup fd = some entry) :
    d.fd entry = fd :=
  tables.sound.handle_of_holder fd entry (counted.held fd entry found)

theorem unused_count (counted : Counted e pending d r) (tables : d.Tables) (unused : d.Unused udp) :
    r.udps e udp = none := by
  rw [counted.exactCounts.eq_none_iff]
  by_contra used
  obtain ⟨fd, entry, found, set⟩ := users_pos_iff.mp (Nat.pos_of_ne_zero used)
  refine unused entry ?_ set
  rw [counted.fd_eq tables found]
  exact le_trans Int.one_nonneg (tables.sound.pos_of_held (counted.held fd entry found)).1

/-- Everything that lets the entries in use be keeps the counts exact. -/
theorem kept (counted : Counted e pending d r) (tables : d.Tables) (grows : Grows d d')
    (kept : Registry.Kept d r r') : Counted e pending d' r' where
  held fd entry found := by
    rw [kept.fds] at found
    exact grows.held fd entry (counted.held fd entry found)
  registered entry waiting := by
    rw [kept.fds]
    rcases kept.waitings entry with same | ⟨nobody, -⟩
    · exact counted.registered entry (same ▸ waiting)
    · rw [nobody] at waiting
      cases waiting
  waits fd entry found := by
    rw [kept.fds] at found
    rcases kept.waitings entry with same | ⟨-, unused⟩
    · rw [same]
      exact counted.waits fd entry found
    · have positive := (tables.sound.pos_of_held (counted.held fd entry found)).1
      rw [← counted.fd_eq tables found, unused] at positive
      exact absurd positive (by decide)
  native fd entry found := by
    rw [kept.fds] at found
    obtain ⟨udp, set⟩ := counted.native fd entry found
    exact ⟨udp, grows.udp fd entry udp (counted.held fd entry found) set⟩
  exactCounts := by
    rw [kept.fds, kept.udps]
    refine counted.exactCounts.congr ?_
    intro fd entry found
    obtain ⟨udp, set⟩ := counted.native fd entry found
    rw [set]
    exact grows.udp fd entry udp (counted.held fd entry found) set
  interest udp := by
    rw [kept.udps]
    rcases kept.interest e udp with same | ⟨dropped, unused⟩
    · rw [same]
      exact counted.interest udp
    · rw [dropped, counted.unused_count tables unused]
      simp
  told entry closed waiting := by
    rcases kept.waitings entry with same | ⟨nobody, -⟩
    · rw [same] at waiting
      obtain ⟨fd, found⟩ := counted.registered entry waiting
      rw [grows.closeTrigger fd entry (counted.held fd entry found)] at closed
      exact counted.told entry closed waiting
    · rw [nobody] at waiting
      cases waiting
  unborn beyond := by
    rw [kept.live, kept.fds]
    exact counted.unborn (kept.numEpollers ▸ beyond)

/-- An operation that leaves the epoller and its waiters alone. -/
theorem of_same (counted : Counted e pending d r) (fds : r'.fds e = r.fds e) (udps : r'.udps e = r.udps e)
    (interest : r'.interest e = r.interest e) (live : r'.live e = r.live e)
    (numEpollers : r.numEpollers ≤ r'.numEpollers)
    (waitings : ∀ entry, e ∈ r'.waitings entry ↔ e ∈ r.waitings entry) : Counted e pending d r' := by
  refine ⟨?_, ?_, ?_, ?_, ?_, ?_, ?_, ?_⟩
  · rw [fds]
    exact counted.held
  · intro entry waiting
    rw [fds]
    exact counted.registered entry ((waitings entry).mp waiting)
  · intro fd entry found
    rw [fds] at found
    rw [waitings]
    exact counted.waits fd entry found
  · rw [fds]
    exact counted.native
  · rw [fds, udps]
    exact counted.exactCounts
  · rw [interest, udps]
    exact counted.interest
  · intro entry closed waiting
    exact counted.told entry closed ((waitings entry).mp waiting)
  · rw [live, fds]
    exact fun beyond => counted.unborn (numEpollers.trans beyond)

/-- An operation on another epoller. -/
theorem elsewhere (counted : Counted e pending d r) {other : EpollerId} (different : e ≠ other)
    (elsewhere : Registry.Elsewhere other r r') : Counted e pending d r' :=
  counted.of_same (elsewhere.fds e different) (elsewhere.udps e different) (elsewhere.interest e different)
    (elsewhere.live e different) elsewhere.numEpollers.ge fun entry => elsewhere.waitings e entry different

theorem mem_waitings_deregister {x : EntryPtr} :
    e ∈ (r.deregister e fd entry udp count).waitings x ↔ x ≠ entry ∧ e ∈ r.waitings x := by
  by_cases same : x = entry
  · subst same
    simp [Registry.deregister]
  · simp [Registry.deregister, same]

theorem lookup_deregister {k : Fd} {x : EntryPtr} :
    ((r.deregister e fd entry udp count).fds e).lookup k = some x ↔ k ≠ fd ∧ (r.fds e).lookup k = some x := by
  simp only [Registry.deregister, Function.update_self]
  by_cases same : k = fd
  · subst same
    simp [AList.lookup_erase]
  · simp [AList.lookup_erase_ne same, same]

/-- Taking a registration back. -/
theorem deregister (counted : Counted e pending d r) (tables : d.Tables) (found : (r.fds e).lookup fd = some entry)
    (set : d.udp entry = some udp) (counts : r.udps e udp = some count) :
    Counted e (fun x => pending x ∧ x ≠ entry) d (r.deregister e fd entry udp count) := by
  obtain ⟨users, positive⟩ := counted.exactCounts.counted found set
  have total : count = Machine.users (r.fds e) d.udp udp := Option.some.inj (counts.symm.trans users)
  refine ⟨?_, ?_, ?_, ?_, ?_, ?_, ?_, ?_⟩
  · intro k x lookup
    exact counted.held k x (lookup_deregister.mp lookup).2
  · intro x waiting
    obtain ⟨other, before⟩ := mem_waitings_deregister.mp waiting
    obtain ⟨k, lookup⟩ := counted.registered x before
    refine ⟨k, lookup_deregister.mpr ⟨?_, lookup⟩⟩
    rintro rfl
    rw [found] at lookup
    exact other (Option.some.inj lookup).symm
  · intro k x lookup
    obtain ⟨elsewhere, before⟩ := lookup_deregister.mp lookup
    have other : x ≠ entry := by
      rintro rfl
      exact elsewhere ((counted.fd_eq tables before).symm.trans (counted.fd_eq tables found))
    rcases counted.waits k x before with waiting | waiting
    · exact .inl (mem_waitings_deregister.mpr ⟨other, waiting⟩)
    · exact .inr ⟨waiting, other⟩
  · intro k x lookup
    exact counted.native k x (lookup_deregister.mp lookup).2
  · simp only [Registry.deregister, Function.update_self]
    refine counted.exactCounts.erase found set ?_ ?_
    · rw [Function.update_self, ← total]
      by_cases last : Machine.users (r.fds e) d.udp udp = 1
      · rw [if_pos last, if_pos (by omega)]
      · rw [if_neg last, if_neg (by omega)]
    · exact fun other different => Function.update_of_ne different ..
  · intro u
    simp only [Registry.deregister, Function.update_self]
    by_cases same : u = udp
    · subst same
      rw [Function.update_self]
      split_ifs
      · simp
      · rw [counted.interest u, counts]
        simp
    · rw [Function.update_of_ne same]
      split_ifs
      · rw [Function.update_of_ne same]
        exact counted.interest u
      · exact counted.interest u
  · intro x closed waiting
    exact counted.told x closed (mem_waitings_deregister.mp waiting).2
  · intro beyond
    rw [(counted.unborn beyond).2] at found
    cases found

/-- Registering an entry in use that has not been closed. -/
theorem register (counted : Counted e pending d r) (born : r.live e = true) (inUse : d.fdManager fd = some entry)
    (fresh : (r.fds e).lookup fd = none) (isOpen : d.closeTrigger entry = false) (set : d.udp entry = some udp) :
    Counted e pending d (r.register e fd entry udp) := by
  have lookup_iff : ∀ k x, ((r.register e fd entry udp).fds e).lookup k = some x ↔
      k = fd ∧ x = entry ∨ k ≠ fd ∧ (r.fds e).lookup k = some x := by
    intro k x
    simp only [Registry.register, Function.update_self]
    by_cases same : k = fd
    · subst same
      simp [AList.lookup_insert, eq_comm]
    · simp [AList.lookup_insert_ne same, same]
  have waits_iff : ∀ x, e ∈ (r.register e fd entry udp).waitings x ↔ x = entry ∨ e ∈ r.waitings x := by
    intro x
    by_cases same : x = entry
    · subst same
      simp only [Registry.register, Function.update_self]
      split_ifs with waiting <;> simp [waiting]
    · simp [Registry.register, same]
  refine ⟨?_, ?_, ?_, ?_, ?_, ?_, ?_, ?_⟩
  · intro k x lookup
    rcases (lookup_iff k x).mp lookup with ⟨rfl, rfl⟩ | ⟨-, before⟩
    · exact inUse
    · exact counted.held k x before
  · intro x waiting
    rcases (waits_iff x).mp waiting with rfl | before
    · exact ⟨fd, (lookup_iff fd x).mpr (.inl ⟨rfl, rfl⟩)⟩
    · obtain ⟨k, lookup⟩ := counted.registered x before
      refine ⟨k, (lookup_iff k x).mpr (.inr ⟨?_, lookup⟩)⟩
      rintro rfl
      rw [fresh] at lookup
      cases lookup
  · intro k x lookup
    rw [waits_iff]
    rcases (lookup_iff k x).mp lookup with ⟨-, rfl⟩ | ⟨-, before⟩
    · exact .inl (.inl rfl)
    · exact (counted.waits k x before).imp .inr id
  · intro k x lookup
    rcases (lookup_iff k x).mp lookup with ⟨-, rfl⟩ | ⟨-, before⟩
    · exact ⟨udp, set⟩
    · exact counted.native k x before
  · simp only [Registry.register, Function.update_self]
    refine counted.exactCounts.insert fresh set ?_ ?_
    · exact Function.update_self ..
    · exact fun other different => Function.update_of_ne different ..
  · intro u
    simp only [Registry.register, Function.update_self]
    by_cases same : u = udp
    · subst same
      rw [Function.update_self]
      split_ifs with absent
      · simp
      · rw [counted.interest u]
        simp [absent]
    · rw [Function.update_of_ne same]
      split_ifs
      · rw [Function.update_of_ne same]
        exact counted.interest u
      · exact counted.interest u
  · intro x closed waiting
    rcases (waits_iff x).mp waiting with rfl | before
    · rw [isOpen] at closed
      cases closed
    · exact counted.told x closed before
  · intro beyond
    rw [(counted.unborn beyond).1] at born
    cases born

/-- Giving back the descriptor of an entry that is not registered. -/
theorem release (counted : Counted e pending d r) (tables : d.Tables)
    (absent : ∀ fd, (r.fds e).lookup fd ≠ some entry) : Counted e pending (d.release entry) r := by
  unfold Directory.release
  split_ifs with remembers
  swap
  · exact counted
  refine ⟨?_, counted.registered, counted.waits, counted.native, counted.exactCounts, counted.interest,
    counted.told, counted.unborn⟩
  intro fd x lookup
  have before := counted.held fd x lookup
  refine (Function.update_of_ne ?_ ..).trans before
  rintro rfl
  have holder : d.fdManager (d.fd entry) = some entry := tables.sound.holder_eq_of_nonneg remembers
  obtain rfl : entry = x := Option.some.inj (holder.symm.trans before)
  exact absent _ lookup

/-- Who is pending matters for registered entries only. -/
theorem narrow (counted : Counted e pending d r) {pending' : EntryPtr → Prop}
    (still : ∀ fd entry, (r.fds e).lookup fd = some entry → pending entry → pending' entry) :
    Counted e pending' d r :=
  { counted with
    waits := fun fd entry found => (counted.waits fd entry found).imp_right (still fd entry found) }

/-- Telling the waiters of an entry that it is closed: they are forgotten first. -/
theorem tell (counted : Counted e (fun _ => False) d r) (entry : EntryPtr) :
    Counted e (fun x => x = entry ∧ e ∈ r.waitings entry) (d.tell entry)
      { r with waitings := Function.update r.waitings entry [] } := by
  refine ⟨counted.held, ?_, ?_, counted.native, counted.exactCounts, counted.interest, ?_, counted.unborn⟩
  · intro x waiting
    by_cases same : x = entry
    · subst same
      simp at waiting
    · exact counted.registered x (by simpa [same] using waiting)
  · intro fd x found
    have waiting := (counted.waits fd x found).resolve_right id
    by_cases same : x = entry
    · exact .inr ⟨same, same ▸ waiting⟩
    · exact .inl (by simpa [same] using waiting)
  · intro x closed waiting
    by_cases same : x = entry
    · subst same
      simp at waiting
    · refine counted.told x ?_ (by simpa [same] using waiting)
      simpa [Directory.tell, same] using closed

/-- Only the tables, the UDP sockets and the close flags matter. -/
theorem of_eq (counted : Counted e pending d r) (fdManager : d'.fdManager = d.fdManager) (udp : d'.udp = d.udp)
    (closeTrigger : d'.closeTrigger = d.closeTrigger) : Counted e pending d' r := by
  refine ⟨?_, counted.registered, counted.waits, ?_, ?_, counted.interest, ?_, counted.unborn⟩
  · rw [fdManager]
    exact counted.held
  · rw [udp]
    exact counted.native
  · rw [udp]
    exact counted.exactCounts
  · rw [closeTrigger]
    exact counted.told

/-- An epoller without registrations. -/
theorem empty (noFds : r.fds e = ∅) (noUdps : ∀ udp, r.udps e udp = none) (idle : ∀ udp, r.interest e udp = false)
    (nobody : ∀ entry, e ∉ r.waitings entry) (unborn : r.numEpollers ≤ e → r.live e = false) :
    Counted e pending d r := by
  have absent : ∀ fd entry, (r.fds e).lookup fd ≠ some entry := by
    intro fd entry found
    rw [noFds] at found
    cases found
  refine ⟨?_, ?_, ?_, ?_, ?_, ?_, fun entry _ => nobody entry, fun beyond => ⟨unborn beyond, noFds⟩⟩
  · exact fun fd entry found => (absent fd entry found).elim
  · exact fun entry waiting => (nobody entry waiting).elim
  · exact fun fd entry found => (absent fd entry found).elim
  · exact fun fd entry found => (absent fd entry found).elim
  · intro udp
    rw [noUdps, noFds]
    rfl
  · intro udp
    rw [idle, noUdps]
    simp

/-- Nothing waits on an epoller that has not been created. -/
theorem nobody_of_unborn (counted : Counted e pending d r) (beyond : r.numEpollers ≤ e) (entry : EntryPtr) :
    e ∉ r.waitings entry := by
  intro waiting
  obtain ⟨fd, found⟩ := counted.registered entry waiting
  rw [(counted.unborn beyond).2] at found
  cases found

end Counted

end PosixQuic
