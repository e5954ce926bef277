import PosixQuic.Soundness.DescriptorTable

/-! # The routing tables agree with the sockets

`ConnectionManager` is keyed by UDP descriptors and connection ids, `FdManager` by library descriptors,
and all of them are recycled. The invariant relates both to the private members of the sockets: a
connection is routed to exactly the open socket that has this UDP socket and this connection id. Every
elementary step keeps it, so it also holds in the middle of a close.
-/

namespace PosixQuic

open Machine

namespace ConnectionManager

theorem connections_put (m : ConnectionManager) (udp : UdpSocket) (id : QuicConnectionId) (fd : Fd)
    (owner : Bool) (u : UdpSocket) (i : QuicConnectionId) :
    (m.put udp id fd owner).connections u i = if u = udp ∧ i = id then some fd else m.connections u i := by
  by_cases sameUdp : u = udp
  · subst sameUdp
    by_cases sameId : i = id <;> simp [put, sameId]
  · simp [put, sameUdp]

theorem owners_put (m : ConnectionManager) (udp : UdpSocket) (id : QuicConnectionId) (fd : Fd)
    (owner : Bool) (u : UdpSocket) :
    (m.put udp id fd owner).owners u = if owner ∧ u = udp then some fd else m.owners u := by
  cases owner <;> by_cases sameUdp : u = udp <;> simp [put, sameUdp]

theorem connections_delete (m : ConnectionManager) (udp : UdpSocket) (id : QuicConnectionId) (fd : Fd)
    (u : UdpSocket) (i : QuicConnectionId) :
    (m.delete udp id fd).connections u i = if u = udp ∧ i = id then none else m.connections u i := by
  unfold delete
  split
  · next absent => by_cases same : u = udp ∧ i = id <;> simp_all
  · by_cases sameUdp : u = udp
    · subst sameUdp
      by_cases sameId : i = id <;> simp [sameId]
    · simp [sameUdp]

/-- The owner is forgotten together with its own connection only. -/
theorem owners_delete (m : ConnectionManager) {udp : UdpSocket} {id : QuicConnectionId} {fd held : Fd}
    (present : m.connections udp id = some held) (u : UdpSocket) :
    (m.delete udp id fd).owners u = if u = udp ∧ m.owners udp = some fd then none else m.owners u := by
  unfold delete
  rw [present]
  by_cases sameUdp : u = udp <;> by_cases owns : m.owners udp = some fd <;> simp [sameUdp, owns]

end ConnectionManager

namespace Directory

variable {d d' : Directory} {may : EntryPtr → Prop}

/-- The socket is not closed and works on the UDP socket. -/
def Uses (d : Directory) (s : SocketId) (udp : UdpSocket) : Prop :=
  d.socketState s ≠ .closed ∧ d.udp (.socket s) = some udp

/-- What the descriptor tables and the routing tables owe the sockets. -/
structure Routing (d : Directory) : Prop extends Tables d where
  held : ∀ s, d.socketState s ≠ .closed → 0 ≤ d.fd (.socket s)
  blank : ∀ s, d.numSockets ≤ s → d.socketState s = .closed ∧ d.udp (.socket s) = none
  routed : ∀ udp id fd, d.connectionManager.connections udp id = some fd ↔
    ∃ s, d.Uses s udp ∧ d.connectionId s = id ∧ d.fd (.socket s) = fd
  owner : ∀ udp fd, d.connectionManager.owners udp = some fd → ∃ s, d.Uses s udp ∧ d.fd (.socket s) = fd
  cached : ∀ e udp owner, d.dispatch e = some (udp, some owner) → d.udp (.socket owner) = some udp

/-- `d'` has the same sockets on the same routes. -/
structure SameRoutes (d d' : Directory) : Prop where
  connectionManager : d'.connectionManager = d.connectionManager
  numSockets : d'.numSockets = d.numSockets
  closed : ∀ s, d'.socketState s = .closed ↔ d.socketState s = .closed
  udp : ∀ s, d'.udp (.socket s) = d.udp (.socket s)
  connectionId : d'.connectionId = d.connectionId
  fd : ∀ s, d.socketState s ≠ .closed → d'.fd (.socket s) = d.fd (.socket s)

theorem SameRoutes.uses_iff (same : SameRoutes d d') (s : SocketId) (udp : UdpSocket) :
    d'.Uses s udp ↔ d.Uses s udp := by
  rw [Uses, Uses, same.udp, ne_eq, ne_eq, same.closed]

namespace Routing

variable {s : SocketId} {udp : UdpSocket}

theorem fd_eq_iff (routing : d.Routing) {s' : SocketId} (isOpen : d.socketState s ≠ .closed) :
    d.fd (.socket s') = d.fd (.socket s) ↔ s' = s := by
  refine ⟨fun same => ?_, fun same => by rw [same]⟩
  have unique : EntryPtr.socket s = .socket s' :=
    routing.sound.owner_unique (routing.held s isOpen) same.symm
  exact (EntryPtr.socket.inj unique).symm

theorem route_of_uses (routing : d.Routing) (uses : d.Uses s udp) :
    d.connectionManager.connections udp (d.connectionId s) = some (d.fd (.socket s)) :=
  (routing.routed _ _ _).mpr ⟨s, uses, rfl, rfl⟩

/-- No two open sockets have the same UDP socket and the same connection id. -/
theorem uses_unique (routing : d.Routing) {s' : SocketId} (uses : d.Uses s udp) (uses' : d.Uses s' udp)
    (same : d.connectionId s' = d.connectionId s) : s' = s := by
  have route := routing.route_of_uses uses
  have route' := routing.route_of_uses uses'
  rw [same, route] at route'
  exact (routing.fd_eq_iff uses.1).mp (Option.some.inj route').symm

/-- A step that leaves the sockets on their routes keeps the invariant. -/
theorem of_same (routing : d.Routing) (tables : d'.Tables) (same : SameRoutes d d')
    (cached : ∀ e udp owner, d'.dispatch e = some (udp, some owner) → d.udp (.socket owner) = some udp) :
    d'.Routing where
  toTables := tables
  held s isOpen := by
    have before : d.socketState s ≠ .closed := fun closed => isOpen ((same.closed s).mpr closed)
    rw [same.fd s before]
    exact routing.held s before
  blank s beyond := by
    rw [same.closed, same.udp]
    exact routing.blank s (same.numSockets ▸ beyond)
  routed udp id fd := by
    rw [same.connectionManager, routing.routed]
    refine exists_congr fun s => ?_
    rw [same.uses_iff, same.connectionId]
    refine and_congr_right fun uses => ?_
    rw [same.fd s uses.1]
  owner udp fd owns := by
    rw [same.connectionManager] at owns
    obtain ⟨s, uses, at_fd⟩ := routing.owner udp fd owns
    exact ⟨s, (same.uses_iff s udp).mpr uses, by rw [same.fd s uses.1, at_fd]⟩
  cached e udp owner dispatching := by
    rw [same.udp]
    exact cached e udp owner dispatching

/-- A new socket has no UDP socket yet, so nothing is routed to it. -/
theorem uses_createSocket (routing : d.Routing) (perspective : Perspective) (id : QuicConnectionId)
    (s : SocketId) (udp : UdpSocket) : (d.createSocket perspective id).Uses s udp ↔ d.Uses s udp := by
  by_cases same : s = d.numSockets
  · subst same
    simp [Uses, Directory.createSocket, (routing.blank _ le_rfl).2]
  · have other := EntryPtr.socket_ne same
    simp [Uses, Directory.createSocket, Function.update_of_ne same, Function.update_of_ne other]

theorem lt_of_uses (routing : d.Routing) (uses : d.Uses s udp) : s < d.numSockets := by
  by_contra beyond
  exact uses.1 (routing.blank s (not_lt.mp beyond)).1

theorem createSocket (routing : d.Routing) (perspective : Perspective) (id : QuicConnectionId) :
    (d.createSocket perspective id).Routing := by
  have tables := routing.toTables.createSocket perspective id
  have uses := routing.uses_createSocket perspective id
  -- an open socket is an older one, whose members the new one does not touch
  have older : ∀ s udp, d.Uses s udp → (d.createSocket perspective id).connectionId s = d.connectionId s ∧
      (d.createSocket perspective id).fd (.socket s) = d.fd (.socket s) := by
    intro s udp used
    have same := ne_of_lt (routing.lt_of_uses used)
    have other := EntryPtr.socket_ne same
    exact ⟨Function.update_of_ne same .., Function.update_of_ne other ..⟩
  refine ⟨tables, ?_, ?_, ?_, ?_, ?_⟩
  · intro s isOpen
    by_cases same : s = d.numSockets
    · subst same
      have := routing.sound.next_pos
      rw [← alloc_fst] at this
      simp only [Directory.createSocket, Function.update_self]
      exact le_trans Int.one_nonneg this
    · have other := EntryPtr.socket_ne same
      simp only [Directory.createSocket, Function.update_of_ne same, Function.update_of_ne other] at isOpen ⊢
      exact routing.held s isOpen
  · intro s beyond
    change d.numSockets + 1 ≤ s at beyond
    have same : s ≠ d.numSockets := by omega
    have other := EntryPtr.socket_ne same
    simp only [Directory.createSocket, Function.update_of_ne same, Function.update_of_ne other]
    exact routing.blank s (by omega)
  · intro udp key fd
    change d.connectionManager.connections udp key = some fd ↔ _
    rw [routing.routed]
    refine exists_congr fun s => ?_
    rw [uses]
    refine and_congr_right fun used => ?_
    rw [(older s udp used).1, (older s udp used).2]
  · intro udp fd owns
    obtain ⟨s, used, at_fd⟩ := routing.owner udp fd owns
    exact ⟨s, (uses s udp).mpr used, by rw [(older s udp used).2, at_fd]⟩
  · intro e udp owner dispatching
    have set := routing.cached e udp owner dispatching
    have other : EntryPtr.socket owner ≠ .socket d.numSockets := by
      rintro ⟨⟩
      rw [(routing.blank _ le_rfl).2] at set
      cases set
    simpa only [Directory.createSocket, Function.update_of_ne other] using set

/-- After routing `s`, it uses the UDP socket, and everybody else is as before. -/
theorem uses_route (d : Directory) (s : SocketId) (udp : UdpSocket) {socketState : QuicSocketState} (owner : Bool)
    (stays : socketState ≠ .closed) (x : SocketId) (u : UdpSocket) :
    (d.route s udp socketState owner).Uses x u ↔ x = s ∧ u = udp ∨ x ≠ s ∧ d.Uses x u := by
  by_cases same : x = s
  · subst same
    simp [Uses, Directory.route, stays, eq_comm]
  · simp [Uses, Directory.route, same]

/-- Routing a socket that had no route, under a key that nobody uses. -/
theorem route (routing : d.Routing) {socketState : QuicSocketState} (owner : Bool) (stays : socketState ≠ .closed)
    (isOpen : d.socketState s ≠ .closed) (unset : d.udp (.socket s) = none)
    (unused : ∀ x, d.Uses x udp → d.connectionId x ≠ d.connectionId s) : (d.route s udp socketState owner).Routing := by
  have uses := uses_route d s udp owner stays
  refine ⟨routing.toTables.of_eq rfl rfl rfl, ?_, ?_, ?_, ?_, ?_⟩
  · intro x isOpenAfter
    change 0 ≤ d.fd (.socket x)
    by_cases same : x = s
    · exact same ▸ routing.held s isOpen
    · exact routing.held x (by simpa [Directory.route, same] using isOpenAfter)
  · intro x beyond
    have same : x ≠ s := by
      rintro rfl
      exact isOpen (routing.blank x beyond).1
    simpa [Directory.route, same] using routing.blank x beyond
  · intro u id fd
    change (d.connectionManager.put ..).connections u id = some fd ↔ _
    rw [ConnectionManager.connections_put]
    split_ifs with key
    · obtain ⟨rfl, rfl⟩ := key
      constructor
      · rintro ⟨⟩
        exact ⟨s, (uses s u).mpr (.inl ⟨rfl, rfl⟩), rfl, rfl⟩
      · rintro ⟨x, usesX, sameId, rfl⟩
        rcases (uses x u).mp usesX with ⟨rfl, -⟩ | ⟨-, before⟩
        · rfl
        · exact (unused x before sameId).elim
    · rw [routing.routed]
      refine exists_congr fun x => ?_
      refine and_congr_left fun names => ?_
      rw [uses]
      constructor
      · intro before
        refine .inr ⟨?_, before⟩
        rintro rfl
        rw [before.2] at unset
        cases unset
      · rintro (⟨rfl, rfl⟩ | ⟨-, before⟩)
        · exact (key ⟨rfl, names.1.symm⟩).elim
        · exact before
  · intro u fd owns
    change (d.connectionManager.put ..).owners u = some fd at owns
    rw [ConnectionManager.owners_put] at owns
    split_ifs at owns with key
    · cases owns
      exact ⟨s, (uses s u).mpr (.inl ⟨rfl, key.2⟩), rfl⟩
    · obtain ⟨x, before, at_fd⟩ := routing.owner u fd owns
      refine ⟨x, (uses x u).mpr (.inr ⟨?_, before⟩), at_fd⟩
      rintro rfl
      rw [before.2] at unset
      cases unset
  · intro e u cachedOwner dispatching
    have set := routing.cached e u cachedOwner dispatching
    have same : cachedOwner ≠ s := by
      rintro rfl
      rw [unset] at set
      cases set
    simpa [Directory.route, same] using set

theorem uses_mark (d : Directory) (s x : SocketId) (u : UdpSocket) :
    (d.mark s).Uses x u ↔ x ≠ s ∧ d.Uses x u := by
  by_cases same : x = s
  · subst same
    simp [Uses, Directory.mark]
  · simp [Uses, Directory.mark, same]

/-- Closing a socket takes its own connection away, and no other one. -/
theorem routed_mark (routing : d.Routing) (isOpen : d.socketState s ≠ .closed) (u : UdpSocket) (id : QuicConnectionId)
    (fd : Fd) :
    (d.mark s).connectionManager.connections u id = some fd ↔
      ∃ x, (d.mark s).Uses x u ∧ d.connectionId x = id ∧ d.fd (.socket x) = fd := by
  simp only [uses_mark]
  simp only [Directory.mark]
  cases set : d.udp (.socket s) with
  | none =>
    rw [routing.routed]
    refine exists_congr fun x => and_congr_left fun _ => ?_
    refine (and_iff_right_of_imp ?_).symm
    rintro used rfl
    rw [used.2] at set
    cases set
  | some udp =>
    have uses : d.Uses s udp := ⟨isOpen, set⟩
    simp only [ConnectionManager.connections_delete]
    split_ifs with key
    · obtain ⟨rfl, rfl⟩ := key
      refine ⟨nofun, ?_⟩
      rintro ⟨x, ⟨other, used⟩, sameId, -⟩
      exact (other (routing.uses_unique uses used sameId)).elim
    · rw [routing.routed]
      refine exists_congr fun x => and_congr_left fun ⟨sameId, _⟩ => ?_
      refine (and_iff_right_of_imp ?_).symm
      rintro used rfl
      rw [used.2] at set
      exact key ⟨Option.some.inj set, sameId.symm⟩

theorem owner_mark (routing : d.Routing) (isOpen : d.socketState s ≠ .closed) (u : UdpSocket) (fd : Fd)
    (owns : (d.mark s).connectionManager.owners u = some fd) : ∃ x, (d.mark s).Uses x u ∧ d.fd (.socket x) = fd := by
  simp only [uses_mark]
  simp only [Directory.mark] at owns
  cases set : d.udp (.socket s) with
  | none =>
    rw [set] at owns
    obtain ⟨x, used, at_fd⟩ := routing.owner u fd owns
    refine ⟨x, ⟨?_, used⟩, at_fd⟩
    rintro rfl
    rw [used.2] at set
    cases set
  | some udp =>
    have uses : d.Uses s udp := ⟨isOpen, set⟩
    simp only [set, ConnectionManager.owners_delete _ (routing.route_of_uses uses)] at owns
    split_ifs at owns with key
    obtain ⟨x, used, at_fd⟩ := routing.owner u fd owns
    refine ⟨x, ⟨?_, used⟩, at_fd⟩
    rintro rfl
    have same : u = udp := Option.some.inj (used.2.symm.trans set)
    subst same
    exact key ⟨rfl, at_fd ▸ owns⟩

theorem mark (routing : d.Routing) {s : SocketId} (isOpen : d.socketState s ≠ .closed) : (d.mark s).Routing where
  toTables := routing.toTables.of_eq rfl rfl rfl
  held x isOpenAfter := by
    have same : x ≠ s := by
      rintro rfl
      simp [Directory.mark] at isOpenAfter
    exact routing.held x (by simpa [Directory.mark, same] using isOpenAfter)
  blank x beyond := by
    have same : x ≠ s := by
      rintro rfl
      exact isOpen (routing.blank x beyond).1
    simpa [Directory.mark, same] using routing.blank x beyond
  routed := routing.routed_mark isOpen
  owner := routing.owner_mark isOpen
  cached := routing.cached

/-- A released entry is no open socket, so the routes stay. -/
theorem sameRoutes_release {entry : EntryPtr} (closed : ∀ s, entry = .socket s → d.socketState s = .closed) :
    SameRoutes d (d.release entry) := by
  unfold Directory.release
  split_ifs with remembers
  · refine ⟨rfl, rfl, fun _ => Iff.rfl, fun _ => rfl, rfl, ?_⟩
    intro s isOpen
    refine Function.update_of_ne ?_ ..
    rintro rfl
    exact isOpen (closed s rfl)
  · exact ⟨rfl, rfl, fun _ => Iff.rfl, fun _ => rfl, rfl, fun _ _ => rfl⟩

/-- The owner that a datagram on the UDP socket finds works on that UDP socket. -/
theorem udp_of_owns (routing : d.Routing) {e : EpollerId} {cached : Option SocketId} {owner : SocketId}
    (dispatching : d.dispatch e = some (udp, cached)) (owns : d.Owns udp cached owner) :
    d.udp (.socket owner) = some udp := by
  rcases owns with rfl | ⟨-, found, valid⟩
  · exact routing.cached e udp owner dispatching
  · cases registered : d.connectionManager.owners udp with
    | none => simp [ConnectionManager.getOwner, registered] at valid
    | some fd =>
      simp only [ConnectionManager.getOwner, registered, Option.getD_some] at found
      obtain ⟨s, uses, at_fd⟩ := routing.owner udp fd registered
      have remembered : d.fd (.socket owner) = fd := routing.sound.handle_of_holder fd _ found
      rw [(routing.fd_eq_iff uses.1).mp (remembered.trans at_fd.symm)]
      exact uses.2

/-- `Wait` keeps the owner that it has found. -/
theorem setDispatch (routing : d.Routing) {e : EpollerId} {cached : Option SocketId} {owner : SocketId}
    (dispatching : d.dispatch e = some (udp, cached)) (owns : d.Owns udp cached owner) :
    (d.setDispatch e (some (udp, some owner))).Routing := by
  refine routing.of_same (routing.toTables.of_eq rfl rfl rfl)
    ⟨rfl, rfl, fun _ => Iff.rfl, fun _ => rfl, rfl, fun _ _ => rfl⟩ ?_
  intro x u other dispatchingAfter
  by_cases here : x = e
  · subst here
    simp only [Directory.setDispatch, Function.update_self, Option.some.injEq, Prod.mk.injEq]
      at dispatchingAfter
    obtain ⟨rfl, rfl⟩ := dispatchingAfter
    exact routing.udp_of_owns dispatching owns
  · exact routing.cached x u other (by simpa [Directory.setDispatch, here] using dispatchingAfter)

/-- `-1` is nobody's descriptor, so the lookup that returns it has found nothing. -/
theorem route_of_get (routing : d.Routing) {id : QuicConnectionId} (missing : d.connectionManager.get udp id = -1) :
    d.connectionManager.connections udp id = none := by
  cases route : d.connectionManager.connections udp id with
  | none => rfl
  | some fd =>
    obtain ⟨s, uses, -, at_fd⟩ := (routing.routed udp id fd).mp route
    have held := routing.held s uses.1
    simp only [ConnectionManager.get, route, Option.getD_some] at missing
    rw [at_fd, missing] at held
    exact absurd held (by decide)

theorem step (routing : d.Routing) (step : Step may d d') : d'.Routing := by
  have tables := routing.toTables.step step
  cases step with
  | createSocket id => exact routing.createSocket .isClient id
  | createStream s =>
    refine routing.of_same tables ⟨rfl, rfl, fun _ => Iff.rfl, ?_, rfl, ?_⟩ routing.cached
    · exact fun x => by simp [Directory.createStream]
    · exact fun x _ => by simp [Directory.createStream]
  | setUdpSocket s sock udp found state unset unbound =>
    refine routing.route true (by decide) (by rw [state]; decide) unset ?_
    intro x uses
    exact (unbound x (routing.lt_of_uses uses) (routing.held x uses.1) uses.2).elim
  | syn e udp cached owner ownerUdp id dispatching missing owns set =>
    have same : ownerUdp = udp := Option.some.inj (set.symm.trans (routing.udp_of_owns dispatching owns))
    subst same
    have dispatches := routing.setDispatch dispatching owns
    refine (dispatches.createSocket .isServer id).route false (by decide) ?_ ?_ ?_
    · simp [Directory.createSocket, Directory.setDispatch]
    · simp [Directory.createSocket, Directory.setDispatch]
    · intro x uses sameId
      have before : d.Uses x ownerUdp := (dispatches.uses_createSocket .isServer id x ownerUdp).mp uses
      have older : x ≠ d.numSockets := ne_of_lt (routing.lt_of_uses before)
      simp only [Directory.createSocket, Directory.setDispatch, Function.update_self,
        Function.update_of_ne older] at sameId
      have route := routing.route_of_uses before
      rw [sameId, routing.route_of_get missing] at route
      cases route
  | setState s socketState advances =>
    obtain ⟨-, isOpen, stays⟩ := advances.started
    refine routing.of_same tables ⟨rfl, rfl, ?_, fun _ => rfl, rfl, fun _ _ => rfl⟩ routing.cached
    intro x
    by_cases same : x = s
    · subst same
      simp [Directory.setState, stays, isOpen]
    · simp [Directory.setState, same]
  | enqueue s child udp _ _ _ =>
    exact routing.of_same tables ⟨rfl, rfl, fun _ => Iff.rfl, fun _ => rfl, rfl, fun _ _ => rfl⟩ routing.cached
  | dequeue s =>
    exact routing.of_same tables ⟨rfl, rfl, fun _ => Iff.rfl, fun _ => rfl, rfl, fun _ _ => rfl⟩ routing.cached
  | mark s _ isOpen => exact routing.mark isOpen
  | disconnect s =>
    exact routing.of_same tables ⟨rfl, rfl, fun _ => Iff.rfl, fun _ => rfl, rfl, fun _ _ => rfl⟩ routing.cached
  | release entry _ closed =>
    refine routing.of_same tables (sameRoutes_release closed) ?_
    unfold Directory.release
    split_ifs <;> exact routing.cached
  | tell entry _ =>
    exact routing.of_same tables ⟨rfl, rfl, fun _ => Iff.rfl, fun _ => rfl, rfl, fun _ _ => rfl⟩ routing.cached
  | setDispatch e udp =>
    refine routing.of_same tables ⟨rfl, rfl, fun _ => Iff.rfl, fun _ => rfl, rfl, fun _ _ => rfl⟩ ?_
    intro x u owner dispatching
    by_cases same : x = e
    · subst same
      cases udp <;> simp [Directory.setDispatch] at dispatching
    · exact routing.cached x u owner (by simpa [Directory.setDispatch, same] using dispatching)

end Routing

end Directory

namespace World

variable {w : World} {s : SocketId} {udp : UdpSocket}

theorem reachable_routing (reachable : system.Reachable {} w) : w.directory.Routing := by
  refine (reachable_directory reachable ?_ fun _ _ => Directory.Routing.step).1
  refine ⟨Directory.Tables.start, ?_, fun _ _ => ⟨rfl, rfl⟩, ?_, nofun, nofun⟩
  · intro s isOpen
    exact (isOpen rfl).elim
  · intro udp id fd
    refine ⟨nofun, ?_⟩
    rintro ⟨s, uses, -⟩
    exact (uses.1 rfl).elim

/-- The socket is open, on this UDP socket, for this connection. -/
def Serves (w : World) (s : SocketId) (udp : UdpSocket) (id : QuicConnectionId) : Prop :=
  (w.sockets s).socketState ≠ .closed ∧ (w.sockets s).udpSocket = some udp ∧ (w.sockets s).connectionId = id

/-- An open socket is held under the descriptor that it remembers. -/
theorem held_iff (routing : w.directory.Routing) {fd : Fd} (isOpen : (w.sockets s).socketState ≠ .closed) :
    w.fdManager fd = some (.socket s) ↔ w.directory.fd (.socket s) = fd := by
  constructor
  · exact routing.sound.handle_of_holder fd _
  · rintro rfl
    exact routing.sound.holder_eq_of_nonneg (routing.held s isOpen)

theorem routes_iff (routing : w.directory.Routing) (udp : UdpSocket) (id : QuicConnectionId) (fd : Fd) :
    w.connectionManager.connections udp id = some fd ↔ ∃ s, w.fdManager fd = some (.socket s) ∧ w.Serves s udp id := by
  refine (routing.routed udp id fd).trans (exists_congr fun s => ?_)
  constructor
  · rintro ⟨uses, sameId, at_fd⟩
    exact ⟨(held_iff routing uses.1).mpr at_fd, uses.1, uses.2, sameId⟩
  · rintro ⟨found, isOpen, set, sameId⟩
    exact ⟨⟨isOpen, set⟩, sameId, (held_iff routing isOpen).mp found⟩

theorem owner_held (routing : w.directory.Routing) {fd : Fd} (owns : w.connectionManager.owners udp = some fd) :
    ∃ s, w.fdManager fd = some (.socket s) ∧ (w.sockets s).socketState ≠ .closed ∧
      (w.sockets s).udpSocket = some udp := by
  obtain ⟨s, uses, at_fd⟩ := routing.owner udp fd owns
  exact ⟨s, (held_iff routing uses.1).mpr at_fd, uses.1, uses.2⟩

theorem serves_unique (routing : w.directory.Routing) {s' : SocketId} {id : QuicConnectionId}
    (serves : w.Serves s udp id) (serves' : w.Serves s' udp id) : s' = s :=
  routing.uses_unique ⟨serves.1, serves.2.1⟩ ⟨serves'.1, serves'.2.1⟩ (serves'.2.2.trans serves.2.2.symm)

/-- `Get` returns the descriptor of a socket, unless it returns `-1`. -/
theorem get_found (routing : w.directory.Routing) {id : QuicConnectionId}
    (known : w.connectionManager.get udp id ≠ -1) :
    ∃ s, w.fdManager (w.connectionManager.get udp id) = some (.socket s) ∧ w.Serves s udp id := by
  cases route : w.connectionManager.connections udp id with
  | none => simp [ConnectionManager.get, route] at known
  | some fd =>
    simp only [ConnectionManager.get, route, Option.getD_some]
    exact (routes_iff routing udp id fd).mp route

theorem getOwner_found (routing : w.directory.Routing) (valid : 0 ≤ w.connectionManager.getOwner udp) :
    ∃ s, w.fdManager (w.connectionManager.getOwner udp) = some (.socket s) := by
  cases registered : w.connectionManager.owners udp with
  | none => simp [ConnectionManager.getOwner, registered] at valid
  | some fd =>
    simp only [ConnectionManager.getOwner, registered, Option.getD_some]
    exact (owner_held routing registered).imp fun _ held => held.1

theorem findOwner_total (routing : w.directory.Routing) (udp : UdpSocket) (cached : Option SocketId) :
    ∃ owner, w.findOwner udp cached = .ok owner := by
  unfold findOwner
  cases cached with
  | some owner => exact ⟨some owner, rfl⟩
  | none =>
    dsimp only
    split_ifs with valid
    · obtain ⟨s, found⟩ := getOwner_found routing valid
      rw [found]
      exact ⟨some s, rfl⟩
    · exact ⟨none, rfl⟩

/-- The owner of a new connection has a UDP socket to share. -/
theorem onSyn_total {owner : SocketId} (native : w.directory.udp (.socket owner) = some udp) :
    ∃ w', w.onSyn s owner = .ok w' := by
  have set : (w.sockets owner).udpSocket = some udp := native
  unfold onSyn
  rw [set]
  exact ⟨_, rfl⟩

/-- `Wait` dispatches every datagram without following a bad pointer. -/
theorem dispatchDatagram_total (routing : w.directory.Routing) {e : EpollerId} {cached : Option SocketId}
    (id : QuicConnectionId) (dispatching : (w.epollers e).dispatch = some (udp, cached)) :
    ∃ w', w.dispatchDatagram e udp cached id = .ok w' := by
  unfold dispatchDatagram
  split_ifs with invalid unknown
  · exact ⟨w, rfl⟩
  · obtain ⟨owner, found⟩ := findOwner_total routing udp cached
    rw [found]
    cases owner with
    | none => exact ⟨w, rfl⟩
    | some owner =>
      have native := routing.udp_of_owns dispatching (findOwner_owns found)
      have older : owner ≠ w.directory.numSockets := by
        rintro rfl
        rw [(routing.blank _ le_rfl).2] at native
        cases native
      change ∃ w', ((w.modEpoller e fun epoller =>
        { epoller with dispatch := some (udp, some owner) }).newQuicSocketEntry .isServer id).2.onSyn
          w.numSockets owner = .ok w'
      apply onSyn_total
      rw [directory_newQuicSocketEntry, directory_modEpoller]
      exact (Function.update_of_ne (EntryPtr.socket_ne older) ..).trans native
  · obtain ⟨s, found, -⟩ := get_found routing unknown
    rw [found]
    exact ⟨w, rfl⟩

theorem datagram_total (routing : w.directory.Routing) (e : EpollerId) (id : QuicConnectionId) :
    ∃ w', w.step (.datagram e id) = .ok w' := by
  simp only [step, perform]
  cases dispatching : (w.epollers e).dispatch with
  | none => exact ⟨w, rfl⟩
  | some event =>
    obtain ⟨udp, cached⟩ := event
    obtain ⟨w', dispatched⟩ := dispatchDatagram_total routing id dispatching
    simp only [dispatched]
    exact ⟨w', rfl⟩

/-- The routing tables hold exactly the open sockets, the entry that `Wait` looks up for a datagram is
always there and always a socket, and it is the only one that can be meant. -/
theorem routing_exact (reachable : system.Reachable {} w) :
    (∀ udp id fd, w.connectionManager.connections udp id = some fd ↔
        ∃ s, w.fdManager fd = some (.socket s) ∧ w.Serves s udp id) ∧
      (∀ udp fd, w.connectionManager.owners udp = some fd →
        ∃ s, w.fdManager fd = some (.socket s) ∧ w.Serves s udp (w.sockets s).connectionId) ∧
      (∀ udp id, w.connectionManager.get udp id ≠ -1 →
        ∃ s, w.fdManager (w.connectionManager.get udp id) = some (.socket s)) ∧
      (∀ udp, 0 ≤ w.connectionManager.getOwner udp →
        ∃ s, w.fdManager (w.connectionManager.getOwner udp) = some (.socket s)) ∧
      (∀ e id, ∃ w', w.step (.datagram e id) = .ok w') ∧
      (∀ s s' udp id, w.Serves s udp id → w.Serves s' udp id → s' = s) := by
  have routing := reachable_routing reachable
  refine ⟨routes_iff routing, ?_, ?_, ?_, datagram_total routing, ?_⟩
  · intro udp fd owns
    obtain ⟨s, found, isOpen, set⟩ := owner_held routing owns
    exact ⟨s, found, isOpen, set, rfl⟩
  · intro udp id known
    exact (get_found routing known).imp fun _ found => found.1
  · intro udp valid
    exact getOwner_found routing valid
  · intro s s' udp id serves serves'
    exact serves_unique routing serves serves'

theorem listenerCloses_routed :
    ∃ w, system.replay? {} listenerCloses = some w ∧ w.connectionManager.get 5 99 = -1 ∧
      (∀ e id, ∃ w', w.step (.datagram e id) = .ok w') := by
  have ends : (system.replay? {} listenerCloses).map (fun w => w.connectionManager.get 5 99) = some (-1) := by
    decide
  obtain ⟨w, executed, unknown⟩ := Option.map_eq_some_iff.mp ends
  exact ⟨w, executed, unknown, (routing_exact (System.reachable_of_replay? executed)).2.2.2.2.1⟩

end World

end PosixQuic
