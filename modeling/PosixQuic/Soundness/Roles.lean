import PosixQuic.Machine.Queues
import PosixQuic.Soundness.Routing

/-! # Client side and server side entries

Only client side entries own a UDP socket and have an accept queue, and only server side entries are
queued there. A server side entry is created with a UDP socket and gets connected or closed, nothing
else. This holds in every state, whatever is closed in which order.
-/

namespace PosixQuic

open Machine

namespace Directory

variable {d d' : Directory} {may : EntryPtr → Prop}

/-- The states of a server side entry. -/
def ServerState (socketState : QuicSocketState) : Prop :=
  socketState = .shared ∨ socketState = .connected ∨ socketState = .closed

/-- A server side entry only ever gets connected. -/
theorem Advances.of_server {socketState next : QuicSocketState} (advances : Advances socketState next)
    (served : ServerState socketState) : next = .connected := by
  cases advances <;> simp_all [ServerState]

/-- The socket is the registered owner of the UDP socket, and open. -/
def Listens (d : Directory) (s : SocketId) (udp : UdpSocket) : Prop :=
  d.connectionManager.owners udp = some (d.fd (.socket s)) ∧ d.socketState s ≠ .closed

theorem SameRoutes.listens_iff (same : SameRoutes d d') (s : SocketId) (udp : UdpSocket) :
    d'.Listens s udp ↔ d.Listens s udp := by
  rw [Listens, Listens, same.connectionManager, ne_eq, ne_eq, same.closed]
  refine and_congr_left fun isOpen => ?_
  rw [same.fd s isOpen]

namespace Routing

variable {s : SocketId} {udp : UdpSocket}

/-- The owner of a UDP socket works on it. -/
theorem udp_of_listens (routing : d.Routing) (listens : d.Listens s udp) : d.udp (.socket s) = some udp := by
  obtain ⟨x, uses, at_fd⟩ := routing.owner udp _ listens.1
  have same : x = s := (routing.fd_eq_iff listens.2).mp at_fd
  exact same ▸ uses.2

theorem listens_lt (routing : d.Routing) (listens : d.Listens s udp) : s < d.numSockets := by
  by_contra beyond
  exact listens.2 (routing.blank s (not_lt.mp beyond)).1

/-- The socket under the descriptor that `GetOwner` returns is the owner. -/
theorem listens_of_getOwner (routing : d.Routing)
    (found : d.fdManager (d.connectionManager.getOwner udp) = some (.socket s)) : d.Listens s udp := by
  have remembered : d.fd (.socket s) = d.connectionManager.getOwner udp :=
    routing.sound.handle_of_holder _ _ found
  cases registered : d.connectionManager.owners udp with
  | none =>
    have held := (routing.sound.pos_of_held found).1
    simp [ConnectionManager.getOwner, registered] at held
  | some fd =>
    simp only [ConnectionManager.getOwner, registered, Option.getD_some] at remembered
    obtain ⟨x, uses, at_fd⟩ := routing.owner udp fd registered
    have same : x = s := by
      refine EntryPtr.socket.inj (routing.sound.owner_unique (routing.held x uses.1) ?_)
      exact at_fd.trans remembered.symm
    exact ⟨by rw [registered, remembered], same ▸ uses.1⟩

/-- A new socket owns nothing. -/
theorem listens_createSocket (routing : d.Routing) (perspective : Perspective) (id : QuicConnectionId)
    (s : SocketId) (udp : UdpSocket) : (d.createSocket perspective id).Listens s udp ↔ d.Listens s udp := by
  by_cases same : s = d.numSockets
  · subst same
    constructor
    · rintro ⟨owns, -⟩
      obtain ⟨x, -, at_fd⟩ := routing.owner udp _ owns
      simp only [Directory.createSocket, Function.update_self, alloc_fst] at at_fd
      exact (routing.sound.handle_ne_next (.socket x) at_fd).elim
    · rintro ⟨-, isOpen⟩
      exact (isOpen (routing.blank _ le_rfl).1).elim
  · simp [Listens, Directory.createSocket, same]

/-- The routed socket is the owner of its UDP socket, and the other owners stay. -/
theorem listens_route (routing : d.Routing) (udp : UdpSocket) (isOpen : d.socketState s ≠ .closed) (x : SocketId)
    (u : UdpSocket) : (d.route s udp .inited true).Listens x u ↔ x = s ∧ u = udp ∨ u ≠ udp ∧ d.Listens x u := by
  have unchanged : (d.route s udp .inited true).socketState x ≠ .closed ↔ d.socketState x ≠ .closed := by
    by_cases same : x = s
    · subst same
      simp [Directory.route, isOpen]
    · simp [Directory.route, same]
  rw [Listens, unchanged]
  simp only [Directory.route, ConnectionManager.owners_put, true_and]
  split_ifs with here
  · rw [Option.some.injEq, eq_comm, routing.fd_eq_iff isOpen]
    constructor
    · rintro ⟨same, -⟩
      exact .inl ⟨same, here⟩
    · rintro (⟨rfl, -⟩ | ⟨elsewhere, -⟩)
      · exact ⟨rfl, isOpen⟩
      · exact (elsewhere here).elim
  · simp [Listens, here]

theorem owners_mark (routing : d.Routing) (isOpen : d.socketState s ≠ .closed) (u : UdpSocket) :
    (d.mark s).connectionManager.owners u =
      if d.connectionManager.owners u = some (d.fd (.socket s)) then none else d.connectionManager.owners u := by
  have set : d.connectionManager.owners u = some (d.fd (.socket s)) → d.udp (.socket s) = some u := fun owns =>
    routing.udp_of_listens ⟨owns, isOpen⟩
  simp only [Directory.mark]
  cases native : d.udp (.socket s) with
  | none =>
    rw [native] at set
    rw [if_neg fun owns => by cases set owns]
  | some udp =>
    simp only [ConnectionManager.owners_delete _ (routing.route_of_uses ⟨isOpen, native⟩)]
    by_cases owns : d.connectionManager.owners u = some (d.fd (.socket s))
    · have same : udp = u := Option.some.inj (native.symm.trans (set owns))
      subst same
      simp [owns]
    · rw [if_neg owns, if_neg]
      rintro ⟨rfl, ownsHere⟩
      exact owns ownsHere

theorem listens_of_mark (routing : d.Routing) {x : SocketId} {u : UdpSocket} (isOpen : d.socketState s ≠ .closed)
    (listens : (d.mark s).Listens x u) : x ≠ s ∧ d.Listens x u := by
  obtain ⟨owns, openAfter⟩ := listens
  have other : x ≠ s := by
    rintro rfl
    simp [Directory.mark] at openAfter
  rw [routing.owners_mark isOpen] at owns
  split_ifs at owns
  exact ⟨other, owns, by simpa [Directory.mark, other] using openAfter⟩

end Routing

/-- The server side entry that a datagram creates on a UDP socket. -/
def adopt (d : Directory) (udp : UdpSocket) (id : QuicConnectionId) : Directory :=
  (d.createSocket .isServer id).route d.numSockets udp .shared false

theorem owners_adopt (d : Directory) (udp : UdpSocket) (id : QuicConnectionId) :
    (d.adopt udp id).connectionManager.owners = d.connectionManager.owners := by
  funext u
  simp [adopt, createSocket, route, ConnectionManager.owners_put]

/-- Everything that is older than the new entry keeps its members. -/
theorem adopt_older (d : Directory) (udp : UdpSocket) (id : QuicConnectionId) {s : SocketId}
    (old : s ≠ d.numSockets) :
    (d.adopt udp id).perspective s = d.perspective s ∧ (d.adopt udp id).socketState s = d.socketState s ∧
      (d.adopt udp id).udp (.socket s) = d.udp (.socket s) ∧
      (d.adopt udp id).acceptSockets s = d.acceptSockets s := by
  simp [adopt, createSocket, route, old]

theorem adopt_new (d : Directory) (udp : UdpSocket) (id : QuicConnectionId) :
    (d.adopt udp id).socketState d.numSockets = .shared ∧
      (d.adopt udp id).udp (.socket d.numSockets) = some udp ∧ (d.adopt udp id).acceptSockets d.numSockets = [] := by
  simp [adopt, createSocket, route]

theorem Routing.listens_adopt (routing : d.Routing) (udp : UdpSocket) (id : QuicConnectionId) (s : SocketId)
    (u : UdpSocket) : (d.adopt udp id).Listens s u ↔ d.Listens s u := by
  rw [← routing.listens_createSocket .isServer id]
  by_cases same : s = d.numSockets
  · subst same
    simp [Listens, adopt, Directory.createSocket, Directory.route, ConnectionManager.owners_put]
  · simp [Listens, adopt, Directory.createSocket, Directory.route, ConnectionManager.owners_put, same]

structure Roles (d : Directory) : Prop extends Routing d where
  blankClient : ∀ s, d.numSockets ≤ s → d.perspective s = .isClient
  served : ∀ s, d.perspective s = .isServer → ServerState (d.socketState s) ∧ ∃ udp, d.udp (.socket s) = some udp
  ownerClient : ∀ s udp, d.Listens s udp → d.perspective s = .isClient
  queuedServer : ∀ s, ∀ child ∈ d.acceptSockets s, d.perspective child = .isServer
  queueClient : ∀ s, d.acceptSockets s ≠ [] → d.perspective s = .isClient

/-- `d'` has the same sockets in the same roles. -/
structure SameRoles (d d' : Directory) : Prop extends SameRoutes d d' where
  perspective : d'.perspective = d.perspective
  served : ∀ s, ServerState (d.socketState s) → ServerState (d'.socketState s)
  queued : ∀ s, ∀ child ∈ d'.acceptSockets s,
    child ∈ d.acceptSockets s ∨ d.perspective child = .isServer ∧ d.perspective s = .isClient

namespace Roles

variable {s : SocketId} {udp : UdpSocket}

/-- A server side session was initialized by `OnSyn`. -/
theorem initialized (roles : d.Roles) (server : d.perspective s = .isServer) :
    (d.socketState s).initialized = true := by
  rcases (roles.served s server).1 with state | state | state <;> rw [state] <;> rfl

theorem of_same (roles : d.Roles) (same : SameRoles d d') (routing : d'.Routing) : d'.Roles where
  toRouting := routing
  blankClient s beyond := by
    rw [same.perspective]
    exact roles.blankClient s (same.numSockets ▸ beyond)
  served s server := by
    rw [same.perspective] at server
    rw [same.udp]
    exact ⟨same.served s (roles.served s server).1, (roles.served s server).2⟩
  ownerClient s udp listens := by
    rw [same.perspective]
    exact roles.ownerClient s udp ((same.listens_iff s udp).mp listens)
  queuedServer s child member := by
    rw [same.perspective]
    rcases same.queued s child member with before | ⟨server, -⟩
    · exact roles.queuedServer s child before
    · exact server
  queueClient s nonempty := by
    obtain ⟨child, member⟩ := List.exists_mem_of_ne_nil _ nonempty
    rw [same.perspective]
    rcases same.queued s child member with before | ⟨-, client⟩
    · exact roles.queueClient s (List.ne_nil_of_mem before)
    · exact client

theorem server_lt (roles : d.Roles) (server : d.perspective s = .isServer) : s < d.numSockets := by
  by_contra beyond
  rw [roles.blankClient s (not_lt.mp beyond)] at server
  cases server

/-- Server side entries own nothing. -/
theorem not_listens_server (roles : d.Roles) (server : d.perspective s = .isServer) (udp : UdpSocket) :
    ¬ d.Listens s udp := by
  intro listens
  rw [roles.ownerClient s udp listens] at server
  cases server

theorem queue_server (roles : d.Roles) (server : d.perspective s = .isServer) : d.acceptSockets s = [] := by
  by_contra nonempty
  rw [roles.queueClient s nonempty] at server
  cases server

theorem createSocket (roles : d.Roles) (id : QuicConnectionId) : (d.createSocket .isClient id).Roles where
  toRouting := roles.toRouting.createSocket .isClient id
  blankClient s beyond := by
    change d.numSockets + 1 ≤ s at beyond
    simp only [Directory.createSocket, Function.update_of_ne (show s ≠ d.numSockets by omega)]
    exact roles.blankClient s (by omega)
  served s server := by
    have old : s ≠ d.numSockets := by
      rintro rfl
      simp [Directory.createSocket] at server
    simp only [Directory.createSocket, Function.update_of_ne old, Function.update_of_ne (EntryPtr.socket_ne old)]
      at server ⊢
    exact roles.served s server
  ownerClient s udp listens := by
    have before := (roles.listens_createSocket .isClient id s udp).mp listens
    simp only [Directory.createSocket, Function.update_of_ne (ne_of_lt (roles.listens_lt before))]
    exact roles.ownerClient s udp before
  queuedServer s child member := by
    have old : s ≠ d.numSockets := by
      rintro rfl
      simp [Directory.createSocket] at member
    simp only [Directory.createSocket, Function.update_of_ne old] at member
    have server := roles.queuedServer s child member
    simp only [Directory.createSocket, Function.update_of_ne (ne_of_lt (roles.server_lt server))]
    exact server
  queueClient s nonempty := by
    by_cases same : s = d.numSockets
    · subst same
      simp [Directory.createSocket]
    · simp only [Directory.createSocket, Function.update_of_ne same] at nonempty ⊢
      exact roles.queueClient s nonempty

/-- A new server side entry. -/
theorem adopt (roles : d.Roles) {id : QuicConnectionId} (routing : (d.adopt udp id).Routing) :
    (d.adopt udp id).Roles := by
  obtain ⟨newState, newUdp, newQueue⟩ := d.adopt_new udp id
  refine ⟨routing, ?_, ?_, ?_, ?_, ?_⟩
  · intro s beyond
    change d.numSockets + 1 ≤ s at beyond
    rw [(d.adopt_older udp id (show s ≠ d.numSockets by omega)).1]
    exact roles.blankClient s (by omega)
  · intro s server
    by_cases same : s = d.numSockets
    · subst same
      exact ⟨.inl newState, udp, newUdp⟩
    · obtain ⟨perspective, state, set, -⟩ := d.adopt_older udp id same
      rw [state, set]
      exact roles.served s (perspective ▸ server)
  · intro s u listens
    have before := (roles.listens_adopt udp id s u).mp listens
    rw [(d.adopt_older udp id (ne_of_lt (roles.listens_lt before))).1]
    exact roles.ownerClient s u before
  · intro s child member
    have old : s ≠ d.numSockets := by
      rintro rfl
      rw [newQueue] at member
      cases member
    rw [(d.adopt_older udp id old).2.2.2] at member
    have server := roles.queuedServer s child member
    rw [(d.adopt_older udp id (ne_of_lt (roles.server_lt server))).1]
    exact server
  · intro s nonempty
    have old : s ≠ d.numSockets := by
      rintro rfl
      exact nonempty newQueue
    obtain ⟨perspective, -, -, queue⟩ := d.adopt_older udp id old
    rw [perspective]
    exact roles.queueClient s (queue ▸ nonempty)

theorem client_of_none (roles : d.Roles) (state : d.socketState s = .none) : d.perspective s ≠ .isServer := by
  intro server
  rcases (roles.served s server).1 with shared | connected | closed <;> simp_all

/-- A client side entry gets a UDP socket of its own. -/
theorem route (roles : d.Roles) (state : d.socketState s = .none) (routing : (d.route s udp .inited true).Routing) :
    (d.route s udp .inited true).Roles := by
  have isOpen : d.socketState s ≠ .closed := by rw [state]; decide
  have client := roles.client_of_none state
  refine ⟨routing, roles.blankClient, ?_, ?_, roles.queuedServer, roles.queueClient⟩
  · intro x server
    have other : x ≠ s := fun same => client (same ▸ server)
    simpa [Directory.route, other] using roles.served x server
  · intro x u owns
    rcases (roles.listens_route udp isOpen x u).mp owns with ⟨rfl, -⟩ | ⟨-, before⟩
    · cases perspective : d.perspective x with
      | isClient => exact perspective
      | isServer => exact (client perspective).elim
    · exact roles.ownerClient x u before

theorem mark (roles : d.Roles) (isOpen : d.socketState s ≠ .closed) : (d.mark s).Roles := by
  refine ⟨roles.toRouting.mark isOpen, roles.blankClient, ?_, ?_, roles.queuedServer, roles.queueClient⟩
  · intro x server
    refine ⟨?_, (roles.served x server).2⟩
    by_cases same : x = s
    · subst same
      exact .inr (.inr (by simp [Directory.mark]))
    · simpa [Directory.mark, same] using (roles.served x server).1
  · intro x u listens
    exact roles.ownerClient x u (roles.listens_of_mark isOpen listens).2

theorem sameRoles_setState {socketState : QuicSocketState} (advances : Advances (d.socketState s) socketState) :
    SameRoles d (d.setState s socketState) := by
  refine ⟨⟨rfl, rfl, ?_, fun _ => rfl, rfl, fun _ _ => rfl⟩, rfl, ?_, fun _ _ => .inl⟩
  · obtain ⟨-, isOpen, stays⟩ := advances.started
    intro x
    by_cases same : x = s
    · subst same
      simp [Directory.setState, stays, isOpen]
    · simp [Directory.setState, same]
  · intro x served
    by_cases same : x = s
    · subst same
      simp only [Directory.setState, Function.update_self]
      exact .inr (.inl (advances.of_server served))
    · simpa [Directory.setState, same] using served

theorem sameRoles_enqueue (roles : d.Roles) {child : SocketId}
    (found : d.fdManager (d.connectionManager.getOwner udp) = some (.socket s))
    (server : d.perspective child = .isServer) : SameRoles d (d.enqueue s child) := by
  refine ⟨⟨rfl, rfl, fun _ => Iff.rfl, fun _ => rfl, rfl, fun _ _ => rfl⟩, rfl, fun _ => id, ?_⟩
  intro x other member
  rcases mem_update_append.mp member with before | ⟨rfl, rfl⟩
  · exact .inl before
  · exact .inr ⟨server, roles.ownerClient x udp (roles.listens_of_getOwner found)⟩

theorem sameRoles_dequeue (d : Directory) (s : SocketId) : SameRoles d (d.dequeue s) := by
  refine ⟨⟨rfl, rfl, fun _ => Iff.rfl, fun _ => rfl, rfl, fun _ _ => rfl⟩, rfl, fun _ => id, ?_⟩
  exact fun x child member => .inl ((update_tail_sublist ..).subset member)

theorem sameRoles_release {entry : EntryPtr} (closed : ∀ s, entry = .socket s → d.socketState s = .closed) :
    SameRoles d (d.release entry) := by
  refine ⟨Routing.sameRoutes_release closed, ?_, ?_, ?_⟩
  all_goals
    unfold Directory.release
    split_ifs
  · rfl
  · rfl
  · exact fun _ => id
  · exact fun _ => id
  · exact fun _ _ => .inl
  · exact fun _ _ => .inl

/-- Steps that change neither sockets nor queues. -/
theorem sameRoles_of_eq (routes : SameRoutes d d') (perspective : d'.perspective = d.perspective)
    (socketState : d'.socketState = d.socketState) (acceptSockets : d'.acceptSockets = d.acceptSockets) :
    SameRoles d d' :=
  ⟨routes, perspective, fun _ => by rw [socketState]; exact id, fun _ _ => by rw [acceptSockets]; exact .inl⟩

theorem step (roles : d.Roles) (step : Step may d d') : d'.Roles := by
  have routing := roles.toRouting.step step
  cases step with
  | createSocket id => exact roles.createSocket id
  | createStream s =>
    refine roles.of_same (sameRoles_of_eq ⟨rfl, rfl, fun _ => Iff.rfl, ?_, rfl, ?_⟩ rfl rfl rfl) routing
    · exact fun x => by simp [Directory.createStream]
    · exact fun x _ => by simp [Directory.createStream]
  | setUdpSocket s sock udp found state unset unbound => exact roles.route state routing
  | syn e udp cached owner ownerUdp key dispatching missing owns set =>
    have routes : SameRoutes d (d.setDispatch e (some (udp, some owner))) :=
      ⟨rfl, rfl, fun _ => Iff.rfl, fun _ => rfl, rfl, fun _ _ => rfl⟩
    have dispatches : (d.setDispatch e (some (udp, some owner))).Roles :=
      roles.of_same (sameRoles_of_eq routes rfl rfl rfl) (roles.toRouting.setDispatch dispatching owns)
    exact dispatches.adopt routing
  | setState s socketState advances => exact roles.of_same (sameRoles_setState advances) routing
  | enqueue s child udp found server _ => exact roles.of_same (roles.sameRoles_enqueue found server) routing
  | dequeue s => exact roles.of_same (sameRoles_dequeue d s) routing
  | mark s _ isOpen => exact roles.mark isOpen
  | disconnect s =>
    exact roles.of_same (sameRoles_of_eq ⟨rfl, rfl, fun _ => Iff.rfl, fun _ => rfl, rfl, fun _ _ => rfl⟩ rfl rfl rfl)
      routing
  | release entry _ closed => exact roles.of_same (sameRoles_release closed) routing
  | tell entry _ =>
    exact roles.of_same (sameRoles_of_eq ⟨rfl, rfl, fun _ => Iff.rfl, fun _ => rfl, rfl, fun _ _ => rfl⟩ rfl rfl rfl)
      routing
  | setDispatch e udp =>
    exact roles.of_same (sameRoles_of_eq ⟨rfl, rfl, fun _ => Iff.rfl, fun _ => rfl, rfl, fun _ _ => rfl⟩ rfl rfl rfl)
      routing

end Roles

end Directory

namespace World

theorem start_roles : ({} : World).directory.Roles := by
  have routing : ({} : World).directory.Routing := reachable_routing (System.Reachable.refl _)
  refine ⟨routing, fun _ _ => rfl, nofun, ?_, nofun, ?_⟩
  · intro s udp listens
    exact (listens.2 rfl).elim
  · intro s nonempty
    exact (nonempty rfl).elim

theorem reachable_roles {w : World} (reachable : system.Reachable {} w) : w.directory.Roles :=
  (reachable_directory reachable start_roles fun _ _ => Directory.Roles.step).1

end World

end PosixQuic
