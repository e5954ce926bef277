import PosixQuic.Soundness.AcceptOrder

/-! # Which sockets take new connections

`Wait` opens an entry for an unknown connection on behalf of the owner of the UDP socket, and does not ask what the
owner does. As long as unknown connections turn up only where listeners work, and no listener starts a connection of
its own, owners are listeners: a server side entry shares its UDP socket with a listener or with nobody, so it
joins the queue of a listener, and `AcceptSocket` gets to it.
-/

namespace PosixQuic

open Machine

namespace Directory

variable {d d' : Directory} {s : SocketId} {udp : UdpSocket}

/-- Where a server side entry works on a UDP socket, the other side entry on it listens. -/
def Served (d : Directory) : Prop :=
  ∀ s child udp, d.perspective s = .isClient → d.Uses s udp → d.perspective child = .isServer → d.Uses child udp →
    d.socketState s = .binded

/-- Listeners keep listening until they are closed, and server side entries keep their listeners. -/
structure Shields (d d' : Directory) : Prop where
  served : d.Served → d'.Served
  binded : ∀ s, d.socketState s = .binded → d'.socketState s ≠ .closed → d'.socketState s = .binded

namespace Shields

/-- It is enough that nobody new works on a UDP socket. -/
theorem of_uses (uses : ∀ s udp, d'.Uses s udp → d.Uses s udp ∧ d'.perspective s = d.perspective s)
    (binded : ∀ s, d.socketState s = .binded → d'.socketState s ≠ .closed → d'.socketState s = .binded) :
    Shields d d' := by
  refine ⟨?_, binded⟩
  intro served s child udp client works server shares
  obtain ⟨worksBefore, sameClient⟩ := uses s udp works
  obtain ⟨sharesBefore, sameServer⟩ := uses child udp shares
  rw [sameClient] at client
  rw [sameServer] at server
  exact binded s (served s child udp client worksBefore server sharesBefore) works.1

theorem of_eq (state : d'.socketState = d.socketState) (udp : ∀ s, d'.udp (.socket s) = d.udp (.socket s))
    (perspective : d'.perspective = d.perspective) : Shields d d' := by
  refine of_uses ?_ ?_
  · intro s u uses
    rw [Uses, state, udp] at uses
    exact ⟨uses, congrFun perspective s⟩
  · intro s binded _
    rwa [state]

theorem refl (d : Directory) : Shields d d := of_eq rfl (fun _ => rfl) rfl

theorem trans {d'' : Directory} (first : Shields d d') (second : Shields d' d'')
    (closed : ∀ s, d'.socketState s = .closed → d''.socketState s = .closed) : Shields d d'' where
  served := second.served ∘ first.served
  binded s listens isOpen := second.binded s (first.binded s listens fun shut => isOpen (closed s shut)) isOpen

/-- An entry that does not listen may move on. -/
theorem setState (isOpen : d.socketState s ≠ .closed) (idle : d.socketState s ≠ .binded)
    (socketState : QuicSocketState) : Shields d (d.setState s socketState) := by
  refine of_uses ?_ ?_
  · intro x u uses
    refine ⟨⟨?_, uses.2⟩, rfl⟩
    by_cases same : x = s
    · exact same ▸ isOpen
    · have state : (d.setState s socketState).socketState x = d.socketState x := Function.update_of_ne same ..
      exact state ▸ uses.1
  · intro x binded _
    have other : x ≠ s := by
      rintro rfl
      exact idle binded
    exact (Function.update_of_ne other ..).trans binded

/-- An entry that does not listen gets a UDP socket that nobody works on, and then moves on. -/
theorem route (routing : d.Routing) (client : d.perspective s ≠ .isServer) (state : d.socketState s = .none)
    (unbound : d.UdpUnbound udp) (socketState : QuicSocketState) (owner : Bool) :
    Shields d (d.route s udp socketState owner) := by
  have stateOf : ∀ x, x ≠ s → (d.route s udp socketState owner).socketState x = d.socketState x :=
    fun x other => Function.update_of_ne other ..
  have older : ∀ x u, x ≠ s → (d.route s udp socketState owner).Uses x u → d.Uses x u := by
    intro x u other uses
    rw [Uses, stateOf x other] at uses
    have kept : (d.route s udp socketState owner).udp (.socket x) = d.udp (.socket x) :=
      Function.update_of_ne (EntryPtr.socket_ne other) ..
    exact ⟨uses.1, kept ▸ uses.2⟩
  have listens : ∀ x, d.socketState x = .binded → x ≠ s := by
    rintro x binded rfl
    rw [state] at binded
    cases binded
  refine ⟨?_, fun x binded _ => (stateOf x (listens x binded)).trans binded⟩
  intro served x child u clientX uses server shares
  have other : child ≠ s := fun same => client (same ▸ server)
  have sharesBefore := older child u other shares
  by_cases same : x = s
  · subst same
    -- the UDP socket is new, so the server side entry cannot be there
    have number : (d.route x udp socketState owner).udp (.socket x) = some udp := Function.update_self ..
    have equal : u = udp := Option.some.inj (uses.2.symm.trans number)
    have known : child < d.numSockets := routing.lt_of_uses sharesBefore
    exact absurd (equal ▸ sharesBefore.2) (unbound child known (routing.held child sharesBefore.1))
  · have binded := served x child u clientX (older x u same uses) server sharesBefore
    exact (stateOf x same).trans binded

theorem createSocket (routing : d.Routing) (id : QuicConnectionId) : Shields d (d.createSocket .isClient id) := by
  refine of_uses ?_ ?_
  · intro x u uses
    have old : x ≠ d.numSockets := by
      rintro rfl
      have unset : (d.createSocket .isClient id).udp (.socket d.numSockets) = none := Function.update_self ..
      rw [Uses, unset] at uses
      cases uses.2
    exact ⟨(routing.uses_createSocket .isClient id x u).mp uses, Function.update_of_ne old ..⟩
  · intro x binded _
    have old : x ≠ d.numSockets := by
      rintro rfl
      rw [(routing.blank _ le_rfl).1] at binded
      cases binded
    exact (Function.update_of_ne old ..).trans binded

/-- A server side entry may open where only listeners work. -/
theorem adopt (routing : d.Routing) (listeners : ∀ s, d.perspective s = .isClient → d.Uses s udp → d.socketState s = .binded)
    (id : QuicConnectionId) : Shields d (d.adopt udp id) := by
  have older : ∀ x u, x ≠ d.numSockets → (d.adopt udp id).Uses x u → d.Uses x u := by
    intro x u old uses
    obtain ⟨-, state, number, -⟩ := d.adopt_older udp id old
    rwa [Uses, state, number] at uses
  have newServer : (d.adopt udp id).perspective d.numSockets = .isServer := Function.update_self ..
  refine ⟨?_, ?_⟩
  · intro served x child u client uses server shares
    have old : x ≠ d.numSockets := by
      rintro rfl
      rw [newServer] at client
      cases client
    obtain ⟨perspective, state, -, -⟩ := d.adopt_older udp id old
    rw [perspective] at client
    rw [state]
    by_cases new : child = d.numSockets
    · subst new
      have equal : u = udp := Option.some.inj (shares.2.symm.trans (d.adopt_new udp id).2.1)
      exact listeners x client (equal ▸ older x u old uses)
    · rw [(d.adopt_older udp id new).1] at server
      exact served x child u client (older x u old uses) server (older child u new shares)
  · intro x binded _
    have old : x ≠ d.numSockets := by
      rintro rfl
      rw [(routing.blank _ le_rfl).1] at binded
      cases binded
    exact (d.adopt_older udp id old).2.1.trans binded

end Shields

/-- The owners that epollers remember were not accepted from anywhere. -/
def CachedClients (d : Directory) : Prop :=
  ∀ e udp owner, d.dispatch e = some (udp, some owner) → d.perspective owner = .isClient

/-- The owner that a new connection is given works on its UDP socket and was not accepted on it. -/
theorem CachedClients.owns (cached : d.CachedClients) (roles : d.Roles) {e : EpollerId} {known : Option SocketId}
    {owner : SocketId} (dispatching : d.dispatch e = some (udp, known)) (owns : d.Owns udp known owner) :
    d.perspective owner = .isClient ∧ (d.socketState owner ≠ .closed ∨ known = some owner) := by
  rcases owns with rfl | ⟨-, found, -⟩
  · exact ⟨cached e udp owner dispatching, .inr rfl⟩
  · have listens := roles.listens_of_getOwner found
    exact ⟨roles.ownerClient owner udp listens, .inl listens.2⟩

theorem CachedClients.of_eq (cached : d.CachedClients) (dispatch : d'.dispatch = d.dispatch)
    (perspective : d'.perspective = d.perspective) : d'.CachedClients := by
  intro e udp owner dispatching
  rw [dispatch] at dispatching
  rw [perspective]
  exact cached e udp owner dispatching

/-- A new entry is nobody that is remembered. -/
theorem CachedClients.createSocket (cached : d.CachedClients) (routing : d.Routing) (perspective : Perspective)
    (id : QuicConnectionId) : (d.createSocket perspective id).CachedClients := by
  intro e udp owner dispatching
  have old : owner ≠ d.numSockets := by
    rintro rfl
    have set := routing.cached e udp d.numSockets dispatching
    rw [(routing.blank _ le_rfl).2] at set
    cases set
  exact (Function.update_of_ne old ..).trans (cached e udp owner dispatching)

theorem CachedClients.step {may : EntryPtr → Prop} (roles : d.Roles) (cached : d.CachedClients)
    (step : Step may d d') : d'.CachedClients := by
  cases step with
  | createSocket id => exact cached.createSocket roles.toRouting .isClient id
  | syn e udp known owner ownerUdp id dispatching unknown owns set =>
    have noting : (d.setDispatch e (some (udp, some owner))).CachedClients := by
      intro x u o dispatchingAfter
      by_cases here : x = e
      · subst here
        have event : (d.setDispatch x (some (udp, some owner))).dispatch x = some (udp, some owner) :=
          Function.update_self ..
        rw [event] at dispatchingAfter
        cases dispatchingAfter
        exact (cached.owns roles dispatching owns).1
      · have event : (d.setDispatch e (some (udp, some owner))).dispatch x = d.dispatch x :=
          Function.update_of_ne here ..
        exact cached x u o (event ▸ dispatchingAfter)
    have routing := (roles.toRouting.setDispatch dispatching owns)
    exact (noting.createSocket routing .isServer id).of_eq rfl rfl
  | release entry _ _ =>
    refine cached.of_eq ?_ ?_
    all_goals
      unfold Directory.release
      split_ifs <;> rfl
  | setDispatch e event =>
    intro x u o dispatchingAfter
    by_cases here : x = e
    · subst here
      have noted : (d.setDispatch x (event.map fun udp => (udp, none))).dispatch x =
        event.map fun udp => (udp, none) := Function.update_self ..
      rw [noted] at dispatchingAfter
      obtain ⟨udp, -, remembered⟩ := Option.map_eq_some_iff.mp dispatchingAfter
      cases remembered
    · have kept : (d.setDispatch e (event.map fun udp => (udp, none))).dispatch x = d.dispatch x :=
        Function.update_of_ne here ..
      exact cached x u o (kept ▸ dispatchingAfter)
  | _ => exact cached.of_eq rfl rfl

end Directory

namespace World

open Directory (Shields)

variable {w w' : World} {action : Action} {result : CallResult × World} {s o child : SocketId} {udp : UdpSocket}
  {cached : Option SocketId}

/-! ## Calls -/

/-- An entry with a UDP socket starts to listen or to connect. -/
theorem shields_inited (shields : Shields w.directory w'.directory) (inited : w'.directory.socketState s = .inited)
    (next : QuicSocketState) : Shields w.directory (w'.setSocketState s next).directory := by
  have isOpen : w'.directory.socketState s ≠ .closed := by
    rw [inited]
    decide
  have idle : w'.directory.socketState s ≠ .binded := by
    rw [inited]
    decide
  rw [directory_setSocketState]
  refine shields.trans (.setState isOpen idle next) ?_
  intro x closed
  have other : x ≠ s := by
    rintro rfl
    exact isOpen closed
  exact (Function.update_of_ne other ..).trans closed

theorem shields_configures (roles : w.directory.Roles) (s : SocketId) :
    Configures (fun after => Shields w.directory after.directory) w s w.UdpUnbound where
  holds := .refl _
  set udp unbound new _ := by
    rw [directory_setUdpSocket, directory_openUdp]
    exact .route roles.toRouting (roles.client_of_none new) new unbound .inited true
  moves _ next inited shields _ := shields_inited shields inited next

/-! ## Actions -/

/-- Whoever works on the UDP socket and was not accepted on it listens, and the owner that `Wait` remembers is
open. -/
def OnlyListeners (w : World) (udp : UdpSocket) (cached : Option SocketId) : Prop :=
  (∀ s < w.numSockets, (w.sockets s).perspective = .isClient → (w.sockets s).udpSocket = some udp →
    (w.sockets s).socketState = .binded ∨ (w.sockets s).socketState = .closed) ∧
  ∀ owner ∈ cached, (w.sockets owner).socketState ≠ .closed

instance (w : World) (udp : UdpSocket) (cached : Option SocketId) : Decidable (w.OnlyListeners udp cached) :=
  inferInstanceAs (Decidable (_ ∧ _))

/-- Datagrams of unknown connections arrive where listeners work, and listeners do not connect. -/
def KeepsToListeners (w : World) : Action → Prop
  | .datagram e id =>
    ∀ event ∈ (w.epollers e).dispatch, w.connectionManager.get event.1 id = -1 → w.OnlyListeners event.1 event.2
  | .connect sock _ => ∀ s < w.numSockets, w.fdManager sock = some (.socket s) → (w.sockets s).socketState ≠ .binded
  | _ => True

instance (w : World) : (action : Action) → Decidable (w.KeepsToListeners action)
  | .datagram e _ => inferInstanceAs (Decidable (∀ event ∈ (w.epollers e).dispatch, _))
  | .connect _ _ => inferInstanceAs (Decidable (∀ s < w.numSockets, _))
  | .createSocket _ | .bind .. | .bindUdp .. | .socketAccept _ | .closeSocket _ | .streamAccept _ | .createStream ..
  | .closeStream _ | .readv .. | .createEpoll | .closeEpoller _ | .epollAdd .. | .epollMod .. | .epollDel ..
  | .poll .. | .beginUdpEvent .. | .endUdpEvent _ | .handshakeComplete _ | .incomingStream .. | .connectionClosed ..
  | .streamReceived .. | .streamFinRead _ | .streamClosed _ | .streamCanWrite _ => isTrue trivial

theorem OnlyListeners.binded (only : w.OnlyListeners udp cached) (routing : w.directory.Routing)
    (client : w.directory.perspective s = .isClient) (uses : w.directory.Uses s udp) :
    w.directory.socketState s = .binded :=
  (only.1 s (routing.lt_of_uses uses) client uses.2).resolve_right uses.1

theorem shields_dispatchDatagram (roles : w.directory.Roles) {e : EpollerId} {id : QuicConnectionId}
    (dispatching : (w.epollers e).dispatch = some (udp, cached))
    (only : w.connectionManager.get udp id = -1 → w.OnlyListeners udp cached)
    (dispatched : w.dispatchDatagram e udp cached id = .ok w') : Shields w.directory w'.directory := by
  obtain rfl | ⟨owner, unknown, found, opened⟩ := dispatchDatagram_outcome dispatched
  · exact .refl _
  · obtain ⟨ownerUdp, set, changed⟩ := directory_acceptDatagram opened
    have number : w.directory.udp (.socket owner) = some udp :=
      roles.udp_of_owns dispatching (findOwner_owns found)
    have same : ownerUdp = udp := Option.some.inj (set.symm.trans number)
    have adopting := Shields.adopt (d := w.directory) roles.toRouting
      (fun s client uses => (only unknown).binded roles.toRouting client uses) id
    rw [changed, same]
    exact adopting.trans (.of_eq rfl (fun _ => rfl) rfl) fun _ closed => closed

/-- The end of a handshake, of an entry that shakes hands. -/
theorem shields_onCryptoHandshakeComplete (roles : w.directory.Roles)
    (admitted : w.admits (.handshakeComplete s) = true) (completed : w.onCryptoHandshakeComplete s = .ok w') :
    Shields w.directory w'.directory := by
  have state : w.directory.socketState s = .connecting ∨ w.directory.socketState s = .shared :=
    of_decide_eq_true (Bool.and_eq_true_iff.mp admitted).2
  have isOpen : w.directory.socketState s ≠ .closed := fun closed =>
    (shaking_of_admits roles admitted).2 (.inr closed)
  have idle : w.directory.socketState s ≠ .binded := by
    rcases state with state | state <;> rw [state] <;> decide
  have connects : Shields w.directory (w.directory.setState s .connected) := .setState isOpen idle .connected
  obtain ⟨ready, -, changed, ⟨-, rfl⟩ | ⟨-, -, owner, -, -, rfl⟩⟩ := onCryptoHandshakeComplete_outcome completed
  · exact changed ▸ connects
  · rw [directory_pushAcceptQueue, changed]
    exact connects.trans (.of_eq rfl (fun _ => rfl) rfl) fun _ closed => closed

/-- A close takes nobody's UDP socket and makes nobody listen. -/
theorem shields_of_closes (order : w.InOrder) (closes : ClosesSocket action) (admitted : w.admits action = true)
    (performed : w.perform action = .ok result) : Shields w.directory result.2.directory := by
  obtain ⟨shuts, -, withdraws⟩ := perform_shuts order.roles order.settled order.toLined closes performed
  have spared : ∀ x, ¬ result.2.Closed x → x ∉ w.closing action :=
    fun x isOpen target => isOpen (perform_closing order admitted performed target)
  refine .of_uses ?_ ?_
  · intro x u uses
    refine ⟨⟨?_, withdraws.udp ▸ uses.2⟩, congrFun shuts.perspective x⟩
    rw [← shuts.state x (spared x uses.1)]
    exact uses.1
  · intro x binded isOpen
    exact (shuts.state x (spared x isOpen)).trans binded

theorem shields_newQuicStream (w : World) (s : SocketId) (streamId : Nat) :
    Shields w.directory (w.newQuicStream s streamId).2.directory := by
  rw [directory_newQuicStream]
  refine .of_eq rfl (fun x => ?_) rfl
  have other : EntryPtr.socket x ≠ .stream w.numStreams := by
    rintro ⟨⟩
  exact Function.update_of_ne other (w.directory.udp (.socket s)) w.directory.udp

theorem shields_modEpoller (w : World) (e : EpollerId) (f : QuicEpollerEntry → QuicEpollerEntry) :
    Shields w.directory (w.modEpoller e f).directory := by
  rw [directory_modEpoller]
  exact .of_eq rfl (fun _ => rfl) rfl

theorem shields_acceptSocket (w : World) (s : SocketId) : Shields w.directory (w.acceptSocket s).2.directory := by
  rcases w.acceptSocket_outcome s with ⟨err, accepted⟩ | ⟨child, rest, -, accepted⟩ <;> rw [accepted]
  · exact .refl _
  · rw [directory_modSocket]
    refine .of_eq ?_ (fun x => ?_) ?_
    · exact Function.update_eq_self ..
    · exact congrFun (Function.update_eq_self ..) _
    · exact Function.update_eq_self ..

/-- Every action that keeps to the listeners shields them. -/
theorem perform_shields (order : w.InOrder) (admitted : w.admits action = true) (keeps : w.KeepsToListeners action)
    (performed : w.perform action = .ok result) : Shields w.directory result.2.directory := by
  have same : ∀ {w' : World}, w'.directory = w.directory → Shields w.directory w'.directory := by
    intro w' equal
    rw [equal]
    exact .refl _
  have yields : Yields (fun _ => True) (fun result => Shields w.directory result.2.directory) (w.perform action) := by
    cases action with
    | createSocket id =>
      have created : Shields w.directory (w.newQuicSocketEntry .isClient id).2.directory := by
        rw [directory_newQuicSocketEntry]
        exact .createSocket order.roles.toRouting id
      exact created
    | bind sock udp os =>
      exact withSocket_yields (.refl _) fun s _ =>
        (shields_configures order.roles s).bind (unbound_of_udpFresh admitted) os
    | bindUdp sock udp os =>
      exact withSocket_yields (.refl _) fun s _ =>
        (shields_configures order.roles s).bindUdp (of_decide_eq_true admitted) os
    | connect sock udp =>
      refine withSocket_yields (.refl _) fun s found =>
        (shields_configures order.roles s).connect (unbound_of_udpFresh admitted) fun binded => ?_
      -- a socket that does not listen may connect
      refine (keeps s ?_ found binded).elim
      by_contra beyond
      exact order.open_of_held found (order.roles.blank s (not_lt.mp beyond)).1
    | socketAccept sock => exact withSocket_yields (.refl _) fun s _ => w.shields_acceptSocket s
    | closeSocket sock =>
      exact yields_of_ok fun _ closed => shields_of_closes order (.inl ⟨sock, rfl⟩) admitted closed
    | streamAccept sock => exact withSocket_yields (.refl _) fun s _ => same (acceptStream_directory w s)
    | createStream sock streamId =>
      refine withSocket_yields (.refl _) fun s _ => ?_
      unfold createStream
      split_ifs
      · exact .refl _
      · exact w.shields_newQuicStream s streamId
    | closeStream stream =>
      refine yields_of_ok fun last closed => ?_
      obtain ⟨-, state, perspective, udp, -⟩ := quicCloseStream_withdraws closed
      exact .of_eq state (fun x => congrFun udp _) perspective
    | readv stream iov =>
      refine withStream_yields (.refl _) fun t _ => same ?_
      obtain ⟨fd, closeTrigger, udp⟩ := readv_keeps (w.streams t) iov
      exact directory_modStream_kept fd closeTrigger udp
    | createEpoll =>
      have created : Shields w.directory w.createEpoll.directory := by
        rw [directory_createEpoll]
        exact .of_eq rfl (fun _ => rfl) rfl
      exact created
    | closeEpoller e =>
      exact withEpoller_yields (.refl _) (same (directory_closeEpoller (Option.isNone_iff_eq_none.mp admitted)))
    | epollAdd e fd events data full => exact withEpoller_yields (.refl _) (same (directory_addInner ..))
    | epollMod e fd events data => exact withEpoller_yields (.refl _) (same (directory_modInner ..))
    | epollDel e fd =>
      exact withEpoller_yields (.refl _) (yields_of_ok fun _ deleted => same (directory_delInner deleted))
    | poll e maxevents => exact withEpoller_yields (.refl _) (same (directory_poll ..))
    | beginUdpEvent e udp => exact withEpoller_yields (.refl _) (w.shields_modEpoller e _)
    | datagram e id =>
      exact datagram_yields (.refl _) fun udp cached _ dispatching dispatched =>
        shields_dispatchDatagram order.roles dispatching (keeps (udp, cached) dispatching) dispatched
    | endUdpEvent e => exact w.shields_modEpoller e _
    | handshakeComplete s =>
      exact handshakeComplete_yields fun _ completed =>
        shields_onCryptoHandshakeComplete order.roles admitted completed
    | incomingStream s streamId =>
      have arrived : Shields w.directory (w.onIncomingStream s streamId).directory := by
        rw [directory_onIncomingStream]
        exact w.shields_newQuicStream s streamId
      exact arrived
    | connectionClosed s errorCode fromRemote =>
      exact yields_of_ok fun _ closed => shields_of_closes order (.inr ⟨s, errorCode, fromRemote, rfl⟩) admitted closed
    | streamReceived t data => exact same (directory_streamCallback _ _ (keepsStream_onReceived data))
    | streamFinRead t => exact same (directory_streamCallback _ _ fun _ => ⟨rfl, rfl, rfl⟩)
    | streamClosed t => exact same (directory_streamCallback _ _ keepsStream_onClose)
    | streamCanWrite t => exact same (directory_streamCallback _ _ fun _ => ⟨rfl, rfl, rfl⟩)
  exact yields.of_ok performed

/-! ## Runs -/

/-- Owners listen, and who waits to be accepted waits at a listener. -/
structure Attended (w : World) : Prop where
  order : w.InOrder
  cached : w.directory.CachedClients
  served : w.directory.Served
  blank : ∀ o, w.numSockets ≤ o → w.queue o = []
  waiting : ∀ o, w.queue o ≠ [] → ¬ w.Closed o → w.directory.socketState o = .binded

theorem attended_init : Attended {} where
  order := inOrder_init
  cached _ _ _ dispatching := by cases dispatching
  served _ _ _ _ uses := absurd rfl uses.1
  blank _ _ := rfl
  waiting _ nonempty := absurd rfl nonempty

theorem Attended.owner_binded (attended : w.Attended) {e : EpollerId} {owner : SocketId}
    (dispatching : (w.epollers e).dispatch = some (udp, cached)) (only : w.OnlyListeners udp cached)
    (found : w.findOwner udp cached = .ok (some owner)) : w.directory.socketState owner = .binded := by
  have owns := findOwner_owns found
  have number := attended.order.roles.udp_of_owns dispatching owns
  obtain ⟨client, isOpen | remembered⟩ := attended.cached.owns attended.order.roles dispatching owns
  · exact only.binded attended.order.roles.toRouting client ⟨isOpen, number⟩
  · exact only.binded attended.order.roles.toRouting client ⟨only.2 owner remembered, number⟩

/-- The connection that joins a queue joins the queue of a listener. -/
theorem Attended.completes_binded (attended : w.Attended) (admitted : w.admits action = true)
    (completes : w.completes action = some (o, child)) : w.directory.socketState o = .binded := by
  obtain ⟨rfl, server, udp, set, found⟩ := completes_outcome completes
  have listens := attended.order.roles.listens_of_getOwner found
  have client := attended.order.roles.ownerClient o udp listens
  have shares : w.directory.Uses child udp :=
    ⟨fun closed => (shaking_of_admits attended.order.roles admitted).2 (.inr closed), set⟩
  exact attended.served o child udp client ⟨listens.2, attended.order.roles.udp_of_listens listens⟩ server shares

theorem Attended.step (attended : w.Attended) (admitted : w.admits action = true) (keeps : w.KeepsToListeners action)
    (performed : w.perform action = .ok result) : result.2.Attended := by
  have order := attended.order
  have shields := perform_shields order admitted keeps performed
  have steps := ((perform_refines order.settled admitted).of_ok performed).1
  have numSockets := (perform_finished order.roles order.settled order.toLined admitted performed).2.1
  have queue : ∀ o, o ∉ w.closing action →
      joining (w.accepts result.1 action) o ++ result.2.queue o = w.queue o ++ joining (w.completes action) o :=
    fun o spared => perform_queue order performed (attended.blank o) spared
  refine ⟨order.perform admitted performed, ?_, shields.served attended.served, ?_, ?_⟩
  · exact (steps.invariant (P := fun d => d.Roles ∧ d.CachedClients)
      (fun _ _ holds step => ⟨holds.1.step step, holds.2.step holds.1 step⟩) ⟨order.roles, attended.cached⟩).2
  · intro o beyond
    have before := numSockets.trans beyond
    have nothing := queue o fun target => (order.closing_lt target).not_ge before
    obtain ⟨completes, accepts⟩ : joining (w.completes action) o = [] ∧ joining (w.accepts result.1 action) o = [] :=
      joining_of_closed order (order.roles.blank o before).1
    rw [completes, accepts, attended.blank o before] at nothing
    exact nothing
  · intro o nonempty isOpen
    have conserved := queue o fun target => isOpen (perform_closing order admitted performed target)
    refine shields.binded o ?_ isOpen
    by_cases waits : w.queue o = []
    · -- somebody joins the queue in this action
      obtain ⟨child, member⟩ := List.exists_mem_of_ne_nil _ nonempty
      have joins : child ∈ joining (w.completes action) o := by
        rw [waits, List.nil_append] at conserved
        rw [← conserved]
        exact List.mem_append_right _ member
      exact attended.completes_binded admitted (mem_joining.mp joins)
    · have known : o < w.numSockets := by
        by_contra beyond
        exact waits (attended.blank o (not_lt.mp beyond))
      exact attended.waiting o waits fun closed => isOpen (perform_closed order admitted performed known closed)

theorem reachable_attended
    (run : (system.restrict fun w action => w.KeepsToListeners action).Reachable {} w) : w.Attended := by
  refine run.invariant attended_init ?_
  rintro before action after attended ⟨admitted, keeps⟩ stepped
  obtain ⟨result, performed⟩ := step_eq_ok stepped
  exact attended.step admitted keeps performed

/-- `QuicSocketAccept` on a listener returns the first of its queue. -/
theorem perform_socketAccept {fd : Fd} {rest : List SocketId} (held : w.fdManager fd = some (.socket o))
    (binded : (w.sockets o).socketState = .binded) (waiting : (w.sockets o).acceptSockets = child :: rest) :
    w.perform (.socketAccept fd) = .ok (⟨(w.sockets child).fd, none⟩,
      w.modSocket o fun socket => { socket with acceptSockets := rest }) := by
  simp only [perform, withSocket, held, acceptSocket, binded, waiting, ne_eq, not_true_eq_false, if_false]

/-- Calls of `QuicSocketAccept` on a listener get to everybody in its queue. -/
theorem socketAccept_reaches {fd : Fd} {ahead rest : List SocketId} (held : w.fdManager fd = some (.socket o))
    (binded : (w.sockets o).socketState = .binded) (waiting : (w.sockets o).acceptSockets = ahead ++ child :: rest) :
    ∃ w', system.replay? w (List.replicate ahead.length (.socketAccept fd)) = some w' ∧
      ∃ after, w'.perform (.socketAccept fd) = .ok (⟨(w.sockets child).fd, none⟩, after) := by
  induction ahead generalizing w with
  | nil => exact ⟨w, rfl, _, perform_socketAccept held binded waiting⟩
  | cons first ahead ih =>
    have accepted := perform_socketAccept held binded waiting
    generalize changed : (w.modSocket o fun socket => { socket with acceptSockets := ahead ++ child :: rest }) = next
      at accepted
    have own : next.sockets o = { w.sockets o with acceptSockets := ahead ++ child :: rest } := by
      rw [← changed]
      exact Function.update_self ..
    have fds : (next.sockets child).fd = (w.sockets child).fd := by
      by_cases same : child = o
      · rw [same, own]
      · have kept : next.sockets child = w.sockets child := by
          rw [← changed]
          exact Function.update_of_ne same ..
        rw [kept]
    have table : next.fdManager = w.fdManager := by
      rw [← changed]
      rfl
    obtain ⟨w', ran, after, returned⟩ := ih (w := next) (table ▸ held) (by rw [own]; exact binded) (by rw [own])
    refine ⟨w', ?_, after, fds ▸ returned⟩
    have stepped : system.step w (.socketAccept fd) = .ok next := by
      change w.step (.socketAccept fd) = .ok next
      rw [World.step, accepted]
      rfl
    rw [List.length_cons, List.replicate_succ, System.replay?, if_pos (show system.guard w (.socketAccept fd) from rfl),
      stepped]
    exact ran

/-- In runs that keep to the listeners, a datagram of an unknown connection opens an entry only for an owner that
listens, and everybody who waits at an open socket can be accepted there. -/
theorem only_listeners_take_connections
    (run : (system.restrict fun w action => w.KeepsToListeners action).Reachable {} w) :
    (∀ e id result, w.KeepsToListeners (.datagram e id) → w.perform (.datagram e id) = .ok result →
      result.2.numSockets ≠ w.numSockets →
      ∃ udp cached owner, (w.epollers e).dispatch = some (udp, cached) ∧ w.connectionManager.get udp id = -1 ∧
        w.findOwner udp cached = .ok (some owner) ∧ (w.sockets owner).socketState = .binded) ∧
    ∀ o ahead child rest, (w.sockets o).socketState ≠ .closed →
      (w.sockets o).acceptSockets = ahead ++ child :: rest →
      (w.sockets o).socketState = .binded ∧
      ∃ w', system.replay? w (List.replicate ahead.length (.socketAccept (w.sockets o).fd)) = some w' ∧
        ∃ after, w'.perform (.socketAccept (w.sockets o).fd) = .ok (⟨(w.sockets child).fd, none⟩, after) := by
  have attended := reachable_attended run
  refine ⟨?_, ?_⟩
  · intro e id result keeps performed opens
    rw [perform] at performed
    split at performed
    · cases performed
      exact (opens rfl).elim
    · next udp cached dispatching =>
      obtain ⟨after, dispatched, returned⟩ := bind_eq_ok performed
      cases returned
      obtain rfl | ⟨owner, unknown, found, -⟩ := dispatchDatagram_outcome dispatched
      · exact (opens rfl).elim
      · have only := keeps (udp, cached) dispatching unknown
        exact ⟨udp, cached, owner, dispatching, unknown, found, attended.owner_binded dispatching only found⟩
  · intro o ahead child rest isOpen waiting
    have nonempty : w.queue o ≠ [] := by
      rw [show w.queue o = ahead ++ child :: rest from waiting]
      exact List.append_ne_nil_of_right_ne_nil _ (List.cons_ne_nil _ _)
    have binded : (w.sockets o).socketState = .binded := attended.waiting o nonempty isOpen
    have held : w.fdManager (w.sockets o).fd = some (.socket o) :=
      attended.order.roles.sound.holder_eq_of_nonneg (attended.order.roles.held o isOpen)
    exact ⟨binded, socketAccept_reaches held binded waiting⟩

/-- Two connections reach a listener, and a third one arrives. -/
def servesTwo : List Action :=
  [.createSocket 7, .bind 1 (.ok 5) none, .createEpoll, .epollAdd 0 1 { pollin := true } 0 false,
    .beginUdpEvent 0 5, .datagram 0 98, .datagram 0 99, .handshakeComplete 1, .handshakeComplete 2]

theorem servesTwo_listener :
    ∃ w, (system.restrict fun w action => w.KeepsToListeners action).replay? {} servesTwo = some w ∧
      (∃ udp cached owner, (w.epollers 0).dispatch = some (udp, cached) ∧ w.connectionManager.get udp 100 = -1 ∧
        w.findOwner udp cached = .ok (some owner) ∧ (w.sockets owner).socketState = .binded) ∧
      ∃ w', system.replay? w [.socketAccept (w.sockets 0).fd] = some w' ∧
        ∃ after, w'.perform (.socketAccept (w.sockets 0).fd) = .ok (⟨(w.sockets 2).fd, none⟩, after) := by
  have ends : ∃ w ∈ (system.restrict fun w action => w.KeepsToListeners action).replay? {} servesTwo,
      w.KeepsToListeners (.datagram 0 100) ∧
      (∃ r ∈ (w.perform (.datagram 0 100)).toOption, r.2.numSockets ≠ w.numSockets) ∧
      (w.sockets 0).socketState ≠ .closed ∧ (w.sockets 0).acceptSockets = [1, 2] := by decide
  obtain ⟨w, ran, keeps, ⟨result, performed, opens⟩, isOpen, waiting⟩ := ends
  obtain ⟨takes, accepts⟩ := only_listeners_take_connections (System.reachable_of_replay? ran)
  exact ⟨w, ran, takes 0 100 result keeps (eq_ok_of_toOption performed) opens,
    (accepts 0 [1] 2 [] isOpen waiting).2⟩

/-- A client connects to a server. -/
def connectsToServer : List Action :=
  [.createSocket 7, .connect 1 (.ok 5), .createEpoll, .epollAdd 0 1 { pollin := true } 0 false, .handshakeComplete 0,
    .beginUdpEvent 0 5]

/-- A datagram with a foreign connection id opens an entry for the connected client, and once the handshake of that
entry is over it waits where nobody can accept it. -/
theorem connectsToServer_takes_connection :
    ∃ w, system.Reachable {} w ∧ (w.sockets 0).socketState = .connected ∧
      (w.epollers 0).dispatch = some (5, none) ∧ w.connectionManager.get 5 99 = -1 ∧
      w.findOwner 5 none = .ok (some 0) ∧
      ∃ r ∈ (w.perform (.datagram 0 99)).toOption, r.2.numSockets = w.numSockets + 1 ∧
        ∃ r' ∈ (r.2.perform (.handshakeComplete 1)).toOption, (r'.2.sockets 0).acceptSockets = [1] ∧
          ∃ r'' ∈ (r'.2.perform (.socketAccept 1)).toOption, r''.1 = .fail .einval := by
  apply System.exists_reachable connectsToServer
  decide

end World

end PosixQuic
