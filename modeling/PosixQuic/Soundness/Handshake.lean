import PosixQuic.Soundness.Roles

/-! # Who a finished handshake is handed to

`OnCryptoHandshakeComplete` of a server side entry asks the routing table for the owner of its UDP
socket and follows the answer without a test. The owner is there as long as nobody closes a listener
that is still needed: by an entry whose handshake is under way on the same UDP socket, or by a `Wait`
that has kept a pointer to it for the datagrams it is receiving.
-/

namespace PosixQuic

open Machine

namespace Directory

variable {d d' : Directory} {may : EntryPtr → Prop}

theorem Advances.ne_shared {socketState next : QuicSocketState} (advances : Advances socketState next) :
    next ≠ .shared := by
  cases advances <;> decide

/-- Every handshake under way has a listener to be handed to. -/
structure Listening (d : Directory) : Prop extends Roles d where
  listened : ∀ s udp, d.perspective s = .isServer → d.socketState s = .shared → d.udp (.socket s) = some udp →
    d.connectionManager.owners udp ≠ none
  cachedListens : ∀ e udp owner, d.dispatch e = some (udp, some owner) → d.Listens owner udp

namespace Listening

/-- A step that starts no handshake and leaves the owners alone. -/
theorem of_same (listening : d.Listening) (roles : d'.Roles) (routes : SameRoutes d d')
    (perspective : d'.perspective = d.perspective)
    (shared : ∀ s, d'.socketState s = .shared → d.socketState s = .shared)
    (dispatch : ∀ e udp owner, d'.dispatch e = some (udp, some owner) → d.Listens owner udp) : d'.Listening where
  toRoles := roles
  listened s udp server sharedAfter set := by
    rw [perspective] at server
    rw [routes.udp] at set
    rw [routes.connectionManager]
    exact listening.listened s udp server (shared s sharedAfter) set
  cachedListens e udp owner dispatching := (routes.listens_iff owner udp).mpr (dispatch e udp owner dispatching)

/-- A step that leaves sockets, owners and cached owners alone. -/
theorem of_eq (listening : d.Listening) (roles : d'.Roles) (routes : SameRoutes d d')
    (perspective : d'.perspective = d.perspective) (socketState : d'.socketState = d.socketState)
    (dispatch : d'.dispatch = d.dispatch) : d'.Listening :=
  listening.of_same roles routes perspective (fun _ => by rw [socketState]; exact id)
    (by rw [dispatch]; exact listening.cachedListens)

theorem createSocket (listening : d.Listening) (id : QuicConnectionId) :
    (d.createSocket .isClient id).Listening where
  toRoles := listening.toRoles.createSocket id
  listened s udp server shared set := by
    have old : s ≠ d.numSockets := by
      rintro rfl
      simp [Directory.createSocket] at server
    simp only [Directory.createSocket, Function.update_of_ne old, Function.update_of_ne (EntryPtr.socket_ne old)]
      at server shared set
    exact listening.listened s udp server shared set
  cachedListens e udp owner dispatching :=
    (listening.listens_createSocket .isClient id owner udp).mpr (listening.cachedListens e udp owner dispatching)

/-- A new entry needs a listener from the start. -/
theorem adopt (listening : d.Listening) {udp : UdpSocket} {id : QuicConnectionId}
    (owned : d.connectionManager.owners udp ≠ none) (roles : (d.adopt udp id).Roles) : (d.adopt udp id).Listening where
  toRoles := roles
  listened s u server shared set := by
    rw [owners_adopt]
    by_cases same : s = d.numSockets
    · subst same
      rw [(d.adopt_new udp id).2.1] at set
      exact Option.some.inj set ▸ owned
    · obtain ⟨perspective, state, setBefore, -⟩ := d.adopt_older udp id same
      rw [perspective] at server
      rw [state] at shared
      rw [setBefore] at set
      exact listening.listened s u server shared set
  cachedListens e u owner dispatching :=
    (listening.listens_adopt udp id owner u).mpr (listening.cachedListens e u owner dispatching)

variable {s : SocketId}

/-- A socket that gets a UDP socket of its own listens on it. -/
theorem route (listening : d.Listening) {udp : UdpSocket} (state : d.socketState s = .none)
    (unbound : d.UdpUnbound udp) (roles : (d.route s udp .inited true).Roles) :
    (d.route s udp .inited true).Listening := by
  have isOpen : d.socketState s ≠ .closed := by rw [state]; decide
  refine ⟨roles, ?_, ?_⟩
  · intro x u server shared set
    have other : x ≠ s := fun same => listening.client_of_none state (same ▸ server)
    simp only [Directory.route, Function.update_of_ne other, Function.update_of_ne (EntryPtr.socket_ne other),
      ConnectionManager.owners_put, true_and] at shared set ⊢
    split_ifs
    · simp
    · exact listening.listened x u server shared set
  · intro e u owner dispatching
    have before := listening.cachedListens e u owner dispatching
    -- nobody has used the UDP socket before
    have unused : u ≠ udp := by
      rintro rfl
      exact unbound owner (listening.listens_lt before) (listening.held owner before.2)
        (listening.udp_of_listens before)
    exact (listening.listens_route udp isOpen owner u).mpr (.inr ⟨unused, before⟩)

/-- Nothing still needs the socket as a listener. -/
def Dispensable (d : Directory) (s : SocketId) : Prop :=
  ∀ udp, d.Listens s udp →
    (∀ x, d.perspective x = .isServer → d.socketState x = .shared → d.udp (.socket x) ≠ some udp) ∧
      ∀ e, d.dispatch e ≠ some (udp, some s)

/-- Closing a socket that nothing needs as a listener. -/
theorem mark (listening : d.Listening) (isOpen : d.socketState s ≠ .closed) (dispensable : Dispensable d s) :
    (d.mark s).Listening := by
  refine ⟨listening.toRoles.mark isOpen, ?_, ?_⟩
  · intro x u server shared set
    have other : x ≠ s := by
      rintro rfl
      simp [Directory.mark] at shared
    simp only [Directory.mark, Function.update_of_ne other] at shared
    rw [listening.owners_mark isOpen, if_neg]
    · exact listening.listened x u server shared set
    · intro owns
      exact (dispensable u ⟨owns, isOpen⟩).1 x server shared set
  · intro e u owner dispatching
    have before := listening.cachedListens e u owner dispatching
    have other : owner ≠ s := by
      rintro rfl
      exact (dispensable u before).2 e dispatching
    refine ⟨?_, by simpa [Directory.mark, other] using before.2⟩
    rw [listening.owners_mark isOpen, if_neg]
    · exact before.1
    · intro owns
      have same : d.fd (.socket owner) = d.fd (.socket s) := Option.some.inj (before.1.symm.trans owns)
      exact other ((listening.fd_eq_iff isOpen).mp same)

/-- A change that adds no handshake and no cached owner leaves a dispensable socket dispensable. -/
theorem dispensable_mono (dispensable : Dispensable d s) (listens : ∀ udp, d'.Listens s udp → d.Listens s udp)
    (perspective : d'.perspective = d.perspective)
    (shared : ∀ x, d'.socketState x = .shared → d.socketState x = .shared)
    (udp : ∀ x, d'.udp (.socket x) = d.udp (.socket x)) (dispatch : d'.dispatch = d.dispatch) : Dispensable d' s := by
  intro u listensAfter
  obtain ⟨unneeded, uncached⟩ := dispensable u (listens u listensAfter)
  refine ⟨?_, fun e => dispatch ▸ uncached e⟩
  intro x server sharedX
  rw [perspective] at server
  rw [udp]
  exact unneeded x server (shared x sharedX)

/-- The owner that a datagram finds is a listener, cached or not. -/
theorem listens_of_owns (listening : d.Listening) {e : EpollerId} {udp : UdpSocket} {cached : Option SocketId}
    {owner : SocketId} (dispatching : d.dispatch e = some (udp, cached)) (owns : d.Owns udp cached owner) :
    d.Listens owner udp := by
  rcases owns with rfl | ⟨-, found, -⟩
  · exact listening.cachedListens e udp owner dispatching
  · exact listening.listens_of_getOwner found

/-- Only the close of a socket can take a listener away. -/
theorem step (listening : d.Listening) (noSocket : ∀ s, ¬ may (.socket s)) (step : Step may d d') :
    d'.Listening := by
  have roles := listening.toRoles.step step
  cases step with
  | createSocket id => exact listening.createSocket id
  | createStream s =>
    refine listening.of_eq roles ⟨rfl, rfl, fun _ => Iff.rfl, ?_, rfl, ?_⟩ rfl rfl rfl
    · exact fun x => by simp [Directory.createStream]
    · exact fun x _ => by simp [Directory.createStream]
  | setUdpSocket s sock udp found state unset unbound => exact listening.route state unbound roles
  | syn e udp cached owner ownerUdp key dispatching missing owns set =>
    have listens := listening.listens_of_owns dispatching owns
    have same : ownerUdp = udp := Option.some.inj (set.symm.trans (listening.udp_of_listens listens))
    subst same
    have dispatches : (d.setDispatch e (some (ownerUdp, some owner))).Listening := by
      refine listening.of_same (listening.toRoles.of_same (Roles.sameRoles_of_eq ?_ rfl rfl rfl)
        (listening.toRouting.setDispatch dispatching owns)) ?_ rfl (fun _ => id) ?_
      · exact ⟨rfl, rfl, fun _ => Iff.rfl, fun _ => rfl, rfl, fun _ _ => rfl⟩
      · exact ⟨rfl, rfl, fun _ => Iff.rfl, fun _ => rfl, rfl, fun _ _ => rfl⟩
      intro x u other dispatchingAfter
      by_cases here : x = e
      · subst here
        simp only [Directory.setDispatch, Function.update_self, Option.some.injEq, Prod.mk.injEq]
          at dispatchingAfter
        obtain ⟨rfl, rfl⟩ := dispatchingAfter
        exact listens
      · exact listening.cachedListens x u other (by simpa [Directory.setDispatch, here] using dispatchingAfter)
    refine dispatches.adopt ?_ roles
    rw [show (d.setDispatch e (some (ownerUdp, some owner))).connectionManager.owners ownerUdp = _ from listens.1]
    simp
  | setState s socketState advances =>
    refine listening.of_same roles (Roles.sameRoles_setState advances).toSameRoutes rfl ?_ listening.cachedListens
    intro x shared
    by_cases same : x = s
    · subst same
      simp only [Directory.setState, Function.update_self] at shared
      exact (advances.ne_shared shared).elim
    · simpa [Directory.setState, same] using shared
  | enqueue s child udp found server _ =>
    exact listening.of_eq roles (listening.sameRoles_enqueue found server).toSameRoutes rfl rfl rfl
  | dequeue s => exact listening.of_eq roles (Roles.sameRoles_dequeue d s).toSameRoutes rfl rfl rfl
  | mark s never _ => exact (noSocket s never).elim
  | disconnect s =>
    exact listening.of_eq roles ⟨rfl, rfl, fun _ => Iff.rfl, fun _ => rfl, rfl, fun _ _ => rfl⟩ rfl rfl rfl
  | release entry _ closed =>
    have same := Roles.sameRoles_release closed
    refine listening.of_eq roles same.toSameRoutes same.perspective ?_ ?_
    all_goals
      unfold Directory.release
      split_ifs <;> rfl
  | tell entry _ =>
    exact listening.of_eq roles ⟨rfl, rfl, fun _ => Iff.rfl, fun _ => rfl, rfl, fun _ _ => rfl⟩ rfl rfl rfl
  | setDispatch e udp =>
    refine listening.of_same roles ⟨rfl, rfl, fun _ => Iff.rfl, fun _ => rfl, rfl, fun _ _ => rfl⟩ rfl
      (fun _ => id) ?_
    intro x u owner dispatching
    by_cases same : x = e
    · subst same
      cases udp <;> simp [Directory.setDispatch] at dispatching
    · exact listening.cachedListens x u owner (by simpa [Directory.setDispatch, same] using dispatching)

end Listening

end Directory

namespace World

open Directory

/-- What a close of `o` keeps, as long as `o` is no longer needed as a listener. -/
def ClosesQuietly (perspective : SocketId → Perspective) (o : SocketId) (w : World) : Prop :=
  w.directory.Listening ∧ w.directory.perspective = perspective ∧ Listening.Dispensable w.directory o

variable {perspective : SocketId → Perspective} {o s : SocketId} {w : World}

theorem ClosesQuietly.of_step {w' : World} (quietly : w.ClosesQuietly perspective o)
    (step : Step (fun _ => True) w.directory w'.directory) (routes : SameRoutes w.directory w'.directory)
    (perspectives : w'.directory.perspective = w.directory.perspective)
    (socketState : w'.directory.socketState = w.directory.socketState)
    (dispatch : w'.directory.dispatch = w.directory.dispatch) : w'.ClosesQuietly perspective o := by
  obtain ⟨listening, before, dispensable⟩ := quietly
  refine ⟨listening.of_eq (listening.toRoles.step step) routes perspectives socketState dispatch,
    perspectives.trans before, ?_⟩
  exact Listening.dispensable_mono dispensable (fun udp => (routes.listens_iff o udp).mp) perspectives
    (fun _ => by rw [socketState]; exact id) routes.udp dispatch

theorem ClosesQuietly.mark (quietly : w.ClosesQuietly perspective o) (aimed : s = o ∨ perspective s = .isServer)
    (isOpen : ¬ w.Closed s) : (w.mark s).ClosesQuietly perspective o := by
  obtain ⟨listening, perspectives, dispensable⟩ := quietly
  have dispensableHere : Listening.Dispensable w.directory s := by
    rcases aimed with rfl | server
    · exact dispensable
    · exact fun udp listens => (listening.not_listens_server (perspectives ▸ server) udp listens).elim
  have changed := w.mark_directory s
  unfold ClosesQuietly
  rw [changed]
  refine ⟨listening.mark isOpen dispensableHere, perspectives, ?_⟩
  refine Listening.dispensable_mono dispensable ?_ rfl ?_ (fun _ => rfl) rfl
  · intro udp listens
    exact (listening.listens_of_mark isOpen listens).2
  · intro x shared
    by_cases same : x = s
    · subst same
      simp [Directory.mark] at shared
    · simpa [Directory.mark, same] using shared

theorem ClosesQuietly.delete (quietly : w.ClosesQuietly perspective o) (closed : w.Closed s) :
    (w.deleteQuicSocketEntry s).ClosesQuietly perspective o := by
  have changed := w.directory_deleteQuicSocketEntry s
  have only : ∀ x, EntryPtr.socket s = .socket x → w.directory.socketState x = .closed := by
    rintro _ ⟨⟩
    exact closed
  have same := Roles.sameRoles_release only
  refine quietly.of_step ?_ ?_ ?_ ?_ ?_ <;> rw [changed]
  · exact .release _ _ trivial only
  · exact same.toSameRoutes
  · exact same.perspective
  all_goals
    rw [Directory.release]
    split_ifs <;> rfl

theorem ClosesQuietly.announce (quietly : w.ClosesQuietly perspective o) (s : SocketId) (errorCode : Int)
    (fromRemote : Bool) : (w.announce s errorCode fromRemote).ClosesQuietly perspective o := by
  have changed := w.announce_directory s errorCode fromRemote
  refine quietly.of_step ?_ ?_ ?_ ?_ ?_ <;> rw [changed]
  · exact .disconnect _ s
  · exact ⟨rfl, rfl, fun _ => Iff.rfl, fun _ => rfl, rfl, fun _ _ => rfl⟩
  all_goals rfl

theorem closable_quietly (perspective : SocketId → Perspective) (o : SocketId) :
    Closable (fun _ => True) (fun s => s = o ∨ perspective s = .isServer) (ClosesQuietly perspective o) where
  queued w s quietly _ child member := .inr (quietly.2.1 ▸ quietly.1.queuedServer s child member)
  mark w s quietly aimed isOpen := quietly.mark aimed isOpen
  announce w s errorCode fromRemote quietly _ _ := quietly.announce s errorCode fromRemote
  releaseServer w s quietly _ closed _ _ :=
    (quietly.announce s quicConnectionCancelled false).delete
      (((w.kept_announce s quicConnectionCancelled false).closed_iff s).mpr closed)
  clear w s quietly _ _ _ := by
    cases cleared : w.clearWaitingsByClose (.socket s) with
    | error fault => trivial
    | ok w' =>
      have changed : w'.directory = w.directory.tell (.socket s) := directory_clearWaitingsByClose cleared
      change w'.ClosesQuietly perspective o
      refine quietly.of_step ?_ ?_ ?_ ?_ ?_ <;> rw [changed]
      · exact .tell _ _ trivial
      · exact ⟨rfl, rfl, fun _ => Iff.rfl, fun _ => rfl, rfl, fun _ _ => rfl⟩
      all_goals rfl
  release w s quietly _ closed _ := quietly.delete closed
  pop w s quietly _ := by
    have changed := w.popAccept_directory s
    refine quietly.of_step ?_ ?_ ?_ ?_ ?_ <;> rw [changed]
    · exact .dequeue _ s
    · exact (Roles.sameRoles_dequeue _ s).toSameRoutes
    all_goals rfl

/-- A handshake under way, or a `Wait` that is receiving datagrams, relies on the socket as the owner of
its UDP socket. -/
def NeededAsListener (w : World) (s : SocketId) : Prop :=
  ∃ udp, w.connectionManager.owners udp = some (w.sockets s).fd ∧ (w.sockets s).socketState ≠ .closed ∧
    ((∃ x, (w.sockets x).perspective = .isServer ∧ (w.sockets x).socketState = .shared ∧
        (w.sockets x).udpSocket = some udp) ∨
      ∃ e, (w.epollers e).dispatch = some (udp, some s))

/-- The application closes no socket that is needed as a listener. -/
def KeepsListeners (w : World) : Action → Prop
  | .closeSocket sock => ∀ s, w.fdManager sock = some (.socket s) → ¬ w.NeededAsListener s
  | _ => True

theorem dispensable_of_not_needed (unneeded : ¬ w.NeededAsListener s) : Listening.Dispensable w.directory s := by
  rintro udp ⟨owns, isOpen⟩
  refine ⟨?_, ?_⟩
  · intro x server shared set
    exact unneeded ⟨udp, owns, isOpen, .inl ⟨x, server, shared, set⟩⟩
  · intro e dispatching
    exact unneeded ⟨udp, owns, isOpen, .inr ⟨e, dispatching⟩⟩

theorem quicCloseSocket_listening (listening : w.directory.Listening) (settled : w.Settled) {sock : Fd}
    (keeps : w.KeepsListeners (.closeSocket sock)) :
    Yields (fun _ => True) (fun result => result.2.directory.Listening ∧ result.2.Settled)
      (w.quicCloseSocket sock) := by
  by_cases found : ∃ s, w.fdManager sock = some (.socket s)
  · obtain ⟨o, found⟩ := found
    have aimed : ∀ s, w.fdManager sock = some (.socket s) → s = o ∨ w.directory.perspective s = .isServer := by
      intro s lookup
      rw [found] at lookup
      exact .inl (EntryPtr.socket.inj (Option.some.inj lookup)).symm
    refine (quicCloseSocket_yields (closable_quietly w.directory.perspective o) sock w
      ⟨listening, rfl, dispensable_of_not_needed (keeps o found)⟩ aimed settled).imp ?_
    rintro result ⟨quietly, settledAfter, -⟩
    exact ⟨quietly.1, settledAfter⟩
  · exact withSocket_yields ⟨listening, settled⟩ fun s lookup => (found ⟨s, lookup⟩).elim

theorem connectionClosed_listening (listening : w.directory.Listening) (settled : w.Settled) (s : SocketId)
    (errorCode : Int) (fromRemote : Bool) :
    Yields (fun _ => True) (fun w' => w'.directory.Listening ∧ w'.Settled)
      (onConnectionClosed close s errorCode fromRemote (w.disconnect s)) := by
  -- a name that is not in use yet stands for no other target
  have blank : Listening.Dispensable w.directory w.directory.numSockets := fun udp listens =>
    (listens.2 (listening.blank _ le_rfl).1).elim
  have quiet : w.ClosesQuietly w.directory.perspective w.directory.numSockets := ⟨listening, rfl, blank⟩
  refine (connectionClosed_yields (closable_quietly w.directory.perspective w.directory.numSockets) s errorCode
    fromRemote w (quiet.announce s errorCode fromRemote) .inr settled).imp ?_
  rintro w' ⟨quietly, settledAfter⟩
  exact ⟨quietly.1, settledAfter⟩

theorem perform_listening (listening : w.directory.Listening) (settled : w.Settled) {action : Action}
    (admitted : w.admits action = true) (keeps : w.KeepsListeners action) :
    Yields (fun _ => True) (fun result => result.2.directory.Listening ∧ result.2.Settled) (w.perform action) := by
  by_cases closes : action.Closes
  · cases action with
    | closeSocket sock => exact quicCloseSocket_listening listening settled keeps
    | closeStream stream =>
      have refines : Yields (· ≠ Fault.outOfFuel)
          (fun result => Refines (fun entry => ∃ t, entry = .stream t) w.directory result.2)
          (w.quicCloseStream stream) := quicCloseStream_refines settled stream fun t _ => ⟨t, rfl⟩
      cases closed : w.quicCloseStream stream with
      | error fault =>
        simp only [perform, closed]
        trivial
      | ok result =>
        simp only [perform, closed]
        obtain ⟨steps, settledAfter⟩ := refines.of_ok closed
        have noSocket : ∀ s, ¬ ∃ t, EntryPtr.socket s = .stream t := by
          rintro s ⟨t, same⟩
          cases same
        exact ⟨steps.invariant (fun _ _ holds => holds.step noSocket) listening, settledAfter⟩
    | connectionClosed s errorCode fromRemote =>
      exact (connectionClosed_listening listening settled s errorCode fromRemote).bind fun _ holds => holds
    | _ => exact closes.elim
  · cases performed : w.perform action with
    | error fault => trivial
    | ok result =>
      obtain ⟨steps, settledAfter⟩ : Refines (fun _ => False) w.directory result.2 :=
        (perform_refines_quiet settled admitted closes).of_ok performed
      exact ⟨steps.invariant (fun _ _ holds => holds.step fun _ never => never) listening, settledAfter⟩

theorem reachable_listening (reachable : (system.restrict KeepsListeners).Reachable {} w) :
    w.directory.Listening ∧ w.Settled := by
  refine reachable.invariant (P := fun w => w.directory.Listening ∧ w.Settled) ⟨?_, ?_⟩ ?_
  · exact ⟨start_roles, nofun, nofun⟩
  · exact ⟨fun _ _ => rfl, fun _ _ => rfl⟩
  · rintro before action after ⟨listening, settled⟩ ⟨admitted, keeps⟩ stepped
    obtain ⟨result, performed⟩ := step_eq_ok stepped
    exact (perform_listening listening settled admitted keeps).of_ok performed

theorem mem_pushAcceptQueue (w : World) (owner s : SocketId) :
    s ∈ ((w.pushAcceptQueue owner s).sockets owner).acceptSockets := by
  change s ∈ (w.pushAcceptQueue owner s).directory.acceptSockets owner
  rw [directory_pushAcceptQueue]
  simp [enqueue]

/-- With a listener in the routing table, the callback queues the entry there. -/
theorem onCryptoHandshakeComplete_queues {owner : SocketId} {udp : UdpSocket}
    (server : w.directory.perspective s = .isServer) (set : w.directory.udp (.socket s) = some udp)
    (found : w.fdManager (w.connectionManager.getOwner udp) = some (.socket owner)) :
    ∃ w', w.onCryptoHandshakeComplete s = .ok w' ∧ s ∈ (w'.sockets owner).acceptSockets := by
  have changed : ((w.setSocketState s .connected).setWritable (.socket s) true).directory =
      w.directory.setState s .connected := (directory_setWritable ..).trans (w.directory_setSocketState s _)
  unfold onCryptoHandshakeComplete
  generalize (w.setSocketState s .connected).setWritable (.socket s) true = ready at changed ⊢
  refine ⟨_, ?_, mem_pushAcceptQueue ready owner s⟩
  dsimp only
  rw [show (ready.sockets s).perspective = .isServer from
    (congrFun (congrArg Directory.perspective changed) s).trans server]
  dsimp only
  rw [show (ready.sockets s).udpSocket = some udp from
    (congrFun (congrArg Directory.udp changed) (.socket s)).trans set]
  dsimp only
  rw [show ready.fdManager = w.fdManager from congrArg Directory.fdManager changed,
    show ready.connectionManager = w.connectionManager from congrArg Directory.connectionManager changed, found]
  rfl

/-- If the application closes no listener that is still needed, every finished handshake of a server side
entry finds an open owner under the descriptor that `GetOwner` returns, and is queued there. -/
theorem handshake_finds_listener (reachable : (system.restrict KeepsListeners).Reachable {} w)
    (reported : w.admits (.handshakeComplete s) = true) (server : (w.sockets s).perspective = .isServer) :
    ∃ udp owner w', (w.sockets s).udpSocket = some udp ∧
      w.fdManager (w.connectionManager.getOwner udp) = some (.socket owner) ∧
      (w.sockets owner).socketState ≠ .closed ∧ w.step (.handshakeComplete s) = .ok w' ∧
      s ∈ (w'.sockets owner).acceptSockets := by
  obtain ⟨listening, -⟩ := reachable_listening reachable
  obtain ⟨served, udp, set⟩ := listening.served s server
  have shared : w.directory.socketState s = .shared := by
    simp only [admits, Bool.and_eq_true, decide_eq_true_eq] at reported
    rcases reported.2 with connecting | shared
    · have state : w.directory.socketState s = .connecting := connecting
      rw [state] at served
      simp [ServerState] at served
    · exact shared
  have listened := listening.listened s udp server shared set
  obtain ⟨fd, registered⟩ := Option.ne_none_iff_exists'.mp listened
  have getOwner : w.connectionManager.getOwner udp = fd := by
    have owns : w.connectionManager.owners udp = some fd := registered
    simp [ConnectionManager.getOwner, owns]
  obtain ⟨owner, found, isOpen, -⟩ := owner_held listening.toRouting registered
  rw [← getOwner] at found
  obtain ⟨w', completed, queued⟩ := onCryptoHandshakeComplete_queues server set found
  refine ⟨udp, owner, w', set, found, isOpen, ?_, queued⟩
  simp only [step, perform, completed]
  rfl

/-- Two connections reach a listener, the first one is accepted and registered. -/
def acceptsTwo : List Action :=
  [.createSocket 7, .bind 1 (.ok 5) none, .createEpoll, .epollAdd 0 1 { pollin := true } 0 false,
    .beginUdpEvent 0 5, .datagram 0 98, .handshakeComplete 1, .endUdpEvent 0, .socketAccept 1,
    .epollAdd 0 2 { pollin := true } 1 false, .beginUdpEvent 0 5, .datagram 0 99, .endUdpEvent 0]

theorem acceptsTwo_finds_listener :
    ∃ w, system.replay? {} acceptsTwo = some w ∧
      ∃ udp owner w', (w.sockets 2).udpSocket = some udp ∧
        w.fdManager (w.connectionManager.getOwner udp) = some (.socket owner) ∧
        (w.sockets owner).socketState ≠ .closed ∧ w.step (.handshakeComplete 2) = .ok w' ∧
        2 ∈ (w'.sockets owner).acceptSockets := by
  have ends : (system.replay? {} acceptsTwo).map
      (fun w => (w.admits (.handshakeComplete 2), (w.sockets 2).perspective)) = some (true, .isServer) := by
    decide
  obtain ⟨w, executed, observed⟩ := Option.map_eq_some_iff.mp ends
  rw [Prod.mk.injEq] at observed
  have meets : ∀ action ∈ acceptsTwo, ∀ before, KeepsListeners before action := by
    intro action member before
    fin_cases member <;> trivial
  exact ⟨w, executed, handshake_finds_listener (System.reachable_restrict_of_replay? executed meets)
    observed.1 observed.2⟩

/-- The listener connects and is closed before the last datagram of the second handshake. The accepted connection keeps
the UDP socket registered, and the callback follows the null pointer. -/
theorem closed_listener_dereferenced :
    ∃ w, system.replay? {} (acceptsTwo ++ [.connect 1 (.ok 6), .closeSocket 1]) = some w ∧
      w.admits (.handshakeComplete 2) = true ∧ (w.sockets 2).perspective = .isServer ∧
      (w.epollers 0).interest 5 = true ∧ w.step (.handshakeComplete 2) = .error .nullDereference := by
  have ends : (system.replay? {} (acceptsTwo ++ [.connect 1 (.ok 6), .closeSocket 1])).map (fun w =>
      (w.admits (.handshakeComplete 2), (w.sockets 2).perspective, (w.epollers 0).interest 5,
        fault? (w.step (.handshakeComplete 2)))) =
      some (true, .isServer, true, some .nullDereference) := by decide
  obtain ⟨w, executed, observed⟩ := Option.map_eq_some_iff.mp ends
  simp only [Prod.mk.injEq] at observed
  obtain ⟨reported, server, polled, faulted⟩ := observed
  exact ⟨w, executed, reported, server, polled, fault?_eq_some faulted⟩

end World

end PosixQuic
