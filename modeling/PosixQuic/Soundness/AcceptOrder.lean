import PosixQuic.Model.Reception
import PosixQuic.Soundness.AcceptQueues

/-! # Accept queues are first in, first out

While a listener is open, the connections completed for it are those it has returned followed by those in its
queue. Its close empties the queue, and whoever was in it has lost its descriptor, its route and its place in the
tables by then. A descriptor that an entry has lost was freed once.
-/

namespace PosixQuic

open Machine Directory

@[simp]
theorem joining_none (o : SocketId) : joining none o = [] := rfl

theorem mem_joining {event : Option (SocketId × SocketId)} {o child : SocketId} :
    child ∈ joining event o ↔ event = some (o, child) := by
  unfold joining
  split
  · next owner x =>
    split_ifs with same
    · simp [same, eq_comm]
    · simp [Ne.symm same]
  · simp

theorem FdFactory.acq_le_alloc (factory : FdFactory) : factory.acq ≤ factory.alloc.2.acq := by
  unfold FdFactory.alloc
  split
  · exact Int.le_add_one le_rfl
  · exact le_rfl

theorem Directory.Step.acq_le {may : EntryPtr → Prop} {d d' : Directory} (step : Step may d d') :
    d.fdFactory.acq ≤ d'.fdFactory.acq := by
  cases step with
  | createSocket id => exact d.fdFactory.acq_le_alloc
  | createStream s => exact d.fdFactory.acq_le_alloc
  | syn e udp cached owner ownerUdp id _ _ _ _ => exact d.fdFactory.acq_le_alloc
  | release entry _ _ =>
    unfold Directory.release
    split_ifs <;> exact le_rfl
  | _ => exact le_rfl

namespace World

variable {w after : World} {action : Action} {result : CallResult × World} {s o child : SocketId}

/-! ## Closed entries and their descriptors -/

/-- Between two actions exactly the closed entries have no descriptor. -/
theorem InOrder.closed_iff (order : w.InOrder) (s : SocketId) : w.Closed s ↔ w.directory.fd (.socket s) < 0 := by
  refine ⟨order.gone s, fun lost => ?_⟩
  by_contra isOpen
  exact absurd lost (not_lt.mpr (order.roles.held s isOpen))

/-- An entry under a descriptor is open. -/
theorem InOrder.open_of_held (order : w.InOrder) {fd : Fd} (held : w.fdManager fd = some (.socket s)) :
    ¬ w.Closed s := by
  intro closed
  have remembered : w.directory.fd (.socket s) = fd := order.roles.sound.handle_of_holder fd _ held
  have positive := (order.roles.sound.pos_of_held held).1
  exact absurd (remembered ▸ order.gone s closed) (not_lt.mpr (Int.le_of_lt positive))

/-- The two actions that close sockets. -/
def ClosesSocket (action : Action) : Prop :=
  (∃ sock, action = .closeSocket sock) ∨ ∃ s errorCode fromRemote, action = .connectionClosed s errorCode fromRemote

/-- An action that closes no socket leaves the closed ones closed and the descriptors of all others alone. -/
theorem perform_keeps_sockets (order : w.InOrder) (admitted : w.admits action = true) (quiet : ¬ ClosesSocket action)
    (performed : w.perform action = .ok result) (known : s < w.numSockets) :
    (w.Closed s ↔ result.2.Closed s) ∧
      (0 ≤ w.directory.fd (.socket s) → result.2.directory.fd (.socket s) = w.directory.fd (.socket s)) := by
  by_cases closes : action.Closes
  · cases action with
    | closeSocket sock => exact (quiet (.inl ⟨sock, rfl⟩)).elim
    | connectionClosed s errorCode fromRemote => exact (quiet (.inr ⟨s, errorCode, fromRemote, rfl⟩)).elim
    | closeStream stream =>
      obtain ⟨-, state, -, -, -, -, -, -, fd⟩ := quicCloseStream_withdraws performed
      refine ⟨?_, fun _ => fd (.socket s) fun t _ same => by cases same⟩
      rw [Closed, Closed, state]
    | _ => exact closes.elim
  · have endures := perform_endures order.roles.toTables order.settled admitted closes performed
    refine ⟨⟨fun closed => ?_, fun closed => (endures.closed s closed).1⟩, endures.fd (.socket s)⟩
    exact (endures.state s known (.inr closed)).trans closed

/-- Whoever is closed stays closed. -/
theorem perform_closed (order : w.InOrder) (admitted : w.admits action = true)
    (performed : w.perform action = .ok result) (known : s < w.numSockets) (closed : w.Closed s) :
    result.2.Closed s := by
  by_cases closes : ClosesSocket action
  · obtain ⟨shuts, lost, -⟩ := perform_shuts order.roles order.settled order.toLined closes performed
    by_cases target : s ∈ w.closing action
    · exact ((order.perform admitted performed).closed_iff s).mpr (lost s target)
    · exact (shuts.state s target).trans closed
  · exact (perform_keeps_sockets order admitted closes performed known).1.mp closed

/-! ## Queues -/

/-- The ways through `AcceptSocket`. -/
theorem acceptSocket_outcome (w : World) (o : SocketId) :
    (∃ err, w.acceptSocket o = (.fail err, w)) ∨
    ∃ child rest, w.queue o = child :: rest ∧
      w.acceptSocket o = (⟨(w.sockets child).fd, none⟩,
        w.modSocket o fun socket => { socket with acceptSockets := rest }) := by
  unfold acceptSocket
  split_ifs
  · exact .inl ⟨.einval, rfl⟩
  · cases waiting : (w.sockets o).acceptSockets with
    | nil => exact .inl ⟨.eagain, rfl⟩
    | cons child rest => exact .inr ⟨child, rest, waiting, rfl⟩

/-- What `accepts` says of a call of `QuicSocketAccept`: the call fails, or it takes the first one out of the queue
and returns its descriptor. -/
theorem socketAccept_outcome {sock : Fd} (performed : w.perform (.socketAccept sock) = .ok result) :
    (w.accepts result.1 (.socketAccept sock) = none ∧ result.2 = w ∧ ∃ err, result.1 = .fail err) ∨
    ∃ o child rest, w.accepts result.1 (.socketAccept sock) = some (o, child) ∧ w.fdManager sock = some (.socket o) ∧
      w.queue o = child :: rest ∧ result.2.queue = Function.update w.queue o rest ∧
      result.1 = ⟨(w.sockets child).fd, none⟩ := by
  simp only [perform, withSocket, accepts] at performed ⊢
  cases found : w.fdManager sock with
  | none =>
    rw [found] at performed
    cases performed
    exact .inl ⟨rfl, rfl, .ebadf, rfl⟩
  | some entry =>
    rw [found] at performed
    cases entry with
    | stream t =>
      cases performed
      exact .inl ⟨rfl, rfl, .ebadf, rfl⟩
    | socket o =>
      cases performed
      dsimp only
      rcases w.acceptSocket_outcome o with ⟨err, accepted⟩ | ⟨child, rest, waiting, accepted⟩
      · rw [accepted]
        exact .inl ⟨rfl, rfl, err, rfl⟩
      · rw [accepted]
        have taken := w.queue_modSocket o fun socket => { socket with acceptSockets := rest }
        refine .inr ⟨o, child, rest, ?_, rfl, waiting, taken, rfl⟩
        rw [if_pos rfl, show (w.sockets o).acceptSockets = child :: rest from waiting]
        simp

/-- What `completes` says of the end of a handshake: the connection joins the queue of its listener, if it has one. -/
theorem onCryptoHandshakeComplete_joins (completed : w.onCryptoHandshakeComplete s = .ok after) (o : SocketId) :
    after.queue o = w.queue o ++ joining (w.completes (.handshakeComplete s)) o := by
  obtain ⟨ready, -, changed, outcome⟩ := onCryptoHandshakeComplete_outcome completed
  have queue : ready.queue = w.queue := congrArg Directory.acceptSockets changed
  obtain ⟨client, rfl⟩ | ⟨server, udp, owner, set, known, rfl⟩ := outcome
  · change (w.sockets s).perspective = .isClient at client
    rw [completes, if_neg (by rw [client]; decide), joining_none, List.append_nil, queue]
  · change (w.sockets s).perspective = .isServer at server
    change (w.sockets s).udpSocket = some udp at set
    have joins : w.completes (.handshakeComplete s) = some (owner, s) := by
      rw [completes, if_pos server, set]
      simp only [Option.bind_some, known]
    rw [joins, ← queue]
    have pushed : (ready.pushAcceptQueue owner s).queue =
        Function.update ready.queue owner (ready.queue owner ++ [s]) :=
      congrArg Directory.acceptSockets (ready.directory_pushAcceptQueue owner s)
    rw [pushed]
    by_cases same : o = owner
    · subst same
      rw [Function.update_self, joining, if_pos rfl]
    · rw [Function.update_of_ne same, joining, if_neg same, List.append_nil]

/-- A new entry comes with an empty queue. -/
theorem update_queue_blank (blank : w.numSockets ≤ o → w.queue o = []) :
    Function.update w.queue w.numSockets [] o = w.queue o := by
  by_cases new : o = w.numSockets
  · subst new
    rw [Function.update_self, blank le_rfl]
  · exact Function.update_of_ne new ..

theorem queue_dispatchDatagram {e : EpollerId} {udp : UdpSocket} {cached : Option SocketId} {id : QuicConnectionId}
    (dispatched : w.dispatchDatagram e udp cached id = .ok after) (blank : w.numSockets ≤ o → w.queue o = []) :
    after.queue o = w.queue o := by
  obtain rfl | ⟨owner, -, -, opened⟩ := dispatchDatagram_outcome dispatched
  · rfl
  · rw [queueFrame.onSyn opened, queue_newQuicSocketEntry]
    exact update_queue_blank blank

/-- Whatever the action, a listener that stays open returns the first of its queue, and the connections completed
for it join the end. -/
theorem perform_queue (order : w.InOrder) (performed : w.perform action = .ok result)
    (blank : w.numSockets ≤ o → w.queue o = []) (stays : o ∉ w.closing action) :
    joining (w.accepts result.1 action) o ++ result.2.queue o = w.queue o ++ joining (w.completes action) o := by
  have kept : ∀ {action : Action}, w.accepts result.1 action = none → w.completes action = none →
      result.2.queue o = w.queue o →
      joining (w.accepts result.1 action) o ++ result.2.queue o = w.queue o ++ joining (w.completes action) o := by
    intro action returns completes same
    rw [returns, completes, same, joining_none, List.nil_append, List.append_nil]
  by_cases plain : action.plain = true
  · have same : result.2.queue o = w.queue o := congrFun (perform_framed queueFrame plain performed) o
    cases action <;> first | exact kept rfl rfl same | cases plain
  cases action with
  | createSocket id =>
    cases performed
    exact kept rfl rfl ((congrFun (w.queue_newQuicSocketEntry .isClient id) o).trans (update_queue_blank blank))
  | socketAccept sock =>
    rcases socketAccept_outcome performed with ⟨returns, same, -⟩ | ⟨x, child, rest, returns, -, waiting, queue, -⟩
    · exact kept returns rfl (congrFun (congrArg World.queue same) o)
    · rw [returns, queue]
      by_cases same : o = x
      · subst same
        rw [joining, if_pos rfl, Function.update_self, waiting]
        exact (List.append_nil _).symm
      · rw [joining, if_neg same, Function.update_of_ne same]
        exact (List.append_nil _).symm
  | streamAccept sock =>
    have same : Yields (fun _ => True) (fun result => result.2.queue o = w.queue o) (w.perform (.streamAccept sock)) :=
      withSocket_yields rfl fun s _ =>
        congrFun (congrArg Directory.acceptSockets (w.acceptStream_directory s)) o
    exact kept rfl rfl (same.of_ok performed)
  | createStream sock streamId =>
    have same : Yields (fun _ => True) (fun result => result.2.queue o = w.queue o)
        (w.perform (.createStream sock streamId)) := by
      refine withSocket_yields rfl fun s _ => ?_
      unfold createStream
      split_ifs <;> rfl
    exact kept rfl rfl (same.of_ok performed)
  | incomingStream s streamId =>
    cases performed
    exact kept rfl rfl (congrFun (w.onIncomingStream_lines s streamId).1 o)
  | closeStream stream => exact kept rfl rfl (congrFun (quicCloseStream_withdraws performed).1 o)
  | datagram e id =>
    refine kept rfl rfl ?_
    rw [perform] at performed
    split at performed
    · cases performed
      rfl
    · obtain ⟨after, dispatched, returned⟩ := bind_eq_ok performed
      cases returned
      exact queue_dispatchDatagram dispatched blank
  | handshakeComplete s =>
    obtain ⟨after, completed, returned⟩ := bind_eq_ok performed
    cases returned
    exact onCryptoHandshakeComplete_joins completed o
  | closeSocket sock =>
    have closes : ClosesSocket (.closeSocket sock) := .inl ⟨sock, rfl⟩
    obtain ⟨shuts, -⟩ := perform_shuts order.roles order.settled order.toLined closes performed
    exact kept rfl rfl (shuts.queue o stays)
  | connectionClosed s errorCode fromRemote =>
    have closes : ClosesSocket (.connectionClosed s errorCode fromRemote) := .inr ⟨s, errorCode, fromRemote, rfl⟩
    obtain ⟨shuts, -⟩ := perform_shuts order.roles order.settled order.toLined closes performed
    exact kept rfl rfl (shuts.queue o stays)
  | _ => exact (plain rfl).elim

/-! ## Descriptors -/

/-- Numbers are issued and never taken out of use. -/
theorem perform_acq (order : w.InOrder) (admitted : w.admits action = true)
    (performed : w.perform action = .ok result) : w.fdFactory.acq ≤ result.2.fdFactory.acq := by
  have steps := ((perform_refines order.settled admitted).of_ok performed).1
  exact steps.invariant (P := fun d => w.fdFactory.acq ≤ d.fdFactory.acq)
    (fun _ _ before step => before.trans step.acq_le) le_rfl

/-- Nobody takes over a descriptor in the action in which its entry loses it. -/
theorem perform_vacates (order : w.InOrder) (admitted : w.admits action = true)
    (performed : w.perform action = .ok result) (held : 0 ≤ w.directory.fd (.socket s))
    (lost : result.2.directory.fd (.socket s) < 0) : result.2.fdManager (w.directory.fd (.socket s)) = none := by
  have known : s < w.numSockets := by
    by_contra beyond
    rw [order.roles.freshSocket s (not_lt.mp beyond)] at held
    exact absurd held (by decide)
  have closes : ClosesSocket action := by
    by_contra quiet
    rw [(perform_keeps_sockets order admitted quiet performed known).2 held] at lost
    exact absurd lost (not_lt.mpr held)
  obtain ⟨shuts, -⟩ := perform_shuts order.roles order.settled order.toLined closes performed
  cases holder : result.2.fdManager (w.directory.fd (.socket s)) with
  | none => rfl
  | some entry =>
    -- the close has given the descriptor to nobody, so it would be the entry's own
    have before := shuts.held _ _ holder
    have own : w.fdManager (w.directory.fd (.socket s)) = some (.socket s) :=
      order.roles.sound.holder_eq_of_nonneg held
    rw [own] at before
    cases before
    have remembered : result.2.directory.fd (.socket s) = w.directory.fd (.socket s) :=
      (order.perform admitted performed).roles.sound.handle_of_holder _ _ holder
    exact absurd (remembered ▸ lost) (not_lt.mpr held)

/-- An entry that keeps its descriptor frees nothing. -/
theorem frees_of_kept (order : after.InOrder) (kept : after.directory.fd (.socket s) = w.directory.fd (.socket s)) :
    w.frees after s = 0 := by
  have none := order.roles.sound.count_free_handle (.socket s)
  unfold frees
  rw [show (w.sockets s).fd = after.directory.fd (.socket s) from kept.symm]
  exact Nat.sub_eq_zero_of_le (none.le.trans (Nat.zero_le _))

/-- An entry without a descriptor frees nothing. -/
theorem frees_of_lost (order : after.InOrder) (lost : w.directory.fd (.socket s) < 0) : w.frees after s = 0 := by
  have absent : w.directory.fd (.socket s) ∉ after.fdFactory.freeQueue := by
    intro free
    have positive := ((order.roles.sound.issued_iff _).mp (.inr free)).1
    exact absurd lost (not_lt.mpr (Int.le_of_lt positive))
  exact Nat.sub_eq_zero_of_le ((List.count_eq_zero.mpr absent).le.trans (Nat.zero_le _))

/-- The action in which an entry loses its descriptor frees it once. -/
theorem perform_frees (order : w.InOrder) (admitted : w.admits action = true)
    (performed : w.perform action = .ok result) (held : 0 ≤ w.directory.fd (.socket s))
    (lost : result.2.directory.fd (.socket s) < 0) : w.frees result.2 s = 1 := by
  have sound := (order.perform admitted performed).roles.sound
  have before : w.fdFactory.freeQueue.count (w.sockets s).fd = 0 := order.roles.sound.count_free_handle (.socket s)
  have own : w.fdManager (w.directory.fd (.socket s)) = some (.socket s) :=
    order.roles.sound.holder_eq_of_nonneg held
  obtain ⟨positive, issued⟩ := order.roles.sound.pos_of_held own
  have after : result.2.fdFactory.freeQueue.count (w.sockets s).fd = 1 :=
    sound.count_free_of_not_held ⟨positive, issued.trans (perform_acq order admitted performed)⟩
      (perform_vacates order admitted performed held lost)
  rw [frees, before, after]

/-! ## What the history refers to -/

/-- A handshake is completed for the owner of the UDP socket that the connection works on. -/
theorem completes_outcome (completes : w.completes action = some (o, child)) :
    action = .handshakeComplete child ∧ w.directory.perspective child = .isServer ∧
      ∃ udp, w.directory.udp (.socket child) = some udp ∧
        w.fdManager (w.connectionManager.getOwner udp) = some (.socket o) := by
  unfold World.completes at completes
  split at completes
  · next s =>
    split_ifs at completes with server
    split at completes
    · next owner found =>
      cases completes
      obtain ⟨udp, set, held⟩ := Option.bind_eq_some_iff.mp found
      exact ⟨rfl, server, udp, set, held⟩
    · cases completes
  · cases completes

theorem accepts_outcome (accepts : w.accepts result.1 action = some (o, child)) :
    ∃ fd, w.fdManager fd = some (.socket o) := by
  unfold World.accepts at accepts
  split at accepts
  · next sock =>
    split at accepts
    · next x held =>
      split_ifs at accepts
      obtain ⟨first, -, same⟩ := Option.map_eq_some_iff.mp accepts
      cases same
      exact ⟨sock, held⟩
    · cases accepts
  · cases accepts

/-- Nothing joins the history of an entry that is closed or does not exist. -/
theorem joining_of_closed (order : w.InOrder) (closed : w.Closed o) :
    joining (w.completes action) o = [] ∧ joining (w.accepts result.1 action) o = [] := by
  refine ⟨?_, ?_⟩ <;> refine List.eq_nil_iff_forall_not_mem.mpr fun child member => ?_
  · obtain ⟨-, -, udp, -, held⟩ := completes_outcome (mem_joining.mp member)
    exact order.open_of_held held closed
  · obtain ⟨fd, held⟩ := accepts_outcome (mem_joining.mp member)
    exact order.open_of_held held closed

/-- Only the two closes have somebody to close. -/
theorem closesSocket_of_closing (target : o ∈ w.closing action) : ClosesSocket action := by
  unfold closing at target
  split at target
  · exact .inl ⟨_, rfl⟩
  · exact .inr ⟨_, _, _, rfl⟩
  · cases target

/-- Whoever waits at an entry that is closed is closed with it. -/
theorem InOrder.closing_waiting (order : w.InOrder) (target : o ∈ w.closing action) (waits : child ∈ w.queue o) :
    child ∈ w.closing action := by
  have client : w.directory.perspective o ≠ .isServer := by
    intro server
    have empty : w.queue o = [] := order.roles.queue_server server
    rw [empty] at waits
    cases waits
  rcases closesSocket_of_closing target with ⟨sock, rfl⟩ | ⟨s, errorCode, fromRemote, rfl⟩
  · obtain ⟨s, found, rfl | queued⟩ := mem_closeReach.mp target
    · exact mem_closeReach.mpr ⟨o, found, .inr waits⟩
    · exact (client (order.roles.queuedServer s o queued)).elim
  · simp only [closing] at target
    split_ifs at target with half
    · cases List.mem_singleton.mp target
      exact (client half.2).elim
    · cases target

theorem InOrder.closing_lt (order : w.InOrder) (target : o ∈ w.closing action) : o < w.numSockets := by
  rcases closesSocket_of_closing target with ⟨sock, rfl⟩ | ⟨s, errorCode, fromRemote, rfl⟩
  · obtain ⟨s, found, rfl | queued⟩ := mem_closeReach.mp target
    · by_contra beyond
      exact order.open_of_held found (order.roles.blank o (not_lt.mp beyond)).1
    · exact (order.finished s o queued).1
  · simp only [closing] at target
    split_ifs at target with half
    · cases List.mem_singleton.mp target
      exact order.roles.server_lt half.2
    · cases target

/-- Who is not among those that an action closes is closed before if and only if afterwards. -/
theorem perform_closed_iff (order : w.InOrder) (admitted : w.admits action = true)
    (performed : w.perform action = .ok result) (known : s < w.numSockets) (spared : s ∉ w.closing action) :
    w.Closed s ↔ result.2.Closed s := by
  by_cases closes : ClosesSocket action
  · obtain ⟨shuts, -⟩ := perform_shuts order.roles order.settled order.toLined closes performed
    rw [Closed, Closed, shuts.state s spared]
  · exact (perform_keeps_sockets order admitted closes performed known).1

theorem perform_closing (order : w.InOrder) (admitted : w.admits action = true)
    (performed : w.perform action = .ok result) (target : o ∈ w.closing action) : result.2.Closed o := by
  have closes := closesSocket_of_closing target
  obtain ⟨-, lost, -⟩ := perform_shuts order.roles order.settled order.toLined closes performed
  exact ((order.perform admitted performed).closed_iff o).mpr (lost o target)

end World

/-! ## Runs -/

namespace Reception

open World

/-- What the history of a run owes the queues and the descriptors. -/
structure Sound (r : Reception) : Prop where
  order : r.world.InOrder
  unborn : ∀ o, r.world.numSockets ≤ o →
    r.completed o = [] ∧ r.returned o = [] ∧ r.world.queue o = [] ∧ r.freed o = 0
  line : ∀ o, ¬ r.world.Closed o → r.completed o = r.returned o ++ r.world.queue o
  ordered : ∀ o, r.returned o <+: r.completed o
  nodup : ∀ o, (r.completed o).Nodup
  finished : ∀ o, ∀ child ∈ r.completed o,
    child < r.world.numSockets ∧ (r.world.directory.socketState child).Finished
  lost : ∀ o, r.world.Closed o → ∀ child ∈ r.completed o, child ∉ r.returned o → r.world.Closed child
  kept : ∀ s, 0 ≤ r.world.directory.fd (.socket s) → r.freed s = 0
  once : ∀ o, ∀ child ∈ r.completed o, r.world.Closed child → r.freed child = 1

theorem sound_init : Sound {} where
  order := inOrder_init
  unborn _ _ := ⟨rfl, rfl, rfl, rfl⟩
  line _ _ := rfl
  ordered _ := List.nil_prefix
  nodup _ := List.nodup_nil
  finished _ _ member := absurd member List.not_mem_nil
  lost _ _ _ member := absurd member List.not_mem_nil
  kept _ _ := rfl
  once _ _ member := absurd member List.not_mem_nil

section Step

variable {r r' : Reception} {action : Action} {result : CallResult × World} {o child : SocketId}

theorem step_outcome (stepped : r.step action = .ok r') :
    ∃ result, r.world.perform action = .ok result ∧ r'.world = result.2 ∧
      (∀ o, r'.completed o = r.completed o ++ joining (r.world.completes action) o) ∧
      (∀ o, r'.returned o = r.returned o ++ joining (r.world.accepts result.1 action) o) ∧
      ∀ s, r'.freed s = r.freed s + r.world.frees result.2 s := by
  obtain ⟨result, performed, returned⟩ := bind_eq_ok stepped
  cases returned
  exact ⟨result, performed, rfl, fun _ => rfl, fun _ => rfl, fun _ => rfl⟩

/-- A listener that is open afterwards has the completed connections in its history and its queue. -/
theorem Sound.line_step (sound : r.Sound) (admitted : r.world.admits action = true)
    (performed : r.world.perform action = .ok result) (isOpen : ¬ result.2.Closed o) :
    r.completed o ++ joining (r.world.completes action) o =
      (r.returned o ++ joining (r.world.accepts result.1 action) o) ++ result.2.queue o := by
  have spared : o ∉ r.world.closing action :=
    fun target => isOpen (perform_closing sound.order admitted performed target)
  have before : r.completed o = r.returned o ++ r.world.queue o := by
    by_cases known : o < r.world.numSockets
    · exact sound.line o fun closed => isOpen (perform_closed sound.order admitted performed known closed)
    · obtain ⟨completed, returned, queue, -⟩ := sound.unborn o (not_lt.mp known)
      rw [completed, returned, queue, List.append_nil]
  have queue := perform_queue sound.order performed (fun beyond => (sound.unborn o beyond).2.2.1) spared
  rw [before, List.append_assoc, ← queue, List.append_assoc]

/-- A connection is completed while its handshake is under way and joins the queue of its listener. -/
theorem Sound.completes_new (sound : r.Sound) (admitted : r.world.admits action = true)
    (performed : r.world.perform action = .ok result) (completes : r.world.completes action = some (o, child)) :
    child < r.world.numSockets ∧ ¬ (r.world.directory.socketState child).Finished ∧ child ∈ result.2.queue o := by
  obtain ⟨rfl, -⟩ := completes_outcome completes
  obtain ⟨known, shaking⟩ := shaking_of_admits sound.order.roles admitted
  refine ⟨known, shaking, ?_⟩
  obtain ⟨after, completed, returned⟩ := bind_eq_ok performed
  cases returned
  rw [onCryptoHandshakeComplete_joins completed]
  exact List.mem_append_right _ (mem_joining.mpr completes)

/-- Nothing joins the history of an entry that is closed afterwards. -/
theorem Sound.quiet_of_closed (sound : r.Sound) (admitted : r.world.admits action = true)
    (performed : r.world.perform action = .ok result) (closed : result.2.Closed o) :
    joining (r.world.completes action) o = [] ∧ joining (r.world.accepts result.1 action) o = [] := by
  by_cases before : r.world.Closed o
  · exact joining_of_closed sound.order before
  · have known : o < r.world.numSockets := by
      by_contra beyond
      exact before (sound.order.roles.blank o (not_lt.mp beyond)).1
    have target : o ∈ r.world.closing action := by
      by_contra spared
      exact before ((perform_closed_iff sound.order admitted performed known spared).mpr closed)
    rcases closesSocket_of_closing target with ⟨sock, rfl⟩ | ⟨s, errorCode, fromRemote, rfl⟩ <;> exact ⟨rfl, rfl⟩

theorem Sound.unborn_step (sound : r.Sound) (admitted : r.world.admits action = true)
    (performed : r.world.perform action = .ok result) (beyond : r.world.numSockets ≤ o) :
    joining (r.world.completes action) o = [] ∧ joining (r.world.accepts result.1 action) o = [] ∧ result.2.queue o = [] ∧
      r.world.frees result.2 o = 0 := by
  obtain ⟨completes, accepts⟩ : joining (r.world.completes action) o = [] ∧ joining (r.world.accepts result.1 action) o = [] :=
    joining_of_closed sound.order (sound.order.roles.blank o beyond).1
  have empty := (sound.unborn o beyond).2.2.1
  have spared : o ∉ r.world.closing action := fun target => (sound.order.closing_lt target).not_ge beyond
  have queue := perform_queue sound.order performed (fun _ => empty) spared
  rw [completes, accepts, empty] at queue
  refine ⟨completes, accepts, queue, frees_of_lost (sound.order.perform admitted performed) ?_⟩
  rw [sound.order.roles.freshSocket o beyond]
  decide

theorem Sound.finished_step (sound : r.Sound) (admitted : r.world.admits action = true)
    (performed : r.world.perform action = .ok result)
    (member : child ∈ r.completed o ++ joining (r.world.completes action) o) :
    child < result.2.numSockets ∧ (result.2.directory.socketState child).Finished := by
  rcases List.mem_append.mp member with before | joins
  · obtain ⟨finished, numSockets, -⟩ :=
      perform_finished sound.order.roles sound.order.settled sound.order.toLined admitted performed
    obtain ⟨known, ended⟩ := sound.finished o child before
    exact ⟨known.trans_le numSockets, finished child known ended⟩
  · obtain ⟨-, -, queued⟩ := sound.completes_new admitted performed (mem_joining.mp joins)
    exact (sound.order.perform admitted performed).finished o child queued

/-- Who is completed and not returned when its listener has closed is closed. -/
theorem Sound.lost_step (sound : r.Sound) (admitted : r.world.admits action = true)
    (performed : r.world.perform action = .ok result) (closed : result.2.Closed o) (member : child ∈ r.completed o)
    (waits : child ∉ r.returned o) : result.2.Closed child := by
  have known := (sound.finished o child member).1
  by_cases before : r.world.Closed o
  · exact perform_closed sound.order admitted performed known (sound.lost o before child member waits)
  · have queued : child ∈ r.world.queue o := by
      rw [sound.line o before] at member
      exact (List.mem_append.mp member).resolve_left waits
    have owner : o < r.world.numSockets := by
      by_contra beyond
      exact before (sound.order.roles.blank o (not_lt.mp beyond)).1
    -- the listener closes in this action and takes its queue with it
    have target : o ∈ r.world.closing action := by
      by_contra spared
      exact before ((perform_closed_iff sound.order admitted performed owner spared).mpr closed)
    exact perform_closing sound.order admitted performed (sound.order.closing_waiting target queued)

/-- An entry that has a descriptor afterwards has freed none. -/
theorem Sound.kept_step (sound : r.Sound) (admitted : r.world.admits action = true)
    (performed : r.world.perform action = .ok result) {s : SocketId}
    (held : 0 ≤ result.2.directory.fd (.socket s)) : r.freed s + r.world.frees result.2 s = 0 := by
  have order := sound.order.perform admitted performed
  by_cases known : s < r.world.numSockets
  · have isOpen : ¬ result.2.Closed s := fun closed => absurd held (not_le.mpr (order.gone s closed))
    have spared : s ∉ r.world.closing action :=
      fun target => isOpen (perform_closing sound.order admitted performed target)
    have openBefore : ¬ r.world.Closed s :=
      fun closed => isOpen (perform_closed sound.order admitted performed known closed)
    have heldBefore := sound.order.roles.held s openBefore
    have kept : result.2.directory.fd (.socket s) = r.world.directory.fd (.socket s) := by
      by_cases closes : ClosesSocket action
      · obtain ⟨shuts, -⟩ :=
          perform_shuts sound.order.roles sound.order.settled sound.order.toLined closes performed
        exact shuts.fd s spared
      · exact (perform_keeps_sockets sound.order admitted closes performed known).2 heldBefore
    rw [sound.kept s heldBefore, frees_of_kept order kept]
  · rw [(sound.unborn s (not_lt.mp known)).2.2.2, (sound.unborn_step admitted performed (not_lt.mp known)).2.2.2]

/-- A completed connection that is closed afterwards has freed its descriptor once. -/
theorem Sound.once_step (sound : r.Sound) (admitted : r.world.admits action = true)
    (performed : r.world.perform action = .ok result)
    (member : child ∈ r.completed o ++ joining (r.world.completes action) o) (closed : result.2.Closed child) :
    r.freed child + r.world.frees result.2 child = 1 := by
  have order := sound.order.perform admitted performed
  by_cases before : r.world.Closed child
  · have completed : child ∈ r.completed o := by
      refine (List.mem_append.mp member).resolve_right fun joins => ?_
      obtain ⟨-, shaking, -⟩ := sound.completes_new admitted performed (mem_joining.mp joins)
      exact shaking (.inr before)
    rw [sound.once o child completed before, frees_of_lost order (sound.order.gone child before)]
  · have held := sound.order.roles.held child before
    rw [sound.kept child held, perform_frees sound.order admitted performed held (order.gone child closed)]

theorem Sound.step (sound : r.Sound) (admitted : r.world.admits action = true) (stepped : r.step action = .ok r') :
    r'.Sound := by
  obtain ⟨result, performed, world, completed, returned, freed⟩ := step_outcome stepped
  have numSockets :=
    (perform_finished sound.order.roles sound.order.settled sound.order.toLined admitted performed).2.1
  constructor
  · rw [world]
    exact sound.order.perform admitted performed
  · intro o beyond
    rw [world] at beyond ⊢
    have before := numSockets.trans beyond
    obtain ⟨completes, accepts, queue, frees⟩ := sound.unborn_step admitted performed before
    obtain ⟨completedBefore, returnedBefore, -, freedBefore⟩ := sound.unborn o before
    rw [completed, returned, freed, completes, accepts, queue, frees, completedBefore, returnedBefore, freedBefore]
    exact ⟨rfl, rfl, rfl, rfl⟩
  · intro o isOpen
    rw [world] at isOpen ⊢
    rw [completed, returned]
    exact sound.line_step admitted performed isOpen
  · intro o
    rw [completed, returned]
    by_cases closed : result.2.Closed o
    · obtain ⟨completes, accepts⟩ := sound.quiet_of_closed admitted performed closed
      rw [completes, accepts, List.append_nil, List.append_nil]
      exact sound.ordered o
    · rw [sound.line_step admitted performed closed]
      exact List.prefix_append ..
  · intro o
    rw [completed]
    refine (sound.nodup o).append ?_ fun child before joins => ?_
    · unfold joining
      split
      · split_ifs
        · exact List.nodup_singleton _
        · exact List.nodup_nil
      · exact List.nodup_nil
    · obtain ⟨-, shaking, -⟩ := sound.completes_new admitted performed (mem_joining.mp joins)
      exact shaking (sound.finished o child before).2
  · intro o child member
    rw [completed] at member
    rw [world]
    exact sound.finished_step admitted performed member
  · intro o closed child member waits
    rw [world] at closed ⊢
    obtain ⟨completes, accepts⟩ := sound.quiet_of_closed admitted performed closed
    rw [completed, completes, List.append_nil] at member
    rw [returned, accepts, List.append_nil] at waits
    exact sound.lost_step admitted performed closed member waits
  · intro s held
    rw [world] at held
    rw [freed]
    exact sound.kept_step admitted performed held
  · intro o child member closed
    rw [completed] at member
    rw [world] at closed
    rw [freed]
    exact sound.once_step admitted performed member closed

end Step

variable {r : Reception}

theorem reachable_sound (reachable : system.Reachable {} r) : r.Sound :=
  reachable.invariant sound_init fun _ _ _ sound admitted stepped => sound.step admitted stepped

/-- No descriptor, no route and no UDP socket belongs to a closed entry. -/
theorem Sound.absent (sound : r.Sound) {child : SocketId} (closed : r.world.Closed child) :
    (∀ fd, r.world.fdManager fd ≠ some (.socket child)) ∧
      (∀ udp id fd, r.world.connectionManager.connections udp id = some fd →
        ∃ s, s ≠ child ∧ r.world.fdManager fd = some (.socket s)) ∧
      ∀ udp fd, r.world.connectionManager.owners udp = some fd →
        ∃ s, s ≠ child ∧ r.world.fdManager fd = some (.socket s) := by
  have user : ∀ {udp : UdpSocket} {s : SocketId}, r.world.directory.Uses s udp →
      s ≠ child ∧ r.world.fdManager (r.world.directory.fd (.socket s)) = some (.socket s) := by
    intro udp s uses
    refine ⟨?_, sound.order.roles.sound.holder_eq_of_nonneg (sound.order.roles.held s uses.1)⟩
    rintro rfl
    exact uses.1 closed
  refine ⟨fun fd held => sound.order.open_of_held held closed, ?_, ?_⟩
  · intro udp id fd routed
    obtain ⟨s, uses, -, rfl⟩ := (sound.order.roles.routed udp id fd).mp routed
    exact ⟨s, user uses⟩
  · intro udp fd owned
    obtain ⟨s, uses, rfl⟩ := sound.order.roles.owner udp fd owned
    exact ⟨s, user uses⟩

/-- `AcceptSocket` returns the completed connections of a listener in their order, none of them twice, and what it
has not returned when the listener has closed is closed, gone from the tables and freed once. Nothing but a broken
assertion keeps `QuicCloseSocket` from closing the listener, exactly if its session was initialized. -/
theorem accept_queue_fifo (reachable : system.Reachable {} r) (o : SocketId) :
    r.returned o <+: r.completed o ∧ (r.completed o).Nodup ∧
      ((r.world.sockets o).socketState ≠ .closed → r.completed o = r.returned o ++ (r.world.sockets o).acceptSockets) ∧
      ((r.world.sockets o).socketState = .closed → ∀ child ∈ r.completed o, child ∉ r.returned o →
        (r.world.sockets child).socketState = .closed ∧
          (∀ fd, r.world.fdManager fd ≠ some (.socket child)) ∧
          (∀ udp id fd, r.world.connectionManager.connections udp id = some fd →
            ∃ s, s ≠ child ∧ r.world.fdManager fd = some (.socket s)) ∧
          (∀ udp fd, r.world.connectionManager.owners udp = some fd →
            ∃ s, s ≠ child ∧ r.world.fdManager fd = some (.socket s)) ∧
          r.freed child = 1) ∧
      ∀ sock, r.world.fdManager sock = some (.socket o) →
        ((∀ fault, r.world.perform (.closeSocket sock) = .error fault → fault = .assertFailed) ↔
          ((r.world.sockets o).connected = true → (r.world.sockets o).socketState.initialized = true)) := by
  have sound := reachable_sound reachable
  refine ⟨sound.ordered o, sound.nodup o, sound.line o, ?_, ?_⟩
  · intro closed child member waits
    have gone : r.world.Closed child := sound.lost o closed child member waits
    obtain ⟨unheld, unrouted, unowned⟩ := sound.absent gone
    exact ⟨gone, unheld, unrouted, unowned, sound.once o child member gone⟩
  · intro sock held
    refine ⟨fun asserted connected => ?_, fun initialized fault failed => ?_⟩
    · by_contra missing
      have crashes : r.world.Crashes o := ⟨connected, Bool.eq_false_of_not_eq_true missing⟩
      cases asserted _ (quicCloseSocket_crashes sound.order.settled held (sound.order.open_of_held held) crashes)
    · refine (quicCloseSocket_fault sound.order.roles sound.order.settled held failed).resolve_right ?_
      rintro ⟨-, connected, missing⟩
      exact Bool.false_ne_true (missing.symm.trans (initialized connected))

/-- Three connections reach a listener; the first is accepted, and the second loses its connection in the queue. -/
def listenerServes : List Action :=
  [.createSocket 7, .bind 1 (.ok 5) none, .createEpoll, .epollAdd 0 1 { pollin := true } 0 false,
    .beginUdpEvent 0 5, .datagram 0 98, .datagram 0 99, .datagram 0 100, .handshakeComplete 2, .handshakeComplete 1,
    .handshakeComplete 3, .endUdpEvent 0, .socketAccept 1, .connectionClosed 1 25 true]

/-- The listener connects, which initializes its session, and is closed. -/
def listenerLeaves : List Action := listenerServes ++ [.connect 1 (.ok 6), .closeSocket 1]

theorem listenerLeaves_fifo :
    ∃ r, system.replay? {} listenerLeaves = some r ∧ r.completed 0 = [2, 1, 3] ∧ r.returned 0 = [2] ∧
      (r.world.sockets 0).socketState = .closed ∧ r.freed 1 = 1 ∧ r.freed 3 = 1 := by
  have ends : ∃ r ∈ system.replay? {} listenerLeaves, r.completed 0 = [2, 1, 3] ∧ r.returned 0 = [2] ∧
      (r.world.sockets 0).socketState = .closed := by decide
  obtain ⟨r, ran, completed, returned, closed⟩ := ends
  have left := (accept_queue_fifo (System.reachable_of_replay? ran) 0).2.2.2.1 closed
  have first := left 1 (by rw [completed]; decide) (by rw [returned]; decide)
  have second := left 3 (by rw [completed]; decide) (by rw [returned]; decide)
  exact ⟨r, ran, completed, returned, closed, first.2.2.2.2, second.2.2.2.2⟩

/-- Without that the close of a listener, which only returns connections in the state `Binded`, follows the null
`visitor_` before it comes to its queue. -/
theorem bound_listener_not_closed :
    ∃ r, system.replay? {} listenerServes = some r ∧ (r.world.sockets 0).socketState = .binded ∧
      r.completed 0 = [2, 1, 3] ∧ r.returned 0 = [2] ∧
      r.world.perform (.closeSocket 1) = .error .nullDereference := by
  have ends : ∃ r ∈ system.replay? {} listenerServes, (r.world.sockets 0).socketState = .binded ∧
      r.completed 0 = [2, 1, 3] ∧ r.returned 0 = [2] ∧
      fault? (r.world.perform (.closeSocket 1)) = some .nullDereference := by decide
  obtain ⟨r, ran, binded, completed, returned, faulted⟩ := ends
  exact ⟨r, ran, binded, completed, returned, fault?_eq_some faulted⟩

end Reception

end PosixQuic
