import PosixQuic.Soundness.Backlog
import PosixQuic.Soundness.Handshake
import PosixQuic.Soundness.LinkedRuns

/-! # Who is responsible for a descriptor

Every descriptor in use was given to the application, belongs to a connection that is still shaking hands,
or waits in a queue of an open socket. Each operation leaves the entries in use where they are, apart from
the one that it creates, hands out or queues. A close keeps this for the queued connections, which it
closes, but not for the queued streams, which it leaves as they are.
-/

namespace PosixQuic

namespace World

open Machine Directory

/-- A server side entry before its handshake has finished. -/
def HalfOpen (w : World) : EntryPtr → Prop
  | .socket s => (w.sockets s).perspective = .isServer ∧ (w.sockets s).socketState = .shared
  | .stream _ => False

/-- A socket in use that is not closed. -/
def IsOpen (w : World) (s : SocketId) : Prop := (w.sockets s).fd ≠ -1 ∧ (w.sockets s).socketState ≠ .closed

/-- The entry waits in a queue of an open socket. -/
def AwaitsAccept (w : World) : EntryPtr → Prop
  | .socket child => ∃ s, w.IsOpen s ∧ child ∈ (w.sockets s).acceptSockets
  | .stream t => ∃ s, w.IsOpen s ∧ t ∈ (w.sockets s).acceptStreams

/-- Somebody is responsible for every descriptor in use. -/
def Accounted (given : List (Fd × EntryPtr)) (w : World) : Prop :=
  ∀ fd entry, w.fdManager fd = some entry → (fd, entry) ∈ given ∨ w.HalfOpen entry ∨ w.AwaitsAccept entry

/-- Entries still in use are where they were, but for those that are `apart`. -/
structure Carries (apart : EntryPtr → Prop) (w w' : World) : Prop where
  held : ∀ fd entry, ¬ apart entry → w'.fdManager fd = some entry → w.fdManager fd = some entry
  halfOpen : ∀ fd entry, ¬ apart entry → w'.fdManager fd = some entry → w.HalfOpen entry → w'.HalfOpen entry
  awaits : ∀ fd entry, ¬ apart entry → w'.fdManager fd = some entry → w.AwaitsAccept entry → w'.AwaitsAccept entry

def nobody (_ : EntryPtr) : Prop := False

variable {w w' : World} {given given' : List (Fd × EntryPtr)} {apart : EntryPtr → Prop} {s : SocketId} {udp : UdpSocket}
  {sock : Fd} {result : CallResult × World}

theorem Accounted.carry (accounted : Accounted given w) (carries : Carries apart w w')
    (kept : ∀ fd entry, w'.fdManager fd = some entry → (fd, entry) ∈ given → (fd, entry) ∈ given')
    (settles : ∀ fd entry, apart entry → w'.fdManager fd = some entry →
      (fd, entry) ∈ given' ∨ w'.HalfOpen entry ∨ w'.AwaitsAccept entry) : Accounted given' w' := by
  intro fd entry held
  by_cases aside : apart entry
  · exact settles fd entry aside held
  · rcases accounted fd entry (carries.held fd entry aside held) with owned | half | waits
    · exact .inl (kept fd entry held owned)
    · exact .inr (.inl (carries.halfOpen fd entry aside held half))
    · exact .inr (.inr (carries.awaits fd entry aside held waits))

theorem isOpen_congr (fd : w'.directory.fd = w.directory.fd)
    (state : w'.directory.socketState = w.directory.socketState) : w'.IsOpen s ↔ w.IsOpen s := by
  have fds : (w'.sockets s).fd = (w.sockets s).fd := congrFun fd (.socket s)
  have states : (w'.sockets s).socketState = (w.sockets s).socketState := congrFun state s
  rw [IsOpen, fds, states, IsOpen]

namespace Carries

/-- The sockets that the queues hang on are as open as before, and nobody else has left their queues. -/
theorem of_sockets (held : ∀ fd entry, ¬ apart entry → w'.fdManager fd = some entry → w.fdManager fd = some entry)
    (halfOpen : ∀ s, ¬ apart (.socket s) → w.HalfOpen (.socket s) → w'.HalfOpen (.socket s))
    (isOpen : ∀ s, w.IsOpen s → w'.IsOpen s)
    (sockets : ∀ s, w.IsOpen s → ∀ child ∈ (w.sockets s).acceptSockets, ¬ apart (.socket child) →
      child ∈ (w'.sockets s).acceptSockets)
    (streams : ∀ s, w.IsOpen s → ∀ t ∈ (w.sockets s).acceptStreams, ¬ apart (.stream t) →
      t ∈ (w'.sockets s).acceptStreams) : Carries apart w w' := by
  refine ⟨held, ?_, ?_⟩
  · rintro fd (s | t) aside - half
    · exact halfOpen s aside half
    · exact half
  · rintro fd (child | t) aside - ⟨s, usable, member⟩
    · exact ⟨s, isOpen s usable, sockets s usable child member aside⟩
    · exact ⟨s, isOpen s usable, streams s usable t member aside⟩

/-- Entries and states of all sockets are as before, and nobody else has left a queue. -/
theorem of_queues (manager : w'.directory.fdManager = w.directory.fdManager) (fd : w'.directory.fd = w.directory.fd)
    (perspective : w'.directory.perspective = w.directory.perspective)
    (state : w'.directory.socketState = w.directory.socketState)
    (queue : ∀ s, ∀ child ∈ w.directory.acceptSockets s, ¬ apart (.socket child) →
      child ∈ w'.directory.acceptSockets s)
    (backlog : ∀ s, ∀ t ∈ w.backlog s, ¬ apart (.stream t) → t ∈ w'.backlog s) : Carries apart w w' := by
  refine .of_sockets ?_ ?_ (fun s => (isOpen_congr fd state).mpr) (fun s _ => queue s) fun s _ => backlog s
  · rw [show w'.fdManager = w.fdManager from manager]
    exact fun _ _ _ => id
  · rintro s - ⟨server, half⟩
    exact ⟨(congrFun perspective s).trans server, (congrFun state s).trans half⟩

/-- At most the queues have changed. -/
theorem of_acceptSockets {queues : SocketId → List SocketId}
    (directory : w'.directory = { w.directory with acceptSockets := queues })
    (queue : ∀ s, ∀ child ∈ w.directory.acceptSockets s, ¬ apart (.socket child) → child ∈ queues s)
    (backlog : ∀ s, ∀ t ∈ w.backlog s, ¬ apart (.stream t) → t ∈ w'.backlog s) : Carries apart w w' := by
  refine .of_queues ?_ ?_ ?_ ?_ ?_ backlog <;> rw [directory]
  exact queue

/-- Entries, states and queues of all sockets are as before. -/
theorem of_eq (manager : w'.directory.fdManager = w.directory.fdManager) (fd : w'.directory.fd = w.directory.fd)
    (perspective : w'.directory.perspective = w.directory.perspective)
    (state : w'.directory.socketState = w.directory.socketState)
    (queue : w'.directory.acceptSockets = w.directory.acceptSockets) (backlog : w'.backlog = w.backlog) :
    Carries apart w w' := by
  refine .of_queues manager fd perspective state ?_ ?_
  · rw [queue]
    exact fun _ _ member _ => member
  · rw [backlog]
    exact fun _ _ member _ => member

theorem of_directory_eq (directory : w'.directory = w.directory) (backlog : w'.backlog = w.backlog) :
    Carries apart w w' := by
  refine .of_eq ?_ ?_ ?_ ?_ ?_ backlog
  all_goals rw [directory]

theorem refl (w : World) : Carries apart w w := .of_directory_eq rfl rfl

theorem trans {a b c : World} (first : Carries apart a b) (second : Carries apart b c) : Carries apart a c where
  held fd entry aside held := first.held fd entry aside (second.held fd entry aside held)
  halfOpen fd entry aside held half :=
    second.halfOpen fd entry aside held (first.halfOpen fd entry aside (second.held fd entry aside held) half)
  awaits fd entry aside held waits :=
    second.awaits fd entry aside held (first.awaits fd entry aside (second.held fd entry aside held) waits)

/-- A socket moves on to another open state; if it was half open, it is set apart. -/
theorem restate {s : SocketId} {socketState : QuicSocketState}
    (manager : w'.directory.fdManager = w.directory.fdManager) (fd : w'.directory.fd = w.directory.fd)
    (perspective : w'.directory.perspective = w.directory.perspective)
    (queue : w'.directory.acceptSockets = w.directory.acceptSockets) (backlog : w'.backlog = w.backlog)
    (state : w'.directory.socketState = Function.update w.directory.socketState s socketState)
    (started : w.HalfOpen (.socket s) → apart (.socket s)) (stays : socketState ≠ .closed) : Carries apart w w' := by
  have fds : ∀ x, (w'.sockets x).fd = (w.sockets x).fd := fun x => congrFun fd (.socket x)
  have states : ∀ x, (w'.sockets x).socketState = Function.update w.directory.socketState s socketState x :=
    congrFun state
  refine .of_sockets ?_ ?_ ?_ ?_ ?_
  · rw [show w'.fdManager = w.fdManager from manager]
    exact fun _ _ _ => id
  · rintro x aside half
    have other : x ≠ s := by
      rintro rfl
      exact aside (started half)
    refine ⟨(congrFun perspective x).trans half.1, ?_⟩
    rw [states, Function.update_of_ne other]
    exact half.2
  · rintro x ⟨uses, isOpen⟩
    refine ⟨(fds x).trans_ne uses, ?_⟩
    rw [states]
    by_cases same : x = s
    · rw [same, Function.update_self]
      exact stays
    · rw [Function.update_of_ne same]
      exact isOpen
  · intro x _ child member _
    rw [show (w'.sockets x).acceptSockets = (w.sockets x).acceptSockets from congrFun queue x]
    exact member
  · intro x _ t member _
    rw [show (w'.sockets x).acceptStreams = (w.sockets x).acceptStreams from congrFun backlog x]
    exact member

end Carries

/-! ## Calls that create and hand out nothing -/

theorem not_halfOpen {socketState : QuicSocketState} (state : w.directory.socketState s = socketState)
    (other : socketState ≠ .shared) : w.HalfOpen (.socket s) → nobody (.socket s) :=
  fun half => other (state.symm.trans half.2)

theorem carries_setSocketState {socketState : QuicSocketState} (started : w.HalfOpen (.socket s) → apart (.socket s))
    (stays : socketState ≠ .closed) : Carries apart w (w.setSocketState s socketState) := by
  have changed := w.directory_setSocketState s socketState
  refine .restate (s := s) ?_ ?_ ?_ ?_ (backlogFrame.setSocketState ..) ?_ started stays
  all_goals rw [changed]

theorem carries_setUdpSocket (state : w.directory.socketState s = .none) :
    Carries nobody w ((w.openUdp udp).setUdpSocket s udp) := by
  have changed := (w.openUdp udp).directory_setUdpSocket s udp
  rw [directory_openUdp] at changed
  refine .restate (s := s) ?_ ?_ ?_ ?_ ((backlogFrame.setUdpSocket ..).trans (backlogFrame.openUdp ..)) ?_
    (not_halfOpen state (by decide)) (show QuicSocketState.inited ≠ .closed by decide)
  all_goals rw [changed]

theorem carries_configures (w : World) (s : SocketId) : Configures (Carries nobody w) w s fun _ => True where
  holds := .refl w
  set _ _ new _ := carries_setUdpSocket new
  moves _ _ inited carries next :=
    carries.trans (carries_setSocketState (not_halfOpen inited (by decide)) (by rcases next with rfl | rfl <;> decide))

/-! ## New entries -/

theorem carries_newQuicSocketEntry (tables : w.directory.Tables) (perspective : Perspective) (id : QuicConnectionId) :
    Carries (· = .socket w.numSockets) w (w.newQuicSocketEntry perspective id).2 := by
  have unused : (w.sockets w.numSockets).fd = -1 := tables.freshSocket _ le_rfl
  have other : ∀ s, s ≠ w.numSockets → (w.newQuicSocketEntry perspective id).2.sockets s = w.sockets s :=
    fun s old => Function.update_of_ne old ..
  have old : ∀ s, w.IsOpen s → s ≠ w.numSockets := by
    rintro s ⟨uses, -⟩ rfl
    exact uses unused
  refine .of_sockets ?_ ?_ ?_ ?_ ?_
  · intro fd entry aside held
    change Function.update w.fdManager w.fdFactory.alloc.1 (some (.socket w.numSockets)) fd = some entry at held
    by_cases new : fd = w.fdFactory.alloc.1
    · rw [new, Function.update_self] at held
      exact (aside (Option.some.inj held).symm).elim
    · rwa [Function.update_of_ne new] at held
  · intro s aside half
    have others : s ≠ w.numSockets := fun same => aside (congrArg _ same)
    rw [HalfOpen, other s others]
    exact half
  · intro s usable
    rw [IsOpen, other s (old s usable)]
    exact usable
  · intro s usable child member _
    rw [other s (old s usable)]
    exact member
  · intro s usable t member _
    rw [other s (old s usable)]
    exact member

theorem carries_newQuicStream (w : World) (s : SocketId) (streamId : Nat) :
    Carries (· = .stream w.numStreams) w (w.newQuicStream s streamId).2 := by
  refine .of_sockets ?_ (fun _ _ => id) (fun _ => id) (fun _ _ _ member _ => member) fun _ _ _ member _ => member
  intro fd entry aside held
  change Function.update w.fdManager w.fdFactory.alloc.1 (some (.stream w.numStreams)) fd = some entry at held
  by_cases new : fd = w.fdFactory.alloc.1
  · rw [new, Function.update_self] at held
    exact (aside (Option.some.inj held).symm).elim
  · rwa [Function.update_of_ne new] at held

/-- A stream arrives at an open socket. -/
theorem carries_onIncomingStream (w : World) (s : SocketId) (streamId : Nat) :
    Carries (· = .stream w.numStreams) w (w.onIncomingStream s streamId) ∧
      (w.IsOpen s → (w.onIncomingStream s streamId).AwaitsAccept (.stream w.numStreams)) := by
  generalize created : (w.newQuicStream s streamId).2 = after
  have carries : Carries (· = .stream w.numStreams) w after := created ▸ w.carries_newQuicStream s streamId
  have sockets : after.sockets = w.sockets := by
    rw [← created]
    rfl
  have result : w.onIncomingStream s streamId =
      (after.modSocket s fun socket =>
        { socket with acceptStreams := socket.acceptStreams ++ [w.numStreams] }).setReadable (.socket s) true := by
    rw [← created]
    rfl
  rw [result]
  generalize pushed : (after.modSocket s fun socket =>
    { socket with acceptStreams := socket.acceptStreams ++ [w.numStreams] }) = queued
  have directory : (queued.setReadable (.socket s) true).directory = after.directory := by
    rw [directory_setReadable, ← pushed]
    exact directory_modSocket_kept ⟨rfl, rfl, rfl, rfl, rfl, rfl, rfl, rfl⟩
  have backlog : (queued.setReadable (.socket s) true).backlog =
      Function.update after.backlog s (after.backlog s ++ [w.numStreams]) := by
    rw [setReadable, backlogFrame.signal, ← pushed, backlog_modSocket]
    rfl
  refine ⟨carries.trans (.of_acceptSockets directory (fun _ _ member _ => member) ?_), ?_⟩
  · rw [backlog]
    exact fun _ _ member _ => mem_update_append.mpr (.inl member)
  · intro usable
    refine ⟨s, (isOpen_congr (congrArg _ directory) (congrArg _ directory)).mpr ?_, ?_⟩
    · rw [IsOpen, sockets]
      exact usable
    · change w.numStreams ∈ (queued.setReadable (.socket s) true).backlog s
      rw [backlog]
      exact mem_update_append.mpr (.inr ⟨rfl, rfl⟩)

/-- A datagram of a new connection creates a half open entry. -/
theorem carries_dispatchDatagram {e : EpollerId} {cached : Option SocketId} {id : QuicConnectionId}
    (tables : w.directory.Tables) (dispatched : w.dispatchDatagram e udp cached id = .ok w') :
    Carries (· = .socket w.numSockets) w w' ∧
      ∀ fd, w'.fdManager fd = some (.socket w.numSockets) → w'.HalfOpen (.socket w.numSockets) := by
  have notYet : ∀ fd, w.fdManager fd ≠ some (.socket w.numSockets) := by
    intro fd held
    have remembered : (w.sockets w.numSockets).fd = fd := tables.sound.handle_of_holder fd _ held
    rw [← remembered, show (w.sockets w.numSockets).fd = -1 from tables.freshSocket _ le_rfl] at held
    exact absurd (tables.sound.pos_of_held held).1 (by decide)
  have same : Carries (· = .socket w.numSockets) w w ∧
      ∀ fd, w.fdManager fd = some (.socket w.numSockets) → w.HalfOpen (.socket w.numSockets) :=
    ⟨.refl w, fun fd held => (notYet fd held).elim⟩
  obtain rfl | ⟨owner, -, -, opened⟩ := dispatchDatagram_outcome dispatched
  · exact same
  · generalize cachedOwner : (w.modEpoller e fun epoller => { epoller with dispatch := some (udp, some owner) }) =
      noted at opened
    have sockets : noted.sockets = w.sockets := by
      rw [← cachedOwner]
      rfl
    have number : noted.numSockets = w.numSockets := by
      rw [← cachedOwner]
      rfl
    have notedTables : noted.directory.Tables := by
      rw [← cachedOwner, directory_modEpoller]
      exact tables.of_eq rfl rfl rfl
    have noting : Carries (· = .socket w.numSockets) w noted := by
      rw [← cachedOwner]
      refine .of_eq ?_ ?_ ?_ ?_ ?_ rfl
      all_goals rw [directory_modEpoller]
    have creating := carries_newQuicSocketEntry notedTables .isServer id
    rw [number] at creating
    generalize newEntry : (noted.newQuicSocketEntry .isServer id).2 = created at creating opened
    obtain ⟨ownerUdp, -, changed⟩ := directory_onSyn opened
    have server : created.directory.perspective w.numSockets = .isServer := by
      rw [← newEntry, directory_newQuicSocketEntry, number]
      exact Function.update_self ..
    have fresh : created.directory.socketState w.numSockets = .none := by
      rw [← newEntry, directory_newQuicSocketEntry, number]
      exact Function.update_self ..
    refine ⟨(noting.trans creating).trans ?_, ?_⟩
    · refine .restate (s := w.numSockets) ?_ ?_ ?_ ?_ (backlogFrame.onSyn opened) ?_ (fun _ => rfl)
        (show QuicSocketState.shared ≠ .closed by decide)
      all_goals rw [changed]
    · intro _ _
      refine ⟨?_, ?_⟩
      · refine Eq.trans ?_ server
        exact congrFun (congrArg Directory.perspective changed) w.numSockets
      · refine (congrFun (congrArg Directory.socketState changed) w.numSockets).trans ?_
        exact Function.update_self ..

/-! ## Finished handshakes -/

/-- The routing table names open sockets only. -/
theorem owner_isOpen (routing : w.directory.Routing) {owner : SocketId}
    (found : w.fdManager (w.connectionManager.getOwner udp) = some (.socket owner)) : w.IsOpen owner := by
  have tables := routing.toTables
  cases owners : w.connectionManager.owners udp with
  | none =>
    rw [ConnectionManager.getOwner, owners] at found
    exact absurd (tables.sound.pos_of_held found).1 (by decide)
  | some fd =>
    rw [ConnectionManager.getOwner, owners] at found
    obtain ⟨s, ⟨isOpen, -⟩, remembered⟩ := routing.owner udp fd owners
    have uses : w.directory.fd (.socket s) ≠ -1 := by
      intro released
      exact absurd (released ▸ routing.held s isOpen) (by decide)
    have holder := (tables.sound.holder_of_handle (.socket s)).resolve_left uses
    have same : owner = s := by
      rw [show w.directory.handles.handle (.socket s) = fd from remembered] at holder
      exact EntryPtr.socket.inj (Option.some.inj (found.symm.trans holder))
    exact same ▸ ⟨uses, isOpen⟩

theorem carries_pushAcceptQueue (w : World) (owner s : SocketId) : Carries apart w (w.pushAcceptQueue owner s) := by
  have changed := w.directory_pushAcceptQueue owner s
  refine .of_acceptSockets changed (fun _ _ member _ => mem_update_append.mpr (.inl member)) ?_
  rw [w.backlog_pushAcceptQueue owner s]
  exact fun _ _ member _ => member

/-- A server side entry moves from its handshake into the queue of its listener. -/
theorem carries_onCryptoHandshakeComplete (routing : w.directory.Routing)
    (completed : w.onCryptoHandshakeComplete s = .ok w') :
    Carries (fun entry => entry = .socket s ∧ w.directory.perspective s = .isServer) w w' ∧
      (w.directory.perspective s = .isServer → w'.AwaitsAccept (.socket s)) := by
  obtain ⟨ready, connects, changed, outcome⟩ := onCryptoHandshakeComplete_outcome completed
  have backlog : ready.backlog = w.backlog := by
    rw [← connects, setWritable, backlogFrame.signal, backlogFrame.setSocketState]
  have carries : Carries (fun entry => entry = .socket s ∧ w.directory.perspective s = .isServer) w ready := by
    refine .restate (s := s) ?_ ?_ ?_ ?_ backlog ?_ (fun half => ⟨rfl, half.1⟩)
      (show QuicSocketState.connected ≠ .closed by decide)
    all_goals
      rw [changed]
      rfl
  obtain ⟨client, rfl⟩ | ⟨-, udp, owner, -, held, rfl⟩ := outcome
  · exact ⟨carries, fun server => absurd (client.symm.trans server) Perspective.noConfusion⟩
  · refine ⟨carries.trans (carries_pushAcceptQueue ..), fun _ => ?_⟩
    -- the listener is open, also if its own handshake were the one that finished
    obtain ⟨uses, isOpen⟩ := owner_isOpen routing held
    have pushed := ready.directory_pushAcceptQueue owner s
    refine ⟨owner, ⟨?_, ?_⟩, ready.mem_pushAcceptQueue owner s⟩
    · change (ready.pushAcceptQueue owner s).directory.fd (.socket owner) ≠ -1
      rw [pushed, enqueue, changed]
      exact uses
    · change (ready.pushAcceptQueue owner s).directory.socketState owner ≠ .closed
      rw [pushed, enqueue, changed, setState]
      dsimp only
      by_cases same : owner = s
      · subst same
        rw [Function.update_self]
        decide
      · rw [Function.update_of_ne same]
        exact isOpen

/-! ## Accepted entries -/

theorem acceptSocket_cases (w : World) (s : SocketId) :
    (∃ err, w.acceptSocket s = (.fail err, w)) ∨
      ∃ child, Carries (· = .socket child) w (w.acceptSocket s).2 ∧
        (w.acceptSocket s).1.value = ((w.acceptSocket s).2.sockets child).fd := by
  unfold acceptSocket
  split_ifs
  · exact .inl ⟨_, rfl⟩
  · split
    · exact .inl ⟨_, rfl⟩
    · next child rest queue =>
      right
      have changed := w.directory_modAcceptSockets s fun _ => rest
      have backlog : (w.modSocket s fun socket => { socket with acceptSockets := rest }).backlog = w.backlog :=
        backlog_modSocket_kept rfl
      dsimp only
      generalize (w.modSocket s fun socket => { socket with acceptSockets := rest }) = after at changed backlog
      refine ⟨child, .of_acceptSockets changed ?_ ?_, (congrFun (congrArg Directory.fd changed) (.socket child)).symm⟩
      · exact fun x other member aside => mem_update_rest queue member fun first => aside (congrArg _ first)
      · rw [backlog]
        exact fun _ _ member _ => member

theorem acceptStream_cases (w : World) (s : SocketId) :
    (∃ err, w.acceptStream s = (.fail err, w)) ∨
      ∃ t, Carries (· = .stream t) w (w.acceptStream s).2 ∧
        (w.acceptStream s).1.value = ((w.acceptStream s).2.streams t).fd := by
  unfold acceptStream
  split_ifs
  · exact .inl ⟨_, rfl⟩
  · split
    · exact .inl ⟨_, rfl⟩
    · next t rest queue =>
      right
      have changed : (w.modSocket s fun socket => { socket with acceptStreams := rest }).directory = w.directory :=
        directory_modSocket_kept ⟨rfl, rfl, rfl, rfl, rfl, rfl, rfl, rfl⟩
      have backlog := w.backlog_modSocket s fun socket => { socket with acceptStreams := rest }
      refine ⟨t, .of_acceptSockets changed (fun _ _ member _ => member) ?_, rfl⟩
      rw [backlog]
      exact fun x other member aside => mem_update_rest queue member fun first => aside (congrArg _ first)

/-! ## Closes -/

/-- The sockets that an action closes. -/
def closing (w : World) : Action → List SocketId
  | .closeSocket sock => w.closeReach (.closeSocket sock)
  | .connectionClosed s _ _ =>
    if (w.sockets s).socketState ≠ .connected ∧ (w.sockets s).perspective = .isServer then [s] else []
  | _ => []

/-- No stream in use waits to be accepted on a socket that the action closes. -/
def LeavesNoStreams (w : World) (action : Action) : Prop :=
  ∀ s ∈ w.closing action, (w.sockets s).socketState ≠ .closed →
    ∀ t ∈ (w.sockets s).acceptStreams, (w.streams t).fd = -1

instance (w : World) (action : Action) : Decidable (w.LeavesNoStreams action) :=
  inferInstanceAs (Decidable (∀ s ∈ _, _))

/-- What a close of the `target` sockets does to descriptors and queues. -/
structure Shuts (target : SocketId → Prop) (w w' : World) : Prop where
  held : ∀ fd entry, w'.fdManager fd = some entry → w.fdManager fd = some entry
  fd : ∀ s, ¬ target s → w'.directory.fd (.socket s) = w.directory.fd (.socket s)
  perspective : w'.directory.perspective = w.directory.perspective
  state : ∀ s, ¬ target s → w'.directory.socketState s = w.directory.socketState s
  queue : ∀ s, ¬ target s → w'.directory.acceptSockets s = w.directory.acceptSockets s
  targets : ∀ s, target s → ∀ child ∈ w'.directory.acceptSockets s, target child
  backlog : w'.backlog = w.backlog

namespace Shuts

variable {target : SocketId → Prop} {before : World}

theorem refl (targets : ∀ s, target s → ∀ child ∈ w.directory.acceptSockets s, target child) : Shuts target w w :=
  ⟨fun _ _ => id, fun _ _ => rfl, rfl, fun _ _ => rfl, fun _ _ => rfl, targets, rfl⟩

theorem heldBy (shuts : Shuts target before w) (same : w'.directory.fdManager = w.directory.fdManager) :
    ∀ fd entry, w'.fdManager fd = some entry → before.fdManager fd = some entry := by
  intro fd entry held
  apply shuts.held fd entry
  rw [← held]
  exact (congrFun same fd).symm

theorem announce (shuts : Shuts target before w) (s : SocketId) (errorCode : Int) (fromRemote : Bool) :
    Shuts target before (w.announce s errorCode fromRemote) := by
  have changed := w.directory_announce s errorCode fromRemote
  refine ⟨shuts.heldBy (by rw [changed]), ?_, ?_, ?_, ?_, ?_, (backlogFrame.announce ..).trans shuts.backlog⟩
  all_goals rw [changed]
  · exact shuts.fd
  · exact shuts.perspective
  · exact shuts.state
  · exact shuts.queue
  · exact shuts.targets

theorem delete (shuts : Shuts target before w) {s : SocketId} (aimed : target s) :
    Shuts target before (w.deleteQuicSocketEntry s) := by
  have changed := w.directory_deleteQuicSocketEntry s
  have manager : ∀ fd entry, (w.deleteQuicSocketEntry s).directory.fdManager fd = some entry →
      w.fdManager fd = some entry := by
    intro fd entry held
    rw [changed, Directory.release] at held
    split_ifs at held
    · dsimp only at held
      by_cases same : fd = w.directory.fd (.socket s)
      · rw [same, Function.update_self] at held
        cases held
      · rwa [Function.update_of_ne same] at held
    · exact held
  refine ⟨fun fd entry held => shuts.held fd entry (manager fd entry held), ?_, ?_, ?_, ?_, ?_,
    (backlogFrame.releaseFd ..).trans shuts.backlog⟩
  · intro x aside
    have other : x ≠ s := fun same => aside (same ▸ aimed)
    rw [← shuts.fd x aside, changed, Directory.release]
    split_ifs
    · exact Function.update_of_ne (EntryPtr.socket_ne other) ..
    · rfl
  all_goals
    rw [changed, Directory.release]
    split_ifs
  · exact shuts.perspective
  · exact shuts.perspective
  · exact shuts.state
  · exact shuts.state
  · exact shuts.queue
  · exact shuts.queue
  · exact shuts.targets
  · exact shuts.targets

end Shuts

theorem closable_shuts (target : SocketId → Prop) (before : World) :
    Closable (fun _ => True) target (Shuts target before) where
  queued w s shuts aimed child member := shuts.targets s aimed child member
  mark w s shuts aimed _ := by
    have changed := w.directory_mark s
    refine ⟨shuts.heldBy (by rw [changed]), ?_, ?_, ?_, ?_, ?_, (backlogFrame.mark w s).trans shuts.backlog⟩
    all_goals rw [changed]
    · exact shuts.fd
    · exact shuts.perspective
    · intro x aside
      have other : x ≠ s := fun same => aside (same ▸ aimed)
      rw [← shuts.state x aside]
      exact Function.update_of_ne other ..
    · exact shuts.queue
    · exact shuts.targets
  announce _ s errorCode fromRemote shuts _ _ := shuts.announce s errorCode fromRemote
  releaseServer _ s shuts aimed _ _ _ := (shuts.announce s quicConnectionCancelled false).delete aimed
  clear w s shuts _ _ _ := by
    cases cleared : w.clearWaitingsByClose (.socket s) with
    | error fault => trivial
    | ok after =>
      have changed := directory_clearWaitingsByClose cleared
      refine ⟨shuts.heldBy (by rw [changed]), ?_, ?_, ?_, ?_, ?_, (backlogFrame.clearWaitingsByClose cleared).trans shuts.backlog⟩
      all_goals rw [changed]
      · exact shuts.fd
      · exact shuts.perspective
      · exact shuts.state
      · exact shuts.queue
      · exact shuts.targets
  release _ _ shuts aimed _ _ := shuts.delete aimed
  pop w s shuts aimed := by
    have changed := w.directory_popAccept s
    refine ⟨shuts.heldBy (by rw [changed]), ?_, ?_, ?_, ?_, ?_, (w.backlog_popAccept s).trans shuts.backlog⟩
    all_goals rw [changed]
    · exact shuts.fd
    · exact shuts.perspective
    · exact shuts.state
    · intro x aside
      have other : x ≠ s := fun same => aside (same ▸ aimed)
      rw [← shuts.queue x aside]
      exact Function.update_of_ne other ..
    · intro x aimedX child member
      dsimp only at member
      by_cases same : x = s
      · subst same
        rw [Function.update_self] at member
        exact shuts.targets x aimedX child (List.mem_of_mem_tail member)
      · rw [Function.update_of_ne same] at member
        exact shuts.targets x aimedX child member

/-- Where the closed sockets have lost their descriptors and no stream waits on them, nobody is forgotten. -/
theorem Shuts.carries {target : SocketId → Prop} (shuts : Shuts target w w') (tables : w.directory.Tables)
    (tables' : w'.directory.Tables) (lost : ∀ s, target s → w'.directory.fd (.socket s) < 0)
    (queue : ∀ s, target s → ∀ child ∈ w.directory.acceptSockets s, w.IsOpen s → target child)
    (noStreams : ∀ s, target s → w.IsOpen s → ∀ t ∈ (w.sockets s).acceptStreams, (w.streams t).fd = -1) :
    Carries nobody w w' := by
  have gone : ∀ s, target s → ∀ fd, w'.fdManager fd ≠ some (.socket s) := by
    intro s aimed fd held
    have remembered : w'.directory.fd (.socket s) = fd := tables'.sound.handle_of_holder fd _ held
    have negative := lost s aimed
    rw [remembered] at negative
    exact absurd (tables'.sound.pos_of_held held).1 (not_le.mpr (lt_of_lt_of_le negative Int.one_nonneg))
  have isOpen : ∀ s, ¬ target s → w.IsOpen s → w'.IsOpen s := by
    rintro s aside ⟨uses, notClosed⟩
    exact ⟨(shuts.fd s aside).trans_ne uses, (shuts.state s aside).trans_ne notClosed⟩
  refine ⟨fun fd entry _ => shuts.held fd entry, ?_, ?_⟩
  · rintro fd (s | t) - held half
    · by_cases aimed : target s
      · exact (gone s aimed fd held).elim
      · exact ⟨(congrFun shuts.perspective s).trans half.1, (shuts.state s aimed).trans half.2⟩
    · exact half
  · rintro fd (child | t) - held ⟨s, usable, member⟩
    · by_cases aimed : target s
      · exact (gone child (queue s aimed child member usable) fd held).elim
      · refine ⟨s, isOpen s aimed usable, ?_⟩
        rw [show (w'.sockets s).acceptSockets = (w.sockets s).acceptSockets from shuts.queue s aimed]
        exact member
    · by_cases aimed : target s
      · have heldBefore := shuts.held fd _ held
        have remembered : (w.streams t).fd = fd := tables.sound.handle_of_holder fd (.stream t) heldBefore
        rw [← remembered, noStreams s aimed usable t member] at heldBefore
        exact absurd (tables.sound.pos_of_held heldBefore).1 (by decide)
      · refine ⟨s, isOpen s aimed usable, ?_⟩
        rw [show (w'.sockets s).acceptStreams = (w.sockets s).acceptStreams from congrFun shuts.backlog s]
        exact member

/-- A closed socket or a stream gives its descriptor back. -/
theorem carries_releaseFd {entry : EntryPtr} (closed : ∀ s, entry = .socket s → w.Closed s) :
    Carries apart w (w.releaseFd entry) := by
  have changed := w.directory_releaseFd entry
  have state : (w.releaseFd entry).directory.socketState = w.directory.socketState := by
    rw [changed]
    split_ifs <;> rfl
  have perspective : (w.releaseFd entry).directory.perspective = w.directory.perspective := by
    rw [changed]
    split_ifs <;> rfl
  have queue : (w.releaseFd entry).directory.acceptSockets = w.directory.acceptSockets := by
    rw [changed]
    split_ifs <;> rfl
  have fd : ∀ s, ¬ w.Closed s → (w.releaseFd entry).directory.fd (.socket s) = w.directory.fd (.socket s) := by
    intro s isOpen
    rw [changed]
    split_ifs
    · exact Function.update_of_ne (fun same => isOpen (closed s same.symm)) ..
    · rfl
  refine .of_sockets ?_ ?_ ?_ ?_ ?_
  · intro k x _ held
    change (w.releaseFd entry).directory.fdManager k = some x at held
    rw [changed] at held
    split_ifs at held
    · dsimp only at held
      by_cases same : k = w.directory.fd entry
      · rw [same, Function.update_self] at held
        cases held
      · rwa [Function.update_of_ne same] at held
    · exact held
  · rintro s - ⟨server, half⟩
    exact ⟨(congrFun perspective s).trans server, (congrFun state s).trans half⟩
  · rintro s ⟨uses, isOpen⟩
    exact ⟨(fd s isOpen).trans_ne uses, (congrFun state s).trans_ne isOpen⟩
  · intro s _ child member _
    rw [show ((w.releaseFd entry).sockets s).acceptSockets = (w.sockets s).acceptSockets from congrFun queue s]
    exact member
  · intro s _ t member _
    rw [show ((w.releaseFd entry).sockets s).acceptStreams = (w.sockets s).acceptStreams from
      congrFun (backlogFrame.releaseFd w entry) s]
    exact member

/-- The test of `OnConnectionClosed` sees the entry as it was before libquic tore the connection down. -/
theorem onConnectionClosed_announced (close : SocketId → World → Run World) (s : SocketId) (errorCode : Int)
    (fromRemote : Bool) (w : World) :
    onConnectionClosed close s errorCode fromRemote (w.disconnect s) =
      if (w.sockets s).socketState ≠ .connected ∧ (w.sockets s).perspective = .isServer then
        (do
          let after ← close s (w.announce s errorCode fromRemote)
          return after.deleteQuicSocketEntry s)
      else .ok (w.announce s errorCode fromRemote) := by
  have changed := w.directory_announce s errorCode fromRemote
  have state : ((w.announce s errorCode fromRemote).sockets s).socketState = (w.sockets s).socketState :=
    congrFun (congrArg Directory.socketState changed) s
  have perspective : ((w.announce s errorCode fromRemote).sockets s).perspective = (w.sockets s).perspective :=
    congrFun (congrArg Directory.perspective changed) s
  rw [← state, ← perspective]
  rfl

/-- Closing an open socket closes those in its queue with it, and nobody else. -/
theorem quicCloseSocket_shuts (roles : w.directory.Roles) (settled : w.Settled)
    (found : w.fdManager sock = some (.socket s)) (isOpen : ¬ w.Closed s)
    (closed : w.quicCloseSocket sock = .ok result) :
    Shuts (fun x => x = s ∨ x ∈ w.directory.acceptSockets s) w result.2 ∧
      ∀ x, x = s ∨ x ∈ w.directory.acceptSockets s → result.2.directory.fd (.socket x) < 0 := by
  have servers : ∀ child ∈ w.directory.acceptSockets s, w.directory.acceptSockets child = [] := fun child member =>
    roles.queue_server (roles.queuedServer s child member)
  have targets : ∀ x, x = s ∨ x ∈ w.directory.acceptSockets s → ∀ child ∈ w.directory.acceptSockets x,
      child = s ∨ child ∈ w.directory.acceptSockets s := by
    rintro x (rfl | queued) child member
    · exact .inr member
    · rw [servers x queued] at member
      cases member
  obtain ⟨shuts, -, shut⟩ := (quicCloseSocket_yields (closable_shuts _ w) sock w (.refl targets)
    (fun x held => .inl (EntryPtr.socket.inj (Option.some.inj (held.symm.trans found)))) settled).of_ok closed
  refine ⟨shuts, ?_⟩
  rintro x (rfl | queued)
  · rw [quicCloseSocket, withSocket, found] at closed
    obtain ⟨last, -, returned⟩ := bind_eq_ok closed
    cases returned
    exact (last.fd_deleteQuicSocketEntry_neg x).1
  · exact ((shut s found).queue isOpen x queued).2

theorem quicCloseSocket_of_not_socket (unknown : ∀ s, w.fdManager sock ≠ some (.socket s))
    (closed : w.quicCloseSocket sock = .ok result) : result.2 = w := by
  unfold quicCloseSocket withSocket at closed
  split at closed
  · next s found => exact (unknown s found).elim
  · cases closed
    rfl

theorem carries_quicCloseSocket (roles : w.directory.Roles) (settled : w.Settled)
    (tables' : result.2.directory.Tables) (leaves : w.LeavesNoStreams (.closeSocket sock))
    (closed : w.quicCloseSocket sock = .ok result) : Carries nobody w result.2 := by
  by_cases isSocket : ∃ s, w.fdManager sock = some (.socket s)
  · obtain ⟨s, found⟩ := isSocket
    by_cases already : w.Closed s
    · rw [quicCloseSocket, withSocket, found] at closed
      obtain ⟨last, closes, returned⟩ := bind_eq_ok closed
      cases returned
      rw [close, closeSocket_of_closed already] at closes
      cases closes
      exact carries_releaseFd fun x self => EntryPtr.socket.inj self ▸ already
    · obtain ⟨shuts, lost⟩ := quicCloseSocket_shuts roles settled found already closed
      refine shuts.carries roles.toTables tables' lost ?_ ?_
      · rintro x aimed child member -
        rcases aimed with rfl | queued
        · exact .inr member
        · rw [roles.queue_server (roles.queuedServer s x queued)] at member
          cases member
      · intro x aimed usable
        exact leaves x (mem_closeReach.mpr ⟨s, found, aimed⟩) usable.2
  · rw [quicCloseSocket_of_not_socket (fun s found => isSocket ⟨s, found⟩) closed]
    exact .refl w

/-- A failed connection closes a server side entry that is not connected yet, and nothing else. -/
theorem connectionClosed_shuts {errorCode : Int} {fromRemote : Bool} (roles : w.directory.Roles) (settled : w.Settled)
    (half : (w.sockets s).socketState ≠ .connected ∧ (w.sockets s).perspective = .isServer)
    (closed : onConnectionClosed close s errorCode fromRemote (w.disconnect s) = .ok w') :
    Shuts (· = s) w w' ∧ w'.directory.fd (.socket s) < 0 := by
  have alone : ∀ x, x = s → ∀ child ∈ w.directory.acceptSockets x, child = s := by
    rintro x rfl child member
    rw [roles.queue_server half.2] at member
    cases member
  refine ⟨((connectionClosed_yields (closable_shuts (· = s) w) s errorCode fromRemote w
    ((Shuts.refl alone).announce s errorCode fromRemote) (fun _ => rfl) settled).of_ok closed).1, ?_⟩
  rw [onConnectionClosed_announced, if_pos half] at closed
  obtain ⟨last, -, returned⟩ := bind_eq_ok closed
  cases returned
  exact (last.fd_deleteQuicSocketEntry_neg s).1

theorem carries_connectionClosed {errorCode : Int} {fromRemote : Bool} (roles : w.directory.Roles)
    (settled : w.Settled) (tables' : w'.directory.Tables)
    (leaves : w.LeavesNoStreams (.connectionClosed s errorCode fromRemote))
    (closed : onConnectionClosed close s errorCode fromRemote (w.disconnect s) = .ok w') : Carries nobody w w' := by
  by_cases half : (w.sockets s).socketState ≠ .connected ∧ (w.sockets s).perspective = .isServer
  · obtain ⟨shuts, lost⟩ := connectionClosed_shuts roles settled half closed
    refine shuts.carries roles.toTables tables' (fun x aimed => aimed ▸ lost) ?_ ?_
    · rintro x rfl child member -
      rw [roles.queue_server half.2] at member
      cases member
    · rintro x rfl usable
      refine leaves x ?_ usable.2
      rw [closing, if_pos half]
      exact List.mem_singleton_self x
  · rw [onConnectionClosed_announced, if_neg half] at closed
    cases closed
    refine .of_eq ?_ ?_ ?_ ?_ ?_ (backlogFrame.announce ..)
    all_goals rw [directory_announce]

theorem carries_quicCloseStream {stream : Fd} (closed : w.quicCloseStream stream = .ok result) :
    Carries nobody w result.2 := by
  unfold quicCloseStream withStream at closed
  split at closed
  · next t found =>
    obtain ⟨last, closes, returned⟩ := bind_eq_ok closed
    cases returned
    unfold closeStreamEntry at closes
    dsimp only at closes
    have reset : ∀ before : World, before.directory = w.directory → before.backlog = w.backlog →
        before.clearWaitingsByClose (.stream t) = .ok last → Carries nobody w last := by
      intro before directory backlog cleared
      have changed := directory_clearWaitingsByClose cleared
      rw [directory] at changed
      refine .of_eq ?_ ?_ ?_ ?_ ?_ ((backlogFrame.clearWaitingsByClose cleared).trans backlog)
      all_goals rw [changed]
    refine Carries.trans ?_ (carries_releaseFd nofun)
    split_ifs at closes
    · exact reset _ (directory_streamCallback _ _ keepsStream_onClose) (backlogFrame.streamCallback w t keepsHome_onClose) closes
    · exact reset w rfl rfl closes
  · cases closed
    exact .refl w

end World

end PosixQuic
