import PosixQuic.Model.SocketLife
import PosixQuic.Soundness.DirectorySteps

/-! # The state machine of socket entries

An entry's states follow one another in a fixed order, its UDP socket is given once and for all, and an entry that
is neither new nor closed has one. The waiters of a closed entry are told only after its connection is gone, so
the end of a handshake, which needs an open connection, finds its entry in a state that leads to `Connected`.
-/

namespace PosixQuic

namespace QuicSocketState

/-- The place of a state in the order. -/
def rank : QuicSocketState → Nat
  | .none => 0
  | .shared | .inited => 1
  | .binded => 2
  | .connecting => 3
  | .connected => 4
  | .closed => 5

/-- The states that an entry can get to, its own among them. -/
def leadsTo : QuicSocketState → List QuicSocketState
  | .none => [.none, .shared, .inited, .binded, .connecting, .connected, .closed]
  | .shared => [.shared, .connected, .closed]
  | .inited => [.inited, .binded, .connecting, .connected, .closed]
  | .binded => [.binded, .connecting, .connected, .closed]
  | .connecting => [.connecting, .connected, .closed]
  | .connected => [.connected, .closed]
  | .closed => [.closed]

theorem mem_leadsTo_self (socketState : QuicSocketState) : socketState ∈ socketState.leadsTo := by
  cases socketState <;> decide

theorem closed_mem_leadsTo (socketState : QuicSocketState) : .closed ∈ socketState.leadsTo := by
  cases socketState <;> decide

variable {a b : QuicSocketState}

theorem mem_leadsTo_trans {c : QuicSocketState} (first : b ∈ a.leadsTo) (second : c ∈ b.leadsTo) : c ∈ a.leadsTo := by
  cases a <;> cases b <;> revert first <;> cases c <;> revert second <;> decide

theorem eq_or_rank_lt_of_mem_leadsTo (leads : b ∈ a.leadsTo) : b = a ∨ a.rank < b.rank := by
  cases a <;> cases b <;> revert leads <;> decide

/-- The handshake of an entry in this state has been started. -/
def Begun (socketState : QuicSocketState) : Prop :=
  socketState ∈ [QuicSocketState.shared, .connecting, .connected, .closed]

instance (socketState : QuicSocketState) : Decidable socketState.Begun :=
  inferInstanceAs (Decidable (socketState ∈ [QuicSocketState.shared, .connecting, .connected, .closed]))

theorem Begun.leadsTo (begun : a.Begun) (leads : b ∈ a.leadsTo) : b.Begun := by
  revert begun
  cases a <;> cases b <;> revert leads <;> simp [Begun, QuicSocketState.leadsTo]

end QuicSocketState

open QuicSocketState (mem_leadsTo_self mem_leadsTo_trans closed_mem_leadsTo)

/-- The session does not report the end of a connection whose entry is `Connected`. -/
def EntryOp.Spares (w : World) : EntryOp → Prop
  | .connectionClosed s _ _ => (w.sockets s).socketState ≠ .connected
  | _ => True

instance (w : World) : (op : EntryOp) → Decidable (op.Spares w)
  | .connectionClosed s _ _ => inferInstanceAs (Decidable ((w.sockets s).socketState ≠ .connected))
  | .create _ | .syn _ _ | .bind _ _ _ | .bindUdp _ _ _ | .connect _ _ | .handshakeComplete _ | .close _ | .delete _ =>
    .isTrue trivial

namespace Directory

variable {spare : Prop} {d d' d'' : Directory} {s : SocketId}

/-- Every entry has moved on in the order, if at all, and has kept its UDP socket. -/
structure Forward (d d' : Directory) : Prop where
  state : ∀ s < d.numSockets, d'.socketState s ∈ (d.socketState s).leadsTo
  udp : ∀ s < d.numSockets, ∀ udp, d.udp (.socket s) = some udp → d'.udp (.socket s) = some udp
  numSockets : d.numSockets ≤ d'.numSockets

theorem Forward.of_eq (state : d'.socketState = d.socketState) (udp : d'.udp = d.udp)
    (numSockets : d'.numSockets = d.numSockets) : Forward d d' where
  state s _ := by
    rw [state]
    exact mem_leadsTo_self _
  udp _ _ _ set := udp ▸ set
  numSockets := numSockets.ge

theorem Forward.trans (first : Forward d d') (second : Forward d' d'') : Forward d d'' where
  state s known := mem_leadsTo_trans (first.state s known) (second.state s (known.trans_le first.numSockets))
  udp s known udp set := second.udp s (known.trans_le first.numSockets) udp (first.udp s known udp set)
  numSockets := first.numSockets.trans second.numSockets

/-- Entries in use have a UDP socket, and the waiters of an entry are told after the end of its connection. In the
runs that `spare` connected entries the end of the connection, none of them has lost it. -/
structure Kempt (spare : Prop) (d : Directory) : Prop where
  equipped : ∀ s, d.socketState s ≠ .none → d.socketState s ≠ .closed → d.udp (.socket s) ≠ none
  told : ∀ s, d.closeTrigger (.socket s) = true → d.socketState s = .closed ∧ d.connected s = false
  alive : spare → ∀ s, d.connected s = false → d.socketState s ≠ .connected

theorem Kempt.of_eq (kempt : d.Kempt spare) (state : d'.socketState = d.socketState) (udp : d'.udp = d.udp)
    (flags : d'.closeTrigger = d.closeTrigger) (connected : d'.connected = d.connected) : d'.Kempt spare where
  equipped := by
    rw [state, udp]
    exact kempt.equipped
  told := by
    rw [state, flags, connected]
    exact kempt.told
  alive := by
    rw [state, connected]
    exact kempt.alive

/-- One entry gets another state and perhaps its UDP socket. -/
structure Changes (d : Directory) (s : SocketId) (socketState : QuicSocketState) (udp : Option UdpSocket)
    (d' : Directory) : Prop where
  state : d'.socketState = Function.update d.socketState s socketState
  udp : d'.udp = Function.update d.udp (.socket s) udp
  flags : d'.closeTrigger = d.closeTrigger
  connected : d'.connected = d.connected
  numSockets : d'.numSockets = d.numSockets

namespace Changes

variable {socketState : QuicSocketState} {udp : Option UdpSocket}

theorem forward (changes : Changes d s socketState udp d') (leads : socketState ∈ (d.socketState s).leadsTo)
    (keeps : ∀ u, d.udp (.socket s) = some u → udp = some u) : Forward d d' where
  state x _ := by
    rw [changes.state]
    by_cases same : x = s
    · subst same
      rwa [Function.update_self]
    · rw [Function.update_of_ne same]
      exact mem_leadsTo_self _
  udp x _ u set := by
    rw [changes.udp]
    by_cases same : x = s
    · subst same
      rw [Function.update_self]
      exact keeps u set
    · rwa [Function.update_of_ne (EntryPtr.socket_ne same)]
  numSockets := changes.numSockets.ge

theorem kempt (changes : Changes d s socketState udp d') (kempt : d.Kempt spare) (isOpen : d.socketState s ≠ .closed)
    (set : udp ≠ none) (live : socketState = .connected → d.connected s = true) : d'.Kempt spare where
  equipped x started isOpenAfter := by
    rw [changes.state] at started isOpenAfter
    rw [changes.udp]
    by_cases same : x = s
    · subst same
      rwa [Function.update_self]
    · rw [Function.update_of_ne same] at started isOpenAfter
      rw [Function.update_of_ne (EntryPtr.socket_ne same)]
      exact kempt.equipped x started isOpenAfter
  told x flag := by
    rw [changes.flags] at flag
    obtain ⟨closed, lost⟩ := kempt.told x flag
    have other : x ≠ s := by
      rintro rfl
      exact isOpen closed
    rw [changes.state, changes.connected, Function.update_of_ne other]
    exact ⟨closed, lost⟩
  alive spares x lost := by
    rw [changes.connected] at lost
    rw [changes.state]
    by_cases same : x = s
    · subst same
      rw [Function.update_self]
      intro connected
      rw [live connected] at lost
      cases lost
    · rw [Function.update_of_ne same]
      exact kempt.alive spares x lost

end Changes

end Directory

namespace World

open Machine Directory

variable {spare : Prop} {w w' before : World} {s : SocketId}

/-- An entry that stays open changes its state: everybody is settled as before. -/
theorem Settled.changes {socketState : QuicSocketState} {udp : Option UdpSocket} (settled : w.Settled)
    (changes : Changes w.directory s socketState udp w'.directory) (isOpen : ¬ w.Closed s)
    (stays : socketState ≠ .closed) : w'.Settled := by
  have same : ∀ x, w'.Closed x ↔ w.Closed x := by
    intro x
    rw [Closed, changes.state]
    by_cases here : x = s
    · subst here
      rw [Function.update_self]
      exact ⟨fun closed => (stays closed).elim, fun closed => (isOpen closed).elim⟩
    · rw [Function.update_of_ne here]
      rfl
  refine ⟨fun x closed => ?_, fun x beyond => ?_⟩
  · rw [changes.flags]
    exact settled.told x ((same x).mp closed)
  · rw [changes.numSockets] at beyond
    exact (same x).mpr (settled.bounded x beyond)

/-- What an operation leaves behind. -/
structure Advanced (spare : Prop) (before after : World) : Prop where
  forward : Forward before.directory after.directory
  kempt : after.directory.Kempt spare
  settled : after.Settled

theorem Advanced.refl (kempt : w.directory.Kempt spare) (settled : w.Settled) : Advanced spare w w :=
  ⟨.of_eq rfl rfl rfl, kempt, settled⟩

/-- One more change of an open entry. -/
theorem Advanced.changes {before : World} {socketState : QuicSocketState} {udp : Option UdpSocket}
    (advanced : Advanced spare before w) (changes : Changes w.directory s socketState udp w'.directory)
    (isOpen : ¬ w.Closed s) (stays : socketState ≠ .closed)
    (leads : socketState ∈ (w.directory.socketState s).leadsTo) (set : udp ≠ none)
    (keeps : ∀ u, w.directory.udp (.socket s) = some u → udp = some u)
    (live : socketState = .connected → w.directory.connected s = true) : Advanced spare before w' where
  forward := advanced.forward.trans (changes.forward leads keeps)
  kempt := changes.kempt advanced.kempt isOpen set live
  settled := advanced.settled.changes changes isOpen stays

theorem changes_setSocketState (w : World) (s : SocketId) (socketState : QuicSocketState) :
    Changes w.directory s socketState (w.directory.udp (.socket s)) (w.setSocketState s socketState).directory := by
  rw [directory_setSocketState]
  exact ⟨rfl, (Function.update_eq_self ..).symm, rfl, rfl, rfl⟩

theorem changes_setUdpSocket (w : World) (s : SocketId) (udp : UdpSocket) :
    Changes w.directory s .inited (some udp) ((w.openUdp udp).setUdpSocket s udp).directory := by
  rw [directory_setUdpSocket, directory_openUdp]
  exact ⟨rfl, rfl, rfl, rfl, rfl⟩

/-- The entry moves on, with the UDP socket it has. -/
theorem Advanced.setSocketState (advanced : Advanced spare before w) {socketState : QuicSocketState}
    (started : w.directory.socketState s ≠ .none) (isOpen : ¬ w.Closed s) (stays : socketState ≠ .closed)
    (leads : socketState ∈ (w.directory.socketState s).leadsTo) (shaking : socketState ≠ .connected) :
    Advanced spare before (w.setSocketState s socketState) :=
  advanced.changes (w.changes_setSocketState s socketState) isOpen stays leads
    (advanced.kempt.equipped s started isOpen) (fun _ set => set) fun connected => (shaking connected).elim

/-- A new entry gets its UDP socket. -/
theorem Advanced.setUdpSocket (advanced : Advanced spare w w) (new : w.directory.socketState s = .none)
    (unset : ¬ (w.sockets s).udpSocket.isSome = true) (udp : UdpSocket) :
    Advanced spare w ((w.openUdp udp).setUdpSocket s udp) := by
  have none : w.directory.udp (.socket s) = none := Option.not_isSome_iff_eq_none.mp unset
  refine advanced.changes (w.changes_setUdpSocket s udp) ?_ (by decide) (by rw [new]; decide) (by simp) ?_ ?_
  · rw [Closed, new]
    decide
  · intro u set
    rw [none] at set
    cases set
  · rintro ⟨⟩

theorem Advanced.inited (advanced : Advanced spare before w) (inited : w.directory.socketState s = .inited)
    {next : QuicSocketState} (nexts : next = .binded ∨ next = .connecting) :
    Advanced spare before (w.setSocketState s next) := by
  refine advanced.setSocketState ?_ ?_ ?_ ?_ ?_
  · rw [inited]
    decide
  · rw [Closed, inited]
    decide
  · rcases nexts with rfl | rfl <;> decide
  · rw [inited]
    rcases nexts with rfl | rfl <;> decide
  · rcases nexts with rfl | rfl <;> decide

theorem advanced_configures (advanced : Advanced spare w w) (s : SocketId) :
    Configures (Advanced spare w) w s fun _ => True where
  holds := advanced
  set udp _ new unset := advanced.setUdpSocket new unset udp
  moves _ _ inited before next := before.inited inited next

theorem connect_advanced (advanced : Advanced spare w w) (s : SocketId) (udp : Except Errno UdpSocket) :
    Advanced spare w (w.connect s udp).2 := by
  refine (advanced_configures advanced s).connect (fun _ => trivial) fun binded => ?_
  refine advanced.setSocketState ?_ ?_ (by decide) (by rw [binded]; decide) (by decide)
  · rw [binded]
    decide
  · rw [Closed, binded]
    decide

/-! ## New entries and callbacks -/

theorem newQuicSocketEntry_advanced (advanced : Advanced spare w w) (perspective : Perspective) (id : QuicConnectionId) :
    Advanced spare w (w.newQuicSocketEntry perspective id).2 := by
  have changed : (w.newQuicSocketEntry perspective id).2.directory = w.directory.createSocket perspective id :=
    w.directory_newQuicSocketEntry perspective id
  have state : ∀ x, x ≠ w.numSockets →
      (w.directory.createSocket perspective id).socketState x = w.directory.socketState x :=
    fun x old => Function.update_of_ne old ..
  have udp : ∀ x, x ≠ w.numSockets →
      (w.directory.createSocket perspective id).udp (.socket x) = w.directory.udp (.socket x) :=
    fun x old => Function.update_of_ne (EntryPtr.socket_ne old) ..
  have flag : ∀ x, x ≠ w.numSockets →
      (w.directory.createSocket perspective id).closeTrigger (.socket x) = w.directory.closeTrigger (.socket x) :=
    fun x old => Function.update_of_ne (EntryPtr.socket_ne old) ..
  have new : (w.directory.createSocket perspective id).socketState w.numSockets = .none := Function.update_self ..
  have untold : (w.directory.createSocket perspective id).closeTrigger (.socket w.numSockets) = false :=
    Function.update_self ..
  have connected : ∀ x, x ≠ w.numSockets →
      (w.directory.createSocket perspective id).connected x = w.directory.connected x :=
    fun x old => Function.update_of_ne old ..
  refine ⟨⟨?_, ?_, ?_⟩, ⟨?_, ?_, ?_⟩, ?_, ?_⟩
  · intro x known
    rw [changed, state x (Nat.ne_of_lt known)]
    exact mem_leadsTo_self _
  · intro x known u set
    rwa [changed, udp x (Nat.ne_of_lt known)]
  · rw [changed]
    exact Nat.le_succ _
  · intro x started isOpen
    rw [changed] at started isOpen ⊢
    by_cases same : x = w.numSockets
    · exact (started (same ▸ new)).elim
    · rw [state x same] at started isOpen
      rw [udp x same]
      exact advanced.kempt.equipped x started isOpen
  · intro x told
    rw [changed] at told ⊢
    by_cases same : x = w.numSockets
    · rw [same, untold] at told
      cases told
    · rw [flag x same] at told
      rw [state x same, connected x same]
      exact advanced.kempt.told x told
  · intro spares x lost
    rw [changed] at lost ⊢
    by_cases same : x = w.numSockets
    · rw [same, new]
      decide
    · rw [connected x same] at lost
      rw [state x same]
      exact advanced.kempt.alive spares x lost
  · intro x closed
    rw [Closed, changed] at closed
    rw [changed]
    by_cases same : x = w.numSockets
    · rw [same, new] at closed
      cases closed
    · rw [state x same] at closed
      rw [flag x same]
      exact advanced.settled.told x closed
  · intro x beyond
    rw [changed] at beyond
    have above : w.numSockets < x := beyond
    rw [Closed, changed, state x (Nat.ne_of_gt above)]
    exact advanced.settled.bounded x (Nat.le_of_lt above)

/-- The new entry of `OnSyn` shares the UDP socket of its owner. -/
theorem syn_advanced (advanced : Advanced spare w w) {owner : SocketId} {id : QuicConnectionId}
    (synced : (w.newQuicSocketEntry .isServer id).2.onSyn w.numSockets owner = .ok w') :
    Advanced spare w w' ∧ w'.directory.socketState w.numSockets = .shared ∧ w.numSockets < w'.numSockets := by
  have created := newQuicSocketEntry_advanced advanced .isServer id
  have fresh := w.directory_newQuicSocketEntry .isServer id
  generalize (w.newQuicSocketEntry .isServer id).2 = new at synced created fresh
  obtain ⟨udp, -, changed⟩ := directory_onSyn synced
  have state : new.directory.socketState w.numSockets = .none := by
    rw [fresh]
    exact Function.update_self ..
  have unset : new.directory.udp (.socket w.numSockets) = none := by
    rw [fresh]
    exact Function.update_self ..
  have changes : Changes new.directory w.numSockets .shared (some udp) w'.directory := by
    rw [changed]
    exact ⟨rfl, rfl, rfl, rfl, rfl⟩
  refine ⟨created.changes changes ?_ (by decide) (by rw [state]; decide) (by simp) ?_ ?_, ?_, ?_⟩
  · rw [Closed, state]
    decide
  · intro u set
    rw [unset] at set
    cases set
  · rintro ⟨⟩
  · rw [changes.state]
    exact Function.update_self ..
  · calc w.numSockets < new.directory.numSockets := by
          rw [fresh]
          exact Nat.lt_succ_self _
      _ = w'.numSockets := changes.numSockets.symm

/-- The end of the handshake changes the state of its own entry only. -/
theorem changes_onCryptoHandshakeComplete (completed : w.onCryptoHandshakeComplete s = .ok w') :
    Changes w.directory s .connected (w.directory.udp (.socket s)) w'.directory := by
  have connects := w.changes_setSocketState s .connected
  rw [← directory_setWritable (w.setSocketState s .connected) (.socket s) true] at connects
  obtain ⟨ready, rfl, -, ⟨-, rfl⟩ | ⟨-, -, owner, -, -, rfl⟩⟩ := onCryptoHandshakeComplete_outcome completed
  · exact connects
  · rw [directory_pushAcceptQueue]
    exact ⟨connects.state, connects.udp, connects.flags, connects.connected, connects.numSockets⟩

theorem onCryptoHandshakeComplete_advanced (advanced : Advanced spare w w) (begun : (w.directory.socketState s).Begun)
    (connected : w.directory.connected s = true) :
    Yields (· ≠ Fault.outOfFuel) (Advanced spare w) (w.onCryptoHandshakeComplete s) := by
  have isOpen : ¬ w.Closed s := by
    intro closed
    rw [(advanced.kempt.told s (advanced.settled.told s closed)).2] at connected
    cases connected
  have state : w.directory.socketState s ≠ .none ∧ .connected ∈ (w.directory.socketState s).leadsTo := by
    have notClosed : w.directory.socketState s ≠ .closed := isOpen
    revert begun notClosed
    cases w.directory.socketState s <;> simp [QuicSocketState.Begun, QuicSocketState.leadsTo]
  cases completed : w.onCryptoHandshakeComplete s with
  | error fault =>
    unfold onCryptoHandshakeComplete at completed
    dsimp only at completed
    split at completed
    · cases completed
    · split at completed
      · cases completed
        exact Fault.noConfusion
      · next udp _ =>
        generalize (w.setSocketState s .connected).setWritable (.socket s) true = ready at completed
        cases found : asSocket (ready.fdManager (ready.connectionManager.getOwner udp)) with
        | error other =>
          rw [found] at completed
          cases completed
          exact asSocket_fault found
        | ok owner =>
          rw [found] at completed
          cases completed
  | ok last =>
    exact advanced.changes (changes_onCryptoHandshakeComplete completed) isOpen (by decide) state.2
      (advanced.kempt.equipped s state.1 isOpen) (fun _ set => set) fun _ => connected

/-! ## Closes -/

theorem advances_release (forward : Forward before.directory w.directory) (kempt : w.directory.Kempt spare)
    (s : SocketId) :
    Forward before.directory (w.deleteQuicSocketEntry s).directory ∧ (w.deleteQuicSocketEntry s).directory.Kempt spare := by
  rw [directory_deleteQuicSocketEntry, Directory.release]
  split_ifs
  · exact ⟨forward.trans (.of_eq rfl rfl rfl), kempt.of_eq rfl rfl rfl rfl⟩
  · exact ⟨forward, kempt⟩

theorem advances_announce (forward : Forward before.directory w.directory) (kempt : w.directory.Kempt spare)
    (spared : spare → w.directory.socketState s ≠ .connected) (errorCode : Int) (fromRemote : Bool) :
    Forward before.directory (w.announce s errorCode fromRemote).directory ∧
      (w.announce s errorCode fromRemote).directory.Kempt spare := by
  rw [directory_announce]
  refine ⟨forward.trans (.of_eq rfl rfl rfl), kempt.equipped, ?_, ?_⟩
  · intro x flag
    obtain ⟨closed, lost⟩ := kempt.told x flag
    refine ⟨closed, ?_⟩
    dsimp only
    by_cases same : x = s
    · rw [same, Function.update_self]
    · rwa [Function.update_of_ne same]
  · intro spares x lost
    dsimp only at lost
    by_cases same : x = s
    · exact same ▸ spared spares
    · rw [Function.update_of_ne same] at lost
      exact kempt.alive spares x lost

theorem advances_mark (forward : Forward before.directory w.directory) (kempt : w.directory.Kempt spare)
    (isOpen : ¬ w.Closed s) : Forward before.directory (w.mark s).directory ∧ (w.mark s).directory.Kempt spare := by
  rw [directory_mark]
  refine ⟨forward.trans ⟨?_, fun _ _ _ => id, le_rfl⟩, ?_, ?_, ?_⟩
  · intro x _
    dsimp only
    by_cases same : x = s
    · rw [same, Function.update_self]
      exact closed_mem_leadsTo _
    · rw [Function.update_of_ne same]
      exact mem_leadsTo_self _
  · intro x started isOpenAfter
    dsimp only at started isOpenAfter ⊢
    by_cases same : x = s
    · rw [same, Function.update_self] at isOpenAfter
      exact (isOpenAfter rfl).elim
    · rw [Function.update_of_ne same] at started isOpenAfter
      exact kempt.equipped x started isOpenAfter
  · intro x flag
    obtain ⟨closed, lost⟩ := kempt.told x flag
    have other : x ≠ s := by
      rintro rfl
      exact isOpen closed
    dsimp only
    rw [Function.update_of_ne other]
    exact ⟨closed, lost⟩
  · intro spares x lost
    dsimp only
    by_cases same : x = s
    · rw [same, Function.update_self]
      decide
    · rw [Function.update_of_ne same]
      exact kempt.alive spares x lost

theorem advances_clear (forward : Forward before.directory w.directory) (kempt : w.directory.Kempt spare)
    (closed : w.Closed s) (lost : w.directory.connected s = false)
    (cleared : w.clearWaitingsByClose (.socket s) = .ok w') :
    Forward before.directory w'.directory ∧ w'.directory.Kempt spare := by
  rw [directory_clearWaitingsByClose cleared]
  refine ⟨forward.trans (.of_eq rfl rfl rfl), kempt.equipped, ?_, kempt.alive⟩
  intro x flag
  dsimp only at flag ⊢
  by_cases same : x = s
  · exact same ▸ ⟨closed, lost⟩
  · rw [Function.update_of_ne (EntryPtr.socket_ne same)] at flag
    exact kempt.told x flag

/-- Every part of a close moves entries on to `Closed`. -/
theorem closable_advances (spare : Prop) (before : World) : Closable (· ≠ Fault.outOfFuel) (fun _ => True)
    (fun w => Forward before.directory w.directory ∧ w.directory.Kempt spare) where
  queued _ _ _ _ _ _ := trivial
  mark _ _ holds _ isOpen := advances_mark holds.1 holds.2 isOpen
  announce w s errorCode fromRemote holds _ closed := by
    have state : w.directory.socketState s = .closed := closed
    exact advances_announce holds.1 holds.2 (fun _ => by rw [state]; decide) errorCode fromRemote
  releaseServer w s holds _ closed _ _ := by
    have state : w.directory.socketState s = .closed := closed
    obtain ⟨forward, kempt⟩ := advances_announce holds.1 holds.2 (fun _ => by rw [state]; decide)
      quicConnectionCancelled false
    exact advances_release forward kempt s
  clear w s holds _ closed lost := by
    cases cleared : w.clearWaitingsByClose (.socket s) with
    | error fault =>
      have asserted := clearWaitingsByClose_fault cleared
      subst asserted
      exact Fault.noConfusion
    | ok after => exact advances_clear holds.1 holds.2 closed lost cleared
  release _ s holds _ _ _ := advances_release holds.1 holds.2 s
  pop w s holds _ := by
    rw [directory_popAccept]
    exact ⟨holds.1.trans (.of_eq rfl rfl rfl), holds.2.of_eq rfl rfl rfl rfl⟩

theorem close_advanced (advanced : Advanced spare w w) (s : SocketId) :
    Yields (· ≠ Fault.outOfFuel) (Advanced spare w) (close s w) := by
  refine (close_yields (closable_advances spare w) s w ⟨advanced.forward, advanced.kempt⟩ trivial advanced.settled).imp ?_
  rintro after ⟨done, -⟩
  exact ⟨done.holds.1, done.holds.2, done.settled⟩

theorem connectionClosed_advanced (advanced : Advanced spare w w)
    (spared : spare → w.directory.socketState s ≠ .connected) (errorCode : Int) (fromRemote : Bool) :
    Yields (· ≠ Fault.outOfFuel) (Advanced spare w) (onConnectionClosed close s errorCode fromRemote (w.disconnect s)) := by
  refine (connectionClosed_yields (closable_advances spare w) s errorCode fromRemote w
    (advances_announce advanced.forward advanced.kempt spared errorCode fromRemote) (fun _ => trivial)
    advanced.settled).imp ?_
  rintro after ⟨holds, settled⟩
  exact ⟨holds.1, holds.2, settled⟩

/-! ## Operations and runs -/

/-- Every operation moves entries on, if no assertion fails, and none runs out of fuel. -/
theorem apply_advanced (advanced : Advanced spare w w) {op : EntryOp}
    (promised : ∀ s, op = .handshakeComplete s →
      (w.directory.socketState s).Begun ∧ w.directory.connected s = true)
    (spared : spare → op.Spares w) :
    Yields (· ≠ Fault.outOfFuel) (fun result => Advanced spare w result.2) (op.apply w) := by
  cases op with
  | create id => exact newQuicSocketEntry_advanced advanced .isClient id
  | syn owner id =>
    have syncs : Yields (· ≠ Fault.outOfFuel) (Advanced spare w)
        ((w.newQuicSocketEntry .isServer id).2.onSyn w.numSockets owner) := by
      cases synced : (w.newQuicSocketEntry .isServer id).2.onSyn w.numSockets owner with
      | error fault =>
        unfold onSyn at synced
        split at synced
        · cases synced
          exact Fault.noConfusion
        · cases synced
      | ok after => exact (syn_advanced advanced synced).1
    exact syncs.bind fun _ holds => holds
  | bind s udp os => exact (advanced_configures advanced s).bind (fun _ => trivial) os
  | bindUdp s udp os => exact (advanced_configures advanced s).bindUdp trivial os
  | connect s udp => exact connect_advanced advanced s udp
  | handshakeComplete s =>
    obtain ⟨begun, connected⟩ := promised s rfl
    exact (onCryptoHandshakeComplete_advanced advanced begun connected).bind fun _ holds => holds
  | connectionClosed s errorCode fromRemote =>
    exact (connectionClosed_advanced advanced spared errorCode fromRemote).bind fun _ holds => holds
  | close s => exact (close_advanced advanced s).bind fun _ holds => holds
  | delete s =>
    obtain ⟨forward, kempt⟩ := advances_release advanced.forward advanced.kempt s
    exact ⟨forward, kempt, (w.kept_deleteQuicSocketEntry s).settled advanced.settled⟩

/-- A refused operation does nothing. -/
theorem apply_of_refusal {op : EntryOp} {err : Errno} (refused : op.refusal w = some err) :
    op.apply w = .ok (.fail err, w) := by
  cases op with
  | bind s udp os =>
    simp only [EntryOp.refusal, EntryOp.apply, World.bind] at refused ⊢
    cases state : (w.sockets s).socketState <;> simp_all
  | bindUdp s udp os =>
    simp only [EntryOp.refusal, EntryOp.apply, World.bindUdp] at refused ⊢
    cases state : (w.sockets s).socketState <;> simp_all
  | connect s udp =>
    simp only [EntryOp.refusal, EntryOp.apply, World.connect] at refused ⊢
    cases state : (w.sockets s).socketState <;> simp_all
  | _ => cases refused

end World

namespace SocketLife

open Machine World

variable {spare : Prop} {n n' : SocketLife} {op : EntryOp}

/-- What is known between two operations. -/
structure Orderly (spare : Prop) (n : SocketLife) : Prop where
  kempt : n.world.directory.Kempt spare
  settled : n.world.Settled
  begun : ∀ s, n.started s = true → s < n.world.numSockets ∧ (n.world.directory.socketState s).Begun

theorem orderly_init (spare : Prop) : Orderly spare {} where
  kempt := ⟨fun _ _ isOpen => (isOpen rfl).elim, fun _ _ => ⟨rfl, rfl⟩, fun _ _ _ =>
    show QuicSocketState.closed ≠ .connected by decide⟩
  settled := ⟨fun _ _ => rfl, fun _ _ => rfl⟩
  begun _ started := absurd started Bool.false_ne_true

/-- The entries whose handshake an operation starts are in a state that says so. -/
theorem starts_begun {w after : World} (advanced : Advanced spare w w) (settled : after.Settled) {result : CallResult}
    (applied : op.apply w = .ok (result, after)) {s : SocketId} (starts : op.starts w after s = true) :
    s < after.numSockets ∧ (after.directory.socketState s).Begun := by
  cases op with
  | syn owner id =>
    obtain ⟨last, synced, returned⟩ := bind_eq_ok applied
    cases returned
    obtain rfl : s = w.numSockets := of_decide_eq_true starts
    obtain ⟨-, state, more⟩ := syn_advanced advanced synced
    exact ⟨more, state ▸ by decide⟩
  | connect s' udp =>
    obtain ⟨rfl, connecting⟩ := of_decide_eq_true starts
    have state : after.directory.socketState s = .connecting := connecting
    refine ⟨?_, state ▸ by decide⟩
    by_contra beyond
    have closed : after.directory.socketState s = .closed := settled.bounded s (not_lt.mp beyond)
    rw [state] at closed
    cases closed
  | _ => cases starts

theorem step_eq_ok (stepped : n.step op = .ok n') :
    ∃ result, op.apply n.world = .ok (result, n'.world) ∧
      n'.started = fun s => n.started s || op.starts n.world n'.world s := by
  obtain ⟨⟨result, after⟩, applied, returned⟩ := bind_eq_ok stepped
  cases returned
  exact ⟨result, applied, rfl⟩

/-- What a session promises of the end of a handshake, in the terms of the states. -/
theorem Orderly.promised (orderly : n.Orderly spare) (admitted : n.admits op = true) (s : SocketId)
    (completes : op = .handshakeComplete s) :
    (n.world.directory.socketState s).Begun ∧ n.world.directory.connected s = true := by
  subst completes
  obtain ⟨started, connected⟩ := Bool.and_eq_true_iff.mp admitted
  exact ⟨(orderly.begun s started).2, connected⟩

theorem Orderly.step (orderly : n.Orderly spare) (admitted : n.admits op = true) (spared : spare → op.Spares n.world)
    (stepped : n.step op = .ok n') : n'.Orderly spare ∧ n.world.directory.Forward n'.world.directory := by
  obtain ⟨result, applied, started⟩ := step_eq_ok stepped
  have advanced := Advanced.refl orderly.kempt orderly.settled
  obtain ⟨forward, kempt, settled⟩ := (apply_advanced advanced (orderly.promised admitted) spared).of_ok applied
  refine ⟨⟨kempt, settled, ?_⟩, forward⟩
  intro s begins
  rw [started] at begins
  rcases Bool.or_eq_true_iff.mp begins with before | now
  · obtain ⟨known, begun⟩ := orderly.begun s before
    exact ⟨known.trans_le forward.numSockets, begun.leadsTo (forward.state s known)⟩
  · exact starts_begun advanced settled applied now

theorem reachable_orderly (run : system.Reachable {} n) : n.Orderly False :=
  run.invariant (orderly_init False) fun _ _ _ orderly admitted stepped =>
    (orderly.step admitted False.elim stepped).1

/-- From every state on, entries only move on. -/
theorem Orderly.forward (orderly : n.Orderly False) (later : system.Reachable n n') :
    n.world.directory.Forward n'.world.directory := by
  refine (later.invariant (P := fun m => m.Orderly False ∧ n.world.directory.Forward m.world.directory)
    ⟨orderly, .of_eq rfl rfl rfl⟩ ?_).2
  rintro before op after ⟨sound, forward⟩ admitted stepped
  obtain ⟨soundAfter, moves⟩ := sound.step admitted False.elim stepped
  exact ⟨soundAfter, forward.trans moves⟩

/-- The bound on nested closes is never what stops an operation. -/
theorem entry_fuel_suffices (run : system.Reachable {} n) (admitted : n.admits op = true) :
    op.apply n.world ≠ .error .outOfFuel := by
  have orderly := reachable_orderly run
  have yields := apply_advanced (.refl orderly.kempt orderly.settled) (orderly.promised admitted) False.elim
  intro exhausted
  rw [exhausted] at yields
  exact yields rfl

/-- In every run, an entry that is neither new nor closed has a UDP socket; from there on a closed entry stays closed,
states follow one another in their order, and a UDP socket that is set stays; and an operation that a state switch
refuses changes nothing. -/
theorem socket_states_advance (run : system.Reachable {} n) (later : system.Reachable n n') :
    (∀ s, (n.world.sockets s).socketState ≠ .none → (n.world.sockets s).socketState ≠ .closed →
      (n.world.sockets s).udpSocket ≠ none) ∧
    (∀ s < n.world.numSockets,
      ((n.world.sockets s).socketState = .closed → (n'.world.sockets s).socketState = .closed) ∧
      ((n'.world.sockets s).socketState = (n.world.sockets s).socketState ∨
        (n.world.sockets s).socketState.rank < (n'.world.sockets s).socketState.rank) ∧
      ∀ udp, (n.world.sockets s).udpSocket = some udp → (n'.world.sockets s).udpSocket = some udp) ∧
    ∀ op : EntryOp, ∀ err, op.refusal n.world = some err → op.apply n.world = .ok (.fail err, n.world) := by
  have orderly := reachable_orderly run
  have forward := orderly.forward later
  refine ⟨orderly.kempt.equipped, ?_, fun op err refused => apply_of_refusal refused⟩
  intro s known
  have leads : (n'.world.sockets s).socketState ∈ (n.world.sockets s).socketState.leadsTo := forward.state s known
  refine ⟨?_, QuicSocketState.eq_or_rank_lt_of_mem_leadsTo leads, forward.udp s known⟩
  intro closed
  rw [closed] at leads
  exact List.mem_singleton.mp leads

/-- A listener whose first `::bind` fails, a client, and a connection that the listener takes. -/
def servesOne : List EntryOp :=
  [.create 11, .bind 0 (.ok 5) (some .ebusy), .bind 0 (.error .einval) none, .create 12, .connect 1 (.ok 6),
    .syn 0 12]

/-- The handshakes end, the listener connects and is closed, and somebody still tries to use it. -/
def closesListener : List EntryOp :=
  [.handshakeComplete 1, .handshakeComplete 2, .connect 0 (.ok 7), .close 0, .connect 0 (.ok 7)]

theorem servesOne_advances :
    ∃ n n', system.Reachable {} n ∧ system.replay? n closesListener = some n' ∧
      (n.world.sockets 0).socketState = .binded ∧ (n'.world.sockets 0).socketState = .closed ∧
      (n.world.sockets 2).socketState = .shared ∧ (n'.world.sockets 2).socketState = .closed ∧
      (n'.world.sockets 1).udpSocket = some 6 ∧
      EntryOp.apply n.world (.bindUdp 0 9 none) = .ok (.fail .einval, n.world) := by
  have ends : ∃ n ∈ system.replay? {} servesOne, ∃ n' ∈ system.replay? n closesListener,
      (n.world.sockets 0).socketState = .binded ∧ (n'.world.sockets 0).socketState = .closed ∧
      (n.world.sockets 2).socketState = .shared ∧ (n'.world.sockets 2).socketState = .closed ∧
      1 < n.world.numSockets ∧ (n.world.sockets 1).udpSocket = some 6 ∧
      EntryOp.refusal n.world (.bindUdp 0 9 none) = some .einval := by
    decide
  obtain ⟨n, ran, n', later, binded, closed, shared, gone, known, set, refused⟩ := ends
  have reached := System.reachable_of_replay? ran
  obtain ⟨-, moves, refuses⟩ := socket_states_advance reached (System.reachable_of_replay? later)
  exact ⟨n, n', reached, later, binded, closed, shared, gone, (moves 1 known).2.2 6 set, refuses _ _ refused⟩

/-! ## Lost connections -/

/-- In runs in which sessions spare `Connected` entries the end of the connection, an entry whose session has reported
it is not `Connected`, and neither creates nor hands out streams. -/
theorem lost_connection_not_connected
    (run : (system.restrict fun n op => op.Spares n.world).Reachable {} n) (s : SocketId)
    (lost : (n.world.sockets s).connected = false) :
    (n.world.sockets s).socketState ≠ .connected ∧
      (∀ streamId, n.world.createStream s streamId = (.fail .enotconn, n.world)) ∧
      n.world.acceptStream s = (.fail .enotconn, n.world) := by
  have orderly : n.Orderly True := by
    refine run.invariant (orderly_init True) ?_
    rintro before op after orderly ⟨admitted, spares⟩ stepped
    exact (orderly.step admitted (fun _ => spares) stepped).1
  have state : (n.world.sockets s).socketState ≠ .connected := orderly.kempt.alive trivial s lost
  exact ⟨state, fun _ => if_pos state, if_pos state⟩

/-- A client is connected, and closes. -/
def closesItself : List EntryOp := [.create 11, .connect 0 (.ok 5), .handshakeComplete 0, .close 0]

theorem closesItself_not_connected :
    ∃ n, (system.restrict fun n op => op.Spares n.world).replay? {} closesItself = some n ∧
      (n.world.sockets 0).connected = false ∧
      (n.world.sockets 0).socketState ≠ .connected ∧
      (∀ streamId, n.world.createStream 0 streamId = (.fail .enotconn, n.world)) ∧
      n.world.acceptStream 0 = (.fail .enotconn, n.world) := by
  have ends : ∃ n ∈ (system.restrict fun n op => op.Spares n.world).replay? {} closesItself,
      (n.world.sockets 0).connected = false := by
    decide
  obtain ⟨n, ran, lost⟩ := ends
  exact ⟨n, ran, lost, lost_connection_not_connected (System.reachable_of_replay? ran) 0 lost⟩

/-- A client is connected, and its peer closes the connection. -/
def losesPeer : List EntryOp := [.create 11, .connect 0 (.ok 5), .handshakeComplete 0, .connectionClosed 0 16 true]

/-- The entry stays `Connected`, with its error set, and creates a stream on the lost connection. -/
theorem losesPeer_creates_stream :
    ∃ n, system.Reachable {} n ∧ (n.world.sockets 0).connected = false ∧
      (n.world.sockets 0).socketState = .connected ∧ (n.world.sockets 0).error = some .eshutdown ∧
      (n.world.createStream 0 5).1 = ⟨2, none⟩ ∧ (n.world.acceptStream 0).1 = .fail .eagain := by
  apply System.exists_reachable losesPeer
  decide

end SocketLife

end PosixQuic
