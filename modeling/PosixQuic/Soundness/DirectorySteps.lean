import PosixQuic.Soundness.CloseRule
import Mathlib.Logic.Relation

/-! # The library refines a small machine over directories

Seen through the directory, every action is a finite run of ten elementary steps, however deeply it
re-enters itself. An invariant of the tables therefore needs one case per elementary step and none
per action.
-/

namespace PosixQuic

namespace Directory

/-- No socket entry that has a descriptor uses the UDP socket. -/
def UdpUnbound (d : Directory) (udp : UdpSocket) : Prop :=
  ∀ s < d.numSockets, 0 ≤ d.fd (.socket s) → d.udp (.socket s) ≠ some udp

def createSocket (d : Directory) (perspective : Perspective) (id : QuicConnectionId) : Directory :=
  { d with
    fdFactory := d.fdFactory.alloc.2
    fdManager := Function.update d.fdManager d.fdFactory.alloc.1 (some (.socket d.numSockets))
    numSockets := d.numSockets + 1
    fd := Function.update d.fd (.socket d.numSockets) d.fdFactory.alloc.1
    closeTrigger := Function.update d.closeTrigger (.socket d.numSockets) false
    udp := Function.update d.udp (.socket d.numSockets) none
    perspective := Function.update d.perspective d.numSockets perspective
    connectionId := Function.update d.connectionId d.numSockets id
    socketState := Function.update d.socketState d.numSockets .none
    connected := Function.update d.connected d.numSockets true
    acceptSockets := Function.update d.acceptSockets d.numSockets [] }

def createStream (d : Directory) (s : SocketId) : Directory :=
  { d with
    fdFactory := d.fdFactory.alloc.2
    fdManager := Function.update d.fdManager d.fdFactory.alloc.1 (some (.stream d.numStreams))
    numStreams := d.numStreams + 1
    fd := Function.update d.fd (.stream d.numStreams) d.fdFactory.alloc.1
    closeTrigger := Function.update d.closeTrigger (.stream d.numStreams) false
    udp := Function.update d.udp (.stream d.numStreams) (d.udp (.socket s)) }

def route (d : Directory) (s : SocketId) (udp : UdpSocket) (socketState : QuicSocketState)
    (owner : Bool) : Directory :=
  { d with
    udp := Function.update d.udp (.socket s) (some udp)
    socketState := Function.update d.socketState s socketState
    connectionManager := d.connectionManager.put udp (d.connectionId s) (d.fd (.socket s)) owner }

def setState (d : Directory) (s : SocketId) (socketState : QuicSocketState) : Directory :=
  { d with socketState := Function.update d.socketState s socketState }

def mark (d : Directory) (s : SocketId) : Directory :=
  { d with
    socketState := Function.update d.socketState s .closed
    connectionManager :=
      match d.udp (.socket s) with
      | none => d.connectionManager
      | some udp => d.connectionManager.delete udp (d.connectionId s) (d.fd (.socket s)) }

def enqueue (d : Directory) (s child : SocketId) : Directory :=
  { d with acceptSockets := Function.update d.acceptSockets s (d.acceptSockets s ++ [child]) }

def dequeue (d : Directory) (s : SocketId) : Directory :=
  { d with acceptSockets := Function.update d.acceptSockets s (d.acceptSockets s).tail }

def disconnect (d : Directory) (s : SocketId) : Directory :=
  { d with connected := Function.update d.connected s false }

def release (d : Directory) (entry : EntryPtr) : Directory :=
  if 0 ≤ d.fd entry then
    { d with
      fdManager := Function.update d.fdManager (d.fd entry) none
      fdFactory := d.fdFactory.free (d.fd entry)
      fd := Function.update d.fd entry (-1) }
  else d

def tell (d : Directory) (entry : EntryPtr) : Directory :=
  { d with closeTrigger := Function.update d.closeTrigger entry true }

def setDispatch (d : Directory) (e : EpollerId) (dispatch : Option (UdpSocket × Option SocketId)) :
    Directory :=
  { d with dispatch := Function.update d.dispatch e dispatch }

/-- The owner that a new connection on `udp` is given: the cached one, or the registered one. -/
def Owns (d : Directory) (udp : UdpSocket) (cached : Option SocketId) (owner : SocketId) : Prop :=
  cached = some owner ∨ cached = none ∧
    d.fdManager (d.connectionManager.getOwner udp) = some (.socket owner) ∧
    0 ≤ d.connectionManager.getOwner udp

/-- The transitions between the states of an open socket. -/
inductive Advances : QuicSocketState → QuicSocketState → Prop
  | bind : Advances .inited .binded
  | connectInited : Advances .inited .connecting
  | connectBinded : Advances .binded .connecting
  | clientHandshake : Advances .connecting .connected
  | serverHandshake : Advances .shared .connected

/-- The elementary steps, with the entries that may be closed. -/
inductive Step (may : EntryPtr → Prop) : Directory → Directory → Prop
  | createSocket (d : Directory) (id : QuicConnectionId) : Step may d (d.createSocket .isClient id)
  | createStream (d : Directory) (s : SocketId) : Step may d (d.createStream s)
  | setUdpSocket (d : Directory) (s : SocketId) (sock : Fd) (udp : UdpSocket) :
    d.fdManager sock = some (.socket s) → d.socketState s = .none → d.udp (.socket s) = none →
    d.UdpUnbound udp → Step may d (d.route s udp .inited true)
  | syn (d : Directory) (e : EpollerId) (udp : UdpSocket) (cached : Option SocketId) (owner : SocketId)
    (ownerUdp : UdpSocket) (id : QuicConnectionId) : d.dispatch e = some (udp, cached) →
    d.connectionManager.get udp id = -1 → d.Owns udp cached owner →
    d.udp (.socket owner) = some ownerUdp →
    Step may d (((d.setDispatch e (some (udp, some owner))).createSocket .isServer id).route d.numSockets
      ownerUdp .shared false)
  | setState (d : Directory) (s : SocketId) (socketState : QuicSocketState) :
    Advances (d.socketState s) socketState → Step may d (d.setState s socketState)
  | enqueue (d : Directory) (s child : SocketId) (udp : UdpSocket) :
    d.fdManager (d.connectionManager.getOwner udp) = some (.socket s) → d.perspective child = .isServer →
    d.udp (.socket child) = some udp → Step may d (d.enqueue s child)
  | dequeue (d : Directory) (s : SocketId) : Step may d (d.dequeue s)
  | mark (d : Directory) (s : SocketId) : may (.socket s) → d.socketState s ≠ .closed → Step may d (d.mark s)
  | disconnect (d : Directory) (s : SocketId) : Step may d (d.disconnect s)
  | release (d : Directory) (entry : EntryPtr) :
    may entry → (∀ s, entry = .socket s → d.socketState s = .closed) → Step may d (d.release entry)
  | tell (d : Directory) (entry : EntryPtr) : may entry → Step may d (d.tell entry)
  | setDispatch (d : Directory) (e : EpollerId) (udp : Option UdpSocket) :
    Step may d (d.setDispatch e (udp.map fun udp => (udp, none)))

theorem Advances.started {socketState next : QuicSocketState} (advances : Advances socketState next) :
    socketState ≠ .none ∧ socketState ≠ .closed ∧ next ≠ .closed := by
  cases advances <;> decide

/-- A finite run of elementary steps. -/
def Steps (may : EntryPtr → Prop) : Directory → Directory → Prop := Relation.ReflTransGen (Step may)

variable {may : EntryPtr → Prop} {d d' : Directory}

theorem Steps.one (step : Step may d d') : Steps may d d' :=
  Relation.ReflTransGen.single step

theorem Steps.of_eq (same : d' = d) : Steps may d d' := same ▸ Relation.ReflTransGen.refl

theorem Steps.then_step {d'' : Directory} (steps : Steps may d d') (step : Step may d' d'') : Steps may d d'' :=
  Relation.ReflTransGen.tail steps step

/-- An invariant of the elementary steps is an invariant of runs. -/
theorem Steps.invariant {P : Directory → Prop} (keep : ∀ d d', P d → Step may d d' → P d') (steps : Steps may d d')
    (start : P d) : P d' := by
  induction steps with
  | refl => exact start
  | tail _ step ih => exact keep _ _ ih step

end Directory

/-- The actions that can close entries. -/
def Action.Closes : Action → Prop
  | .closeSocket _ | .closeStream _ | .connectionClosed .. => True
  | _ => False

namespace World

open Machine Directory

variable {may : EntryPtr → Prop} {w w' : World} {e : EpollerId} {fault : Fault} {entry : EntryPtr} {d : Directory}
  {s owner : SocketId} {sock : Fd} {udp : UdpSocket} {cached : Option SocketId} {action : Action}

theorem mark_directory (w : World) (s : SocketId) : (w.mark s).directory = w.directory.mark s := w.directory_mark s

theorem announce_directory (w : World) (s : SocketId) (errorCode : Int) (fromRemote : Bool) :
    (w.announce s errorCode fromRemote).directory = w.directory.disconnect s := w.directory_announce ..

theorem popAccept_directory (w : World) (s : SocketId) : (w.popAccept s).directory = w.directory.dequeue s :=
  w.directory_popAccept s

theorem delInner_fault {fd : Fd} (failed : w.delInner e fd = .error fault) : fault = .assertFailed := by
  simp only [delInner] at failed
  split at failed
  · cases failed
  · split_ifs at failed
    split at failed
    · cases failed
      rfl
    · split at failed
      · cases failed
        rfl
      · cases failed

theorem notifyClosed_fault {epollers : List EpollerId} (failed : w.notifyClosed entry epollers = .error fault) :
    fault = .assertFailed := by
  induction epollers generalizing w with
  | nil => cases failed
  | cons e rest ih =>
    cases deleted : w.delInner e (w.event entry).fd with
    | error other =>
      have same : Except.error other = (Except.error fault : Run World) := by
        rw [← failed, notifyClosed, deleted]
        rfl
      cases same
      exact delInner_fault deleted
    | ok result =>
      refine ih (w := result.2) ?_
      rw [← failed, notifyClosed, deleted]
      rfl

theorem clearWaitingsByClose_fault (failed : w.clearWaitingsByClose entry = .error fault) : fault = .assertFailed := by
  simp only [clearWaitingsByClose] at failed
  split_ifs at failed
  exact notifyClosed_fault failed

/-- Telling the waiters is one elementary step, if no assertion fails. -/
theorem clearWaitingsByClose_steps (steps : Steps may d w.directory) (permitted : may entry) :
    Yields (· ≠ Fault.outOfFuel) (fun w' => Steps may d w'.directory) (w.clearWaitingsByClose entry) := by
  cases cleared : w.clearWaitingsByClose entry with
  | error fault =>
    have := clearWaitingsByClose_fault cleared
    subst this
    exact Fault.noConfusion
  | ok w' =>
    have changed : w'.directory = w.directory.tell entry := directory_clearWaitingsByClose cleared
    change Steps may d w'.directory
    rw [changed]
    exact steps.then_step (.tell _ entry permitted)

theorem directory_deleteQuicSocketEntry (w : World) (s : SocketId) :
    (w.deleteQuicSocketEntry s).directory = w.directory.release (.socket s) := w.directory_releaseFd _

/-- A close is a run of elementary steps. -/
theorem closable_steps (d : Directory) :
    Closable (· ≠ Fault.outOfFuel) (fun _ => True) (fun w => Steps (fun _ => True) d w.directory) where
  queued _ _ _ _ _ _ := trivial
  mark w s steps _ isOpen := by
    rw [directory_mark]
    exact steps.then_step (.mark _ s trivial isOpen)
  announce w s errorCode fromRemote steps _ _ := by
    rw [directory_announce]
    exact steps.then_step (.disconnect _ s)
  releaseServer w s steps _ closed _ _ := by
    rw [directory_deleteQuicSocketEntry, directory_announce]
    refine (steps.then_step (.disconnect _ s)).then_step (.release _ _ trivial ?_)
    rintro _ ⟨⟩
    exact closed
  clear w s steps _ _ _ := clearWaitingsByClose_steps steps trivial
  release w s steps _ closed _ := by
    rw [directory_deleteQuicSocketEntry]
    refine steps.then_step (.release _ _ trivial ?_)
    rintro _ ⟨⟩
    exact closed
  pop w s steps _ := by
    rw [directory_popAccept]
    exact steps.then_step (.dequeue _ s)

/-- The action has come to a run of elementary steps, and nothing is left half closed. -/
def Refines (may : EntryPtr → Prop) (d : Directory) (w : World) : Prop := Steps may d w.directory ∧ w.Settled

theorem Refines.of_directory_eq (refines : Refines may d w) (same : w'.directory = w.directory) : Refines may d w' :=
  ⟨by rw [same]; exact refines.1, (Kept.of_directory_eq same).settled refines.2⟩

theorem Refines.refl (settled : w.Settled) : Refines may w.directory w :=
  ⟨.of_eq rfl, settled⟩

/-- A step that leaves states, flags and the number of sockets alone. -/
theorem Refines.kept (refines : Refines may d w) (step : Step may w.directory w'.directory) (kept : Kept w w') :
    Refines may d w' :=
  ⟨refines.1.then_step step, kept.settled refines.2⟩

theorem Refines.createSocket (refines : Refines may d w) (id : QuicConnectionId)
    (changed : w'.directory = w.directory.createSocket .isClient id) : Refines may d w' := by
  refine ⟨?_, ?_, ?_⟩
  · rw [changed]
    exact refines.1.then_step (.createSocket _ id)
  · intro s closed
    rw [Closed, changed] at closed
    have old : s ≠ w.directory.numSockets := by
      rintro rfl
      simp [Directory.createSocket] at closed
    simp only [Directory.createSocket, Function.update_of_ne old] at closed
    rw [changed]
    have other : EntryPtr.socket s ≠ .socket w.directory.numSockets :=
      fun equal => old (EntryPtr.socket.inj equal)
    simp only [Directory.createSocket, Function.update_of_ne other]
    exact refines.2.told s closed
  · intro s beyond
    rw [changed] at beyond
    simp only [Directory.createSocket] at beyond
    rw [Closed, changed]
    simp only [Directory.createSocket, Function.update_of_ne (show s ≠ w.directory.numSockets by omega)]
    exact refines.2.bounded s (by omega)

/-- A socket that is open before and after changes its state. -/
theorem Refines.setState (refines : Refines may d w) {socketState : QuicSocketState}
    (step : Step may w.directory w'.directory) (isOpen : w.directory.socketState s ≠ .closed)
    (stays : socketState ≠ .closed)
    (states : w'.directory.socketState = Function.update w.directory.socketState s socketState)
    (flags : w'.directory.closeTrigger = w.directory.closeTrigger)
    (sockets : w'.directory.numSockets = w.directory.numSockets) : Refines may d w' := by
  have closedBefore : ∀ x, w'.Closed x ↔ w.Closed x := by
    intro x
    rw [Closed, states, Closed]
    by_cases same : x = s
    · subst same
      simp [isOpen, stays]
    · rw [Function.update_of_ne same]
  refine ⟨refines.1.then_step step, ?_, ?_⟩
  · intro x closed
    rw [flags]
    exact refines.2.told x ((closedBefore x).mp closed)
  · intro x beyond
    rw [sockets] at beyond
    exact (closedBefore x).mpr (refines.2.bounded x beyond)

theorem withSocket_yields {allowed : Fault → Prop} {Q : CallResult × World → Prop}
    {body : SocketId → Run (CallResult × World)} (missing : Q (.fail .ebadf, w))
    (found : ∀ s, w.fdManager sock = some (.socket s) → Yields allowed Q (body s)) :
    Yields allowed Q (w.withSocket sock body) := by
  unfold withSocket
  split
  · next s lookup => exact found s lookup
  · exact missing

theorem withStream_yields {allowed : Fault → Prop} {Q : CallResult × World → Prop} {stream : Fd}
    {body : StreamId → Run (CallResult × World)} (missing : Q (.fail .ebadf, w))
    (found : ∀ t, w.fdManager stream = some (.stream t) → Yields allowed Q (body t)) :
    Yields allowed Q (w.withStream stream body) := by
  unfold withStream
  split
  · next t lookup => exact found t lookup
  · exact missing

theorem withEpoller_yields {allowed : Fault → Prop} {Q : CallResult × World → Prop} {body : Run (CallResult × World)}
    (missing : Q (.fail .ebadf, w)) (found : Yields allowed Q body) : Yields allowed Q (w.withEpoller e body) := by
  unfold withEpoller
  split_ifs
  · exact found
  · exact missing

/-- Outside a UDP event a datagram is ignored. -/
theorem datagram_yields {Q : CallResult × World → Prop} {id : QuicConnectionId} (ignored : Q (.ok, w))
    (taken : ∀ udp cached after, (w.epollers e).dispatch = some (udp, cached) →
      w.dispatchDatagram e udp cached id = .ok after → Q (.ok, after)) :
    Yields (fun _ => True) Q (w.perform (.datagram e id)) := by
  rw [perform]
  split
  · exact ignored
  · next udp cached dispatching =>
    exact (yields_of_ok fun after => taken udp cached after dispatching).bind fun _ holds => holds

theorem handshakeComplete_yields {Q : CallResult × World → Prop}
    (completed : ∀ after, w.onCryptoHandshakeComplete s = .ok after → Q (.ok, after)) :
    Yields (fun _ => True) Q (w.perform (.handshakeComplete s)) :=
  (yields_of_ok completed).bind fun _ holds => holds

theorem Refines.setUdpSocket (refines : Refines may d w) (found : w.fdManager sock = some (.socket s))
    (state : w.directory.socketState s = .none) (unset : (w.sockets s).udpSocket.isSome = false)
    (unbound : w.UdpUnbound udp) : Refines may d ((w.openUdp udp).setUdpSocket s udp) := by
  have changed : ((w.openUdp udp).setUdpSocket s udp).directory = w.directory.route s udp .inited true := by
    rw [directory_setUdpSocket, directory_openUdp]
    rfl
  have noUdp : w.directory.udp (.socket s) = none := Option.isSome_eq_false_iff.mp unset |> Option.isNone_iff_eq_none.mp
  have step : Step may w.directory ((w.openUdp udp).setUdpSocket s udp).directory := by
    rw [changed]
    exact .setUdpSocket _ s sock udp found state noUdp unbound
  refine refines.setState step (by rw [state]; decide) (show QuicSocketState.inited ≠ .closed by decide) ?_ ?_ ?_
  all_goals
    rw [changed]
    rfl

theorem Refines.setSocketState (refines : Refines may d w) {socketState : QuicSocketState}
    (advances : Advances (w.directory.socketState s) socketState) : Refines may d (w.setSocketState s socketState) := by
  have changed : (w.setSocketState s socketState).directory = w.directory.setState s socketState :=
    directory_setSocketState ..
  have step : Step may w.directory (w.setSocketState s socketState).directory := by
    rw [changed]
    exact .setState _ s socketState advances
  obtain ⟨-, isOpen, stays⟩ := advances.started
  refine refines.setState step isOpen stays ?_ ?_ ?_
  all_goals
    rw [changed]
    rfl

theorem refines_configures (settled : w.Settled) (found : w.fdManager sock = some (.socket s)) :
    Configures (Refines may w.directory) w s w.UdpUnbound where
  holds := .refl settled
  set _ unbound new unset := (Refines.refl settled).setUdpSocket found new (by simpa using unset) unbound
  moves before next inited refines nexts := by
    refine refines.setSocketState ?_
    rw [inited]
    rcases nexts with rfl | rfl
    exacts [.bind, .connectInited]

theorem acceptSocket_refines (settled : w.Settled) (s : SocketId) : Refines may w.directory (w.acceptSocket s).2 := by
  unfold acceptSocket
  split_ifs
  · exact .refl settled
  · split
    · exact .refl settled
    · next child rest queue =>
      have changed : (w.modSocket s fun socket => { socket with acceptSockets := rest }).directory =
          w.directory.dequeue s := by
        have tail : (w.directory.acceptSockets s).tail = rest := congrArg List.tail queue
        rw [w.directory_modAcceptSockets s fun _ => rest, dequeue, tail]
      refine (Refines.refl settled).kept ?_ ?_
      · rw [changed]
        exact .dequeue _ s
      · refine ⟨?_, ?_, ?_⟩ <;> rw [changed] <;> rfl

theorem acceptStream_directory (w : World) (s : SocketId) : (w.acceptStream s).2.directory = w.directory := by
  unfold acceptStream
  split_ifs
  · rfl
  · split
    · rfl
    · exact directory_modSocket_kept ⟨rfl, rfl, rfl, rfl, rfl, rfl, rfl, rfl⟩

theorem newQuicStream_refines (settled : w.Settled) (s : SocketId) (streamId : Nat) :
    Refines may w.directory (w.newQuicStream s streamId).2 := by
  have changed : (w.newQuicStream s streamId).2.directory = w.directory.createStream s :=
    directory_newQuicStream ..
  have step : Step may w.directory (w.newQuicStream s streamId).2.directory := by
    rw [changed]
    exact .createStream _ s
  refine ⟨.one step, ?_, ?_⟩
  · intro x closed
    rw [Closed, changed] at closed
    rw [changed]
    exact settled.told x closed
  · intro x beyond
    rw [changed] at beyond
    rw [Closed, changed]
    exact settled.bounded x beyond

theorem createStream_refines (settled : w.Settled) (s : SocketId) (streamId : Nat) :
    Refines may w.directory (w.createStream s streamId).2 := by
  unfold World.createStream
  split_ifs
  · exact .refl settled
  · exact newQuicStream_refines settled s streamId

theorem directory_onIncomingStream (w : World) (s : SocketId) (streamId : Nat) :
    (w.onIncomingStream s streamId).directory = (w.newQuicStream s streamId).2.directory := by
  unfold onIncomingStream
  rw [directory_setReadable]
  exact directory_modSocket_kept ⟨rfl, rfl, rfl, rfl, rfl, rfl, rfl, rfl⟩

theorem onIncomingStream_refines (settled : w.Settled) (s : SocketId) (streamId : Nat) :
    Refines may w.directory (w.onIncomingStream s streamId) :=
  (newQuicStream_refines settled s streamId).of_directory_eq (w.directory_onIncomingStream s streamId)

theorem asSocket_fault {entry : Option EntryPtr} (failed : asSocket entry = .error fault) : fault ≠ .outOfFuel := by
  unfold asSocket at failed
  split at failed <;> cases failed <;> exact Fault.noConfusion

theorem asSocket_ok {entry : Option EntryPtr} (found : asSocket entry = .ok s) : entry = some (.socket s) := by
  unfold asSocket at found
  split at found <;> cases found
  rfl

theorem directory_pushAcceptQueue (w : World) (owner s : SocketId) :
    (w.pushAcceptQueue owner s).directory = w.directory.enqueue owner s := by
  rw [World.pushAcceptQueue, directory_setReadable]
  exact w.directory_modAcceptSockets owner (· ++ [s])

/-- The end of a handshake connects the entry, and one of a server joins the queue of its listener. -/
theorem onCryptoHandshakeComplete_outcome (completed : w.onCryptoHandshakeComplete s = .ok w') :
    ∃ ready, (w.setSocketState s .connected).setWritable (.socket s) true = ready ∧
      ready.directory = w.directory.setState s .connected ∧
      (w.directory.perspective s = .isClient ∧ w' = ready ∨
        w.directory.perspective s = .isServer ∧ ∃ udp owner, w.directory.udp (.socket s) = some udp ∧
          w.fdManager (w.connectionManager.getOwner udp) = some (.socket owner) ∧ w' = ready.pushAcceptQueue owner s) := by
  unfold onCryptoHandshakeComplete at completed
  have changed : ((w.setSocketState s .connected).setWritable (.socket s) true).directory =
      w.directory.setState s .connected := (directory_setWritable ..).trans (w.directory_setSocketState s _)
  generalize (w.setSocketState s .connected).setWritable (.socket s) true = ready at completed changed ⊢
  refine ⟨ready, rfl, changed, ?_⟩
  dsimp only at completed
  rw [show (ready.sockets s).perspective = _ from congrFun (congrArg Directory.perspective changed) s,
    show (ready.sockets s).udpSocket = _ from congrFun (congrArg Directory.udp changed) (.socket s),
    show ready.fdManager = _ from congrArg Directory.fdManager changed,
    show ready.connectionManager = _ from congrArg Directory.connectionManager changed] at completed
  split at completed
  · next client =>
    cases completed
    exact .inl ⟨client, rfl⟩
  · next server =>
    split at completed
    · cases completed
    · next udp set =>
      obtain ⟨owner, found, returned⟩ := bind_eq_ok completed
      cases returned
      exact .inr ⟨server, udp, owner, set, asSocket_ok found, rfl⟩

theorem Refines.pushAcceptQueue (refines : Refines may d w)
    (found : w.fdManager (w.connectionManager.getOwner udp) = some (.socket owner))
    (server : (w.sockets s).perspective = .isServer) (set : (w.sockets s).udpSocket = some udp) :
    Refines may d (w.pushAcceptQueue owner s) := by
  have changed := w.directory_pushAcceptQueue owner s
  refine refines.kept ?_ ?_
  · rw [changed]
    exact .enqueue _ owner s udp found server set
  · refine ⟨?_, ?_, ?_⟩ <;> rw [changed] <;> rfl

/-- A finished handshake changes the state of its own entry and queues it with its listener. -/
theorem onCryptoHandshakeComplete_refines (settled : w.Settled)
    (state : w.directory.socketState s = .connecting ∨ w.directory.socketState s = .shared) :
    Yields (· ≠ Fault.outOfFuel) (Refines may w.directory) (w.onCryptoHandshakeComplete s) := by
  have advances : Advances (w.directory.socketState s) .connected := by
    rcases state with state | state
    · exact state ▸ .clientHandshake
    · exact state ▸ .serverHandshake
  have connected : Refines may w.directory ((w.setSocketState s .connected).setWritable (.socket s) true) :=
    ((Refines.refl settled).setSocketState advances).of_directory_eq (directory_setWritable ..)
  unfold onCryptoHandshakeComplete
  dsimp only
  split
  · exact connected
  · next server =>
    split
    · exact Fault.noConfusion
    · next udp set =>
      cases owner : asSocket (((w.setSocketState s .connected).setWritable (.socket s) true).fdManager
          (((w.setSocketState s .connected).setWritable (.socket s) true).connectionManager.getOwner udp)) with
      | error fault => exact asSocket_fault owner
      | ok ownerSocket =>
        exact connected.pushAcceptQueue (asSocket_ok owner) server set

/-- The owner that a datagram is given. -/
theorem findOwner_owns (found : w.findOwner udp cached = .ok (some owner)) : w.directory.Owns udp cached owner := by
  unfold findOwner at found
  cases cached with
  | some o =>
    cases found
    exact .inl rfl
  | none =>
    dsimp only at found
    split_ifs at found with registered
    · obtain ⟨o, isSocket, same⟩ := bind_eq_ok found
      cases same
      exact .inr ⟨rfl, asSocket_ok isSocket, registered⟩
    · cases found

theorem findOwner_fault (failed : w.findOwner udp cached = .error fault) : fault ≠ .outOfFuel := by
  unfold findOwner at failed
  cases cached with
  | some owner => cases failed
  | none =>
    dsimp only at failed
    split_ifs at failed
    · cases socket : asSocket (w.fdManager (w.connectionManager.getOwner udp)) with
      | error other =>
        rw [socket] at failed
        cases failed
        exact asSocket_fault socket
      | ok s =>
        rw [socket] at failed
        cases failed
    · cases failed

/-- The entry that a datagram opens: created, and routed on the UDP socket of its owner. -/
theorem directory_acceptDatagram {id : QuicConnectionId}
    (synced : ((w.modEpoller e fun epoller =>
      { epoller with dispatch := some (udp, some owner) }).newQuicSocketEntry .isServer id).2.onSyn
        w.numSockets owner = .ok w') :
    ∃ ownerUdp, w.directory.udp (.socket owner) = some ownerUdp ∧
      w'.directory = ((w.directory.setDispatch e (some (udp, some owner))).createSocket .isServer id).route
        w.directory.numSockets ownerUdp .shared false := by
  obtain ⟨ownerUdp, native, changed⟩ := directory_onSyn synced
  rw [directory_newQuicSocketEntry, directory_modEpoller] at changed native
  change Function.update w.directory.udp (.socket w.directory.numSockets) none (.socket owner) = _ at native
  refine ⟨ownerUdp, ?_, changed⟩
  have fresh : owner ≠ w.directory.numSockets := by
    rintro rfl
    rw [Function.update_self] at native
    cases native
  rw [Function.update_of_ne fun equal => fresh (EntryPtr.socket.inj equal)] at native
  exact native

/-- A datagram of an unknown connection creates and routes one server side entry. -/
theorem acceptDatagram_refines (settled : w.Settled) {id : QuicConnectionId}
    (dispatching : (w.epollers e).dispatch = some (udp, cached)) (unknown : w.connectionManager.get udp id = -1)
    (owns : w.directory.Owns udp cached owner)
    (synced : ((w.modEpoller e fun epoller =>
      { epoller with dispatch := some (udp, some owner) }).newQuicSocketEntry .isServer id).2.onSyn
        w.numSockets owner = .ok w') : Refines may w.directory w' := by
  obtain ⟨ownerUdp, ownerNative, target⟩ := directory_acceptDatagram synced
  have step : Step may w.directory w'.directory := by
    rw [target]
    exact .syn _ e udp cached owner ownerUdp id dispatching unknown owns ownerNative
  have stateOf : ∀ x, x ≠ w.directory.numSockets → w'.directory.socketState x = w.directory.socketState x := by
    intro x old
    rw [target]
    simp [Directory.route, Directory.createSocket, Directory.setDispatch, Function.update_of_ne old]
  refine ⟨.one step, ?_, ?_⟩
  · intro x closed
    have old : x ≠ w.directory.numSockets := by
      rintro rfl
      rw [Closed, target] at closed
      simp [Directory.route, Directory.createSocket, Directory.setDispatch] at closed
    rw [Closed, stateOf x old] at closed
    rw [target]
    have other : EntryPtr.socket x ≠ .socket w.directory.numSockets :=
      fun equal => old (EntryPtr.socket.inj equal)
    simp only [Directory.route, Directory.createSocket, Directory.setDispatch, Function.update_of_ne other]
    exact settled.told x closed
  · intro x beyond
    rw [target] at beyond
    simp only [Directory.route, Directory.createSocket, Directory.setDispatch] at beyond
    rw [Closed, stateOf x (by omega)]
    exact settled.bounded x (by omega)

theorem dispatchDatagram_refines (settled : w.Settled) (id : QuicConnectionId)
    (dispatching : (w.epollers e).dispatch = some (udp, cached)) :
    Yields (· ≠ Fault.outOfFuel) (Refines may w.directory) (w.dispatchDatagram e udp cached id) := by
  unfold dispatchDatagram
  split_ifs with invalid unknown
  · exact Refines.refl settled
  · cases found : w.findOwner udp cached with
    | error fault => exact findOwner_fault found
    | ok owner =>
      cases owner with
      | none => exact Refines.refl settled
      | some owner =>
        change Yields _ _ (((w.modEpoller e fun epoller =>
          { epoller with dispatch := some (udp, some owner) }).newQuicSocketEntry .isServer id).2.onSyn
            w.numSockets owner)
        cases synced : ((w.modEpoller e fun epoller =>
          { epoller with dispatch := some (udp, some owner) }).newQuicSocketEntry .isServer id).2.onSyn
            w.numSockets owner with
        | error fault =>
          unfold onSyn at synced
          split at synced
          · cases synced
            exact Fault.noConfusion
          · cases synced
        | ok w' => exact acceptDatagram_refines settled dispatching unknown (findOwner_owns found) synced
  · cases socket : asSocket (w.fdManager (w.connectionManager.get udp id)) with
    | error fault => exact asSocket_fault socket
    | ok s => exact Refines.refl settled

/-- Closing a stream tells its waiters and gives its descriptor back. -/
theorem quicCloseStream_refines (settled : w.Settled) (stream : Fd)
    (permitted : ∀ t, w.fdManager stream = some (.stream t) → may (.stream t)) :
    Yields (· ≠ Fault.outOfFuel) (fun result => Refines may w.directory result.2) (w.quicCloseStream stream) := by
  unfold quicCloseStream
  refine withStream_yields (.refl settled) fun t found => ?_
  have reset : (if (w.streams t).quartcOpen then w.streamCallback t QuicStreamEntry.onClose else w).directory =
      w.directory := by
    split_ifs
    · exact directory_streamCallback _ _ keepsStream_onClose
    · rfl
  cases closed : closeStreamEntry t w with
  | error fault =>
    have asserted := clearWaitingsByClose_fault closed
    subst asserted
    exact Fault.noConfusion
  | ok w' =>
    have told : w'.directory = w.directory.tell (.stream t) := by
      rw [directory_clearWaitingsByClose closed, reset]
      rfl
    have settledTold : w'.Settled := by
      refine ⟨?_, ?_⟩
      · intro s closedS
        rw [Closed, told] at closedS
        rw [told]
        exact settled.told s closedS
      · intro s beyond
        rw [told] at beyond
        rw [Closed, told]
        exact settled.bounded s beyond
    have released : (w'.deleteQuicStream t).directory = w'.directory.release (.stream t) :=
      w'.directory_releaseFd _
    refine Refines.kept (w := w') ⟨by rw [told]; exact .one (.tell _ _ (permitted t found)), settledTold⟩ ?_ ?_
    · rw [released]
      exact .release _ _ (permitted t found) (by rintro s ⟨⟩)
    · refine ⟨?_, ?_, ?_⟩
      all_goals
        rw [released, Directory.release]
        split_ifs <;> rfl

theorem directory_createEpoll (w : World) : w.createEpoll.directory = w.directory.setDispatch w.numEpollers none :=
  directory_modEpoller { w with numEpollers := w.numEpollers + 1 } w.numEpollers fun _ => {}

/-- Every other action that does not fault is a run of elementary steps, none of which closes an entry. -/
theorem perform_refines_quiet (settled : w.Settled) (admitted : w.admits action = true) (quiet : ¬ action.Closes) :
    Yields (· ≠ Fault.outOfFuel) (fun result => Refines may w.directory result.2) (w.perform action) := by
  have same : ∀ w' : World, w'.directory = w.directory → Refines may w.directory w' := fun _ equal =>
    (Refines.refl settled).of_directory_eq equal
  cases action with
  | createSocket id => exact (Refines.refl settled).createSocket id (directory_newQuicSocketEntry ..)
  | bind sock udp os =>
    exact withSocket_yields (.refl settled) fun s found =>
      (refines_configures settled found).bind (unbound_of_udpFresh admitted) os
  | bindUdp sock udp os =>
    exact withSocket_yields (.refl settled) fun s found =>
      (refines_configures settled found).bindUdp (of_decide_eq_true admitted) os
  | connect sock udp =>
    exact withSocket_yields (.refl settled) fun s found =>
      (refines_configures settled found).connect (unbound_of_udpFresh admitted) fun binded =>
        (Refines.refl settled).setSocketState (binded ▸ .connectBinded)
  | socketAccept sock =>
    exact withSocket_yields (.refl settled) fun s _ => acceptSocket_refines settled s
  | closeSocket sock => exact (quiet trivial).elim
  | streamAccept sock =>
    exact withSocket_yields (.refl settled) fun s _ => same _ (acceptStream_directory w s)
  | createStream sock streamId =>
    exact withSocket_yields (.refl settled) fun s _ => createStream_refines settled s streamId
  | closeStream stream => exact (quiet trivial).elim
  | readv stream iov =>
    refine withStream_yields (.refl settled) fun t _ => same _ ?_
    obtain ⟨fd, closeTrigger, udp⟩ := readv_keeps (w.streams t) iov
    exact directory_modStream_kept fd closeTrigger udp
  | createEpoll =>
    refine (Refines.refl settled).kept ?_ ?_
    · change Step may w.directory w.createEpoll.directory
      rw [directory_createEpoll]
      exact .setDispatch _ w.numEpollers none
    · exact ⟨rfl, rfl, rfl⟩
  | closeEpoller e =>
    exact withEpoller_yields (.refl settled)
      (same _ (directory_closeEpoller (Option.isNone_iff_eq_none.mp admitted)))
  | epollAdd e fd events data full =>
    exact withEpoller_yields (.refl settled) (same _ (directory_addInner ..))
  | epollMod e fd events data =>
    exact withEpoller_yields (.refl settled) (same _ (directory_modInner ..))
  | epollDel e fd =>
    refine withEpoller_yields (.refl settled) ?_
    cases deleted : w.delInner e fd with
    | error fault =>
      have asserted := delInner_fault deleted
      subst asserted
      exact Fault.noConfusion
    | ok result => exact same _ (directory_delInner deleted)
  | poll e maxevents => exact withEpoller_yields (.refl settled) (same _ (directory_poll ..))
  | beginUdpEvent e udp =>
    refine withEpoller_yields (.refl settled) ?_
    refine (Refines.refl settled).kept ?_ ?_
    · rw [directory_modEpoller]
      exact .setDispatch _ e (some udp)
    · refine ⟨?_, ?_, ?_⟩ <;> rw [directory_modEpoller]
  | datagram e id =>
    simp only [perform]
    cases dispatching : (w.epollers e).dispatch with
    | none => exact Refines.refl settled
    | some event =>
      obtain ⟨udp, cached⟩ := event
      exact (dispatchDatagram_refines settled id dispatching).bind fun _ refines => refines
  | endUdpEvent e =>
    refine (Refines.refl settled).kept ?_ ?_
    · rw [directory_modEpoller]
      exact .setDispatch _ e none
    · refine ⟨?_, ?_, ?_⟩ <;> rw [directory_modEpoller]
  | handshakeComplete s =>
    simp only [admits, Bool.and_eq_true, decide_eq_true_eq] at admitted
    exact (onCryptoHandshakeComplete_refines settled admitted.2).bind fun _ refines => refines
  | incomingStream s streamId => exact onIncomingStream_refines settled s streamId
  | connectionClosed s errorCode fromRemote => exact (quiet trivial).elim
  | streamReceived t data => exact same _ (directory_streamCallback _ _ (keepsStream_onReceived data))
  | streamFinRead t => exact same _ (directory_streamCallback _ _ fun _ => ⟨rfl, rfl, rfl⟩)
  | streamClosed t => exact same _ (directory_streamCallback _ _ keepsStream_onClose)
  | streamCanWrite t => exact same _ (directory_streamCallback _ _ fun _ => ⟨rfl, rfl, rfl⟩)

/-- Every action that does not fault is a run of elementary steps, and no action runs out of fuel. -/
theorem perform_refines (settled : w.Settled) (admitted : w.admits action = true) :
    Yields (· ≠ Fault.outOfFuel) (fun result => Refines (fun _ => True) w.directory result.2) (w.perform action) := by
  by_cases closes : action.Closes
  · cases action with
    | closeSocket sock =>
      exact (quicCloseSocket_yields (closable_steps w.directory) sock w (.of_eq rfl) (fun _ _ => trivial)
        settled).imp fun _ closed => ⟨closed.1, closed.2.1⟩
    | closeStream stream => exact quicCloseStream_refines settled stream fun _ _ => trivial
    | connectionClosed s errorCode fromRemote =>
      have announced : Steps (fun _ => True) w.directory (w.announce s errorCode fromRemote).directory := by
        rw [directory_announce]
        exact .one (.disconnect _ s)
      exact (connectionClosed_yields (closable_steps w.directory) s errorCode fromRemote w announced
        (fun _ => trivial) settled).bind fun _ refines => refines
    | _ => exact closes.elim
  · exact perform_refines_quiet settled admitted closes

theorem step_eq_ok (stepped : w.step action = .ok w') : ∃ result, w.perform action = .ok (result, w') := by
  obtain ⟨⟨result, last⟩, performed, returned⟩ := bind_eq_ok stepped
  cases returned
  exact ⟨result, performed⟩

/-- A property of directories that every elementary step keeps holds in every state of the library. -/
theorem reachable_directory {P : Directory → Prop} (reachable : system.Reachable {} w)
    (start : P ({} : World).directory) (keep : ∀ d d', P d → Step (fun _ => True) d d' → P d') :
    P w.directory ∧ w.Settled := by
  refine reachable.invariant (P := fun w => P w.directory ∧ w.Settled) ⟨start, ?_⟩ ?_
  · exact ⟨fun _ _ => rfl, fun _ _ => rfl⟩
  · rintro before action after ⟨holds, settled⟩ admitted stepped
    obtain ⟨result, performed⟩ := step_eq_ok stepped
    obtain ⟨steps, settledLast⟩ := (perform_refines settled admitted).of_ok performed
    exact ⟨steps.invariant keep holds, settledLast⟩

/-- The bound on nested closes is never what stops an action. -/
theorem fuel_suffices (reachable : system.Reachable {} w) (admitted : w.admits action = true) :
    w.perform action ≠ .error .outOfFuel := by
  have settled := (reachable_directory (P := fun _ => True) reachable trivial fun _ _ _ _ => trivial).2
  intro exhausted
  have yields := perform_refines settled admitted
  rw [exhausted] at yields
  exact yields rfl

end World

end PosixQuic
