import PosixQuic.Soundness.Directory

/-! # A proof rule for the re-entrant `Close`

A property that each elementary part of a close keeps is kept by the whole recursion. The rule also
carries what the parts need to know about each other: a socket that has been marked as closed stays
closed, its waiters are told before anyone else looks at it again, and every level of the recursion
has one open socket less, which is why the fuel never runs out.
-/

namespace PosixQuic.World

open Machine

def Closed (w : World) (s : SocketId) : Prop := w.directory.socketState s = .closed

/-- Between two actions every closed socket has told its waiters, and names not in use are closed. -/
structure Settled (w : World) : Prop where
  told : ∀ s, w.Closed s → w.directory.closeTrigger (.socket s) = true
  bounded : ∀ s, w.directory.numSockets ≤ s → w.Closed s

/-- What a close does to the sockets at large. -/
structure Progress (w w' : World) : Prop where
  closed : ∀ s, w.Closed s → w'.Closed s
  numSockets : w'.directory.numSockets = w.directory.numSockets
  released : ∀ entry, w.directory.fd entry < 0 → w'.directory.fd entry < 0

theorem Progress.refl (w : World) : Progress w w := ⟨fun _ closed => closed, rfl, fun _ => id⟩

theorem Progress.trans {a b c : World} (first : Progress a b) (second : Progress b c) : Progress a c where
  closed s closed := second.closed s (first.closed s closed)
  numSockets := second.numSockets.trans first.numSockets
  released entry lost := second.released entry (first.released entry lost)

/-- The states of all sockets and their waiters' close flags are as before. -/
structure Kept (w w' : World) : Prop where
  socketState : w'.directory.socketState = w.directory.socketState
  closeTrigger : w'.directory.closeTrigger = w.directory.closeTrigger
  numSockets : w'.directory.numSockets = w.directory.numSockets

variable {w w' told : World} {s : SocketId}

theorem Kept.of_directory_eq (same : w'.directory = w.directory) : Kept w w' := by
  refine ⟨?_, ?_, ?_⟩ <;> rw [same]

theorem Kept.trans {a b c : World} (first : Kept a b) (second : Kept b c) : Kept a c :=
  ⟨second.socketState.trans first.socketState, second.closeTrigger.trans first.closeTrigger,
    second.numSockets.trans first.numSockets⟩

theorem Kept.closed_iff (kept : Kept w w') (s : SocketId) : w'.Closed s ↔ w.Closed s := by
  rw [Closed, kept.socketState, Closed]

theorem Kept.progress (kept : Kept w w') (released : ∀ entry, w.directory.fd entry < 0 → w'.directory.fd entry < 0) :
    Progress w w' :=
  ⟨fun s => (kept.closed_iff s).mpr, kept.numSockets, released⟩

theorem Kept.settled (kept : Kept w w') (settled : w.Settled) : w'.Settled := by
  refine ⟨?_, ?_⟩
  · intro s closed
    rw [kept.closeTrigger]
    exact settled.told s ((kept.closed_iff s).mp closed)
  · intro s beyond
    rw [kept.numSockets] at beyond
    exact (kept.closed_iff s).mpr (settled.bounded s beyond)

/-- The sockets that a close can still get to. -/
def openSockets (w : World) : Finset SocketId :=
  (Finset.range w.directory.numSockets).filter fun s => w.directory.socketState s ≠ .closed

theorem Progress.openSockets_subset (progress : Progress w w') : w'.openSockets ⊆ w.openSockets := by
  intro s member
  simp only [openSockets, Finset.mem_filter, Finset.mem_range, progress.numSockets] at member ⊢
  exact ⟨member.1, fun closed => member.2 (progress.closed s closed)⟩

/-- Leave the state machine and the routing table, in one step. -/
def mark (w : World) (s : SocketId) : World := (w.setSocketState s .closed).unroute s

theorem directory_mark (w : World) (s : SocketId) :
    (w.mark s).directory =
      { w.directory with
        socketState := Function.update w.directory.socketState s .closed
        connectionManager :=
          match w.directory.udp (.socket s) with
          | none => w.directory.connectionManager
          | some udp => w.directory.connectionManager.delete udp (w.directory.connectionId s)
              (w.directory.fd (.socket s)) } := by
  rw [mark, directory_unroute, directory_setSocketState]
  dsimp only
  cases w.directory.udp (.socket s) <;> rfl

theorem mark_progress (w : World) (s : SocketId) : Progress w (w.mark s) := by
  refine ⟨?_, by rw [directory_mark], by rw [directory_mark]; exact fun _ => id⟩
  intro x closed
  rw [Closed, directory_mark]
  by_cases same : x = s
  · subst same
    simp
  · simpa [Closed, Function.update_of_ne same] using closed

theorem mark_closed (w : World) (s : SocketId) : (w.mark s).Closed s := by
  rw [Closed, directory_mark]
  simp

theorem card_openSockets_mark (settled : w.Settled) (isOpen : ¬ w.Closed s) :
    (w.mark s).openSockets.card < w.openSockets.card := by
  apply Finset.card_lt_card
  refine ⟨(w.mark_progress s).openSockets_subset, ?_⟩
  intro subset
  have allocated : s < w.directory.numSockets := by
    by_contra beyond
    exact isOpen (settled.bounded s (not_lt.mp beyond))
  have member : s ∈ w.openSockets := by
    simp only [openSockets, Finset.mem_filter, Finset.mem_range]
    exact ⟨allocated, isOpen⟩
  have after := subset member
  simp only [openSockets, Finset.mem_filter] at after
  exact after.2 (w.mark_closed s)

/-- libquic reports the closed connection to the entry, up to the test for a failed accept. -/
def announce (w : World) (s : SocketId) (errorCode : Int) (fromRemote : Bool) : World :=
  ((w.disconnect s).setCloseByPeer (.socket s) fromRemote).setError (.socket s) .eshutdown errorCode

theorem directory_announce (w : World) (s : SocketId) (errorCode : Int) (fromRemote : Bool) :
    (w.announce s errorCode fromRemote).directory =
      { w.directory with connected := Function.update w.directory.connected s false } := by
  rw [announce, directory_setError, directory_setCloseByPeer, directory_disconnect]

def popAccept (w : World) (s : SocketId) : World :=
  w.modSocket s fun socket => { socket with acceptSockets := socket.acceptSockets.tail }

theorem directory_popAccept (w : World) (s : SocketId) :
    (w.popAccept s).directory =
      { w.directory with
        acceptSockets := Function.update w.directory.acceptSockets s (w.directory.acceptSockets s).tail } :=
  w.directory_modAcceptSockets s List.tail

theorem kept_popAccept (w : World) (s : SocketId) : Kept w (w.popAccept s) := by
  refine ⟨?_, ?_, ?_⟩ <;> rw [directory_popAccept]

theorem progress_popAccept (w : World) (s : SocketId) : Progress w (w.popAccept s) :=
  (w.kept_popAccept s).progress (by rw [directory_popAccept]; exact fun _ => id)

/-- Closing the socket dereferences the null `visitor_` of a connection that was never initialized. -/
def Crashes (w : World) (s : SocketId) : Prop :=
  w.directory.connected s = true ∧ (w.directory.socketState s).initialized = false

instance (w : World) (s : SocketId) : Decidable (w.Crashes s) := inferInstanceAs (Decidable (_ ∧ _))

/-- The elementary parts of a close of `target` sockets keep `P`, or end in an allowed fault. A server
side entry is deleted from inside `CloseConnection`, any other one after its waiters have been told. -/
structure Closable (allowed : Fault → Prop) (target : SocketId → Prop) (P : World → Prop) : Prop where
  queued : ∀ w s, P w → target s → ∀ child ∈ (w.sockets s).acceptSockets, target child
  mark : ∀ w s, P w → target s → ¬ w.Closed s → P (w.mark s)
  announce : ∀ w s errorCode fromRemote, P w → w.directory.perspective s ≠ .isServer → w.Closed s →
    P (w.announce s errorCode fromRemote)
  releaseServer : ∀ w s, P w → target s → w.Closed s → w.directory.connected s = true →
    w.directory.perspective s = .isServer → P ((w.announce s quicConnectionCancelled false).deleteQuicSocketEntry s)
  clear : ∀ w s, P w → target s → w.Closed s → w.directory.connected s = false →
    Yields allowed P (w.clearWaitingsByClose (.socket s))
  release : ∀ w s, P w → target s → w.Closed s → w.directory.closeTrigger (.socket s) = true →
    P (w.deleteQuicSocketEntry s)
  pop : ∀ w s, P w → target s → P (w.popAccept s)
  crash : ∀ w s, P w → target s → ¬ w.Closed s → w.Crashes s → allowed .nullDereference := by
    intros
    trivial

theorem closeSocket_of_closed (closed : w.Closed s) (fuel : Nat) : closeSocket (fuel + 1) s w = .ok w := by
  have state : (w.sockets s).socketState = .closed := closed
  rw [closeSocket, if_pos state]

theorem kept_deleteQuicSocketEntry (w : World) (s : SocketId) : Kept w (w.deleteQuicSocketEntry s) := by
  have changed := w.directory_releaseFd (.socket s)
  refine ⟨?_, ?_, ?_⟩
  all_goals
    rw [deleteQuicSocketEntry, changed]
    split_ifs <;> rfl

/-- The released entry has no descriptor, and nobody gets one. -/
theorem fd_releaseFd_neg (w : World) (entry : EntryPtr) :
    (w.releaseFd entry).directory.fd entry < 0 ∧
      ∀ other, w.directory.fd other < 0 → (w.releaseFd entry).directory.fd other < 0 := by
  rw [directory_releaseFd]
  split_ifs with remembers
  · dsimp only
    refine ⟨?_, ?_⟩
    · rw [Function.update_self]
      decide
    · intro other lost
      by_cases same : other = entry
      · exact (not_lt.mpr remembers (same ▸ lost)).elim
      · rwa [Function.update_of_ne same]
  · exact ⟨not_le.mp remembers, fun _ => id⟩

theorem fd_deleteQuicSocketEntry_neg (w : World) (s : SocketId) :
    (w.deleteQuicSocketEntry s).directory.fd (.socket s) < 0 ∧
      ∀ entry, w.directory.fd entry < 0 → (w.deleteQuicSocketEntry s).directory.fd entry < 0 :=
  w.fd_releaseFd_neg (.socket s)

theorem progress_deleteQuicSocketEntry (w : World) (s : SocketId) : Progress w (w.deleteQuicSocketEntry s) :=
  (w.kept_deleteQuicSocketEntry s).progress (w.fd_deleteQuicSocketEntry_neg s).2

theorem kept_announce (w : World) (s : SocketId) (errorCode : Int) (fromRemote : Bool) :
    Kept w (w.announce s errorCode fromRemote) := by
  refine ⟨?_, ?_, ?_⟩ <;> rw [directory_announce]

theorem progress_announce (w : World) (s : SocketId) (errorCode : Int) (fromRemote : Bool) :
    Progress w (w.announce s errorCode fromRemote) :=
  (w.kept_announce s errorCode fromRemote).progress (by rw [directory_announce]; exact fun _ => id)

/-- What `CloseConnection` comes to for an initialized socket that is already marked: the nested `Close` returns
at once, but a server side entry loses its descriptor. -/
def teardown (w : World) (s : SocketId) : World :=
  if w.directory.connected s then
    if w.directory.perspective s = .isServer then
      (w.announce s quicConnectionCancelled false).deleteQuicSocketEntry s
    else w.announce s quicConnectionCancelled false
  else w

theorem closeConnection_eq_teardown (closed : w.Closed s) (fuel : Nat) (initialized : Bool) :
    closeConnection (closeSocket (fuel + 1)) s initialized w =
      if w.directory.connected s = true ∧ initialized = false then .error .nullDereference
      else .ok (w.teardown s) := by
  have changed := w.directory_announce s quicConnectionCancelled false
  have state : (w.announce s quicConnectionCancelled false).Closed s := by
    rw [Closed, changed]
    exact closed
  have notConnected : ((w.announce s quicConnectionCancelled false).sockets s).socketState ≠ .connected := by
    rw [show ((w.announce s quicConnectionCancelled false).sockets s).socketState = .closed from state]
    decide
  have perspective : ((w.announce s quicConnectionCancelled false).sockets s).perspective =
      w.directory.perspective s := congrFun (congrArg Directory.perspective changed) s
  unfold closeConnection teardown
  by_cases connected : w.directory.connected s = true
  · rw [if_pos (show (w.sockets s).connected = true from connected), if_pos connected]
    cases initialized with
    | false => rw [if_neg Bool.false_ne_true, if_pos ⟨connected, rfl⟩]
    | true =>
    rw [if_pos rfl, if_neg fun crashes => Bool.noConfusion crashes.2]
    change (if ((w.announce s quicConnectionCancelled false).sockets s).socketState ≠ .connected ∧
      ((w.announce s quicConnectionCancelled false).sockets s).perspective = .isServer then _ else _) = _
    rw [perspective]
    by_cases server : w.directory.perspective s = .isServer
    · rw [if_pos ⟨notConnected, server⟩, if_pos server]
      change closeSocket (fuel + 1) s (w.announce s quicConnectionCancelled false) >>= _ = _
      rw [closeSocket_of_closed state]
      rfl
    · rw [if_neg (fun both => server both.2), if_neg server]
      rfl
  · rw [if_neg (show ¬ (w.sockets s).connected = true from connected), if_neg connected,
      if_neg fun crashes => connected crashes.1]

/-- Everything but descriptors and the connection stays. -/
theorem kept_teardown (w : World) (s : SocketId) : Kept w (w.teardown s) := by
  have announced := w.kept_announce s quicConnectionCancelled false
  unfold teardown
  split_ifs
  · exact announced.trans (kept_deleteQuicSocketEntry _ s)
  · exact announced
  · exact .of_directory_eq rfl

theorem progress_teardown (w : World) (s : SocketId) : Progress w (w.teardown s) := by
  have announced := w.progress_announce s quicConnectionCancelled false
  unfold teardown
  split_ifs
  · exact announced.trans (progress_deleteQuicSocketEntry _ s)
  · exact announced
  · exact .refl w

theorem acceptSockets_teardown (w : World) (s : SocketId) :
    (w.teardown s).directory.acceptSockets = w.directory.acceptSockets := by
  have announced := congrArg Directory.acceptSockets (w.directory_announce s quicConnectionCancelled false)
  unfold teardown
  split_ifs
  · refine Eq.trans ?_ announced
    rw [deleteQuicSocketEntry, directory_releaseFd]
    split_ifs <;> rfl
  · exact announced
  · rfl

theorem connected_teardown (w : World) (s : SocketId) : (w.teardown s).directory.connected s = false := by
  have announced : (w.announce s quicConnectionCancelled false).directory.connected s = false := by
    rw [directory_announce]
    exact Function.update_self ..
  unfold teardown
  split_ifs with connected
  · refine Eq.trans ?_ announced
    rw [deleteQuicSocketEntry, directory_releaseFd]
    split_ifs <;> rfl
  · exact announced
  · simpa using connected

variable {allowed : Fault → Prop} {target : SocketId → Prop} {P : World → Prop}

theorem Closable.teardown (closable : Closable allowed target P) (holds : P w) (aimed : target s)
    (closed : w.Closed s) : P (w.teardown s) := by
  unfold World.teardown
  split_ifs with connected server
  · exact closable.releaseServer w s holds aimed closed connected server
  · exact closable.announce w s quicConnectionCancelled false holds server closed
  · exact holds

/-- What a close leaves behind. -/
structure Done (P : World → Prop) (before : World) (after : World) : Prop where
  holds : P after
  settled : after.Settled
  progress : Progress before after

/-- The socket is closed, with everything that was in its accept queue, which is also deleted. -/
structure Shut (before : World) (s : SocketId) (after : World) : Prop where
  self : after.Closed s
  queue : ¬ before.Closed s → ∀ child ∈ before.directory.acceptSockets s,
    after.Closed child ∧ after.directory.fd (.socket child) < 0

/-- The children are closed one after the other. -/
theorem clearAcceptSockets_yields (closable : Closable allowed target P) {close : SocketId → World → Run World}
    {bound : Nat}
    (closes : ∀ child w, P w → target child → w.Settled → w.openSockets.card < bound →
      Yields allowed (fun w' => Done P w w' ∧ Shut w child w') (close child w))
    (s : SocketId) (aimed : target s) (children : List SocketId) (queued : ∀ child ∈ children, target child)
    (w : World) (holds : P w) (settled : w.Settled) (below : w.openSockets.card < bound) :
    Yields allowed
      (fun w' => Done P w w' ∧ ∀ child ∈ children, w'.Closed child ∧ w'.directory.fd (.socket child) < 0)
      (clearAcceptSockets close s children w) := by
  induction children generalizing w with
  | nil => exact ⟨⟨holds, settled, .refl w⟩, nofun⟩
  | cons child rest ih =>
    have popped := w.progress_popAccept s
    have belowPop := lt_of_le_of_lt (Finset.card_le_card popped.openSockets_subset) below
    change Yields allowed _ (close child (w.popAccept s) >>= _)
    have aimedChild := queued child (List.mem_cons_self ..)
    refine (closes child _ (closable.pop w s holds aimed) aimedChild
      ((w.kept_popAccept s).settled settled) belowPop).bind ?_
    rintro after ⟨done, closed, -⟩
    have released := after.kept_deleteQuicSocketEntry child
    have progress : Progress w (after.deleteQuicSocketEntry child) :=
      popped.trans (done.progress.trans (after.progress_deleteQuicSocketEntry child))
    have holdsAfter := closable.release after child done.holds aimedChild closed
      (done.settled.told child closed)
    have belowAfter := lt_of_le_of_lt (Finset.card_le_card progress.openSockets_subset) below
    have queuedRest : ∀ other ∈ rest, target other := fun other member =>
      queued other (List.mem_cons_of_mem _ member)
    refine (ih queuedRest _ holdsAfter (released.settled done.settled) belowAfter).imp ?_
    rintro last ⟨finished, closedRest⟩
    refine ⟨⟨finished.holds, finished.settled, progress.trans finished.progress⟩, ?_⟩
    intro other member
    rcases List.mem_cons.mp member with rfl | member
    · exact ⟨finished.progress.closed _ ((released.closed_iff _).mpr closed),
        finished.progress.released _ (after.fd_deleteQuicSocketEntry_neg _).1⟩
    · exact closedRest other member

/-- After the waiters of the marked socket have been told, everybody is settled again. -/
theorem settled_clear (settled : w.Settled) {marked : World}
    (states : marked.directory.socketState = Function.update w.directory.socketState s .closed)
    (flags : marked.directory.closeTrigger = w.directory.closeTrigger)
    (sockets : marked.directory.numSockets = w.directory.numSockets)
    (cleared : marked.clearWaitingsByClose (.socket s) = .ok w') : w'.Settled := by
  have changed := directory_clearWaitingsByClose cleared
  have stateOf : ∀ x, w'.directory.socketState x = Function.update w.directory.socketState s .closed x := by
    intro x
    rw [changed, ← states]
  refine ⟨?_, ?_⟩
  · intro x closed
    rw [changed]
    by_cases same : x = s
    · subst same
      simp
    · have before : w.Closed x := by
        rw [Closed, stateOf, Function.update_of_ne same] at closed
        exact closed
      have other : EntryPtr.socket x ≠ .socket s := fun equal => same (EntryPtr.socket.inj equal)
      simp only [Function.update_of_ne other, flags]
      exact settled.told x before
  · intro x beyond
    rw [changed] at beyond
    rw [Closed, stateOf]
    by_cases same : x = s
    · subst same
      simp
    · rw [Function.update_of_ne same]
      exact settled.bounded x (by rw [← sockets]; exact beyond)

/-- The part of `Close` behind the first test, down to the children. -/
def tellWaiters (s : SocketId) (w : World) : Run World :=
  if w.Crashes s then .error .nullDereference else ((w.mark s).teardown s).clearWaitingsByClose (.socket s)

theorem tellWaiters_eq_ok (tells : tellWaiters s w = .ok told) :
    ¬ w.Crashes s ∧ ((w.mark s).teardown s).clearWaitingsByClose (.socket s) = .ok told := by
  unfold tellWaiters at tells
  split_ifs at tells with crashes
  exact ⟨crashes, tells⟩

theorem closeSocket_of_open (isOpen : ¬ w.Closed s) (fuel : Nat) :
    closeSocket (fuel + 2) s w = (do
      let told ← tellWaiters s w
      clearAcceptSockets (closeSocket (fuel + 1)) s (told.sockets s).acceptSockets told) := by
  rw [closeSocket, if_neg (show ¬ (w.sockets s).socketState = .closed from isOpen)]
  change closeConnection (closeSocket (fuel + 1)) s (w.directory.socketState s).initialized (w.mark s) >>= _ = _
  have connected : (w.mark s).directory.connected = w.directory.connected := by rw [directory_mark]
  rw [closeConnection_eq_teardown (w.mark_closed s), connected, tellWaiters]
  by_cases crashes : w.Crashes s
  · rw [if_pos crashes, if_pos (show _ ∧ _ from crashes)]
    rfl
  · rw [if_neg crashes, if_neg (show ¬ (_ ∧ _) from crashes)]
    rfl

/-- What holds when the waiters of a socket have been told and its children are next. -/
structure Told (w : World) (s : SocketId) (told : World) : Prop where
  settled : told.Settled
  closed : told.Closed s
  progress : Progress w told
  fewer : told.openSockets.card < w.openSockets.card
  queue : told.directory.acceptSockets = w.directory.acceptSockets

theorem told_of_open (settled : w.Settled) (isOpen : ¬ w.Closed s) (tells : tellWaiters s w = .ok told) :
    Told w s told := by
  obtain ⟨-, tells⟩ := tellWaiters_eq_ok tells
  have torn := (w.mark s).kept_teardown s
  have changed := directory_clearWaitingsByClose tells
  have tornProgress : Progress (w.mark s) told := by
    refine ((w.mark s).progress_teardown s).trans ⟨?_, by rw [changed], by rw [changed]; exact fun _ => id⟩
    intro x closedX
    rw [Closed, changed]
    exact closedX
  refine ⟨?_, tornProgress.closed s (w.mark_closed s), (w.mark_progress s).trans tornProgress, ?_, ?_⟩
  · refine settled_clear settled ?_ ?_ ?_ tells
    · rw [torn.socketState, directory_mark]
    · rw [torn.closeTrigger, directory_mark]
    · rw [torn.numSockets, directory_mark]
  · exact lt_of_le_of_lt (Finset.card_le_card tornProgress.openSockets_subset)
      (card_openSockets_mark settled isOpen)
  · rw [changed, acceptSockets_teardown, directory_mark]

/-- The rule: with fuel for every open socket, a close ends in an allowed fault or keeps `P`. -/
theorem closeSocket_yields (closable : Closable allowed target P) (fuel : Nat) (s : SocketId) (w : World)
    (holds : P w) (aimed : target s) (settled : w.Settled) (enough : w.openSockets.card < fuel) :
    Yields allowed (fun w' => Done P w w' ∧ Shut w s w') (closeSocket fuel s w) := by
  induction fuel generalizing s w with
  | zero => omega
  | succ fuel ih =>
    by_cases closed : w.Closed s
    · rw [closeSocket_of_closed closed]
      exact ⟨⟨holds, settled, .refl w⟩, closed, fun isOpen => (isOpen closed).elim⟩
    · have fewer := card_openSockets_mark settled closed
      obtain ⟨rest, rfl⟩ : ∃ rest, fuel = rest + 1 := ⟨fuel - 1, by omega⟩
      have marked := w.mark_closed s
      rw [closeSocket_of_open closed]
      have holdsTorn := closable.teardown (closable.mark w s holds aimed closed) aimed marked
      have closedTorn : ((w.mark s).teardown s).Closed s := (((w.mark s).kept_teardown s).closed_iff s).mpr marked
      have tells : Yields allowed P (tellWaiters s w) := by
        unfold tellWaiters
        split_ifs with crashes
        · exact closable.crash w s holds aimed closed crashes
        · exact closable.clear _ s holdsTorn aimed closedTorn (connected_teardown _ s)
      refine (tells.and_ok fun _ tells => told_of_open settled closed tells).bind ?_
      rintro told ⟨holdsTold, stage⟩
      refine (clearAcceptSockets_yields closable (fun child before => ih child before) s aimed _
        (closable.queued told s holdsTold aimed) told holdsTold stage.settled
        (lt_of_lt_of_le stage.fewer (Nat.le_of_lt_succ enough))).imp ?_
      rintro last ⟨done, closedQueue⟩
      refine ⟨⟨done.holds, done.settled, stage.progress.trans done.progress⟩,
        done.progress.closed s stage.closed, ?_⟩
      intro _ child member
      refine closedQueue child ?_
      change child ∈ told.directory.acceptSockets s
      rw [stage.queue]
      exact member

theorem card_openSockets_le (w : World) : w.openSockets.card ≤ w.numSockets := by
  calc w.openSockets.card ≤ (Finset.range w.directory.numSockets).card := Finset.card_filter_le _ _
    _ = w.numSockets := Finset.card_range _

/-- `Close` of an open socket, with its children closed behind it. -/
theorem close_of_open (settled : w.Settled) (isOpen : ¬ w.Closed s) :
    close s w = (do
      let told ← tellWaiters s w
      clearAcceptSockets (closeSocket w.numSockets) s (told.sockets s).acceptSockets told) := by
  have allocated : s < w.numSockets := by
    by_contra beyond
    exact isOpen (settled.bounded s (not_lt.mp beyond))
  obtain ⟨fuel, enough⟩ : ∃ fuel, w.numSockets = fuel + 1 :=
    Nat.exists_eq_succ_of_ne_zero (Nat.ne_zero_of_lt allocated)
  rw [close, enough]
  exact closeSocket_of_open isOpen fuel

/-- The rule for the children alone. -/
theorem queue_yields (closable : Closable allowed target P) (stage : Told w s told) (holds : P told)
    (aimed : target s) :
    Yields allowed (fun w' => Done P told w' ∧
        ∀ child ∈ w.directory.acceptSockets s, w'.Closed child ∧ w'.directory.fd (.socket child) < 0)
      (clearAcceptSockets (closeSocket w.numSockets) s (told.sockets s).acceptSockets told) := by
  have below : told.openSockets.card < w.numSockets := lt_of_lt_of_le stage.fewer w.card_openSockets_le
  refine (clearAcceptSockets_yields closable
    (fun child before holdsBefore aimedChild settledBefore enough =>
      closeSocket_yields closable _ child before holdsBefore aimedChild settledBefore enough)
    s aimed _ (closable.queued told s holds aimed) told holds stage.settled below).imp ?_
  rintro last ⟨done, closed⟩
  refine ⟨done, ?_⟩
  rw [← stage.queue]
  exact closed

theorem close_yields (closable : Closable allowed target P) (s : SocketId) (w : World) (holds : P w)
    (aimed : target s) (settled : w.Settled) :
    Yields allowed (fun w' => Done P w w' ∧ Shut w s w') (close s w) := by
  exact closeSocket_yields closable _ s w holds aimed settled (Nat.lt_succ_of_le w.card_openSockets_le)

/-- `Close` and the deletion of the entry behind it. -/
theorem closeAndDelete_yields (closable : Closable allowed target P) (s : SocketId) (w : World) (holds : P w)
    (aimed : target s) (settled : w.Settled) :
    Yields allowed (fun w' => P w' ∧ w'.Settled ∧ Shut w s w') (do
      let w ← close s w
      return w.deleteQuicSocketEntry s) := by
  refine (close_yields closable s w holds aimed settled).bind ?_
  rintro after ⟨done, closed, queue⟩
  have told := done.settled.told s closed
  have released := after.kept_deleteQuicSocketEntry s
  refine ⟨closable.release after s done.holds aimed closed told, released.settled done.settled, ?_, ?_⟩
  · exact (released.closed_iff s).mpr closed
  · intro isOpen child member
    obtain ⟨closedChild, lost⟩ := queue isOpen child member
    exact ⟨(released.closed_iff child).mpr closedChild, (after.fd_deleteQuicSocketEntry_neg s).2 _ lost⟩

/-- The sockets that a `QuicCloseSocket` gets to. -/
def closeReach (w : World) : Action → List SocketId
  | .closeSocket sock =>
    match w.fdManager sock with
    | some (.socket s) => s :: (w.sockets s).acceptSockets
    | _ => []
  | _ => []

theorem closeReach_of_found {sock : Fd} (found : w.fdManager sock = some (.socket s)) :
    w.closeReach (.closeSocket sock) = s :: (w.sockets s).acceptSockets := by
  rw [closeReach, found]

theorem mem_closeReach {sock : Fd} {x : SocketId} : x ∈ w.closeReach (.closeSocket sock) ↔
    ∃ s, w.fdManager sock = some (.socket s) ∧ (x = s ∨ x ∈ w.directory.acceptSockets s) := by
  constructor
  · intro member
    rw [closeReach] at member
    split at member
    · next s found => exact ⟨s, found, List.mem_cons.mp member⟩
    · cases member
  · rintro ⟨s, found, aimed⟩
    rw [closeReach_of_found found]
    exact List.mem_cons.mpr aimed

theorem quicCloseSocket_yields (closable : Closable allowed target P) (sock : Fd) (w : World) (holds : P w)
    (aimed : ∀ s, w.fdManager sock = some (.socket s) → target s) (settled : w.Settled) :
    Yields allowed (fun result => P result.2 ∧ result.2.Settled ∧
      ∀ s, w.fdManager sock = some (.socket s) → Shut w s result.2) (w.quicCloseSocket sock) := by
  unfold quicCloseSocket withSocket
  split
  · next s found =>
    have closes := closeAndDelete_yields closable s w holds (aimed s found) settled
    dsimp only
    cases closed : close s w with
    | error fault =>
      rw [closed] at closes
      exact closes
    | ok after =>
      rw [closed] at closes
      obtain ⟨holdsAfter, settledAfter, shut⟩ := closes
      refine ⟨holdsAfter, settledAfter, ?_⟩
      intro other same
      rw [found] at same
      cases same
      exact shut
  · next absent => exact ⟨holds, settled, fun s found => (absent s found).elim⟩

/-- The session reports the end of its connection. -/
theorem connectionClosed_yields (closable : Closable allowed target P) (s : SocketId) (errorCode : Int)
    (fromRemote : Bool) (w : World) (announced : P (w.announce s errorCode fromRemote))
    (aimed : w.directory.perspective s = .isServer → target s) (settled : w.Settled) :
    Yields allowed (fun w' => P w' ∧ w'.Settled)
      (onConnectionClosed close s errorCode fromRemote (w.disconnect s)) := by
  have settledAnnounced := (w.kept_announce s errorCode fromRemote).settled settled
  unfold onConnectionClosed
  change Yields _ _ (if ((w.announce s errorCode fromRemote).sockets s).socketState ≠ .connected ∧
    ((w.announce s errorCode fromRemote).sockets s).perspective = .isServer then
      (do
        let w ← close s (w.announce s errorCode fromRemote)
        return w.deleteQuicSocketEntry s)
    else .ok (w.announce s errorCode fromRemote))
  have perspective : ((w.announce s errorCode fromRemote).sockets s).perspective = w.directory.perspective s :=
    congrFun (congrArg Directory.perspective (w.directory_announce s errorCode fromRemote)) s
  split_ifs with half
  · refine (closeAndDelete_yields closable s _ announced (aimed (perspective ▸ half.2)) settledAnnounced).imp ?_
    rintro after ⟨holds, settledAfter, -⟩
    exact ⟨holds, settledAfter⟩
  · exact ⟨announced, settledAnnounced⟩

end PosixQuic.World
