import PosixQuic.Soundness.Carries

/-! # Order in the queues

Nobody waits in two queues or twice in one, connections wait after their handshake only, and a stream waits at
the socket it belongs to. At most one connection or stream joins the queues at a time, and it has waited nowhere
before. A socket that is closed has lost its descriptor by the end of the action that closed it.
-/

namespace PosixQuic

/-- The actions that create, hand out, queue and close nothing. -/
def Action.plain : Action → Bool
  | .createSocket _ | .socketAccept _ | .closeSocket _ | .streamAccept _ | .createStream .. | .closeStream _
  | .datagram .. | .handshakeComplete _ | .incomingStream .. | .connectionClosed .. => false
  | _ => true

/-- Two actions close sockets and one closes a stream. -/
theorem Action.Closes.sockets_or_stream {action : Action} (closes : action.Closes) :
    ((∃ sock, action = .closeSocket sock) ∨
      ∃ s errorCode fromRemote, action = .connectionClosed s errorCode fromRemote) ∨
    ∃ stream, action = .closeStream stream := by
  cases action with
  | closeSocket sock => exact .inl (.inl ⟨sock, rfl⟩)
  | connectionClosed s errorCode fromRemote => exact .inl (.inr ⟨s, errorCode, fromRemote, rfl⟩)
  | closeStream stream => exact .inr ⟨stream, rfl⟩
  | _ => exact closes.elim

/-- The handshake of the socket is over. -/
def QuicSocketState.Finished (socketState : QuicSocketState) : Prop := socketState = .connected ∨ socketState = .closed

instance (socketState : QuicSocketState) : Decidable socketState.Finished :=
  inferInstanceAs (Decidable (socketState = .connected ∨ socketState = .closed))

theorem Directory.Advances.not_finished {socketState next : QuicSocketState}
    (advances : Directory.Advances socketState next) : ¬ socketState.Finished := by
  cases advances <;> decide

namespace Directory

variable {d d' : Directory}

/-- Entries with a descriptor keep it, sockets whose handshake is over stay as they are, and nobody is closed. -/
structure Endures (d d' : Directory) : Prop where
  fd : ∀ entry, 0 ≤ d.fd entry → d'.fd entry = d.fd entry
  closed : ∀ s, d'.socketState s = .closed → d.socketState s = .closed ∧ d'.fd (.socket s) = d.fd (.socket s)
  perspective : ∀ s < d.numSockets, d'.perspective s = d.perspective s
  state : ∀ s < d.numSockets, (d.socketState s).Finished → d'.socketState s = d.socketState s
  numSockets : d.numSockets ≤ d'.numSockets
  numStreams : d.numStreams ≤ d'.numStreams

namespace Endures

theorem refl (d : Directory) : Endures d d :=
  ⟨fun _ _ => rfl, fun _ closed => ⟨closed, rfl⟩, fun _ _ => rfl, fun _ _ _ => rfl, le_rfl, le_rfl⟩

theorem trans {first middle last : Directory} (left : Endures first middle) (right : Endures middle last) :
    Endures first last where
  fd entry remembers := by
    have kept := left.fd entry remembers
    exact (right.fd entry (kept ▸ remembers)).trans kept
  closed s closed := by
    obtain ⟨between, kept⟩ := right.closed s closed
    exact ⟨(left.closed s between).1, kept.trans (left.closed s between).2⟩
  perspective s known := (right.perspective s (known.trans_le left.numSockets)).trans (left.perspective s known)
  state s known finished := by
    have kept := left.state s known finished
    exact (right.state s (known.trans_le left.numSockets) (kept ▸ finished)).trans kept
  numSockets := left.numSockets.trans right.numSockets
  numStreams := left.numStreams.trans right.numStreams

/-- Only the state of an unfinished socket changes, if anything. -/
theorem of_state {s : SocketId} {socketState : QuicSocketState} (unfinished : ¬ (d.socketState s).Finished)
    (stays : socketState ≠ .closed) (fd : d'.fd = d.fd) (perspective : d'.perspective = d.perspective)
    (state : d'.socketState = Function.update d.socketState s socketState)
    (numSockets : d'.numSockets = d.numSockets) (numStreams : d'.numStreams = d.numStreams) : Endures d d' where
  fd entry _ := congrFun fd entry
  closed x closed := by
    rw [state] at closed
    by_cases same : x = s
    · rw [same, Function.update_self] at closed
      exact (stays closed).elim
    · rw [Function.update_of_ne same] at closed
      exact ⟨closed, congrFun fd _⟩
  perspective x _ := congrFun perspective x
  state x _ finished := by
    have other : x ≠ s := by
      rintro rfl
      exact unfinished finished
    rw [state, Function.update_of_ne other]
  numSockets := numSockets.ge
  numStreams := numStreams.ge

theorem createSocket (tables : d.Tables) (perspective : Perspective) (id : QuicConnectionId) :
    Endures d (d.createSocket perspective id) where
  fd entry remembers := by
    have other : entry ≠ .socket d.numSockets := by
      rintro rfl
      rw [tables.freshSocket _ le_rfl] at remembers
      exact absurd remembers (by decide)
    exact Function.update_of_ne other ..
  closed s closed := by
    change Function.update d.socketState d.numSockets .none s = .closed at closed
    by_cases same : s = d.numSockets
    · rw [same, Function.update_self] at closed
      cases closed
    · rw [Function.update_of_ne same] at closed
      exact ⟨closed, Function.update_of_ne (EntryPtr.socket_ne same) ..⟩
  perspective s known := Function.update_of_ne known.ne ..
  state s known _ := Function.update_of_ne known.ne ..
  numSockets := Nat.le_succ _
  numStreams := le_rfl

theorem createStream (tables : d.Tables) (s : SocketId) : Endures d (d.createStream s) where
  fd entry remembers := by
    have other : entry ≠ .stream d.numStreams := by
      rintro rfl
      rw [tables.freshStream _ le_rfl] at remembers
      exact absurd remembers (by decide)
    exact Function.update_of_ne other ..
  closed _ closed := ⟨closed, rfl⟩
  perspective _ _ := rfl
  state _ _ _ := rfl
  numSockets := le_rfl
  numStreams := Nat.le_succ _

/-- A step that closes nobody. -/
theorem of_step (tables : d.Tables) (step : Step (fun _ => False) d d') : Endures d d' := by
  have same : ∀ d' : Directory, d'.fd = d.fd → d'.perspective = d.perspective → d'.socketState = d.socketState →
      d'.numSockets = d.numSockets → d'.numStreams = d.numStreams → Endures d d' := by
    intro d' fd perspective state numSockets numStreams
    exact ⟨fun entry _ => congrFun fd entry, fun s closed => ⟨(congrFun state s).symm.trans closed, congrFun fd _⟩,
      fun s _ => congrFun perspective s, fun s _ _ => congrFun state s, numSockets.ge, numStreams.ge⟩
  cases step with
  | createSocket id => exact createSocket tables .isClient id
  | createStream s => exact createStream tables s
  | setUdpSocket s sock udp _ none _ _ =>
    refine of_state (s := s) ?_ (show QuicSocketState.inited ≠ .closed by decide) rfl rfl rfl rfl rfl
    rw [none]
    decide
  | syn e udp cached owner ownerUdp id _ _ _ _ =>
    have dispatching : (d.setDispatch e (some (udp, some owner))).Tables := tables.of_eq rfl rfl rfl
    refine (same (d.setDispatch e (some (udp, some owner))) rfl rfl rfl rfl rfl).trans
      ((createSocket dispatching .isServer id).trans (of_state (s := d.numSockets) ?_
        (show QuicSocketState.shared ≠ .closed by decide) rfl rfl rfl rfl rfl))
    change ¬ (Function.update d.socketState d.numSockets QuicSocketState.none d.numSockets).Finished
    rw [Function.update_self]
    decide
  | setState s socketState advances => exact of_state (s := s) advances.not_finished advances.started.2.2 rfl rfl rfl rfl rfl
  | enqueue s child udp _ _ _ => exact same _ rfl rfl rfl rfl rfl
  | dequeue s => exact same _ rfl rfl rfl rfl rfl
  | mark s may _ => exact may.elim
  | disconnect s => exact same _ rfl rfl rfl rfl rfl
  | release entry may _ => exact may.elim
  | tell entry may => exact may.elim
  | setDispatch e udp => exact same _ rfl rfl rfl rfl rfl

theorem of_steps (tables : d.Tables) (steps : Steps (fun _ => False) d d') : Endures d d' := by
  refine (steps.invariant (P := fun last => last.Tables ∧ Endures d last) ?_ ⟨tables, refl d⟩).2
  rintro before after ⟨sound, endures⟩ step
  exact ⟨sound.step step, endures.trans (of_step sound step)⟩

end Endures

end Directory

namespace World

open Machine Directory

variable {w w' : World} {action : Action} {result : CallResult × World} {s : SocketId} {sock : Fd}

/-- Seen through a frame, a plain action changes nothing. -/
theorem perform_framed {α : Type} {view : World → α} (frame : Frame view) (plain : action.plain = true)
    (performed : w.perform action = .ok result) : view result.2 = view w := by
  have yields : Yields (fun _ => True) (fun result => view result.2 = view w) (w.perform action) := by
    cases action with
    | bind sock udp os => exact withSocket_yields rfl fun s _ => (frame.configures w s).bind (fun _ => trivial) os
    | bindUdp sock udp os => exact withSocket_yields rfl fun s _ => (frame.configures w s).bindUdp trivial os
    | connect sock udp =>
      exact withSocket_yields rfl fun s _ =>
        (frame.configures w s).connect (fun _ => trivial) fun _ => frame.setSocketState ..
    | readv stream iov =>
      refine withStream_yields rfl fun t _ => ?_
      exact frame.modStream w t (fun _ => ((w.streams t).readv iov).entry) (socketEntry_readv (w.streams t) iov)
    | createEpoll => exact frame.entries w _ rfl rfl
    | closeEpoller e => exact withEpoller_yields rfl (frame.closeEpoller w e)
    | epollAdd e fd events data full => exact withEpoller_yields rfl (frame.addInner w e fd events data full)
    | epollMod e fd events data => exact withEpoller_yields rfl (frame.modInner w e fd events data)
    | epollDel e fd =>
      exact withEpoller_yields rfl (yields_of_ok fun _ deleted => frame.delInner deleted)
    | poll e maxevents => exact withEpoller_yields rfl (frame.entries w _ rfl rfl)
    | beginUdpEvent e udp => exact withEpoller_yields rfl (frame.entries w _ rfl rfl)
    | endUdpEvent e => exact frame.entries w _ rfl rfl
    | streamReceived t data => exact frame.streamCallback w t (keepsHome_onReceived data)
    | streamFinRead t => exact frame.streamCallback w t keepsHome_onFinRead
    | streamClosed t => exact frame.streamCallback w t keepsHome_onClose
    | streamCanWrite t => exact frame.streamCallback w t keepsHome_onCanWriteNewData
    | _ => cases plain
  exact yields.of_ok performed

/-- An action that closes nobody takes no descriptor back. -/
theorem perform_endures (tables : w.directory.Tables) (settled : w.Settled) (admitted : w.admits action = true)
    (quiet : ¬ action.Closes) (performed : w.perform action = .ok result) :
    Endures w.directory result.2.directory :=
  .of_steps tables ((perform_refines_quiet settled admitted quiet).of_ok performed).1

/-! ## Closes -/

/-- What any close does to the streams, the queues and the states at large. -/
structure Withdraws (before w : World) : Prop where
  fd : ∀ t, w.directory.fd (.stream t) = before.directory.fd (.stream t)
  queue : ∀ s, (w.directory.acceptSockets s).Sublist (before.directory.acceptSockets s)
  finished : ∀ s, (before.directory.socketState s).Finished → (w.directory.socketState s).Finished
  crashes : ∀ s, w.Crashes s → before.Crashes s
  numSockets : w.directory.numSockets = before.directory.numSockets
  numStreams : w.directory.numStreams = before.directory.numStreams
  udp : w.directory.udp = before.directory.udp
  home : w.home = before.home

namespace Withdraws

variable {before : World}

theorem refl (w : World) : Withdraws w w :=
  ⟨fun _ => rfl, fun _ => .refl _, fun _ => id, fun _ => id, rfl, rfl, rfl, rfl⟩

theorem announce (withdraws : Withdraws before w) (s : SocketId) (errorCode : Int) (fromRemote : Bool) :
    Withdraws before (w.announce s errorCode fromRemote) := by
  refine ⟨?_, ?_, ?_, fun x crashes => withdraws.crashes x ?_, ?_, ?_, ?_,
    (homeFrame.announce w s errorCode fromRemote).trans withdraws.home⟩
  on_goal 4 =>
    rw [Crashes, directory_announce] at crashes
    by_cases same : x = s
    · simp [same] at crashes
    · simpa [same, Crashes] using crashes
  all_goals rw [directory_announce]
  · exact withdraws.fd
  · exact withdraws.queue
  · exact withdraws.finished
  · exact withdraws.numSockets
  · exact withdraws.numStreams
  · exact withdraws.udp

theorem delete (withdraws : Withdraws before w) (s : SocketId) : Withdraws before (w.deleteQuicSocketEntry s) := by
  refine ⟨?_, ?_, ?_, ?_, ?_, ?_, ?_, (homeFrame.releaseFd w (.socket s)).trans withdraws.home⟩
  on_goal 4 => unfold Crashes
  all_goals
    rw [directory_deleteQuicSocketEntry, Directory.release]
    split_ifs
  · intro t
    have other : EntryPtr.stream t ≠ .socket s := by
      rintro ⟨⟩
    dsimp only
    rw [Function.update_of_ne other]
    exact withdraws.fd t
  · exact withdraws.fd
  · exact withdraws.queue
  · exact withdraws.queue
  · exact withdraws.finished
  · exact withdraws.finished
  · exact withdraws.crashes
  · exact withdraws.crashes
  · exact withdraws.numSockets
  · exact withdraws.numSockets
  · exact withdraws.numStreams
  · exact withdraws.numStreams
  · exact withdraws.udp
  · exact withdraws.udp

end Withdraws

theorem closable_withdraws (before : World) (target : SocketId → Prop)
    (targets : ∀ s, target s → ∀ child ∈ before.directory.acceptSockets s, target child) :
    Closable (fun fault => fault = .assertFailed ∨ fault = .nullDereference ∧ ∃ s, target s ∧ before.Crashes s) target
      (Withdraws before) where
  queued w s withdraws aimed child member := targets s aimed child ((withdraws.queue s).subset member)
  crash w s withdraws aimed _ crashes := .inr ⟨rfl, s, aimed, withdraws.crashes s crashes⟩
  mark w s withdraws _ _ := by
    refine ⟨?_, ?_, ?_, fun x crashes => withdraws.crashes x ?_, ?_, ?_, ?_, (homeFrame.mark w s).trans withdraws.home⟩
    on_goal 4 =>
      rw [Crashes, directory_mark] at crashes
      by_cases same : x = s
      · simp [same, QuicSocketState.initialized] at crashes
      · simpa [same, Crashes] using crashes
    all_goals rw [directory_mark]
    · exact withdraws.fd
    · exact withdraws.queue
    · intro x finished
      dsimp only
      by_cases same : x = s
      · rw [same, Function.update_self]
        decide
      · rw [Function.update_of_ne same]
        exact withdraws.finished x finished
    · exact withdraws.numSockets
    · exact withdraws.numStreams
    · exact withdraws.udp
  announce _ s errorCode fromRemote withdraws _ _ := withdraws.announce s errorCode fromRemote
  releaseServer _ s withdraws _ _ _ _ := (withdraws.announce s quicConnectionCancelled false).delete s
  clear w s withdraws _ _ _ := by
    cases cleared : w.clearWaitingsByClose (.socket s) with
    | error fault => exact .inl (clearWaitingsByClose_fault cleared)
    | ok after =>
      refine ⟨?_, ?_, ?_, ?_, ?_, ?_, ?_, (homeFrame.clearWaitingsByClose cleared).trans withdraws.home⟩
      on_goal 4 => unfold Crashes
      all_goals rw [directory_clearWaitingsByClose cleared]
      · exact withdraws.fd
      · exact withdraws.queue
      · exact withdraws.finished
      · exact withdraws.crashes
      · exact withdraws.numSockets
      · exact withdraws.numStreams
      · exact withdraws.udp
  release _ s withdraws _ _ _ := withdraws.delete s
  pop w s withdraws _ := by
    refine ⟨?_, ?_, ?_, ?_, ?_, ?_, ?_, withdraws.home⟩
    on_goal 4 => unfold Crashes
    all_goals rw [directory_popAccept]
    · exact withdraws.fd
    · intro x
      dsimp only
      by_cases same : x = s
      · rw [same, Function.update_self]
        exact (List.tail_sublist _).trans (withdraws.queue s)
      · rw [Function.update_of_ne same]
        exact withdraws.queue x
    · exact withdraws.finished
    · exact withdraws.crashes
    · exact withdraws.numSockets
    · exact withdraws.numStreams
    · exact withdraws.udp

theorem quicCloseStream_withdraws {stream : Fd} (closed : w.quicCloseStream stream = .ok result) :
    result.2.directory.acceptSockets = w.directory.acceptSockets ∧
      result.2.directory.socketState = w.directory.socketState ∧
      result.2.directory.perspective = w.directory.perspective ∧ result.2.directory.udp = w.directory.udp ∧
      result.2.directory.numSockets = w.directory.numSockets ∧
      result.2.directory.numStreams = w.directory.numStreams ∧
      result.2.backlog = w.backlog ∧ result.2.home = w.home ∧
      ∀ entry, (∀ t, w.fdManager stream = some (.stream t) → entry ≠ .stream t) →
        result.2.directory.fd entry = w.directory.fd entry := by
  unfold quicCloseStream withStream at closed
  split at closed
  · next t found =>
    obtain ⟨last, closes, returned⟩ := bind_eq_ok closed
    cases returned
    have told : last.directory = w.directory.tell (.stream t) ∧ last.backlog = w.backlog ∧ last.home = w.home := by
      unfold closeStreamEntry at closes
      dsimp only at closes
      split_ifs at closes
      · have kept := w.directory_streamCallback t keepsStream_onClose
        have changed := directory_clearWaitingsByClose closes
        rw [kept] at changed
        exact ⟨changed, (backlogFrame.clearWaitingsByClose closes).trans (backlogFrame.streamCallback w t keepsHome_onClose),
          (homeFrame.clearWaitingsByClose closes).trans (homeFrame.streamCallback w t keepsHome_onClose)⟩
      · exact ⟨directory_clearWaitingsByClose closes, backlogFrame.clearWaitingsByClose closes,
          homeFrame.clearWaitingsByClose closes⟩
    have changed : (last.deleteQuicStream t).directory = (w.directory.tell (.stream t)).release (.stream t) := by
      rw [← told.1]
      exact last.directory_releaseFd _
    dsimp only
    refine ⟨?_, ?_, ?_, ?_, ?_, ?_, (backlogFrame.releaseFd last _).trans told.2.1,
      (homeFrame.releaseFd last _).trans told.2.2, ?_⟩
    all_goals
      rw [changed, Directory.release]
      split_ifs
    all_goals try rfl
    · intro entry other
      exact Function.update_of_ne (other t found) ..
    · exact fun _ _ => rfl
  · cases closed
    exact ⟨rfl, rfl, rfl, rfl, rfl, rfl, rfl, rfl, fun _ _ => rfl⟩

/-! ## Queues -/

/-- Nobody waits twice, connections wait when their handshake is over, streams wait at their own socket, and closed
sockets have no descriptor. -/
structure Lined (w : World) : Prop where
  finished : ∀ s, ∀ child ∈ w.queue s, child < w.numSockets ∧ (w.directory.socketState child).Finished
  queueNodup : ∀ s, (w.queue s).Nodup
  queueUnique : ∀ s s' child, child ∈ w.queue s → child ∈ w.queue s' → s = s'
  backlogNodup : ∀ s, (w.backlog s).Nodup
  backlogHome : ∀ s, ∀ t ∈ w.backlog s, t < w.numStreams ∧ w.home t = s
  gone : ∀ s, w.Closed s → w.directory.fd (.socket s) < 0

theorem lined_init : Lined {} where
  finished _ _ member := absurd member List.not_mem_nil
  queueNodup _ := .nil
  queueUnique _ _ _ member := absurd member List.not_mem_nil
  backlogNodup _ := .nil
  backlogHome _ _ member := absurd member List.not_mem_nil
  gone _ _ := show (-1 : Int) < 0 by decide

/-- Nobody joins a queue, and the streams stay with their sockets. -/
structure Thins (w w' : World) : Prop where
  queue : ∀ s, (w'.queue s).Sublist (w.queue s)
  backlog : ∀ s, (w'.backlog s).Sublist (w.backlog s)
  home : ∀ t < w.numStreams, w'.home t = w.home t

theorem Thins.of_eq (queue : w'.queue = w.queue) (backlog : w'.backlog = w.backlog) (home : w'.home = w.home) :
    Thins w w' where
  queue _ := queue ▸ .refl _
  backlog _ := backlog ▸ .refl _
  home t _ := congrFun home t

theorem Thins.refl (w : World) : Thins w w := .of_eq rfl rfl rfl

theorem queue_newQuicSocketEntry (w : World) (perspective : Perspective) (id : QuicConnectionId) :
    (w.newQuicSocketEntry perspective id).2.queue = Function.update w.queue w.numSockets [] :=
  funext fun x => Function.apply_update (fun _ => QuicSocketEntry.acceptSockets) w.sockets w.numSockets _ x

theorem thins_newQuicSocketEntry (w : World) (perspective : Perspective) (id : QuicConnectionId) :
    Thins w (w.newQuicSocketEntry perspective id).2 where
  queue s := by
    rw [queue_newQuicSocketEntry]
    exact update_nil_sublist w.queue w.numSockets s
  backlog s := by
    have emptied : (w.newQuicSocketEntry perspective id).2.backlog = Function.update w.backlog w.numSockets [] :=
      funext fun x => Function.apply_update (fun _ => QuicSocketEntry.acceptStreams) w.sockets w.numSockets _ x
    rw [emptied]
    exact update_nil_sublist w.backlog w.numSockets s
  home _ _ := rfl

theorem home_newQuicStream (w : World) (s : SocketId) (streamId : Nat) :
    (w.newQuicStream s streamId).2.home = Function.update w.home w.numStreams s :=
  funext fun x => Function.apply_update (fun _ => QuicStreamEntry.socketEntry) w.streams w.numStreams _ x

theorem thins_createStream (w : World) (s : SocketId) (streamId : Nat) : Thins w (w.createStream s streamId).2 := by
  unfold createStream
  split_ifs
  · exact .refl w
  · refine ⟨fun _ => .refl _, fun _ => .refl _, ?_⟩
    intro t known
    refine (congrFun (w.home_newQuicStream s streamId) t).trans ?_
    exact Function.update_of_ne known.ne ..

/-- A datagram leaves the world as it is, or adds an entry without queues. -/
theorem thins_dispatchDatagram {e : EpollerId} {udp : UdpSocket} {cached : Option SocketId} {id : QuicConnectionId}
    (dispatched : w.dispatchDatagram e udp cached id = .ok w') : Thins w w' := by
  obtain rfl | ⟨owner, -, -, opened⟩ := dispatchDatagram_outcome dispatched
  · exact .refl _
  · generalize noting : (w.modEpoller e fun epoller => { epoller with dispatch := some (udp, some owner) }) = noted
      at opened
    have thins : Thins w (noted.newQuicSocketEntry .isServer id).2 := by
      obtain ⟨queue, backlog, home⟩ := noted.thins_newQuicSocketEntry .isServer id
      subst noting
      exact ⟨queue, backlog, home⟩
    refine ⟨?_, ?_, ?_⟩
    · rw [queueFrame.onSyn opened]
      exact thins.queue
    · rw [backlogFrame.onSyn opened]
      exact thins.backlog
    · rw [homeFrame.onSyn opened]
      exact thins.home

theorem thins_acceptSocket (w : World) (s : SocketId) : Thins w (w.acceptSocket s).2 := by
  unfold acceptSocket
  split_ifs
  · exact .refl w
  · split
    · exact .refl w
    · next child rest waiting =>
      dsimp only
      refine ⟨?_, ?_, fun _ _ => rfl⟩
      · rw [queue_modSocket]
        exact update_rest_sublist waiting
      · rw [backlog_modSocket_kept rfl]
        exact fun _ => .refl _

theorem thins_acceptStream (w : World) (s : SocketId) : Thins w (w.acceptStream s).2 := by
  unfold acceptStream
  split_ifs
  · exact .refl w
  · split
    · exact .refl w
    · next t rest waiting =>
      dsimp only
      refine ⟨?_, ?_, fun _ _ => rfl⟩
      · rw [queue_modSocket]
        intro x
        rw [show Function.update w.queue s (w.sockets s).acceptSockets = w.queue from Function.update_eq_self ..]
      · rw [backlog_modSocket]
        exact update_rest_sublist waiting

/-- A connection whose handshake ends joins the queue of its listener, if it has one. -/
theorem onCryptoHandshakeComplete_lines (completed : w.onCryptoHandshakeComplete s = .ok w') :
    w'.backlog = w.backlog ∧ w'.home = w.home ∧
      (w'.queue = w.queue ∨ w.directory.perspective s = .isServer ∧ w'.directory.socketState s = .connected ∧
        ∃ owner, w'.queue = Function.update w.queue owner (w.queue owner ++ [s])) := by
  obtain ⟨ready, connects, changed, outcome⟩ := onCryptoHandshakeComplete_outcome completed
  have backlog : ready.backlog = w.backlog := by
    rw [← connects, setWritable, backlogFrame.signal, backlogFrame.setSocketState]
  have home : ready.home = w.home := by
    rw [← connects, setWritable, homeFrame.signal, homeFrame.setSocketState]
  have queue : ready.queue = w.queue := congrArg Directory.acceptSockets changed
  obtain ⟨-, rfl⟩ | ⟨server, udp, owner, -, -, rfl⟩ := outcome
  · exact ⟨backlog, home, .inl queue⟩
  · have pushed := ready.directory_pushAcceptQueue owner s
    refine ⟨(ready.backlog_pushAcceptQueue owner s).trans backlog, (ready.home_pushAcceptQueue owner s).trans home,
      .inr ⟨server, ?_, owner, ?_⟩⟩
    · rw [pushed, enqueue, changed]
      exact Function.update_self ..
    · rw [← queue]
      exact congrArg Directory.acceptSockets pushed

theorem onIncomingStream_lines (w : World) (s : SocketId) (streamId : Nat) :
    (w.onIncomingStream s streamId).queue = w.queue ∧
      (w.onIncomingStream s streamId).backlog = Function.update w.backlog s (w.backlog s ++ [w.numStreams]) ∧
      (w.onIncomingStream s streamId).home = Function.update w.home w.numStreams s ∧
      (w.onIncomingStream s streamId).numStreams = w.numStreams + 1 := by
  generalize created : (w.newQuicStream s streamId).2 = after
  have result : w.onIncomingStream s streamId =
      (after.modSocket s fun socket =>
        { socket with acceptStreams := socket.acceptStreams ++ [w.numStreams] }).setReadable (.socket s) true := by
    rw [← created]
    rfl
  have queue : after.queue = w.queue := created ▸ rfl
  have backlog : after.backlog = w.backlog := created ▸ rfl
  have home : after.home = Function.update w.home w.numStreams s := created ▸ w.home_newQuicStream s streamId
  have number : after.directory.numStreams = w.numStreams + 1 := created ▸ rfl
  have directory : (w.onIncomingStream s streamId).directory = after.directory :=
    created ▸ w.directory_onIncomingStream s streamId
  rw [result] at directory ⊢
  refine ⟨?_, ?_, ?_, ?_⟩
  · rw [setReadable, queueFrame.signal, queue_modSocket, ← queue]
    exact Function.update_eq_self ..
  · rw [setReadable, backlogFrame.signal, backlog_modSocket, ← backlog]
    rfl
  · rw [setReadable, homeFrame.signal, ← home]
    rfl
  · exact number ▸ congrArg Directory.numStreams directory

/-- Of the actions that close no socket, only two let somebody join a queue. -/
theorem perform_thins (performed : w.perform action = .ok result)
    (quiet : ∀ sock, action ≠ .closeSocket sock)
    (alive : ∀ s errorCode fromRemote, action ≠ .connectionClosed s errorCode fromRemote)
    (shaken : ∀ s, action ≠ .handshakeComplete s) (arrived : ∀ s streamId, action ≠ .incomingStream s streamId) :
    Thins w result.2 := by
  have yields : Yields (fun _ => True) (fun result => Thins w result.2) (w.perform action) := by
    by_cases plain : action.plain = true
    · exact yields_of_ok fun last outcome => .of_eq (perform_framed queueFrame plain outcome)
        (perform_framed backlogFrame plain outcome) (perform_framed homeFrame plain outcome)
    cases action with
    | createSocket id => exact w.thins_newQuicSocketEntry .isClient id
    | socketAccept sock => exact withSocket_yields (.refl w) fun s _ => w.thins_acceptSocket s
    | streamAccept sock => exact withSocket_yields (.refl w) fun s _ => w.thins_acceptStream s
    | createStream sock streamId => exact withSocket_yields (.refl w) fun s _ => w.thins_createStream s streamId
    | closeStream stream =>
      refine yields_of_ok fun last closed => ?_
      obtain ⟨queue, -, -, -, -, -, backlog, home, -⟩ := quicCloseStream_withdraws closed
      exact .of_eq queue backlog home
    | datagram e id =>
      exact datagram_yields (.refl w) fun _ _ _ _ dispatched => thins_dispatchDatagram dispatched
    | handshakeComplete s => exact (shaken s rfl).elim
    | incomingStream s streamId => exact (arrived s streamId rfl).elim
    | closeSocket sock => exact (quiet sock rfl).elim
    | connectionClosed s errorCode fromRemote => exact (alive s errorCode fromRemote rfl).elim
    | _ => exact (plain rfl).elim
  exact yields.of_ok performed

/-- A close takes connections out of queues and leaves the streams where they are. -/
theorem thins_of_withdraws (withdraws : Withdraws w w') (backlog : w'.backlog = w.backlog) : Thins w w' where
  queue := withdraws.queue
  backlog _ := backlog ▸ .refl _
  home t _ := congrFun withdraws.home t

theorem quicCloseSocket_withdraws (settled : w.Settled) (closed : w.quicCloseSocket sock = .ok result) :
    Withdraws w result.2 ∧ result.2.backlog = w.backlog := by
  have withdraws := (quicCloseSocket_yields (closable_withdraws w (fun _ => True) fun _ _ _ _ => trivial) sock w
    (.refl w) (fun _ _ => trivial) settled).of_ok closed
  have shuts := (quicCloseSocket_yields (closable_shuts (fun _ => True) w) sock w (.refl fun _ _ _ _ => trivial)
    (fun _ _ => trivial) settled).of_ok closed
  exact ⟨withdraws.1, shuts.1.backlog⟩

theorem connectionClosed_withdraws (settled : w.Settled) {errorCode : Int} {fromRemote : Bool}
    (closed : onConnectionClosed close s errorCode fromRemote (w.disconnect s) = .ok w') :
    Withdraws w w' ∧ w'.backlog = w.backlog := by
  have withdraws := (connectionClosed_yields (closable_withdraws w (fun _ => True) fun _ _ _ _ => trivial)
    s errorCode fromRemote w ((Withdraws.refl w).announce s errorCode fromRemote) (fun _ => trivial) settled).of_ok closed
  have shuts := (connectionClosed_yields (closable_shuts (fun _ => True) w) s errorCode fromRemote w
    ((Shuts.refl fun _ _ _ _ => trivial).announce s errorCode fromRemote) (fun _ => trivial) settled).of_ok closed
  exact ⟨withdraws.1, shuts.1.backlog⟩

/-- The close of an open socket whose session was never initialized. -/
theorem quicCloseSocket_crashes (settled : w.Settled) (found : w.fdManager sock = some (.socket s))
    (isOpen : ¬ w.Closed s) (crashes : w.Crashes s) : w.quicCloseSocket sock = .error .nullDereference := by
  rw [quicCloseSocket, withSocket, found]
  dsimp only
  rw [close_of_open settled isOpen, tellWaiters, if_pos crashes]
  rfl

/-- What can stop a close: the sessions in the queue were initialized by `OnSyn`. -/
theorem quicCloseSocket_fault (roles : w.directory.Roles) (settled : w.Settled)
    (found : w.fdManager sock = some (.socket s)) {fault : Fault} (failed : w.quicCloseSocket sock = .error fault) :
    fault = .assertFailed ∨ fault = .nullDereference ∧ w.Crashes s := by
  have closable := closable_withdraws w (fun x => x = s ∨ w.directory.perspective x = .isServer)
    fun x _ child member => .inr (roles.queuedServer x child member)
  have yields := quicCloseSocket_yields closable sock w (.refl w)
    (fun x held => .inl (EntryPtr.socket.inj (Option.some.inj (held.symm.trans found)))) settled
  rw [failed] at yields
  refine yields.imp_right ?_
  rintro ⟨null, x, rfl | server, crashes⟩
  · exact ⟨null, crashes⟩
  · exact absurd (crashes.2.symm.trans (roles.initialized server)) Bool.false_ne_true

/-- What the two actions that close sockets do to the sockets they close, and to all others. -/
theorem perform_shuts (roles : w.directory.Roles) (settled : w.Settled) (lined : w.Lined)
    (closes : (∃ sock, action = .closeSocket sock) ∨
      ∃ s errorCode fromRemote, action = .connectionClosed s errorCode fromRemote)
    (performed : w.perform action = .ok result) :
    Shuts (· ∈ w.closing action) w result.2 ∧ (∀ s ∈ w.closing action, result.2.directory.fd (.socket s) < 0) ∧
      Withdraws w result.2 := by
  have nobody : ∀ named : List SocketId, named = [] →
      (∀ s ∈ named, ∀ child ∈ w.directory.acceptSockets s, child ∈ named) := by
    rintro named rfl s member
    cases member
  rcases closes with ⟨sock, rfl⟩ | ⟨s, errorCode, fromRemote, rfl⟩
  · have withdraws := (quicCloseSocket_withdraws settled performed).1
    by_cases isSocket : ∃ s, w.fdManager sock = some (.socket s)
    · obtain ⟨s, found⟩ := isSocket
      have isOpen : ¬ w.Closed s := by
        intro closed
        have remembered : w.directory.fd (.socket s) = sock := roles.sound.handle_of_holder sock _ found
        have positive := (roles.sound.pos_of_held found).1
        exact absurd (remembered ▸ lined.gone s closed) (not_lt.mpr (Int.le_of_lt positive))
      have target : (· ∈ w.closing (.closeSocket sock)) = fun x => x = s ∨ x ∈ w.directory.acceptSockets s := by
        funext x
        rw [closing, closeReach_of_found found, List.mem_cons]
        rfl
      obtain ⟨shuts, lost⟩ := quicCloseSocket_shuts roles settled found isOpen performed
      rw [target]
      exact ⟨shuts, fun x member => lost x ((congrFun target x).mp member), withdraws⟩
    · have none : w.closing (.closeSocket sock) = [] := by
        refine List.eq_nil_iff_forall_not_mem.mpr fun x member => ?_
        obtain ⟨s, found, -⟩ := mem_closeReach.mp member
        exact isSocket ⟨s, found⟩
      rw [quicCloseSocket_of_not_socket (fun s found => isSocket ⟨s, found⟩) performed, none]
      exact ⟨.refl (nobody [] rfl), fun s member => absurd member List.not_mem_nil, .refl w⟩
  · obtain ⟨last, closed, returned⟩ := bind_eq_ok performed
    cases returned
    refine and_assoc.mp ⟨?_, (connectionClosed_withdraws settled closed).1⟩
    by_cases half : (w.sockets s).socketState ≠ .connected ∧ (w.sockets s).perspective = .isServer
    · have named : w.closing (.connectionClosed s errorCode fromRemote) = [s] := if_pos half
      obtain ⟨shuts, lost⟩ := connectionClosed_shuts roles settled half closed
      rw [named]
      simp only [List.mem_singleton]
      refine ⟨shuts, ?_⟩
      rintro x rfl
      exact lost
    · have none : w.closing (.connectionClosed s errorCode fromRemote) = [] := if_neg half
      rw [onConnectionClosed_announced, if_neg half] at closed
      cases closed
      rw [none]
      exact ⟨(Shuts.refl (nobody [] rfl)).announce s errorCode fromRemote,
        fun s member => absurd member List.not_mem_nil⟩

theorem Lined.thins (lined : w.Lined) (thins : Thins w w')
    (finished : ∀ s < w.numSockets, (w.directory.socketState s).Finished → (w'.directory.socketState s).Finished)
    (numSockets : w.numSockets ≤ w'.numSockets) (numStreams : w.numStreams ≤ w'.numStreams)
    (gone : ∀ s, w'.Closed s → w'.directory.fd (.socket s) < 0) : w'.Lined where
  finished s child member := by
    obtain ⟨known, ended⟩ := lined.finished s child ((thins.queue s).subset member)
    exact ⟨known.trans_le numSockets, finished child known ended⟩
  queueNodup s := (lined.queueNodup s).sublist (thins.queue s)
  queueUnique s s' child first second :=
    lined.queueUnique s s' child ((thins.queue s).subset first) ((thins.queue s').subset second)
  backlogNodup s := (lined.backlogNodup s).sublist (thins.backlog s)
  backlogHome s t member := by
    obtain ⟨known, here⟩ := lined.backlogHome s t ((thins.backlog s).subset member)
    exact ⟨known.trans_le numStreams, (thins.home t known).trans here⟩
  gone := gone

/-- A connection whose handshake has just ended waits nowhere yet. -/
theorem Lined.enqueue (lined : w.Lined) (endures : Endures w.directory w'.directory) {owner child : SocketId}
    (known : child < w.numSockets) (shaking : ¬ (w.directory.socketState child).Finished)
    (finished : (w'.directory.socketState child).Finished)
    (queue : w'.queue = Function.update w.queue owner (w.queue owner ++ [child]))
    (backlog : w'.backlog = w.backlog) (home : w'.home = w.home)
    (gone : ∀ s, w'.Closed s → w'.directory.fd (.socket s) < 0) : w'.Lined := by
  have nowhere : ∀ s, child ∉ w.queue s := fun s member => shaking (lined.finished s child member).2
  have members : ∀ s x, x ∈ w'.queue s → x ∈ w.queue s ∨ x = child ∧ s = owner := by
    intro s x member
    rw [queue] at member
    exact mem_update_append.mp member
  refine ⟨?_, ?_, ?_, ?_, ?_, gone⟩
  · intro s x member
    rcases members s x member with before | ⟨rfl, -⟩
    · obtain ⟨old, ended⟩ := lined.finished s x before
      exact ⟨old.trans_le endures.numSockets, (endures.state x old ended).symm ▸ ended⟩
    · exact ⟨known.trans_le endures.numSockets, finished⟩
  · rw [queue]
    exact nodup_update_append lined.queueNodup nowhere
  · intro s s' x first second
    rcases members s x first with before | ⟨rfl, atOwner⟩ <;> rcases members s' x second with other | ⟨new, atOwner'⟩
    · exact lined.queueUnique s s' x before other
    · exact (nowhere s (new ▸ before)).elim
    · exact (nowhere s' other).elim
    · exact atOwner.trans atOwner'.symm
  · rw [backlog]
    exact lined.backlogNodup
  · intro s t member
    rw [backlog] at member
    obtain ⟨old, here⟩ := lined.backlogHome s t member
    exact ⟨old.trans_le endures.numStreams, home ▸ here⟩

/-- A new stream waits at the socket it belongs to. -/
theorem Lined.arrive (lined : w.Lined) (endures : Endures w.directory w'.directory)
    (number : w'.numStreams = w.numStreams + 1) (queue : w'.queue = w.queue)
    (backlog : w'.backlog = Function.update w.backlog s (w.backlog s ++ [w.numStreams]))
    (home : w'.home = Function.update w.home w.numStreams s)
    (gone : ∀ s, w'.Closed s → w'.directory.fd (.socket s) < 0) : w'.Lined := by
  have nowhere : ∀ x, w.numStreams ∉ w.backlog x := fun x member => (lined.backlogHome x _ member).1.false
  refine ⟨?_, ?_, ?_, ?_, ?_, gone⟩
  · intro x child member
    rw [queue] at member
    obtain ⟨old, ended⟩ := lined.finished x child member
    exact ⟨old.trans_le endures.numSockets, (endures.state child old ended).symm ▸ ended⟩
  · rw [queue]
    exact lined.queueNodup
  · rw [queue]
    exact lined.queueUnique
  · rw [backlog]
    exact nodup_update_append lined.backlogNodup nowhere
  · intro x t member
    rw [backlog] at member
    rcases mem_update_append.mp member with before | ⟨rfl, rfl⟩
    · obtain ⟨old, here⟩ := lined.backlogHome x t before
      rw [number, home, Function.update_of_ne old.ne]
      exact ⟨Nat.lt_succ_of_lt old, here⟩
    · rw [number, home, Function.update_self]
      exact ⟨Nat.lt_succ_self _, rfl⟩

/-- What an action does to the queues: at most one connection or one stream joins them. -/
inductive Lines (w w' : World) : Prop where
  | thin (thins : Thins w w')
  | enqueue (owner child : SocketId) (endures : Endures w.directory w'.directory) (known : child < w.numSockets)
      (shaking : ¬ (w.directory.socketState child).Finished) (server : w.directory.perspective child = .isServer)
      (finished : (w'.directory.socketState child).Finished)
      (queue : w'.queue = Function.update w.queue owner (w.queue owner ++ [child]))
      (backlog : w'.backlog = w.backlog) (home : w'.home = w.home)
  | arrive (s : SocketId) (endures : Endures w.directory w'.directory) (number : w'.numStreams = w.numStreams + 1)
      (queue : w'.queue = w.queue) (backlog : w'.backlog = Function.update w.backlog s (w.backlog s ++ [w.numStreams]))
      (home : w'.home = Function.update w.home w.numStreams s)

/-- The session reports the end of a handshake that is under way. -/
theorem shaking_of_admits (roles : w.directory.Roles) (admitted : w.admits (.handshakeComplete s) = true) :
    s < w.numSockets ∧ ¬ (w.directory.socketState s).Finished := by
  have state : w.directory.socketState s = .connecting ∨ w.directory.socketState s = .shared :=
    of_decide_eq_true (Bool.and_eq_true_iff.mp admitted).2
  refine ⟨?_, ?_⟩
  · by_contra beyond
    rw [(roles.blank s (not_lt.mp beyond)).1] at state
    revert state
    decide
  · rcases state with state | state <;> rw [state] <;> decide

theorem perform_lines (roles : w.directory.Roles) (settled : w.Settled) (lined : w.Lined)
    (admitted : w.admits action = true) (performed : w.perform action = .ok result) : Lines w result.2 := by
  cases action with
  | handshakeComplete s =>
    have endures := perform_endures roles.toTables settled admitted id performed
    obtain ⟨last, completed, returned⟩ := bind_eq_ok performed
    cases returned
    obtain ⟨backlog, home, queue | ⟨server, connected, owner, queue⟩⟩ := onCryptoHandshakeComplete_lines completed
    · exact .thin (.of_eq queue backlog home)
    · obtain ⟨known, shaking⟩ := shaking_of_admits roles admitted
      exact .enqueue owner s endures known shaking server (.inl connected) queue backlog home
  | incomingStream s streamId =>
    have endures := perform_endures roles.toTables settled admitted id performed
    cases performed
    obtain ⟨queue, backlog, home, number⟩ := w.onIncomingStream_lines s streamId
    exact .arrive s endures number queue backlog home
  | closeSocket sock =>
    obtain ⟨shuts, -, withdraws⟩ := perform_shuts roles settled lined (.inl ⟨sock, rfl⟩) performed
    exact .thin (thins_of_withdraws withdraws shuts.backlog)
  | connectionClosed s errorCode fromRemote =>
    obtain ⟨shuts, -, withdraws⟩ := perform_shuts roles settled lined (.inr ⟨s, errorCode, fromRemote, rfl⟩) performed
    exact .thin (thins_of_withdraws withdraws shuts.backlog)
  | _ => exact .thin (perform_thins performed nofun nofun nofun nofun)

/-- What an action does to states and numbers, whatever it closes. -/
theorem perform_finished (roles : w.directory.Roles) (settled : w.Settled) (lined : w.Lined)
    (admitted : w.admits action = true) (performed : w.perform action = .ok result) :
    (∀ s < w.numSockets, (w.directory.socketState s).Finished → (result.2.directory.socketState s).Finished) ∧
      w.numSockets ≤ result.2.numSockets ∧ w.numStreams ≤ result.2.numStreams ∧
      ∀ s, result.2.Closed s → result.2.directory.fd (.socket s) < 0 := by
  by_cases closes : action.Closes
  · rcases closes.sockets_or_stream with sockets | ⟨stream, rfl⟩
    · obtain ⟨shuts, lost, withdraws⟩ := perform_shuts roles settled lined sockets performed
      refine ⟨fun s _ => withdraws.finished s, withdraws.numSockets.ge, withdraws.numStreams.ge, ?_⟩
      intro s closed
      by_cases target : s ∈ w.closing action
      · exact lost s target
      · rw [shuts.fd s target]
        exact lined.gone s ((shuts.state s target).symm.trans closed)
    · obtain ⟨-, state, -, -, numSockets, numStreams, -, -, fd⟩ := quicCloseStream_withdraws performed
      refine ⟨fun s _ finished => state ▸ finished, numSockets.ge, numStreams.ge, ?_⟩
      intro s closed
      rw [fd (.socket s) fun _ _ => nofun]
      exact lined.gone s ((congrFun state s).symm.trans closed)
  · have endures := perform_endures roles.toTables settled admitted closes performed
    refine ⟨fun s known ended => (endures.state s known ended).symm ▸ ended, endures.numSockets, endures.numStreams, ?_⟩
    intro s closed
    obtain ⟨before, kept⟩ := endures.closed s closed
    exact kept ▸ lined.gone s before

theorem perform_lined (roles : w.directory.Roles) (settled : w.Settled) (lined : w.Lined)
    (admitted : w.admits action = true) (performed : w.perform action = .ok result) : result.2.Lined := by
  obtain ⟨finished, numSockets, numStreams, gone⟩ := perform_finished roles settled lined admitted performed
  cases perform_lines roles settled lined admitted performed with
  | thin thins => exact lined.thins thins finished numSockets numStreams gone
  | enqueue owner child endures known shaking _ ended queue backlog home =>
    exact lined.enqueue endures known shaking ended queue backlog home gone
  | arrive s endures number queue backlog home => exact lined.arrive endures number queue backlog home gone

/-- What is known of every state of the library. -/
structure InOrder (w : World) : Prop extends Lined w where
  roles : w.directory.Roles
  settled : w.Settled

theorem inOrder_init : InOrder {} := ⟨lined_init, start_roles, ⟨fun _ _ => rfl, fun _ _ => rfl⟩⟩

theorem InOrder.perform (order : w.InOrder) (admitted : w.admits action = true)
    (performed : w.perform action = .ok result) : result.2.InOrder := by
  obtain ⟨steps, settled⟩ := (perform_refines order.settled admitted).of_ok performed
  exact ⟨perform_lined order.roles order.settled order.toLined admitted performed,
    steps.invariant (fun _ _ holds => holds.step) order.roles, settled⟩

end World

end PosixQuic
