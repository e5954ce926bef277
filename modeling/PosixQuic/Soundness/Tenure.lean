import PosixQuic.Model.Custody
import PosixQuic.Soundness.AcceptQueues

/-! # Who keeps a descriptor

The library takes a descriptor back by itself in two cases only: a connection fails before its handshake is
over, or it waits in the queue of a listener that is closed. An entry that is beyond both, because it was
created or accepted by the application, keeps its descriptor until the application closes it, whatever else
happens.
-/

namespace PosixQuic

namespace World

open Machine Directory

variable {w w' : World} {action : Action} {result : CallResult × World} {entry : EntryPtr} {sock : Fd}

/-- The application has the descriptor, and the library does not close the entry by itself. -/
def Secure (w : World) : EntryPtr → Prop
  | .socket s => 0 ≤ w.directory.fd (.socket s) ∧
    (w.directory.perspective s = .isServer → w.directory.socketState s = .connected) ∧ ∀ x, s ∉ w.queue x
  | .stream t => 0 ≤ w.directory.fd (.stream t) ∧ ∀ x, t ∉ w.backlog x

theorem Secure.nonneg (secure : w.Secure entry) : 0 ≤ w.directory.fd entry := by
  cases entry with
  | socket s => exact secure.1
  | stream t => exact secure.1

theorem InOrder.socket_lt (order : w.InOrder) {s : SocketId} (uses : 0 ≤ w.directory.fd (.socket s)) :
    s < w.numSockets := by
  by_contra beyond
  rw [order.roles.freshSocket s (not_lt.mp beyond)] at uses
  exact absurd uses (by decide)

theorem InOrder.stream_lt (order : w.InOrder) {t : StreamId} (uses : 0 ≤ w.directory.fd (.stream t)) :
    t < w.numStreams := by
  by_contra beyond
  rw [order.roles.freshStream t (not_lt.mp beyond)] at uses
  exact absurd uses (by decide)

/-- The table finds a secure entry under its descriptor. -/
theorem InOrder.lookup (order : w.InOrder) (secure : w.Secure entry) :
    w.fdManager (w.directory.fd entry) = some entry :=
  order.roles.sound.holder_eq_of_nonneg secure.nonneg

/-- Only connections that were shaking hands and new streams join the queues. -/
theorem Lines.joins (lines : Lines w w') :
    (∀ x child, child ∈ w'.queue x → child ∈ w.queue x ∨
      w.directory.perspective child = .isServer ∧ ¬ (w.directory.socketState child).Finished) ∧
    (∀ x t, t ∈ w'.backlog x → t ∈ w.backlog x ∨ t = w.numStreams) ∧ ∀ t < w.numStreams, w'.home t = w.home t := by
  cases lines with
  | thin thins =>
    exact ⟨fun x _ member => .inl ((thins.queue x).subset member),
      fun x _ member => .inl ((thins.backlog x).subset member), thins.home⟩
  | enqueue owner child _ _ shaking server _ queue backlog home =>
    refine ⟨?_, fun x t member => .inl (backlog ▸ member), fun t _ => congrFun home t⟩
    intro x other member
    rw [queue] at member
    rcases mem_update_append.mp member with before | ⟨rfl, -⟩
    · exact .inl before
    · exact .inr ⟨server, shaking⟩
  | arrive s _ _ queue backlog home =>
    refine ⟨fun x child member => .inl (queue ▸ member), ?_, ?_⟩
    · intro x t member
      rw [backlog] at member
      exact (mem_update_append.mp member).imp_right And.left
    · intro t known
      rw [home, Function.update_of_ne known.ne]

/-- A secure socket is not among those that an action closes, unless it is closed itself. -/
theorem Secure.not_closing (order : w.InOrder) {s : SocketId} (secure : w.Secure (.socket s))
    (spares : action.closedFd ≠ some (w.directory.fd (.socket s))) : s ∉ w.closing action := by
  obtain ⟨-, connected, nowhere⟩ := secure
  cases action with
  | closeSocket sock =>
    intro member
    obtain ⟨x, found, rfl | queued⟩ := mem_closeReach.mp member
    · exact spares (congrArg some (order.roles.sound.handle_of_holder sock _ found).symm)
    · exact nowhere x queued
  | connectionClosed x errorCode fromRemote =>
    rw [closing]
    split_ifs with half
    · intro member
      rw [List.mem_singleton] at member
      subst member
      exact half.1 (connected half.2)
    · exact List.not_mem_nil
  | _ => exact List.not_mem_nil

/-- What is left as it is of an entry that an action does not close. -/
theorem perform_spares (order : w.InOrder) (admitted : w.admits action = true)
    (performed : w.perform action = .ok result) (secure : w.Secure entry)
    (spares : action.closedFd ≠ some (w.directory.fd entry)) :
    result.2.directory.fd entry = w.directory.fd entry ∧
      ∀ s, entry = .socket s → result.2.directory.perspective s = w.directory.perspective s ∧
        (w.directory.socketState s = .connected → result.2.directory.socketState s = .connected) := by
  by_cases closes : action.Closes
  · rcases closes.sockets_or_stream with sockets | ⟨stream, rfl⟩
    · obtain ⟨shuts, -, withdraws⟩ := perform_shuts order.roles order.settled order.toLined sockets performed
      cases entry with
      | socket s =>
        have aside := secure.not_closing order spares
        refine ⟨shuts.fd s aside, ?_⟩
        rintro x same
        cases same
        exact ⟨congrFun shuts.perspective s, fun connected => (shuts.state s aside).trans connected⟩
      | stream t => exact ⟨withdraws.fd t, nofun⟩
    · obtain ⟨-, state, perspective, -, -, -, -, -, fd⟩ := quicCloseStream_withdraws performed
      refine ⟨fd entry ?_, fun s _ => ⟨congrFun perspective s, fun connected => (congrFun state s).trans connected⟩⟩
      rintro t found rfl
      have remembered : w.directory.fd (.stream t) = stream := order.roles.sound.handle_of_holder stream _ found
      exact spares (congrArg some remembered.symm)
  · have endures := perform_endures order.roles.toTables order.settled admitted closes performed
    refine ⟨endures.fd entry secure.nonneg, ?_⟩
    rintro s rfl
    have known := order.socket_lt secure.nonneg
    exact ⟨endures.perspective s known, fun connected => (endures.state s known (.inl connected)).trans connected⟩

/-- An entry that only the application closes stays one, whatever else happens. -/
theorem Secure.perform (order : w.InOrder) (admitted : w.admits action = true)
    (performed : w.perform action = .ok result) (secure : w.Secure entry)
    (spares : action.closedFd ≠ some (w.directory.fd entry)) : result.2.Secure entry := by
  obtain ⟨fd, rest⟩ := perform_spares order admitted performed secure spares
  obtain ⟨queue, backlog, -⟩ :=
    (perform_lines order.roles order.settled order.toLined admitted performed).joins
  cases entry with
  | socket s =>
    obtain ⟨perspective, state⟩ := rest s rfl
    obtain ⟨uses, connected, nowhere⟩ := secure
    refine ⟨fd ▸ uses, fun server => state (connected (perspective ▸ server)), ?_⟩
    intro x member
    rcases queue x s member with before | ⟨server, shaking⟩
    · exact nowhere x before
    · exact shaking (.inl (connected server))
  | stream t =>
    obtain ⟨uses, nowhere⟩ := secure
    refine ⟨fd ▸ uses, ?_⟩
    intro x member
    rcases backlog x t member with before | new
    · exact nowhere x before
    · exact (order.stream_lt uses).ne new

theorem perform_home (order : w.InOrder) (admitted : w.admits action = true)
    (performed : w.perform action = .ok result) {t : StreamId} (known : t < w.numStreams) :
    result.2.home t = w.home t :=
  (perform_lines order.roles order.settled order.toLined admitted performed).joins.2.2 t known

/-! ## Calls that hand out descriptors -/

/-- The call returned the descriptor of an entry that nobody had before. -/
structure Gives (w : World) (result : CallResult × World) (entry : EntryPtr) : Prop where
  value : result.1.value = result.2.directory.fd entry
  secure : result.2.Secure entry
  new : ¬ w.Secure entry

theorem fail_value_neg (err : Errno) : (CallResult.fail err).value < 0 := show (-1 : Int) < 0 by decide

/-- A new entry has a descriptor. -/
theorem alloc_nonneg (tables : w.directory.Tables) : 0 ≤ w.fdFactory.alloc.1 := by
  have positive := tables.sound.next_pos
  rw [← alloc_fst] at positive
  exact Int.le_of_lt positive

theorem gives_createSocket (order : w.InOrder) (id : QuicConnectionId)
    (performed : w.perform (.createSocket id) = .ok result) : Gives w result (.socket w.numSockets) := by
  have changed := w.directory_newQuicSocketEntry .isClient id
  have fd : (w.newQuicSocketEntry .isClient id).2.directory.fd (.socket w.numSockets) = w.fdFactory.alloc.1 := by
    rw [changed]
    exact Function.update_self ..
  have client : (w.newQuicSocketEntry .isClient id).2.directory.perspective w.numSockets = .isClient := by
    rw [changed]
    exact Function.update_self ..
  cases performed
  refine ⟨rfl, ⟨?_, ?_, ?_⟩, fun secure => (order.socket_lt secure.nonneg).false⟩
  · exact (alloc_nonneg order.roles.toTables).trans_eq fd.symm
  · intro server
    cases client.symm.trans server
  · intro x member
    have before := ((w.thins_newQuicSocketEntry .isClient id).queue x).subset member
    exact (order.finished x _ before).1.false

theorem gives_createStream (order : w.InOrder) {streamId : Nat}
    (performed : w.perform (.createStream sock streamId) = .ok result) :
    result.1.value < 0 ∨ ∃ s, w.fdManager sock = some (.socket s) ∧ Gives w result (.stream w.numStreams) ∧
      result.2.home w.numStreams = s := by
  have yields : Yields (fun _ => True) (fun result : CallResult × World => result.1.value < 0 ∨
      ∃ s, w.fdManager sock = some (.socket s) ∧ Gives w result (.stream w.numStreams) ∧
        result.2.home w.numStreams = s) (w.perform (.createStream sock streamId)) := by
    refine withSocket_yields (.inl (fail_value_neg _)) fun s found => ?_
    unfold createStream
    split_ifs
    · exact .inl (fail_value_neg _)
    · refine .inr ⟨s, found, ⟨rfl, ⟨?_, ?_⟩, fun secure => (order.stream_lt secure.nonneg).false⟩, ?_⟩
      · dsimp only
        rw [directory_newQuicStream]
        dsimp only
        rw [Function.update_self]
        exact alloc_nonneg order.roles.toTables
      · intro x member
        exact (order.backlogHome x _ member).1.false
      · refine (congrFun (w.home_newQuicStream s streamId) _).trans ?_
        exact Function.update_self ..
  exact yields.of_ok performed

theorem gives_socketAccept (order : w.InOrder) (performed : w.perform (.socketAccept sock) = .ok result) :
    result.1.value < 0 ∨ ∃ child, Gives w result (.socket child) := by
  have yields : Yields (fun _ => True) (fun result : CallResult × World => result.1.value < 0 ∨
      ∃ child, Gives w result (.socket child)) (w.perform (.socketAccept sock)) := by
    refine withSocket_yields (.inl (fail_value_neg _)) fun s _ => ?_
    unfold acceptSocket
    split_ifs
    · exact .inl (fail_value_neg _)
    · split
      · exact .inl (fail_value_neg _)
      · next child rest waiting =>
        have line : w.queue s = child :: rest := waiting
        have changed := w.directory_modAcceptSockets s fun _ => rest
        have queue := w.queue_modSocket s fun socket => { socket with acceptSockets := rest }
        by_cases uses : 0 ≤ w.directory.fd (.socket child)
        · have member : child ∈ w.queue s := line ▸ List.mem_cons_self
          have connected : w.directory.socketState child = .connected :=
            (order.finished s child member).2.resolve_right fun closed => (order.gone child closed).not_ge uses
          refine .inr ⟨child, ?_, ⟨?_, ?_, ?_⟩, fun secure => secure.2.2 s member⟩
          · dsimp only
            rw [changed]
            rfl
          · dsimp only
            rw [changed]
            exact uses
          · intro _
            dsimp only
            rw [changed]
            exact connected
          · intro x remains
            dsimp only at remains
            rw [queue] at remains
            by_cases same : x = s
            · rw [same, Function.update_self] at remains
              have distinct := order.queueNodup s
              rw [line] at distinct
              exact (List.nodup_cons.mp distinct).1 remains
            · rw [Function.update_of_ne same] at remains
              exact same (order.queueUnique x s child remains member)
        · exact .inl (not_le.mp uses)
  exact yields.of_ok performed

theorem gives_streamAccept (order : w.InOrder) (performed : w.perform (.streamAccept sock) = .ok result) :
    result.1.value < 0 ∨ ∃ s t, w.fdManager sock = some (.socket s) ∧ Gives w result (.stream t) ∧
      result.2.home t = s := by
  have yields : Yields (fun _ => True) (fun result : CallResult × World => result.1.value < 0 ∨
      ∃ s t, w.fdManager sock = some (.socket s) ∧ Gives w result (.stream t) ∧ result.2.home t = s)
      (w.perform (.streamAccept sock)) := by
    refine withSocket_yields (.inl (fail_value_neg _)) fun s found => ?_
    unfold acceptStream
    split_ifs
    · exact .inl (fail_value_neg _)
    · split
      · exact .inl (fail_value_neg _)
      · next t rest waiting =>
        have line : w.backlog s = t :: rest := waiting
        have backlog := w.backlog_modSocket s fun socket => { socket with acceptStreams := rest }
        by_cases uses : 0 ≤ w.directory.fd (.stream t)
        · have member : t ∈ w.backlog s := line ▸ List.mem_cons_self
          refine .inr ⟨s, t, found, ⟨rfl, ⟨uses, ?_⟩, fun secure => secure.2 s member⟩, (order.backlogHome s t member).2⟩
          intro x remains
          dsimp only at remains
          rw [backlog] at remains
          by_cases same : x = s
          · rw [same, Function.update_self] at remains
            have distinct := order.backlogNodup s
            rw [line] at distinct
            exact (List.nodup_cons.mp distinct).1 remains
          · rw [Function.update_of_ne same] at remains
            exact same ((order.backlogHome x t remains).2.symm.trans (order.backlogHome s t member).2)
        · exact .inl (not_le.mp uses)
  exact yields.of_ok performed

/-- No secure entry has the number that a call hands out. -/
theorem Gives.fresh (order : w.InOrder) (admitted : w.admits action = true)
    (performed : w.perform action = .ok result) (closes : action.closedFd = none) {given : EntryPtr}
    (gives : Gives w result given) (secure : w.Secure entry) : w.directory.fd entry ≠ result.1.value := by
  intro same
  have spares : action.closedFd ≠ some (w.directory.fd entry) := by
    rw [closes]
    exact nofun
  have kept := (perform_spares order admitted performed secure spares).1
  have holder : entry = given := by
    refine (order.perform admitted performed).roles.sound.owner_unique ?_ ((kept.trans same).trans gives.value)
    exact (secure.perform order admitted performed spares).nonneg
  exact gives.new (holder ▸ secure)

end World

end PosixQuic
