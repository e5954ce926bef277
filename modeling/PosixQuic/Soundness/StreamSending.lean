import PosixQuic.Soundness.SenderRuns

/-! # What the sending half of a stream guarantees

For every order of writes, turns, acknowledgements, losses and window updates, and for every way in which the
connection fills its packets.
-/

namespace PosixQuic

open Machine (IntervalSet System)

namespace StreamSender

variable {transmission : Transmission} {sender : StreamSender} {flags : SendFlags} {sendWindowOffset : Nat}

/-- The first packet takes four of six bytes. It is lost, three of its bytes are sent again and acknowledged. -/
def lossyRun : List SenderLabel :=
  [.writev 6 true 100 { connectionWindow := 100, plan := { rooms := [4] } },
    .onStreamFrameLost ⟨0, [10, 11, 12, 13], false⟩, .retransmitLostData 100 [{ rooms := [3] }] {},
    .onStreamFrameAcked ⟨0, [10, 11, 12], false⟩]

/-! ## The data -/

/-- No call of the stream gives the connection a reason to close: the data of a frame is always found, no
acknowledgement is taken for one of unsent data, and the window of the peer is respected. Every frame that was ever put
into a packet carries the bytes that the application wrote at its place. -/
theorem sending_never_fails (run : (system flags transmission).Reachable { sendWindowOffset } sender)
    {label : SenderLabel} (admitted : (system flags transmission).guard sender label) :
    ∃ after, (system flags transmission).step sender label = .ok after ∧
      after.buffer.streamBytesWritten ≤ after.sendWindowOffset ∧ ∀ frame ∈ after.sent, transmission.Sends frame := by
  obtain ⟨sound, scheduled⟩ := reachable_sound run
  obtain ⟨after, result, sound', -⟩ := sound.step scheduled admitted flags
  exact ⟨after, result, sound'.window, fun frame sent => (sound'.frames frame sent).1⟩

theorem acknowledging_a_resent_frame_never_fails :
    ∃ sender, (system {} .sixBytes).replay? { sendWindowOffset := 100 } (lossyRun.take 3) = some sender ∧
      ∃ after, (system {} .sixBytes).step sender (.onStreamFrameAcked ⟨0, [10, 11, 12], false⟩) = .ok after ∧
        after.buffer.streamBytesWritten ≤ after.sendWindowOffset ∧ ∀ frame ∈ after.sent, Transmission.sixBytes.Sends frame := by
  obtain ⟨sender, executed, seen⟩ := Option.map_eq_some_iff.mp
    (show ((system {} .sixBytes).replay? { sendWindowOffset := 100 } (lossyRun.take 3)).map
        (fun sender => (sender.held, sender.sent)) =
      some (true, [⟨0, [10, 11, 12, 13], false⟩, ⟨0, [10, 11, 12], false⟩]) by decide +kernel)
  obtain ⟨held, sent⟩ := Prod.mk.inj seen
  refine ⟨sender, executed, sending_never_fails (System.reachable_of_replay? executed) ⟨held, ?_⟩⟩
  show _ ∈ sender.sent
  rw [sent]
  decide

/-- A byte that has been written and not acknowledged is counted as outstanding, can still be serialized from the
buffer, and is in flight or marked to be sent again. -/
theorem unacknowledged_data_is_kept (run : (system flags transmission).Reachable { sendWindowOffset } sender) :
    sender.buffer.streamBytesOutstanding =
        (Finset.range sender.buffer.streamBytesWritten \ sender.buffer.bytesAcked.points).card ∧
      (∀ offset len, 0 < len → offset + len ≤ sender.buffer.streamBytesWritten →
        (∀ x, offset ≤ x → x < offset + len → x ∉ sender.buffer.bytesAcked) →
        sender.buffer.writeStreamData offset len = .ok (readBytes transmission.content offset len, sender.buffer)) ∧
      ∀ x < sender.buffer.streamBytesWritten, x ∉ sender.buffer.bytesAcked →
        x ∈ sender.buffer.pendingRetransmissions ∨ ∃ frame ∈ sender.inFlight, frame.Carries x := by
  obtain ⟨sound, -⟩ := reachable_sound run
  have stocked := sound.holds.stocked
  exact ⟨sound.streamBytesOutstanding_eq,
    fun offset len some_data before unacked => stocked.rewriteStreamData some_data before unacked,
    fun x below unacked => (sound.covered x below).resolve_left unacked⟩

theorem the_last_lost_byte_is_kept :
    ∃ sender, (system {} .sixBytes).replay? { sendWindowOffset := 100 } lossyRun = some sender ∧
      sender.buffer.bytesAcked.intervals = [⟨0, 3⟩] ∧
      sender.buffer.writeStreamData 3 1 = .ok ([13], sender.buffer) := by
  obtain ⟨sender, executed, seen⟩ := Option.map_eq_some_iff.mp
    (show ((system {} .sixBytes).replay? { sendWindowOffset := 100 } lossyRun).map
        (fun sender => (sender.buffer.streamBytesWritten, sender.buffer.bytesAcked.intervals)) =
      some (4, [⟨0, 3⟩]) by decide +kernel)
  simp only [Prod.mk.injEq] at seen
  obtain ⟨written, acked⟩ := seen
  obtain ⟨-, kept, -⟩ := unacknowledged_data_is_kept (System.reachable_of_replay? executed)
  refine ⟨sender, executed, acked, kept 3 1 (by decide) (by omega) fun x low high there => ?_⟩
  rw [IntervalSet.mem_def, acked] at there
  obtain ⟨interval, member, -, below⟩ := there
  rw [List.mem_singleton] at member
  subst member
  exact absurd (low.trans_lt below) (by decide)

/-! ## The turns -/

/-- Nothing that is still to be sent is forgotten: lost data of a stream that the session holds is in its list, and
unsent data or an unsent FIN waits for a turn to write or for the peer to move the window of the stream. -/
theorem unsent_data_has_a_turn (run : (system flags transmission).Reachable { sendWindowOffset } sender) :
    (sender.held = true → sender.hasPendingRetransmission = true → sender.retransmissionListed = true) ∧
      (sender.writeSideClosed = false →
        sender.hasBufferedData = true ∨ sender.finBuffered = true ∧ sender.finSent = false →
        sender.writeBlocked = true ∨ sender.sendWindowSize = 0) := by
  obtain ⟨-, scheduled⟩ := reachable_sound run
  exact ⟨scheduled.listed, fun opened unsent => scheduled.queued ⟨opened, unsent⟩⟩

theorem the_last_two_bytes_have_a_turn :
    ∃ sender, (system {} .sixBytes).replay? { sendWindowOffset := 100 } lossyRun = some sender ∧
      sender.retransmissionListed = true ∧ (sender.writeBlocked = true ∨ sender.sendWindowSize = 0) := by
  obtain ⟨sender, executed, seen⟩ := Option.map_eq_some_iff.mp
    (show ((system {} .sixBytes).replay? { sendWindowOffset := 100 } lossyRun).map
        (fun sender => (sender.held, sender.hasPendingRetransmission, sender.writeSideClosed, sender.hasBufferedData)) =
      some (true, true, false, true) by decide +kernel)
  simp only [Prod.mk.injEq] at seen
  obtain ⟨held, lost, opened, buffered⟩ := seen
  obtain ⟨listed, queued⟩ := unsent_data_has_a_turn (System.reachable_of_replay? executed)
  exact ⟨sender, executed, listed held lost, queued opened (.inl buffered)⟩

/-- A turn for lost data comes to its end. If the connection takes every stretch it is given, the stream leaves the
session's list, and whatever was written and not acknowledged is in flight. -/
theorem lost_data_is_sent_again (run : (system flags transmission).Reachable { sendWindowOffset } sender)
    {threshold : Nat} {plans : List PacketPlan} {call : WriteCall}
    (admitted : (system flags transmission).guard sender (.retransmitLostData threshold plans call))
    (clears : sender.Clears plans) :
    ∃ after, (system flags transmission).step sender (.retransmitLostData threshold plans call) = .ok after ∧
      after.retransmissionListed = false ∧
      ∀ x < after.buffer.streamBytesWritten, x ∉ after.buffer.bytesAcked → ∃ frame ∈ after.inFlight, frame.Carries x := by
  obtain ⟨sound, scheduled⟩ := reachable_sound run
  obtain ⟨after, result, sound', -, -, -, ends⟩ := sound.onCanWrite scheduled admitted.2.1 plans call
  have nothingLost := ends clears
  refine ⟨_, congrArg (Except.map _) result, nothingLost, fun x below unacked => ?_⟩
  refine ((sound'.covered x below).resolve_left unacked).resolve_left fun there => ?_
  rw [hasPendingRetransmission, Bool.or_eq_false_iff, SendBuffer.hasPendingRetransmission, Bool.not_eq_false',
    IntervalSet.isEmpty_iff] at nothingLost
  exact nothingLost.1 x there

theorem the_lost_packet_is_sent_again :
    ∃ sender, (system {} .sixBytes).replay? { sendWindowOffset := 100 } (lossyRun.take 2) = some sender ∧
      sender.losses = 1 ∧ ∃ after, (system {} .sixBytes).step sender
          (.retransmitLostData 100 [{ rooms := [3, 1], finAlone := true }] {}) = .ok after ∧
        after.retransmissionListed = false := by
  obtain ⟨sender, executed, seen⟩ := Option.map_eq_some_iff.mp
    (show ((system {} .sixBytes).replay? { sendWindowOffset := 100 } (lossyRun.take 2)).map
        (fun sender => (sender.held, sender.retransmissionListed, sender.buffer.streamBytesWritten, sender.losses)) =
      some (true, true, 4, 1) by decide +kernel)
  simp only [Prod.mk.injEq] at seen
  obtain ⟨held, listed, written, lost⟩ := seen
  have clears : sender.Clears [{ rooms := [3, 1], finAlone := true }] := by
    simp [Clears, PacketPlan.Takes, written, lost]
  obtain ⟨after, result, unlisted, -⟩ :=
    lost_data_is_sent_again (System.reachable_of_replay? executed) ⟨held, Nat.succ_pos 99, listed⟩ clears
  exact ⟨sender, executed, lost, after, result, unlisted⟩

/-- An application whose write was turned away is not left waiting. As long as it may still write, there is data whose
turn is to come, and a turn with some window left calls the application back unless the buffer is still full. -/
theorem refused_writer_is_called_back (run : (system flags transmission).Reachable { sendWindowOffset } sender) :
    (sender.refused = true → sender.writeSideClosed = false → sender.finBuffered = false →
      sender.hasBufferedData = true ∧ (sender.writeBlocked = true ∨ sender.sendWindowSize = 0)) ∧
    ∀ threshold plans call, (system flags transmission).guard sender (.takeTurn threshold plans call) →
      sender.sendWindowSize ≠ 0 →
      ∃ after, (system flags transmission).step sender (.takeTurn threshold plans call) = .ok after ∧
        (after.refused = true → after.writeSideClosed = false → after.finBuffered = false →
          after.canWriteNewData threshold = false) := by
  obtain ⟨sound, scheduled⟩ := reachable_sound run
  refine ⟨fun refused opened taking => ?_, fun threshold plans call admitted some_window => ?_⟩
  · have buffered := scheduled.waiting refused opened taking
    exact ⟨buffered, scheduled.queued ⟨opened, .inl buffered⟩⟩
  · obtain ⟨found, -, -, unlisted⟩ := admitted
    have nothingLost := scheduled.nothingLost (held_of_finds found) unlisted
    obtain ⟨after, result, -, -, full, -⟩ :=
      (sound.writeBlocked false).onCanWrite_new nothingLost threshold plans call
    refine ⟨after, ?_, full⟩
    show sender.takeTurn threshold plans call = .ok after
    rw [takeTurn, if_neg some_window, result]

/-- Three bytes that no packet takes fill a buffer of two, so that the next three are turned away. -/
def refusedRun : List SenderLabel := [.writev 3 false 2 { connectionWindow := 100 }, .writev 3 false 2 {}]

theorem refused_bytes_are_called_back :
    ∃ sender, (system {} .sixBytes).replay? { sendWindowOffset := 100 } refusedRun = some sender ∧
      sender.refused = true ∧ (sender.writeBlocked = true ∨ sender.sendWindowSize = 0) := by
  obtain ⟨sender, executed, seen⟩ := Option.map_eq_some_iff.mp
    (show ((system {} .sixBytes).replay? { sendWindowOffset := 100 } refusedRun).map
        (fun sender => (sender.refused, sender.writeSideClosed, sender.finBuffered)) =
      some (true, false, false) by decide +kernel)
  simp only [Prod.mk.injEq] at seen
  obtain ⟨refused, opened, taking⟩ := seen
  obtain ⟨waits, -⟩ := refused_writer_is_called_back (System.reachable_of_replay? executed)
  exact ⟨sender, executed, refused, (waits refused opened taking).2⟩

end StreamSender

end PosixQuic
