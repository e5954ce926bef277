import PosixQuic.Soundness.StreamCallbacks
import PosixQuic.Soundness.TransferRuns

/-! # What a stream guarantees from end to end

The application at one end writes, the one at the other end reads, and the network between them loses, repeats and
reorders frames. What is read is what was written; nothing is lost on the way; and a sender that waits for nothing more
has delivered all it had.
-/

namespace PosixQuic

open Machine (IntervalSet System)

/-- Reads deliver nothing. -/
theorem StreamEvent.received_filter (events : List StreamEvent) :
    StreamEvent.received (events.filter StreamEvent.isCallback) = StreamEvent.received events := by
  induction events with
  | nil => rfl
  | cons event rest ih =>
    rw [List.filter_cons]
    cases event <;> simp [StreamEvent.received, StreamEvent.isCallback, ih]

namespace Transfer

variable {layout : BufferLayout} {transmission : Transmission} {transfer : Transfer layout} {sendFlags : SendFlags}
  {streamTooLong : Bool} {sendWindowOffset : Nat}

/-- Both packets are sent; the first is lost and sent again in two parts, the second arrives before them. -/
def lossyTransfer : List TransferLabel :=
  [.atSender (.writev 6 true 100 { connectionWindow := 100, plan := { rooms := [4, 4] } }),
    .arrive ⟨4, [14, 15], true⟩ false, .atSender (.onStreamFrameLost ⟨0, [10, 11, 12, 13], false⟩),
    .atSender (.retransmitLostData 100 [{ rooms := [3, 3] }] {}), .arrive ⟨3, [13], false⟩ false,
    .arrive ⟨0, [10, 11, 12], false⟩ false, .atSender (.onStreamFrameAcked ⟨4, [14, 15], true⟩),
    .atSender (.onStreamFrameAcked ⟨0, [10, 11, 12], false⟩), .atSender (.onStreamFrameAcked ⟨3, [13], false⟩)]

/-- Whatever the reads of a stream have copied out, at whatever times and into whatever buffers, is what the application
at the other end has written first. -/
theorem reads_return_what_was_written
    (run : (system layout sendFlags streamTooLong transmission).Reachable (start sendWindowOffset) transfer) (fd : Fd)
    (udpSocket : Option UdpSocket) (socketEntry : SocketId) (streamId : Nat) {events : List StreamEvent}
    (delivered : events.filter StreamEvent.isCallback = transfer.receiver.callbacks) :
    (QuicStreamEntry.new fd udpSocket socketEntry streamId).copiedOut events <+:
      readBytes transmission.content 0 transmission.length := by
  obtain ⟨len, inside, received, -⟩ := (reachable_linked run).receiving.delivered
  have conserved := (QuicStreamEntry.new fd udpSocket socketEntry streamId).handleAll_conserves events
  rw [← StreamEvent.received_filter, delivered, received] at conserved
  have first : readBytes transmission.content 0 len <+: readBytes transmission.content 0 transmission.length := by
    obtain ⟨rest, whole⟩ := Nat.exists_eq_add_of_le inside
    rw [whole, readBytes_add]
    exact List.prefix_append ..
  have copied : (QuicStreamEntry.new fd udpSocket socketEntry streamId).copiedOut events <+:
      readBytes transmission.content 0 len := ⟨_, conserved⟩
  exact copied.trans first

theorem lossy_reads_return_what_was_written :
    ∃ transfer, (system .libquic {} false .sixBytes).replay? (start 100) lossyTransfer = some transfer ∧
      (QuicStreamEntry.new 5 none 1 3).copiedOut
        (.readv [8] :: transfer.receiver.callbacks.take 1 ++ .readv [2, 2] :: transfer.receiver.callbacks.drop 1) =
        [10, 11, 12, 13] ∧ [10, 11, 12, 13] <+: readBytes Transmission.sixBytes.content 0 6 := by
  obtain ⟨transfer, executed, seen⟩ := Option.map_eq_some_iff.mp
    (show ((system .libquic {} false .sixBytes).replay? (start 100) lossyTransfer).map
        (·.receiver.callbacks) =
      some [.onReceived [10, 11, 12, 13, 14, 15], .onFinRead, .onReceived []] by decide +kernel)
  have copied : (QuicStreamEntry.new 5 none 1 3).copiedOut
      (.readv [8] :: transfer.receiver.callbacks.take 1 ++ .readv [2, 2] :: transfer.receiver.callbacks.drop 1) =
      [10, 11, 12, 13] := by
    rw [seen]
    decide +kernel
  refine ⟨transfer, executed, copied, copied ▸ ?_⟩
  refine reads_return_what_was_written (System.reachable_of_replay? executed) 5 none 1 3 ?_
  rw [seen]
  decide

/-! ## Nothing is lost -/

/-- What the sender takes for acknowledged is known to a receiver that still reads. -/
theorem Linked.received (linked : transfer.Linked transmission) (reading : transfer.receiver.readSideClosed = false)
    {x : Nat} (acked : x ∈ transfer.sender.buffer.bytesAcked) : x ∈ transfer.receiver.buffer.bytesReceived := by
  obtain ⟨frame, member, low, high⟩ := linked.acked x acked
  exact (linked.took frame member).1 reading x low high

/-- A byte that has been sent has arrived, or is still in the buffer of the sender and is in flight or marked to be sent
again, with the stream in the session's list, as long as the other end reads and the session holds the sender. -/
theorem no_byte_is_lost
    (run : (system layout sendFlags streamTooLong transmission).Reachable (start sendWindowOffset) transfer)
    (held : transfer.sender.held = true) (reading : transfer.receiver.readSideClosed = false) :
    ∀ x < transfer.sender.buffer.streamBytesWritten,
      x ∈ transfer.receiver.buffer.bytesReceived ∨
        transfer.sender.buffer.writeStreamData x 1 = .ok ([transmission.content x], transfer.sender.buffer) ∧
          (x ∈ transfer.sender.buffer.pendingRetransmissions ∧ transfer.sender.retransmissionListed = true ∨
            ∃ frame ∈ transfer.sender.inFlight, frame.Carries x) := by
  intro x sent
  have linked := reachable_linked run
  rcases Classical.em (x ∈ transfer.sender.buffer.bytesAcked) with acked | unacked
  · exact .inl (linked.received reading acked)
  · have alone : ∀ y, x ≤ y → y < x + 1 → y ∉ transfer.sender.buffer.bytesAcked := by
      intro y low high
      rwa [show y = x by omega]
    have kept := linked.sending.holds.stocked.rewriteStreamData Nat.one_pos sent alone
    refine .inr ⟨kept, ((linked.sending.covered x sent).resolve_left unacked).imp_left fun lost => ⟨lost, ?_⟩⟩
    refine linked.scheduled.listed held (Bool.or_eq_true_iff.mpr (.inl ?_))
    rw [SendBuffer.hasPendingRetransmission, Bool.not_eq_true', ← Bool.not_eq_true, IntervalSet.isEmpty_iff]
    exact fun nothing => nothing x lost

theorem no_byte_is_lost_with_the_first_packet :
    ∃ transfer, (system .libquic {} false .sixBytes).replay? (start 100) (lossyTransfer.take 3) =
        some transfer ∧
      transfer.receiver.readSideClosed = false ∧ transfer.sender.buffer.streamBytesWritten = 6 ∧
      (0 ∈ transfer.receiver.buffer.bytesReceived ∨
        transfer.sender.buffer.writeStreamData 0 1 = .ok ([10], transfer.sender.buffer) ∧
          (0 ∈ transfer.sender.buffer.pendingRetransmissions ∧ transfer.sender.retransmissionListed = true ∨
            ∃ frame ∈ transfer.sender.inFlight, frame.Carries 0)) := by
  obtain ⟨transfer, executed, seen⟩ := Option.map_eq_some_iff.mp
    (show ((system .libquic {} false .sixBytes).replay? (start 100) (lossyTransfer.take 3)).map
        (fun transfer =>
          (transfer.sender.held, transfer.receiver.readSideClosed, transfer.sender.buffer.streamBytesWritten)) =
      some (true, false, 6) by decide +kernel)
  simp only [Prod.mk.injEq] at seen
  obtain ⟨held, reading, written⟩ := seen
  exact ⟨transfer, executed, reading, written,
    no_byte_is_lost (System.reachable_of_replay? executed) held reading 0 (by omega)⟩

/-! ## The end -/

/-- A receiver that still reads has not been acknowledged to the end. -/
theorem Linked.readSideClosed (linked : transfer.Linked transmission) (finSent : transfer.sender.finSent = true)
    (done : transfer.sender.isWaitingForAcks = false) : transfer.receiver.readSideClosed = true := by
  by_contra reading
  rw [Bool.not_eq_true] at reading
  rw [StreamSender.isWaitingForAcks, Bool.or_eq_false_iff, decide_eq_false_iff_not, Nat.not_lt, Nat.le_zero] at done
  obtain ⟨buffered, whole⟩ := linked.sending.finished finSent
  have acked := done.1
  rw [linked.sending.streamBytesOutstanding_eq, Finset.card_eq_zero, Finset.sdiff_eq_empty_iff_subset, whole,
    linked.sending.ended buffered] at acked
  have all : ∀ x < transmission.length, x ∈ transfer.receiver.buffer.bytesReceived := fun x below =>
    linked.received reading (IntervalSet.mem_points.mp (acked (Finset.mem_range.mpr below)))
  obtain ⟨frame, member, fin⟩ := linked.finAcked finSent done.2
  have known := (linked.took frame member).2 fin reading
  have closing := linked.receiving.stored.closing.resolve_left known
  obtain ⟨gap, unfinished⟩ := linked.receiving.idle reading
  have reached := SequencerBuffer.le_firstMissingByte all
  omega

/-- A sender that has sent its FIN and waits for no acknowledgement has delivered the whole stream, and the other end
knows that this was all, as long as its stream is open and it has not stopped reading. A stream that was closed, be it
by itself because its own FIN was sent as well, is left out. -/
theorem acknowledged_stream_is_delivered
    (run : (system layout sendFlags streamTooLong transmission).Reachable (start sendWindowOffset) transfer)
    (finSent : transfer.sender.finSent = true) (done : transfer.sender.isWaitingForAcks = false)
    (opened : transfer.receiver.isOpen = true) (delivering : transfer.receiver.ignoreReadData = false) :
    StreamEvent.received transfer.receiver.callbacks = readBytes transmission.content 0 transmission.length ∧
      .onFinRead ∈ transfer.receiver.callbacks := by
  have linked := reachable_linked run
  have closed := linked.readSideClosed finSent done
  obtain ⟨len, -, received, if_delivering⟩ := linked.receiving.delivered
  have reported : .onFinRead ∈ transfer.receiver.callbacks := by
    obtain ⟨chunks, _, ending, callbacks, -, -, -, ends⟩ := linked.receiving.logged
    rw [StreamReceiver.Ending, if_pos opened, if_pos closed] at ends
    rw [callbacks, (ends.2.2 delivering).1]
    simp
  refine ⟨?_, reported⟩
  rw [received, (if_delivering delivering).2.2 reported]

theorem acknowledged_lossy_stream_is_delivered :
    ∃ transfer, (system .libquic {} false .sixBytes).replay? (start 100) lossyTransfer = some transfer ∧
      transfer.sender.isWaitingForAcks = false ∧
      StreamEvent.received transfer.receiver.callbacks = [10, 11, 12, 13, 14, 15] ∧
      .onFinRead ∈ transfer.receiver.callbacks := by
  obtain ⟨transfer, executed, seen⟩ := Option.map_eq_some_iff.mp
    (show ((system .libquic {} false .sixBytes).replay? (start 100) lossyTransfer).map
        (fun transfer => (transfer.sender.finSent, transfer.sender.isWaitingForAcks, transfer.receiver.isOpen,
          transfer.receiver.ignoreReadData)) =
      some (true, false, true, false) by decide +kernel)
  simp only [Prod.mk.injEq] at seen
  obtain ⟨finSent, done, opened, delivering⟩ := seen
  exact ⟨transfer, executed, done,
    acknowledged_stream_is_delivered (System.reachable_of_replay? executed) finSent done opened delivering⟩

end Transfer

end PosixQuic
