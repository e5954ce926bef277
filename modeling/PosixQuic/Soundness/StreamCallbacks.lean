import PosixQuic.Soundness.StreamDelivery
import PosixQuic.Soundness.StreamReads

/-! # Runs of the receiving half of a stream

The peer may cut its stream into frames as it likes, send them in any order and more than once; the application may stop
reading, and the stream or its connection may be closed at any point. What follows holds after every such run.
-/

namespace PosixQuic

open Machine (IntervalSet System)

theorem StreamEvent.received_append (first second : List StreamEvent) :
    StreamEvent.received (first ++ second) = StreamEvent.received first ++ StreamEvent.received second := by
  induction first with
  | nil => rfl
  | cons event rest ih => cases event <;> simp [StreamEvent.received, ih]

theorem StreamEvent.received_chunks (chunks : List (List UInt8)) :
    StreamEvent.received (chunks.map .onReceived) = chunks.flatten := by
  induction chunks with
  | nil => rfl
  | cons chunk rest ih => simp [StreamEvent.received, ih]

namespace StreamReceiver

variable {layout : BufferLayout} {streamTooLong : Bool} {transmission : Transmission} {stream : StreamReceiver layout}
  {ending : List StreamEvent}

/-- The tail of six bytes overtakes the rest; the last frame closes the gap and repeats what has come before. -/
def overtakingFrames : List ReceiverLabel :=
  [.onStreamFrame ⟨3, [13, 14, 15], true⟩ false, .onStreamFrame ⟨0, [10, 11], false⟩ false,
    .onStreamFrame ⟨1, [11, 12, 13], false⟩ false]

/-! ## Every call returns -/

/-- No call looks for a block that is not there or loops for ever, and none leaves readable bytes behind. -/
theorem every_call_returns (run : (system layout streamTooLong transmission).Reachable {} stream) {label : ReceiverLabel}
    (admitted : (system layout streamTooLong transmission).guard stream label) :
    ∃ after, (system layout streamTooLong transmission).step stream label = .ok after ∧
      (after.readSideClosed = false → after.buffer.readableBytes = 0) := by
  obtain ⟨after, result, sound, -⟩ := (reachable_sound run).step admitted streamTooLong
  refine ⟨after, result, fun reading => ?_⟩
  have idle := (sound.idle reading).1
  unfold SequencerBuffer.readableBytes
  omega

theorem last_frame_returns :
    ∃ stream, (system .libquic false .sixBytes).replay? {} (overtakingFrames.take 2) = some stream ∧
      ∃ after, (system .libquic false .sixBytes).step stream (.onStreamFrame ⟨1, [11, 12, 13], false⟩ false) = .ok after ∧
        (after.readSideClosed = false → after.buffer.readableBytes = 0) := by
  obtain ⟨stream, executed, opened⟩ := Option.map_eq_some_iff.mp
    (show ((system .libquic false .sixBytes).replay? {} (overtakingFrames.take 2)).map (·.isOpen) = some true by
      decide +kernel)
  exact ⟨stream, executed, every_call_returns (System.reachable_of_replay? executed) ⟨opened, by decide⟩⟩

/-! ## The callbacks -/

/-- What stands behind the data delivers no data. -/
theorem received_ending (possible : ending ∈ [] :: openEndings ++ closedEndings) :
    StreamEvent.received ending = [] := by
  have all : ∀ ending ∈ [] :: openEndings ++ closedEndings, StreamEvent.received ending = [] := by decide
  exact all ending possible

theorem filter_isCallback_chunks (chunks : List (List UInt8)) :
    (chunks.map StreamEvent.onReceived).filter StreamEvent.isCallback = chunks.map .onReceived := by
  simp [StreamEvent.isCallback]

/-- While nobody has called `SHUT_RD`, one of five ends stands behind the data. -/
theorem Ending.of_delivering {len : Nat} (ends : Ending transmission stream len ending) (agree : stream.SidesAgree)
    (delivering : stream.ignoreReadData = false) :
    ending ∈ [[], [.onFinRead, .onReceived []], [.onClose], [.onFinRead, .onReceived [], .onClose],
        [.onClose, .onFinRead, .onReceived []]] ∧
      (.onFinRead ∈ ending → len = transmission.length) ∧
      (stream.readSideClosed = false → len = stream.buffer.totalBytesRead) := by
  rw [Ending] at ends
  split_ifs at ends with opened closed
  · obtain ⟨rfl, whole⟩ := ends.2.2 delivering
    exact ⟨by simp, fun _ => whole, fun reading => absurd (reading.symm.trans closed) Bool.false_ne_true⟩
  · obtain ⟨rfl, whole⟩ := ends
    exact ⟨by simp, by simp, fun _ => whole delivering⟩
  · have closed : ¬ stream.readSideClosed = false := by
      rw [SidesAgree, Bool.eq_false_iff.mpr opened, eq_comm, Bool.not_eq_false', Bool.and_eq_true] at agree
      simp [agree.1]
    rcases ends.2 delivering with rfl | ⟨whole, rfl | rfl⟩
    · exact ⟨by simp, by simp, fun reading => absurd reading closed⟩
    · exact ⟨by simp, fun _ => whole, fun reading => absurd reading closed⟩
    · exact ⟨by simp, fun _ => whole, fun reading => absurd reading closed⟩

theorem Ending.possible {len : Nat} (ends : Ending transmission stream len ending) :
    ending ∈ [] :: openEndings ++ closedEndings := by
  rw [Ending] at ends
  split_ifs at ends with opened closed
  · exact List.mem_append_left _ (List.mem_cons_of_mem _ ends.1)
  · exact ends.1 ▸ List.mem_append_left _ (List.mem_cons_self ..)
  · exact List.mem_append_right _ ends.1

/-- The callbacks of a sound stream deliver a first part of the peer's stream: all of it before the end is reported. -/
theorem Sound.delivered (sound : stream.Sound transmission) :
    ∃ len ≤ transmission.length, StreamEvent.received stream.callbacks = readBytes transmission.content 0 len ∧
      (stream.ignoreReadData = false →
        StreamEvent.LibquicOrder stream.callbacks ∧
          (stream.readSideClosed = false → len = stream.buffer.firstMissingByte) ∧
          (.onFinRead ∈ stream.callbacks → len = transmission.length)) := by
  obtain ⟨chunks, len, ending, callbacks, -, data, inside, ends⟩ := sound.logged
  refine ⟨len, inside, ?_, fun delivering => ?_⟩
  · rw [callbacks, StreamEvent.received_append, StreamEvent.received_chunks, received_ending ends.possible, data,
      List.append_nil]
  · obtain ⟨five, finished, read⟩ := ends.of_delivering sound.agree delivering
    refine ⟨⟨chunks, ending, ?_, ?_⟩, fun reading => ?_, fun reported => finished ?_⟩
    · rw [callbacks, List.filter_append, filter_isCallback_chunks]
      congr 1
      fin_cases five <;> rfl
    · fin_cases five <;> decide
    · rw [read reading, (sound.idle reading).1]
    · rw [callbacks, List.mem_append] at reported
      exact reported.resolve_left (by simp)

/-- However the peer's stream is cut, reordered and repeated on the way, the callbacks deliver its bytes from the start
and in order. Unless the application has called `SHUT_RD`, they deliver all that has arrived before the first gap, keep
libquic's order, and report the end of the stream only behind its last byte. -/
theorem callbacks_deliver_the_stream (run : (system layout streamTooLong transmission).Reachable {} stream) :
    ∃ len ≤ transmission.length, StreamEvent.received stream.callbacks = readBytes transmission.content 0 len ∧
      (stream.ignoreReadData = false →
        StreamEvent.LibquicOrder stream.callbacks ∧
          (stream.readSideClosed = false → len = stream.buffer.firstMissingByte) ∧
          (.onFinRead ∈ stream.callbacks → len = transmission.length)) :=
  (reachable_sound run).delivered

theorem callbacks_deliver_an_overtaken_stream :
    ∃ stream, (system .libquic false .sixBytes).replay? {} overtakingFrames = some stream ∧
      stream.callbacks = [.onReceived [10, 11], .onReceived [12, 13, 14, 15], .onFinRead, .onReceived []] ∧
      StreamEvent.LibquicOrder stream.callbacks := by
  obtain ⟨stream, executed, seen⟩ := Option.map_eq_some_iff.mp
    (show ((system .libquic false .sixBytes).replay? {} overtakingFrames).map
        (fun stream => (stream.callbacks, stream.ignoreReadData)) =
      some ([.onReceived [10, 11], .onReceived [12, 13, 14, 15], .onFinRead, .onReceived []], false) by decide +kernel)
  obtain ⟨callbacks, delivering⟩ := Prod.mk.inj seen
  obtain ⟨len, -, -, kept⟩ := callbacks_deliver_the_stream (System.reachable_of_replay? executed)
  exact ⟨stream, executed, callbacks, (kept delivering).1⟩

/-! ## The buffer -/

/-- A block is allocated exactly as long as it holds a byte that has not been read, every such byte stands in its block,
and the count of buffered bytes is their number. -/
theorem blocks_hold_the_unread_bytes (run : (system layout streamTooLong transmission).Reachable {} stream) :
    stream.buffer.numBytesBuffered =
        (stream.buffer.bytesReceived.points.filter (stream.buffer.totalBytesRead ≤ ·)).card ∧
      (∀ x ∈ stream.buffer.bytesReceived, stream.buffer.totalBytesRead ≤ x →
        stream.buffer.lookup x = some (transmission.content x)) ∧
      ∀ k, (stream.buffer.blocks k).isSome = true ↔
        ∃ x ∈ stream.buffer.bytesReceived, stream.buffer.totalBytesRead ≤ x ∧ layout.getBlockIndex x = k := by
  have holds := (reachable_sound run).stored.holds
  refine ⟨?_, holds.stored, fun k => ⟨holds.allocated k, ?_⟩⟩
  · have read : stream.buffer.bytesReceived.points.filter (¬ stream.buffer.totalBytesRead ≤ ·) =
        Finset.range stream.buffer.totalBytesRead := by
      ext x
      simp only [Finset.mem_filter, IntervalSet.mem_points, not_le, Finset.mem_range]
      exact ⟨And.right, fun below => ⟨holds.read x below, below⟩⟩
    have split := Finset.card_filter_add_card_filter_not (s := stream.buffer.bytesReceived.points)
      (stream.buffer.totalBytesRead ≤ ·)
    rw [read, Finset.card_range, IntervalSet.card_points] at split
    have counted := holds.counted
    omega
  · rintro ⟨x, arrived, unread, rfl⟩
    have found := holds.stored x arrived unread
    rw [SequencerBuffer.lookup, Option.map_eq_some_iff] at found
    obtain ⟨block, present, -⟩ := found
    rw [present]
    rfl

theorem blocks_hold_the_overtaking_bytes :
    ∃ stream, (system .libquic false .sixBytes).replay? {} (overtakingFrames.take 2) = some stream ∧
      stream.buffer.numBytesBuffered = 3 ∧
      (stream.buffer.bytesReceived.points.filter (stream.buffer.totalBytesRead ≤ ·)).card = 3 := by
  obtain ⟨stream, executed, seen⟩ := Option.map_eq_some_iff.mp
    (show ((system .libquic false .sixBytes).replay? {} (overtakingFrames.take 2)).map (·.buffer.numBytesBuffered) =
      some 3 by decide +kernel)
  have counted := (blocks_hold_the_unread_bytes (System.reachable_of_replay? executed)).1
  exact ⟨stream, executed, seen, counted.symm.trans seen⟩

end StreamReceiver

end PosixQuic
