import PosixQuic.Soundness.SendSlices

/-! # What a send buffer knows of its peer

The counters and the two sets of a send buffer: what has been written and not acknowledged is outstanding, and what is
to be sent again is a part of that. Acknowledgements and losses of data that was sent keep this, in whichever order
they come.
-/

namespace PosixQuic

open Machine (IntervalSet)

namespace SendBuffer

variable {content : Nat → UInt8} {buffer : SendBuffer} {offset len x : Nat}

/-- A buffer between two events. -/
structure Holds (content : Nat → UInt8) (buffer : SendBuffer) : Prop where
  stocked : buffer.Stocked content buffer.streamBytesWritten
  counted : buffer.streamBytesOutstanding + buffer.bytesAcked.count = buffer.streamBytesWritten
  pending : ∀ x ∈ buffer.pendingRetransmissions, x < buffer.streamBytesWritten ∧ x ∉ buffer.bytesAcked

theorem mem_newlyAcked :
    x ∈ buffer.newlyAcked offset len ↔ (offset ≤ x ∧ x < offset + len) ∧ x ∉ buffer.bytesAcked := by
  simp [newlyAcked]

/-! ## Acknowledgements -/

/-- The count of acknowledged bytes grows by what is new. -/
theorem count_add_bytesAcked (buffer : SendBuffer) (offset len : Nat) :
    (buffer.bytesAcked.add offset (offset + len)).count =
      buffer.bytesAcked.count + (buffer.newlyAcked offset len).count := by
  apply IntervalSet.count_of_disjoint
  · intro x
    rw [mem_newlyAcked, IntervalSet.mem_add]
    by_cases old : x ∈ buffer.bytesAcked <;> simp [old]
  · exact fun x old new => (mem_newlyAcked.mp new).2 old

/-- A frame that was sent is acknowledged: its bytes no longer wait for anything. -/
theorem Holds.onStreamDataAcked (holds : buffer.Holds content) (sent : offset + len ≤ buffer.streamBytesWritten) :
    ∃ newly after, buffer.onStreamDataAcked offset len = some (newly, after) ∧ after.Holds content ∧
      (∀ x, x ∈ after.bytesAcked ↔ x ∈ buffer.bytesAcked ∨ offset ≤ x ∧ x < offset + len) ∧
      (∀ x, x ∈ after.pendingRetransmissions ↔
        x ∈ buffer.pendingRetransmissions ∧ ¬ (offset ≤ x ∧ x < offset + len)) ∧
      after.streamOffset = buffer.streamOffset ∧ after.streamBytesWritten = buffer.streamBytesWritten := by
  rw [SendBuffer.onStreamDataAcked]
  split_ifs with nothing
  · refine ⟨0, buffer, rfl, holds, fun x => ⟨.inl, ?_⟩, fun x => ⟨fun there => ⟨there, by omega⟩, And.left⟩, rfl, rfl⟩
    exact fun either => either.elim id fun inside => by omega
  have inside : ∀ x ∈ buffer.bytesAcked.add offset (offset + len), x < buffer.streamBytesWritten := by
    intro x there
    rcases IntervalSet.mem_add.mp there with old | new
    · exact holds.stocked.acked x old
    · omega
  have total := buffer.count_add_bytesAcked offset len
  have bound := IntervalSet.count_le inside
  have counted := holds.counted
  obtain ⟨base, gone, tiles⟩ := holds.stocked.tiled
  dsimp only
  rw [if_neg (by omega)]
  refine ⟨_, _, rfl, ⟨?_, ?_, fun x there => ?_⟩, fun x => IntervalSet.mem_add, fun x => IntervalSet.mem_subtract, rfl, rfl⟩
  · apply Stocked.popAcked
    exact ⟨⟨base, fun x below => IntervalSet.mem_add.mpr (.inl (gone x below)), tiles⟩, inside, holds.stocked.indexed⟩
  · show buffer.streamBytesOutstanding - _ + (buffer.bytesAcked.add offset (offset + len)).count =
      buffer.streamBytesWritten
    omega
  · obtain ⟨there, outside⟩ := IntervalSet.mem_subtract.mp there
    refine ⟨(holds.pending x there).1, fun acked => ?_⟩
    exact (IntervalSet.mem_add.mp acked).elim (holds.pending x there).2 outside

/-! ## Losses -/

theorem mem_onStreamDataLost :
    x ∈ (buffer.onStreamDataLost offset len).pendingRetransmissions ↔
      x ∈ buffer.pendingRetransmissions ∨ (offset ≤ x ∧ x < offset + len) ∧ x ∉ buffer.bytesAcked := by
  rw [onStreamDataLost]
  split_ifs with nothing
  · subst nothing
    exact ⟨.inl, fun either => either.elim id fun inside => by omega⟩
  · exact IntervalSet.mem_foldl_add.trans (or_congr_right mem_newlyAcked)

theorem onStreamDataLost_eq (buffer : SendBuffer) (offset len : Nat) :
    ∃ pendingRetransmissions, buffer.onStreamDataLost offset len = { buffer with pendingRetransmissions } := by
  rw [onStreamDataLost]
  split_ifs with nothing
  · exact ⟨_, rfl⟩
  · exact ⟨_, rfl⟩

/-- A frame that was sent is lost: what has not been acknowledged of it is to be sent again. -/
theorem Holds.onStreamDataLost (holds : buffer.Holds content) (sent : offset + len ≤ buffer.streamBytesWritten) :
    (buffer.onStreamDataLost offset len).Holds content := by
  have pending : ∀ x ∈ (buffer.onStreamDataLost offset len).pendingRetransmissions,
      x < buffer.streamBytesWritten ∧ x ∉ buffer.bytesAcked := by
    intro x there
    rcases mem_onStreamDataLost.mp there with old | ⟨inside, unacked⟩
    · exact holds.pending x old
    · exact ⟨by omega, unacked⟩
  obtain ⟨pendingRetransmissions, same⟩ := buffer.onStreamDataLost_eq offset len
  rw [same] at pending ⊢
  exact ⟨{ holds.stocked with }, holds.counted, pending⟩

theorem mem_onStreamDataRetransmitted :
    x ∈ (buffer.onStreamDataRetransmitted offset len).pendingRetransmissions ↔
      x ∈ buffer.pendingRetransmissions ∧ ¬ (offset ≤ x ∧ x < offset + len) := by
  rw [onStreamDataRetransmitted]
  split_ifs with nothing
  · subst nothing
    exact ⟨fun there => ⟨there, by omega⟩, And.left⟩
  · exact IntervalSet.mem_subtract

theorem onStreamDataRetransmitted_eq (buffer : SendBuffer) (offset len : Nat) :
    ∃ pendingRetransmissions, buffer.onStreamDataRetransmitted offset len = { buffer with pendingRetransmissions } := by
  rw [onStreamDataRetransmitted]
  split_ifs with nothing
  · exact ⟨_, rfl⟩
  · exact ⟨_, rfl⟩

theorem Holds.onStreamDataRetransmitted (holds : buffer.Holds content) (offset len : Nat) :
    (buffer.onStreamDataRetransmitted offset len).Holds content := by
  have pending : ∀ x ∈ (buffer.onStreamDataRetransmitted offset len).pendingRetransmissions,
      x < buffer.streamBytesWritten ∧ x ∉ buffer.bytesAcked :=
    fun x there => holds.pending x (mem_onStreamDataRetransmitted.mp there).1
  obtain ⟨pendingRetransmissions, same⟩ := buffer.onStreamDataRetransmitted_eq offset len
  rw [same] at pending ⊢
  exact ⟨{ holds.stocked with }, holds.counted, pending⟩

end SendBuffer

end PosixQuic
