import PosixQuic.Model.StreamSender
import PosixQuic.Soundness.Acknowledgement

/-! # What the packets of a stream carry

One `WritevData` of the session cuts a stretch of the stream into frames. Whether the stretch is new or has been sent
before only changes what the send buffer does meanwhile; the frames carry the bytes of the stretch in both cases.
-/

namespace PosixQuic

open Machine (IntervalSet)

/-- The frame carries the byte at the offset. -/
def StreamFrame.Carries (frame : StreamFrame) (x : Nat) : Prop :=
  frame.offset ≤ x ∧ x < frame.offset + frame.data.length

/-- The connection takes a write of this length as a whole, in packets of whatever sizes, and a FIN with it. -/
def PacketPlan.Takes (plan : PacketPlan) (length : Nat) : Prop :=
  plan.finAlone = true ∧ (∀ room ∈ plan.rooms, 0 < room) ∧ length ≤ plan.rooms.sum

theorem PacketPlan.Takes.mono {plan : PacketPlan} {length shorter : Nat} (takes : plan.Takes length)
    (le : shorter ≤ length) : plan.Takes shorter :=
  ⟨takes.1, takes.2.1, le.trans takes.2.2⟩

namespace StreamSender

/-- The frames carry the bytes from `start` to `stop`, and the FIN if there is one. -/
structure Cuts (content : Nat → UInt8) (start stop : Nat) (fin : Bool) (frames : List StreamFrame) : Prop where
  data : ∀ frame ∈ frames, frame.data = readBytes content frame.offset frame.data.length
  inside : ∀ frame ∈ frames, start ≤ frame.offset ∧ frame.offset + frame.data.length ≤ stop
  carried : ∀ x, start ≤ x → x < stop → ∃ frame ∈ frames, frame.Carries x
  ended : ∀ frame ∈ frames, frame.fin = true → fin = true ∧ frame.offset + frame.data.length = stop
  finished : fin = true → ∃ frame ∈ frames, frame.fin = true

variable {content : Nat → UInt8}

theorem cuts_nil (content : Nat → UInt8) (start : Nat) : Cuts content start start false [] where
  data := by simp
  inside := by simp
  carried x from_start below := by omega
  ended := by simp
  finished := by simp

theorem Cuts.cons {start size stop : Nat} {fin last : Bool} {rest : List StreamFrame}
    (cuts : Cuts content (start + size) stop fin rest) (reach : start + size ≤ stop)
    (closing : last = true → start + size = stop) :
    Cuts content start stop (last || fin) (⟨start, readBytes content start size, last⟩ :: rest) where
  data frame member := by
    rcases List.mem_cons.mp member with rfl | behind
    · simp
    · exact cuts.data frame behind
  inside frame member := by
    rcases List.mem_cons.mp member with rfl | behind
    · simpa using reach
    · have inside := cuts.inside frame behind
      omega
  carried x from_start below := by
    rcases Nat.lt_or_ge x (start + size) with first | later
    · exact ⟨_, List.mem_cons_self .., from_start, by simpa using first⟩
    · obtain ⟨frame, member, carries⟩ := cuts.carried x later below
      exact ⟨frame, List.mem_cons_of_mem _ member, carries⟩
  ended frame member ends := by
    rcases List.mem_cons.mp member with rfl | behind
    · have ends : last = true := ends
      exact ⟨by rw [ends, Bool.true_or], by simpa using closing ends⟩
    · obtain ⟨isFin, stops⟩ := cuts.ended frame behind ends
      exact ⟨by rw [isFin, Bool.or_true], stops⟩
  finished isFin := by
    rcases Bool.or_eq_true_iff.mp isFin with first | later
    · exact ⟨_, List.mem_cons_self .., first⟩
    · obtain ⟨frame, member, ends⟩ := cuts.finished later
      exact ⟨frame, List.mem_cons_of_mem _ member, ends⟩

/-- The loop of the packet generator, for a buffer that can write any piece of the stretch. -/
theorem serialize_spec {P : Nat → SendBuffer → Prop} {limit : Nat}
    (writes : ∀ offset size buffer, P offset buffer → 0 < size → offset + size ≤ limit →
      ∃ after, buffer.writeStreamData offset size = .ok (readBytes content offset size, after) ∧ P (offset + size) after)
    (fin : Bool) {rooms : List Nat} {buffer : SendBuffer} {offset left : Nat} (ready : P offset buffer)
    (inside : offset + left ≤ limit) :
    ∃ n frames after, serialize fin buffer offset left rooms = .ok ⟨n, frames, after⟩ ∧ n ≤ left ∧ P (offset + n) after ∧
      Cuts content offset (offset + n) (fin && (0 < left && n = left)) frames ∧
      ((∀ room ∈ rooms, 0 < room) → left ≤ rooms.sum → n = left) := by
  induction rooms generalizing buffer offset left with
  | nil =>
    refine ⟨0, [], buffer, rfl, Nat.zero_le _, ready, ?_, fun _ enough => (Nat.le_zero.mp enough).symm⟩
    have unfinished : (fin && (0 < left && 0 = left)) = false := by cases left <;> simp
    rw [unfinished]
    exact cuts_nil content offset
  | cons room rest ih =>
    rcases Nat.eq_zero_or_pos (min room left) with nothing | some_room
    · refine ⟨0, [], buffer, by rw [serialize, if_pos nothing], Nat.zero_le _, ready, ?_, fun positive _ => ?_⟩
      · have unfinished : (fin && (0 < left && 0 = left)) = false := by cases left <;> simp
        rw [unfinished]
        exact cuts_nil content offset
      · have some_room := positive room List.mem_cons_self
        omega
    · obtain ⟨size, size_eq⟩ : ∃ size, min room left = size := ⟨_, rfl⟩
      rw [size_eq] at some_room
      have fits : size ≤ left := size_eq ▸ Nat.min_le_right room left
      obtain ⟨written, wrote, ready'⟩ := writes offset size buffer ready some_room (by omega)
      obtain ⟨n, frames, after, later, bound, ready'', cuts, all⟩ := ih ready'
        (show offset + size + (left - size) ≤ limit by omega)
      refine ⟨size + n, ⟨offset, readBytes content offset size, fin && size = left⟩ :: frames, after, ?_, by omega,
        by rw [← Nat.add_assoc]; exact ready'', ?_, fun positive enough => ?_⟩
      · simp only [serialize, size_eq, if_neg (Nat.pos_iff_ne_zero.mp some_room), wrote, later, bind, Except.bind, pure,
          Except.pure]
      · have isFin : (fin && (0 < left && size + n = left)) =
            ((fin && size = left) || (fin && (0 < left - size && n = left - size))) := by
          rw [← Bool.and_or_distrib_left]
          congr 1
          rw [Bool.eq_iff_iff]
          simp only [Bool.and_eq_true, Bool.or_eq_true, decide_eq_true_eq]
          omega
        rw [isFin, ← Nat.add_assoc]
        apply cuts.cons (by omega)
        intro closing
        rw [Bool.and_eq_true, decide_eq_true_eq] at closing
        omega
      · rw [List.sum_cons] at enough
        have rest_eq := all (fun other member => positive other (List.mem_cons_of_mem _ member)) (by omega)
        omega

theorem writevDataInner_spec {P : Nat → SendBuffer → Prop} {limit : Nat}
    (writes : ∀ offset size buffer, P offset buffer → 0 < size → offset + size ≤ limit →
      ∃ after, buffer.writeStreamData offset size = .ok (readBytes content offset size, after) ∧ P (offset + size) after)
    {sender : StreamSender} {offset writeLength : Nat} (ready : P offset sender.buffer)
    (inside : offset + writeLength ≤ limit) (fin : Bool) (plan : PacketPlan) :
    ∃ n finConsumed frames buffer, sender.writevDataInner writeLength offset fin plan =
        .ok (⟨n, finConsumed⟩, { sender with buffer }.transmit frames) ∧
      n ≤ writeLength ∧ P (offset + n) buffer ∧ Cuts content offset (offset + n) finConsumed frames ∧
      (finConsumed = true → fin = true ∧ n = writeLength) ∧
      (plan.Takes writeLength → n = writeLength ∧ finConsumed = fin) := by
  rw [writevDataInner]
  split_ifs with nothing alone
  · rw [Bool.and_eq_true] at alone
    refine ⟨0, true, [⟨offset, [], true⟩], sender.buffer, rfl, Nat.zero_le _, ready, ?_, fun _ => ⟨alone.1, nothing.symm⟩,
      fun _ => ⟨nothing.symm, alone.1.symm⟩⟩
    exact @Cuts.cons content offset 0 offset false true [] (cuts_nil content offset) le_rfl fun _ => rfl
  · refine ⟨0, false, [], sender.buffer, ?_, Nat.zero_le _, ready, cuts_nil content offset, by simp, fun takes => ?_⟩
    · simp [transmit]
    · rw [takes.1, Bool.and_true, Bool.not_eq_true] at alone
      exact ⟨nothing.symm, alone.symm⟩
  · obtain ⟨n, frames, after, serialized, bound, ready', cuts, all⟩ :=
      @serialize_spec _ _ _ writes fin plan.rooms _ _ _ ready inside
    have some_data : (0 < writeLength && decide (n = writeLength)) = decide (n = writeLength) := by
      rw [decide_eq_true (Nat.pos_of_ne_zero nothing), Bool.true_and]
    rw [some_data] at cuts
    refine ⟨n, fin && n = writeLength, frames, after, by rw [serialized]; rfl, bound, ready', cuts, fun consumed => ?_,
      fun takes => ?_⟩
    · rw [Bool.and_eq_true, decide_eq_true_eq] at consumed
      exact consumed
    · have whole := all takes.2.1 takes.2.2
      exact ⟨whole, by rw [decide_eq_true whole, Bool.and_true]⟩

/-- New data moves the write index. -/
theorem writevDataInner_new {sender : StreamSender} {serialized writeLength : Nat}
    (stocked : sender.buffer.Stocked content serialized) (inside : serialized + writeLength ≤ sender.buffer.streamOffset)
    (fin : Bool) (plan : PacketPlan) :
    ∃ n finConsumed frames writeIndex, sender.writevDataInner writeLength serialized fin plan =
        .ok (⟨n, finConsumed⟩, { sender with buffer := { sender.buffer with writeIndex } }.transmit frames) ∧
      n ≤ writeLength ∧ SendBuffer.Stocked content (serialized + n) { sender.buffer with writeIndex } ∧
      Cuts content serialized (serialized + n) finConsumed frames ∧
      (finConsumed = true → fin = true ∧ n = writeLength) := by
  obtain ⟨n, finConsumed, frames, buffer, result, bound, ⟨⟨writeIndex, rfl⟩, stocked'⟩, cuts, last, -⟩ :=
    @writevDataInner_spec content (fun offset buffer => (∃ writeIndex, buffer = { sender.buffer with writeIndex }) ∧
        buffer.Stocked content offset) sender.buffer.streamOffset
      (fun offset size buffer ⟨⟨writeIndex, same⟩, stocked⟩ some_data inside => by
        subst same
        obtain ⟨writeIndex', wrote, stocked'⟩ := stocked.writeStreamData some_data inside
        exact ⟨_, wrote, ⟨writeIndex', rfl⟩, stocked'⟩)
      sender serialized writeLength ⟨⟨sender.buffer.writeIndex, rfl⟩, stocked⟩ inside fin plan
  exact ⟨n, finConsumed, frames, writeIndex, result, bound, stocked', cuts, last⟩

/-- Data that has been sent before leaves the buffer as it is. -/
theorem writevDataInner_old {sender : StreamSender} {serialized offset writeLength : Nat}
    (stocked : sender.buffer.Stocked content serialized) (before : offset + writeLength ≤ serialized)
    (unacked : ∀ x, offset ≤ x → x < offset + writeLength → x ∉ sender.buffer.bytesAcked) (fin : Bool) (plan : PacketPlan) :
    ∃ n finConsumed frames, sender.writevDataInner writeLength offset fin plan =
        .ok (⟨n, finConsumed⟩, sender.transmit frames) ∧
      n ≤ writeLength ∧ Cuts content offset (offset + n) finConsumed frames ∧
      (finConsumed = true → fin = true ∧ n = writeLength) ∧
      (plan.Takes writeLength → n = writeLength ∧ finConsumed = fin) := by
  obtain ⟨n, finConsumed, frames, buffer, result, bound, ⟨rfl, -⟩, rest⟩ :=
    @writevDataInner_spec content (fun start buffer => buffer = sender.buffer ∧ offset ≤ start) (offset + writeLength)
      (fun start size buffer ⟨same, from_start⟩ some_data inside => by
        subst same
        exact ⟨_, stocked.rewriteStreamData some_data (by omega)
          (fun x low high => unacked x (by omega) (by omega)), rfl, by omega⟩)
      sender offset writeLength ⟨rfl, le_rfl⟩ le_rfl fin plan
  exact ⟨n, finConsumed, frames, result, bound, rest⟩

end StreamSender

end PosixQuic
