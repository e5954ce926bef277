import PosixQuic.Model.Transfer
import PosixQuic.Soundness.SenderRuns
import PosixQuic.Soundness.StreamDelivery

/-! # What both ends of a stream know of each other

The invariants of the two halves, and the link between them: what the sender takes for acknowledged has arrived, and
what has arrived is known to the receiver as long as it reads.
-/

namespace PosixQuic

namespace Transfer

variable {layout : BufferLayout} {transmission : Transmission} {transfer : Transfer layout}

structure Linked (transmission : Transmission) (transfer : Transfer layout) : Prop where
  sending : transfer.sender.Sound transmission
  scheduled : transfer.sender.Scheduled
  receiving : transfer.receiver.Sound transmission
  arrived : ∀ frame ∈ transfer.arrived, frame ∈ transfer.sender.sent
  took : ∀ frame ∈ transfer.arrived, StreamReceiver.Took frame transfer.receiver
  acked : ∀ x ∈ transfer.sender.buffer.bytesAcked, ∃ frame ∈ transfer.arrived, frame.Carries x
  finAcked : transfer.sender.finSent = true → transfer.sender.finOutstanding = false →
    ∃ frame ∈ transfer.arrived, frame.fin = true

/-- A step of the sender that takes no acknowledgement in. -/
theorem Linked.of_quiet (linked : transfer.Linked transmission) {after : StreamSender}
    (sending : after.Sound transmission) (scheduled : after.Scheduled) (quiet : StreamSender.Quiet transfer.sender after) :
    Linked transmission { transfer with sender := after } where
  sending := sending
  scheduled := scheduled
  receiving := linked.receiving
  arrived frame member := quiet.sent.subset (linked.arrived frame member)
  took := linked.took
  acked x there := linked.acked x (quiet.bytesAcked ▸ there)
  finAcked finSent acked := (quiet.finAcked finSent acked).elim linked.finAcked

/-- An acknowledgement of something that has arrived. -/
theorem Linked.onStreamFrameAcked (linked : transfer.Linked transmission) {frame : StreamFrame}
    (held : transfer.sender.held = true) (there : frame ∈ transfer.arrived) :
    ∃ after, transfer.sender.onStreamFrameAcked frame = .ok after ∧
      Linked transmission { transfer with sender := after } := by
  obtain ⟨after, result, sending, scheduled, acked, sent, finSent, outstanding⟩ :=
    linked.sending.onStreamFrameAcked linked.scheduled held (linked.arrived frame there)
  refine ⟨after, result, sending, scheduled, linked.receiving, fun other member => ?_, linked.took, fun x known => ?_,
    fun isSent done => ?_⟩
  · show other ∈ after.sent
    rw [sent]
    exact linked.arrived other member
  · rcases (acked x).mp known with old | carries
    · exact linked.acked x old
    · exact ⟨frame, there, carries⟩
  · have isSent : after.finSent = true := isSent
    have done : after.finOutstanding = false := done
    rw [outstanding, Bool.and_eq_false_iff, Bool.not_eq_false'] at done
    rcases done with before | fin
    · exact linked.finAcked (finSent ▸ isSent) before
    · exact ⟨frame, there, fin⟩

/-- A step of the receiver that keeps what it has. -/
theorem Linked.of_grows (linked : transfer.Linked transmission) {after : StreamReceiver layout}
    (receiving : after.Sound transmission) (grows : StreamReceiver.Grows transfer.receiver after) :
    Linked transmission { transfer with receiver := after } :=
  ⟨linked.sending, linked.scheduled, receiving, linked.arrived, fun frame member => (linked.took frame member).grows grows,
    linked.acked, linked.finAcked⟩

/-- A frame arrives, for a stream that may be closed by now. -/
theorem Linked.arrive (linked : transfer.Linked transmission) (streamTooLong : Bool) {frame : StreamFrame}
    (sent : frame ∈ transfer.sender.sent) (violation : Bool) :
    ∃ after, transfer.arrive streamTooLong frame violation = .ok after ∧ after.Linked transmission := by
  have noted : ∀ after : StreamReceiver layout, after.Sound transmission → StreamReceiver.Grows transfer.receiver after →
      StreamReceiver.Took frame after →
      Linked transmission { transfer with receiver := after, arrived := transfer.arrived ++ [frame] } := by
    intro after receiving grows took
    refine ⟨linked.sending, linked.scheduled, receiving, fun other member => ?_, fun other member => ?_,
      fun x known => ?_, fun finSent done => ?_⟩
    · rcases List.mem_append.mp member with old | new
      · exact linked.arrived other old
      · exact List.mem_singleton.mp new ▸ sent
    · rcases List.mem_append.mp member with old | new
      · exact (linked.took other old).grows grows
      · exact List.mem_singleton.mp new ▸ took
    · obtain ⟨other, member, carries⟩ := linked.acked x known
      exact ⟨other, List.mem_append_left _ member, carries⟩
    · obtain ⟨other, member, fin⟩ := linked.finAcked finSent done
      exact ⟨other, List.mem_append_left _ member, fin⟩
  rw [Transfer.arrive]
  split_ifs with opened
  · obtain ⟨after, result, receiving, grows, took⟩ :=
      linked.receiving.onStreamFrame opened (linked.sending.frames frame sent).1 streamTooLong violation
    rw [result]
    exact ⟨_, rfl, noted after receiving grows took⟩
  · have closed : transfer.receiver.readSideClosed = true := by
      have agree := linked.receiving.agree
      rw [StreamReceiver.SidesAgree, Bool.eq_false_iff.mpr opened, eq_comm, Bool.not_eq_false', Bool.and_eq_true] at agree
      exact agree.1
    exact ⟨_, rfl, noted _ linked.receiving (.of_readSideClosed closed) (.of_readSideClosed closed)⟩

/-- Every admitted step is carried out and keeps the two ends linked. -/
theorem Linked.step (linked : transfer.Linked transmission) {label : TransferLabel}
    (admitted : transfer.admits transmission label) (sendFlags : SendFlags) (streamTooLong : Bool) :
    ∃ after, transfer.step sendFlags streamTooLong transmission label = .ok after ∧ after.Linked transmission := by
  have of_continues : ∀ {label}, StreamSender.Continues transmission transfer.sender
        (transfer.sender.step sendFlags transmission label) →
      ∃ after, transfer.step sendFlags streamTooLong transmission (.atSender label) = .ok after ∧
        after.Linked transmission := by
    rintro label ⟨after, result, sending, scheduled, quiet⟩
    refine ⟨_, ?_, linked.of_quiet sending scheduled quiet⟩
    rw [Transfer.step, result]
    rfl
  have of_receiver : ∀ {label}, transfer.receiver.admits transmission label →
      ∃ after, transfer.step sendFlags streamTooLong transmission (.atReceiver label) = .ok after ∧
        after.Linked transmission := by
    intro label admitted
    obtain ⟨after, result, receiving, grows⟩ := linked.receiving.step admitted streamTooLong
    refine ⟨_, ?_, linked.of_grows receiving grows⟩
    rw [Transfer.step, result]
    rfl
  cases label with
  | atSender label =>
    have held : transfer.sender.held = true := by
      cases label with
      | onStreamFrameAcked frame => exact admitted.1
      | _ => exact StreamSender.held_of_finds admitted.1
    cases label with
    | writev => exact of_continues (linked.sending.writev linked.scheduled held sendFlags admitted.2)
    | finishWriting => exact of_continues (linked.sending.finishWriting linked.scheduled held admitted.2)
    | takeTurn => exact of_continues (linked.sending.takeTurn linked.scheduled held admitted.2)
    | retransmitLostData threshold plans call =>
      exact of_continues (linked.sending.retransmitLostData linked.scheduled admitted.2.1 plans call)
    | onStreamFrameAcked frame =>
      obtain ⟨after, result, linked'⟩ := linked.onStreamFrameAcked held admitted.2
      refine ⟨_, ?_, linked'⟩
      rw [Transfer.step, StreamSender.step, result]
      rfl
    | onStreamFrameLost => exact of_continues (linked.sending.onStreamFrameLost linked.scheduled admitted.2)
    | retransmitStreamData frame plans =>
      exact of_continues (linked.sending.retransmitStreamData linked.scheduled held admitted.2 plans)
    | onWindowUpdate offset => exact of_continues (linked.sending.onWindowUpdate linked.scheduled offset)
    | closeStream => exact of_continues (linked.sending.closeStream linked.scheduled held)
  | arrive frame violation =>
    obtain ⟨after, result, linked'⟩ := linked.arrive streamTooLong admitted violation
    exact ⟨after, by rw [Transfer.step, result]; rfl, linked'⟩
  | atReceiver label =>
    cases label with
    | onStreamFrame => exact absurd admitted id
    | onStreamReset | onFinSent | stopReading | closeStream | reset | closeConnection => exact of_receiver admitted

theorem start_linked (transmission : Transmission) (sendWindowOffset : Nat) :
    (start sendWindowOffset : Transfer layout).Linked transmission where
  sending := (StreamSender.start_sound transmission sendWindowOffset).1
  scheduled := (StreamSender.start_sound transmission sendWindowOffset).2
  receiving := StreamReceiver.start_sound transmission
  arrived := by simp [start]
  took := by simp [start]
  acked := by simp [start]
  finAcked := by simp [start]

theorem reachable_linked {sendFlags : SendFlags} {streamTooLong : Bool} {sendWindowOffset : Nat}
    (run : (system layout sendFlags streamTooLong transmission).Reachable (start sendWindowOffset) transfer) :
    transfer.Linked transmission := by
  apply run.invariant (start_linked transmission sendWindowOffset)
  intro before label after linked admitted stepped
  obtain ⟨after', result, linked'⟩ := linked.step admitted sendFlags streamTooLong
  rw [Except.ok.inj (stepped.symm.trans result)]
  exact linked'

end Transfer

end PosixQuic
