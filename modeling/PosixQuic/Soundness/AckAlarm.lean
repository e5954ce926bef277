import PosixQuic.Soundness.AckTimeout

/-! # The alarm behind the acknowledgement timeout

The alarm is moved only when it fires, never when a packet is sent or acknowledged. Its deadline was computed
when the visitor was in another state, but always from a time that had already passed, and a packet sent later
can only be due later.
-/

namespace PosixQuic

namespace QuicConnectionVisitor

theorem setNoAckAlarm_deadline (visitor : QuicConnectionVisitor) {secs : Int} (now : Int) (positive : 0 < secs)
    (small : secs < 2 ^ 31) : (visitor.setNoAckAlarm secs now).noAckAlarm.deadline =
      (if visitor.lastSendTime > visitor.lastAckTime then visitor.lastSendTime else now) + secs * 1000000 := by
  have kept : Int.bmod secs (2 ^ 32) = secs := Int.bmod_eq_of_le (by omega) (by omega)
  have nonzero : secs * 1000000 ≠ 0 := by omega
  simp only [setNoAckAlarm, kept, fromSeconds_of_small positive (by omega : secs * 1000000 < 2 ^ 63),
    if_neg nonzero, QuicAlarm.update]

/-- An alarm that does not close the connection is set again. -/
theorem checkForNoAckTimeout_rearms (visitor : QuicConnectionVisitor) {secs : Int} (now : Int)
    (positive : 0 < secs) (small : secs < 2 ^ 31)
    (stays : (visitor.checkForNoAckTimeout secs now).1.isSome = false) :
    (visitor.checkForNoAckTimeout secs now).2 = visitor.setNoAckAlarm secs now := by
  have nonzero : secs * 1000000 ≠ 0 := by omega
  simp only [checkForNoAckTimeout, fromSeconds_of_small positive (by omega : secs * 1000000 < 2 ^ 63),
    if_neg nonzero] at stays ⊢
  split_ifs at stays ⊢ with closes
  · contradiction
  · rfl

end QuicConnectionVisitor

namespace AckRun

/-- The times of a visitor are readings of a clock that counts up from zero. -/
structure Timed (r : AckRun) : Prop where
  started : 0 ≤ r.clock
  ackNonneg : 0 ≤ r.visitor.lastAckTime
  sendPast : r.visitor.lastSendTime ≤ r.clock

theorem reachable_timed {secs : Int} {r : AckRun} (run : (system secs).Reachable {} r) : r.Timed := by
  apply run.invariant (P := Timed)
  · exact ⟨le_rfl, le_rfl, le_rfl⟩
  · rintro before ⟨now, call⟩ after timed later ⟨⟩
    have nonneg : 0 ≤ now := timed.started.trans later
    have past : before.visitor.lastSendTime ≤ now := timed.sendPast.trans later
    cases call with
    | onPacketSent packet transmissionType =>
      change Timed ⟨if _ then _ else _, _, _, _⟩
      split_ifs
      · exact ⟨nonneg, timed.ackNonneg, le_rfl⟩
      · exact ⟨nonneg, timed.ackNonneg, past⟩
    | onAckFrame => exact ⟨nonneg, nonneg, past⟩
    | checkForNoAckTimeout =>
      obtain ⟨ack, send⟩ := before.visitor.checkForNoAckTimeout_times secs now
      exact ⟨nonneg, ack.symm ▸ timed.ackNonneg, send.symm ▸ past⟩
    | setNoAckAlarm =>
      obtain ⟨ack, send⟩ := before.visitor.setNoAckAlarm_times secs now
      exact ⟨nonneg, ack.symm ▸ timed.ackNonneg, send.symm ▸ past⟩
    | cancelNoAckAlarm => exact ⟨nonneg, timed.ackNonneg, past⟩

end AckRun

namespace AlarmRun

/-- The alarm is set, and early enough for the packet that is waiting, or for one that is sent from now on. -/
structure InTime (secs : Int) (r : AlarmRun) : Prop where
  isSet : 0 < r.visitor.noAckAlarm.deadline
  waiting : r.visitor.Waiting → r.visitor.noAckAlarm.deadline ≤ r.visitor.lastSendTime + secs * 1000000
  resting : r.visitor.noAckAlarm.deadline ≤ r.clock + secs * 1000000

/-- What a run keeps: the times are clock readings, and the alarm is in time until the timeout closes. -/
structure Guarded (secs : Int) (r : AlarmRun) : Prop where
  started : 0 ≤ r.clock
  ackNonneg : 0 ≤ r.visitor.lastAckTime
  sendPast : r.visitor.lastSendTime ≤ r.clock
  inTime : r.closed = false → r.InTime secs

variable {secs : Int} {r : AlarmRun} {now : QuicTime}

/-- `SetNoAckAlarm` puts the alarm in time whatever it was before. -/
theorem inTime_of_setNoAckAlarm (positive : 0 < secs) (small : secs < 2 ^ 31) {visitor : QuicConnectionVisitor}
    (started : 0 ≤ now) (ackNonneg : 0 ≤ visitor.lastAckTime) (sendPast : visitor.lastSendTime ≤ now) (closed : Bool) :
    InTime secs ⟨visitor.setNoAckAlarm secs now, now, closed⟩ := by
  obtain ⟨ack, send⟩ := visitor.setNoAckAlarm_times secs now
  have deadline := visitor.setNoAckAlarm_deadline now positive small
  constructor
  · dsimp only
    rw [deadline]
    split_ifs with waits
    · have sentAt : 0 < visitor.lastSendTime := ackNonneg.trans_lt waits
      linarith
    · linarith
  · intro waits
    have before : visitor.lastSendTime > visitor.lastAckTime := by
      simpa only [QuicConnectionVisitor.Waiting, ack, send] using waits
    dsimp only
    rw [deadline, if_pos before, send]
  · dsimp only
    rw [deadline]
    split_ifs
    · linarith
    · exact le_rfl

theorem start_guarded (positive : 0 < secs) (small : secs < 2 ^ 31) {secs' : Int} {before : AckRun}
    (history : (AckRun.system secs').Reachable {} before) (later : before.clock ≤ now) :
    (start before.visitor secs now).Guarded secs := by
  have timed := AckRun.reachable_timed history
  obtain ⟨ack, send⟩ := before.visitor.setNoAckAlarm_times secs now
  have started : 0 ≤ now := timed.started.trans later
  have past : before.visitor.lastSendTime ≤ now := timed.sendPast.trans later
  exact ⟨started, ack.symm ▸ timed.ackNonneg, send.symm ▸ past,
    fun _ => inTime_of_setNoAckAlarm positive small started timed.ackNonneg past false⟩

theorem Guarded.onPacketSent (guarded : r.Guarded secs) (later : r.clock ≤ now) (packet : SerializedPacket)
    (transmissionType : TransmissionType) :
    (r.step secs (now, .onPacketSent packet transmissionType)).Guarded secs := by
  have started : 0 ≤ now := guarded.started.trans later
  change Guarded secs ⟨if _ then _ else _, now, r.closed⟩
  split_ifs with starts
  · -- The deadline was at most one timeout after an earlier reading, so it is one after this one.
    refine ⟨started, guarded.ackNonneg, le_rfl, fun opens => ?_⟩
    have inTime := guarded.inTime opens
    have resting : r.visitor.noAckAlarm.deadline ≤ now + secs * 1000000 := by linarith [inTime.resting]
    exact ⟨inTime.isSet, fun _ => resting, resting⟩
  · refine ⟨started, guarded.ackNonneg, guarded.sendPast.trans later, fun opens => ?_⟩
    have inTime := guarded.inTime opens
    exact ⟨inTime.isSet, inTime.waiting, by linarith [inTime.resting]⟩

theorem Guarded.onAckFrame (guarded : r.Guarded secs) (later : r.clock ≤ now) :
    (r.step secs (now, .onAckFrame)).Guarded secs := by
  have started : 0 ≤ now := guarded.started.trans later
  have past : r.visitor.lastSendTime ≤ now := guarded.sendPast.trans later
  refine ⟨started, started, past, fun opens => ?_⟩
  have inTime := guarded.inTime opens
  refine ⟨inTime.isSet, fun waiting => ?_, ?_⟩
  · exact (not_lt.mpr past waiting).elim
  · change r.visitor.noAckAlarm.deadline ≤ now + secs * 1000000
    linarith [inTime.resting]

theorem Guarded.fire (positive : 0 < secs) (small : secs < 2 ^ 31) (guarded : r.Guarded secs) (later : r.clock ≤ now) :
    (r.fire secs now).Guarded secs := by
  have started : 0 ≤ now := guarded.started.trans later
  have nonneg : 0 ≤ r.visitor.cancelNoAckAlarm.lastAckTime := guarded.ackNonneg
  have past : r.visitor.cancelNoAckAlarm.lastSendTime ≤ now := guarded.sendPast.trans later
  obtain ⟨ack, send⟩ := r.visitor.cancelNoAckAlarm.checkForNoAckTimeout_times secs now
  refine ⟨started, ?_, ?_, fun opens => ?_⟩
  · exact ack.symm ▸ nonneg
  · exact send.symm ▸ past
  · have stays : (r.visitor.cancelNoAckAlarm.checkForNoAckTimeout secs now).1.isSome = false :=
      (Bool.or_eq_false_iff.mp opens).2
    have rearmed := r.visitor.cancelNoAckAlarm.checkForNoAckTimeout_rearms now positive small stays
    change InTime secs ⟨(r.visitor.cancelNoAckAlarm.checkForNoAckTimeout secs now).2, now, _⟩
    rw [rearmed]
    exact inTime_of_setNoAckAlarm positive small started nonneg past _

theorem reachable_guarded (positive : 0 < secs) (small : secs < 2 ^ 31) {first : AlarmRun}
    (begins : first.Guarded secs) (run : (system secs).Reachable first r) : r.Guarded secs := by
  apply run.invariant begins
  rintro before ⟨now, call⟩ after guarded admitted ⟨⟩
  cases call with
  | onPacketSent packet transmissionType => exact guarded.onPacketSent admitted packet transmissionType
  | onAckFrame => exact guarded.onAckFrame admitted
  | fire => exact guarded.fire positive small admitted.1

/-- From `SetNoAckAlarm` on, the alarm stays set until the timeout closes the connection, and is never set for
later than the time at which the packet that is waited for times out. -/
theorem alarm_never_late (positive : 0 < secs) (small : secs < 2 ^ 31) {secs' : Int} {before : AckRun}
    (history : (AckRun.system secs').Reachable {} before) (later : before.clock ≤ now)
    (run : (system secs).Reachable (start before.visitor secs now) r) (opens : r.closed = false) :
    r.visitor.noAckAlarm.deadline ≠ 0 ∧
      (r.visitor.lastSendTime > r.visitor.lastAckTime →
        r.visitor.noAckAlarm.deadline ≤ r.visitor.lastSendTime + secs * 1000000) := by
  have guarded := reachable_guarded positive small (start_guarded positive small history later) run
  have inTime := guarded.inTime opens
  exact ⟨inTime.isSet.ne', inTime.waiting⟩

/-- The alarm fires late while a packet is waiting, and is set to what is left of its time. -/
def firesBetween : List (QuicTime × AlarmCall) :=
  [(700000, .onPacketSent ⟨[.stream]⟩ .notRetransmission), (1000010, .fire),
    (1200000, .onPacketSent ⟨[.stream]⟩ .notRetransmission)]

theorem firesBetween_in_time :
    ∃ r, (system 1).replay? (start {} 1 5) firesBetween = some r ∧ r.visitor.noAckAlarm.deadline = 1700000 ∧
      r.visitor.noAckAlarm.deadline ≠ 0 ∧
      (r.visitor.lastSendTime > r.visitor.lastAckTime →
        r.visitor.noAckAlarm.deadline ≤ r.visitor.lastSendTime + 1 * 1000000) := by
  have ends : ∃ r ∈ (system 1).replay? (start {} 1 5) firesBetween,
      r.visitor.noAckAlarm.deadline = 1700000 ∧ r.closed = false := by decide
  obtain ⟨r, executed, deadline, opens⟩ := ends
  have unused : (AckRun.system 1).Reachable {} {} := .refl _
  refine ⟨r, executed, deadline, ?_⟩
  exact alarm_never_late (by decide) (by decide) unused (by decide)
    (Machine.System.reachable_of_replay? executed) opens

end AlarmRun

end PosixQuic
