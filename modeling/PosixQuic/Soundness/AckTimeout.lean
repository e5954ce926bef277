import PosixQuic.Model.ConnectionVisitor

/-! # When the acknowledgement timeout closes a connection

The visitor waits for an acknowledgement from the first packet after the last one on. It starts to wait
whatever the packet carries, so the timeout can only be trusted in runs in which these first packets have
something to acknowledge.
-/

namespace PosixQuic

theorem fromSeconds_of_small {secs : Int} (positive : 0 < secs) (small : secs * 1000000 < 2 ^ 63) :
    fromSeconds secs = secs * 1000000 := by
  have factors : secs * 1000 * 1000 = secs * 1000000 := by ring
  rw [fromSeconds, factors]
  exact Int.bmod_eq_of_le (by omega) (by omega)

namespace QuicConnectionVisitor

/-- The visitor is waiting for an acknowledgement. -/
def Waiting (visitor : QuicConnectionVisitor) : Prop := visitor.lastAckTime < visitor.lastSendTime

theorem checkForNoAckTimeout_times (visitor : QuicConnectionVisitor) (secs now : Int) :
    (visitor.checkForNoAckTimeout secs now).2.lastAckTime = visitor.lastAckTime ∧
      (visitor.checkForNoAckTimeout secs now).2.lastSendTime = visitor.lastSendTime := by
  simp only [checkForNoAckTimeout, setNoAckAlarm]
  split_ifs <;> exact ⟨rfl, rfl⟩

theorem setNoAckAlarm_times (visitor : QuicConnectionVisitor) (secs now : Int) :
    (visitor.setNoAckAlarm secs now).lastAckTime = visitor.lastAckTime ∧
      (visitor.setNoAckAlarm secs now).lastSendTime = visitor.lastSendTime := by
  simp only [setNoAckAlarm]
  split_ifs <;> exact ⟨rfl, rfl⟩

theorem checkForNoAckTimeout_closes_iff (visitor : QuicConnectionVisitor) {secs : Int} (now : Int)
    (positive : 0 < secs) (small : secs * 1000000 < 2 ^ 63) :
    (visitor.checkForNoAckTimeout secs now).1.isSome ↔
      visitor.Waiting ∧ secs * 1000000 < now - visitor.lastSendTime := by
  have nonzero : secs * 1000000 ≠ 0 := by omega
  simp only [checkForNoAckTimeout, fromSeconds_of_small positive small, if_neg nonzero, Waiting]
  split_ifs with closes
  · exact ⟨fun _ => closes, fun _ => rfl⟩
  · exact ⟨nofun, fun due => (closes due).elim⟩

end QuicConnectionVisitor

namespace AckRun

/-- A packet that makes the visitor wait carries frames that the peer has to acknowledge. -/
def WaitsForData (r : AckRun) : QuicTime × VisitorCall → Prop
  | (_, .onPacketSent packet .notRetransmission) => ¬ r.visitor.Waiting → packet.retransmittableFrames ≠ []
  | _ => True

instance (r : AckRun) : (event : QuicTime × VisitorCall) → Decidable (r.WaitsForData event)
  | (_, .onPacketSent packet transmissionType) => by
    cases transmissionType <;> simp only [WaitsForData, QuicConnectionVisitor.Waiting] <;> infer_instance
  | (_, .onAckFrame) | (_, .checkForNoAckTimeout) | (_, .setNoAckAlarm) | (_, .cancelNoAckAlarm) =>
    inferInstanceAs (Decidable True)

/-- What the two times of the visitor say about the history. -/
structure Tracks (r : AckRun) : Prop where
  past : r.visitor.lastSendTime ≤ r.clock
  acked : ∀ ack ∈ r.acks, ack ≤ r.visitor.lastAckTime ∧ ack ≤ r.clock
  waits : r.visitor.Waiting →
    ∃ packet ∈ r.sent, packet.time = r.visitor.lastSendTime ∧ packet.packet.retransmittableFrames ≠ []

variable {r : AckRun} {secs : Int} {now : QuicTime}

/-- Calls that leave both times alone and are not recorded. -/
theorem Tracks.quiet {r' : AckRun} (tracks : r.Tracks) (later : r.clock ≤ r'.clock) (sent : r'.sent = r.sent)
    (acks : r'.acks = r.acks)
    (times : r'.visitor.lastAckTime = r.visitor.lastAckTime ∧ r'.visitor.lastSendTime = r.visitor.lastSendTime) :
    r'.Tracks := by
  constructor
  · rw [times.2]
    exact tracks.past.trans later
  · intro ack member
    rw [acks] at member
    rw [times.1]
    exact ⟨(tracks.acked ack member).1, (tracks.acked ack member).2.trans later⟩
  · unfold QuicConnectionVisitor.Waiting
    rw [times.1, times.2, sent]
    exact tracks.waits

theorem step_tracks {event : QuicTime × VisitorCall} (tracks : r.Tracks) (later : r.clock ≤ event.1)
    (data : r.WaitsForData event) : (r.step secs event).Tracks := by
  obtain ⟨now, call⟩ := event
  cases call with
  | onPacketSent packet transmissionType =>
    have acked : ∀ ack ∈ r.acks, ack ≤ r.visitor.lastAckTime ∧ ack ≤ now :=
      fun ack member => ⟨(tracks.acked ack member).1, (tracks.acked ack member).2.trans later⟩
    by_cases starts : transmissionType = .notRetransmission ∧ r.visitor.lastSendTime ≤ r.visitor.lastAckTime
    · obtain ⟨rfl, rests⟩ := starts
      have visited : (r.step secs (now, .onPacketSent packet .notRetransmission)).visitor =
          { r.visitor with lastSendTime := now } := if_pos ⟨rfl, rests⟩
      constructor
      · rw [visited]
        exact le_rfl
      · rw [visited]
        exact acked
      · intro _
        rw [visited]
        exact ⟨_, List.mem_cons_self .., rfl, data (not_lt.mpr rests)⟩
    · have visited : (r.step secs (now, .onPacketSent packet transmissionType)).visitor = r.visitor :=
        if_neg starts
      constructor
      · rw [visited]
        exact tracks.past.trans later
      · rw [visited]
        exact acked
      · rw [visited]
        intro waiting
        obtain ⟨before, member, found⟩ := tracks.waits waiting
        exact ⟨before, List.mem_cons_of_mem _ member, found⟩
  | onAckFrame =>
    have rests : ¬ (r.step secs (now, .onAckFrame)).visitor.Waiting := not_lt.mpr (tracks.past.trans later)
    constructor
    · exact tracks.past.trans later
    · intro ack member
      rcases List.mem_cons.mp member with rfl | older
      · exact ⟨le_rfl, le_rfl⟩
      · exact ⟨(tracks.acked ack older).2.trans later, (tracks.acked ack older).2.trans later⟩
    · exact fun waiting => (rests waiting).elim
  | checkForNoAckTimeout => exact tracks.quiet later rfl rfl (r.visitor.checkForNoAckTimeout_times secs now)
  | setNoAckAlarm => exact tracks.quiet later rfl rfl (r.visitor.setNoAckAlarm_times secs now)
  | cancelNoAckAlarm => exact tracks.quiet later rfl rfl ⟨rfl, rfl⟩

theorem reachable_tracks (run : ((system secs).restrict WaitsForData).Reachable {} r) : r.Tracks := by
  apply run.invariant (P := Tracks)
  · exact ⟨le_rfl, nofun, fun waiting => (lt_irrefl _ waiting).elim⟩
  · rintro before event after tracks ⟨later, data⟩ ⟨⟩
    exact step_tracks tracks later data

/-- When only packets with something to acknowledge make the visitor wait, a timeout closes the connection
only if such a packet has been waiting for longer than the option says and no ack frame came since. -/
theorem timeout_only_when_reply_due (positive : 0 < secs) (small : secs * 1000000 < 2 ^ 63)
    (run : ((system secs).restrict WaitsForData).Reachable {} r)
    (closes : (r.visitor.checkForNoAckTimeout secs now).1.isSome) :
    ∃ packet ∈ r.sent, packet.packet.retransmittableFrames ≠ [] ∧ secs * 1000000 < now - packet.time ∧
      ∀ ack ∈ r.acks, ack < packet.time := by
  have tracks := reachable_tracks run
  obtain ⟨waiting, due⟩ := (r.visitor.checkForNoAckTimeout_closes_iff now positive small).mp closes
  obtain ⟨packet, member, sentAt, data⟩ := tracks.waits waiting
  rw [← sentAt] at due
  refine ⟨packet, member, data, due, fun ack processed => ?_⟩
  calc ack ≤ r.visitor.lastAckTime := (tracks.acked ack processed).1
    _ < r.visitor.lastSendTime := waiting
    _ = packet.time := sentAt.symm

/-- A request is answered, the next one is not. -/
def losesReply : List (QuicTime × VisitorCall) :=
  [(10, .onPacketSent ⟨[.stream]⟩ .notRetransmission), (20, .onAckFrame),
    (30, .onPacketSent ⟨[.stream, .ping]⟩ .notRetransmission), (500, .onPacketSent ⟨[]⟩ .notRetransmission)]

theorem losesReply_times_out :
    ∃ r, ((system 1).restrict WaitsForData).replay? {} losesReply = some r ∧
      (r.visitor.checkForNoAckTimeout 1 1000031).1 =
        some ⟨101, "ack timeout", .sendConnectionClosePacketWithNoAck⟩ ∧
      ∃ packet ∈ r.sent, packet.packet.retransmittableFrames ≠ [] ∧ 1 * 1000000 < 1000031 - packet.time ∧
        ∀ ack ∈ r.acks, ack < packet.time := by
  have ends : ∃ r ∈ ((system 1).restrict WaitsForData).replay? {} losesReply,
      (r.visitor.checkForNoAckTimeout 1 1000031).1 =
        some ⟨101, "ack timeout", .sendConnectionClosePacketWithNoAck⟩ := by decide
  obtain ⟨r, executed, closes⟩ := ends
  refine ⟨r, executed, closes, ?_⟩
  apply timeout_only_when_reply_due (by decide) (by decide) (Machine.System.reachable_of_replay? executed)
  rw [closes]
  rfl

/-- A receiver that only acknowledges. -/
def onlyAcknowledges : List (QuicTime × VisitorCall) := [(10, .onPacketSent ⟨[]⟩ .notRetransmission)]

theorem onlyAcknowledges_times_out :
    ∃ r, (system 1).replay? {} onlyAcknowledges = some r ∧
      (r.visitor.checkForNoAckTimeout 1 1000011).1 =
        some ⟨101, "ack timeout", .sendConnectionClosePacketWithNoAck⟩ ∧
      ∀ packet ∈ r.sent, packet.packet.retransmittableFrames = [] := by
  have ends : ∃ r ∈ (system 1).replay? {} onlyAcknowledges,
      (r.visitor.checkForNoAckTimeout 1 1000011).1 =
        some ⟨101, "ack timeout", .sendConnectionClosePacketWithNoAck⟩ ∧
      ∀ packet ∈ r.sent, packet.packet.retransmittableFrames = [] := by decide
  exact ends

/-! ## What two times remember of a whole history -/

/-- The clock is past zero when the visitor is called, so that a time of zero stands for "never". -/
def PastZero (_ : AckRun) (event : QuicTime × VisitorCall) : Prop := 0 < event.1

instance (r : AckRun) (event : QuicTime × VisitorCall) : Decidable (r.PastZero event) :=
  inferInstanceAs (Decidable (0 < event.1))

/-- A first transmission after the last ack frame that was processed, or at any time if there was none. -/
def Unanswered (r : AckRun) (packet : SentPacket) : Prop :=
  packet ∈ r.sent ∧ packet.transmissionType = .notRetransmission ∧ ∀ ack ∈ r.acks.head?, ack < packet.time

/-- `lastAckTime` is the time of the last ack frame, and `lastSendTime` that of the first unanswered packet as
long as there is one. -/
structure Summarizes (r : AckRun) : Prop where
  lastAck : r.visitor.lastAckTime = r.acks.head?.getD 0
  acksPast : r.visitor.lastAckTime ≤ r.clock
  sendPast : r.visitor.lastSendTime ≤ r.clock
  sentPast : ∀ packet ∈ r.sent, 0 < packet.time ∧ packet.time ≤ r.clock
  waits : r.visitor.Waiting →
    ∃ packet ∈ r.sent, packet.transmissionType = .notRetransmission ∧ packet.time = r.visitor.lastSendTime
  first : ∀ packet ∈ r.sent, packet.transmissionType = .notRetransmission →
    r.visitor.lastAckTime < packet.time → r.visitor.Waiting ∧ r.visitor.lastSendTime ≤ packet.time

theorem Summarizes.unanswered_iff (summary : r.Summarizes) {packet : SentPacket} (member : packet ∈ r.sent) :
    (∀ ack ∈ r.acks.head?, ack < packet.time) ↔ r.visitor.lastAckTime < packet.time := by
  rw [summary.lastAck]
  cases r.acks.head? with
  | none => exact ⟨fun _ => (summary.sentPast packet member).1, fun _ => nofun⟩
  | some ack => simp

theorem Summarizes.quiet {r' : AckRun} (summary : r.Summarizes) (later : r.clock ≤ r'.clock) (sent : r'.sent = r.sent)
    (acks : r'.acks = r.acks)
    (times : r'.visitor.lastAckTime = r.visitor.lastAckTime ∧ r'.visitor.lastSendTime = r.visitor.lastSendTime) :
    r'.Summarizes := by
  have waiting : r'.visitor.Waiting ↔ r.visitor.Waiting := by
    unfold QuicConnectionVisitor.Waiting
    rw [times.1, times.2]
  constructor
  · rw [times.1, acks]
    exact summary.lastAck
  · rw [times.1]
    exact summary.acksPast.trans later
  · rw [times.2]
    exact summary.sendPast.trans later
  · rw [sent]
    exact fun packet member =>
      ⟨(summary.sentPast packet member).1, (summary.sentPast packet member).2.trans later⟩
  · rw [waiting, sent, times.2]
    exact summary.waits
  · rw [waiting, sent, times.1, times.2]
    exact summary.first

theorem Summarizes.onPacketSent (summary : r.Summarizes) (later : r.clock ≤ now) (positive : 0 < now)
    (packet : SerializedPacket) (transmissionType : TransmissionType) :
    (r.step secs (now, .onPacketSent packet transmissionType)).Summarizes := by
  have sentPast : ∀ sent ∈ (⟨now, packet, transmissionType⟩ : SentPacket) :: r.sent,
      0 < sent.time ∧ sent.time ≤ now := by
    rintro sent (_ | ⟨_, member⟩)
    · exact ⟨positive, le_rfl⟩
    · exact ⟨(summary.sentPast sent member).1, (summary.sentPast sent member).2.trans later⟩
  by_cases starts : transmissionType = .notRetransmission ∧ r.visitor.lastSendTime ≤ r.visitor.lastAckTime
  · -- The visitor starts to wait, unless an ack frame was processed at the same reading of the clock.
    have visited : (r.step secs (now, .onPacketSent packet transmissionType)).visitor =
        { r.visitor with lastSendTime := now } := if_pos starts
    have rests : ¬ r.visitor.Waiting := not_lt.mpr starts.2
    constructor
    · rw [visited]
      exact summary.lastAck
    · rw [visited]
      exact summary.acksPast.trans later
    · rw [visited]
      exact le_rfl
    · exact sentPast
    · rw [visited]
      exact fun _ => ⟨_, List.mem_cons_self .., starts.1, rfl⟩
    · rw [visited]
      rintro sent (_ | ⟨_, member⟩) first unanswered
      · exact ⟨unanswered, le_rfl⟩
      · exact (rests (summary.first sent member first unanswered).1).elim
  · have visited : (r.step secs (now, .onPacketSent packet transmissionType)).visitor = r.visitor := if_neg starts
    constructor
    · rw [visited]
      exact summary.lastAck
    · rw [visited]
      exact summary.acksPast.trans later
    · rw [visited]
      exact summary.sendPast.trans later
    · exact sentPast
    · rw [visited]
      intro waiting
      obtain ⟨before, member, found⟩ := summary.waits waiting
      exact ⟨before, List.mem_cons_of_mem _ member, found⟩
    · rw [visited]
      rintro sent (_ | ⟨_, member⟩) first unanswered
      · have waiting : r.visitor.Waiting := not_le.mp fun rests => starts ⟨first, rests⟩
        exact ⟨waiting, summary.sendPast.trans later⟩
      · exact summary.first sent member first unanswered

theorem Summarizes.onAckFrame (summary : r.Summarizes) (later : r.clock ≤ now) :
    (r.step secs (now, .onAckFrame)).Summarizes := by
  have rests : ¬ (r.step secs (now, .onAckFrame)).visitor.Waiting := not_lt.mpr (summary.sendPast.trans later)
  constructor
  · rfl
  · exact le_rfl
  · exact summary.sendPast.trans later
  · exact fun packet member =>
      ⟨(summary.sentPast packet member).1, (summary.sentPast packet member).2.trans later⟩
  · exact fun waiting => (rests waiting).elim
  · intro packet member _ unanswered
    have past : packet.time ≤ now := (summary.sentPast packet member).2.trans later
    exact (not_lt.mpr past unanswered).elim

theorem reachable_summarizes (run : ((system secs).restrict PastZero).Reachable {} r) : r.Summarizes := by
  apply run.invariant (P := Summarizes)
  · exact ⟨rfl, le_rfl, le_rfl, nofun, fun waiting => (lt_irrefl _ waiting).elim, nofun⟩
  · rintro before ⟨now, call⟩ after summary ⟨later, positive⟩ ⟨⟩
    cases call with
    | onPacketSent packet transmissionType => exact summary.onPacketSent later positive packet transmissionType
    | onAckFrame => exact summary.onAckFrame later
    | checkForNoAckTimeout =>
      exact summary.quiet later rfl rfl (before.visitor.checkForNoAckTimeout_times secs now)
    | setNoAckAlarm => exact summary.quiet later rfl rfl (before.visitor.setNoAckAlarm_times secs now)
    | cancelNoAckAlarm => exact summary.quiet later rfl rfl ⟨rfl, rfl⟩

/-- The two times are enough to decide the timeout as the whole history would. -/
theorem timeout_iff_unanswered_packet (positive : 0 < secs) (small : secs < 2 ^ 31)
    (run : ((system secs).restrict PastZero).Reachable {} r) (now : QuicTime) :
    (r.visitor.checkForNoAckTimeout secs now).1.isSome ↔
      ∃ packet, r.Unanswered packet ∧ secs * 1000000 < now - packet.time := by
  have summary := reachable_summarizes run
  rw [r.visitor.checkForNoAckTimeout_closes_iff now positive (by omega)]
  constructor
  · rintro ⟨waiting, due⟩
    obtain ⟨packet, member, first, sentAt⟩ := summary.waits waiting
    have unanswered : r.visitor.lastAckTime < packet.time := sentAt ▸ waiting
    exact ⟨packet, ⟨member, first, (summary.unanswered_iff member).mpr unanswered⟩, sentAt ▸ due⟩
  · rintro ⟨packet, ⟨member, first, unanswered⟩, due⟩
    obtain ⟨waiting, earlier⟩ :=
      summary.first packet member first ((summary.unanswered_iff member).mp unanswered)
    exact ⟨waiting, due.trans_le (sub_le_sub_left earlier now)⟩

/-- A packet and an ack frame at one reading of the clock, then a packet that is never answered. -/
def acknowledgesAtOnce : List (QuicTime × VisitorCall) :=
  [(10, .onPacketSent ⟨[.stream]⟩ .notRetransmission), (10, .onAckFrame), (10, .checkForNoAckTimeout),
    (20, .onPacketSent ⟨[.stream]⟩ .rtoRetransmission), (30, .onPacketSent ⟨[.stream]⟩ .notRetransmission)]

theorem acknowledgesAtOnce_times_out :
    ∃ r, ((system 1).restrict PastZero).replay? {} acknowledgesAtOnce = some r ∧
      (r.visitor.checkForNoAckTimeout 1 1000030).1 = none ∧
      (¬ ∃ packet, r.Unanswered packet ∧ 1 * 1000000 < 1000030 - packet.time) ∧
      ∃ packet, r.Unanswered packet ∧ 1 * 1000000 < 1000031 - packet.time := by
  have ends : ∃ r ∈ ((system 1).restrict PastZero).replay? {} acknowledgesAtOnce,
      (r.visitor.checkForNoAckTimeout 1 1000030).1 = none ∧
      (r.visitor.checkForNoAckTimeout 1 1000031).1.isSome := by decide
  obtain ⟨r, executed, quiet, closes⟩ := ends
  have decided := timeout_iff_unanswered_packet (by decide) (by decide) (Machine.System.reachable_of_replay? executed)
  refine ⟨r, executed, quiet, fun due => ?_, (decided 1000031).mp closes⟩
  have early := (decided 1000030).mpr due
  rw [quiet] at early
  contradiction

end AckRun

end PosixQuic
