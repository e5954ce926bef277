import PosixQuic.Soundness.SenderPackets

/-! # Runs of the sending half of a stream

Two invariants. The first is about the data: every frame carries the bytes of its place, and a byte that has been
written is acknowledged, in flight or marked to be sent again. The second is about turns: whatever is still to be sent
waits in a list of the session or for the peer to move its window.
-/

namespace PosixQuic

open Machine (IntervalSet)

namespace StreamSender

variable {transmission : Transmission} {sender before after : StreamSender} {finConsumed fin : Bool}
  {frames : List StreamFrame} {n offset threshold length : Nat} {call : WriteCall} {frame : StreamFrame}

/-! ## The data -/

/-- What holds of the data and of the FIN between two events. -/
structure Sound (transmission : Transmission) (sender : StreamSender) : Prop where
  holds : sender.buffer.Holds transmission.content
  within : sender.buffer.streamOffset ≤ transmission.length
  ended : sender.finBuffered = true → sender.buffer.streamOffset = transmission.length
  finished : sender.finSent = true →
    sender.finBuffered = true ∧ sender.buffer.streamBytesWritten = sender.buffer.streamOffset
  outstanding : sender.finOutstanding = true → sender.finSent = true
  lost : sender.finLost = true → sender.finOutstanding = true
  frames : ∀ frame ∈ sender.sent, transmission.Sends frame ∧
    frame.offset + frame.data.length ≤ sender.buffer.streamBytesWritten ∧ (frame.fin = true → sender.finSent = true)
  covered : ∀ x < sender.buffer.streamBytesWritten, x ∈ sender.buffer.bytesAcked ∨
    x ∈ sender.buffer.pendingRetransmissions ∨ ∃ frame ∈ sender.inFlight, frame.Carries x
  finCovered : sender.finOutstanding = true → sender.finLost = true ∨ ∃ frame ∈ sender.inFlight, frame.fin = true
  window : sender.buffer.streamBytesWritten ≤ sender.sendWindowOffset

theorem Sound.unsent (sound : sender.Sound transmission) (taking : sender.finBuffered = false) : sender.finSent = false := by
  by_contra finSent
  rw [Bool.not_eq_false] at finSent
  exact absurd (taking.symm.trans (sound.finished finSent).1) Bool.noConfusion

/-- What is outstanding are the bytes that have been written and not acknowledged. -/
theorem Sound.streamBytesOutstanding_eq (sound : sender.Sound transmission) : sender.buffer.streamBytesOutstanding =
    (Finset.range sender.buffer.streamBytesWritten \ sender.buffer.bytesAcked.points).card := by
  have inside : sender.buffer.bytesAcked.points ⊆ Finset.range sender.buffer.streamBytesWritten := fun x there =>
    Finset.mem_range.mpr (sound.holds.stocked.acked x (IntervalSet.mem_points.mp there))
  have counted := sound.holds.counted
  rw [Finset.card_sdiff_of_subset inside, Finset.card_range, IntervalSet.card_points]
  omega

/-- Frames that are cut from data which the stream has accepted belong to the transmission. -/
theorem Sound.sends (sound : sender.Sound transmission) {start stop : Nat}
    (cuts : Cuts transmission.content start stop finConsumed frames) (reach : stop ≤ sender.buffer.streamOffset)
    (last : finConsumed = true → sender.finBuffered = true ∧ stop = sender.buffer.streamOffset) :
    ∀ frame ∈ frames, transmission.Sends frame ∧ frame.offset + frame.data.length ≤ stop ∧
      (frame.fin = true → finConsumed = true) := by
  intro frame member
  obtain ⟨-, below⟩ := cuts.inside frame member
  refine ⟨⟨(below.trans reach).trans sound.within, cuts.data frame member, fun isFin => ?_⟩, below,
    fun isFin => (cuts.ended frame member isFin).1⟩
  obtain ⟨consumed, stops⟩ := cuts.ended frame member isFin
  obtain ⟨buffered, all⟩ := last consumed
  rw [stops, all, sound.ended buffered]

/-- New data is put into packets. -/
theorem Sound.transmitNew (sound : sender.Sound transmission) {writeIndex : Option Nat}
    (cuts : Cuts transmission.content sender.buffer.streamBytesWritten (sender.buffer.streamBytesWritten + n) finConsumed
      frames)
    (stocked : SendBuffer.Stocked transmission.content (sender.buffer.streamBytesWritten + n)
      { sender.buffer with writeIndex })
    (permitted : sender.buffer.streamBytesWritten + n ≤ sender.sendWindowOffset)
    (last : finConsumed = true →
      sender.finBuffered = true ∧ sender.buffer.streamBytesWritten + n = sender.buffer.streamOffset)
    (writeBlocked writeSideClosed : Bool) :
    Sound transmission { sender with
      buffer := { sender.buffer with writeIndex }.onStreamDataConsumed n
      finSent := sender.finSent || finConsumed
      finOutstanding := sender.finOutstanding || finConsumed
      sent := sender.sent ++ frames
      inFlight := sender.inFlight ++ frames
      writeBlocked, writeSideClosed } := by
  have reach : sender.buffer.streamBytesWritten + n ≤ sender.buffer.streamOffset := stocked.serialized_le
  constructor
  · refine ⟨⟨stocked.tiled, stocked.acked, stocked.indexed⟩, ?_, fun x there => ?_⟩
    · have counted := sound.holds.counted
      show sender.buffer.streamBytesOutstanding + n + sender.buffer.bytesAcked.count =
        sender.buffer.streamBytesWritten + n
      omega
    · obtain ⟨below, unacked⟩ := sound.holds.pending x there
      exact ⟨below.trans_le (Nat.le_add_right _ n), unacked⟩
  · exact sound.within
  · exact sound.ended
  · intro finSent
    rcases Bool.or_eq_true_iff.mp finSent with before | now
    · obtain ⟨buffered, all⟩ := sound.finished before
      refine ⟨buffered, ?_⟩
      show sender.buffer.streamBytesWritten + n = sender.buffer.streamOffset
      omega
    · exact last now
  · intro finOutstanding
    rw [Bool.or_eq_true_iff] at finOutstanding ⊢
    exact finOutstanding.imp sound.outstanding id
  · intro finLost
    show (sender.finOutstanding || finConsumed) = true
    rw [sound.lost finLost, Bool.true_or]
  · intro frame member
    rcases List.mem_append.mp member with old | new
    · obtain ⟨sends, below, fin⟩ := sound.frames frame old
      refine ⟨sends, below.trans (Nat.le_add_right _ n), fun isFin => ?_⟩
      show (sender.finSent || finConsumed) = true
      rw [fin isFin, Bool.true_or]
    · obtain ⟨sends, below, fin⟩ := sound.sends cuts reach last frame new
      refine ⟨sends, below, fun isFin => ?_⟩
      show (sender.finSent || finConsumed) = true
      rw [fin isFin, Bool.or_true]
  · intro x below
    rcases Nat.lt_or_ge x sender.buffer.streamBytesWritten with old | new
    · rcases sound.covered x old with acked | pending | ⟨frame, member, carries⟩
      · exact .inl acked
      · exact .inr (.inl pending)
      · exact .inr (.inr ⟨frame, List.mem_append_left _ member, carries⟩)
    · obtain ⟨frame, member, carries⟩ := cuts.carried x new below
      exact .inr (.inr ⟨frame, List.mem_append_right _ member, carries⟩)
  · intro finOutstanding
    rcases Bool.or_eq_true_iff.mp finOutstanding with before | now
    · rcases sound.finCovered before with lost | ⟨frame, member, fin⟩
      · exact .inl lost
      · exact .inr ⟨frame, List.mem_append_left _ member, fin⟩
    · obtain ⟨frame, member, fin⟩ := cuts.finished now
      exact .inr ⟨frame, List.mem_append_right _ member, fin⟩
  · exact permitted

/-- Data that was sent before is put into packets again. -/
theorem Sound.transmitOld (sound : sender.Sound transmission) {finLost : Bool}
    (cuts : Cuts transmission.content offset (offset + n) finConsumed frames)
    (before : offset + n ≤ sender.buffer.streamBytesWritten)
    (last : finConsumed = true → sender.finSent = true ∧ offset + n = sender.buffer.streamBytesWritten)
    (fewer : finLost = true → sender.finLost = true)
    (keeps : sender.finLost = true → finLost = true ∨ finConsumed = true) :
    Sound transmission { sender with
      buffer := sender.buffer.onStreamDataRetransmitted offset n
      finLost
      sent := sender.sent ++ frames
      inFlight := sender.inFlight ++ frames } := by
  have holds := sound.holds.onStreamDataRetransmitted offset n
  have pending : ∀ x, x ∈ (sender.buffer.onStreamDataRetransmitted offset n).pendingRetransmissions ↔
      x ∈ sender.buffer.pendingRetransmissions ∧ ¬ (offset ≤ x ∧ x < offset + n) :=
    fun x => SendBuffer.mem_onStreamDataRetransmitted
  obtain ⟨pendingRetransmissions, same⟩ := sender.buffer.onStreamDataRetransmitted_eq offset n
  rw [same] at holds pending ⊢
  refine ⟨holds, sound.within, sound.ended, sound.finished, sound.outstanding, fun lost => sound.lost (fewer lost), ?_, ?_,
    ?_, sound.window⟩
  · intro frame member
    rcases List.mem_append.mp member with old | new
    · exact sound.frames frame old
    · have complete : finConsumed = true → sender.finBuffered = true ∧ offset + n = sender.buffer.streamOffset := by
        intro consumed
        obtain ⟨finSent, all⟩ := last consumed
        obtain ⟨buffered, written⟩ := sound.finished finSent
        exact ⟨buffered, all.trans written⟩
      obtain ⟨sends, below, fin⟩ :=
        sound.sends cuts (before.trans sound.holds.stocked.serialized_le) complete frame new
      exact ⟨sends, below.trans before, fun isFin => (last (fin isFin)).1⟩
  · intro x below
    rcases sound.covered x below with acked | pending' | ⟨frame, member, carries⟩
    · exact .inl acked
    · by_cases inside : offset ≤ x ∧ x < offset + n
      · obtain ⟨frame, member, carries⟩ := cuts.carried x inside.1 inside.2
        exact .inr (.inr ⟨frame, List.mem_append_right _ member, carries⟩)
      · exact .inr (.inl ((pending x).mpr ⟨pending', inside⟩))
    · exact .inr (.inr ⟨frame, List.mem_append_left _ member, carries⟩)
  · intro finOutstanding
    rcases sound.finCovered finOutstanding with lost | ⟨frame, member, fin⟩
    · rcases keeps lost with still | consumed
      · exact .inl still
      · obtain ⟨frame, member, fin⟩ := cuts.finished consumed
        exact .inr ⟨frame, List.mem_append_right _ member, fin⟩
    · exact .inr ⟨frame, List.mem_append_left _ member, fin⟩

/-! ## Writing new data -/

/-- Something is still to be sent for the first time. -/
def Unsent (sender : StreamSender) : Prop :=
  sender.writeSideClosed = false ∧ (sender.hasBufferedData = true ∨ sender.finBuffered = true ∧ sender.finSent = false)

/-- What is to be sent waits for a turn, or for a larger window of the stream. -/
def Queued (sender : StreamSender) : Prop :=
  sender.Unsent → sender.writeBlocked = true ∨ sender.sendWindowSize = 0

/-- No acknowledgement has been taken in, and no frame has been taken back. -/
structure Quiet (before after : StreamSender) : Prop where
  bytesAcked : after.buffer.bytesAcked = before.buffer.bytesAcked
  sent : before.sent <+: after.sent
  finAcked : after.finSent = true → after.finOutstanding = false →
    before.finSent = true ∧ before.finOutstanding = false

theorem Quiet.refl (sender : StreamSender) : Quiet sender sender := ⟨rfl, List.prefix_rfl, And.intro⟩

/-- What writing new data leaves alone. -/
structure Wrote (before after : StreamSender) : Prop extends Quiet before after where
  finBuffered : after.finBuffered = before.finBuffered
  pending : after.buffer.pendingRetransmissions = before.buffer.pendingRetransmissions
  finLost : after.finLost = before.finLost
  listed : after.retransmissionListed = before.retransmissionListed

theorem Wrote.refl (sender : StreamSender) (writeBlocked : Bool) : Wrote sender { sender with writeBlocked } :=
  ⟨{ Quiet.refl sender with }, rfl, rfl, rfl, rfl⟩

theorem Sound.writeBlocked (sound : sender.Sound transmission) (writeBlocked : Bool) :
    Sound transmission { sender with writeBlocked } :=
  { sound with }

/-- `MaybeSendBlocked` is a matter of the write blocked list only. -/
theorem maybeSendBlocked_eq (sender : StreamSender) (connectionWindow : Nat) :
    ∃ writeBlocked, sender.maybeSendBlocked connectionWindow = { sender with writeBlocked } ∧
      (connectionWindow = 0 → writeBlocked = true ∨ sender.sendWindowSize = 0) := by
  rw [maybeSendBlocked]
  split_ifs with blocked
  · exact ⟨true, rfl, fun _ => .inl rfl⟩
  · refine ⟨sender.writeBlocked, rfl, fun exhausted => .inr ?_⟩
    by_contra some_window
    exact blocked ⟨exhausted, some_window⟩

/-- The end of `WriteBufferedData`: the FIN is noted, or the stream keeps its turn. -/
theorem onWritten_eq (sender : StreamSender) {writeLength : Nat} (finWithZeroData : Bool) (connectionWindow : Nat)
    (last : finConsumed = true → fin = true ∧ n = writeLength) :
    ∃ writeBlocked, sender.onWritten writeLength fin finWithZeroData connectionWindow ⟨n, finConsumed⟩ =
        { sender with
          finSent := sender.finSent || finConsumed
          finOutstanding := sender.finOutstanding || finConsumed
          writeBlocked
          writeSideClosed := sender.writeSideClosed || finConsumed } ∧
      (finConsumed = false → n ≠ writeLength ∨ fin = true → writeBlocked = true) ∧
      (finWithZeroData = false → n = writeLength → connectionWindow = 0 →
        writeBlocked = true ∨ sender.sendWindowSize = 0) := by
  rw [onWritten]
  obtain ⟨blocked, told, window⟩ := sender.maybeSendBlocked_eq connectionWindow
  cases finConsumed with
  | true =>
    obtain ⟨rfl, rfl⟩ := last rfl
    cases finWithZeroData with
    | true => exact ⟨sender.writeBlocked, by simp [closeWriteSide], by simp, by simp⟩
    | false => exact ⟨blocked, by simp [closeWriteSide, told], by simp, fun _ _ => window⟩
  | false =>
    by_cases whole : n = writeLength
    · rw [if_pos whole]
      cases fin with
      | true => exact ⟨true, by cases finWithZeroData <;> simp [told], by simp, fun _ _ _ => .inl rfl⟩
      | false =>
        cases finWithZeroData with
        | true => exact ⟨sender.writeBlocked, by simp, by simp [whole], by simp⟩
        | false => exact ⟨blocked, by simp [told], by simp [whole], fun _ _ => window⟩
    · rw [if_neg whole]
      exact ⟨true, by simp, by simp, fun _ _ _ => .inl rfl⟩

/-- `WriteBufferedData` sends what the windows and the connection permit, and keeps a turn for the rest. -/
theorem Sound.writeBufferedData (sound : sender.Sound transmission) (unsent : sender.finSent = false) (call : WriteCall) :
    ∃ after, sender.writeBufferedData call = .ok after ∧ after.Sound transmission ∧ Wrote sender after ∧ after.Queued := by
  have window := sound.window
  have reach := sound.holds.stocked.serialized_le
  have size : sender.sendWindowSize = sender.sendWindowOffset - sender.buffer.streamBytesWritten := rfl
  have buffered : sender.bufferedDataBytes = sender.buffer.streamOffset - sender.buffer.streamBytesWritten := rfl
  unfold StreamSender.writeBufferedData
  dsimp only
  split_ifs with yields exhausted
  · exact ⟨_, rfl, sound.writeBlocked true, .refl sender true, fun _ => .inl rfl⟩
  · rw [Bool.and_eq_true, decide_eq_true_eq] at exhausted
    obtain ⟨writeBlocked, told, waits⟩ := sender.maybeSendBlocked_eq call.connectionWindow
    refine ⟨_, rfl, ?_⟩
    rw [told]
    refine ⟨sound.writeBlocked writeBlocked, .refl sender writeBlocked, fun _ => ?_⟩
    rcases Nat.eq_zero_or_pos call.connectionWindow with none_left | some_left
    · exact waits none_left
    · refine .inr ?_
      show sender.sendWindowSize = 0
      omega
  · obtain ⟨writeLength, length_eq⟩ :
        ∃ writeLength, min sender.bufferedDataBytes (min sender.sendWindowSize call.connectionWindow) = writeLength := ⟨_, rfl⟩
    obtain ⟨fin, fin_eq⟩ : ∃ fin, (sender.finBuffered &&
        decide (sender.bufferedDataBytes ≤ min sender.sendWindowSize call.connectionWindow)) = fin := ⟨_, rfl⟩
    obtain ⟨n, finConsumed, frames, writeIndex, result, bound, stocked, cuts, last⟩ :=
      writevDataInner_new sound.holds.stocked
        (show sender.buffer.streamBytesWritten + writeLength ≤ sender.buffer.streamOffset by omega) fin call.plan
    have permitted : sender.buffer.streamBytesWritten + n ≤ sender.sendWindowOffset := by omega
    have complete : finConsumed = true →
        sender.finBuffered = true ∧ sender.buffer.streamBytesWritten + n = sender.buffer.streamOffset := by
      intro consumed
      obtain ⟨isFin, whole⟩ := last consumed
      rw [← fin_eq, Bool.and_eq_true, decide_eq_true_eq] at isFin
      exact ⟨isFin.1, by omega⟩
    obtain ⟨writeBlocked, noted, stays, waits⟩ := onWritten_eq
      ({ sender with buffer := { sender.buffer with writeIndex }.onStreamDataConsumed n }.transmit frames)
      (sender.finBuffered && decide (sender.bufferedDataBytes = 0)) (call.connectionWindow - n) last
    have counted : addBytesSent ({ sender with buffer := { sender.buffer with writeIndex } }.transmit frames) n =
        .ok ({ sender with buffer := { sender.buffer with writeIndex }.onStreamDataConsumed n }.transmit frames) := by
      unfold addBytesSent
      exact if_neg (not_lt.mpr permitted)
    rw [length_eq, fin_eq, result]
    dsimp only [bind, Except.bind]
    rw [counted]
    dsimp only [pure, Except.pure]
    rw [noted]
    refine ⟨_, rfl, sound.transmitNew cuts stocked permitted complete writeBlocked _,
      ⟨⟨rfl, List.prefix_append .., fun finSent acked => ?_⟩, rfl, rfl, rfl, rfl⟩, ?_⟩
    · obtain ⟨before, rfl⟩ := Bool.or_eq_false_iff.mp acked
      exact ⟨(Bool.or_false _).symm.trans finSent, before⟩
    rintro ⟨stillOpen, something⟩
    obtain ⟨-, rfl⟩ : sender.writeSideClosed = false ∧ finConsumed = false := Bool.or_eq_false_iff.mp stillOpen
    rw [Bool.or_false, unsent] at something
    have rest : sender.buffer.streamBytesWritten + n < sender.buffer.streamOffset ∨ sender.finBuffered = true :=
      something.imp of_decide_eq_true And.left
    show writeBlocked = true ∨ sender.sendWindowOffset - (sender.buffer.streamBytesWritten + n) = 0
    by_cases short : n ≠ writeLength ∨ fin = true
    · exact .inl (stays rfl short)
    · -- Everything that the windows permit has been sent, so one of them is exhausted.
      rw [not_or, not_not, Bool.not_eq_true] at short
      have more : min sender.sendWindowSize call.connectionWindow < sender.bufferedDataBytes := by
        by_contra fits
        rw [short.2, decide_eq_true (not_lt.mp fits), Bool.and_true] at fin_eq
        rw [fin_eq] at rest
        have left := rest.resolve_right Bool.false_ne_true
        omega
      rcases Nat.le_total call.connectionWindow sender.sendWindowSize with connection | stream
      · exact waits (by rw [decide_eq_false (by omega), Bool.and_false]) short.1 (by omega)
      · exact .inr (by omega)

/-! ## Turns -/

/-- An application that was turned away, and may still write, has data in the buffer. -/
def Waiting (sender : StreamSender) : Prop :=
  sender.refused = true → sender.writeSideClosed = false → sender.finBuffered = false → sender.hasBufferedData = true

/-- Lost data of a stream that the session holds is listed, unsent data is queued, and an application that was turned
away will be called back, because there is data whose turn is still to come. -/
structure Scheduled (sender : StreamSender) : Prop where
  listed : sender.held = true → sender.hasPendingRetransmission = true → sender.retransmissionListed = true
  queued : sender.Queued
  waiting : sender.Waiting

/-- What a call of the stream comes to. -/
def Continues (transmission : Transmission) (before : StreamSender) (result : Except SendFault StreamSender) : Prop :=
  ∃ after, result = .ok after ∧ after.Sound transmission ∧ after.Scheduled ∧ Quiet before after

/-- The stream accepts data or the FIN. -/
theorem Sound.accept (sound : sender.Sound transmission) (flags : SendFlags) (taking : sender.finBuffered = false)
    {len : Nat} (inside : sender.buffer.streamOffset + len ≤ transmission.length)
    (last : fin = true → sender.buffer.streamOffset + len = transmission.length) :
    ∃ slices writeIndex,
      sender.buffer.saveStreamData flags (readBytes transmission.content sender.buffer.streamOffset len) =
        { sender.buffer with slices, writeIndex, streamOffset := sender.buffer.streamOffset + len } ∧
      Sound transmission { sender with
        buffer := { sender.buffer with slices, writeIndex, streamOffset := sender.buffer.streamOffset + len }
        finBuffered := fin } := by
  obtain ⟨slices, writeIndex, saved, stocked⟩ := sound.holds.stocked.saveStreamData flags len
  have unsent := sound.unsent taking
  exact ⟨slices, writeIndex, saved, { sound with
    holds := ⟨stocked, sound.holds.counted, sound.holds.pending⟩
    within := inside
    ended := last
    finished := fun finSent => absurd (unsent.symm.trans finSent) Bool.noConfusion }⟩

/-- Data is written at once if none was waiting before, and otherwise stays where it is queued. -/
theorem Sound.writeIfIdle (sound : sender.Sound transmission) (unsent : sender.finSent = false) {hadBufferedData : Bool}
    (queued : hadBufferedData = true → sender.Queued) (call : WriteCall) :
    ∃ after, sender.writeIfIdle hadBufferedData call = .ok after ∧ after.Sound transmission ∧ Wrote sender after ∧
      after.Queued := by
  rw [StreamSender.writeIfIdle]
  split_ifs with idle
  · exact sound.writeBufferedData unsent call
  · refine ⟨sender, rfl, sound, .refl sender sender.writeBlocked, ?_⟩
    cases hadBufferedData with
    | true => exact queued rfl
    | false =>
      rw [Bool.not_false, Bool.true_and, Bool.or_eq_true, not_or] at idle
      exact fun unsent => absurd unsent.2 (not_or.mpr ⟨idle.1, fun fin => idle.2 fin.1⟩)

theorem Wrote.keeps_listed (wrote : Wrote before after)
    (listed : before.hasPendingRetransmission = true → before.retransmissionListed = true) :
    after.hasPendingRetransmission = true → after.retransmissionListed = true := by
  rw [wrote.listed, hasPendingRetransmission, SendBuffer.hasPendingRetransmission, wrote.pending, wrote.finLost]
  exact listed

theorem hasBufferedData_of_full (positive : 0 < threshold) (full : sender.canWriteNewData threshold = false) :
    sender.hasBufferedData = true := by
  rw [canWriteNewData, decide_eq_false_iff_not, bufferedDataBytes] at full
  rw [hasBufferedData, decide_eq_true_eq]
  omega

/-- Data or a FIN that the stream has just accepted. -/
theorem Sound.acceptAndWrite (sound : sender.Sound transmission) (scheduled : sender.Scheduled)
    (held : sender.held = true) (flags : SendFlags) (opened : sender.writeSideClosed = false)
    (taking : sender.finBuffered = false) {len : Nat}
    (inside : sender.buffer.streamOffset + len ≤ transmission.length)
    (last : fin = true → sender.buffer.streamOffset + len = transmission.length) (call : WriteCall) :
    ∃ after, StreamSender.writeIfIdle { sender with
        buffer := sender.buffer.saveStreamData flags (readBytes transmission.content sender.buffer.streamOffset len)
        finBuffered := fin } sender.hasBufferedData call = .ok after ∧
      after.Sound transmission ∧ Quiet sender after ∧ after.Queued ∧ after.finBuffered = fin ∧
      (after.hasPendingRetransmission = true → after.retransmissionListed = true) := by
  obtain ⟨slices, writeIndex, saved, noted⟩ := sound.accept flags taking inside last
  rw [saved]
  have queued : sender.hasBufferedData = true → Queued { sender with
      buffer := { sender.buffer with slices, writeIndex, streamOffset := sender.buffer.streamOffset + len }
      finBuffered := fin } := fun had _ => scheduled.queued ⟨opened, .inl had⟩
  obtain ⟨after, result, sound', wrote, queued'⟩ := noted.writeIfIdle (sound.unsent taking) queued call
  exact ⟨after, result, sound', ⟨wrote.bytesAcked, wrote.sent, wrote.finAcked⟩, queued', wrote.finBuffered,
    wrote.keeps_listed (scheduled.listed held)⟩

theorem saveStreamData_nil (flags : SendFlags) (buffer : SendBuffer) : buffer.saveStreamData flags [] = buffer := rfl

/-- `WritevData`, with the note that it turned the application away. -/
theorem Sound.writev (sound : sender.Sound transmission) (scheduled : sender.Scheduled) (held : sender.held = true)
    (flags : SendFlags) (admitted : sender.permits transmission (.writev length fin threshold call)) :
    Continues transmission sender (sender.step flags transmission (.writev length fin threshold call)) := by
  obtain ⟨positive, short, taken⟩ := admitted
  have turnedAway : sender.writeSideClosed = true ∨ sender.finBuffered = true ∨ sender.hasBufferedData = true →
      ∀ refused, Sound transmission { sender with refused } ∧ Scheduled { sender with refused } ∧
        Quiet sender { sender with refused } := by
    intro busy refused
    refine ⟨{ sound with }, ⟨scheduled.listed, scheduled.queued, fun _ opened taking => ?_⟩,
      ⟨rfl, List.prefix_rfl, And.intro⟩⟩
    rcases busy with closed | finBuffered | buffered
    · exact absurd (opened.symm.trans closed) Bool.noConfusion
    · exact absurd (taking.symm.trans finBuffered) Bool.noConfusion
    · exact buffered
  have settles : ∀ after : StreamSender, after.Sound transmission → Quiet sender after → after.Queued →
      (after.hasPendingRetransmission = true → after.retransmissionListed = true) → ∀ refused, refused = false →
      Sound transmission { after with refused } ∧ Scheduled { after with refused } ∧ Quiet sender { after with refused } := by
    intro after sound' quiet queued listed refused satisfied
    refine ⟨{ sound' with }, ⟨fun _ => listed, queued, fun still => ?_⟩,
      ⟨quiet.bytesAcked, quiet.sent, quiet.finAcked⟩⟩
    exact absurd (satisfied.symm.trans still) Bool.noConfusion
  unfold step
  dsimp only [writevData]
  rcases Bool.eq_false_or_eq_true sender.writeSideClosed with closed | opened
  · rw [if_pos closed]
    exact ⟨_, rfl, turnedAway (.inl closed) _⟩
  rw [if_neg (by simp [opened])]
  rcases Bool.eq_false_or_eq_true sender.finBuffered with finBuffered | taking
  · rw [if_pos finBuffered]
    exact ⟨_, rfl, turnedAway (.inr (.inl finBuffered)) _⟩
  rw [if_neg (by simp [taking]), length_readBytes, if_neg (by
    rw [Bool.and_eq_true, decide_eq_true_eq, not_and, not_lt]
    exact fun _ => by omega)]
  rcases Bool.eq_false_or_eq_true (sender.canWriteNewData threshold) with room | full
  · have saved : (if 0 < length then
          sender.buffer.saveStreamData flags (readBytes transmission.content sender.buffer.streamOffset length)
        else sender.buffer) =
        sender.buffer.saveStreamData flags (readBytes transmission.content sender.buffer.streamOffset length) := by
      split_ifs with some_data
      · rfl
      · rw [Nat.eq_zero_of_not_pos some_data]
        rfl
    obtain ⟨inside, last⟩ := taken (by simp [takes, opened, taking, room])
    obtain ⟨after, result, sound', quiet, queued, -, listed⟩ :=
      sound.acceptAndWrite scheduled held flags opened taking inside last call
    rw [if_pos room, decide_eq_true rfl, Bool.true_and, saved, result]
    refine ⟨_, rfl, settles after sound' quiet queued listed _ ?_⟩
    cases length <;> simp
  · rw [if_neg (by simp [full]), if_neg (Nat.lt_irrefl 0)]
    rcases Nat.eq_zero_or_pos length with rfl | some_data
    · obtain ⟨inside, last⟩ := taken (by simp [takes, opened, taking])
      obtain ⟨after, result, sound', quiet, queued, -, listed⟩ :=
        sound.acceptAndWrite scheduled held flags opened taking inside last call
      rw [readBytes_zero, saveStreamData_nil] at result
      rw [decide_eq_true (rfl : 0 = 0), Bool.true_and, result]
      exact ⟨_, rfl, settles after sound' quiet queued listed _ rfl⟩
    · have had := hasBufferedData_of_full positive full
      have same : ({ sender with finBuffered := false } : StreamSender) = sender := by rw [← taking]
      rw [decide_eq_false (show ¬ 0 = length by omega), Bool.false_and, same, StreamSender.writeIfIdle, if_neg (by simp [had])]
      exact ⟨_, rfl, turnedAway (.inr (.inr had)) _⟩

theorem Sound.finishWriting (sound : sender.Sound transmission) (scheduled : sender.Scheduled)
    (held : sender.held = true) (admitted : sender.permits transmission (.finishWriting call)) :
    Continues transmission sender (sender.finishWriting call) := by
  have stays : Continues transmission sender (.ok sender) := ⟨sender, rfl, sound, scheduled, .refl sender⟩
  rw [StreamSender.finishWriting]
  split_ifs with finBuffered closed
  · exact stays
  · exact stays
  · rw [Bool.not_eq_true] at finBuffered closed
    have all : sender.buffer.streamOffset = transmission.length := admitted closed finBuffered
    obtain ⟨after, result, sound', quiet, queued, fin, listed⟩ := sound.acceptAndWrite scheduled held {} closed finBuffered
      (show sender.buffer.streamOffset + 0 ≤ transmission.length by omega) (fun _ => all) call
    rw [readBytes_zero, saveStreamData_nil] at result
    refine ⟨after, result, sound', ⟨fun _ => listed, queued, fun _ _ taking => ?_⟩, quiet⟩
    exact absurd (taking.symm.trans fin) Bool.noConfusion

/-! ## Sending again -/

/-- Only frames have been added and losses taken off the list. -/
def Resent (before after : StreamSender) : Prop :=
  ∃ pendingRetransmissions finLost sent inFlight,
    after = { before with buffer := { before.buffer with pendingRetransmissions }, finLost, sent, inFlight } ∧
      before.sent <+: sent ∧ (∀ x ∈ pendingRetransmissions, x ∈ before.buffer.pendingRetransmissions) ∧
      (finLost = true → before.finLost = true)

theorem Resent.refl (sender : StreamSender) : Resent sender sender :=
  ⟨_, _, _, _, rfl, List.prefix_rfl, fun _ => id, id⟩

theorem Resent.trans {first second third : StreamSender} (earlier : Resent first second) (later : Resent second third) :
    Resent first third := by
  obtain ⟨_, _, _, _, rfl, grown, fewer, lost⟩ := earlier
  obtain ⟨pending, finLost, sent, inFlight, rfl, grown', fewer', lost'⟩ := later
  exact ⟨pending, finLost, sent, inFlight, rfl, grown.trans grown', fun x there => fewer x (fewer' x there),
    fun still => lost (lost' still)⟩

theorem Resent.unchanged (resent : Resent before after) :
    after.buffer.streamBytesWritten = before.buffer.streamBytesWritten ∧
      after.buffer.bytesAcked = before.buffer.bytesAcked ∧ after.finSent = before.finSent ∧
      after.retransmissionListed = before.retransmissionListed := by
  obtain ⟨_, _, _, _, rfl, -⟩ := resent
  exact ⟨rfl, rfl, rfl, rfl⟩

theorem hasPendingRetransmission_of_fewer
    (fewer : ∀ x ∈ after.buffer.pendingRetransmissions, x ∈ before.buffer.pendingRetransmissions)
    (lost : after.finLost = true → before.finLost = true) (still : after.hasPendingRetransmission = true) :
    before.hasPendingRetransmission = true := by
  rw [hasPendingRetransmission, Bool.or_eq_true] at still ⊢
  refine still.imp (fun some_data => ?_) lost
  rw [SendBuffer.hasPendingRetransmission, Bool.not_eq_true', Bool.eq_false_iff, ne_eq, IntervalSet.isEmpty_iff] at some_data ⊢
  exact fun none_left => some_data fun x there => none_left x (fewer x there)

/-- Nothing is lost that was not lost before. -/
theorem Resent.hasPendingRetransmission (resent : Resent before after) (still : after.hasPendingRetransmission = true) :
    before.hasPendingRetransmission = true := by
  obtain ⟨pending, finLost, sent, inFlight, rfl, -, fewer, lost⟩ := resent
  exact hasPendingRetransmission_of_fewer fewer lost still

theorem Resent.quiet (resent : Resent before after) : Quiet before after := by
  obtain ⟨_, _, _, _, rfl, grown, -⟩ := resent
  exact ⟨rfl, grown, And.intro⟩

theorem resent_transmit (sender : StreamSender) (frames : List StreamFrame) (offset n : Nat) {finLost : Bool}
    (fewer : finLost = true → sender.finLost = true) :
    Resent sender { sender.transmit frames with
      buffer := sender.buffer.onStreamDataRetransmitted offset n
      finLost } := by
  have pending : ∀ x ∈ (sender.buffer.onStreamDataRetransmitted offset n).pendingRetransmissions,
      x ∈ sender.buffer.pendingRetransmissions := fun x there => (SendBuffer.mem_onStreamDataRetransmitted.mp there).1
  obtain ⟨pendingRetransmissions, same⟩ := sender.buffer.onStreamDataRetransmitted_eq offset n
  rw [same] at pending ⊢
  exact ⟨pendingRetransmissions, finLost, _, _, rfl, List.prefix_append .., pending, fewer⟩

/-- A stretch that was sent before, with the FIN if that was sent behind it. -/
structure Old (sender : StreamSender) (offset length : Nat) (fin : Bool) : Prop where
  before : offset + length ≤ sender.buffer.streamBytesWritten
  unacked : ∀ x, offset ≤ x → x < offset + length → x ∉ sender.buffer.bytesAcked
  last : fin = true → sender.finSent = true ∧ offset + length = sender.buffer.streamBytesWritten

/-- One `WritevData` for data that was sent before. -/
theorem Sound.resend (sound : sender.Sound transmission) (old : sender.Old offset length fin) (plan : PacketPlan) :
    ∃ n finConsumed frames, sender.writevDataInner length offset fin plan =
        .ok (⟨n, finConsumed⟩, sender.transmit frames) ∧ n ≤ length ∧
      (plan.Takes length → n = length ∧ finConsumed = fin) ∧
      ∀ finLost : Bool, (finLost = true → sender.finLost = true) →
        (sender.finLost = true → finLost = true ∨ finConsumed = true) →
        Sound transmission { sender.transmit frames with
            buffer := sender.buffer.onStreamDataRetransmitted offset n
            finLost } ∧
          Resent sender { sender.transmit frames with
            buffer := sender.buffer.onStreamDataRetransmitted offset n
            finLost } := by
  obtain ⟨n, finConsumed, frames, result, bound, cuts, whole, taken⟩ :=
    writevDataInner_old sound.holds.stocked old.before old.unacked fin plan
  have before := old.before
  refine ⟨n, finConsumed, frames, result, bound, taken, fun finLost fewer keeps => ⟨?_, resent_transmit sender frames _ n fewer⟩⟩
  apply sound.transmitOld cuts (by omega) ?_ fewer keeps
  intro consumed
  obtain ⟨isFin, rfl⟩ := whole consumed
  exact old.last isFin

/-- Lost data, or data of a packet that is sent again, with the note that the stream takes of it. -/
theorem Sound.resendData (sound : sender.Sound transmission) (old : sender.Old offset length fin) (plan : PacketPlan) :
    ∃ n finConsumed frames, sender.writevDataInner length offset fin plan =
        .ok (⟨n, finConsumed⟩, sender.transmit frames) ∧
      (plan.Takes length → n = length ∧ finConsumed = fin) ∧
      ((sender.transmit frames).onStreamFrameRetransmitted offset n finConsumed).Sound transmission ∧
      Resent sender ((sender.transmit frames).onStreamFrameRetransmitted offset n finConsumed) := by
  obtain ⟨n, finConsumed, frames, result, -, taken, resend⟩ := sound.resend old plan
  refine ⟨n, finConsumed, frames, result, taken, resend (sender.finLost && !finConsumed) (fun lost => ?_) fun lost => ?_⟩
  · exact (Bool.and_eq_true_iff.mp lost).1
  · rw [lost]
    cases finConsumed <;> simp

/-- A FIN without data is sent again. -/
theorem Sound.resendFin (sound : sender.Sound transmission) (finSent : sender.finSent = true) (plan : PacketPlan) :
    ∃ finConsumed frames, sender.writevDataInner 0 sender.buffer.streamBytesWritten true plan =
        .ok (⟨0, finConsumed⟩, sender.transmit frames) ∧ (plan.Takes 0 → finConsumed = true) ∧
      ∀ finLost : Bool, (finLost = true → sender.finLost = true) →
        (sender.finLost = true → finLost = true ∨ finConsumed = true) →
        Sound transmission { sender.transmit frames with finLost } ∧
          Resent sender { sender.transmit frames with finLost } := by
  have old : sender.Old sender.buffer.streamBytesWritten 0 true :=
    ⟨le_rfl, fun x low high => by omega, fun _ => ⟨finSent, rfl⟩⟩
  obtain ⟨n, finConsumed, frames, result, bound, taken, resend⟩ := sound.resend old plan
  obtain rfl : n = 0 := Nat.le_zero.mp bound
  rw [SendBuffer.onStreamDataRetransmitted, if_pos rfl] at resend
  exact ⟨finConsumed, frames, result, fun takes => (taken takes).2, resend⟩

theorem nextPendingRetransmission_spec {buffer : SendBuffer}
    (next : buffer.nextPendingRetransmission = some (offset, length)) :
    0 < length ∧ ∀ x, offset ≤ x → x < offset + length → x ∈ buffer.pendingRetransmissions := by
  rw [SendBuffer.nextPendingRetransmission, Option.map_eq_some_iff] at next
  obtain ⟨interval, first, same⟩ := next
  obtain ⟨rfl, rfl⟩ := Prod.mk.inj same
  have member := List.mem_of_head? first
  have some_point : interval.min < interval.max := buffer.pendingRetransmissions.canonical.nonempty interval member
  refine ⟨by omega, fun x low high => IntervalSet.mem_def.mpr ⟨interval, member, low, by omega⟩⟩

/-- How many writes it takes to send again what is lost. -/
def losses (sender : StreamSender) : Nat := sender.buffer.pendingRetransmissions.size + sender.finLost.toNat

theorem nothingLost_of_losses (none_left : sender.losses = 0) : sender.hasPendingRetransmission = false := by
  obtain ⟨no_data, no_fin⟩ := Nat.add_eq_zero_iff.mp none_left
  rw [hasPendingRetransmission, SendBuffer.hasPendingRetransmission, IntervalSet.isEmpty, List.length_eq_zero_iff.mp no_data,
    Bool.toNat_eq_zero.mp no_fin]
  rfl

/-- A stretch that is taken as a whole is lost no more. -/
theorem losses_onStreamFrameRetransmitted (next : sender.buffer.nextPendingRetransmission = some (offset, length))
    (frames : List StreamFrame) (finConsumed : Bool) :
    ((sender.transmit frames).onStreamFrameRetransmitted offset length finConsumed).losses < sender.losses := by
  have some_data := (nextPendingRetransmission_spec next).1
  rw [SendBuffer.nextPendingRetransmission, Option.map_eq_some_iff] at next
  obtain ⟨interval, first, same⟩ := next
  obtain ⟨rfl, rfl⟩ := Prod.mk.inj same
  have fewer := IntervalSet.size_subtract_first first
  have fin_le : (sender.finLost && !finConsumed).toNat ≤ sender.finLost.toNat := by
    cases sender.finLost <;> cases finConsumed <;> decide
  rw [losses, losses, onStreamFrameRetransmitted, SendBuffer.onStreamDataRetransmitted, if_neg some_data.ne',
    Nat.add_sub_cancel' (by omega)]
  dsimp only [transmit]
  omega

/-- The connection takes all that is lost. -/
def Clears (sender : StreamSender) (plans : List PacketPlan) : Prop :=
  (∀ plan ∈ plans, plan.Takes sender.buffer.streamBytesWritten) ∧ sender.losses ≤ plans.length

/-- `WritePendingRetransmission` sends lost data again as far as the connection takes it. -/
theorem Sound.writePendingRetransmission (sound : sender.Sound transmission) (plans : List PacketPlan) :
    ∃ after, StreamSender.writePendingRetransmission plans sender = .ok after ∧ after.Sound transmission ∧
      Resent sender after ∧ (sender.Clears plans → after.hasPendingRetransmission = false) := by
  induction plans generalizing sender with
  | nil =>
    exact ⟨sender, rfl, sound, .refl sender, fun clears => nothingLost_of_losses (Nat.le_zero.mp clears.2)⟩
  | cons plan rest ih =>
    rw [StreamSender.writePendingRetransmission]
    cases next : sender.buffer.nextPendingRetransmission with
    | none =>
      have no_data : sender.buffer.pendingRetransmissions.size = 0 :=
        List.length_eq_zero_iff.mpr (List.head?_eq_none_iff.mp (Option.map_eq_none_iff.mp next))
      dsimp only
      split_ifs with finLost
      · obtain ⟨finConsumed, frames, result, taken, resend⟩ :=
          sound.resendFin (sound.outstanding (sound.lost finLost)) plan
        obtain ⟨sound', resent⟩ := resend (!finConsumed) (fun _ => finLost) (fun _ => by cases finConsumed <;> simp)
        rw [result]
        dsimp only [bind, Except.bind]
        split_ifs with blocked
        · refine ⟨_, rfl, sound', resent, fun clears => ?_⟩
          simp [taken ((clears.1 plan List.mem_cons_self).mono (Nat.zero_le _))] at blocked
        · obtain ⟨after, result', sound'', resent', ends⟩ := ih sound'
          refine ⟨after, result', sound'', resent.trans resent', fun clears => ends ⟨fun other member => ?_, ?_⟩⟩
          · exact clears.1 other (List.mem_cons_of_mem _ member)
          · simp [losses, transmit, no_data, blocked]
      · exact ⟨sender, rfl, sound, .refl sender, fun _ => nothingLost_of_losses (by simp [losses, no_data, finLost])⟩
    | some pending =>
      obtain ⟨offset, length⟩ := pending
      obtain ⟨some_data, pending⟩ := nextPendingRetransmission_spec next
      have before := (sound.holds.pending _ (pending (offset + length - 1) (by omega) (by omega))).1
      obtain ⟨canBundleFin, bundle_eq⟩ : ∃ canBundleFin,
          (sender.finLost && decide (offset + length = sender.buffer.streamBytesWritten)) = canBundleFin := ⟨_, rfl⟩
      have old : sender.Old offset length canBundleFin := by
        refine ⟨by omega, fun x low high => (sound.holds.pending x (pending x low high)).2, fun bundles => ?_⟩
        rw [← bundle_eq, Bool.and_eq_true, decide_eq_true_eq] at bundles
        exact ⟨sound.outstanding (sound.lost bundles.1), bundles.2⟩
      obtain ⟨n, finConsumed, frames, result, taken, sound', resent⟩ := sound.resendData old plan
      dsimp only
      rw [bundle_eq, result]
      dsimp only [bind, Except.bind]
      have whole (clears : sender.Clears (plan :: rest)) : n = length ∧ finConsumed = canBundleFin :=
        taken ((clears.1 plan List.mem_cons_self).mono (by omega))
      split_ifs with blocked
      · refine ⟨_, rfl, sound', resent, fun clears => ?_⟩
        obtain ⟨rfl, rfl⟩ := whole clears
        simp at blocked
      · obtain ⟨after, result', sound'', resent', ends⟩ := ih sound'
        refine ⟨after, result', sound'', resent.trans resent', fun clears => ends ⟨fun other member => ?_, ?_⟩⟩
        · rw [resent.unchanged.1]
          exact clears.1 other (List.mem_cons_of_mem _ member)
        · obtain ⟨rfl, -⟩ := whole clears
          exact Nat.le_of_lt_succ ((losses_onStreamFrameRetransmitted next frames finConsumed).trans_le clears.2)

/-- Sending again does not change what waits to be sent for the first time. -/
theorem Resent.scheduled (resent : Resent before after) (scheduled : before.Scheduled) :
    after.Queued ∧ after.Waiting := by
  obtain ⟨_, _, _, _, rfl, -⟩ := resent
  exact ⟨scheduled.queued, scheduled.waiting⟩

/-- `OnCanWrite` of a stream that has lost nothing: it writes, and calls the application back if there is room. -/
theorem Sound.onCanWrite_new (sound : sender.Sound transmission) (nothingLost : sender.hasPendingRetransmission = false)
    (threshold : Nat) (plans : List PacketPlan) (call : WriteCall) :
    ∃ after, sender.onCanWrite threshold plans call = .ok after ∧ after.Sound transmission ∧ after.Queued ∧
      (after.refused = true → after.writeSideClosed = false → after.finBuffered = false →
        after.canWriteNewData threshold = false) ∧
      after.hasPendingRetransmission = false ∧ Quiet sender after := by
  rw [StreamSender.onCanWrite, if_neg (by simp [nothingLost])]
  rcases Bool.eq_false_or_eq_true sender.writeSideClosed with closed | opened
  · rw [if_pos closed]
    have stays : ¬ sender.writeSideClosed = false := by simp [closed]
    exact ⟨sender, rfl, sound, fun unsent => absurd unsent.1 stays, fun _ opened => absurd opened stays, nothingLost,
      .refl sender⟩
  rw [if_neg (by simp [opened])]
  obtain ⟨written, result, sound', wrote, queued⟩ : ∃ written,
      (if (sender.hasBufferedData || sender.finBuffered && !sender.finSent) = true then sender.writeBufferedData call
        else .ok sender) = .ok written ∧ written.Sound transmission ∧ Wrote sender written ∧ written.Queued := by
    split_ifs with unsent
    · apply sound.writeBufferedData
      by_contra finSent
      rw [Bool.not_eq_false] at finSent
      have all := (sound.finished finSent).2
      simp [finSent, hasBufferedData, all] at unsent
    · refine ⟨sender, rfl, sound, .refl sender sender.writeBlocked, fun still => absurd ?_ unsent⟩
      simpa using still.2
  rw [result]
  have lostNothing : written.hasPendingRetransmission = false := by
    rw [hasPendingRetransmission, SendBuffer.hasPendingRetransmission, wrote.pending, wrote.finLost]
    exact nothingLost
  dsimp only [Except.map]
  split_ifs with room
  · refine ⟨_, rfl, { sound' with }, queued, by simp, lostNothing,
      ⟨wrote.bytesAcked, wrote.sent, wrote.finAcked⟩⟩
  · refine ⟨written, rfl, sound', queued, fun _ _ taking => ?_, lostNothing, wrote.toQuiet⟩
    rw [taking, sound'.unsent taking, Bool.not_false, Bool.true_and, Bool.true_and, Bool.not_eq_true] at room
    exact room

/-- Nothing is lost while the stream is held and not in the list of the session. -/
theorem Scheduled.nothingLost (scheduled : sender.Scheduled) (held : sender.held = true)
    (unlisted : sender.retransmissionListed = false) : sender.hasPendingRetransmission = false := by
  by_contra lost
  rw [Bool.not_eq_false] at lost
  exact absurd (unlisted.symm.trans (scheduled.listed held lost)) Bool.noConfusion

theorem Sound.takeTurn (sound : sender.Sound transmission) (scheduled : sender.Scheduled) (held : sender.held = true)
    {plans : List PacketPlan} (admitted : sender.permits transmission (.takeTurn threshold plans call)) :
    Continues transmission sender (sender.takeTurn threshold plans call) := by
  obtain ⟨positive, -, unlisted⟩ := admitted
  have nothingLost := scheduled.nothingLost held unlisted
  rw [StreamSender.takeTurn]
  split_ifs with exhausted
  · exact ⟨_, rfl, sound.writeBlocked false, ⟨scheduled.listed, fun _ => .inr exhausted, scheduled.waiting⟩, rfl,
      List.prefix_rfl, And.intro⟩
  · obtain ⟨after, result, sound', queued, full, lostNothing, quiet⟩ :=
      (sound.writeBlocked false).onCanWrite_new nothingLost threshold plans call
    refine ⟨after, result, sound', ⟨fun _ lost => ?_, queued, fun refused opened taking => ?_⟩,
      ⟨quiet.bytesAcked, quiet.sent, quiet.finAcked⟩⟩
    · exact absurd (lostNothing.symm.trans lost) Bool.noConfusion
    · exact hasBufferedData_of_full positive (full refused opened taking)

theorem Sound.onCanWrite (sound : sender.Sound transmission) (scheduled : sender.Scheduled) (positive : 0 < threshold)
    (plans : List PacketPlan) (call : WriteCall) :
    ∃ after, sender.onCanWrite threshold plans call = .ok after ∧ after.Sound transmission ∧ after.Queued ∧
      after.Waiting ∧ Quiet sender after ∧ (sender.Clears plans → after.hasPendingRetransmission = false) := by
  rcases Bool.eq_false_or_eq_true sender.hasPendingRetransmission with lost | nothingLost
  · obtain ⟨after, result, sound', resent, ends⟩ := sound.writePendingRetransmission plans
    obtain ⟨queued, waiting⟩ := resent.scheduled scheduled
    exact ⟨after, by rw [StreamSender.onCanWrite, if_pos lost, result], sound', queued, waiting, resent.quiet, ends⟩
  · obtain ⟨after, result, sound', queued, full, lostNothing, quiet⟩ :=
      sound.onCanWrite_new nothingLost threshold plans call
    exact ⟨after, result, sound', queued,
      fun refused opened taking => hasBufferedData_of_full positive (full refused opened taking), quiet,
      fun _ => lostNothing⟩

theorem Sound.retransmitLostData (sound : sender.Sound transmission) (scheduled : sender.Scheduled)
    (positive : 0 < threshold) (plans : List PacketPlan) (call : WriteCall) :
    Continues transmission sender (sender.retransmitLostData threshold plans call) := by
  obtain ⟨after, result, sound', queued, waiting, quiet, -⟩ := sound.onCanWrite scheduled positive plans call
  rw [StreamSender.retransmitLostData, result]
  exact ⟨_, rfl, { sound' with }, ⟨fun _ => id, queued, waiting⟩,
    ⟨quiet.bytesAcked, quiet.sent, quiet.finAcked⟩⟩

/-- The loop of `RetransmitStreamData`. -/
theorem Sound.retransmitIntervals (sound : sender.Sound transmission) {intervals : List (Machine.Interval Nat)}
    (unacked : ∀ interval ∈ intervals, interval.min < interval.max ∧ interval.max ≤ sender.buffer.streamBytesWritten ∧
      ∀ x, interval.min ≤ x → x < interval.max → x ∉ sender.buffer.bytesAcked)
    (plans : List PacketPlan) {retransmitFin : Bool} (sent : retransmitFin = true → sender.finSent = true) :
    ∃ ended stillFin plans' after, StreamSender.retransmitIntervals intervals plans retransmitFin sender =
        .ok (ended, stillFin, plans', after) ∧
      after.Sound transmission ∧ Resent sender after ∧ (stillFin = true → after.finSent = true) := by
  induction intervals generalizing sender plans retransmitFin with
  | nil => exact ⟨true, retransmitFin, plans, sender, rfl, sound, .refl sender, sent⟩
  | cons interval rest ih =>
    cases plans with
    | nil => exact ⟨false, retransmitFin, [], sender, rfl, sound, .refl sender, sent⟩
    | cons plan plans =>
      obtain ⟨some_point, below, fresh⟩ := unacked interval (List.mem_cons_self ..)
      have stop : interval.min + (interval.max - interval.min) = interval.max := by omega
      obtain ⟨canBundleFin, bundle_eq⟩ : ∃ canBundleFin, (retransmitFin &&
          decide (interval.min + (interval.max - interval.min) = sender.buffer.streamBytesWritten)) = canBundleFin :=
        ⟨_, rfl⟩
      have old : sender.Old interval.min (interval.max - interval.min) canBundleFin := by
        refine ⟨stop.le.trans below, fun x low high => fresh x low (stop ▸ high), fun bundles => ?_⟩
        rw [← bundle_eq, Bool.and_eq_true, decide_eq_true_eq] at bundles
        exact ⟨sent bundles.1, bundles.2⟩
      obtain ⟨n, finConsumed, frames, result, -, sound', resent⟩ := sound.resendData old plan
      obtain ⟨written, acked, finSent, -⟩ := resent.unchanged
      obtain ⟨stillFin, still_eq⟩ :
          ∃ stillFin, (if canBundleFin = true then !finConsumed else retransmitFin) = stillFin := ⟨_, rfl⟩
      have sent' : stillFin = true →
          ((sender.transmit frames).onStreamFrameRetransmitted interval.min n finConsumed).finSent = true := by
        rw [finSent, ← still_eq]
        split_ifs with bundles
        · exact fun _ => (old.last bundles).1
        · exact sent
      rw [StreamSender.retransmitIntervals]
      dsimp only
      rw [bundle_eq, result]
      dsimp only [bind, Except.bind]
      rw [still_eq]
      split_ifs with blocked
      · exact ⟨false, stillFin, plans, _, rfl, sound', resent, sent'⟩
      · have unacked' := fun other member => unacked other (List.mem_cons_of_mem _ member)
        rw [← written, ← acked] at unacked'
        obtain ⟨ended, stillFin', plans', after, result', sound'', resent', sent''⟩ := ih sound' unacked' plans sent'
        exact ⟨ended, stillFin', plans', after, result', sound'', resent.trans resent', sent''⟩

/-- `RetransmitStreamData` for a frame that was sent. -/
theorem Sound.retransmitStreamData (sound : sender.Sound transmission) (scheduled : sender.Scheduled)
    (held : sender.held = true) (sent : frame ∈ sender.sent) (plans : List PacketPlan) :
    Continues transmission sender (sender.retransmitStreamData frame plans) := by
  obtain ⟨-, below, -⟩ := sound.frames frame sent
  have unacked : ∀ interval ∈ (sender.buffer.newlyAcked frame.offset frame.data.length).intervals,
      interval.min < interval.max ∧ interval.max ≤ sender.buffer.streamBytesWritten ∧
      ∀ x, interval.min ≤ x → x < interval.max → x ∉ sender.buffer.bytesAcked := by
    intro interval member
    have inside : ∀ x, interval.min ≤ x → x < interval.max →
        (frame.offset ≤ x ∧ x < frame.offset + frame.data.length) ∧ x ∉ sender.buffer.bytesAcked := fun x low high =>
      SendBuffer.mem_newlyAcked.mp (IntervalSet.mem_def.mpr ⟨interval, member, low, high⟩)
    have some_point := (sender.buffer.newlyAcked frame.offset frame.data.length).canonical.nonempty interval member
    have final := (inside (interval.max - 1) (by omega) (by omega)).1
    exact ⟨some_point, by omega, fun x low high => (inside x low high).2⟩
  have continues : ∀ after : StreamSender, after.Sound transmission → Resent sender after →
      Continues transmission sender (.ok after) := by
    intro after sound' resent
    obtain ⟨queued, waiting⟩ := resent.scheduled scheduled
    refine ⟨after, rfl, sound', ⟨fun _ lost => ?_, queued, waiting⟩, resent.quiet⟩
    rw [resent.unchanged.2.2.2]
    exact scheduled.listed held (resent.hasPendingRetransmission lost)
  obtain ⟨ended, stillFin, plans', after, result, sound', resent, finSent⟩ :=
    sound.retransmitIntervals unacked plans
      (fun fin : (frame.fin && sender.finOutstanding) = true => sound.outstanding (Bool.and_eq_true_iff.mp fin).2)
  rw [StreamSender.retransmitStreamData, result]
  dsimp only [bind, Except.bind]
  split_ifs with alone
  · obtain ⟨finConsumed, frames, result', -, resend⟩ :=
      sound'.resendFin (finSent (Bool.and_eq_true_iff.mp alone).2) (plans'.headD {})
    obtain ⟨sound'', resent'⟩ := resend after.finLost id .inl
    rw [result']
    exact continues _ sound'' (resent.trans resent')
  · exact continues after sound' resent

/-! ## Acknowledgements and losses -/

/-- A frame that was sent is acknowledged. -/
theorem Sound.onStreamFrameAcked (sound : sender.Sound transmission) (scheduled : sender.Scheduled)
    (held : sender.held = true) (sent : frame ∈ sender.sent) :
    ∃ after, sender.onStreamFrameAcked frame = .ok after ∧ after.Sound transmission ∧ after.Scheduled ∧
      (∀ x, x ∈ after.buffer.bytesAcked ↔ x ∈ sender.buffer.bytesAcked ∨ frame.Carries x) ∧
      after.sent = sender.sent ∧ after.finSent = sender.finSent ∧
      after.finOutstanding = (sender.finOutstanding && !frame.fin) := by
  obtain ⟨-, below, finSent⟩ := sound.frames frame sent
  obtain ⟨newly, buffer, result, holds, acked, pending, offset, written⟩ :=
    sound.holds.onStreamDataAcked below
  let acked' := { sender with
    buffer
    finOutstanding := sender.finOutstanding && !frame.fin
    finLost := sender.finLost && !frame.fin
    inFlight := sender.inFlight.erase frame }
  have answer : sender.onStreamFrameAcked frame = .ok { acked' with
      retransmissionListed := sender.retransmissionListed && acked'.held && acked'.hasPendingRetransmission } := by
    rw [StreamSender.onStreamFrameAcked, result]
    refine if_neg ?_
    rw [Bool.and_eq_true, Bool.not_eq_true', not_and]
    exact fun unsent fin => absurd (unsent.symm.trans (finSent fin)) Bool.noConfusion
  refine ⟨_, answer, ⟨holds, offset ▸ sound.within, offset ▸ sound.ended, ?_, fun still => ?_, fun still => ?_, ?_, ?_, ?_,
    written ▸ sound.window⟩, ⟨fun still lost => ?_, ?_, ?_⟩, acked, rfl, rfl, rfl⟩
  · rw [offset, written]
    exact sound.finished
  · exact sound.outstanding (Bool.and_eq_true_iff.mp still).1
  · rw [Bool.and_eq_true] at still ⊢
    exact ⟨sound.lost still.1, still.2⟩
  · rw [written]
    exact sound.frames
  · rw [written]
    intro x below
    rcases sound.covered x below with old | pending' | ⟨other, member, carries⟩
    · exact .inl ((acked x).mpr (.inl old))
    · by_cases carries : frame.Carries x
      · exact .inl ((acked x).mpr (.inr carries))
      · exact .inr (.inl ((pending x).mpr ⟨pending', carries⟩))
    · rcases eq_or_ne other frame with rfl | different
      · exact .inl ((acked x).mpr (.inr carries))
      · exact .inr (.inr ⟨other, (List.mem_erase_of_ne different).mpr member, carries⟩)
  · intro still
    obtain ⟨outstanding, unfinished⟩ := Bool.and_eq_true_iff.mp still
    rcases sound.finCovered outstanding with lost | ⟨other, member, fin⟩
    · exact .inl (Bool.and_eq_true_iff.mpr ⟨lost, unfinished⟩)
    · refine .inr ⟨other, (List.mem_erase_of_ne ?_).mpr member, fin⟩
      rintro rfl
      rw [fin] at unfinished
      exact absurd unfinished Bool.noConfusion
  · have before := scheduled.listed held (hasPendingRetransmission_of_fewer (fun x there => ((pending x).mp there).1)
      (fun still => (Bool.and_eq_true_iff.mp still).1) lost)
    exact Bool.and_eq_true_iff.mpr ⟨Bool.and_eq_true_iff.mpr ⟨before, still⟩, lost⟩
  · intro unsent
    rw [Unsent, hasBufferedData, offset, written] at unsent
    rw [sendWindowSize, written]
    exact scheduled.queued unsent
  · rw [Waiting, hasBufferedData, offset, written]
    exact scheduled.waiting

/-- A frame that was sent is declared lost. -/
theorem Sound.onStreamFrameLost (sound : sender.Sound transmission) (scheduled : sender.Scheduled)
    (sent : frame ∈ sender.sent) : Continues transmission sender (.ok (sender.onStreamFrameLost frame)) := by
  obtain ⟨-, below, finSent⟩ := sound.frames frame sent
  have holds := sound.holds.onStreamDataLost below
  have pending : ∀ x, x ∈ (sender.buffer.onStreamDataLost frame.offset frame.data.length).pendingRetransmissions ↔
      x ∈ sender.buffer.pendingRetransmissions ∨ frame.Carries x ∧ x ∉ sender.buffer.bytesAcked :=
    fun x => SendBuffer.mem_onStreamDataLost
  obtain ⟨pendingRetransmissions, same⟩ := sender.buffer.onStreamDataLost_eq frame.offset frame.data.length
  refine ⟨_, rfl, ?_, ?_⟩
  all_goals rw [StreamSender.onStreamFrameLost, same]
  · rw [same] at holds pending
    refine ⟨holds, sound.within, sound.ended, sound.finished, sound.outstanding, fun lost => ?_, sound.frames, ?_, ?_,
      sound.window⟩
    · exact (Bool.or_eq_true_iff.mp lost).elim sound.lost fun now => (Bool.and_eq_true_iff.mp now).2
    · intro x below
      rcases sound.covered x below with acked | pending' | ⟨other, member, carries⟩
      · exact .inl acked
      · exact .inr (.inl ((pending x).mpr (.inl pending')))
      · rcases eq_or_ne other frame with rfl | different
        · by_cases acked : x ∈ sender.buffer.bytesAcked
          · exact .inl acked
          · exact .inr (.inl ((pending x).mpr (.inr ⟨carries, acked⟩)))
        · exact .inr (.inr ⟨other, (List.mem_erase_of_ne different).mpr member, carries⟩)
    · intro outstanding
      rcases sound.finCovered outstanding with lost | ⟨other, member, fin⟩
      · exact .inl (Bool.or_eq_true_iff.mpr (.inl lost))
      · rcases eq_or_ne other frame with rfl | different
        · exact .inl (Bool.or_eq_true_iff.mpr (.inr (Bool.and_eq_true_iff.mpr ⟨fin, outstanding⟩)))
        · exact .inr ⟨other, (List.mem_erase_of_ne different).mpr member, fin⟩
  · refine ⟨⟨fun _ lost => Bool.or_eq_true_iff.mpr (.inr lost), scheduled.queued, scheduled.waiting⟩, rfl,
      List.prefix_rfl, And.intro⟩

theorem Sound.onWindowUpdate (sound : sender.Sound transmission) (scheduled : sender.Scheduled) (offset : Nat) :
    Continues transmission sender (.ok (sender.onWindowUpdate offset)) := by
  refine ⟨_, rfl, ?_⟩
  rw [StreamSender.onWindowUpdate]
  split_ifs with known
  · exact ⟨sound, scheduled, .refl sender⟩
  · refine ⟨⟨sound.holds, sound.within, sound.ended, sound.finished, sound.outstanding, sound.lost, sound.frames,
      sound.covered, sound.finCovered, sound.window.trans (not_le.mp known).le⟩,
      ⟨scheduled.listed, fun unsent => .inl ?_, scheduled.waiting⟩, rfl, List.prefix_rfl, And.intro⟩
    exact Bool.or_eq_true_iff.mpr ((scheduled.queued unsent).imp id (decide_eq_true (p := sender.sendWindowSize = 0)))

/-- A closed stream has nothing more to write, and what it has lost stays in the list while the session holds it. -/
theorem Sound.closeStream (sound : sender.Sound transmission) (scheduled : sender.Scheduled)
    (held : sender.held = true) : Continues transmission sender (.ok sender.closeStream) := by
  refine ⟨_, rfl, { sound with }, ⟨fun still lost => ?_, fun unsent => ?_, fun _ opened => ?_⟩, rfl,
    List.prefix_rfl, And.intro⟩
  · exact Bool.and_eq_true_iff.mpr ⟨scheduled.listed held lost, still⟩
  · exact absurd unsent.1 Bool.noConfusion
  · exact absurd opened Bool.noConfusion

/-! ## Runs -/

theorem start_sound (transmission : Transmission) (sendWindowOffset : Nat) :
    Sound transmission { sendWindowOffset } ∧ Scheduled { sendWindowOffset } := by
  refine ⟨⟨⟨⟨⟨0, by simp, rfl⟩, by simp, .inl ⟨rfl, rfl⟩⟩, rfl, by simp⟩, Nat.zero_le _, by simp, by simp, by simp, by simp,
    by simp, by simp, by simp, Nat.zero_le _⟩, ⟨fun _ lost => ?_, ?_, by simp [Waiting]⟩⟩
  · exact absurd lost Bool.noConfusion
  · rintro ⟨-, buffered | fin⟩
    · exact absurd buffered Bool.noConfusion
    · exact absurd fin.1 Bool.noConfusion

theorem held_of_finds {label : SenderLabel} (found : sender.finds label = true) : sender.held = true := by
  cases label <;> first | exact found | exact Bool.or_eq_true_iff.mpr (.inl found)

/-- Every admitted step is carried out and keeps the stream sound. -/
theorem Sound.step (sound : sender.Sound transmission) (scheduled : sender.Scheduled) {label : SenderLabel}
    (admitted : sender.admits transmission label) (flags : SendFlags) :
    ∃ after, sender.step flags transmission label = .ok after ∧ after.Sound transmission ∧ after.Scheduled := by
  have of_continues : ∀ {result}, Continues transmission sender result →
      ∃ after, result = .ok after ∧ after.Sound transmission ∧ after.Scheduled :=
    fun ⟨after, result, sound, scheduled, _⟩ => ⟨after, result, sound, scheduled⟩
  obtain ⟨found, admitted⟩ := admitted
  have held := held_of_finds found
  cases label with
  | writev length fin threshold call => exact of_continues (sound.writev scheduled held flags admitted)
  | finishWriting call => exact of_continues (sound.finishWriting scheduled held admitted)
  | takeTurn threshold plans call => exact of_continues (sound.takeTurn scheduled held admitted)
  | retransmitLostData threshold plans call =>
    exact of_continues (sound.retransmitLostData scheduled admitted.1 plans call)
  | onStreamFrameAcked frame =>
    obtain ⟨after, result, sound', scheduled', -⟩ := sound.onStreamFrameAcked scheduled held admitted
    exact ⟨after, result, sound', scheduled'⟩
  | onStreamFrameLost frame => exact of_continues (sound.onStreamFrameLost scheduled admitted)
  | retransmitStreamData frame plans => exact of_continues (sound.retransmitStreamData scheduled held admitted plans)
  | onWindowUpdate offset => exact of_continues (sound.onWindowUpdate scheduled offset)
  | closeStream => exact of_continues (sound.closeStream scheduled held)

theorem reachable_sound {flags : SendFlags} {sendWindowOffset : Nat}
    (run : (system flags transmission).Reachable { sendWindowOffset } sender) :
    sender.Sound transmission ∧ sender.Scheduled := by
  apply run.invariant (start_sound transmission sendWindowOffset)
  rintro before label after ⟨sound, scheduled⟩ admitted stepped
  obtain ⟨after', result, ready⟩ := sound.step scheduled admitted flags
  rw [Except.ok.inj (stepped.symm.trans result)]
  exact ready

end StreamSender

end PosixQuic
