import PosixQuic.Model.StreamReceiver
import PosixQuic.Soundness.SequencerReads

/-! # What the callbacks of a stream deliver

A stream hands its delegate the peer's bytes in order and without a gap, then the end of the stream, and it does so as
soon as the bytes have arrived: between two frames nothing that could be read is left in the buffer. The invariant has
two parts, what the buffer holds and what the callbacks have been; every way of closing the stream is one relation.
-/

namespace PosixQuic

open Machine (IntervalSet)

namespace StreamReceiver

variable {layout : BufferLayout} {transmission : Transmission} {stream before after : StreamReceiver layout}
  {frame : StreamFrame}

/-! ## Closing -/

/-- The stream leaves its session: both sides are closed and the delegate is told. -/
structure Closes (before after : StreamReceiver layout) : Prop where
  callbacks : after.callbacks = before.callbacks ++ [.onClose]
  isOpen : after.isOpen = false
  readSide : after.readSideClosed = true
  writeSide : after.writeSideClosed = true
  buffer : after.buffer = if before.readSideClosed then before.buffer else before.buffer.clear
  closeOffset : after.closeOffset = before.closeOffset
  ignoreReadData : after.ignoreReadData = before.ignoreReadData

theorem closes_closeStreamInner (opened : stream.isOpen = true) (locallyReset : Bool) :
    Closes stream (stream.closeStreamInner locallyReset) := by
  rw [closeStreamInner, if_pos opened]
  cases readSide : stream.readSideClosed <;>
    constructor <;> simp only [onClose, releaseReadSide, notify, readSide] <;> split_ifs <;> simp_all

theorem closes_reset (opened : stream.isOpen = true) : Closes stream stream.reset :=
  { closes_closeStreamInner opened true with }

/-- A stream is in its session just as long as one of its sides is open. -/
def SidesAgree (stream : StreamReceiver layout) : Prop :=
  stream.isOpen = !(stream.readSideClosed && stream.writeSideClosed)

/-- The side that is closed last closes the stream. -/
theorem closeReadSide_eq (opened : stream.isOpen = true) (readSide : stream.readSideClosed = false)
    (writeSide : stream.writeSideClosed = true) : stream.closeReadSide = stream.closeStreamInner false := by
  simp [closeReadSide, closeStreamInner, onClose, releaseReadSide, opened, readSide, writeSide]

theorem closeWriteSide_eq (opened : stream.isOpen = true) (readSide : stream.readSideClosed = true)
    (writeSide : stream.writeSideClosed = false) : stream.closeWriteSide = stream.closeStreamInner false := by
  simp [closeWriteSide, closeStreamInner, onClose, releaseReadSide, opened, readSide, writeSide]

theorem closeWriteSide_of_readSideOpen (readSide : stream.readSideClosed = false) :
    stream.closeWriteSide = { stream with writeSideClosed := true } := by
  rcases stream with ⟨_, _, _, _, ⟨⟩ | ⟨⟩⟩ <;> simp_all [closeWriteSide]

theorem closeBothSides_eq (opened : stream.isOpen = true) (agree : stream.SidesAgree) :
    stream.closeWriteSide.closeReadSide = stream.closeStreamInner false := by
  cases readSide : stream.readSideClosed with
  | true =>
    have writeSide : stream.writeSideClosed = false := by simpa [SidesAgree, opened, readSide] using agree
    rw [closeWriteSide_eq opened readSide writeSide, closeReadSide, if_pos (closes_closeStreamInner opened false).readSide]
  | false =>
    rw [closeWriteSide_of_readSideOpen readSide,
      @closeReadSide_eq _ { stream with writeSideClosed := true } opened readSide rfl]
    simp [closeStreamInner, onClose, releaseReadSide, opened, readSide]

theorem closes_closeConnection (opened : stream.isOpen = true) (connected : stream.connected = true)
    (agree : stream.SidesAgree) : Closes stream stream.closeConnection := by
  have both : (stream.readSideClosed && stream.writeSideClosed) = false := by
    rw [SidesAgree, opened, eq_comm, Bool.not_eq_true'] at agree
    exact agree
  have closes := @closes_closeStreamInner _ { stream with connected := false } opened false
  rw [closeConnection, if_pos connected, onConnectionClosed, if_pos opened]
  dsimp only
  rw [if_neg (by simp [both]), @closeBothSides_eq _ { stream with connected := false } opened agree, closeStreamInner,
    if_neg (by simp [closes.isOpen])]
  exact { closes with }

/-! ## The invariant -/

/-- What the buffer of a stream may hold. -/
structure Stored (transmission : Transmission) (stream : StreamReceiver layout) : Prop where
  holds : stream.buffer.Holds transmission.content
  within : ∀ x ∈ stream.buffer.bytesReceived, x < transmission.length
  closing : stream.closeOffset = maxOffset ∨ stream.closeOffset = transmission.length

/-- The callbacks behind the data of a stream that is still in its session. The second FIN is what `SHUT_RD` causes when
it comes after the first. -/
def openEndings : List (List StreamEvent) :=
  [[.onFinRead, .onReceived []], [.onFinRead], [.onFinRead, .onReceived [], .onFinRead]]

/-- The callbacks behind the data of a stream that has left its session. -/
def closedEndings : List (List StreamEvent) :=
  [.onClose] :: openEndings.map (· ++ [.onClose]) ++ [[.onClose, .onFinRead, .onReceived []], [.onClose, .onFinRead]]

/-- How the callbacks of a stream end after `len` bytes of data. Unless `SHUT_RD` has been called, all data that has
been read was delivered, and the end of the stream comes after all of its data. -/
def Ending (transmission : Transmission) (stream : StreamReceiver layout) (len : Nat) (ending : List StreamEvent) : Prop :=
  if stream.isOpen then
    if stream.readSideClosed then
      ending ∈ openEndings ∧ stream.closeOffset ≤ stream.buffer.totalBytesRead ∧
        (stream.ignoreReadData = false → ending = [.onFinRead, .onReceived []] ∧ len = transmission.length)
    else ending = [] ∧ (stream.ignoreReadData = false → len = stream.buffer.totalBytesRead)
  else
    ending ∈ closedEndings ∧
      (stream.ignoreReadData = false → ending = [.onClose] ∨ len = transmission.length ∧
        (ending = [.onFinRead, .onReceived [], .onClose] ∨ ending = [.onClose, .onFinRead, .onReceived []]))

/-- What the callbacks of a stream have been. -/
def Logged (transmission : Transmission) (stream : StreamReceiver layout) : Prop :=
  ∃ (chunks : List (List UInt8)) (len : Nat) (ending : List StreamEvent),
    stream.callbacks = chunks.map .onReceived ++ ending ∧ (∀ chunk ∈ chunks, chunk ≠ []) ∧
      chunks.flatten = readBytes transmission.content 0 len ∧ len ≤ transmission.length ∧
      Ending transmission stream len ending

/-- Only the read position matters of the buffer. -/
theorem Logged.of_buffer (logged : stream.Logged transmission) {buffer : SequencerBuffer layout}
    (total : buffer.totalBytesRead = stream.buffer.totalBytesRead) : Logged transmission { stream with buffer } := by
  obtain ⟨chunks, len, ending, callbacks, nonempty, data, inside, ends⟩ := logged
  refine ⟨chunks, len, ending, callbacks, nonempty, data, inside, ?_⟩
  unfold Ending at ends ⊢
  dsimp only
  rw [total]
  exact ends

/-- A stream between two calls. -/
structure Sound (transmission : Transmission) (stream : StreamReceiver layout) : Prop where
  stored : stream.Stored transmission
  logged : stream.Logged transmission
  agree : stream.SidesAgree
  attached : stream.isOpen = true → stream.connected = true
  idle : stream.readSideClosed = false →
    stream.buffer.firstMissingByte = stream.buffer.totalBytesRead ∧ stream.buffer.totalBytesRead < stream.closeOffset

theorem Stored.total_le (stored : stream.Stored transmission) : stream.buffer.totalBytesRead ≤ transmission.length := by
  by_contra beyond
  have arrived := stored.within _ (stored.holds.read transmission.length (by omega))
  omega

theorem Stored.unwrapped (stored : stream.Stored transmission) : stream.buffer.Unwrapped := by
  have read := stored.total_le
  have short := transmission.short
  have small := layout.small
  unfold SequencerBuffer.Unwrapped
  unfold maxStreamLength at short
  omega

/-- Closing keeps what is stored, or drops it. -/
theorem Closes.stored (closes : Closes before after) (read : before.buffer.totalBytesRead ≤ transmission.length)
    (closing : before.closeOffset = maxOffset ∨ before.closeOffset = transmission.length)
    (kept : before.readSideClosed = true → before.Stored transmission) : after.Stored transmission := by
  cases readSide : before.readSideClosed with
  | true =>
    obtain ⟨holds, within, -⟩ := kept readSide
    have buffer := closes.buffer
    rw [readSide, if_pos rfl] at buffer
    exact ⟨buffer ▸ holds, buffer ▸ within, closes.closeOffset ▸ closing⟩
  | false =>
    have buffer := closes.buffer
    rw [readSide, if_neg Bool.false_ne_true] at buffer
    refine ⟨buffer ▸ SequencerBuffer.clear_holds _, ?_, closes.closeOffset ▸ closing⟩
    rw [buffer]
    intro x there
    have below := SequencerBuffer.mem_clear.mp there
    omega

theorem Closes.logged (closes : Closes before after) (opened : before.isOpen = true)
    (logged : before.Logged transmission) : after.Logged transmission := by
  obtain ⟨chunks, len, ending, callbacks, nonempty, data, inside, ends⟩ := logged
  refine ⟨chunks, len, ending ++ [.onClose], ?_, nonempty, data, inside, ?_⟩
  · rw [closes.callbacks, callbacks, List.append_assoc]
  · rw [Ending, if_pos opened] at ends
    rw [Ending, if_neg (by simp [closes.isOpen]), closes.ignoreReadData]
    split_ifs at ends with readSide
    · refine ⟨?_, fun reading => ?_⟩
      · simp only [closedEndings, List.mem_append, List.mem_cons, List.mem_map]
        exact .inl (.inr ⟨ending, ends.1, rfl⟩)
      · obtain ⟨rfl, whole⟩ := ends.2.2 reading
        exact .inr ⟨whole, .inl rfl⟩
    · obtain ⟨rfl, -⟩ := ends
      exact ⟨by simp [closedEndings], fun _ => .inl rfl⟩

/-- Closing an open stream ends well, whatever has been done to the buffer of an open read side. -/
theorem Closes.sound (closes : Closes before after) (opened : before.isOpen = true)
    (logged : before.Logged transmission) (read : before.buffer.totalBytesRead ≤ transmission.length)
    (closing : before.closeOffset = maxOffset ∨ before.closeOffset = transmission.length)
    (kept : before.readSideClosed = true → before.Stored transmission) : after.Sound transmission where
  stored := closes.stored read closing kept
  logged := closes.logged opened logged
  agree := by rw [SidesAgree, closes.isOpen, closes.readSide, closes.writeSide]; rfl
  attached stillOpen := by rw [closes.isOpen] at stillOpen; exact absurd stillOpen Bool.false_ne_true
  idle stillOpen := by rw [closes.readSide] at stillOpen; exact absurd stillOpen.symm Bool.false_ne_true

theorem Sound.closes (sound : before.Sound transmission) (opened : before.isOpen = true) (closes : Closes before after) :
    after.Sound transmission :=
  closes.sound opened sound.logged sound.stored.total_le sound.stored.closing fun _ => sound.stored

/-! ## Delivering -/

/-- The loop of `OnDataAvailable` ends, and passes on all bytes up to the first gap. -/
theorem deliver_eq {content : Nat → UInt8} (holds : stream.buffer.Holds content) {fuel : Nat}
    (enough : stream.buffer.readableBytes < fuel) : ∃ (chunks : List (List UInt8)) (buffer : SequencerBuffer layout),
      deliver fuel stream =
        .ok { stream with buffer, callbacks := stream.callbacks ++ chunks.map .onReceived } ∧
      buffer.Holds content ∧ buffer.totalBytesRead = stream.buffer.firstMissingByte ∧
      buffer.bytesReceived = stream.buffer.bytesReceived ∧ (∀ chunk ∈ chunks, chunk ≠ []) ∧
      chunks.flatten = readBytes content stream.buffer.totalBytesRead stream.buffer.readableBytes := by
  induction fuel generalizing stream with
  | zero => exact absurd enough (Nat.not_lt_zero _)
  | succ fuel ih =>
    have readable : stream.buffer.readableBytes = stream.buffer.firstMissingByte - stream.buffer.totalBytesRead := rfl
    have reached := SequencerBuffer.le_firstMissingByte holds.read
    rcases holds.getReadableRegions with ⟨nothing, result⟩ | ⟨len, some_byte, inside, result⟩
    · refine ⟨[], stream.buffer, ?_, holds, by omega, rfl, by simp, by rw [nothing]; rfl⟩
      simp [deliver, result, Except.bind, bind, pure, Except.pure]
    · have arrived : stream.buffer.totalBytesRead + len ≤ stream.buffer.firstMissingByte := by omega
      obtain ⟨after, consumed, holds', total, received⟩ := holds.markConsumed arrived
      have gap : after.firstMissingByte = stream.buffer.firstMissingByte := by
        rw [SequencerBuffer.firstMissingByte, received]
        rfl
      have readable' : after.readableBytes = after.firstMissingByte - after.totalBytesRead := rfl
      set region := readBytes content stream.buffer.totalBytesRead len with region_def
      obtain ⟨chunks, buffer, delivered, holds'', total'', received'', nonempty'', flat''⟩ :=
        @ih { stream.notify (.onReceived region) with buffer := after } holds' (show after.readableBytes < fuel by omega)
      refine ⟨region :: chunks, buffer, ?_, holds'', total''.trans gap, received''.trans received, ?_, ?_⟩
      · have length : region.length = len := length_readBytes ..
        simp only [deliver, result, notify, length, consumed, bind, Except.bind, if_true]
        apply delivered.trans
        simp [notify]
      · rw [List.forall_mem_cons]
        exact ⟨List.ne_nil_of_length_pos (by simpa [region_def] using some_byte), nonempty''⟩
      · rw [List.flatten_cons, flat'', region_def, total, ← readBytes_add]
        congr 1
        show len + after.readableBytes = _
        omega

/-- `OnFinRead` for a stream whose read side is open: the stream is closed too when nothing is left to send. -/
theorem onFinRead_spec (opened : stream.isOpen = true) (readSide : stream.readSideClosed = false) :
    ∃ stream', stream.onFinRead = stream'.notify .onFinRead ∧
      (stream.writeSideClosed = false ∧ stream' = { stream with
          finReceived := true, readSideClosed := true, buffer := stream.buffer.clear } ∨
        Closes stream stream') := by
  refine ⟨_, rfl, ?_⟩
  rcases Bool.eq_false_or_eq_true stream.writeSideClosed with writeSide | writeSide
  · right
    rw [@closeReadSide_eq _ { stream with finReceived := true } opened readSide writeSide]
    exact { @closes_closeStreamInner _ { stream with finReceived := true } opened false with }
  · left
    exact ⟨writeSide, by simp [closeReadSide, releaseReadSide, readSide, writeSide]⟩

/-- What is known of a stream that reads on: nothing that has arrived is forgotten while its read side is open. -/
def Grows (before after : StreamReceiver layout) : Prop :=
  after.readSideClosed = false → before.readSideClosed = false ∧
    (∀ x ∈ before.buffer.bytesReceived, x ∈ after.buffer.bytesReceived) ∧
    (before.closeOffset ≠ maxOffset → after.closeOffset = before.closeOffset)

theorem Grows.of_readSideClosed (closed : after.readSideClosed = true) :
    Grows before after := fun stillOpen => absurd (stillOpen.symm.trans closed) Bool.false_ne_true

theorem Grows.trans {first second third : StreamReceiver layout} (earlier : Grows first second)
    (later : Grows second third) : Grows first third := by
  intro reading
  obtain ⟨reading', kept', offset'⟩ := later reading
  obtain ⟨reading'', kept, offset⟩ := earlier reading'
  refine ⟨reading'', fun x there => kept' x (kept x there), fun known => ?_⟩
  have same := offset known
  rw [← same]
  exact offset' (same ▸ known)

/-- A stream in the middle of a call, before its delegate has been told of what is new. -/
structure Reading (transmission : Transmission) (stream : StreamReceiver layout) : Prop where
  stored : stream.Stored transmission
  logged : stream.Logged transmission
  opened : stream.isOpen = true
  connected : stream.connected = true
  readSide : stream.readSideClosed = false

theorem Sound.reading (sound : stream.Sound transmission) (opened : stream.isOpen = true)
    (readSide : stream.readSideClosed = false) : stream.Reading transmission :=
  ⟨sound.stored, sound.logged, opened, sound.attached opened, readSide⟩

theorem Reading.sound_of_idle (reading : stream.Reading transmission)
    (gap : stream.buffer.firstMissingByte = stream.buffer.totalBytesRead)
    (before_end : stream.buffer.totalBytesRead < stream.closeOffset) : stream.Sound transmission where
  stored := reading.stored
  logged := reading.logged
  agree := by rw [SidesAgree, reading.opened, reading.readSide]; rfl
  attached _ := reading.connected
  idle _ := ⟨gap, before_end⟩

/-- The data that a stream with an open read side has delivered. -/
theorem Reading.chunks (reading : stream.Reading transmission) :
    ∃ (chunks : List (List UInt8)) (len : Nat), stream.callbacks = chunks.map .onReceived ∧
      (∀ chunk ∈ chunks, chunk ≠ []) ∧ chunks.flatten = readBytes transmission.content 0 len ∧
      len ≤ transmission.length ∧ (stream.ignoreReadData = false → len = stream.buffer.totalBytesRead) := by
  obtain ⟨chunks, len, ending, callbacks, nonempty, data, inside, ends⟩ := reading.logged
  rw [Ending, if_pos reading.opened, if_neg (by simp [reading.readSide])] at ends
  obtain ⟨rfl, whole⟩ := ends
  rw [List.append_nil] at callbacks
  exact ⟨chunks, len, callbacks, nonempty, data, inside, whole⟩

theorem Stored.clear (stored : stream.Stored transmission) :
    Stored transmission { stream with buffer := stream.buffer.clear } := by
  refine ⟨SequencerBuffer.clear_holds _, ?_, stored.closing⟩
  intro x there
  exact (SequencerBuffer.mem_clear.mp there).trans_le stored.total_le

/-- Dropping the buffer of a closed read side changes nothing. -/
theorem Sound.clear (sound : stream.Sound transmission) (readSide : stream.readSideClosed = true) :
    Sound transmission { stream with buffer := stream.buffer.clear } where
  stored := sound.stored.clear
  logged := sound.logged
  agree := sound.agree
  attached := sound.attached
  idle stillOpen := absurd (stillOpen.symm.trans readSide) Bool.false_ne_true

/-- The end of the stream, once everything before it has been read. After `SHUT_RD` the empty chunk is left out. -/
theorem Reading.finish (reading : stream.Reading transmission) (finished : stream.isClosed = true)
    {extra : List StreamEvent} (either : extra = [] ∨ extra = [.onReceived []])
    (reports : stream.ignoreReadData = false → extra = [.onReceived []]) :
    Sound transmission { stream.onFinRead with callbacks := stream.onFinRead.callbacks ++ extra } ∧
      stream.onFinRead.readSideClosed = true ∧
      stream.onFinRead.buffer.totalBytesRead = transmission.length := by
  obtain ⟨chunks, len, callbacks, nonempty, data, inside, whole⟩ := reading.chunks
  have atEnd : stream.closeOffset ≤ stream.buffer.totalBytesRead := of_decide_eq_true finished
  have read := reading.stored.total_le
  have short := transmission.short
  have length : stream.closeOffset = transmission.length := by
    rcases reading.stored.closing with unknown | known
    · unfold maxOffset at unknown
      unfold maxStreamLength at short
      omega
    · exact known
  have complete : stream.ignoreReadData = false → len = transmission.length := fun delivering => by
    have all := whole delivering
    omega
  obtain ⟨stream', result, ⟨writeSide, rfl⟩ | closes⟩ := onFinRead_spec reading.opened reading.readSide
  · rw [result]
    have all : stream.buffer.totalBytesRead = transmission.length := by omega
    refine ⟨⟨?_, ⟨chunks, len, .onFinRead :: extra, ?_, nonempty, data, inside, ?_⟩, ?_, ?_, ?_⟩, rfl, all⟩
    · exact { reading.stored.clear with }
    · simp [notify, callbacks]
    · simp only [Ending, notify, reading.opened, if_true]
      refine ⟨?_, atEnd, fun delivering => ⟨by rw [reports delivering], complete delivering⟩⟩
      rcases either with rfl | rfl <;> simp [openEndings]
    · simp [SidesAgree, notify, reading.opened, writeSide]
    · exact fun _ => reading.connected
    · exact fun stillOpen => absurd stillOpen.symm Bool.false_ne_true
  · rw [result]
    refine ⟨⟨?_, ⟨chunks, len, .onClose :: .onFinRead :: extra, ?_, nonempty, data, inside, ?_⟩, ?_, ?_, ?_⟩, ?_, ?_⟩
    · exact { closes.stored read reading.stored.closing fun _ => reading.stored with }
    · simp [notify, closes.callbacks, callbacks]
    · simp only [Ending, notify, closes.isOpen, Bool.false_eq_true, if_false, closes.ignoreReadData]
      refine ⟨?_, fun delivering => .inr ⟨complete delivering, .inr (by rw [reports delivering])⟩⟩
      rcases either with rfl | rfl <;> simp [closedEndings, openEndings]
    · simp [SidesAgree, notify, closes.isOpen, closes.readSide, closes.writeSide]
    · exact fun stillOpen => absurd (closes.isOpen.symm.trans stillOpen) Bool.false_ne_true
    · exact fun stillOpen => absurd (stillOpen.symm.trans closes.readSide) Bool.false_ne_true
    · exact closes.readSide
    · have buffer := closes.buffer
      rw [reading.readSide, if_neg Bool.false_ne_true] at buffer
      show stream'.buffer.totalBytesRead = _
      rw [buffer]
      show stream.buffer.totalBytesRead = _
      omega

/-- `OnDataAvailable` passes on what has arrived, and the end of the stream when it has come to it. -/
theorem Reading.onDataAvailable (reading : stream.Reading transmission) (delivering : stream.ignoreReadData = false) :
    ∃ after, stream.onDataAvailable = .ok after ∧ after.Sound transmission ∧ Grows stream after ∧
      (stream.isClosed = true → after.readSideClosed = true) ∧
      (after.readSideClosed = true → after.buffer.totalBytesRead = transmission.length) := by
  obtain ⟨chunks, len, callbacks, nonempty, data, inside, whole⟩ := reading.chunks
  obtain ⟨chunks', buffer, delivered, holds, total, received, nonempty', data'⟩ :=
    deliver_eq reading.stored.holds (Nat.lt_succ_self _)
  have reached := SequencerBuffer.le_firstMissingByte reading.stored.holds.read
  have readable : stream.buffer.readableBytes = stream.buffer.firstMissingByte - stream.buffer.totalBytesRead := rfl
  set after : StreamReceiver layout :=
    { stream with buffer, callbacks := stream.callbacks ++ chunks'.map .onReceived } with after_def
  have stored : after.Stored transmission :=
    ⟨holds, fun x there => reading.stored.within x (received ▸ there), reading.stored.closing⟩
  have gap : after.buffer.firstMissingByte = after.buffer.totalBytesRead := by
    have same : buffer.firstMissingByte = stream.buffer.firstMissingByte := by
      rw [SequencerBuffer.firstMissingByte, received]
      rfl
    exact same.trans total.symm
  have logged : after.Logged transmission := by
    refine ⟨chunks ++ chunks', buffer.totalBytesRead, [], ?_, ?_, ?_, stored.total_le, ?_⟩
    · simp [after_def, callbacks]
    · intro chunk member
      exact (List.mem_append.mp member).elim (nonempty chunk) (nonempty' chunk)
    · rw [List.flatten_append, data, data', whole delivering, total, readable]
      have join := readBytes_add transmission.content 0 stream.buffer.totalBytesRead
        (stream.buffer.firstMissingByte - stream.buffer.totalBytesRead)
      rw [Nat.zero_add, Nat.add_sub_cancel' reached] at join
      exact join.symm
    · simp [Ending, after_def, reading.opened, reading.readSide]
  have reading' : after.Reading transmission := ⟨stored, logged, reading.opened, reading.connected, reading.readSide⟩
  have grows : Grows stream after := fun _ => ⟨reading.readSide, fun x there => received ▸ there, fun _ => rfl⟩
  simp only [StreamReceiver.onDataAvailable, delivered, bind, Except.bind, pure, Except.pure]
  rcases Bool.eq_false_or_eq_true after.isClosed with finished | unfinished
  · obtain ⟨sound, closed, all⟩ := reading'.finish finished (.inr rfl) fun _ => rfl
    rw [if_pos finished]
    exact ⟨_, rfl, sound, .of_readSideClosed closed, fun _ => closed, fun _ => all⟩
  · rw [if_neg (by simp [unfinished])]
    have before_end : after.buffer.totalBytesRead < after.closeOffset := not_le.mp (of_decide_eq_false unfinished)
    refine ⟨after, rfl, reading'.sound_of_idle gap before_end, grows, fun finished => ?_, fun closed => ?_⟩
    swap
    · exact absurd (reading.readSide.symm.trans closed) Bool.false_ne_true
    have atEnd : stream.closeOffset ≤ stream.buffer.totalBytesRead := of_decide_eq_true finished
    have same : after.closeOffset = stream.closeOffset := rfl
    have total' : after.buffer.totalBytesRead = stream.buffer.firstMissingByte := total
    omega

/-- `MaybeCloseStream`, when nothing that could be read is left. -/
theorem Reading.maybeCloseStream (reading : stream.Reading transmission)
    (gap : stream.buffer.firstMissingByte = stream.buffer.totalBytesRead) :
    ∃ after, stream.maybeCloseStream = .ok after ∧ after.Sound transmission ∧ Grows stream after ∧
      (after.readSideClosed = false → after = stream) ∧
      (after.readSideClosed = true → after.buffer.totalBytesRead = transmission.length) := by
  unfold StreamReceiver.maybeCloseStream
  rcases Bool.eq_false_or_eq_true stream.isClosed with finished | unfinished
  · rw [if_pos finished]
    have ends : ∃ told, (if stream.ignoreReadData = true then .ok stream.onFinRead else stream.onDataAvailable) = .ok told ∧
        told.Sound transmission ∧ told.readSideClosed = true ∧ told.buffer.totalBytesRead = transmission.length := by
      rcases Bool.eq_false_or_eq_true stream.ignoreReadData with ignoring | delivering
      · obtain ⟨sound, closed, all⟩ := reading.finish finished (.inl rfl) fun delivering =>
          absurd (delivering.symm.trans ignoring) Bool.false_ne_true
        rw [if_pos ignoring]
        rw [List.append_nil] at sound
        exact ⟨_, rfl, sound, closed, all⟩
      · rw [if_neg (by simp [delivering])]
        obtain ⟨after, result, sound, -, closed, all⟩ := reading.onDataAvailable delivering
        exact ⟨after, result, sound, closed finished, all (closed finished)⟩
    obtain ⟨told, result, sound, closed, all⟩ := ends
    rw [result]
    refine ⟨_, rfl, sound.clear closed, .of_readSideClosed closed, fun stillOpen => ?_, fun _ => all⟩
    exact absurd (stillOpen.symm.trans closed) Bool.false_ne_true
  · rw [if_neg (by simp [unfinished])]
    have before_end : stream.buffer.totalBytesRead < stream.closeOffset := not_le.mp (of_decide_eq_false unfinished)
    exact ⟨stream, rfl, reading.sound_of_idle gap before_end, fun readSide => ⟨readSide, fun _ there => there, fun _ => rfl⟩,
      fun _ => rfl, fun closed => absurd (reading.readSide.symm.trans closed) Bool.false_ne_true⟩

theorem Reading.flushBufferedFrames (reading : stream.Reading transmission) (ignoring : stream.ignoreReadData = true) :
    ∃ after, stream.flushBufferedFrames = .ok after ∧ after.Sound transmission ∧ Grows stream after := by
  obtain ⟨chunks, len, callbacks, nonempty, data, inside, -⟩ := reading.chunks
  have skipped := SequencerBuffer.nextExpectedByte_le reading.stored.within
  set flushed : StreamReceiver layout := { stream with buffer := stream.buffer.flushBufferedFrames.2 } with flushed_def
  have total : flushed.buffer.totalBytesRead = stream.buffer.nextExpectedByte := rfl
  have points : ∀ x, x ∈ flushed.buffer.bytesReceived ↔ x < stream.buffer.nextExpectedByte := fun _ =>
    SequencerBuffer.mem_clear
  have reading' : flushed.Reading transmission := by
    refine ⟨⟨SequencerBuffer.clear_holds _, fun x there => ?_, reading.stored.closing⟩,
      ⟨chunks, len, [], by simpa [flushed_def] using callbacks, nonempty, data, inside, ?_⟩, reading.opened,
      reading.connected, reading.readSide⟩
    · exact ((points x).mp there).trans_le skipped
    · simp [Ending, flushed_def, reading.opened, reading.readSide, ignoring]
  obtain ⟨after, result, sound, grows, -⟩ := reading'.maybeCloseStream (SequencerBuffer.firstMissingByte_clear _)
  have skips : Grows stream flushed := fun _ =>
    ⟨reading.readSide, fun x there => (points x).mpr (SequencerBuffer.nextExpectedByte_spec there).1, fun _ => rfl⟩
  exact ⟨after, result, sound, skips.trans grows⟩

/-- All of the data has arrived at a stream that still reads. -/
def TookData (frame : StreamFrame) (stream : StreamReceiver layout) : Prop :=
  stream.readSideClosed = false →
    ∀ x, frame.offset ≤ x → x < frame.offset + frame.data.length → x ∈ stream.buffer.bytesReceived

theorem TookData.grows (took : TookData frame before) (grows : Grows before after) : TookData frame after := by
  intro reading x from_start below
  obtain ⟨reading', kept, -⟩ := grows reading
  exact kept x (took reading' x from_start below)

/-- The data of a frame, for a stream that reads. -/
theorem Sound.onStreamData (sound : stream.Sound transmission) (opened : stream.isOpen = true)
    (readSide : stream.readSideClosed = false) (sends : transmission.Sends frame) :
    ∃ after, stream.onStreamData frame = .ok after ∧ after.Sound transmission ∧ Grows stream after ∧
      TookData frame after := by
  obtain ⟨inside, data, -⟩ := sends
  have reading := sound.reading opened readSide
  obtain ⟨gap, before_end⟩ := sound.idle readSide
  have short := transmission.short
  obtain ⟨outcome, result, total, -, accepted⟩ := @SequencerBuffer.Holds.onStreamData _ _ _ sound.stored.holds
    sound.stored.unwrapped frame.offset frame.data.length
    (by unfold maxStreamLength at short; omega)
  rw [← data] at result
  have previous : stream.buffer.readableBytes = 0 := by
    rw [SequencerBuffer.readableBytes, gap, Nat.sub_self]
  simp only [StreamReceiver.onStreamData, result, previous, bind, Except.bind, pure, Except.pure, true_and]
  set buffered : StreamReceiver layout := { stream with buffer := outcome.buffer } with buffered_def
  by_cases refused : outcome.error ≠ .noError
  · rw [if_pos refused]
    have closes := @closes_closeConnection _ buffered opened reading.connected sound.agree
    refine ⟨_, rfl, ?_, .of_readSideClosed closes.readSide, fun stillOpen => ?_⟩
    · apply closes.sound opened (sound.logged.of_buffer total) (total ▸ sound.stored.total_le) sound.stored.closing
      exact fun closed => absurd (readSide.symm.trans closed) Bool.false_ne_true
    · exact absurd (stillOpen.symm.trans closes.readSide) Bool.false_ne_true
  · rw [if_neg refused]
    obtain ⟨holds, received, counted⟩ := accepted (not_not.mp refused)
    have arrived : ∀ x, x ∈ outcome.buffer.bytesReceived ↔
        x ∈ stream.buffer.bytesReceived ∨ (frame.offset ≤ x ∧ x < frame.offset + frame.data.length) := by
      intro x
      rw [received, IntervalSet.mem_add]
    have stored : buffered.Stored transmission := by
      refine ⟨holds, fun x there => ?_, sound.stored.closing⟩
      rcases (arrived x).mp there with old | new
      · exact sound.stored.within x old
      · omega
    have reading' : buffered.Reading transmission :=
      ⟨stored, sound.logged.of_buffer total, opened, reading.connected, readSide⟩
    have grows : Grows stream buffered := fun _ =>
      ⟨readSide, fun x there => (arrived x).mpr (.inl there), fun _ => rfl⟩
    have took : TookData frame buffered := fun _ x from_start below => (arrived x).mpr (.inr ⟨from_start, below⟩)
    -- Whenever nothing can be read, the first missing byte is where it was.
    have still : buffered.buffer.readableBytes = 0 → buffered.Sound transmission := by
      intro nothing
      have reached := SequencerBuffer.le_firstMissingByte holds.read
      have readable : buffered.buffer.readableBytes = outcome.buffer.firstMissingByte - outcome.buffer.totalBytesRead := rfl
      have gap' : buffered.buffer.firstMissingByte = buffered.buffer.totalBytesRead :=
        le_antisymm (by show outcome.buffer.firstMissingByte ≤ outcome.buffer.totalBytesRead; omega) reached
      exact reading'.sound_of_idle gap' (show outcome.buffer.totalBytesRead < stream.closeOffset by omega)
    split_ifs with duplicate readable ignoring
    · have nothing : (stream.buffer.newlyReceived frame.offset frame.data.length).count = 0 := counted ▸ duplicate
      have same : outcome.buffer.bytesReceived = stream.buffer.bytesReceived := by
        apply IntervalSet.ext
        intro x
        rw [arrived]
        refine ⟨fun either => either.elim id fun inFrame => ?_, .inl⟩
        by_contra missing
        exact IntervalSet.not_mem_of_count nothing x (SequencerBuffer.mem_newlyReceived.mpr ⟨inFrame, missing⟩)
      refine ⟨buffered, rfl, still ?_, grows, took⟩
      have gap' : outcome.buffer.firstMissingByte = stream.buffer.firstMissingByte := by
        rw [SequencerBuffer.firstMissingByte, same]
        rfl
      exact (show outcome.buffer.firstMissingByte - outcome.buffer.totalBytesRead = 0 by omega)
    · obtain ⟨after, result, sound', grows'⟩ := reading'.flushBufferedFrames ignoring
      exact ⟨after, result, sound', grows.trans grows', took.grows grows'⟩
    · obtain ⟨after, result, sound', grows', -⟩ := reading'.onDataAvailable (Bool.eq_false_iff.mpr ignoring)
      exact ⟨after, result, sound', grows.trans grows', took.grows grows'⟩
    · exact ⟨buffered, rfl, still (Nat.eq_zero_of_not_pos readable), grows, took⟩

/-- The data of a frame, for a stream that has read everything in the same call. -/
theorem Sound.onStreamData_of_read (sound : stream.Sound transmission) (readSide : stream.readSideClosed = true)
    (read : stream.buffer.totalBytesRead = transmission.length) (sends : transmission.Sends frame)
    (some_data : 0 < frame.data.length) :
    ∃ after, stream.onStreamData frame = .ok after ∧ after.Sound transmission ∧ after.readSideClosed = true := by
  obtain ⟨inside, data, -⟩ := sends
  have short := transmission.short
  obtain ⟨outcome, result, total, accepts, accepted⟩ := @SequencerBuffer.Holds.onStreamData _ _ _ sound.stored.holds
    sound.stored.unwrapped frame.offset frame.data.length
    (by unfold maxStreamLength at short; omega)
  rw [← data] at result
  have old : ∀ x, frame.offset ≤ x ∧ x < frame.offset + frame.data.length → x ∈ stream.buffer.bytesReceived :=
    fun x inFrame => sound.stored.holds.read x (by omega)
  have same : stream.buffer.bytesReceived.add frame.offset (frame.offset + frame.data.length) =
      stream.buffer.bytesReceived := IntervalSet.ext fun x => by
    rw [IntervalSet.mem_add]
    exact ⟨fun either => either.elim id (old x), .inl⟩
  have fine : outcome.error = .noError := accepts.mpr
    ⟨some_data, by omega, by rw [same]; exact sound.stored.holds.sized⟩
  obtain ⟨holds, received, counted⟩ := accepted fine
  have duplicate : outcome.bytesBuffered = 0 := by
    rw [counted, IntervalSet.count_of_lt]
    intro x
    rw [SequencerBuffer.mem_newlyReceived]
    exact ⟨fun new => absurd (old x new.1) new.2, fun below => absurd below (Nat.not_lt_zero x)⟩
  simp only [StreamReceiver.onStreamData, result, bind, Except.bind, pure, Except.pure, fine, ne_eq, not_true_eq_false,
    if_false, duplicate, if_true]
  refine ⟨_, rfl, ⟨⟨holds, ?_, sound.stored.closing⟩, sound.logged.of_buffer total, sound.agree, sound.attached, ?_⟩, readSide⟩
  · rw [received, same]
    exact sound.stored.within
  · exact fun stillOpen => absurd (stillOpen.symm.trans readSide) Bool.false_ne_true

/-- The FIN of a frame. -/
theorem Sound.closeStreamAtOffset (sound : stream.Sound transmission) (opened : stream.isOpen = true)
    (readSide : stream.readSideClosed = false) :
    ∃ after, stream.closeStreamAtOffset transmission.length = .ok after ∧ after.Sound transmission ∧ Grows stream after ∧
      (after.readSideClosed = false → after.isOpen = true ∧ after.closeOffset = transmission.length) ∧
      (after.readSideClosed = true → after.buffer.totalBytesRead = transmission.length) := by
  have one_length : ¬ (stream.closeOffset ≠ maxOffset ∧ transmission.length ≠ stream.closeOffset) := by
    rintro ⟨known, differs⟩
    exact sound.stored.closing.elim known fun same => differs same.symm
  rw [StreamReceiver.closeStreamAtOffset, if_neg one_length]
  have reading : Reading transmission { stream with closeOffset := transmission.length } := by
    obtain ⟨chunks, len, callbacks, nonempty, data, inside, whole⟩ := (sound.reading opened readSide).chunks
    refine ⟨⟨sound.stored.holds, sound.stored.within, .inr rfl⟩, ⟨chunks, len, [], by simpa using callbacks, nonempty, data,
      inside, ?_⟩, opened, sound.attached opened, readSide⟩
    simpa [Ending, opened, readSide] using whole
  obtain ⟨after, result, sound', grows, same, all⟩ := reading.maybeCloseStream (sound.idle readSide).1
  have noted : Grows stream { stream with closeOffset := transmission.length } := fun _ =>
    ⟨readSide, fun _ there => there, fun known => (sound.stored.closing.resolve_left known).symm⟩
  refine ⟨after, result, sound', noted.trans grows, fun stillOpen => ?_, all⟩
  rw [same stillOpen]
  exact ⟨opened, rfl⟩

/-- The stream knows of all that the frame brought, or has stopped reading. -/
def Took (frame : StreamFrame) (stream : StreamReceiver layout) : Prop :=
  TookData frame stream ∧ (frame.fin = true → stream.readSideClosed = false → stream.closeOffset ≠ maxOffset)

theorem Took.of_readSideClosed (closed : stream.readSideClosed = true) : Took frame stream :=
  ⟨fun stillOpen => absurd (stillOpen.symm.trans closed) Bool.false_ne_true,
    fun _ stillOpen => absurd (stillOpen.symm.trans closed) Bool.false_ne_true⟩

theorem Took.grows (took : Took frame before) (grows : Grows before after) : Took frame after := by
  refine ⟨took.1.grows grows, fun ends reading => ?_⟩
  obtain ⟨reading', -, offset⟩ := grows reading
  have known := took.2 ends reading'
  rw [offset known]
  exact known

theorem Sound.onSequencerFrame (sound : stream.Sound transmission) (opened : stream.isOpen = true)
    (readSide : stream.readSideClosed = false) (sends : transmission.Sends frame) :
    ∃ after, stream.onSequencerFrame frame = .ok after ∧ after.Sound transmission ∧ Grows stream after ∧
      Took frame after := by
  have short := transmission.short
  rcases Bool.eq_false_or_eq_true frame.fin with ends | continues
  · obtain ⟨closing, result, sound', grows, stillOpen, all⟩ := sound.closeStreamAtOffset opened readSide
    have length : wrap64 (frame.offset + frame.data.length) = transmission.length := by
      rw [sends.2.2 ends]
      exact Nat.mod_eq_of_lt (by unfold maxStreamLength at short; omega)
    simp only [StreamReceiver.onSequencerFrame, ends, if_true, length, result, bind, Except.bind]
    have known : transmission.length ≠ maxOffset := by
      unfold maxStreamLength at short
      unfold maxOffset
      omega
    split_ifs with no_data
    · refine ⟨closing, rfl, sound', grows, fun _ x from_start below => ?_, fun _ reading => ?_⟩
      · omega
      · rw [(stillOpen reading).2]
        exact known
    · rcases Bool.eq_false_or_eq_true closing.readSideClosed with closed | reading
      · obtain ⟨after, result', sound'', closed'⟩ :=
          sound'.onStreamData_of_read closed (all closed) sends (Nat.pos_of_ne_zero no_data)
        exact ⟨after, result', sound'', .of_readSideClosed closed', .of_readSideClosed closed'⟩
      · obtain ⟨opened', offset⟩ := stillOpen reading
        obtain ⟨after, result', sound'', grows', took⟩ := sound'.onStreamData opened' reading sends
        refine ⟨after, result', sound'', grows.trans grows', took, fun _ reading' => ?_⟩
        rw [(grows' reading').2.2 (offset ▸ known), offset]
        exact known
  · obtain ⟨after, result, sound', grows, took⟩ := sound.onStreamData opened readSide sends
    refine ⟨after, ?_, sound', grows, took, fun ends => absurd (continues.symm.trans ends) Bool.false_ne_true⟩
    rw [StreamReceiver.onSequencerFrame, if_neg (by simp [continues]), result]

theorem Sound.of_finReceived (sound : stream.Sound transmission) (finReceived : Bool) :
    Sound transmission { stream with finReceived } :=
  ⟨{ sound.stored with }, sound.logged, sound.agree, sound.attached, sound.idle⟩

/-- What `QuicStream::OnStreamFrame` makes of a frame of the peer. -/
theorem Sound.onStreamFrame (sound : stream.Sound transmission) (opened : stream.isOpen = true)
    (sends : transmission.Sends frame) (streamTooLong : Bool) (violation : Bool) :
    ∃ after, stream.onStreamFrame streamTooLong frame violation = .ok after ∧ after.Sound transmission ∧ Grows stream after ∧
      Took frame after := by
  have connected := sound.attached opened
  have drops : ∀ noted : StreamReceiver layout, noted.Sound transmission → noted.isOpen = true → noted.connected = true →
      noted.closeConnection.Sound transmission ∧ Grows stream noted.closeConnection ∧ Took frame noted.closeConnection := by
    intro noted sound' opened' connected'
    have closes := closes_closeConnection opened' connected' sound'.agree
    exact ⟨sound'.closes opened' closes, .of_readSideClosed closes.readSide, .of_readSideClosed closes.readSide⟩
  have noted := sound.of_finReceived (stream.finReceived || frame.fin)
  simp only [StreamReceiver.onStreamFrame]
  split_ifs with tooLong closed violates
  · exact ⟨_, rfl, drops stream sound opened connected⟩
  · exact ⟨_, rfl, noted, .of_readSideClosed closed, .of_readSideClosed closed⟩
  · exact ⟨_, rfl, drops _ noted opened connected⟩
  · obtain ⟨after, result, sound', grows, took⟩ :=
      noted.onSequencerFrame opened (Bool.eq_false_iff.mpr closed) sends
    exact ⟨after, result, sound', grows, took⟩

/-- `StopReading`; when the end of the stream has been read already, it is reported once more. -/
theorem Sound.stopReading (sound : stream.Sound transmission) (opened : stream.isOpen = true) :
    ∃ after, stream.stopReading = .ok after ∧ after.Sound transmission ∧ Grows stream after := by
  unfold StreamReceiver.stopReading
  rcases Bool.eq_false_or_eq_true stream.ignoreReadData with ignoring | delivering
  · rw [if_pos ignoring]
    exact ⟨stream, rfl, sound, fun reading => ⟨reading, fun _ there => there, fun _ => rfl⟩⟩
  · rw [if_neg (by simp [delivering])]
    rcases Bool.eq_false_or_eq_true stream.readSideClosed with closed | readSide
    · obtain ⟨chunks, len, ending, callbacks, nonempty, data, inside, ends⟩ := sound.logged
      rw [Ending, if_pos opened, if_pos closed] at ends
      obtain ⟨-, atEnd, whole⟩ := ends
      obtain ⟨rfl, all⟩ := whole delivering
      have skipped := SequencerBuffer.nextExpectedByte_le sound.stored.within
      have reached := sound.stored.holds.totalBytesRead_le_nextExpectedByte
      have past : stream.closeOffset ≤ stream.buffer.nextExpectedByte := by omega
      have result : StreamReceiver.flushBufferedFrames { stream with ignoreReadData := true } =
          .ok { stream with
            ignoreReadData := true
            buffer := stream.buffer.flushBufferedFrames.2.clear
            finReceived := true
            callbacks := stream.callbacks ++ [.onFinRead] } := by
        simp [StreamReceiver.flushBufferedFrames, StreamReceiver.maybeCloseStream, isClosed, StreamReceiver.onFinRead,
          closeReadSide, closed, notify, SequencerBuffer.flushBufferedFrames, SequencerBuffer.clear, past, Except.map]
      refine ⟨_, result, ⟨⟨SequencerBuffer.clear_holds _, fun x there => ?_, sound.stored.closing⟩,
        ⟨chunks, len, [.onFinRead, .onReceived [], .onFinRead], by simp [callbacks], nonempty, data, inside, ?_⟩, sound.agree,
        sound.attached, fun stillOpen => absurd (stillOpen.symm.trans closed) Bool.false_ne_true⟩, .of_readSideClosed closed⟩
      · exact (SequencerBuffer.mem_clear.mp there).trans_le skipped
      · simp only [Ending, opened, closed, if_true]
        exact ⟨by simp [openEndings], past, fun stillDelivering => absurd stillDelivering.symm Bool.false_ne_true⟩
    · obtain ⟨chunks, len, callbacks, nonempty, data, inside, -⟩ := (sound.reading opened readSide).chunks
      have reading : Reading transmission { stream with ignoreReadData := true } := by
        refine ⟨{ sound.stored with }, ⟨chunks, len, [], by simpa using callbacks,
          nonempty, data, inside, ?_⟩, opened, sound.attached opened, readSide⟩
        simp [Ending, opened, readSide]
      obtain ⟨after, result, sound', grows⟩ := reading.flushBufferedFrames rfl
      exact ⟨after, result, sound', grows⟩

theorem Sound.onFinSent (sound : stream.Sound transmission) (opened : stream.isOpen = true)
    (writeSide : stream.writeSideClosed = false) :
    stream.onFinSent.Sound transmission ∧ Grows stream stream.onFinSent := by
  rcases Bool.eq_false_or_eq_true stream.readSideClosed with closed | readSide
  · have closes := @closes_closeStreamInner _ { stream with finSent := true } opened false
    rw [StreamReceiver.onFinSent, @closeWriteSide_eq _ { stream with finSent := true } opened closed writeSide]
    exact ⟨sound.closes opened { closes with }, .of_readSideClosed closes.readSide⟩
  · have result : stream.onFinSent = { stream with finSent := true, writeSideClosed := true } :=
      closeWriteSide_of_readSideOpen (show _ = false from readSide)
    rw [result]
    refine ⟨⟨{ sound.stored with }, sound.logged, ?_, sound.attached, sound.idle⟩,
      fun reading => ⟨reading, fun _ there => there, fun _ => rfl⟩⟩
    simp [SidesAgree, opened, readSide]

theorem Sound.onStreamReset (sound : stream.Sound transmission) (opened : stream.isOpen = true) (violation : Bool) :
    Closes stream (stream.onStreamReset violation) := by
  simp only [StreamReceiver.onStreamReset]
  split_ifs with violates
  · exact { @closes_closeConnection _ { stream with rstReceived := true } opened (sound.attached opened) sound.agree with }
  · rw [@closeBothSides_eq _ { stream with rstReceived := true } opened sound.agree]
    exact { @closes_closeStreamInner _ { stream with rstReceived := true } opened false with }

theorem Sound.closeConnection (sound : stream.Sound transmission) (connected : stream.connected = true) :
    stream.closeConnection.Sound transmission ∧ Grows stream stream.closeConnection := by
  rcases Bool.eq_false_or_eq_true stream.isOpen with opened | closed
  · have closes := closes_closeConnection opened connected sound.agree
    exact ⟨sound.closes opened closes, .of_readSideClosed closes.readSide⟩
  · have result : stream.closeConnection = { stream with connected := false } := by
      simp [StreamReceiver.closeConnection, connected, onConnectionClosed, closed]
    rw [result]
    refine ⟨⟨{ sound.stored with }, sound.logged, sound.agree, fun opened => ?_,
      sound.idle⟩, fun reading => ⟨reading, fun _ there => there, fun _ => rfl⟩⟩
    exact absurd (closed.symm.trans opened) Bool.false_ne_true

/-- Every admitted step is carried out and keeps the stream sound. -/
theorem Sound.step (sound : stream.Sound transmission) {label : ReceiverLabel}
    (admitted : stream.admits transmission label) (streamTooLong : Bool) :
    ∃ after, stream.step streamTooLong label = .ok after ∧ after.Sound transmission ∧ Grows stream after := by
  cases label with
  | onStreamFrame frame violation =>
    obtain ⟨after, result, sound', grows, -⟩ := sound.onStreamFrame admitted.1 admitted.2 streamTooLong violation
    exact ⟨after, result, sound', grows⟩
  | onStreamReset violation =>
    have closes := sound.onStreamReset admitted violation
    exact ⟨_, rfl, sound.closes admitted closes, .of_readSideClosed closes.readSide⟩
  | onFinSent => exact ⟨_, rfl, sound.onFinSent admitted.1 admitted.2⟩
  | stopReading => exact sound.stopReading admitted
  | closeStream =>
    have closes := closes_closeStreamInner admitted false
    exact ⟨_, rfl, sound.closes admitted closes, .of_readSideClosed closes.readSide⟩
  | reset =>
    have closes := closes_reset admitted
    exact ⟨_, rfl, sound.closes admitted closes, .of_readSideClosed closes.readSide⟩
  | closeConnection => exact ⟨_, rfl, sound.closeConnection admitted⟩

theorem start_sound (transmission : Transmission) : ({} : StreamReceiver layout).Sound transmission where
  stored := by
    refine ⟨?_, fun x there => absurd there (IntervalSet.not_mem_empty x), .inl rfl⟩
    have same : ({} : SequencerBuffer layout).clear = {} := rfl
    exact same ▸ SequencerBuffer.clear_holds transmission.content
  logged := ⟨[], 0, [], rfl, by simp, rfl, Nat.zero_le _, rfl, fun _ => rfl⟩
  agree := rfl
  attached _ := rfl
  idle _ := ⟨rfl, show 0 < maxOffset by decide⟩

theorem reachable_sound {streamTooLong : Bool} (run : (system layout streamTooLong transmission).Reachable {} stream) :
    stream.Sound transmission := by
  apply run.invariant (start_sound transmission)
  intro before label after sound admitted stepped
  obtain ⟨after', result, sound', -⟩ := sound.step admitted streamTooLong
  rw [Except.ok.inj (stepped.symm.trans result)]
  exact sound'

end StreamReceiver

end PosixQuic
