import PosixQuic.Model.StreamEntry
import PosixQuic.ToMathlib.ListScatter
import Mathlib.Tactic

/-! # Reads of a stream: conservation, filling order and the end of the stream

The copy loop is a scatter of the receive buffer, so every read moves a prefix of the buffer into
the iovecs and keeps the rest. Over a whole run this conserves and orders the received bytes,
whatever calls fail in between. The three early exits of `Readv` come before the buffer is looked
at: once the stream has ended, bytes that are still buffered are answered with end of file or with
the error, and the last theorem says exactly which runs avoid this.
-/

namespace PosixQuic.QuicStreamEntry

/-- The loop from `pos` scatters what is left of the buffer. -/
theorem copyLoop_eq (recvBuffer : List UInt8) (iov : List Nat) (pos : Nat)
    (within : pos ≤ recvBuffer.length) :
    copyLoop recvBuffer iov pos =
      (List.scatter iov (recvBuffer.drop pos), min recvBuffer.length (pos + iov.sum)) := by
  induction iov generalizing pos with
  | nil =>
    simp only [copyLoop, List.scatter_nil_left, List.sum_nil, Nat.add_zero]
    rw [Nat.min_eq_right within]
  | cons iovLen rest ih =>
    simp only [copyLoop]
    split_ifs with inside
    · have advance : pos + min (recvBuffer.length - pos) iovLen ≤ recvBuffer.length := by omega
      have remaining : recvBuffer.drop pos ≠ [] := by
        intro empty
        have := List.drop_eq_nil_iff.mp empty
        omega
      -- both the loop and the scatter clip the last segment to what is left
      have clipped : (recvBuffer.drop pos).take (min (recvBuffer.length - pos) iovLen) =
          (recvBuffer.drop pos).take iovLen := by
        rw [← List.length_drop, Nat.min_comm, ← List.take_take, List.take_length]
      have skipped : recvBuffer.drop (pos + min (recvBuffer.length - pos) iovLen) =
          (recvBuffer.drop pos).drop iovLen := by
        rw [List.drop_drop]
        rcases Nat.le_total (recvBuffer.length - pos) iovLen with short | long
        · rw [Nat.min_eq_left short, List.drop_eq_nil_of_le (by omega),
            List.drop_eq_nil_of_le (by omega)]
        · rw [Nat.min_eq_right long]
      rw [ih _ advance, List.scatter_cons _ _ remaining, clipped, skipped]
      simp only [List.sum_cons, Prod.mk.injEq, true_and]
      omega
    · have whole : recvBuffer.drop pos = [] := List.drop_eq_nil_of_le (by omega)
      rw [whole, List.scatter_nil_right, Nat.min_eq_left (by omega)]
      exact Prod.ext rfl (by dsimp only; omega)

/-- None of the early exits of `Readv` applies. -/
def Serves (stream : QuicStreamEntry) : Prop :=
  stream.error = none ∧ stream.finRead = false ∧ stream.quartcOpen = true

instance (stream : QuicStreamEntry) : Decidable stream.Serves := by
  unfold Serves
  infer_instance

variable {stream : QuicStreamEntry}

/-- An early exit copies nothing and keeps the buffer. -/
theorem readv_of_not_serves (exits : ¬ stream.Serves) (iov : List Nat) :
    (stream.readv iov).segments = [] ∧ (stream.readv iov).entry = stream := by
  cases failed : stream.error with
  | some err => simp [readv, failed]
  | none =>
    cases fin : stream.finRead with
    | true => simp [readv, failed, fin]
    | false =>
      cases closed : stream.quartcOpen with
      | false => simp [readv, failed, fin, closed]
      | true => exact (exits ⟨failed, fin, closed⟩).elim

/-- A served read scatters the buffer and keeps the rest; its answer is the `int` of the count. -/
theorem readv_of_serves (serves : stream.Serves) (iov : List Nat) :
    (stream.readv iov).segments = List.scatter iov stream.recvBuffer ∧
      (stream.readv iov).entry =
        { stream with recvBuffer := List.scatterRest iov stream.recvBuffer } ∧
      (stream.readv iov).result =
        if intOfSize (min stream.recvBuffer.length iov.sum) = 0 then .fail .eagain
        else ⟨intOfSize (min stream.recvBuffer.length iov.sum), none⟩ := by
  obtain ⟨noError, noFin, isOpen⟩ := serves
  have rest : (if min stream.recvBuffer.length iov.sum = stream.recvBuffer.length then []
      else stream.recvBuffer.drop (min stream.recvBuffer.length iov.sum)) =
        List.scatterRest iov stream.recvBuffer := by
    unfold List.scatterRest
    split_ifs with exhausted
    · exact (List.drop_eq_nil_of_le (by omega)).symm
    · rw [Nat.min_eq_right (by omega)]
  unfold readv
  simp only [noError, noFin, isOpen, Bool.not_true, Bool.false_eq_true, ↓reduceIte,
    copyLoop_eq _ _ 0 (Nat.zero_le _), List.drop_zero, Nat.zero_add, rest]
  split_ifs with zero <;> exact ⟨rfl, rfl, rfl⟩

/-- One read moves a prefix of the buffer, or nothing. -/
theorem readv_conserves (stream : QuicStreamEntry) (iov : List Nat) :
    (stream.readv iov).segments.flatten ++ (stream.readv iov).entry.recvBuffer =
      stream.recvBuffer := by
  by_cases serves : stream.Serves
  · obtain ⟨segments, entry, _⟩ := readv_of_serves serves iov
    rw [segments, entry]
    exact List.flatten_scatter_append_rest iov stream.recvBuffer
  · obtain ⟨segments, entry⟩ := readv_of_not_serves serves iov
    rw [segments, entry]
    rfl

@[simp] theorem onReceived_recvBuffer (stream : QuicStreamEntry) (data : List UInt8) :
    (stream.onReceived data).1.recvBuffer = stream.recvBuffer ++ data := by
  unfold onReceived
  dsimp only
  split_ifs <;> rfl

/-- The equation between copied, buffered and received bytes from any starting buffer. -/
theorem handleAll_conserves (stream : QuicStreamEntry) (events : List StreamEvent) :
    stream.copiedOut events ++ (stream.handleAll events).recvBuffer =
      stream.recvBuffer ++ StreamEvent.received events := by
  induction events generalizing stream with
  | nil => simp [copiedOut, handleAll, StreamEvent.received]
  | cons event rest ih =>
    have tail := ih (stream.handle event)
    cases event with
    | onReceived data =>
      simp only [copiedOut, StreamEvent.received]
      refine tail.trans ?_
      simp only [handle, onReceived_recvBuffer, List.append_assoc]
    | onFinRead => exact tail
    | onClose => exact tail
    | readv iov =>
      simp only [copiedOut, StreamEvent.received, List.append_assoc]
      refine (congrArg ((stream.readv iov).segments.flatten ++ ·) tail).trans ?_
      rw [← List.append_assoc]
      exact congrArg (· ++ _) (readv_conserves stream iov)

/-- The iovecs are filled from the left: only the last visited one can have room left, and then the
buffer is exhausted. An iovec is passed over only by an exhausted buffer or a refused call. -/
def FillsLeftToRight (stream : QuicStreamEntry) (iov : List Nat) : Prop :=
  let outcome := stream.readv iov
  outcome.segments.length ≤ iov.length ∧
    (∀ i segment capacity, outcome.segments[i]? = some segment → iov[i]? = some capacity →
      segment.length ≤ capacity ∧
        (segment.length < capacity →
          i + 1 = outcome.segments.length ∧ outcome.entry.recvBuffer = [])) ∧
    (outcome.segments.length < iov.length → stream.Serves → outcome.entry.recvBuffer = [])

theorem fillsLeftToRight (stream : QuicStreamEntry) (iov : List Nat) :
    stream.FillsLeftToRight iov := by
  unfold FillsLeftToRight
  by_cases serves : stream.Serves
  · obtain ⟨segments, entry, _⟩ := readv_of_serves serves iov
    dsimp only
    rw [segments, entry]
    refine ⟨List.length_scatter_le _ _, ?_, fun short _ => List.scatter_unvisited _ _ short⟩
    intro i segment capacity visited room
    exact List.scatter_fills iov stream.recvBuffer i segment capacity visited room
  · obtain ⟨segments, _⟩ := readv_of_not_serves serves iov
    dsimp only
    rw [segments]
    refine ⟨Nat.zero_le _, ?_, fun _ served => (serves served).elim⟩
    intro i segment capacity visited
    simp at visited

/-- Received bytes are conserved and ordered along every run of a new stream entry, and each of its
reads fills the iovecs from the left. -/
theorem received_bytes_conserved (fd : Fd) (udpSocket : Option UdpSocket) (socketEntry : SocketId)
    (streamId : Nat) (events : List StreamEvent) :
    (new fd udpSocket socketEntry streamId).copiedOut events ++
        ((new fd udpSocket socketEntry streamId).handleAll events).recvBuffer =
      StreamEvent.received events ∧
    ∀ before iov after, events = before ++ .readv iov :: after →
      ((new fd udpSocket socketEntry streamId).handleAll before).FillsLeftToRight iov :=
  ⟨handleAll_conserves _ events, fun _ iov _ _ => fillsLeftToRight _ iov⟩

/-! ## The end of the stream -/

/-- Only the callbacks that end the stream make `Readv` exit early. -/
theorem handle_serves_iff (stream : QuicStreamEntry) (event : StreamEvent) :
    (stream.handle event).Serves ↔ stream.Serves ∧ event.endsStream = false := by
  cases event with
  | onReceived data =>
    simp only [handle, onReceived, StreamEvent.endsStream, and_true]
    split_ifs <;> exact Iff.rfl
  | onFinRead => simp [handle, onFinRead, Serves, StreamEvent.endsStream]
  | onClose => simp [handle, onClose, Serves, StreamEvent.endsStream]
  | readv iov =>
    simp only [handle, StreamEvent.endsStream, and_true]
    by_cases serves : stream.Serves
    · obtain ⟨_, entry, _⟩ := readv_of_serves serves iov
      rw [entry]
      exact Iff.rfl
    · rw [(readv_of_not_serves serves iov).2]

theorem handleAll_serves_iff (stream : QuicStreamEntry) (events : List StreamEvent) :
    (stream.handleAll events).Serves ↔
      stream.Serves ∧ ∀ event ∈ events, event.endsStream = false := by
  induction events generalizing stream with
  | nil => simp [handleAll]
  | cons event rest ih =>
    refine (ih (stream.handle event)).trans ?_
    rw [handle_serves_iff, List.forall_mem_cons, and_assoc]

/-- The only error a callback records is `EBADF`. -/
theorem handle_error_ne_eagain (other : stream.error ≠ some .eagain) (event : StreamEvent) :
    (stream.handle event).error ≠ some .eagain := by
  cases event with
  | onReceived data =>
    simp only [handle, onReceived]
    split_ifs <;> exact other
  | onFinRead => exact other
  | onClose =>
    simp only [handle, onClose, Event.setError]
    cases failed : stream.error with
    | none => simp
    | some err =>
      rw [failed] at other
      simpa [failed] using other
  | readv iov =>
    by_cases serves : stream.Serves
    · obtain ⟨_, entry, _⟩ := readv_of_serves serves iov
      simp only [handle, entry]
      exact other
    · simp only [handle, (readv_of_not_serves serves iov).2]
      exact other

theorem handleAll_error_ne_eagain (other : stream.error ≠ some .eagain) (events : List StreamEvent) :
    (stream.handleAll events).error ≠ some .eagain := by
  induction events generalizing stream with
  | nil => exact other
  | cons event rest ih => exact ih (handle_error_ne_eagain other event)

/-- A read answers end of file, or an error other than `EAGAIN`, although bytes are buffered. -/
def HidesData (stream : QuicStreamEntry) (iov : List Nat) : Prop :=
  stream.recvBuffer ≠ [] ∧
    ((stream.readv iov).result.value = 0 ∨
      (stream.readv iov).result.value < 0 ∧ (stream.readv iov).result.errno ≠ some .eagain)

instance (stream : QuicStreamEntry) (iov : List Nat) : Decidable (stream.HidesData iov) := by
  unfold HidesData
  infer_instance

private theorem exit_answers (exits : ¬ stream.Serves) (other : stream.error ≠ some .eagain) (iov : List Nat) :
    (stream.readv iov).result.value = 0 ∨
      (stream.readv iov).result.value < 0 ∧ (stream.readv iov).result.errno ≠ some .eagain := by
  cases failed : stream.error with
  | some err =>
    rw [failed] at other
    exact .inr (by simpa [readv, failed, CallResult.fail] using other)
  | none =>
    cases fin : stream.finRead with
    | true => exact .inl (by simp [readv, failed, fin, CallResult.ok])
    | false =>
      cases closed : stream.quartcOpen with
      | false => exact .inr (by simp [readv, failed, fin, closed, CallResult.fail])
      | true => exact (exits ⟨failed, fin, closed⟩).elim

/-- Buffered bytes are hidden by an early exit or by a count that is negative as an `int`. -/
theorem hidesData_iff (other : stream.error ≠ some .eagain) (iov : List Nat) :
    stream.HidesData iov ↔ stream.recvBuffer ≠ [] ∧
      (¬ stream.Serves ∨ intOfSize (min stream.recvBuffer.length iov.sum) < 0) := by
  unfold HidesData
  refine and_congr_right fun _ => ?_
  by_cases serves : stream.Serves
  · obtain ⟨_, _, result⟩ := readv_of_serves serves iov
    rw [result]
    split_ifs with zero
    · simp [CallResult.fail, serves, zero]
    · simp [serves, zero]
  · exact iff_of_true (exit_answers serves other iov) (.inl serves)

/-- No read of positive capacity in the run hides data. -/
def ReadsNeverHideData (stream : QuicStreamEntry) (events : List StreamEvent) : Prop :=
  ∀ before iov after, events = before ++ .readv iov :: after → 0 < iov.sum →
    ¬ (stream.handleAll before).HidesData iov

/-- The reads of a new stream entry never hide data exactly when each of them that finds bytes
buffered comes before `OnFinRead` and `OnClose` and moves a number of bytes whose `int` is not
negative. -/
theorem reads_never_hide_data_iff (fd : Fd) (udpSocket : Option UdpSocket) (socketEntry : SocketId)
    (streamId : Nat) (events : List StreamEvent) :
    (new fd udpSocket socketEntry streamId).ReadsNeverHideData events ↔
    (∀ before iov after, events = before ++ .readv iov :: after → 0 < iov.sum →
      ((new fd udpSocket socketEntry streamId).handleAll before).recvBuffer ≠ [] →
      (∀ event ∈ before, event.endsStream = false) ∧
        min ((new fd udpSocket socketEntry streamId).handleAll before).recvBuffer.length iov.sum
          % 2 ^ 32 < 2 ^ 31) := by
  refine forall_congr' fun before => forall_congr' fun iov => forall_congr' fun after =>
    imp_congr_right fun _ => imp_congr_right fun _ => ?_
  have fresh : (new fd udpSocket socketEntry streamId).Serves := ⟨rfl, rfl, rfl⟩
  have noError : (new fd udpSocket socketEntry streamId).error ≠ some .eagain := by simp [new]
  rw [hidesData_iff (handleAll_error_ne_eagain noError before), handleAll_serves_iff, not_and]
  refine imp_congr_right fun _ => ?_
  rw [not_or, not_not, not_lt, intOfSize_nonneg_iff, and_iff_right fresh]

/-- Data and FIN in one packet, as `doLoop` of the test client sends them: the read that follows is
told end of file while the byte is still buffered. -/
theorem fin_with_data_hides_it :
    StreamEvent.LibquicOrder [.onReceived [66], .onFinRead, .onReceived [], .readv [10240]] ∧
      ¬ (new 1 (some 7) 0 5).ReadsNeverHideData
        [.onReceived [66], .onFinRead, .onReceived [], .readv [10240]] := by
  refine ⟨⟨[[66]], [.onFinRead, .onReceived []], by decide, .inl ⟨[.onClose], rfl⟩⟩, ?_⟩
  intro never
  exact never [.onReceived [66], .onFinRead, .onReceived []] [10240] [] rfl (by decide) (by decide)

/-! ## The count that a read returns -/

/-- A read that removes bytes returns their number, and only one that removes none answers `EAGAIN`. -/
def CountsRemoved (stream : QuicStreamEntry) (iov : List Nat) : Prop :=
  let outcome := stream.readv iov
  let removed := stream.recvBuffer.length - outcome.entry.recvBuffer.length
  (0 < removed → outcome.result = ⟨removed, none⟩) ∧ (outcome.result = .fail .eagain → removed = 0)

theorem length_scatterRest (iov : List Nat) (items : List UInt8) :
    items.length - (List.scatterRest iov items).length = min items.length iov.sum := by
  rw [List.scatterRest, List.length_drop]
  omega

/-- On a stream without error or FIN the count is right exactly when it fits into an `int`. -/
theorem readv_counts_removed_iff (noError : stream.error = none) (noFin : stream.finRead = false) (iov : List Nat) :
    stream.CountsRemoved iov ↔ (stream.quartcOpen = true → min stream.recvBuffer.length iov.sum < 2 ^ 31) := by
  cases opens : stream.quartcOpen with
  | false =>
    have exits : ¬ stream.Serves := fun serves => Bool.false_ne_true (opens.symm.trans serves.2.2)
    have removed : stream.recvBuffer.length - (stream.readv iov).entry.recvBuffer.length = 0 := by
      rw [(readv_of_not_serves exits iov).2, Nat.sub_self]
    have counts : stream.CountsRemoved iov :=
      ⟨fun some => absurd removed some.ne', fun _ => removed⟩
    exact iff_of_true counts nofun
  | true =>
    obtain ⟨-, entry, result⟩ := readv_of_serves ⟨noError, noFin, opens⟩ iov
    unfold CountsRemoved
    dsimp only
    rw [result, entry, length_scatterRest]
    generalize min stream.recvBuffer.length iov.sum = removed
    constructor
    · rintro ⟨counted, -⟩ -
      by_contra large
      rw [not_lt] at large
      have whole := counted (by omega)
      have returned : intOfSize removed = removed := by
        split_ifs at whole with zero
        · cases whole
        · exact (CallResult.mk.inj whole).1
      -- an `int` stays below `2 ^ 31`
      have bounded : intOfSize removed < 2 ^ 31 := BitVec.toInt_lt
      omega
    · intro small
      rw [intOfSize_eq_self (small rfl)]
      constructor
      · intro some
        rw [if_neg (by omega)]
      · intro again
        split_ifs at again with zero
        · exact_mod_cast zero
        · cases again

/-- A read of a whole buffer of two bytes. -/
theorem readv_counts_two :
    (handleAll (new 1 (some 7) 0 5) [.onReceived [66, 67]]).CountsRemoved [1, 8] :=
  (readv_counts_removed_iff rfl rfl [1, 8]).mpr fun _ => by decide

theorem handleAll_receives (stream : QuicStreamEntry) (chunk : List UInt8) (count : Nat) :
    (stream.handleAll (List.replicate count (.onReceived chunk))).recvBuffer.length =
      stream.recvBuffer.length + count * chunk.length := by
  induction count generalizing stream with
  | zero => simp [handleAll]
  | succ count ih =>
    refine (ih (stream.handle (.onReceived chunk))).trans ?_
    simp only [handle, onReceived_recvBuffer, List.length_append]
    ring

/-- Four gibibytes arrive in chunks of one kibibyte before the application reads. -/
def receivesAll : List StreamEvent := List.replicate (2 ^ 22) (.onReceived (List.replicate 1024 66))

/-- The count of the read that takes them all is zero as an `int`: it reports that there was nothing to read. -/
theorem receivesAll_not_counted :
    ((new 1 (some 7) 0 5).handleAll receivesAll).Serves ∧
      ((new 1 (some 7) 0 5).handleAll receivesAll).recvBuffer.length = 2 ^ 32 ∧
      (((new 1 (some 7) 0 5).handleAll receivesAll).readv [2 ^ 32]).entry.recvBuffer = [] ∧
      (((new 1 (some 7) 0 5).handleAll receivesAll).readv [2 ^ 32]).result = .fail .eagain := by
  have serves : ((new 1 (some 7) 0 5).handleAll receivesAll).Serves := by
    rw [handleAll_serves_iff]
    refine ⟨⟨rfl, rfl, rfl⟩, fun event member => ?_⟩
    rw [List.eq_of_mem_replicate member]
    rfl
  have length : ((new 1 (some 7) 0 5).handleAll receivesAll).recvBuffer.length = 2 ^ 32 := by
    rw [receivesAll, handleAll_receives, List.length_replicate]
    rfl
  obtain ⟨-, entry, result⟩ := readv_of_serves serves [2 ^ 32]
  refine ⟨serves, length, ?_, ?_⟩
  · rw [entry]
    apply List.drop_eq_nil_of_le
    rw [length]
    exact le_rfl
  · rw [result, length]
    rfl

end PosixQuic.QuicStreamEntry
