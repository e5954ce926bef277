import PosixQuic.Model.StreamOutput
import PosixQuic.Model.SimpleStream

/-! # What a write reports and what the stream accepted

libquic accepts all bytes or none, and a FIN together with all bytes. A FIN without bytes is accepted too, but
`Writev` looks at the bytes only and reports a failure that invites its caller to try again.
-/

namespace PosixQuic

namespace QuicStream

/-- `WritevData` turns the write down whatever it holds. -/
def Refuses (stream : QuicStream) (length : Nat) : Prop :=
  stream.writeSideClosed = true ∨ stream.finBuffered = true ∨ stream.writesTooMuch length = true

instance (stream : QuicStream) (length : Nat) : Decidable (stream.Refuses length) :=
  inferInstanceAs (Decidable (_ ∨ _ ∨ _))

variable {stream : QuicStream} {iov : List Nat} {iovCount : Int}

theorem writevData_of_refuses (refuses : stream.Refuses (writeLength iov iovCount)) (fin : Bool) :
    stream.writevData iov iovCount fin = ⟨0, false⟩ := by
  rcases refuses with closed | buffered | long
  · simp only [writevData, closed, if_true]
  · simp only [writevData, buffered, if_true, ite_self]
  · simp only [writevData, long, if_true, ite_self]

theorem writevData_of_not_refuses (takes : ¬ stream.Refuses (writeLength iov iovCount)) (fin : Bool) :
    stream.writevData iov iovCount fin =
      if stream.canWriteNewData then ⟨writeLength iov iovCount, fin⟩
      else ⟨0, writeLength iov iovCount = 0 && fin⟩ := by
  simp only [Refuses, not_or] at takes
  obtain ⟨opens, unfinished, fits⟩ := takes
  simp only [writevData, if_neg opens, if_neg unfinished, if_neg fits]
  split_ifs
  · simp
  · simp [eq_comm]

/-- A stream accepts all bytes, with the FIN if there is one, or no byte; a FIN alone it accepts at any time. -/
theorem writevData_all_or_nothing (takes : ¬ stream.Refuses (writeLength iov iovCount)) (fin : Bool) :
    stream.writevData iov iovCount fin = ⟨writeLength iov iovCount, fin⟩ ∨
      writeLength iov iovCount ≠ 0 ∧ stream.writevData iov iovCount fin = ⟨0, false⟩ := by
  rw [writevData_of_not_refuses takes]
  split_ifs
  · exact .inl rfl
  · by_cases empty : writeLength iov iovCount = 0
    · simp [empty]
    · simp [empty]

end QuicStream

/-- The write failed exactly if nothing was accepted, and otherwise returned the number of bytes. -/
def WriteOutcome.Reports (outcome : WriteOutcome) : Prop :=
  (outcome.result.value = -1 ↔ outcome.accepted.bytesConsumed = 0 ∧ outcome.accepted.finConsumed = false) ∧
    (outcome.result.value ≠ -1 → outcome.result.value = outcome.accepted.bytesConsumed)

/-- The fold of an answer into one result loses a FIN without bytes, and counts an `ssize_t` does not hold. -/
theorem reports_iff {consumed : QuicConsumedData} (bound : consumed.bytesConsumed < 2 ^ 64) :
    WriteOutcome.Reports ⟨if consumed.bytesConsumed = 0 then .fail .eagain
      else ⟨ssizeOfSize consumed.bytesConsumed, none⟩, consumed⟩ ↔
      (consumed.bytesConsumed = 0 → consumed.finConsumed = false) ∧ consumed.bytesConsumed < 2 ^ 63 := by
  obtain ⟨bytes, fin⟩ := consumed
  dsimp only [WriteOutcome.Reports] at bound ⊢
  by_cases empty : bytes = 0
  · simp [empty, CallResult.fail]
  by_cases counts : bytes < 2 ^ 63
  · have returned : ssizeOfSize bytes ≠ -1 := by
      rw [ssizeOfSize_eq_self counts]
      omega
    rw [if_neg empty]
    refine iff_of_true ⟨iff_of_false returned fun nothing => empty nothing.1, fun _ => ?_⟩
      ⟨fun zero => (empty zero).elim, counts⟩
    exact ssizeOfSize_eq_self counts
  · have negative : ssizeOfSize bytes < 0 := by
      simp only [ssizeOfSize, BitVec.toInt, BitVec.toNat_ofNat, Nat.mod_eq_of_lt bound]
      rw [if_neg (by omega)]
      omega
    rw [if_neg empty]
    refine iff_of_false (fun reports => ?_) fun reported => counts reported.2
    obtain ⟨failed, counted⟩ := reports
    by_cases returned : ssizeOfSize bytes = -1
    · exact empty (failed.mp returned).1
    · have count : ssizeOfSize bytes = bytes := counted returned
      omega

namespace QuicStreamEntry

/-- `Writev` gets as far as asking the stream. -/
def Asks (entry : QuicStreamEntry) : Prop := entry.error = none ∧ entry.quartcOpen = true

theorem writev_of_not_asks {entry : QuicStreamEntry} (exits : ¬ entry.Asks) (stream : QuicStream) (iov : List Nat)
    (fin : Bool) :
    (entry.writev stream iov fin).result.value = -1 ∧
      (entry.writev stream iov fin).accepted = ⟨0, false⟩ := by
  cases failed : entry.error with
  | some err => simp [writev, failed, CallResult.fail]
  | none =>
    cases opens : entry.quartcOpen with
    | false => simp [writev, failed, opens, CallResult.fail]
    | true => exact (exits ⟨failed, opens⟩).elim

theorem writev_of_asks {entry : QuicStreamEntry} (asks : entry.Asks) {stream : QuicStream} {iov : List Nat}
    {fin : Bool} {consumed : QuicConsumedData}
    (answer : stream.writevData iov (intOfSize iov.length) fin = consumed) :
    entry.writev stream iov fin =
      ⟨if consumed.bytesConsumed = 0 then .fail .eagain else ⟨ssizeOfSize consumed.bytesConsumed, none⟩,
        consumed⟩ := by
  obtain ⟨noError, opens⟩ := asks
  simp only [writev, noError, opens, answer, Bool.not_true, Bool.false_eq_true, if_false]
  split_ifs <;> rfl

/-- Exactly when `Writev` reports what was accepted: not for a FIN without bytes that the stream accepts, nor for
more bytes than an `ssize_t` counts. -/
theorem writev_reports_iff (entry : QuicStreamEntry) (stream : QuicStream) (iov : List Nat) (fin : Bool) :
    (entry.writev stream iov fin).Reports ↔
      (entry.Asks → ¬ stream.Refuses (QuicStream.writeLength iov (intOfSize iov.length)) →
        (QuicStream.writeLength iov (intOfSize iov.length) = 0 → fin = false) ∧
        (stream.canWriteNewData = true → QuicStream.writeLength iov (intOfSize iov.length) < 2 ^ 63)) := by
  by_cases asks : entry.Asks
  · rw [forall_prop_of_true asks]
    by_cases refuses : stream.Refuses (QuicStream.writeLength iov (intOfSize iov.length))
    · rw [writev_of_asks asks (QuicStream.writevData_of_refuses refuses fin), reports_iff (by decide)]
      exact iff_of_true ⟨fun _ => rfl, by decide⟩ fun takes => (takes refuses).elim
    · have bound : QuicStream.writeLength iov (intOfSize iov.length) < 2 ^ 64 := Nat.mod_lt _ (by decide)
      have answer := QuicStream.writevData_of_not_refuses refuses fin
      rw [forall_prop_of_true refuses]
      cases room : stream.canWriteNewData with
      | true =>
        rw [room, if_pos rfl] at answer
        rw [writev_of_asks asks answer, reports_iff bound, forall_prop_of_true rfl]
      | false =>
        rw [room, if_neg Bool.false_ne_true] at answer
        rw [writev_of_asks asks answer, reports_iff (by dsimp only; omega)]
        simp
  · obtain ⟨failed, nothing⟩ := writev_of_not_asks asks stream iov fin
    refine iff_of_true ⟨?_, fun succeeded => (succeeded failed).elim⟩ fun asked => (asks asked).elim
    rw [nothing]
    exact iff_of_true failed ⟨rfl, rfl⟩

/-- The last `QuicWrite` of a sender that has already sent all of its data. -/
theorem fin_alone_not_reported :
    ¬ (writev (new 1 (some 7) 0 5) { bufferedDataThreshold := 65536 } [0] true).Reports := by
  have answer : writev (new 1 (some 7) 0 5) { bufferedDataThreshold := 65536 } [0] true =
      ⟨.fail .eagain, ⟨0, true⟩⟩ := by decide
  rw [answer]
  exact fun reports => Bool.noConfusion (reports.1.mp (by decide)).2

end QuicStreamEntry

namespace Simple

theorem writeLength_single {length : Nat} (counts : length < 2 ^ 63) :
    QuicStream.writeLength [length] (intOfSize [length].length) = length := by
  change (length + 0) % 2 ^ 64 = length
  omega

/-- `QuicWrite` as the simple layer sees it is a `Writev` of one iovec, for some answer of the transport. -/
theorem quicWrite_of_writev (entry : QuicStreamEntry) (stream : QuicStream) (data : List UInt8) (fin : Bool)
    (counts : data.length < 2 ^ 63) :
    ∃ answer, (quicWrite answer data fin).1 = (entry.writev stream [data.length] fin).result.value ∧
      taken (quicWrite answer data fin).2 = data.take (entry.writev stream [data.length] fin).accepted.bytesConsumed ∧
      (.fin ∈ (quicWrite answer data fin).2 ↔
        (entry.writev stream [data.length] fin).accepted.finConsumed = true) := by
  by_cases asks : entry.Asks
  swap
  · obtain ⟨failed, nothing⟩ := QuicStreamEntry.writev_of_not_asks asks stream [data.length] fin
    refine ⟨none, failed.symm, ?_, ?_⟩ <;> simp [nothing, quicWrite, taken]
  by_cases refuses : stream.Refuses (QuicStream.writeLength [data.length] (intOfSize [data.length].length))
  · rw [QuicStreamEntry.writev_of_asks asks (QuicStream.writevData_of_refuses refuses fin)]
    exact ⟨none, rfl, rfl, by simp [quicWrite]⟩
  have answer := QuicStream.writevData_of_not_refuses refuses fin
  rw [writeLength_single counts] at answer
  rw [QuicStreamEntry.writev_of_asks asks answer]
  cases stream.canWriteNewData with
  | true =>
    refine ⟨some data.length, ?_, ?_, ?_⟩
    · simp only [quicWrite, min_self, if_true, ssizeOfSize_eq_self counts]
      split_ifs <;> rfl
    · cases fin <;> simp [quicWrite, taken]
    · cases fin <;> simp [quicWrite]
  | false =>
    -- a full send buffer still takes a FIN that comes without bytes
    refine ⟨some 0, rfl, ?_⟩
    cases data with
    | nil => cases fin <;> simp [quicWrite, taken]
    | cons byte rest => simp [quicWrite, taken]

end Simple

end PosixQuic
