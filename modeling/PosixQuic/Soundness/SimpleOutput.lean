import PosixQuic.Model.SimpleStream

/-! # Output of the simple layer: conservation, order and the FIN

Each call moves a prefix of what is pending to the transport, so taken and buffered bytes together are the
accepted ones in every state. The FIN has three ways out and only one flag, set by only one of them.
-/

namespace PosixQuic.Simple

@[simp] theorem taken_append (first second : List Signal) : taken (first ++ second) = taken first ++ taken second := by
  induction first with
  | nil => rfl
  | cons signal rest ih => cases signal <;> simp [taken, ih]

/-- The transport takes a prefix, whose length the result reports. -/
theorem quicWrite_taken (answer : Option Nat) (data : List UInt8) (fin : Bool) :
    taken (quicWrite answer data fin).2 = data.take (quicWrite answer data fin).1.toNat ∧
      (quicWrite answer data fin).1 ≤ data.length := by
  cases answer with
  | none => exact ⟨rfl, by simp [quicWrite]⟩
  | some offered =>
    simp only [quicWrite, taken]
    have fins : taken (if fin = true ∧ min offered data.length = data.length then [Signal.fin] else []) = [] := by
      split_ifs <;> rfl
    rw [fins, List.append_nil]
    split_ifs with none
    · rw [none]
      exact ⟨rfl, by omega⟩
    · exact ⟨rfl, by omega⟩

theorem quicWrite_no_fin (answer : Option Nat) (data : List UInt8) : .fin ∉ (quicWrite answer data false).2 := by
  cases answer <;> simp [quicWrite]

namespace Stream

/-- The loop moves a prefix of the buffers. -/
theorem drain_taken (buffers : List (List UInt8)) (answers : List (Option Nat)) :
    taken (drain buffers answers).2 ++ (drain buffers answers).1.flatten = buffers.flatten := by
  induction buffers generalizing answers with
  | nil => rfl
  | cons buf rest ih =>
    obtain ⟨prefixTaken, within⟩ := quicWrite_taken (answers.headD none) buf false
    simp only [drain]
    split_ifs with refused whole
    · have nothing : (quicWrite (answers.headD none) buf false).1.toNat = 0 := by omega
      rw [prefixTaken, nothing]
      rfl
    · have everything : buf.length ≤ (quicWrite (answers.headD none) buf false).1.toNat := by omega
      rw [taken_append, prefixTaken, List.take_of_length_le everything, List.append_assoc, ih]
      rfl
    · rw [prefixTaken, List.flatten_cons, ← List.append_assoc, List.take_append_drop]
      rfl

theorem drain_no_fin (buffers : List (List UInt8)) (answers : List (Option Nat)) :
    .fin ∉ (drain buffers answers).2 := by
  induction buffers generalizing answers with
  | nil => exact List.not_mem_nil
  | cons buf rest ih =>
    have quiet := quicWrite_no_fin (answers.headD none) buf
    simp only [drain]
    split_ifs with refused whole
    · exact quiet
    · exact fun member => (List.mem_append.mp member).elim quiet (ih _)
    · exact quiet

variable {stream : Stream}

theorem write_of_bufferedFin (told : stream.bufferedFin = true) (data : List UInt8) (fin : Bool) (answer : Option Nat) :
    stream.write data fin answer = (false, stream, []) := if_pos told

/-- What a write that returns true does to a stream. -/
structure Writes (stream : Stream) (data : List UInt8) (fin : Bool) (stream' : Stream) (signals : List Signal) :
    Prop where
  conserves : taken signals ++ stream'.buffers.flatten = stream.buffers.flatten ++ data
  bufferedFin : stream'.bufferedFin = fin
  writeFin : stream'.writeFin = stream.writeFin
  sends : .fin ∈ signals → fin = true ∧ stream'.buffers = [] ∧ ∃ before, signals = before ++ [.fin] ∧ .fin ∉ before

theorem quicWrite_sends {answer : Option Nat} {data : List UInt8} {fin : Bool}
    (sent : .fin ∈ (quicWrite answer data fin).2) :
    fin = true ∧ ((quicWrite answer data fin).1.toNat = data.length) ∧
      ∃ before, (quicWrite answer data fin).2 = before ++ [.fin] ∧ .fin ∉ before := by
  cases answer with
  | none => cases sent
  | some offered =>
    simp only [quicWrite] at sent ⊢
    by_cases complete : fin = true ∧ min offered data.length = data.length
    · rw [if_pos complete]
      refine ⟨complete.1, ?_, [.bytes _], rfl, by simp⟩
      split_ifs with none
      · exact none.symm.trans complete.2
      · exact complete.2
    · rw [if_neg complete] at sent
      simp at sent

/-- A write queues all of its data behind other slices, and otherwise what the transport did not take. -/
theorem write_eq (untold : stream.bufferedFin = false) (data : List UInt8) (fin : Bool) (answer : Option Nat) :
    stream.write data fin answer =
      if stream.buffers ≠ [] then
        (true, { stream with bufferedFin := fin, buffers := stream.buffers ++ [data] }, [])
      else if (quicWrite answer data fin).1.toNat < data.length then
        (true, { stream with bufferedFin := fin, buffers := [data.drop (quicWrite answer data fin).1.toNat] },
          (quicWrite answer data fin).2)
      else (true, { stream with bufferedFin := fin, buffers := [] }, (quicWrite answer data fin).2) := by
  have flagged : (if fin = true then { stream with bufferedFin := true } else stream) =
      { stream with bufferedFin := fin } := by
    obtain ⟨_, _, _, _⟩ := stream
    cases untold
    cases fin <;> rfl
  have clamped : (if (quicWrite answer data fin).1 < 0 then 0 else (quicWrite answer data fin).1) =
      ((quicWrite answer data fin).1.toNat : Int) := by
    split_ifs <;> omega
  simp only [write, untold, flagged, clamped, Bool.false_eq_true, if_false, Nat.cast_lt, Int.toNat_natCast]
  by_cases queued : stream.buffers = []
  · simp only [queued, List.nil_append]
  · rw [if_pos queued, if_pos queued]

theorem write_writes (untold : stream.bufferedFin = false) (data : List UInt8) (fin : Bool) (answer : Option Nat) :
    ∃ stream' signals, stream.write data fin answer = (true, stream', signals) ∧
      stream.Writes data fin stream' signals := by
  obtain ⟨prefixTaken, -⟩ := quicWrite_taken answer data fin
  rw [write_eq untold]
  split_ifs with queued short
  · refine ⟨_, _, rfl, ?_, rfl, rfl, nofun⟩
    simp [taken]
  · refine ⟨_, _, rfl, ?_, rfl, rfl, fun sent => ?_⟩
    · simp [prefixTaken, not_not.mp queued]
    · exact absurd (quicWrite_sends sent).2.1 short.ne
  · refine ⟨_, _, rfl, ?_, rfl, rfl, fun sent => ?_⟩
    · simp [prefixTaken, not_not.mp queued, List.take_of_length_le (not_lt.mp short)]
    · exact ⟨(quicWrite_sends sent).1, rfl, (quicWrite_sends sent).2.2⟩

/-- What draining does to a stream: the FIN goes out last, once, and only from empty buffers. -/
structure Drains (stream stream' : Stream) (signals : List Signal) : Prop where
  conserves : taken signals ++ stream'.buffers.flatten = stream.buffers.flatten
  bufferedFin : stream'.bufferedFin = stream.bufferedFin
  sends : .fin ∉ signals ∧ stream'.writeFin = stream.writeFin ∨
    stream.bufferedFin = true ∧ stream.writeFin = false ∧ stream'.writeFin = true ∧ stream'.buffers = [] ∧
      ∃ before, signals = before ++ [.fin] ∧ .fin ∉ before

theorem writeBufferedData_drains (stream : Stream) (answers : List (Option Nat)) :
    stream.Drains (stream.writeBufferedData answers).1 (stream.writeBufferedData answers).2 := by
  have conserves := drain_taken stream.buffers answers
  have quiet := drain_no_fin stream.buffers answers
  simp only [writeBufferedData]
  split_ifs with finishes
  · obtain ⟨empty, told, unsent⟩ := finishes
    refine ⟨?_, rfl, .inr ⟨told, by simpa using unsent, rfl, empty, _, rfl, quiet⟩⟩
    simpa [taken] using conserves
  · exact ⟨conserves, rfl, .inl ⟨quiet, rfl⟩⟩

theorem writeBufferedData_of_empty (empty : stream.buffers = [])
    (done : stream.bufferedFin = true → stream.writeFin = true) (answers : List (Option Nat)) :
    stream.writeBufferedData answers = (stream, []) := by
  obtain ⟨bufferedFin, writeFin, _, _⟩ := stream
  cases empty
  cases bufferedFin with
  | false => rfl
  | true =>
    cases done rfl
    rfl

theorem onCanRead_buffers (stream : Stream) (results : List ReadResult) :
    (stream.onCanRead results).1.buffers = stream.buffers ∧
      (stream.onCanRead results).1.bufferedFin = stream.bufferedFin ∧
      (stream.onCanRead results).1.writeFin = stream.writeFin ∧
      (stream.onCanRead results).2 = if readsEnd results then [.fin] else [] := by
  induction results with
  | nil => exact ⟨rfl, rfl, rfl, rfl⟩
  | cons result rest ih =>
    cases result with
    | received data => exact ih
    | eagain | endOfFile | failed => exact ⟨rfl, rfl, rfl, rfl⟩

end Stream

namespace StreamRun

/-- Taken and buffered bytes are the accepted ones. -/
def Conserves (r : StreamRun) : Prop := taken r.wire ++ r.stream.buffers.flatten = r.accepted

variable {r : StreamRun}

theorem step_conserves (conserves : r.Conserves) (call : StreamCall) : (r.step call).Conserves := by
  unfold Conserves at conserves ⊢
  cases call with
  | write data fin answer =>
    cases told : r.stream.bufferedFin with
    | true =>
      simp only [step, Stream.write_of_bufferedFin told, List.append_nil]
      exact conserves
    | false =>
      obtain ⟨stream', signals, written, writes⟩ := Stream.write_writes told data fin answer
      simp only [step, written, taken_append, if_true]
      rw [List.append_assoc, writes.conserves, ← List.append_assoc, conserves]
  | writeBufferedData answers =>
    simp only [step, taken_append]
    rw [List.append_assoc, (r.stream.writeBufferedData_drains answers).conserves, conserves]
  | onCanRead results =>
    obtain ⟨buffers, -, -, signals⟩ := r.stream.onCanRead_buffers results
    have nothing : taken (r.stream.onCanRead results).2 = [] := by
      rw [signals]
      split_ifs <;> rfl
    simp only [step, taken_append, nothing, List.append_nil, buffers]
    exact conserves

theorem output_conserves (run : system.Reachable {} r) : r.Conserves := by
  apply run.invariant (P := Conserves)
  · rfl
  · rintro before call after conserves - ⟨⟩
    exact step_conserves conserves call

/-- In every state of every run, what the transport has taken and what is still buffered make up, in order,
the data of all writes that returned true. -/
theorem output_conserved (run : system.Reachable {} r) :
    taken r.wire ++ r.stream.buffers.flatten = r.accepted := output_conserves run

/-- Two writes meet back pressure, the second one splits a buffer. -/
def writesUnderPressure : List StreamCall :=
  [.write [1, 2, 3] false (some 1), .write [4] true none, .writeBufferedData [some 1], .write [5] false (some 1)]

theorem writesUnderPressure_conserved :
    ∃ r, system.replay? {} writesUnderPressure = some r ∧ r.stream.buffers = [[3], [4]] ∧
      taken r.wire ++ r.stream.buffers.flatten = r.accepted := by
  have ends : ∃ r ∈ system.replay? {} writesUnderPressure, r.stream.buffers = [[3], [4]] := by decide
  obtain ⟨r, executed, buffers⟩ := ends
  exact ⟨r, executed, buffers, output_conserved (Machine.System.reachable_of_replay? executed)⟩

/-! ## The FIN -/

/-- Nothing is written after `OnCanRead` has read an end of file, which happens at most once and while no output
is pending, and no buffers are drained once `Write` itself got its FIN through. -/
def Orderly (r : StreamRun) : StreamCall → Prop
  | .write .. => r.ended = false
  | .writeBufferedData _ => r.direct = false
  | .onCanRead results =>
    readsEnd results = true → r.ended = false ∧ r.stream.bufferedFin = false ∧ r.stream.buffers = []

instance (r : StreamRun) : (call : StreamCall) → Decidable (r.Orderly call)
  | .write .. => inferInstanceAs (Decidable (r.ended = false))
  | .writeBufferedData _ => inferInstanceAs (Decidable (r.direct = false))
  | .onCanRead results => inferInstanceAs (Decidable (readsEnd results = true → _))

/-- The FIN is the last signal, with nothing left behind, and one of the three ways out has been taken. -/
structure Finished (r : StreamRun) : Prop where
  last : ∃ before, r.wire = before ++ [.fin] ∧ .fin ∉ before
  empty : r.stream.buffers = []
  way : r.stream.bufferedFin = true ∧ (r.stream.writeFin = true ∨ r.direct = true) ∨
    r.stream.bufferedFin = false ∧ r.ended = true

/-- No FIN has been sent. -/
structure Unfinished (r : StreamRun) : Prop where
  none : .fin ∉ r.wire
  writeFin : r.stream.writeFin = false
  direct : r.direct = false
  ended : r.ended = false

/-- A last FIN after signals without one. -/
theorem last_append {wire signals : List Signal} (none : .fin ∉ wire)
    (last : ∃ before, signals = before ++ [.fin] ∧ .fin ∉ before) :
    ∃ before, wire ++ signals = before ++ [.fin] ∧ .fin ∉ before := by
  obtain ⟨before, rfl, absent⟩ := last
  exact ⟨wire ++ before, (List.append_assoc ..).symm, by simp [none, absent]⟩

theorem step_unfinished (unfinished : r.Unfinished) (call : StreamCall) (orderly : r.Orderly call) :
    (r.step call).Unfinished ∨ (r.step call).Finished := by
  obtain ⟨none, writeFin, direct, ended⟩ := unfinished
  cases call with
  | write data fin answer =>
    cases told : r.stream.bufferedFin with
    | true =>
      left
      simp only [step, Stream.write_of_bufferedFin told, List.append_nil]
      exact ⟨none, writeFin, by simpa using direct, ended⟩
    | false =>
      obtain ⟨stream', signals, written, writes⟩ := Stream.write_writes told data fin answer
      simp only [step, written]
      by_cases sent : .fin ∈ signals
      · obtain ⟨requested, empty, last⟩ := writes.sends sent
        right
        refine ⟨last_append none last, empty, .inl ⟨writes.bufferedFin.trans requested, .inr ?_⟩⟩
        simp [sent]
      · left
        exact ⟨by simp [none, sent], writes.writeFin.trans writeFin, by simp [direct, sent], ended⟩
  | writeBufferedData answers =>
    obtain ⟨-, bufferedFin, sends⟩ := r.stream.writeBufferedData_drains answers
    rcases sends with ⟨quiet, kept⟩ | ⟨told, -, sent, empty, last⟩
    · left
      exact ⟨by simp [step, none, quiet], kept.trans writeFin, direct, ended⟩
    · right
      exact ⟨last_append none last, empty, .inl ⟨bufferedFin.trans told, .inl sent⟩⟩
  | onCanRead results =>
    obtain ⟨buffers, bufferedFin, keeps, signals⟩ := r.stream.onCanRead_buffers results
    cases reads : readsEnd results with
    | true =>
      obtain ⟨-, untold, empty⟩ := orderly reads
      rw [reads, if_pos rfl] at signals
      right
      refine ⟨?_, buffers.trans empty, .inr ⟨bufferedFin.trans untold, by simp [step, reads]⟩⟩
      exact last_append none ⟨[], signals, List.not_mem_nil⟩
    | false =>
      rw [reads, if_neg Bool.false_ne_true] at signals
      left
      exact ⟨by simp [step, signals, none], keeps.trans writeFin, direct, by simp [step, reads, ended]⟩

theorem step_finished (finished : r.Finished) (call : StreamCall) (orderly : r.Orderly call) :
    (r.step call).Finished := by
  obtain ⟨last, empty, way⟩ := finished
  cases call with
  | write data fin answer =>
    rcases way with ⟨told, way⟩ | ⟨-, ended⟩
    · simp only [step, Stream.write_of_bufferedFin told, List.append_nil]
      exact ⟨last, empty, .inl ⟨told, way.imp id fun direct => by simp [direct]⟩⟩
    · exact absurd (ended.symm.trans orderly) (by decide)
  | writeBufferedData answers =>
    have done : r.stream.bufferedFin = true → r.stream.writeFin = true := by
      intro told
      rcases way with ⟨-, sent | direct⟩ | ⟨untold, -⟩
      · exact sent
      · exact absurd (direct.symm.trans orderly) (by decide)
      · exact absurd (told.symm.trans untold) (by decide)
    simp only [step, Stream.writeBufferedData_of_empty empty done, List.append_nil]
    exact ⟨last, empty, way⟩
  | onCanRead results =>
    obtain ⟨buffers, bufferedFin, keeps, signals⟩ := r.stream.onCanRead_buffers results
    cases reads : readsEnd results with
    | true =>
      obtain ⟨going, untold, -⟩ := orderly reads
      rcases way with ⟨told, -⟩ | ⟨-, ended⟩
      · exact absurd (told.symm.trans untold) (by decide)
      · exact absurd (ended.symm.trans going) (by decide)
    | false =>
      rw [reads, if_neg Bool.false_ne_true] at signals
      refine ⟨?_, buffers.trans empty, ?_⟩
      · simpa [step, signals] using last
      · simpa [step, reads, bufferedFin, keeps] using way

/-- In orderly runs at most one FIN is sent, and every byte of every accepted write is taken before it. -/
theorem fin_disciplined (run : (system.restrict Orderly).Reachable {} r) :
    r.wire.count .fin ≤ 1 ∧ ∀ before after, r.wire = before ++ .fin :: after → taken before = r.accepted := by
  have progress : r.Unfinished ∨ r.Finished := by
    apply run.invariant (P := fun r => r.Unfinished ∨ r.Finished)
    · exact .inl ⟨List.not_mem_nil, rfl, rfl, rfl⟩
    · rintro first call next (unfinished | finished) ⟨-, orderly⟩ ⟨⟩
      · exact step_unfinished unfinished call orderly
      · exact .inr (step_finished finished call orderly)
  rcases progress with unfinished | finished
  · refine ⟨(List.count_eq_zero.mpr unfinished.none).trans_le (Nat.zero_le 1), fun before after split => ?_⟩
    exact absurd (split ▸ List.mem_append_right before (List.mem_cons_self ..)) unfinished.none
  · obtain ⟨first, wire, absent⟩ := finished.last
    have conserved := output_conserves run.of_restrict
    rw [Conserves, finished.empty, wire, taken_append] at conserved
    constructor
    · rw [wire, List.count_append, List.count_eq_zero.mpr absent]
      exact le_rfl
    · intro before after split
      rw [wire] at split
      obtain ⟨same, -, -⟩ := (List.append_cons_inj_of_notMem absent List.not_mem_nil).mp split
      rw [← same]
      simpa [taken] using conserved

/-- The FIN waits behind a buffer and follows it when the buffer is drained. -/
def finishesLate : List StreamCall :=
  [.write [1, 2] false (some 1), .write [3] true none, .onCanRead [.received [9], .eagain],
    .writeBufferedData [some 1, some 1], .write [4] false (some 1), .writeBufferedData []]

theorem finishesLate_disciplined :
    ∃ r, (system.restrict Orderly).replay? {} finishesLate = some r ∧
      r.wire = [.bytes [1], .bytes [2], .bytes [3], .fin] ∧ r.wire.count .fin ≤ 1 ∧
      ∀ before after, r.wire = before ++ .fin :: after → taken before = r.accepted := by
  have ends : ∃ r ∈ (system.restrict Orderly).replay? {} finishesLate,
      r.wire = [.bytes [1], .bytes [2], .bytes [3], .fin] := by decide
  obtain ⟨r, executed, wire⟩ := ends
  exact ⟨r, executed, wire, fin_disciplined (Machine.System.reachable_of_replay? executed)⟩

/-- A write whose FIN is taken at once, and the next writable event. -/
def finishesTwice : List StreamCall := [.write [1] true (some 1), .writeBufferedData []]

/-- A byte waits in the buffers when the peer ends its side. -/
def finishesEarly : List StreamCall := [.write [1] false none, .onCanRead [.endOfFile], .writeBufferedData [some 1]]

theorem fin_twice_or_early :
    (∃ r, system.replay? {} finishesTwice = some r ∧ r.wire = [.bytes [1], .fin, .fin]) ∧
      ∃ r, system.replay? {} finishesEarly = some r ∧ r.accepted = [1] ∧ r.wire = [.fin, .bytes [1]] := by
  have twice : ∃ r ∈ system.replay? {} finishesTwice, r.wire = [.bytes [1], .fin, .fin] := by decide
  have early : ∃ r ∈ system.replay? {} finishesEarly, r.accepted = [1] ∧ r.wire = [.fin, .bytes [1]] := by decide
  exact ⟨twice, early⟩

end StreamRun

end PosixQuic.Simple
