import PosixQuic.Soundness.SimpleOutput

/-! # When buffered output drains

`WriteBufferedData` stops at the first slice for which `QuicWrite` reports a failure, and `QuicWrite` reports one
for every slice without bytes. A slice that is left over from a write has bytes; one that is queued behind
others is whatever the application wrote.
-/

namespace PosixQuic.Simple

/-- Each slice that has bytes finds an answer that takes all of it. -/
def TakesWhole : List (List UInt8) → List (Option Nat) → Prop
  | [], _ => True
  | buf :: rest, answers =>
    (buf ≠ [] → ∃ offered, answers.headD none = some offered ∧ buf.length ≤ offered) ∧ TakesWhole rest answers.tail

/-- A whole slice is reported by its length. -/
theorem quicWrite_whole {data : List UInt8} (bytes : data ≠ []) {offered : Nat} (whole : data.length ≤ offered) :
    (quicWrite (some offered) data false).1 = data.length := by
  have some : data.length ≠ 0 := by simpa using bytes
  simp only [quicWrite, Nat.min_eq_right whole, if_neg some]

namespace Stream

/-- No slice without bytes is queued. -/
def Solid (stream : Stream) : Prop := ∀ buf ∈ stream.buffers, buf ≠ []

theorem drain_whole {buffers : List (List UInt8)} {answers : List (Option Nat)} (solid : ∀ buf ∈ buffers, buf ≠ [])
    (takes : TakesWhole buffers answers) : (drain buffers answers).1 = [] := by
  induction buffers generalizing answers with
  | nil => rfl
  | cons buf rest ih =>
    obtain ⟨bytes, others⟩ := List.forall_mem_cons.mp solid
    obtain ⟨offered, answer, whole⟩ := takes.1 bytes
    have reported := quicWrite_whole bytes whole
    simp only [drain, answer, reported]
    rw [if_neg (by omega), if_pos le_rfl]
    exact ih others takes.2

/-- What is left of the buffers has bytes if they had. -/
theorem drain_solid {buffers : List (List UInt8)} (answers : List (Option Nat))
    (solid : ∀ buf ∈ buffers, buf ≠ []) : ∀ buf ∈ (drain buffers answers).1, buf ≠ [] := by
  induction buffers generalizing answers with
  | nil => exact solid
  | cons buf rest ih =>
    obtain ⟨-, others⟩ := List.forall_mem_cons.mp solid
    simp only [drain]
    split_ifs with refused whole
    · exact solid
    · exact ih answers.tail others
    · refine List.forall_mem_cons.mpr ⟨fun empty => ?_, others⟩
      have short := List.drop_eq_nil_iff.mp empty
      omega

variable {stream : Stream}

theorem write_solid (solid : stream.Solid) {data : List UInt8} (fin : Bool) (answer : Option Nat)
    (bytes : stream.bufferedFin = false → stream.buffers ≠ [] → data ≠ []) :
    (stream.write data fin answer).2.1.Solid := by
  cases told : stream.bufferedFin with
  | true =>
    rw [write_of_bufferedFin told]
    exact solid
  | false =>
    rw [write_eq told]
    split_ifs with queued short
    · intro buf member
      rcases List.mem_append.mp member with older | newest
      · exact solid buf older
      · exact List.mem_singleton.mp newest ▸ bytes told queued
    · intro buf rest empty
      rw [List.mem_singleton.mp rest, List.drop_eq_nil_iff] at empty
      omega
    · exact fun buf member => (List.not_mem_nil member).elim

theorem writeBufferedData_solid (solid : stream.Solid) (answers : List (Option Nat)) :
    (stream.writeBufferedData answers).1.Solid := by
  have left := drain_solid answers solid
  simp only [writeBufferedData]
  split_ifs <;> exact left

/-- A transport that takes every slice leaves nothing behind, and the FIN follows unless it was sent before. -/
theorem writeBufferedData_whole (solid : stream.Solid) {answers : List (Option Nat)}
    (takes : TakesWhole stream.buffers answers) :
    (stream.writeBufferedData answers).1.buffers = [] ∧
      (stream.bufferedFin = true → stream.writeFin = false → .fin ∈ (stream.writeBufferedData answers).2) := by
  have drained := drain_whole solid takes
  simp only [writeBufferedData, drained, true_and]
  constructor
  · split_ifs <;> rfl
  · intro told unsent
    simp [told, unsent]

end Stream

namespace StreamRun

/-- Nothing is written without bytes while other slices are queued. -/
def QueuesBytes (r : StreamRun) : StreamCall → Prop
  | .write data _ _ => r.stream.bufferedFin = false → r.stream.buffers ≠ [] → data ≠ []
  | .writeBufferedData _ | .onCanRead _ => True

instance (r : StreamRun) : (call : StreamCall) → Decidable (r.QueuesBytes call)
  | .write data _ _ =>
    inferInstanceAs (Decidable (r.stream.bufferedFin = false → r.stream.buffers ≠ [] → data ≠ []))
  | .writeBufferedData _ | .onCanRead _ => inferInstanceAs (Decidable True)

/-- The buffers can be drained, and the flag of `WriteBufferedData` tells of a FIN that was sent. -/
structure Drainable (r : StreamRun) : Prop where
  solid : r.stream.Solid
  told : r.stream.writeFin = true → .fin ∈ r.wire

variable {r : StreamRun}

theorem step_drainable (drainable : r.Drainable) (call : StreamCall) (bytes : r.QueuesBytes call) :
    (r.step call).Drainable := by
  cases call with
  | write data fin answer =>
    refine ⟨Stream.write_solid drainable.solid fin answer bytes, fun sent => ?_⟩
    have kept : (r.step (.write data fin answer)).stream.writeFin = r.stream.writeFin := by
      cases told : r.stream.bufferedFin with
      | true => simp only [step, Stream.write_of_bufferedFin told]
      | false =>
        obtain ⟨stream', signals, written, writes⟩ := Stream.write_writes told data fin answer
        simp only [step, written]
        exact writes.writeFin
    exact List.mem_append_left _ (drainable.told (kept.symm.trans sent))
  | writeBufferedData answers =>
    refine ⟨Stream.writeBufferedData_solid drainable.solid answers, fun sent => List.mem_append.mpr ?_⟩
    rcases (r.stream.writeBufferedData_drains answers).sends with ⟨-, kept⟩ | ⟨-, -, -, -, before, last, -⟩
    · exact .inl (drainable.told (kept.symm.trans sent))
    · exact .inr (last.symm ▸ List.mem_append_right before (List.mem_singleton_self _))
  | onCanRead results =>
    obtain ⟨buffers, -, kept, -⟩ := r.stream.onCanRead_buffers results
    refine ⟨fun buf member => drainable.solid buf (buffers ▸ member), fun sent => ?_⟩
    exact List.mem_append_left _ (drainable.told (kept.symm.trans sent))

theorem reachable_drainable (run : (system.restrict QueuesBytes).Reachable {} r) : r.Drainable := by
  apply run.invariant (P := Drainable)
  · exact ⟨fun buf member => (List.not_mem_nil member).elim, nofun⟩
  · rintro before call after drainable ⟨-, bytes⟩ ⟨⟩
    exact step_drainable drainable call bytes

/-- In runs that never queue a slice without bytes, one `WriteBufferedData` empties the buffers as soon as the
transport takes every slice, and sends the FIN that was asked for. -/
theorem buffered_output_drains (run : (system.restrict QueuesBytes).Reachable {} r) {answers : List (Option Nat)}
    (takes : TakesWhole r.stream.buffers answers) :
    (r.stream.writeBufferedData answers).1.buffers = [] ∧
      (r.stream.bufferedFin = true → .fin ∉ r.wire → .fin ∈ (r.stream.writeBufferedData answers).2) := by
  have drainable := reachable_drainable run
  obtain ⟨empty, finishes⟩ := Stream.writeBufferedData_whole drainable.solid takes
  refine ⟨empty, fun told unsent => finishes told ?_⟩
  rw [← Bool.not_eq_true]
  exact fun sent => unsent (drainable.told sent)

/-- Two writes meet back pressure; a write without bytes is the first one and is not queued. -/
def queuesTwo : List StreamCall := [.write [] false none, .write [1, 2] false (some 1), .write [3] true none]

theorem queuesTwo_drains :
    ∃ r, (system.restrict QueuesBytes).replay? {} queuesTwo = some r ∧ r.stream.buffers = [[2], [3]] ∧
      (r.stream.writeBufferedData [some 1, some 9]).1.buffers = [] ∧
      .fin ∈ (r.stream.writeBufferedData [some 1, some 9]).2 := by
  have ends : ∃ r ∈ (system.restrict QueuesBytes).replay? {} queuesTwo,
      r.stream.buffers = [[2], [3]] ∧ r.stream.bufferedFin = true ∧ .fin ∉ r.wire := by decide
  obtain ⟨r, executed, buffers, told, unsent⟩ := ends
  have takes : TakesWhole r.stream.buffers [some 1, some 9] := by
    rw [buffers]
    exact ⟨fun _ => ⟨1, rfl, le_rfl⟩, fun _ => ⟨9, rfl, by decide⟩, trivial⟩
  obtain ⟨empty, finishes⟩ := buffered_output_drains (Machine.System.reachable_of_replay? executed) takes
  exact ⟨r, executed, buffers, empty, finishes told unsent⟩

/-- The last write only ends the stream while a byte is still queued. -/
def queuesNothing : List StreamCall := [.write [1] false none, .write [] true none]

theorem queuesNothing_stuck :
    ∃ r, system.replay? {} queuesNothing = some r ∧ r.stream.bufferedFin = true ∧ r.wire = [] ∧
      TakesWhole r.stream.buffers [some 1] ∧ (r.stream.writeBufferedData [some 1]).1.buffers = [[]] ∧
      (r.stream.writeBufferedData [some 1]).2 = [.bytes [1]] := by
  have ends : ∃ r ∈ system.replay? {} queuesNothing, r.stream.bufferedFin = true ∧ r.wire = [] ∧
      r.stream.buffers = [[1], []] ∧ (r.stream.writeBufferedData [some 1]).1.buffers = [[]] ∧
      (r.stream.writeBufferedData [some 1]).2 = [.bytes [1]] := by decide
  obtain ⟨r, executed, told, unsent, buffers, stuck⟩ := ends
  refine ⟨r, executed, told, unsent, ?_, stuck⟩
  rw [buffers]
  exact ⟨fun _ => ⟨1, rfl, le_rfl⟩, fun empty => (empty rfl).elim, trivial⟩

end StreamRun

end PosixQuic.Simple
