import Mathlib.Data.List.Basic
import Mathlib.Tactic.Common

/-! # What a history says about now

A history is a list of events, the newest first. Something is the case since an event if an event that brings it about
is in the history and no later event ends it.
-/

namespace Machine

variable {Event : Type*}

/-- Some event has brought it about, and no later one has ended it. -/
def Since (begins ends : Event → Prop) (log : List Event) : Prop :=
  ∃ newer event older, log = newer ++ event :: older ∧ begins event ∧ ∀ later ∈ newer, ¬ ends later

variable {begins ends : Event → Prop} {log : List Event}

theorem since_cons {event : Event} :
    Since begins ends (event :: log) ↔ begins event ∨ ¬ ends event ∧ Since begins ends log := by
  constructor
  · rintro ⟨newer, first, older, split, brought, lasts⟩
    cases newer with
    | nil =>
      cases split
      exact .inl brought
    | cons next newer =>
      cases split
      refine .inr ⟨lasts event List.mem_cons_self, newer, first, older, rfl, brought, ?_⟩
      exact fun later member => lasts later (List.mem_cons_of_mem _ member)
  · rintro (brought | ⟨kept, newer, first, older, rfl, brought, lasts⟩)
    · exact ⟨[], event, log, rfl, brought, fun _ member => absurd member List.not_mem_nil⟩
    · refine ⟨event :: newer, first, older, rfl, brought, ?_⟩
      intro later member
      rcases List.mem_cons.mp member with rfl | member
      · exact kept
      · exact lasts later member

/-- Events that have nothing to do with it change nothing. -/
theorem since_append {newer : List Event} (neutral : ∀ event ∈ newer, ¬ begins event ∧ ¬ ends event) :
    Since begins ends (newer ++ log) ↔ Since begins ends log := by
  induction newer with
  | nil => rfl
  | cons event newer ih =>
    obtain ⟨idle, kept⟩ := neutral event List.mem_cons_self
    rw [List.cons_append, since_cons, ih fun other member => neutral other (List.mem_cons_of_mem _ member)]
    simp [idle, kept]

/-- What was recorded since the history had a certain length. -/
def recordedSince (log : List Event) (mark : Nat) : List Event := log.take (log.length - mark)

theorem recordedSince_append {newer : List Event} {mark : Nat} (made : mark ≤ log.length) :
    recordedSince (newer ++ log) mark = newer ++ recordedSince log mark := by
  unfold recordedSince
  rw [List.length_append, Nat.add_sub_assoc made, List.take_length_add_append]

end Machine
