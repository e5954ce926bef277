import Mathlib.Data.List.Nodup
import Mathlib.Logic.Function.Basic
import Mathlib.Tactic.Common

/-! # Families of queues

One queue for each key. Somebody joins the end of a queue, leaves its front or empties it, and the
other queues stay as they are.
-/

namespace Machine

variable {Key Guest : Type*} [DecidableEq Key] {queues : Key → List Guest} {key other : Key} {guest last first : Guest}
  {rest : List Guest}

theorem mem_update_append :
    guest ∈ Function.update queues key (queues key ++ [last]) other ↔
      guest ∈ queues other ∨ guest = last ∧ other = key := by
  by_cases same : other = key
  · subst same
    simp
  · simp [same]

/-- Nobody waits twice if only newcomers join. -/
theorem nodup_update_append (nodup : ∀ key, (queues key).Nodup) (nowhere : ∀ key, last ∉ queues key) (other : Key) :
    (Function.update queues key (queues key ++ [last]) other).Nodup := by
  by_cases same : other = key
  · rw [same, Function.update_self]
    exact (nodup key).append (List.nodup_singleton last) fun x before joins =>
      nowhere key (List.mem_singleton.mp joins ▸ before)
  · rw [Function.update_of_ne same]
    exact nodup other

theorem update_nil_sublist (queues : Key → List Guest) (key other : Key) :
    (Function.update queues key [] other).Sublist (queues other) := by
  by_cases same : other = key
  · rw [same, Function.update_self]
    exact List.nil_sublist _
  · rw [Function.update_of_ne same]

theorem update_tail_sublist (queues : Key → List Guest) (key other : Key) :
    (Function.update queues key (queues key).tail other).Sublist (queues other) := by
  by_cases same : other = key
  · rw [same, Function.update_self]
    exact List.tail_sublist _
  · rw [Function.update_of_ne same]

theorem update_rest_sublist (waiting : queues key = first :: rest) (other : Key) :
    (Function.update queues key rest other).Sublist (queues other) := by
  have leaves := update_tail_sublist queues key other
  rwa [waiting] at leaves

/-- All but the first stay. -/
theorem mem_update_rest (waiting : queues key = first :: rest) (member : guest ∈ queues other) (stays : guest ≠ first) :
    guest ∈ Function.update queues key rest other := by
  by_cases same : other = key
  · rw [same, waiting] at member
    rw [same, Function.update_self]
    exact (List.mem_cons.mp member).resolve_left stays
  · rwa [Function.update_of_ne same]

end Machine
