import Mathlib.Tactic.Common

/-! # What a computation that may fault ends with

`Yields allowed post result` says that a result is good, or that it is a fault from an allowed set.
With an empty set it is total correctness; with a set that holds every fault it is partial
correctness. The rules follow the way such computations are composed.
-/

namespace Machine

universe u

variable {Fault : Type*} {α β : Type u}

def Yields (allowed : Fault → Prop) (post : α → Prop) : Except Fault α → Prop
  | .ok value => post value
  | .error fault => allowed fault

variable {allowed : Fault → Prop} {post : α → Prop} {value : α} {result : Except Fault α}

instance [DecidablePred allowed] [DecidablePred post] :
    DecidablePred (Yields allowed post : Except Fault α → Prop)
  | .ok value => inferInstanceAs (Decidable (post value))
  | .error fault => inferInstanceAs (Decidable (allowed fault))

@[simp]
theorem yields_ok : Yields allowed post (.ok value : Except Fault α) ↔ post value := Iff.rfl

@[simp]
theorem yields_error {fault : Fault} : Yields allowed post (.error fault : Except Fault α) ↔ allowed fault :=
  Iff.rfl

theorem Yields.imp {post' : α → Prop} (yields : Yields allowed post result)
    (weaker : ∀ value, post value → post' value) : Yields allowed post' result := by
  cases result with
  | ok value => exact weaker value yields
  | error fault => exact yields

theorem Yields.mono {allowed' : Fault → Prop} (yields : Yields allowed post result)
    (weaker : ∀ fault, allowed fault → allowed' fault) : Yields allowed' post result := by
  cases result with
  | ok value => exact yields
  | error fault => exact weaker fault yields

/-- Where every fault is allowed, only the successes count. -/
theorem yields_of_ok (known : ∀ value, result = .ok value → post value) : Yields (fun _ => True) post result := by
  cases result with
  | ok value => exact known value rfl
  | error fault => trivial

/-- The continuation starts in a good result of the first part. -/
theorem Yields.bind {post' : β → Prop} {first : Except Fault α} {next : α → Except Fault β}
    (yields : Yields allowed post first) (continues : ∀ value, post value → Yields allowed post' (next value)) :
    Yields allowed post' (first >>= next) := by
  cases first with
  | ok value => exact continues value yields
  | error fault => exact yields

/-- What is known of every success may be added. -/
theorem Yields.and_ok {post' : α → Prop} (yields : Yields allowed post result)
    (known : ∀ value, result = .ok value → post' value) :
    Yields allowed (fun value => post value ∧ post' value) result := by
  cases result with
  | ok value => exact ⟨yields, known value rfl⟩
  | error fault => exact yields

/-- A successful result is a good one. -/
theorem Yields.of_ok (yields : Yields allowed post result) (success : result = .ok value) : post value := by
  rw [success] at yields
  exact yields

/-- Without allowed faults there is a result. -/
theorem Yields.exists_ok (yields : Yields (fun _ => False) post result) : ∃ value, result = .ok value ∧ post value := by
  cases result with
  | ok value => exact ⟨value, rfl, yields⟩
  | error fault => exact yields.elim

/-- The fault that a computation ends with. -/
def fault? : Except Fault α → Option Fault
  | .ok _ => none
  | .error fault => some fault

theorem fault?_eq_some {fault : Fault} (failed : fault? result = some fault) : result = .error fault := by
  cases result with
  | ok value => cases failed
  | error other =>
    cases failed
    rfl

theorem eq_ok_of_toOption (success : result.toOption = some value) : result = .ok value := by
  cases result with
  | ok other =>
    cases success
    rfl
  | error fault => cases success

/-- A composed computation succeeds through both of its parts. -/
theorem bind_eq_ok {first : Except Fault α} {next : α → Except Fault β} {result : β}
    (success : first >>= next = .ok result) : ∃ value, first = .ok value ∧ next value = .ok result := by
  cases first with
  | ok value => exact ⟨value, rfl, success⟩
  | error fault => cases success

end Machine
