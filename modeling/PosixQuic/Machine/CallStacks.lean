import Mathlib

/-! # Counting what the calls in progress hold

Each thread has a stack of calls in progress, and a weight says how many tokens of some kind a call
holds at its current point. The total over all threads moves by exactly the weights of the calls a
step removes and adds, so an accounting invariant of a shared object needs no reasoning about which
thread holds what.
-/

namespace Machine

variable {Thread Call : Type*} [Fintype Thread] {calls : Thread → List Call}

/-- Tokens held by all calls in progress. -/
def tokens (weight : Call → Nat) (calls : Thread → List Call) : Nat :=
  ∑ thread, ((calls thread).map weight).sum

theorem tokens_empty (weight : Call → Nat) : tokens weight (fun _ : Thread => []) = 0 := by
  simp [tokens]

/-- A call in progress holds no more than the total. -/
theorem weight_le_tokens (weight : Call → Nat) {thread : Thread} {call : Call} (member : call ∈ calls thread) :
    weight call ≤ tokens weight calls := by
  calc weight call ≤ ((calls thread).map weight).sum :=
        List.single_le_sum (fun _ _ => Nat.zero_le _) _ (List.mem_map_of_mem member)
    _ ≤ tokens weight calls :=
        Finset.single_le_sum (f := fun thread => ((calls thread).map weight).sum)
          (fun _ _ => Nat.zero_le _) (Finset.mem_univ thread)

/-- Tokens are held by somebody. -/
theorem exists_of_tokens_pos {weight : Call → Nat} (held : 0 < tokens weight calls) :
    ∃ thread, ∃ call ∈ calls thread, 0 < weight call := by
  by_contra nobody
  push Not at nobody
  have none : tokens weight calls = 0 := by
    refine Finset.sum_eq_zero fun thread _ => List.sum_eq_zero ?_
    simp only [List.mem_map, forall_exists_index, and_imp]
    rintro _ call member rfl
    exact Nat.le_zero.mp (nobody thread call member)
  omega

variable [DecidableEq Thread]

/-- Changing one stack changes the total by the difference of that stack's tokens. -/
theorem tokens_update (weight : Call → Nat) (calls : Thread → List Call) (thread : Thread)
    (stack : List Call) :
    tokens weight (Function.update calls thread stack) + ((calls thread).map weight).sum =
      tokens weight calls + (stack.map weight).sum := by
  have others : ∀ other ∈ Finset.univ.erase thread,
      ((Function.update calls thread stack other).map weight).sum = ((calls other).map weight).sum := by
    intro other member
    rw [Function.update_of_ne (Finset.ne_of_mem_erase member)]
  unfold tokens
  rw [← Finset.add_sum_erase _ _ (Finset.mem_univ thread), Finset.sum_congr rfl others,
    ← Finset.add_sum_erase Finset.univ (fun other => ((calls other).map weight).sum)
      (Finset.mem_univ thread), Function.update_self]
  omega

/-- A thread's topmost call starts (nothing is removed), moves on, or returns (nothing is added). -/
theorem tokens_replace (weight : Call → Nat) {thread : Thread} {removed : Option Call} {rest : List Call}
    (top : calls thread = removed.toList ++ rest) (added : Option Call) :
    tokens weight (Function.update calls thread (added.toList ++ rest)) + removed.elim 0 weight =
      tokens weight calls + added.elim 0 weight := by
  have one : ∀ call : Option Call, (call.toList.map weight).sum = call.elim 0 weight := by
    intro call
    cases call <;> simp
  have changed := tokens_update weight calls thread (added.toList ++ rest)
  rw [top, List.map_append, List.map_append, List.sum_append, List.sum_append, one, one] at changed
  omega

end Machine
