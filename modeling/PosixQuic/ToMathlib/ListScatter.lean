import Mathlib

/-! # Scattering a list over consecutive segments

`scatter` deals a list out to segments of given capacities from left to right and stops as soon as
the list is exhausted, so segments after that point are not visited at all. Nothing is lost or
reordered: the visited segments in order, followed by what is left, are the list that was dealt.
-/

namespace List

variable {α : Type*}

/-- Fill the segments from the left; a segment is visited only while items remain. -/
def scatter : List Nat → List α → List (List α)
  | [], _ => []
  | _ :: _, [] => []
  | capacity :: rest, item :: items =>
    (item :: items).take capacity :: scatter rest ((item :: items).drop capacity)

/-- What the segments leave over. -/
def scatterRest (capacities : List Nat) (items : List α) : List α := items.drop capacities.sum

@[simp] theorem scatter_nil_left (items : List α) : scatter [] items = [] := by
  cases items <;> rfl

@[simp] theorem scatter_nil_right (capacities : List Nat) : scatter capacities ([] : List α) = [] := by
  cases capacities <;> rfl

theorem scatter_cons (capacity : Nat) (rest : List Nat) {items : List α} (nonempty : items ≠ []) :
    scatter (capacity :: rest) items = items.take capacity :: scatter rest (items.drop capacity) := by
  cases items with
  | nil => exact (nonempty rfl).elim
  | cons item items => rfl

/-- The visited segments hold a prefix of the items, in order. -/
theorem flatten_scatter (capacities : List Nat) (items : List α) :
    (scatter capacities items).flatten = items.take capacities.sum := by
  induction capacities generalizing items with
  | nil => simp
  | cons capacity rest ih =>
    cases items with
    | nil => simp
    | cons item items =>
      rw [scatter_cons _ _ (cons_ne_nil _ _), flatten_cons, ih, sum_cons, take_add]

theorem flatten_scatter_append_rest (capacities : List Nat) (items : List α) :
    (scatter capacities items).flatten ++ scatterRest capacities items = items := by
  rw [flatten_scatter, scatterRest, take_append_drop]

theorem length_scatter_le (capacities : List Nat) (items : List α) :
    (scatter capacities items).length ≤ capacities.length := by
  induction capacities generalizing items with
  | nil => simp
  | cons capacity rest ih =>
    cases items with
    | nil => simp
    | cons item items =>
      rw [scatter_cons _ _ (cons_ne_nil _ _), length_cons, length_cons]
      exact Nat.succ_le_succ (ih _)

/-- No segment is overfilled, and one that is not filled is the last one visited and has taken
everything that was left. -/
theorem scatter_fills (capacities : List Nat) (items : List α) (i : Nat) (segment : List α)
    (capacity : Nat) (visited : (scatter capacities items)[i]? = some segment)
    (room : capacities[i]? = some capacity) :
    segment.length ≤ capacity ∧
      (segment.length < capacity →
        i + 1 = (scatter capacities items).length ∧ scatterRest capacities items = []) := by
  induction capacities generalizing items i with
  | nil => simp at visited
  | cons head rest ih =>
    cases items with
    | nil => simp at visited
    | cons item items =>
      rw [scatter_cons _ _ (cons_ne_nil _ _)] at visited ⊢
      cases i with
      | zero =>
        simp only [getElem?_cons_zero, Option.some.injEq] at visited room
        subst segment capacity
        refine ⟨length_take_le _ _, fun short => ?_⟩
        have all : (item :: items).length ≤ head := by
          simp only [length_take] at short
          omega
        have dropped : (item :: items).drop head = [] := drop_eq_nil_of_le all
        refine ⟨by simp [dropped], drop_eq_nil_of_le ?_⟩
        simp only [sum_cons]
        omega
      | succ i =>
        simp only [getElem?_cons_succ] at visited room
        obtain ⟨bounded, last⟩ := ih _ i visited room
        refine ⟨bounded, fun short => ?_⟩
        obtain ⟨position, exhausted⟩ := last short
        refine ⟨by simpa using position, ?_⟩
        simpa only [scatterRest, drop_drop, sum_cons] using exhausted

/-- A segment that is never visited was preceded by segments that took everything. -/
theorem scatter_unvisited (capacities : List Nat) (items : List α)
    (short : (scatter capacities items).length < capacities.length) :
    scatterRest capacities items = [] := by
  induction capacities generalizing items with
  | nil => simp at short
  | cons head rest ih =>
    cases items with
    | nil => simp [scatterRest]
    | cons item items =>
      rw [scatter_cons _ _ (cons_ne_nil _ _), length_cons, length_cons] at short
      have exhausted := ih _ (Nat.lt_of_succ_lt_succ short)
      simpa only [scatterRest, drop_drop, sum_cons] using exhausted

end List
