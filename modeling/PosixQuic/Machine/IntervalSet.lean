import Mathlib.Algebra.GroupWithZero.Nat
import Mathlib.Data.List.Basic
import Mathlib.Order.Interval.Finset.Nat
import Mathlib.Order.MinMax
import Mathlib.Tactic.Common
import Mathlib.Tactic.Order

/-! # Sets kept as ordered lists of half-open intervals

The representation is canonical: the intervals are nonempty, ascending, and neither overlap nor touch. Two sets with the
same points are equal, so what an operation does is said by membership of points alone, and it does not matter by which
search an implementation finds its place in the list.
-/

namespace Machine

variable {α : Type*}

/-- The points from `min` up to `max`, without `max`; none unless `min < max`. -/
structure Interval (α : Type*) where
  min : α
  max : α
deriving DecidableEq, Repr

namespace Intervals

variable [LinearOrder α] {i j : Interval α} {intervals first second rest : List (Interval α)} {x : α}

/-- The point lies in one of the intervals. -/
def Covers (intervals : List (Interval α)) (x : α) : Prop := ∃ i ∈ intervals, i.min ≤ x ∧ x < i.max

@[simp]
theorem covers_nil (x : α) : ¬ Covers ([] : List (Interval α)) x := by simp [Covers]

@[simp]
theorem covers_cons : Covers (i :: rest) x ↔ (i.min ≤ x ∧ x < i.max) ∨ Covers rest x := by simp [Covers]

/-- Nonempty intervals in ascending order that neither overlap nor touch. -/
@[mk_iff]
structure Canonical (intervals : List (Interval α)) : Prop where
  nonempty : ∀ i ∈ intervals, i.min < i.max
  apart : intervals.Pairwise fun i j => i.max < j.min

instance (intervals : List (Interval α)) : Decidable (Canonical intervals) :=
  decidable_of_iff _ (canonical_iff intervals).symm

theorem canonical_nil : Canonical ([] : List (Interval α)) := ⟨by simp, .nil⟩

theorem canonical_cons : Canonical (i :: rest) ↔ i.min < i.max ∧ (∀ j ∈ rest, i.max < j.min) ∧ Canonical rest := by
  simp only [canonical_iff, List.forall_mem_cons, List.pairwise_cons]
  tauto

theorem canonical_append : Canonical (first ++ second) ↔
    Canonical first ∧ Canonical second ∧ ∀ i ∈ first, ∀ j ∈ second, i.max < j.min := by
  simp only [canonical_iff, List.forall_mem_append, List.pairwise_append]
  tauto

theorem Canonical.covers_min (canonical : Canonical intervals) (member : i ∈ intervals) : Covers intervals i.min :=
  ⟨i, member, le_rfl, canonical.nonempty i member⟩

/-- What lies behind the first interval. -/
theorem Canonical.covers_tail (canonical : Canonical (i :: rest)) : Covers rest x ↔ Covers (i :: rest) x ∧ i.max ≤ x := by
  obtain ⟨-, gap, -⟩ := canonical_cons.mp canonical
  rw [covers_cons]
  constructor
  · rintro ⟨j, member, from_j, below⟩
    exact ⟨.inr ⟨j, member, from_j, below⟩, (gap j member).le.trans from_j⟩
  · rintro ⟨here | behind, beyond⟩
    · exact absurd here.2 (not_lt_of_ge beyond)
    · exact behind

/-- The first interval starts with the first point. -/
theorem Canonical.le_of_covers (canonical : Canonical (i :: rest)) (covered : Covers (i :: rest) x) : i.min ≤ x := by
  rcases covers_cons.mp covered with here | behind
  · exact here.1
  · exact (canonical.nonempty i List.mem_cons_self).le.trans (canonical.covers_tail.mp behind).2

/-- The end of an interval is a gap. -/
theorem Canonical.not_covers_max (canonical : Canonical intervals) (member : i ∈ intervals) : ¬ Covers intervals i.max := by
  induction intervals with
  | nil => exact covers_nil _
  | cons j rest ih =>
    obtain ⟨some_point, gap, behind⟩ := canonical_cons.mp canonical
    rw [covers_cons, not_or]
    rcases List.mem_cons.mp member with rfl | later
    · exact ⟨fun here => lt_irrefl _ here.2, fun ⟨k, there, from_k, _⟩ => not_le_of_gt (gap k there) from_k⟩
    · exact ⟨fun here => lt_asymm here.2 ((gap i later).trans (behind.nonempty i later)), ih behind later⟩

/-- The points determine the list. -/
theorem Canonical.ext (canonical : Canonical first) (canonical' : Canonical second)
    (same : ∀ x, Covers first x ↔ Covers second x) : first = second := by
  induction first generalizing second with
  | nil =>
    cases second with
    | nil => rfl
    | cons j rest => exact absurd ((same j.min).mpr (canonical'.covers_min List.mem_cons_self)) (covers_nil _)
  | cons i tail ih =>
    cases second with
    | nil => exact absurd ((same i.min).mp (canonical.covers_min List.mem_cons_self)) (covers_nil _)
    | cons j rest =>
      have starts := canonical.covers_min List.mem_cons_self
      have starts' := canonical'.covers_min List.mem_cons_self
      have sameMin : i.min = j.min := le_antisymm (canonical.le_of_covers ((same _).mpr starts'))
        (canonical'.le_of_covers ((same _).mp starts))
      have left := canonical.nonempty i List.mem_cons_self
      have right := canonical'.nonempty j List.mem_cons_self
      have sameMax : i.max = j.max := by
        rcases lt_trichotomy i.max j.max with less | equal | more
        · have inside : Covers (j :: rest) i.max := covers_cons.mpr (.inl ⟨sameMin ▸ left.le, less⟩)
          exact absurd ((same _).mpr inside) (canonical.not_covers_max List.mem_cons_self)
        · exact equal
        · have inside : Covers (i :: tail) j.max := covers_cons.mpr (.inl ⟨sameMin ▸ right.le, more⟩)
          exact absurd ((same _).mp inside) (canonical'.not_covers_max List.mem_cons_self)
      have rests : tail = rest := by
        apply ih (canonical_cons.mp canonical).2.2 (canonical_cons.mp canonical').2.2
        intro x
        rw [canonical.covers_tail, canonical'.covers_tail, same, sameMax]
      cases i
      cases j
      simp_all

theorem Canonical.le_getLast? (canonical : Canonical intervals) {last : Interval α}
    (ends : intervals.getLast? = some last) (member : i ∈ intervals) : i.max ≤ last.max := by
  obtain ⟨front, rfl⟩ := List.getLast?_eq_some_iff.mp ends
  obtain ⟨-, single, gap⟩ := canonical_append.mp canonical
  rcases List.mem_append.mp member with earlier | same
  · have some_last := single.nonempty last List.mem_cons_self
    exact ((gap i earlier last List.mem_cons_self).trans some_last).le
  · exact (congrArg Interval.max (List.mem_singleton.mp same)).le

/-- Put an interval where it belongs, and merge it with whatever it overlaps or touches. -/
def add (i : Interval α) : List (Interval α) → List (Interval α)
  | [] => [i]
  | j :: rest =>
    if j.max < i.min then j :: add i rest
    else if i.max < j.min then i :: j :: rest
    else add ⟨min i.min j.min, max i.max j.max⟩ rest

theorem add_spec (canonical : Canonical intervals) (some_point : i.min < i.max) :
    Canonical (add i intervals) ∧ ∀ x, Covers (add i intervals) x ↔ Covers intervals x ∨ (i.min ≤ x ∧ x < i.max) := by
  induction intervals generalizing i with
  | nil => exact ⟨canonical_cons.mpr ⟨some_point, by simp, canonical⟩, fun x => by simp [add]⟩
  | cons j rest ih =>
    obtain ⟨some_j, gap, behind⟩ := canonical_cons.mp canonical
    rw [add]
    split_ifs with before clears
    · obtain ⟨canonical', points⟩ := ih behind some_point
      refine ⟨canonical_cons.mpr ⟨some_j, fun k member => ?_, canonical'⟩, fun x => ?_⟩
      · rcases (points _).mp (canonical'.covers_min member) with ⟨k', later, from_k, -⟩ | inside
        · exact (gap k' later).trans_le from_k
        · exact before.trans_le inside.1
      · rw [covers_cons, points, covers_cons, or_assoc]
    · refine ⟨canonical_cons.mpr ⟨some_point, List.forall_mem_cons.mpr ⟨clears, fun k later => ?_⟩, canonical⟩, fun x => ?_⟩
      · exact (clears.trans some_j).trans (gap k later)
      · rw [covers_cons, or_comm]
    · obtain ⟨canonical', points⟩ := @ih ⟨min i.min j.min, max i.max j.max⟩ behind
        (lt_max_of_lt_left ((min_le_left ..).trans_lt some_point))
      refine ⟨canonical', fun x => ?_⟩
      rw [points, covers_cons]
      simp only [min_le_iff, lt_max_iff]
      grind

/-- Take an interval away from each of the others. -/
def subtract (i : Interval α) (intervals : List (Interval α)) : List (Interval α) :=
  intervals.flatMap fun j => [⟨j.min, min j.max i.min⟩, ⟨max j.min i.max, j.max⟩].filter fun k => k.min < k.max

theorem subtract_spec (canonical : Canonical intervals) (some_point : i.min < i.max) :
    Canonical (subtract i intervals) ∧
      ∀ x, Covers (subtract i intervals) x ↔ Covers intervals x ∧ ¬ (i.min ≤ x ∧ x < i.max) := by
  refine ⟨⟨?_, List.pairwise_flatMap.mpr ⟨fun j _ => ?_, ?_⟩⟩, fun x => ?_⟩
  · simp only [subtract, List.mem_flatMap, List.mem_filter, decide_eq_true_eq]
    exact fun k ⟨j, _, _, some_k⟩ => some_k
  · refine List.Pairwise.filter _ (List.pairwise_pair.mpr ?_)
    exact (min_le_right ..).trans_lt (some_point.trans_le (le_max_right ..))
  · refine canonical.apart.imp fun {j k} gap a left b right => ?_
    simp only [List.mem_filter, List.mem_cons, List.not_mem_nil, or_false, decide_eq_true_eq] at left right
    grind
  · simp only [subtract, Covers, List.mem_flatMap, List.mem_filter, List.mem_cons, List.not_mem_nil, or_false,
      decide_eq_true_eq]
    constructor
    · grind
    · rintro ⟨⟨j, member, low, high⟩, outside⟩
      rcases lt_or_ge x i.min with below | above
      · exact ⟨⟨j.min, min j.max i.min⟩, ⟨j, member, .inl rfl, by grind⟩, by grind⟩
      · exact ⟨⟨max j.min i.max, j.max⟩, ⟨j, member, .inr rfl, by grind⟩, by grind⟩

end Intervals

open Intervals

/-- A set of points in its one representation. -/
structure IntervalSet (α : Type*) [LinearOrder α] where
  intervals : List (Interval α)
  canonical : Canonical intervals

namespace IntervalSet

variable [LinearOrder α] {s : IntervalSet α} {x low high : α} {bound : Nat}

instance : Membership α (IntervalSet α) := ⟨fun s x => Covers s.intervals x⟩

instance : DecidableEq (IntervalSet α) := fun s t =>
  decidable_of_iff (s.intervals = t.intervals) (by cases s; cases t; simp)

theorem mem_def : x ∈ s ↔ ∃ i ∈ s.intervals, i.min ≤ x ∧ x < i.max := Iff.rfl

theorem min_mem {i : Interval α} (member : i ∈ s.intervals) : i.min ∈ s :=
  s.canonical.covers_min member

/-- The operations are compared by their points. -/
theorem ext {t : IntervalSet α} (same : ∀ x, x ∈ s ↔ x ∈ t) : s = t := by
  obtain ⟨intervals, canonical⟩ := s
  obtain ⟨intervals', canonical'⟩ := t
  have lists : intervals = intervals' := canonical.ext canonical' same
  subst lists
  rfl

def empty : IntervalSet α := ⟨[], canonical_nil⟩

def isEmpty (s : IntervalSet α) : Bool := s.intervals.isEmpty

/-- How many intervals the representation has. -/
def size (s : IntervalSet α) : Nat := s.intervals.length

def first? (s : IntervalSet α) : Option (Interval α) := s.intervals.head?

def last? (s : IntervalSet α) : Option (Interval α) := s.intervals.getLast?

def add (s : IntervalSet α) (low high : α) : IntervalSet α :=
  if some_point : low < high then ⟨Intervals.add ⟨low, high⟩ s.intervals, (add_spec s.canonical some_point).1⟩ else s

def single (low high : α) : IntervalSet α := empty.add low high

/-- Take one interval away. -/
def subtract (s : IntervalSet α) (low high : α) : IntervalSet α :=
  if some_point : low < high then ⟨Intervals.subtract ⟨low, high⟩ s.intervals, (subtract_spec s.canonical some_point).1⟩
  else s

def difference (s t : IntervalSet α) : IntervalSet α := t.intervals.foldl (fun s i => s.subtract i.min i.max) s

/-- All points from `low` up to `high` are there. -/
def contains (s : IntervalSet α) (low high : α) : Bool := s.intervals.any fun i => i.min ≤ low && high ≤ i.max

@[simp]
theorem not_mem_empty (x : α) : x ∉ (empty : IntervalSet α) := covers_nil x

@[simp]
theorem mem_add : x ∈ s.add low high ↔ x ∈ s ∨ (low ≤ x ∧ x < high) := by
  rw [add]
  split_ifs with some_point
  · exact (add_spec s.canonical some_point).2 x
  · exact ⟨.inl, Or.rec id fun inside => absurd (inside.1.trans_lt inside.2) some_point⟩

@[simp]
theorem mem_single : x ∈ single low high ↔ low ≤ x ∧ x < high := by simp [single]

@[simp]
theorem mem_subtract : x ∈ s.subtract low high ↔ x ∈ s ∧ ¬ (low ≤ x ∧ x < high) := by
  rw [subtract]
  split_ifs with some_point
  · exact (subtract_spec s.canonical some_point).2 x
  · exact ⟨fun here => ⟨here, fun inside => some_point (inside.1.trans_lt inside.2)⟩, And.left⟩

theorem mem_foldl_add {intervals : List (Interval α)} :
    x ∈ intervals.foldl (fun s i => s.add i.min i.max) s ↔ x ∈ s ∨ Covers intervals x := by
  induction intervals generalizing s with
  | nil => simp
  | cons i rest ih => rw [List.foldl_cons, ih, mem_add, covers_cons, or_assoc]

@[simp]
theorem mem_difference {t : IntervalSet α} : x ∈ s.difference t ↔ x ∈ s ∧ x ∉ t := by
  obtain ⟨intervals, canonical⟩ := t
  show x ∈ intervals.foldl _ s ↔ x ∈ s ∧ ¬ Covers intervals x
  clear canonical
  induction intervals generalizing s with
  | nil => simp
  | cons i rest ih => rw [List.foldl_cons, ih, mem_subtract, covers_cons, not_or, and_assoc]

theorem size_subtract_first {first : Interval α} (starts : s.first? = some first) :
    (s.subtract first.min first.max).size + 1 = s.size := by
  obtain ⟨intervals, canonical⟩ := s
  obtain ⟨rest, rfl⟩ := List.head?_eq_some_iff.mp starts
  have remaining : subtract ⟨first :: rest, canonical⟩ first.min first.max = ⟨rest, (canonical_cons.mp canonical).2.2⟩ := by
    apply ext
    intro x
    rw [mem_subtract]
    refine (and_congr_right fun there => ?_).trans canonical.covers_tail.symm
    rw [not_and, not_lt, forall_prop_of_true (canonical.le_of_covers there)]
  rw [remaining]
  rfl

theorem lt_last {last : Interval α} (ends : s.last? = some last) (there : x ∈ s) : x < last.max := by
  obtain ⟨i, member, -, below⟩ := mem_def.mp there
  exact below.trans_le (s.canonical.le_getLast? ends member)

theorem intervals_single (some_point : low < high) : (single low high).intervals = [⟨low, high⟩] := by
  simp [single, empty, add, Intervals.add, some_point]

theorem contains_iff (some_point : low < high) : s.contains low high = true ↔ ∀ x, low ≤ x → x < high → x ∈ s := by
  simp only [contains, List.any_eq_true, Bool.and_eq_true, decide_eq_true_eq]
  constructor
  · rintro ⟨i, member, starts, ends⟩ x from_low below
    exact ⟨i, member, starts.trans from_low, below.trans_le ends⟩
  · intro all
    obtain ⟨i, member, starts, ends⟩ := all low le_rfl some_point
    refine ⟨i, member, starts, le_of_not_gt fun inside => ?_⟩
    exact s.canonical.not_covers_max member (all i.max ends.le inside)

theorem isEmpty_iff : s.isEmpty = true ↔ ∀ x, x ∉ s := by
  constructor
  · intro none_there x
    have nil : s.intervals = [] := List.isEmpty_iff.mp none_there
    rw [mem_def, nil]
    simp
  · intro nothing
    have same : s = empty := ext fun x => by simp [nothing]
    rw [same]
    rfl

theorem pred_max_mem {s : IntervalSet Nat} {i : Interval Nat} (member : i ∈ s.intervals) : i.max - 1 ∈ s := by
  have some_point := s.canonical.nonempty i member
  exact ⟨i, member, Nat.le_sub_one_of_lt some_point, Nat.sub_one_lt (Nat.ne_zero_of_lt some_point)⟩

/-- The sum of the lengths. -/
def count (s : IntervalSet Nat) : Nat := (s.intervals.map fun i => i.max - i.min).sum

def points (s : IntervalSet Nat) : Finset Nat := s.intervals.toFinset.biUnion fun i => Finset.Ico i.min i.max

@[simp]
theorem mem_points {s : IntervalSet Nat} {x : Nat} : x ∈ s.points ↔ x ∈ s := by simp [points, mem_def]

theorem card_points (s : IntervalSet Nat) : s.points.card = s.count := by
  obtain ⟨intervals, canonical⟩ := s
  induction intervals with
  | nil => rfl
  | cons i rest ih =>
    obtain ⟨-, first, behind⟩ := canonical_cons.mp canonical
    have split : (IntervalSet.mk (i :: rest) canonical).points =
        Finset.Ico i.min i.max ∪ (IntervalSet.mk rest behind).points := by
      simp [points]
    have apart : Disjoint (Finset.Ico i.min i.max) (IntervalSet.mk rest behind).points := by
      rw [Finset.disjoint_left]
      intro x here there
      obtain ⟨j, member, from_j, -⟩ := mem_def.mp (mem_points.mp there)
      exact absurd ((Finset.mem_Ico.mp here).2.trans (first j member)) (not_lt_of_ge from_j)
    rw [split, Finset.card_union_of_disjoint apart, ih behind, Nat.card_Ico]
    simp [count]

/-- Points counted apart add up. -/
theorem count_of_disjoint {s t u : IntervalSet Nat} (union : ∀ x, x ∈ u ↔ x ∈ s ∨ x ∈ t)
    (apart : ∀ x, x ∈ s → x ∉ t) : u.count = s.count + t.count := by
  have split : u.points = s.points ∪ t.points := by ext x; simp [union]
  have disjoint : Disjoint s.points t.points := by
    rw [Finset.disjoint_left]
    intro x here there
    exact apart x (mem_points.mp here) (mem_points.mp there)
  rw [← card_points, split, Finset.card_union_of_disjoint disjoint, card_points, card_points]

theorem le_count {s : IntervalSet Nat} (all : ∀ x < bound, x ∈ s) : bound ≤ s.count := by
  have below : Finset.range bound ⊆ s.points := fun x member => mem_points.mpr (all x (Finset.mem_range.mp member))
  simpa [card_points] using Finset.card_le_card below

theorem count_le {s : IntervalSet Nat} (below : ∀ x ∈ s, x < bound) : s.count ≤ bound := by
  have inside : s.points ⊆ Finset.range bound := fun x member => Finset.mem_range.mpr (below x (mem_points.mp member))
  simpa [card_points] using Finset.card_le_card inside

theorem not_mem_of_count {s : IntervalSet Nat} (nothing : s.count = 0) (x : Nat) : x ∉ s := by
  rw [← card_points, Finset.card_eq_zero] at nothing
  rw [← mem_points, nothing]
  exact Finset.notMem_empty x

theorem count_of_lt {s : IntervalSet Nat} (first : ∀ x, x ∈ s ↔ x < bound) : s.count = bound := by
  have range : s.points = Finset.range bound := by ext x; simp [first]
  rw [← card_points, range, Finset.card_range]

end IntervalSet

end Machine
