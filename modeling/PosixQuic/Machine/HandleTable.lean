import Mathlib.Data.List.Nodup
import Mathlib.Logic.Function.Basic
import Mathlib.Tactic.Common

/-! # Tables of small recycled numbers

A handle table gives numbers `1, 2, …` to owners, takes them back, and hands a number that came back
out again before it issues a new one. Each owner remembers its own number, `-1` once it was taken.
Soundness says that the numbers issued so far are split between the owners and the queue, and that
the owners' memories agree with the table. It is what makes a recycled number safe to use.
-/

namespace Machine

variable {Owner : Type*}

@[ext]
structure HandleTable (Owner : Type*) where
  issued : Int
  free : List Int
  holder : Int → Option Owner
  handle : Owner → Int

namespace HandleTable

/-- The number that the next owner will get. -/
def next (table : HandleTable Owner) : Int := table.free.headD (table.issued + 1)

def acquire [DecidableEq Owner] (table : HandleTable Owner) (owner : Owner) : HandleTable Owner where
  issued := if table.free = [] then table.issued + 1 else table.issued
  free := table.free.tail
  holder := Function.update table.holder table.next (some owner)
  handle := Function.update table.handle owner table.next

/-- Only an owner that still remembers a number gives it back. -/
def release [DecidableEq Owner] (table : HandleTable Owner) (owner : Owner) : HandleTable Owner :=
  if 0 ≤ table.handle owner then
    { table with
      free := table.free ++ [table.handle owner]
      holder := Function.update table.holder (table.handle owner) none
      handle := Function.update table.handle owner (-1) }
  else table

structure Sound (table : HandleTable Owner) : Prop where
  issued_nonneg : 0 ≤ table.issued
  issued_iff : ∀ number, (table.holder number ≠ none ∨ number ∈ table.free) ↔ 1 ≤ number ∧ number ≤ table.issued
  free_not_held : ∀ number ∈ table.free, table.holder number = none
  nodup : table.free.Nodup
  handle_of_holder : ∀ number owner, table.holder number = some owner → table.handle owner = number
  holder_of_handle : ∀ owner, table.handle owner = -1 ∨ table.holder (table.handle owner) = some owner

namespace Sound

variable {table : HandleTable Owner}

theorem pos_of_held (sound : table.Sound) {number : Int} {owner : Owner}
    (held : table.holder number = some owner) : 1 ≤ number ∧ number ≤ table.issued :=
  (sound.issued_iff number).mp (.inl (by simp [held]))

theorem holder_eq_of_nonneg (sound : table.Sound) {owner : Owner} (remembers : 0 ≤ table.handle owner) :
    table.holder (table.handle owner) = some owner := by
  rcases sound.holder_of_handle owner with retired | held
  · omega
  · exact held

/-- Two owners never remember one number. -/
theorem owner_unique (sound : table.Sound) {first second : Owner} (remembers : 0 ≤ table.handle first)
    (same : table.handle first = table.handle second) : first = second := by
  have left := sound.holder_eq_of_nonneg remembers
  have right := sound.holder_eq_of_nonneg (same ▸ remembers)
  rw [same, right] at left
  exact (Option.some.inj left).symm

theorem next_pos (sound : table.Sound) : 1 ≤ table.next := by
  have nonneg := sound.issued_nonneg
  unfold next
  cases queue : table.free with
  | nil => simp only [List.headD_nil]; omega
  | cons number rest => exact ((sound.issued_iff number).mp (.inr (by simp [queue]))).1

/-- The next number is nobody's. -/
theorem next_not_held (sound : table.Sound) : table.holder table.next = none := by
  unfold next
  cases queue : table.free with
  | nil =>
    by_contra held
    have := (sound.issued_iff (table.issued + 1)).mp (.inl (by simpa using held))
    omega
  | cons number rest => exact sound.free_not_held number (by simp [queue])

theorem handle_ne_next (sound : table.Sound) (owner : Owner) : table.handle owner ≠ table.next := by
  intro same
  have remembers : 0 ≤ table.handle owner := by
    have := sound.next_pos
    omega
  have held := sound.holder_eq_of_nonneg remembers
  rw [same, sound.next_not_held] at held
  cases held

/-- A number that somebody remembers is not in the queue, so giving it back never repeats one. -/
theorem handle_not_free (sound : table.Sound) (owner : Owner) : table.handle owner ∉ table.free := by
  intro queued
  rcases sound.holder_of_handle owner with retired | held
  · have := ((sound.issued_iff _).mp (.inr queued)).1
    omega
  · rw [sound.free_not_held _ queued] at held
    cases held

theorem count_free_handle (sound : table.Sound) (owner : Owner) : table.free.count (table.handle owner) = 0 :=
  List.count_eq_zero.mpr (sound.handle_not_free owner)

/-- An issued number that nobody holds is in the queue, once. -/
theorem count_free_of_not_held (sound : table.Sound) {number : Int} (issued : 1 ≤ number ∧ number ≤ table.issued)
    (nobody : table.holder number = none) : table.free.count number = 1 := by
  rcases (sound.issued_iff number).mpr issued with held | free
  · exact (held nobody).elim
  · exact List.count_eq_one_of_mem sound.nodup free

theorem next_not_tail (sound : table.Sound) : table.next ∉ table.free.tail := by
  unfold next
  have distinct := sound.nodup
  cases queue : table.free with
  | nil => simp
  | cons head rest =>
    rw [queue] at distinct
    exact (List.nodup_cons.mp distinct).1

variable [DecidableEq Owner]

/-- The range of issued numbers after one more owner got its number. -/
theorem issued_iff_acquire (sound : table.Sound) (owner : Owner) (number : Int) :
    ((table.acquire owner).holder number ≠ none ∨ number ∈ (table.acquire owner).free) ↔
      1 ≤ number ∧ number ≤ (table.acquire owner).issued := by
  have before := sound.issued_iff number
  have nonneg := sound.issued_nonneg
  simp only [acquire]
  cases queue : table.free with
  | nil =>
    have fresh : table.next = table.issued + 1 := by simp [next, queue]
    rw [queue] at before
    by_cases same : number = table.next
    · subst same
      simp only [Function.update_self, fresh]
      simp
      omega
    · rw [Function.update_of_ne same]
      simp only [List.tail_nil, if_pos]
      rw [before]
      omega
  | cons head rest =>
    have recycled : table.next = head := by simp [next, queue]
    rw [queue] at before
    by_cases same : number = table.next
    · subst same
      simp only [Function.update_self]
      simpa [recycled] using before
    · rw [Function.update_of_ne same, recycled] at *
      simpa [same] using before

theorem acquire (sound : table.Sound) {owner : Owner} (retired : table.handle owner = -1) :
    (table.acquire owner).Sound where
  issued_nonneg := by
    have := sound.issued_nonneg
    simp only [HandleTable.acquire]
    split_ifs <;> omega
  issued_iff := sound.issued_iff_acquire owner
  free_not_held number queued := by
    have other : number ≠ table.next := fun same => sound.next_not_tail (same ▸ queued)
    simp only [HandleTable.acquire, Function.update_of_ne other]
    exact sound.free_not_held number (List.mem_of_mem_tail queued)
  nodup := sound.nodup.tail
  handle_of_holder number holder held := by
    simp only [HandleTable.acquire] at held ⊢
    by_cases same : number = table.next
    · subst same
      rw [Function.update_self] at held
      rw [← Option.some.inj held, Function.update_self]
    · rw [Function.update_of_ne same] at held
      have remembered := sound.handle_of_holder number holder held
      have other : holder ≠ owner := by
        rintro rfl
        have := (sound.pos_of_held held).1
        omega
      rw [Function.update_of_ne other, remembered]
  holder_of_handle holder := by
    simp only [HandleTable.acquire]
    by_cases same : holder = owner
    · subst same
      simp
    · rw [Function.update_of_ne same, Function.update_of_ne (sound.handle_ne_next holder)]
      exact sound.holder_of_handle holder

theorem release (sound : table.Sound) (owner : Owner) : (table.release owner).Sound := by
  unfold HandleTable.release
  split_ifs with remembers
  swap
  · exact sound
  have held := sound.holder_eq_of_nonneg remembers
  refine ⟨sound.issued_nonneg, ?_, ?_, ?_, ?_, ?_⟩
  · intro number
    have before := sound.issued_iff number
    by_cases same : number = table.handle owner
    · subst same
      simp [sound.pos_of_held held]
    · rw [← before]
      simp [same]
  · intro number queued
    by_cases same : number = table.handle owner
    · subst same
      simp
    · have queuedBefore : number ∈ table.free := by simpa [same] using queued
      simp only [Function.update_of_ne same]
      exact sound.free_not_held number queuedBefore
  · rw [List.nodup_append_comm]
    exact List.nodup_cons.mpr ⟨sound.handle_not_free owner, sound.nodup⟩
  · intro number holder heldAfter
    by_cases same : number = table.handle owner
    · subst same
      simp at heldAfter
    · simp only [Function.update_of_ne same] at heldAfter
      have remembered := sound.handle_of_holder number holder heldAfter
      have other : holder ≠ owner := by
        rintro rfl
        exact same remembered.symm
      simpa only [Function.update_of_ne other] using remembered
  · intro holder
    by_cases same : holder = owner
    · subst same
      simp
    · simp only [Function.update_of_ne same]
      rcases sound.holder_of_handle holder with retired | heldBefore
      · exact .inl retired
      · right
        have other : table.handle holder ≠ table.handle owner := by
          intro equal
          rw [equal, held] at heldBefore
          exact same (Option.some.inj heldBefore).symm
        rw [Function.update_of_ne other, heldBefore]

end Sound

end HandleTable

end Machine
