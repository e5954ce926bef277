import Mathlib.Tactic.Common

/-! # The ownership of one scheduled task

An abstract account of a single `TaskStorage`: which rights exist, and how many calls hold each of
them. There is one right to insert the node, one to erase it, one to run the task and one to be in
its call section. Taking `invalid` creates the rights to erase and, when the runner takes it, to run;
taking `callLock` is the right to be in the call section, and a canceller that took it never gives it
back. The number of calls is not bounded beforehand: that no right exists twice is a consequence of
the balance, not part of it.
-/

namespace PosixQuic

/-- The flags of one storage, its nodes in `tasks_` and what happened to it. -/
@[ext]
structure TaskSheet where
  allocated : Bool := false
  inserted : Bool := false
  invalid : Bool := false
  callLock : Bool := false
  claimedByCancel : Bool := false
  cancelHolds : Bool := false
  cancelled : Bool := false
  nodes : Nat := 0
  erased : Nat := 0
  runs : Nat := 0

/-- The rights on one storage that calls hold: to insert its node, to erase it, to try for the call
section, to be in it before the task has run, and to leave it afterwards. -/
@[ext]
structure TaskShare where
  inserting : Nat := 0
  erasing : Nat := 0
  waiting : Nat := 0
  holding : Nat := 0
  finishing : Nat := 0

@[ext]
structure TaskLedger extends TaskSheet, TaskShare

namespace TaskLedger

/-- What the calls on one storage can do to its ledger. -/
inductive Step : TaskLedger → TaskLedger → Prop
  | create (l : TaskLedger) : l.allocated = false →
    Step l { l with allocated := true, inserting := l.inserting + 1 }
  | insert (l : TaskLedger) : 0 < l.inserting →
    Step l { l with inserting := l.inserting - 1, nodes := l.nodes + 1, inserted := true }
  | cancelClaims (l : TaskLedger) : l.inserted = true → l.invalid = false →
    Step l { l with invalid := true, erasing := l.erasing + 1, claimedByCancel := true }
  | runnerClaims (l : TaskLedger) : 0 < l.nodes → l.invalid = false →
    Step l { l with invalid := true, erasing := l.erasing + 1, waiting := l.waiting + 1 }
  | erase (l : TaskLedger) : 0 < l.erasing →
    Step l { l with erasing := l.erasing - 1, nodes := 0, erased := l.erased + 1 }
  | skip (l : TaskLedger) : 0 < l.waiting → Step l { l with waiting := l.waiting - 1 }
  | enter (l : TaskLedger) : 0 < l.waiting → l.callLock = false →
    Step l { l with waiting := l.waiting - 1, holding := l.holding + 1, callLock := true }
  | retry (l : TaskLedger) : 0 < l.holding →
    Step l { l with holding := l.holding - 1, waiting := l.waiting + 1, callLock := false }
  | start (l : TaskLedger) : 0 < l.holding →
    Step l { l with holding := l.holding - 1, finishing := l.finishing + 1, runs := l.runs + 1 }
  | leave (l : TaskLedger) : 0 < l.finishing →
    Step l { l with finishing := l.finishing - 1, callLock := false }
  | cancelEnters (l : TaskLedger) (outside : Bool) : l.inserted = true → l.callLock = false →
    Step l { l with callLock := true, cancelHolds := true, cancelled := l.cancelled || outside }
  | cancelReturns (l : TaskLedger) (outside : Bool) : l.claimedByCancel = true →
    Step l { l with cancelled := l.cancelled || outside }

/-- Every right is accounted for, in the shared state or in the hands of some call. -/
structure Balanced (l : TaskLedger) : Prop where
  scheduling : l.inserting + l.inserted.toNat = l.allocated.toNat
  node : l.nodes + l.erased = l.inserted.toNat
  claim : l.erasing + l.erased = l.invalid.toNat
  run : l.waiting + l.holding + l.runs ≤ l.invalid.toNat
  occupied : l.holding + l.finishing + l.cancelHolds.toNat = l.callLock.toNat
  finished : l.finishing ≤ l.runs
  scheduled : l.invalid.toNat ≤ l.inserted.toNat
  scheduledCall : l.callLock.toNat ≤ l.inserted.toNat
  claimed : l.claimedByCancel = true → l.invalid = true ∧ l.waiting + l.holding + l.runs = 0
  cancelled : l.cancelled = true → l.cancelHolds = true ∨ l.claimedByCancel = true

theorem Balanced.initial : Balanced {} := by
  constructor <;> simp

variable {l l' : TaskLedger}

/-- The balance is kept, because every step moves a right or takes it from a free flag. -/
theorem Balanced.step (balanced : l.Balanced) (step : l.Step l') : l'.Balanced := by
  obtain ⟨scheduling, node, claim, run, occupied, finished, scheduled, scheduledCall, claimed,
    cancelled⟩ := balanced
  cases step with
  | create free =>
    simp only [free, Bool.toNat_false] at scheduling
    exact ⟨by simp; omega, node, claim, run, occupied, finished, scheduled, scheduledCall, claimed,
      cancelled⟩
  | insert mine =>
    have room := Bool.toNat_le l.allocated
    have absent : l.inserted.toNat = 0 := by omega
    exact ⟨by simp; omega, by simp; omega, claim, run, occupied, finished, by simp; omega,
      by simp; omega, claimed, cancelled⟩
  | cancelClaims present free =>
    simp only [free, present, Bool.toNat_false, Bool.toNat_true] at claim run scheduledCall node
    exact ⟨scheduling, by simpa [present] using node, by simp; omega, by simp; omega, occupied,
      finished, by simp [present], by simpa [present] using scheduledCall, by simp; omega,
      fun returned => Or.inr rfl⟩
  | runnerClaims present free =>
    have unclaimed : l.claimedByCancel = false := by
      cases taken : l.claimedByCancel with
      | false => rfl
      | true => rw [free] at claimed; exact absurd (claimed taken).1 (by simp)
    simp only [free, Bool.toNat_false] at claim run
    exact ⟨scheduling, node, by simp; omega, by simp; omega, occupied, finished, by simp; omega,
      scheduledCall, by simp [unclaimed], cancelled⟩
  | erase mine =>
    have room := Bool.toNat_le l.invalid
    have present := Bool.toNat_le l.inserted
    exact ⟨scheduling, by simp; omega, by simp; omega, run, occupied, finished, scheduled,
      scheduledCall, claimed, cancelled⟩
  | skip mine =>
    refine ⟨scheduling, node, claim, by simp; omega, occupied, finished, scheduled, scheduledCall,
      ?_, cancelled⟩
    intro taken
    have := (claimed taken).2
    omega
  | enter mine free =>
    simp only [free, Bool.toNat_false] at occupied
    refine ⟨scheduling, node, claim, by simp; omega, by simp; omega, finished, scheduled, ?_, ?_,
      cancelled⟩
    · have := Bool.toNat_le l.invalid
      simp only [Bool.toNat_true]
      omega
    · intro taken
      have := (claimed taken).2
      omega
  | retry mine =>
    have room := Bool.toNat_le l.callLock
    refine ⟨scheduling, node, claim, by simp; omega, by simp only [Bool.toNat_false]; omega, finished,
      scheduled, by simp, ?_, cancelled⟩
    intro taken
    have := (claimed taken).2
    omega
  | start mine =>
    refine ⟨scheduling, node, claim, by simp; omega, by simp; omega, by simp; omega, scheduled,
      scheduledCall, ?_, cancelled⟩
    intro taken
    have := (claimed taken).2
    omega
  | leave mine =>
    have room := Bool.toNat_le l.callLock
    exact ⟨scheduling, node, claim, run, by simp only [Bool.toNat_false]; omega, by simp; omega,
      scheduled, by simp, claimed, cancelled⟩
  | cancelEnters outside present free =>
    simp only [free, Bool.toNat_false] at occupied
    exact ⟨scheduling, node, claim, run, by simp; omega, finished, scheduled, by simp [present],
      claimed, fun _ => Or.inl rfl⟩
  | cancelReturns outside taken =>
    exact ⟨scheduling, node, claim, run, occupied, finished, scheduled, scheduledCall, claimed,
      fun _ => Or.inr taken⟩

/-- Nobody has touched the flags of a storage that does not exist yet. -/
theorem Balanced.flags_of_unallocated (balanced : l.Balanced) (free : l.allocated = false) :
    l.invalid = false ∧ l.callLock = false := by
  obtain ⟨scheduling, -, -, -, -, -, scheduled, scheduledCall, -, -⟩ := balanced
  rw [free, Bool.toNat_false] at scheduling
  have invalid : l.invalid.toNat = 0 := by omega
  have callLock : l.callLock.toNat = 0 := by omega
  exact ⟨Bool.toNat_eq_zero.mp invalid, Bool.toNat_eq_zero.mp callLock⟩

/-- The holder of the right to erase finds the node in place. -/
theorem Balanced.node_of_erasing (balanced : l.Balanced) (mine : 0 < l.erasing) : l.nodes = 1 ∧ l.erased = 0 := by
  have := balanced.claim
  have := balanced.node
  have := balanced.scheduled
  have := Bool.toNat_le l.invalid
  have := Bool.toNat_le l.inserted
  omega

/-- After a cancellation no call is in the call section or on its way to run the task. -/
theorem Balanced.idle_of_cancelled (balanced : l.Balanced) (cancelled : l.cancelled = true) :
    l.holding = 0 ∧ l.finishing = 0 := by
  rcases balanced.cancelled cancelled with held | claimed
  · have occupied := balanced.occupied
    have := Bool.toNat_le l.callLock
    rw [held, Bool.toNat_true] at occupied
    omega
  · have := (balanced.claimed claimed).2
    have := balanced.finished
    omega

/-- A cancelled task stays cancelled and is not started. -/
theorem Step.runs_of_cancelled (step : l.Step l') (balanced : l.Balanced) (cancelled : l.cancelled = true) :
    l'.cancelled = true ∧ l'.runs = l.runs := by
  have idle := balanced.idle_of_cancelled cancelled
  cases step with
  | start mine => omega
  | cancelEnters outside _ _ => exact ⟨by simp [cancelled], rfl⟩
  | cancelReturns outside _ => exact ⟨by simp [cancelled], rfl⟩
  | _ => exact ⟨cancelled, rfl⟩

/-- A task that has been taken and that no call is on its way to run is never started. -/
theorem Step.runs_of_discarded (step : l.Step l') (taken : l.invalid = true) (idle : l.waiting = 0 ∧ l.holding = 0) :
    l'.invalid = true ∧ (l'.waiting = 0 ∧ l'.holding = 0) ∧ l'.runs = l.runs := by
  obtain ⟨waiting, holding⟩ := idle
  cases step with
  | cancelClaims present free => exact ⟨rfl, ⟨waiting, holding⟩, rfl⟩
  | runnerClaims present free => exact absurd (taken.symm.trans free) (by decide)
  | skip mine => omega
  | enter mine free => omega
  | retry mine => omega
  | start mine => omega
  | _ => exact ⟨taken, ⟨waiting, holding⟩, rfl⟩

end TaskLedger

end PosixQuic
