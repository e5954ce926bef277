import PosixQuic.Soundness.TaskCoupling

/-! # Timers move between runners

A task that is still to run has one node, in the `tasks_` of the runner the proxy is linked to, and none while
it is unlinked. The node's key never lies before the time the task was scheduled for, although every `Link`
computes it anew from the stored deadline and two readings of the clock.
-/

namespace PosixQuic

open Machine

namespace TaskProxy

/-- The proxy's records are coupled with the runners, and all of them are linked or none is. -/
def Settled (p : TaskProxy) : Prop := p.Coupled ∧ p.Whole

variable {p p' : TaskProxy} {op : ProxyOp} {task runner now delay tick : Nat}

theorem admits_clock (admitted : p.admits op = true) (stepped : p.step op = .ok p') : p'.clock < clockBound := by
  simp only [admits, stepped, Bool.and_eq_true, decide_eq_true_eq] at admitted
  exact admitted.2

theorem admits_cancel (admitted : p.admits (.cancel task) = true) : task < p.numRecords := by
  simp only [admits, Bool.and_eq_true, decide_eq_true_eq] at admitted
  exact admitted.1

theorem admits_link {visits : List LinkVisit} (admitted : p.admits (.link runner visits) = true)
    (loose : p.runner = none) : (visits.map LinkVisit.task).Perm p.storages := by
  simp only [admits, loose, Bool.and_eq_true] at admitted
  exact List.isPerm_iff.mp admitted.1

theorem admits_unlink {order : List Nat} (admitted : p.admits (.unlink order) = true) (linked : p.runner ≠ none) :
    order.Perm p.storages := by
  simp only [admits, Option.isNone_eq_false_iff.mpr (Option.isSome_iff_ne_none.mpr linked), Bool.false_or,
    Bool.and_eq_true] at admitted
  exact List.isPerm_iff.mp admitted.1

/-- `Unlink` drops the links of the records, and then the runner. -/
theorem Coupled.unlink_cases (coupled : p.Coupled) {order : List Nat} (admitted : p.admits (.unlink order) = true)
    (stepped : p.step (.unlink order) = .ok p') :
    p' = p ∨ ∃ middle, Narrows p middle ∧ p' = { middle with runner := none } := by
  simp only [TaskProxy.step, TaskProxy.unlink] at stepped
  cases current : p.runner with
  | none =>
    rw [current] at stepped
    cases stepped
    exact .inl rfl
  | some runner =>
    rw [current] at stepped
    obtain ⟨middle, walked, last⟩ := bind_eq_ok stepped
    cases last
    have walk := admits_unlink admitted (by simp [current])
    exact .inr ⟨middle, (coupled.unlinkAll (fun _ member => walk.subset member) walked).2.1, rfl⟩

/-- Every operation keeps the coupling. -/
theorem Settled.step (settled : p.Settled) (admitted : p.admits op = true) (stepped : p.step op = .ok p') :
    p'.Settled := by
  obtain ⟨coupled, whole⟩ := settled
  cases op with
  | schedule delay tick tick' =>
    cases stepped
    exact coupled.schedule whole delay tick tick'
  | cancel task => exact coupled.cancel whole (admits_cancel admitted) stepped
  | link runner visits =>
    cases stepped
    exact coupled.link whole (admits_link admitted)
  | unlink order => exact coupled.unlink whole (admits_unlink admitted) stepped
  | runOnce runner tick =>
    cases stepped
    exact ⟨coupled.runOnce runner tick, whole⟩
  | advance =>
    cases stepped
    refine ⟨coupled.advance, ?_⟩
    have steps := advances p
    generalize p.advance = p' at steps
    cases steps <;> exact whole

theorem reachable_settled (run : system.Reachable {} p) : p.Settled :=
  run.invariant ⟨coupled_init, whole_init⟩ fun _ _ _ settled admitted stepped => settled.step admitted stepped

/-- The records hold the times their tasks are due, and no node's key lies before its task's. -/
structure Punctual (p : TaskProxy) : Prop where
  deadlines : ∀ task < p.numRecords, (p.records task).deadline = p.due task
  bounded : ∀ task < p.numRecords, p.due task < clockBound + 2 ^ 62
  keys : ∀ runner key node, (key, node) ∈ p.tasks runner → (p.due (p.nodes node).task : Int) ≤ key

theorem punctual_init : Punctual {} where
  deadlines _ below := absurd below (Nat.not_lt_zero _)
  bounded _ below := absurd below (Nat.not_lt_zero _)
  keys _ _ _ member := absurd member List.not_mem_nil

theorem keyOf_eq (small : now + delay < 2 ^ 63) : keyOf now delay = (now + delay : Nat) := by
  unfold keyOf
  rw [Int.bmod_def]
  omega

theorem deadlineOf_eq (small : now + delay < 2 ^ 64) : deadlineOf now delay = now + delay :=
  Nat.mod_eq_of_lt small

/-- Between the two readings of `Link` the clock only advances. -/
theorem due_le_linkKey {deadline : Nat} (readable : now + tick < clockBound)
    (bounded : deadline < clockBound + 2 ^ 62) : (deadline : Int) ≤ keyOf (now + tick) (linkDelay now deadline) := by
  unfold clockBound at readable bounded
  have range : linkDelay now deadline ≤ deadline ∧ deadline ≤ now + linkDelay now deadline := by
    unfold linkDelay
    split <;> omega
  rw [keyOf_eq (by omega)]
  omega

theorem Punctual.narrows {p p' : TaskProxy} (punctual : p.Punctual) (narrows : Narrows p p') : p'.Punctual where
  deadlines task below := by
    rw [narrows.deadline, narrows.due]
    exact punctual.deadlines task (narrows.numRecords ▸ below)
  bounded task below := by
    rw [narrows.due]
    exact punctual.bounded task (narrows.numRecords ▸ below)
  keys runner key node member := by
    rw [narrows.due, narrows.task]
    exact punctual.keys runner key node (narrows.tasks runner member)

/-- A node whose key does not lie before its task is due may be added. -/
theorem Punctual.runnerSchedule {p : TaskProxy} (punctual : p.Punctual) (coupled : p.Coupled)
    {task runner delay tick : Nat} (early : (p.due task : Int) ≤ keyOf (p.clock + tick) delay) :
    (p.runnerSchedule task runner delay tick).Punctual where
  deadlines other below := by
    refine Eq.trans ?_ (punctual.deadlines other below)
    by_cases same : other = task
    · simp [TaskProxy.runnerSchedule, setLink, same]
    · rw [runnerSchedule_records_of_ne p same]
  bounded := punctual.bounded
  keys owner key node member := by
    have cases : (key = keyOf (p.clock + tick) delay ∧ node = p.numNodes) ∨ (key, node) ∈ p.tasks owner := by
      simp only [TaskProxy.runnerSchedule, setLink] at member
      by_cases same : owner = runner
      · subst same
        rw [Function.update_self, mem_insertTask] at member
        rcases member with new | old
        · exact .inl (Prod.mk.inj new)
        · exact .inr old
      · rw [Function.update_of_ne same] at member
        exact .inr member
    simp only [TaskProxy.runnerSchedule, setLink]
    rcases cases with ⟨sameKey, sameNode⟩ | old
    · rw [sameKey, sameNode, Function.update_self]
      exact early
    · rw [Function.update_of_ne (Nat.ne_of_lt (coupled.placed owner key node old).1)]
      exact punctual.keys owner key node old

theorem Punctual.stored (punctual : p.Punctual) (coupled : p.Coupled) (readable : p.clock + tick < clockBound)
    (short : delay < 2 ^ 62) : (p.stored delay tick).Punctual := by
  have sum : p.clock + tick + delay < clockBound + 2 ^ 62 := by omega
  constructor
  case deadlines =>
    intro task below
    rcases Nat.lt_succ_iff_lt_or_eq.mp below with old | rfl
    · rw [stored_records_old p old]
      exact (punctual.deadlines task old).trans (Function.update_of_ne (Nat.ne_of_lt old) ..).symm
    · simp only [TaskProxy.stored, Function.update_self]
      exact deadlineOf_eq (sum.trans (by decide))
  case bounded =>
    intro task below
    rcases Nat.lt_succ_iff_lt_or_eq.mp below with old | rfl
    · simp only [TaskProxy.stored, Function.update_of_ne (Nat.ne_of_lt old)]
      exact punctual.bounded task old
    · simp only [TaskProxy.stored, Function.update_self]
      exact sum
  case keys =>
    intro runner key node member
    have old := ((coupled.kept _).mp (coupled.placed runner key node member).2.2.2.2.2.1).1
    simp only [TaskProxy.stored, Function.update_of_ne (Nat.ne_of_lt old)]
    exact punctual.keys runner key node member

theorem Punctual.schedule (punctual : p.Punctual) (coupled : p.Coupled) {tick' : Nat}
    (readable : (p.schedule delay tick tick').clock < clockBound) (short : delay < 2 ^ 62) :
    (p.schedule delay tick tick').Punctual := by
  rw [schedule_eq] at readable ⊢
  cases current : p.runner with
  | none =>
    rw [current] at readable
    exact punctual.stored coupled readable short
  | some runner =>
    rw [current] at readable
    have last : p.clock + tick + tick' < clockBound := readable
    have first : p.clock + tick < clockBound := Nat.lt_of_le_of_lt (Nat.le_add_right ..) last
    refine (punctual.stored coupled first short).runnerSchedule (coupled.stored delay tick) ?_
    have due : (p.stored delay tick).due p.numRecords = p.clock + tick + delay := Function.update_self ..
    have now : (p.stored delay tick).clock = p.clock + tick := rfl
    rw [due, now]
    unfold clockBound at last
    rw [keyOf_eq (by omega)]
    omega

theorem Punctual.link (punctual : p.Punctual) (settled : p.Settled) {visits : List LinkVisit}
    (walk : p.runner = none → (visits.map LinkVisit.task).Perm p.storages)
    (readable : (p.link runner visits).clock < clockBound) : (p.link runner visits).Punctual := by
  obtain ⟨coupled, whole⟩ := settled
  unfold TaskProxy.link at readable ⊢
  cases loose : p.runner with
  | some _ => exact punctual
  | none =>
    rw [loose] at readable
    have unlinked := fun task (stored : task ∈ p.storages) => whole.unlinked loose stored
    -- only the last reading is known to be in range, so the loop keeps the times under that condition
    refine (linkAll_rule (P := fun p => p.Coupled ∧ (p.clock < clockBound → p.Punctual))
      ⟨coupled.setRunner unlinked (some runner), fun _ => ⟨punctual.deadlines, punctual.bounded, punctual.keys⟩⟩ rfl
      (fun visit => mem_storages_of_visit (walk loose))
      (fun visit member => unlinked _ (mem_storages_of_visit (walk loose) member))
      ((walk loose).nodup_iff.mpr coupled.once) ?_).2 readable
    rintro before visit ⟨keeps, times⟩ current stored empty
    refine ⟨keeps.linkOne current stored empty, ?_⟩
    intro later
    have second : before.clock + visit.tick + visit.tick' < clockBound := later
    have known := ((keeps.kept _).mp stored).1
    have punctual : before.Punctual := times (by omega)
    have again : { before with clock := before.clock + visit.tick }.Punctual :=
      ⟨punctual.deadlines, punctual.bounded, punctual.keys⟩
    refine again.runnerSchedule (keeps.withClock _) ?_
    rw [punctual.deadlines visit.task known]
    exact due_le_linkKey second (punctual.bounded visit.task known)

/-- A task is scheduled with a delay below `2^62` ms. -/
def shortDelay : ProxyOp → Bool
  | .schedule delay _ _ => decide (delay < 2 ^ 62)
  | _ => true

theorem Punctual.step (punctual : p.Punctual) (settled : p.Settled) (admitted : p.admits op = true)
    (short : shortDelay op = true) (stepped : p.step op = .ok p') : p'.Punctual := by
  have readable := admits_clock admitted stepped
  cases op with
  | schedule delay tick tick' =>
    cases stepped
    exact punctual.schedule settled.1 readable (of_decide_eq_true short)
  | cancel task =>
    obtain rfl | ⟨middle, -, -, narrows, rfl⟩ := settled.1.cancel_cases (admits_cancel admitted) stepped
    · exact punctual
    · have between := punctual.narrows narrows
      exact ⟨between.deadlines, between.bounded, between.keys⟩
  | link runner visits =>
    cases stepped
    exact punctual.link settled (admits_link admitted) readable
  | unlink order =>
    obtain rfl | ⟨middle, narrows, rfl⟩ := settled.1.unlink_cases admitted stepped
    · exact punctual
    · have between := punctual.narrows narrows
      exact ⟨between.deadlines, between.bounded, between.keys⟩
  | runOnce runner tick =>
    cases stepped
    refine ⟨punctual.deadlines, punctual.bounded, ?_⟩
    intro owner key node member
    obtain ⟨before, kept⟩ := settled.1.mem_tasks_runOnce member
    rw [runOnce_nodes, if_neg kept]
    exact punctual.keys owner key node before
  | advance =>
    cases stepped
    have steps := advances p
    generalize p.advance = p' at steps
    cases steps <;> exact ⟨punctual.deadlines, punctual.bounded, punctual.keys⟩

theorem reachable_punctual (run : (system.restrict fun _ op => shortDelay op = true).Reachable {} p) : p.Punctual := by
  have both : p.Settled ∧ p.Punctual := by
    refine run.invariant (P := fun p => p.Settled ∧ p.Punctual)
      ⟨⟨coupled_init, whole_init⟩, punctual_init⟩ ?_
    rintro before op after ⟨settled, punctual⟩ ⟨admitted, short⟩ stepped
    exact ⟨settled.step admitted stepped, punctual.step settled admitted short stepped⟩
  exact both.2

/-- The task has not been cancelled or run, and no `RunOnce` in progress is about to run it. -/
def outstanding (p : TaskProxy) (task : Nat) : Prop :=
  p.cancelled task = false ∧ p.runs task = 0 ∧ ∀ node ∈ p.collected, (p.nodes node).task ≠ task

instance (p : TaskProxy) (task : Nat) : Decidable (p.outstanding task) :=
  inferInstanceAs (Decidable (_ ∧ _ ∧ ∀ node ∈ p.collected, (p.nodes node).task ≠ task))

theorem Coupled.nodesOf_eq_nil (coupled : p.Coupled) (absent : p.runner ≠ some runner ∨ p.cancelled task = true) :
    p.nodesOf runner task = [] := by
  simp only [nodesOf, List.filter_eq_nil_iff, decide_eq_true_eq]
  rintro ⟨key, node⟩ member rfl
  obtain ⟨-, -, -, -, here, stored, -⟩ := coupled.placed runner key node member
  rcases absent with elsewhere | cancelled
  · exact elsewhere here
  · rw [((coupled.kept _).mp stored).2] at cancelled
    cases cancelled

/-- A list of entries with distinct nodes, all of which are one node, has one element. -/
theorem eq_singleton_of_nodup {entries : List (Int × Nat)} {entry : Int × Nat} (member : entry ∈ entries)
    (distinct : (entries.map Prod.snd).Nodup) (same : ∀ other ∈ entries, other.2 = entry.2) :
    entries = [entry] := by
  cases entries with
  | nil => exact absurd member List.not_mem_nil
  | cons first rest =>
    cases rest with
    | nil => rw [List.mem_singleton.mp member]
    | cons second rest =>
      have equal := (same first (by simp)).trans (same second (by simp)).symm
      simp only [List.map_cons, List.nodup_cons, List.mem_cons, not_or] at distinct
      exact absurd equal distinct.1.1

/-- A task still to run has one node in the current runner's `tasks_`. -/
theorem Settled.nodesOf_outstanding (settled : p.Settled) (known : task < p.numRecords) (waits : p.outstanding task)
    (current : p.runner = some runner) : ∃ key node, p.nodesOf runner task = [(key, node)] := by
  obtain ⟨coupled, whole⟩ := settled
  obtain ⟨live, unrun, uncollected⟩ := waits
  have stored : task ∈ p.storages := (coupled.kept task).mpr ⟨known, live⟩
  have link := whole task stored
  rw [current] at link
  obtain ⟨node, link⟩ := Option.isSome_iff_exists.mp link
  obtain ⟨-, mine, here, present, gone⟩ := coupled.linked task stored node link
  have valid : (p.nodes node).invalid = false := by
    refine Bool.eq_false_of_not_eq_true fun marked => ?_
    rcases gone marked with ran | waiting
    · exact Nat.lt_irrefl 0 (unrun ▸ ran)
    · exact uncollected node waiting.1 mine
  rw [current] at here
  obtain ⟨⟨key, found⟩, member, named⟩ := List.mem_map.mp (present valid)
  have named : found = node := named
  rw [← Option.some.inj here, named] at member
  refine ⟨key, node, eq_singleton_of_nodup (List.mem_filter.mpr ⟨member, decide_eq_true mine⟩) ?_ ?_⟩
  · exact (coupled.distinct runner).sublist (List.filter_sublist.map Prod.snd)
  · rintro ⟨key', other⟩ another
    obtain ⟨entered, owned⟩ := List.mem_filter.mp another
    obtain ⟨-, -, -, -, -, -, points⟩ := coupled.placed runner key' other entered
    rw [of_decide_eq_true owned, link] at points
    exact (Option.some.inj points).symm

theorem Punctual.due_le_key (punctual : p.Punctual) {node : Nat} {key : Int}
    (member : (key, node) ∈ p.nodesOf runner task) : (p.due task : Int) ≤ key := by
  obtain ⟨entered, owned⟩ := List.mem_filter.mp member
  rw [← of_decide_eq_true owned]
  exact punctual.keys runner key node entered

/-- In every run with delays below `2^62` ms, a scheduled task that is still to run has exactly one node in the
runner the proxy is linked to, none in any other and none while it is unlinked; a cancelled task has no node
anywhere, and no node's key lies before the time its task was scheduled for. -/
theorem timers_survive_moves (run : (system.restrict fun _ op => shortDelay op = true).Reachable {} p)
    (scheduled : task < p.numRecords) :
    (p.outstanding task →
      (∀ runner, p.runner = some runner → ∃ key node, p.nodesOf runner task = [(key, node)]) ∧
      ∀ runner, p.runner ≠ some runner → p.nodesOf runner task = []) ∧
    (p.cancelled task = true → ∀ runner, p.nodesOf runner task = []) ∧
    ∀ runner key node, (key, node) ∈ p.nodesOf runner task → (p.due task : Int) ≤ key := by
  have settled := reachable_settled run.of_restrict
  have punctual := reachable_punctual run
  refine ⟨?_, ?_, ?_⟩
  · intro waits
    exact ⟨fun runner current => settled.nodesOf_outstanding scheduled waits current,
      fun runner elsewhere => settled.1.nodesOf_eq_nil (.inl elsewhere)⟩
  · exact fun cancelled runner => settled.1.nodesOf_eq_nil (.inr cancelled)
  · exact fun runner key node member => punctual.due_le_key member

/-- A task is scheduled on one runner and taken to another together with a second one, which is then cancelled;
a third one runs and schedules a fourth. -/
def takesTimersAlong : List ProxyOp :=
  [.link 0 [], .schedule 50 1 0, .unlink [0], .schedule 3 4 0, .link 1 [⟨1, 2, 0⟩, ⟨0, 1, 1⟩], .cancel 1,
    .schedule 0 0 0, .runOnce 1 1, .advance, .schedule 7 0 1]

theorem takesTimersAlong_survive :
    ∃ p, (system.restrict fun _ op => shortDelay op = true).replay? {} takesTimersAlong = some p ∧
      p.outstanding 0 ∧ (∃ key node, p.nodesOf 1 0 = [(key, node)] ∧ (51 : Int) ≤ key) ∧
      p.nodesOf 0 0 = [] ∧ p.cancelled 1 = true ∧ ∀ runner, p.nodesOf runner 1 = [] := by
  have ends : ∃ p ∈ (system.restrict fun _ op => shortDelay op = true).replay? {} takesTimersAlong,
      1 < p.numRecords ∧ p.outstanding 0 ∧ p.runner = some 1 ∧ p.due 0 = 51 ∧ p.cancelled 1 = true := by decide +kernel
  obtain ⟨p, executed, scheduled, waits, current, due, cancelled⟩ := ends
  have run := Machine.System.reachable_of_replay? executed
  obtain ⟨moved, -, punctual⟩ := timers_survive_moves run (Nat.zero_lt_of_lt scheduled)
  have gone := (timers_survive_moves run scheduled).2.1 cancelled
  obtain ⟨here, elsewhere⟩ := moved waits
  obtain ⟨key, node, only⟩ := here 1 current
  have late := punctual 1 key node (by simp [only])
  rw [due] at late
  exact ⟨p, executed, waits, ⟨key, node, only, late⟩, elsewhere 0 (by simp [current]), cancelled, gone⟩

end TaskProxy

end PosixQuic
