import PosixQuic.Soundness.TaskMoves

/-! # How often a task is run

Running a task leaves its record in `storages_`, so a `Link` after the task has fired schedules it again. If
`Link` is only called when `storages_` holds no record of a task that has been collected or started, a task
that has a node has never run, and every task runs at most once.
-/

namespace PosixQuic

open Machine

namespace TaskProxy

/-- No `RunOnce` has started the task or is about to. -/
def Unstarted (p : TaskProxy) (task : Nat) : Prop :=
  p.runs task = 0 ∧ ∀ node ∈ p.collected, (p.nodes node).task ≠ task

instance (p : TaskProxy) (task : Nat) : Decidable (p.Unstarted task) :=
  inferInstanceAs (Decidable (_ ∧ ∀ node ∈ p.collected, (p.nodes node).task ≠ task))

/-- A task with a node has not been started, and the collected tasks are distinct and still to be run. -/
structure Unrepeated (p : TaskProxy) : Prop where
  waiting : ∀ runner key node, (key, node) ∈ p.tasks runner → p.Unstarted (p.nodes node).task
  queued : ∀ node ∈ p.collected, p.runs (p.nodes node).task = 0
  single : (p.collected.map fun node => (p.nodes node).task).Nodup
  atMost : ∀ task, p.runs task ≤ 1

theorem unrepeated_init : Unrepeated {} where
  waiting _ _ _ member := absurd member List.not_mem_nil
  queued _ member := absurd member List.not_mem_nil
  single := .nil
  atMost _ := Nat.zero_le 1

variable {p : TaskProxy}

theorem Narrows.unstarted {p' : TaskProxy} (narrows : Narrows p p') {task : Nat} :
    p'.Unstarted task ↔ p.Unstarted task := by
  simp only [Unstarted, collected, narrows.runs, narrows.calls, narrows.task]

theorem Unrepeated.narrows {p p' : TaskProxy} (unrepeated : p.Unrepeated) (narrows : Narrows p p') :
    p'.Unrepeated where
  waiting runner key node member := by
    rw [narrows.unstarted, narrows.task]
    exact unrepeated.waiting runner key node (narrows.tasks runner member)
  queued node member := by
    rw [narrows.runs, narrows.task]
    exact unrepeated.queued node (by simpa only [collected, narrows.calls] using member)
  single := by
    simp only [collected, narrows.calls, narrows.task]
    exact unrepeated.single
  atMost task := narrows.runs ▸ unrepeated.atMost task

/-- A node may be added for a task that has not been started. -/
theorem Unrepeated.runnerSchedule (unrepeated : p.Unrepeated) (coupled : p.Coupled) {task : Nat}
    (unstarted : p.Unstarted task) (runner delay tick : Nat) :
    (p.runnerSchedule task runner delay tick).Unrepeated := by
  have same : ∀ node < p.numNodes,
      (p.runnerSchedule task runner delay tick).nodes node = p.nodes node := fun node below =>
    Function.update_of_ne (Nat.ne_of_lt below) ..
  have keeps : ∀ {other}, p.Unstarted other → (p.runnerSchedule task runner delay tick).Unstarted other := by
    rintro other ⟨unrun, uncollected⟩
    refine ⟨unrun, ?_⟩
    intro node member
    rw [same node (coupled.claimed node member).1]
    exact uncollected node member
  constructor
  case waiting =>
    intro owner key node member
    by_cases new : node = p.numNodes
    · have task' : ((p.runnerSchedule task runner delay tick).nodes node).task = task := by
        simp [TaskProxy.runnerSchedule, setLink, new]
      rw [task']
      exact keeps unstarted
    · have old : (key, node) ∈ p.tasks owner := by
        simp only [TaskProxy.runnerSchedule, setLink] at member
        by_cases mine : owner = runner
        · subst mine
          rw [Function.update_self, mem_insertTask] at member
          exact member.resolve_left fun equal => new (Prod.mk.inj equal).2
        · rwa [Function.update_of_ne mine] at member
      rw [same node (coupled.placed owner key node old).1]
      exact keeps (unrepeated.waiting owner key node old)
  case queued =>
    intro node member
    rw [same node (coupled.claimed node member).1]
    exact unrepeated.queued node member
  case single =>
    have tasks : (p.collected.map fun node => ((p.runnerSchedule task runner delay tick).nodes node).task) =
        p.collected.map fun node => (p.nodes node).task :=
      List.map_congr_left fun node member => by rw [same node (coupled.claimed node member).1]
    exact (congrArg List.Nodup tasks).mpr unrepeated.single
  case atMost => exact unrepeated.atMost

theorem Coupled.unstarted_new (coupled : p.Coupled) : p.Unstarted p.numRecords :=
  ⟨(coupled.fresh _ (Nat.le_refl _)).2, fun node member => Nat.ne_of_lt (coupled.claimed node member).2.2⟩

theorem Unrepeated.schedule (unrepeated : p.Unrepeated) (coupled : p.Coupled) (delay tick tick' : Nat) :
    (p.schedule delay tick tick').Unrepeated := by
  have stored : (p.stored delay tick).Unrepeated :=
    ⟨unrepeated.waiting, unrepeated.queued, unrepeated.single, unrepeated.atMost⟩
  rw [schedule_eq]
  cases p.runner with
  | none => exact stored
  | some runner =>
    exact stored.runnerSchedule (coupled.stored delay tick) coupled.unstarted_new runner delay tick'

/-- If no stored record's task has been started, `Link` schedules only such tasks. -/
theorem Unrepeated.link (unrepeated : p.Unrepeated) (settled : p.Settled) {runner : Nat} {visits : List LinkVisit}
    (walk : p.runner = none → (visits.map LinkVisit.task).Perm p.storages)
    (unstarted : p.runner = none → ∀ task ∈ p.storages, p.Unstarted task) : (p.link runner visits).Unrepeated := by
  obtain ⟨coupled, whole⟩ := settled
  unfold TaskProxy.link
  cases loose : p.runner with
  | some _ => exact unrepeated
  | none =>
    have unlinked := fun task (stored : task ∈ p.storages) => whole.unlinked loose stored
    have start : { p with runner := some runner }.Unrepeated :=
      ⟨unrepeated.waiting, unrepeated.queued, unrepeated.single, unrepeated.atMost⟩
    refine (linkAll_rule
      (P := fun p => p.Coupled ∧ p.Unrepeated ∧ ∀ task ∈ p.storages, p.Unstarted task)
      ⟨coupled.setRunner unlinked (some runner), start, unstarted loose⟩ rfl
      (fun visit => mem_storages_of_visit (walk loose))
      (fun visit member => unlinked _ (mem_storages_of_visit (walk loose) member))
      ((walk loose).nodup_iff.mpr coupled.once) ?_).2.1
    rintro before visit ⟨keeps, unrepeated, unstarted⟩ current stored empty
    have read : { before with clock := before.clock + visit.tick }.Unrepeated :=
      ⟨unrepeated.waiting, unrepeated.queued, unrepeated.single, unrepeated.atMost⟩
    refine ⟨keeps.linkOne current stored empty,
      read.runnerSchedule (keeps.withClock _) (unstarted visit.task stored) _ _ _, ?_⟩
    intro task member
    refine ⟨(unstarted task member).1, ?_⟩
    intro node queued
    have old : (before.linkOne runner visit).nodes node = before.nodes node :=
      Function.update_of_ne (Nat.ne_of_lt (keeps.claimed node queued).1) ..
    rw [old]
    exact (unstarted task member).2 node queued

/-- Two nodes of one task are the same node. -/
theorem Coupled.node_unique (coupled : p.Coupled) {runner runner' node node' : Nat} {key key' : Int}
    (first : (key, node) ∈ p.tasks runner) (second : (key', node') ∈ p.tasks runner')
    (same : (p.nodes node).task = (p.nodes node').task) : node = node' := by
  obtain ⟨-, -, -, -, -, -, link⟩ := coupled.placed runner key node first
  obtain ⟨-, -, -, -, -, -, link'⟩ := coupled.placed runner' key' node' second
  rw [same, link'] at link
  exact (Option.some.inj link).symm

theorem runOnce_task (p : TaskProxy) (runner tick node : Nat) :
    ((p.runOnce runner tick).nodes node).task = (p.nodes node).task := by
  rw [runOnce_nodes]
  split <;> rfl

theorem Unrepeated.runOnce (unrepeated : p.Unrepeated) (coupled : p.Coupled) (runner tick : Nat) :
    (p.runOnce runner tick).Unrepeated := by
  constructor
  case waiting =>
    intro owner key node member
    obtain ⟨before, kept⟩ := coupled.mem_tasks_runOnce member
    obtain ⟨unrun, uncollected⟩ := unrepeated.waiting owner key node before
    rw [runOnce_task]
    refine ⟨unrun, ?_⟩
    intro other collects
    rw [runOnce_task]
    rw [runOnce_collected] at collects
    rcases List.mem_append.mp collects with trigger | older
    · obtain ⟨key', due⟩ := mem_tasks_of_mem_triggersAt trigger
      intro same
      exact kept (coupled.node_unique due before same ▸ trigger)
    · exact uncollected other older
  case queued =>
    intro node member
    rw [runOnce_task]
    rw [runOnce_collected] at member
    rcases List.mem_append.mp member with trigger | older
    · obtain ⟨key, due⟩ := mem_tasks_of_mem_triggersAt trigger
      exact (unrepeated.waiting runner key node due).1
    · exact unrepeated.queued node older
  case single =>
    simp only [runOnce_task, runOnce_collected, List.map_append]
    refine List.nodup_append.mpr ⟨?_, unrepeated.single, ?_⟩
    · refine (coupled.nodup_triggersAt runner _).map_on ?_
      intro node trigger other trigger' same
      obtain ⟨key, due⟩ := mem_tasks_of_mem_triggersAt trigger
      obtain ⟨key', due'⟩ := mem_tasks_of_mem_triggersAt trigger'
      exact coupled.node_unique due due' same
    · intro task new other old same
      obtain ⟨node, trigger, rfl⟩ := List.mem_map.mp new
      obtain ⟨node', older, rfl⟩ := List.mem_map.mp old
      obtain ⟨key, due⟩ := mem_tasks_of_mem_triggersAt trigger
      exact (unrepeated.waiting runner key node due).2 node' older same.symm
  case atMost => exact unrepeated.atMost

/-- Calls that have fewer tasks before them, with no task run meanwhile. -/
theorem Unrepeated.recalled {p : TaskProxy} (unrepeated : p.Unrepeated) {calls : List RunOnceCall}
    (fewer : (calls.flatMap RunOnceCall.triggers).Sublist p.collected) (locks : Nat → Bool) (inRunner : Bool) :
    (p.recalled locks calls p.runs inRunner).Unrepeated where
  waiting runner key node member := by
    obtain ⟨unrun, uncollected⟩ := unrepeated.waiting runner key node member
    exact ⟨unrun, fun other collects => uncollected other (fewer.subset collects)⟩
  queued node member := unrepeated.queued node (fewer.subset member)
  single := unrepeated.single.sublist (fewer.map _)
  atMost := unrepeated.atMost

/-- The first collected task starts. -/
theorem Unrepeated.starts (unrepeated : p.Unrepeated) {node : Nat} {calls : List RunOnceCall}
    (collects : p.collected = node :: calls.flatMap RunOnceCall.triggers) (locks : Nat → Bool) (inRunner : Bool) :
    (p.recalled locks calls (Function.update p.runs (p.nodes node).task (p.runs (p.nodes node).task + 1))
      inRunner).Unrepeated := by
  have mine : node ∈ p.collected := collects ▸ List.mem_cons_self ..
  have later : ∀ {other}, other ∈ calls.flatMap RunOnceCall.triggers → other ∈ p.collected :=
    fun member => collects ▸ List.mem_cons_of_mem _ member
  have distinct := unrepeated.single
  simp only [collects, List.map_cons, List.nodup_cons] at distinct
  constructor
  case waiting =>
    intro runner key other member
    obtain ⟨unrun, uncollected⟩ := unrepeated.waiting runner key other member
    refine ⟨?_, fun queued collects => uncollected queued (later collects)⟩
    exact (Function.update_of_ne (uncollected node mine).symm ..).trans unrun
  case queued =>
    intro other member
    have apart : (p.nodes other).task ≠ (p.nodes node).task :=
      fun same => distinct.1 (same ▸ List.mem_map_of_mem (f := fun node => (p.nodes node).task) member)
    exact (Function.update_of_ne apart ..).trans (unrepeated.queued other (later member))
  case single => exact distinct.2
  case atMost =>
    intro task
    simp only [TaskProxy.recalled]
    by_cases same : task = (p.nodes node).task
    · rw [same, Function.update_self, unrepeated.queued node mine]
    · rw [Function.update_of_ne same]
      exact unrepeated.atMost task

theorem Unrepeated.advance (unrepeated : p.Unrepeated) : p.advance.Unrepeated := by
  have steps := advances p
  generalize p.advance = p' at steps
  cases steps with
  | idles _ => exact unrepeated
  | returns calls =>
    refine unrepeated.recalled ?_ _ _
    simp [collected, calls]
  | skips calls _ =>
    refine unrepeated.recalled ?_ _ _
    simp [collected, calls]
  | starts calls _ =>
    refine unrepeated.starts ?_ _ _
    simp [collected, calls]
  | ends calls =>
    refine unrepeated.recalled ?_ _ _
    simp [collected, calls]

/-- A `Link` that takes effect finds no record of a task that has been collected or started. -/
def LinksUnstarted (p : TaskProxy) : ProxyOp → Prop
  | .link _ _ => p.runner = none → ∀ task ∈ p.storages, p.Unstarted task
  | _ => True

instance (p : TaskProxy) (op : ProxyOp) : Decidable (p.LinksUnstarted op) :=
  match op with
  | .link _ _ => inferInstanceAs (Decidable (p.runner = none → ∀ task ∈ p.storages, p.Unstarted task))
  | .schedule _ _ _ | .cancel _ | .unlink _ | .runOnce _ _ | .advance => .isTrue trivial

theorem Unrepeated.step {p' : TaskProxy} (unrepeated : p.Unrepeated) (settled : p.Settled) {op : ProxyOp}
    (admitted : p.admits op = true) (unstarted : p.LinksUnstarted op) (stepped : p.step op = .ok p') :
    p'.Unrepeated := by
  cases op with
  | schedule delay tick tick' =>
    cases stepped
    exact unrepeated.schedule settled.1 delay tick tick'
  | cancel task =>
    obtain rfl | ⟨middle, -, -, narrows, rfl⟩ := settled.1.cancel_cases (admits_cancel admitted) stepped
    · exact unrepeated
    · have between := unrepeated.narrows narrows
      exact ⟨between.waiting, between.queued, between.single, between.atMost⟩
  | link runner visits =>
    cases stepped
    exact unrepeated.link settled (admits_link admitted) unstarted
  | unlink order =>
    obtain rfl | ⟨middle, narrows, rfl⟩ := settled.1.unlink_cases admitted stepped
    · exact unrepeated
    · have between := unrepeated.narrows narrows
      exact ⟨between.waiting, between.queued, between.single, between.atMost⟩
  | runOnce runner tick =>
    cases stepped
    exact unrepeated.runOnce settled.1 runner tick
  | advance =>
    cases stepped
    exact unrepeated.advance

/-- In every run in which `Link` finds no record of a task that has been collected or started, every task is
run at most once. -/
theorem task_runs_once (run : (system.restrict LinksUnstarted).Reachable {} p) (task : Nat) : p.runs task ≤ 1 := by
  have both : p.Settled ∧ p.Unrepeated := by
    refine run.invariant (P := fun p => p.Settled ∧ p.Unrepeated)
      ⟨⟨coupled_init, whole_init⟩, unrepeated_init⟩ ?_
    rintro before op after ⟨settled, unrepeated⟩ ⟨admitted, unstarted⟩ stepped
    exact ⟨settled.step admitted stepped, unrepeated.step settled admitted unstarted stepped⟩
  exact both.2.atMost task

/-- Two tasks are taken to another runner before they fire; the one that fired is cancelled before the next
move. -/
def movesBeforeFiring : List ProxyOp :=
  [.link 0 [], .schedule 1 0 0, .schedule 90 0 0, .unlink [0, 1], .link 1 [⟨1, 0, 0⟩, ⟨0, 0, 0⟩], .runOnce 1 5,
    .advance, .advance, .advance, .cancel 0, .unlink [1], .link 0 [⟨1, 0, 0⟩], .runOnce 0 99, .advance, .advance,
    .advance]

theorem movesBeforeFiring_once :
    ∃ p, (system.restrict LinksUnstarted).replay? {} movesBeforeFiring = some p ∧
      p.runs 0 = 1 ∧ ∀ task, p.runs task ≤ 1 := by
  have ends : ∃ p ∈ (system.restrict LinksUnstarted).replay? {} movesBeforeFiring, p.runs 0 = 1 := by
    decide +kernel
  obtain ⟨p, executed, ran⟩ := ends
  exact ⟨p, executed, ran, task_runs_once (Machine.System.reachable_of_replay? executed)⟩

/-- A task fires in one runner, and the proxy is then taken to another one. -/
def movesAfterFiring : List ProxyOp :=
  [.link 0 [], .schedule 1 0 0, .runOnce 0 5, .advance, .advance, .advance, .unlink [0], .link 1 [⟨0, 0, 0⟩],
    .runOnce 1 5, .advance, .advance, .advance]

theorem movesAfterFiring_runs_twice :
    ∃ p, system.Reachable {} p ∧ p.calls = [] ∧ p.runs 0 = 2 := by
  apply Machine.System.exists_reachable movesAfterFiring
  decide +kernel

end TaskProxy

end PosixQuic
