import PosixQuic.Model.TaskProxy
import PosixQuic.Machine.Outcome

/-! # The proxy's records and the runners' multimaps

A node in some runner's `tasks_` belongs to a record in `storages_`, whose `link_` it is, and the runner is the
one the proxy is linked to. In the other direction a record's link is still in `tasks_` unless its task was
collected. Every operation keeps this coupling, also when it is made by a running task. `Link` and `Unlink`
break only the remaining part of the invariant in the middle of their loops: that either every record is linked
or none is.
-/

namespace PosixQuic

open Machine

variable {node : Nat} {tasks : List (Int × Nat)}

theorem mem_insertTask {key : Int} {task : Int × Nat} :
    task ∈ insertTask key node tasks ↔ task = (key, node) ∨ task ∈ tasks := by
  induction tasks with
  | nil => simp [insertTask]
  | cons head rest ih =>
    simp only [insertTask]
    split
    · simp
    · simp only [List.mem_cons, ih]
      exact or_left_comm

theorem nodup_insertTask {key : Int} (distinct : (tasks.map Prod.snd).Nodup) (fresh : ∀ task ∈ tasks, task.2 ≠ node) :
    ((insertTask key node tasks).map Prod.snd).Nodup := by
  induction tasks with
  | nil => simp [insertTask]
  | cons head rest ih =>
    simp only [List.map_cons, List.nodup_cons] at distinct
    have mine := ih distinct.2 fun task member => fresh task (List.mem_cons_of_mem _ member)
    have headFresh := fresh head (List.mem_cons_self ..)
    simp only [insertTask]
    split
    · simp only [List.map_cons, List.nodup_cons, List.mem_cons, not_or]
      refine ⟨⟨Ne.symm headFresh, ?_⟩, distinct⟩
      intro member
      obtain ⟨task, present, same⟩ := List.mem_map.mp member
      exact fresh task (List.mem_cons_of_mem _ present) same
    · simp only [List.map_cons, List.nodup_cons]
      refine ⟨?_, mine⟩
      intro member
      obtain ⟨task, present, same⟩ := List.mem_map.mp member
      rcases mem_insertTask.mp present with rfl | older
      · exact headFresh same.symm
      · exact distinct.1 (List.mem_map.mpr ⟨task, older, same⟩)

theorem mem_eraseTask {task : Int × Nat} : task ∈ eraseTask node tasks ↔ task ∈ tasks ∧ task.2 ≠ node := by
  simp [eraseTask]

theorem nodup_eraseTask (distinct : (tasks.map Prod.snd).Nodup) : ((eraseTask node tasks).map Prod.snd).Nodup :=
  distinct.sublist (List.filter_sublist.map Prod.snd)

theorem eraseTask_eq_self (absent : ∀ task ∈ tasks, task.2 ≠ node) : eraseTask node tasks = tasks := by
  simp only [eraseTask, List.filter_eq_self]
  intro task member
  exact decide_eq_true (absent task member)

section CollectDue

variable {now : Int} {invalid : Nat → Bool}

theorem collectDue_left_sublist (tasks : List (Int × Nat)) : (collectDue now invalid tasks).2.Sublist tasks := by
  induction tasks with
  | nil => exact .slnil
  | cons head rest ih =>
    simp only [collectDue]
    split
    · split
      · exact ih.cons_cons head
      · exact ih.cons head
    · exact .refl _

theorem collectDue_triggers_sublist (tasks : List (Int × Nat)) :
    (collectDue now invalid tasks).1.Sublist (tasks.map Prod.snd) := by
  induction tasks with
  | nil => exact .slnil
  | cons head rest ih =>
    simp only [collectDue, List.map_cons]
    split
    · split
      · exact ih.cons head.2
      · exact ih.cons_cons head.2
    · exact List.nil_sublist _

/-- Every task is collected or stays. -/
theorem collectDue_split {task : Int × Nat} {tasks : List (Int × Nat)} (member : task ∈ tasks) :
    task.2 ∈ (collectDue now invalid tasks).1 ∨ task ∈ (collectDue now invalid tasks).2 := by
  induction tasks with
  | nil => exact absurd member List.not_mem_nil
  | cons head rest ih =>
    simp only [collectDue]
    rcases List.mem_cons.mp member with rfl | later
    · split
      · split <;> simp
      · simp
    · split
      · split
        · exact (ih later).imp_right (List.mem_cons_of_mem _)
        · exact (ih later).imp_left (List.mem_cons_of_mem _)
      · exact .inr member

/-- No node is both collected and left behind. -/
theorem collectDue_apart {task : Int × Nat} {tasks : List (Int × Nat)} (distinct : (tasks.map Prod.snd).Nodup)
    (stays : task ∈ (collectDue now invalid tasks).2) : task.2 ∉ (collectDue now invalid tasks).1 := by
  induction tasks with
  | nil => exact absurd stays List.not_mem_nil
  | cons head rest ih =>
    simp only [List.map_cons, List.nodup_cons] at distinct
    simp only [collectDue] at stays ⊢
    split at stays
    · next due =>
      rw [if_pos due]
      split at stays
      · next taken =>
        simp only [taken, if_true]
        rcases List.mem_cons.mp stays with rfl | later
        · exact fun collected => distinct.1 ((collectDue_triggers_sublist rest).subset collected)
        · exact ih distinct.2 later
      · next free =>
        rw [if_neg free]
        simp only [List.mem_cons, not_or]
        refine ⟨?_, ih distinct.2 stays⟩
        intro same
        exact distinct.1 (same ▸ List.mem_map_of_mem ((collectDue_left_sublist rest).subset stays))
    · next later => simp [if_neg later]

end CollectDue

namespace TaskProxy

/-- `storages_`, the links of its records and the runners' `tasks_` agree. -/
structure Coupled (p : TaskProxy) : Prop where
  placed : ∀ runner key node, (key, node) ∈ p.tasks runner →
    node < p.numNodes ∧ (p.nodes node).invalid = false ∧ (p.nodes node).callLock = false ∧
      (p.nodes node).runner = runner ∧ p.runner = some runner ∧ (p.nodes node).task ∈ p.storages ∧
      (p.records (p.nodes node).task).link = some node
  distinct : ∀ runner, ((p.tasks runner).map Prod.snd).Nodup
  linked : ∀ task ∈ p.storages, ∀ node, (p.records task).link = some node →
    node < p.numNodes ∧ (p.nodes node).task = task ∧ p.runner = some (p.nodes node).runner ∧
      ((p.nodes node).invalid = false → node ∈ (p.tasks (p.nodes node).runner).map Prod.snd) ∧
      ((p.nodes node).invalid = true →
        0 < p.runs task ∨ node ∈ p.collected ∧ (p.nodes node).callLock = false)
  kept : ∀ task, task ∈ p.storages ↔ task < p.numRecords ∧ p.cancelled task = false
  once : p.storages.Nodup
  fresh : ∀ task, p.numRecords ≤ task → p.cancelled task = false ∧ p.runs task = 0
  claimed : ∀ node ∈ p.collected,
    node < p.numNodes ∧ (p.nodes node).invalid = true ∧ (p.nodes node).task < p.numRecords
  apart : p.collected.Nodup

/-- Either every record is linked or none is. -/
def Whole (p : TaskProxy) : Prop :=
  ∀ task ∈ p.storages, (p.records task).link.isSome = p.runner.isSome

theorem coupled_init : Coupled {} where
  placed _ _ _ member := absurd member List.not_mem_nil
  distinct _ := .nil
  linked _ member := absurd member List.not_mem_nil
  kept _ := by simp
  once := .nil
  fresh _ _ := ⟨rfl, rfl⟩
  claimed _ member := absurd member List.not_mem_nil
  apart := .nil

theorem whole_init : Whole {} := fun _ member => absurd member List.not_mem_nil

variable {p p' : TaskProxy} {task runner node : Nat} {visit : LinkVisit} {visits : List LinkVisit}

/-- A fresh node becomes the link of a record that has none. -/
theorem Coupled.runnerSchedule (coupled : p.Coupled) (stored : task ∈ p.storages)
    (unlinked : (p.records task).link = none) (current : p.runner = some runner) (delay tick : Nat) :
    (p.runnerSchedule task runner delay tick).Coupled := by
  have older : ∀ {node}, node < p.numNodes → node ≠ p.numNodes := fun below => Nat.ne_of_lt below
  have other : ∀ {owner key node}, (key, node) ∈ p.tasks owner → (p.nodes node).task ≠ task := by
    intro owner key node member same
    obtain ⟨-, -, -, -, -, -, link⟩ := coupled.placed owner key node member
    rw [same, unlinked] at link
    cases link
  constructor
  case placed =>
    intro owner key node member
    simp only [TaskProxy.runnerSchedule, setLink] at member ⊢
    have cases : (owner = runner ∧ node = p.numNodes) ∨ (key, node) ∈ p.tasks owner := by
      by_cases same : owner = runner
      · subst same
        rw [Function.update_self, mem_insertTask] at member
        rcases member with new | old
        · exact .inl ⟨rfl, (Prod.mk.inj new).2⟩
        · exact .inr old
      · rw [Function.update_of_ne same] at member
        exact .inr member
    rcases cases with ⟨rfl, rfl⟩ | old
    · simp [stored, current]
    · obtain ⟨below, valid, idle, mine, here, kept, link⟩ := coupled.placed owner key node old
      simp only [Function.update_of_ne (older below), Function.update_of_ne (other old)]
      exact ⟨Nat.lt_succ_of_lt below, valid, idle, mine, here, kept, link⟩
  case distinct =>
    intro owner
    simp only [TaskProxy.runnerSchedule, setLink]
    by_cases same : owner = runner
    · subst same
      rw [Function.update_self]
      exact nodup_insertTask (coupled.distinct owner) fun node member =>
        older (coupled.placed owner node.1 node.2 member).1
    · rw [Function.update_of_ne same]
      exact coupled.distinct owner
  case linked =>
    intro owner kept node link
    simp only [TaskProxy.runnerSchedule, setLink] at kept link ⊢
    by_cases same : owner = task
    · subst same
      rw [Function.update_self] at link
      cases link
      simp [current, mem_insertTask]
    · rw [Function.update_of_ne same] at link
      obtain ⟨below, mine, here, present, gone⟩ := coupled.linked owner kept node link
      simp only [Function.update_of_ne (older below)]
      refine ⟨Nat.lt_succ_of_lt below, mine, here, ?_, gone⟩
      intro valid
      have before := present valid
      rw [current] at here
      cases here
      rw [Function.update_self]
      obtain ⟨entry, member, named⟩ := List.mem_map.mp before
      exact List.mem_map.mpr ⟨entry, mem_insertTask.mpr (.inr member), named⟩
  case kept => exact coupled.kept
  case once => exact coupled.once
  case fresh => exact coupled.fresh
  case claimed =>
    intro node member
    have old := coupled.claimed node member
    simp only [TaskProxy.runnerSchedule, setLink, Function.update_of_ne (older old.1)]
    exact ⟨Nat.lt_succ_of_lt old.1, old.2⟩
  case apart => exact coupled.apart

/-- A record loses its link, whose storage is marked and is in no runner's `tasks_`. -/
def dropped (p : TaskProxy) (task node : Nat) (callLock : Bool) : TaskProxy :=
  { p with
    nodes := Function.update p.nodes node { p.nodes node with invalid := true, callLock }
    tasks := fun runner => eraseTask node (p.tasks runner) }.setLink task none

/-- Whichever branch `ScheduledTask::Cancel` takes, the link is dropped. -/
theorem Coupled.dropLink (coupled : p.Coupled) (link : (p.records task).link = some node)
    (done : p.dropLink task = .ok p') : ∃ callLock, p' = p.dropped task node callLock := by
  have elsewhere : ∀ {runner}, (p.nodes node).runner ≠ runner →
      eraseTask node (p.tasks runner) = p.tasks runner := by
    intro runner other
    refine eraseTask_eq_self fun entry member named => other ?_
    rw [← named]
    exact (coupled.placed runner entry.1 entry.2 member).2.2.2.1
  simp only [TaskProxy.dropLink, link] at done
  obtain ⟨middle, cancelled, last⟩ := bind_eq_ok done
  cases last
  simp only [scheduledCancel] at cancelled
  by_cases valid : (p.nodes node).invalid = false
  · simp only [valid, Bool.not_false, if_true] at cancelled
    cases cancelled
    refine ⟨(p.nodes node).callLock, ?_⟩
    simp only [dropped, modNode]
    congr 2
    funext runner
    by_cases same : runner = (p.nodes node).runner
    · subst same
      rw [Function.update_self]
    · rw [Function.update_of_ne same, elsewhere (Ne.symm same)]
  · have marked : (p.nodes node).invalid = true := Bool.eq_true_of_not_eq_false valid
    -- a marked storage has no node, so erasing it from every runner changes nothing
    have absent : (fun runner => eraseTask node (p.tasks runner)) = p.tasks := by
      funext runner
      refine eraseTask_eq_self fun entry member named => valid ?_
      rw [← named]
      exact (coupled.placed runner entry.1 entry.2 member).2.1
    simp only [marked, Bool.not_true, Bool.false_eq_true, if_false] at cancelled
    split at cancelled
    · cases cancelled
      refine ⟨(p.nodes node).callLock, ?_⟩
      have same : { p.nodes node with invalid := true } = p.nodes node := by rw [← marked]
      simp only [dropped, absent, same, Function.update_eq_self]
    · split at cancelled
      · cases cancelled
      · cases cancelled
        refine ⟨true, ?_⟩
        simp only [dropped, absent, modNode, marked]

/-- Dropping a record's link keeps the coupling. -/
theorem Coupled.dropped (coupled : p.Coupled) (stored : task ∈ p.storages) (link : (p.records task).link = some node)
    (callLock : Bool) : (p.dropped task node callLock).Coupled := by
  obtain ⟨-, owned, -⟩ := coupled.linked task stored node link
  constructor
  case placed =>
    intro runner key other member
    simp only [TaskProxy.dropped, setLink] at member ⊢
    obtain ⟨member, distinct⟩ := mem_eraseTask.mp member
    have distinct : other ≠ node := distinct
    obtain ⟨below, valid, idle, mine, here, kept, points⟩ := coupled.placed runner key other member
    have foreign : (p.nodes other).task ≠ task := by
      rintro same
      rw [same, link] at points
      exact distinct (Option.some.inj points).symm
    simp only [Function.update_of_ne distinct, Function.update_of_ne foreign]
    exact ⟨below, valid, idle, mine, here, kept, points⟩
  case distinct => exact fun runner => nodup_eraseTask (coupled.distinct runner)
  case linked =>
    intro owner kept other points
    simp only [TaskProxy.dropped, setLink] at kept points ⊢
    have foreign : owner ≠ task := by
      rintro rfl
      rw [Function.update_self] at points
      cases points
    rw [Function.update_of_ne foreign] at points
    obtain ⟨below, mine, here, present, gone⟩ := coupled.linked owner kept other points
    have distinct : other ≠ node := by
      rintro rfl
      exact foreign (mine.symm.trans owned)
    simp only [Function.update_of_ne distinct]
    refine ⟨below, mine, here, ?_, gone⟩
    intro valid
    obtain ⟨entry, member, named⟩ := List.mem_map.mp (present valid)
    exact List.mem_map.mpr ⟨entry, mem_eraseTask.mpr ⟨member, named ▸ distinct⟩, named⟩
  case kept => exact coupled.kept
  case once => exact coupled.once
  case fresh => exact coupled.fresh
  case claimed =>
    intro other member
    obtain ⟨below, marked, known⟩ := coupled.claimed other member
    simp only [TaskProxy.dropped, setLink]
    by_cases same : other = node
    · subst same
      simp only [Function.update_self]
      exact ⟨below, trivial, known⟩
    · simp only [Function.update_of_ne same]
      exact ⟨below, marked, known⟩
  case apart => exact coupled.apart

/-- The proxy and every task's history are as before, no runner has a new node and no storage another task. -/
structure Narrows (p p' : TaskProxy) : Prop where
  clock : p'.clock = p.clock
  numRecords : p'.numRecords = p.numRecords
  storages : p'.storages = p.storages
  runner : p'.runner = p.runner
  calls : p'.calls = p.calls
  due : p'.due = p.due
  cancelled : p'.cancelled = p.cancelled
  runs : p'.runs = p.runs
  deadline : ∀ task, (p'.records task).deadline = (p.records task).deadline
  task : ∀ node, (p'.nodes node).task = (p.nodes node).task
  tasks : ∀ runner, p'.tasks runner ⊆ p.tasks runner

theorem Narrows.refl (p : TaskProxy) : Narrows p p :=
  ⟨rfl, rfl, rfl, rfl, rfl, rfl, rfl, rfl, fun _ => rfl, fun _ => rfl, fun _ => List.Subset.refl _⟩

theorem Narrows.trans {p p' p'' : TaskProxy} (first : Narrows p p') (second : Narrows p' p'') : Narrows p p'' where
  clock := second.clock.trans first.clock
  numRecords := second.numRecords.trans first.numRecords
  storages := second.storages.trans first.storages
  runner := second.runner.trans first.runner
  calls := second.calls.trans first.calls
  due := second.due.trans first.due
  cancelled := second.cancelled.trans first.cancelled
  runs := second.runs.trans first.runs
  deadline task := (second.deadline task).trans (first.deadline task)
  task node := (second.task node).trans (first.task node)
  tasks runner := List.Subset.trans (second.tasks runner) (first.tasks runner)

theorem narrows_dropped (p : TaskProxy) (task node : Nat) (callLock : Bool) :
    Narrows p (p.dropped task node callLock) where
  clock := rfl
  numRecords := rfl
  storages := rfl
  runner := rfl
  calls := rfl
  due := rfl
  cancelled := rfl
  runs := rfl
  deadline other := by
    simp only [dropped, setLink]
    by_cases same : other = task
    · rw [same, Function.update_self]
    · rw [Function.update_of_ne same]
  task other := by
    simp only [dropped, setLink]
    by_cases same : other = node
    · rw [same, Function.update_self]
    · rw [Function.update_of_ne same]
  tasks _ := List.filter_subset_self _

/-- What cancelling a record's link does, whether it has one or not. -/
theorem Coupled.dropLink_spec (coupled : p.Coupled) (stored : task ∈ p.storages) (done : p.dropLink task = .ok p') :
    p'.Coupled ∧ Narrows p p' ∧ (p'.records task).link = none ∧
      ∀ other, other ≠ task → (p'.records other).link = (p.records other).link := by
  cases link : (p.records task).link with
  | none =>
    simp only [TaskProxy.dropLink, link] at done
    cases done
    exact ⟨coupled, .refl p, link, fun _ _ => rfl⟩
  | some node =>
    obtain ⟨callLock, rfl⟩ := coupled.dropLink link done
    refine ⟨coupled.dropped stored link callLock, narrows_dropped p task node callLock, ?_, ?_⟩
    · simp [TaskProxy.dropped, setLink]
    · intro other distinct
      simp [TaskProxy.dropped, setLink, Function.update_of_ne distinct]

/-- The loop of `Unlink` leaves no record it has visited with a link. -/
theorem Coupled.unlinkAll {order : List Nat} (coupled : p.Coupled) (stored : ∀ task ∈ order, task ∈ p.storages)
    (done : unlinkAll order p = .ok p') :
    p'.Coupled ∧ Narrows p p' ∧ ∀ task, task ∈ order ∨ (p.records task).link = none →
      (p'.records task).link = none := by
  induction order generalizing p with
  | nil =>
    cases done
    exact ⟨coupled, .refl _, fun task visited => visited.resolve_left List.not_mem_nil⟩
  | cons task rest ih =>
    obtain ⟨middle, drop, continued⟩ := bind_eq_ok done
    obtain ⟨between, narrows, unlinked, others⟩ := coupled.dropLink_spec (stored task (List.mem_cons_self ..)) drop
    have remaining : ∀ other ∈ rest, other ∈ middle.storages := by
      intro other member
      rw [narrows.storages]
      exact stored other (List.mem_cons_of_mem _ member)
    obtain ⟨final, onward, rests⟩ := ih between remaining continued
    refine ⟨final, narrows.trans onward, ?_⟩
    intro other visited
    refine rests other ?_
    by_cases same : other = task
    · exact .inr (same ▸ unlinked)
    · rw [others other same]
      exact visited.imp_left fun member => (List.mem_cons.mp member).resolve_left same

theorem Coupled.withClock (coupled : p.Coupled) (clock : Nat) : { p with clock }.Coupled :=
  ⟨coupled.placed, coupled.distinct, coupled.linked, coupled.kept, coupled.once, coupled.fresh,
    coupled.claimed, coupled.apart⟩

theorem runnerSchedule_link_self (p : TaskProxy) (task runner delay tick : Nat) :
    ((p.runnerSchedule task runner delay tick).records task).link = some p.numNodes := by
  simp [runnerSchedule, setLink]

theorem runnerSchedule_records_of_ne (p : TaskProxy) {other : Nat} (distinct : other ≠ task) (runner delay tick : Nat) :
    (p.runnerSchedule task runner delay tick).records other = p.records other := by
  simp [runnerSchedule, setLink, Function.update_of_ne distinct]

theorem linkOne_link_self (p : TaskProxy) (runner : Nat) (visit : LinkVisit) :
    ((p.linkOne runner visit).records visit.task).link = some p.numNodes :=
  runnerSchedule_link_self _ _ _ _ _

theorem linkOne_records_of_ne (p : TaskProxy) (runner : Nat) {other : Nat} (distinct : other ≠ visit.task) :
    (p.linkOne runner visit).records other = p.records other :=
  runnerSchedule_records_of_ne _ distinct _ _ _

/-- What every iteration of the loop of `Link` keeps, given that it finds its record without a link, the whole
loop keeps. -/
theorem linkAll_rule {P : TaskProxy → Prop} (start : P p) (current : p.runner = some runner)
    (stored : ∀ visit ∈ visits, visit.task ∈ p.storages)
    (unlinked : ∀ visit ∈ visits, (p.records visit.task).link = none) (distinct : (visits.map LinkVisit.task).Nodup)
    (keep : ∀ p visit, P p → p.runner = some runner → visit.task ∈ p.storages →
      (p.records visit.task).link = none → P (p.linkOne runner visit)) : P (linkAll runner visits p) := by
  induction visits generalizing p with
  | nil => exact start
  | cons visit rest ih =>
    simp only [List.map_cons, List.nodup_cons] at distinct
    have mine := List.mem_cons_self (a := visit) (l := rest)
    refine ih (keep p visit start current (stored visit mine) (unlinked visit mine)) current
      (fun other member => stored other (List.mem_cons_of_mem _ member)) ?_ distinct.2
    intro other member
    have apart : other.task ≠ visit.task := fun same => distinct.1 (same ▸ List.mem_map_of_mem member)
    change ((p.linkOne runner visit).records other.task).link = none
    rw [linkOne_records_of_ne p runner apart]
    exact unlinked other (List.mem_cons_of_mem _ member)

theorem linkAll_links (visited : task ∈ visits.map LinkVisit.task ∨ (p.records task).link.isSome) :
    ((linkAll runner visits p).records task).link.isSome := by
  induction visits generalizing p with
  | nil => exact visited.resolve_left List.not_mem_nil
  | cons visit rest ih =>
    apply ih
    change _ ∨ ((p.linkOne runner visit).records task).link.isSome
    by_cases same : task = visit.task
    · rw [same, linkOne_link_self]
      exact .inr rfl
    · rw [linkOne_records_of_ne p runner same]
      exact visited.imp_left fun member => (List.mem_cons.mp member).resolve_left same

theorem linkAll_frame (runner : Nat) (visits : List LinkVisit) (p : TaskProxy) :
    (linkAll runner visits p).storages = p.storages ∧ (linkAll runner visits p).runner = p.runner := by
  induction visits generalizing p with
  | nil => exact ⟨rfl, rfl⟩
  | cons visit rest ih => exact ih (p.linkOne runner visit)

theorem Coupled.linkOne (coupled : p.Coupled) (current : p.runner = some runner) (stored : visit.task ∈ p.storages)
    (unlinked : (p.records visit.task).link = none) : (p.linkOne runner visit).Coupled :=
  (coupled.withClock (p.clock + visit.tick)).runnerSchedule stored unlinked current _ _

/-- With no record linked, no runner has a node and any runner may become the current one. -/
theorem Coupled.setRunner {p : TaskProxy} (coupled : p.Coupled)
    (unlinked : ∀ task ∈ p.storages, (p.records task).link = none) (runner : Option Nat) :
    { p with runner }.Coupled where
  placed owner key node member := by
    obtain ⟨-, -, -, -, -, stored, link⟩ := coupled.placed owner key node member
    rw [unlinked _ stored] at link
    cases link
  distinct := coupled.distinct
  linked task stored node link := by
    rw [unlinked task stored] at link
    cases link
  kept := coupled.kept
  once := coupled.once
  fresh := coupled.fresh
  claimed := coupled.claimed
  apart := coupled.apart

theorem Whole.unlinked (whole : p.Whole) (loose : p.runner = none) (stored : task ∈ p.storages) :
    (p.records task).link = none := by
  have none := whole task stored
  rw [loose] at none
  exact Option.not_isSome_iff_eq_none.mp (Bool.not_eq_true _ ▸ none)

/-- The records that an admitted `Link` visits. -/
theorem mem_storages_of_visit (walk : (visits.map LinkVisit.task).Perm p.storages) (member : visit ∈ visits) :
    visit.task ∈ p.storages :=
  walk.subset (List.mem_map_of_mem member)

theorem Coupled.link (coupled : p.Coupled) (whole : p.Whole)
    (walk : p.runner = none → (visits.map LinkVisit.task).Perm p.storages) :
    (p.link runner visits).Coupled ∧ (p.link runner visits).Whole := by
  unfold TaskProxy.link
  cases loose : p.runner with
  | some _ => exact ⟨coupled, whole⟩
  | none =>
    have unlinked := fun task (stored : task ∈ p.storages) => whole.unlinked loose stored
    have visited := walk loose
    refine ⟨?_, ?_⟩
    · refine linkAll_rule (P := Coupled) (coupled.setRunner unlinked _) rfl
        (fun visit => mem_storages_of_visit visited)
        (fun visit member => unlinked _ (mem_storages_of_visit visited member))
        (visited.nodup_iff.mpr coupled.once) ?_
      intro before visit keeps current stored empty
      exact keeps.linkOne current stored empty
    · intro task stored
      obtain ⟨same, runs⟩ := linkAll_frame runner visits { p with runner := some runner }
      rw [same] at stored
      rw [runs, linkAll_links (.inl (visited.symm.subset stored))]
      rfl

theorem Coupled.unlink (coupled : p.Coupled) (whole : p.Whole) {order : List Nat}
    (walk : p.runner ≠ none → order.Perm p.storages) (done : p.unlink order = .ok p') : p'.Coupled ∧ p'.Whole := by
  unfold TaskProxy.unlink at done
  cases here : p.runner with
  | none =>
    rw [here] at done
    cases done
    exact ⟨coupled, whole⟩
  | some runner =>
    rw [here] at done
    obtain ⟨middle, walked, last⟩ := bind_eq_ok done
    cases last
    have visited := walk (by simp [here])
    obtain ⟨between, narrows, unlinked⟩ := coupled.unlinkAll (fun _ member => visited.subset member) walked
    have empty : ∀ task ∈ middle.storages, (middle.records task).link = none := by
      intro task stored
      rw [narrows.storages] at stored
      exact unlinked task (.inl (visited.symm.subset stored))
    refine ⟨between.setRunner empty none, ?_⟩
    intro task stored
    exact congrArg Option.isSome (empty task stored)

/-- The state in which `Schedule` has stored its record and not yet asked the runner. -/
def stored (p : TaskProxy) (delay tick : Nat) : TaskProxy :=
  let now := p.clock + tick
  { p with
    clock := now
    records := Function.update p.records p.numRecords { deadline := deadlineOf now delay }
    numRecords := p.numRecords + 1
    storages := p.storages ++ [p.numRecords]
    due := Function.update p.due p.numRecords (now + delay) }

theorem schedule_eq (p : TaskProxy) (delay tick tick' : Nat) :
    p.schedule delay tick tick' =
      match p.runner with
      | none => p.stored delay tick
      | some runner => (p.stored delay tick).runnerSchedule p.numRecords runner delay tick' := rfl

theorem stored_link_new (p : TaskProxy) (delay tick : Nat) :
    ((p.stored delay tick).records p.numRecords).link = none := by
  simp [stored]

theorem stored_records_old (p : TaskProxy) (known : task < p.numRecords) (delay tick : Nat) :
    (p.stored delay tick).records task = p.records task :=
  Function.update_of_ne (Nat.ne_of_lt known) ..

theorem mem_storages_stored (p : TaskProxy) (delay tick : Nat) : p.numRecords ∈ (p.stored delay tick).storages :=
  List.mem_append_right _ (List.mem_singleton_self _)

theorem Coupled.stored (coupled : p.Coupled) (delay tick : Nat) : (p.stored delay tick).Coupled := by
  have known : ∀ {task}, task ∈ p.storages → task < p.numRecords := fun member => ((coupled.kept _).mp member).1
  constructor
  case placed =>
    intro runner key node member
    obtain ⟨below, valid, idle, mine, here, kept, link⟩ := coupled.placed runner key node member
    refine ⟨below, valid, idle, mine, here, List.mem_append_left _ kept, ?_⟩
    rw [← link]
    exact congrArg ProxyRecord.link (stored_records_old p (known kept) delay tick)
  case distinct => exact coupled.distinct
  case linked =>
    intro task member node link
    rcases List.mem_append.mp member with old | new
    · rw [stored_records_old p (known old)] at link
      exact coupled.linked task old node link
    · rw [List.mem_singleton.mp new, stored_link_new] at link
      cases link
  case kept =>
    intro task
    simp only [TaskProxy.stored, List.mem_append, List.mem_singleton, coupled.kept, Nat.lt_succ_iff_lt_or_eq]
    constructor
    · rintro (⟨below, live⟩ | rfl)
      · exact ⟨.inl below, live⟩
      · exact ⟨.inr rfl, (coupled.fresh _ (Nat.le_refl _)).1⟩
    · rintro ⟨below | new, live⟩
      · exact .inl ⟨below, live⟩
      · exact .inr new
  case once =>
    refine List.nodup_append.mpr ⟨coupled.once, List.nodup_singleton _, ?_⟩
    intro task member other new same
    rw [same, List.mem_singleton.mp new] at member
    exact Nat.lt_irrefl _ (known member)
  case fresh => exact fun task above => coupled.fresh task (Nat.le_of_succ_le above)
  case claimed =>
    intro node member
    obtain ⟨below, marked, owner⟩ := coupled.claimed node member
    exact ⟨below, marked, Nat.lt_succ_of_lt owner⟩
  case apart => exact coupled.apart

theorem Coupled.schedule (coupled : p.Coupled) (whole : p.Whole) (delay tick tick' : Nat) :
    (p.schedule delay tick tick').Coupled ∧ (p.schedule delay tick tick').Whole := by
  have known : ∀ {task}, task ∈ p.storages → task < p.numRecords := fun member => ((coupled.kept _).mp member).1
  rw [schedule_eq]
  cases current : p.runner with
  | none =>
    refine ⟨coupled.stored delay tick, ?_⟩
    intro task member
    rcases List.mem_append.mp member with old | new
    · rw [stored_records_old p (known old)]
      exact whole task old
    · rw [List.mem_singleton.mp new, stored_link_new]
      exact (congrArg Option.isSome current).symm
  | some runner =>
    refine ⟨(coupled.stored delay tick).runnerSchedule (mem_storages_stored p delay tick)
      (stored_link_new p delay tick) current delay tick', ?_⟩
    intro task member
    rcases List.mem_append.mp member with old | new
    · rw [runnerSchedule_records_of_ne _ (Nat.ne_of_lt (known old)), stored_records_old p (known old)]
      exact whole task old
    · rw [List.mem_singleton.mp new, runnerSchedule_link_self]
      exact (congrArg Option.isSome current).symm

/-- A record without a link leaves `storages_`. -/
theorem Coupled.forget {p : TaskProxy} (coupled : p.Coupled) {task : Nat} (known : task < p.numRecords)
    (unlinked : (p.records task).link = none) :
    { p with
      storages := p.storages.filter (· ≠ task)
      cancelled := Function.update p.cancelled task true }.Coupled where
  placed runner key node member := by
    obtain ⟨below, valid, idle, mine, here, kept, link⟩ := coupled.placed runner key node member
    refine ⟨below, valid, idle, mine, here, ?_, link⟩
    simp only [List.mem_filter, decide_eq_true_eq]
    refine ⟨kept, ?_⟩
    intro same
    rw [same, unlinked] at link
    cases link
  distinct := coupled.distinct
  linked other member := coupled.linked other (List.mem_of_mem_filter member)
  kept other := by
    simp only [List.mem_filter, decide_eq_true_eq, coupled.kept]
    by_cases same : other = task <;> simp [same]
  once := coupled.once.filter _
  fresh other above := by
    have distinct : other ≠ task := (Nat.lt_of_lt_of_le known above).ne'
    simp only [Function.update_of_ne distinct]
    exact coupled.fresh other above
  claimed := coupled.claimed
  apart := coupled.apart

/-- `Cancel` drops the link of a task that has not been cancelled, and forgets its record. -/
theorem Coupled.cancel_cases (coupled : p.Coupled) (known : task < p.numRecords)
    (stepped : p.step (.cancel task) = .ok p') :
    p' = p ∨ ∃ middle, task ∈ p.storages ∧ p.dropLink task = .ok middle ∧ Narrows p middle ∧ p' = { middle with
      storages := middle.storages.filter (· ≠ task)
      cancelled := Function.update middle.cancelled task true } := by
  obtain ⟨after, cancels, last⟩ := bind_eq_ok stepped
  cases last
  unfold TaskProxy.cancel at cancels
  split_ifs at cancels with stored
  · obtain ⟨middle, dropped, last⟩ := bind_eq_ok cancels
    cases last
    exact .inr ⟨middle, stored, dropped, (coupled.dropLink_spec stored dropped).2.1, rfl⟩
  · -- the history has the task already
    cases cancels
    have before : p.cancelled task = true :=
      Bool.of_not_eq_false fun live => stored ((coupled.kept task).mpr ⟨known, live⟩)
    rw [← before, Function.update_eq_self]
    exact .inl rfl

theorem Coupled.cancel (coupled : p.Coupled) (whole : p.Whole) (known : task < p.numRecords)
    (stepped : p.step (.cancel task) = .ok p') : p'.Coupled ∧ p'.Whole := by
  obtain rfl | ⟨middle, stored, dropped, narrows, rfl⟩ := coupled.cancel_cases known stepped
  · exact ⟨coupled, whole⟩
  · obtain ⟨between, -, unlinked, others⟩ := coupled.dropLink_spec stored dropped
    refine ⟨between.forget (narrows.numRecords ▸ known) unlinked, ?_⟩
    intro other member
    simp only [List.mem_filter, decide_eq_true_eq, narrows.storages] at member
    change (middle.records other).link.isSome = middle.runner.isSome
    rw [others other member.2, narrows.runner]
    exact whole other member.1

/-- The storages that `RunOnce` collects at a time. -/
def triggersAt (p : TaskProxy) (runner now : Nat) : List Nat :=
  (collectDue now (fun node => (p.nodes node).invalid) (p.tasks runner)).1

theorem Coupled.nodup_triggersAt (coupled : p.Coupled) (runner now : Nat) : (p.triggersAt runner now).Nodup :=
  (coupled.distinct runner).sublist (collectDue_triggers_sublist _)

/-- A collected storage had a node in the runner's `tasks_`. -/
theorem mem_tasks_of_mem_triggersAt {now : Nat} (trigger : node ∈ p.triggersAt runner now) :
    ∃ key, (key, node) ∈ p.tasks runner := by
  obtain ⟨entry, member, rfl⟩ := List.mem_map.mp ((collectDue_triggers_sublist _).subset trigger)
  exact ⟨entry.1, member⟩

/-- What `RunOnce` leaves in any runner's `tasks_` was there and was not collected. -/
theorem Coupled.mem_tasks_runOnce (coupled : p.Coupled) {tick owner : Nat} {key : Int}
    (member : (key, node) ∈ (p.runOnce runner tick).tasks owner) :
    (key, node) ∈ p.tasks owner ∧ node ∉ p.triggersAt runner (p.clock + tick) := by
  simp only [TaskProxy.runOnce] at member
  by_cases same : owner = runner
  · subst same
    rw [Function.update_self] at member
    exact ⟨(collectDue_left_sublist _).subset member, collectDue_apart (coupled.distinct owner) member⟩
  · rw [Function.update_of_ne same] at member
    refine ⟨member, ?_⟩
    intro trigger
    obtain ⟨key', due⟩ := mem_tasks_of_mem_triggersAt trigger
    obtain ⟨-, -, -, here, -⟩ := coupled.placed owner key node member
    obtain ⟨-, -, -, there, -⟩ := coupled.placed runner key' node due
    exact same (here.symm.trans there)

theorem runOnce_nodes (p : TaskProxy) (runner tick node : Nat) :
    (p.runOnce runner tick).nodes node =
      if node ∈ p.triggersAt runner (p.clock + tick) then { p.nodes node with invalid := true }
      else p.nodes node := rfl

theorem runOnce_collected (p : TaskProxy) (runner tick : Nat) :
    (p.runOnce runner tick).collected = p.triggersAt runner (p.clock + tick) ++ p.collected := rfl

theorem Coupled.runOnce (coupled : p.Coupled) (runner tick : Nat) : (p.runOnce runner tick).Coupled := by
  constructor
  case placed =>
    intro owner key node member
    obtain ⟨before, kept⟩ := coupled.mem_tasks_runOnce member
    rw [runOnce_nodes, if_neg kept]
    exact coupled.placed owner key node before
  case distinct =>
    intro owner
    simp only [TaskProxy.runOnce]
    by_cases same : owner = runner
    · subst same
      rw [Function.update_self]
      exact (coupled.distinct owner).sublist ((collectDue_left_sublist _).map Prod.snd)
    · rw [Function.update_of_ne same]
      exact coupled.distinct owner
  case linked =>
    intro task stored node link
    obtain ⟨below, mine, here, present, gone⟩ := coupled.linked task stored node link
    rw [runOnce_nodes, runOnce_collected]
    split
    · next trigger =>
      obtain ⟨key, due⟩ := mem_tasks_of_mem_triggersAt trigger
      obtain ⟨-, -, idle, -⟩ := coupled.placed runner key node due
      exact ⟨below, mine, here, fun valid => absurd valid (by simp),
        fun _ => .inr ⟨List.mem_append_left _ trigger, idle⟩⟩
    · next kept =>
      refine ⟨below, mine, here, ?_, ?_⟩
      · intro valid
        obtain ⟨entry, member, rfl⟩ := List.mem_map.mp (present valid)
        simp only [TaskProxy.runOnce]
        by_cases same : (p.nodes entry.2).runner = runner
        · rw [same, Function.update_self]
          rw [same] at member
          exact List.mem_map_of_mem ((collectDue_split member).resolve_left kept)
        · rw [Function.update_of_ne same]
          exact List.mem_map_of_mem member
      · intro marked
        exact (gone marked).imp_right fun waiting => ⟨List.mem_append_right _ waiting.1, waiting.2⟩
  case kept => exact coupled.kept
  case once => exact coupled.once
  case fresh => exact coupled.fresh
  case claimed =>
    intro node member
    rw [runOnce_nodes]
    rw [runOnce_collected] at member
    rcases List.mem_append.mp member with trigger | older
    · obtain ⟨key, due⟩ := mem_tasks_of_mem_triggersAt trigger
      obtain ⟨below, -, -, -, -, stored, -⟩ := coupled.placed runner key node due
      rw [if_pos trigger]
      exact ⟨below, rfl, ((coupled.kept _).mp stored).1⟩
    · obtain ⟨below, marked, known⟩ := coupled.claimed node older
      split
      · exact ⟨below, rfl, known⟩
      · exact ⟨below, marked, known⟩
  case apart =>
    refine List.nodup_append.mpr ⟨coupled.nodup_triggersAt runner _, coupled.apart, ?_⟩
    rintro node trigger _ older rfl
    obtain ⟨key, due⟩ := mem_tasks_of_mem_triggersAt trigger
    have valid := (coupled.placed runner key node due).2.1
    rw [(coupled.claimed node older).2.1] at valid
    cases valid

/-- A state that differs in the locks the storages' callers hold, in the calls in progress and in the runs. -/
def recalled (p : TaskProxy) (locks : Nat → Bool) (calls : List RunOnceCall) (runs : Nat → Nat)
    (inRunner : Bool) : TaskProxy :=
  { p with
    nodes := fun node => { p.nodes node with callLock := locks node }
    calls, runs, inRunner }

/-- Such a change keeps the coupling, if no storage in `tasks_` becomes locked and every link that is no longer
collected has run. -/
theorem Coupled.recalled {p : TaskProxy} (coupled : p.Coupled) {locks : Nat → Bool} {calls : List RunOnceCall}
    {runs : Nat → Nat} {inRunner : Bool}
    (idle : ∀ node, (p.nodes node).invalid = false → (p.nodes node).callLock = false → locks node = false)
    (fresh : ∀ task, p.numRecords ≤ task → runs task = p.runs task)
    (fewer : (calls.flatMap RunOnceCall.triggers).Sublist p.collected)
    (gone : ∀ node, 0 < p.runs (p.nodes node).task ∨ node ∈ p.collected ∧ (p.nodes node).callLock = false →
      0 < runs (p.nodes node).task ∨ node ∈ calls.flatMap RunOnceCall.triggers ∧ locks node = false) :
    (p.recalled locks calls runs inRunner).Coupled where
  placed runner key node member := by
    obtain ⟨below, valid, unlocked, rest⟩ := coupled.placed runner key node member
    exact ⟨below, valid, idle node valid unlocked, rest⟩
  distinct := coupled.distinct
  linked task member node link := by
    obtain ⟨below, rfl, here, present, ran⟩ := coupled.linked task member node link
    exact ⟨below, rfl, here, present, fun marked => gone node (ran marked)⟩
  kept := coupled.kept
  once := coupled.once
  fresh task above := ⟨(coupled.fresh task above).1, (fresh task above).trans (coupled.fresh task above).2⟩
  claimed node member := coupled.claimed node (fewer.subset member)
  apart := coupled.apart.sublist fewer

/-- The storages' call locks with one of them set. -/
def setLock (p : TaskProxy) (node : Nat) (callLock : Bool) : Nat → Bool :=
  Function.update (fun other => (p.nodes other).callLock) node callLock

theorem recalled_setLock (p : TaskProxy) (node : Nat) (callLock : Bool) (calls : List RunOnceCall)
    (runs : Nat → Nat) :
    { p.modNode node fun storage => { storage with callLock } with calls, runs } =
      p.recalled (p.setLock node callLock) calls runs p.inRunner := by
  simp only [recalled, modNode, setLock]
  congr 1
  funext other
  by_cases same : other = node
  · subst same
    simp
  · simp [Function.update_of_ne same]

/-- One step of the calling loop: a task returns, is skipped, starts, or the call is over. -/
inductive Advances (p : TaskProxy) : TaskProxy → Prop where
  | returns {triggers : List Nat} {node : Nat} {outer : List RunOnceCall}
      (calls : p.calls = ⟨triggers, some node⟩ :: outer) :
      Advances p (p.recalled (p.setLock node false) ({ triggers } :: outer) p.runs p.inRunner)
  | skips {node : Nat} {rest : List Nat} {outer : List RunOnceCall}
      (calls : p.calls = ⟨node :: rest, none⟩ :: outer) (locked : (p.nodes node).callLock = true) :
      Advances p (p.recalled (fun other => (p.nodes other).callLock) ({ triggers := rest } :: outer) p.runs
        p.inRunner)
  | starts {node : Nat} {rest : List Nat} {outer : List RunOnceCall}
      (calls : p.calls = ⟨node :: rest, none⟩ :: outer) (free : (p.nodes node).callLock = false) :
      Advances p (p.recalled (p.setLock node true) ({ triggers := rest, running := some node } :: outer)
        (Function.update p.runs (p.nodes node).task (p.runs (p.nodes node).task + 1)) p.inRunner)
  | ends {outer : List RunOnceCall} (calls : p.calls = ⟨[], none⟩ :: outer) :
      Advances p (p.recalled (fun other => (p.nodes other).callLock) outer p.runs false)
  | idles (calls : p.calls = []) : Advances p p

theorem advances (p : TaskProxy) : Advances p p.advance := by
  unfold advance
  split
  · next calls => exact .idles calls
  · next triggers node outer calls =>
    have moved : Advances p _ := .returns calls
    rw [← recalled_setLock] at moved
    exact moved
  · next node rest outer calls =>
    split
    · next locked => exact .skips calls locked
    · next free =>
      rw [recalled_setLock p node true]
      exact .starts calls (Bool.eq_false_of_not_eq_true free)
  · next outer calls => exact .ends calls

theorem Coupled.advance (coupled : p.Coupled) : p.advance.Coupled := by
  have steps := advances p
  generalize p.advance = p' at steps
  cases steps with
  | idles _ => exact coupled
  | @returns triggers node outer calls =>
    have same : p.collected = ({ triggers } :: outer).flatMap RunOnceCall.triggers := by
      simp [collected, calls]
    refine coupled.recalled ?_ (fun _ _ => rfl) (same ▸ .refl _) ?_
    · intro other _ idle
      by_cases mine : other = node
      · simp [setLock, mine]
      · simp [setLock, Function.update_of_ne mine, idle]
    · intro other
      refine Or.imp_right fun waiting => ⟨same ▸ waiting.1, ?_⟩
      by_cases mine : other = node
      · simp [setLock, mine]
      · simp [setLock, Function.update_of_ne mine, waiting.2]
  | @skips node rest outer calls locked =>
    have same : p.collected = node :: (rest ++ outer.flatMap RunOnceCall.triggers) := by
      simp [collected, calls]
    refine coupled.recalled (fun _ _ idle => idle) (fun _ _ => rfl) (same ▸ List.sublist_cons_self _ _) ?_
    intro other
    refine Or.imp_right fun waiting => ⟨?_, waiting.2⟩
    rw [same] at waiting
    refine (List.mem_cons.mp waiting.1).resolve_left ?_
    rintro rfl
    rw [locked] at waiting
    exact Bool.noConfusion waiting.2
  | @starts node rest outer calls free =>
    have same : p.collected = node :: (rest ++ outer.flatMap RunOnceCall.triggers) := by
      simp [collected, calls]
    obtain ⟨-, marked, known⟩ := coupled.claimed node (same ▸ List.mem_cons_self ..)
    refine coupled.recalled ?_ ?_ (same ▸ List.sublist_cons_self _ _) ?_
    · intro other valid idle
      have distinct : other ≠ node := by
        rintro rfl
        rw [marked] at valid
        cases valid
      simp [setLock, Function.update_of_ne distinct, idle]
    · intro task above
      exact Function.update_of_ne (Nat.lt_of_lt_of_le known above).ne' ..
    · intro other waiting
      by_cases mine : (p.nodes other).task = (p.nodes node).task
      · left
        rw [mine, Function.update_self]
        exact Nat.succ_pos _
      · rw [Function.update_of_ne mine]
        have distinct : other ≠ node := fun equal => mine (congrArg (fun n => (p.nodes n).task) equal)
        refine waiting.imp_right fun queued => ⟨?_, ?_⟩
        · rw [same] at queued
          exact (List.mem_cons.mp queued.1).resolve_left distinct
        · simp [setLock, Function.update_of_ne distinct, queued.2]
  | @ends outer calls =>
    have same : p.collected = outer.flatMap RunOnceCall.triggers := by
      simp [collected, calls]
    exact coupled.recalled (fun _ _ idle => idle) (fun _ _ => rfl) (same ▸ .refl _)
      fun _ => Or.imp_right fun waiting => ⟨same ▸ waiting.1, waiting.2⟩

end TaskProxy

end PosixQuic
