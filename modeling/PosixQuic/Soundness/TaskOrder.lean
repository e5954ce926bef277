import PosixQuic.Model.TaskLog
import PosixQuic.Soundness.TaskCoupling
import PosixQuic.Soundness.TaskRefinement

/-! # The order of `tasks_`

`tasks_` is sorted by its keys, and tasks with the same key are in the order in which they were scheduled,
whatever has been erased in between. The log of the starts agrees with the counters of the runner.
-/

namespace PosixQuic

open Machine

/-- Sorted by key, and in scheduling order among equal keys. -/
structure Ordered (tasks : List (Int × Nat)) (scheduled : List Nat) : Prop where
  keys : tasks.Pairwise fun first second => first.1 ≤ second.1
  fifo : ∀ key, ((tasks.filter fun task => task.1 = key).map Prod.snd).Sublist scheduled

theorem Ordered.sublist {tasks tasks' : List (Int × Nat)} {scheduled : List Nat} (ordered : Ordered tasks scheduled)
    (fewer : tasks'.Sublist tasks) : Ordered tasks' scheduled where
  keys := ordered.keys.sublist fewer
  fifo key := ((fewer.filter _).map _).trans (ordered.fifo key)

variable {tasks : List (Int × Nat)} {now : Int}

theorem pairwise_insertTask (sorted : tasks.Pairwise fun first second => first.1 ≤ second.1) (key : Int) (node : Nat) :
    (insertTask key node tasks).Pairwise fun first second => first.1 ≤ second.1 := by
  induction tasks with
  | nil => simp [insertTask]
  | cons head rest ih =>
    obtain ⟨least, later⟩ := List.pairwise_cons.mp sorted
    simp only [insertTask]
    split_ifs with before
    · refine List.pairwise_cons.mpr ⟨?_, sorted⟩
      rintro task (_ | ⟨_, member⟩)
      · exact before.le
      · exact before.le.trans (least task member)
    · refine List.pairwise_cons.mpr ⟨fun task member => ?_, ih later⟩
      rcases mem_insertTask.mp member with rfl | older
      · exact not_lt.mp before
      · exact least task older

/-- Among the tasks of its key, the new task comes last. -/
theorem filter_insertTask (sorted : tasks.Pairwise fun first second => first.1 ≤ second.1) (key : Int) (node : Nat)
    (wanted : Int) :
    (insertTask key node tasks).filter (fun task => task.1 = wanted) =
      tasks.filter (fun task => task.1 = wanted) ++ if key = wanted then [(key, node)] else [] := by
  induction tasks with
  | nil => simp [insertTask, List.filter_cons]
  | cons head rest ih =>
    obtain ⟨least, later⟩ := List.pairwise_cons.mp sorted
    simp only [insertTask]
    split_ifs with before same same
    · -- everything behind has a greater key
      have none : (head :: rest).filter (fun task => task.1 = wanted) = [] := by
        rw [List.filter_eq_nil_iff]
        rintro task (_ | ⟨_, member⟩)
        · simpa using (same ▸ before).ne'
        · simpa using ((same ▸ before).trans_le (least task member)).ne'
      rw [List.filter_cons_of_pos (by simpa using same), none, List.nil_append]
    · rw [List.filter_cons_of_neg (by simpa using same), List.append_nil]
    · rw [List.filter_cons, List.filter_cons, ih later, if_pos same]
      split_ifs <;> rfl
    · rw [List.filter_cons, List.filter_cons, ih later, if_neg same]
      split_ifs <;> rfl

theorem Ordered.insert {scheduled : List Nat} (ordered : Ordered tasks scheduled) (key : Int) (node : Nat) :
    Ordered (insertTask key node tasks) (scheduled ++ [node]) := by
  refine ⟨pairwise_insertTask ordered.keys key node, fun wanted => ?_⟩
  rw [filter_insertTask ordered.keys, List.map_append]
  refine (ordered.fifo wanted).append ?_
  split_ifs
  · exact .refl _
  · exact List.nil_sublist _

/-- The tasks behind one that is not due are not due either. -/
theorem dueAt_eq_nil {task : Int × Nat} {rest : List (Int × Nat)}
    (sorted : (task :: rest).Pairwise fun first second => first.1 ≤ second.1) (late : ¬ now > task.1) :
    dueAt now (task :: rest) = [] := by
  have least := (List.pairwise_cons.mp sorted).1
  rw [dueAt, List.map_eq_nil_iff, List.filter_eq_nil_iff]
  rintro other (_ | ⟨_, member⟩)
  · simpa using not_lt.mp late
  · simpa using (not_lt.mp late).trans (least other member)

theorem dueAt_cons_of_due {key : Int} {node : Nat} (rest : List (Int × Nat)) (due : now > key) :
    dueAt now ((key, node) :: rest) = node :: dueAt now rest := by
  rw [dueAt, List.filter_cons_of_pos (by simpa using due)]
  rfl

theorem mem_dueAt {node : Nat} : node ∈ dueAt now tasks ↔ ∃ key < now, (key, node) ∈ tasks := by
  simp only [dueAt, List.mem_map, List.mem_filter, decide_eq_true_eq, Prod.exists, exists_eq_right]
  exact ⟨fun ⟨key, member, due⟩ => ⟨key, due, member⟩, fun ⟨key, due, member⟩ => ⟨key, member, due⟩⟩

namespace TaskLog

variable {Thread : Type} [DecidableEq Thread] {l : TaskLog Thread} {label : Thread × TaskOp} {r r' : TaskRunner Thread}

theorem step_cases {l' : TaskLog Thread} (stepped : l.step label = .ok l') :
    ∃ runner, l.runner.step label = .ok runner ∧ l' =
      ⟨runner, l.scheduled ++ inserts l.runner label, l.started ++ starts l.runner runner label⟩ := by
  obtain ⟨runner, moved, last⟩ := bind_eq_ok stepped
  exact ⟨runner, moved, (Except.ok.inj last).symm⟩

theorem step_of_ok {runner : TaskRunner Thread} (moved : l.runner.step label = .ok runner) :
    l.step label = .ok ⟨runner, l.scheduled ++ inserts l.runner label, l.started ++ starts l.runner runner label⟩ := by
  simp only [step, moved]
  rfl

theorem runner_reachable (reached : system.Reachable {} l) : TaskRunner.system.Reachable {} l.runner := by
  apply reached.invariant (P := fun l => TaskRunner.system.Reachable {} l.runner)
  · exact .refl _
  · intro before label after reached _ stepped
    obtain ⟨runner, moved, rfl⟩ := step_cases stepped
    exact reached.move trivial moved

/-- The topmost call of a thread that takes a step. -/
theorem advance_top {t : Thread} (stepped : r.step (t, .advance) = .ok r') : ∃ call rest, r.calls t = call :: rest := by
  cases top : r.calls t with
  | nil =>
    simp only [TaskRunner.step, TaskRunner.advance, top] at stepped
    cases stepped
  | cons call rest => exact ⟨call, rest, rfl⟩

theorem eraseTask_sublist (node : Nat) (tasks : List (Int × Nat)) : (eraseTask node tasks).Sublist tasks :=
  List.filter_sublist

/-- A step inserts a storage into `tasks_` and logs it, or it erases at most. -/
theorem step_tasks (stepped : r.step label = .ok r') :
    (r'.tasks.Sublist r.tasks ∧ inserts r label = []) ∨
      ∃ storage, inserts r label = [storage] ∧
        r'.tasks = insertTask (r.storages storage).key storage r.tasks := by
  obtain ⟨t, op⟩ := label
  cases op with
  | advance =>
    obtain ⟨call, rest, top⟩ := advance_top stepped
    simp only [TaskRunner.step, TaskRunner.advance, top] at stepped
    cases call with
    | scheduleInsert x =>
      cases stepped
      exact .inr ⟨x, by simp [inserts, top], rfl⟩
    | cancelErase x =>
      left
      simp only [TaskRunner.advanceCancel] at stepped
      split at stepped <;> cases stepped
      · exact ⟨eraseTask_sublist .., by simp [inserts, top]⟩
      · exact ⟨.refl _, by simp [inserts, top]⟩
    | collectErase now x left triggers =>
      left
      cases stepped
      exact ⟨eraseTask_sublist .., by simp [inserts, top]⟩
    | callTry triggers =>
      left
      cases triggers <;> simp only [TaskRunner.advanceCall] at stepped
      · cases stepped
        exact ⟨.refl _, by simp [inserts, top]⟩
      · split_ifs at stepped <;> cases stepped <;> exact ⟨.refl _, by simp [inserts, top]⟩
    | collect now waiting triggers =>
      left
      cases waiting <;> simp only [TaskRunner.advanceCollect] at stepped
      · cases stepped
        exact ⟨.refl _, by simp [inserts, top]⟩
      · split_ifs at stepped <;> cases stepped <;> exact ⟨.refl _, by simp [inserts, top]⟩
    | _ =>
      left
      simp only [TaskRunner.advanceSchedule, TaskRunner.advanceCancel, TaskRunner.advanceCollect,
        TaskRunner.advanceCall, TaskRunner.noteCancelled_eq] at stepped
      repeat' split at stepped
      all_goals cases stepped <;> exact ⟨.refl _, by simp [inserts, top]⟩
  | _ =>
    left
    simp only [TaskRunner.step] at stepped
    repeat' split at stepped
    all_goals cases stepped <;> exact ⟨.refl _, rfl⟩

/-- A step runs a task and logs it, or it runs none. -/
theorem step_starts (stepped : r.step label = .ok r') :
    (r'.history.runs = r.history.runs ∧ starts r r' label = []) ∨
      ∃ storage, starts r r' label = [storage] ∧
        r'.history.runs = Function.update r.history.runs storage (r.history.runs storage + 1) := by
  obtain ⟨t, op⟩ := label
  cases op with
  | advance =>
    obtain ⟨call, rest, top⟩ := advance_top stepped
    simp only [TaskRunner.step, TaskRunner.advance, top] at stepped
    cases call with
    | callMutex x triggers =>
      simp only [TaskRunner.advanceCall] at stepped
      split at stepped
      · cases stepped
        exact .inr ⟨x, by simp [starts, top, TaskRunner.setStack], rfl⟩
      · split_ifs at stepped <;> cases stepped
        · exact .inr ⟨x, by simp [starts, top, TaskRunner.setStack], rfl⟩
        · exact .inl ⟨rfl, by simp [starts, top, TaskRunner.setStack]⟩
    | callTry triggers =>
      left
      cases triggers <;> simp only [TaskRunner.advanceCall] at stepped
      · cases stepped
        exact ⟨rfl, by simp [starts, top]⟩
      · split_ifs at stepped <;> cases stepped <;> exact ⟨rfl, by simp [starts, top]⟩
    | collect now waiting triggers =>
      left
      cases waiting <;> simp only [TaskRunner.advanceCollect] at stepped
      · cases stepped
        exact ⟨rfl, by simp [starts, top]⟩
      · split_ifs at stepped <;> cases stepped <;> exact ⟨rfl, by simp [starts, top]⟩
    | _ =>
      left
      simp only [TaskRunner.advanceSchedule, TaskRunner.advanceCancel, TaskRunner.advanceCollect,
        TaskRunner.advanceCall, TaskRunner.noteCancelled_eq] at stepped
      repeat' split at stepped
      all_goals cases stepped <;> exact ⟨rfl, by simp [starts, top]⟩
  | _ =>
    left
    simp only [TaskRunner.step] at stepped
    repeat' split at stepped
    all_goals cases stepped <;> exact ⟨rfl, rfl⟩

theorem reachable_ordered (reached : system.Reachable {} l) : Ordered l.runner.tasks l.scheduled := by
  apply reached.invariant (P := fun l => Ordered l.runner.tasks l.scheduled)
  · exact ⟨.nil, fun _ => .slnil⟩
  · intro before label after ordered _ stepped
    obtain ⟨runner, moved, rfl⟩ := step_cases stepped
    rcases step_tasks moved with ⟨fewer, nothing⟩ | ⟨storage, inserted, tasks⟩
    · simpa only [nothing, List.append_nil] using ordered.sublist fewer
    · simpa only [inserted, tasks] using ordered.insert _ storage

/-- The log of the starts has the tasks as often as they were run. -/
theorem reachable_started (reached : system.Reachable {} l) (storage : Nat) :
    l.started.count storage = l.runner.history.runs storage := by
  apply reached.invariant (P := fun l => l.started.count storage = l.runner.history.runs storage)
  · rfl
  · intro before label after counted _ stepped
    obtain ⟨runner, moved, rfl⟩ := step_cases stepped
    rcases step_starts moved with ⟨runs, nothing⟩ | ⟨other, started, runs⟩
    · simpa only [nothing, List.append_nil, runs] using counted
    · dsimp only
      rw [started, runs, List.count_append, counted, List.count_singleton]
      by_cases same : storage = other
      · simp [same]
      · simp [same, Ne.symm same]

end TaskLog

end PosixQuic
