import PosixQuic.Machine.Outcome
import PosixQuic.Soundness.TaskRefinement

/-! # Cancellation and single execution of scheduled tasks

Read off the ledgers: whoever takes `invalid` erases the node, only the runner's claim leads to a run,
and a canceller that came too late waits for `callLock` and keeps it. Inside `RunOnce` a canceller does not
wait, so what it cancels there is stopped only if no batch holds it.
-/

namespace PosixQuic.TaskRunner

open Machine

variable {Thread : Type} [DecidableEq Thread] [Fintype Thread] {r : TaskRunner Thread} {storage : Nat}

/-- The task's `Run` is in progress on some thread. -/
def Running (r : TaskRunner Thread) (storage : Nat) : Prop :=
  ∃ t triggers, TaskCall.running storage triggers ∈ r.calls t

omit [DecidableEq Thread] in
theorem Sound.not_running_of_cancelled (sound : r.Sound) (cancelled : r.history.cancelled storage = true) :
    ¬ r.Running storage := by
  rintro ⟨t, triggers, member⟩
  have finishing : 1 ≤ (r.ledger storage).finishing := by
    have held := weight_le_tokens (fun call => (call.share storage).finishing) member
    simp only [TaskCall.share, ↓reduceIte] at held
    exact held
  have idle := (sound.balanced storage).idle_of_cancelled cancelled
  omega

/-- One step never starts a cancelled task. -/
theorem Sound.step_runs {r' : TaskRunner Thread} {label : Thread × TaskOp} (sound : r.Sound)
    (stepped : r.step label = .ok r') (cancelled : r.history.cancelled storage = true) :
    r'.history.cancelled storage = true ∧ r'.history.runs storage = r.history.runs storage := by
  rcases step_accounted sound.disciplined sound.balanced stepped storage with kept | moved
  · have sheets : r'.sheet storage = r.sheet storage := congrArg TaskLedger.toTaskSheet kept
    exact ⟨(congrArg TaskSheet.cancelled sheets).trans cancelled, congrArg TaskSheet.runs sheets⟩
  · exact moved.runs_of_cancelled (sound.balanced storage) cancelled

/-- Once a `Cancel` outside of `RunOnce` has returned, in every later state of every interleaving the
task's `Run` is not in progress and has not been started again. -/
theorem cancelled_task_never_runs {r' : TaskRunner Thread} (reached : system.Reachable {} r)
    (cancelled : r.history.cancelled storage = true) (later : system.Reachable r r') :
    ¬ r'.Running storage ∧ r'.history.runs storage = r.history.runs storage := by
  have kept : r'.Sound ∧ r'.history.cancelled storage = true ∧
      r'.history.runs storage = r.history.runs storage := by
    refine later.invariant (P := fun state => state.Sound ∧ state.history.cancelled storage = true ∧
      state.history.runs storage = r.history.runs storage) ⟨.of_reachable reached, cancelled, rfl⟩ ?_
    rintro before label after ⟨sound, still, same⟩ _ stepped
    obtain ⟨still', same'⟩ := sound.step_runs stepped still
    exact ⟨sound.step stepped, still', same'.trans same⟩
  exact ⟨kept.1.not_running_of_cancelled kept.2.1, kept.2.2⟩

/-- Thread 0 schedules a task whose session mutex it holds; thread 1 collects the task and takes
`callLock`, but has to give it up because of the mutex; thread 0 cancels the task in that gap. -/
def lateCancel : List (Fin 2 × TaskOp) :=
  [(0, .lockSession 7), (0, .beginSchedule 10 7), (0, .advance), (0, .advance), (0, .advance), (0, .advance),
    (1, .beginRunOnce 11), (1, .advance), (1, .advance), (1, .advance), (1, .advance), (1, .advance),
    (0, .beginCancel 0), (0, .advance), (1, .advance), (1, .advance), (0, .advance)]

/-- The runner skips the cancelled task and returns. -/
def lateCancelRest : List (Fin 2 × TaskOp) := [(1, .advance), (1, .advance)]

theorem lateCancel_never_runs :
    ∃ r r' : TaskRunner (Fin 2), system.replay? {} lateCancel = some r ∧
      system.replay? r lateCancelRest = some r' ∧ r.history.cancelled 0 = true ∧ r'.calls 1 = [] ∧
      ¬ r'.Running 0 ∧ r'.history.runs 0 = r.history.runs 0 := by
  have cancelled : (system.replay? ({} : TaskRunner (Fin 2)) lateCancel).map
      (fun r => r.history.cancelled 0) = some true := by decide
  have rest : (system.replay? ({} : TaskRunner (Fin 2)) lateCancel).bind
      (fun r => (system.replay? r lateCancelRest).map fun r' => r'.calls 1) = some [] := by decide
  obtain ⟨r, executed, cancelled⟩ := Option.map_eq_some_iff.mp cancelled
  rw [executed, Option.bind_some] at rest
  obtain ⟨r', executed', returned⟩ := Option.map_eq_some_iff.mp rest
  exact ⟨r, r', executed, executed', cancelled, returned,
    cancelled_task_never_runs (System.reachable_of_replay? executed) cancelled
      (System.reachable_of_replay? executed')⟩

/-- In every interleaving, each storage's node is erased at most once and through a valid iterator, its
task is run at most once, and while its `invalid` flag is free its node is in `tasks_`, unless its own
`Schedule` has not inserted it yet. -/
theorem task_erased_and_run_once (reached : system.Reachable {} r) (storage : Nat) :
    r.history.erased storage ≤ 1 ∧ r.history.staleErase = false ∧ r.history.runs storage ≤ 1 ∧
      (storage < r.count → (r.storages storage).invalid = false →
        storage ∈ r.tasks.map Prod.snd ∨
          ∃ t, .scheduleLock storage ∈ r.calls t ∨ .scheduleInsert storage ∈ r.calls t) := by
  have sound : r.Sound := .of_reachable reached
  obtain ⟨scheduling, node, claim, run, -, -, -, -, -, -⟩ := sound.balanced storage
  have claimedOnce := Bool.toNat_le (r.ledger storage).invalid
  refine ⟨?_, sound.intact, ?_, ?_⟩
  · change (r.ledger storage).erased ≤ 1
    omega
  · change (r.ledger storage).runs ≤ 1
    omega
  · intro allocated free
    have allocated' : (r.ledger storage).allocated = true := Nat.blt_eq.mpr allocated
    have unclaimed : (r.ledger storage).invalid = false := free
    rw [allocated', Bool.toNat_true] at scheduling
    rw [unclaimed, Bool.toNat_false] at claim
    -- the storage is inserted, or its right to be inserted is in some call's hands
    cases inserted : (r.ledger storage).inserted with
    | true =>
      left
      rw [inserted, Bool.toNat_true] at node
      have present : 0 < (r.ledger storage).nodes := by omega
      exact List.count_pos_iff.mp present
    | false =>
      right
      rw [inserted, Bool.toNat_false] at scheduling
      have pending : 0 < (r.ledger storage).inserting := by omega
      obtain ⟨t, call, member, mine⟩ := exists_of_tokens_pos pending
      cases call with
      | scheduleLock x =>
        have same : x = storage := by
          by_contra different
          simp [TaskCall.share, different] at mine
        exact ⟨t, .inl (same ▸ member)⟩
      | scheduleInsert x =>
        have same : x = storage := by
          by_contra different
          simp [TaskCall.share, different] at mine
        exact ⟨t, .inr (same ▸ member)⟩
      | _ => simp [TaskCall.share] at mine

theorem lateCancel_erased_once :
    ∃ r : TaskRunner (Fin 2), system.replay? {} lateCancel = some r ∧ r.history.erased 0 = 1 ∧
      r.history.staleErase = false := by
  have erased : (system.replay? ({} : TaskRunner (Fin 2)) lateCancel).map
      (fun r => r.history.erased 0) = some 1 := by decide
  obtain ⟨r, executed, erased⟩ := Option.map_eq_some_iff.mp erased
  exact ⟨r, executed, erased, (task_erased_and_run_once (System.reachable_of_replay? executed) 0).2.1⟩

end PosixQuic.TaskRunner

namespace PosixQuic

/-- The storages that the call, a `RunOnce`, has collected and not started. -/
def TaskCall.batch : TaskCall → List Nat
  | .collect _ _ triggers | .collectErase _ _ _ triggers | .callTry triggers => triggers
  | .callMutex storage triggers | .callRetry storage triggers => storage :: triggers
  | .running _ triggers | .callUnlockMutex _ triggers | .callUnlock _ triggers => triggers
  | _ => []

namespace TaskRunner

open Machine

variable {Thread : Type} {storage : Nat} {r r' : TaskRunner Thread} {t : Thread}

/-- Some `RunOnce` in progress has the task in its batch and has not started it. -/
def Collected (r : TaskRunner Thread) (storage : Nat) : Prop :=
  ∃ t, ∃ call ∈ r.calls t, storage ∈ call.batch

/-- The rights to start a task are those of the batches it is in. -/
theorem mem_batch_of_share {call : TaskCall}
    (mine : 0 < (call.share storage).waiting ∨ 0 < (call.share storage).holding) : storage ∈ call.batch := by
  cases call with
  | callMutex x triggers | callRetry x triggers =>
    rcases mine with waiting | holding
    · exact List.mem_cons_of_mem _ (List.count_pos_iff.mp waiting)
    · have same : x = storage := by
        by_contra different
        simp [TaskCall.share, different] at holding
      exact same ▸ List.mem_cons_self
  | collect now rest triggers | collectErase now x rest triggers | callTry triggers | running x triggers
    | callUnlockMutex x triggers | callUnlock x triggers =>
    rcases mine with waiting | holding
    · exact List.count_pos_iff.mp waiting
    · exact absurd holding (Nat.lt_irrefl 0)
  | _ => simp [TaskCall.share] at mine

theorem idle_of_not_collected [Fintype Thread] (uncollected : ¬ r.Collected storage) :
    (r.ledger storage).waiting = 0 ∧ (r.ledger storage).holding = 0 := by
  constructor
  · by_contra some
    obtain ⟨t, call, member, mine⟩ := exists_of_tokens_pos (Nat.pos_of_ne_zero some)
    exact uncollected ⟨t, call, member, mem_batch_of_share (.inl mine)⟩
  · by_contra some
    obtain ⟨t, call, member, mine⟩ := exists_of_tokens_pos (Nat.pos_of_ne_zero some)
    exact uncollected ⟨t, call, member, mem_batch_of_share (.inr mine)⟩

variable [DecidableEq Thread]

/-- A thread's topmost call gives way to calls without a batch: nothing is collected. -/
theorem not_collected_setStack {call : TaskCall} {rest : List TaskCall} (top : r.calls t = call :: rest)
    (uncollected : ¬ r.Collected storage) (next : List TaskCall) (batchless : ∀ call ∈ next, call.batch = [])
    (calls : r'.calls = Function.update r.calls t (next ++ rest)) : ¬ r'.Collected storage := by
  rintro ⟨owner, held, member, collected⟩
  rw [calls] at member
  by_cases same : owner = t
  · subst same
    rw [Function.update_self] at member
    rcases List.mem_append.mp member with new | old
    · rw [batchless held new] at collected
      exact absurd collected List.not_mem_nil
    · exact uncollected ⟨owner, held, top ▸ List.mem_cons_of_mem _ old, collected⟩
  · rw [Function.update_of_ne same] at member
    exact uncollected ⟨owner, held, member, collected⟩

/-- After the first step of `Cancel` the task's `invalid` flag is taken, and `Cancel` collects nothing. -/
theorem cancelTry_discards {rest : List TaskCall} (calling : r.calls t = .cancelTry storage :: rest)
    (stepped : r.step (t, .advance) = .ok r') (uncollected : ¬ r.Collected storage) :
    (r'.storages storage).invalid = true ∧ ¬ r'.Collected storage ∧ r'.history.runs = r.history.runs := by
  have advanced : r.advanceCancel t rest (.cancelTry storage) = .ok r' := by
    rw [← stepped]
    simp only [step, advance, calling]
  simp only [advanceCancel, noteCancelled_eq] at advanced
  split at advanced
  · rename_i taken
    split at advanced
    · obtain rfl := Except.ok.inj advanced
      exact ⟨taken, not_collected_setStack calling uncollected [] (by simp) rfl, rfl⟩
    · obtain rfl := Except.ok.inj advanced
      exact ⟨taken, not_collected_setStack calling uncollected [_] (by simp [TaskCall.batch]) rfl, rfl⟩
  · obtain rfl := Except.ok.inj advanced
    refine ⟨?_, not_collected_setStack calling uncollected [_] (by simp [TaskCall.batch]) rfl, rfl⟩
    simp only [setStack, modHistory, modStorage, Function.update_self]

variable [Fintype Thread]

/-- One step never starts a task that has been taken and that no batch holds. -/
theorem Sound.step_discarded {label : Thread × TaskOp} (sound : r.Sound) (stepped : r.step label = .ok r')
    (taken : (r.ledger storage).invalid = true)
    (idle : (r.ledger storage).waiting = 0 ∧ (r.ledger storage).holding = 0) :
    (r'.ledger storage).invalid = true ∧
      ((r'.ledger storage).waiting = 0 ∧ (r'.ledger storage).holding = 0) ∧
      r'.history.runs storage = r.history.runs storage := by
  rcases step_accounted sound.disciplined sound.balanced stepped storage with kept | moved
  · have sheets : r'.sheet storage = r.sheet storage := congrArg TaskLedger.toTaskSheet kept
    rw [kept]
    exact ⟨taken, idle, congrArg TaskSheet.runs sheets⟩
  · exact moved.runs_of_discarded taken idle

/-- A task's `Run`, called by `RunOnce`, cancels a task that has not started and that no batch holds: the
cancelled task is not run in any later state of any interleaving. -/
theorem cancel_in_run_prevents_run {r'' : TaskRunner Thread} (reached : system.Reachable {} r) {running : Nat}
    {triggers : List Nat} {outer : List TaskCall}
    (calling : r.calls t = .cancelTry storage :: .running running triggers :: outer)
    (unstarted : r.history.runs storage = 0) (uncollected : ¬ r.Collected storage)
    (stepped : r.step (t, .advance) = .ok r') (later : system.Reachable r' r'') : r''.history.runs storage = 0 := by
  have sound : r.Sound := .of_reachable reached
  obtain ⟨taken, uncollected', runs⟩ := cancelTry_discards calling stepped uncollected
  have start : r'.history.runs storage = 0 := by rw [runs, unstarted]
  refine (later.invariant (P := fun state => state.Sound ∧ (state.ledger storage).invalid = true ∧
    ((state.ledger storage).waiting = 0 ∧ (state.ledger storage).holding = 0) ∧
    state.history.runs storage = 0) ⟨sound.step stepped, taken, idle_of_not_collected uncollected', start⟩
    ?_).2.2.2
  rintro before label after ⟨sound, taken, idle, none⟩ _ stepped
  obtain ⟨taken', idle', same⟩ := sound.step_discarded stepped taken idle
  exact ⟨sound.step stepped, taken', idle', same.trans none⟩

/-- Thread 0 schedules two tasks with the given keys and calls `RunOnce`; the first task's `Run` calls `Cancel`
of the second. -/
def cancelsOther (key key' now : Int) : List (Fin 1 × TaskOp) :=
  ([(0, .beginSchedule key 7), (0, .advance), (0, .advance), (0, .advance), (0, .advance),
    (0, .beginSchedule key' 7), (0, .advance), (0, .advance), (0, .advance), (0, .advance),
    (0, .beginRunOnce now)] : List (Fin 1 × TaskOp)) ++ List.replicate (if now > key' then 8 else 6) (0, .advance) ++
  [(0, .beginCancel 1)]

/-- `Cancel` returns, `RunOnce` comes to its end, and the next one finds the second task due. -/
def runsLater : List (Fin 1 × TaskOp) :=
  List.replicate 7 (0, .advance) ++ (0, .beginRunOnce 21) :: List.replicate 3 (0, .advance)

/-- The second task is not due yet when it is cancelled: it is not run when it is. -/
theorem cancelsOther_prevents_later_run :
    ∃ r r' r'' : TaskRunner (Fin 1), system.Reachable {} r ∧ r.calls 0 = [.cancelTry 1, .running 0 []] ∧
      r.step (0, .advance) = .ok r' ∧ system.replay? r' runsLater = some r'' ∧ r''.calls 0 = [] ∧
      r''.history.runs 1 = 0 := by
  have ends : ∃ r ∈ system.replay? ({} : TaskRunner (Fin 1)) (cancelsOther 10 20 11),
      r.calls 0 = [.cancelTry 1, .running 0 []] ∧ r.history.runs 1 = 0 ∧
        ∃ r' ∈ (r.step (0, .advance)).toOption, ∃ r'' ∈ system.replay? r' runsLater, r''.calls 0 = [] := by
    decide +kernel
  obtain ⟨r, ran, calling, unstarted, r', stepped, r'', later, returned⟩ := ends
  have reached := System.reachable_of_replay? ran
  have stepped : r.step (0, .advance) = .ok r' := eq_ok_of_toOption stepped
  have uncollected : ¬ r.Collected 1 := by
    rintro ⟨t, call, member, collected⟩
    rw [Subsingleton.elim t 0, calling] at member
    rcases List.mem_pair.mp member with rfl | rfl <;> exact absurd collected List.not_mem_nil
  exact ⟨r, r', r'', reached, calling, stepped, later, returned,
    cancel_in_run_prevents_run reached calling unstarted uncollected stepped (System.reachable_of_replay? later)⟩

/-- Both tasks are due in one batch: the second is run after the first has cancelled it. -/
theorem cancelsOther_runs_same_batch :
    ∃ r r' r'' : TaskRunner (Fin 1), system.Reachable {} r ∧ r.calls 0 = [.cancelTry 1, .running 0 [1]] ∧
      r.history.runs 1 = 0 ∧ r.step (0, .advance) = .ok r' ∧ r'.calls 0 = [.running 0 [1]] ∧
      system.Reachable r' r'' ∧ r''.calls 0 = [.running 1 []] ∧ r''.history.runs 1 = 1 := by
  have ends : ∃ r ∈ system.replay? ({} : TaskRunner (Fin 1)) (cancelsOther 10 10 11),
      r.calls 0 = [.cancelTry 1, .running 0 [1]] ∧ r.history.runs 1 = 0 ∧
        ∃ r' ∈ (r.step (0, .advance)).toOption, r'.calls 0 = [.running 0 [1]] ∧
          ∃ r'' ∈ system.replay? r' (List.replicate 5 (0, .advance)),
            r''.calls 0 = [.running 1 []] ∧ r''.history.runs 1 = 1 := by
    decide +kernel
  obtain ⟨r, ran, calling, unstarted, r', stepped, returned, r'', later, starts, runs⟩ := ends
  exact ⟨r, r', r'', System.reachable_of_replay? ran, calling, unstarted, eq_ok_of_toOption stepped,
    returned, System.reachable_of_replay? later, starts, runs⟩

end TaskRunner

end PosixQuic
