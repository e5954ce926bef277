import PosixQuic.Soundness.RunOnce

/-! # `RunOnce` comes to its end

While no other thread keeps a session mutex, a thread inside of `RunOnce` is never stopped, and each of its
loops consumes what it was given. With the order of the starts this says what a whole `RunOnce` does.
-/

namespace PosixQuic

open Machine

namespace TaskRunner

variable {Thread : Type} [DecidableEq Thread] {t : Thread} {r r' : TaskRunner Thread}

/-- The thread's own steps bring its calls to their end. -/
def Finishes (t : Thread) (r : TaskRunner Thread) : Prop :=
  ∃ r', (system.restrict fun _ label => label = (t, .advance)).Reachable r r' ∧ r'.calls t = []

theorem Finishes.of_step (stepped : r.step (t, .advance) = .ok r') (finishes : r'.Finishes t) : r.Finishes t := by
  obtain ⟨last, run, ended⟩ := finishes
  have first : (system.restrict fun _ label => label = (t, .advance)).Reachable r r' :=
    (System.Reachable.refl r).move ⟨trivial, rfl⟩ stepped
  exact ⟨last, first.trans run, ended⟩

/-- No other thread holds a session mutex. -/
def Undisturbed (t : Thread) (r : TaskRunner Thread) : Prop :=
  ∀ mtx owner depth, r.sessions mtx = some (owner, depth) → owner = t

omit [DecidableEq Thread] in
theorem Undisturbed.update (undisturbed : r.Undisturbed t) (mtx : Nat) {session : Option (Thread × Nat)}
    (mine : ∀ owner depth, session = some (owner, depth) → owner = t) :
    ∀ other owner depth, Function.update r.sessions mtx session other = some (owner, depth) → owner = t := by
  intro other owner depth held
  by_cases same : other = mtx
  · rw [same, Function.update_self] at held
    exact mine owner depth held
  · rw [Function.update_of_ne same] at held
    exact undisturbed other owner depth held

/-! ## The second loop -/

section Calling

variable {triggers : List Nat}
  (again : ∀ r : TaskRunner Thread, r.calls t = [.callTry triggers] → r.Undisturbed t → r.Finishes t) {storage : Nat}

include again

theorem finishes_callUnlock (top : r.calls t = [.callUnlock storage triggers]) (undisturbed : r.Undisturbed t) :
    r.Finishes t := by
  have stepped : r.step (t, .advance) = r.advanceCall t [] (.callUnlock storage triggers) := by
    simp only [step, advance, top]
  exact .of_step stepped (again _ (Function.update_self ..) undisturbed)

theorem finishes_callUnlockMutex (top : r.calls t = [.callUnlockMutex storage triggers])
    (undisturbed : r.Undisturbed t) : r.Finishes t := by
  have stepped : r.step (t, .advance) = r.advanceCall t [] (.callUnlockMutex storage triggers) := by
    simp only [step, advance, top]
  refine .of_step stepped (finishes_callUnlock again (Function.update_self ..) ?_)
  refine undisturbed.update _ fun owner depth held => ?_
  split at held
  · next owner' depth' found =>
    cases held
    exact undisturbed _ _ _ found
  · cases held

theorem finishes_running (top : r.calls t = [.running storage triggers]) (undisturbed : r.Undisturbed t) :
    r.Finishes t := by
  have stepped : r.step (t, .advance) = r.advanceCall t [] (.running storage triggers) := by
    simp only [step, advance, top]
  exact .of_step stepped (finishes_callUnlockMutex again (Function.update_self ..) undisturbed)

theorem finishes_callMutex (top : r.calls t = [.callMutex storage triggers]) (undisturbed : r.Undisturbed t) :
    r.Finishes t := by
  have stepped : r.step (t, .advance) = r.advanceCall t [] (.callMutex storage triggers) := by
    simp only [step, advance, top]
  simp only [advanceCall] at stepped
  cases session : r.sessions (r.storages storage).mtx with
  | none =>
    rw [session] at stepped
    refine .of_step stepped (finishes_running again (Function.update_self ..) ?_)
    exact undisturbed.update _ fun _ _ held => (Prod.mk.inj (Option.some.inj held)).1.symm
  | some held =>
    obtain ⟨owner, depth⟩ := held
    obtain rfl := undisturbed _ _ _ session
    simp only [session, if_true] at stepped
    refine .of_step stepped (finishes_running again (Function.update_self ..) ?_)
    exact undisturbed.update _ fun _ _ held => (Prod.mk.inj (Option.some.inj held)).1.symm

end Calling

theorem finishes_callTry (triggers : List Nat) (top : r.calls t = [.callTry triggers])
    (undisturbed : r.Undisturbed t) : r.Finishes t := by
  induction triggers generalizing r with
  | nil =>
    have stepped : r.step (t, .advance) = r.advanceCall t [] (.callTry []) := by simp only [step, advance, top]
    exact .of_step stepped ⟨_, .refl _, Function.update_self ..⟩
  | cons storage triggers ih =>
    have stepped : r.step (t, .advance) = r.advanceCall t [] (.callTry (storage :: triggers)) := by
      simp only [step, advance, top]
    cases lock : (r.storages storage).callLock with
    | true =>
      simp only [advanceCall, lock, if_true] at stepped
      exact .of_step stepped (ih (Function.update_self ..) undisturbed)
    | false =>
      simp only [advanceCall, lock, Bool.false_eq_true, if_false] at stepped
      exact .of_step stepped (finishes_callMutex (fun _ => ih) (Function.update_self ..) undisturbed)

theorem finishes_calling {call : TaskCall} (top : r.calls t = [call]) (loops : call.isCalling = true)
    (undisturbed : r.Undisturbed t) : r.Finishes t := by
  have again : ∀ (triggers : List Nat) (r : TaskRunner Thread), r.calls t = [.callTry triggers] → r.Undisturbed t →
    r.Finishes t := fun triggers _ => finishes_callTry triggers
  cases call with
  | callTry triggers => exact again triggers r top undisturbed
  | callMutex storage triggers => exact finishes_callMutex (again triggers) top undisturbed
  | callRetry storage triggers =>
    have stepped : r.step (t, .advance) = r.advanceCall t [] (.callRetry storage triggers) := by
      simp only [step, advance, top]
    exact .of_step stepped (again (storage :: triggers) _ (Function.update_self ..) undisturbed)
  | running storage triggers => exact finishes_running (again triggers) top undisturbed
  | callUnlockMutex storage triggers => exact finishes_callUnlockMutex (again triggers) top undisturbed
  | callUnlock storage triggers => exact finishes_callUnlock (again triggers) top undisturbed
  | _ => cases loops

/-! ## The first loop -/

theorem finishes_collect {now : Int} (rest : List (Int × Nat)) {triggers : List Nat}
    (top : r.calls t = [.collect now rest triggers]) (undisturbed : r.Undisturbed t) : r.Finishes t := by
  induction rest generalizing r triggers with
  | nil =>
    have stepped : r.step (t, .advance) = r.advanceCollect t [] (.collect now [] triggers) := by
      simp only [step, advance, top]
    exact .of_step stepped (finishes_callTry triggers (Function.update_self ..) undisturbed)
  | cons task rest ih =>
    obtain ⟨key, storage⟩ := task
    have stepped : r.step (t, .advance) = r.advanceCollect t [] (.collect now ((key, storage) :: rest) triggers) := by
      simp only [step, advance, top]
    simp only [advanceCollect] at stepped
    split_ifs at stepped with due taken
    · exact .of_step stepped (ih (Function.update_self ..) undisturbed)
    · refine .of_step stepped ?_
      have erases : ∀ r : TaskRunner Thread, r.calls t = [.collectErase now storage rest (triggers ++ [storage])] →
          r.step (t, .advance) =
            r.advanceCollect t [] (.collectErase now storage rest (triggers ++ [storage])) := fun r top => by
        simp only [step, advance, top]
      exact .of_step (erases _ (Function.update_self ..)) (ih (Function.update_self ..) undisturbed)
    · exact .of_step stepped (finishes_callTry triggers (Function.update_self ..) undisturbed)

/-! ## Calls of a running task -/

section Nested

variable {storage x : Nat} {triggers : List Nat}

theorem finishes_scheduleUnlock (top : r.calls t = [.scheduleUnlock x, .running storage triggers])
    (undisturbed : r.Undisturbed t) : r.Finishes t := by
  have stepped : r.step (t, .advance) = r.advanceSchedule t [.running storage triggers] (.scheduleUnlock x) := by
    simp only [step, advance, top]
  exact .of_step stepped (finishes_calling (Function.update_self ..) rfl undisturbed)

theorem finishes_scheduleSetItr (top : r.calls t = [.scheduleSetItr x, .running storage triggers])
    (undisturbed : r.Undisturbed t) : r.Finishes t := by
  have stepped : r.step (t, .advance) = r.advanceSchedule t [.running storage triggers] (.scheduleSetItr x) := by
    simp only [step, advance, top]
  exact .of_step stepped (finishes_scheduleUnlock (Function.update_self ..) undisturbed)

theorem finishes_scheduleInsert (top : r.calls t = [.scheduleInsert x, .running storage triggers])
    (undisturbed : r.Undisturbed t) : r.Finishes t := by
  have stepped : r.step (t, .advance) = r.advanceSchedule t [.running storage triggers] (.scheduleInsert x) := by
    simp only [step, advance, top]
  exact .of_step stepped (finishes_scheduleSetItr (Function.update_self ..) undisturbed)

theorem finishes_cancelUnlock (top : r.calls t = [.cancelUnlock x, .running storage triggers])
    (undisturbed : r.Undisturbed t) : r.Finishes t := by
  have stepped : r.step (t, .advance) = r.advanceCancel t [.running storage triggers] (.cancelUnlock x) := by
    simp only [step, advance, top]
  simp only [advanceCancel, noteCancelled_eq] at stepped
  exact .of_step stepped (finishes_calling (Function.update_self ..) rfl undisturbed)

theorem finishes_cancelErase (top : r.calls t = [.cancelErase x, .running storage triggers])
    (undisturbed : r.Undisturbed t) : r.Finishes t := by
  have stepped : r.step (t, .advance) = r.advanceCancel t [.running storage triggers] (.cancelErase x) := by
    simp only [step, advance, top]
  simp only [advanceCancel] at stepped
  split at stepped <;> exact .of_step stepped (finishes_cancelUnlock (Function.update_self ..) undisturbed)

theorem finishes_cancelLock (top : r.calls t = [.cancelLock x, .running storage triggers]) (free : r.mtx = none)
    (undisturbed : r.Undisturbed t) : r.Finishes t := by
  have stepped : r.step (t, .advance) = r.advanceCancel t [.running storage triggers] (.cancelLock x) := by
    simp only [step, advance, top]
  simp only [advanceCancel, free, Option.isNone_none, if_true] at stepped
  exact .of_step stepped (finishes_cancelErase (Function.update_self ..) undisturbed)

theorem finishes_nested {call : TaskCall} (top : r.calls t = [call, .running storage triggers])
    (inner : call.isNested = true) (flag : r.inRunner t = true) (free : call.locked = false → r.mtx = none)
    (undisturbed : r.Undisturbed t) : r.Finishes t := by
  cases call with
  | scheduleLock x =>
    have stepped : r.step (t, .advance) = r.advanceSchedule t [.running storage triggers] (.scheduleLock x) := by
      simp only [step, advance, top]
    simp only [advanceSchedule, free rfl, Option.isNone_none, if_true] at stepped
    exact .of_step stepped (finishes_scheduleInsert (Function.update_self ..) undisturbed)
  | scheduleInsert x => exact finishes_scheduleInsert top undisturbed
  | scheduleSetItr x => exact finishes_scheduleSetItr top undisturbed
  | scheduleUnlock x => exact finishes_scheduleUnlock top undisturbed
  | cancelTry x =>
    have stepped : r.step (t, .advance) = r.advanceCancel t [.running storage triggers] (.cancelTry x) := by
      simp only [step, advance, top]
    simp only [advanceCancel, noteCancelled_eq, flag, if_true] at stepped
    split_ifs at stepped with taken
    · exact .of_step stepped (finishes_calling (Function.update_self ..) rfl undisturbed)
    · exact .of_step stepped (finishes_cancelLock (Function.update_self ..) (free rfl) undisturbed)
  | cancelLock x => exact finishes_cancelLock top (free rfl) undisturbed
  | cancelErase x => exact finishes_cancelErase top undisturbed
  | cancelUnlock x => exact finishes_cancelUnlock top undisturbed
  | _ => cases inner

end Nested

end TaskRunner

namespace TaskLog

variable {Thread : Type} [DecidableEq Thread] {t : Thread} {now : Int} {l₀ l : TaskLog Thread}

/-- A `RunOnce` that takes its own steps is alone. -/
theorem alone_of_advance {l' : TaskLog Thread}
    (run : (system.restrict fun _ label => label = (t, .advance)).Reachable l l') :
    (system.restrict (Alone t)).Reachable l l' := by
  apply run.invariant (P := fun l' => (system.restrict (Alone t)).Reachable l l')
  · exact .refl l
  · rintro before label after run ⟨-, rfl⟩ stepped
    obtain ⟨runner, moved, -⟩ := step_cases stepped
    obtain ⟨call, rest, top⟩ := advance_top moved
    have alone : Alone t before (t, .advance) := ⟨rfl, top ▸ List.cons_ne_nil call rest⟩
    exact run.move ⟨trivial, alone⟩ stepped

/-- The log follows the thread's own steps. -/
theorem follow {runner : TaskRunner Thread}
    (run : (TaskRunner.system.restrict fun _ label => label = (t, .advance)).Reachable l.runner runner) :
    ∃ l', (system.restrict fun _ label => label = (t, .advance)).Reachable l l' ∧ l'.runner = runner := by
  apply run.invariant
    (P := fun runner => ∃ l', (system.restrict fun _ label => label = (t, .advance)).Reachable l l' ∧ l'.runner = runner)
  · exact ⟨l, .refl l, rfl⟩
  · rintro before label after ⟨l', run, rfl⟩ ⟨-, own⟩ stepped
    exact ⟨_, run.move ⟨trivial, own⟩ (step_of_ok stepped), rfl⟩

/-- `mtx_` is free unless the topmost call of the only busy thread is inside of its section. -/
theorem Solo.mtx_free (solo : Solo t now l₀ l) (tidy : l.runner.Tidy)
    (unlocked : ∀ call ∈ l.runner.calls t, call.locked = false) : l.runner.mtx = none := by
  cases holder : l.runner.mtx with
  | none => rfl
  | some other =>
    obtain ⟨call, member, locked⟩ := tidy.holder other holder
    by_cases mine : other = t
    · subst mine
      exact absurd ((unlocked call member).symm.trans locked) Bool.false_ne_true
    · rw [solo.others other mine] at member
      cases member

theorem Solo.finishes (solo : Solo t now l₀ l) (tidy : l.runner.Tidy) (undisturbed : l.runner.Undisturbed t) :
    l.runner.Finishes t := by
  have inside := solo.inside
  have flag := solo.flag
  have free := solo.mtx_free tidy
  generalize top : l.runner.calls t = stack at inside flag free
  cases inside with
  | ended => exact ⟨l.runner, .refl _, top⟩
  | collectLock =>
    have stepped : l.runner.step (t, .advance) = l.runner.advanceCollect t [] (.collectLock now) := by
      simp only [TaskRunner.step, TaskRunner.advance, top]
    have unlocked : l.runner.mtx = none := free (by simp [TaskCall.locked])
    simp only [TaskRunner.advanceCollect, unlocked, Option.isNone_none, if_true] at stepped
    exact .of_step stepped (TaskRunner.finishes_collect _ (Function.update_self ..) undisturbed)
  | collect rest triggers => exact TaskRunner.finishes_collect rest top undisturbed
  | collectErase node rest triggers collected =>
    have stepped : l.runner.step (t, .advance) =
        l.runner.advanceCollect t [] (.collectErase now node rest triggers) := by
      simp only [TaskRunner.step, TaskRunner.advance, top]
    exact .of_step stepped (TaskRunner.finishes_collect rest (Function.update_self ..) undisturbed)
  | calling call loops => exact TaskRunner.finishes_calling top loops undisturbed
  | nested call storage triggers inner =>
    refine TaskRunner.finishes_nested top inner (flag (List.cons_ne_nil _ _)) (fun unlocked => free ?_) undisturbed
    rintro other (_ | ⟨_, member⟩)
    · exact unlocked
    · rw [List.mem_singleton.mp member]
      rfl

variable [Fintype Thread]

/-- At the end nothing is left to start, and no task that was due is left in `tasks_`. -/
theorem Solo.ended (solo : Solo t now l₀ l) (reached : system.Reachable {} l) (ended : l.runner.calls t = []) :
    l.started = l₀.started ++ dueAt now l₀.runner.tasks ∧
      ∀ task ∈ l.runner.tasks, task.2 ∉ dueAt now l₀.runner.tasks := by
  obtain ⟨done, started, due⟩ := solo.order
  rw [ended, remaining, List.getLast?_nil, List.append_nil] at due
  rw [due] at started
  refine ⟨started, fun task member wasDue => ?_⟩
  have sound : l.runner.Sound := .of_reachable (runner_reachable reached)
  have tidy : l.runner.Tidy := .of_reachable (runner_reachable reached)
  have untaken : (l.runner.ledger task.2).invalid = false := by
    refine (TaskRunner.untaken_of_mem sound tidy member fun other call calling => ?_).1
    by_cases mine : other = t
    · rw [mine, ended] at calling
      cases calling
    · rw [solo.others other mine] at calling
      cases calling
  -- whatever was run had been taken
  have ran : 0 < (l.runner.ledger task.2).runs := by
    change 0 < l.runner.history.runs task.2
    rw [← reachable_started reached task.2, List.count_pos_iff, started]
    exact List.mem_append_right _ wasDue
  have run := (sound.balanced task.2).run
  rw [untaken, Bool.toNat_false] at run
  omega

/-- A `RunOnce` that begins while no call is in progress starts the tasks that are due, sorted by their keys and
in scheduling order among equal keys, and no others. It leaves the tasks that are not due in `tasks_` unless a
running task cancels them, it removes those that are due, and it ends if no other thread keeps a session mutex. -/
theorem runOnce_runs_due {l₁ : TaskLog Thread} (reached : system.Reachable {} l₀)
    (idle : ∀ other, l₀.runner.calls other = []) (begun : l₀.step (t, .beginRunOnce now) = .ok l₁)
    (run : (system.restrict (Alone t)).Reachable l₁ l) :
    Ordered (l₀.runner.tasks.filter fun task => task.1 < now) l₀.scheduled ∧
    (∃ left, l.started ++ left = l₀.started ++ dueAt now l₀.runner.tasks) ∧
    (∀ task ∈ l₀.runner.tasks, now ≤ task.1 → l₀.runner.history.claimedByCancel task.2 = false ∧
      (task ∈ l.runner.tasks ∨ l.runner.history.claimedByCancel task.2 = true)) ∧
    (l.runner.calls t = [] → l.started = l₀.started ++ dueAt now l₀.runner.tasks ∧
      ∀ task ∈ l.runner.tasks, task.2 ∉ dueAt now l₀.runner.tasks) ∧
    (l.runner.Undisturbed t → ∃ l', (system.restrict fun _ label => label = (t, .advance)).Reachable l l' ∧
      l'.runner.calls t = [] ∧ l'.started = l₀.started ++ dueAt now l₀.runner.tasks) := by
  obtain ⟨reached', solo⟩ := solo_reachable reached idle begun run
  have sound₀ : l₀.runner.Sound := .of_reachable (runner_reachable reached)
  have tidy₀ : l₀.runner.Tidy := .of_reachable (runner_reachable reached)
  refine ⟨(reachable_ordered reached).sublist List.filter_sublist, ?_, ?_, solo.ended reached', ?_⟩
  · obtain ⟨done, started, due⟩ := solo.order
    exact ⟨_, by rw [started, List.append_assoc, due]⟩
  · intro task member late
    refine ⟨(TaskRunner.untaken_of_mem sound₀ tidy₀ member fun other call calling => ?_).2.1, solo.stays task member late⟩
    rw [idle other] at calling
    cases calling
  · intro undisturbed
    obtain ⟨runner, own, ended⟩ := solo.finishes (.of_reachable (runner_reachable reached')) undisturbed
    obtain ⟨l', steps, rfl⟩ := follow own
    obtain ⟨reached', solo⟩ := solo_reachable reached idle begun (run.trans (alone_of_advance steps))
    exact ⟨l', steps, ended, (solo.ended reached' ended).1⟩

/-- Four tasks, two of them with one key, and one that is not due. -/
def schedulesFour : List (Unit × TaskOp) :=
  [((), .beginSchedule 10 7), ((), .advance), ((), .advance), ((), .advance), ((), .advance),
    ((), .beginSchedule 5 7), ((), .advance), ((), .advance), ((), .advance), ((), .advance),
    ((), .beginSchedule 10 7), ((), .advance), ((), .advance), ((), .advance), ((), .advance),
    ((), .beginSchedule 30 7), ((), .advance), ((), .advance), ((), .advance), ((), .advance)]

/-- The first task that runs schedules another one without delay, and cancels the one that is not due. -/
def runsThree : List (Unit × TaskOp) :=
  (List.replicate 10 ((), .advance) : List (Unit × TaskOp)) ++ ((), .beginSchedule 0 7) ::
    (List.replicate 4 ((), .advance) : List (Unit × TaskOp)) ++ ((), .beginCancel 3) ::
      List.replicate 18 ((), .advance)

theorem runsThree_in_order :
    ∃ l₀ l₁ l : TaskLog Unit, system.replay? {} schedulesFour = some l₀ ∧
      l₀.step ((), .beginRunOnce 11) = .ok l₁ ∧ (system.restrict (Alone ())).replay? l₁ runsThree = some l ∧
      dueAt 11 l₀.runner.tasks = [1, 0, 2] ∧ l.runner.calls () = [] ∧ l.started = [1, 0, 2] ∧
      l.runner.tasks = [(0, 4)] := by
  have ends : ∃ l₀ ∈ system.replay? ({} : TaskLog Unit) schedulesFour, l₀.runner.calls () = [] ∧
      dueAt 11 l₀.runner.tasks = [1, 0, 2] ∧ l₀.started = [] ∧
      ∃ l₁ ∈ (l₀.step ((), .beginRunOnce 11)).toOption, ∃ l ∈ (system.restrict (Alone ())).replay? l₁ runsThree,
        l.runner.calls () = [] ∧ l.runner.tasks = [(0, 4)] := by
    decide +kernel
  obtain ⟨l₀, scheduled, idle, due, unstarted, l₁, begun, l, ran, ended, tasks⟩ := ends
  have begun : l₀.step ((), .beginRunOnce 11) = .ok l₁ := eq_ok_of_toOption begun
  have idle : ∀ other, l₀.runner.calls other = [] := fun other => Subsingleton.elim other () ▸ idle
  obtain ⟨-, -, -, runs, -⟩ := runOnce_runs_due (System.reachable_of_replay? scheduled) idle begun
    (System.reachable_of_replay? ran)
  have started := (runs ended).1
  rw [due, unstarted] at started
  exact ⟨l₀, l₁, l, scheduled, begun, ran, due, ended, started, tasks⟩

end TaskLog

end PosixQuic
