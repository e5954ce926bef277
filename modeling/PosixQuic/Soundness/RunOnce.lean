import PosixQuic.Soundness.TaskCancel
import PosixQuic.Soundness.TaskIdle

/-! # What one `RunOnce` runs

`RunOnce` collects the tasks that are due before it runs the first of them. Whatever the running tasks schedule
or cancel, what it has started and what it has still to start together are the tasks that were due when it
began, in the order of `tasks_`.
-/

namespace PosixQuic

open Machine TaskCall

/-- The second loop of `RunOnce`. -/
def TaskCall.isCalling : TaskCall → Bool
  | .callTry _ | .callMutex _ _ | .callRetry _ _ | .running _ _ | .callUnlockMutex _ _ | .callUnlock _ _ => true
  | _ => false

/-- The task is about to be started. -/
def TaskCall.isCallMutex : TaskCall → Bool
  | .callMutex _ _ => true
  | _ => false

/-- `Schedule`, and `Cancel` as far as a thread inside of `RunOnce` gets. -/
def TaskCall.isNested : TaskCall → Bool
  | .scheduleLock _ | .scheduleInsert _ | .scheduleSetItr _ | .scheduleUnlock _ | .cancelTry _ | .cancelLock _
  | .cancelErase _ | .cancelUnlock _ => true
  | _ => false

namespace TaskLog

variable {Thread : Type}

/-- The stack of a thread inside of one `RunOnce` at the time `now`, or after it. -/
inductive Inside (now : Int) : List TaskCall → Prop
  | ended : Inside now []
  | collectLock : Inside now [.collectLock now]
  | collect (rest : List (Int × Nat)) (triggers : List Nat) : Inside now [.collect now rest triggers]
  | collectErase (node : Nat) (rest : List (Int × Nat)) (triggers : List Nat) (collected : node ∈ triggers) :
    Inside now [.collectErase now node rest triggers]
  | calling (call : TaskCall) (loops : call.isCalling = true) : Inside now [call]
  | nested (call : TaskCall) (storage : Nat) (triggers : List Nat) (inner : call.isNested = true) :
    Inside now [call, .running storage triggers]

/-- The due tasks that the first loop has not come to. -/
def uncollected (now : Int) (tasks : List (Int × Nat)) : TaskCall → List Nat
  | .collectLock _ => dueAt now tasks
  | .collect _ rest _ | .collectErase _ _ rest _ => dueAt now rest
  | _ => []

/-- What a `RunOnce`, the lowest call of its thread, has still to start. -/
def remaining (now : Int) (tasks : List (Int × Nat)) (stack : List TaskCall) : List Nat :=
  match stack.getLast? with
  | none => []
  | some call => call.batch ++ uncollected now tasks call

variable [DecidableEq Thread]

/-- Nothing happens but the `RunOnce` of one thread, what its running tasks call, and threads that take and leave
session mutexes. -/
def Alone (t : Thread) (l : TaskLog Thread) : Thread × TaskOp → Prop
  | (_, .lockSession _) | (_, .unlockSession _) => True
  | (_, .beginRunOnce _) => False
  | (u, .beginSchedule _ _) | (u, .beginCancel _) | (u, .advance) => u = t ∧ l.runner.calls t ≠ []

instance (t : Thread) (l : TaskLog Thread) : (label : Thread × TaskOp) → Decidable (l.Alone t label)
  | (_, .lockSession _) | (_, .unlockSession _) => .isTrue trivial
  | (_, .beginRunOnce _) => .isFalse id
  | (u, .beginSchedule _ _) | (u, .beginCancel _) | (u, .advance) =>
    inferInstanceAs (Decidable (u = t ∧ l.runner.calls t ≠ []))

/-- The `RunOnce` that began in the state `l₀`, in progress or ended in `l`. -/
structure Solo (t : Thread) (now : Int) (l₀ l : TaskLog Thread) : Prop where
  others : ∀ other, other ≠ t → l.runner.calls other = []
  inside : Inside now (l.runner.calls t)
  flag : l.runner.calls t ≠ [] → l.runner.inRunner t = true
  order : ∃ done, l.started = l₀.started ++ done ∧
    done ++ remaining now l.runner.tasks (l.runner.calls t) = dueAt now l₀.runner.tasks
  calm : ∀ storage ∈ dueAt now l₀.runner.tasks, l.runner.history.cancelHolds storage = false
  stays : ∀ task ∈ l₀.runner.tasks, now ≤ task.1 →
    task ∈ l.runner.tasks ∨ l.runner.history.claimedByCancel task.2 = true

variable {t : Thread} {now : Int} {l₀ l l' : TaskLog Thread} {storage : Nat} {call : TaskCall} {triggers : List Nat}
  {runner : TaskRunner Thread}

/-- A step of the thread that starts the tasks `new`. -/
theorem Solo.moved (solo : Solo t now l₀ l) (stack : List TaskCall) (new : List Nat)
    (calls : l'.runner.calls = Function.update l.runner.calls t stack) (inside : Inside now stack)
    (flag : stack ≠ [] → l'.runner.inRunner t = true) (started : l'.started = l.started ++ new)
    (order : new ++ remaining now l'.runner.tasks stack = remaining now l.runner.tasks (l.runner.calls t))
    (holds : l'.runner.history.cancelHolds = l.runner.history.cancelHolds)
    (stays : ∀ task ∈ l₀.runner.tasks, now ≤ task.1 →
      task ∈ l.runner.tasks ∨ l.runner.history.claimedByCancel task.2 = true →
      task ∈ l'.runner.tasks ∨ l'.runner.history.claimedByCancel task.2 = true) : Solo t now l₀ l' := by
  have own : l'.runner.calls t = stack := by rw [calls, Function.update_self]
  constructor
  · intro other different
    rw [calls, Function.update_of_ne different]
    exact solo.others other different
  · rw [own]
    exact inside
  · rw [own]
    exact flag
  · obtain ⟨done, before, due⟩ := solo.order
    refine ⟨done ++ new, by rw [started, before, List.append_assoc], ?_⟩
    rw [own, List.append_assoc, order]
    exact due
  · rw [holds]
    exact solo.calm
  · exact fun task member late => stays task member late (solo.stays task member late)

omit [DecidableEq Thread] in
/-- What is still to be started was due when the `RunOnce` began. -/
theorem Solo.due (solo : Solo t now l₀ l) (waits : storage ∈ remaining now l.runner.tasks (l.runner.calls t)) :
    storage ∈ dueAt now l₀.runner.tasks := by
  obtain ⟨done, -, due⟩ := solo.order
  rw [← due]
  exact List.mem_append_right done waits

omit [DecidableEq Thread] in
theorem starts_eq_nil {r r' : TaskRunner Thread} {rest : List TaskCall} (top : r.calls t = call :: rest)
    (other : call.isCallMutex = false) : starts r r' (t, .advance) = [] := by
  simp only [starts, top]
  split
  · next same _ =>
    rw [(List.cons.inj same).1] at other
    cases other
  · rfl

/-! ### The calls of the running tasks -/

/-- A call that a running task makes moves on or returns. -/
theorem Solo.nested (solo : Solo t now l₀ l) (top : l.runner.calls t = [call, .running storage triggers])
    (next : Option TaskCall) (inner : next.all TaskCall.isNested = true) (scheduled : List Nat)
    (calls : runner.calls = Function.update l.runner.calls t (next.toList ++ [.running storage triggers]))
    (flag : runner.inRunner = l.runner.inRunner) (holds : runner.history.cancelHolds = l.runner.history.cancelHolds)
    (stays : ∀ task ∈ l₀.runner.tasks, now ≤ task.1 →
      task ∈ l.runner.tasks ∨ l.runner.history.claimedByCancel task.2 = true →
      task ∈ runner.tasks ∨ runner.history.claimedByCancel task.2 = true) :
    Solo t now l₀ ⟨runner, scheduled, l.started⟩ := by
  refine solo.moved _ [] calls ?_ ?_ (List.append_nil _).symm ?_ holds stays
  · cases next with
    | none => exact .calling _ rfl
    | some call => exact .nested call storage triggers inner
  · intro _
    exact (congrFun flag t).trans (solo.flag (by rw [top]; exact List.cons_ne_nil _ _))
  · rw [top]
    cases next <;> rfl

variable [Fintype Thread]

theorem Solo.advance_nested (solo : Solo t now l₀ l) (sound : l.runner.Sound)
    (top : l.runner.calls t = [call, .running storage triggers]) (inner : call.isNested = true)
    (stepped : l.step (t, .advance) = .ok l') : Solo t now l₀ l' := by
  obtain ⟨runner, moved, rfl⟩ := step_cases stepped
  have quiet : starts l.runner runner (t, .advance) = [] := by
    apply starts_eq_nil top
    cases call <;> first | rfl | cases inner
  have flag := solo.flag (by rw [top]; exact List.cons_ne_nil _ _)
  have ready := sound.disciplined.ready t call (by simp [top])
  rw [quiet, List.append_nil]
  simp only [TaskRunner.step, TaskRunner.advance, top] at moved
  cases call with
  | scheduleLock x =>
    simp only [TaskRunner.advanceSchedule] at moved
    split_ifs at moved
    cases moved
    exact solo.nested top (some (.scheduleInsert x)) rfl _ rfl rfl rfl fun _ _ _ kept => kept
  | scheduleInsert x =>
    cases moved
    refine solo.nested top (some (.scheduleSetItr x)) rfl _ rfl rfl rfl fun task _ _ kept => ?_
    exact kept.imp_left fun member => mem_insertTask.mpr (.inr member)
  | scheduleSetItr x =>
    cases moved
    exact solo.nested top (some (.scheduleUnlock x)) rfl _ rfl rfl rfl fun _ _ _ kept => kept
  | scheduleUnlock x =>
    cases moved
    exact solo.nested top none rfl _ rfl rfl rfl fun _ _ _ kept => kept
  | cancelTry x =>
    simp only [TaskRunner.advanceCancel, TaskRunner.noteCancelled_eq, flag, if_true] at moved
    split_ifs at moved with taken
    · cases moved
      exact solo.nested top none rfl _ rfl rfl rfl fun _ _ _ kept => kept
    · cases moved
      refine solo.nested top (some (.cancelLock x)) rfl _ rfl rfl rfl fun task _ _ kept => ?_
      refine kept.imp_right fun claimed => ?_
      by_cases same : task.2 = x
      · simp [TaskRunner.setStack, TaskRunner.modHistory, TaskRunner.modStorage, same]
      · simpa [TaskRunner.setStack, TaskRunner.modHistory, TaskRunner.modStorage, same] using claimed
  | cancelLock x =>
    simp only [TaskRunner.advanceCancel] at moved
    split_ifs at moved
    cases moved
    exact solo.nested top (some (.cancelErase x)) rfl _ rfl rfl rfl fun _ _ _ kept => kept
  | cancelErase x =>
    simp only [TaskRunner.advanceCancel, (sound.disciplined.handed x ready.1).2] at moved
    cases moved
    refine solo.nested top (some (.cancelUnlock x)) rfl _ rfl rfl rfl fun task _ _ kept => ?_
    rcases kept with member | claimed
    · by_cases same : task.2 = x
      · exact .inr (same ▸ ready.2)
      · exact .inl (mem_eraseTask.mpr ⟨member, same⟩)
    · exact .inr claimed
  | cancelUnlock x =>
    simp only [TaskRunner.advanceCancel, TaskRunner.noteCancelled_eq] at moved
    cases moved
    exact solo.nested top none rfl _ rfl rfl rfl fun _ _ _ kept => kept
  | _ => cases inner

/-! ### The two loops -/

omit [DecidableEq Thread] [Fintype Thread] in
/-- With distinct nodes, a task that is not due is not one of the due ones. -/
theorem ne_of_late {tasks : List (Int × Nat)} (distinct : (tasks.map Prod.snd).Nodup) {task : Int × Nat}
    (member : task ∈ tasks) (late : now ≤ task.1) {node : Nat} (due : node ∈ dueAt now tasks) : task.2 ≠ node := by
  rintro rfl
  obtain ⟨key, early, other⟩ := mem_dueAt.mp due
  have same : task = (key, task.2) := List.inj_on_of_nodup_map distinct member other rfl
  have keys : task.1 = key := congrArg Prod.fst same
  omega

omit [DecidableEq Thread] [Fintype Thread] in
/-- The thread is the only one inside of a call, which holds nothing of the storage. -/
theorem Solo.nobody (solo : Solo t now l₀ l) (top : l.runner.calls t = [call]) (weight : TaskCall → Nat)
    (nothing : weight call = 0) : ∀ other, ∀ held ∈ l.runner.calls other, weight held = 0 := by
  intro other held member
  by_cases mine : other = t
  · subst mine
    rw [top, List.mem_singleton] at member
    exact member ▸ nothing
  · rw [solo.others other mine] at member
    cases member

omit [Fintype Thread] in
/-- The `RunOnce` goes over to another call, and nothing else changes. -/
theorem Solo.continues (solo : Solo t now l₀ l) (call : TaskCall) (scheduled : List Nat)
    (calls : runner.calls = Function.update l.runner.calls t [call]) (inside : Inside now [call])
    (flag : runner.inRunner t = true) (tasks : runner.tasks = l.runner.tasks)
    (history : runner.history = l.runner.history)
    (order : remaining now l.runner.tasks [call] = remaining now l.runner.tasks (l.runner.calls t)) :
    Solo t now l₀ ⟨runner, scheduled, l.started⟩ := by
  refine solo.moved [call] [] calls inside (fun _ => flag) (List.append_nil _).symm ?_ ?_ ?_
  · rw [tasks]
    exact order
  · rw [history]
  · rw [tasks, history]
    exact fun _ _ _ kept => kept

theorem Solo.advance_collect (solo : Solo t now l₀ l) (sound : l.runner.Sound) (tidy : l.runner.Tidy)
    (ordered : Ordered l.runner.tasks l.scheduled) {rest : List (Int × Nat)}
    (top : l.runner.calls t = [.collect now rest triggers]) (stepped : l.step (t, .advance) = .ok l') :
    Solo t now l₀ l' := by
  obtain ⟨runner, moved, rfl⟩ := step_cases stepped
  have flag := solo.flag (by rw [top]; exact List.cons_ne_nil _ _)
  have walks : rest <:+ l.runner.tasks := sound.disciplined.ready t (.collect now rest triggers) (by simp [top])
  rw [starts_eq_nil top rfl, List.append_nil]
  simp only [TaskRunner.step, TaskRunner.advance, top] at moved
  cases rest with
  | nil =>
    cases moved
    exact solo.continues (.callTry triggers) _ rfl (.calling _ rfl) flag rfl rfl (by rw [top]; rfl)
  | cons task rest =>
    obtain ⟨key, storage⟩ := task
    simp only [TaskRunner.advanceCollect] at moved
    split_ifs at moved with due taken
    · -- nobody is about to erase the task, so its flag is free
      have member : (key, storage) ∈ l.runner.tasks := walks.subset (List.mem_cons_self ..)
      have untaken := TaskRunner.untaken_of_mem sound tidy member
        (solo.nobody top (fun call => (call.share storage).erasing) rfl)
      exact absurd (untaken.1.symm.trans taken) Bool.false_ne_true
    · cases moved
      refine solo.continues (.collectErase now storage rest (triggers ++ [storage])) _ rfl
        (.collectErase _ _ _ (by simp)) flag rfl rfl ?_
      rw [top]
      change triggers ++ [storage] ++ dueAt now rest = triggers ++ dueAt now ((key, storage) :: rest)
      rw [dueAt_cons_of_due rest due, List.append_assoc]
      rfl
    · cases moved
      refine solo.continues (.callTry triggers) _ rfl (.calling _ rfl) flag rfl rfl ?_
      rw [top]
      change triggers ++ [] = triggers ++ dueAt now ((key, storage) :: rest)
      rw [dueAt_eq_nil (ordered.keys.sublist walks.sublist) due]

theorem Solo.advance_collectErase (solo : Solo t now l₀ l) (sound₀ : l₀.runner.Sound) {node : Nat}
    {rest : List (Int × Nat)} (collected : node ∈ triggers)
    (top : l.runner.calls t = [.collectErase now node rest triggers]) (stepped : l.step (t, .advance) = .ok l') :
    Solo t now l₀ l' := by
  obtain ⟨runner, moved, rfl⟩ := step_cases stepped
  have flag := solo.flag (by rw [top]; exact List.cons_ne_nil _ _)
  have due : node ∈ dueAt now l₀.runner.tasks :=
    solo.due (by rw [top]; exact List.mem_append_left _ collected)
  rw [starts_eq_nil top rfl, List.append_nil]
  simp only [TaskRunner.step, TaskRunner.advance, top] at moved
  cases moved
  refine solo.moved [.collect now rest triggers] [] rfl (.collect _ _) (fun _ => flag) (List.append_nil _).symm
    (by rw [top]; rfl) rfl fun task member late kept => ?_
  refine kept.imp_left fun present => mem_eraseTask.mpr ⟨present, ?_⟩
  exact ne_of_late sound₀.nodup_tasks member late due

omit [Fintype Thread] in
theorem Solo.advance_collectLock (solo : Solo t now l₀ l) (top : l.runner.calls t = [.collectLock now])
    (stepped : l.step (t, .advance) = .ok l') : Solo t now l₀ l' := by
  obtain ⟨runner, moved, rfl⟩ := step_cases stepped
  have flag := solo.flag (by rw [top]; exact List.cons_ne_nil _ _)
  rw [starts_eq_nil top rfl, List.append_nil]
  simp only [TaskRunner.step, TaskRunner.advance, TaskRunner.advanceCollect, top] at moved
  split_ifs at moved
  cases moved
  exact solo.continues (.collect now l.runner.tasks []) _ rfl (.collect _ _) flag rfl rfl (by rw [top]; rfl)

omit [DecidableEq Thread] in
/-- `callLock` of a task that is to be started is free: nobody else has come for it. -/
theorem Solo.unlocked (solo : Solo t now l₀ l) (sound : l.runner.Sound)
    (top : l.runner.calls t = [.callTry (storage :: triggers)]) : (l.runner.storages storage).callLock = false := by
  have occupied := (sound.balanced storage).occupied
  have calm : l.runner.history.cancelHolds storage = false :=
    solo.calm storage (solo.due (by rw [top]; simp [remaining, TaskCall.batch]))
  have holding : (l.runner.ledger storage).holding = 0 := by
    by_contra some
    obtain ⟨other, call, member, mine⟩ := exists_of_tokens_pos (Nat.pos_of_ne_zero some)
    exact absurd (solo.nobody top (fun call => (call.share storage).holding) rfl other call member) mine.ne'
  have finishing : (l.runner.ledger storage).finishing = 0 := by
    by_contra some
    obtain ⟨other, call, member, mine⟩ := exists_of_tokens_pos (Nat.pos_of_ne_zero some)
    exact absurd (solo.nobody top (fun call => (call.share storage).finishing) rfl other call member) mine.ne'
  have held : (l.runner.ledger storage).cancelHolds.toNat = 0 := Bool.toNat_eq_zero.mpr calm
  exact Bool.toNat_eq_zero.mp (show (l.runner.ledger storage).callLock.toNat = 0 by omega)

theorem Solo.advance_calling (solo : Solo t now l₀ l) (sound : l.runner.Sound) (top : l.runner.calls t = [call])
    (loops : call.isCalling = true) (stepped : l.step (t, .advance) = .ok l') : Solo t now l₀ l' := by
  obtain ⟨runner, moved, rfl⟩ := step_cases stepped
  have flag := solo.flag (by rw [top]; exact List.cons_ne_nil _ _)
  simp only [TaskRunner.step, TaskRunner.advance, top] at moved
  cases call with
  | callTry triggers =>
    rw [starts_eq_nil top rfl, List.append_nil]
    cases triggers with
    | nil =>
      cases moved
      exact solo.moved [] [] rfl .ended (fun ended => (ended rfl).elim) (List.append_nil _).symm (by rw [top]; rfl) rfl
        fun _ _ _ kept => kept
    | cons storage triggers =>
      simp only [TaskRunner.advanceCall, solo.unlocked sound top, Bool.false_eq_true, if_false] at moved
      cases moved
      exact solo.continues (.callMutex storage triggers) _ rfl (.calling _ rfl) flag rfl rfl (by rw [top]; rfl)
  | callMutex storage triggers =>
    have begins : ∀ depth, Solo t now l₀ ⟨TaskRunner.setStack
        { l.runner with
          sessions := Function.update l.runner.sessions (l.runner.storages storage).mtx (some (t, depth))
          history :=
            { l.runner.history with
              runs := Function.update l.runner.history.runs storage (l.runner.history.runs storage + 1) } } t
        [.running storage triggers], l.scheduled ++ inserts l.runner (t, .advance), l.started ++ [storage]⟩ :=
      fun depth => solo.moved [.running storage triggers] [storage] rfl (.calling _ rfl) (fun _ => flag) rfl
        (by rw [top]; rfl) rfl fun _ _ _ kept => kept
    simp only [TaskRunner.advanceCall] at moved
    split at moved
    · cases moved
      simpa [starts, top, TaskRunner.setStack] using begins 1
    · split_ifs at moved <;> cases moved
      · simpa [starts, top, TaskRunner.setStack] using begins _
      · have quiet : ∀ stack, starts l.runner (l.runner.setStack t (.callRetry storage triggers :: stack))
            (t, .advance) = [] := fun stack => by simp [starts, top, TaskRunner.setStack]
        rw [quiet, List.append_nil]
        exact solo.continues (.callRetry storage triggers) _ rfl (.calling _ rfl) flag rfl rfl (by rw [top]; rfl)
  | callRetry storage triggers =>
    rw [starts_eq_nil top rfl, List.append_nil]
    cases moved
    exact solo.continues (.callTry (storage :: triggers)) _ rfl (.calling _ rfl) flag rfl rfl (by rw [top]; rfl)
  | running storage triggers =>
    rw [starts_eq_nil top rfl, List.append_nil]
    cases moved
    exact solo.continues (.callUnlockMutex storage triggers) _ rfl (.calling _ rfl) flag rfl rfl (by rw [top]; rfl)
  | callUnlockMutex storage triggers =>
    rw [starts_eq_nil top rfl, List.append_nil]
    cases moved
    exact solo.continues (.callUnlock storage triggers) _ rfl (.calling _ rfl) flag rfl rfl (by rw [top]; rfl)
  | callUnlock storage triggers =>
    rw [starts_eq_nil top rfl, List.append_nil]
    cases moved
    exact solo.continues (.callTry triggers) _ rfl (.calling _ rfl) flag rfl rfl (by rw [top]; rfl)
  | _ => cases loops

/-! ### Whole runs -/

theorem Solo.advance (solo : Solo t now l₀ l) (sound₀ : l₀.runner.Sound) (reached : system.Reachable {} l)
    (stepped : l.step (t, .advance) = .ok l') : Solo t now l₀ l' := by
  have sound : l.runner.Sound := .of_reachable (runner_reachable reached)
  have tidy : l.runner.Tidy := .of_reachable (runner_reachable reached)
  have inside := solo.inside
  generalize top : l.runner.calls t = stack at inside
  cases inside with
  | ended =>
    obtain ⟨call, rest, some⟩ := advance_top (step_cases stepped).choose_spec.1
    cases top.symm.trans some
  | collectLock => exact solo.advance_collectLock top stepped
  | collect rest triggers => exact solo.advance_collect sound tidy (reachable_ordered reached) top stepped
  | collectErase node rest triggers collected => exact solo.advance_collectErase sound₀ collected top stepped
  | calling call loops => exact solo.advance_calling sound top loops stepped
  | nested call storage triggers inner => exact solo.advance_nested sound top inner stepped

omit [DecidableEq Thread] [Fintype Thread] in
/-- Inside of `RunOnce`, application code is a running task. -/
theorem Solo.application (solo : Solo t now l₀ l) (inside : l.runner.calls t ≠ [])
    (application : inApplication (l.runner.calls t) = true) :
    ∃ storage triggers, l.runner.calls t = [.running storage triggers] := by
  have shape := solo.inside
  generalize l.runner.calls t = stack at inside application shape
  cases shape with
  | ended => exact (inside rfl).elim
  | calling call loops =>
    cases call with
    | running storage triggers => exact ⟨storage, triggers, rfl⟩
    | _ => cases application
  | nested call storage triggers inner =>
    cases call with
    | running storage triggers => cases inner
    | _ => cases application
  | _ => cases application

omit [Fintype Thread] in
/-- A running task begins a call. -/
theorem Solo.begin_nested (solo : Solo t now l₀ l) (inside : l.runner.calls t ≠ [])
    (application : inApplication (l.runner.calls t) = true) (call : TaskCall) (inner : call.isNested = true)
    (scheduled : List Nat) (calls : runner.calls = Function.update l.runner.calls t (call :: l.runner.calls t))
    (flag : runner.inRunner = l.runner.inRunner) (tasks : runner.tasks = l.runner.tasks)
    (history : runner.history = l.runner.history) : Solo t now l₀ ⟨runner, scheduled, l.started⟩ := by
  obtain ⟨storage, triggers, top⟩ := solo.application inside application
  rw [top] at calls
  refine solo.moved _ [] calls (.nested call storage triggers inner) ?_ (List.append_nil _).symm ?_ ?_ ?_
  · exact fun _ => (congrFun flag t).trans (solo.flag inside)
  · rw [top]
    rfl
  · rw [history]
  · rw [tasks, history]
    exact fun _ _ _ kept => kept

omit [DecidableEq Thread] [Fintype Thread] in
/-- Session mutexes are none of the runner's. -/
theorem Solo.sessions (solo : Solo t now l₀ l) (sessions : Nat → Option (Thread × Nat)) (scheduled : List Nat) :
    Solo t now l₀ ⟨{ l.runner with sessions }, scheduled, l.started⟩ :=
  ⟨solo.others, solo.inside, solo.flag, solo.order, solo.calm, solo.stays⟩

theorem Solo.step (solo : Solo t now l₀ l) (sound₀ : l₀.runner.Sound) (reached : system.Reachable {} l)
    {label : Thread × TaskOp} (alone : l.Alone t label) (stepped : l.step label = .ok l') : Solo t now l₀ l' := by
  obtain ⟨u, op⟩ := label
  cases op with
  | advance =>
    obtain ⟨rfl, -⟩ := alone
    exact solo.advance sound₀ reached stepped
  | beginRunOnce _ => exact alone.elim
  | beginSchedule key mtx =>
    obtain ⟨rfl, inside⟩ := alone
    obtain ⟨runner, moved, rfl⟩ := step_cases stepped
    simp only [TaskRunner.step] at moved
    split_ifs at moved with application
    cases moved
    simp only [starts, List.append_nil]
    exact solo.begin_nested inside application (.scheduleLock _) rfl _ rfl rfl rfl rfl
  | beginCancel storage =>
    obtain ⟨rfl, inside⟩ := alone
    obtain ⟨runner, moved, rfl⟩ := step_cases stepped
    simp only [TaskRunner.step] at moved
    split_ifs at moved with application handle
    cases moved
    simp only [starts, List.append_nil]
    exact solo.begin_nested inside application (.cancelTry storage) rfl _ rfl rfl rfl rfl
  | lockSession mtx | unlockSession mtx =>
    obtain ⟨runner, moved, rfl⟩ := step_cases stepped
    simp only [TaskRunner.step] at moved
    simp only [starts, List.append_nil]
    repeat' split at moved
    all_goals cases moved
    all_goals exact solo.sessions _ _

omit [Fintype Thread] in
theorem begin_runOnce (idle : ∀ other, l₀.runner.calls other = []) (stepped : l₀.step (t, .beginRunOnce now) = .ok l) :
    l = ⟨(l₀.runner.setInRunner t true).setStack t [.collectLock now], l₀.scheduled, l₀.started⟩ := by
  obtain ⟨runner, moved, rfl⟩ := step_cases stepped
  simp only [TaskRunner.step, idle t, inApplication, if_true] at moved
  cases moved
  simp only [starts, inserts, List.append_nil]

theorem Solo.begin (reached : system.Reachable {} l₀) (idle : ∀ other, l₀.runner.calls other = [])
    (stepped : l₀.step (t, .beginRunOnce now) = .ok l) : Solo t now l₀ l := by
  obtain rfl := begin_runOnce idle stepped
  have sound : l₀.runner.Sound := .of_reachable (runner_reachable reached)
  have tidy : l₀.runner.Tidy := .of_reachable (runner_reachable reached)
  have own : ((l₀.runner.setInRunner t true).setStack t [.collectLock now]).calls t = [.collectLock now] :=
    Function.update_self ..
  constructor
  · intro other different
    exact (Function.update_of_ne different ..).trans (idle other)
  · rw [own]
    exact .collectLock
  · exact fun _ => Function.update_self ..
  · refine ⟨[], (List.append_nil _).symm, ?_⟩
    rw [own]
    rfl
  · intro storage due
    obtain ⟨key, -, member⟩ := mem_dueAt.mp due
    refine (TaskRunner.untaken_of_mem sound tidy member ?_).2.2
    intro other call calling
    rw [idle other] at calling
    cases calling
  · exact fun task member _ => .inl member

theorem solo_reachable {l₁ : TaskLog Thread} (reached : system.Reachable {} l₀)
    (idle : ∀ other, l₀.runner.calls other = []) (stepped : l₀.step (t, .beginRunOnce now) = .ok l₁)
    (run : (system.restrict (Alone t)).Reachable l₁ l) : system.Reachable {} l ∧ Solo t now l₀ l := by
  have sound₀ : l₀.runner.Sound := .of_reachable (runner_reachable reached)
  apply run.invariant (P := fun l => system.Reachable {} l ∧ Solo t now l₀ l)
  · exact ⟨reached.move trivial stepped, .begin reached idle stepped⟩
  · rintro before label after ⟨reached, solo⟩ ⟨-, alone⟩ stepped
    exact ⟨reached.move trivial stepped, solo.step sound₀ reached alone stepped⟩

end TaskLog

end PosixQuic
