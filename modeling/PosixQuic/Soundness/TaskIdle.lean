import PosixQuic.Soundness.TaskOrder

/-! # Tasks that nobody has taken

A call that is about to erase a task has taken its `invalid` flag, and a canceller comes to `callLock` only
after somebody has. So the tasks in `tasks_` are free whenever no call is in progress, and so is `mtx_`.
-/

namespace PosixQuic

open Machine TaskCall

theorem TaskLedger.Step.invalid_of {l l' : TaskLedger} (step : l.Step l') (taken : l.invalid = true) :
    l'.invalid = true := by
  cases step with
  | cancelClaims | runnerClaims => rfl
  | _ => exact taken

/-- `Cancel` waits for `callLock`. -/
def TaskCall.isCancelWait : TaskCall → Bool
  | .cancelWait _ => true
  | _ => false

namespace TaskRunner

variable {Thread : Type} [DecidableEq Thread] {r r' : TaskRunner Thread} {t : Thread}

/-- `mtx_` is held by a call inside of its section, and a canceller that waits for `callLock` or keeps it came
after `invalid` had been taken. -/
structure Tidy (r : TaskRunner Thread) : Prop where
  holder : ∀ t, r.mtx = some t → ∃ call ∈ r.calls t, call.locked = true
  late : ∀ t storage, .cancelWait storage ∈ r.calls t → (r.storages storage).invalid = true
  keeper : ∀ storage, r.history.cancelHolds storage = true → (r.storages storage).invalid = true

/-- A step of one thread that takes or leaves `mtx_` along with its section, and waits only for a task that is
taken. -/
theorem Tidy.local (tidy : r.Tidy) {removed added : Option TaskCall} {rest : List TaskCall}
    (moved : Local r r' t removed added rest) (below : ∀ call ∈ rest, call.isRunning = true)
    (invalid : ∀ storage, (r.storages storage).invalid = true → (r'.storages storage).invalid = true)
    (mtx : r'.mtx = none ∨ added.any TaskCall.locked = true ∧ r'.mtx = some t ∨
      r'.mtx = r.mtx ∧ removed.any TaskCall.locked = added.any TaskCall.locked)
    (late : ∀ storage, added = some (.cancelWait storage) → (r'.storages storage).invalid = true)
    (keeper : ∀ storage, r'.history.cancelHolds storage = true →
      r.history.cancelHolds storage = true ∨ removed = some (.cancelWait storage)) : r'.Tidy := by
  have own : r'.calls t = added.toList ++ rest := by rw [moved.after, Function.update_self]
  have others : ∀ other, other ≠ t → r'.calls other = r.calls other := by
    intro other different
    rw [moved.after, Function.update_of_ne different]
  have enters : added.any TaskCall.locked = true → ∃ call ∈ r'.calls t, call.locked = true := by
    intro locked
    cases added with
    | none => cases locked
    | some call => exact ⟨call, by simp [own], locked⟩
  constructor
  · intro holder held
    rcases mtx with free | ⟨locked, taken⟩ | ⟨kept, same⟩
    · cases free.symm.trans held
    · cases taken.symm.trans held
      exact enters locked
    · obtain ⟨call, member, locked⟩ := tidy.holder holder (kept.symm.trans held)
      by_cases mine : holder = t
      · subst mine
        rw [moved.before, List.mem_append, Option.mem_toList] at member
        rcases member with rfl | deeper
        · exact enters (same.symm.trans locked)
        · rw [not_locked_of_isRunning (below call deeper)] at locked
          contradiction
      · exact ⟨call, others holder mine ▸ member, locked⟩
  · intro waiter storage member
    by_cases mine : waiter = t
    · subst mine
      rw [own, List.mem_append, Option.mem_toList] at member
      rcases member with new | deeper
      · exact late storage new
      · cases below _ deeper
    · exact invalid storage (tidy.late waiter storage (others waiter mine ▸ member))
  · intro storage held
    rcases keeper storage held with before | rfl
    · exact invalid storage (tidy.keeper storage before)
    · exact invalid storage (tidy.late t storage (by simp [moved.before]))

theorem Tidy.begin (tidy : r.Tidy) (call : TaskCall) (application : inApplication (r.calls t) = true)
    (suspended : ∀ call ∈ (r.calls t).tail, call.isRunning = true)
    (after : r'.calls = Function.update r.calls t (call :: r.calls t)) (unlocked : call.locked = false)
    (invalid : ∀ storage, (r.storages storage).invalid = true → (r'.storages storage).invalid = true)
    (mtx : r'.mtx = r.mtx) (early : call.isCancelWait = false)
    (holds : r'.history.cancelHolds = r.history.cancelHolds) : r'.Tidy := by
  refine tidy.local (⟨rfl, after⟩ : Local r r' t none (some call) (r.calls t)) ?_ invalid
    (.inr (.inr ⟨mtx, unlocked.symm⟩)) ?_ (fun storage held => .inl (holds ▸ held))
  rotate_left
  · rintro storage ⟨⟩
    cases early
  intro below member
  cases top : r.calls t with
  | nil => simp [top] at member
  | cons head rest =>
    rw [top] at member application suspended
    rcases List.mem_cons.mp member with rfl | deeper
    · cases below <;> first | rfl | cases application
    · exact suspended below deeper

variable [Fintype Thread]

theorem Sound.invalid_of (sound : r.Sound) {label : Thread × TaskOp} (stepped : r.step label = .ok r') (storage : Nat)
    (taken : (r.storages storage).invalid = true) : (r'.storages storage).invalid = true := by
  rcases step_accounted sound.disciplined sound.balanced stepped storage with kept | moved
  · exact (congrArg (fun ledger => ledger.invalid) kept).trans taken
  · exact moved.invalid_of taken

section Advance

variable {r r' : TaskRunner Thread} {t : Thread} {call : TaskCall} {rest : List TaskCall} (tidy : r.Tidy)
  (top : r.calls t = call :: rest) (below : ∀ call ∈ rest, call.isRunning = true)
  (invalid : ∀ storage, (r.storages storage).invalid = true → (r'.storages storage).invalid = true)

omit [Fintype Thread]

include tidy top below invalid

/-- The topmost call goes on, and does not begin to wait for a task. -/
theorem Tidy.goes (added : Option TaskCall) (after : r'.calls = Function.update r.calls t (added.toList ++ rest))
    (mtx : r'.mtx = none ∨ added.any TaskCall.locked = true ∧ r'.mtx = some t ∨
      r'.mtx = r.mtx ∧ call.locked = added.any TaskCall.locked)
    (early : added.any TaskCall.isCancelWait = false) (holds : r'.history.cancelHolds = r.history.cancelHolds) :
    r'.Tidy := by
  apply tidy.local (⟨top, after⟩ : Local r r' t (some call) added rest) below invalid mtx
  · rintro storage rfl
    cases early
  · exact fun storage held => .inl (holds ▸ held)

theorem Tidy.advanceSchedule (stepped : r.advanceSchedule t rest call = .ok r') : r'.Tidy := by
  have go := tidy.goes top below invalid
  cases call with
  | scheduleLock x =>
    simp only [TaskRunner.advanceSchedule] at stepped
    split_ifs at stepped
    cases stepped
    exact go (some (.scheduleInsert x)) rfl (.inr (.inl ⟨rfl, rfl⟩)) rfl rfl
  | scheduleInsert x =>
    cases stepped
    exact go (some (.scheduleSetItr x)) rfl (.inr (.inr ⟨rfl, rfl⟩)) rfl rfl
  | scheduleSetItr x =>
    cases stepped
    exact go (some (.scheduleUnlock x)) rfl (.inr (.inr ⟨rfl, rfl⟩)) rfl rfl
  | scheduleUnlock x =>
    cases stepped
    exact go none rfl (.inl rfl) rfl rfl
  | _ => cases stepped

theorem Tidy.advanceCancel (stepped : r.advanceCancel t rest call = .ok r') : r'.Tidy := by
  have go := tidy.goes top below invalid
  cases call with
  | cancelTry x =>
    simp only [TaskRunner.advanceCancel, noteCancelled_eq] at stepped
    split_ifs at stepped with taken inside
    · cases stepped
      exact go none rfl (.inr (.inr ⟨rfl, rfl⟩)) rfl rfl
    · cases stepped
      apply tidy.local (⟨top, rfl⟩ : Local r _ t (some (.cancelTry x)) (some (.cancelWait x)) rest) below invalid
        (.inr (.inr ⟨rfl, rfl⟩))
      · rintro _ ⟨⟩
        exact taken
      · exact fun _ => .inl
    · cases stepped
      exact go (some (.cancelLock x)) rfl (.inr (.inr ⟨rfl, rfl⟩)) rfl rfl
  | cancelLock x =>
    simp only [TaskRunner.advanceCancel] at stepped
    split_ifs at stepped
    cases stepped
    exact go (some (.cancelErase x)) rfl (.inr (.inl ⟨rfl, rfl⟩)) rfl rfl
  | cancelErase x =>
    simp only [TaskRunner.advanceCancel] at stepped
    split at stepped <;> cases stepped <;>
      exact go (some (.cancelUnlock x)) rfl (.inr (.inr ⟨rfl, rfl⟩)) rfl rfl
  | cancelUnlock x =>
    simp only [TaskRunner.advanceCancel, noteCancelled_eq] at stepped
    cases stepped
    exact go none rfl (.inl rfl) rfl rfl
  | cancelWait x =>
    simp only [TaskRunner.advanceCancel, noteCancelled_eq] at stepped
    split_ifs at stepped
    cases stepped
    apply tidy.local (⟨top, rfl⟩ : Local r _ t (some (.cancelWait x)) none rest) below invalid
      (.inr (.inr ⟨rfl, rfl⟩))
    · rintro _ ⟨⟩
    · intro storage held
      by_cases same : storage = x
      · exact .inr (same ▸ rfl)
      · simp only [modHistory, modStorage, setStack, Function.update_of_ne same] at held
        exact .inl held
  | _ => cases stepped

theorem Tidy.advanceCollect (stepped : r.advanceCollect t rest call = .ok r') : r'.Tidy := by
  have go := tidy.goes top below invalid
  cases call with
  | collectLock now =>
    simp only [TaskRunner.advanceCollect] at stepped
    split_ifs at stepped
    cases stepped
    exact go (some (.collect now r.tasks [])) rfl (.inr (.inl ⟨rfl, rfl⟩)) rfl rfl
  | collect now waiting triggers =>
    cases waiting with
    | nil =>
      cases stepped
      exact go (some (.callTry triggers)) rfl (.inl rfl) rfl rfl
    | cons task waiting =>
      simp only [TaskRunner.advanceCollect] at stepped
      split_ifs at stepped <;> cases stepped
      · exact go (some (.collect now waiting triggers)) rfl (.inr (.inr ⟨rfl, rfl⟩)) rfl rfl
      · exact go (some (.collectErase now task.2 waiting (triggers ++ [task.2]))) rfl
          (.inr (.inr ⟨rfl, rfl⟩)) rfl rfl
      · exact go (some (.callTry triggers)) rfl (.inl rfl) rfl rfl
  | collectErase now x waiting triggers =>
    cases stepped
    exact go (some (.collect now waiting triggers)) rfl (.inr (.inr ⟨rfl, rfl⟩)) rfl rfl
  | _ => cases stepped

/-- The loop that runs the tasks keeps away from `mtx_`. -/
theorem Tidy.advanceCall (stepped : r.advanceCall t rest call = .ok r') : r'.Tidy := by
  have go : ∀ added : Option TaskCall, r'.calls = Function.update r.calls t (added.toList ++ rest) →
      r'.mtx = r.mtx ∧ call.locked = added.any TaskCall.locked → added.any TaskCall.isCancelWait = false →
      r'.history.cancelHolds = r.history.cancelHolds → r'.Tidy :=
    fun added after mtx => tidy.goes top below invalid added after (.inr (.inr mtx))
  cases call with
  | callTry triggers =>
    cases triggers with
    | nil =>
      cases stepped
      exact go none rfl ⟨rfl, rfl⟩ rfl rfl
    | cons x triggers =>
      simp only [TaskRunner.advanceCall] at stepped
      split_ifs at stepped <;> cases stepped
      · exact go (some (.callTry triggers)) rfl ⟨rfl, rfl⟩ rfl rfl
      · exact go (some (.callMutex x triggers)) rfl ⟨rfl, rfl⟩ rfl rfl
  | callMutex x triggers =>
    simp only [TaskRunner.advanceCall] at stepped
    split at stepped
    · cases stepped
      exact go (some (.running x triggers)) rfl ⟨rfl, rfl⟩ rfl rfl
    · split_ifs at stepped <;> cases stepped
      · exact go (some (.running x triggers)) rfl ⟨rfl, rfl⟩ rfl rfl
      · exact go (some (.callRetry x triggers)) rfl ⟨rfl, rfl⟩ rfl rfl
  | callRetry x triggers =>
    cases stepped
    exact go (some (.callTry (x :: triggers))) rfl ⟨rfl, rfl⟩ rfl rfl
  | running x triggers =>
    cases stepped
    exact go (some (.callUnlockMutex x triggers)) rfl ⟨rfl, rfl⟩ rfl rfl
  | callUnlockMutex x triggers =>
    cases stepped
    exact go (some (.callUnlock x triggers)) rfl ⟨rfl, rfl⟩ rfl rfl
  | callUnlock x triggers =>
    cases stepped
    exact go (some (.callTry triggers)) rfl ⟨rfl, rfl⟩ rfl rfl
  | _ => cases stepped

end Advance

theorem Tidy.advance (tidy : r.Tidy) (sound : r.Sound) (stepped : r.step (t, .advance) = .ok r') : r'.Tidy := by
  have invalid := sound.invalid_of stepped
  obtain ⟨call, rest, top⟩ := TaskLog.advance_top stepped
  have below : ∀ call ∈ rest, call.isRunning = true := fun below member =>
    sound.disciplined.suspended t below (by rw [top]; exact member)
  simp only [TaskRunner.step, TaskRunner.advance, top] at stepped
  cases call with
  | scheduleLock | scheduleInsert | scheduleSetItr | scheduleUnlock =>
    exact tidy.advanceSchedule top below invalid stepped
  | cancelTry | cancelLock | cancelErase | cancelUnlock | cancelWait =>
    exact tidy.advanceCancel top below invalid stepped
  | collectLock | collect | collectErase => exact tidy.advanceCollect top below invalid stepped
  | callTry | callMutex | callRetry | running | callUnlockMutex | callUnlock =>
    exact tidy.advanceCall top below invalid stepped

theorem Tidy.step (tidy : r.Tidy) (sound : r.Sound) {label : Thread × TaskOp} (stepped : r.step label = .ok r') :
    r'.Tidy := by
  have invalid := sound.invalid_of stepped
  obtain ⟨t, op⟩ := label
  have suspended := sound.disciplined.suspended t
  cases op with
  | advance => exact tidy.advance sound stepped
  | beginSchedule key mtx =>
    simp only [TaskRunner.step] at stepped
    split_ifs at stepped with application
    cases stepped
    exact tidy.begin (.scheduleLock r.count) application suspended rfl rfl invalid rfl rfl rfl
  | beginCancel x =>
    simp only [TaskRunner.step] at stepped
    split_ifs at stepped with application handle
    cases stepped
    exact tidy.begin (.cancelTry x) application suspended rfl rfl invalid rfl rfl rfl
  | beginRunOnce now =>
    simp only [TaskRunner.step] at stepped
    split_ifs at stepped with application
    cases stepped
    exact tidy.begin (.collectLock now) application suspended rfl rfl invalid rfl rfl rfl
  | lockSession mtx | unlockSession mtx =>
    simp only [TaskRunner.step] at stepped
    repeat' split at stepped
    all_goals cases stepped
    all_goals exact ⟨tidy.holder, tidy.late, tidy.keeper⟩

theorem Tidy.of_reachable (reached : system.Reachable {} r) : r.Tidy := by
  have both : r.Sound ∧ r.Tidy := by
    apply reached.invariant (P := fun r => r.Sound ∧ r.Tidy)
    · exact ⟨.initial, nofun, nofun, nofun⟩
    · rintro before label after ⟨sound, tidy⟩ _ stepped
      exact ⟨sound.step stepped, tidy.step sound stepped⟩
  exact both.2

omit [DecidableEq Thread] in
/-- A task in `tasks_` has one node; if no call is about to erase it, it is not taken, and nobody keeps its
`callLock`. -/
theorem untaken_of_mem (sound : r.Sound) (tidy : r.Tidy) {task : Int × Nat} (member : task ∈ r.tasks)
    (nobody : ∀ t, ∀ call ∈ r.calls t, (call.share task.2).erasing = 0) :
    (r.storages task.2).invalid = false ∧ r.history.claimedByCancel task.2 = false ∧
      r.history.cancelHolds task.2 = false := by
  have balanced := sound.balanced task.2
  have present : 0 < (r.ledger task.2).nodes := List.count_pos_iff.mpr (List.mem_map_of_mem member)
  have idle : (r.ledger task.2).erasing = 0 := by
    by_contra some
    obtain ⟨t, call, calling, mine⟩ := exists_of_tokens_pos (Nat.pos_of_ne_zero some)
    exact absurd (nobody t call calling) mine.ne'
  have untaken : (r.storages task.2).invalid = false := by
    have node := balanced.node
    have claim := balanced.claim
    have inserted := Bool.toNat_le (r.ledger task.2).inserted
    exact Bool.toNat_eq_zero.mp (show (r.ledger task.2).invalid.toNat = 0 by omega)
  refine ⟨untaken, ?_, ?_⟩
  · rw [← Bool.not_eq_true]
    exact fun claimed => Bool.false_ne_true (untaken.symm.trans (balanced.claimed claimed).1)
  · rw [← Bool.not_eq_true]
    exact fun held => Bool.false_ne_true (untaken.symm.trans (tidy.keeper task.2 held))

omit [DecidableEq Thread] in
theorem Sound.nodup_tasks (sound : r.Sound) : (r.tasks.map Prod.snd).Nodup := by
  rw [List.nodup_iff_count_le_one]
  intro storage
  have node := (sound.balanced storage).node
  have inserted := Bool.toNat_le (r.ledger storage).inserted
  change (r.ledger storage).nodes ≤ 1
  omega

end TaskRunner

end PosixQuic
