import PosixQuic.Model.TaskLedger
import PosixQuic.Model.TaskRunner
import PosixQuic.Machine.CallStacks
import Mathlib.Tactic

/-! # The task runner refines the ledgers of its storages

Each storage has a ledger of rights: the flags and the node are read off the shared state, the rights
in use off the calls in progress. Every atomic step of the runner keeps all ledgers but one, and moves
that one by a step of the abstract ledger. The rest of the invariant is the threads' own discipline:
the sections of `mtx_` exclude each other, so a collecting `RunOnce` really walks the suffix of
`tasks_` it remembers, and the iterator a handle stores belongs to the handle's own node.
-/

namespace PosixQuic

namespace TaskCall

/-- What the call holds of the storage. Once its task has started, the call section is all that is
left to finish. -/
def share (storage : Nat) : TaskCall → TaskShare
  | .scheduleLock x | .scheduleInsert x => { inserting := if x = storage then 1 else 0 }
  | .cancelLock x | .cancelErase x => { erasing := if x = storage then 1 else 0 }
  | .collectErase _ x _ triggers =>
    { erasing := if x = storage then 1 else 0, waiting := triggers.count storage }
  | .collect _ _ triggers | .callTry triggers => { waiting := triggers.count storage }
  | .callMutex x triggers | .callRetry x triggers =>
    { holding := if x = storage then 1 else 0, waiting := triggers.count storage }
  | .running x triggers | .callUnlockMutex x triggers | .callUnlock x triggers =>
    { finishing := if x = storage then 1 else 0, waiting := triggers.count storage }
  | _ => {}

/-- The call is inside a section protected by `mtx_`. -/
def locked : TaskCall → Bool
  | .scheduleInsert _ | .scheduleSetItr _ | .scheduleUnlock _ | .cancelErase _ | .cancelUnlock _
  | .collect _ _ _ | .collectErase _ _ _ _ => true
  | _ => false

/-- The call is running a task. -/
def isRunning : TaskCall → Bool
  | .running _ _ => true
  | _ => false

theorem not_locked_of_isRunning {call : TaskCall} (running : call.isRunning = true) : call.locked = false := by
  cases call <;> first | rfl | cases running

end TaskCall

open Machine TaskCall

namespace TaskRunner

variable {Thread : Type} {r r' : TaskRunner Thread} {call : TaskCall} {t : Thread} {rest : List TaskCall}

/-- The part of a storage's ledger that is in the shared state and in the history. -/
def sheet (r : TaskRunner Thread) (storage : Nat) : TaskSheet where
  allocated := Nat.blt storage r.count
  inserted := r.history.inserted storage
  invalid := (r.storages storage).invalid
  callLock := (r.storages storage).callLock
  claimedByCancel := r.history.claimedByCancel storage
  cancelHolds := r.history.cancelHolds storage
  cancelled := r.history.cancelled storage
  nodes := (r.tasks.map Prod.snd).count storage
  erased := r.history.erased storage
  runs := r.history.runs storage

variable [Fintype Thread] in
/-- The rights on one storage held by all calls in progress. -/
def held (r : TaskRunner Thread) (storage : Nat) : TaskShare where
  inserting := tokens (fun call => (call.share storage).inserting) r.calls
  erasing := tokens (fun call => (call.share storage).erasing) r.calls
  waiting := tokens (fun call => (call.share storage).waiting) r.calls
  holding := tokens (fun call => (call.share storage).holding) r.calls
  finishing := tokens (fun call => (call.share storage).finishing) r.calls

variable [Fintype Thread] in
def ledger (r : TaskRunner Thread) (storage : Nat) : TaskLedger where
  toTaskSheet := r.sheet storage
  toTaskShare := r.held storage

/-- What a call in progress may rely on. -/
def CallReady (r : TaskRunner Thread) : TaskCall → Prop
  | .scheduleSetItr storage => r.history.inserted storage = true
  | .scheduleUnlock storage =>
    r.history.inserted storage = true ∧ (r.storages storage).itr = some storage
  | .cancelTry storage | .cancelWait storage => r.returned storage = true
  | .cancelLock storage | .cancelErase storage | .cancelUnlock storage =>
    r.returned storage = true ∧ r.history.claimedByCancel storage = true
  | .collect _ rest _ => rest <:+ r.tasks
  | .collectErase _ node rest _ => ∃ key, (key, node) :: rest <:+ r.tasks
  | _ => True

/-- What the calls in progress rely on survives the step. -/
structure Grows (r r' : TaskRunner Thread) : Prop where
  inserted : ∀ storage, r.history.inserted storage = true → r'.history.inserted storage = true
  returned : ∀ storage, r.returned storage = true → r'.returned storage = true
  claimed : ∀ storage, r.history.claimedByCancel storage = true →
    r'.history.claimedByCancel storage = true
  itr : ∀ storage, r.history.inserted storage = true →
    (r.storages storage).itr = some storage → (r'.storages storage).itr = some storage

theorem CallReady.grow (ready : r.CallReady call) (grows : r.Grows r')
    (kept : call.locked = true → r'.tasks = r.tasks) : r'.CallReady call := by
  cases call with
  | scheduleSetItr storage => exact grows.inserted _ ready
  | scheduleUnlock storage => exact ⟨grows.inserted _ ready.1, grows.itr _ ready.1 ready.2⟩
  | cancelTry storage => exact grows.returned _ ready
  | cancelWait storage => exact grows.returned _ ready
  | cancelLock storage => exact ⟨grows.returned _ ready.1, grows.claimed _ ready.2⟩
  | cancelErase storage => exact ⟨grows.returned _ ready.1, grows.claimed _ ready.2⟩
  | cancelUnlock storage => exact ⟨grows.returned _ ready.1, grows.claimed _ ready.2⟩
  | collect now rest triggers =>
    change rest <:+ r'.tasks
    rw [kept rfl]
    exact ready
  | collectErase now node rest triggers =>
    change ∃ key, (key, node) :: rest <:+ r'.tasks
    rw [kept rfl]
    exact ready
  | _ => trivial

/-- The threads keep to the protocol: sections of `mtx_` exclude each other, a call under another one
is running a task, and the thread-local flag is only set inside of `RunOnce`. -/
structure Disciplined (r : TaskRunner Thread) : Prop where
  ready : ∀ t, ∀ call ∈ r.calls t, r.CallReady call
  exclusive : ∀ t, ∀ call ∈ r.calls t, call.locked = true → r.mtx = some t
  suspended : ∀ t, ∀ call ∈ (r.calls t).tail, call.isRunning = true
  flagged : ∀ t, r.inRunner t = true → (r.calls t).any TaskCall.isRunOnce = true
  handed : ∀ storage, r.returned storage = true →
    r.history.inserted storage = true ∧ (r.storages storage).itr = some storage

variable [DecidableEq Thread]

/-- One step of one thread: `removed` was its topmost call, `added` is the new one. -/
structure Local (r r' : TaskRunner Thread) (t : Thread) (removed added : Option TaskCall)
    (rest : List TaskCall) : Prop where
  before : r.calls t = removed.toList ++ rest
  after : r'.calls = Function.update r.calls t (added.toList ++ rest)

/-- One thread's step keeps the discipline when its own new topmost call does. -/
theorem Disciplined.step (disciplined : r.Disciplined) {removed added : Option TaskCall}
    (moved : Local r r' t removed added rest) (below : ∀ call ∈ rest, call.isRunning = true) (grows : r.Grows r')
    (tasks : r'.tasks = r.tasks ∨ r.mtx = some t) (mtx : r'.mtx = r.mtx ∨ r.mtx = none ∨ r.mtx = some t)
    (ready : ∀ call ∈ added, r'.CallReady call) (exclusive : ∀ call ∈ added, call.locked = true → r'.mtx = some t)
    (flags : ∀ other, other ≠ t → r'.inRunner other = r.inRunner other)
    (flagged : r'.inRunner t = true → (added.toList ++ rest).any TaskCall.isRunOnce = true)
    (handed : ∀ storage, r'.returned storage = true → r.returned storage = true ∨
      r'.history.inserted storage = true ∧ (r'.storages storage).itr = some storage) : r'.Disciplined := by
  have own : r'.calls t = added.toList ++ rest := by rw [moved.after, Function.update_self]
  have others : ∀ other, other ≠ t → r'.calls other = r.calls other := by
    intro other different
    rw [moved.after, Function.update_of_ne different]
  refine ⟨?_, ?_, ?_, ?_, ?_⟩
  · intro other call member
    by_cases same : other = t
    · subst same
      rw [own, List.mem_append, Option.mem_toList] at member
      rcases member with new | old
      · exact ready call new
      · have running := below call old
        cases call <;> trivial
    · rw [others other same] at member
      refine (disciplined.ready other call member).grow grows ?_
      intro locked
      have holder := disciplined.exclusive other call member locked
      rcases tasks with kept | mine
      · exact kept
      · rw [mine, Option.some_inj] at holder
        exact absurd holder.symm same
  · intro other call member locked
    by_cases same : other = t
    · subst same
      rw [own, List.mem_append, Option.mem_toList] at member
      rcases member with new | old
      · exact exclusive call new locked
      · rw [not_locked_of_isRunning (below call old)] at locked
        contradiction
    · rw [others other same] at member
      have holder := disciplined.exclusive other call member locked
      rcases mtx with kept | free | mine
      · rw [kept, holder]
      · rw [free] at holder
        contradiction
      · rw [mine, Option.some_inj] at holder
        exact absurd holder.symm same
  · intro other call member
    by_cases same : other = t
    · subst same
      rw [own] at member
      cases added with
      | none => exact below call (List.mem_of_mem_tail member)
      | some next => exact below call member
    · rw [others other same] at member
      exact disciplined.suspended other call member
  · intro other inRunner
    by_cases same : other = t
    · subst same
      rw [own]
      exact flagged inRunner
    · rw [others other same]
      rw [flags other same] at inRunner
      exact disciplined.flagged other inRunner
  · intro storage returned
    rcases handed storage returned with before | now
    · have ⟨inserted, itr⟩ := disciplined.handed storage before
      exact ⟨grows.inserted storage inserted, grows.itr storage inserted itr⟩
    · exact now

section Ledger

variable [Fintype Thread] {r r' : TaskRunner Thread} {t : Thread} {removed added : Option TaskCall}
  {rest : List TaskCall} {storage : Nat} {call : TaskCall}

/-- How the rights held by calls move in a step. -/
structure Moved (before after removed added : TaskShare) : Prop where
  inserting : after.inserting + removed.inserting = before.inserting + added.inserting
  erasing : after.erasing + removed.erasing = before.erasing + added.erasing
  waiting : after.waiting + removed.waiting = before.waiting + added.waiting
  holding : after.holding + removed.holding = before.holding + added.holding
  finishing : after.finishing + removed.finishing = before.finishing + added.finishing

theorem Moved.unique {before after after' removed added : TaskShare}
    (moved : Moved before after removed added) (moved' : Moved before after' removed added) :
    after = after' := by
  obtain ⟨inserting, erasing, waiting, holding, finishing⟩ := moved
  obtain ⟨inserting', erasing', waiting', holding', finishing'⟩ := moved'
  ext <;> omega

theorem Local.moved (step : Local r r' t removed added rest) (storage : Nat) :
    Moved (r.held storage) (r'.held storage) (removed.elim {} (TaskCall.share storage))
      (added.elim {} (TaskCall.share storage)) := by
  have replaced : ∀ weight : TaskCall → Nat, tokens weight r'.calls + removed.elim 0 weight =
      tokens weight r.calls + added.elim 0 weight := by
    intro weight
    rw [step.after]
    exact tokens_replace weight step.before added
  constructor
  all_goals
    cases removed <;> cases added <;> exact replaced _

/-- The ledger after a step is given by the new sheet and the movement of the rights. -/
theorem Local.ledger_eq (step : Local r r' t removed added rest) (target : TaskLedger)
    (sheet : r'.sheet storage = target.toTaskSheet)
    (moved : Moved (r.held storage) target.toTaskShare (removed.elim {} (TaskCall.share storage))
      (added.elim {} (TaskCall.share storage))) : r'.ledger storage = target :=
  congrArg₂ TaskLedger.mk sheet ((step.moved storage).unique moved)

/-- A step that touches neither the storage nor the rights on it. -/
theorem Local.ledger_kept (step : Local r r' t removed added rest) (sheet : r'.sheet storage = r.sheet storage)
    (share : removed.elim {} (TaskCall.share storage) = added.elim {} (TaskCall.share storage)) :
    r'.ledger storage = r.ledger storage := by
  refine step.ledger_eq (r.ledger storage) sheet ?_
  rw [share]
  exact ⟨rfl, rfl, rfl, rfl, rfl⟩

/-- Every storage's ledger is kept or takes one of its steps. -/
def Accounted (r r' : TaskRunner Thread) : Prop :=
  ∀ storage, r'.ledger storage = r.ledger storage ∨ (r.ledger storage).Step (r'.ledger storage)

/-- A step that touches no storage. -/
theorem Local.accounted_kept (step : Local r r' t removed added rest) (sheets : r'.sheet = r.sheet)
    (shares : ∀ storage, removed.elim {} (TaskCall.share storage) = added.elim {} (TaskCall.share storage)) :
    r.Accounted r' :=
  fun storage => .inl (step.ledger_kept (congrFun sheets storage) (shares storage))

/-- A step that touches only the storage `x`, whose ledger it moves to `target`. -/
theorem Local.accounted_step (step : Local r r' t removed added rest) (x : Nat)
    (sheets : ∀ storage, storage ≠ x → r'.sheet storage = r.sheet storage)
    (shares : ∀ storage, storage ≠ x →
      removed.elim {} (TaskCall.share storage) = added.elim {} (TaskCall.share storage))
    (target : TaskLedger) (sheet : r'.sheet x = target.toTaskSheet)
    (moves : Moved (r.held x) (r'.held x) (removed.elim {} (TaskCall.share x))
        (added.elim {} (TaskCall.share x)) →
      Moved (r.held x) target.toTaskShare (removed.elim {} (TaskCall.share x))
        (added.elim {} (TaskCall.share x)) ∧ (r.ledger x).Step target) : r.Accounted r' := by
  intro storage
  by_cases same : storage = x
  · subst same
    obtain ⟨moved, stepped⟩ := moves (step.moved storage)
    rw [step.ledger_eq target sheet moved]
    exact .inr stepped
  · exact .inl (step.ledger_kept (sheets storage same) (shares storage same))

omit [Fintype Thread] in
theorem sheet_modStorage_of_ne (r : TaskRunner Thread) {x : Nat} (other : storage ≠ x) (f : TaskStorage → TaskStorage)
    (t : Thread) (stack : List TaskCall) : ((r.modStorage x f).setStack t stack).sheet storage = r.sheet storage := by
  simp only [sheet, modStorage, setStack, Function.update_of_ne other]

theorem advanceCall_accounted (top : r.calls t = call :: rest) (stepped : r.advanceCall t rest call = .ok r') :
    r.Accounted r' := by
  cases call with
  | callTry triggers =>
    cases triggers with
    | nil =>
      cases stepped
      exact (⟨top, rfl⟩ : Local r _ t (some (.callTry [])) none rest).accounted_kept rfl fun _ => rfl
    | cons x triggers =>
      simp only [advanceCall] at stepped
      split_ifs at stepped with taken
      · cases stepped
        refine (⟨top, rfl⟩ : Local r _ t (some (.callTry (x :: triggers))) (some (.callTry triggers))
          rest).accounted_step x (fun _ _ => rfl) (fun _ other => by simp [share, Ne.symm other])
            { r.ledger x with waiting := (r.ledger x).waiting - 1 } rfl ?_
        rintro ⟨-, -, waiting, -, -⟩
        simp only [Option.elim_some, share, List.count_cons_self] at waiting
        exact ⟨⟨rfl, rfl, by simp [share, ledger]; omega, rfl, rfl⟩, .skip _ (by simp [ledger]; omega)⟩
      · cases stepped
        refine (⟨top, rfl⟩ : Local r _ t (some (.callTry (x :: triggers))) (some (.callMutex x triggers))
          rest).accounted_step x (fun _ other => r.sheet_modStorage_of_ne other _ _ _)
            (fun _ other => by simp [share, Ne.symm other])
            { r.ledger x with
              waiting := (r.ledger x).waiting - 1, holding := (r.ledger x).holding + 1, callLock := true }
            (by simp [sheet, modStorage, setStack, ledger]) ?_
        rintro ⟨-, -, waiting, -, -⟩
        simp only [Option.elim_some, share, List.count_cons_self] at waiting
        exact ⟨⟨rfl, rfl, by simp [share, ledger]; omega, by simp [share, ledger], rfl⟩,
          .enter _ (by simp [ledger]; omega) (by simpa [ledger, sheet] using taken)⟩
  | callMutex x triggers =>
    simp only [advanceCall] at stepped
    have started : ∀ depth, r.Accounted
        ({ r with
          sessions := Function.update r.sessions (r.storages x).mtx (some (t, depth))
          history :=
            { r.history with runs := Function.update r.history.runs x (r.history.runs x + 1) }
          }.setStack t (.running x triggers :: rest)) := by
      intro depth
      refine (⟨top, rfl⟩ : Local r _ t (some (.callMutex x triggers)) (some (.running x triggers))
        rest).accounted_step x
          (fun _ other => by simp [sheet, setStack, Function.update_of_ne other])
          (fun _ other => by simp [share, Ne.symm other])
          { r.ledger x with
            holding := (r.ledger x).holding - 1, finishing := (r.ledger x).finishing + 1,
            runs := (r.ledger x).runs + 1 } (by simp [sheet, setStack, ledger]) ?_
      rintro ⟨-, -, -, holding, -⟩
      simp only [Option.elim_some, share, ↓reduceIte] at holding
      exact ⟨⟨rfl, rfl, rfl, by simp [share, ledger]; omega, by simp [share, ledger]⟩,
        .start _ (by simp [ledger]; omega)⟩
    split at stepped
    · cases stepped
      exact started 1
    · split_ifs at stepped
      · cases stepped
        exact started _
      · cases stepped
        exact (⟨top, rfl⟩ : Local r _ t (some (.callMutex x triggers)) (some (.callRetry x triggers))
          rest).accounted_kept rfl fun _ => rfl
  | callRetry x triggers =>
    cases stepped
    refine (⟨top, rfl⟩ : Local r _ t (some (.callRetry x triggers)) (some (.callTry (x :: triggers)))
      rest).accounted_step x (fun _ other => r.sheet_modStorage_of_ne other _ _ _)
        (fun _ other => by simp [share, Ne.symm other])
        { r.ledger x with
          holding := (r.ledger x).holding - 1, waiting := (r.ledger x).waiting + 1, callLock := false }
        (by simp [sheet, modStorage, setStack, ledger]) ?_
    rintro ⟨-, -, -, holding, -⟩
    simp only [Option.elim_some, share, ↓reduceIte] at holding
    exact ⟨⟨rfl, rfl, by simp [share, ledger]; omega, by simp [share, ledger]; omega, rfl⟩,
      .retry _ (by simp [ledger]; omega)⟩
  | running x triggers =>
    cases stepped
    exact (⟨top, rfl⟩ : Local r _ t (some (.running x triggers)) (some (.callUnlockMutex x triggers))
      rest).accounted_kept rfl fun _ => rfl
  | callUnlockMutex x triggers =>
    cases stepped
    exact (⟨top, rfl⟩ : Local r _ t (some (.callUnlockMutex x triggers)) (some (.callUnlock x triggers))
      rest).accounted_kept rfl fun _ => rfl
  | callUnlock x triggers =>
    cases stepped
    refine (⟨top, rfl⟩ : Local r _ t (some (.callUnlock x triggers)) (some (.callTry triggers))
      rest).accounted_step x (fun _ other => r.sheet_modStorage_of_ne other _ _ _)
        (fun _ other => by simp [share, Ne.symm other])
        { r.ledger x with finishing := (r.ledger x).finishing - 1, callLock := false }
        (by simp [sheet, modStorage, setStack, ledger]) ?_
    rintro ⟨-, -, -, -, finishing⟩
    simp only [Option.elim_some, share, ↓reduceIte] at finishing
    exact ⟨⟨rfl, rfl, rfl, rfl, by simp [share, ledger]; omega⟩, .leave _ (by simp [ledger]; omega)⟩
  | _ => cases stepped

omit [DecidableEq Thread] [Fintype Thread] in
theorem count_insertTask (key : Int) (node storage : Nat) (tasks : List (Int × Nat)) :
    ((insertTask key node tasks).map Prod.snd).count storage =
      (tasks.map Prod.snd).count storage + if node = storage then 1 else 0 := by
  induction tasks with
  | nil => simp [insertTask, List.count_cons]
  | cons head rest ih =>
    simp only [insertTask]
    split_ifs <;> simp_all [List.count_cons]
    omega

theorem advanceSchedule_accounted (top : r.calls t = call :: rest) (stepped : r.advanceSchedule t rest call = .ok r') :
    r.Accounted r' := by
  cases call with
  | scheduleLock x =>
    simp only [advanceSchedule] at stepped
    split_ifs at stepped
    cases stepped
    exact (⟨top, rfl⟩ : Local r _ t (some (.scheduleLock x)) (some (.scheduleInsert x))
      rest).accounted_kept rfl fun _ => rfl
  | scheduleInsert x =>
    cases stepped
    refine (⟨top, rfl⟩ : Local r _ t (some (.scheduleInsert x)) (some (.scheduleSetItr x))
      rest).accounted_step x
        (fun _ other => by
          simp [sheet, setStack, Function.update_of_ne other, count_insertTask, Ne.symm other])
        (fun _ other => by simp [share, Ne.symm other])
        { r.ledger x with
          inserting := (r.ledger x).inserting - 1, nodes := (r.ledger x).nodes + 1, inserted := true }
        (by simp [sheet, setStack, ledger, count_insertTask]) ?_
    rintro ⟨inserting, -, -, -, -⟩
    simp only [Option.elim_some, share, ↓reduceIte] at inserting
    exact ⟨⟨by simp [share, ledger]; omega, rfl, rfl, rfl, rfl⟩, .insert _ (by simp [ledger]; omega)⟩
  | scheduleSetItr x =>
    cases stepped
    refine (⟨top, rfl⟩ : Local r _ t (some (.scheduleSetItr x)) (some (.scheduleUnlock x))
      rest).accounted_kept ?_ fun _ => rfl
    funext storage
    by_cases same : storage = x
    · subst same
      simp [sheet, modStorage, setStack]
    · exact r.sheet_modStorage_of_ne same _ _ _
  | scheduleUnlock x =>
    cases stepped
    exact (⟨top, rfl⟩ : Local r _ t (some (.scheduleUnlock x)) none rest).accounted_kept rfl
      fun _ => rfl
  | _ => cases stepped

omit [DecidableEq Thread] [Fintype Thread] in
theorem count_eraseTask (node storage : Nat) (tasks : List (Int × Nat)) :
    ((eraseTask node tasks).map Prod.snd).count storage =
      if node = storage then 0 else (tasks.map Prod.snd).count storage := by
  induction tasks with
  | nil => simp [eraseTask]
  | cons head rest ih =>
    simp only [eraseTask, List.filter_cons] at ih ⊢
    by_cases same : head.2 = node
    · subst same
      split_ifs at ih ⊢ <;> simp_all
    · split_ifs at ih ⊢ <;> simp_all [List.count_cons]

/-- Erasing a node settles its owner's right to erase it. -/
theorem Local.accounted_erase {next : TaskCall} {x : Nat}
    (step : Local r ((r.eraseNode x).setStack t (next :: rest)) t (some call) (some next) rest)
    (mine : ∀ storage, call.share storage =
      { next.share storage with
        erasing := (next.share storage).erasing + if x = storage then 1 else 0 }) :
    r.Accounted ((r.eraseNode x).setStack t (next :: rest)) := by
  refine step.accounted_step x
    (fun _ other => by
      simp [sheet, setStack, eraseNode, Function.update_of_ne other, count_eraseTask, Ne.symm other])
    (fun _ other => by simp [mine, Ne.symm other])
    { r.ledger x with
      erasing := (r.ledger x).erasing - 1, nodes := 0, erased := (r.ledger x).erased + 1 }
    (by simp [sheet, setStack, eraseNode, ledger, count_eraseTask]) ?_
  rintro ⟨-, erasing, -, -, -⟩
  simp only [Option.elim_some, mine, ↓reduceIte] at erasing
  exact ⟨⟨by simp [mine, ledger], by simp [mine, ledger]; omega, by simp [mine, ledger],
    by simp [mine, ledger], by simp [mine, ledger]⟩, .erase _ (by simp [ledger]; omega)⟩

omit [DecidableEq Thread] [Fintype Thread] in
theorem noteCancelled_eq (r : TaskRunner Thread) (rest : List TaskCall) (x : Nat) :
    r.noteCancelled rest x = r.modHistory fun h =>
      { h with
        cancelled := Function.update h.cancelled x
          (h.cancelled x || !rest.any TaskCall.isRunOnce) } := by
  unfold noteCancelled
  split_ifs with inside
  · simp [modHistory, inside]
  · simp only [Bool.not_eq_true] at inside
    simp [modHistory, inside]

theorem advanceCancel_accounted (disciplined : r.Disciplined) (top : r.calls t = call :: rest)
    (stepped : r.advanceCancel t rest call = .ok r') : r.Accounted r' := by
  have ready : r.CallReady call := disciplined.ready t call (by simp [top])
  cases call with
  | cancelTry x =>
    simp only [advanceCancel] at stepped
    split_ifs at stepped with taken inRunner
    · cases stepped
      -- the flag is set, so this thread is inside of `RunOnce` and nothing is recorded
      have inside : rest.any TaskCall.isRunOnce = true := by
        simpa [top, TaskCall.isRunOnce] using disciplined.flagged t inRunner
      refine (⟨top, ?_⟩ : Local r _ t (some (.cancelTry x)) none rest).accounted_kept ?_ fun _ => rfl
      · simp [noteCancelled, inside, setStack]
      · simp only [noteCancelled, inside, if_true]
        rfl
    · cases stepped
      exact (⟨top, rfl⟩ : Local r _ t (some (.cancelTry x)) (some (.cancelWait x)) rest).accounted_kept
        rfl fun _ => rfl
    · cases stepped
      refine (⟨top, rfl⟩ : Local r _ t (some (.cancelTry x)) (some (.cancelLock x)) rest).accounted_step
        x (fun _ other => by simp [sheet, modStorage, modHistory, setStack, Function.update_of_ne other])
        (fun _ other => by simp [share, Ne.symm other])
        { r.ledger x with
          invalid := true, erasing := (r.ledger x).erasing + 1, claimedByCancel := true }
        (by simp [sheet, modStorage, modHistory, setStack, ledger]) ?_
      intro _
      exact ⟨⟨rfl, by simp [share, ledger], rfl, rfl, rfl⟩,
        .cancelClaims _ (disciplined.handed x ready).1 (by simpa [ledger, sheet] using taken)⟩
  | cancelLock x =>
    simp only [advanceCancel] at stepped
    split_ifs at stepped
    cases stepped
    exact (⟨top, rfl⟩ : Local r _ t (some (.cancelLock x)) (some (.cancelErase x)) rest).accounted_kept
      rfl fun _ => rfl
  | cancelErase x =>
    simp only [advanceCancel, (disciplined.handed x ready.1).2] at stepped
    cases stepped
    refine (⟨top, rfl⟩ : Local r _ t (some (.cancelErase x)) (some (.cancelUnlock x))
      rest).accounted_erase ?_
    intro storage
    simp [share]
  | cancelUnlock x =>
    simp only [advanceCancel, noteCancelled_eq] at stepped
    cases stepped
    refine (⟨top, rfl⟩ : Local r _ t (some (.cancelUnlock x)) none rest).accounted_step x
      (fun _ other => by simp [sheet, modHistory, setStack, Function.update_of_ne other])
      (fun _ _ => rfl)
      { r.ledger x with cancelled := (r.ledger x).cancelled || !rest.any TaskCall.isRunOnce }
      (by simp [sheet, modHistory, setStack, ledger]) ?_
    intro _
    exact ⟨⟨rfl, rfl, rfl, rfl, rfl⟩, .cancelReturns _ _ ready.2⟩
  | cancelWait x =>
    simp only [advanceCancel, noteCancelled_eq] at stepped
    split_ifs at stepped with occupied
    cases stepped
    refine (⟨top, rfl⟩ : Local r _ t (some (.cancelWait x)) none rest).accounted_step x
      (fun _ other => by simp [sheet, modStorage, modHistory, setStack, Function.update_of_ne other])
      (fun _ _ => rfl)
      { r.ledger x with
        callLock := true, cancelHolds := true,
        cancelled := (r.ledger x).cancelled || !rest.any TaskCall.isRunOnce }
      (by simp [sheet, modStorage, modHistory, setStack, ledger]) ?_
    intro _
    exact ⟨⟨rfl, rfl, rfl, rfl, rfl⟩, .cancelEnters _ _ (disciplined.handed x ready).1
      (by simpa [ledger, sheet] using occupied)⟩
  | _ => cases stepped

theorem advanceCollect_accounted {stack : List TaskCall} (disciplined : r.Disciplined)
    (top : r.calls t = call :: stack) (stepped : r.advanceCollect t stack call = .ok r') : r.Accounted r' := by
  have ready : r.CallReady call := disciplined.ready t call (by simp [top])
  cases call with
  | collectLock now =>
    simp only [advanceCollect] at stepped
    split_ifs at stepped
    cases stepped
    exact (⟨top, rfl⟩ : Local r _ t (some (.collectLock now)) (some (.collect now r.tasks []))
      stack).accounted_kept rfl fun _ => rfl
  | collect now rest triggers =>
    cases rest with
    | nil =>
      cases stepped
      exact (⟨top, rfl⟩ : Local r _ t (some (.collect now [] triggers)) (some (.callTry triggers))
        stack).accounted_kept rfl fun _ => rfl
    | cons head rest =>
      obtain ⟨key, x⟩ := head
      simp only [advanceCollect] at stepped
      split_ifs at stepped with due taken
      · cases stepped
        exact (⟨top, rfl⟩ : Local r _ t (some (.collect now ((key, x) :: rest) triggers))
          (some (.collect now rest triggers)) stack).accounted_kept rfl fun _ => rfl
      · cases stepped
        refine (⟨top, rfl⟩ : Local r _ t (some (.collect now ((key, x) :: rest) triggers))
          (some (.collectErase now x rest (triggers ++ [x]))) stack).accounted_step x
            (fun _ other => r.sheet_modStorage_of_ne other _ _ _)
            (fun _ other => by simp [share, Ne.symm other])
            { r.ledger x with
              invalid := true, erasing := (r.ledger x).erasing + 1,
              waiting := (r.ledger x).waiting + 1 }
            (by simp [sheet, modStorage, setStack, ledger]) ?_
        intro _
        have present : 0 < (r.tasks.map Prod.snd).count x :=
          List.count_pos_iff.mpr (List.mem_map_of_mem (ready.subset (List.mem_cons_self ..)))
        exact ⟨⟨rfl, by simp [share, ledger], by simp [share, ledger]; omega, rfl, rfl⟩,
          .runnerClaims _ present (by simpa [ledger, sheet] using taken)⟩
      · cases stepped
        exact (⟨top, rfl⟩ : Local r _ t (some (.collect now ((key, x) :: rest) triggers))
          (some (.callTry triggers)) stack).accounted_kept rfl fun _ => rfl
  | collectErase now node rest triggers =>
    cases stepped
    refine (⟨top, rfl⟩ : Local r _ t (some (.collectErase now node rest triggers))
      (some (.collect now rest triggers)) stack).accounted_erase ?_
    intro storage
    simp [share]
  | _ => cases stepped

/-- A new storage starts with free flags, which an unused name has anyway. -/
theorem beginSchedule_accounted (balanced : (r.ledger r.count).Balanced) (t : Thread) (key : Int) (mtx : Nat) :
    r.Accounted (({ r with count := r.count + 1 }.modStorage r.count fun _ => { key, mtx }).setStack t
      (.scheduleLock r.count :: r.calls t)) := by
  have free : (r.ledger r.count).allocated = false := by
    simp only [ledger, sheet, ← Bool.not_eq_true, Nat.blt_eq]
    exact Nat.lt_irrefl r.count
  obtain ⟨invalid, callLock⟩ := balanced.flags_of_unallocated free
  simp only [ledger, sheet] at invalid callLock
  refine (⟨rfl, rfl⟩ : Local r _ t none (some (.scheduleLock r.count)) (r.calls t)).accounted_step
    r.count ?_ (fun _ other => by simp [share, Ne.symm other])
    { r.ledger r.count with allocated := true, inserting := (r.ledger r.count).inserting + 1 } ?_ ?_
  · intro storage other
    have bound : Nat.blt storage (r.count + 1) = Nat.blt storage r.count := by
      rw [Bool.eq_iff_iff]
      simp only [Nat.blt_eq]
      omega
    simp [sheet, modStorage, setStack, Function.update_of_ne other, bound]
  · simp [sheet, modStorage, setStack, ledger, invalid, callLock, Nat.blt]
  · intro _
    exact ⟨⟨by simp [share, ledger], rfl, rfl, rfl, rfl⟩, .create _ free⟩

omit [DecidableEq Thread] in
theorem accounted_of_calls_eq (calls : r'.calls = r.calls) (sheets : r'.sheet = r.sheet) : r.Accounted r' := by
  intro storage
  left
  simp only [ledger, held, calls, sheets]

theorem step_accounted {label : Thread × TaskOp} (disciplined : r.Disciplined)
    (balanced : ∀ storage, (r.ledger storage).Balanced) (stepped : r.step label = .ok r') : r.Accounted r' := by
  obtain ⟨t, op⟩ := label
  cases op with
  | advance =>
    simp only [step, advance] at stepped
    split at stepped
    · cases stepped
    · next call rest top =>
      split at stepped
      all_goals first
        | exact advanceSchedule_accounted top stepped
        | exact advanceCancel_accounted disciplined top stepped
        | exact advanceCollect_accounted disciplined top stepped
        | exact advanceCall_accounted top stepped
  | beginSchedule key mtx =>
    simp only [step] at stepped
    split_ifs at stepped
    cases stepped
    exact beginSchedule_accounted (balanced r.count) t key mtx
  | beginCancel x =>
    simp only [step] at stepped
    split_ifs at stepped
    cases stepped
    exact (⟨rfl, rfl⟩ : Local r _ t none (some (.cancelTry x)) (r.calls t)).accounted_kept rfl
      fun _ => rfl
  | beginRunOnce now =>
    simp only [step] at stepped
    split_ifs at stepped
    cases stepped
    exact (⟨rfl, rfl⟩ : Local r _ t none (some (.collectLock now)) (r.calls t)).accounted_kept rfl
      fun _ => rfl
  | lockSession mtx =>
    simp only [step] at stepped
    split_ifs at stepped
    split at stepped
    · cases stepped
      exact accounted_of_calls_eq rfl rfl
    · split_ifs at stepped
      cases stepped
      exact accounted_of_calls_eq rfl rfl
  | unlockSession mtx =>
    simp only [step] at stepped
    split_ifs at stepped
    split at stepped
    · split_ifs at stepped
      all_goals
        cases stepped
        exact accounted_of_calls_eq rfl rfl
    · cases stepped

end Ledger

/-- The topmost call moves on or returns, and its thread-local flag stays. -/
theorem Disciplined.advance (disciplined : r.Disciplined) (top : r.calls t = call :: rest) (added : Option TaskCall)
    (after : r'.calls = Function.update r.calls t (added.toList ++ rest)) (grows : r.Grows r')
    (inRunner : r'.inRunner = r.inRunner) (tasks : r'.tasks = r.tasks ∨ call.locked = true)
    (mtx : r'.mtx = r.mtx ∨ r.mtx = none ∨ call.locked = true) (ready : ∀ next ∈ added, r'.CallReady next)
    (exclusive : ∀ next ∈ added, next.locked = true → r'.mtx = some t ∨ r'.mtx = r.mtx ∧ call.locked = true)
    (runOnce : call.isRunOnce = true → added.any TaskCall.isRunOnce = true)
    (handed : ∀ storage, r'.returned storage = true → r.returned storage = true ∨
      r'.history.inserted storage = true ∧ (r'.storages storage).itr = some storage) : r'.Disciplined := by
  have owner : call.locked = true → r.mtx = some t := disciplined.exclusive t call (by simp [top])
  refine disciplined.step (⟨top, after⟩ : Local r r' t (some call) added rest) ?_ grows
    (tasks.imp_right owner) (mtx.imp_right (.imp_right owner)) ready ?_
    (fun _ _ => congrFun inRunner _) ?_ handed
  · intro below member
    exact disciplined.suspended t below (by rw [top]; exact member)
  · intro next member locked
    rcases exclusive next member locked with taken | ⟨kept, mine⟩
    · exact taken
    · rw [kept, owner mine]
  · intro flag
    have inside := disciplined.flagged t (inRunner ▸ flag)
    rw [top, List.any_cons, Bool.or_eq_true] at inside
    rw [List.any_append, Bool.or_eq_true]
    refine inside.imp (fun own => ?_) id
    have new := runOnce own
    cases added with
    | none => cases new
    | some next => simpa using new

omit [DecidableEq Thread] in
theorem Grows.of_eq (storages : r'.storages = r.storages) (inserted : r'.history.inserted = r.history.inserted)
    (returned : r'.returned = r.returned) (claimed : r'.history.claimedByCancel = r.history.claimedByCancel) :
    r.Grows r' := by
  refine ⟨?_, ?_, ?_, ?_⟩ <;> simp only [storages, inserted, returned, claimed] <;> tauto

/-- Of the storages only `itr` matters. -/
theorem modStorage_grows (r : TaskRunner Thread) (x : Nat) {f : TaskStorage → TaskStorage}
    (itr : ∀ storage, (f storage).itr = storage.itr) (t : Thread) (stack : List TaskCall) :
    r.Grows ((r.modStorage x f).setStack t stack) := by
  refine ⟨fun _ given => given, fun _ given => given, fun _ given => given, ?_⟩
  intro storage _ own
  by_cases same : storage = x
  · subst same
    simpa [modStorage, setStack, itr] using own
  · simpa [modStorage, setStack, Function.update_of_ne same] using own

theorem advanceCall_disciplined (disciplined : r.Disciplined) (top : r.calls t = call :: rest)
    (stepped : r.advanceCall t rest call = .ok r') : r'.Disciplined := by
  -- outside of `mtx_` a step of the calling loop changes nothing the discipline speaks about
  have quiet : ∀ (next : TaskCall) (r' : TaskRunner Thread), next.isRunOnce = true →
      next.locked = false → r'.CallReady next → r.Grows r' →
      r'.calls = Function.update r.calls t (next :: rest) → r'.tasks = r.tasks → r'.mtx = r.mtx →
      r'.inRunner = r.inRunner → r'.returned = r.returned → r'.Disciplined := by
    intro next r' runOnce unlocked ready grows after tasks mtx inRunner returned
    refine disciplined.advance top (some next) after grows inRunner (.inl tasks) (.inl mtx) ?_ ?_ ?_ ?_
    · rintro _ ⟨⟩
      exact ready
    · rintro _ ⟨⟩ locked
      rw [unlocked] at locked
      contradiction
    · intro _
      exact runOnce
    · intro storage given
      rw [returned] at given
      exact .inl given
  cases call with
  | callTry triggers =>
    cases triggers with
    | nil =>
      cases stepped
      refine disciplined.step (⟨top, rfl⟩ : Local r _ t (some (.callTry [])) none rest) ?_
        (.of_eq rfl rfl rfl rfl) (.inl rfl) (.inl rfl) (by simp) (by simp) ?_ ?_ (fun _ given => .inl given)
      · intro below member
        exact disciplined.suspended t below (by rw [top]; exact member)
      · intro other different
        simp [setInRunner, setStack, Function.update_of_ne different]
      · intro flag
        simp [setInRunner, setStack] at flag
    | cons x triggers =>
      simp only [advanceCall] at stepped
      split_ifs at stepped
      · cases stepped
        exact quiet (.callTry triggers) _ rfl rfl trivial (.of_eq rfl rfl rfl rfl) rfl rfl rfl rfl rfl
      · cases stepped
        exact quiet (.callMutex x triggers) _ rfl rfl trivial (r.modStorage_grows x (by simp) _ _)
          rfl rfl rfl rfl rfl
  | callMutex x triggers =>
    simp only [advanceCall] at stepped
    split at stepped
    · cases stepped
      exact quiet (.running x triggers) _ rfl rfl trivial (.of_eq rfl rfl rfl rfl) rfl rfl rfl rfl rfl
    · split_ifs at stepped
      · cases stepped
        exact quiet (.running x triggers) _ rfl rfl trivial (.of_eq rfl rfl rfl rfl) rfl rfl rfl rfl rfl
      · cases stepped
        exact quiet (.callRetry x triggers) _ rfl rfl trivial (.of_eq rfl rfl rfl rfl) rfl rfl rfl rfl rfl
  | callRetry x triggers =>
    cases stepped
    exact quiet (.callTry (x :: triggers)) _ rfl rfl trivial (r.modStorage_grows x (by simp) _ _)
      rfl rfl rfl rfl rfl
  | running x triggers =>
    cases stepped
    exact quiet (.callUnlockMutex x triggers) _ rfl rfl trivial (.of_eq rfl rfl rfl rfl) rfl rfl rfl rfl rfl
  | callUnlockMutex x triggers =>
    cases stepped
    exact quiet (.callUnlock x triggers) _ rfl rfl trivial (.of_eq rfl rfl rfl rfl) rfl rfl rfl rfl rfl
  | callUnlock x triggers =>
    cases stepped
    exact quiet (.callTry triggers) _ rfl rfl trivial (r.modStorage_grows x (by simp) _ _)
      rfl rfl rfl rfl rfl
  | _ => cases stepped

theorem advanceSchedule_disciplined (disciplined : r.Disciplined) (top : r.calls t = call :: rest)
    (stepped : r.advanceSchedule t rest call = .ok r') : r'.Disciplined := by
  have ready : r.CallReady call := disciplined.ready t call (by simp [top])
  cases call with
  | scheduleLock x =>
    simp only [advanceSchedule] at stepped
    split_ifs at stepped with free
    cases stepped
    exact disciplined.advance top (some (.scheduleInsert x)) rfl (.of_eq rfl rfl rfl rfl) rfl (.inl rfl)
      (.inr (.inl (Option.isNone_iff_eq_none.mp free))) (by simp [CallReady]) (fun _ _ _ => .inl rfl)
      (by simp [isRunOnce]) (fun _ given => .inl given)
  | scheduleInsert x =>
    cases stepped
    refine disciplined.advance top (some (.scheduleSetItr x)) rfl ?_ rfl (.inr rfl) (.inl rfl)
      (by simp [CallReady, setStack]) (fun _ _ _ => .inr ⟨rfl, rfl⟩) (by simp [isRunOnce])
      (fun _ given => .inl given)
    refine ⟨?_, fun _ given => given, fun _ given => given, fun _ _ given => given⟩
    intro storage given
    by_cases same : storage = x
    · subst same
      simp [setStack]
    · simpa [setStack, Function.update_of_ne same] using given
  | scheduleSetItr x =>
    cases stepped
    refine disciplined.advance top (some (.scheduleUnlock x)) rfl ?_ rfl (.inl rfl) (.inl rfl) ?_
      (fun _ _ _ => .inr ⟨rfl, rfl⟩) (by simp [isRunOnce]) (fun _ given => .inl given)
    · refine ⟨fun _ given => given, fun _ given => given, fun _ given => given, ?_⟩
      intro storage _ own
      by_cases same : storage = x
      · subst same
        simp [modStorage, setStack]
      · simpa [modStorage, setStack, Function.update_of_ne same] using own
    · rintro _ ⟨⟩
      exact ⟨ready, by simp [modStorage, setStack]⟩
  | scheduleUnlock x =>
    cases stepped
    refine disciplined.advance top none rfl ?_ rfl (.inl rfl) (.inr (.inr rfl)) (by simp) (by simp)
      (by simp [isRunOnce]) ?_
    · refine ⟨fun _ given => given, ?_, fun _ given => given, fun _ _ given => given⟩
      intro storage given
      by_cases same : storage = x
      · subst same
        simp [setStack]
      · simpa [setStack, Function.update_of_ne same] using given
    · intro storage given
      by_cases same : storage = x
      · subst same
        exact .inr ready
      · left
        simpa [setStack, Function.update_of_ne same] using given
  | _ => cases stepped

/-- Erasing the head of a suffix leaves the suffix behind it in place, when its node occurs once. -/
theorem suffix_eraseTask {tasks rest : List (Int × Nat)} {key : Int} {x : Nat}
    (suffix : (key, x) :: rest <:+ tasks) (once : (tasks.map Prod.snd).count x = 1) :
    rest <:+ eraseTask x tasks := by
  obtain ⟨front, rfl⟩ := suffix
  have absent : x ∉ rest.map Prod.snd := by
    intro member
    have := List.count_pos_iff.mpr member
    simp only [List.map_append, List.map_cons, List.count_append, List.count_cons_self] at once
    omega
  have kept : rest.filter (fun task => task.2 ≠ x) = rest := by
    rw [List.filter_eq_self]
    intro task member
    have := List.mem_map_of_mem (f := Prod.snd) member
    simp only [ne_eq, decide_not, Bool.not_eq_true', decide_eq_false_iff_not]
    rintro rfl
    exact absent this
  refine ⟨front.filter fun task => task.2 ≠ x, ?_⟩
  simp only [eraseTask, List.filter_append, List.filter_cons, kept]
  simp

theorem advanceCancel_disciplined (disciplined : r.Disciplined) (top : r.calls t = call :: rest)
    (stepped : r.advanceCancel t rest call = .ok r') : r'.Disciplined := by
  have ready : r.CallReady call := disciplined.ready t call (by simp [top])
  cases call with
  | cancelTry x =>
    simp only [advanceCancel, noteCancelled_eq] at stepped
    split_ifs at stepped with taken inRunner
    · cases stepped
      exact disciplined.advance top none rfl (.of_eq rfl rfl rfl rfl) rfl (.inl rfl) (.inl rfl) (by simp)
        (by simp) (by simp [isRunOnce]) (fun _ given => .inl given)
    · cases stepped
      refine disciplined.advance top (some (.cancelWait x)) rfl (.of_eq rfl rfl rfl rfl) rfl (.inl rfl)
        (.inl rfl) ?_ (by simp [locked]) (by simp [isRunOnce]) (fun _ given => .inl given)
      rintro _ ⟨⟩
      exact ready
    · cases stepped
      refine disciplined.advance top (some (.cancelLock x)) rfl ?_ rfl (.inl rfl) (.inl rfl) ?_
        (by simp [locked]) (by simp [isRunOnce]) (fun _ given => .inl given)
      · refine ⟨fun _ given => given, fun _ given => given, ?_, ?_⟩
        · intro storage given
          by_cases same : storage = x
          · subst same
            simp [setStack, modHistory]
          · simpa [setStack, modHistory, modStorage, Function.update_of_ne same] using given
        · exact (r.modStorage_grows x (f := fun s => { s with invalid := true }) (by simp) t []).itr
      · rintro _ ⟨⟩
        exact ⟨ready, by simp [setStack, modHistory]⟩
  | cancelLock x =>
    simp only [advanceCancel] at stepped
    split_ifs at stepped with free
    cases stepped
    refine disciplined.advance top (some (.cancelErase x)) rfl (.of_eq rfl rfl rfl rfl) rfl (.inl rfl)
      (.inr (.inl (Option.isNone_iff_eq_none.mp free))) ?_ (fun _ _ _ => .inl rfl) (by simp [isRunOnce])
      (fun _ given => .inl given)
    rintro _ ⟨⟩
    exact ready
  | cancelErase x =>
    simp only [advanceCancel, (disciplined.handed x ready.1).2] at stepped
    cases stepped
    refine disciplined.advance top (some (.cancelUnlock x)) rfl (.of_eq rfl rfl rfl rfl) rfl (.inr rfl)
      (.inl rfl) ?_ (fun _ _ _ => .inr ⟨rfl, rfl⟩) (by simp [isRunOnce]) (fun _ given => .inl given)
    rintro _ ⟨⟩
    exact ready
  | cancelUnlock x =>
    simp only [advanceCancel, noteCancelled_eq] at stepped
    cases stepped
    exact disciplined.advance top none rfl (.of_eq rfl rfl rfl rfl) rfl (.inl rfl) (.inr (.inr rfl))
      (by simp) (by simp) (by simp [isRunOnce]) (fun _ given => .inl given)
  | cancelWait x =>
    simp only [advanceCancel, noteCancelled_eq] at stepped
    split_ifs at stepped with occupied
    cases stepped
    have grows := r.modStorage_grows x (f := fun s => { s with callLock := true }) (by simp) t []
    exact disciplined.advance top none rfl ⟨grows.inserted, grows.returned, grows.claimed, grows.itr⟩ rfl
      (.inl rfl) (.inl rfl) (by simp) (by simp) (by simp [isRunOnce]) (fun _ given => .inl given)
  | _ => cases stepped

omit [DecidableEq Thread] in
/-- A call that is about to erase a node holds the right to do so. -/
theorem erasing_pos [Fintype Thread] {x : Nat} (member : call ∈ r.calls t) (mine : (call.share x).erasing = 1) :
    0 < (r.ledger x).erasing := by
  have held : (call.share x).erasing ≤ (r.ledger x).erasing :=
    weight_le_tokens (fun call => (call.share x).erasing) member
  omega

theorem advanceCollect_disciplined [Fintype Thread] {stack : List TaskCall} (disciplined : r.Disciplined)
    (balanced : ∀ storage, (r.ledger storage).Balanced) (top : r.calls t = call :: stack)
    (stepped : r.advanceCollect t stack call = .ok r') : r'.Disciplined := by
  have ready : r.CallReady call := disciplined.ready t call (by simp [top])
  cases call with
  | collectLock now =>
    simp only [advanceCollect] at stepped
    split_ifs at stepped with free
    cases stepped
    refine disciplined.advance top (some (.collect now r.tasks [])) rfl (.of_eq rfl rfl rfl rfl) rfl
      (.inl rfl) (.inr (.inl (Option.isNone_iff_eq_none.mp free))) ?_ (fun _ _ _ => .inl rfl)
      (by simp [isRunOnce]) (fun _ given => .inl given)
    rintro _ ⟨⟩
    exact List.suffix_rfl
  | collect now rest triggers =>
    -- leaving the section, with or without tasks behind the current position
    have leaves : (({ r with mtx := none }).setStack t (.callTry triggers :: stack)).Disciplined :=
      disciplined.advance top (some (.callTry triggers)) rfl (.of_eq rfl rfl rfl rfl) rfl (.inl rfl)
        (.inr (.inr rfl)) (by simp [CallReady]) (by simp [locked]) (by simp [isRunOnce])
        (fun _ given => .inl given)
    cases rest with
    | nil =>
      cases stepped
      exact leaves
    | cons head rest =>
      obtain ⟨key, x⟩ := head
      simp only [advanceCollect] at stepped
      split_ifs at stepped with due taken
      · cases stepped
        refine disciplined.advance top (some (.collect now rest triggers)) rfl (.of_eq rfl rfl rfl rfl) rfl
          (.inl rfl) (.inl rfl) ?_ (fun _ _ _ => .inr ⟨rfl, rfl⟩) (by simp [isRunOnce])
          (fun _ given => .inl given)
        rintro _ ⟨⟩
        exact (List.suffix_cons _ _).trans ready
      · cases stepped
        refine disciplined.advance top (some (.collectErase now x rest (triggers ++ [x]))) rfl
          (r.modStorage_grows x (by simp) _ _) rfl (.inl rfl) (.inl rfl) ?_
          (fun _ _ _ => .inr ⟨rfl, rfl⟩) (by simp [isRunOnce]) (fun _ given => .inl given)
        rintro _ ⟨⟩
        exact ⟨key, ready⟩
      · cases stepped
        exact leaves
  | collectErase now x rest triggers =>
    cases stepped
    have mine : 0 < (r.ledger x).erasing :=
      erasing_pos (show TaskCall.collectErase now x rest triggers ∈ r.calls t by simp [top])
        (by simp [share])
    obtain ⟨key, suffix⟩ := ready
    refine disciplined.advance top (some (.collect now rest triggers)) rfl (.of_eq rfl rfl rfl rfl) rfl
      (.inr rfl) (.inl rfl) ?_ (fun _ _ _ => .inr ⟨rfl, rfl⟩) (by simp [isRunOnce])
      (fun _ given => .inl given)
    rintro _ ⟨⟩
    exact suffix_eraseTask suffix ((balanced x).node_of_erasing mine).1
  | _ => cases stepped

/-- A thread in application code starts a call. -/
theorem Disciplined.begin (disciplined : r.Disciplined) (application : inApplication (r.calls t) = true)
    (call : TaskCall) (after : r'.calls = Function.update r.calls t (call :: r.calls t)) (grows : r.Grows r')
    (tasks : r'.tasks = r.tasks) (mtx : r'.mtx = r.mtx) (returned : r'.returned = r.returned)
    (ready : r'.CallReady call) (unlocked : call.locked = false)
    (flags : ∀ other, other ≠ t → r'.inRunner other = r.inRunner other)
    (flagged : r'.inRunner t = true → r.inRunner t = true ∨ call.isRunOnce = true) : r'.Disciplined := by
  refine disciplined.step (⟨rfl, after⟩ : Local r r' t none (some call) (r.calls t)) ?_ grows
    (.inl tasks) (.inl mtx) ?_ ?_ flags ?_ (fun _ given => .inl (returned ▸ given))
  · intro below member
    cases top : r.calls t with
    | nil => simp [top] at member
    | cons head rest =>
      rw [top] at member application
      rcases List.mem_cons.mp member with rfl | deeper
      · cases below <;> first | rfl | cases application
      · exact disciplined.suspended t below (by rw [top]; exact deeper)
  · rintro _ ⟨⟩
    exact ready
  · rintro _ ⟨⟩ locked
    rw [unlocked] at locked
    contradiction
  · intro flag
    rw [List.any_append, Bool.or_eq_true]
    rcases flagged flag with old | new
    · exact .inr (disciplined.flagged t old)
    · exact .inl (by simpa using new)

theorem step_disciplined [Fintype Thread] {label : Thread × TaskOp} (disciplined : r.Disciplined)
    (balanced : ∀ storage, (r.ledger storage).Balanced) (stepped : r.step label = .ok r') : r'.Disciplined := by
  obtain ⟨t, op⟩ := label
  cases op with
  | advance =>
    simp only [step, advance] at stepped
    split at stepped
    · cases stepped
    · next call rest top =>
      split at stepped
      all_goals first
        | exact advanceSchedule_disciplined disciplined top stepped
        | exact advanceCancel_disciplined disciplined top stepped
        | exact advanceCollect_disciplined disciplined balanced top stepped
        | exact advanceCall_disciplined disciplined top stepped
  | beginSchedule key mtx =>
    simp only [step] at stepped
    split_ifs at stepped with application
    cases stepped
    refine disciplined.begin application (.scheduleLock r.count) rfl ?_ rfl rfl rfl trivial rfl
      (fun _ _ => rfl) .inl
    refine ⟨fun _ given => given, fun _ given => given, fun _ given => given, ?_⟩
    -- the new storage is not the inserted one, so no stored iterator is overwritten
    intro storage inserted own
    have present : storage ≠ r.count := by
      rintro rfl
      have scheduling := (balanced r.count).scheduling
      have unused : Nat.blt r.count r.count = false := by
        simp only [← Bool.not_eq_true, Nat.blt_eq]
        exact Nat.lt_irrefl _
      simp [ledger, sheet, inserted, unused] at scheduling
    simpa [modStorage, setStack, Function.update_of_ne present] using own
  | beginCancel x =>
    simp only [step] at stepped
    split_ifs at stepped with application handle
    cases stepped
    exact disciplined.begin application (.cancelTry x) rfl (.of_eq rfl rfl rfl rfl) rfl rfl rfl handle rfl
      (fun _ _ => rfl) .inl
  | beginRunOnce now =>
    simp only [step] at stepped
    split_ifs at stepped with application
    cases stepped
    refine disciplined.begin application (.collectLock now) rfl (.of_eq rfl rfl rfl rfl) rfl rfl rfl
      trivial rfl ?_ fun _ => .inr rfl
    intro other different
    simp [setInRunner, setStack, Function.update_of_ne different]
  | lockSession mtx =>
    simp only [step] at stepped
    split_ifs at stepped
    split at stepped
    · cases stepped
      exact ⟨disciplined.ready, disciplined.exclusive, disciplined.suspended, disciplined.flagged,
        disciplined.handed⟩
    · split_ifs at stepped
      cases stepped
      exact ⟨disciplined.ready, disciplined.exclusive, disciplined.suspended, disciplined.flagged,
        disciplined.handed⟩
  | unlockSession mtx =>
    simp only [step] at stepped
    split_ifs at stepped
    split at stepped
    · split_ifs at stepped
      all_goals
        cases stepped
        exact ⟨disciplined.ready, disciplined.exclusive, disciplined.suspended, disciplined.flagged,
          disciplined.handed⟩
    · cases stepped

section Runs

variable [Fintype Thread] {r : TaskRunner Thread}

/-- What holds between any two atomic steps. -/
structure Sound (r : TaskRunner Thread) : Prop where
  disciplined : r.Disciplined
  balanced : ∀ storage, (r.ledger storage).Balanced
  intact : r.history.staleErase = false

omit [DecidableEq Thread] in
/-- An owner of the right to erase uses an iterator to a node that is in place. -/
theorem Sound.eraseNode_intact (sound : r.Sound) {t : Thread} {call : TaskCall} {x : Nat} (member : call ∈ r.calls t)
    (mine : (call.share x).erasing = 1) : (r.eraseNode x).history.staleErase = false := by
  have once : (r.tasks.map Prod.snd).count x = 1 :=
    ((sound.balanced x).node_of_erasing (erasing_pos member mine)).1
  have present : x ∈ r.tasks.map Prod.snd := List.count_pos_iff.mp (by omega)
  simp only [eraseNode, sound.intact, Bool.false_or, Bool.not_eq_false', List.contains_iff_mem]
  exact present

theorem step_intact {r' : TaskRunner Thread} {label : Thread × TaskOp} (sound : r.Sound)
    (stepped : r.step label = .ok r') : r'.history.staleErase = false := by
  have intact := sound.intact
  obtain ⟨t, op⟩ := label
  cases op with
  | advance =>
    simp only [step, advance] at stepped
    split at stepped
    · cases stepped
    · next call rest top =>
      have member : call ∈ r.calls t := by simp [top]
      have ready := sound.disciplined.ready t call member
      cases call with
      | cancelErase x =>
        simp only [advanceCancel, (sound.disciplined.handed x ready.1).2] at stepped
        cases stepped
        exact sound.eraseNode_intact member (by simp [share])
      | collectErase now x rest triggers =>
        cases stepped
        exact sound.eraseNode_intact member (by simp [share])
      | callTry triggers =>
        cases triggers <;> simp only [advanceCall] at stepped
        · cases stepped
          exact intact
        · split_ifs at stepped <;> cases stepped <;> exact intact
      | collect now rest triggers =>
        cases rest <;> simp only [advanceCollect] at stepped
        · cases stepped
          exact intact
        · split_ifs at stepped <;> cases stepped <;> exact intact
      | _ =>
        simp only [advanceSchedule, advanceCancel, advanceCollect, advanceCall, noteCancelled_eq] at stepped
        repeat' split at stepped
        all_goals cases stepped <;> exact intact
  | _ =>
    simp only [step] at stepped
    repeat' split at stepped
    all_goals cases stepped <;> exact intact

theorem Sound.step {r' : TaskRunner Thread} {label : Thread × TaskOp} (sound : r.Sound)
    (stepped : r.step label = .ok r') : r'.Sound := by
  refine ⟨step_disciplined sound.disciplined sound.balanced stepped, ?_, step_intact sound stepped⟩
  intro storage
  rcases step_accounted sound.disciplined sound.balanced stepped storage with kept | moved
  · rw [kept]
    exact sound.balanced storage
  · exact (sound.balanced storage).step moved

omit [DecidableEq Thread] in
theorem Sound.initial : (({} : TaskRunner Thread)).Sound := by
  refine ⟨⟨?_, ?_, ?_, ?_, ?_⟩, ?_, rfl⟩
  · rintro t call ⟨⟩
  · rintro t call ⟨⟩
  · rintro t call ⟨⟩
  · rintro t ⟨⟩
  · rintro storage ⟨⟩
  · intro storage
    have unused : Nat.blt storage 0 = false := rfl
    have empty : ({} : TaskRunner Thread).ledger storage = {} := by
      simp [ledger, sheet, held, tokens_empty, unused]
    rw [empty]
    exact .initial

/-- Every state that any interleaving reaches is sound. -/
theorem Sound.of_reachable (reached : system.Reachable {} r) : r.Sound :=
  reached.invariant .initial fun _ _ _ sound _ stepped => sound.step stepped

end Runs

end TaskRunner

end PosixQuic
