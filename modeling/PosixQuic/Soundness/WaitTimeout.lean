import PosixQuic.Soundness.PollLock

/-! # What `Wait` makes of its timeout

The slices that `epoll_wait` times out in add up to the timeout. A positive count ends the loop at any time,
though, the notification of `timerNotifyThread_` included, and a negative timeout gives a deadline that has
passed; then the last `Poll` alone decides whether `Wait` returns zero.
-/

namespace PosixQuic

namespace TimedWait

variable {Thread : Type} {r : TimedWait Thread} {due clock deadline : Int} {loop : WaitLoop}

/-! ## Steps of `Wait` are steps of the notification protocol -/

section Refinement

variable [DecidableEq Thread]

theorem epollWait_notification {onceTimeout : Int} {answer : EpollAnswer}
    (waiting : Notification.isWaiting r.notification.waiter = true)
    (answered : answers r.notification onceTimeout answer = true) (deadline timeRemain : Int) :
    (r.epollWaitReturns deadline timeRemain onceTimeout answer).notification = r.notification ∨
      ∃ action, r.notification.admits action = true ∧
        (r.epollWaitReturns deadline timeRemain onceTimeout answer).notification = r.notification.step action := by
  cases answer with
  | interrupted => exact .inl rfl
  | failed => exact .inr ⟨.epollWaitFails, waiting, rfl⟩
  | fired notified => exact .inr ⟨.epollWaitReturns notified, answered, rfl⟩
  | timedOut elapsed =>
    unfold epollWaitReturns
    split_ifs
    · have admitted : r.notification.admits (.epollWaitReturns false) = true := by
        simp only [Notification.admits, waiting, Bool.not_false, Bool.or_true, Bool.and_self]
      exact .inr ⟨.epollWaitReturns false, admitted, rfl⟩
    · exact .inl rfl

theorem step_notification {label : WaitLabel Thread} (admitted : r.admits label = true) :
    (r.step label).notification = r.notification ∨
      ∃ action, r.notification.admits action = true ∧
        (r.step label).notification = r.notification.step action := by
  cases label with
  | other action => exact .inr ⟨action, (Bool.and_eq_true_iff.mp admitted).2, rfl⟩
  | tick | setDeadline => exact .inl rfl
  | wait maxevents timeout order => exact .inr ⟨.wait maxevents order, admitted, rfl⟩
  | poll => exact .inr ⟨.poll, admitted, rfl⟩
  | clear => exact .inr ⟨.clear, admitted, rfl⟩
  | pollAgain order => exact .inr ⟨.pollAgain order, admitted, rfl⟩
  | turn =>
    left
    simp only [step]
    split <;> rfl
  | epollWait answer =>
    cases place : r.loop with
    | blocked deadline timeRemain onceTimeout =>
      simp only [admits, place, Bool.and_eq_true] at admitted
      simp only [step, place]
      exact epollWait_notification admitted.1 admitted.2 deadline timeRemain
    | unset | turning | ended =>
      simp only [admits, place] at admitted
      cases admitted

theorem notification_reachable {start : Int} (run : (system Thread).Reachable (created start) r) :
    (Notification.system Thread).Reachable {} r.notification := by
  apply run.invariant (P := fun r => (Notification.system Thread).Reachable {} r.notification)
  · exact .refl _
  · rintro before label after run admitted ⟨⟩
    rcases step_notification admitted with same | ⟨action, admitted, moved⟩
    · rwa [same]
    · rw [moved]
      exact run.move admitted rfl

end Refinement

/-! ## The time that has passed -/

/-- What the variables of the loop say at the time `clock` of a call that is over at `due`. -/
def Keeps (due clock : Int) : WaitLoop → Prop
  | .unset => True
  | .turning deadline => due ≤ deadline
  | .blocked deadline timeRemain onceTimeout =>
    due ≤ deadline ∧ deadline ≤ clock + timeRemain ∧ onceTimeout = min timeRemain 10
  | .ended fired => fired = false → due ≤ clock

theorem Keeps.later {later : Int} (keeps : Keeps due clock loop) (passes : clock ≤ later) : Keeps due later loop := by
  cases loop with
  | unset => trivial
  | turning deadline => exact keeps
  | blocked deadline timeRemain onceTimeout =>
    obtain ⟨late, left, slice⟩ := keeps
    exact ⟨late, by omega, slice⟩
  | ended fired => exact fun timedOut => (keeps timedOut).trans passes

/-- `Wait` is past its loop. -/
def isPast : Waiter → Bool
  | .returned _ | .cleared _ | .polling false .. => true
  | .outside | .waiting _ | .polling true .. => false

/-- The loop has ended without waiting for the timeout. -/
def Early (r : TimedWait Thread) : Prop := r.loop = .ended true ∨ r.timeout < 0

instance (r : TimedWait Thread) : Decidable r.Early :=
  inferInstanceAs (Decidable (r.loop = .ended true ∨ r.timeout < 0))

structure Timely (r : TimedWait Thread) : Prop where
  since : r.began ≤ r.clock
  keeps : Keeps (r.began + r.timeout) r.clock r.loop
  past : isPast r.notification.waiter = true → ∃ fired, r.loop = .ended fired
  finds : ∀ maxevents rest count, r.notification.waiter = .polling false maxevents rest count → r.Early →
    0 < count ∨ ∃ fd ∈ rest, r.notification.Ready fd
  zero : r.result = some 0 → 0 ≤ r.timeout ∧ r.began + r.timeout ≤ r.clock

/-- Where `Wait` has ended its loop early, its last `Poll` begins with a registration to report. -/
def Fruitful (r : TimedWait Thread) : WaitLabel Thread → Prop
  | .pollAgain _ => r.Early → ∃ fd ∈ r.notification.fds.keys, r.notification.Ready fd
  | _ => True

instance (r : TimedWait Thread) : (label : WaitLabel Thread) → Decidable (r.Fruitful label)
  | .pollAgain _ => inferInstanceAs (Decidable (r.Early → ∃ fd ∈ r.notification.fds.keys, r.notification.Ready fd))
  | .other _ | .tick _ | .wait .. | .poll | .setDeadline | .turn | .epollWait _ | .clear =>
    inferInstanceAs (Decidable True)

/-- A step of `Wait` outside of `Poll`. -/
theorem Timely.moves (timely : r.Timely) {n : Notification Thread} {result : Option Int}
    (outside : Notification.isPolling n.waiter = false) (past : isPast n.waiter = true → ∃ fired, loop = .ended fired)
    (passes : r.clock ≤ clock) (keeps : Keeps (r.began + r.timeout) clock loop)
    (zero : result = some 0 → r.result = some 0) :
    ({ r with notification := n, clock, loop, result } : TimedWait Thread).Timely := by
  constructor
  · exact timely.since.trans passes
  · exact keeps
  · exact past
  · intro maxevents rest count place
    have place : n.waiter = .polling false maxevents rest count := place
    rw [place] at outside
    cases outside
  · intro isZero
    obtain ⟨nonneg, due⟩ := timely.zero (zero isZero)
    exact ⟨nonneg, due.trans passes⟩

/-- A step of `Wait` before the end of its loop. -/
theorem Timely.stays (timely : r.Timely) {n : Notification Thread} (outside : Notification.isPolling n.waiter = false)
    (before : isPast n.waiter = false) (passes : r.clock ≤ clock) (keeps : Keeps (r.began + r.timeout) clock loop) :
    ({ r with notification := n, clock, loop } : TimedWait Thread).Timely := by
  apply timely.moves outside _ passes keeps id
  intro past
  exact absurd (before.symm.trans past) Bool.false_ne_true

/-- The last `Poll` returns zero only if it had nothing to find. -/
theorem Timely.zero_of_returned (timely : r.Timely) (room : Notification.Roomy r.notification.waiter)
    {first : Bool} {maxevents count : Nat} {rest : List Fd}
    (place : r.notification.waiter = .polling first maxevents rest count) (done : rest = [] ∨ maxevents ≤ count)
    (zero : returned r.notification (r.notification.pollReturns first maxevents count) = some 0) :
    0 ≤ r.timeout ∧ r.began + r.timeout ≤ r.clock := by
  rw [place] at room
  have room : 1 ≤ maxevents := room
  unfold returned Notification.pollReturns at zero
  rw [place] at zero
  split_ifs at zero with goesOn
  have nothing : count = 0 := by simpa using zero
  subst nothing
  have last : first = false := by simpa using goesOn
  subst last
  have late : ¬ r.Early := by
    intro early
    rcases timely.finds maxevents rest 0 place early with stored | ⟨fd, visits, -⟩
    · omega
    · rcases done with rfl | full
      · cases visits
      · omega
  obtain ⟨fired, ended⟩ := timely.past (place ▸ rfl)
  have timedOut : fired = false := by
    apply Bool.eq_false_of_not_eq_true
    rintro rfl
    exact late (.inl ended)
  have keeps := timely.keeps
  rw [ended] at keeps
  exact ⟨not_lt.mp fun negative => late (.inr negative), keeps timedOut⟩

variable [DecidableEq Thread]

theorem Timely.tick (timely : r.Timely) (elapsed : Nat) : (r.step (.tick elapsed)).Timely := by
  constructor
  · exact timely.since.trans (by simp [step])
  · exact timely.keeps.later (by simp [step])
  · exact timely.past
  · exact timely.finds
  · intro zero
    obtain ⟨nonneg, due⟩ := timely.zero zero
    exact ⟨nonneg, due.trans (by simp [step])⟩

theorem Timely.other (timely : r.Timely) (orderly : r.notification.Orderly) {action : NotifyAction Thread}
    (other : action.isOther = true) (admitted : r.notification.admits action = true) :
    (r.step (.other action)).Timely := by
  have waiter : (r.notification.step action).waiter = r.notification.waiter := Notification.step_waiter other
  constructor
  · exact timely.since
  · exact timely.keeps
  · intro past
    exact timely.past (waiter ▸ past)
  · intro maxevents rest count place early
    have place : r.notification.waiter = .polling false maxevents rest count := waiter.symm.trans place
    have locked := (orderly.polls (place ▸ rfl)).1
    refine (timely.finds maxevents rest count place early).imp_right ?_
    rintro ⟨fd, visits, ready⟩
    exact ⟨fd, visits, Notification.step_ready other locked admitted ready⟩
  · exact timely.zero

theorem timely_wait (r : TimedWait Thread) (maxevents : Nat) (timeout : Int) (order : List Fd) :
    (r.step (.wait maxevents timeout order)).Timely where
  since := le_rfl
  keeps := trivial
  past := nofun
  finds _ _ _ place := nomatch place
  zero := nofun

theorem Timely.poll (timely : r.Timely) (room : Notification.Roomy r.notification.waiter)
    (polling : Notification.isPolling r.notification.waiter = true) : (r.step .poll).Timely := by
  cases place : r.notification.waiter with
  | polling first maxevents rest count =>
    rcases Notification.poll_cases place with
      ⟨polled, done⟩ | ⟨fd, left, count', rfl, waiter, -, -, others, more, reports⟩
    · have stepped : r.step .poll = { r with
          notification := r.notification.pollReturns first maxevents count
          result := returned r.notification (r.notification.pollReturns first maxevents count) } := by
        rw [← polled]
        rfl
      have before : isPast (r.notification.pollReturns first maxevents count).waiter = false := by
        unfold Notification.pollReturns
        split_ifs <;> rfl
      rw [stepped]
      constructor
      · exact timely.since
      · exact timely.keeps
      · intro past
        exact absurd (before.symm.trans past) Bool.false_ne_true
      · intro maxevents' rest' count' place'
        have place' : (r.notification.pollReturns first maxevents count).waiter = _ := place'
        rw [place'] at before
        cases before
      · exact timely.zero_of_returned room place done
    · have same : isPast r.notification.poll.waiter = isPast r.notification.waiter := by
        rw [waiter, place]
        cases first <;> rfl
      constructor
      · exact timely.since
      · exact timely.keeps
      · intro past
        exact timely.past (same.symm.trans past)
      · intro maxevents' rest' count'' place' early
        cases waiter.symm.trans place'
        rcases timely.finds _ _ _ place early with stored | ⟨found, visits, ready⟩
        · exact .inl (stored.trans_le more)
        · by_cases here : found = fd
          · exact .inl (reports (here ▸ ready))
          · right
            obtain ⟨watched, held, pending⟩ := ready
            exact ⟨found, (List.mem_cons.mp visits).resolve_left here, watched, (others found here).trans held, pending⟩
      · intro zero
        have none : returned r.notification r.notification.poll = none := by
          unfold returned
          rw [place, waiter]
        cases none.symm.trans zero
  | outside | waiting | returned | cleared =>
    rw [place] at polling
    cases polling

/-- The slice of a turn covers the rest of the time or ten milliseconds of it. -/
theorem keeps_turn (late : due ≤ deadline) :
    Keeps due clock (.blocked deadline (if deadline > clock then deadline - clock else 0)
      (min (if deadline > clock then deadline - clock else 0) 10)) := by
  refine ⟨late, ?_, rfl⟩
  split_ifs <;> omega

/-- A slice that is the last one ends at the deadline. -/
theorem Keeps.timedOut {timeRemain onceTimeout : Int} {elapsed : Nat}
    (keeps : Keeps due clock (.blocked deadline timeRemain onceTimeout)) (slept : onceTimeout ≤ elapsed)
    (last : onceTimeout = 0 ∨ timeRemain = onceTimeout) : due ≤ clock + elapsed := by
  obtain ⟨late, left, slice⟩ := keeps
  omega

theorem Timely.epollWait (timely : r.Timely) {timeRemain onceTimeout : Int} {answer : EpollAnswer}
    (place : r.loop = .blocked deadline timeRemain onceTimeout)
    (waiting : Notification.isWaiting r.notification.waiter = true)
    (answered : answers r.notification onceTimeout answer = true) :
    (r.epollWaitReturns deadline timeRemain onceTimeout answer).Timely := by
  have keeps := timely.keeps
  rw [place] at keeps
  obtain ⟨maxevents, here⟩ := Notification.isWaiting_iff.mp waiting
  cases answer with
  | interrupted => exact timely
  | failed =>
    apply timely.moves rfl _ le_rfl (place ▸ keeps)
    · intro isZero
      exact absurd isZero (by decide)
    · intro past
      exact absurd past Bool.false_ne_true
  | fired notified =>
    simp only [epollWaitReturns, Notification.step, here]
    exact timely.moves rfl (fun _ => ⟨true, rfl⟩) le_rfl (fun isFalse => absurd isFalse (by decide)) id
  | timedOut elapsed =>
    have slept : onceTimeout ≤ elapsed := of_decide_eq_true answered
    have passes : r.clock ≤ r.clock + elapsed := by omega
    unfold epollWaitReturns
    split_ifs with last
    · simp only [Notification.step, here]
      exact timely.moves rfl (fun _ => ⟨false, rfl⟩) passes (fun _ => keeps.timedOut slept last) id
    · exact timely.stays (here ▸ rfl) (here ▸ rfl) passes keeps.1

theorem Timely.step (timely : r.Timely) (orderly : r.notification.Orderly) {label : WaitLabel Thread}
    (admitted : r.admits label = true) (fruitful : r.Fruitful label) : (r.step label).Timely := by
  cases label with
  | other action =>
    simp only [admits, Bool.and_eq_true] at admitted
    exact timely.other orderly admitted.1 admitted.2
  | tick elapsed => exact timely.tick elapsed
  | wait maxevents timeout order => exact timely_wait r maxevents timeout order
  | poll => exact timely.poll orderly.room admitted
  | setDeadline =>
    simp only [admits, Bool.and_eq_true] at admitted
    have since := timely.since
    obtain ⟨maxevents, here⟩ := Notification.isWaiting_iff.mp admitted.1
    have keeps : Keeps (r.began + r.timeout) r.clock (.turning (r.clock + r.timeout)) := by
      change r.began + r.timeout ≤ r.clock + r.timeout
      omega
    exact timely.stays (here ▸ rfl) (here ▸ rfl) le_rfl keeps
  | turn =>
    have keeps := timely.keeps
    cases place : r.loop with
    | turning deadline =>
      rw [place] at keeps
      simp only [admits, place] at admitted
      simp only [TimedWait.step, place]
      obtain ⟨maxevents, here⟩ := Notification.isWaiting_iff.mp admitted
      exact timely.stays (here ▸ rfl) (here ▸ rfl) le_rfl (keeps_turn keeps)
    | unset | blocked | ended =>
      simp only [admits, place] at admitted
      cases admitted
  | epollWait answer =>
    cases place : r.loop with
    | blocked deadline timeRemain onceTimeout =>
      simp only [admits, place, Bool.and_eq_true] at admitted
      simp only [TimedWait.step, place]
      exact timely.epollWait place admitted.1 admitted.2
    | unset | turning | ended =>
      simp only [admits, place] at admitted
      cases admitted
  | clear =>
    obtain ⟨maxevents, here⟩ := Notification.isReturned_iff.mp admitted
    have past := timely.past (here ▸ rfl)
    simp only [TimedWait.step, Notification.step, here]
    exact timely.moves rfl (fun _ => past) le_rfl timely.keeps id
  | pollAgain order =>
    simp only [admits, Notification.admits, Bool.and_eq_true, decide_eq_true_eq] at admitted
    obtain ⟨⟨cleared, -⟩, whole⟩ := admitted
    obtain ⟨maxevents, here⟩ := Notification.isCleared_iff.mp cleared
    have past := timely.past (here ▸ rfl)
    simp only [TimedWait.step, Notification.step, here]
    refine ⟨timely.since, timely.keeps, fun _ => past, ?_, timely.zero⟩
    rintro _ _ _ ⟨⟩ early
    obtain ⟨fd, held, ready⟩ := fruitful early
    exact .inr ⟨fd, whole.mem_iff.mpr held, ready⟩

/-- If the last `Poll` of `Wait` finds something whenever a positive count has ended the loop or the timeout is
negative, then `Wait` returns zero only with a timeout that is not negative and has passed since the call. -/
theorem wait_zero_after_timeout {start : Int}
    (run : ((system Thread).restrict Fruitful).Reachable (created start) r) (zero : r.result = some 0) :
    0 ≤ r.timeout ∧ r.timeout ≤ r.clock - r.began := by
  have sound : (system Thread).Reachable (created start) r ∧ r.Timely := by
    apply run.invariant (P := fun r => (system Thread).Reachable (created start) r ∧ r.Timely)
    · exact ⟨.refl _, le_rfl, trivial, nofun, nofun, nofun⟩
    · rintro before label after ⟨run, timely⟩ ⟨admitted, fruitful⟩ ⟨⟩
      have orderly : before.notification.Orderly := .of_reachable (notification_reachable run)
      exact ⟨run.move admitted rfl, timely.step orderly admitted fruitful⟩
  obtain ⟨nonneg, due⟩ := sound.2.zero zero
  exact ⟨nonneg, by omega⟩

/-- Ready at once, then three slices of a timeout of 25 milliseconds with an interruption in the second. -/
def waitsTwice : List (WaitLabel Unit) :=
  [.other (.add 1 { pollin := true } 0 { pollin := true }), .wait 8 (-1) [1], .poll, .poll, .wait 8 25 [1], .poll, .poll,
    .setDeadline, .turn, .epollWait (.timedOut 10), .turn, .epollWait .interrupted, .epollWait (.timedOut 12), .turn,
    .epollWait (.timedOut 3), .clear, .pollAgain [1], .poll, .poll]

theorem waitsTwice_in_time :
    ∃ r, ((system Unit).restrict Fruitful).replay? (created 7) waitsTwice = some r ∧ r.result = some 0 ∧
      r.timeout = 25 ∧ r.timeout ≤ r.clock - r.began := by
  have ends : ∃ r ∈ ((system Unit).restrict Fruitful).replay? (created 7) waitsTwice,
      r.result = some 0 ∧ r.timeout = 25 := by decide
  obtain ⟨r, executed, zero, timeout⟩ := ends
  have run := Machine.System.reachable_of_replay? executed
  exact ⟨r, executed, zero, timeout, (wait_zero_after_timeout run zero).2⟩

/-- The first `Wait` of a new epoller, which the notification armed by the constructor ends. -/
def waitsForSecond : List (WaitLabel Unit) :=
  [.wait 8 1000 [], .poll, .setDeadline, .turn, .epollWait (.fired true), .clear, .pollAgain [], .poll]

/-- A `Wait` without end, whose deadline is in the past. -/
def waitsForEver : List (WaitLabel Unit) :=
  [.wait 8 (-1) [], .poll, .setDeadline, .turn, .epollWait (.timedOut 0), .clear, .pollAgain [], .poll]

theorem waits_return_zero_at_once :
    ∃ r ∈ (system Unit).replay? (created 0) waitsForSecond, r.result = some 0 ∧ r.timeout = 1000 ∧ r.began = 0 ∧
      r.clock = 0 ∧ ∃ r' ∈ (system Unit).replay? r waitsForEver, r'.result = some 0 ∧ r'.timeout = -1 := by
  decide

end TimedWait

end PosixQuic
