import PosixQuic.Model.TimedWait
import PosixQuic.Soundness.Wakeup
import Mathlib.Tactic

/-! # `Poll` under `mtx_`

One call of `ModInner` or one `Poll` has the lock at a time. So while `Poll` visits the registrations, the other
threads cannot change them, and what they trigger only adds to what it finds.
-/

namespace PosixQuic

/-- What `Poll` reports of a registration. -/
def Watched.ready (watched : Watched) : PollMask := watched.revents.inter watched.reportable

theorem Watched.ready_ne_empty_iff (watched : Watched) :
    watched.ready ≠ {} ↔ ∃ bit, watched.revents.has bit = true ∧ watched.reportable.has bit = true := by
  simp only [ne_eq, PollMask.eq_empty_iff, Watched.ready, PollMask.has_inter, not_forall, Bool.not_eq_false,
    Bool.and_eq_true]

theorem Watched.ready_announce {watched : Watched} (ready : watched.ready ≠ {}) (bit : PollBit) :
    (watched.announce bit).ready ≠ {} := by
  obtain ⟨other, pending, reportable⟩ := watched.ready_ne_empty_iff.mp ready
  refine (Watched.ready_ne_empty_iff _).mpr ⟨other, ?_, reportable⟩
  rw [Watched.announce, PollMask.has_set, pending, Bool.true_or]

/-- The call is inside of `ModInner`, which holds `mtx_`. -/
def NotifyCall.holdsLock : NotifyCall → Bool
  | .modOr _ | .testAndSet true | .rearm true => true
  | .idle | .triggerOr _ _ | .testAndSet false | .rearm false => false

namespace Notification

variable {Thread : Type} {n n' : Notification Thread}

/-- `Poll` would report the registration of `fd`. -/
def Ready (n : Notification Thread) (fd : Fd) : Prop := ∃ watched ∈ n.fds.lookup fd, watched.ready ≠ {}

instance (n : Notification Thread) (fd : Fd) : Decidable (n.Ready fd) :=
  inferInstanceAs (Decidable (∃ watched ∈ n.fds.lookup fd, watched.ready ≠ {}))

/-! ## `mtx_` and the room for events -/

/-- The room that `Wait` was given. -/
def Roomy : Waiter → Prop
  | .outside => True
  | .polling _ maxevents _ _ | .waiting maxevents | .returned maxevents | .cleared maxevents => 1 ≤ maxevents

/-- `mtx_` is held by one call at most, and by none while `Poll` holds it. -/
structure Orderly (n : Notification Thread) : Prop where
  polls : isPolling n.waiter = true → n.mtx = true ∧ ∀ thread, (n.calls thread).holdsLock = false
  free : n.mtx = false → ∀ thread, (n.calls thread).holdsLock = false
  one : ∀ left right, (n.calls left).holdsLock = true → (n.calls right).holdsLock = true → left = right
  room : Roomy n.waiter

/-- Nobody begins to hold the lock, and the waiting thread stays where it is. -/
theorem Orderly.fewer (orderly : n.Orderly)
    (fewer : ∀ thread, (n'.calls thread).holdsLock = true → (n.calls thread).holdsLock = true)
    (mtx : n'.mtx = n.mtx) (waiter : n'.waiter = n.waiter) : n'.Orderly := by
  have nobody (none : ∀ thread, (n.calls thread).holdsLock = false) (thread) : (n'.calls thread).holdsLock = false :=
    Bool.eq_false_of_not_eq_true fun holds => Bool.false_ne_true ((none thread).symm.trans (fewer thread holds))
  constructor
  · intro polling
    obtain ⟨locked, none⟩ := orderly.polls (waiter ▸ polling)
    exact ⟨mtx.trans locked, nobody none⟩
  · intro unlocked
    exact nobody (orderly.free (mtx.symm.trans unlocked))
  · intro left right holdsLeft holdsRight
    exact orderly.one left right (fewer left holdsLeft) (fewer right holdsRight)
  · exact waiter ▸ orderly.room

/-- The waiting thread goes on, and is outside of `Poll` unless it was inside. -/
theorem Orderly.moves (orderly : n.Orderly) (calls : n'.calls = n.calls) (mtx : n'.mtx = n.mtx)
    (polls : isPolling n'.waiter = true → isPolling n.waiter = true) (room : Roomy n'.waiter) : n'.Orderly := by
  constructor
  · intro polling
    rw [mtx, calls]
    exact orderly.polls (polls polling)
  · rw [mtx, calls]
    exact orderly.free
  · rw [calls]
    exact orderly.one
  · exact room

theorem Orderly.leaves (orderly : n.Orderly) (calls : n'.calls = n.calls) (mtx : n'.mtx = n.mtx)
    (outside : isPolling n'.waiter = false) (room : Roomy n'.waiter) : n'.Orderly := by
  apply orderly.moves calls mtx
  · intro polling
    exact absurd (outside.symm.trans polling) Bool.false_ne_true
  · exact room

theorem Orderly.of_nobody (nobody : ∀ thread, (n.calls thread).holdsLock = false)
    (locked : isPolling n.waiter = true → n.mtx = true) (room : Roomy n.waiter) : n.Orderly where
  polls polling := ⟨locked polling, nobody⟩
  free _ := nobody
  one left _ holds _ := absurd ((nobody left).symm.trans holds) Bool.false_ne_true
  room := room

theorem modify_mtx (n : Notification Thread) (fd : Fd) (change : Watched → Watched) :
    (n.modify fd change).mtx = n.mtx := by
  unfold modify
  split <;> rfl

/-- One iteration of `Poll`: it returns, or it visits the next registration. -/
theorem poll_cases {first : Bool} {maxevents count : Nat} {rest : List Fd}
    (place : n.waiter = .polling first maxevents rest count) :
    (n.poll = n.pollReturns first maxevents count ∧ (rest = [] ∨ maxevents ≤ count)) ∨
      ∃ fd left count', rest = fd :: left ∧ n.poll.waiter = .polling first maxevents left count' ∧
        n.poll.mtx = n.mtx ∧ n.poll.calls = n.calls ∧
        (∀ other, other ≠ fd → n.poll.fds.lookup other = n.fds.lookup other) ∧ count ≤ count' ∧
        (n.Ready fd → 0 < count') := by
  cases rest with
  | nil =>
    left
    simp only [poll, place, true_or, and_self]
  | cons fd rest =>
    by_cases full : count ≥ maxevents
    · left
      simp only [poll, place, if_pos full, true_and]
      exact .inr full
    · right
      cases found : n.fds.lookup fd with
      | none =>
        have polled : n.poll = { n with waiter := .polling first maxevents rest count } := by
          simp only [poll, place, if_neg full, found]
        rw [polled]
        refine ⟨fd, rest, count, rfl, rfl, rfl, rfl, fun _ _ => rfl, le_rfl, ?_⟩
        rintro ⟨watched, held, -⟩
        rw [found] at held
        cases held
      | some watched =>
        have polled : n.poll = { n with
            fds := n.fds.insert fd watched.take
            waiter := .polling first maxevents rest
              (if watched.revents.inter watched.reportable = {} then count else count + 1) } := by
          simp only [poll, place, if_neg full, found, modify]
        rw [polled]
        refine ⟨fd, rest, _, rfl, rfl, rfl, rfl, fun _ distinct => AList.lookup_insert_ne distinct, ?_, ?_⟩
        · split_ifs <;> omega
        · rintro ⟨held, same, ready⟩
          rw [found] at same
          cases same
          rw [if_neg (show ¬ watched.revents.inter watched.reportable = {} from ready)]
          omega

theorem poll_orderly (orderly : n.Orderly) : n.poll.Orderly := by
  cases place : n.waiter with
  | polling first maxevents rest count =>
    have room : 1 ≤ maxevents := by
      have room := orderly.room
      rwa [place] at room
    have polling : isPolling n.waiter = true := place ▸ rfl
    rcases poll_cases place with ⟨polled, -⟩ | ⟨fd, left, count', -, waiter, mtx, calls, -⟩
    · rw [polled]
      apply Orderly.of_nobody
      · exact (orderly.polls polling).2
      · intro polling
        unfold pollReturns at polling
        split_ifs at polling <;> cases polling
      · unfold pollReturns
        split_ifs
        · exact room
        · exact trivial
    · apply orderly.moves calls mtx
      · exact fun _ => polling
      · rw [waiter]
        exact room
  | outside | waiting | returned | cleared =>
    have polled : n.poll = n := by simp only [poll, place]
    rwa [polled]

theorem beginPoll_orderly (orderly : n.Orderly) (unlocked : n.mtx = false) {first : Bool} {maxevents : Nat}
    {order : List Fd} (room : 1 ≤ maxevents) : (n.beginPoll first maxevents order).Orderly := by
  apply Orderly.of_nobody
  · exact orderly.free unlocked
  · exact fun _ => rfl
  · exact room

theorem ready_modify {fd : Fd} (ready : n.Ready fd) (target : Fd) (bit : PollBit) :
    (n.modify target (·.announce bit)).Ready fd := by
  obtain ⟨watched, found, pending⟩ := ready
  unfold modify
  split
  · exact ⟨watched, found, pending⟩
  · next held here =>
    by_cases same : fd = target
    · subst same
      cases here.symm.trans found
      exact ⟨_, AList.lookup_insert _, Watched.ready_announce pending bit⟩
    · exact ⟨watched, (AList.lookup_insert_ne same).trans found, pending⟩

variable [DecidableEq Thread] {thread : Thread} {action : NotifyAction Thread}

/-- A thread goes over to another call that does not take the lock. -/
theorem Orderly.setCall (orderly : n.Orderly) (call : NotifyCall)
    (kept : call.holdsLock = true → (n.calls thread).holdsLock = true)
    (calls : n'.calls = Function.update n.calls thread call) (mtx : n'.mtx = n.mtx) (waiter : n'.waiter = n.waiter) :
    n'.Orderly := by
  apply orderly.fewer
  · intro other holds
    rw [calls] at holds
    by_cases same : other = thread
    · subst same
      rw [Function.update_self] at holds
      exact kept holds
    · rwa [Function.update_of_ne same] at holds
  · exact mtx
  · exact waiter

/-- `ModInner` leaves: it alone had the lock. -/
theorem leave_orderly (orderly : n.Orderly) {inMod : Bool} (holds : inMod = true → (n.calls thread).holdsLock = true) :
    (n.leave thread inMod).Orderly := by
  cases inMod with
  | false => exact orderly.setCall .idle nofun rfl (Bool.and_true _) rfl
  | true =>
    apply Orderly.of_nobody
    · intro other
      by_cases same : other = thread
      · subst same
        change (Function.update n.calls other .idle other).holdsLock = false
        rw [Function.update_self]
        rfl
      · change (Function.update n.calls thread .idle other).holdsLock = false
        rw [Function.update_of_ne same]
        exact Bool.eq_false_of_not_eq_true fun held => same (orderly.one other thread held (holds rfl))
    · intro polling
      exact absurd ((orderly.polls polling).2 thread) (by rw [holds rfl]; decide)
    · exact orderly.room

theorem advance_orderly (orderly : n.Orderly) (thread : Thread) : (n.advance thread).Orderly := by
  unfold advance
  cases calling : n.calls thread with
  | idle => exact orderly
  | triggerOr fd bit =>
    obtain ⟨calls, -, waiter, -⟩ := n.modify_frame fd (·.announce bit)
    exact orderly.setCall (.testAndSet false) nofun (congrArg (Function.update · thread _) calls) (modify_mtx ..) waiter
  | modOr fd =>
    obtain ⟨calls, -, waiter, -⟩ := n.modify_frame fd (·.announce .pollout)
    exact orderly.setCall (.testAndSet true) (fun _ => calling ▸ rfl) (congrArg (Function.update · thread _) calls) (modify_mtx ..) waiter
  | testAndSet inMod =>
    have holds : inMod = true → (n.calls thread).holdsLock = true := by
      rintro rfl
      rw [calling]
      rfl
    dsimp only
    split_ifs
    · exact leave_orderly orderly holds
    · have kept : (NotifyCall.rearm inMod).holdsLock = true → (n.calls thread).holdsLock = true := by
        cases inMod with
        | false => exact nofun
        | true => exact fun _ => holds rfl
      exact orderly.setCall _ kept rfl rfl rfl
  | rearm inMod =>
    have holds : inMod = true → (n.calls thread).holdsLock = true := by
      rintro rfl
      rw [calling]
      rfl
    exact (leave_orderly orderly holds).fewer (fun _ held => held) rfl rfl

theorem trigger_orderly (orderly : n.Orderly) (thread : Thread) (fd : Fd) (bit : PollBit) :
    (n.trigger thread fd bit).Orderly := by
  unfold trigger
  split
  · exact orderly
  · split_ifs
    · exact orderly.setCall (.triggerOr fd bit) nofun rfl rfl rfl
    · exact orderly

/-- `ModInner` takes the lock that nobody has. -/
theorem mod_orderly (orderly : n.Orderly) (unlocked : n.mtx = false) (thread : Thread) (fd : Fd) (events : PollMask)
    (data : Nat) : (n.mod thread fd events data).Orderly := by
  unfold mod
  split
  · exact orderly
  · obtain ⟨calls, -, waiter, -⟩ := n.modify_frame fd fun watched => { watched with events, data }
    have only (other : Thread) (held : (Function.update (n.modify fd fun watched => { watched with events, data }).calls
        thread (if events.pollout then .modOr fd else .testAndSet true) other).holdsLock = true) : other = thread := by
      by_contra distinct
      rw [Function.update_of_ne distinct, calls, orderly.free unlocked other] at held
      cases held
    constructor
    · intro polling
      have polling : isPolling n.waiter = true := waiter ▸ polling
      exact absurd ((orderly.polls polling).1.symm.trans unlocked) (by decide)
    · exact nofun
    · intro left right holdsLeft holdsRight
      rw [only left holdsLeft, only right holdsRight]
    · exact waiter ▸ orderly.room

theorem step_orderly (orderly : n.Orderly) (admitted : n.admits action = true) : (n.step action).Orderly := by
  cases action with
  | add | del => exact orderly.fewer (fun _ held => held) rfl rfl
  | trigger thread fd bit => exact trigger_orderly orderly thread fd bit
  | mod thread fd events data =>
    simp only [admits, Bool.and_eq_true, Bool.not_eq_true'] at admitted
    exact mod_orderly orderly admitted.2 thread fd events data
  | timer thread => exact orderly.setCall (.testAndSet false) (fun held => absurd held Bool.false_ne_true) rfl rfl rfl
  | advance thread => exact advance_orderly orderly thread
  | wait maxevents order =>
    simp only [admits, Bool.and_eq_true, Bool.not_eq_true', decide_eq_true_eq] at admitted
    exact beginPoll_orderly orderly admitted.1.1.2 admitted.1.2
  | poll => exact poll_orderly orderly
  | epollWaitFails => exact orderly.leaves rfl rfl rfl trivial
  | epollWaitReturns notified =>
    have room := orderly.room
    obtain ⟨maxevents, place⟩ := isWaiting_iff.mp (Bool.and_eq_true_iff.mp admitted).1
    rw [place] at room
    simp only [step, place]
    exact orderly.leaves rfl rfl rfl room
  | clear =>
    have room := orderly.room
    obtain ⟨maxevents, place⟩ := isReturned_iff.mp admitted
    rw [place] at room
    simp only [step, place]
    exact orderly.leaves rfl rfl rfl room
  | pollAgain order =>
    have room := orderly.room
    simp only [admits, Bool.and_eq_true, Bool.not_eq_true'] at admitted
    obtain ⟨⟨cleared, unlocked⟩, -⟩ := admitted
    obtain ⟨maxevents, place⟩ := isCleared_iff.mp cleared
    rw [place] at room
    simp only [step, place]
    exact beginPoll_orderly orderly unlocked room

theorem Orderly.of_reachable (run : (system Thread).Reachable {} n) : n.Orderly := by
  apply run.invariant (P := Orderly)
  · exact .of_nobody (fun _ => rfl) nofun trivial
  · rintro before action after orderly admitted ⟨⟩
    exact step_orderly orderly admitted

/-! ## What the other threads leave alone -/

theorem step_waiter (other : action.isOther = true) : (n.step action).waiter = n.waiter := by
  cases action with
  | add | del | timer => rfl
  | trigger thread fd bit =>
    simp only [step, trigger]
    split
    · rfl
    · split_ifs <;> rfl
  | mod thread fd events data =>
    simp only [step, mod]
    split
    · rfl
    · exact (n.modify_frame fd _).2.2.1
  | advance thread =>
    simp only [step, advance]
    split
    · rfl
    · exact (n.modify_frame _ _).2.2.1
    · exact (n.modify_frame _ _).2.2.1
    · split_ifs <;> rfl
    · rfl
  | wait | poll | epollWaitReturns | epollWaitFails | clear | pollAgain => cases other

/-- While `Poll` holds `mtx_`, the other threads only add to what it will find. -/
theorem step_ready (other : action.isOther = true) (locked : n.mtx = true) (admitted : n.admits action = true)
    {fd : Fd} (ready : n.Ready fd) : (n.step action).Ready fd := by
  cases action with
  | timer => exact ready
  | add | del | mod =>
    simp only [admits, locked, Bool.not_true, Bool.false_and, Bool.and_false] at admitted
    cases admitted
  | trigger thread fd bit =>
    simp only [step, trigger]
    split
    · exact ready
    · split_ifs <;> exact ready
  | advance thread =>
    simp only [step, advance]
    split
    · exact ready
    · exact ready_modify ready _ _
    · exact ready_modify ready _ _
    · split_ifs <;> exact ready
    · exact ready
  | wait | poll | epollWaitReturns | epollWaitFails | clear | pollAgain => cases other

end Notification

end PosixQuic
