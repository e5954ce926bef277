import PosixQuic.Model.Notification
import Mathlib.Tactic

/-! # No notification of a waiting epoller is lost

A set `notifyProtect_` stands for a notification on its way: the kernel event is armed, or the thread that set
the flag is about to arm it, or `Wait` has just consumed it and will clear the flag. So whoever finds the flag
set may rely on it, and a bit that nobody announces any more is one that the waiting thread visits before it
blocks.
-/

namespace PosixQuic

namespace Notification

variable {Thread : Type} {n : Notification Thread} {first : Bool} {maxevents : Nat}

/-- The notification is armed, or a thread is about to arm it. -/
def Alerted (n : Notification Thread) : Prop := n.armed = true ∨ ∃ thread inMod, n.calls thread = .rearm inMod

/-- Some thread is inside a call. -/
def Busy (n : Notification Thread) : Prop := ∃ thread, n.calls thread ≠ .idle

/-- The waiting thread visits the registration before it blocks. -/
def Due : Waiter → Fd → Prop
  | .outside, _ | .returned _, _ | .cleared _, _ => True
  | .polling first _ rest count, fd => first = false ∨ fd ∈ rest ∨ 0 < count
  | .waiting _, _ => False

/-- A bit that a trigger or `ModInner` has set is pending and would be reported. -/
def Owes (watched : Watched) : Prop := ∃ bit, watched.announced.has bit = true ∧ watched.reportable.has bit = true

/-- What a first `Poll` in progress may store. -/
def HasRoom : Waiter → Prop
  | .polling true maxevents _ _ => 1 ≤ maxevents
  | _ => True

structure Awake (n : Notification Thread) : Prop where
  protects : n.notifyProtect = true → n.Alerted ∨ isReturned n.waiter = true
  hears : ∀ fd watched, n.fds.lookup fd = some watched → Owes watched → n.armed = true ∨ n.Busy ∨ Due n.waiter fd
  room : HasRoom n.waiter

/-! ## Frames -/

theorem modify_frame (n : Notification Thread) (fd : Fd) (change : Watched → Watched) :
    (n.modify fd change).calls = n.calls ∧ (n.modify fd change).armed = n.armed ∧
      (n.modify fd change).waiter = n.waiter ∧ (n.modify fd change).notifyProtect = n.notifyProtect := by
  unfold modify
  split <;> exact ⟨rfl, rfl, rfl, rfl⟩

theorem not_owes_take (watched : Watched) : ¬ Owes watched.take := by
  rintro ⟨bit, announced, reportable⟩
  have kept : watched.reportable.has bit = true := reportable
  rw [Watched.take, PollMask.has_diff, kept] at announced
  simp at announced

/-! ## Steps of the waiting thread and of registrations -/

/-- The waiting thread moves to a place from which it visits every registration again. -/
theorem Awake.moves (awake : n.Awake) {waiter : Waiter} {lock : Bool} (room : HasRoom waiter)
    (returned : isReturned n.waiter = true → isReturned waiter = true)
    (due : ∀ fd, n.fds.lookup fd ≠ none → Due waiter fd) :
    ({ n with waiter, mtx := lock } : Notification Thread).Awake := by
  refine ⟨fun raised => (awake.protects raised).imp id returned, fun fd watched found _ => .inr (.inr ?_), room⟩
  exact due fd (by rw [show n.fds.lookup fd = some watched from found]; exact nofun)

theorem pollReturns_awake (awake : n.Awake) {count : Nat} {rest : List Fd}
    (place : n.waiter = .polling first maxevents rest count) (done : rest = [] ∨ count ≥ maxevents) :
    (n.pollReturns first maxevents count).Awake := by
  by_cases blocks : (first && count == 0) = true
  · -- nothing was stored, so the loop was not cut short and has visited every registration
    obtain ⟨isFirst, nothing⟩ : first = true ∧ count = 0 := by simpa using blocks
    subst isFirst nothing
    have room : 1 ≤ maxevents := by
      have room := awake.room
      rwa [place] at room
    have empty : rest = [] := done.resolve_right (by omega)
    refine ⟨fun raised => ?_, fun fd watched found owes => ?_, ?_⟩
    · have protects := awake.protects raised
      rw [place] at protects
      exact .inl (protects.resolve_right Bool.false_ne_true)
    · have hears := awake.hears fd watched found owes
      rw [place, empty] at hears
      rcases hears with armed | busy | notFirst | visits | stored
      · exact .inl armed
      · exact .inr (.inl busy)
      · exact absurd notFirst (by decide)
      · exact absurd visits List.not_mem_nil
      · exact absurd stored (lt_irrefl 0)
    · exact trivial
  · have leaves : (if (first && count == 0) = true then Waiter.waiting maxevents else .outside) = .outside :=
      if_neg blocks
    unfold pollReturns
    rw [leaves]
    refine awake.moves trivial (fun returned => ?_) fun _ _ => trivial
    rw [place] at returned
    exact absurd returned Bool.false_ne_true

/-- One iteration of `Poll` takes what its registration owes. -/
theorem Awake.visits (awake : n.Awake) {count count' : Nat} {fd : Fd} {rest : List Fd}
    (place : n.waiter = .polling first maxevents (fd :: rest) count) (more : count ≤ count')
    {fds : AList fun _ : Fd => Watched} (kept : ∀ other, other ≠ fd → fds.lookup other = n.fds.lookup other)
    (taken : ∀ watched, fds.lookup fd = some watched → ¬ Owes watched) :
    ({ n with fds, waiter := .polling first maxevents rest count' } : Notification Thread).Awake := by
  refine ⟨fun raised => ?_, fun other watched found owes => ?_, ?_⟩
  · have protects := awake.protects raised
    rw [place] at protects
    exact protects
  · by_cases same : other = fd
    · exact absurd owes (taken watched (same ▸ found))
    · have hears := awake.hears other watched ((kept other same).symm.trans found) owes
      rw [place] at hears
      rcases hears with armed | busy | notFirst | visits | stored
      · exact .inl armed
      · exact .inr (.inl busy)
      · exact .inr (.inr (.inl notFirst))
      · exact .inr (.inr (.inr (.inl ((List.mem_cons.mp visits).resolve_left same))))
      · exact .inr (.inr (.inr (.inr (stored.trans_le more))))
  · have room := awake.room
    rw [place] at room
    cases first <;> exact room

theorem poll_awake (awake : n.Awake) : n.poll.Awake := by
  unfold poll
  split
  · next first maxevents count place => exact pollReturns_awake awake place (.inl rfl)
  · next first maxevents fd rest count place =>
    split_ifs with full
    · exact pollReturns_awake awake place (.inr full)
    · split
      · next missing =>
        refine awake.visits place le_rfl (fun _ _ => rfl) fun watched found => ?_
        exact absurd (missing.symm.trans found) nofun
      · next watched found =>
        have more : count ≤ if watched.revents.inter watched.reportable = {} then count else count + 1 := by
          split_ifs <;> omega
        simp only [modify, found]
        refine awake.visits place more (fun other distinct => AList.lookup_insert_ne distinct) ?_
        rw [AList.lookup_insert]
        rintro _ ⟨⟩
        exact not_owes_take watched
  · exact awake

/-- `Poll` starts with every registration ahead of it. -/
theorem beginPoll_awake (awake : n.Awake) (notReturned : isReturned n.waiter = false) {order : List Fd}
    (room : HasRoom (.polling first maxevents order 0)) (whole : order.Perm n.fds.keys) :
    (n.beginPoll first maxevents order).Awake := by
  refine awake.moves room (fun returned => absurd (notReturned.symm.trans returned) (by decide)) fun fd held => ?_
  refine .inr (.inl (whole.mem_iff.mpr ?_))
  exact AList.lookup_isSome.mp (Option.isSome_iff_ne_none.mpr held)

/-- Registrations come without announced bits, and they go. -/
theorem Awake.registers (awake : n.Awake) {fds : AList fun _ : Fd => Watched}
    (known : ∀ fd watched, fds.lookup fd = some watched → Owes watched → n.fds.lookup fd = some watched) :
    ({ n with fds } : Notification Thread).Awake :=
  ⟨awake.protects, fun fd watched found owes => awake.hears fd watched (known fd watched found owes) owes,
    awake.room⟩

/-! ## Steps of the notifying threads -/

variable [DecidableEq Thread] {thread : Thread}

theorem alerted_setCall (alerted : n.Alerted) (other : ∀ inMod, n.calls thread ≠ .rearm inMod) (call : NotifyCall) :
    (n.setCall thread call).Alerted := by
  rcases alerted with armed | ⟨owner, inMod, arming⟩
  · exact .inl armed
  · have distinct : owner ≠ thread := fun same => other inMod (same ▸ arming)
    exact .inr ⟨owner, inMod, (Function.update_of_ne distinct ..).trans arming⟩

/-- A thread goes on inside a call, whatever it does to the registrations. -/
theorem Awake.inside {n' : Notification Thread} (awake : n.Awake) {call : NotifyCall} (within : call ≠ .idle)
    (thread : Thread) (quiet : ∀ inMod, n.calls thread ≠ .rearm inMod) (calls : n'.calls = Function.update n.calls thread call)
    (armed : n'.armed = n.armed) (waiter : n'.waiter = n.waiter)
    (flag : n'.notifyProtect = n.notifyProtect) : n'.Awake := by
  have busy : n'.Busy := ⟨thread, by rw [calls, Function.update_self]; exact within⟩
  refine ⟨fun raised => ?_, fun _ _ _ _ => .inr (.inl busy), waiter ▸ awake.room⟩
  rw [waiter]
  refine (awake.protects (flag ▸ raised)).imp (fun alerted => ?_) id
  rcases alerted_setCall alerted quiet call with set | ⟨owner, inMod, arming⟩
  · exact .inl (armed.trans set)
  · exact .inr ⟨owner, inMod, (congrFun calls owner).trans arming⟩

theorem Awake.announces (awake : n.Awake) (fd : Fd) (change : Watched → Watched) {call : NotifyCall}
    (within : call ≠ .idle) (quiet : ∀ inMod, n.calls thread ≠ .rearm inMod) :
    ((n.modify fd change).setCall thread call).Awake := by
  obtain ⟨calls, armed, waiter, flag⟩ := n.modify_frame fd change
  refine awake.inside within thread quiet ?_ armed waiter flag
  rw [← calls]
  rfl

/-- A thread that finds the flag raised leaves: somebody else's notification is on its way. -/
theorem leave_awake (awake : n.Awake) {inMod : Bool} (calling : n.calls thread = .testAndSet inMod)
    (raised : n.notifyProtect = true) : (n.leave thread inMod).Awake := by
  have quiet : ∀ inMod, n.calls thread ≠ .rearm inMod := by simp [calling]
  have protects : (n.setCall thread .idle).Alerted ∨ isReturned n.waiter = true :=
    (awake.protects raised).imp (fun alerted => alerted_setCall alerted quiet .idle) id
  refine ⟨fun _ => protects, fun fd _ _ _ => ?_, awake.room⟩
  rcases protects with (armed | ⟨owner, arming, rearms⟩) | returned
  · exact .inl armed
  · refine .inr (.inl ⟨owner, ?_⟩)
    have stays : (n.leave thread inMod).calls owner = .rearm arming := rearms
    exact stays.trans_ne nofun
  · right
    right
    change Due n.waiter fd
    cases place : n.waiter with
    | returned => trivial
    | outside | polling | waiting | cleared =>
      rw [place] at returned
      cases returned

theorem advance_awake (awake : n.Awake) (thread : Thread) : (n.advance thread).Awake := by
  unfold advance
  cases calling : n.calls thread with
  | idle => exact awake
  | triggerOr fd bit => exact awake.announces fd _ nofun (by simp [calling])
  | modOr fd => exact awake.announces fd _ nofun (by simp [calling])
  | testAndSet inMod =>
    dsimp only
    split_ifs with raised
    · exact leave_awake awake calling raised
    · refine ⟨fun _ => .inl (.inr ⟨thread, inMod, Function.update_self ..⟩), fun _ _ _ _ => ?_, awake.room⟩
      have arms : (n.setCall thread (.rearm inMod)).calls thread = .rearm inMod := Function.update_self ..
      refine .inr (.inl ⟨thread, ?_⟩)
      exact arms.trans_ne nofun
  | rearm inMod => exact ⟨fun _ => .inl (.inl rfl), fun _ _ _ _ => .inl rfl, awake.room⟩

theorem trigger_awake (awake : n.Awake) (idle : n.calls thread = .idle) (fd : Fd) (bit : PollBit) :
    (n.trigger thread fd bit).Awake := by
  unfold trigger
  split
  · exact awake
  · split_ifs
    · have within : NotifyCall.triggerOr fd bit ≠ .idle := nofun
      exact awake.inside within thread (by simp [idle]) rfl rfl rfl rfl
    · exact awake

theorem mod_awake (awake : n.Awake) (idle : n.calls thread = .idle) (fd : Fd) (events : PollMask) (data : Nat) :
    (n.mod thread fd events data).Awake := by
  unfold mod
  split
  · exact awake
  · have within : (if events.pollout = true then NotifyCall.modOr fd else .testAndSet true) ≠ .idle := by
      split_ifs <;> exact nofun
    obtain ⟨calls, armed, waiter, flag⟩ := n.modify_frame fd fun watched => { watched with events, data }
    refine awake.inside within thread (by simp [idle]) ?_ armed waiter flag
    rw [← calls]
    rfl

theorem step_awake (awake : n.Awake) {action : NotifyAction Thread} (admitted : n.admits action = true) :
    (n.step action).Awake := by
  cases action with
  | add fd events data ready =>
    refine awake.registers fun other watched found owes => ?_
    by_cases same : other = fd
    · subst same
      rw [AList.lookup_insert] at found
      cases found
      obtain ⟨bit, announced, -⟩ := owes
      cases bit <;> exact absurd announced Bool.false_ne_true
    · rwa [AList.lookup_insert_ne same] at found
  | del fd =>
    refine awake.registers fun other watched found _ => ?_
    by_cases same : other = fd
    · subst same
      rw [AList.lookup_erase] at found
      cases found
    · rwa [AList.lookup_erase_ne same] at found
  | trigger thread fd bit => exact trigger_awake awake (of_decide_eq_true admitted) fd bit
  | mod thread fd events data =>
    simp only [admits, Bool.and_eq_true, decide_eq_true_eq] at admitted
    exact mod_awake awake admitted.1 fd events data
  | timer thread =>
    have idle : n.calls thread = .idle := of_decide_eq_true admitted
    have within : NotifyCall.testAndSet false ≠ .idle := nofun
    exact awake.inside within thread (by simp [idle]) rfl rfl rfl rfl
  | advance thread => exact advance_awake awake thread
  | wait maxevents order =>
    simp only [admits, Bool.and_eq_true, decide_eq_true_eq] at admitted
    obtain ⟨⟨⟨place, -⟩, room⟩, whole⟩ := admitted
    exact beginPoll_awake awake (by rw [place]; rfl) room whole
  | poll => exact poll_awake awake
  | epollWaitReturns notified =>
    obtain ⟨maxevents, place⟩ := isWaiting_iff.mp (Bool.and_eq_true_iff.mp admitted).1
    simp only [step, place]
    exact ⟨fun _ => .inr rfl, fun _ _ _ _ => .inr (.inr trivial), trivial⟩
  | epollWaitFails =>
    obtain ⟨maxevents, place⟩ := isWaiting_iff.mp admitted
    refine awake.moves trivial (fun returned => ?_) fun _ _ => trivial
    rw [place] at returned
    cases returned
  | clear =>
    obtain ⟨maxevents, place⟩ := isReturned_iff.mp admitted
    simp only [step, place]
    exact ⟨nofun, fun _ _ _ _ => .inr (.inr trivial), trivial⟩
  | pollAgain order =>
    simp only [admits, Bool.and_eq_true, decide_eq_true_eq] at admitted
    obtain ⟨⟨cleared, -⟩, whole⟩ := admitted
    obtain ⟨maxevents, place⟩ := isCleared_iff.mp cleared
    simp only [step, place]
    exact beginPoll_awake awake (by rw [place]; rfl) trivial whole

/-- While `Wait` is blocked without a notification and no other thread is inside a call, nothing that a trigger
or `ModInner` has announced is left to report. -/
theorem no_lost_wakeup (run : (system Thread).Reachable {} n) (blocked : n.waiter = .waiting maxevents)
    (disarmed : n.armed = false) (quiet : ∀ thread, n.calls thread = .idle) :
    ∀ fd watched, n.fds.lookup fd = some watched →
      ∀ bit, watched.announced.has bit = true → watched.reportable.has bit = false := by
  have awake : n.Awake := by
    apply run.invariant (P := Awake)
    · exact ⟨nofun, nofun, trivial⟩
    · rintro before action after awake admitted ⟨⟩
      exact step_awake awake admitted
  intro fd watched found bit announced
  by_contra reportable
  rcases awake.hears fd watched found ⟨bit, announced, by simpa using reportable⟩ with armed | ⟨thread, inside⟩ | due
  · exact absurd (disarmed.symm.trans armed) (by decide)
  · exact inside (quiet thread)
  · rw [blocked] at due
    exact due

/-- A trigger is reported by an early return of `Wait` before its notification is armed; the next `Wait`
consumes that notification and the one after it blocks. -/
def overtakesNotification : List (NotifyAction Bool) :=
  [.add 1 { pollin := true } 0 {}, .wait 8 [1], .poll, .poll, .epollWaitReturns true, .clear, .pollAgain [1], .poll,
    .poll, .trigger false 1 .pollin, .advance false, .advance false, .wait 8 [1], .poll, .poll, .advance false,
    .wait 8 [1], .poll, .poll, .trigger true 1 .pollin, .advance true, .advance true, .epollWaitReturns true, .clear,
    .pollAgain [1], .poll, .poll, .wait 8 [1], .poll, .poll]

theorem overtakesNotification_hears :
    ∃ n, (system Bool).replay? {} overtakesNotification = some n ∧ n.waiter = .waiting 8 ∧
      ∀ fd watched, n.fds.lookup fd = some watched →
        ∀ bit, watched.announced.has bit = true → watched.reportable.has bit = false := by
  have ends : ∃ n ∈ (system Bool).replay? {} overtakesNotification,
      n.waiter = .waiting 8 ∧ n.armed = false ∧ ∀ thread, n.calls thread = .idle := by decide
  obtain ⟨n, executed, blocked, disarmed, quiet⟩ := ends
  have run := Machine.System.reachable_of_replay? executed
  exact ⟨n, executed, blocked, no_lost_wakeup run blocked disarmed quiet⟩

end Notification

end PosixQuic
