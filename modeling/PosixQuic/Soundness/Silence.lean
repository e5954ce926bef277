import PosixQuic.Soundness.LinkedRuns

/-! # Entries that are never heard of again

An entry without a descriptor and without a registration stays that way in every run, and `Poll` reports
events of registered entries only.
-/

namespace PosixQuic.World

open Machine Directory

/-- The epoller has the entry among its registrations. -/
def Registered (w : World) (e : EpollerId) (entry : EntryPtr) : Prop :=
  ∃ fd, (w.epollers e).fds.lookup fd = some entry

/-- Every registration was there before. -/
def OnlyBefore (w w' : World) : Prop :=
  ∀ e fd entry, (w'.registry.fds e).lookup fd = some entry → (w.registry.fds e).lookup fd = some entry

variable {w w' : World} {e : EpollerId} {entry : EntryPtr}

theorem OnlyBefore.of_eq (fds : w'.registry.fds = w.registry.fds) : OnlyBefore w w' := by
  intro e fd entry found
  rwa [fds] at found

theorem OnlyBefore.trans {first second third : World} (before : OnlyBefore first second)
    (after : OnlyBefore second third) : OnlyBefore first third :=
  fun e fd entry found => before e fd entry (after e fd entry found)

theorem onlyBefore_eraseFd (w : World) (e : EpollerId) (fd : Fd) : OnlyBefore w (w.eraseFd e fd) := by
  intro x k entry found
  rw [registry_eraseFd] at found
  by_cases same : x = e
  · subst same
    simp only [Function.update_self] at found
    by_cases erased : k = fd
    · subst erased
      simp [AList.lookup_erase] at found
    · rwa [AList.lookup_erase_ne erased] at found
  · simpa [same] using found

theorem onlyBefore_delInner {fd : Fd} {result : CallResult × World} (deleted : w.delInner e fd = .ok result) :
    OnlyBefore w result.2 := by
  rcases delInner_cases deleted with ⟨-, rfl⟩ | ⟨_, -, -, rfl⟩ | ⟨x, udp, count, -, -, -, -, rfl⟩
  · exact .of_eq rfl
  · exact w.onlyBefore_eraseFd e fd
  · refine (w.onlyBefore_eraseFd e fd).trans (.of_eq ?_)
    dsimp only
    rw [registry_deregister, registry_eraseFd]
    rfl

theorem onlyBefore_notifyClosed {epollers : List EpollerId} (notified : w.notifyClosed entry epollers = .ok w') :
    OnlyBefore w w' := by
  induction epollers generalizing w with
  | nil =>
    cases notified
    exact .of_eq rfl
  | cons e rest ih =>
    obtain ⟨result, deleted, continued⟩ := bind_eq_ok notified
    exact (onlyBefore_delInner deleted).trans (ih continued)

theorem onlyBefore_clearWaitingsByClose (cleared : w.clearWaitingsByClose entry = .ok w') : OnlyBefore w w' := by
  unfold clearWaitingsByClose at cleared
  dsimp only at cleared
  split_ifs at cleared
  · cases cleared
    exact .of_eq rfl
  · refine OnlyBefore.trans (.of_eq ?_) (onlyBefore_notifyClosed cleared)
    rw [registry_setEvent]

theorem closable_onlyBefore (w : World) : Closable (fun _ => True) (fun _ => True) (OnlyBefore w) where
  queued _ _ _ _ _ _ := trivial
  mark w' s before _ _ := before.trans (.of_eq (by rw [registry_mark]))
  announce w' s errorCode fromRemote before _ _ := before.trans (.of_eq (by rw [registry_announce]))
  releaseServer w' s before _ _ _ _ := by
    refine before.trans (.of_eq ?_)
    rw [registry_deleteQuicSocketEntry, registry_announce]
  clear w' s before _ _ _ := yields_of_ok fun _ cleared => before.trans (onlyBefore_clearWaitingsByClose cleared)
  release w' s before _ _ _ := before.trans (.of_eq (by rw [registry_deleteQuicSocketEntry]))
  pop w' s before _ := before.trans (.of_eq (by rw [registry_popAccept]))

theorem onlyBefore_quicCloseStream (w : World) (stream : Fd) :
    Yields (fun _ => True) (fun result => OnlyBefore w result.2) (w.quicCloseStream stream) := by
  unfold quicCloseStream
  refine withStream_yields (.of_eq rfl) fun t found => ?_
  obtain ⟨reset, -, registry, closes⟩ := closeStreamEntry_eq t w
  rw [closes]
  cases cleared : reset.clearWaitingsByClose (.stream t) with
  | error fault => trivial
  | ok after =>
    have resets : OnlyBefore w reset := .of_eq (by rw [registry])
    refine (resets.trans (onlyBefore_clearWaitingsByClose cleared)).trans (.of_eq ?_)
    rw [deleteQuicStream, registry_releaseFd]

/-- A registration was there before, or is of an entry in use. -/
def OnlyHeld (w w' : World) : Prop :=
  ∀ e fd entry, (w'.registry.fds e).lookup fd = some entry →
    (w.registry.fds e).lookup fd = some entry ∨ w.fdManager fd = some entry

theorem OnlyBefore.onlyHeld (before : OnlyBefore w w') : OnlyHeld w w' :=
  fun e fd entry found => .inl (before e fd entry found)

theorem onlyHeld_register {fd : Fd} (held : w.fdManager fd = some entry) (events : PollMask) (data : Nat)
    (full : Bool) : OnlyHeld w (w.register e fd entry events data full).2 := by
  rcases w.register_adds e fd entry events data full with same | adds
  · exact (OnlyBefore.of_eq (by rw [same])).onlyHeld
  · intro x k y found
    rw [adds.fds] at found
    by_cases here : x = e
    · subst here
      rw [Function.update_self] at found
      by_cases inserted : k = fd
      · subst inserted
        rw [AList.lookup_insert] at found
        exact .inr (Option.some.inj found ▸ held)
      · rw [AList.lookup_insert_ne inserted] at found
        exact .inl found
    · rw [Function.update_of_ne here] at found
      exact .inl found

theorem onlyHeld_addInner (w : World) (e : EpollerId) (fd : Fd) (events : PollMask) (data : Nat) (full : Bool) :
    OnlyHeld w (w.addInner e fd events data full).2 := by
  have vacated : ∀ before, Vacates e fd w before → OnlyBefore w before ∧ before.fdManager = w.fdManager := by
    intro before vacates
    cases vacates with
    | unregistered _ => exact ⟨.of_eq rfl, rfl⟩
    | stale _ _ _ => exact ⟨w.onlyBefore_eraseFd e fd, rfl⟩
  rcases w.addInner_outcome e fd events data full with
    ⟨-, added⟩ | ⟨before, vacates, ⟨-, added⟩ | ⟨entry, held, -, added⟩⟩ <;> rw [added]
  · exact (OnlyBefore.of_eq rfl).onlyHeld
  · exact (vacated before vacates).1.onlyHeld
  · obtain ⟨only, manager⟩ := vacated before vacates
    intro x k y found
    rcases onlyHeld_register (manager ▸ held) events data full x k y found with earlier | inUse
    · exact .inl (only x k y earlier)
    · exact .inr (manager ▸ inUse)

/-- Registrations of new entries come from `Add` alone, which takes entries in use. -/
theorem perform_onlyHeld (tables : w.directory.Tables) (settled : w.Settled) {action : Action}
    (admitted : w.admits action = true) :
    Yields (fun _ => True) (fun result => OnlyHeld w result.2) (w.perform action) := by
  have same : OnlyHeld w w := (OnlyBefore.of_eq rfl).onlyHeld
  by_cases closes : action.Closes
  · cases action with
    | closeSocket sock =>
      exact (quicCloseSocket_yields (closable_onlyBefore w) sock w (.of_eq rfl) (fun _ _ => trivial) settled).imp
        fun _ closed => closed.1.onlyHeld
    | closeStream stream => exact (w.onlyBefore_quicCloseStream stream).imp fun _ only => only.onlyHeld
    | connectionClosed s errorCode fromRemote =>
      have announced : OnlyBefore w (w.announce s errorCode fromRemote) := .of_eq (by rw [registry_announce])
      exact (connectionClosed_yields (closable_onlyBefore w) s errorCode fromRemote w announced
        (fun _ => trivial) settled).bind fun _ closed => closed.1.onlyHeld
    | _ => exact closes.elim
  by_cases registers : action.Registers
  · cases action with
    | createEpoll =>
      have before : OnlyBefore w w.createEpoll := by
        intro e fd entry found
        by_cases new : e = w.numEpollers
        · subst new
          simp [registry, createEpoll] at found
        · simpa [registry, createEpoll, new] using found
      exact before.onlyHeld
    | closeEpoller e =>
      have before : OnlyBefore w (w.closeEpoller e) := by
        obtain ⟨waitings, changed, -⟩ := w.registry_closeEpoller e
        intro x fd entry found
        rw [changed] at found
        by_cases here : x = e
        · subst here
          simp at found
        · simpa [here] using found
      exact withEpoller_yields same before.onlyHeld
    | epollAdd e fd events data full => exact withEpoller_yields same (w.onlyHeld_addInner e fd events data full)
    | epollDel e fd =>
      exact withEpoller_yields same (yields_of_ok fun _ deleted => (onlyBefore_delInner deleted).onlyHeld)
    | _ => exact registers.elim
  · exact (perform_kept tables admitted closes registers).imp fun result kept =>
      (OnlyBefore.of_eq kept.fds).onlyHeld

/-- The entry has been created, has no descriptor any more and is registered nowhere. -/
structure Gone (w : World) (entry : EntryPtr) : Prop where
  allocated : w.directory.Allocated entry
  released : w.directory.fd entry = -1
  absent : ∀ e, ¬ w.Registered e entry

/-- Whoever is gone stays away. -/
theorem Gone.reachable (gone : w.Gone entry) (start : system.Reachable {} w) (run : system.Reachable w w') :
    w'.Gone entry := by
  refine (run.invariant (P := fun w => system.Reachable {} w ∧ w.Gone entry) ⟨start, gone⟩ ?_).2
  rintro before action after ⟨reached, gone⟩ admitted stepped
  refine ⟨reached.move admitted stepped, ?_⟩
  obtain ⟨-, queued, settled⟩ := reachable_linked reached
  obtain ⟨result, performed⟩ := step_eq_ok stepped
  obtain ⟨steps, -⟩ := (perform_refines settled admitted).of_ok performed
  have ages := Ages.steps steps
  have only : OnlyHeld before after := (perform_onlyHeld queued.toTables settled admitted).of_ok performed
  refine ⟨ages.allocated _ gone.allocated, ages.released _ gone.allocated gone.released, ?_⟩
  rintro e ⟨fd, found⟩
  rcases only e fd entry found with earlier | held
  · exact gone.absent e ⟨fd, earlier⟩
  · have remembered : before.directory.fd entry = fd := queued.toTables.sound.handle_of_holder fd entry held
    have positive : 1 ≤ fd := (queued.toTables.sound.pos_of_held held).1
    rw [← remembered, gone.released] at positive
    exact absurd positive (by decide)

/-- `Poll` goes through the registrations. -/
theorem pollLoop_source {qev : Fd → QuicEpollEvent} {entries : List (Sigma fun _ : Fd => EntryPtr)} {room : Nat}
    {event : PolledEvent} (reported : event ∈ (pollLoop qev entries room).1) :
    ∃ fd, ⟨fd, event.source⟩ ∈ entries := by
  fun_induction pollLoop qev entries room with
  | case1 => cases reported
  | case2 => cases reported
  | case3 qev fd entry rest room _ _ _ _ ih =>
    obtain ⟨k, member⟩ := ih reported
    exact ⟨k, List.mem_cons_of_mem _ member⟩
  | case4 qev fd entry rest room _ _ _ _ _ _ equal ih =>
    rcases List.mem_cons.mp reported with rfl | member
    · exact ⟨fd, List.mem_cons_self ..⟩
    · obtain ⟨k, found⟩ := ih (by rw [equal]; exact member)
      exact ⟨k, List.mem_cons_of_mem _ found⟩

theorem poll_registered {maxevents : Nat} {event : PolledEvent} (reported : event ∈ (w.poll e maxevents).1) :
    w.Registered e event.source := by
  obtain ⟨fd, member⟩ := pollLoop_source reported
  exact ⟨fd, AList.mem_lookup_iff.mpr member⟩

end PosixQuic.World
