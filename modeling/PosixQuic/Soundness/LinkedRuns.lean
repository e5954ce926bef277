import PosixQuic.Soundness.CountedRuns
import PosixQuic.Soundness.Linkage

/-! # Registrations and waiters over whole runs

Every action keeps registrations and waiters linked, the refused `Add`s and the close that deletes a
server side entry too early included.
-/

namespace PosixQuic.World

open Machine Directory

variable {e : EpollerId} {w w' : World}

theorem linked_delInner {fd : Fd} {result : CallResult × World} (linked : Linked w.directory w.registry)
    (deleted : w.delInner e fd = .ok result) : Linked result.2.directory result.2.registry := by
  rw [directory_delInner deleted]
  rcases delInner_cases deleted with ⟨-, rfl⟩ | ⟨x, found, stale, rfl⟩ | ⟨x, udp, count, found, fresh, -, counts, rfl⟩
  · exact linked
  · dsimp only
    rw [registry_eraseFd]
    refine linked.erase found ?_ rfl linked.nodup linked.positive rfl rfl
    exact fun e' y waiting => ⟨waiting, fun gone => stale gone.2.2⟩
  · dsimp only
    rw [registry_deregister]
    refine linked.erase found ?_ rfl ?_ ?_ rfl rfl
    · intro e' y waiting
      by_cases same : y = x
      · subst same
        simp only [Registry.deregister, Function.update_self, List.mem_filter, decide_eq_true_eq] at waiting
        exact ⟨waiting.1, fun gone => waiting.2 gone.1⟩
      · refine ⟨by simpa [Registry.deregister, same] using waiting, fun gone => same gone.2.1⟩
    · intro y
      by_cases same : y = x
      · subst same
        simpa [Registry.deregister] using (linked.nodup y).filter _
      · simpa [Registry.deregister, same] using linked.nodup y
    · intro e' u total stored
      have before : 1 ≤ count := linked.positive e udp count counts
      simp only [Registry.deregister] at stored
      by_cases here : e' = e
      · subst here
        rw [Function.update_self] at stored
        by_cases same : u = udp
        · subst same
          rw [Function.update_self] at stored
          split_ifs at stored
          obtain rfl := Option.some.inj stored
          omega
        · rw [Function.update_of_ne same] at stored
          exact linked.positive e' u total stored
      · rw [Function.update_of_ne here] at stored
        exact linked.positive e' u total stored

theorem linked_notifyClosed {entry : EntryPtr} {epollers : List EpollerId} (linked : Linked w.directory w.registry)
    (notified : w.notifyClosed entry epollers = .ok w') : Linked w'.directory w'.registry := by
  induction epollers generalizing w with
  | nil =>
    cases notified
    exact linked
  | cons e rest ih =>
    obtain ⟨result, deleted, continued⟩ := bind_eq_ok notified
    exact ih (linked_delInner linked deleted) continued

theorem linked_clearWaitingsByClose {entry : EntryPtr} (linked : Linked w.directory w.registry)
    (cleared : w.clearWaitingsByClose entry = .ok w') : Linked w'.directory w'.registry := by
  unfold clearWaitingsByClose at cleared
  dsimp only at cleared
  split_ifs at cleared
  · cases cleared
    exact linked
  · refine linked_notifyClosed ?_ cleared
    rw [directory_forget, registry_setEvent]
    exact linked.tell entry

/-- Counts are stored while they are positive. -/
def CountsPositive (r : Registry) : Prop := ∀ e udp count, r.udps e udp = some count → 1 ≤ count

/-- A new count, or one more of an old one. -/
theorem countsPositive_update {r r' : Registry} (positive : CountsPositive r) {udp : UdpSocket} {total : Int}
    (atLeastOne : 1 ≤ total)
    (udps : r'.udps = Function.update r.udps e (Function.update (r.udps e) udp (some total))) : CountsPositive r' := by
  intro e' u count stored
  rw [udps] at stored
  by_cases here : e' = e
  · subst here
    rw [Function.update_self] at stored
    by_cases same : u = udp
    · subst same
      rw [Function.update_self] at stored
      exact Option.some.inj stored ▸ atLeastOne
    · rw [Function.update_of_ne same] at stored
      exact positive e' u count stored
  · rw [Function.update_of_ne here] at stored
    exact positive e' u count stored

/-- The last part of `AddInner` touches counts and the kernel's interest only. -/
theorem listenUdp_frame (w : World) (e : EpollerId) (udp : UdpSocket) (full : Bool) :
    ∃ udps interest, (w.listenUdp e udp full).2.registry = { w.registry with udps, interest } ∧
      (CountsPositive w.registry → CountsPositive { w.registry with udps, interest }) := by
  rcases w.listenUdp_cases e udp full with refused | ⟨refused, -, -⟩ | ⟨-, changed⟩
  · exact ⟨w.registry.udps, w.registry.interest, by rw [refused], id⟩
  · exact ⟨w.registry.udps, w.registry.interest, by rw [refused], id⟩
  · refine ⟨_, _, changed, fun positive => countsPositive_update positive ?_ rfl⟩
    cases counted : w.registry.udps e udp with
    | none => exact le_rfl
    | some count =>
      have := positive e udp count counted
      simp only [Option.getD_some]
      omega

theorem register_adds (w : World) (e : EpollerId) (fd : Fd) (entry : EntryPtr) (events : PollMask) (data : Nat)
    (full : Bool) :
    (w.register e fd entry events data full).2.registry = w.registry ∨
      Linked.Adds w.directory e fd entry w.registry (w.register e fd entry events data full).2.registry := by
  rcases w.register_stages e fd entry events data full with
    ⟨-, before, refused, same⟩ | ⟨inserted, flag, insertedRegistry, staged⟩
  · rw [refused]
    exact .inl same
  · right
    have waits_iff : ∀ y e', e' ∈ inserted.registry.waitings y ↔ e' ∈ w.registry.waitings y ∨ e' = e ∧ y = entry := by
      intro y e'
      rw [insertedRegistry]
      by_cases same : y = entry
      · subst same
        simp only [Function.update_self]
        split_ifs with waiting
        · refine ⟨.inl, ?_⟩
          rintro (before | ⟨rfl, -⟩)
          · exact before
          · exact waiting
        · simp
      · simp [same]
    have nodup : (∀ y, (w.registry.waitings y).Nodup) → ∀ y, (inserted.registry.waitings y).Nodup := by
      intro before y
      rw [insertedRegistry]
      by_cases same : y = entry
      · subst same
        simp only [Function.update_self]
        split_ifs with waiting
        · exact before y
        · refine List.nodup_append.mpr ⟨before y, List.nodup_singleton e, ?_⟩
          rintro x member _ single rfl
          exact waiting (List.mem_singleton.mp single ▸ member)
      · simpa [same] using before y
    -- a refusal takes the waiter back
    have stops : Linked.Adds w.directory e fd entry w.registry (inserted.stopWait entry e).registry := by
      rw [registry_stopWait]
      refine ⟨by rw [insertedRegistry], ?_, ?_, ?_, by rw [insertedRegistry], by rw [insertedRegistry]⟩
      · intro e' y waiting
        by_cases same : y = entry
        · subst same
          simp only [Function.update_self, List.mem_filter, decide_eq_true_eq] at waiting
          exact ((waits_iff y e').mp waiting.1).imp_right fun added => (waiting.2 added.1).elim
        · dsimp only at waiting
          rw [Function.update_of_ne same] at waiting
          exact ((waits_iff y e').mp waiting).imp_right fun added => (same added.2).elim
      · intro before y
        by_cases same : y = entry
        · subst same
          simpa using (nodup before y).filter _
        · simpa [same] using nodup before y
      · rw [insertedRegistry]
        exact id
    -- the kernel is asked only for an entry with a UDP socket
    have listens : ∀ (ready : World) (runner : SocketId → Option EpollerId) (udp : UdpSocket),
        w.nativeUdpFd entry = some udp → ready.registry = { inserted.registry with runner } →
        Linked.Adds w.directory e fd entry w.registry (ready.listenUdp e udp full).2.registry := by
      intro ready runner udp set changed
      obtain ⟨udps, interest, listened, positive⟩ := ready.listenUdp_frame e udp full
      rw [listened, changed]
      rw [changed] at positive
      refine ⟨by rw [insertedRegistry], ?_, nodup, ?_, by rw [insertedRegistry], by rw [insertedRegistry]⟩
      · intro e' y waiting
        refine ((waits_iff y e').mp waiting).imp_right ?_
        rintro ⟨rfl, rfl⟩
        exact ⟨rfl, rfl, by rw [show w.directory.udp y = some udp from set]; simp, flag⟩
      · intro before
        refine positive ?_
        rw [insertedRegistry]
        exact before
    rw [staged]
    cases set : w.nativeUdpFd entry with
    | none => exact stops
    | some udp =>
      dsimp only
      cases entry with
      | stream t => exact listens inserted inserted.registry.runner udp set rfl
      | socket s =>
        dsimp only
        cases links : inserted.link s e with
        | none => exact stops
        | some linked => exact listens linked _ udp set (registry_link links)

theorem linked_addInner (linked : Linked w.directory w.registry) (tables : w.directory.Tables)
    (born : (w.epollers e).live = true) (fd : Fd) (events : PollMask) (data : Nat) (full : Bool) :
    Linked (w.addInner e fd events data full).2.directory (w.addInner e fd events data full).2.registry := by
  rw [directory_addInner]
  have vacated : ∀ before, Vacates e fd w before → before.directory = w.directory ∧
      Linked w.directory before.registry ∧ (before.epollers e).live = true := by
    intro before vacates
    cases vacates with
    | unregistered _ => exact ⟨rfl, linked, born⟩
    | stale old found moved =>
      refine ⟨directory_modEpoller_kept rfl, ?_, by simpa [eraseFd, modEpoller] using born⟩
      rw [registry_eraseFd]
      refine linked.erase found ?_ rfl linked.nodup linked.positive rfl rfl
      exact fun e' y waiting => ⟨waiting, fun gone => moved gone.2.2⟩
  rcases w.addInner_outcome e fd events data full with
    ⟨-, added⟩ | ⟨before, vacates, ⟨-, added⟩ | ⟨entry, held, -, added⟩⟩ <;> rw [added]
  · exact linked
  · exact (vacated before vacates).2.1
  · obtain ⟨directory, linkedBefore, bornBefore⟩ := vacated before vacates
    rcases before.register_adds e fd entry events data full with same | adds
    · rw [same]
      exact linkedBefore
    · rw [directory] at adds
      exact linkedBefore.add tables held vacates.lookup bornBefore adds

theorem linked_createEpoll (linked : Linked w.directory w.registry) :
    Linked w.createEpoll.directory w.createEpoll.registry := by
  have fds : ∀ e, w.createEpoll.registry.fds e = w.registry.fds e := by
    intro e
    by_cases same : e = w.numEpollers
    · subst same
      rw [(linked.unborn w.numEpollers le_rfl).1]
      simp [registry, createEpoll]
    · simp [registry, createEpoll, same]
  refine ⟨?_, ?_, linked.native, linked.nodup, ?_, linked.told, ?_⟩
  · intro e k x found
    rw [fds] at found
    obtain ⟨positive, allocated, remembered⟩ := linked.key e k x found
    exact ⟨positive, by cases x <;> exact allocated, remembered⟩
  · intro e x waiting
    rw [fds]
    exact linked.waits e x waiting
  · intro e udp count stored
    by_cases same : e = w.numEpollers
    · subst same
      simp [registry, createEpoll] at stored
    · refine linked.positive e udp count ?_
      simpa [registry, createEpoll, same] using stored
  · intro e beyond
    have later : w.numEpollers ≤ e := Nat.le_of_succ_le beyond
    have other : e ≠ w.numEpollers := (Nat.lt_of_succ_le beyond).ne'
    rw [fds]
    refine ⟨(linked.unborn e later).1, ?_⟩
    have dead : (w.epollers e).live = false := (linked.unborn e later).2
    simpa [registry, createEpoll, other] using dead

theorem linked_closeEpoller (linked : Linked w.directory w.registry) (settled : w.Settled)
    (idle : (w.epollers e).dispatch = none) : Linked (w.closeEpoller e).directory (w.closeEpoller e).registry := by
  obtain ⟨waitings, changed, others, own, fewer⟩ := w.registry_closeEpoller e
  have kept : ∀ x entry, x ∈ waitings entry → x ∈ w.registry.waitings entry := fun x entry member =>
    (fewer entry).subset member
  rw [directory_closeEpoller idle, changed]
  refine ⟨?_, ?_, ?_, ?_, ?_, ?_, ?_⟩
  · intro x k entry found
    by_cases same : x = e
    · subst same
      simp at found
    · exact linked.key x k entry (by simpa [same] using found)
  · intro x entry waiting
    have registered := linked.registered settled.told (kept x entry waiting)
    by_cases same : x = e
    · subst same
      exact ((own entry waiting).2 _ registered).elim
    · left
      simpa [same] using registered
  · exact fun x entry waiting => linked.native x entry (kept x entry waiting)
  · exact fun entry => (fewer entry).nodup (linked.nodup entry)
  · intro x udp count stored
    by_cases same : x = e
    · subst same
      simp at stored
    · exact linked.positive x udp count (by simpa [same] using stored)
  · intro entry closed
    have none := fewer entry
    rw [linked.told entry closed] at none
    exact List.sublist_nil.mp none
  · intro x beyond
    obtain ⟨empty, dead⟩ := linked.unborn x beyond
    by_cases same : x = e
    · subst same
      simp
    · simpa [same] using And.intro empty dead

/-- A step of a close that does not touch registrations. -/
theorem linked_of_step (linked : Linked w.directory w.registry) (step : Step (fun _ => True) w.directory w'.directory)
    (registry : w'.registry = w.registry) (fd : w'.directory.fd = w.directory.fd)
    (udp : w'.directory.udp = w.directory.udp) (closeTrigger : w'.directory.closeTrigger = w.directory.closeTrigger)
    (closed : ∀ s, w.Closed s → w'.Closed s) : Linked w'.directory w'.registry := by
  rw [registry]
  exact linked.of_eq (.step step) fd udp closeTrigger closed

theorem linked_announce (linked : Linked w.directory w.registry) (s : SocketId) (errorCode : Int) (fromRemote : Bool) :
    Linked (w.announce s errorCode fromRemote).directory (w.announce s errorCode fromRemote).registry := by
  have changed := w.directory_announce s errorCode fromRemote
  refine linked_of_step linked ?_ (w.registry_announce s errorCode fromRemote) ?_ ?_ ?_
    (w.progress_announce s errorCode fromRemote).closed
  · rw [changed]
    exact .disconnect _ s
  all_goals rw [changed]

theorem linked_delete (linked : Linked w.directory w.registry) {s : SocketId} (closed : w.Closed s) :
    Linked (w.deleteQuicSocketEntry s).directory (w.deleteQuicSocketEntry s).registry := by
  rw [directory_deleteQuicSocketEntry, registry_deleteQuicSocketEntry]
  exact linked.release (.inr ⟨s, rfl, closed⟩)

theorem closable_linked :
    Closable (fun _ => True) (fun _ => True) fun w => Linked w.directory w.registry where
  queued _ _ _ _ _ _ := trivial
  mark w s linked _ isOpen := by
    have changed := w.mark_directory s
    refine linked_of_step linked ?_ (w.registry_mark s) ?_ ?_ ?_ (w.mark_progress s).closed
    · rw [changed]
      exact .mark _ s trivial isOpen
    all_goals
      rw [changed]
      rfl
  announce _ s errorCode fromRemote linked _ _ := linked_announce linked s errorCode fromRemote
  releaseServer w s linked _ closed _ _ :=
    linked_delete (linked_announce linked s quicConnectionCancelled false)
      (((w.kept_announce s quicConnectionCancelled false).closed_iff s).mpr closed)
  clear w s linked _ _ _ := yields_of_ok fun _ cleared => linked_clearWaitingsByClose linked cleared
  release _ _ linked _ closed _ := linked_delete linked closed
  pop w s linked _ := by
    have changed := w.popAccept_directory s
    refine linked_of_step linked ?_ (w.registry_popAccept s) ?_ ?_ ?_ (w.progress_popAccept s).closed
    · rw [changed]
      exact .dequeue _ s
    all_goals
      rw [changed]
      rfl

theorem quicCloseStream_linked (linked : Linked w.directory w.registry) (stream : Fd) :
    Yields (fun _ => True) (fun result => Linked result.2.directory result.2.registry) (w.quicCloseStream stream) := by
  unfold quicCloseStream
  refine withStream_yields linked fun t found => ?_
  obtain ⟨reset, directory, registry, closes⟩ := closeStreamEntry_eq t w
  rw [closes]
  have linkedReset : Linked reset.directory reset.registry := by
    rw [directory, registry]
    exact linked
  cases cleared : reset.clearWaitingsByClose (.stream t) with
  | error fault => trivial
  | ok after =>
    have linkedAfter := linked_clearWaitingsByClose linkedReset cleared
    have told : after.directory = reset.directory.tell (.stream t) := directory_clearWaitingsByClose cleared
    change Linked (after.releaseFd (.stream t)).directory (after.releaseFd (.stream t)).registry
    rw [show (after.releaseFd (.stream t)).directory = after.directory.release (.stream t) from
      after.directory_releaseFd _, registry_releaseFd]
    refine linkedAfter.release (.inl (linkedAfter.told _ ?_))
    rw [told]
    exact Function.update_self ..

theorem perform_linked (linked : Linked w.directory w.registry) (tables : w.directory.Tables) (settled : w.Settled)
    {action : Action} (admitted : w.admits action = true) :
    Yields (fun _ => True) (fun result => Linked result.2.directory result.2.registry) (w.perform action) := by
  by_cases closes : action.Closes
  · cases action with
    | closeSocket sock =>
      exact (quicCloseSocket_yields closable_linked sock w linked (fun _ _ => trivial) settled).imp
        fun _ closed => closed.1
    | closeStream stream => exact quicCloseStream_linked linked stream
    | connectionClosed s errorCode fromRemote =>
      exact (connectionClosed_yields closable_linked s errorCode fromRemote w
        (linked_announce linked s errorCode fromRemote) (fun _ => trivial) settled).bind fun _ closed => closed.1
    | _ => exact closes.elim
  by_cases registers : action.Registers
  · cases action with
    | createEpoll => exact linked_createEpoll linked
    | closeEpoller e =>
      refine withEpoller_yields linked (linked_closeEpoller linked settled ?_)
      simpa [admits] using admitted
    | epollAdd e fd events data full =>
      simp only [perform, withEpoller]
      by_cases born : (w.epollers e).live = true
      · rw [if_pos born]
        exact linked_addInner linked tables born fd events data full
      · rw [if_neg born]
        exact linked
    | epollDel e fd =>
      exact withEpoller_yields linked (yields_of_ok fun _ deleted => linked_delInner linked deleted)
    | _ => exact registers.elim
  · refine yields_of_ok fun result performed => ?_
    obtain ⟨steps, tablesAfter, kept⟩ := perform_keeps_registry tables settled admitted closes registers performed
    exact linked.kept tables tablesAfter (.steps tables steps) (.steps steps) settled.told kept

theorem reachable_linked (reachable : system.Reachable {} w) :
    Linked w.directory w.registry ∧ w.directory.Queued ∧ w.Settled := by
  refine reachable.invariant (P := fun w => Linked w.directory w.registry ∧ w.directory.Queued ∧ w.Settled)
    ⟨?_, ?_, ?_⟩ ?_
  · refine ⟨nofun, ?_, ?_, ?_, nofun, ?_, fun _ _ => ⟨rfl, rfl⟩⟩
    · rintro e (s | t) waiting <;> cases waiting
    · rintro e (s | t) waiting <;> cases waiting
    · rintro (s | t) <;> exact List.nodup_nil
    · rintro (s | t) _ <;> rfl
  · exact ⟨start_roles, nofun⟩
  · exact ⟨fun _ _ => rfl, fun _ _ => rfl⟩
  · rintro before action after ⟨linked, queued, settled⟩ admitted stepped
    obtain ⟨result, performed⟩ := step_eq_ok stepped
    obtain ⟨steps, settledAfter⟩ := (perform_refines settled admitted).of_ok performed
    exact ⟨(perform_linked linked queued.toTables settled admitted).of_ok performed,
      steps.invariant (fun _ _ holds => holds.step) queued, settledAfter⟩

end PosixQuic.World
