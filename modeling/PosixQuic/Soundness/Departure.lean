import PosixQuic.Soundness.LinkedRuns

/-! # What a closed entry takes with it

When an entry tells its waiters that it is closed, every waiter takes the registration out and gives
one reference of the UDP socket back. That is all that changes, as long as the entry still has the
descriptor that it is registered under; otherwise nothing changes.
-/

namespace PosixQuic

open Machine

/-- One reference less; a count that reaches zero is not stored. -/
def giveBack : Option Int → Option Int
  | none => none
  | some count => if count - 1 = 0 then none else some (count - 1)

theorem getD_giveBack (count : Int) : (giveBack (some count)).getD 0 = count - 1 := by
  simp only [giveBack]
  split_ifs with last
  · exact last.symm
  · rfl

/-- The `epollers` have deregistered the entry, and nothing else has changed. -/
structure Departs (entry : EntryPtr) (fd : Fd) (udp : UdpSocket) (epollers : List EpollerId) (r r' : Registry) :
    Prop where
  counted : ∀ e ∈ epollers, r.udps e udp ≠ none
  fds : ∀ e, r'.fds e = if e ∈ epollers then (r.fds e).erase fd else r.fds e
  udps : ∀ e, r'.udps e = if e ∈ epollers then Function.update (r.udps e) udp (giveBack (r.udps e udp)) else r.udps e
  waitings : ∀ x, x ≠ entry → r'.waitings x = r.waitings x
  runner : ∀ s, r'.runner s = if entry = .socket s ∧ epollers ≠ [] then none else r.runner s

namespace Departs

variable {entry : EntryPtr} {fd : Fd} {udp : UdpSocket} {e : EpollerId} {rest : List EpollerId} {r r' r'' : Registry}

theorem nobody (entry : EntryPtr) (fd : Fd) (udp : UdpSocket) (r : Registry) : Departs entry fd udp [] r r := by
  refine ⟨nofun, ?_, ?_, fun _ _ => rfl, ?_⟩
  · simp
  · simp
  · simp

/-- One waiter deregisters the entry. -/
theorem one {count : Int} (counts : r.udps e udp = some count) :
    Departs entry fd udp [e] r (r.deregister e fd entry udp count) := by
  refine ⟨?_, ?_, ?_, ?_, ?_⟩
  · intro x member
    rw [List.mem_singleton.mp member, counts]
    simp
  · intro x
    by_cases same : x = e
    · subst same
      simp [Registry.deregister]
    · simp [Registry.deregister, same]
  · intro x
    by_cases same : x = e
    · subst same
      simp [Registry.deregister, counts, giveBack]
    · simp [Registry.deregister, same]
  · intro x other
    simp [Registry.deregister, other]
  · intro s
    cases entry with
    | socket x =>
      by_cases same : s = x
      · subst same
        simp [Registry.deregister]
      · simp [Registry.deregister, same, Ne.symm same]
    | stream t => simp [Registry.deregister]

/-- One waiter after the other. -/
theorem cons (first : Departs entry fd udp [e] r r') (others : Departs entry fd udp rest r' r'')
    (fresh : e ∉ rest) : Departs entry fd udp (e :: rest) r r'' := by
  have fdsSame : ∀ x, x ≠ e → r'.fds x = r.fds x := by
    intro x other
    simpa [other] using first.fds x
  have udpsSame : ∀ x, x ≠ e → r'.udps x = r.udps x := by
    intro x other
    simpa [other] using first.udps x
  refine ⟨?_, ?_, ?_, ?_, ?_⟩
  · intro x member
    by_cases same : x = e
    · subst same
      exact first.counted x (List.mem_singleton_self x)
    · rw [← udpsSame x same]
      exact others.counted x ((List.mem_cons.mp member).resolve_left same)
  · intro x
    rw [others.fds]
    by_cases same : x = e
    · subst same
      rw [if_neg fresh, first.fds]
      simp
    · simp [fdsSame x same, same]
  · intro x
    rw [others.udps]
    by_cases same : x = e
    · subst same
      rw [if_neg fresh, first.udps]
      simp
    · simp [udpsSame x same, same]
  · exact fun x other => (others.waitings x other).trans (first.waitings x other)
  · intro s
    rw [others.runner, first.runner]
    by_cases same : entry = .socket s
    · simp [same]
    · simp [same]

/-- The registrations of other entries stay. -/
theorem lookup_other {epollers : List EpollerId} (departs : Departs entry fd udp epollers r r')
    (registered : ∀ e ∈ epollers, (r.fds e).lookup fd = some entry) {k : Fd} {x : EntryPtr} (other : x ≠ entry) :
    (r'.fds e).lookup k = some x ↔ (r.fds e).lookup k = some x := by
  rw [departs.fds]
  split_ifs with waiting
  · by_cases here : k = fd
    · subst here
      rw [AList.lookup_erase, registered e waiting]
      simp [other.symm]
    · rw [AList.lookup_erase_ne here]
  · exact Iff.rfl

/-- Every epoller that deregisters the entry lowers its count by one. -/
theorem getD_udps {epollers : List EpollerId} (departs : Departs entry fd udp epollers r r') (e : EpollerId) :
    (r'.udps e udp).getD 0 + (if e ∈ epollers then 1 else 0) = (r.udps e udp).getD 0 := by
  rw [departs.udps]
  split_ifs with member
  · obtain ⟨count, counts⟩ := Option.ne_none_iff_exists'.mp (departs.counted e member)
    rw [Function.update_self, counts, getD_giveBack]
    simp
  · simp

end Departs

namespace World

open Directory

variable {w : World} {entry : EntryPtr}

/-- Every waiter that has the entry registered deregisters it, unless it has no count to lower. -/
theorem notifyClosed_departs (udp : UdpSocket) (epollers : List EpollerId) (nodup : epollers.Nodup)
    (registered : ∀ e ∈ epollers, (w.registry.fds e).lookup (w.directory.fd entry) = some entry)
    (set : epollers ≠ [] → w.directory.udp entry = some udp) :
    Yields (fun _ => ∃ e ∈ epollers, w.registry.udps e udp = none)
      (fun w' => Departs entry (w.directory.fd entry) udp epollers w.registry w'.registry)
      (w.notifyClosed entry epollers) := by
  induction epollers generalizing w with
  | nil => exact .nobody entry _ udp w.registry
  | cons e rest ih =>
    obtain ⟨fresh, nodupRest⟩ := List.nodup_cons.mp nodup
    have found : (w.epollers e).fds.lookup (w.event entry).fd = some entry := registered e (List.mem_cons_self ..)
    have native : w.nativeUdpFd entry = some udp := set (List.cons_ne_nil _ _)
    cases counts : (w.epollers e).udps udp with
    | none =>
      have failed : w.delInner e (w.event entry).fd = .error .assertFailed := by
        simp only [delInner, found, ne_eq, not_true_eq_false, if_false, native, counts]
      simp only [notifyClosed, failed]
      exact ⟨e, List.mem_cons_self .., counts⟩
    | some count =>
      have deleted : w.delInner e (w.event entry).fd =
          .ok (.ok, w.deregister e (w.event entry).fd entry udp count) := by
        simp only [delInner, found, ne_eq, not_true_eq_false, if_false, native, counts]
      have directory := directory_delInner deleted
      have elsewhere := elsewhere_delInner deleted
      have first : Departs entry (w.directory.fd entry) udp [e] w.registry
          (w.deregister e (w.event entry).fd entry udp count).registry := by
        rw [registry_deregister]
        exact .one counts
      simp only [notifyClosed, deleted]
      dsimp only at directory elsewhere
      have continued := ih (w := w.deregister e (w.event entry).fd entry udp count) nodupRest ?_ ?_
      · rw [directory] at continued
        refine (continued.imp fun _ others => first.cons others fresh).mono ?_
        rintro _ ⟨x, member, uncounted⟩
        have other : x ≠ e := by
          rintro rfl
          exact fresh member
        exact ⟨x, List.mem_cons_of_mem _ member, by rw [← elsewhere.udps x other]; exact uncounted⟩
      · intro x member
        have other : x ≠ e := by
          rintro rfl
          exact fresh member
        rw [directory, elsewhere.fds x other]
        exact registered x (List.mem_cons_of_mem _ member)
      · rw [directory]
        exact fun _ => native

/-- Waiters that look under a wrong descriptor find nothing. -/
theorem notifyClosed_misses (epollers : List EpollerId)
    (missing : ∀ e, (w.registry.fds e).lookup (w.directory.fd entry) = none) :
    w.notifyClosed entry epollers = .ok w := by
  induction epollers with
  | nil => rfl
  | cons e rest ih =>
    have absent : (w.epollers e).fds.lookup (w.event entry).fd = none := missing e
    simp only [notifyClosed, delInner, absent]
    exact ih

/-- The entry forgets its waiters before it tells them. -/
theorem exists_forgotten (w : World) (entry : EntryPtr) :
    ∃ forgotten, w.setEvent entry { w.event entry with waitings := [], closeTrigger := true } = forgotten ∧
      forgotten.directory = w.directory.tell entry ∧
      forgotten.registry = { w.registry with waitings := Function.update w.registry.waitings entry [] } :=
  ⟨_, rfl, w.directory_forget entry, w.registry_setEvent entry _⟩

/-- The waiters of an entry with its descriptor are told. -/
theorem clearWaitingsByClose_departs (entry : EntryPtr) (udp : UdpSocket) (linked : Linked w.directory w.registry)
    (registered : ∀ e ∈ w.registry.waitings entry, (w.registry.fds e).lookup (w.directory.fd entry) = some entry)
    (set : w.registry.waitings entry ≠ [] → w.directory.udp entry = some udp) :
    Yields (fun _ => ∃ e ∈ w.registry.waitings entry, w.registry.udps e udp = none)
      (fun w' => Departs entry (w.directory.fd entry) udp (w.registry.waitings entry) w.registry w'.registry)
      (w.clearWaitingsByClose entry) := by
  unfold clearWaitingsByClose
  dsimp only
  split_ifs with told
  · have nobody : w.registry.waitings entry = [] := linked.told entry told
    rw [nobody]
    exact .nobody ..
  · obtain ⟨forgotten, forgets, directory, registry⟩ := w.exists_forgotten entry
    rw [forgets]
    have notified := notifyClosed_departs (w := forgotten) udp (w.registry.waitings entry) (linked.nodup entry)
      (by rw [registry, directory]; exact registered) (by rw [directory]; exact set)
    rw [registry, directory] at notified
    refine notified.imp ?_
    rintro after ⟨counted, fds, udps, waitings, runner⟩
    refine ⟨counted, fds, udps, ?_, runner⟩
    intro x other
    exact (waitings x other).trans (Function.update_of_ne other ..)

/-- The waiters of an entry without its descriptor are told. -/
theorem clearWaitingsByClose_misses (linked : Linked w.directory w.registry) (lost : w.directory.fd entry < 0) :
    ∃ w', w.clearWaitingsByClose entry = .ok w' ∧ w'.registry.fds = w.registry.fds ∧
      w'.registry.udps = w.registry.udps ∧ w'.registry.runner = w.registry.runner ∧
      ∀ x, x ≠ entry → w'.registry.waitings x = w.registry.waitings x := by
  have missing : ∀ e, (w.registry.fds e).lookup (w.directory.fd entry) = none := by
    intro e
    by_contra present
    obtain ⟨x, found⟩ := Option.ne_none_iff_exists'.mp present
    exact absurd (lt_of_lt_of_le Int.zero_lt_one (linked.key e _ x found).1) (not_lt.mpr lost.le)
  unfold clearWaitingsByClose
  dsimp only
  split_ifs
  · exact ⟨w, rfl, rfl, rfl, rfl, fun _ _ => rfl⟩
  · obtain ⟨forgotten, forgets, directory, registry⟩ := w.exists_forgotten entry
    rw [forgets]
    refine ⟨forgotten, notifyClosed_misses _ ?_, ?_, ?_, ?_, ?_⟩
    · intro e
      rw [registry, directory]
      exact missing e
    · rw [registry]
    · rw [registry]
    · rw [registry]
    · intro x other
      rw [registry]
      exact Function.update_of_ne other ..

end World

end PosixQuic
