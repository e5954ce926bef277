import PosixQuic.Soundness.Registry

/-! # Registering and deregistering, seen through the registry

`DelInner` and a successful `AddInner` are one change of the registry each. Whatever an operation on
one epoller does, the other epollers keep their registrations, and their triggers stay among the
waiters where they were.
-/

namespace PosixQuic

open Machine

namespace Registry

/-- Take the registration of `entry` back, with one reference of its UDP socket. -/
def deregister (r : Registry) (e : EpollerId) (fd : Fd) (entry : EntryPtr) (udp : UdpSocket) (count : Int) :
    Registry :=
  { r with
    fds := Function.update r.fds e ((r.fds e).erase fd)
    udps := Function.update r.udps e
      (Function.update (r.udps e) udp (if count - 1 = 0 then none else some (count - 1)))
    interest := Function.update r.interest e
      (if count - 1 = 0 then Function.update (r.interest e) udp false else r.interest e)
    waitings := Function.update r.waitings entry ((r.waitings entry).filter (· ≠ e))
    runner :=
      match entry with
      | .socket s => Function.update r.runner s none
      | .stream _ => r.runner }

/-- Register `entry` on behalf of a UDP socket that the kernel reports to the epoller. -/
def register (r : Registry) (e : EpollerId) (fd : Fd) (entry : EntryPtr) (udp : UdpSocket) : Registry :=
  { r with
    fds := Function.update r.fds e ((r.fds e).insert fd entry)
    udps := Function.update r.udps e
      (Function.update (r.udps e) udp (some ((r.udps e udp).getD 0 + 1)))
    interest := Function.update r.interest e
      (if r.udps e udp = none then Function.update (r.interest e) udp true else r.interest e)
    waitings := Function.update r.waitings entry
      (if e ∈ r.waitings entry then r.waitings entry else r.waitings entry ++ [e])
    runner :=
      match entry with
      | .socket s => Function.update r.runner s (some e)
      | .stream _ => r.runner }

/-- Only the epoller `e` and its place among the waiters have changed. -/
structure Elsewhere (e : EpollerId) (r r' : Registry) : Prop where
  fds : ∀ other, other ≠ e → r'.fds other = r.fds other
  udps : ∀ other, other ≠ e → r'.udps other = r.udps other
  interest : ∀ other, other ≠ e → r'.interest other = r.interest other
  live : ∀ other, other ≠ e → r'.live other = r.live other
  numEpollers : r'.numEpollers = r.numEpollers
  waitings : ∀ other entry, other ≠ e → (other ∈ r'.waitings entry ↔ other ∈ r.waitings entry)

variable {e : EpollerId} {r r' r'' : Registry}

theorem Elsewhere.refl (e : EpollerId) (r : Registry) : Elsewhere e r r :=
  ⟨fun _ _ => rfl, fun _ _ => rfl, fun _ _ => rfl, fun _ _ => rfl, rfl, fun _ _ _ => Iff.rfl⟩

theorem Elsewhere.trans (first : Elsewhere e r r') (second : Elsewhere e r' r'') : Elsewhere e r r'' where
  fds other different := (second.fds other different).trans (first.fds other different)
  udps other different := (second.udps other different).trans (first.udps other different)
  interest other different := (second.interest other different).trans (first.interest other different)
  live other different := (second.live other different).trans (first.live other different)
  numEpollers := second.numEpollers.trans first.numEpollers
  waitings other entry different := (second.waitings other entry different).trans (first.waitings other entry different)

end Registry

namespace World

open Registry

theorem elsewhere_modEpoller (w : World) (e : EpollerId) (f : QuicEpollerEntry → QuicEpollerEntry) :
    Elsewhere e w.registry (w.modEpoller e f).registry := by
  rw [registry_modEpoller]
  refine ⟨?_, ?_, ?_, ?_, rfl, fun _ _ _ => Iff.rfl⟩
  all_goals
    intro other different
    exact Function.update_of_ne different ..

variable {w w' : World} {s : SocketId} {e : EpollerId} {entry : EntryPtr} {fd : Fd}

/-- Changing the links of the task runners concerns no registration. -/
theorem elsewhere_modSocket (e : EpollerId) {f : QuicSocketEntry → QuicSocketEntry}
    (waitings : (f (w.sockets s)).waitings = (w.sockets s).waitings) :
    Elsewhere e w.registry (w.modSocket s f).registry := by
  rw [registry_modSocket, waitings]
  refine ⟨fun _ _ => rfl, fun _ _ => rfl, fun _ _ => rfl, fun _ _ => rfl, rfl, ?_⟩
  intro other entry different
  rw [show Function.update w.registry.waitings (.socket s) (w.sockets s).waitings = w.registry.waitings from
    Function.update_eq_self ..]

/-- Changing one place among the waiters. -/
theorem elsewhere_setEvent {event : Event}
    (waitings : ∀ other, other ≠ e → (other ∈ event.waitings ↔ other ∈ (w.event entry).waitings)) :
    Elsewhere e w.registry (w.setEvent entry event).registry := by
  rw [registry_setEvent]
  refine ⟨fun _ _ => rfl, fun _ _ => rfl, fun _ _ => rfl, fun _ _ => rfl, rfl, ?_⟩
  intro other x different
  by_cases same : x = entry
  · subst same
    simp only [Function.update_self]
    exact waitings other different
  · simp only [Function.update_of_ne same]

theorem elsewhere_stopWait (w : World) (entry : EntryPtr) (e : EpollerId) :
    Elsewhere e w.registry (w.stopWait entry e).registry := by
  refine elsewhere_setEvent fun other different => ?_
  simp [different]

theorem elsewhere_startWait (started : w.startWait entry e fd = some w') : Elsewhere e w.registry w'.registry := by
  simp only [startWait] at started
  split_ifs at started with refused waits
  all_goals
    cases started
    refine (w.elsewhere_modEpoller e _).trans (elsewhere_setEvent fun other different => ?_)
  · rfl
  · simp only [List.mem_append, List.mem_singleton, different, or_false]
    rfl

theorem elsewhere_link (linked : w.link s e = some w') : Elsewhere e w.registry w'.registry := by
  simp only [link] at linked
  split at linked
  · cases linked
  · cases linked
    exact elsewhere_modSocket e rfl

theorem elsewhere_listenUdp (w : World) (e : EpollerId) (udp : UdpSocket) (full : Bool) :
    Elsewhere e w.registry (w.listenUdp e udp full).2.registry := by
  simp only [listenUdp, epollCtlAdd]
  split
  · split_ifs
    · exact .refl ..
    · exact .refl ..
    · dsimp only
      exact (w.elsewhere_modEpoller e _).trans (elsewhere_modEpoller _ e _)
  · dsimp only
    exact w.elsewhere_modEpoller e _

theorem elsewhere_addInner (w : World) (e : EpollerId) (fd : Fd) (events : PollMask) (data : Nat) (full : Bool) :
    Elsewhere e w.registry (w.addInner e fd events data full).2.registry := by
  have adding : Adding (fun after => Elsewhere e w.registry after.registry) e :=
    { epoller := fun _ _ before => before.trans (elsewhere_modEpoller ..)
      startWait := fun started before => before.trans (elsewhere_startWait started)
      stopWait := fun _ _ before => before.trans (elsewhere_stopWait ..)
      link := fun linked before => before.trans (elsewhere_link linked)
      listenUdp := fun _ _ _ before => before.trans (elsewhere_listenUdp ..) }
  exact adding.addInner (.refl ..) ..

theorem registry_stopWait (w : World) (entry : EntryPtr) (e : EpollerId) :
    (w.stopWait entry e).registry =
      { w.registry with
        waitings := Function.update w.registry.waitings entry ((w.registry.waitings entry).filter (· ≠ e)) } :=
  w.registry_setEvent entry _

theorem registry_eraseFd (w : World) (e : EpollerId) (fd : Fd) :
    (w.eraseFd e fd).registry =
      { w.registry with fds := Function.update w.registry.fds e ((w.registry.fds e).erase fd) } := by
  rw [eraseFd, registry_modEpoller]
  exact Registry.ext rfl (Function.update_eq_self ..) (Function.update_eq_self ..) (Function.update_eq_self ..)
    rfl rfl rfl

theorem registry_unlink (w : World) (s : SocketId) :
    (w.unlink s).registry = { w.registry with runner := Function.update w.registry.runner s none } := by
  rw [unlink, registry_modSocket]
  exact Registry.ext rfl rfl rfl rfl rfl (Function.update_eq_self ..) rfl

theorem registry_dropUdp (w : World) (e : EpollerId) (udp : UdpSocket) (count : Int) :
    (w.dropUdp e udp count).registry =
      { w.registry with
        udps := Function.update w.registry.udps e
          (Function.update (w.registry.udps e) udp (if count - 1 = 0 then none else some (count - 1)))
        interest := Function.update w.registry.interest e
          (if count - 1 = 0 then Function.update (w.registry.interest e) udp false else w.registry.interest e) } := by
  simp only [dropUdp, epollCtlDel]
  split_ifs
  · rw [registry_modEpoller, registry_modEpoller]
    refine Registry.ext ?_ ?_ ?_ ?_ rfl rfl rfl <;> simp [modEpoller, registry]
  · rw [registry_modEpoller]
    refine Registry.ext ?_ ?_ ?_ ?_ rfl rfl rfl <;> simp [registry]

/-- The registration and its reference are taken back in one change. -/
theorem registry_deregister (w : World) (e : EpollerId) (fd : Fd) (entry : EntryPtr) (udp : UdpSocket) (count : Int) :
    (w.deregister e fd entry udp count).registry = w.registry.deregister e fd entry udp count := by
  cases entry with
  | socket s =>
    change ((((w.dropUdp e udp count).stopWait (.socket s) e).eraseFd e fd).unlink s).registry = _
    rw [registry_unlink, registry_eraseFd, registry_stopWait, registry_dropUdp]
    rfl
  | stream t =>
    change (((w.dropUdp e udp count).stopWait (.stream t) e).eraseFd e fd).registry = _
    rw [registry_eraseFd, registry_stopWait, registry_dropUdp]
    rfl

theorem elsewhere_delInner {result : CallResult × World} (deleted : w.delInner e fd = .ok result) :
    Elsewhere e w.registry result.2.registry := by
  rcases delInner_cases deleted with ⟨-, rfl⟩ | ⟨entry, -, -, rfl⟩ | ⟨entry, udp, count, -, -, -, -, rfl⟩
  · exact .refl ..
  · dsimp only [eraseFd]
    exact w.elsewhere_modEpoller e _
  · dsimp only
    rw [registry_deregister]
    refine ⟨?_, ?_, ?_, fun _ _ => rfl, rfl, ?_⟩
    · exact fun other different => Function.update_of_ne different ..
    · exact fun other different => Function.update_of_ne different ..
    · exact fun other different => Function.update_of_ne different ..
    · intro other x different
      by_cases same : x = entry
      · subst same
        simp [Registry.deregister, different]
      · simp [Registry.deregister, same]

theorem registry_startWait (started : w.startWait entry e fd = some w') :
    (w.event entry).closeTrigger = false ∧
      w'.registry =
        { w.registry with
          waitings := Function.update w.registry.waitings entry
            (if e ∈ w.registry.waitings entry then w.registry.waitings entry
              else w.registry.waitings entry ++ [e]) } := by
  simp only [startWait] at started
  by_cases refused : (w.event entry).closeTrigger = true
  · rw [if_pos refused] at started
    cases started
  · rw [if_neg refused] at started
    cases started
    refine ⟨by simpa using refused, ?_⟩
    rw [registry_setEvent, registry_modEpoller_kept ⟨rfl, rfl, rfl, rfl⟩]
    rfl

theorem registry_link (linked : w.link s e = some w') :
    w'.registry = { w.registry with runner := Function.update w.registry.runner s (some e) } := by
  simp only [link] at linked
  split at linked
  · cases linked
  · cases linked
    rw [registry_modSocket]
    exact Registry.ext rfl rfl rfl rfl rfl (Function.update_eq_self ..) rfl

/-- The last part of `AddInner` adds a reference, unless the kernel refuses. -/
theorem listenUdp_cases (w : World) (e : EpollerId) (udp : UdpSocket) (full : Bool) :
    (w.listenUdp e udp full = (.fail .enospc, w)) ∨
    (w.listenUdp e udp full = (.fail .eexist, w) ∧ w.registry.udps e udp = none ∧
      w.registry.interest e udp = true) ∨
    ((w.listenUdp e udp full).1 = .ok ∧
      (w.listenUdp e udp full).2.registry =
        { w.registry with
          udps := Function.update w.registry.udps e
            (Function.update (w.registry.udps e) udp (some ((w.registry.udps e udp).getD 0 + 1)))
          interest := Function.update w.registry.interest e
            (if w.registry.udps e udp = none then Function.update (w.registry.interest e) udp true
              else w.registry.interest e) }) := by
  unfold listenUdp epollCtlAdd
  cases counted : (w.epollers e).udps udp with
  | none =>
    have absent : w.registry.udps e udp = none := counted
    by_cases interested : (w.epollers e).interest udp = true
    · exact .inr (.inl ⟨by simp [interested], absent, interested⟩)
    · cases full with
      | true => exact .inl (by simp [interested])
      | false =>
        refine .inr (.inr ⟨by simp [interested], ?_⟩)
        simp only [interested, Bool.false_eq_true, if_false]
        rw [registry_modEpoller, registry_modEpoller]
        refine Registry.ext ?_ ?_ ?_ ?_ rfl rfl rfl
        · simp [modEpoller, registry]
        · simp [modEpoller, registry, counted]
        · simp [modEpoller, registry, counted]
        · simp [modEpoller, registry]
  | some count =>
    refine .inr (.inr ⟨rfl, ?_⟩)
    dsimp only
    rw [registry_modEpoller]
    refine Registry.ext ?_ ?_ ?_ ?_ rfl rfl rfl
    · simp [registry]
    · simp [registry, counted]
    · simp [registry, counted]
    · simp [registry]

/-- The refusals of `AddInner` that leave something of the registration behind. -/
def Leftover (err : Errno) : Prop := err = .einval ∨ err = .ebusy ∨ err = .enospc

/-- Refused at once, or stored with a waiter before the last checks are made. -/
theorem register_stages (w : World) (e : EpollerId) (fd : Fd) (entry : EntryPtr) (events : PollMask) (data : Nat)
    (full : Bool) :
    ((w.event entry).closeTrigger = true ∧ ∃ before : World,
      w.register e fd entry events data full = (.fail .ebadf, before) ∧ before.registry = w.registry) ∨
    ∃ inserted : World, (w.event entry).closeTrigger = false ∧
      inserted.registry =
        { w.registry with
          fds := Function.update w.registry.fds e ((w.registry.fds e).insert fd entry)
          waitings := Function.update w.registry.waitings entry
            (if e ∈ w.registry.waitings entry then w.registry.waitings entry
              else w.registry.waitings entry ++ [e]) } ∧
      w.register e fd entry events data full =
        match w.nativeUdpFd entry with
        | none => (.fail .einval, inserted.stopWait entry e)
        | some udp =>
          match entry with
          | .stream _ => inserted.listenUdp e udp full
          | .socket s =>
            match inserted.link s e with
            | none => (.fail .ebusy, inserted.stopWait entry e)
            | some linked => linked.listenUdp e udp full := by
  unfold register
  dsimp only
  generalize stored : (w.modEpoller e fun epoller =>
    { epoller with qev := Function.update epoller.qev fd { events, data } }) = before
  have directory : before.directory = w.directory := by
    rw [← stored]
    exact directory_modEpoller_kept rfl
  have registry : before.registry = w.registry := by
    rw [← stored]
    exact registry_modEpoller_kept ⟨rfl, rfl, rfl, rfl⟩
  cases starts : before.startWait entry e fd with
  | none =>
    have closed := congrFun (congrArg Directory.closeTrigger directory) entry
    exact .inl ⟨closed.symm.trans (startWait_eq_none_iff.mp starts), before, rfl, registry⟩
  | some started =>
    obtain ⟨isOpen, waits⟩ := registry_startWait starts
    have flag : (w.event entry).closeTrigger = false :=
      (congrFun (congrArg Directory.closeTrigger directory) entry).symm.trans isOpen
    dsimp only
    generalize inserts : (started.modEpoller e fun epoller =>
      { epoller with fds := epoller.fds.insert fd entry }) = inserted
    have native : inserted.nativeUdpFd = w.nativeUdpFd := by
      rw [← inserts]
      exact congrArg Directory.udp
        ((directory_modEpoller_kept rfl).trans ((directory_startWait starts).trans directory))
    refine .inr ⟨inserted, flag, ?_, ?_⟩
    · rw [← inserts, registry_modEpoller]
      have fds : (started.epollers e).fds = w.registry.fds e := by
        change started.registry.fds e = _
        rw [waits, registry]
      rw [fds]
      refine Registry.ext ?_ ?_ ?_ ?_ ?_ ?_ ?_
      · rw [waits, registry]
      · exact (Function.update_eq_self ..).trans (by rw [waits, registry])
      · exact (Function.update_eq_self ..).trans (by rw [waits, registry])
      · exact (Function.update_eq_self ..).trans (by rw [waits, registry])
      all_goals rw [waits, registry]
    · exact native ▸ rfl

/-- What the part of `AddInner` behind the lookup has done. -/
theorem register_cases (w : World) (e : EpollerId) (fd : Fd) (entry : EntryPtr) (events : PollMask) (data : Nat)
    (full : Bool) :
    (∃ err, (w.register e fd entry events data full).1 = .fail err ∧ Leftover err) ∨
    ((w.register e fd entry events data full).1 = .fail .ebadf ∧
      (w.register e fd entry events data full).2.registry = w.registry) ∨
    ∃ udp, w.nativeUdpFd entry = some udp ∧
      ((w.register e fd entry events data full).1 = .fail .eexist ∧ w.registry.udps e udp = none ∧
          w.registry.interest e udp = true ∨
        (w.register e fd entry events data full).1 = .ok ∧ (w.event entry).closeTrigger = false ∧
          (w.register e fd entry events data full).2.registry = w.registry.register e fd entry udp) := by
  rcases w.register_stages e fd entry events data full with
    ⟨-, before, refused, same⟩ | ⟨inserted, flag, insertedRegistry, staged⟩
  · rw [refused]
    exact .inr (.inl ⟨rfl, same⟩)
  · rw [staged]
    cases set : w.nativeUdpFd entry with
    | none => exact .inl ⟨.einval, rfl, .inl rfl⟩
    | some udp =>
      dsimp only
      -- the kernel is asked last, whoever else had to agree before
      have finish : ∀ ready : World,
          ready.registry = { inserted.registry with runner := (w.registry.register e fd entry udp).runner } →
          (∃ err, (ready.listenUdp e udp full).1 = .fail err ∧ Leftover err) ∨
          ((ready.listenUdp e udp full).1 = .fail .ebadf ∧
            (ready.listenUdp e udp full).2.registry = w.registry) ∨
          ∃ native, some udp = some native ∧
            ((ready.listenUdp e udp full).1 = .fail .eexist ∧ w.registry.udps e native = none ∧
                w.registry.interest e native = true ∨
              (ready.listenUdp e udp full).1 = .ok ∧ (w.event entry).closeTrigger = false ∧
                (ready.listenUdp e udp full).2.registry = w.registry.register e fd entry native) := by
        intro ready same
        rw [insertedRegistry] at same
        rcases ready.listenUdp_cases e udp full with refused | ⟨refused, absent, interested⟩ | ⟨done, changed⟩
        · exact .inl ⟨.enospc, congrArg Prod.fst refused, .inr (.inr rfl)⟩
        · rw [same] at absent interested
          exact .inr (.inr ⟨udp, rfl, .inl ⟨congrArg Prod.fst refused, absent, interested⟩⟩)
        · rw [same] at changed
          exact .inr (.inr ⟨udp, rfl, .inr ⟨done, flag, changed⟩⟩)
      cases entry with
      | stream t =>
        refine finish inserted ?_
        rw [insertedRegistry]
        rfl
      | socket s =>
        dsimp only
        cases links : inserted.link s e with
        | none => exact .inl ⟨.ebusy, rfl, .inr (.inl rfl)⟩
        | some linked =>
          refine finish linked ?_
          rw [registry_link links, insertedRegistry]
          rfl

/-- What `AddInner` has done, for an epoller whose registrations are of entries in use. -/
theorem addInner_cases (fd : Fd) (events : PollMask) (data : Nat) (full : Bool)
    (inUse : ∀ fd entry, (w.epollers e).fds.lookup fd = some entry → (w.event entry).fd = fd) :
    (∃ err, (w.addInner e fd events data full).1 = .fail err ∧ Leftover err) ∨
    (w.addInner e fd events data full).2.registry = w.registry ∨
    ∃ entry udp, w.fdManager fd = some entry ∧ (w.registry.fds e).lookup fd = none ∧
      w.nativeUdpFd entry = some udp ∧
      (w.registry.udps e udp = none ∧ w.registry.interest e udp = true ∨
        (w.event entry).closeTrigger = false ∧
          (w.addInner e fd events data full).2.registry = w.registry.register e fd entry udp) := by
  unfold addInner
  dsimp only
  cases found : (w.epollers e).fds.lookup fd with
  | some old =>
    dsimp only
    rw [if_pos (inUse fd old found)]
    exact .inr (.inl rfl)
  | none =>
    dsimp only
    cases held : w.fdManager fd with
    | none => exact .inr (.inl rfl)
    | some entry =>
      dsimp only
      split_ifs
      · exact .inr (.inl rfl)
      · rcases w.register_cases e fd entry events data full with left | ⟨-, same⟩ | ⟨udp, native, outcome⟩
        · exact .inl left
        · exact .inr (.inl same)
        · refine .inr (.inr ⟨entry, udp, rfl, found, native, ?_⟩)
          rcases outcome with ⟨-, absent, interested⟩ | ⟨-, flag, changed⟩
          · exact .inl ⟨absent, interested⟩
          · exact .inr ⟨flag, changed⟩

end World

end PosixQuic
