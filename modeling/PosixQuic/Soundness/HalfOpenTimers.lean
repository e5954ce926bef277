import PosixQuic.Model.EntryTimers
import PosixQuic.Soundness.Carries
import PosixQuic.Soundness.TaskMoves

/-! # Timers of half-open connections

Each proxy of a run is in a state that a proxy on its own can reach, linked to the runner that the library has given
its entry. So a task that is still to run has its node there, and nowhere if the entry is not linked, which is how a
datagram leaves the entry that it opens.
-/

namespace PosixQuic

open Machine

namespace TaskProxy

variable {p p' : TaskProxy}

theorem runner_link (unlinked : p.runner = none) (runner : Nat) (visits : List LinkVisit) :
    (p.link runner visits).runner = some runner := by
  unfold link
  rw [unlinked]
  exact (linkAll_frame runner visits _).2

theorem runner_unlink {order : List Nat} (stepped : p.unlink order = .ok p') : p'.runner = none := by
  unfold unlink at stepped
  cases current : p.runner with
  | none =>
    rw [current] at stepped
    cases stepped
    exact current
  | some runner =>
    rw [current] at stepped
    obtain ⟨middle, -, returned⟩ := bind_eq_ok stepped
    cases returned
    rfl

/-- What sessions and epollers do with a proxy leaves it where it is linked. -/
theorem Settled.runner_of_session (settled : p.Settled) {op : ProxyOp} (own : op.ofSession = true)
    (admitted : p.admits op = true) (stepped : p.step op = .ok p') : p'.runner = p.runner := by
  cases op with
  | schedule delay tick tick' =>
    cases stepped
    unfold schedule
    dsimp only
    cases p.runner <;> rfl
  | cancel task =>
    rcases settled.1.cancel_cases (admits_cancel admitted) stepped with rfl | ⟨middle, -, -, narrows, rfl⟩
    · rfl
    · exact narrows.runner
  | runOnce runner tick =>
    cases stepped
    rfl
  | advance =>
    cases stepped
    have steps := advances p
    generalize p.advance = p' at steps
    cases steps <;> rfl
  | link runner visits => cases own
  | unlink order => cases own

/-- A proxy that is relinked ends at its new runner. -/
theorem runner_of_relinking {after : Option EpollerId} {visits : List LinkVisit} {order : List Nat}
    (moved : system.replay? p (relinking p.runner after visits order) = some p') : p'.runner = after := by
  have linked : ∀ q : TaskProxy, q.runner = none →
      system.replay? q (after.toList.map fun e => .link e visits) = some p' → p'.runner = after := by
    intro q unlinked linking
    cases after with
    | none =>
      cases linking
      exact unlinked
    | some e =>
      obtain ⟨-, next, stepped, ended⟩ := System.replay?_cons linking
      cases ended
      cases stepped
      exact runner_link unlinked e visits
  unfold relinking at moved
  split_ifs at moved with same present
  · cases moved
    exact same
  · obtain ⟨-, next, stepped, continued⟩ := System.replay?_cons moved
    exact linked next (runner_unlink stepped) continued
  · exact linked p (Option.not_isSome_iff_eq_none.mp present) moved

end TaskProxy

namespace EntryTimers

variable {n n' : EntryTimers} {s : SocketId}

/-- The library's state is one of its own, and every proxy is where its entry is linked. -/
structure Coherent (n : EntryTimers) : Prop where
  world : World.system.Reachable {} n.world
  proxy : ∀ s, TaskProxy.system.Reachable {} (n.proxies s)
  runner : ∀ s < n.world.numSockets, (n.proxies s).runner = (n.world.sockets s).runner

theorem coherent_init : Coherent {} where
  world := .refl _
  proxy _ := .refl _
  runner _ known := absurd known (Nat.not_lt_zero _)

theorem Coherent.act (coherent : n.Coherent) {action : Action} {visits : SocketId → List LinkVisit}
    {orders : SocketId → List Nat} (admitted : n.world.admits action = true)
    (stepped : n.step (.act action visits orders) = .ok n') : n'.Coherent := by
  simp only [step] at stepped
  split at stepped
  · cases stepped
  · next result world performed =>
    split_ifs at stepped with follows
    cases stepped
    have moves : World.system.step n.world action = .ok world := by
      change n.world.step action = .ok world
      rw [World.step, performed]
      rfl
    refine ⟨coherent.world.move admitted moves, ?_, ?_⟩
    · intro s
      dsimp only
      cases moved : n.follow? world visits orders s with
      | none => exact coherent.proxy s
      | some proxy => exact (coherent.proxy s).trans (System.reachable_of_replay? moved)
    · intro s known
      obtain ⟨proxy, moved⟩ := Option.isSome_iff_exists.mp (follows s known)
      dsimp only
      rw [moved]
      exact TaskProxy.runner_of_relinking moved

theorem Coherent.task (coherent : n.Coherent) {op : ProxyOp} (admitted : n.admits (.task s op) = true)
    (stepped : n.step (.task s op) = .ok n') : n'.Coherent := by
  simp only [admits, Bool.and_eq_true, decide_eq_true_eq] at admitted
  obtain ⟨⟨own, known⟩, admitted⟩ := admitted
  simp only [step] at stepped
  split at stepped
  · cases stepped
  · next proxy moved =>
    cases stepped
    have settled := TaskProxy.reachable_settled (coherent.proxy s)
    refine ⟨coherent.world, ?_, ?_⟩
    · intro x
      by_cases same : x = s
      · rw [same]
        dsimp only
        rw [Function.update_self]
        exact (coherent.proxy s).move admitted moved
      · dsimp only
        rw [Function.update_of_ne same]
        exact coherent.proxy x
    · intro x present
      by_cases same : x = s
      · rw [same]
        dsimp only
        rw [Function.update_self, settled.runner_of_session own admitted moved]
        exact coherent.runner s known
      · dsimp only
        rw [Function.update_of_ne same]
        exact coherent.runner x present

theorem reachable_coherent (reachable : system.Reachable {} n) : n.Coherent := by
  refine reachable.invariant coherent_init ?_
  intro before label after coherent admitted stepped
  cases label with
  | act action visits orders => exact coherent.act admitted stepped
  | task s op => exact coherent.task admitted stepped

/-- A task of a half-open connection that is still to run has a node in the task runner of an epoller if and only if
the entry is linked to an epoller that has not been closed; then it has one there. -/
theorem half_open_timers_run (reachable : system.Reachable {} n) (half : n.world.HalfOpen (.socket s)) {task : Nat}
    (scheduled : task < (n.proxies s).numRecords) (waits : (n.proxies s).outstanding task) :
    ((∃ e, (n.world.epollers e).live = true ∧ (n.proxies s).nodesOf e task ≠ []) ↔
      ∃ e, (n.world.sockets s).runner = some e ∧ (n.world.epollers e).live = true) ∧
    ∀ e, (n.world.sockets s).runner = some e → ∃ key node, (n.proxies s).nodesOf e task = [(key, node)] := by
  have coherent := reachable_coherent reachable
  have known : s < n.world.numSockets := (World.reachable_roles coherent.world).server_lt half.1
  have settled := TaskProxy.reachable_settled (coherent.proxy s)
  have present : ∀ e, (n.world.sockets s).runner = some e → ∃ key node, (n.proxies s).nodesOf e task = [(key, node)] :=
    fun e linked => settled.nodesOf_outstanding scheduled waits ((coherent.runner s known).trans linked)
  refine ⟨⟨?_, ?_⟩, present⟩
  · rintro ⟨e, live, nodes⟩
    refine ⟨e, ?_, live⟩
    rw [← coherent.runner s known]
    by_contra elsewhere
    exact nodes (settled.1.nodesOf_eq_nil (.inl elsewhere))
  · rintro ⟨e, linked, live⟩
    obtain ⟨key, node, nodes⟩ := present e linked
    exact ⟨e, live, by rw [nodes]; exact List.cons_ne_nil _ _⟩

/-- Actions at which no proxy has tasks to move. -/
def idly (action : Action) : Label := .act action (fun _ => []) fun _ => []

/-- A datagram opens an entry at a listener. -/
def opensEntry : List Label :=
  [.createSocket 7, .bind 1 (.ok 5) none, .createEpoll, .epollAdd 0 1 { pollin := true } 0 false,
    .beginUdpEvent 0 5, .datagram 0 98].map idly

/-- The new entry is added to the epoller before its session schedules the timeout of the handshake. -/
def addsHalfOpen : List Label :=
  opensEntry ++ [idly (.epollAdd 0 2 { pollin := true } 0 false), .task 1 (.schedule 10000 1 0)]

theorem addsHalfOpen_timers_run :
    ∃ n, system.replay? {} addsHalfOpen = some n ∧ n.world.HalfOpen (.socket 1) ∧ (n.proxies 1).outstanding 0 ∧
      ∃ key node, (n.proxies 1).nodesOf 0 0 = [(key, node)] := by
  have ends : ∃ n ∈ system.replay? {} addsHalfOpen,
      ((n.world.sockets 1).perspective = .isServer ∧ (n.world.sockets 1).socketState = .shared) ∧
      0 < (n.proxies 1).numRecords ∧ (n.proxies 1).outstanding 0 ∧ (n.world.sockets 1).runner = some 0 := by
    decide +kernel
  obtain ⟨n, ran, half, scheduled, waits, linked⟩ := ends
  have timers := half_open_timers_run (System.reachable_of_replay? ran) (s := 1) half scheduled waits
  exact ⟨n, ran, half, waits, timers.2 0 linked⟩

/-- The session of the new entry schedules the timeout of the handshake. -/
def abandonsHandshake : List Label := opensEntry ++ [.task 1 (.schedule 10000 1 0)]

/-- The timeout of the handshake is in no task runner. -/
theorem abandonsHandshake_no_timer :
    ∃ n, system.Reachable {} n ∧ n.world.HalfOpen (.socket 1) ∧ 0 < (n.proxies 1).numRecords ∧
      (n.proxies 1).outstanding 0 ∧ ∀ e, (n.proxies 1).nodesOf e 0 = [] := by
  have ends : ∃ n ∈ system.replay? {} abandonsHandshake,
      ((n.world.sockets 1).perspective = .isServer ∧ (n.world.sockets 1).socketState = .shared) ∧
      0 < (n.proxies 1).numRecords ∧ (n.proxies 1).outstanding 0 ∧ (n.proxies 1).runner = none := by
    decide +kernel
  obtain ⟨n, ran, half, scheduled, waits, unlinked⟩ := ends
  have reachable := System.reachable_of_replay? ran
  refine ⟨n, reachable, half, scheduled, waits, fun e => ?_⟩
  have settled := TaskProxy.reachable_settled ((reachable_coherent reachable).proxy 1)
  refine settled.1.nodesOf_eq_nil (.inl ?_)
  rw [unlinked]
  exact Option.some_ne_none e ∘ Eq.symm

end EntryTimers

end PosixQuic
