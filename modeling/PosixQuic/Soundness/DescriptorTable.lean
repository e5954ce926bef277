import PosixQuic.Machine.HandleTable
import PosixQuic.Soundness.DirectorySteps

/-! # Descriptors of the library

`FdFactory`, `FdManager` and the `fd` that every entry remembers form one handle table. Creating an
entry, by a call, by a datagram or by an incoming stream, acquires a descriptor; deleting one
releases it, and the `-1` in the entry makes the deletions that follow do nothing.
-/

namespace PosixQuic

open Machine

namespace Directory

/-- The tables of descriptors as a handle table of entries. -/
def handles (d : Directory) : HandleTable EntryPtr where
  issued := d.fdFactory.acq
  free := d.fdFactory.freeQueue
  holder := d.fdManager
  handle := d.fd

theorem alloc_fst (d : Directory) : d.fdFactory.alloc.1 = d.handles.next := by
  unfold FdFactory.alloc HandleTable.next handles
  cases d.fdFactory.freeQueue <;> rfl

theorem handles_alloc {d d' : Directory} (entry : EntryPtr) (factory : d'.fdFactory = d.fdFactory.alloc.2)
    (manager : d'.fdManager = Function.update d.fdManager d.fdFactory.alloc.1 (some entry))
    (fds : d'.fd = Function.update d.fd entry d.fdFactory.alloc.1) :
    d'.handles = d.handles.acquire entry := by
  rw [alloc_fst] at manager fds
  refine HandleTable.ext ?_ ?_ manager fds
  · rw [show d'.handles.issued = d.fdFactory.alloc.2.acq from congrArg FdFactory.acq factory]
    unfold FdFactory.alloc HandleTable.acquire handles
    cases d.fdFactory.freeQueue <;> rfl
  · rw [show d'.handles.free = d.fdFactory.alloc.2.freeQueue from congrArg FdFactory.freeQueue factory]
    unfold FdFactory.alloc HandleTable.acquire handles
    cases d.fdFactory.freeQueue <;> simp

theorem handles_release (d : Directory) (entry : EntryPtr) :
    (d.release entry).handles = d.handles.release entry := by
  unfold release HandleTable.release
  by_cases remembers : 0 ≤ d.fd entry
  · rw [if_pos remembers, if_pos (show 0 ≤ d.handles.handle entry from remembers)]
    rfl
  · rw [if_neg remembers, if_neg (show ¬ 0 ≤ d.handles.handle entry from remembers)]

/-- The descriptors are sound, and names not in use remember none. -/
structure Tables (d : Directory) : Prop where
  sound : d.handles.Sound
  freshSocket : ∀ s, d.numSockets ≤ s → d.fd (.socket s) = -1
  freshStream : ∀ t, d.numStreams ≤ t → d.fd (.stream t) = -1

namespace Tables

variable {d d' : Directory} {may : EntryPtr → Prop}

theorem of_eq (tables : d.Tables) (same : d'.handles = d.handles) (sockets : d'.numSockets = d.numSockets)
    (streams : d'.numStreams = d.numStreams) : d'.Tables := by
  have fds : d'.fd = d.fd := congrArg HandleTable.handle same
  refine ⟨same ▸ tables.sound, ?_, ?_⟩
  · rw [fds, sockets]
    exact tables.freshSocket
  · rw [fds, streams]
    exact tables.freshStream

theorem createSocket (tables : d.Tables) (perspective : Perspective) (id : QuicConnectionId) :
    (d.createSocket perspective id).Tables where
  sound := by
    rw [handles_alloc (d := d) (.socket d.numSockets) rfl rfl rfl]
    exact tables.sound.acquire (tables.freshSocket _ le_rfl)
  freshSocket s beyond := by
    change d.numSockets + 1 ≤ s at beyond
    have other : EntryPtr.socket s ≠ .socket d.numSockets := by
      rintro ⟨⟩
      omega
    simp only [Directory.createSocket, Function.update_of_ne other]
    exact tables.freshSocket s (by omega)
  freshStream t beyond := by
    simp only [Directory.createSocket, ne_eq, reduceCtorEq, not_false_eq_true,
      Function.update_of_ne]
    exact tables.freshStream t beyond

theorem createStream (tables : d.Tables) (s : SocketId) : (d.createStream s).Tables where
  sound := by
    rw [handles_alloc (d := d) (.stream d.numStreams) rfl rfl rfl]
    exact tables.sound.acquire (tables.freshStream _ le_rfl)
  freshSocket s beyond := by
    simp only [Directory.createStream, ne_eq, reduceCtorEq, not_false_eq_true,
      Function.update_of_ne]
    exact tables.freshSocket s beyond
  freshStream t beyond := by
    change d.numStreams + 1 ≤ t at beyond
    have other : EntryPtr.stream t ≠ .stream d.numStreams := by
      rintro ⟨⟩
      omega
    simp only [Directory.createStream, Function.update_of_ne other]
    exact tables.freshStream t (by omega)

/-- A released entry remembers no descriptor; the others keep theirs. -/
theorem fd_release (d : Directory) (entry other : EntryPtr) :
    (d.release entry).fd other = d.fd other ∨ (d.release entry).fd other = -1 := by
  unfold Directory.release
  split_ifs with remembers
  · by_cases same : other = entry
    · subst same
      exact .inr (Function.update_self ..)
    · exact .inl (Function.update_of_ne same ..)
  · exact .inl rfl

theorem release (tables : d.Tables) (entry : EntryPtr) : (d.release entry).Tables := by
  have sockets : (d.release entry).numSockets = d.numSockets := by
    unfold Directory.release
    split_ifs <;> rfl
  have streams : (d.release entry).numStreams = d.numStreams := by
    unfold Directory.release
    split_ifs <;> rfl
  refine ⟨handles_release d entry ▸ tables.sound.release entry, ?_, ?_⟩
  · intro s beyond
    rcases fd_release d entry (.socket s) with kept | retired
    · rw [kept]
      exact tables.freshSocket s (sockets ▸ beyond)
    · exact retired
  · intro t beyond
    rcases fd_release d entry (.stream t) with kept | retired
    · rw [kept]
      exact tables.freshStream t (streams ▸ beyond)
    · exact retired

theorem step (tables : d.Tables) (step : Step may d d') : d'.Tables := by
  cases step with
  | createSocket id => exact tables.createSocket .isClient id
  | createStream s => exact tables.createStream s
  | setUdpSocket s sock udp _ _ _ _ => exact tables.of_eq rfl rfl rfl
  | syn e udp cached owner ownerUdp id _ _ _ _ =>
    have dispatching : (d.setDispatch e (some (udp, some owner))).Tables := tables.of_eq rfl rfl rfl
    exact (dispatching.createSocket .isServer id).of_eq rfl rfl rfl
  | setState s socketState _ => exact tables.of_eq rfl rfl rfl
  | enqueue s child udp _ _ _ => exact tables.of_eq rfl rfl rfl
  | dequeue s => exact tables.of_eq rfl rfl rfl
  | mark s _ _ => exact tables.of_eq rfl rfl rfl
  | disconnect s => exact tables.of_eq rfl rfl rfl
  | release entry _ _ => exact tables.release entry
  | tell entry _ => exact tables.of_eq rfl rfl rfl
  | setDispatch e udp => exact tables.of_eq rfl rfl rfl

theorem start : ({} : World).directory.Tables where
  sound :=
    { issued_nonneg := le_rfl
      issued_iff := fun number => by
        change (none ≠ none ∨ number ∈ []) ↔ 1 ≤ number ∧ number ≤ 0
        simp
        omega
      free_not_held := fun _ queued => by cases queued
      nodup := .nil
      handle_of_holder := fun _ _ held => by cases held
      holder_of_handle := fun entry => by cases entry <;> exact .inl rfl }
  freshSocket _ _ := rfl
  freshStream _ _ := rfl

end Tables

end Directory

namespace World

theorem reachable_tables {w : World} (reachable : system.Reachable {} w) : w.directory.Tables :=
  (reachable_directory reachable Directory.Tables.start fun _ _ => Directory.Tables.step).1

/-- Every descriptor issued is either an entry's or free, the entries remember the descriptors they are
held under and nothing once deleted, and what `Alloc` returns and what gets freed is never taken. -/
theorem descriptors_partitioned {w : World} (reachable : system.Reachable {} w) :
    (∀ fd, 1 ≤ fd → fd ≤ w.fdFactory.acq → Xor (w.fdManager fd ≠ none) (fd ∈ w.fdFactory.freeQueue)) ∧
      w.fdFactory.freeQueue.Nodup ∧
      (∀ fd entry, w.fdManager fd = some entry → (w.event entry).fd = fd) ∧
      (∀ entry, (∀ fd, w.fdManager fd ≠ some entry) → (w.event entry).fd = -1) ∧
      (∀ entry, (w.event entry).fd ≠ w.fdFactory.alloc.1) ∧
      w.fdManager w.fdFactory.alloc.1 = none ∧
      (∀ entry, (w.event entry).fd ∉ w.fdFactory.freeQueue) := by
  have sound := (reachable_tables reachable).sound
  have next : w.fdFactory.alloc.1 = w.directory.handles.next := w.directory.alloc_fst
  refine ⟨?_, sound.nodup, sound.handle_of_holder, ?_, ?_, ?_, sound.handle_not_free⟩
  · intro fd low high
    rcases (sound.issued_iff fd).mpr ⟨low, high⟩ with held | queued
    · exact .inl ⟨held, fun queued => held (sound.free_not_held fd queued)⟩
    · exact .inr ⟨queued, fun held => held (sound.free_not_held fd queued)⟩
  · intro entry missing
    rcases sound.holder_of_handle entry with retired | held
    · exact retired
    · exact (missing _ held).elim
  · intro entry
    rw [next]
    exact sound.handle_ne_next entry
  · rw [next]
    exact sound.next_not_held

/-- A listener that has also connected is closed with one accepted connection in its queue, while the handshake of a
second one is under way; then that one fails too, and a new socket gets the first descriptor that came back. -/
def listenerCloses : List Action :=
  [.createSocket 7, .bind 1 (.ok 5) none, .createEpoll, .epollAdd 0 1 { pollin := true } 0 false,
    .beginUdpEvent 0 5, .datagram 0 98, .handshakeComplete 1, .datagram 0 99, .endUdpEvent 0,
    .connect 1 (.ok 6), .closeSocket 1, .connectionClosed 2 25 true, .createSocket 8]

theorem listenerCloses_partitioned :
    ∃ w, system.replay? {} listenerCloses = some w ∧ w.fdFactory.freeQueue = [1, 3] ∧
      w.fdManager 2 = some (.socket 3) ∧ (∀ entry, (w.event entry).fd ≠ w.fdFactory.alloc.1) := by
  have ends : (system.replay? {} listenerCloses).map (fun w => (w.fdFactory.freeQueue, w.fdManager 2)) =
      some ([1, 3], some (.socket 3)) := by decide
  obtain ⟨w, executed, observed⟩ := Option.map_eq_some_iff.mp ends
  rw [Prod.mk.injEq] at observed
  exact ⟨w, executed, observed.1, observed.2,
    (descriptors_partitioned (System.reachable_of_replay? executed)).2.2.2.2.1⟩

end World

end PosixQuic
