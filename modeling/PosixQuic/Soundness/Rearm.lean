import PosixQuic.Machine.Outcome
import PosixQuic.Model.System
import PosixQuic.Soundness.Registration

/-! # What `Mod` announces

`ModInner` stores the new mask and sets `POLLOUT` if the mask has it. It does not look at the entry, so what happened
while a bit was masked out, or was reported before, is not announced again; deleting the registration and adding it with
the new mask would announce it.
-/

namespace PosixQuic.World

variable {w after gone : World} {e : EpollerId} {fd : Fd} {entry : EntryPtr} {events : PollMask} {data : Nat} {full : Bool}

/-- What a new registration with this mask finds pending. -/
def ready (events : PollMask) (event : Event) : PollMask where
  pollin := events.pollin && event.readable
  pollout := events.pollout && event.writable
  pollerr := event.error.isSome

/-! ## `Add` -/

theorem listenUdp_qev (w : World) (e : EpollerId) (udp : UdpSocket) (full : Bool) :
    ((w.listenUdp e udp full).2.epollers e).qev = (w.epollers e).qev := by
  unfold listenUdp epollCtlAdd
  split
  · split_ifs <;> simp [modEpoller]
  · simp [modEpoller]

theorem startWait_ready {started : World} (starts : (w.modEpoller e fun epoller =>
      { epoller with qev := Function.update epoller.qev fd { events, data } }).startWait entry e fd = some started) :
    ((started.epollers e).qev fd).revents = ready events (w.event entry) := by
  rw [startWait_revents starts]
  simp only [modEpoller, Function.update_self, Bool.false_or]
  rfl

theorem listenUdp_revents {udp : UdpSocket} (listens : w.listenUdp e udp full = (.ok, after)) :
    ((after.epollers e).qev fd).revents = ((w.epollers e).qev fd).revents := by
  have same := w.listenUdp_qev e udp full
  rw [listens] at same
  rw [same]

theorem register_revents (added : w.register e fd entry events data full = (.ok, after)) :
    ((after.epollers e).qev fd).revents = ready events (w.event entry) := by
  unfold register at added
  dsimp only at added
  split at added
  · cases added
  · next started starts =>
    have inserted : (((started.modEpoller e fun epoller =>
        { epoller with fds := epoller.fds.insert fd entry }).epollers e).qev fd).revents =
          ready events (w.event entry) := by
      rw [← startWait_ready starts]
      simp [modEpoller]
    split at added
    · cases added
    · split at added
      · exact (listenUdp_revents added).trans inserted
      · split at added
        · cases added
        · next linked links =>
          unfold link at links
          split at links
          · cases links
          · cases links
            exact (listenUdp_revents added).trans inserted

/-- `Add` finds pending what the entry has to say. -/
theorem addInner_revents (held : w.fdManager fd = some entry)
    (added : w.addInner e fd events data full = (.ok, after)) :
    ((after.epollers e).qev fd).revents = ready events (w.event entry) := by
  rcases w.addInner_outcome e fd events data full with
    ⟨-, refused⟩ | ⟨before, vacates, ⟨-, refused⟩ | ⟨found, named, -, registered⟩⟩
  · cases refused.symm.trans added
  · cases refused.symm.trans added
  · cases held.symm.trans named
    rw [register_revents (registered.symm.trans added), vacates.event]

/-! ## `Del` -/

theorem deregister_event (w : World) (e : EpollerId) (fd : Fd) (entry : EntryPtr) (udp : UdpSocket) (count : Int) :
    (w.deregister e fd entry udp count).event entry =
      { w.event entry with waitings := (w.event entry).waitings.filter (· ≠ e) } := by
  have dropped : (w.dropUdp e udp count).sockets = w.sockets ∧ (w.dropUdp e udp count).streams = w.streams := by
    unfold dropUdp
    split_ifs <;> exact ⟨rfl, rfl⟩
  cases entry with
  | socket s => simp [deregister, stopWait, eraseFd, unlink, setEvent, event, modSocket, modEpoller, dropped.1]
  | stream t => simp [deregister, stopWait, eraseFd, setEvent, event, modStream, modEpoller, dropped.2]

/-- What `Del` and then `Add` with the new mask make pending. -/
theorem readd_revents (listed : (w.epollers e).fds.lookup fd = some entry) (held : w.fdManager fd = some entry)
    (deleted : w.delInner e fd = .ok (.ok, gone)) (added : gone.addInner e fd events data full = (.ok, after)) :
    ((after.epollers e).qev fd).revents = ready events (w.event entry) := by
  rcases delInner_cases deleted with ⟨-, failed⟩ | ⟨old, -, -, failed⟩ | ⟨old, udp, count, found, -, -, -, done⟩
  · cases failed
  · cases failed
  · cases listed.symm.trans found
    cases done
    have same : (w.deregister e fd entry udp count).fdManager = w.fdManager :=
      congrArg Directory.fdManager (directory_deregister w e fd entry udp count)
    rw [addInner_revents (same ▸ held) added, deregister_event]
    rfl

/-! ## `Mod` -/

/-- What the new mask would show of the entry, except that it can be written, is pending already. -/
def Announced (w : World) (e : EpollerId) (fd : Fd) (entry : EntryPtr) (events : PollMask) : Prop :=
  (events.pollin = true → (w.event entry).readable = true → ((w.epollers e).qev fd).revents.pollin = true) ∧
    ((w.event entry).error.isSome = true → ((w.epollers e).qev fd).revents.pollerr = true)

theorem modInner_revents (listed : (w.epollers e).fds.lookup fd = some entry) (events : PollMask) (data : Nat) :
    (w.modInner e fd events data).1 = .ok ∧ (((w.modInner e fd events data).2.epollers e).qev fd).revents =
      if events.pollout then ((w.epollers e).qev fd).revents.set .pollout else ((w.epollers e).qev fd).revents := by
  unfold modInner
  rw [listed]
  exact ⟨rfl, by simp [modEpoller]⟩

/-- Behind a `Mod` every bit is pending that the entry has to say, and that `Del` and `Add` would have made pending,
exactly if those that `Mod` does not set were pending already. -/
theorem mod_rearms (listed : (w.epollers e).fds.lookup fd = some entry) (held : w.fdManager fd = some entry) :
    (w.modInner e fd events data).1 = .ok ∧
      ((∀ bit, (ready events (w.event entry)).has bit = true →
        (((w.modInner e fd events data).2.epollers e).qev fd).revents.has bit = true) ↔
          w.Announced e fd entry events) ∧
      ∀ gone after full, w.delInner e fd = .ok (.ok, gone) → gone.addInner e fd events data full = (.ok, after) →
        ((∀ bit, ((after.epollers e).qev fd).revents.has bit = true →
          (((w.modInner e fd events data).2.epollers e).qev fd).revents.has bit = true) ↔
            w.Announced e fd entry events) := by
  obtain ⟨returned, revents⟩ := modInner_revents listed events data
  have covers : (∀ bit, (ready events (w.event entry)).has bit = true →
      (((w.modInner e fd events data).2.epollers e).qev fd).revents.has bit = true) ↔
        w.Announced e fd entry events := by
    rw [revents]
    constructor
    · -- `Mod` sets no bit but the one for writing
      intro pending
      refine ⟨fun asked readable => ?_, fun failed => ?_⟩
      · have has := pending .pollin (Bool.and_eq_true_iff.mpr ⟨asked, readable⟩)
        split at has <;> exact has
      · have has := pending .pollerr failed
        split at has <;> exact has
    · rintro ⟨reading, failing⟩ bit has
      cases bit with
      | pollin =>
        obtain ⟨asked, readable⟩ := Bool.and_eq_true_iff.mp has
        have pending := reading asked readable
        split <;> exact pending
      | pollout =>
        obtain ⟨asked, -⟩ := Bool.and_eq_true_iff.mp has
        rw [if_pos asked]
        rfl
      | pollerr =>
        have pending := failing has
        split <;> exact pending
  refine ⟨returned, covers, ?_⟩
  intro gone after full deleted added
  rw [readd_revents listed held deleted added]
  exact covers

/-- A stream is registered for reading, and its data is still unread when the mask changes. -/
def asksForWriting : List Action :=
  [.createSocket 7, .connect 1 (.ok 5), .handshakeComplete 0, .createStream 1 3, .createEpoll,
    .epollAdd 0 2 { pollin := true } 9 false, .streamReceived 0 [1, 2, 3]]

theorem asksForWriting_rearms :
    ∃ w, system.replay? {} asksForWriting = some w ∧ (w.event (.stream 0)).readable = true ∧
      (w.modInner 0 2 { pollin := true, pollout := true } 9).1 = .ok ∧
      (((w.modInner 0 2 { pollin := true, pollout := true } 9).2.epollers 0).qev 2).revents.has .pollin = true := by
  have ends : ∃ w ∈ system.replay? {} asksForWriting, (w.epollers 0).fds.lookup 2 = some (.stream 0) ∧
      w.fdManager 2 = some (.stream 0) ∧ (w.event (.stream 0)).readable = true ∧
      (w.event (.stream 0)).error = none ∧ ((w.epollers 0).qev 2).revents.pollin = true := by decide
  obtain ⟨w, executed, listed, held, readable, noError, pending⟩ := ends
  have announced : w.Announced 0 2 (.stream 0) { pollin := true, pollout := true } := by
    refine ⟨fun _ _ => pending, fun failed => ?_⟩
    rw [noError] at failed
    cases failed
  obtain ⟨returned, covers, -⟩ := mod_rearms listed held
  exact ⟨w, executed, readable, returned, covers.mpr announced .pollin readable⟩

/-- A stream is registered for writing only when its data arrives. -/
def masksReading : List Action :=
  [.createSocket 7, .connect 1 (.ok 5), .handshakeComplete 0, .createStream 1 3, .createEpoll,
    .epollAdd 0 2 { pollout := true } 9 false, .poll 0 4, .streamReceived 0 [1, 2, 3]]

/-- A `Mod` that asks for reading leaves nothing pending, where `Del` and `Add` would announce the data. -/
theorem masksReading_not_rearmed :
    ∃ w, system.replay? {} masksReading = some w ∧ (w.epollers 0).fds.lookup 2 = some (.stream 0) ∧
      (w.event (.stream 0)).fd = 2 ∧ (w.event (.stream 0)).readable = true ∧
      (w.modInner 0 2 { pollin := true } 9).1 = .ok ∧
      (((w.modInner 0 2 { pollin := true } 9).2.epollers 0).qev 2).revents = {} ∧
      ∃ gone, w.delInner 0 2 = .ok (.ok, gone) ∧ (gone.addInner 0 2 { pollin := true } 9 false).1 = .ok ∧
        (((gone.addInner 0 2 { pollin := true } 9 false).2.epollers 0).qev 2).revents = { pollin := true } := by
  have ends : ∃ w ∈ system.replay? {} masksReading, (w.epollers 0).fds.lookup 2 = some (.stream 0) ∧
      (w.event (.stream 0)).fd = 2 ∧ (w.event (.stream 0)).readable = true ∧
      (w.modInner 0 2 { pollin := true } 9).1 = .ok ∧
      (((w.modInner 0 2 { pollin := true } 9).2.epollers 0).qev 2).revents = {} ∧
      ∃ result ∈ (w.delInner 0 2).toOption, result.1 = .ok ∧
        (result.2.addInner 0 2 { pollin := true } 9 false).1 = .ok ∧
        (((result.2.addInner 0 2 { pollin := true } 9 false).2.epollers 0).qev 2).revents = { pollin := true } := by
    decide
  obtain ⟨w, executed, listed, own, readable, returned, nothing, ⟨value, gone⟩, deleted, rfl, added, announced⟩ := ends
  exact ⟨w, executed, listed, own, readable, returned, nothing, gone, Machine.eq_ok_of_toOption deleted, added, announced⟩

end PosixQuic.World
