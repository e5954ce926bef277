import PosixQuic.Model.ReadWatch
import PosixQuic.Soundness.LinkedRuns
import PosixQuic.Soundness.ReadFrame
import PosixQuic.Soundness.StreamReads

/-! # Edge-triggered reads never strand data

`OnReceived` triggers only when the buffer was empty, so a reader has to go on until `EAGAIN`. As long as it
has not seen that answer since the last report, or a report is pending, it knows of everything there is to
read. The actions that touch neither streams nor registrations are quiet; the others are looked at one by one.
-/

namespace PosixQuic.World

open Machine

variable {w : World}

/-- The actions that may deliver data, withdraw a pending bit or change a registration. -/
def touchesReader : Action → Bool
  | .epollAdd .. | .epollMod .. | .poll .. | .streamReceived .. | .streamFinRead _ => true
  | _ => false

theorem calm_readv (stream : QuicStreamEntry) (iov : List Nat) : stream.Calm (stream.readv iov).entry := by
  by_cases serves : stream.Serves
  · rw [(QuicStreamEntry.readv_of_serves serves iov).2.1]
    refine ⟨fun rest empty => rest ?_, id, fun _ => id, id, fun _ => id⟩
    simp [List.scatterRest, empty]
  · rw [(QuicStreamEntry.readv_of_not_serves serves iov).2]
    exact .refl stream

theorem perform_quiet (settled : w.Settled) {action : Action} (plain : touchesReader action = false) :
    Yields (fun _ => True) (fun result => Quiet w result.2) (w.perform action) := by
  cases action with
  | createSocket key => exact .of_eq rfl rfl
  | bind sock udp os =>
    exact withSocket_yields (.refl w) fun s _ => (w.quiet_configures s).bind (fun _ => trivial) os
  | bindUdp sock udp os => exact withSocket_yields (.refl w) fun s _ => (w.quiet_configures s).bindUdp trivial os
  | connect sock udp =>
    exact withSocket_yields (.refl w) fun s _ =>
      (w.quiet_configures s).connect (fun _ => trivial) fun _ => .of_eq rfl rfl
  | socketAccept sock =>
    refine withSocket_yields (.refl w) fun s _ => ?_
    unfold acceptSocket
    split_ifs
    · exact .refl w
    · split
      · exact .refl w
      · exact .of_eq rfl rfl
  | closeSocket sock =>
    exact (quicCloseSocket_yields (closable_quiet w) sock w (.refl w) (fun _ _ => trivial) settled).imp
      fun _ done => done.1
  | streamAccept sock =>
    refine withSocket_yields (.refl w) fun s _ => ?_
    unfold acceptStream
    split_ifs
    · exact .refl w
    · split
      · exact .refl w
      · exact .of_eq rfl rfl
  | createStream sock streamId =>
    refine withSocket_yields (.refl w) fun s _ => ?_
    unfold createStream
    split_ifs
    · exact .refl w
    · exact w.quiet_newQuicStream s streamId
  | closeStream stream =>
    refine withStream_yields (.refl w) fun t _ => ?_
    have reset : Quiet w (if (w.streams t).quartcOpen then w.streamCallback t QuicStreamEntry.onClose else w) := by
      split_ifs
      · exact quiet_streamCallback (calm_onClose _)
      · exact .refl w
    cases closed : closeStreamEntry t w with
    | error fault => trivial
    | ok after => exact (reset.trans (quiet_clearWaitingsByClose closed)).trans (quiet_releaseFd ..)
  | readv stream iov =>
    refine withStream_yields (.refl w) fun t _ => ?_
    have read : Quiet w (w.modStream t fun _ => ((w.streams t).readv iov).entry) :=
      quiet_modStream (calm_readv (w.streams t) iov)
    exact read
  | createEpoll => exact w.quiet_createEpoll
  | closeEpoller e => exact withEpoller_yields (.refl w) (w.quiet_closeEpoller e)
  | epollDel e fd =>
    exact withEpoller_yields (.refl w) (yields_of_ok fun _ deleted => quiet_delInner deleted)
  | beginUdpEvent e udp => exact withEpoller_yields (.refl w) (w.quiet_setDispatch e (some (udp, none)))
  | datagram e key =>
    exact datagram_yields (.refl w) fun _ _ _ _ dispatched => quiet_dispatchDatagram dispatched
  | endUdpEvent e => exact w.quiet_setDispatch e none
  | handshakeComplete s =>
    exact handshakeComplete_yields fun _ completed => quiet_onCryptoHandshakeComplete completed
  | incomingStream s streamId => exact w.quiet_onIncomingStream s streamId
  | connectionClosed s errorCode fromRemote =>
    have closes := connectionClosed_yields (closable_quiet w) s errorCode fromRemote w
      (w.quiet_announce s errorCode fromRemote) (fun _ => trivial) settled
    simp only [perform]
    exact closes.bind fun after done => done.1
  | streamClosed t => exact quiet_streamCallback (calm_onClose _)
  | streamCanWrite t => exact quiet_streamCallback (calm_onCanWriteNewData (w.streams t))
  | epollAdd | epollMod | poll | streamReceived | streamFinRead => cases plain

/-! ## One registration -/

variable {w' : World} {e e' : EpollerId} {fd fd' : Fd} {t : StreamId} {entry : EntryPtr}

/-- The stream is registered under the descriptor and its triggers reach the epoller. -/
def Watches (w : World) (e : EpollerId) (fd : Fd) (t : StreamId) : Prop :=
  (w.epollers e).fds.lookup fd = some (.stream t) ∧ e ∈ (w.streams t).waitings

/-- Quiet as far as one stream and one registration of it go. -/
structure QuietAt (e : EpollerId) (fd : Fd) (t : StreamId) (w w' : World) : Prop where
  recvBuffer : (w'.streams t).recvBuffer ≠ [] → (w.streams t).recvBuffer ≠ []
  finRead : (w'.streams t).finRead = true → (w.streams t).finRead = true
  readable : (w'.streams t).recvBuffer ≠ [] ∨ (w'.streams t).finRead = true →
    (w.streams t).readable = true → (w'.streams t).readable = true
  error : (w'.streams t).error = some .eagain → (w.streams t).error = some .eagain
  registration : w'.Watches e fd t →
    w.Watches e fd t ∧ ((w.epollers e).qev fd).Calm ((w'.epollers e).qev fd)

theorem QuietAt.of_calm (stream : (w.streams t).Calm (w'.streams t))
    (epoller : CalmEpoller (w.epollers e) (w'.epollers e)) : QuietAt e fd t w w' := by
  refine ⟨stream.recvBuffer, stream.finRead, stream.readable, stream.error, fun ⟨found, waits⟩ => ?_⟩
  obtain ⟨foundBefore, calm⟩ := epoller fd (.stream t) found
  exact ⟨⟨foundBefore, stream.waitings e waits⟩, calm⟩

theorem Quiet.at (quiet : Quiet w w') : QuietAt e fd t w w' := .of_calm (quiet.streams t) (quiet.epollers e)

/-- What one iteration of `Poll` leaves of a registration. -/
def visit (qev : Fd → QuicEpollEvent) (key : Fd) : Fd → QuicEpollEvent :=
  Function.update qev key { qev key with revents := (qev key).revents.diff ((qev key).events.set .pollerr) }

theorem visit_pollin (qev : Fd → QuicEpollEvent) (key fd : Fd) :
    (visit qev key fd).events = (qev fd).events ∧
      ((qev fd).revents.pollin = true → (visit qev key fd).revents.pollin = true ∨
        key = fd ∧ ((qev key).revents.inter ((qev key).events.set .pollerr)).pollin = true) := by
  by_cases same : fd = key
  · subst same
    rw [visit, Function.update_self]
    refine ⟨rfl, fun pending => ?_⟩
    cases asked : ((qev fd).events.set .pollerr).pollin with
    | true => exact .inr ⟨rfl, by simp [PollMask.inter, pending, asked]⟩
    | false => exact .inl (by simp [PollMask.diff, pending, asked])
  · rw [visit, Function.update_of_ne same]
    exact ⟨rfl, .inl⟩

/-- A `Poll` keeps a pending `POLLIN` or reports it. -/
theorem pollLoop_pollin (qev : Fd → QuicEpollEvent) (entries : List (Sigma fun _ : Fd => EntryPtr)) (room : Nat)
    (fd : Fd) (entry : EntryPtr) (only : ∀ other, ⟨fd, other⟩ ∈ entries → other = entry) :
    ((pollLoop qev entries room).2 fd).events = (qev fd).events ∧
      ((qev fd).revents.pollin = true → ((pollLoop qev entries room).2 fd).revents.pollin = true ∨
        ∃ event ∈ (pollLoop qev entries room).1, event.source = entry ∧ event.events.pollin = true) := by
  induction entries generalizing qev room with
  | nil => exact ⟨rfl, .inl⟩
  | cons head rest ih =>
    obtain ⟨key, source⟩ := head
    have onlyRest : ∀ other, ⟨fd, other⟩ ∈ rest → other = entry :=
      fun other member => only other (List.mem_cons_of_mem _ member)
    cases room with
    | zero => exact ⟨rfl, .inl⟩
    | succ room =>
      obtain ⟨events, pollin⟩ := visit_pollin qev key fd
      simp only [pollLoop]
      split_ifs with nothing
      · obtain ⟨eventsRest, pollinRest⟩ := ih (visit qev key) (room + 1) onlyRest
        refine ⟨eventsRest.trans events, fun pending => ?_⟩
        rcases pollin pending with kept | ⟨-, visited⟩
        · exact pollinRest kept
        · rw [nothing] at visited
          cases visited
      · obtain ⟨eventsRest, pollinRest⟩ := ih (visit qev key) room onlyRest
        refine ⟨eventsRest.trans events, fun pending => ?_⟩
        rcases pollin pending with kept | ⟨rfl, visited⟩
        · rcases pollinRest kept with keptRest | ⟨event, member, reported⟩
          · exact .inl keptRest
          · exact .inr ⟨event, List.mem_cons_of_mem _ member, reported⟩
        · exact .inr ⟨_, List.mem_cons_self .., only source (List.mem_cons_self ..), visited⟩

theorem poll_pollin (found : (w.epollers e).fds.lookup fd = some entry) (maxevents : Nat) :
    (((w.poll e maxevents).2.epollers e).qev fd).events = ((w.epollers e).qev fd).events ∧
      (((w.epollers e).qev fd).revents.pollin = true →
        (((w.poll e maxevents).2.epollers e).qev fd).revents.pollin = true ∨
          ∃ event ∈ (w.poll e maxevents).1, event.source = entry ∧ event.events.pollin = true) := by
  have only : ∀ other, ⟨fd, other⟩ ∈ (w.epollers e).fds.entries → other = entry := fun other member =>
    Option.some.inj ((AList.mem_lookup_iff.mpr member).symm.trans found)
  have visited := pollLoop_pollin (w.epollers e).qev (w.epollers e).fds.entries maxevents fd entry only
  simp only [poll, modEpoller, Function.update_self]
  exact visited

/-- `Mod` keeps pending bits. -/
theorem quietAt_modInner_of_ne (other : ¬ (e' = e ∧ fd' = fd)) (events : PollMask) (data : Nat) :
    QuietAt e fd t w (w.modInner e' fd' events data).2 := by
  unfold modInner
  split
  · exact (Quiet.refl w).at
  · refine ⟨id, id, fun _ => id, id, ?_⟩
    by_cases same : e' = e
    · subst same
      have elsewhere : fd ≠ fd' := fun equal => other ⟨rfl, equal.symm⟩
      simp only [Watches, modEpoller, Function.update_self, Function.update_of_ne elsewhere]
      exact fun watches => ⟨watches, .refl _⟩
    · simp only [Watches, modEpoller, Function.update_of_ne (Ne.symm same)]
      exact fun watches => ⟨watches, .refl _⟩

theorem modInner_pollin (events : PollMask) (data : Nat) (watches : (w.modInner e fd events data).2.Watches e fd t) :
    w.Watches e fd t ∧ (((w.modInner e fd events data).2.epollers e).qev fd).events = events ∧
      (((w.epollers e).qev fd).revents.pollin = true →
        (((w.modInner e fd events data).2.epollers e).qev fd).revents.pollin = true) := by
  unfold modInner at watches ⊢
  split at watches
  · next missing => exact absurd (missing.symm.trans watches.1) nofun
  · next found =>
    simp only [Watches, modEpoller, Function.update_self] at watches ⊢
    refine ⟨watches, trivial, fun pending => ?_⟩
    split_ifs <;> exact pending

theorem onReceived_frame (stream : QuicStreamEntry) (data : List UInt8) :
    (stream.onReceived data).1.finRead = stream.finRead ∧ (stream.onReceived data).1.error = stream.error ∧
      (stream.onReceived data).1.waitings = stream.waitings := by
  unfold QuicStreamEntry.onReceived
  split_ifs <;> exact ⟨rfl, rfl, rfl⟩

theorem streams_streamCallback (w : World) (t : StreamId)
    (callback : QuicStreamEntry → QuicStreamEntry × Option PollBit) :
    (w.streamCallback t callback).streams = Function.update w.streams t (callback (w.streams t)).1 := by
  simp only [streamCallback]
  cases (callback (w.streams t)).2 <;> rfl

theorem calm_epollers_streamCallback (w : World) (t : StreamId)
    (callback : QuicStreamEntry → QuicStreamEntry × Option PollBit) (e : EpollerId) :
    CalmEpoller (w.epollers e) ((w.streamCallback t callback).epollers e) := by
  simp only [streamCallback]
  cases (callback (w.streams t)).2 with
  | none => exact .refl _
  | some bit => exact (quiet_trigger (w.modStream t fun _ => (callback (w.streams t)).1) (.stream t) bit).epollers e

/-- A callback of another stream. -/
theorem quietAt_streamCallback_of_ne {t' : StreamId} (other : t' ≠ t)
    (callback : QuicStreamEntry → QuicStreamEntry × Option PollBit) :
    QuietAt e fd t w (w.streamCallback t' callback) := by
  refine .of_calm ?_ (calm_epollers_streamCallback w t' callback e)
  rw [streams_streamCallback, Function.update_of_ne (Ne.symm other)]
  exact .refl _

/-- The first bytes of an empty buffer are announced to every registration that asks for them. -/
theorem received_announces (empty : (w.streams t).recvBuffer = []) (data : List UInt8) (watches : w.Watches e fd t)
    (asks : ((w.epollers e).qev fd).events.pollin = true) :
    (((w.streamCallback t (·.onReceived data)).epollers e).qev fd).revents.pollin = true := by
  have announced : ((w.streams t).onReceived data).2 = some .pollin := by
    simp [QuicStreamEntry.onReceived, empty, Event.setReadable]
  obtain ⟨-, -, waitings⟩ := onReceived_frame (w.streams t) data
  have waits : e ∈ ((w.modStream t fun _ => ((w.streams t).onReceived data).1).event (.stream t)).waitings := by
    simp only [event, modStream, Function.update_self, waitings]
    exact watches.2
  simp only [streamCallback, announced, trigger, if_pos waits, QuicEpollerEntry.raise]
  rw [if_pos ⟨watches.1, .inl asks⟩]
  rfl

/-! ## Registering -/

/-- What `register` does to streams and registrations, whether it succeeds or not. -/
structure Enters (e : EpollerId) (fd : Fd) (entry : EntryPtr) (events : PollMask) (w w' : World) : Prop where
  stream : ∀ t, (w'.streams t).recvBuffer = (w.streams t).recvBuffer ∧ (w'.streams t).finRead = (w.streams t).finRead ∧
    (w'.streams t).readable = (w.streams t).readable ∧ (w'.streams t).error = (w.streams t).error
  waitings : ∀ t, ∀ x ∈ (w'.streams t).waitings, x ∈ (w.streams t).waitings ∨ x = e ∧ entry = .stream t
  others : ∀ x, x ≠ e → (w'.epollers x).fds = (w.epollers x).fds ∧ (w'.epollers x).qev = (w.epollers x).qev
  elsewhere : ∀ key, key ≠ fd → (w'.epollers e).fds.lookup key = (w.epollers e).fds.lookup key ∧
    (w'.epollers e).qev key = (w.epollers e).qev key
  here : ∀ t, (w'.epollers e).fds.lookup fd = some (.stream t) → entry = .stream t ∧
    ((w'.epollers e).qev fd).events = events ∧
      (events.pollin = true → (w.streams t).readable = true → ((w'.epollers e).qev fd).revents.pollin = true)

/-- Steps of `AddInner` behind the insertion: waiters may go, nothing else changes here. -/
structure Trails (w w' : World) : Prop where
  stream : ∀ t, (w'.streams t).recvBuffer = (w.streams t).recvBuffer ∧ (w'.streams t).finRead = (w.streams t).finRead ∧
    (w'.streams t).readable = (w.streams t).readable ∧ (w'.streams t).error = (w.streams t).error
  waitings : ∀ t, ∀ x ∈ (w'.streams t).waitings, x ∈ (w.streams t).waitings
  epollers : ∀ x, (w'.epollers x).fds = (w.epollers x).fds ∧ (w'.epollers x).qev = (w.epollers x).qev

theorem Trails.of_eq (streams : w'.streams = w.streams)
    (epollers : ∀ x, (w'.epollers x).fds = (w.epollers x).fds ∧ (w'.epollers x).qev = (w.epollers x).qev) :
    Trails w w' := by
  refine ⟨fun t => ?_, fun t x => ?_, epollers⟩
  · rw [streams]
    exact ⟨rfl, rfl, rfl, rfl⟩
  · rw [streams]
    exact id

theorem trails_stopWait (w : World) (entry : EntryPtr) (e : EpollerId) : Trails w (w.stopWait entry e) := by
  cases entry with
  | socket s => exact .of_eq rfl fun _ => ⟨rfl, rfl⟩
  | stream t =>
    have streams : (w.stopWait (.stream t) e).streams = Function.update w.streams t
        { w.streams t with waitings := (w.streams t).waitings.filter (· ≠ e) } := rfl
    refine ⟨fun other => ?_, fun other x => ?_, fun _ => ⟨rfl, rfl⟩⟩
    all_goals
      rw [streams]
      by_cases same : other = t
      · subst same
        rw [Function.update_self]
        first
          | exact ⟨rfl, rfl, rfl, rfl⟩
          | exact fun member => (List.mem_filter.mp member).1
      · rw [Function.update_of_ne same]
        first
          | exact ⟨rfl, rfl, rfl, rfl⟩
          | exact id

theorem trails_listenUdp (w : World) (e : EpollerId) (udp : UdpSocket) (full : Bool) :
    Trails w (w.listenUdp e udp full).2 := by
  have streams : (w.listenUdp e udp full).2.streams = w.streams := by
    simp only [listenUdp, epollCtlAdd]
    split
    · split_ifs <;> rfl
    · rfl
  refine .of_eq streams fun x => ?_
  simp only [listenUdp, epollCtlAdd]
  split
  · split_ifs
    · exact ⟨rfl, rfl⟩
    · exact ⟨rfl, rfl⟩
    · by_cases same : x = e <;> simp [modEpoller, same]
  · by_cases same : x = e <;> simp [modEpoller, same]

theorem trails_link {s : SocketId} (linked : w.link s e = some w') : Trails w w' := by
  simp only [link] at linked
  split at linked
  · cases linked
  · cases linked
    exact .of_eq rfl fun _ => ⟨rfl, rfl⟩

theorem Enters.trails {entry : EntryPtr} {events : PollMask} {middle : World} (enters : Enters e fd entry events w middle)
    (trails : Trails middle w') : Enters e fd entry events w w' where
  stream t := by
    obtain ⟨buffer, fin, readable, error⟩ := trails.stream t
    rw [buffer, fin, readable, error]
    exact enters.stream t
  waitings t x member := enters.waitings t x (trails.waitings t x member)
  others x other := by
    rw [(trails.epollers x).1, (trails.epollers x).2]
    exact enters.others x other
  elsewhere key other := by
    rw [(trails.epollers e).1, (trails.epollers e).2]
    exact enters.elsewhere key other
  here t := by
    rw [(trails.epollers e).1, (trails.epollers e).2]
    exact enters.here t

theorem mem_of_joined {already : Prop} [Decidable already] {waitings : List EpollerId} {x : EpollerId}
    (member : x ∈ if already then waitings else waitings ++ [e]) : x ∈ waitings ∨ x = e := by
  split_ifs at member
  · exact .inl member
  · exact (List.mem_append.mp member).imp id List.mem_singleton.mp

/-- The entry's triggers reach the epoller, and what it already has to say is pending. -/
theorem startWait_enters {events : PollMask} {data : Nat} {started : World}
    (starts : (w.modEpoller e fun epoller =>
      { epoller with qev := Function.update epoller.qev fd { events, data } }).startWait entry e fd = some started) :
    Enters e fd entry events w
      (started.modEpoller e fun epoller => { epoller with fds := epoller.fds.insert fd entry }) := by
  unfold startWait at starts
  dsimp only at starts
  split at starts
  · cases starts
  · obtain rfl := Option.some.inj starts
    cases entry with
    | socket s =>
      refine ⟨fun _ => ⟨rfl, rfl, rfl, rfl⟩, fun _ _ => .inl, fun x other => ?_, fun key other => ?_, fun t => ?_⟩
      · simp [modEpoller, setEvent, modSocket, other]
      · simp [modEpoller, setEvent, modSocket, other]
      · simp [modEpoller, setEvent, modSocket]
    | stream x =>
      refine ⟨fun t => ?_, fun t y => ?_, fun y other => ?_, fun key other => ?_, fun t => ?_⟩
      · by_cases same : t = x <;> simp [modEpoller, setEvent, modStream, event, same]
      · by_cases same : t = x
        · subst same
          simp only [modEpoller, setEvent, modStream, event, Function.update_self]
          exact fun member => (mem_of_joined member).imp id fun joined => ⟨joined, trivial⟩
        · simp only [modEpoller, setEvent, modStream, Function.update_of_ne same]
          exact .inl
      · simp [modEpoller, setEvent, modStream, other]
      · simp [modEpoller, setEvent, modStream, other]
      · simp only [modEpoller, setEvent, modStream, event, Function.update_self, AList.lookup_insert]
        rintro ⟨⟩
        refine ⟨rfl, trivial, fun asks ready => ?_⟩
        simp [asks, ready]

theorem register_enters (absent : (w.epollers e).fds.lookup fd = none) (events : PollMask) (data : Nat) (full : Bool) :
    Enters e fd entry events w (w.register e fd entry events data full).2 := by
  simp only [register]
  split
  · refine ⟨fun _ => ⟨rfl, rfl, rfl, rfl⟩, fun _ _ => .inl, fun x other => ?_, fun key other => ?_, fun t => ?_⟩
    · simp [modEpoller, other]
    · simp [modEpoller, other]
    · simp [modEpoller, absent]
  · next started starts =>
    have inserted := startWait_enters starts
    split
    · exact inserted.trails (trails_stopWait ..)
    · split
      · exact inserted.trails (trails_listenUdp ..)
      · split
        · dsimp only
          exact inserted.trails (trails_stopWait ..)
        · next linked => exact (inserted.trails (trails_link linked)).trails (trails_listenUdp ..)

/-- `AddInner` refuses and leaves everything alone, or it registers the entry under its own descriptor. -/
theorem addInner_enters (w : World) (e : EpollerId) (fd : Fd) (events : PollMask) (data : Nat) (full : Bool) :
    Quiet w (w.addInner e fd events data full).2 ∧ (w.addInner e fd events data full).1 ≠ .ok ∨
      ∃ before entry, Quiet w before ∧ before.streams = w.streams ∧
        w.fdManager fd = some entry ∧ (w.event entry).fd = fd ∧
          Enters e fd entry events before (w.addInner e fd events data full).2 := by
  have vacated : ∀ before, Vacates e fd w before → Quiet w before ∧ before.streams = w.streams := by
    intro before vacates
    cases vacates with
    | unregistered _ => exact ⟨.refl w, rfl⟩
    | stale _ _ _ => exact ⟨w.quiet_eraseFd e fd, rfl⟩
  rcases w.addInner_outcome e fd events data full with
    ⟨-, added⟩ | ⟨before, vacates, ⟨-, added⟩ | ⟨entry, held, own, added⟩⟩ <;> rw [added]
  · exact .inl ⟨.refl w, by simp [CallResult.fail, CallResult.ok]⟩
  · exact .inl ⟨(vacated before vacates).1, by simp [CallResult.fail, CallResult.ok]⟩
  · obtain ⟨quiet, streams⟩ := vacated before vacates
    exact .inr ⟨before, entry, quiet, streams, held, own, register_enters vacates.lookup events data full⟩

/-- Registering something else. -/
theorem Enters.quietAt {events : PollMask} (enters : Enters e' fd' entry events w w') (other : ¬ (e' = e ∧ fd' = fd))
    (apart : (w.epollers e).fds.lookup fd = some (.stream t) → fd' ≠ fd → entry ≠ .stream t) : QuietAt e fd t w w' := by
  obtain ⟨buffer, fin, readable, error⟩ := enters.stream t
  refine ⟨buffer ▸ id, fin ▸ id, fun _ => readable ▸ id, error ▸ id, fun ⟨found, waits⟩ => ?_⟩
  by_cases same : e = e'
  · subst same
    have elsewhere : fd ≠ fd' := fun equal => other ⟨rfl, equal.symm⟩
    obtain ⟨lookup, qev⟩ := enters.elsewhere fd elsewhere
    rw [lookup] at found
    rw [qev]
    rcases enters.waitings t e waits with already | ⟨-, entered⟩
    · exact ⟨⟨found, already⟩, .refl _⟩
    · exact absurd entered (apart found elsewhere.symm)
  · obtain ⟨fds, qev⟩ := enters.others e same
    rw [fds] at found
    rw [qev]
    rcases enters.waitings t e waits with already | ⟨joined, -⟩
    · exact ⟨⟨found, already⟩, .refl _⟩
    · exact absurd joined same

theorem QuietAt.trans {first middle last : World} (left : QuietAt e fd t first middle)
    (right : QuietAt e fd t middle last) : QuietAt e fd t first last where
  recvBuffer := left.recvBuffer ∘ right.recvBuffer
  finRead := left.finRead ∘ right.finRead
  readable unread ready := right.readable unread (left.readable (unread.imp right.recvBuffer right.finRead) ready)
  error := left.error ∘ right.error
  registration watches := by
    obtain ⟨watchesMiddle, calmRight⟩ := right.registration watches
    obtain ⟨watchesFirst, calmLeft⟩ := left.registration watchesMiddle
    exact ⟨watchesFirst, calmLeft.trans calmRight⟩

/-- An `Add` under another descriptor or in another epoller. -/
theorem quietAt_addInner (linked : Linked w.directory w.registry) (tables : w.directory.Tables)
    (other : ¬ (e' = e ∧ fd' = fd)) (events : PollMask) (data : Nat) (full : Bool) :
    QuietAt e fd t w (w.addInner e' fd' events data full).2 := by
  rcases w.addInner_enters e' fd' events data full with ⟨quiet, -⟩ | ⟨before, entry, quiet, -, held, own, enters⟩
  · exact quiet.at
  · refine quiet.at.trans (enters.quietAt other fun found elsewhere entered => ?_)
    subst entered
    -- a registration of the stream is kept under the descriptor that the stream has, or had
    obtain ⟨foundBefore, -⟩ := quiet.epollers e fd (.stream t) found
    have positive := (tables.sound.pos_of_held held).1
    rcases (linked.key e fd (.stream t) foundBefore).2.2 with same | closed
    · exact elsewhere (own.symm.trans same)
    · rw [own.symm.trans closed] at positive
      exact absurd positive (by decide)

end PosixQuic.World

namespace PosixQuic.ReadWatch

open Machine World

variable {c : ReadWatch} {e : EpollerId} {fd : Fd} {t : StreamId} {w' : World}

/-- The registration asks for `POLLIN` all the time, and reads have room for at least one byte and for fewer than
`2 ^ 31`. -/
def Reads (e : EpollerId) (fd : Fd) (t : StreamId) (c : ReadWatch) : Action → Prop
  | .epollAdd e' fd' events _ _ | .epollMod e' fd' events _ => e' = e ∧ fd' = fd → events.pollin = true
  | .readv stream iov => c.world.fdManager stream = some (.stream t) → 0 < iov.sum ∧ iov.sum < 2 ^ 31
  | _ => True

instance (e : EpollerId) (fd : Fd) (t : StreamId) (c : ReadWatch) : (action : Action) → Decidable (Reads e fd t c action) := by
  intro action
  unfold Reads
  split <;> infer_instance

/-- There are bytes to read or an end of the stream that libquic has finished to announce. -/
def Unread (c : ReadWatch) (t : StreamId) : Prop :=
  (c.world.streams t).recvBuffer ≠ [] ∨ (c.world.streams t).finRead = true ∧ c.ending = false

/-- `POLLIN` is pending for the registration. -/
def Pending (c : ReadWatch) (e : EpollerId) (fd : Fd) : Prop := ((c.world.epollers e).qev fd).revents.pollin = true

structure Heard (e : EpollerId) (fd : Fd) (t : StreamId) (c : ReadWatch) : Prop where
  asks : c.world.Watches e fd t → ((c.world.epollers e).qev fd).events.pollin = true
  heard : c.world.Watches e fd t → c.Unread t → c.Pending e fd ∨ c.reported = true
  ready : c.Unread t → (c.world.streams t).readable = true
  error : (c.world.streams t).error ≠ some .eagain

/-- A quiet step, after which the last report is only forgotten if nothing is left to read. -/
theorem Heard.quiet (heard : Heard e fd t c) (quiet : QuietAt e fd t c.world w') {reported : Bool}
    (forgets : c.reported = true → reported = true ∨ ¬ Unread ⟨w', reported, c.ending⟩ t) :
    Heard e fd t ⟨w', reported, c.ending⟩ := by
  have before : Unread ⟨w', reported, c.ending⟩ t → c.Unread t :=
    Or.imp quiet.recvBuffer fun ended => ⟨quiet.finRead ended.1, ended.2⟩
  refine ⟨fun watches => ?_, fun watches unread => ?_, fun unread => ?_, fun failed => heard.error (quiet.error failed)⟩
  · obtain ⟨watchesBefore, calm⟩ := quiet.registration watches
    exact calm.events.trans (heard.asks watchesBefore)
  · obtain ⟨watchesBefore, calm⟩ := quiet.registration watches
    rcases heard.heard watchesBefore (before unread) with pending | told
    · exact .inl (calm.revents pending)
    · exact .inr ((forgets told).resolve_right (not_not.mpr unread))
  · exact quiet.readable (unread.imp id And.left) (heard.ready (before unread))

/-- `EAGAIN` means that nothing is left. -/
theorem drained_of_eagain {stream : QuicStreamEntry} {iov : List Nat} (room : 0 < iov.sum ∧ iov.sum < 2 ^ 31)
    (sound : stream.error ≠ some .eagain) (again : (stream.readv iov).result.errno = some .eagain) :
    (stream.readv iov).entry.recvBuffer = [] ∧ (stream.readv iov).entry.finRead = false := by
  by_cases serves : stream.Serves
  · obtain ⟨-, entry, result⟩ := QuicStreamEntry.readv_of_serves serves iov
    rw [result] at again
    rw [entry]
    split_ifs at again with nothing
    rw [intOfSize_eq_self (by omega)] at nothing
    have empty : stream.recvBuffer = [] := List.length_eq_zero_iff.mp (by omega)
    exact ⟨by simp [List.scatterRest, empty], serves.2.1⟩
  · cases failed : stream.error with
    | some err =>
      simp only [QuicStreamEntry.readv, failed, CallResult.fail] at again
      exact absurd (failed.trans again) sound
    | none =>
      cases fin : stream.finRead with
      | true => simp [QuicStreamEntry.readv, failed, fin, CallResult.ok] at again
      | false =>
        cases closed : stream.quartcOpen with
        | true => exact (serves ⟨failed, fin, closed⟩).elim
        | false => simp [QuicStreamEntry.readv, failed, fin, closed, CallResult.fail] at again

/-- Data and the end of the stream for the watched stream itself. -/
theorem heard_received (heard : Heard e fd t c) (data : List UInt8) :
    Heard e fd t ⟨c.world.streamCallback t (·.onReceived data), c.reported, false⟩ := by
  obtain ⟨finRead, error, waitings⟩ := onReceived_frame (c.world.streams t) data
  have stream : (c.world.streamCallback t (·.onReceived data)).streams t = ((c.world.streams t).onReceived data).1 := by
    rw [streams_streamCallback, Function.update_self]
  have calm := calm_epollers_streamCallback c.world t (·.onReceived data) e
  have watched : (c.world.streamCallback t (·.onReceived data)).Watches e fd t → c.world.Watches e fd t ∧
      ((c.world.epollers e).qev fd).Calm (((c.world.streamCallback t (·.onReceived data)).epollers e).qev fd) := by
    rintro ⟨found, waits⟩
    rw [stream, waitings] at waits
    obtain ⟨foundBefore, calmQev⟩ := calm fd (.stream t) found
    exact ⟨⟨foundBefore, waits⟩, calmQev⟩
  by_cases empty : (c.world.streams t).recvBuffer = []
  · have ready : ((c.world.streams t).onReceived data).1.readable = true := by
      simp [QuicStreamEntry.onReceived, empty, Event.setReadable]
    refine ⟨fun watches => ?_, fun watches _ => .inl ?_, fun _ => ?_, ?_⟩
    · exact (watched watches).2.events.trans (heard.asks (watched watches).1)
    · exact received_announces empty data (watched watches).1 (heard.asks (watched watches).1)
    · dsimp only
      rw [stream]
      exact ready
    · dsimp only
      rw [stream, error]
      exact heard.error
  · have unread : c.Unread t := .inl empty
    have readable : ((c.world.streams t).onReceived data).1.readable = (c.world.streams t).readable := by
      simp [QuicStreamEntry.onReceived, empty]
    refine ⟨fun watches => ?_, fun watches _ => ?_, fun _ => ?_, ?_⟩
    · exact (watched watches).2.events.trans (heard.asks (watched watches).1)
    · exact (heard.heard (watched watches).1 unread).imp (watched watches).2.revents id
    · dsimp only
      rw [stream, readable]
      exact heard.ready unread
    · dsimp only
      rw [stream, error]
      exact heard.error

theorem heard_finRead (heard : Heard e fd t c) :
    Heard e fd t ⟨c.world.streamCallback t fun stream => (stream.onFinRead, none), c.reported, true⟩ := by
  have stream : (c.world.streamCallback t fun stream => (stream.onFinRead, none)).streams t =
      (c.world.streams t).onFinRead := by
    rw [streams_streamCallback, Function.update_self]
  have watched : (c.world.streamCallback t fun stream => (stream.onFinRead, none)).Watches e fd t →
      c.world.Watches e fd t := by
    rintro ⟨found, waits⟩
    rw [stream] at waits
    exact ⟨found, waits⟩
  have unread : Unread ⟨c.world.streamCallback t fun stream => (stream.onFinRead, none), c.reported, true⟩ t →
      c.Unread t := by
    rintro (held | ⟨-, ended⟩)
    · dsimp only at held
      rw [stream] at held
      exact .inl held
    · cases ended
  refine ⟨fun watches => heard.asks (watched watches), fun watches left => heard.heard (watched watches) (unread left),
    fun left => ?_, ?_⟩
  · dsimp only
    rw [stream]
    exact heard.ready (unread left)
  · dsimp only
    rw [stream]
    exact heard.error

theorem heard_poll (heard : Heard e fd t c) (maxevents : Nat) :
    Heard e fd t ⟨(c.world.poll e maxevents).2, c.reported ||
      (c.world.poll e maxevents).1.any fun event => event.source = .stream t && event.events.pollin, c.ending⟩ := by
  have watched : (c.world.poll e maxevents).2.Watches e fd t → c.world.Watches e fd t := by
    rintro ⟨found, waits⟩
    simp only [poll, modEpoller, Function.update_self] at found
    exact ⟨found, waits⟩
  refine ⟨fun watches => ?_, fun watches unread => ?_, heard.ready, heard.error⟩
  · obtain ⟨events, -⟩ := poll_pollin (watched watches).1 maxevents
    dsimp only
    rw [events]
    exact heard.asks (watched watches)
  · obtain ⟨-, pollin⟩ := poll_pollin (watched watches).1 maxevents
    rcases heard.heard (watched watches) unread with pending | told
    · rcases pollin pending with kept | ⟨event, member, source, reported⟩
      · exact .inl kept
      · refine .inr (Bool.or_eq_true_iff.mpr (.inr (List.any_eq_true.mpr ⟨event, member, ?_⟩)))
        simp [source, reported]
    · exact .inr (Bool.or_eq_true_iff.mpr (.inl told))

theorem heard_mod (heard : Heard e fd t c) {events : PollMask} (asks : events.pollin = true) (data : Nat) :
    Heard e fd t ⟨(c.world.modInner e fd events data).2, c.reported, c.ending⟩ := by
  have streams : (c.world.modInner e fd events data).2.streams = c.world.streams := by
    unfold modInner
    split <;> rfl
  have same : Unread ⟨(c.world.modInner e fd events data).2, c.reported, c.ending⟩ t → c.Unread t := by
    simp only [Unread, streams]
    exact id
  refine ⟨fun watches => ?_, fun watches unread => ?_, fun unread => ?_, ?_⟩
  · obtain ⟨-, stored, -⟩ := modInner_pollin events data watches
    dsimp only
    rw [stored]
    exact asks
  · obtain ⟨watchesBefore, -, pending⟩ := modInner_pollin events data watches
    exact (heard.heard watchesBefore (same unread)).imp pending id
  · dsimp only
    rw [streams]
    exact heard.ready (same unread)
  · dsimp only
    rw [streams]
    exact heard.error

/-- A new registration starts with what is there to read. -/
theorem heard_enters (heard : Heard e fd t c) {before : World} (streams : before.streams = c.world.streams)
    {entry : EntryPtr} {events : PollMask} (asks : events.pollin = true)
    (enters : Enters e fd entry events before w') (reported : Bool) : Heard e fd t ⟨w', reported, c.ending⟩ := by
  obtain ⟨buffer, fin, readable, error⟩ := enters.stream t
  rw [streams] at buffer fin readable error
  have same : Unread ⟨w', reported, c.ending⟩ t → c.Unread t := by
    simp only [Unread, buffer, fin]
    exact id
  refine ⟨fun watches => ?_, fun watches unread => .inl ?_, fun unread => ?_, ?_⟩
  · obtain ⟨-, stored, -⟩ := enters.here t watches.1
    dsimp only
    rw [stored]
    exact asks
  · obtain ⟨-, -, pending⟩ := enters.here t watches.1
    rw [streams] at pending
    exact pending asks (heard.ready (same unread))
  · dsimp only
    rw [readable]
    exact heard.ready (same unread)
  · dsimp only
    rw [error]
    exact heard.error

theorem step_eq_ok {c' : ReadWatch} {action : Action} (stepped : c.step e fd t action = .ok c') :
    ∃ result, c.world.perform action = .ok result ∧
      c' = ⟨result.2, c.recordReport e fd t action result.1, c.recordEnding t action⟩ := by
  obtain ⟨result, performed, returned⟩ := bind_eq_ok stepped
  cases returned
  exact ⟨result, performed, rfl⟩

theorem step_heard (reachable : World.system.Reachable {} c.world) (heard : Heard e fd t c) {action : Action}
    (reads : Reads e fd t c action) {result : CallResult × World} (performed : c.world.perform action = .ok result) :
    Heard e fd t ⟨result.2, c.recordReport e fd t action result.1, c.recordEnding t action⟩ := by
  obtain ⟨linked, -, settled⟩ := reachable_linked reachable
  have plain : touchesReader action = false → c.world.Quiet result.2 := fun plain =>
    (perform_quiet settled plain).of_ok performed
  cases action with
  | epollAdd e' fd' events data full =>
    simp only [perform, withEpoller] at performed
    split_ifs at performed
    · cases performed
      by_cases same : e' = e ∧ fd' = fd
      · have asks := reads same
        obtain ⟨rfl, rfl⟩ := same
        rcases c.world.addInner_enters e' fd' events data full with
          ⟨quiet, refused⟩ | ⟨before, entry, -, streams, -, -, enters⟩
        · refine heard.quiet quiet.at fun told => .inl ?_
          exact (if_neg fun new => refused new.2.2).trans told
        · exact heard_enters heard streams asks enters _
      · have kept : c.recordReport e fd t (.epollAdd e' fd' events data full)
            (c.world.addInner e' fd' events data full).1 = c.reported := if_neg fun new => same ⟨new.1, new.2.1⟩
        rw [kept]
        exact heard.quiet (quietAt_addInner linked (reachable_tables reachable) same events data full) .inl
    · cases performed
      have kept : c.recordReport e fd t (.epollAdd e' fd' events data full) (.fail .ebadf) = c.reported :=
        if_neg fun new => absurd new.2.2 (by decide)
      rw [kept]
      exact heard.quiet (Quiet.refl _).at .inl
  | epollMod e' fd' events data =>
    simp only [perform, withEpoller] at performed
    split_ifs at performed
    · cases performed
      by_cases same : e' = e ∧ fd' = fd
      · have asks := reads same
        obtain ⟨rfl, rfl⟩ := same
        exact heard_mod heard asks data
      · exact heard.quiet (quietAt_modInner_of_ne same events data) .inl
    · cases performed
      exact heard.quiet (Quiet.refl _).at .inl
  | poll e' maxevents =>
    simp only [perform, withEpoller] at performed
    split_ifs at performed with live
    · cases performed
      by_cases same : e' = e
      · subst same
        have told : c.recordReport e' fd t (.poll e' maxevents) .ok = (c.reported ||
            (c.world.poll e' maxevents).1.any fun event => event.source = .stream t && event.events.pollin) :=
          if_pos ⟨rfl, live⟩
        rw [told]
        exact heard_poll heard maxevents
      · have kept : c.recordReport e fd t (.poll e' maxevents) .ok = c.reported := if_neg fun here => same here.1
        have elsewhere : QuietAt e fd t c.world (c.world.poll e' maxevents).2 := by
          refine .of_calm (.refl _) ?_
          simp only [World.poll, modEpoller, Function.update_of_ne (Ne.symm same)]
          exact .refl _
        rw [kept]
        exact heard.quiet elsewhere .inl
    · cases performed
      have kept : c.recordReport e fd t (.poll e' maxevents) (.fail .ebadf) = c.reported :=
        if_neg fun here => live here.2
      rw [kept]
      exact heard.quiet (Quiet.refl _).at .inl
  | streamReceived t' data =>
    cases performed
    by_cases same : t' = t
    · subst same
      simp only [recordReport, recordEnding, if_pos]
      exact heard_received heard data
    · simp only [recordReport, recordEnding, if_neg same]
      exact heard.quiet (quietAt_streamCallback_of_ne same _) .inl
  | streamFinRead t' =>
    cases performed
    by_cases same : t' = t
    · subst same
      simp only [recordReport, recordEnding, decide_true, Bool.true_or]
      exact heard_finRead heard
    · simp only [recordReport, recordEnding, same, decide_false, Bool.false_or]
      exact heard.quiet (quietAt_streamCallback_of_ne same _) .inl
  | readv stream iov =>
    refine heard.quiet (plain rfl).at fun told => ?_
    by_cases again : c.world.fdManager stream = some (.stream t) ∧ result.1.errno = some .eagain
    · obtain ⟨held, eagain⟩ := again
      simp only [perform, withStream, held] at performed
      cases performed
      obtain ⟨empty, ongoing⟩ := drained_of_eagain (reads held) heard.error eagain
      right
      simp [Unread, modStream, empty, ongoing]
    · left
      exact (if_neg again).trans told
  | _ => exact heard.quiet (plain rfl).at .inl

theorem reachable_heard (run : ((system e fd t).restrict (Reads e fd t)).Reachable {} c) :
    World.system.Reachable {} c.world ∧ Heard e fd t c := by
  apply run.invariant (P := fun c => World.system.Reachable {} c.world ∧ Heard e fd t c)
  · refine ⟨.refl _, nofun, nofun, ?_, nofun⟩
    rintro (held | ⟨ended, -⟩)
    · exact (held rfl).elim
    · cases ended
  · rintro before action after ⟨reached, heard⟩ ⟨admitted, reads⟩ stepped
    have admittedThere : World.system.guard before.world action := admitted
    obtain ⟨result, performed, rfl⟩ := step_eq_ok stepped
    refine ⟨reached.move admittedThere ?_, step_heard reached heard reads performed⟩
    rw [show World.system.step before.world action = before.world.step action from rfl, World.step, performed]
    rfl

/-- While a stream is registered for `POLLIN` and there is something to read, or the end of the stream to be
seen, `POLLIN` is pending, or `Poll` has reported it and no read has been answered with `EAGAIN` since. -/
theorem reads_never_stranded (run : ((system e fd t).restrict (Reads e fd t)).Reachable {} c)
    (registered : c.world.Watches e fd t)
    (unread : (c.world.streams t).recvBuffer ≠ [] ∨ (c.world.streams t).finRead = true ∧ c.ending = false) :
    ((c.world.epollers e).qev fd).revents.pollin = true ∨ c.reported = true :=
  (reachable_heard run).2.heard registered unread

/-- An accepted stream is registered with data in its buffer; more data and the end of the stream come between
a report and the read that empties the buffer. -/
def readsInParts : List Action :=
  [.createSocket 7, .bind 1 (.ok 5) none, .createEpoll, .epollAdd 0 1 { pollin := true } 0 false,
    .beginUdpEvent 0 5, .datagram 0 98, .handshakeComplete 1, .endUdpEvent 0, .socketAccept 1, .incomingStream 1 3,
    .streamAccept 2, .streamReceived 0 [1, 2, 3], .epollAdd 0 3 { pollin := true } 0 false, .poll 0 8, .readv 3 [1, 1],
    .streamReceived 0 [4], .streamFinRead 0, .streamReceived 0 []]

theorem readsInParts_reported :
    ∃ c, ((system 0 3 0).restrict (Reads 0 3 0)).replay? {} readsInParts = some c ∧
      (c.world.streams 0).recvBuffer = [3, 4] ∧ c.reported = true := by
  have ends : ∃ c ∈ ((system 0 3 0).restrict (Reads 0 3 0)).replay? {} readsInParts,
      (c.world.streams 0).recvBuffer = [3, 4] ∧ ((c.world.epollers 0).fds.lookup 3 = some (.stream 0) ∧
        0 ∈ (c.world.streams 0).waitings) ∧ ((c.world.epollers 0).qev 3).revents.pollin = false := by decide
  obtain ⟨c, executed, held, registered, silent⟩ := ends
  have unread : (c.world.streams 0).recvBuffer ≠ [] := held.trans_ne nofun
  have told := reads_never_stranded (Machine.System.reachable_of_replay? executed) registered (.inl unread)
  exact ⟨c, executed, held, told.resolve_left (by simp [silent])⟩

end PosixQuic.ReadWatch
