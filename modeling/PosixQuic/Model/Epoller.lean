import PosixQuic.Model.World

/-! # Registrations: `Event::StartWait` and the operations of `QuicEpollerEntry`

`AddInner` gives up in four places, and what it has already stored by then stays stored: after `EINVAL`
and `EBUSY` the registration is still in `fds_`, after a failed `epoll_ctl` also the waiter and the
link of the task runner. `DelInner` checks the descriptor of the registered entry, takes one reference
of its UDP socket back and unlinks the task runner whoever had linked it.
-/

namespace PosixQuic.World

/-- `Event::StartWait` for the registration under `fd`; it refuses a closed entry. -/
def startWait (w : World) (entry : EntryPtr) (e : EpollerId) (fd : Fd) : Option World :=
  let event := w.event entry
  if event.closeTrigger then none
  else
    let qev := (w.epollers e).qev fd
    let revents : PollMask :=
      { pollin := qev.revents.pollin || (qev.events.pollin && event.readable)
        pollout := qev.revents.pollout || (qev.events.pollout && event.writable)
        pollerr := qev.revents.pollerr || event.error.isSome }
    let waitings := if e ∈ event.waitings then event.waitings else event.waitings ++ [e]
    some ((w.modEpoller e fun epoller =>
      { epoller with qev := Function.update epoller.qev fd { qev with revents } }).setEvent entry
        { event with waitings })

theorem startWait_eq_none_iff {w : World} {entry : EntryPtr} {e : EpollerId} {fd : Fd} :
    w.startWait entry e fd = none ↔ (w.event entry).closeTrigger = true := by
  unfold startWait
  constructor
  · intro refused
    by_contra isOpen
    rw [if_neg isOpen] at refused
    cases refused
  · exact fun closed => if_pos closed

theorem startWait_revents {w w' : World} {entry : EntryPtr} {e : EpollerId} {fd : Fd}
    (started : w.startWait entry e fd = some w') :
    ((w'.epollers e).qev fd).revents =
      { pollin := ((w.epollers e).qev fd).revents.pollin ||
          (((w.epollers e).qev fd).events.pollin && (w.event entry).readable)
        pollout := ((w.epollers e).qev fd).revents.pollout ||
          (((w.epollers e).qev fd).events.pollout && (w.event entry).writable)
        pollerr := ((w.epollers e).qev fd).revents.pollerr || (w.event entry).error.isSome } := by
  unfold startWait at started
  dsimp only at started
  split at started
  · cases started
  · cases started
    cases entry <;> simp [modEpoller, setEvent, modSocket, modStream]

def stopWait (w : World) (entry : EntryPtr) (e : EpollerId) : World :=
  let event := w.event entry
  w.setEvent entry { event with waitings := event.waitings.filter (· ≠ e) }

/-- `QuicTaskRunnerProxy::Link`. -/
def link (w : World) (s : SocketId) (e : EpollerId) : Option World :=
  match (w.sockets s).runner with
  | some _ => none
  | none => some (w.modSocket s fun socket => { socket with runner := some e })

/-- `QuicTaskRunnerProxy::Unlink`. -/
def unlink (w : World) (s : SocketId) : World :=
  w.modSocket s fun socket => { socket with runner := none }

/-- `epoll_ctl` of the kernel with `EPOLL_CTL_ADD`; `full` is a refusal for lack of memory. -/
def epollCtlAdd (w : World) (e : EpollerId) (udp : UdpSocket) (full : Bool) : Except Errno World :=
  if (w.epollers e).interest udp then .error .eexist
  else if full then .error .enospc
  else .ok (w.modEpoller e fun epoller =>
    { epoller with interest := Function.update epoller.interest udp true })

/-- `epoll_ctl` with `EPOLL_CTL_DEL`. -/
def epollCtlDel (w : World) (e : EpollerId) (udp : UdpSocket) : World :=
  w.modEpoller e fun epoller => { epoller with interest := Function.update epoller.interest udp false }

/-- The last part of `AddInner`: the kernel's interest in the UDP socket and its reference count. -/
def listenUdp (w : World) (e : EpollerId) (udp : UdpSocket) (full : Bool) : CallResult × World :=
  match (w.epollers e).udps udp with
  | none =>
    match w.epollCtlAdd e udp full with
    | .error err => (.fail err, w)
    | .ok w =>
      (.ok, w.modEpoller e fun epoller => { epoller with udps := Function.update epoller.udps udp (some 1) })
  | some count =>
    (.ok, w.modEpoller e fun epoller =>
      { epoller with udps := Function.update epoller.udps udp (some (count + 1)) })

/-- The part of `AddInner` behind the lookup of the entry. -/
def register (w : World) (e : EpollerId) (fd : Fd) (entry : EntryPtr) (events : PollMask) (data : Nat)
    (full : Bool) : CallResult × World :=
  let w := w.modEpoller e fun epoller =>
    { epoller with qev := Function.update epoller.qev fd { events, data } }
  match w.startWait entry e fd with
  | none => (.fail .ebadf, w)
  | some w =>
    let w := w.modEpoller e fun epoller => { epoller with fds := epoller.fds.insert fd entry }
    match w.nativeUdpFd entry with
    | none => (.fail .einval, w.stopWait entry e)
    | some udp =>
      match entry with
      | .stream _ => w.listenUdp e udp full
      | .socket s =>
        match w.link s e with
        | none => (.fail .ebusy, w.stopWait entry e)
        | some w => w.listenUdp e udp full

/-- `fds_.erase`. -/
def eraseFd (w : World) (e : EpollerId) (fd : Fd) : World :=
  w.modEpoller e fun epoller => { epoller with fds := epoller.fds.erase fd }

/-- `QuicEpollerEntry::AddInner`. -/
def addInner (w : World) (e : EpollerId) (fd : Fd) (events : PollMask) (data : Nat) (full : Bool) :
    CallResult × World :=
  let fresh (w : World) : CallResult × World :=
    match w.fdManager fd with
    | none => (.fail .ebadf, w)
    | some entry =>
      if (w.event entry).fd ≠ fd then (.fail .ebadf, w) else w.register e fd entry events data full
  match (w.epollers e).fds.lookup fd with
  | none => fresh w
  | some old =>
    if (w.event old).fd = fd then (.fail .eexist, w)
    else fresh (w.eraseFd e fd)

/-- `QuicEpollerEntry::ModInner`; its `Notify` only wakes the waiting thread. -/
def modInner (w : World) (e : EpollerId) (fd : Fd) (events : PollMask) (data : Nat) :
    CallResult × World :=
  match (w.epollers e).fds.lookup fd with
  | none => (.fail .enoent, w)
  | some _ =>
    let revents := ((w.epollers e).qev fd).revents
    let revents := if events.pollout then revents.set .pollout else revents
    (.ok, w.modEpoller e fun epoller =>
      { epoller with qev := Function.update epoller.qev fd { events, revents, data } })

/-- Give one reference of the UDP socket back; the last one ends the kernel's interest. -/
def dropUdp (w : World) (e : EpollerId) (udp : UdpSocket) (count : Int) : World :=
  if count - 1 = 0 then
    (w.epollCtlDel e udp).modEpoller e fun epoller =>
      { epoller with udps := Function.update epoller.udps udp none }
  else
    w.modEpoller e fun epoller =>
      { epoller with udps := Function.update epoller.udps udp (some (count - 1)) }

/-- The part of `DelInner` behind its assertions. -/
def deregister (w : World) (e : EpollerId) (fd : Fd) (entry : EntryPtr) (udp : UdpSocket) (count : Int) :
    World :=
  let w := ((w.dropUdp e udp count).stopWait entry e).eraseFd e fd
  match entry with
  | .socket s => w.unlink s
  | .stream _ => w

/-- `QuicEpollerEntry::DelInner` with its two assertions. -/
def delInner (w : World) (e : EpollerId) (fd : Fd) : Run (CallResult × World) :=
  match (w.epollers e).fds.lookup fd with
  | none => .ok (.fail .enoent, w)
  | some entry =>
    if (w.event entry).fd ≠ fd then .ok (.fail .enoent, w.eraseFd e fd)
    else
      match w.nativeUdpFd entry with
      | none => .error .assertFailed
      | some udp =>
        match (w.epollers e).udps udp with
        | none => .error .assertFailed
        | some count => .ok (.ok, w.deregister e fd entry udp count)

/-- The close notifications: `EpollTrigger::OnClose` deletes by the entry's descriptor of that moment. -/
def notifyClosed (w : World) (entry : EntryPtr) : List EpollerId → Run World
  | [] => .ok w
  | e :: rest => do
    let (_, w) ← w.delInner e (w.event entry).fd
    w.notifyClosed entry rest

/-- `Event::ClearWaitingsByClose`. -/
def clearWaitingsByClose (w : World) (entry : EntryPtr) : Run World :=
  let event := w.event entry
  if event.closeTrigger then .ok w
  else
    (w.setEvent entry { event with waitings := [], closeTrigger := true }).notifyClosed entry
      event.waitings

/-- One event that `Poll` stores for the caller, with the entry whose registration it comes from. -/
structure PolledEvent where
  source : EntryPtr
  data : Nat
  events : PollMask
deriving DecidableEq, Repr

/-- The loop of `Poll` over the registrations, with `room` for that many more events. -/
def pollLoop (qev : Fd → QuicEpollEvent) :
    List (Sigma fun _ : Fd => EntryPtr) → Nat → List PolledEvent × (Fd → QuicEpollEvent)
  | [], _ => ([], qev)
  | _ :: _, 0 => ([], qev)
  | ⟨fd, entry⟩ :: rest, room + 1 =>
    let event := (qev fd).events.set .pollerr
    let revents := (qev fd).revents.inter event
    let left := Function.update qev fd { qev fd with revents := (qev fd).revents.diff event }
    if revents = {} then pollLoop left rest (room + 1)
    else
      let (reported, left) := pollLoop left rest room
      (⟨entry, (qev fd).data, revents⟩ :: reported, left)

/-- `QuicEpollerEntry::Poll`. -/
def poll (w : World) (e : EpollerId) (maxevents : Nat) : List PolledEvent × World :=
  let (reported, qev) := pollLoop (w.epollers e).qev (w.epollers e).fds.entries maxevents
  (reported, w.modEpoller e fun epoller => { epoller with qev })

/-- `QuicCreateEpoll`. -/
def createEpoll (w : World) : World :=
  { w with
    epollers := Function.update w.epollers w.numEpollers {}
    numEpollers := w.numEpollers + 1 }

/-- `QuicCloseEpoller` with the destructor of the epoller. -/
def closeEpoller (w : World) (e : EpollerId) : World :=
  let waiting := (w.epollers e).fds.entries.map Sigma.snd
  let w := waiting.foldl (fun w entry => w.stopWait entry e) w
  w.modEpoller e fun _ => { live := false }

end PosixQuic.World
