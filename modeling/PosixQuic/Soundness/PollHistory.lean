import PosixQuic.Machine.Since
import PosixQuic.Model.Epoller
import PosixQuic.Model.PollTable
import Mathlib.Tactic

/-! # `Poll` neither loses nor repeats an event

The pending bits, the mask and the data of a registration are a function of the history of the table: a bit is pending
since it was set, until `Poll` reports it or the descriptor is registered anew. What `Poll` stores for a registration is
read off that history, whatever the other threads do in between.
-/

namespace PosixQuic

open Machine (Since since_cons since_append)

namespace PollRecord

/-- The registration that a record is about. -/
def fd : PollRecord → Fd
  | registered fd _ _ | modified fd _ _ | set fd _ | reported fd _ => fd

/-- The record of an `Add` or a `Mod` that gives the registration its mask and its data. -/
def Gives (record : PollRecord) (fd : Fd) (events : PollMask) (data : Nat) : Prop :=
  record = registered fd events data ∨ record = modified fd events data

/-- The record of a `Poll` that reports the bit, or of a new registration. -/
def Clears (record : PollRecord) (fd : Fd) (bit : PollBit) : Prop :=
  record = reported fd bit ∨ ∃ events data, record = registered fd events data

theorem Gives.fd_eq {record : PollRecord} {fd : Fd} {events : PollMask} {data : Nat}
    (gives : record.Gives fd events data) : record.fd = fd := by
  rcases gives with rfl | rfl <;> rfl

theorem Clears.fd_eq {record : PollRecord} {fd : Fd} {bit : PollBit} (clears : record.Clears fd bit) :
    record.fd = fd := by
  rcases clears with rfl | ⟨events, data, rfl⟩ <;> rfl

end PollRecord

/-- The bit has been set since the registration and since the last `Poll` that reported it. -/
def SetSince (log : List PollRecord) (fd : Fd) (bit : PollBit) : Prop :=
  Since (· = .set fd bit) (·.Clears fd bit) log

/-- The mask and the data of the last `Add` or `Mod`. -/
def LastGiven (log : List PollRecord) (fd : Fd) (events : PollMask) (data : Nat) : Prop :=
  Since (·.Gives fd events data) (fun record => ∃ events data, record.Gives fd events data) log

/-- What `Poll` has to report for a registration with this mask. -/
def ToReport (log : List PollRecord) (fd : Fd) (events : PollMask) (bit : PollBit) : Prop :=
  SetSince log fd bit ∧ (events.has bit = true ∨ bit = .pollerr)

/-- A registration is what the history says. -/
structure Follows (log : List PollRecord) (fd : Fd) (qev : QuicEpollEvent) : Prop where
  pending : ∀ bit, qev.revents.has bit = true ↔ SetSince log fd bit
  given : LastGiven log fd qev.events qev.data

/-! ## What a record does to a registration -/

section Records

variable {log newer : List PollRecord} {fd : Fd} {qev : QuicEpollEvent} {bit other : PollBit} {events : PollMask}
  {data : Nat}

/-- Records about other registrations do not matter. -/
theorem Follows.append (follows : Follows log fd qev) (elsewhere : ∀ record ∈ newer, record.fd ≠ fd) :
    Follows (newer ++ log) fd qev := by
  constructor
  · intro bit
    rw [follows.pending bit]
    symm
    apply since_append
    intro record member
    exact ⟨fun set => elsewhere record member (congrArg PollRecord.fd set),
      fun clears => elsewhere record member clears.fd_eq⟩
  · refine (since_append ?_).mpr follows.given
    intro record member
    exact ⟨fun gives => elsewhere record member gives.fd_eq,
      fun ⟨_, _, gives⟩ => elsewhere record member gives.fd_eq⟩

theorem setSince_set : SetSince (.set fd other :: log) fd bit ↔ other = bit ∨ SetSince log fd bit := by
  simp [SetSince, since_cons, PollRecord.Clears]

theorem setSince_modified : SetSince (.modified fd events data :: log) fd bit ↔ SetSince log fd bit := by
  simp [SetSince, since_cons, PollRecord.Clears]

theorem not_setSince_registered : ¬ SetSince (.registered fd events data :: log) fd bit := by
  simp [SetSince, since_cons, PollRecord.Clears]

theorem setSince_sets {mask : PollMask} :
    SetSince (mask.bits.map (.set fd) ++ log) fd bit ↔ mask.has bit = true ∨ SetSince log fd bit := by
  rw [← PollMask.mem_bits]
  induction mask.bits with
  | nil => simp
  | cons first rest ih =>
    rw [List.map_cons, List.cons_append, setSince_set, ih, List.mem_cons, eq_comm, or_assoc]

theorem setSince_reported :
    SetSince (.reported fd other :: log) fd bit ↔ other ≠ bit ∧ SetSince log fd bit := by
  simp [SetSince, since_cons, PollRecord.Clears]

theorem setSince_reports {mask : PollMask} :
    SetSince (mask.bits.map (.reported fd) ++ log) fd bit ↔ mask.has bit = false ∧ SetSince log fd bit := by
  rw [← Bool.not_eq_true, ← PollMask.mem_bits]
  induction mask.bits with
  | nil => simp
  | cons first rest ih =>
    rw [List.map_cons, List.cons_append, setSince_reported, ih, List.mem_cons, not_or, eq_comm, and_assoc]

theorem not_gives_set : ¬ (PollRecord.set fd bit).Gives fd events data := by
  rintro (gives | gives) <;> cases gives

theorem not_gives_reported : ¬ (PollRecord.reported fd bit).Gives fd events data := by
  rintro (gives | gives) <;> cases gives

theorem lastGiven_cons {record : PollRecord} (gives : record.Gives fd events data) :
    LastGiven (record :: log) fd events data := since_cons.mpr (.inl gives)

/-- Setting and reporting bits leaves mask and data as they were given. -/
theorem LastGiven.map (given : LastGiven log fd events data) {note : PollBit → PollRecord}
    (silent : ∀ {bit events data}, ¬ (note bit).Gives fd events data) (bits : List PollBit) :
    LastGiven (bits.map note ++ log) fd events data := by
  refine (since_append ?_).mpr given
  intro record member
  obtain ⟨bit, -, rfl⟩ := List.mem_map.mp member
  exact ⟨silent, fun ⟨_, _, gives⟩ => silent gives⟩

/-- `Add` with the bits of `StartWait`. -/
theorem follows_registered (log : List PollRecord) (fd : Fd) (events revents : PollMask) (data : Nat) :
    Follows (revents.bits.map (.set fd) ++ .registered fd events data :: log) fd { events, data, revents } := by
  constructor
  · intro bit
    rw [setSince_sets]
    constructor
    · exact .inl
    · rintro (has | since)
      · exact has
      · exact absurd since not_setSince_registered
  · exact (lastGiven_cons (.inl rfl)).map not_gives_set _

/-- `ModInner` before its `or`. -/
theorem Follows.modified (follows : Follows log fd qev) (events : PollMask) (data : Nat) :
    Follows (.modified fd events data :: log) fd { qev with events, data } := by
  constructor
  · intro bit
    rw [setSince_modified]
    exact follows.pending bit
  · exact lastGiven_cons (.inr rfl)

/-- An `or` of a trigger or of `ModInner`. -/
theorem Follows.announce (follows : Follows log fd qev) (bit : PollBit) :
    Follows (.set fd bit :: log) fd (qev.announce bit) := by
  constructor
  · intro other
    rw [setSince_set, ← follows.pending other, QuicEpollEvent.announce, PollMask.has_set, Bool.or_eq_true,
      decide_eq_true_iff, or_comm]
  · exact follows.given.map not_gives_set [bit]

/-- The `and` of `Poll`. -/
theorem Follows.left (follows : Follows log fd qev) :
    Follows (qev.taken.bits.map (.reported fd) ++ log) fd qev.left := by
  constructor
  · intro bit
    rw [setSince_reports, ← follows.pending bit, QuicEpollEvent.left, QuicEpollEvent.taken, PollMask.has_inter,
      PollMask.has_diff]
    cases qev.revents.has bit <;> simp
  · exact follows.given.map not_gives_reported _

/-- `Poll` takes what the history tells it to report. -/
theorem Follows.taken (follows : Follows log fd qev) (bit : PollBit) :
    qev.taken.has bit = true ↔ ToReport log fd qev.events bit := by
  rw [ToReport, ← follows.pending bit, QuicEpollEvent.taken, PollMask.has_inter, QuicEpollEvent.reportable,
    PollMask.has_set, Bool.and_eq_true, Bool.or_eq_true, decide_eq_true_iff, @eq_comm _ bit]

end Records

namespace TableCall

/-- The call holds `mtx_`. -/
def Locks : TableCall → Prop
  | modOr _ | polling _ _ _ => True
  | idle | triggerOr _ _ | returned _ _ _ => False

/-- A `Poll` has its registrations before it, stores no descriptor twice and not more than it may. -/
def Fits (fds : AList fun _ : Fd => QuicEpollEvent) : TableCall → Prop
  | polling maxevents rest slots =>
    (∀ fd ∈ rest, fd ∈ fds) ∧ (slots.map PollSlot.fd ++ rest).Nodup ∧ (slots.length : Int) ≤ max maxevents 0
  | returned maxevents value slots =>
    value = slots.length ∧ (slots.map PollSlot.fd).Nodup ∧ (slots.length : Int) ≤ max maxevents 0
  | idle | triggerOr _ _ | modOr _ => True

theorem Fits.mono {fds larger : AList fun _ : Fd => QuicEpollEvent} {call : TableCall} (fits : call.Fits fds)
    (grows : call.Locks → ∀ fd, fd ∈ fds → fd ∈ larger) : call.Fits larger := by
  cases call with
  | polling maxevents rest slots => exact ⟨fun fd member => grows trivial fd (fits.1 fd member), fits.2⟩
  | idle | triggerOr | modOr | returned => exact fits

end TableCall

namespace PollTable

variable {Thread : Type} [DecidableEq Thread] {n : PollTable Thread} {thread : Thread}

/-- The registrations are what the history says, and the threads keep to their calls. -/
structure Sound (n : PollTable Thread) : Prop where
  follows : ∀ fd qev, n.fds.lookup fd = some qev → Follows n.log fd qev
  locks : ∀ thread, (n.calls thread).Locks → n.mtx = some thread
  fits : ∀ thread, (n.calls thread).Fits n.fds

omit [DecidableEq Thread] in
theorem sound_init : ({} : PollTable Thread).Sound := by
  constructor
  · intro fd qev found
    cases found
  · intro thread locks
    cases locks
  · intro thread
    trivial

/-! ## Steps -/

omit [DecidableEq Thread] in
/-- A step that records what it does to one registration. -/
theorem Sound.write (sound : n.Sound) {fd : Fd} {qev : QuicEpollEvent} {newer : List PollRecord}
    (about : ∀ record ∈ newer, record.fd = fd) (here : Follows (newer ++ n.log) fd qev) :
    Sound { n with fds := n.fds.insert fd qev, log := newer ++ n.log } := by
  constructor
  · intro other found lookup
    by_cases same : other = fd
    · subst same
      rw [AList.lookup_insert] at lookup
      cases lookup
      exact here
    · rw [AList.lookup_insert_ne same] at lookup
      refine (sound.follows other found lookup).append ?_
      intro record member
      rw [about record member]
      exact Ne.symm same
  · exact sound.locks
  · intro thread
    exact (sound.fits thread).mono fun _ _ member => AList.mem_insert _ |>.mpr (.inr member)

omit [DecidableEq Thread] in
theorem Sound.record (sound : n.Sound) {record : PollRecord} {qev : QuicEpollEvent}
    (here : Follows (record :: n.log) record.fd qev) :
    Sound { n with fds := n.fds.insert record.fd qev, log := record :: n.log } := by
  have about : ∀ other ∈ [record], other.fd = record.fd := by
    intro other member
    rw [List.mem_singleton.mp member]
  exact sound.write about here

/-- A thread goes on with its call; `held` is who holds `mtx_` then. -/
theorem Sound.setCall (sound : n.Sound) {call : TableCall} {held : Option Thread} (fits : call.Fits n.fds)
    (holds : call.Locks → held = some thread)
    (others : ∀ other, other ≠ thread → (n.calls other).Locks → held = some other) :
    ({ n with mtx := held }.setCall thread call).Sound := by
  constructor
  · exact sound.follows
  · intro other locks
    by_cases same : other = thread
    · subst same
      rw [setCall_self] at locks
      exact holds locks
    · rw [setCall_of_ne _ _ same] at locks
      exact others other same locks
  · intro other
    by_cases same : other = thread
    · subst same
      rw [setCall_self]
      exact fits
    · rw [setCall_of_ne _ _ same]
      exact sound.fits other

omit [DecidableEq Thread] in
/-- Nobody is inside a call that holds a free `mtx_`. -/
theorem Sound.not_locks (sound : n.Sound) (free : n.mtx = none) (thread : Thread) : ¬ (n.calls thread).Locks := by
  intro locks
  rw [sound.locks thread locks] at free
  cases free

omit [DecidableEq Thread] in
/-- Nobody but its holder is inside a call that holds `mtx_`. -/
theorem Sound.eq_of_locks (sound : n.Sound) {other : Thread} (held : (n.calls thread).Locks)
    (locks : (n.calls other).Locks) : other = thread :=
  Option.some.inj ((sound.locks other locks).symm.trans (sound.locks thread held))

omit [DecidableEq Thread] in
theorem Sound.add (sound : n.Sound) (fd : Fd) (events : PollMask) (data : Nat) (readable writable error : Bool) :
    (n.add fd events data readable writable error).Sound := by
  let revents : PollMask :=
    { pollin := events.pollin && readable, pollout := events.pollout && writable, pollerr := error }
  have about : ∀ record ∈ revents.bits.map (PollRecord.set fd) ++ [.registered fd events data], record.fd = fd := by
    intro record member
    rcases List.mem_append.mp member with member | member
    · obtain ⟨bit, -, rfl⟩ := List.mem_map.mp member
      rfl
    · rw [List.mem_singleton.mp member]
      rfl
  have here := follows_registered n.log fd events revents data
  rw [← List.singleton_append, ← List.append_assoc] at here
  have written := sound.write about here
  rw [List.append_assoc, List.singleton_append] at written
  exact written

omit [DecidableEq Thread] in
theorem Sound.del (sound : n.Sound) (free : n.mtx = none) (fd : Fd) : Sound { n with fds := n.fds.erase fd } := by
  constructor
  · intro other qev lookup
    by_cases same : other = fd
    · subst same
      rw [AList.lookup_erase] at lookup
      cases lookup
    · rw [AList.lookup_erase_ne same] at lookup
      exact sound.follows other qev lookup
  · exact sound.locks
  · intro thread
    exact (sound.fits thread).mono fun locks => absurd locks (sound.not_locks free thread)

omit [DecidableEq Thread] in
theorem Sound.setBit (sound : n.Sound) (fd : Fd) (bit : PollBit) : (n.setBit fd bit).Sound := by
  unfold PollTable.setBit
  split
  · exact sound
  · next qev found => exact sound.record ((sound.follows fd qev found).announce bit)

omit [DecidableEq Thread] in
theorem setBit_frame (n : PollTable Thread) (fd : Fd) (bit : PollBit) :
    (n.setBit fd bit).calls = n.calls ∧ (n.setBit fd bit).mtx = n.mtx := by
  unfold PollTable.setBit
  split <;> exact ⟨rfl, rfl⟩

theorem Sound.trigger (sound : n.Sound) (thread : Thread) (fd : Fd) (bit : PollBit) :
    (n.trigger thread fd bit).Sound := by
  unfold PollTable.trigger
  split
  · exact sound
  · split
    · exact sound.setCall trivial (fun locks => locks.elim) fun other _ => sound.locks other
    · exact sound

theorem Sound.mod (sound : n.Sound) (thread : Thread) (free : n.mtx = none) (fd : Fd) (events : PollMask)
    (data : Nat) : (n.mod thread fd events data).Sound := by
  unfold PollTable.mod
  split
  · exact sound
  · next qev found =>
    have modified : Sound { n with
        fds := n.fds.insert fd { qev with events, data }, log := .modified fd events data :: n.log } :=
      sound.record ((sound.follows fd qev found).modified events data)
    split
    · refine modified.setCall trivial (fun _ => rfl) ?_
      intro other _ locks
      exact absurd locks (sound.not_locks free other)
    · exact modified

theorem Sound.poll (sound : n.Sound) (thread : Thread) (free : n.mtx = none) (maxevents : Int) {order : List Fd}
    (listed : order.Perm n.fds.keys) :
    ({ n with mtx := some thread }.setCall thread (.polling maxevents order [])).Sound := by
  refine sound.setCall ⟨?_, ?_, ?_⟩ (fun _ => rfl) ?_
  · intro fd member
    exact AList.mem_keys.mpr (listed.mem_iff.mp member)
  · exact listed.nodup_iff.mpr n.fds.keys_nodup
  · exact le_max_right maxevents 0
  · intro other _ locks
    exact absurd locks (sound.not_locks free other)

/-! ## The loop of `Poll` -/

section Polling

variable {thread : Thread} {maxevents : Int} {fd : Fd} {rest : List Fd} {slots : List PollSlot}

omit [DecidableEq Thread] in
/-- The registration that `Poll` visits next is there. -/
theorem Sound.visited (sound : n.Sound) (calls : n.calls thread = .polling maxevents (fd :: rest) slots) :
    ∃ qev, n.fds.lookup fd = some qev := by
  have fits := sound.fits thread
  rw [calls] at fits
  exact Option.isSome_iff_exists.mp (AList.lookup_isSome.mpr (fits.1 fd List.mem_cons_self))

theorem visit_eq {qev : QuicEpollEvent} (found : n.fds.lookup fd = some qev) :
    n.visit thread maxevents fd rest slots =
      { n with
        fds := n.fds.insert fd qev.left
        log := qev.taken.bits.map (.reported fd) ++ n.log
        calls := Function.update n.calls thread (.polling maxevents rest
          (if qev.taken = {} then slots else slots ++ [⟨fd, qev.data, qev.taken⟩])) } := by
  unfold visit
  rw [found]
  rfl

theorem Sound.visit (sound : n.Sound) (calls : n.calls thread = .polling maxevents (fd :: rest) slots)
    (room : (slots.length : Int) < maxevents) : (n.visit thread maxevents fd rest slots).Sound := by
  obtain ⟨qev, found⟩ := sound.visited calls
  have fits := sound.fits thread
  rw [calls] at fits
  obtain ⟨registered, nodup, bound⟩ := fits
  have about : ∀ record ∈ qev.taken.bits.map (PollRecord.reported fd), record.fd = fd := by
    intro record member
    obtain ⟨bit, -, rfl⟩ := List.mem_map.mp member
    rfl
  have written := sound.write about (sound.follows fd qev found).left
  rw [visit_eq found]
  refine written.setCall ⟨?_, ?_, ?_⟩ (fun _ => sound.locks thread (by rw [calls]; trivial))
    fun other _ => sound.locks other
  · intro other member
    exact (AList.mem_insert _).mpr (.inr (registered other (List.mem_cons_of_mem _ member)))
  · split
    · exact nodup.sublist ((List.Sublist.refl _).append (List.sublist_cons_self fd rest))
    · simpa using nodup
  · split
    · exact bound
    · rw [List.length_append, List.length_singleton]
      push_cast
      omega

theorem Sound.pollReturns (sound : n.Sound) (calls : n.calls thread = .polling maxevents rest slots) :
    (n.pollReturns thread maxevents slots).Sound := by
  have fits := sound.fits thread
  rw [calls] at fits
  have held : (n.calls thread).Locks := by
    rw [calls]
    trivial
  refine sound.setCall ⟨rfl, fits.2.1.of_append_left, fits.2.2⟩ (fun locks => locks.elim) ?_
  intro other differs locks
  exact absurd (sound.eq_of_locks held locks) differs

end Polling

theorem Sound.advance (sound : n.Sound) (thread : Thread) : (n.advance thread).Sound := by
  unfold PollTable.advance
  split
  · exact sound
  · next fd bit calls =>
    refine (sound.setBit fd bit).setCall trivial (fun locks => locks.elim) ?_
    exact fun other _ => (sound.setBit fd bit).locks other
  · next fd calls =>
    have held : ((n.setBit fd .pollout).calls thread).Locks := by
      rw [(setBit_frame n fd .pollout).1, calls]
      trivial
    refine (sound.setBit fd .pollout).setCall trivial (fun locks => locks.elim) ?_
    intro other differs locks
    exact absurd ((sound.setBit fd .pollout).eq_of_locks held locks) differs
  · next maxevents slots calls => exact sound.pollReturns calls
  · next maxevents fd rest slots calls =>
    split
    · exact sound.pollReturns calls
    · next room => exact sound.visit calls (not_le.mp room)
  · exact sound.setCall trivial (fun locks => locks.elim) fun other _ => sound.locks other

theorem Sound.step (sound : n.Sound) {action : TableAction Thread} (admitted : n.admits action = true) :
    (n.step action).Sound := by
  cases action with
  | add fd events data readable writable error => exact sound.add fd events data readable writable error
  | del fd =>
    simp only [admits, Option.isNone_iff_eq_none] at admitted
    exact sound.del admitted fd
  | trigger thread fd bit => exact sound.trigger thread fd bit
  | mod thread fd events data =>
    simp only [admits, Bool.and_eq_true, Option.isNone_iff_eq_none] at admitted
    exact sound.mod thread admitted.2 fd events data
  | poll thread maxevents order =>
    simp only [admits, Bool.and_eq_true, Option.isNone_iff_eq_none, decide_eq_true_iff] at admitted
    exact sound.poll thread admitted.1.2 maxevents admitted.2
  | advance thread => exact sound.advance thread

theorem reachable_sound (run : (system Thread).Reachable {} n) : n.Sound :=
  run.invariant sound_init fun before action after sound admitted stepped => by
    cases stepped
    exact sound.step admitted

theorem advance_of_full {maxevents : Int} {rest : List Fd} {slots : List PollSlot}
    (calls : n.calls thread = .polling maxevents rest slots) (full : rest = [] ∨ maxevents ≤ slots.length) :
    n.advance thread = n.pollReturns thread maxevents slots := by
  unfold PollTable.advance
  rw [calls]
  cases rest with
  | nil => rfl
  | cons fd rest =>
    have full : maxevents ≤ slots.length := full.resolve_left (List.cons_ne_nil fd rest)
    exact if_pos full

theorem advance_of_room {maxevents : Int} {fd : Fd} {rest : List Fd} {slots : List PollSlot}
    (calls : n.calls thread = .polling maxevents (fd :: rest) slots) (room : (slots.length : Int) < maxevents) :
    n.advance thread = n.visit thread maxevents fd rest slots := by
  unfold PollTable.advance
  rw [calls]
  exact if_neg (not_le.mpr room)

/-- In every state of every run: a bit is pending exactly if it has been set since the registration and since the last
`Poll` that reported it; a `Poll` stores for the registration it visits what is to be reported, with the data last
given, and touches no other; one that stops leaves all of them alone; and it returns the number of its slots. -/
theorem poll_reports_pending (run : (system Thread).Reachable {} n) :
    (∀ fd qev, n.fds.lookup fd = some qev → ∀ bit, qev.revents.has bit = true ↔ SetSince n.log fd bit) ∧
    (∀ thread maxevents fd rest slots, n.calls thread = .polling maxevents (fd :: rest) slots →
      (slots.length : Int) < maxevents → ∃ events data reports, LastGiven n.log fd events data ∧
        (∀ bit, PollMask.has reports bit = true ↔ ToReport n.log fd events bit) ∧
        (n.advance thread).calls thread =
          .polling maxevents rest (if reports = {} then slots else slots ++ [⟨fd, data, reports⟩]) ∧
        (n.advance thread).log = reports.bits.map (.reported fd) ++ n.log ∧
        ∀ other, other ≠ fd → (n.advance thread).fds.lookup other = n.fds.lookup other) ∧
    (∀ thread maxevents rest slots, n.calls thread = .polling maxevents rest slots →
      rest = [] ∨ maxevents ≤ slots.length →
        (n.advance thread).fds = n.fds ∧ (n.advance thread).log = n.log ∧
          (n.advance thread).calls thread = .returned maxevents slots.length slots) ∧
    (∀ thread maxevents value slots, n.calls thread = .returned maxevents value slots →
      (slots.map PollSlot.fd).Nodup ∧ value = slots.length ∧ value ≤ max maxevents 0) := by
  have sound := reachable_sound run
  refine ⟨fun fd qev found => (sound.follows fd qev found).pending, ?_, ?_, ?_⟩
  · intro thread maxevents fd rest slots calls room
    obtain ⟨qev, found⟩ := sound.visited calls
    have follows := sound.follows fd qev found
    rw [advance_of_room calls room, visit_eq found]
    refine ⟨qev.events, qev.data, qev.taken, follows.given, follows.taken, Function.update_self .., rfl, ?_⟩
    intro other differs
    exact AList.lookup_insert_ne differs
  · intro thread maxevents rest slots calls full
    rw [advance_of_full calls full]
    exact ⟨rfl, rfl, setCall_self ..⟩
  · intro thread maxevents value slots calls
    have fits := sound.fits thread
    rw [calls] at fits
    obtain ⟨rfl, nodup, bound⟩ := fits
    exact ⟨nodup, rfl, bound⟩

/-- A trigger whose `or` comes after the visit of `Poll`, with a full array and a registration not yet visited. -/
def triggersBehindPoll : List (TableAction Bool) :=
  [.add 3 { pollin := true } 7 true false false, .add 4 { pollin := true } 9 false false false,
    .mod true 4 { pollin := true, pollout := true } 11, .advance true, .trigger true 3 .pollin,
    .poll false 1 [3, 4], .advance false, .advance true]

theorem triggersBehindPoll_pending :
    ∃ n, (system Bool).Reachable {} n ∧ SetSince n.log 3 .pollin ∧
      n.calls false = .polling 1 [4] [⟨3, 7, { pollin := true }⟩] ∧ (n.advance false).fds = n.fds ∧
      (n.advance false).calls false = .returned 1 1 [⟨3, 7, { pollin := true }⟩] := by
  have ends : ∃ n ∈ (system Bool).replay? {} triggersBehindPoll,
      n.fds.lookup 3 = some { events := { pollin := true }, data := 7, revents := { pollin := true } } ∧
        n.calls false = .polling 1 [4] [⟨3, 7, { pollin := true }⟩] := by decide
  obtain ⟨n, executed, found, calls⟩ := ends
  have run := Machine.System.reachable_of_replay? executed
  obtain ⟨pending, -, stops, -⟩ := poll_reports_pending run
  obtain ⟨fds, -, returned⟩ := stops _ _ _ _ calls (.inr (by decide))
  exact ⟨n, run, (pending 3 _ found .pollin).mp rfl, calls, fds, returned⟩

/-! ## An uninterrupted `Poll` -/

section Uninterrupted

variable {thread : Thread} {maxevents : Int} {slots : List PollSlot} {qev : Fd → QuicEpollEvent}

/-- Left alone, the thread returns with these events behind its slots and leaves these registrations. -/
def Sweeps (n : PollTable Thread) (thread : Thread) (maxevents : Int) (slots : List PollSlot)
    (result : List World.PolledEvent × (Fd → QuicEpollEvent)) : Prop :=
  ∃ count stored, ((·.advance thread)^[count] n).calls thread =
      .returned maxevents (slots ++ stored).length (slots ++ stored) ∧
    stored.map (fun slot => (slot.data, slot.events)) = result.1.map (fun event => (event.data, event.events)) ∧
    ∀ fd ∈ ((·.advance thread)^[count] n).fds, ((·.advance thread)^[count] n).fds.lookup fd = some (result.2 fd)

theorem sweeps_of_full {rest : List Fd} (calls : n.calls thread = .polling maxevents rest slots)
    (full : rest = [] ∨ maxevents ≤ slots.length) (mirrors : ∀ fd ∈ n.fds, n.fds.lookup fd = some (qev fd)) :
    Sweeps n thread maxevents slots ([], qev) := by
  refine ⟨1, [], ?_, rfl, ?_⟩
  · rw [Function.iterate_one, advance_of_full calls full, List.append_nil]
    exact setCall_self ..
  · rw [Function.iterate_one, advance_of_full calls full]
    exact mirrors

theorem Sweeps.of_advance {result : List World.PolledEvent × (Fd → QuicEpollEvent)}
    (sweeps : Sweeps (n.advance thread) thread maxevents slots result) : Sweeps n thread maxevents slots result := by
  obtain ⟨count, stored, sweeps⟩ := sweeps
  exact ⟨count + 1, stored, sweeps⟩

theorem Sweeps.of_advance_slot {slot : PollSlot} {source : EntryPtr} {reported : List World.PolledEvent}
    (sweeps : Sweeps (n.advance thread) thread maxevents (slots ++ [slot]) (reported, qev)) :
    Sweeps n thread maxevents slots (⟨source, slot.data, slot.events⟩ :: reported, qev) := by
  obtain ⟨count, stored, returned, matched, left⟩ := sweeps
  rw [List.append_assoc, List.singleton_append] at returned
  exact ⟨count + 1, slot :: stored, returned, congrArg (_ :: ·) matched, left⟩

/-- Without other threads in between, `Poll` stores and clears what `World.pollLoop` does. -/
theorem sweeps_pollLoop {entries : List (Sigma fun _ : Fd => EntryPtr)} {room : Nat}
    (calls : n.calls thread = .polling maxevents (entries.map Sigma.fst) slots)
    (bound : maxevents = slots.length + room) (registered : ∀ entry ∈ entries, entry.fst ∈ n.fds)
    (mirrors : ∀ fd ∈ n.fds, n.fds.lookup fd = some (qev fd)) :
    Sweeps n thread maxevents slots (World.pollLoop qev entries room) := by
  induction entries generalizing n room qev slots with
  | nil => exact sweeps_of_full calls (.inl rfl) mirrors
  | cons entry rest ih =>
    cases room with
    | zero => exact sweeps_of_full calls (.inr bound.le) mirrors
    | succ room =>
      obtain ⟨fd, source⟩ := entry
      have found := mirrors fd (registered _ List.mem_cons_self)
      have visits : n.advance thread = _ :=
        (advance_of_room calls (by omega)).trans (visit_eq found)
      -- the registrations after the visit are those that the loop goes on with
      have mirrors' : ∀ other ∈ n.fds.insert fd (qev fd).left, (n.fds.insert fd (qev fd).left).lookup other =
          some (Function.update qev fd (qev fd).left other) := by
        intro other member
        by_cases same : other = fd
        · subst same
          rw [AList.lookup_insert, Function.update_self]
        · rw [AList.lookup_insert_ne same, Function.update_of_ne same]
          exact mirrors other (((AList.mem_insert _).mp member).resolve_left same)
      have registered' : ∀ entry ∈ rest, entry.fst ∈ n.fds.insert fd (qev fd).left := fun entry member =>
        (AList.mem_insert _).mpr (.inr (registered entry (List.mem_cons_of_mem _ member)))
      rw [World.pollLoop]
      split_ifs with nothing
      · have nothing : (qev fd).taken = {} := nothing
        apply Sweeps.of_advance
        rw [visits]
        refine ih ?_ bound registered' mirrors'
        dsimp only
        rw [Function.update_self, if_pos nothing]
      · have something : (qev fd).taken ≠ {} := nothing
        have sweeps : Sweeps (n.advance thread) thread maxevents (slots ++ [⟨fd, (qev fd).data, (qev fd).taken⟩])
            (World.pollLoop (Function.update qev fd (qev fd).left) rest room) := by
          rw [visits]
          refine ih ?_ ?_ registered' mirrors'
          · dsimp only
            rw [Function.update_self, if_neg something]
          · rw [List.length_append, List.length_singleton, bound]
            push_cast
            ring
        exact sweeps.of_advance_slot

end Uninterrupted

end PollTable

end PosixQuic
