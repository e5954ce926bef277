import PosixQuic.Machine.Since
import PosixQuic.Model.Epoller
import PosixQuic.Model.SharedEvent
import Mathlib.Tactic

/-! # No readiness is missed while a waiter registers

A flag that is set has been told to a registered waiter, or the thread that wrote it still owes the waiter its trigger
pass: it waits for `mtx_`, or it is in the pass and has not come to the waiter yet. `StartWait` holds `mtx_` while it
reads the flags, so a thread that writes one behind it finds the waiter in the map.
-/

namespace PosixQuic

open Machine (Since since_cons recordedSince recordedSince_append)

variable {Thread Trigger Waiter : Type}

namespace EventCall

/-- The call will still tell the waiter of this trigger about the bit. -/
def Owes (trigger : Trigger) (bit : PollBit) : EventCall Trigger Waiter → Prop
  | .trigger other => other = bit
  | .passing other rest => other = bit ∧ trigger ∈ rest
  | .idle | .writeReadable _ | .writeWritable _ | .checkError _ _ | .writeError _ _ | .startWait _ _ _
  | .starting _ _ _ _ | .stopWait _ | .checkClose | .closing | .clearing => False

/-- The call holds `mtx_`. -/
def Locks : EventCall Trigger Waiter → Prop
  | .passing _ _ | .starting _ _ _ _ | .clearing => True
  | .idle | .writeReadable _ | .writeWritable _ | .checkError _ _ | .writeError _ _ | .trigger _ | .startWait _ _ _
  | .stopWait _ | .checkClose | .closing => False

/-- The call is a `SetReadable`, `SetWritable` or `SetError`. -/
def Sets : EventCall Trigger Waiter → Prop
  | .writeReadable _ | .writeWritable _ | .checkError _ _ | .writeError _ _ | .trigger _ | .passing _ _ => True
  | .idle | .startWait _ _ _ | .starting _ _ _ _ | .stopWait _ | .checkClose | .closing | .clearing => False

/-- The call began when the history was at most that long. -/
def Begun (length : Nat) : EventCall Trigger Waiter → Prop
  | .startWait _ _ began | .starting _ _ _ began => began ≤ length
  | .idle | .writeReadable _ | .writeWritable _ | .checkError _ _ | .writeError _ _ | .trigger _ | .passing _ _
  | .stopWait _ | .checkClose | .closing | .clearing => True

variable {call : EventCall Trigger Waiter}

theorem Begun.mono {length longer : Nat} (begun : call.Begun length) (grows : length ≤ longer) : call.Begun longer := by
  cases call with
  | startWait trigger waiter began => exact le_trans begun grows
  | starting unread trigger waiter began => exact le_trans begun grows
  | _ => trivial

/-- The call neither holds `mtx_` nor owes a trigger pass. -/
def Free : EventCall Trigger Waiter → Prop
  | .trigger _ | .passing _ _ | .starting _ _ _ _ | .clearing => False
  | .idle | .writeReadable _ | .writeWritable _ | .checkError _ _ | .writeError _ _ | .startWait _ _ _ | .stopWait _
  | .checkClose | .closing => True

theorem Free.not_locks (free : call.Free) : ¬ call.Locks := by
  intro locks
  cases call with
  | passing | starting | clearing => exact free
  | _ => exact locks

/-- The call has no trigger pass before it. -/
def Clear : EventCall Trigger Waiter → Prop
  | .trigger _ => False
  | .passing _ rest => rest = []
  | .idle | .writeReadable _ | .writeWritable _ | .checkError _ _ | .writeError _ _ | .startWait _ _ _
  | .starting _ _ _ _ | .stopWait _ | .checkClose | .closing | .clearing => True

theorem Clear.not_owes (clear : call.Clear) (trigger : Trigger) (bit : PollBit) : ¬ call.Owes trigger bit := by
  intro owes
  cases call with
  | trigger other => exact clear
  | passing other rest =>
    have none : rest = [] := clear
    rw [Owes, none] at owes
    cases owes.2
  | _ => exact owes

theorem Free.clear (free : call.Free) : call.Clear := by
  cases call with
  | trigger | passing => cases free
  | _ => trivial

theorem Owes.sets {trigger : Trigger} {bit : PollBit} (owes : call.Owes trigger bit) : call.Sets := by
  cases call with
  | trigger other => trivial
  | passing other rest => trivial
  | _ => cases owes

/-- The call keeps to an event whose `closeTrigger_` has that value. -/
def Fits (closed : Bool) : EventCall Trigger Waiter → Prop
  | .passing _ rest => closed = true → rest = []
  | .starting _ _ _ _ => closed = false
  | .clearing => closed = true
  | .idle | .writeReadable _ | .writeWritable _ | .checkError _ _ | .writeError _ _ | .trigger _ | .startWait _ _ _
  | .stopWait _ | .checkClose | .closing => True

theorem fits_of_not_locks (free : ¬ call.Locks) (closed : Bool) : call.Fits closed := by
  cases call with
  | passing | starting | clearing => exact absurd trivial free
  | _ => trivial

end EventCall

/-- The record of something that a waiter or its trigger notices. -/
def EventRecord.Rouses : EventRecord Trigger Waiter → Prop
  | .set _ _ | .triggered _ _ | .started _ _ => True
  | .taken _ _ | .cleared => False

namespace SharedEvent

variable [DecidableEq Thread] [DecidableEq Trigger] [DecidableEq Waiter] {events : Waiter → PollMask}
  {n next : SharedEvent Thread Trigger Waiter} {thread : Thread} {call : EventCall Trigger Waiter} {bit : PollBit}
  {trigger : Trigger} {waiter : Waiter} {began : Nat}

omit [DecidableEq Trigger] [DecidableEq Waiter] in
theorem setCall_self (n : SharedEvent Thread Trigger Waiter) (thread : Thread) (call : EventCall Trigger Waiter) :
    (n.setCall thread call).calls thread = call := Function.update_self ..

omit [DecidableEq Trigger] [DecidableEq Waiter] in
theorem setCall_of_ne (n : SharedEvent Thread Trigger Waiter) {other : Thread} (call : EventCall Trigger Waiter)
    (differs : other ≠ thread) : (n.setCall thread call).calls other = n.calls other := Function.update_of_ne differs ..

/-! ## What a step can do -/

/-- The steps of a thread, with what is known of its call. -/
inductive Moves (events : Waiter → PollMask) (n : SharedEvent Thread Trigger Waiter) :
    SharedEvent Thread Trigger Waiter → Prop where
  | goes {thread : Thread} {call : EventCall Trigger Waiter} (leaves : (n.calls thread).Free) (enters : call.Free)
      (begun : call.Begun n.log.length) : Moves events n (n.setCall thread call)
  | writes {thread : Thread} {bit : PollBit} {readable writable : Bool} {error quicErrorCode : Int}
      (leaves : (n.calls thread).Free)
      (keeps : ∀ other, other ≠ bit → flag { n with readable, writable, error, quicErrorCode } other = n.flag other) :
      Moves events n ({ n with readable, writable, error, quicErrorCode }.setCall thread (.trigger bit))
  | passes {thread : Thread} {bit : PollBit} {order : List Trigger} (calls : n.calls thread = .trigger bit)
      (free : n.mtx = none) (listed : order.Perm n.waitings.keys) :
      Moves events n ({ n with mtx := some thread }.setCall thread (.passing bit order))
  | visits {thread : Thread} {bit : PollBit} {trigger : Trigger} {rest : List Trigger}
      (calls : n.calls thread = .passing bit (trigger :: rest)) :
      Moves events n ((n.visit events trigger bit).setCall thread (.passing bit rest))
  | passed {thread : Thread} {bit : PollBit} (calls : n.calls thread = .passing bit []) :
      Moves events n ({ n with mtx := none }.setCall thread .idle)
  | starts {thread : Thread} {trigger : Trigger} {waiter : Waiter} {began : Nat}
      (calls : n.calls thread = .startWait trigger waiter began) (free : n.mtx = none)
      (isOpen : n.closeTrigger = false) :
      Moves events n ({ n with mtx := some thread }.setCall thread
        (.starting [.pollin, .pollout, .pollerr] trigger waiter began))
  | reads {thread : Thread} {bit : PollBit} {unread : List PollBit} {trigger : Trigger} {waiter : Waiter} {began : Nat}
      (calls : n.calls thread = .starting (bit :: unread) trigger waiter began) :
      Moves events n ((n.readFlag events waiter bit).setCall thread (.starting unread trigger waiter began))
  | enlists {thread : Thread} {trigger : Trigger} {waiter : Waiter} {began : Nat}
      (calls : n.calls thread = .starting [] trigger waiter began) :
      Moves events n ((n.enlist trigger waiter began).setCall thread .idle)
  | stops {thread : Thread} {trigger : Trigger} (calls : n.calls thread = .stopWait trigger) (free : n.mtx = none) :
      Moves events n ({ n with waitings := n.waitings.erase trigger }.setCall thread .idle)
  | marks {thread : Thread} (calls : n.calls thread = .closing) (free : n.mtx = none) :
      Moves events n ({ n with closeTrigger := true, mtx := some thread }.setCall thread .clearing)
  | clears {thread : Thread} (calls : n.calls thread = .clearing) :
      Moves events n ({ n with waitings := ∅, mtx := none, log := .cleared :: n.log }.setCall thread .idle)
  | finds {thread : Thread} (leaves : (n.calls thread).Free) (closed : n.closeTrigger = true) :
      Moves events n ({ n with log := .cleared :: n.log }.setCall thread .idle)
  | takes {waiter : Waiter} {mask : PollMask} :
      Moves events n { n with
        revents := Function.update n.revents waiter ((n.revents waiter).diff mask)
        log := .taken waiter mask :: n.log }
  | rests : Moves events n n

omit [DecidableEq Thread] [DecidableEq Trigger] [DecidableEq Waiter] in
theorem free_of_eq (calls : n.calls thread = call) (free : call.Free) : (n.calls thread).Free := calls ▸ free

theorem advance_moves (admitted : (n.calls thread).needsLock = true → n.mtx = none) :
    Moves events n (n.advance events thread) := by
  unfold advance
  split
  · exact .rests
  · exact .rests
  · next b calls =>
    refine .writes (free_of_eq calls trivial) ?_
    rintro (_ | _ | _) differs
    · exact absurd rfl differs
    · rfl
    · rfl
  · next b calls =>
    refine .writes (free_of_eq calls trivial) ?_
    rintro (_ | _ | _) differs
    · rfl
    · exact absurd rfl differs
    · rfl
  · next err quicErr calls =>
    refine .goes (free_of_eq calls trivial) ?_ ?_
    · split <;> trivial
    · split <;> trivial
  · next err quicErr calls =>
    refine .writes (free_of_eq calls trivial) ?_
    rintro (_ | _ | _) differs
    · rfl
    · rfl
    · exact absurd rfl differs
  · next bit calls => exact .passed calls
  · next bit trigger rest calls => exact .visits calls
  · next trigger waiter began calls =>
    split
    · exact .goes (free_of_eq calls trivial) trivial trivial
    · next isOpen =>
      refine .starts calls (admitted ?_) (Bool.eq_false_iff.mpr isOpen)
      rw [calls]
      rfl
  · next bit unread trigger waiter began calls => exact .reads calls
  · next trigger waiter began calls => exact .enlists calls
  · next trigger calls =>
    refine .stops calls (admitted ?_)
    rw [calls]
    rfl
  · next calls =>
    split
    · next closed => exact .finds (free_of_eq calls trivial) closed
    · exact .goes (free_of_eq calls trivial) trivial trivial
  · next calls =>
    split
    · next closed => exact .finds (free_of_eq calls trivial) closed
    · refine .marks calls (admitted ?_)
      rw [calls]
      rfl
  · next calls => exact .clears calls

theorem step_moves {action : EventAction Thread Trigger Waiter} (admitted : n.admits action = true) :
    Moves events n (n.step events action) := by
  cases action with
  | setReadable thread b | setWritable thread b | setError thread err quicErr | stopWait thread trigger
  | clearWaitingsByClose thread =>
    have idle := of_decide_eq_true admitted
    exact .goes (free_of_eq idle trivial) trivial trivial
  | startWait thread trigger waiter =>
    have idle := of_decide_eq_true admitted
    exact .goes (free_of_eq idle trivial) trivial le_rfl
  | pass thread bit order =>
    simp only [admits, Bool.and_eq_true, decide_eq_true_iff, Option.isNone_iff_eq_none] at admitted
    exact .passes admitted.1.1 admitted.1.2 admitted.2
  | advance thread =>
    simp only [admits, Bool.or_eq_true, Bool.not_eq_true', Option.isNone_iff_eq_none] at admitted
    refine advance_moves fun needs => admitted.resolve_left ?_
    rw [needs]
    decide
  | take waiter mask => exact .takes

/-! ## `mtx_` -/

/-- Whoever is in a part under `mtx_` holds it. -/
def Exclusive (n : SharedEvent Thread Trigger Waiter) : Prop := ∀ thread, (n.calls thread).Locks → n.mtx = some thread

omit [DecidableEq Thread] [DecidableEq Trigger] [DecidableEq Waiter] in
theorem Exclusive.not_locks (exclusive : n.Exclusive) (free : n.mtx = none) (thread : Thread) :
    ¬ (n.calls thread).Locks := by
  intro locks
  rw [exclusive thread locks] at free
  cases free

omit [DecidableEq Thread] [DecidableEq Trigger] [DecidableEq Waiter] in
theorem Exclusive.eq_of_locks (exclusive : n.Exclusive) {other : Thread} (held : (n.calls thread).Locks)
    (locks : (n.calls other).Locks) : other = thread :=
  Option.some.inj ((exclusive other locks).symm.trans (exclusive thread held))

omit [DecidableEq Trigger] [DecidableEq Waiter] in
/-- A thread goes on; `others` says who holds `mtx_` then. -/
theorem exclusive_setCall (holds : call.Locks → n.mtx = some thread)
    (others : ∀ other, other ≠ thread → (n.calls other).Locks → n.mtx = some other) :
    (n.setCall thread call).Exclusive := by
  intro other locks
  by_cases same : other = thread
  · subst same
    rw [setCall_self] at locks
    exact holds locks
  · rw [setCall_of_ne _ _ same] at locks
    exact others other same locks

omit [DecidableEq Thread] [DecidableEq Trigger] [DecidableEq Waiter] in
theorem Exclusive.acquire (exclusive : n.Exclusive) (free : n.mtx = none) (other : Thread) (_ : other ≠ thread)
    (locks : (n.calls other).Locks) : some thread = some other := absurd locks (exclusive.not_locks free other)

omit [DecidableEq Thread] [DecidableEq Trigger] [DecidableEq Waiter] in
theorem Exclusive.release (exclusive : n.Exclusive) (held : (n.calls thread).Locks) (other : Thread)
    (differs : other ≠ thread) (locks : (n.calls other).Locks) : none = some other :=
  absurd (exclusive.eq_of_locks held locks) differs

omit [DecidableEq Thread] in
theorem visit_frame (events : Waiter → PollMask) (n : SharedEvent Thread Trigger Waiter) (trigger : Trigger)
    (bit : PollBit) : ∃ revents newer, n.visit events trigger bit = { n with revents, log := newer ++ n.log } := by
  unfold visit
  split
  · exact ⟨n.revents, [], rfl⟩
  · next registered found =>
    split
    · exact ⟨_, [.triggered trigger bit, .set registered.waiter bit], rfl⟩
    · exact ⟨n.revents, [], rfl⟩

omit [DecidableEq Thread] [DecidableEq Trigger] in
theorem readFlag_frame (events : Waiter → PollMask) (n : SharedEvent Thread Trigger Waiter) (waiter : Waiter)
    (bit : PollBit) : ∃ revents newer, n.readFlag events waiter bit = { n with revents, log := newer ++ n.log } := by
  unfold readFlag
  split
  · exact ⟨_, [.set waiter bit], rfl⟩
  · exact ⟨n.revents, [], rfl⟩

theorem Exclusive.move (exclusive : n.Exclusive) (moves : Moves events n next) : next.Exclusive := by
  cases moves with
  | goes leaves enters begun =>
    exact exclusive_setCall (fun locks => absurd locks enters.not_locks) fun other _ => exclusive other
  | writes leaves keeps => exact exclusive_setCall (fun locks => locks.elim) fun other _ => exclusive other
  | passes calls free listed => exact exclusive_setCall (fun _ => rfl) (exclusive.acquire free)
  | @visits thread bit trigger rest calls =>
    obtain ⟨revents, newer, same⟩ := visit_frame events n trigger bit
    rw [same]
    exact exclusive_setCall (fun _ => exclusive thread (calls ▸ trivial)) fun other _ => exclusive other
  | passed calls => exact exclusive_setCall (fun locks => locks.elim) (exclusive.release (calls ▸ trivial))
  | starts calls free isOpen => exact exclusive_setCall (fun _ => rfl) (exclusive.acquire free)
  | @reads thread bit unread trigger waiter began calls =>
    obtain ⟨revents, newer, same⟩ := readFlag_frame events n waiter bit
    rw [same]
    exact exclusive_setCall (fun _ => exclusive thread (calls ▸ trivial)) fun other _ => exclusive other
  | enlists calls => exact exclusive_setCall (fun locks => locks.elim) (exclusive.release (calls ▸ trivial))
  | stops calls free => exact exclusive_setCall (fun locks => locks.elim) fun other _ => exclusive other
  | marks calls free => exact exclusive_setCall (fun _ => rfl) (exclusive.acquire free)
  | clears calls => exact exclusive_setCall (fun locks => locks.elim) (exclusive.release (calls ▸ trivial))
  | finds leaves closed => exact exclusive_setCall (fun locks => locks.elim) fun other _ => exclusive other
  | takes => exact exclusive
  | rests => exact exclusive

/-! ## Waiters hear of every flag -/

/-- The bit has been set for the waiter since the history had that length. -/
def Told (n : SharedEvent Thread Trigger Waiter) (waiter : Waiter) (began : Nat) (bit : PollBit) : Prop :=
  .set waiter bit ∈ recordedSince n.log began

/-- A flag that is set and asked for has been told to the waiter, or some thread owes it; and while `StartWait` is at
work, this holds of the flags that it has read. -/
structure Hears (events : Waiter → PollMask) (n : SharedEvent Thread Trigger Waiter) : Prop where
  begun : ∀ thread, (n.calls thread).Begun n.log.length
  marks : ∀ trigger registered, n.waitings.lookup trigger = some registered → registered.began ≤ n.log.length
  told : ∀ trigger registered, n.waitings.lookup trigger = some registered → ∀ bit,
    (events registered.waiter).asks bit = true → n.flag bit = true →
      n.Told registered.waiter registered.began bit ∨ ∃ thread, (n.calls thread).Owes trigger bit
  read : ∀ thread unread trigger waiter began, n.calls thread = .starting unread trigger waiter began →
    ∀ bit, bit ∉ unread → (events waiter).asks bit = true → n.flag bit = true →
      n.Told waiter began bit ∨ ∃ other, n.calls other = .trigger bit

omit [DecidableEq Thread] [DecidableEq Waiter] in
theorem hears_init : Hears events ({} : SharedEvent Thread Trigger Waiter) := by
  constructor
  · intro thread
    trivial
  · intro trigger registered found
    cases found
  · intro trigger registered found
    cases found
  · intro thread unread trigger waiter began calls
    cases calls

omit [DecidableEq Thread] [DecidableEq Waiter] in
/-- Records, and what `Hears` does not look at. -/
theorem Hears.grow (hears : n.Hears events) (newer : List (EventRecord Trigger Waiter))
    {revents : Waiter → PollMask} {mtx : Option Thread} {closeTrigger : Bool} :
    Hears events { n with revents, mtx, closeTrigger, log := newer ++ n.log } := by
  have longer : n.log.length ≤ (newer ++ n.log).length := by
    rw [List.length_append]
    omega
  have keeps : ∀ waiter began bit, began ≤ n.log.length → n.Told waiter began bit →
      EventRecord.set waiter bit ∈ recordedSince (newer ++ n.log) began := by
    intro waiter began bit made told
    rw [recordedSince_append made]
    exact List.mem_append_right _ told
  constructor
  · exact fun thread => (hears.begun thread).mono longer
  · exact fun trigger registered found => (hears.marks trigger registered found).trans longer
  · intro trigger registered found bit asks set
    exact (hears.told trigger registered found bit asks set).imp_left
      (keeps _ _ _ (hears.marks trigger registered found))
  · intro thread unread trigger waiter began calls bit done asks set
    have made := hears.begun thread
    rw [calls] at made
    exact (hears.read thread unread trigger waiter began calls bit done asks set).imp_left (keeps _ _ _ made)

omit [DecidableEq Thread] [DecidableEq Waiter] in
theorem Hears.shrink (hears : n.Hears events) {waitings : AList fun _ : Trigger => Registered Waiter}
    (fewer : ∀ trigger registered, waitings.lookup trigger = some registered →
      n.waitings.lookup trigger = some registered) : Hears events { n with waitings } := by
  constructor
  · exact hears.begun
  · exact fun trigger registered found => hears.marks trigger registered (fewer trigger registered found)
  · exact fun trigger registered found => hears.told trigger registered (fewer trigger registered found)
  · exact hears.read

omit [DecidableEq Waiter] in
/-- A thread goes on: what it owed it has told or still owes, and it gives up a pass only while nobody starts. -/
theorem Hears.setCall (hears : n.Hears events) (begun : call.Begun n.log.length)
    (owes : ∀ trigger registered bit, n.waitings.lookup trigger = some registered →
      (events registered.waiter).asks bit = true → (n.calls thread).Owes trigger bit →
        call.Owes trigger bit ∨ n.Told registered.waiter registered.began bit)
    (gives : ∀ bit, n.calls thread = .trigger bit → ∀ other, ¬ (n.calls other).Locks)
    (reads : ∀ unread trigger waiter began, call = .starting unread trigger waiter began → ∀ bit, bit ∉ unread →
      (events waiter).asks bit = true → n.flag bit = true →
        n.Told waiter began bit ∨ ∃ other, other ≠ thread ∧ n.calls other = .trigger bit) :
    (n.setCall thread call).Hears events := by
  constructor
  · intro other
    by_cases same : other = thread
    · subst same
      rw [setCall_self]
      exact begun
    · rw [setCall_of_ne _ _ same]
      exact hears.begun other
  · exact hears.marks
  · intro trigger registered found bit asks set
    rcases hears.told trigger registered found bit asks set with told | ⟨other, pending⟩
    · exact .inl told
    · by_cases same : other = thread
      · subst same
        refine (owes trigger registered bit found asks pending).symm.imp_right fun pending => ⟨other, ?_⟩
        rw [setCall_self]
        exact pending
      · refine .inr ⟨other, ?_⟩
        rw [setCall_of_ne _ _ same]
        exact pending
  · intro starter unread trigger waiter began calls bit done asks set
    by_cases same : starter = thread
    · subst same
      rw [setCall_self] at calls
      refine (reads unread trigger waiter began calls bit done asks set).imp_right ?_
      rintro ⟨other, differs, pending⟩
      exact ⟨other, (setCall_of_ne _ _ differs).trans pending⟩
    · rw [setCall_of_ne _ _ same] at calls
      refine (hears.read starter unread trigger waiter began calls bit done asks set).imp_right ?_
      rintro ⟨other, pending⟩
      refine ⟨other, (setCall_of_ne _ _ ?_).trans pending⟩
      rintro rfl
      exact gives bit pending starter (calls ▸ trivial)

omit [DecidableEq Waiter] in
/-- A thread that owes nothing goes on. -/
theorem Hears.goes (hears : n.Hears events) {before : EventCall Trigger Waiter} (begun : call.Begun n.log.length)
    (calls : n.calls thread = before) (clear : before.Clear)
    (reads : ∀ unread trigger waiter began, call ≠ .starting unread trigger waiter began) :
    (n.setCall thread call).Hears events := by
  subst calls
  apply hears.setCall begun
  · intro trigger _ bit _ _ owes
    exact absurd owes (clear.not_owes trigger bit)
  · intro bit calls
    rw [calls] at clear
    exact clear.elim
  · intro unread trigger waiter began starts
    exact absurd starts (reads unread trigger waiter began)

omit [DecidableEq Thread] [DecidableEq Waiter] in
/-- A flag is written by a thread that then owes the pass. -/
theorem Hears.write (hears : n.Hears events) (pending : n.calls thread = .trigger bit) {readable writable : Bool}
    {error quicErrorCode : Int}
    (keeps : ∀ other, other ≠ bit → flag { n with readable, writable, error, quicErrorCode } other = n.flag other) :
    Hears events { n with readable, writable, error, quicErrorCode } := by
  constructor
  · exact hears.begun
  · exact hears.marks
  · intro trigger registered found other asks set
    by_cases same : other = bit
    · refine .inr ⟨thread, ?_⟩
      dsimp only
      rw [pending]
      exact same.symm
    · rw [keeps other same] at set
      exact hears.told trigger registered found other asks set
  · intro starter unread trigger waiter began calls other done asks set
    by_cases same : other = bit
    · exact .inr ⟨thread, same ▸ pending⟩
    · rw [keeps other same] at set
      exact hears.read starter unread trigger waiter began calls other done asks set

omit [DecidableEq Thread] [DecidableEq Waiter] in
/-- A waiter that has read all flags enters the map. -/
theorem Hears.enlist (hears : n.Hears events) (calls : n.calls thread = .starting [] trigger waiter began) :
    (n.enlist trigger waiter began).Hears events := by
  have grown : Hears events { n with mtx := none, log := .started trigger waiter :: n.log } :=
    hears.grow [.started trigger waiter]
  constructor
  · exact grown.begun
  · intro other registered found
    by_cases same : other = trigger
    · subst same
      have made := grown.begun thread
      dsimp only at made
      rw [calls] at made
      rw [SharedEvent.enlist, AList.lookup_insert] at found
      cases found
      exact made
    · rw [SharedEvent.enlist, AList.lookup_insert_ne same] at found
      exact grown.marks other registered found
  · intro other registered found bit asks set
    by_cases same : other = trigger
    · subst same
      rw [SharedEvent.enlist, AList.lookup_insert] at found
      cases found
      refine (grown.read thread [] other waiter began calls bit List.not_mem_nil asks set).imp_right ?_
      rintro ⟨writer, pending⟩
      refine ⟨writer, ?_⟩
      rw [SharedEvent.enlist, pending]
      rfl
    · rw [SharedEvent.enlist, AList.lookup_insert_ne same] at found
      exact grown.told other registered found bit asks set
  · exact grown.read

omit [DecidableEq Thread] in
theorem visit_told {registered : Registered Waiter} (found : n.waitings.lookup trigger = some registered)
    (asks : (events registered.waiter).asks bit = true) (made : registered.began ≤ n.log.length) :
    (n.visit events trigger bit).Told registered.waiter registered.began bit := by
  have visits : (n.visit events trigger bit).log =
      [.triggered trigger bit, .set registered.waiter bit] ++ n.log := by
    rw [visit, found]
    dsimp only
    rw [if_pos asks]
    rfl
  rw [Told, visits, recordedSince_append made]
  simp

omit [DecidableEq Thread] [DecidableEq Trigger] in
theorem readFlag_told (asks : (events waiter).asks bit = true) (set : n.flag bit = true) (made : began ≤ n.log.length) :
    (n.readFlag events waiter bit).Told waiter began bit := by
  have reads : (n.readFlag events waiter bit).log = [.set waiter bit] ++ n.log := by
    rw [readFlag, asks, set]
    rfl
  rw [Told, reads, recordedSince_append made]
  simp

theorem Hears.move (hears : n.Hears events) (exclusive : n.Exclusive) (moves : Moves events n next) :
    next.Hears events := by
  cases moves with
  | goes leaves enters begun =>
    refine hears.goes begun rfl leaves.clear fun unread trigger waiter began starts => ?_
    rw [starts] at enters
    exact enters
  | @writes thread bit readable writable error quicErrorCode leaves keeps =>
    have pending : (n.setCall thread (.trigger bit)).Hears events := hears.goes trivial rfl leaves.clear (by simp)
    exact pending.write (setCall_self ..) keeps
  | passes calls free listed =>
    refine (hears.grow []).setCall trivial ?_ (fun _ _ => exclusive.not_locks free) (by simp)
    intro trigger registered other found asks owes
    dsimp only at owes
    rw [calls] at owes
    have member : trigger ∈ n.waitings.keys := AList.mem_keys.mp (AList.lookup_isSome.mp (Option.isSome_of_mem found))
    exact .inl ⟨owes, listed.mem_iff.mpr member⟩
  | @visits thread bit trigger rest calls =>
    obtain ⟨revents, newer, same⟩ := visit_frame events n trigger bit
    have grown : (n.visit events trigger bit).Hears events := same ▸ hears.grow newer
    have before : (n.visit events trigger bit).calls thread = .passing bit (trigger :: rest) := by
      rw [same]
      exact calls
    refine grown.setCall trivial ?_ (fun other pending => ?_) (by simp)
    · intro other registered asked found asks owes
      rw [same] at found
      rw [before] at owes
      obtain ⟨rfl, member⟩ := owes
      rcases List.mem_cons.mp member with rfl | member
      · exact .inr (visit_told found asks (hears.marks other registered found))
      · exact .inl ⟨rfl, member⟩
    · cases before.symm.trans pending
  | passed calls => exact (hears.grow []).goes trivial calls rfl (by simp)
  | @starts thread trigger waiter began calls free isOpen =>
    have begun := hears.begun thread
    rw [calls] at begun
    refine (hears.grow []).setCall begun ?_ (fun _ _ => exclusive.not_locks free) ?_
    · intro other registered bit found asks owes
      dsimp only at owes
      rw [calls] at owes
      cases owes
    · intro unread other reader since starts bit done
      cases starts
      cases bit <;> simp at done
  | @reads thread bit unread trigger waiter began calls =>
    obtain ⟨revents, newer, same⟩ := readFlag_frame events n waiter bit
    have grown : (n.readFlag events waiter bit).Hears events := same ▸ hears.grow newer
    have before : (n.readFlag events waiter bit).calls thread = .starting (bit :: unread) trigger waiter began := by
      rw [same]
      exact calls
    have begun := grown.begun thread
    rw [before] at begun
    refine grown.setCall begun ?_ (fun other pending => ?_) ?_
    · intro other registered asked found asks owes
      rw [before] at owes
      cases owes
    · cases before.symm.trans pending
    · intro still other reader since starts asked done asks set
      cases starts
      by_cases now : asked = bit
      · subst now
        have made := hears.begun thread
        rw [calls] at made
        rw [same] at set
        exact .inl (readFlag_told asks set made)
      · -- a flag read before: whoever has written it since then is not this thread
        have unseen : asked ∉ bit :: unread := fun member => (List.mem_cons.mp member).elim now done
        refine (grown.read thread _ trigger waiter began before asked unseen asks set).imp_right ?_
        rintro ⟨writer, pending⟩
        refine ⟨writer, ?_, pending⟩
        rintro rfl
        cases before.symm.trans pending
  | enlists calls => exact (hears.enlist calls).goes trivial calls trivial (by simp)
  | @stops thread trigger calls free =>
    refine Hears.goes (hears.shrink ?_) trivial calls trivial (by simp)
    intro other registered found
    by_cases same : other = trigger
    · subst same
      rw [AList.lookup_erase] at found
      cases found
    · rwa [AList.lookup_erase_ne same] at found
  | marks calls free => exact (hears.grow []).goes trivial calls trivial (by simp)
  | clears calls =>
    refine Hears.goes (Hears.shrink (hears.grow [.cleared]) ?_) trivial calls trivial (by simp)
    intro trigger registered found
    cases found
  | finds leaves closed => exact (hears.grow [.cleared]).goes trivial rfl leaves.clear (by simp)
  | takes => exact hears.grow [_]
  | rests => exact hears

/-! ## After `ClearWaitingsByClose` -/

/-- Once `closeTrigger_` is set there is nobody to trigger, and nobody registers. -/
structure Quiet (n : SharedEvent Thread Trigger Waiter) : Prop where
  waitings : n.closeTrigger = true → n.waitings = ∅ ∨ ∃ thread, n.calls thread = .clearing
  fits : ∀ thread, (n.calls thread).Fits n.closeTrigger
  cleared : .cleared ∈ n.log → n.closeTrigger = true
  after : n.log.Pairwise fun later earlier => earlier = .cleared → ¬ later.Rouses

omit [DecidableEq Thread] [DecidableEq Trigger] [DecidableEq Waiter] in
theorem quiet_init : ({} : SharedEvent Thread Trigger Waiter).Quiet := by
  constructor
  · intro closed
    cases closed
  · intro thread
    trivial
  · intro member
    cases member
  · exact .nil

omit [DecidableEq Thread] [DecidableEq Trigger] [DecidableEq Waiter] in
/-- A record that rouses somebody is made only while `closeTrigger_` is clear. -/
theorem Quiet.record (quiet : n.Quiet) {record : EventRecord Trigger Waiter} {revents : Waiter → PollMask}
    (isOpen : record.Rouses → n.closeTrigger = false) (closed : record = .cleared → n.closeTrigger = true) :
    Quiet { n with revents, log := record :: n.log } := by
  constructor
  · exact quiet.waitings
  · exact quiet.fits
  · intro member
    rcases List.mem_cons.mp member with same | member
    · exact closed same.symm
    · exact quiet.cleared member
  · refine List.pairwise_cons.mpr ⟨?_, quiet.after⟩
    rintro earlier member rfl rouses
    have shut := quiet.cleared member
    rw [isOpen rouses] at shut
    cases shut

omit [DecidableEq Trigger] [DecidableEq Waiter] in
/-- A thread other than the one that clears the map goes on. -/
theorem Quiet.setCall (quiet : n.Quiet) (fits : call.Fits n.closeTrigger)
    (leaves : n.calls thread = .clearing → n.waitings = ∅) : (n.setCall thread call).Quiet := by
  constructor
  · intro closed
    rcases quiet.waitings closed with empty | ⟨other, clearing⟩
    · exact .inl empty
    · by_cases same : other = thread
      · subst same
        exact .inl (leaves clearing)
      · exact .inr ⟨other, (setCall_of_ne _ _ same).trans clearing⟩
  · intro other
    by_cases same : other = thread
    · subst same
      rw [setCall_self]
      exact fits
    · rw [setCall_of_ne _ _ same]
      exact quiet.fits other
  · exact quiet.cleared
  · exact quiet.after

omit [DecidableEq Thread] [DecidableEq Trigger] [DecidableEq Waiter] in
theorem Quiet.isOpen_of_starting (quiet : n.Quiet) {unread : List PollBit}
    (calls : n.calls thread = .starting unread trigger waiter began) : n.closeTrigger = false := by
  have fits := quiet.fits thread
  rw [calls] at fits
  exact fits

omit [DecidableEq Thread] [DecidableEq Trigger] [DecidableEq Waiter] in
theorem Quiet.isOpen_of_passing (quiet : n.Quiet) {rest : List Trigger}
    (calls : n.calls thread = .passing bit (trigger :: rest)) : n.closeTrigger = false := by
  have fits := quiet.fits thread
  rw [calls] at fits
  apply Bool.eq_false_iff.mpr
  intro closed
  cases fits closed

omit [DecidableEq Thread] [DecidableEq Trigger] [DecidableEq Waiter] in
/-- What `Quiet` does not look at. -/
theorem Quiet.frame (quiet : n.Quiet) {readable writable : Bool} {error quicErrorCode : Int} {mtx : Option Thread} :
    Quiet { n with readable, writable, error, quicErrorCode, mtx } :=
  ⟨quiet.waitings, quiet.fits, quiet.cleared, quiet.after⟩

omit [DecidableEq Thread] [DecidableEq Trigger] [DecidableEq Waiter] in
/-- While `closeTrigger_` is clear, waiters come and go. -/
theorem Quiet.of_isOpen (quiet : n.Quiet) (isOpen : n.closeTrigger = false)
    {waitings : AList fun _ : Trigger => Registered Waiter} : Quiet { n with waitings } := by
  constructor
  · intro closed
    cases isOpen.symm.trans closed
  · exact quiet.fits
  · exact quiet.cleared
  · exact quiet.after

omit [DecidableEq Thread] in
theorem Quiet.visit (quiet : n.Quiet) (isOpen : n.closeTrigger = false) (trigger : Trigger) (bit : PollBit) :
    (n.visit events trigger bit).Quiet := by
  unfold SharedEvent.visit
  split
  · exact quiet
  · next registered found =>
    split
    · exact (quiet.record (fun _ => isOpen) (fun same => by cases same)).record (fun _ => isOpen)
        (fun same => by cases same)
    · exact quiet

omit [DecidableEq Thread] [DecidableEq Trigger] in
theorem Quiet.readFlag (quiet : n.Quiet) (isOpen : n.closeTrigger = false) (waiter : Waiter) (bit : PollBit) :
    (n.readFlag events waiter bit).Quiet := by
  unfold SharedEvent.readFlag
  split
  · exact quiet.record (fun _ => isOpen) (fun same => by cases same)
  · exact quiet

omit [DecidableEq Thread] [DecidableEq Trigger] [DecidableEq Waiter] in
/-- With `mtx_` free a closed event has no waiters. -/
theorem Quiet.empty_of_free (quiet : n.Quiet) (exclusive : n.Exclusive) (free : n.mtx = none)
    (closed : n.closeTrigger = true) : n.waitings = ∅ := by
  rcases quiet.waitings closed with empty | ⟨thread, clearing⟩
  · exact empty
  · exact absurd (clearing ▸ trivial) (exclusive.not_locks free thread)

omit [DecidableEq Thread] [DecidableEq Waiter] in
theorem Quiet.stop (quiet : n.Quiet) (exclusive : n.Exclusive) (free : n.mtx = none) (trigger : Trigger) :
    Quiet { n with waitings := n.waitings.erase trigger } := by
  refine ⟨fun closed => .inl ?_, quiet.fits, quiet.cleared, quiet.after⟩
  dsimp only
  rw [quiet.empty_of_free exclusive free closed]
  rfl

omit [DecidableEq Trigger] [DecidableEq Waiter] in
/-- `closeTrigger_` is set while nobody else holds `mtx_`. -/
theorem Quiet.mark (quiet : n.Quiet) (exclusive : n.Exclusive) (free : n.mtx = none) :
    ({ n with closeTrigger := true, mtx := some thread }.setCall thread .clearing).Quiet := by
  refine ⟨fun _ => .inr ⟨thread, setCall_self ..⟩, ?_, fun _ => rfl, quiet.after⟩
  intro other
  by_cases same : other = thread
  · subst same
    rw [setCall_self]
    rfl
  · rw [setCall_of_ne _ _ same]
    exact EventCall.fits_of_not_locks (exclusive.not_locks free other) true

omit [DecidableEq Thread] [DecidableEq Trigger] [DecidableEq Waiter] in
/-- `ClearWaitingsByClose` returns. -/
theorem Quiet.noteCleared (quiet : n.Quiet) (closed : n.closeTrigger = true) :
    Quiet { n with log := .cleared :: n.log } :=
  quiet.record (fun rouses => rouses.elim) fun _ => closed

omit [DecidableEq Thread] [DecidableEq Trigger] [DecidableEq Waiter] in
/-- `waitings_` is emptied by a thread that has set `closeTrigger_`. -/
theorem Quiet.clear (quiet : n.Quiet) (closed : n.closeTrigger = true) :
    Quiet { n with waitings := ∅, log := .cleared :: n.log } :=
  have noted := quiet.noteCleared closed
  ⟨fun _ => .inl rfl, noted.fits, noted.cleared, noted.after⟩

theorem Quiet.move (quiet : n.Quiet) (exclusive : n.Exclusive) (moves : Moves events n next) : next.Quiet := by
  cases moves with
  | goes leaves enters begun =>
    refine quiet.setCall (EventCall.fits_of_not_locks enters.not_locks _) fun clearing => ?_
    rw [clearing] at leaves
    cases leaves
  | writes leaves keeps =>
    refine quiet.frame.setCall trivial fun clearing => ?_
    rw [clearing] at leaves
    cases leaves
  | passes calls free listed =>
    refine quiet.frame.setCall (fun closed => ?_) fun clearing => ?_
    · rw [quiet.empty_of_free exclusive free closed] at listed
      exact listed.eq_nil
    · cases calls.symm.trans clearing
  | @visits thread bit trigger rest calls =>
    have isOpen := quiet.isOpen_of_passing calls
    obtain ⟨revents, newer, same⟩ := visit_frame events n trigger bit
    refine (quiet.visit isOpen trigger bit).setCall (fun closed => ?_) fun clearing => ?_
    · rw [same] at closed
      cases isOpen.symm.trans closed
    · rw [same] at clearing
      cases calls.symm.trans clearing
  | passed calls => exact quiet.frame.setCall trivial fun clearing => by cases calls.symm.trans clearing
  | starts calls free isOpen => exact quiet.frame.setCall isOpen fun clearing => by cases calls.symm.trans clearing
  | @reads thread bit unread trigger waiter began calls =>
    have isOpen := quiet.isOpen_of_starting calls
    obtain ⟨revents, newer, same⟩ := readFlag_frame events n waiter bit
    refine (quiet.readFlag isOpen waiter bit).setCall ?_ fun clearing => ?_
    · rw [same]
      exact isOpen
    · rw [same] at clearing
      cases calls.symm.trans clearing
  | @enlists thread trigger waiter began calls =>
    have isOpen := quiet.isOpen_of_starting calls
    have recorded : Quiet { n with log := .started trigger waiter :: n.log } :=
      quiet.record (fun _ => isOpen) fun same => by cases same
    exact (recorded.of_isOpen isOpen).frame.setCall trivial fun clearing => by cases calls.symm.trans clearing
  | @stops thread trigger calls free =>
    exact (quiet.stop exclusive free trigger).setCall trivial fun clearing => by cases calls.symm.trans clearing
  | marks calls free => exact quiet.mark exclusive free
  | @clears thread calls =>
    have closed := quiet.fits thread
    rw [calls] at closed
    exact (quiet.clear closed).frame.setCall trivial fun _ => rfl
  | finds leaves closed =>
    refine (quiet.noteCleared closed).setCall trivial fun clearing => ?_
    rw [clearing] at leaves
    cases leaves
  | takes =>
    refine quiet.record (fun rouses => ?_) fun same => ?_
    · cases rouses
    · cases same
  | rests => exact quiet

/-! ## The bits themselves -/

/-- The bit has been set and not been taken since. -/
def Pending (log : List (EventRecord Trigger Waiter)) (waiter : Waiter) (bit : PollBit) : Prop :=
  Since (· = .set waiter bit) (fun record => ∃ mask, record = .taken waiter mask ∧ mask.has bit = true) log

/-- `revents` is what the history says. -/
def Recorded (n : SharedEvent Thread Trigger Waiter) : Prop :=
  ∀ waiter bit, (n.revents waiter).has bit = true ↔ Pending n.log waiter bit

omit [DecidableEq Thread] [DecidableEq Trigger] [DecidableEq Waiter] in
theorem recorded_init : Recorded ({} : SharedEvent Thread Trigger Waiter) := by
  intro waiter bit
  constructor
  · intro has
    cases bit <;> cases has
  · rintro ⟨newer, record, older, split, -⟩
    cases newer <;> cases split

omit [DecidableEq Thread] [DecidableEq Trigger] in
theorem Recorded.setBit (recorded : n.Recorded) (waiter : Waiter) (bit : PollBit) : (n.setBit waiter bit).Recorded := by
  intro other asked
  rw [SharedEvent.setBit, Pending, since_cons, ← Pending, ← recorded other asked]
  dsimp only
  by_cases same : other = waiter
  · subst same
    rw [Function.update_self, PollMask.has_set, Bool.or_eq_true, decide_eq_true_iff]
    simp [or_comm]
  · rw [Function.update_of_ne same]
    simp [Ne.symm same]

omit [DecidableEq Thread] [DecidableEq Trigger] [DecidableEq Waiter] in
theorem Recorded.note (recorded : n.Recorded) {record : EventRecord Trigger Waiter}
    (sets : ∀ waiter bit, record ≠ .set waiter bit) (takes : ∀ waiter mask, record ≠ .taken waiter mask) :
    Recorded { n with log := record :: n.log } := by
  intro waiter bit
  rw [recorded waiter bit, Pending, Pending, since_cons]
  simp [sets waiter bit, takes waiter]

omit [DecidableEq Thread] [DecidableEq Trigger] in
theorem Recorded.take (recorded : n.Recorded) (waiter : Waiter) (mask : PollMask) :
    Recorded { n with
      revents := Function.update n.revents waiter ((n.revents waiter).diff mask)
      log := .taken waiter mask :: n.log } := by
  intro other bit
  rw [Pending, since_cons, ← Pending, ← recorded other bit]
  dsimp only
  by_cases same : other = waiter
  · subst same
    rw [Function.update_self, PollMask.has_diff]
    simp [and_comm]
  · rw [Function.update_of_ne same]
    simp [Ne.symm same]

theorem Recorded.move (recorded : n.Recorded) (moves : Moves events n next) : next.Recorded := by
  cases moves with
  | @visits thread bit trigger rest calls =>
    change (n.visit events trigger bit).Recorded
    unfold SharedEvent.visit
    split
    · exact recorded
    · next registered found =>
      split
      · exact (recorded.setBit registered.waiter bit).note (by simp) (by simp)
      · exact recorded
  | @reads thread bit unread trigger waiter began calls =>
    change (n.readFlag events waiter bit).Recorded
    unfold SharedEvent.readFlag
    split
    · exact recorded.setBit waiter bit
    · exact recorded
  | enlists calls => exact recorded.note (by simp) (by simp)
  | clears calls => exact recorded.note (by simp) (by simp)
  | finds leaves closed => exact recorded.note (by simp) (by simp)
  | takes => exact recorded.take _ _
  | goes | writes | passes | passed | starts | stops | marks | rests => exact recorded

/-! ## Runs -/

structure Sound (events : Waiter → PollMask) (n : SharedEvent Thread Trigger Waiter) : Prop where
  exclusive : n.Exclusive
  hears : n.Hears events
  quiet : n.Quiet
  recorded : n.Recorded

theorem reachable_sound (run : (system Thread Trigger events).Reachable {} n) : n.Sound events := by
  refine run.invariant ⟨fun _ locks => locks.elim, hears_init, quiet_init, recorded_init⟩ ?_
  intro before action after sound admitted stepped
  cases stepped
  have moves : Moves events before (before.step events action) := step_moves admitted
  exact ⟨sound.exclusive.move moves, sound.hears.move sound.exclusive moves, sound.quiet.move sound.exclusive moves,
    sound.recorded.move moves⟩

section Uninterrupted

variable {w after : World} {entry : EntryPtr} {e : EpollerId} {fd : Fd} {trigger : Trigger} {waiter : Waiter}
  {began : Nat}

/-- The event and the registration of the world, as the thread finds them. -/
structure Mirrors (events : Waiter → PollMask) (w : World) (entry : EntryPtr) (e : EpollerId) (fd : Fd)
    (waiter : Waiter) (n : SharedEvent Thread Trigger Waiter) : Prop where
  closeTrigger : n.closeTrigger = (w.event entry).closeTrigger
  readable : n.readable = (w.event entry).readable
  writable : n.writable = (w.event entry).writable
  error : (n.error != 0) = (w.event entry).error.isSome
  mask : events waiter = ((w.epollers e).qev fd).events
  revents : n.revents waiter = ((w.epollers e).qev fd).revents

/-- Without other threads in between, `StartWait` refuses when `World.startWait` does. -/
theorem Mirrors.refused (mirrors : Mirrors events w entry e fd waiter n)
    (calls : n.calls thread = .startWait trigger waiter began) (refused : w.startWait entry e fd = none) :
    n.advance events thread = n.setCall thread .idle := by
  have closed : n.closeTrigger = true := mirrors.closeTrigger.trans (World.startWait_eq_none_iff.mp refused)
  rw [SharedEvent.advance, calls]
  exact if_pos closed

/-- What `StartWait` adds to `revents` when it finds these flags. -/
def addReady (mask : PollMask) (flag : PollBit → Bool) (revents : PollMask) (bit : PollBit) : PollMask :=
  if mask.asks bit && flag bit then revents.set bit else revents

theorem addReady_all (mask : PollMask) (flag : PollBit → Bool) (revents : PollMask) :
    [.pollin, .pollout, .pollerr].foldl (addReady mask flag) revents =
      { pollin := revents.pollin || (mask.pollin && flag .pollin)
        pollout := revents.pollout || (mask.pollout && flag .pollout)
        pollerr := revents.pollerr || flag .pollerr } := by
  have pollin : addReady mask flag revents .pollin =
      { revents with pollin := revents.pollin || (mask.pollin && flag .pollin) } := by
    cases asked : mask.pollin <;> cases set : flag .pollin <;>
      simp [addReady, PollMask.asks, PollMask.set, PollMask.has, asked, set]
  have pollout : ∀ revents, addReady mask flag revents .pollout =
      { revents with pollout := revents.pollout || (mask.pollout && flag .pollout) } := by
    intro revents
    cases asked : mask.pollout <;> cases set : flag .pollout <;>
      simp [addReady, PollMask.asks, PollMask.set, PollMask.has, asked, set]
  have pollerr : ∀ revents, addReady mask flag revents .pollerr =
      { revents with pollerr := revents.pollerr || flag .pollerr } := by
    intro revents
    cases set : flag .pollerr <;> simp [addReady, PollMask.asks, PollMask.set, PollMask.has, set]
  rw [List.foldl_cons, List.foldl_cons, List.foldl_cons, List.foldl_nil, pollin, pollout, pollerr]

omit [DecidableEq Thread] [DecidableEq Trigger] in
theorem readFlag_revents (n : SharedEvent Thread Trigger Waiter) (waiter : Waiter) (bit : PollBit) :
    (n.readFlag events waiter bit).revents waiter = addReady (events waiter) n.flag (n.revents waiter) bit := by
  unfold readFlag addReady
  split
  · exact Function.update_self ..
  · rfl

variable (events) in
theorem advance_starting (unread : List PollBit) (calls : n.calls thread = .starting unread trigger waiter began) :
    ((·.advance events thread)^[unread.length + 1] n).calls thread = .idle ∧
      ((·.advance events thread)^[unread.length + 1] n).waitings.lookup trigger = some ⟨waiter, began⟩ ∧
      ((·.advance events thread)^[unread.length + 1] n).revents waiter =
        unread.foldl (addReady (events waiter) n.flag) (n.revents waiter) := by
  induction unread generalizing n with
  | nil =>
    have enlists : n.advance events thread = (n.enlist trigger waiter began).setCall thread .idle := by
      rw [SharedEvent.advance, calls]
    rw [List.length_nil, Function.iterate_one, enlists]
    exact ⟨setCall_self .., AList.lookup_insert _, rfl⟩
  | cons bit unread ih =>
    have reads : n.advance events thread =
        (n.readFlag events waiter bit).setCall thread (.starting unread trigger waiter began) := by
      rw [SharedEvent.advance, calls]
    obtain ⟨revents, newer, same⟩ := readFlag_frame events n waiter bit
    have flags : (n.advance events thread).flag = n.flag := by
      rw [reads, same]
      rfl
    have rest := ih (reads ▸ setCall_self ..)
    rw [flags] at rest
    refine ⟨rest.1, rest.2.1, rest.2.2.trans ?_⟩
    rw [List.foldl_cons, ← readFlag_revents, reads]
    rfl

/-- Without other threads in between, `StartWait` does what `World.startWait` does. -/
theorem Mirrors.started (mirrors : Mirrors events w entry e fd waiter n)
    (calls : n.calls thread = .startWait trigger waiter began) (started : w.startWait entry e fd = some after) :
    ((·.advance events thread)^[5] n).calls thread = .idle ∧
      ((·.advance events thread)^[5] n).waitings.lookup trigger = some ⟨waiter, began⟩ ∧
      ((·.advance events thread)^[5] n).revents waiter = ((after.epollers e).qev fd).revents := by
  have isOpen : ¬ n.closeTrigger = true := by
    intro closed
    rw [World.startWait_eq_none_iff.mpr (mirrors.closeTrigger ▸ closed)] at started
    cases started
  have begins : n.advance events thread = { n with mtx := some thread }.setCall thread
      (.starting [.pollin, .pollout, .pollerr] trigger waiter began) := by
    rw [SharedEvent.advance, calls]
    exact if_neg isOpen
  have starting : (n.advance events thread).calls thread = _ := begins ▸ setCall_self ..
  have flags : (n.advance events thread).flag = n.flag ∧ (n.advance events thread).revents = n.revents := by
    rw [begins]
    exact ⟨rfl, rfl⟩
  obtain ⟨idle, found, revents⟩ := advance_starting events _ starting
  refine ⟨idle, found, revents.trans ?_⟩
  rw [flags.1, flags.2, mirrors.revents, mirrors.mask, World.startWait_revents started, addReady_all]
  simp only [flag, mirrors.readable, mirrors.writable, mirrors.error]

end Uninterrupted

end SharedEvent

end PosixQuic
