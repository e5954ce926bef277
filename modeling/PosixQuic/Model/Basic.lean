import Mathlib.Data.List.Basic
import Mathlib.Data.BitVec

/-! # Shared vocabulary of the descriptor layer

Descriptors, UDP sockets and results are the C integers of the library. Heap objects are named by
the order of their creation, so a recycled descriptor never renames an object. The poll masks keep
the three bits that `Epoll2Poll` lets through; `Event` is the readiness state every socket and
stream entry carries, with the epollers whose triggers wait on it.
-/

namespace PosixQuic

/-- `int` descriptors of QUIC sockets and streams; `-1` is the invalid one. -/
abbrev Fd := Int

/-- A UDP descriptor of the operating system. -/
abbrev UdpSocket := Int

abbrev QuicConnectionId := UInt64

/-- `QuicConnectionId(-1)`. -/
def invalidQuicConnectionId : QuicConnectionId := 0xFFFFFFFFFFFFFFFF

/-- Creation order of a `QuicSocketEntry`. -/
abbrev SocketId := Nat

/-- Creation order of a `QuicStreamEntry`. -/
abbrev StreamId := Nat

/-- Creation order of a `QuicEpollerEntry`; it also names the epoller's trigger and task runner. -/
abbrev EpollerId := Nat

/-- The values of `errno` the library sets or receives. -/
inductive Errno where
  | eagain | ealready | ebadf | ebusy | eexist | einprogress | einval | enoent | enospc | enotconn
  | eshutdown
deriving DecidableEq, Repr

/-- What a call leaves in its return register and in `errno`; `none` is `errno = 0`. -/
structure CallResult where
  value : Int
  errno : Option Errno := none
deriving DecidableEq, Repr

namespace CallResult

def ok : CallResult := ⟨0, none⟩

def fail (errno : Errno) : CallResult := ⟨-1, some errno⟩

end CallResult

/-- Conversion of a `size_t` to `int` on the supported targets. -/
def intOfSize (n : Nat) : Int := (BitVec.ofNat 32 n).toInt

theorem intOfSize_nonneg_iff (n : Nat) : 0 ≤ intOfSize n ↔ n % 2 ^ 32 < 2 ^ 31 := by
  have bound : n % 2 ^ 32 < 2 ^ 32 := Nat.mod_lt _ (by decide)
  simp only [intOfSize, BitVec.toInt, BitVec.toNat_ofNat]
  split <;> omega

theorem intOfSize_eq_self {n : Nat} (small : n < 2 ^ 31) : intOfSize n = n := by
  simp only [intOfSize, BitVec.toInt, BitVec.toNat_ofNat]
  split <;> omega

/-- One poll event, the argument of `Event::Trigger`. -/
inductive PollBit where
  | pollin | pollout | pollerr
deriving DecidableEq, Repr

/-- The bits of a `short int` poll mask that the library uses. -/
structure PollMask where
  pollin : Bool := false
  pollout : Bool := false
  pollerr : Bool := false
deriving DecidableEq, Repr

namespace PollMask

def has (mask : PollMask) : PollBit → Bool
  | .pollin => mask.pollin
  | .pollout => mask.pollout
  | .pollerr => mask.pollerr

def set (mask : PollMask) : PollBit → PollMask
  | .pollin => { mask with pollin := true }
  | .pollout => { mask with pollout := true }
  | .pollerr => { mask with pollerr := true }

def inter (a b : PollMask) : PollMask :=
  ⟨a.pollin && b.pollin, a.pollout && b.pollout, a.pollerr && b.pollerr⟩

def diff (a b : PollMask) : PollMask :=
  ⟨a.pollin && !b.pollin, a.pollout && !b.pollout, a.pollerr && !b.pollerr⟩

theorem has_inter (a b : PollMask) (bit : PollBit) : (a.inter b).has bit = (a.has bit && b.has bit) := by
  cases bit <;> rfl

theorem has_diff (a b : PollMask) (bit : PollBit) : (a.diff b).has bit = (a.has bit && !b.has bit) := by
  cases bit <;> rfl

theorem has_set (mask : PollMask) (bit other : PollBit) :
    (mask.set bit).has other = (mask.has other || decide (bit = other)) := by
  cases bit <;> cases other <;> simp [set, has]

theorem eq_empty_iff (mask : PollMask) : mask = {} ↔ ∀ bit, mask.has bit = false := by
  constructor
  · rintro rfl bit
    cases bit <;> rfl
  · intro unset
    rw [mk.injEq]
    exact ⟨unset .pollin, unset .pollout, unset .pollerr⟩

end PollMask

/-- The state of `Event` and of its base `FdBase`. A waiter's `events` and `revents` are those of
the registration its epoller keeps under this descriptor, so the trigger alone names it. -/
structure Event where
  fd : Fd := 0
  readable : Bool := false
  writable : Bool := false
  closeByPeer : Bool := false
  quicErrorCode : Int := 0
  error : Option Errno := none
  waitings : List EpollerId := []
  closeTrigger : Bool := false
deriving DecidableEq, Repr

namespace Event

/-- `SetError` keeps the first error and triggers only then. -/
def setError (event : Event) (err : Errno) (quicErr : Int) : Event × Option PollBit :=
  match event.error with
  | none => ({ event with error := some err, quicErrorCode := quicErr }, some .pollerr)
  | some _ => (event, none)

def setReadable (event : Event) (b : Bool) : Event × Option PollBit :=
  ({ event with readable := b }, some .pollin)

def setWritable (event : Event) (b : Bool) : Event × Option PollBit :=
  ({ event with writable := b }, some .pollout)

end Event

end PosixQuic
