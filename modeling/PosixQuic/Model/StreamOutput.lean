import PosixQuic.Model.StreamEntry

/-! # The send side of a stream entry

`QuicStreamEntry::Writev` hands its iovecs to `QuicStream::WritevData` of libquic and folds what that accepted,
a number of bytes and possibly the FIN, into one signed result. `WritevData` is modelled up to its answer: what
it saves in the send buffer and writes to the network does not come back to the caller.
-/

namespace PosixQuic

/-- Conversion of a `size_t` to `ssize_t`. -/
def ssizeOfSize (n : Nat) : Int := (BitVec.ofNat 64 n).toInt

theorem ssizeOfSize_eq_self {n : Nat} (small : n < 2 ^ 63) : ssizeOfSize n = n := by
  simp only [ssizeOfSize, BitVec.toInt, BitVec.toNat_ofNat]
  split <;> omega

/-- What a stream accepted of one write. -/
structure QuicConsumedData where
  bytesConsumed : Nat
  finConsumed : Bool
deriving DecidableEq, Repr

/-- `kMaxStreamLength`. -/
def maxStreamLength : Nat := 2 ^ 62 - 1

/-- The members of libquic's `QuicStream` that `WritevData` looks at, and the flag that it reads. -/
structure QuicStream where
  writeSideClosed : Bool := false
  finBuffered : Bool := false
  streamOffset : Nat := 0
  bufferedDataBytes : Nat := 0
  bufferedDataThreshold : Nat
  quicStreamTooLong : Bool := false
deriving DecidableEq, Repr

namespace QuicStream

def canWriteNewData (stream : QuicStream) : Bool := stream.bufferedDataBytes < stream.bufferedDataThreshold

/-- The `size_t` sum of the first `iovCount` lengths. -/
def writeLength (iov : List Nat) (iovCount : Int) : Nat := (iov.take iovCount.toNat).sum % 2 ^ 64

/-- The subtraction is one of `uint64_t`. -/
def writesTooMuch (stream : QuicStream) (length : Nat) : Bool :=
  stream.quicStreamTooLong && (BitVec.ofNat 64 maxStreamLength - BitVec.ofNat 64 stream.streamOffset).toNat < length

def writevData (stream : QuicStream) (iov : List Nat) (iovCount : Int) (fin : Bool) : QuicConsumedData :=
  if stream.writeSideClosed then ⟨0, false⟩
  else
    let length := writeLength iov iovCount
    if stream.finBuffered then ⟨0, false⟩
    else if stream.writesTooMuch length then ⟨0, false⟩
    else
      let bytesConsumed := if stream.canWriteNewData then length else 0
      ⟨bytesConsumed, bytesConsumed = length && fin⟩

end QuicStream

/-- What one `Writev` returns, and what the stream below it accepted. -/
structure WriteOutcome where
  result : CallResult
  accepted : QuicConsumedData
deriving DecidableEq, Repr

/-- `Writev` over iovecs of the given lengths; `stream` is what `GetQuartcStream` finds. The count of the iovecs
is passed on as an `int`. -/
def QuicStreamEntry.writev (entry : QuicStreamEntry) (stream : QuicStream) (iov : List Nat) (fin : Bool) :
    WriteOutcome :=
  match entry.error with
  | some err => ⟨.fail err, 0, false⟩
  | none =>
    if !entry.quartcOpen then ⟨.fail .ebadf, 0, false⟩
    else
      let resData := stream.writevData iov (intOfSize iov.length) fin
      if resData.bytesConsumed = 0 then ⟨.fail .eagain, resData⟩
      else ⟨⟨ssizeOfSize resData.bytesConsumed, none⟩, resData⟩

end PosixQuic
