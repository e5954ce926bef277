import PosixQuic.Machine.IntervalSet
import PosixQuic.Model.Basic

/-! # The send buffer of a stream

`QuicStreamSendBuffer` keeps what the application has written in slices until the peer has acknowledged it. New data
is serialized from the slice under the write index; data that was lost is looked up from the first slice on. Data may
be acknowledged out of order, but slices are dropped in order: the flags that release them earlier are off. The
subtractions of unsigned numbers are those of `Nat`; the code compares first.
-/

namespace PosixQuic

open Machine (IntervalSet)

/-- `quic_stream_too_long` and `FLAGS_quic_send_buffer_max_data_slice_size`. -/
structure SendFlags where
  streamTooLong : Bool := false
  maxDataSliceSize : Nat := 4 * 1024
  maxDataSliceSize_pos : 0 < maxDataSliceSize := by decide

/-- Why the connection gives up on what the stream does. -/
inductive SendFault where
  | danglingWriteIndex
  | outOfSequence
  | missingData
  | ackedUnsentData
  | ackedUnsentFin
  | sentTooMuchData
  | streamLengthOverflow
deriving DecidableEq, Repr

structure BufferedSlice where
  offset : Nat
  data : List UInt8
deriving DecidableEq, Repr

namespace BufferedSlice

def stop (slice : BufferedSlice) : Nat := slice.offset + slice.data.length

end BufferedSlice

/-- `writeIndex` is `none` where the source has `-1`. -/
structure SendBuffer where
  slices : List BufferedSlice := []
  streamOffset : Nat := 0
  streamBytesWritten : Nat := 0
  streamBytesOutstanding : Nat := 0
  writeIndex : Option Nat := none
  bytesAcked : IntervalSet Nat := .empty
  pendingRetransmissions : IntervalSet Nat := .empty
deriving DecidableEq

namespace SendBuffer

/-! ## Saving -/

def saveMemSlice (buffer : SendBuffer) (data : List UInt8) : SendBuffer :=
  if data.isEmpty then buffer
  else
    { buffer with
      slices := buffer.slices ++ [⟨buffer.streamOffset, data⟩]
      writeIndex := buffer.writeIndex.or (some buffer.slices.length)
      streamOffset := buffer.streamOffset + data.length }

/-- The loop of `SaveStreamData`, with a bound on its rounds. -/
def saveSlices (maxDataSliceSize : Nat) : Nat → SendBuffer → List UInt8 → SendBuffer
  | 0, buffer, _ => buffer
  | rounds + 1, buffer, data =>
    if data.isEmpty then buffer
    else saveSlices maxDataSliceSize rounds (buffer.saveMemSlice (data.take maxDataSliceSize)) (data.drop maxDataSliceSize)

/-- `SaveStreamData`. Every round saves a byte. -/
def saveStreamData (flags : SendFlags) (buffer : SendBuffer) (data : List UInt8) : SendBuffer :=
  saveSlices flags.maxDataSliceSize data.length buffer data

def onStreamDataConsumed (buffer : SendBuffer) (bytesConsumed : Nat) : SendBuffer :=
  { buffer with
    streamBytesWritten := buffer.streamBytesWritten + bytesConsumed
    streamBytesOutstanding := buffer.streamBytesOutstanding + bytesConsumed }

/-! ## Serializing -/

/-- What the loop of `WriteStreamData` has written when it ends, how much of the request is left then, and how many
slices it has written to their ends. -/
structure SliceWrite where
  bytes : List UInt8
  left : Nat
  finished : Nat
deriving DecidableEq, Repr

def writeSlices : List BufferedSlice → Nat → Nat → SliceWrite
  | [], _, dataLength => ⟨[], dataLength, 0⟩
  | slice :: rest, offset, dataLength =>
    if dataLength = 0 ∨ offset < slice.offset then ⟨[], dataLength, 0⟩
    else if slice.stop ≤ offset then writeSlices rest offset dataLength
    else
      let sliceOffset := offset - slice.offset
      let availableBytesInSlice := slice.data.length - sliceOffset
      let copyLength := min dataLength availableBytesInSlice
      let later := writeSlices rest (offset + copyLength) (dataLength - copyLength)
      ⟨(slice.data.drop sliceOffset).take copyLength ++ later.bytes, later.left,
        if copyLength = availableBytesInSlice then later.finished + 1 else later.finished⟩

/-- `WriteStreamData`. Only a write that starts in the slice under the write index moves the index. -/
def writeStreamData (buffer : SendBuffer) (offset dataLength : Nat) : Except SendFault (List UInt8 × SendBuffer) :=
  let fromStart : Except SendFault (List UInt8 × SendBuffer) :=
    let written := writeSlices buffer.slices offset dataLength
    if written.left = 0 then .ok (written.bytes, buffer) else .error .missingData
  match buffer.writeIndex with
  | none => fromStart
  | some index =>
    match buffer.slices[index]? with
    | none => .error .danglingWriteIndex
    | some slice =>
      if slice.stop ≤ offset then .error .outOfSequence
      else if slice.offset ≤ offset then
        let written := writeSlices (buffer.slices.drop index) offset dataLength
        let writeIndex := index + written.finished
        if written.left = 0 then
          .ok (written.bytes,
            { buffer with writeIndex := if writeIndex = buffer.slices.length then none else some writeIndex })
        else .error .missingData
      else fromStart

/-! ## Acknowledging -/

/-- The part of the frame that has not been acknowledged before. -/
def newlyAcked (buffer : SendBuffer) (offset dataLength : Nat) : IntervalSet Nat :=
  (IntervalSet.single offset (offset + dataLength)).difference buffer.bytesAcked

/-- Slices are popped from the front while all of their data has been acknowledged. An index of `0` would stay `0`. -/
def popAcked (buffer : SendBuffer) : SendBuffer :=
  let done := fun slice : BufferedSlice => buffer.bytesAcked.contains slice.offset slice.stop
  { buffer with
    slices := buffer.slices.dropWhile done
    writeIndex := buffer.writeIndex.map (· - (buffer.slices.takeWhile done).length) }

/-- `OnStreamDataAcked`: the newly acknowledged length, or `none` for `false`. -/
def onStreamDataAcked (buffer : SendBuffer) (offset dataLength : Nat) : Option (Nat × SendBuffer) :=
  if dataLength = 0 then some (0, buffer)
  else
    let newlyAckedLength := (buffer.newlyAcked offset dataLength).count
    if buffer.streamBytesOutstanding < newlyAckedLength then none
    else
      some (newlyAckedLength, popAcked { buffer with
        streamBytesOutstanding := buffer.streamBytesOutstanding - newlyAckedLength
        bytesAcked := buffer.bytesAcked.add offset (offset + dataLength)
        pendingRetransmissions := buffer.pendingRetransmissions.subtract offset (offset + dataLength) })

/-! ## Losing -/

def onStreamDataLost (buffer : SendBuffer) (offset dataLength : Nat) : SendBuffer :=
  if dataLength = 0 then buffer
  else
    let bytesLost := (IntervalSet.single offset (offset + dataLength)).difference buffer.bytesAcked
    { buffer with
      pendingRetransmissions :=
        bytesLost.intervals.foldl (fun pending lost => pending.add lost.min lost.max) buffer.pendingRetransmissions }

def onStreamDataRetransmitted (buffer : SendBuffer) (offset dataLength : Nat) : SendBuffer :=
  if dataLength = 0 then buffer
  else { buffer with pendingRetransmissions := buffer.pendingRetransmissions.subtract offset (offset + dataLength) }

def hasPendingRetransmission (buffer : SendBuffer) : Bool := !buffer.pendingRetransmissions.isEmpty

/-- Offset and length of the next stretch to send again. -/
def nextPendingRetransmission (buffer : SendBuffer) : Option (Nat × Nat) :=
  buffer.pendingRetransmissions.first?.map fun pending => (pending.min, pending.max - pending.min)

end SendBuffer

end PosixQuic
