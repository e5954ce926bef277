import PosixQuic.Machine.Reachable
import PosixQuic.Model.SequencerBuffer
import PosixQuic.Model.StreamOutput

/-! # The receiving half of a libquic stream

From `QuicStream::OnStreamFrame` through the sequencer and its buffer to the callbacks of `QuartcStream`, which are what
a `QuicStreamEntry` sees. The sides of the stream are closed here as well, because a closed read side drops the buffer
and two closed sides close the stream. The flow controllers only say whether a frame violates them; the sending half
only says when its FIN has been sent. A Quartc stream is never blocked and never level triggered.
-/

namespace PosixQuic

/-- The fields of a `QuicStreamFrame` that the stream reads. -/
structure StreamFrame where
  offset : Nat
  data : List UInt8
  fin : Bool := false
deriving DecidableEq, Repr

/-- `std::numeric_limits<QuicStreamOffset>::max()`, where no FIN has been seen. -/
def maxOffset : Nat := 2 ^ 64 - 1

/-- A stream with its sequencer. `isOpen` says whether it is in the session's `dynamic_stream_map_`; `callbacks` are the
calls of the delegate so far. -/
structure StreamReceiver (layout : BufferLayout) where
  buffer : SequencerBuffer layout := {}
  closeOffset : Nat := maxOffset
  ignoreReadData : Bool := false
  readSideClosed : Bool := false
  writeSideClosed : Bool := false
  finSent : Bool := false
  finReceived : Bool := false
  rstSent : Bool := false
  rstReceived : Bool := false
  isOpen : Bool := true
  connected : Bool := true
  callbacks : List StreamEvent := []

namespace StreamReceiver

variable {layout : BufferLayout}

def notify (stream : StreamReceiver layout) (event : StreamEvent) : StreamReceiver layout :=
  { stream with callbacks := stream.callbacks ++ [event] }

/-- The part of `CloseReadSide` that is done once. -/
def releaseReadSide (stream : StreamReceiver layout) : StreamReceiver layout :=
  if stream.readSideClosed then stream
  else { stream with readSideClosed := true, buffer := stream.buffer.clear }

/-- `QuartcStream::OnClose`. The session has already dropped the stream, so that `CloseReadSide`, `CloseWriteSide` and
`SendRstStream` find nothing to close. -/
def onClose (stream : StreamReceiver layout) : StreamReceiver layout :=
  let closed := { stream.releaseReadSide with writeSideClosed := true }
  let reset := if !closed.finSent && !closed.rstSent then { closed with rstSent := true } else closed
  reset.notify .onClose

/-- `QuicSession::CloseStreamInner`. -/
def closeStreamInner (stream : StreamReceiver layout) (locallyReset : Bool) : StreamReceiver layout :=
  if stream.isOpen then
    onClose { stream with isOpen := false, rstSent := stream.rstSent || locallyReset }
  else stream

/-- `CloseReadSide` releases the buffer, and closes the stream when the write side is closed already. -/
def closeReadSide (stream : StreamReceiver layout) : StreamReceiver layout :=
  if stream.readSideClosed then stream
  else
    let closed := stream.releaseReadSide
    if closed.writeSideClosed then closed.closeStreamInner false else closed

def closeWriteSide (stream : StreamReceiver layout) : StreamReceiver layout :=
  if stream.writeSideClosed then stream
  else
    let closed := { stream with writeSideClosed := true }
    if closed.readSideClosed then closed.closeStreamInner false else closed

/-- `QuicStream::Reset`, by way of `SendRstStream`. -/
def reset (stream : StreamReceiver layout) : StreamReceiver layout :=
  { stream.closeStreamInner true with rstSent := true }

/-- `QuicStream::OnConnectionClosed` and what `QuicSession::OnConnectionClosed` does about a stream that is left. -/
def onConnectionClosed (stream : StreamReceiver layout) : StreamReceiver layout :=
  if stream.isOpen then
    let closed :=
      if stream.readSideClosed && stream.writeSideClosed then stream else stream.closeWriteSide.closeReadSide
    closed.closeStreamInner false
  else stream

/-- `QuicConnection::CloseConnection`, which tells every stream before it returns. -/
def closeConnection (stream : StreamReceiver layout) : StreamReceiver layout :=
  if stream.connected then onConnectionClosed { stream with connected := false } else stream

/-- `QuartcStream::OnFinRead`. -/
def onFinRead (stream : StreamReceiver layout) : StreamReceiver layout :=
  (closeReadSide { stream with finReceived := true }).notify .onFinRead

/-- `QuicStreamSequencer::IsClosed`. -/
def isClosed (stream : StreamReceiver layout) : Bool := stream.closeOffset ≤ stream.buffer.totalBytesRead

/-- The loop of `QuartcStream::OnDataAvailable`, one region at a time. Each round but the last reads a byte. -/
def deliver : Nat → StreamReceiver layout → Except BufferFault (StreamReceiver layout)
  | 0, _ => .error .endlessLoop
  | fuel + 1, stream => do
    match ← stream.buffer.getReadableRegions with
    | none => return stream
    | some region =>
      let received := stream.notify (.onReceived region)
      let (consumed, buffer) ← received.buffer.markConsumed region.length
      let after := if consumed then { received with buffer } else reset { received with buffer }
      deliver fuel after

/-- `QuartcStream::OnDataAvailable`. -/
def onDataAvailable (stream : StreamReceiver layout) : Except BufferFault (StreamReceiver layout) := do
  let delivered ← deliver (stream.buffer.readableBytes + 1) stream
  return if delivered.isClosed then delivered.onFinRead.notify (.onReceived []) else delivered

/-- `QuicStreamSequencer::MaybeCloseStream`. -/
def maybeCloseStream (stream : StreamReceiver layout) : Except BufferFault (StreamReceiver layout) :=
  if stream.isClosed then
    (if stream.ignoreReadData then .ok stream.onFinRead else stream.onDataAvailable).map fun told =>
      { told with buffer := told.buffer.clear }
  else .ok stream

/-- `CloseStreamAtOffset` resets a stream whose peer gives two different lengths. -/
def closeStreamAtOffset (stream : StreamReceiver layout) (offset : Nat) :
    Except BufferFault (StreamReceiver layout) :=
  if stream.closeOffset ≠ maxOffset ∧ offset ≠ stream.closeOffset then .ok stream.reset
  else maybeCloseStream { stream with closeOffset := offset }

/-- `QuicStreamSequencer::FlushBufferedFrames`. -/
def flushBufferedFrames (stream : StreamReceiver layout) : Except BufferFault (StreamReceiver layout) :=
  maybeCloseStream { stream with buffer := stream.buffer.flushBufferedFrames.2 }

/-- `QuicStreamSequencer::StopReading`. -/
def stopReading (stream : StreamReceiver layout) : Except BufferFault (StreamReceiver layout) :=
  if stream.ignoreReadData then .ok stream else flushBufferedFrames { stream with ignoreReadData := true }

/-- The data of a frame, in `QuicStreamSequencer::OnStreamFrame`. -/
def onStreamData (stream : StreamReceiver layout) (frame : StreamFrame) :
    Except BufferFault (StreamReceiver layout) := do
  let previousReadableBytes := stream.buffer.readableBytes
  let outcome ← stream.buffer.onStreamData frame.offset frame.data
  let buffered := { stream with buffer := outcome.buffer }
  if outcome.error ≠ .noError then return buffered.closeConnection
  else if outcome.bytesBuffered = 0 then return buffered
  else if previousReadableBytes = 0 ∧ 0 < buffered.buffer.readableBytes then
    if buffered.ignoreReadData then buffered.flushBufferedFrames else buffered.onDataAvailable
  else return buffered

/-- `QuicStreamSequencer::OnStreamFrame`. -/
def onSequencerFrame (stream : StreamReceiver layout) (frame : StreamFrame) :
    Except BufferFault (StreamReceiver layout) :=
  if frame.fin then do
    let closing ← stream.closeStreamAtOffset (wrap64 (frame.offset + frame.data.length))
    if frame.data.length = 0 then return closing else closing.onStreamData frame
  else stream.onStreamData frame

def isStreamTooLong (frame : StreamFrame) : Bool :=
  maxStreamLength < frame.offset || maxStreamLength - frame.offset < frame.data.length

/-- `QuicStream::OnStreamFrame`; `streamTooLong` is the flag `quic_stream_too_long`, and `violation` is what the
flow controllers answer if they are asked. -/
def onStreamFrame (streamTooLong : Bool) (stream : StreamReceiver layout) (frame : StreamFrame) (violation : Bool) :
    Except BufferFault (StreamReceiver layout) :=
  if streamTooLong && isStreamTooLong frame then .ok stream.closeConnection
  else
    let noted := { stream with finReceived := stream.finReceived || frame.fin }
    if noted.readSideClosed then .ok noted
    else if 0 < frame.data.length ∧ violation = true then .ok noted.closeConnection
    else noted.onSequencerFrame frame

/-- `QuicStream::OnStreamReset`; a RST_STREAM beyond `kMaxStreamLength` counts as a violation here. -/
def onStreamReset (stream : StreamReceiver layout) (violation : Bool) : StreamReceiver layout :=
  let noted := { stream with rstReceived := true }
  if violation then noted.closeConnection else noted.closeWriteSide.closeReadSide

/-- The sending half has sent its FIN. -/
def onFinSent (stream : StreamReceiver layout) : StreamReceiver layout :=
  closeWriteSide { stream with finSent := true }

end StreamReceiver

/-- What can happen to the stream: a frame of the peer, its RST_STREAM, the FIN of the other half, and the calls of
`Shutdown`, `Close`, `CancelStream` and of a connection that closes. -/
inductive ReceiverLabel where
  | onStreamFrame (frame : StreamFrame) (violation : Bool)
  | onStreamReset (violation : Bool)
  | onFinSent
  | stopReading
  | closeStream
  | reset
  | closeConnection
deriving DecidableEq, Repr

/-- The bytes that the peer sends on the stream. A FIN, if it ever comes, stands behind the last of them. -/
structure Transmission where
  content : Nat → UInt8
  length : Nat
  short : length ≤ maxStreamLength

namespace Transmission

/-- The frame carries a stretch of the stream, at its place. -/
def Sends (transmission : Transmission) (frame : StreamFrame) : Prop :=
  frame.offset + frame.data.length ≤ transmission.length ∧
    frame.data = readBytes transmission.content frame.offset frame.data.length ∧
    (frame.fin = true → frame.offset + frame.data.length = transmission.length)

instance (transmission : Transmission) (frame : StreamFrame) : Decidable (transmission.Sends frame) :=
  inferInstanceAs (Decidable (_ ∧ _ ∧ _))

/-- A short stream, for the runs that show a theorem at work. -/
def sixBytes : Transmission := ⟨fun k => UInt8.ofNat (k + 10), 6, by decide⟩

end Transmission

namespace StreamReceiver

variable {layout : BufferLayout}

/-- The session passes frames, and the application calls, to a stream that it finds. -/
def admits (transmission : Transmission) (stream : StreamReceiver layout) : ReceiverLabel → Prop
  | .onStreamFrame frame _ => stream.isOpen = true ∧ transmission.Sends frame
  | .closeConnection => stream.connected = true
  | .onFinSent => stream.isOpen = true ∧ stream.writeSideClosed = false
  | .onStreamReset _ | .stopReading | .closeStream | .reset => stream.isOpen = true

instance (transmission : Transmission) (stream : StreamReceiver layout) (label : ReceiverLabel) :
    Decidable (admits transmission stream label) := by
  cases label <;> unfold admits <;> infer_instance

def step (streamTooLong : Bool) (stream : StreamReceiver layout) :
    ReceiverLabel → Except BufferFault (StreamReceiver layout)
  | .onStreamFrame frame violation => stream.onStreamFrame streamTooLong frame violation
  | .onStreamReset violation => .ok (stream.onStreamReset violation)
  | .onFinSent => .ok stream.onFinSent
  | .stopReading => stream.stopReading
  | .closeStream => .ok (stream.closeStreamInner false)
  | .reset => .ok stream.reset
  | .closeConnection => .ok stream.closeConnection

def system (layout : BufferLayout) (streamTooLong : Bool) (transmission : Transmission) :
    Machine.System (StreamReceiver layout) ReceiverLabel BufferFault where
  guard := admits transmission
  step := step streamTooLong

instance (streamTooLong : Bool) (transmission : Transmission) (stream : StreamReceiver layout) (label : ReceiverLabel) :
    Decidable ((system layout streamTooLong transmission).guard stream label) :=
  inferInstanceAs (Decidable (admits transmission stream label))

end StreamReceiver

end PosixQuic
