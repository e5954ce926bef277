import PosixQuic.Model.SendBuffer
import PosixQuic.Model.StreamReceiver

/-! # The sending half of a libquic stream

From `QuicStream::WritevData` through the send buffer to the frames that are put into packets, and back from
acknowledgements, losses and window updates, until the session drops the stream. The connection answers each
`WritevData` of the session with the packets that it is willing to build; the frames are serialized before the call
returns. The session's two lists, of streams that wait for a turn to write and of streams with lost data, are one flag
each. The session decides what to write, as it does from version 42 on. A stream contributes to the flow control of its
connection, whose window is an input. RST_STREAM frames of the application and of the peer are left out.
-/

namespace PosixQuic

/-- What the connection makes of one `WritevData`: the room in each packet that it builds, and whether it takes a FIN
that comes without data. A packet without room ends the call. -/
structure PacketPlan where
  rooms : List Nat := []
  finAlone : Bool := false
deriving DecidableEq, Repr

/-- What `WriteBufferedData` asks of its surroundings. -/
structure WriteCall where
  shouldYield : Bool := false
  connectionWindow : Nat := 0
  plan : PacketPlan := {}
deriving DecidableEq, Repr

/-- What has been serialized of one `WritevData`. -/
structure Serialized where
  bytesConsumed : Nat
  frames : List StreamFrame
  buffer : SendBuffer
deriving DecidableEq

/-- A stream with its send buffer and its place in the lists of the session. `isOpen` says whether it is in the session's
`dynamic_stream_map_`; `refused` says that the last write of the application was turned away and that it has not been
called back since; `sent` are the frames of all packets so far, and `inFlight` those that have been neither acknowledged
nor declared lost. -/
structure StreamSender where
  buffer : SendBuffer := {}
  finBuffered : Bool := false
  finSent : Bool := false
  finOutstanding : Bool := false
  finLost : Bool := false
  writeSideClosed : Bool := false
  sendWindowOffset : Nat := 16 * 1024
  writeBlocked : Bool := false
  retransmissionListed : Bool := false
  isOpen : Bool := true
  refused : Bool := false
  sent : List StreamFrame := []
  inFlight : List StreamFrame := []
deriving DecidableEq

namespace StreamSender

/-! ## Packets -/

/-- The loop of `QuicPacketGenerator::ConsumeData`. -/
def serialize (fin : Bool) : SendBuffer → Nat → Nat → List Nat → Except SendFault Serialized
  | buffer, _, _, [] => .ok ⟨0, [], buffer⟩
  | buffer, offset, left, room :: rest =>
    let size := min room left
    if size = 0 then .ok ⟨0, [], buffer⟩
    else do
      let (data, written) ← buffer.writeStreamData offset size
      let later ← serialize fin written (offset + size) (left - size) rest
      return ⟨size + later.bytesConsumed, ⟨offset, data, fin && size = left⟩ :: later.frames, later.buffer⟩

def transmit (sender : StreamSender) (frames : List StreamFrame) : StreamSender :=
  { sender with sent := sender.sent ++ frames, inFlight := sender.inFlight ++ frames }

/-- `QuicSession::WritevData`. -/
def writevDataInner (sender : StreamSender) (writeLength offset : Nat) (fin : Bool) (plan : PacketPlan) :
    Except SendFault (QuicConsumedData × StreamSender) :=
  if writeLength = 0 then
    if fin && plan.finAlone then .ok (⟨0, true⟩, sender.transmit [⟨offset, [], true⟩]) else .ok (⟨0, false⟩, sender)
  else do
    let serialized ← serialize fin sender.buffer offset writeLength plan.rooms
    return (⟨serialized.bytesConsumed, fin && serialized.bytesConsumed = writeLength⟩,
      { sender with buffer := serialized.buffer }.transmit serialized.frames)

/-! ## New data -/

def bufferedDataBytes (sender : StreamSender) : Nat := sender.buffer.streamOffset - sender.buffer.streamBytesWritten

def hasBufferedData (sender : StreamSender) : Bool := sender.buffer.streamBytesWritten < sender.buffer.streamOffset

/-- `CanWriteNewData`, for the threshold that the delegate gives. -/
def canWriteNewData (sender : StreamSender) (threshold : Nat) : Bool := sender.bufferedDataBytes < threshold

/-- `QuicFlowController::SendWindowSize`; what the stream has written is what the flow controller counts as sent. -/
def sendWindowSize (sender : StreamSender) : Nat := sender.sendWindowOffset - sender.buffer.streamBytesWritten

/-- `MaybeSendBlocked`, without the BLOCKED frames. -/
def maybeSendBlocked (sender : StreamSender) (connectionWindow : Nat) : StreamSender :=
  if connectionWindow = 0 ∧ sender.sendWindowSize ≠ 0 then { sender with writeBlocked := true } else sender

/-- `OnStreamDataConsumed` and `AddBytesSent`. -/
def addBytesSent (sender : StreamSender) (bytes : Nat) : Except SendFault StreamSender :=
  if sender.sendWindowOffset < sender.buffer.streamBytesWritten + bytes then .error .sentTooMuchData
  else .ok { sender with buffer := sender.buffer.onStreamDataConsumed bytes }

def closeWriteSide (sender : StreamSender) : StreamSender := { sender with writeSideClosed := true }

/-- The end of `WriteBufferedData`. -/
def onWritten (sender : StreamSender) (writeLength : Nat) (fin finWithZeroData : Bool) (connectionWindow : Nat)
    (consumed : QuicConsumedData) : StreamSender :=
  if consumed.bytesConsumed = writeLength then
    let told := if finWithZeroData then sender else sender.maybeSendBlocked connectionWindow
    if fin && consumed.finConsumed then { told with finSent := true, finOutstanding := true }.closeWriteSide
    else if fin then { told with writeBlocked := true }
    else told
  else { sender with writeBlocked := true }

/-- `WriteBufferedData`. The FIN goes only with the last of the data. -/
def writeBufferedData (sender : StreamSender) (call : WriteCall) : Except SendFault StreamSender :=
  if call.shouldYield then .ok { sender with writeBlocked := true }
  else
    let finWithZeroData := sender.finBuffered && sender.bufferedDataBytes = 0
    let sendWindow := min sender.sendWindowSize call.connectionWindow
    if sendWindow = 0 && !finWithZeroData then .ok (sender.maybeSendBlocked call.connectionWindow)
    else do
      let writeLength := min sender.bufferedDataBytes sendWindow
      let fin := sender.finBuffered && sender.bufferedDataBytes ≤ sendWindow
      let (consumed, written) ← sender.writevDataInner writeLength sender.buffer.streamBytesWritten fin call.plan
      let counted ← written.addBytesSent consumed.bytesConsumed
      return counted.onWritten writeLength fin finWithZeroData (call.connectionWindow - consumed.bytesConsumed) consumed

/-- Data is written at once if none was waiting before. -/
def writeIfIdle (sender : StreamSender) (hadBufferedData : Bool) (call : WriteCall) : Except SendFault StreamSender :=
  if !hadBufferedData && (sender.hasBufferedData || sender.finBuffered) then sender.writeBufferedData call else .ok sender

/-- `QuicStream::WritevData`. -/
def writevData (flags : SendFlags) (sender : StreamSender) (data : List UInt8) (fin : Bool) (threshold : Nat)
    (call : WriteCall) : Except SendFault (QuicConsumedData × StreamSender) :=
  if sender.writeSideClosed then .ok (⟨0, false⟩, sender)
  else if sender.finBuffered then .ok (⟨0, false⟩, sender)
  else if flags.streamTooLong && maxStreamLength - sender.buffer.streamOffset < data.length then
    .error .streamLengthOverflow
  else
    let bytesConsumed := if sender.canWriteNewData threshold then data.length else 0
    let finConsumed := bytesConsumed = data.length && fin
    let buffer := if 0 < bytesConsumed then sender.buffer.saveStreamData flags data else sender.buffer
    (writeIfIdle { sender with buffer, finBuffered := finConsumed } sender.hasBufferedData call).map fun after =>
      (⟨bytesConsumed, finConsumed⟩, after)

/-- `QuartcStream::FinishWriting`, which is `WriteOrBufferData` without data. -/
def finishWriting (sender : StreamSender) (call : WriteCall) : Except SendFault StreamSender :=
  if sender.finBuffered then .ok sender
  else if sender.writeSideClosed then .ok sender
  else writeIfIdle { sender with finBuffered := true } sender.hasBufferedData call

/-! ## Acknowledged and lost data -/

def hasPendingRetransmission (sender : StreamSender) : Bool := sender.buffer.hasPendingRetransmission || sender.finLost

def onStreamFrameRetransmitted (sender : StreamSender) (offset dataLength : Nat) (finRetransmitted : Bool) :
    StreamSender :=
  { sender with
    buffer := sender.buffer.onStreamDataRetransmitted offset dataLength
    finLost := sender.finLost && !finRetransmitted }

/-- `WritePendingRetransmission`. When the plans run out, the connection is write blocked. -/
def writePendingRetransmission : List PacketPlan → StreamSender → Except SendFault StreamSender
  | [], sender => .ok sender
  | plan :: rest, sender =>
    match sender.buffer.nextPendingRetransmission with
    | none =>
      if sender.finLost then do
        let (consumed, written) ← sender.writevDataInner 0 sender.buffer.streamBytesWritten true plan
        let noted := { written with finLost := !consumed.finConsumed }
        if noted.finLost then return noted else writePendingRetransmission rest noted
      else .ok sender
    | some (offset, length) => do
      let canBundleFin := sender.finLost && offset + length = sender.buffer.streamBytesWritten
      let (consumed, written) ← sender.writevDataInner length offset canBundleFin plan
      let noted := written.onStreamFrameRetransmitted offset consumed.bytesConsumed consumed.finConsumed
      if consumed.bytesConsumed < length || canBundleFin && !consumed.finConsumed then return noted
      else writePendingRetransmission rest noted

/-- `QuicStream::OnCanWrite`; lost data comes first. -/
def onCanWrite (sender : StreamSender) (threshold : Nat) (plans : List PacketPlan) (call : WriteCall) :
    Except SendFault StreamSender :=
  if sender.hasPendingRetransmission then writePendingRetransmission plans sender
  else if sender.writeSideClosed then .ok sender
  else
    (if sender.hasBufferedData || sender.finBuffered && !sender.finSent then sender.writeBufferedData call
      else .ok sender).map fun written =>
        if !written.finBuffered && !written.finSent && written.canWriteNewData threshold then
          { written with refused := false }
        else written

/-- A turn that `QuicSession::OnCanWrite` gives to a stream. -/
def takeTurn (sender : StreamSender) (threshold : Nat) (plans : List PacketPlan) (call : WriteCall) :
    Except SendFault StreamSender :=
  if sender.sendWindowSize = 0 then .ok { sender with writeBlocked := false }
  else { sender with writeBlocked := false }.onCanWrite threshold plans call

/-- A turn that `QuicSession::RetransmitLostData` gives to a stream. -/
def retransmitLostData (sender : StreamSender) (threshold : Nat) (plans : List PacketPlan) (call : WriteCall) :
    Except SendFault StreamSender :=
  (sender.onCanWrite threshold plans call).map fun written =>
    { written with retransmissionListed := written.hasPendingRetransmission }

/-- The loop of `RetransmitStreamData`: whether it came to its end, and whether the FIN is still to be sent. -/
def retransmitIntervals : List (Machine.Interval Nat) → List PacketPlan → Bool → StreamSender →
    Except SendFault (Bool × Bool × List PacketPlan × StreamSender)
  | [], plans, retransmitFin, sender => .ok (true, retransmitFin, plans, sender)
  | _ :: _, [], retransmitFin, sender => .ok (false, retransmitFin, [], sender)
  | interval :: intervals, plan :: plans, retransmitFin, sender => do
    let length := interval.max - interval.min
    let canBundleFin := retransmitFin && interval.min + length = sender.buffer.streamBytesWritten
    let (consumed, written) ← sender.writevDataInner length interval.min canBundleFin plan
    let noted := written.onStreamFrameRetransmitted interval.min consumed.bytesConsumed consumed.finConsumed
    let stillFin := if canBundleFin then !consumed.finConsumed else retransmitFin
    if consumed.bytesConsumed < length || canBundleFin && !consumed.finConsumed then
      return (false, stillFin, plans, noted)
    else retransmitIntervals intervals plans stillFin noted

/-- `RetransmitStreamData`, for a packet that is sent again before it is lost. -/
def retransmitStreamData (sender : StreamSender) (frame : StreamFrame) (plans : List PacketPlan) :
    Except SendFault StreamSender := do
  let retransmission := sender.buffer.newlyAcked frame.offset frame.data.length
  let (ended, retransmitFin, plans, written) ←
    retransmitIntervals retransmission.intervals plans (frame.fin && sender.finOutstanding) sender
  if ended && retransmitFin then
    let (_, written) ← written.writevDataInner 0 written.buffer.streamBytesWritten true (plans.headD {})
    return written
  else return written

/-- `IsWaitingForAcks`, of a stream that has not been reset. -/
def isWaitingForAcks (sender : StreamSender) : Bool :=
  0 < sender.buffer.streamBytesOutstanding || sender.finOutstanding

/-- `QuicSession::GetStream` finds the stream, among the open ones or among the zombies: closed streams whose FIN was
sent and that wait for acknowledgements. -/
def held (sender : StreamSender) : Bool := sender.isOpen || sender.finSent && sender.isWaitingForAcks

/-- `QuicStream::OnStreamFrameAcked`. `OnStreamDoneWaitingForAcks` takes a zombie that it drops off the list of streams
with lost data, and `QuicSession::OnFrameAcked` a stream that has none left. -/
def onStreamFrameAcked (sender : StreamSender) (frame : StreamFrame) : Except SendFault StreamSender :=
  match sender.buffer.onStreamDataAcked frame.offset frame.data.length with
  | none => .error .ackedUnsentData
  | some (_, buffer) =>
    if !sender.finSent && frame.fin then .error .ackedUnsentFin
    else
      let acked := { sender with
        buffer
        finOutstanding := sender.finOutstanding && !frame.fin
        finLost := sender.finLost && !frame.fin
        inFlight := sender.inFlight.erase frame }
      .ok { acked with
        retransmissionListed := sender.retransmissionListed && acked.held && acked.hasPendingRetransmission }

/-- `QuicStream::OnStreamFrameLost`, and the note that `QuicSession::OnFrameLost` takes of it. -/
def onStreamFrameLost (sender : StreamSender) (frame : StreamFrame) : StreamSender :=
  let lost := { sender with
    buffer := sender.buffer.onStreamDataLost frame.offset frame.data.length
    finLost := sender.finLost || frame.fin && sender.finOutstanding
    inFlight := sender.inFlight.erase frame }
  { lost with retransmissionListed := lost.retransmissionListed || lost.hasPendingRetransmission }

/-- `OnWindowUpdateFrame`. -/
def onWindowUpdate (sender : StreamSender) (offset : Nat) : StreamSender :=
  if offset ≤ sender.sendWindowOffset then sender
  else
    { sender with
      sendWindowOffset := offset
      writeBlocked := sender.writeBlocked || sender.sendWindowSize = 0 }

/-- `QuicSession::CloseStream`, which keeps a stream that waits for acknowledgements as a zombie, and
`QuicStream::OnClose`, which gives it up unless its FIN was sent. Lost data of a dropped stream is not sent again. -/
def closeStream (sender : StreamSender) : StreamSender :=
  let closed := { sender.closeWriteSide with isOpen := false }
  { closed with retransmissionListed := sender.retransmissionListed && closed.held }

end StreamSender

/-- What can happen to the sending half. The application writes the next bytes of its stream; packets are acknowledged,
lost and sent again; and the session closes the stream. -/
inductive SenderLabel where
  | writev (length : Nat) (fin : Bool) (threshold : Nat) (call : WriteCall)
  | finishWriting (call : WriteCall)
  | takeTurn (threshold : Nat) (plans : List PacketPlan) (call : WriteCall)
  | retransmitLostData (threshold : Nat) (plans : List PacketPlan) (call : WriteCall)
  | onStreamFrameAcked (frame : StreamFrame)
  | onStreamFrameLost (frame : StreamFrame)
  | retransmitStreamData (frame : StreamFrame) (plans : List PacketPlan)
  | onWindowUpdate (offset : Nat)
  | closeStream
deriving DecidableEq, Repr

namespace StreamSender

/-- Whether `WritevData` takes what it is given. -/
def takes (sender : StreamSender) (length threshold : Nat) : Bool :=
  !sender.writeSideClosed && !sender.finBuffered && (sender.canWriteNewData threshold || length = 0)

/-- Acknowledged and lost frames reach a stream that the session holds, everything else an open one. -/
def finds (sender : StreamSender) : SenderLabel → Bool
  | .retransmitLostData .. | .onStreamFrameAcked _ | .onStreamFrameLost _ | .retransmitStreamData .. => sender.held
  | _ => sender.isOpen

/-- The application writes no more than a stream can hold, and what is taken are the bytes of the transmission. Frames
are acknowledged, lost or sent again after they have been sent. -/
def permits (transmission : Transmission) (sender : StreamSender) : SenderLabel → Prop
  | .writev length fin threshold _ =>
    0 < threshold ∧ sender.buffer.streamOffset + length ≤ maxStreamLength ∧
      (sender.takes length threshold = true →
        sender.buffer.streamOffset + length ≤ transmission.length ∧
          (fin = true → sender.buffer.streamOffset + length = transmission.length))
  | .finishWriting _ =>
    sender.writeSideClosed = false → sender.finBuffered = false → sender.buffer.streamOffset = transmission.length
  | .takeTurn threshold _ _ => 0 < threshold ∧ sender.writeBlocked = true ∧ sender.retransmissionListed = false
  | .retransmitLostData threshold _ _ => 0 < threshold ∧ sender.retransmissionListed = true
  | .onStreamFrameAcked frame | .onStreamFrameLost frame | .retransmitStreamData frame _ => frame ∈ sender.sent
  | .onWindowUpdate _ | .closeStream => True

instance (transmission : Transmission) (sender : StreamSender) (label : SenderLabel) :
    Decidable (permits transmission sender label) := by
  cases label <;> unfold permits <;> infer_instance

def admits (transmission : Transmission) (sender : StreamSender) (label : SenderLabel) : Prop :=
  sender.finds label = true ∧ sender.permits transmission label

instance (transmission : Transmission) (sender : StreamSender) (label : SenderLabel) :
    Decidable (admits transmission sender label) :=
  inferInstanceAs (Decidable (_ ∧ _))

def step (flags : SendFlags) (transmission : Transmission) (sender : StreamSender) :
    SenderLabel → Except SendFault StreamSender
  | .writev length fin threshold call =>
    (sender.writevData flags (readBytes transmission.content sender.buffer.streamOffset length) fin threshold call).map
      fun (consumed, after) => { after with refused := 0 < length && consumed.bytesConsumed = 0 }
  | .finishWriting call => sender.finishWriting call
  | .takeTurn threshold plans call => sender.takeTurn threshold plans call
  | .retransmitLostData threshold plans call => sender.retransmitLostData threshold plans call
  | .onStreamFrameAcked frame => sender.onStreamFrameAcked frame
  | .onStreamFrameLost frame => .ok (sender.onStreamFrameLost frame)
  | .retransmitStreamData frame plans => sender.retransmitStreamData frame plans
  | .onWindowUpdate offset => .ok (sender.onWindowUpdate offset)
  | .closeStream => .ok sender.closeStream

def system (flags : SendFlags) (transmission : Transmission) : Machine.System StreamSender SenderLabel SendFault where
  guard := admits transmission
  step := step flags transmission

instance (flags : SendFlags) (transmission : Transmission) (sender : StreamSender) (label : SenderLabel) :
    Decidable ((system flags transmission).guard sender label) :=
  inferInstanceAs (Decidable (admits transmission sender label))

end StreamSender

end PosixQuic
