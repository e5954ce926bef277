import PosixQuic.Model.StreamSender

/-! # One direction of a stream, from end to end

The sending half of a stream at one end, the network, and the receiving half at the other. The network may lose, repeat
and reorder frames: any frame that was sent may arrive at any time, or never. The peer acknowledges what has arrived,
also when its stream is closed by then. The connection may declare any frame lost. A sender that its session has dropped
hears of neither.
-/

namespace PosixQuic

/-- Both ends, and the frames that have arrived. -/
structure Transfer (layout : BufferLayout) where
  sender : StreamSender
  receiver : StreamReceiver layout := {}
  arrived : List StreamFrame := []

inductive TransferLabel where
  | atSender (label : SenderLabel)
  | arrive (frame : StreamFrame) (violation : Bool)
  | atReceiver (label : ReceiverLabel)
deriving DecidableEq, Repr

inductive TransferFault where
  | atSender (fault : SendFault)
  | atReceiver (fault : BufferFault)
deriving DecidableEq, Repr

namespace Transfer

variable {layout : BufferLayout}

/-- Frames reach the receiver only by `arrive`, and only what has arrived is acknowledged. -/
def admits (transmission : Transmission) (transfer : Transfer layout) : TransferLabel → Prop
  | .atSender (.onStreamFrameAcked frame) => transfer.sender.held = true ∧ frame ∈ transfer.arrived
  | .atSender label => transfer.sender.admits transmission label
  | .arrive frame _ => frame ∈ transfer.sender.sent
  | .atReceiver (.onStreamFrame _ _) => False
  | .atReceiver label => transfer.receiver.admits transmission label

instance (transmission : Transmission) (transfer : Transfer layout) (label : TransferLabel) :
    Decidable (admits transmission transfer label) := by
  unfold admits
  split <;> infer_instance

/-- The session of the receiver passes a frame on to the stream if it still finds it. `streamTooLong` is the flag
`quic_stream_too_long` of the receiver. -/
def arrive (streamTooLong : Bool) (transfer : Transfer layout) (frame : StreamFrame) (violation : Bool) :
    Except BufferFault (Transfer layout) :=
  (if transfer.receiver.isOpen then transfer.receiver.onStreamFrame streamTooLong frame violation
    else .ok transfer.receiver).map fun receiver => { transfer with receiver, arrived := transfer.arrived ++ [frame] }

def step (sendFlags : SendFlags) (streamTooLong : Bool) (transmission : Transmission) (transfer : Transfer layout) :
    TransferLabel → Except TransferFault (Transfer layout)
  | .atSender label =>
    ((transfer.sender.step sendFlags transmission label).mapError .atSender).map fun sender => { transfer with sender }
  | .arrive frame violation => (transfer.arrive streamTooLong frame violation).mapError .atReceiver
  | .atReceiver label =>
    ((transfer.receiver.step streamTooLong label).mapError .atReceiver).map fun receiver => { transfer with receiver }

def system (layout : BufferLayout) (sendFlags : SendFlags) (streamTooLong : Bool) (transmission : Transmission) :
    Machine.System (Transfer layout) TransferLabel TransferFault where
  guard := admits transmission
  step := step sendFlags streamTooLong transmission

instance (sendFlags : SendFlags) (streamTooLong : Bool) (transmission : Transmission) (transfer : Transfer layout)
    (label : TransferLabel) : Decidable ((system layout sendFlags streamTooLong transmission).guard transfer label) :=
  inferInstanceAs (Decidable (admits transmission transfer label))

/-- Nothing has happened yet; the handshake has given the stream its first window. -/
def start (sendWindowOffset : Nat) : Transfer layout := { sender := { sendWindowOffset } }

end Transfer

end PosixQuic
