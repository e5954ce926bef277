import PosixQuic.Machine.Reachable
import Mathlib.Tactic

/-! # The acknowledgement timeout of a connection

`QuicConnectionVisitor` remembers when it started to wait for an acknowledgement and when the last one came,
and closes the connection when it has waited longer than `sockopt_ack_timeout_secs`. Times are the
microseconds of `QuicTime`; every call reads the clock at most once, so the reading is an argument. `AckRun`
adds the history of packets and acknowledgements, which the visitor itself does not keep.
-/

namespace PosixQuic

/-- Microseconds, as `QuicTime` and `QuicTime::Delta` count them. -/
abbrev QuicTime := Int

/-- `Delta::FromSeconds`, computed in `int64_t`. -/
def fromSeconds (secs : Int) : QuicTime := Int.bmod (secs * 1000 * 1000) (2 ^ 64)

inductive TransmissionType where
  | notRetransmission
  | handshakeRetransmission
  | allUnackedRetransmission
  | allInitialRetransmission
  | lossRetransmission
  | rtoRetransmission
  | tlpRetransmission
  | probingRetransmission
deriving DecidableEq, Repr

inductive QuicFrameType where
  | padding
  | rstStream
  | connectionClose
  | goaway
  | windowUpdate
  | blocked
  | stopWaiting
  | ping
  | stream
  | ack
  | mtuDiscovery
deriving DecidableEq, Repr

/-- The part of a `SerializedPacket` that says whether the peer has to acknowledge it. -/
structure SerializedPacket where
  retransmittableFrames : List QuicFrameType
deriving DecidableEq, Repr

inductive ConnectionCloseBehavior where
  | silentClose
  | sendConnectionClosePacket
  | sendConnectionClosePacketWithNoAck
deriving DecidableEq, Repr

/-- The arguments of `QuicConnection::CloseConnection`. -/
structure CloseConnection where
  error : Int
  details : String
  behavior : ConnectionCloseBehavior
deriving DecidableEq, Repr

/-- `QUIC_NETWORK_ACK_TIMEOUT`. -/
def quicNetworkAckTimeout : Int := 101

/-- A `QuicAlarm` is set unless its deadline is zero. -/
structure QuicAlarm where
  deadline : QuicTime := 0
deriving DecidableEq, Repr

/-- `Update` with granularity zero; a zero deadline cancels, which leaves the same zero. -/
def QuicAlarm.update (_ : QuicAlarm) (newDeadline : QuicTime) : QuicAlarm := ⟨newDeadline⟩

def QuicAlarm.cancel (_ : QuicAlarm) : QuicAlarm := ⟨0⟩

structure QuicConnectionVisitor where
  noAckAlarm : QuicAlarm := {}
  lastAckTime : QuicTime := 0
  lastSendTime : QuicTime := 0
deriving DecidableEq, Repr

namespace QuicConnectionVisitor

/-- `SetNoAckAlarm` narrows the option to an `int` first. -/
def setNoAckAlarm (visitor : QuicConnectionVisitor) (ackTimeoutSecs now : Int) : QuicConnectionVisitor :=
  let secs := Int.bmod ackTimeoutSecs (2 ^ 32)
  let allowDuration := fromSeconds secs
  if allowDuration = 0 then visitor
  else
    let timeOfLast := if visitor.lastSendTime > visitor.lastAckTime then visitor.lastSendTime else now
    { visitor with noAckAlarm := visitor.noAckAlarm.update (timeOfLast + allowDuration) }

def cancelNoAckAlarm (visitor : QuicConnectionVisitor) : QuicConnectionVisitor :=
  { visitor with noAckAlarm := visitor.noAckAlarm.cancel }

/-- `CheckForNoAckTimeout`, with the call of `CloseConnection` that it makes, if any. -/
def checkForNoAckTimeout (visitor : QuicConnectionVisitor) (ackTimeoutSecs now : Int) :
    Option CloseConnection × QuicConnectionVisitor :=
  let allowDuration := fromSeconds ackTimeoutSecs
  if allowDuration = 0 then (none, visitor)
  else if visitor.lastSendTime > visitor.lastAckTime ∧ now - visitor.lastSendTime > allowDuration then
    (some ⟨quicNetworkAckTimeout, "ack timeout", .sendConnectionClosePacketWithNoAck⟩, visitor)
  else (none, visitor.setNoAckAlarm ackTimeoutSecs now)

/-- `OnPacketSent` looks at the transmission type only. -/
def onPacketSent (visitor : QuicConnectionVisitor) (_ : SerializedPacket) (transmissionType : TransmissionType)
    (now : QuicTime) : QuicConnectionVisitor :=
  if transmissionType = .notRetransmission ∧ visitor.lastSendTime ≤ visitor.lastAckTime then
    { visitor with lastSendTime := now }
  else visitor

def onAckFrame (visitor : QuicConnectionVisitor) (now : QuicTime) : QuicConnectionVisitor :=
  { visitor with lastAckTime := now }

end QuicConnectionVisitor

/-- The calls that a connection makes on its visitor. -/
inductive VisitorCall where
  | onPacketSent (packet : SerializedPacket) (transmissionType : TransmissionType)
  | onAckFrame
  | checkForNoAckTimeout
  | setNoAckAlarm
  | cancelNoAckAlarm
deriving DecidableEq, Repr

structure SentPacket where
  time : QuicTime
  packet : SerializedPacket
  transmissionType : TransmissionType
deriving DecidableEq, Repr

/-- A visitor, the last clock reading, the packets sent and the times at which ack frames were processed. A
steady clock counts up from zero. -/
structure AckRun where
  visitor : QuicConnectionVisitor := {}
  clock : QuicTime := 0
  sent : List SentPacket := []
  acks : List QuicTime := []
deriving DecidableEq, Repr

namespace AckRun

def visit (visitor : QuicConnectionVisitor) (ackTimeoutSecs now : Int) : VisitorCall → QuicConnectionVisitor
  | .onPacketSent packet transmissionType => visitor.onPacketSent packet transmissionType now
  | .onAckFrame => visitor.onAckFrame now
  | .checkForNoAckTimeout => (visitor.checkForNoAckTimeout ackTimeoutSecs now).2
  | .setNoAckAlarm => visitor.setNoAckAlarm ackTimeoutSecs now
  | .cancelNoAckAlarm => visitor.cancelNoAckAlarm

def step (ackTimeoutSecs : Int) (r : AckRun) (event : QuicTime × VisitorCall) : AckRun where
  visitor := visit r.visitor ackTimeoutSecs event.1 event.2
  clock := event.1
  sent :=
    match event.2 with
    | .onPacketSent packet transmissionType => ⟨event.1, packet, transmissionType⟩ :: r.sent
    | _ => r.sent
  acks :=
    match event.2 with
    | .onAckFrame => event.1 :: r.acks
    | _ => r.acks

/-- Calls at non-decreasing times, with a constant option value. -/
def system (ackTimeoutSecs : Int) : Machine.System AckRun (QuicTime × VisitorCall) Empty where
  guard r event := r.clock ≤ event.1
  step r event := .ok (r.step ackTimeoutSecs event)

instance (ackTimeoutSecs : Int) (r : AckRun) (event : QuicTime × VisitorCall) :
    Decidable ((system ackTimeoutSecs).guard r event) :=
  inferInstanceAs (Decidable (r.clock ≤ event.1))

end AckRun

/-- The calls that a connection makes on a visitor whose alarm was set, and the alarm's own. -/
inductive AlarmCall where
  | onPacketSent (packet : SerializedPacket) (transmissionType : TransmissionType)
  | onAckFrame
  | fire
deriving DecidableEq, Repr

/-- A visitor, the last clock reading, and whether a timeout closed the connection. -/
structure AlarmRun where
  visitor : QuicConnectionVisitor
  clock : QuicTime
  closed : Bool := false
deriving DecidableEq, Repr

namespace AlarmRun

/-- `SetOpt` with the acknowledgement timeout sets the alarm. -/
def start (visitor : QuicConnectionVisitor) (ackTimeoutSecs now : Int) : AlarmRun where
  visitor := visitor.setNoAckAlarm ackTimeoutSecs now
  clock := now

/-- `QuicAlarm::Fire` takes the deadline back before its delegate calls `CheckForNoAckTimeout`. -/
def fire (r : AlarmRun) (ackTimeoutSecs now : Int) : AlarmRun :=
  let (close, visitor) := r.visitor.cancelNoAckAlarm.checkForNoAckTimeout ackTimeoutSecs now
  { visitor, clock := now, closed := r.closed || close.isSome }

def step (ackTimeoutSecs : Int) (r : AlarmRun) : QuicTime × AlarmCall → AlarmRun
  | (now, .onPacketSent packet transmissionType) =>
    { r with visitor := r.visitor.onPacketSent packet transmissionType now, clock := now }
  | (now, .onAckFrame) => { r with visitor := r.visitor.onAckFrame now, clock := now }
  | (now, .fire) => r.fire ackTimeoutSecs now

/-- Time does not go back, and an alarm that is set fires at its deadline or later. -/
def Admits (r : AlarmRun) : QuicTime × AlarmCall → Prop
  | (now, .fire) => r.clock ≤ now ∧ r.visitor.noAckAlarm.deadline ≠ 0 ∧ r.visitor.noAckAlarm.deadline ≤ now
  | (now, _) => r.clock ≤ now

instance (r : AlarmRun) : (event : QuicTime × AlarmCall) → Decidable (r.Admits event)
  | (now, .fire) =>
    inferInstanceAs
      (Decidable (r.clock ≤ now ∧ r.visitor.noAckAlarm.deadline ≠ 0 ∧ r.visitor.noAckAlarm.deadline ≤ now))
  | (now, .onPacketSent _ _) | (now, .onAckFrame) => inferInstanceAs (Decidable (r.clock ≤ now))

def system (ackTimeoutSecs : Int) : Machine.System AlarmRun (QuicTime × AlarmCall) Empty where
  guard := Admits
  step r event := .ok (r.step ackTimeoutSecs event)

instance (ackTimeoutSecs : Int) (r : AlarmRun) (event : QuicTime × AlarmCall) :
    Decidable ((system ackTimeoutSecs).guard r event) :=
  inferInstanceAs (Decidable (r.Admits event))

end AlarmRun

end PosixQuic
