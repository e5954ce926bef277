import PosixQuic.Model.SimpleStream
import PosixQuic.Model.System

/-! # `simple::Connection` on the shared descriptor table

Any number of connections of the simple layer, each with its own copies of descriptor numbers in `socket_` and
`streams_`. A `Connection` and a `Connection::Stream` are named by their creation order. A label is one call of
a member function, one iteration of a loop that calls back into the application (`OnAcceptSocket`,
`OnAcceptStream`, `OnCanRead`), or something that happens in the library itself. The application's callbacks
are therefore labels of their own. Because `OnStreamClose` runs between the moment a stream is marked as closed
and its `QuicCloseStream`, closing a descriptor is a separate label too, which comes any time after the mark.
Which events `IOService::Run` dispatches is left open, contexts and registrations are not modelled.
-/

namespace PosixQuic.Simple

/-- A `Connection::Stream` object, with the connection and the descriptor of its `ctx_`. `released` records
that its `QuicCloseStream` has been called. -/
structure StreamObject where
  connection : Nat := 0
  stream : Fd := -1
  output : Stream := {}
  released : Bool := false
deriving DecidableEq, Repr

/-- The members of `Connection`; `streams` is the ordered map `streams_`. The history is the socket entry that
`socket_` named when the connection was constructed, and whether `QuicCloseSocket` has been called. -/
structure Connection where
  socket : Fd := -1
  streams : List (Fd × Nat) := []
  listener : Bool := false
  connected : Bool := false
  closed : Bool := false
  entry : SocketId := 0
  released : Bool := false
deriving DecidableEq, Repr

/-- What one call on a `Stream` handed to the stream entry that its descriptor named, possibly nothing. -/
structure Handover where
  connection : Nat
  stream : StreamId
  signals : List Signal
deriving DecidableEq, Repr

/-- The library, the connections and their streams, and the history of what the connections did to entries:
what they handed to which stream, and on which socket they called `QuicCreateStream`. -/
structure Service where
  world : World := {}
  connections : Nat → Connection := fun _ => {}
  numConnections : Nat := 0
  objects : Nat → StreamObject := fun _ => {}
  numObjects : Nat := 0
  handed : List Handover := []
  created : List (Nat × SocketId) := []

/-- `eWriteStream`. -/
def alwaysNewStream : Fd := -3

def lastStream : Fd := -2

def publicStream : Fd := -1

/-- What a call on a connection does; `stream` is `none` for an event of the socket itself. -/
inductive Call where
  | construct (id : QuicConnectionId)
  | connect (connection : Nat) (udp : Except Errno UdpSocket)
  | accept (connection : Nat) (udp : Except Errno UdpSocket) (os : Option Errno)
  | write (connection : Nat) (data : List UInt8) (stream : Fd) (fin : Bool) (streamId : Nat) (answer : Option Nat)
  | close (connection : Nat)
  | onAccept (connection : Nat)
  | onCanRead (connection : Nat) (stream : Fd)
  | onCanWrite (connection : Nat) (stream : Option Fd) (answers : List (Option Nat))
  | onError (connection : Nat) (stream : Option Fd)
  | releaseStream (object : Nat)
  | releaseSocket (connection : Nat)
  | library (action : Action)

/-- `std::map::operator[]` with an assignment. -/
def insertStream (key : Fd) (object : Nat) : List (Fd × Nat) → List (Fd × Nat)
  | [] => [(key, object)]
  | head :: rest =>
    if key < head.1 then (key, object) :: head :: rest
    else if key = head.1 then (key, object) :: rest
    else head :: insertStream key object rest

/-- The stream that `Write` uses. -/
inductive Pick where
  | object (object : Nat)
  | create
  | nothing
deriving DecidableEq, Repr

namespace Connection

/-- `GetStream`. -/
def getStream (c : Connection) (stream : Fd) : Option Nat := c.streams.lookup stream

/-- The `switch` of `Write`. -/
def pick (c : Connection) (stream : Fd) : Pick :=
  if stream = publicStream then
    match c.streams.head? with
    | some (_, object) => .object object
    | none => .create
  else if stream = lastStream then
    match c.streams.getLast? with
    | some (_, object) => .object object
    | none => .create
  else if stream = alwaysNewStream then .create
  else
    match c.getStream stream with
    | some object => .object object
    | none => .nothing

end Connection

namespace Service

def modConnection (n : Service) (connection : Nat) (f : Connection → Connection) : Service :=
  { n with connections := Function.update n.connections connection (f (n.connections connection)) }

def modObject (n : Service) (object : Nat) (f : StreamObject → StreamObject) : Service :=
  { n with objects := Function.update n.objects object (f (n.objects object)) }

/-- A call into the library. -/
def perform (n : Service) (action : Action) : Run (CallResult × Service) := do
  let (result, world) ← n.world.perform action
  return (result, { n with world })

/-- `Stream::Close` up to the callback `OnStreamClose`. -/
def closeObject (n : Service) (object : Nat) : Service :=
  n.modObject object fun o => { o with output := o.output.close }

/-- `streams_.clear()`: the destructors close the streams. -/
def clearStreams (n : Service) (connection : Nat) : Service :=
  ((n.connections connection).streams.foldl (fun n entry => n.closeObject entry.2) n).modConnection connection
    fun c => { c with streams := [] }

/-- A new `Stream` in `streams_`; the one it replaces there, if any, is destroyed. -/
def addStream (n : Service) (connection : Nat) (stream : Fd) : Service :=
  let replaced := (n.connections connection).getStream stream
  let n := { n with
    objects := Function.update n.objects n.numObjects { connection, stream }
    numObjects := n.numObjects + 1 }.modConnection connection fun c =>
      { c with streams := insertStream stream n.numObjects c.streams }
  match replaced with
  | none => n
  | some object => n.closeObject object

/-- A new `Connection` for a socket descriptor. -/
def addConnection (n : Service) (socket : Fd) (connected : Bool) : Service :=
  let entry : SocketId :=
    match n.world.fdManager socket with
    | some (.socket s) => s
    | _ => 0
  { n with
    connections := Function.update n.connections n.numConnections { socket, connected, entry }
    numConnections := n.numConnections + 1 }

/-- What the calls on one `Stream` handed over goes to the entry that its descriptor names. -/
def handOver (n : Service) (object : Nat) (output : Stream) (signals : List Signal) : Service :=
  let n' := n.modObject object fun o => { o with output }
  match n.world.fdManager (n.objects object).stream with
  | some (.stream t) =>
    { n' with handed := n.handed ++ [⟨(n.objects object).connection, t, signals⟩] }
  | _ => n'

/-- `QuicWrite` fails on a descriptor that names no stream. -/
def answerOf (n : Service) (object : Nat) (answer : Option Nat) : Option Nat :=
  match n.world.fdManager (n.objects object).stream with
  | some (.stream _) => answer
  | _ => none

/-- `Stream::Write`. -/
def writeObject (n : Service) (object : Nat) (data : List UInt8) (fin : Bool) (answer : Option Nat) : Service :=
  let (_, output, signals) := (n.objects object).output.write data fin (n.answerOf object answer)
  n.handOver object output signals

/-- `Stream::WriteBufferedData`. -/
def writeBufferedObject (n : Service) (object : Nat) (answers : List (Option Nat)) : Service :=
  let (output, signals) := (n.objects object).output.writeBufferedData (answers.map (n.answerOf object))
  n.handOver object output signals

/-- `CreateOutgoingStream`: the new object, also if `QuicCreateStream` failed. -/
def createOutgoingStream (n : Service) (connection streamId : Nat) : Run (Nat × Service) := do
  let socket := (n.connections connection).socket
  let created :=
    match n.world.fdManager socket with
    | some (.socket s) => n.created ++ [(connection, s)]
    | _ => n.created
  let (result, n) ← n.perform (.createStream socket streamId)
  return (n.numObjects, { n with created }.addStream connection result.value)

/-- `Connection::Write`. -/
def write (n : Service) (connection : Nat) (data : List UInt8) (stream : Fd) (fin : Bool) (streamId : Nat)
    (answer : Option Nat) : Run Service :=
  if !(n.connections connection).connected then .ok n
  else
    match (n.connections connection).pick stream with
    | .object object => .ok (n.writeObject object data fin answer)
    | .nothing => .ok n
    | .create => do
      let (object, n) ← n.createOutgoingStream connection streamId
      return n.writeObject object data fin answer

/-- `Connection::Close`, and what `OnError` does for the socket, up to `QuicCloseSocket`. -/
def close (n : Service) (connection : Nat) : Service :=
  (n.clearStreams connection).modConnection connection fun c => { c with closed := true }

/-- One iteration of `OnAcceptSocket` or `OnAcceptStream`. -/
def onAccept (n : Service) (connection : Nat) : Run Service := do
  let c := n.connections connection
  if c.listener then
    let (result, n) ← n.perform (.socketAccept c.socket)
    return if result.value < 0 then n else n.addConnection result.value true
  else
    let (result, n) ← n.perform (.streamAccept c.socket)
    return if result.value < 0 then n else n.addStream connection result.value

/-- One iteration of `OnCanRead`, with its buffer of 10240 bytes. -/
def onCanRead (n : Service) (connection : Nat) (stream : Fd) : Run Service := do
  let (result, n) ← n.perform (.readv stream [10240])
  if result.value < 0 ∧ result.errno ≠ some .eagain then
    match (n.connections connection).getStream stream with
    | some object => return n.closeObject object
    | none => return n
  else return n

/-- `IsConnected` reports a bad descriptor by a value that converts to true. -/
def isConnected (w : World) (sock : Fd) : Bool :=
  match w.fdManager sock with
  | some (.socket s) => (w.sockets s).socketState = .connected
  | _ => true

/-- `OnCanWrite`. -/
def onCanWrite (n : Service) (connection : Nat) (stream : Option Fd) (answers : List (Option Nat)) : Service :=
  match stream with
  | none =>
    if isConnected n.world (n.connections connection).socket && !(n.connections connection).connected then
      n.modConnection connection fun c => { c with connected := true }
    else n
  | some stream =>
    match (n.connections connection).getStream stream with
    | some object => n.writeBufferedObject object answers
    | none => n

/-- `OnError`. -/
def onError (n : Service) (connection : Nat) (stream : Option Fd) : Service :=
  match stream with
  | none => n.close connection
  | some stream =>
    match (n.connections connection).getStream stream with
    | some object =>
      (n.closeObject object).modConnection connection fun c =>
        { c with streams := c.streams.filter fun entry => entry.1 ≠ stream }
    | none => n

def step (n : Service) : Call → Run Service
  | .construct id => do
    let (result, n) ← n.perform (.createSocket id)
    return n.addConnection result.value false
  | .connect connection udp => do
    let (_, n) ← n.perform (.connect (n.connections connection).socket udp)
    return n
  | .accept connection udp os => do
    let (result, n) ← n.perform (.bind (n.connections connection).socket udp os)
    return if result.value < 0 then n else n.modConnection connection fun c => { c with listener := true }
  | .write connection data stream fin streamId answer => n.write connection data stream fin streamId answer
  | .close connection => .ok (n.close connection)
  | .onAccept connection => n.onAccept connection
  | .onCanRead connection stream => n.onCanRead connection stream
  | .onCanWrite connection stream answers => .ok (n.onCanWrite connection stream answers)
  | .onError connection stream => .ok (n.onError connection stream)
  | .releaseStream object => do
    let (_, n) ← n.perform (.closeStream (n.objects object).stream)
    return n.modObject object fun o => { o with released := true }
  | .releaseSocket connection => do
    let (_, n) ← n.perform (.closeSocket (n.connections connection).socket)
    return n.modConnection connection fun c => { c with released := true }
  | .library action => do
    let (_, n) ← n.perform action
    return n

/-- The calls that only connections make. -/
def descriptorCall : Action → Bool
  | .createSocket _ | .socketAccept _ | .closeSocket _ | .streamAccept _ | .createStream .. | .closeStream _ => true
  | _ => false

/-- Calls are made on objects that exist, a descriptor is closed once by an object that is marked, and the
library's environment keeps its promises. -/
def admits (n : Service) : Call → Bool
  | .construct _ => true
  | .connect connection udp => decide (connection < n.numConnections) && n.world.udpFresh udp
  | .accept connection udp _ => decide (connection < n.numConnections) && n.world.udpFresh udp
  | .write connection .. | .close connection | .onAccept connection | .onCanRead connection _
  | .onCanWrite connection .. | .onError connection _ => decide (connection < n.numConnections)
  | .releaseStream object =>
    decide (object < n.numObjects) && (n.objects object).output.closed && !(n.objects object).released
  | .releaseSocket connection =>
    decide (connection < n.numConnections) && (n.connections connection).closed &&
      !(n.connections connection).released
  | .library action => n.world.admits action && !descriptorCall action

def system : Machine.System Service Call Fault where
  guard n call := n.admits call = true
  step := step

instance (n : Service) (call : Call) : Decidable (system.guard n call) :=
  inferInstanceAs (Decidable (n.admits call = true))

end Service

end PosixQuic.Simple
