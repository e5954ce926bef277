import PosixQuic.Model.Basic

/-! # The receive side of a stream entry

`QuicStreamEntry` buffers what libquic delivers and hands it out through `Readv`. The copy loop
walks the iovecs with one cursor into the buffer, exactly as the source does; the segments it
returns are the bytes written behind each visited `iov_base`. The callbacks return the poll event
they trigger, which the enclosing system forwards to the waiting epollers.
-/

namespace PosixQuic

/-- The members of `QuicStreamEntry`. `quartcOpen` says whether `GetQuartcStream` still finds the
stream in its session. -/
structure QuicStreamEntry extends Event where
  udpSocket : Option UdpSocket
  socketEntry : SocketId
  streamId : Nat
  quartcOpen : Bool := true
  finRead : Bool := false
  recvBuffer : List UInt8 := []
deriving DecidableEq, Repr

/-- What one `Readv` returns, copies and leaves behind. -/
structure ReadOutcome where
  result : CallResult
  segments : List (List UInt8)
  entry : QuicStreamEntry
deriving DecidableEq, Repr

namespace QuicStreamEntry

/-- The constructor together with the descriptor `NewQuicStream` assigns. -/
def new (fd : Fd) (udpSocket : Option UdpSocket) (socketEntry : SocketId) (streamId : Nat) :
    QuicStreamEntry :=
  { fd, udpSocket, socketEntry, streamId }

/-- The copy loop from buffer position `pos`: the segments it fills and its final position. -/
def copyLoop (recvBuffer : List UInt8) : List Nat → Nat → List (List UInt8) × Nat
  | [], pos => ([], pos)
  | iovLen :: rest, pos =>
    if pos < recvBuffer.length then
      let copyBytes := min (recvBuffer.length - pos) iovLen
      let (segments, last) := copyLoop recvBuffer rest (pos + copyBytes)
      ((recvBuffer.drop pos).take copyBytes :: segments, last)
    else ([], pos)

/-- `Readv` over iovecs of the given lengths. -/
def readv (stream : QuicStreamEntry) (iov : List Nat) : ReadOutcome :=
  match stream.error with
  | some err => ⟨.fail err, [], stream⟩
  | none =>
    if stream.finRead then ⟨.ok, [], stream⟩
    else if !stream.quartcOpen then ⟨.fail .ebadf, [], stream⟩
    else
      let (segments, pos) := copyLoop stream.recvBuffer iov 0
      let recvBuffer :=
        if pos = stream.recvBuffer.length then [] else stream.recvBuffer.drop pos
      let res := intOfSize pos
      if res = 0 then ⟨.fail .eagain, segments, { stream with recvBuffer }⟩
      else ⟨⟨res, none⟩, segments, { stream with recvBuffer }⟩

/-- `OnReceived` announces readability only when the buffer was empty. -/
def onReceived (stream : QuicStreamEntry) (data : List UInt8) : QuicStreamEntry × Option PollBit :=
  let appended := { stream with recvBuffer := stream.recvBuffer ++ data }
  if stream.recvBuffer.isEmpty then
    let (event, trigger) := stream.toEvent.setReadable true
    ({ appended with toEvent := event }, trigger)
  else (appended, none)

/-- `OnFinRead` only records the end of the stream. -/
def onFinRead (stream : QuicStreamEntry) : QuicStreamEntry := { stream with finRead := true }

/-- `OnClose`, issued after libquic has dropped the stream from its session. -/
def onClose (stream : QuicStreamEntry) : QuicStreamEntry × Option PollBit :=
  let (event, trigger) := stream.toEvent.setError .ebadf 0
  ({ stream with toEvent := event, quartcOpen := false }, trigger)

def onCanWriteNewData (stream : QuicStreamEntry) : QuicStreamEntry × Option PollBit :=
  let (event, trigger) := stream.toEvent.setWritable true
  ({ stream with toEvent := event }, trigger)

end QuicStreamEntry

/-- One callback of libquic or one read of the application. -/
inductive StreamEvent where
  | onReceived (data : List UInt8)
  | onFinRead
  | onClose
  | readv (iov : List Nat)
deriving DecidableEq, Repr

namespace StreamEvent

/-- The callbacks that end a stream for its reader. -/
def endsStream : StreamEvent → Bool
  | .onFinRead | .onClose => true
  | .onReceived _ | .readv _ => false

def isCallback : StreamEvent → Bool
  | .readv _ => false
  | .onReceived _ | .onFinRead | .onClose => true

/-- `QuartcStream::OnDataAvailable` for a peer that sends data and then FIN: every chunk, then the
end of the stream. `QuicStream::OnFinRead` closes the stream first when the write side is already
finished; otherwise the close comes later or not at all. -/
def LibquicOrder (events : List StreamEvent) : Prop :=
  ∃ (chunks : List (List UInt8)) (tail : List StreamEvent),
    events.filter isCallback = chunks.map onReceived ++ tail ∧
      (tail <+: [.onFinRead, .onReceived [], .onClose] ∨
        tail <+: [.onClose, .onFinRead, .onReceived []])

end StreamEvent

namespace QuicStreamEntry

def handle (stream : QuicStreamEntry) : StreamEvent → QuicStreamEntry
  | .onReceived data => (stream.onReceived data).1
  | .onFinRead => stream.onFinRead
  | .onClose => stream.onClose.1
  | .readv iov => (stream.readv iov).entry

/-- The entry after a whole sequence of callbacks and reads. -/
def handleAll (stream : QuicStreamEntry) (events : List StreamEvent) : QuicStreamEntry :=
  events.foldl handle stream

/-- Everything the reads of a run have copied out, in call and segment order. -/
def copiedOut (stream : QuicStreamEntry) : List StreamEvent → List UInt8
  | [] => []
  | .readv iov :: rest =>
    (stream.readv iov).segments.flatten ++ (stream.handle (.readv iov)).copiedOut rest
  | event :: rest => (stream.handle event).copiedOut rest

end QuicStreamEntry

/-- Everything libquic has delivered in a run. -/
def StreamEvent.received : List StreamEvent → List UInt8
  | [] => []
  | .onReceived data :: rest => data ++ received rest
  | _ :: rest => received rest

end PosixQuic
