import PosixQuic.Machine.Reachable
import Mathlib.Tactic

/-! # The output side of `simple::Connection::Stream`

A stream of the simple layer keeps what the transport does not take at once in `buffers_` and drains it when
the stream becomes writable. What a call hands to the transport is returned as a list of signals in order. The
transport's answer to a `QuicWrite` is an argument: nothing, or the number of leading bytes it takes, and it
takes a FIN passed along exactly when it takes all of the bytes.
-/

namespace PosixQuic.Simple

/-- What a QUIC stream takes from its writer. -/
inductive Signal where
  | bytes (data : List UInt8)
  | fin
deriving DecidableEq, Repr

/-- All bytes among the signals, in order. -/
def taken : List Signal → List UInt8
  | [] => []
  | .bytes data :: rest => data ++ taken rest
  | .fin :: rest => taken rest

/-- `QuicWrite` reports a failure unless some byte was consumed, even if a FIN was. -/
def quicWrite (answer : Option Nat) (data : List UInt8) (fin : Bool) : Int × List Signal :=
  match answer with
  | none => (-1, [])
  | some offered =>
    let consumed := min offered data.length
    (if consumed = 0 then -1 else consumed,
      .bytes (data.take consumed) :: if fin ∧ consumed = data.length then [.fin] else [])

/-- The members of `Connection::Stream` that decide what is sent. -/
structure Stream where
  bufferedFin : Bool := false
  writeFin : Bool := false
  closed : Bool := false
  buffers : List (List UInt8) := []
deriving DecidableEq, Repr

/-- What one `QuicRead` of `OnCanRead` returns. -/
inductive ReadResult where
  | received (data : List UInt8)
  | eagain
  | endOfFile
  | failed
deriving DecidableEq, Repr

namespace Stream

/-- `Stream::Write`: its result, the stream afterwards and what the transport took. -/
def write (stream : Stream) (data : List UInt8) (fin : Bool) (answer : Option Nat) :
    Bool × Stream × List Signal :=
  if stream.bufferedFin then (false, stream, [])
  else
    let stream := if fin then { stream with bufferedFin := true } else stream
    if stream.buffers ≠ [] then (true, { stream with buffers := stream.buffers ++ [data] }, [])
    else
      let (written, signals) := quicWrite answer data fin
      let res := if written < 0 then 0 else written
      if res < data.length then
        (true, { stream with buffers := stream.buffers ++ [data.drop res.toNat] }, signals)
      else (true, stream, signals)

/-- The loop of `WriteBufferedData`, with one answer for each `QuicWrite`; a missing answer is a refusal. -/
def drain : List (List UInt8) → List (Option Nat) → List (List UInt8) × List Signal
  | [], _ => ([], [])
  | buf :: rest, answers =>
    let (res, signals) := quicWrite (answers.headD none) buf false
    if res < 0 then (buf :: rest, signals)
    else if res ≥ buf.length then
      let (left, more) := drain rest answers.tail
      (left, signals ++ more)
    else (buf.drop res.toNat :: rest, signals)

/-- `WriteBufferedData` sends the FIN by `QuicStreamShutdown`. -/
def writeBufferedData (stream : Stream) (answers : List (Option Nat)) : Stream × List Signal :=
  let (buffers, signals) := drain stream.buffers answers
  if buffers = [] ∧ stream.bufferedFin ∧ !stream.writeFin then
    ({ stream with buffers, writeFin := true }, signals ++ [.fin])
  else ({ stream with buffers }, signals)

/-- `Stream::Close` as far as this stream's own members go. -/
def close (stream : Stream) : Stream := { stream with closed := true }

/-- The loop of `Connection::OnCanRead`. It keeps nothing between two reads, so what `OnRecv` does to the
stream is a call between two of these loops. -/
def onCanRead (stream : Stream) : List ReadResult → Stream × List Signal
  | [] => (stream, [])
  | .received _ :: rest => stream.onCanRead rest
  | .eagain :: _ => (stream, [])
  | .endOfFile :: _ => (stream, [.fin])
  | .failed :: _ => (stream.close, [])

end Stream

/-- The results of `QuicRead` end in an end of file before anything else stops the loop. -/
def readsEnd : List ReadResult → Bool
  | .received _ :: rest => readsEnd rest
  | .endOfFile :: _ => true
  | _ => false

/-- The calls on one stream. -/
inductive StreamCall where
  | write (data : List UInt8) (fin : Bool) (answer : Option Nat)
  | writeBufferedData (answers : List (Option Nat))
  | onCanRead (results : List ReadResult)
deriving DecidableEq, Repr

/-- A stream, what its transport took so far and the data of all writes that returned true. `direct` records a
FIN that `Write` itself got through, `ended` an end of file read by `OnCanRead`. -/
structure StreamRun where
  stream : Stream := {}
  wire : List Signal := []
  accepted : List UInt8 := []
  direct : Bool := false
  ended : Bool := false
deriving DecidableEq, Repr

namespace StreamRun

def step (r : StreamRun) : StreamCall → StreamRun
  | .write data fin answer =>
    let (result, stream, signals) := r.stream.write data fin answer
    { r with
      stream
      wire := r.wire ++ signals
      accepted := if result then r.accepted ++ data else r.accepted
      direct := r.direct || signals.contains .fin }
  | .writeBufferedData answers =>
    let (stream, signals) := r.stream.writeBufferedData answers
    { r with stream, wire := r.wire ++ signals }
  | .onCanRead results =>
    let (stream, signals) := r.stream.onCanRead results
    { r with stream, wire := r.wire ++ signals, ended := r.ended || readsEnd results }

/-- Any calls on a stream in any order, with any answers. -/
def system : Machine.System StreamRun StreamCall Empty where
  guard _ _ := True
  step r call := .ok (r.step call)

instance (r : StreamRun) (call : StreamCall) : Decidable (system.guard r call) :=
  inferInstanceAs (Decidable True)

end StreamRun

end PosixQuic.Simple
