import PosixQuic.Machine.Reachable
import Mathlib.Logic.Function.Basic

/-! # The context table of `simple::IOService`

Every `Connection` and every `Stream` contains a `Context`, whose address `AddContext` stores in `contextTable_`
under a new id; the id travels with the events of the object and `GetContext` leads from it back to the address.
An object is named by the order of construction, and a pointer to its `Context` is that name. What the handlers
and the application do between two events of a batch is a sequence of the other steps.
-/

namespace PosixQuic.Simple

/-- The `Context` of an object. `connection` is the `Connection` of a `Stream`, and for a `Connection` itself;
`destroyed` says that the object's destructor has run. -/
structure Context where
  id : BitVec 64 := 0
  isSocket : Bool := true
  connection : Nat
  destroyed : Bool := false
deriving DecidableEq, Repr

/-- An `IOService` with all objects constructed on it. `batch` holds the ids of the events that `Run` has still to
dispatch; `registered` and `dispatched` are the history of the registered ids and of the lookups of `Run`. -/
structure IOService where
  ctxIdInc : BitVec 64
  contextTable : BitVec 64 → Option Nat := fun _ => none
  contexts : Nat → Context := fun object => { connection := object }
  count : Nat := 0
  batch : List (BitVec 64) := []
  registered : List (BitVec 64 × Nat) := []
  dispatched : List (BitVec 64 × Option Nat) := []

inductive ServiceCall where
  | newConnection
  | newServerConnection
  | connect (connection : Nat)
  | accept (connection : Nat) (bound : Bool)
  | newStream (connection : Nat)
  | destroyStream (stream : Nat)
  | destroyConnection (connection : Nat)
  | epollWait (ids : List (BitVec 64))
  | dispatch
deriving DecidableEq, Repr

namespace IOService

def setContext (s : IOService) (object : Nat) (context : Context) : IOService :=
  { s with contexts := Function.update s.contexts object context }

def addContext (s : IOService) (object : Nat) : IOService :=
  let id := s.ctxIdInc + 1
  { s with ctxIdInc := id, contextTable := Function.update s.contextTable id (some object) }

def delContext (s : IOService) (ctxId : BitVec 64) : IOService :=
  { s with contextTable := Function.update s.contextTable ctxId none }

def getContext (s : IOService) (ctxId : BitVec 64) : Option Nat := s.contextTable ctxId

/-- `AddIntoService`, and the same lines of the constructor of `Stream`: the context remembers the id that
`AddContext` returns, and the epoller is told to report it. -/
def addIntoService (s : IOService) (object : Nat) : IOService :=
  let context := s.contexts object
  let s := s.addContext object
  { s.setContext object { context with id := s.ctxIdInc } with
    registered := s.registered ++ [(s.ctxIdInc, object)] }

def construct (s : IOService) (context : Context) : IOService :=
  { s.setContext s.count context with count := s.count + 1 }

/-- The end of both destructors. -/
def destroy (s : IOService) (object : Nat) : IOService :=
  let context := s.contexts object
  let s := if context.id ≠ 0 then s.delContext context.id else s
  s.setContext object { context with destroyed := true }

/-- The streams that `streams_.clear()` destroys. -/
def streamsOf (s : IOService) (connection : Nat) : List Nat :=
  (List.range s.count).filter fun object =>
    !(s.contexts object).isSocket && (s.contexts object).connection = connection && !(s.contexts object).destroyed

def clearStreams (s : IOService) (connection : Nat) : IOService := (s.streamsOf connection).foldl destroy s

def step (s : IOService) : ServiceCall → IOService
  | .newConnection => s.construct { connection := s.count }
  | .newServerConnection => (s.construct { connection := s.count }).addIntoService s.count
  | .connect connection => s.addIntoService connection
  | .accept connection bound => if bound then s.addIntoService connection else s
  | .newStream connection => (s.construct { isSocket := false, connection }).addIntoService s.count
  | .destroyStream stream => s.destroy stream
  | .destroyConnection connection => (s.clearStreams connection).destroy connection
  | .epollWait ids => { s with batch := ids }
  | .dispatch =>
    match s.batch with
    | [] => s
    | id :: rest => { s with batch := rest, dispatched := s.dispatched ++ [(id, s.getContext id)] }

/-- The object exists. -/
def alive (s : IOService) (object : Nat) (isSocket : Bool) : Bool :=
  decide (object < s.count) && (s.contexts object).isSocket == isSocket && !(s.contexts object).destroyed

/-- Members are called on objects that exist, and events carry ids that were registered. -/
def admits (s : IOService) : ServiceCall → Bool
  | .newConnection | .newServerConnection | .dispatch => true
  | .connect connection | .accept connection _ | .newStream connection | .destroyConnection connection =>
    s.alive connection true
  | .destroyStream stream => s.alive stream false
  | .epollWait ids => s.batch.isEmpty && ids.all fun id => s.registered.any fun entry => entry.1 == id

def system : Machine.System IOService ServiceCall Empty where
  guard s call := s.admits call = true
  step s call := .ok (s.step call)

instance (s : IOService) (call : ServiceCall) : Decidable (system.guard s call) :=
  inferInstanceAs (Decidable (s.admits call = true))

end IOService

end PosixQuic.Simple
