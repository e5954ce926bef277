import PosixQuic.Model.SimpleConnection
import PosixQuic.Soundness.Tenure

/-! # Connections of the simple layer keep to their own streams

A `Connection` remembers descriptors as numbers. As long as it has not closed them, the library keeps the entries
behind them, and no number means two things. The numbers in a closed `Connection` or in a closed `Stream` may have
been given to somebody else: a `Stream` that `OnCanRead` has closed stays in `streams_`, and `connected_` outlives
`Close`. Runs in which no closed object is used hand everything to the connection's own streams.
-/

namespace PosixQuic.Simple

open Machine

theorem Stream.closed_write (stream : Stream) (data : List UInt8) (fin : Bool) (answer : Option Nat) :
    (stream.write data fin answer).2.1.closed = stream.closed := by
  unfold Stream.write
  cases fin <;> dsimp only <;> split_ifs <;> rfl

theorem Stream.closed_writeBufferedData (stream : Stream) (answers : List (Option Nat)) :
    (stream.writeBufferedData answers).1.closed = stream.closed := by
  unfold Stream.writeBufferedData
  dsimp only
  split_ifs <;> rfl

/-- A property of the first objects and of one more. -/
theorem update_lt {α : Type} {objects : Nat → α} {number i : Nat} {new : α} (P : α → Prop) (known : i < number + 1)
    (before : i < number → P (objects i)) (last : P new) : P (Function.update objects number new i) := by
  rcases Nat.lt_succ_iff_lt_or_eq.mp known with old | rfl
  · rw [Function.update_of_ne old.ne]
    exact before old
  · rw [Function.update_self]
    exact last

/-- Names in use stay distinct when an object with a new name is added. -/
theorem distinct_update {α : Type} {objects : Nat → α} {number : Nat} {new : α} (inUse : α → Prop) (name : α → Fd)
    (distinct : ∀ i < number, ∀ j < number, inUse (objects i) → inUse (objects j) →
      name (objects i) = name (objects j) → i = j)
    (fresh : ∀ i < number, inUse (objects i) → inUse new → name (objects i) ≠ name new) {i j : Nat}
    (knownI : i < number + 1) (knownJ : j < number + 1) (usedI : inUse (Function.update objects number new i))
    (usedJ : inUse (Function.update objects number new j))
    (same : name (Function.update objects number new i) = name (Function.update objects number new j)) : i = j := by
  rcases Nat.lt_succ_iff_lt_or_eq.mp knownI with oldI | rfl <;> rcases Nat.lt_succ_iff_lt_or_eq.mp knownJ with oldJ | rfl
  · rw [Function.update_of_ne oldI.ne] at usedI same
    rw [Function.update_of_ne oldJ.ne] at usedJ same
    exact distinct i oldI j oldJ usedI usedJ same
  · rw [Function.update_of_ne oldI.ne] at usedI same
    rw [Function.update_self] at usedJ same
    exact (fresh i oldI usedI usedJ same).elim
  · rw [Function.update_self] at usedI same
    rw [Function.update_of_ne oldJ.ne] at usedJ same
    exact (fresh j oldJ usedJ usedI same.symm).elim
  · rfl

/-- What an assignment to `streams_` leaves in the map. -/
theorem mem_insertStream {key : Fd} {object : Nat} {entry : Fd × Nat} :
    ∀ {streams : List (Fd × Nat)}, entry ∈ insertStream key object streams → entry = (key, object) ∨ entry ∈ streams
  | [], member => .inl (List.mem_singleton.mp member)
  | head :: rest, member => by
    unfold insertStream at member
    split_ifs at member
    · exact List.mem_cons.mp member
    · exact (List.mem_cons.mp member).imp_right (List.mem_cons_of_mem head)
    · rcases List.mem_cons.mp member with first | later
      · exact .inr (List.mem_cons.mpr (.inl first))
      · exact (mem_insertStream later).imp_right (List.mem_cons_of_mem head)

/-- The connection may have been closed, and then have released its descriptor. -/
structure Connection.Ages (c c' : Connection) : Prop where
  socket : c'.socket = c.socket
  entry : c'.entry = c.entry
  released : c'.released = false → c.released = false
  closed : c'.closed = false → c.closed = false ∧ c'.released = c.released

theorem Connection.Ages.refl (c : Connection) : c.Ages c := ⟨rfl, rfl, id, fun isOpen => ⟨isOpen, rfl⟩⟩

/-- The stream may have written and been closed, and then have released its descriptor. -/
structure StreamObject.Ages (o o' : StreamObject) : Prop where
  connection : o'.connection = o.connection
  stream : o'.stream = o.stream
  released : o'.released = false → o.released = false
  closed : o'.output.closed = false → o.output.closed = false ∧ o'.released = o.released

theorem StreamObject.Ages.refl (o : StreamObject) : o.Ages o := ⟨rfl, rfl, id, fun isOpen => ⟨isOpen, rfl⟩⟩

/-- The stream has written, and may have been closed. -/
theorem StreamObject.Ages.of_output {o : StreamObject} {output : Stream}
    (closed : output.closed = false → o.output.closed = false) : o.Ages { o with output } :=
  ⟨rfl, rfl, id, fun isOpen => ⟨closed isOpen, rfl⟩⟩

namespace Service

/-- Descriptors that have not been closed name what they named when they were handed out, each another entry. -/
structure Keeps (n : Service) : Prop where
  order : n.world.InOrder
  socket : ∀ a < n.numConnections, (n.connections a).released = false →
    n.world.Secure (.socket (n.connections a).entry) ∧
      n.world.directory.fd (.socket (n.connections a).entry) = (n.connections a).socket
  stream : ∀ o < n.numObjects, (n.objects o).released = false → 0 ≤ (n.objects o).stream →
    ∃ t, n.world.Secure (.stream t) ∧ n.world.directory.fd (.stream t) = (n.objects o).stream ∧
      n.world.home t = (n.connections (n.objects o).connection).entry
  sockets : ∀ a < n.numConnections, ∀ b < n.numConnections, (n.connections a).released = false →
    (n.connections b).released = false → (n.connections a).socket = (n.connections b).socket → a = b
  streams : ∀ o < n.numObjects, ∀ p < n.numObjects, (n.objects o).released = false →
    (n.objects p).released = false → 0 ≤ (n.objects o).stream → (n.objects o).stream = (n.objects p).stream → o = p
  isOpen : ∀ a < n.numConnections, (n.connections a).closed = false → (n.connections a).released = false
  isOpenStream : ∀ o < n.numObjects, (n.objects o).output.closed = false → (n.objects o).released = false
  owner : ∀ o < n.numObjects, (n.objects o).connection < n.numConnections
  listed : ∀ a < n.numConnections, ∀ entry ∈ (n.connections a).streams,
    entry.2 < n.numObjects ∧ (n.objects entry.2).connection = a
  handed : ∀ h ∈ n.handed, h.connection < n.numConnections ∧ h.stream < n.world.numStreams ∧
    n.world.home h.stream = (n.connections h.connection).entry
  created : ∀ c ∈ n.created, c.1 < n.numConnections ∧ c.2 = (n.connections c.1).entry

theorem keeps_init : Keeps {} where
  order := World.inOrder_init
  socket _ known := absurd known (Nat.not_lt_zero _)
  stream _ known := absurd known (Nat.not_lt_zero _)
  sockets _ known := absurd known (Nat.not_lt_zero _)
  streams _ known := absurd known (Nat.not_lt_zero _)
  isOpen _ known := absurd known (Nat.not_lt_zero _)
  isOpenStream _ known := absurd known (Nat.not_lt_zero _)
  owner _ known := absurd known (Nat.not_lt_zero _)
  listed _ known := absurd known (Nat.not_lt_zero _)
  handed _ member := absurd member List.not_mem_nil
  created _ member := absurd member List.not_mem_nil

/-- Closing a stream is not releasing its descriptor. -/
theorem released_closeObject (n : Service) (o p : Nat) :
    ((n.closeObject o).objects p).released = (n.objects p).released := by
  change (Function.update n.objects o { n.objects o with output := (n.objects o).output.close } p).released = _
  by_cases same : p = o
  · rw [same, Function.update_self]
  · rw [Function.update_of_ne same]

/-- The object that `addStream` creates has its descriptor. -/
theorem released_addStream (n : Service) (a : Nat) (stream : Fd) :
    ((n.addStream a stream).objects n.numObjects).released = false ∧
      n.numObjects < (n.addStream a stream).numObjects := by
  have new : (Function.update n.objects n.numObjects { connection := a, stream } n.numObjects).released = false := by
    rw [Function.update_self]
  unfold addStream
  dsimp only
  split
  · exact ⟨new, Nat.lt_succ_self _⟩
  · exact ⟨(released_closeObject ..).trans new, Nat.lt_succ_self _⟩

namespace Keeps

variable {n : Service} {action : Action} {result : CallResult × World} {a o : Nat}

/-! ## Objects -/

theorem age {n' : Service} (keeps : n.Keeps) (world : n'.world = n.world)
    (numConnections : n'.numConnections = n.numConnections) (numObjects : n'.numObjects = n.numObjects)
    (handed : n'.handed = n.handed) (created : n'.created = n.created)
    (connection : ∀ a, (n.connections a).Ages (n'.connections a)) (object : ∀ o, (n.objects o).Ages (n'.objects o))
    (listed : ∀ a < n.numConnections, ∀ entry ∈ (n'.connections a).streams,
      entry.2 < n.numObjects ∧ (n.objects entry.2).connection = a) : n'.Keeps := by
  refine ⟨world ▸ keeps.order, ?_, ?_, ?_, ?_, ?_, ?_, ?_, ?_, ?_, ?_⟩
  · intro a known held
    rw [world, (connection a).entry, (connection a).socket]
    exact keeps.socket a (numConnections ▸ known) ((connection a).released held)
  · intro o known held names
    rw [(object o).stream] at names ⊢
    rw [world, (object o).connection, (connection _).entry]
    exact keeps.stream o (numObjects ▸ known) ((object o).released held) names
  · intro a knownA b knownB heldA heldB same
    rw [(connection a).socket, (connection b).socket] at same
    exact keeps.sockets a (numConnections ▸ knownA) b (numConnections ▸ knownB) ((connection a).released heldA)
      ((connection b).released heldB) same
  · intro o knownO p knownP heldO heldP names same
    rw [(object o).stream] at names same
    rw [(object p).stream] at same
    exact keeps.streams o (numObjects ▸ knownO) p (numObjects ▸ knownP) ((object o).released heldO)
      ((object p).released heldP) names same
  · intro a known isOpen
    obtain ⟨before, same⟩ := (connection a).closed isOpen
    exact same.trans (keeps.isOpen a (numConnections ▸ known) before)
  · intro o known isOpen
    obtain ⟨before, same⟩ := (object o).closed isOpen
    exact same.trans (keeps.isOpenStream o (numObjects ▸ known) before)
  · intro o known
    rw [(object o).connection, numConnections]
    exact keeps.owner o (numObjects ▸ known)
  · intro a known entry member
    rw [(object entry.2).connection, numObjects]
    exact listed a (numConnections ▸ known) entry member
  · intro h member
    rw [numConnections, world, (connection _).entry]
    exact keeps.handed h (handed ▸ member)
  · intro c member
    rw [numConnections, (connection _).entry]
    exact keeps.created c (created ▸ member)

theorem modConnection (keeps : n.Keeps) {f : Connection → Connection}
    (ages : (n.connections a).Ages (f (n.connections a)))
    (streams : ∀ entry ∈ (f (n.connections a)).streams,
      entry ∈ (n.connections a).streams ∨ entry.2 < n.numObjects ∧ (n.objects entry.2).connection = a) :
    (n.modConnection a f).Keeps := by
  refine keeps.age rfl rfl rfl rfl rfl ?_ (fun o => .refl _) ?_
  · intro b
    change (n.connections b).Ages (Function.update n.connections a (f (n.connections a)) b)
    by_cases same : b = a
    · rw [same, Function.update_self]
      exact ages
    · rw [Function.update_of_ne same]
      exact .refl _
  · intro b known entry member
    change entry ∈ (Function.update n.connections a (f (n.connections a)) b).streams at member
    by_cases same : b = a
    · subst same
      rw [Function.update_self] at member
      rcases streams entry member with before | new
      · exact keeps.listed b known entry before
      · exact new
    · rw [Function.update_of_ne same] at member
      exact keeps.listed b known entry member

theorem modObject (keeps : n.Keeps) {f : StreamObject → StreamObject} (ages : (n.objects o).Ages (f (n.objects o))) :
    (n.modObject o f).Keeps := by
  refine keeps.age rfl rfl rfl rfl rfl (fun a => .refl _) ?_ keeps.listed
  intro p
  change (n.objects p).Ages (Function.update n.objects o (f (n.objects o)) p)
  by_cases same : p = o
  · rw [same, Function.update_self]
    exact ages
  · rw [Function.update_of_ne same]
    exact .refl _

theorem closeObject (keeps : n.Keeps) (o : Nat) : (n.closeObject o).Keeps :=
  keeps.modObject (.of_output nofun)

theorem clearStreams (keeps : n.Keeps) (a : Nat) : (n.clearStreams a).Keeps := by
  have closes : ∀ (entries : List (Fd × Nat)) (n : Service), n.Keeps →
      (entries.foldl (fun n entry => n.closeObject entry.2) n).Keeps := by
    intro entries
    induction entries with
    | nil => exact fun _ => id
    | cons entry rest ih => exact fun n keeps => ih _ (keeps.closeObject entry.2)
  exact (closes _ n keeps).modConnection ⟨rfl, rfl, id, fun isOpen => ⟨isOpen, rfl⟩⟩ nofun

theorem close (keeps : n.Keeps) (a : Nat) : (n.close a).Keeps :=
  (keeps.clearStreams a).modConnection ⟨rfl, rfl, id, nofun⟩ fun _ => .inl

/-! ## The library -/

/-- An action of the library that closes no descriptor in use. -/
theorem perform (keeps : n.Keeps) (admitted : n.world.admits action = true)
    (performed : n.world.perform action = .ok result)
    (sockets : ∀ a < n.numConnections, (n.connections a).released = false →
      action.closedFd ≠ some (n.connections a).socket)
    (streams : ∀ o < n.numObjects, (n.objects o).released = false → 0 ≤ (n.objects o).stream →
      action.closedFd ≠ some (n.objects o).stream) : { n with world := result.2 }.Keeps := by
  have order := keeps.order
  have number : n.world.numStreams ≤ result.2.numStreams :=
    (World.perform_finished order.roles order.settled order.toLined admitted performed).2.2.1
  refine ⟨order.perform admitted performed, ?_, ?_, keeps.sockets, keeps.streams, keeps.isOpen, keeps.isOpenStream,
    keeps.owner, keeps.listed, ?_, keeps.created⟩
  · intro a known held
    obtain ⟨secure, remembers⟩ := keeps.socket a known held
    have spares := sockets a known held
    rw [← remembers] at spares
    exact ⟨secure.perform order admitted performed spares,
      (World.perform_spares order admitted performed secure spares).1.trans remembers⟩
  · intro o known held names
    obtain ⟨t, secure, remembers, home⟩ := keeps.stream o known held names
    have spares := streams o known held names
    rw [← remembers] at spares
    exact ⟨t, secure.perform order admitted performed spares,
      (World.perform_spares order admitted performed secure spares).1.trans remembers,
      (World.perform_home order admitted performed (order.stream_lt secure.nonneg)).trans home⟩
  · intro h member
    obtain ⟨knownConnection, knownStream, home⟩ := keeps.handed h member
    exact ⟨knownConnection, knownStream.trans_le number,
      (World.perform_home order admitted performed knownStream).trans home⟩

theorem perform_none (keeps : n.Keeps) (admitted : n.world.admits action = true)
    (performed : n.world.perform action = .ok result) (closes : action.closedFd = none) :
    { n with world := result.2 }.Keeps := by
  refine keeps.perform admitted performed ?_ ?_
  · intro a _ _
    rw [closes]
    exact nofun
  · intro o _ _ _
    rw [closes]
    exact nofun

/-! ## New objects -/

theorem addConnection (keeps : n.Keeps) {s : SocketId} {socket : Fd} (connected : Bool)
    (secure : n.world.Secure (.socket s)) (remembers : n.world.directory.fd (.socket s) = socket)
    (fresh : ∀ a < n.numConnections, (n.connections a).released = false → (n.connections a).socket ≠ socket) :
    (n.addConnection socket connected).Keeps := by
  have found : n.world.fdManager socket = some (.socket s) := remembers ▸ keeps.order.lookup secure
  have added : n.addConnection socket connected = { n with
      connections := Function.update n.connections n.numConnections { socket, connected, entry := s }
      numConnections := n.numConnections + 1 } := by
    rw [Service.addConnection, found]
  rw [added]
  have old : ∀ a < n.numConnections, Function.update n.connections n.numConnections
      { socket, connected, entry := s } a = n.connections a := fun a known => Function.update_of_ne known.ne ..
  refine ⟨keeps.order, ?_, ?_, ?_, keeps.streams, ?_, keeps.isOpenStream, ?_, ?_, ?_, ?_⟩
  · intro a known
    exact update_lt (fun c : Connection => c.released = false → n.world.Secure (.socket c.entry) ∧
      n.world.directory.fd (.socket c.entry) = c.socket) known (keeps.socket a) fun _ => ⟨secure, remembers⟩
  · intro o known held names
    dsimp only
    rw [old _ (keeps.owner o known)]
    exact keeps.stream o known held names
  · intro a knownA b knownB
    refine distinct_update (fun c : Connection => c.released = false) Connection.socket keeps.sockets ?_ knownA knownB
    exact fun i known held _ => fresh i known held
  · intro a known
    exact update_lt (fun c : Connection => c.closed = false → c.released = false) known (keeps.isOpen a) fun _ => rfl
  · exact fun o known => Nat.lt_succ_of_lt (keeps.owner o known)
  · intro a known
    exact update_lt (fun c : Connection => ∀ entry ∈ c.streams, entry.2 < n.numObjects ∧ (n.objects entry.2).connection = a) known
      (keeps.listed a) nofun
  · intro h member
    obtain ⟨known, knownStream, home⟩ := keeps.handed h member
    dsimp only
    rw [old _ known]
    exact ⟨Nat.lt_succ_of_lt known, knownStream, home⟩
  · intro c member
    obtain ⟨known, entry⟩ := keeps.created c member
    dsimp only
    rw [old _ known]
    exact ⟨Nat.lt_succ_of_lt known, entry⟩

/-- The new object that `streams_` has not listed yet. -/
theorem addObject (keeps : n.Keeps) {stream : Fd} (known : a < n.numConnections)
    (names : 0 ≤ stream → ∃ t, n.world.Secure (.stream t) ∧ n.world.directory.fd (.stream t) = stream ∧
      n.world.home t = (n.connections a).entry)
    (fresh : 0 ≤ stream → ∀ o < n.numObjects, (n.objects o).released = false → (n.objects o).stream ≠ stream) :
    { n with
      objects := Function.update n.objects n.numObjects { connection := a, stream }
      numObjects := n.numObjects + 1 }.Keeps := by
  refine ⟨keeps.order, keeps.socket, ?_, keeps.sockets, ?_, keeps.isOpen, ?_, ?_, ?_, keeps.handed, keeps.created⟩
  · intro o knownO
    exact update_lt (fun object : StreamObject => object.released = false → 0 ≤ object.stream → ∃ t, n.world.Secure (.stream t) ∧
      n.world.directory.fd (.stream t) = object.stream ∧
        n.world.home t = (n.connections object.connection).entry) knownO (keeps.stream o) fun _ => names
  · intro o knownO p knownP heldO heldP namesO same
    refine distinct_update (fun object : StreamObject => object.released = false ∧ 0 ≤ object.stream)
      StreamObject.stream ?_ ?_ knownO knownP ⟨heldO, namesO⟩ ⟨heldP, same ▸ namesO⟩ same
    · intro i knownI j knownJ usedI usedJ
      exact keeps.streams i knownI j knownJ usedI.1 usedJ.1 usedI.2
    · intro i knownI usedI used
      exact fresh used.2 i knownI usedI.1
  · intro o knownO
    exact update_lt (fun object : StreamObject => object.output.closed = false → object.released = false) knownO
      (keeps.isOpenStream o) fun _ => rfl
  · intro o knownO
    exact update_lt (fun object : StreamObject => object.connection < n.numConnections) knownO (keeps.owner o) known
  · intro b knownB entry member
    obtain ⟨knownO, connection⟩ := keeps.listed b knownB entry member
    dsimp only
    rw [Function.update_of_ne knownO.ne]
    exact ⟨Nat.lt_succ_of_lt knownO, connection⟩

theorem addStream (keeps : n.Keeps) {stream : Fd} (known : a < n.numConnections)
    (names : 0 ≤ stream → ∃ t, n.world.Secure (.stream t) ∧ n.world.directory.fd (.stream t) = stream ∧
      n.world.home t = (n.connections a).entry)
    (fresh : 0 ≤ stream → ∀ o < n.numObjects, (n.objects o).released = false → (n.objects o).stream ≠ stream) :
    (n.addStream a stream).Keeps := by
  have added := keeps.addObject known names fresh
  have listed : ({ n with
      objects := Function.update n.objects n.numObjects { connection := a, stream }
      numObjects := n.numObjects + 1 }.modConnection a fun c =>
        { c with streams := insertStream stream n.numObjects c.streams }).Keeps := by
    refine added.modConnection ⟨rfl, rfl, id, fun isOpen => ⟨isOpen, rfl⟩⟩ ?_
    intro entry member
    rcases mem_insertStream member with rfl | before
    · refine .inr ⟨Nat.lt_succ_self _, ?_⟩
      dsimp only
      rw [Function.update_self]
    · exact .inl before
  unfold Service.addStream
  dsimp only
  split
  · exact listed
  · next object _ => exact listed.closeObject object

/-! ## What is handed over -/

theorem hand (keeps : n.Keeps) {h : Handover} (connection : h.connection < n.numConnections)
    (stream : h.stream < n.world.numStreams)
    (home : n.world.home h.stream = (n.connections h.connection).entry) :
    { n with handed := n.handed ++ [h] }.Keeps := by
  refine { keeps with handed := ?_ }
  intro other member
  rcases List.mem_append.mp member with before | last
  · exact keeps.handed other before
  · rw [List.mem_singleton.mp last]
    exact ⟨connection, stream, home⟩

theorem create (keeps : n.Keeps) (known : a < n.numConnections) :
    { n with created := n.created ++ [(a, (n.connections a).entry)] }.Keeps := by
  refine { keeps with created := ?_ }
  intro other member
  rcases List.mem_append.mp member with before | last
  · exact keeps.created other before
  · rw [List.mem_singleton.mp last]
    exact ⟨known, rfl⟩

/-- The descriptor of a stream in use names a stream of its connection. -/
theorem home_of_stream (keeps : n.Keeps) {t : StreamId} (known : o < n.numObjects)
    (held : (n.objects o).released = false) (found : n.world.fdManager (n.objects o).stream = some (.stream t)) :
    t < n.world.numStreams ∧ n.world.home t = (n.connections (n.objects o).connection).entry := by
  have positive := (keeps.order.roles.sound.pos_of_held found).1
  obtain ⟨x, secure, remembers, home⟩ := keeps.stream o known held (Int.le_of_lt positive)
  have same : x = t := by
    have holder := keeps.order.lookup secure
    rw [remembers] at holder
    exact EntryPtr.stream.inj (Option.some.inj (holder.symm.trans found))
  subst same
  exact ⟨keeps.order.stream_lt secure.nonneg, home⟩

theorem handOver (keeps : n.Keeps) {output : Stream} {signals : List Signal} (known : o < n.numObjects)
    (held : (n.objects o).released = false) (closed : output.closed = false → (n.objects o).output.closed = false) :
    (n.handOver o output signals).Keeps := by
  have written : (n.modObject o fun object => { object with output }).Keeps := keeps.modObject (.of_output closed)
  unfold Service.handOver
  dsimp only
  split
  · next t found =>
    obtain ⟨stream, home⟩ := keeps.home_of_stream known held found
    exact written.hand (keeps.owner o known) stream home
  · exact written

theorem writeObject (keeps : n.Keeps) (known : o < n.numObjects) (held : (n.objects o).released = false)
    (data : List UInt8) (fin : Bool) (answer : Option Nat) : (n.writeObject o data fin answer).Keeps :=
  keeps.handOver known held fun isOpen => (Stream.closed_write ..).symm.trans isOpen

theorem writeBufferedObject (keeps : n.Keeps) (known : o < n.numObjects) (held : (n.objects o).released = false)
    (answers : List (Option Nat)) : (n.writeBufferedObject o answers).Keeps :=
  keeps.handOver known held fun isOpen => (Stream.closed_writeBufferedData ..).symm.trans isOpen

theorem lookup_socket (keeps : n.Keeps) (known : a < n.numConnections) (isOpen : (n.connections a).closed = false) :
    n.world.fdManager (n.connections a).socket = some (.socket (n.connections a).entry) := by
  obtain ⟨secure, remembers⟩ := keeps.socket a known (keeps.isOpen a known isOpen)
  exact remembers ▸ keeps.order.lookup secure

/-- A stream that the library has just handed out on the socket of an open connection. -/
theorem addGiven (keeps : n.Keeps) (known : a < n.numConnections) (isOpen : (n.connections a).closed = false)
    (admitted : n.world.admits action = true) (performed : n.world.perform action = .ok result)
    (closes : action.closedFd = none)
    (given : result.1.value < 0 ∨ ∃ s t, n.world.fdManager (n.connections a).socket = some (.socket s) ∧
      World.Gives n.world result (.stream t) ∧ result.2.home t = s) :
    ({ n with world := result.2 }.addStream a result.1.value).Keeps := by
  have after := keeps.perform_none admitted performed closes
  refine after.addStream known ?_ ?_
  · intro names
    obtain ⟨s, t, found, gives, home⟩ := given.resolve_left names.not_gt
    have same : s = (n.connections a).entry :=
      EntryPtr.socket.inj (Option.some.inj (found.symm.trans (keeps.lookup_socket known isOpen)))
    exact ⟨t, gives.secure, gives.value.symm, home.trans same⟩
  · intro names o knownO held
    obtain ⟨-, t, -, gives, -⟩ := given.resolve_left names.not_gt
    intro same
    have namesO : 0 ≤ (n.objects o).stream := names.trans_eq same.symm
    obtain ⟨x, secure, remembers, -⟩ := keeps.stream o knownO held namesO
    exact gives.fresh keeps.order admitted performed closes secure (remembers.trans same)

/-- A connection for a socket that the library has just handed out. -/
theorem addGivenSocket (keeps : n.Keeps) (connected : Bool) (admitted : n.world.admits action = true)
    (performed : n.world.perform action = .ok result) (closes : action.closedFd = none) {s : SocketId}
    (gives : World.Gives n.world result (.socket s)) :
    ({ n with world := result.2 }.addConnection result.1.value connected).Keeps := by
  have after := keeps.perform_none admitted performed closes
  refine after.addConnection connected gives.secure gives.value.symm ?_
  intro a known held same
  obtain ⟨secure, remembers⟩ := keeps.socket a known held
  exact gives.fresh keeps.order admitted performed closes secure (remembers.trans same)

end Keeps

/-! ## Runs -/

/-- The object that `Write` is about to use is open. -/
def PickIsOpen (n : Service) (connection : Nat) : Pick → Prop
  | .object object => (n.objects object).output.closed = false
  | .create => (n.connections connection).closed = false
  | .nothing => True

instance (n : Service) (connection : Nat) : (pick : Pick) → Decidable (n.PickIsOpen connection pick)
  | .object object => inferInstanceAs (Decidable ((n.objects object).output.closed = false))
  | .create => inferInstanceAs (Decidable ((n.connections connection).closed = false))
  | .nothing => inferInstanceAs (Decidable True)

/-- No closed stream is written to, and no closed connection creates or accepts streams. -/
def UsesOpen (n : Service) : Call → Prop
  | .write connection _ stream .. =>
    (n.connections connection).connected = true → n.PickIsOpen connection ((n.connections connection).pick stream)
  | .onCanWrite connection (some stream) _ =>
    ∀ object ∈ (n.connections connection).getStream stream, (n.objects object).output.closed = false
  | .onAccept connection =>
    (n.connections connection).listener = false → (n.connections connection).closed = false
  | _ => True

instance (n : Service) : (call : Call) → Decidable (n.UsesOpen call)
  | .write .. => inferInstanceAs (Decidable (_ → _))
  | .onCanWrite connection (some stream) _ =>
    inferInstanceAs (Decidable (∀ object ∈ (n.connections connection).getStream stream,
      (n.objects object).output.closed = false))
  | .onAccept _ => inferInstanceAs (Decidable (_ → _))
  | .onCanWrite _ none _ | .construct _ | .connect .. | .accept .. | .close _ | .onCanRead .. | .onError ..
  | .releaseStream _ | .releaseSocket _ | .library _ => inferInstanceAs (Decidable True)

theorem mem_of_getStream {c : Connection} {stream : Fd} {object : Nat} (found : c.getStream stream = some object) :
    (stream, object) ∈ c.streams := by
  obtain ⟨before, after, split, -⟩ := List.lookup_eq_some_iff.mp found
  rw [split]
  exact List.mem_append_right before List.mem_cons_self

theorem mem_of_pick {c : Connection} {stream : Fd} {object : Nat} (picked : c.pick stream = .object object) :
    ∃ key, (key, object) ∈ c.streams := by
  unfold Connection.pick at picked
  split_ifs at picked
  · split at picked
    · next key o found =>
      cases picked
      exact ⟨key, List.mem_of_head? found⟩
    · cases picked
  · split at picked
    · next key o found =>
      cases picked
      exact ⟨key, List.mem_of_getLast? found⟩
    · cases picked
  · split at picked
    · next o found =>
      cases picked
      exact ⟨stream, mem_of_getStream found⟩
    · cases picked

/-- What follows a call into the library sees its answer and the new state of the library. -/
theorem of_perform_bind {n : Service} {action : Action} {α : Type} {next : CallResult × Service → Run α} {after : α}
    (bound : (n.perform action >>= next) = .ok after) :
    ∃ result, n.world.perform action = .ok result ∧ next (result.1, { n with world := result.2 }) = .ok after := by
  obtain ⟨called, performed, returned⟩ := bind_eq_ok bound
  obtain ⟨result, done, answered⟩ := bind_eq_ok performed
  cases answered
  exact ⟨result, done, returned⟩

namespace Keeps

variable {n after : Service} {a : Nat} {result : CallResult × World}

theorem createOutgoingStream (keeps : n.Keeps) {streamId object : Nat} (known : a < n.numConnections)
    (isOpen : (n.connections a).closed = false) (created : n.createOutgoingStream a streamId = .ok (object, after)) :
    after.Keeps ∧ object < after.numObjects ∧ (after.objects object).released = false := by
  obtain ⟨result, done, returned⟩ := of_perform_bind created
  cases returned
  have noted := keeps.create known
  rw [keeps.lookup_socket known isOpen]
  dsimp only
  have new := released_addStream { n with
    world := result.2, created := n.created ++ [(a, (n.connections a).entry)] } a result.1.value
  refine ⟨noted.addGiven known isOpen rfl done rfl ?_, new.2, new.1⟩
  rcases World.gives_createStream keeps.order done with failed | ⟨s, found, gives, home⟩
  · exact .inl failed
  · exact .inr ⟨s, _, found, gives, home⟩

theorem write (keeps : n.Keeps) {streamId : Nat} {data : List UInt8} {stream : Fd} {fin : Bool} {answer : Option Nat}
    (known : a < n.numConnections) (uses : n.UsesOpen (.write a data stream fin streamId answer))
    (written : n.write a data stream fin streamId answer = .ok after) : after.Keeps := by
  unfold Service.write at written
  split_ifs at written with connected
  · cases written
    exact keeps
  · have isOpen := uses (by simpa using connected)
    split at written
    · next object picked =>
      cases written
      rw [picked] at isOpen
      obtain ⟨key, member⟩ := mem_of_pick picked
      have listed := (keeps.listed a known _ member).1
      exact keeps.writeObject listed (keeps.isOpenStream _ listed isOpen) data fin answer
    · cases written
      exact keeps
    · next picked =>
      rw [picked] at isOpen
      obtain ⟨⟨object, m⟩, created, returned⟩ := bind_eq_ok written
      cases returned
      obtain ⟨keepsAfter, knownObject, held⟩ := keeps.createOutgoingStream known isOpen created
      exact keepsAfter.writeObject knownObject held data fin answer

theorem onAccept (keeps : n.Keeps) (known : a < n.numConnections) (uses : n.UsesOpen (.onAccept a))
    (accepted : n.onAccept a = .ok after) : after.Keeps := by
  unfold Service.onAccept at accepted
  dsimp only at accepted
  split_ifs at accepted with listener
  · obtain ⟨result, done, returned⟩ := of_perform_bind accepted
    cases returned
    dsimp only
    split_ifs with failed
    · exact keeps.perform_none rfl done rfl
    · obtain ⟨s, gives⟩ := (World.gives_socketAccept keeps.order done).resolve_left failed
      exact keeps.addGivenSocket true rfl done rfl gives
  · obtain ⟨result, done, returned⟩ := of_perform_bind accepted
    cases returned
    dsimp only
    split_ifs with failed
    · exact keeps.perform_none rfl done rfl
    · exact keeps.addGiven known (uses (by simpa using listener)) rfl done rfl
        (World.gives_streamAccept keeps.order done)

theorem onCanRead (keeps : n.Keeps) {stream : Fd} (read : n.onCanRead a stream = .ok after) : after.Keeps := by
  obtain ⟨result, done, returned⟩ := of_perform_bind read
  have keepsRead := keeps.perform_none rfl done rfl
  dsimp only at returned
  split_ifs at returned
  · split at returned
    · cases returned
      exact keepsRead.closeObject _
    · cases returned
      exact keepsRead
  · cases returned
    exact keepsRead

theorem onCanWrite (keeps : n.Keeps) {stream : Option Fd} {answers : List (Option Nat)} (known : a < n.numConnections)
    (uses : n.UsesOpen (.onCanWrite a stream answers)) : (n.onCanWrite a stream answers).Keeps := by
  unfold Service.onCanWrite
  cases stream with
  | none =>
    dsimp only
    split_ifs
    · exact keeps.modConnection ⟨rfl, rfl, id, fun isOpen => ⟨isOpen, rfl⟩⟩ fun _ => .inl
    · exact keeps
  | some stream =>
    dsimp only
    split
    · next object found =>
      have listed := (keeps.listed a known _ (mem_of_getStream found)).1
      exact keeps.writeBufferedObject listed (keeps.isOpenStream _ listed (uses object found)) answers
    · exact keeps

theorem onError (keeps : n.Keeps) (a : Nat) (stream : Option Fd) : (n.onError a stream).Keeps := by
  unfold Service.onError
  cases stream with
  | none => exact keeps.close a
  | some stream =>
    dsimp only
    split
    · next object _ =>
      refine (keeps.closeObject object).modConnection ⟨rfl, rfl, id, fun isOpen => ⟨isOpen, rfl⟩⟩ ?_
      exact fun entry member => .inl (List.mem_filter.mp member).1
    · exact keeps

/-- A closed stream gives its descriptor back. -/
theorem releaseStream (keeps : n.Keeps) {o : Nat} (known : o < n.numObjects)
    (closed : (n.objects o).output.closed = true) (held : (n.objects o).released = false)
    (performed : n.world.perform (.closeStream (n.objects o).stream) = .ok result) :
    ({ n with world := result.2 }.modObject o fun object => { object with released := true }).Keeps := by
  have marked : (n.modObject o fun object => { object with released := true }).Keeps := by
    refine keeps.modObject ⟨rfl, rfl, nofun, ?_⟩
    intro isOpen
    cases closed.symm.trans isOpen
  have others : ∀ p, ((n.modObject o fun object => { object with released := true }).objects p).released = false →
      p ≠ o ∧ (n.modObject o fun object => { object with released := true }).objects p = n.objects p := by
    intro p heldP
    change (Function.update n.objects o { n.objects o with released := true } p).released = false at heldP
    have other : p ≠ o := by
      rintro rfl
      rw [Function.update_self] at heldP
      cases heldP
    exact ⟨other, Function.update_of_ne other ..⟩
  refine marked.perform rfl performed ?_ ?_
  · intro a knownA heldA same
    obtain ⟨secure, remembers⟩ := keeps.socket a knownA heldA
    have number : (n.objects o).stream = (n.connections a).socket := Option.some.inj same
    have names : 0 ≤ (n.objects o).stream := secure.nonneg.trans_eq (remembers.trans number.symm)
    obtain ⟨t, -, remembersStream, -⟩ := keeps.stream o known held names
    have holder := keeps.order.roles.sound.owner_unique secure.nonneg
      (remembers.trans (number.symm.trans remembersStream.symm))
    cases holder
  · intro p knownP heldP names same
    obtain ⟨other, unchanged⟩ := others p heldP
    rw [unchanged] at heldP names same
    exact other (keeps.streams p knownP o known heldP held names (Option.some.inj same).symm)

/-- A closed connection gives its descriptor back. -/
theorem releaseSocket (keeps : n.Keeps) (known : a < n.numConnections) (closed : (n.connections a).closed = true)
    (held : (n.connections a).released = false)
    (performed : n.world.perform (.closeSocket (n.connections a).socket) = .ok result) :
    ({ n with world := result.2 }.modConnection a fun c => { c with released := true }).Keeps := by
  have marked : (n.modConnection a fun c => { c with released := true }).Keeps := by
    refine keeps.modConnection ⟨rfl, rfl, nofun, ?_⟩ fun _ => .inl
    intro isOpen
    cases closed.symm.trans isOpen
  have others : ∀ b, ((n.modConnection a fun c => { c with released := true }).connections b).released = false →
      b ≠ a ∧ (n.modConnection a fun c => { c with released := true }).connections b = n.connections b := by
    intro b heldB
    change (Function.update n.connections a { n.connections a with released := true } b).released = false at heldB
    have other : b ≠ a := by
      rintro rfl
      rw [Function.update_self] at heldB
      cases heldB
    exact ⟨other, Function.update_of_ne other ..⟩
  refine marked.perform rfl performed ?_ ?_
  · intro b knownB heldB same
    obtain ⟨other, unchanged⟩ := others b heldB
    rw [unchanged] at heldB same
    exact other (keeps.sockets b knownB a known heldB held (Option.some.inj same).symm)
  · intro o knownO heldO names same
    obtain ⟨t, secureStream, remembersStream, -⟩ := keeps.stream o knownO heldO names
    obtain ⟨-, remembers⟩ := keeps.socket a known held
    have number : (n.connections a).socket = (n.objects o).stream := Option.some.inj same
    have holder := keeps.order.roles.sound.owner_unique secureStream.nonneg
      (remembersStream.trans (number.symm.trans remembers.symm))
    cases holder

/-- What the other calls of the library leave alone. -/
theorem library (keeps : n.Keeps) {action : Action} (admitted : n.world.admits action = true)
    (foreign : descriptorCall action = false) (performed : n.world.perform action = .ok result) :
    { n with world := result.2 }.Keeps := by
  refine keeps.perform_none admitted performed ?_
  cases action with
  | closeSocket sock => cases foreign
  | closeStream stream => cases foreign
  | _ => rfl

theorem step (keeps : n.Keeps) {call : Call} (admitted : n.admits call = true) (uses : n.UsesOpen call)
    (stepped : n.step call = .ok after) : after.Keeps := by
  cases call with
  | construct id =>
    obtain ⟨result, done, returned⟩ := of_perform_bind stepped
    cases returned
    exact keeps.addGivenSocket false rfl done rfl (World.gives_createSocket keeps.order id done)
  | connect a udp =>
    obtain ⟨result, done, returned⟩ := of_perform_bind stepped
    cases returned
    have promised : n.world.admits (.connect (n.connections a).socket udp) = true :=
      (Bool.and_eq_true_iff.mp admitted).2
    exact keeps.perform_none promised done rfl
  | accept a udp os =>
    obtain ⟨result, done, returned⟩ := of_perform_bind stepped
    cases returned
    have promised : n.world.admits (.bind (n.connections a).socket udp os) = true :=
      (Bool.and_eq_true_iff.mp admitted).2
    have bound := keeps.perform_none promised done rfl
    split_ifs
    · exact bound
    · exact bound.modConnection ⟨rfl, rfl, id, fun isOpen => ⟨isOpen, rfl⟩⟩ fun _ => .inl
  | write a data stream fin streamId answer => exact keeps.write (of_decide_eq_true admitted) uses stepped
  | close a =>
    cases stepped
    exact keeps.close a
  | onAccept a => exact keeps.onAccept (of_decide_eq_true admitted) uses stepped
  | onCanRead a stream => exact keeps.onCanRead stepped
  | onCanWrite a stream answers =>
    cases stepped
    exact keeps.onCanWrite (of_decide_eq_true admitted) uses
  | onError a stream =>
    cases stepped
    exact keeps.onError a stream
  | releaseStream o =>
    obtain ⟨result, done, returned⟩ := of_perform_bind stepped
    cases returned
    obtain ⟨marked, held⟩ := Bool.and_eq_true_iff.mp admitted
    obtain ⟨known, closed⟩ := Bool.and_eq_true_iff.mp marked
    exact keeps.releaseStream (of_decide_eq_true known) closed ((Bool.not_eq_true' _).mp held) done
  | releaseSocket a =>
    obtain ⟨result, done, returned⟩ := of_perform_bind stepped
    cases returned
    obtain ⟨marked, held⟩ := Bool.and_eq_true_iff.mp admitted
    obtain ⟨known, closed⟩ := Bool.and_eq_true_iff.mp marked
    exact keeps.releaseSocket (of_decide_eq_true known) closed ((Bool.not_eq_true' _).mp held) done
  | library action =>
    obtain ⟨result, done, returned⟩ := of_perform_bind stepped
    cases returned
    obtain ⟨promised, foreign⟩ := Bool.and_eq_true_iff.mp admitted
    exact keeps.library promised ((Bool.not_eq_true' _).mp foreign) done

end Keeps

/-- If no closed object is used, connections write to streams of their own sockets and create streams there only. -/
theorem connections_isolated {n : Service} (run : (system.restrict UsesOpen).Reachable {} n) :
    (∀ h ∈ n.handed, (n.world.streams h.stream).socketEntry = (n.connections h.connection).entry) ∧
      ∀ c ∈ n.created, c.2 = (n.connections c.1).entry := by
  have keeps : n.Keeps := run.invariant keeps_init fun before call after keeps admitted stepped =>
    keeps.step admitted.1 admitted.2 stepped
  exact ⟨fun h member => (keeps.handed h member).2.2, fun c member => (keeps.created c member).2⟩

/-- Two connected clients; the peer of the first one sends data and closes the stream. -/
def losesStream : List Call :=
  [.construct 7, .construct 8, .connect 0 (.ok 5), .connect 1 (.ok 6), .library (.handshakeComplete 0),
    .library (.handshakeComplete 1), .onCanWrite 0 none [], .onCanWrite 1 none [],
    .write 0 [1] publicStream false 5 (some 1), .library (.streamReceived 0 [9]), .library (.streamClosed 0)]

/-- The second client gets the number of the lost stream, and then both have written. -/
def recyclesStream : List Call :=
  [.releaseStream 0, .write 1 [2] publicStream false 5 (some 1), .write 0 [3] publicStream false 9 (some 1)]

/-- `OnError` closes the lost stream and forgets it. -/
theorem losesStream_isolated : ∃ n, (system.restrict UsesOpen).Reachable {} n ∧ n.handed.length = 3 ∧
    (n.objects 0).stream = (n.objects 1).stream ∧
    (∀ h ∈ n.handed, (n.world.streams h.stream).socketEntry = (n.connections h.connection).entry) ∧
      ∀ c ∈ n.created, c.2 = (n.connections c.1).entry := by
  have ends : ∃ n ∈ (system.restrict UsesOpen).replay? {} (losesStream ++ [.onError 0 (some 3)] ++ recyclesStream),
      n.handed.length = 3 ∧ (n.objects 0).stream = (n.objects 1).stream := by
    decide
  obtain ⟨n, ran, handed, recycled⟩ := ends
  have run := System.reachable_of_replay? ran
  exact ⟨n, run, handed, recycled, connections_isolated run⟩

/-- The application writes to a connection that is closed, when another one has the number of its socket. -/
def writesAfterClose : List Call :=
  [.construct 7, .connect 0 (.ok 5), .library (.handshakeComplete 0), .onCanWrite 0 none [], .close 0,
    .releaseSocket 0, .construct 8, .connect 1 (.ok 6), .library (.handshakeComplete 1),
    .write 0 [1] publicStream false 5 (some 1)]

/-- `OnCanRead` closes the lost stream without forgetting it: what the first client writes next goes to the second. -/
theorem losesStream_crosses :
    (∃ n, system.Reachable {} n ∧ ∃ h ∈ n.handed, h.connection = 0 ∧ h.signals = [.bytes [3]] ∧
      (n.world.streams h.stream).socketEntry = (n.connections 1).entry ∧
      (n.world.streams h.stream).socketEntry ≠ (n.connections 0).entry) ∧
    ∃ n, system.Reachable {} n ∧ (0, (n.connections 1).entry) ∈ n.created ∧
      (n.connections 1).entry ≠ (n.connections 0).entry := by
  constructor
  · apply System.exists_reachable (losesStream ++ [.onCanRead 0 3] ++ recyclesStream)
    decide
  · apply System.exists_reachable writesAfterClose
    decide

end Service

end PosixQuic.Simple
