import PosixQuic.Soundness.StreamOrder
import PosixQuic.Soundness.StreamReads

/-! # Which streams `PublicStream` and `LastStream` name

`Write` takes the two ends of `streams_`, which is ordered by descriptor. The ends are the oldest and the newest
open stream as long as every new stream has a descriptor above those in the map and no closed stream stays there:
recycled numbers break the first condition, `OnCanRead` breaks the second one.
-/

namespace PosixQuic.Simple

open Machine

/-- What `Write` does with the stream that it has selected, if there is one. -/
def Pick.ofOption : Option Nat → Pick
  | some stream => .object stream
  | none => .create

namespace Service

variable {n n' : Service} {a streamId o : Nat}

/-! ## When the ends of the map are the oldest and the newest stream -/

/-- The socket entry that `socket_` names. -/
def entryOf (n : Service) (a : Nat) : Option SocketId :=
  match n.world.fdManager (n.connections a).socket with
  | some (.socket s) => some s
  | _ => none

/-- The stream entry that a descriptor names. -/
def streamEntryOf (n : Service) (stream : Fd) : Option StreamId :=
  match n.world.fdManager stream with
  | some (.stream t) => some t
  | _ => none

/-- A new stream gets a descriptor above those in the map, and no stream in the map is read after it has failed. -/
def Ascending (n : Service) : Call → Prop
  | .write a _ stream .. =>
    (n.connections a).connected = true → (n.connections a).pick stream = .create →
      ∃ s ∈ n.entryOf a, (n.world.sockets s).socketState = .connected ∧ n.Tops a n.world.fdFactory.alloc.1
  | .onAccept a =>
    (n.connections a).listener = false →
      ∀ s ∈ n.entryOf a, ∀ t ∈ (n.world.sockets s).acceptStreams.head?, n.Tops a (n.world.streams t).fd
  | .onCanRead a stream =>
    (n.connections a).getStream stream ≠ none →
      ∃ t ∈ n.streamEntryOf stream, (n.world.streams t).error = none ∧
        ((n.world.streams t).finRead = true ∨ (n.world.streams t).quartcOpen = true)
  | _ => True

instance (n : Service) : (call : Call) → Decidable (n.Ascending call)
  | .write .. => inferInstanceAs (Decidable (_ → _ → _))
  | .onAccept _ => inferInstanceAs (Decidable (_ → _))
  | .onCanRead .. => inferInstanceAs (Decidable (_ → _))
  | .onCanWrite .. | .construct _ | .connect .. | .accept .. | .close _ | .onError .. | .releaseStream _
  | .releaseSocket _ | .library _ => inferInstanceAs (Decidable True)

theorem agrees_world (n : Service) (world : World) : n.Agrees { n with world } :=
  ⟨rfl, rfl, fun _ => rfl, fun _ => rfl, fun _ => rfl⟩

theorem fdManager_of_entryOf {s : SocketId} (names : s ∈ n.entryOf a) :
    n.world.fdManager (n.connections a).socket = some (.socket s) := by
  unfold entryOf at names
  split at names
  · next found => rw [found, Option.some.inj names]
  · cases names

theorem createOutgoingStream_adds {object : Nat} {s : SocketId} (names : s ∈ n.entryOf a)
    (connected : (n.world.sockets s).socketState = .connected)
    (created : n.createOutgoingStream a streamId = .ok (object, n')) :
    object = n.numObjects ∧ ∃ middle, n.Agrees middle ∧ n' = middle.addStream a n.world.fdFactory.alloc.1 := by
  obtain ⟨result, done, returned⟩ := of_perform_bind created
  have value : result.1.value = n.world.fdFactory.alloc.1 := by
    simp only [World.perform, World.withSocket, fdManager_of_entryOf names, World.createStream, connected, ne_eq,
      not_true_eq_false, if_false] at done
    cases done
    simp only [World.newQuicStream, Function.update_self, QuicStreamEntry.new]
  cases returned
  rw [← value]
  refine ⟨rfl, _, ?_, rfl⟩
  exact ⟨rfl, rfl, fun _ => rfl, fun _ => rfl, fun _ => rfl⟩

theorem write_rearranges {data : List UInt8} {stream : Fd} {fin : Bool} {answer : Option Nat}
    (known : a < n.numConnections) (ascending : n.Ascending (.write a data stream fin streamId answer))
    (written : n.write a data stream fin streamId answer = .ok n') : n.Rearranges n' := by
  unfold write at written
  split_ifs at written with unconnected
  · cases written
    exact .same (.refl n)
  · have connected : (n.connections a).connected = true := by simpa using unconnected
    cases picked : (n.connections a).pick stream with
    | object o =>
      rw [picked] at written
      cases written
      exact .same (agrees_writeObject ..)
    | nothing =>
      rw [picked] at written
      cases written
      exact .same (.refl n)
    | create =>
      rw [picked] at written
      obtain ⟨s, names, isConnected, tops⟩ := ascending connected picked
      obtain ⟨created, creates, returned⟩ := bind_eq_ok written
      obtain ⟨-, middle, before, after⟩ := createOutgoingStream_adds names isConnected creates
      cases returned
      exact .added middle a _ known tops before (after ▸ agrees_writeObject ..)

/-- `QuicStreamAccept` fails, or it returns the descriptor of the first stream in the queue. -/
theorem value_streamAccept {result : CallResult × World}
    (done : n.world.perform (.streamAccept (n.connections a).socket) = .ok result) :
    result.1.value < 0 ∨ ∃ s ∈ n.entryOf a, ∃ t ∈ (n.world.sockets s).acceptStreams.head?,
      result.1.value = (n.world.streams t).fd := by
  simp only [World.perform, World.withSocket] at done
  cases found : n.world.fdManager (n.connections a).socket with
  | none =>
    rw [found] at done
    cases done
    exact .inl (show (-1 : Int) < 0 by decide)
  | some entry =>
    rw [found] at done
    cases entry with
    | stream t =>
      cases done
      exact .inl (show (-1 : Int) < 0 by decide)
    | socket s =>
      have names : n.entryOf a = some s := by
        unfold entryOf
        rw [found]
      dsimp only [World.acceptStream] at done
      split_ifs at done
      · cases done
        exact .inl (show (-1 : Int) < 0 by decide)
      · cases queue : (n.world.sockets s).acceptStreams with
        | nil =>
          rw [queue] at done
          cases done
          exact .inl (show (-1 : Int) < 0 by decide)
        | cons t rest =>
          rw [queue] at done
          cases done
          exact .inr ⟨s, names, t, by rw [queue]; rfl, rfl⟩

theorem onAccept_rearranges (known : a < n.numConnections) (ascending : n.Ascending (.onAccept a))
    (accepted : n.onAccept a = .ok n') : n.Rearranges n' := by
  unfold onAccept at accepted
  dsimp only at accepted
  cases listener : (n.connections a).listener with
  | true =>
    simp only [listener, if_true] at accepted
    obtain ⟨result, done, returned⟩ := of_perform_bind accepted
    cases returned
    dsimp only
    split_ifs
    · exact .same (agrees_world ..)
    · exact .opened _ _ _ (agrees_world ..) rfl
  | false =>
    simp only [listener, Bool.false_eq_true, if_false] at accepted
    obtain ⟨result, done, returned⟩ := of_perform_bind accepted
    cases returned
    dsimp only
    split_ifs with failed
    · exact .same (agrees_world ..)
    · rcases value_streamAccept done with negative | ⟨s, names, t, queued, value⟩
      · exact absurd negative failed
      · rw [value]
        exact .added _ a _ known (ascending listener s names t queued) (agrees_world ..) (.refl _)

/-- A read of a stream that has not failed does not close it. -/
theorem readv_succeeds {stream : QuicStreamEntry} (noError : stream.error = none)
    (readable : stream.finRead = true ∨ stream.quartcOpen = true) :
    ¬ ((stream.readv [10240]).result.value < 0 ∧ (stream.readv [10240]).result.errno ≠ some .eagain) := by
  rintro ⟨negative, other⟩
  cases fin : stream.finRead with
  | true =>
    simp only [QuicStreamEntry.readv, noError, fin, if_true] at negative
    exact absurd negative (by decide)
  | false =>
    have isOpen : stream.quartcOpen = true := readable.resolve_left (by rw [fin]; decide)
    have result := (QuicStreamEntry.readv_of_serves ⟨noError, fin, isOpen⟩ [10240]).2.2
    have small : min stream.recvBuffer.length [10240].sum < 2 ^ 31 := by
      simp only [List.sum_cons, List.sum_nil]
      omega
    rw [intOfSize_eq_self small] at result
    rw [result] at negative other
    split_ifs at negative other
    · exact other rfl
    · dsimp only at negative
      omega

theorem onCanRead_agrees {stream : Fd} (ascending : n.Ascending (.onCanRead a stream))
    (read : n.onCanRead a stream = .ok n') : n.Agrees n' := by
  obtain ⟨result, done, returned⟩ := of_perform_bind read
  dsimp only at returned
  split_ifs at returned with failed
  · cases found : (n.connections a).getStream stream with
    | none =>
      rw [found] at returned
      cases returned
      exact agrees_world ..
    | some object =>
      exfalso
      obtain ⟨t, names, noError, readable⟩ := ascending (by rw [found]; exact nofun)
      have entry : n.world.fdManager stream = some (.stream t) := by
        unfold streamEntryOf at names
        split at names
        · next found => rw [found, Option.some.inj names]
        · cases names
      simp only [World.perform, World.withStream, entry] at done
      cases done
      exact readv_succeeds noError readable failed
  · cases returned
    exact agrees_world ..

theorem onCanWrite_agrees (n : Service) (a : Nat) (stream : Option Fd) (answers : List (Option Nat)) :
    n.Agrees (n.onCanWrite a stream answers) := by
  unfold onCanWrite
  split
  · split_ifs
    · exact agrees_modConnection n rfl
    · exact .refl n
  · split
    · exact agrees_writeBufferedObject ..
    · exact .refl n

theorem close_rearranges (known : a < n.numConnections) : n.Rearranges (n.close a) :=
  .cleared a known (agrees_modConnection _ rfl)

theorem onError_rearranges (known : a < n.numConnections) (stream : Option Fd) : n.Rearranges (n.onError a stream) := by
  cases stream with
  | none => exact close_rearranges known
  | some stream =>
    unfold onError
    dsimp only
    cases found : (n.connections a).getStream stream with
    | none => exact .same (.refl n)
    | some object => exact .dropped a object stream known found rfl

theorem step_rearranges {call : Call} (admitted : n.admits call = true) (ascending : n.Ascending call)
    (stepped : n.step call = .ok n') : n.Rearranges n' := by
  cases call with
  | construct id =>
    obtain ⟨result, done, returned⟩ := of_perform_bind stepped
    cases returned
    exact .opened _ _ _ (agrees_world ..) rfl
  | connect a udp =>
    obtain ⟨result, done, returned⟩ := of_perform_bind stepped
    cases returned
    exact .same (agrees_world ..)
  | accept a udp os =>
    obtain ⟨result, done, returned⟩ := of_perform_bind stepped
    cases returned
    split_ifs
    · exact .same (agrees_world ..)
    · exact .same ((agrees_world ..).trans (agrees_modConnection _ rfl))
  | write a data stream fin streamId answer => exact write_rearranges (of_decide_eq_true admitted) ascending stepped
  | close a =>
    cases stepped
    exact close_rearranges (of_decide_eq_true admitted)
  | onAccept a => exact onAccept_rearranges (of_decide_eq_true admitted) ascending stepped
  | onCanRead a stream => exact .same (onCanRead_agrees ascending stepped)
  | onCanWrite a stream answers =>
    cases stepped
    exact .same (onCanWrite_agrees ..)
  | onError a stream =>
    cases stepped
    exact onError_rearranges (of_decide_eq_true admitted) stream
  | releaseStream o =>
    obtain ⟨result, done, returned⟩ := of_perform_bind stepped
    cases returned
    exact .same ((agrees_world ..).trans (agrees_modObject _ rfl rfl))
  | releaseSocket a =>
    obtain ⟨result, done, returned⟩ := of_perform_bind stepped
    cases returned
    exact .same ((agrees_world ..).trans (agrees_modConnection _ rfl))
  | library action =>
    obtain ⟨result, done, returned⟩ := of_perform_bind stepped
    cases returned
    exact .same (agrees_world ..)

theorem Arranged.of_reachable (run : (system.restrict Ascending).Reachable {} n) : n.Arranged := by
  apply run.invariant (P := Arranged)
  · exact arranged_init
  · intro before call after arranged admitted stepped
    exact arranged.rearranges (step_rearranges admitted.1 admitted.2 stepped)

theorem persists_of_reachable (run : (system.restrict Ascending).Reachable n n') : n.Persists n' := by
  apply run.invariant (P := n.Persists)
  · exact .refl n
  · intro before call after persists admitted stepped
    exact persists.trans (step_rearranges admitted.1 admitted.2 stepped).persists

/-! ## The selectors -/

theorem pick_publicStream (c : Connection) : c.pick publicStream = .ofOption (c.streams.map Prod.snd).head? := by
  unfold Connection.pick
  rw [if_pos rfl, List.head?_map]
  cases c.streams.head? <;> rfl

theorem pick_lastStream (c : Connection) : c.pick lastStream = .ofOption (c.streams.map Prod.snd).getLast? := by
  unfold Connection.pick
  rw [if_neg (by decide), if_pos rfl, List.getLast?_map]
  cases c.streams.getLast? <;> rfl

theorem Arranged.picks_oldest (arranged : n.Arranged) (known : a < n.numConnections) :
    (n.connections a).pick publicStream = .ofOption (n.openStreams a).head? := by
  rw [pick_publicStream, arranged.order a known]

theorem head?_openStreams (isOpen : o ∈ n.openStreams a) (oldest : ∀ p ∈ n.openStreams a, o ≤ p) :
    (n.openStreams a).head? = some o := by
  have sorted := n.sorted_openStreams a
  cases streams : n.openStreams a with
  | nil =>
    rw [streams] at isOpen
    cases isOpen
  | cons first rest =>
    rw [streams] at isOpen oldest sorted
    have below : o ≤ first := oldest first (List.mem_cons_self ..)
    rcases List.mem_cons.mp isOpen with rfl | later
    · rfl
    · have := (List.pairwise_cons.mp sorted).1 o later
      omega

theorem le_of_head? (first : (n.openStreams a).head? = some o) {p : Nat} (isOpen : p ∈ n.openStreams a) : o ≤ p := by
  have sorted := n.sorted_openStreams a
  cases streams : n.openStreams a with
  | nil =>
    rw [streams] at isOpen
    cases isOpen
  | cons head rest =>
    rw [streams] at first isOpen sorted
    cases first
    rcases List.mem_cons.mp isOpen with rfl | later
    · exact le_rfl
    · exact ((List.pairwise_cons.mp sorted).1 p later).le

/-- The stream that a `Write` uses, be it the next one to be created. -/
def target (n : Service) (a : Nat) (stream : Fd) : Option Nat :=
  match (n.connections a).pick stream with
  | .object object => some object
  | .create => some n.numObjects
  | .nothing => none

/-- No stream is older than the one that `PublicStream` means, and `Write` leaves it in place. -/
theorem Arranged.target_oldest (arranged : n.Arranged) {data : List UInt8} {fin : Bool} {answer : Option Nat}
    {written : Service} (known : a < n.numConnections) (connected : (n.connections a).connected = true)
    (ascending : n.Ascending (.write a data publicStream fin streamId answer))
    (wrote : n.step (.write a data publicStream fin streamId answer) = .ok written)
    (targets : n.target a publicStream = some o) :
    (o ≤ n.numObjects ∧ ∀ p ∈ n.openStreams a, o ≤ p) ∧ o < written.numObjects ∧
      (written.objects o).connection = a := by
  have picks := arranged.picks_oldest known
  cases first : (n.openStreams a).head? with
  | some oldest =>
    rw [first] at picks
    have same : oldest = o := by
      rw [target, picks] at targets
      exact Option.some.inj targets
    subst same
    obtain ⟨numbered, connection, -⟩ := mem_openStreams.mp (List.mem_of_head? first)
    have persists := (write_rearranges known ascending wrote).persists
    refine ⟨⟨numbered.le, fun p isOpen => le_of_head? first isOpen⟩, numbered.trans_le persists.number, ?_⟩
    exact (persists.connection oldest numbered).trans connection
  | none =>
    rw [first] at picks
    have same : n.numObjects = o := by
      rw [target, picks] at targets
      exact Option.some.inj targets
    subst same
    obtain ⟨s, names, isConnected, tops⟩ := ascending connected picks
    have wrote : n.write a data publicStream fin streamId answer = .ok written := wrote
    unfold write at wrote
    rw [picks, connected] at wrote
    obtain ⟨created, creates, returned⟩ := bind_eq_ok wrote
    obtain ⟨-, middle, before, after⟩ := createOutgoingStream_adds names isConnected creates
    cases returned
    have agrees := agrees_writeObject created.2 created.1 data fin answer
    have tops' : middle.Tops a n.world.fdFactory.alloc.1 := before.tops tops
    have self := objects_addStream_self tops'
    have more : (middle.addStream a n.world.fdFactory.alloc.1).numObjects = n.numObjects + 1 := by
      rw [addStream_of_tops tops', ← before.numObjects]
      rfl
    rw [before.numObjects] at self
    refine ⟨⟨le_rfl, fun p isOpen => ?_⟩, ?_, ?_⟩
    · rw [List.head?_eq_none_iff.mp first] at isOpen
      cases isOpen
    · rw [agrees.numObjects, after, more]
      exact Nat.lt_succ_self _
    · rw [agrees.connection, after, self]

/-- If every new stream gets a descriptor above those in the map and no failed stream in the map is read, then
`PublicStream` means the oldest open stream and `LastStream` the newest, a new one if there is none; and the stream
that a `Write` to `PublicStream` has used is used again as long as it is open. -/
theorem selectors_stable (run : (system.restrict Ascending).Reachable {} n) (known : a < n.numConnections) :
    (n.connections a).pick publicStream = .ofOption (n.openStreams a).head? ∧
    (n.connections a).pick lastStream = .ofOption (n.openStreams a).getLast? ∧
    ∀ data fin streamId answer written later o, (n.connections a).connected = true →
      n.Ascending (.write a data publicStream fin streamId answer) →
      n.step (.write a data publicStream fin streamId answer) = .ok written →
      (system.restrict Ascending).Reachable written later → n.target a publicStream = some o →
      (later.objects o).output.closed = false → (later.connections a).pick publicStream = .object o := by
  have arranged := Arranged.of_reachable run
  refine ⟨arranged.picks_oldest known, ?_, ?_⟩
  · rw [pick_lastStream, arranged.order a known]
  · intro data fin streamId answer written later o connected ascending wrote goesOn targets isOpen
    obtain ⟨⟨bound, oldest⟩, numbered, connection⟩ :=
      arranged.target_oldest known connected ascending wrote targets
    have afterWrite := persists_of_reachable goesOn
    have persists := (write_rearranges known ascending wrote).persists.trans afterWrite
    have arranged' : later.Arranged := by
      have admitted : (system.restrict Ascending).guard n (.write a data publicStream fin streamId answer) :=
        ⟨decide_eq_true known, ascending⟩
      exact .of_reachable ((run.move admitted wrote).trans goesOn)
    have isOpen : o ∈ later.openStreams a := mem_openStreams.mpr
      ⟨numbered.trans_le afterWrite.number, (afterWrite.connection o numbered).trans connection, isOpen⟩
    have known' : a < later.numConnections := by
      obtain ⟨numbered, connection, -⟩ := mem_openStreams.mp isOpen
      exact connection ▸ arranged'.owner o numbered
    -- an open stream below `o` would have been open at the first `Write`
    have first : (later.openStreams a).head? = some o := by
      apply head?_openStreams isOpen
      intro p openLater
      by_contra older
      have old : p < n.numObjects := by omega
      obtain ⟨-, connection, openLater⟩ := mem_openStreams.mp openLater
      have openBefore : p ∈ n.openStreams a := mem_openStreams.mpr
        ⟨old, (persists.connection p old).symm.trans connection, persists.isOpen p old openLater⟩
      exact older (oldest p openBefore)
    rw [arranged'.picks_oldest known', first]
    rfl

/-- A client that is connected. -/
def connectsClient : List Call :=
  [.construct 7, .connect 0 (.ok 5), .library (.handshakeComplete 0), .onCanWrite 0 none []]

/-- The second `Write` creates another stream; the third one is back at the first. -/
theorem connectsClient_stable :
    ∃ n written later, (system.restrict Ascending).replay? {} connectsClient = some n ∧
      n.step (.write 0 [1] publicStream false 5 (some 1)) = .ok written ∧
      (system.restrict Ascending).replay? written [.write 0 [2] alwaysNewStream false 9 (some 1)] = some later ∧
      later.openStreams 0 = [0, 1] ∧ (later.connections 0).pick publicStream = .object 0 := by
  have ends : ∃ n ∈ (system.restrict Ascending).replay? {} connectsClient, 0 < n.numConnections ∧
      (n.connections 0).connected = true ∧ n.Ascending (.write 0 [1] publicStream false 5 (some 1)) ∧
      n.target 0 publicStream = some 0 ∧
      ∃ written ∈ (n.step (.write 0 [1] publicStream false 5 (some 1))).toOption,
        ∃ later ∈ (system.restrict Ascending).replay? written [.write 0 [2] alwaysNewStream false 9 (some 1)],
          later.openStreams 0 = [0, 1] ∧ (later.objects 0).output.closed = false := by
    decide +kernel
  obtain ⟨n, ran, known, connected, ascending, targets, written, wrote, later, goesOn, streams, isOpen⟩ := ends
  have wrote := eq_ok_of_toOption wrote
  refine ⟨n, written, later, ran, wrote, goesOn, streams, ?_⟩
  exact (selectors_stable (System.reachable_of_replay? ran) known).2.2 _ _ _ _ written later 0 connected ascending
    wrote (System.reachable_of_replay? goesOn) targets isOpen

/-- Two clients are connected, the second one writes, and the first one is closed. -/
def recyclesSocket : List Call :=
  [.construct 7, .construct 8, .connect 0 (.ok 5), .connect 1 (.ok 6), .library (.handshakeComplete 0),
    .library (.handshakeComplete 1), .onCanWrite 0 none [], .onCanWrite 1 none [],
    .write 1 [1] publicStream false 5 (some 1), .close 0, .releaseSocket 0]

/-- The number of a closed socket goes to a new stream and puts it first; a stream that `OnCanRead` has closed is
still selected. -/
theorem selectors_unstable :
    (∃ n ∈ system.replay? {} recyclesSocket, (n.connections 1).pick publicStream = .object 0 ∧
      ∃ n' ∈ system.replay? n [.write 1 [2] alwaysNewStream false 9 (some 1)], n'.openStreams 1 = [0, 1] ∧
        (n'.connections 1).pick publicStream = .object 1 ∧ (n'.connections 1).pick lastStream = .object 0) ∧
    ∃ n ∈ system.replay? {} (losesStream ++ [.onCanRead 0 3]), n.openStreams 0 = [] ∧
      (n.connections 0).pick publicStream = .object 0 ∧ (n.connections 0).pick lastStream = .object 0 := by
  decide +kernel

end Service

end PosixQuic.Simple
