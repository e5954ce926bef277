import PosixQuic.Soundness.Isolation

/-! # `streams_` and the open streams of a connection

The streams of a connection are numbered in the order of their creation and `streams_` is ordered by descriptor.
Here is what a step may do to both so that the map keeps to the open streams and to their order.
-/

namespace PosixQuic.Simple

open Machine

namespace Service

variable {n n' : Service} {a object o : Nat} {stream : Fd}

/-- The object is an open stream of the connection. -/
def isStreamOf (n : Service) (connection object : Nat) : Bool :=
  decide ((n.objects object).connection = connection) && !(n.objects object).output.closed

/-- The open streams of a connection, oldest first. -/
def openStreams (n : Service) (connection : Nat) : List Nat :=
  (List.range n.numObjects).filter (n.isStreamOf connection)

theorem mem_openStreams : object ∈ n.openStreams a ↔
    object < n.numObjects ∧ (n.objects object).connection = a ∧ (n.objects object).output.closed = false := by
  unfold openStreams isStreamOf
  simp only [List.mem_filter, List.mem_range, Bool.and_eq_true, decide_eq_true_eq, Bool.not_eq_true']

theorem sorted_openStreams (n : Service) (a : Nat) : (n.openStreams a).Pairwise (· < ·) :=
  List.Pairwise.filter _ List.pairwise_lt_range

/-- The streams in the map and the open ones are the same, in the same order. -/
structure Arranged (n : Service) : Prop where
  order : ∀ a < n.numConnections, (n.connections a).streams.map Prod.snd = n.openStreams a
  keys : ∀ a < n.numConnections, (n.connections a).streams.Pairwise fun left right => left.1 < right.1
  owner : ∀ o < n.numObjects, (n.objects o).connection < n.numConnections

theorem arranged_init : Arranged {} := ⟨nofun, nofun, nofun⟩

/-! ## Steps that concern no stream -/

/-- Both have the same streams in the same state. -/
structure Agrees (n n' : Service) : Prop where
  numConnections : n'.numConnections = n.numConnections
  numObjects : n'.numObjects = n.numObjects
  streams : ∀ a, (n'.connections a).streams = (n.connections a).streams
  connection : ∀ o, (n'.objects o).connection = (n.objects o).connection
  closed : ∀ o, (n'.objects o).output.closed = (n.objects o).output.closed

theorem Agrees.refl (n : Service) : n.Agrees n := ⟨rfl, rfl, fun _ => rfl, fun _ => rfl, fun _ => rfl⟩

theorem Agrees.trans {n'' : Service} (first : n.Agrees n') (second : n'.Agrees n'') : n.Agrees n'' where
  numConnections := second.numConnections.trans first.numConnections
  numObjects := second.numObjects.trans first.numObjects
  streams a := (second.streams a).trans (first.streams a)
  connection o := (second.connection o).trans (first.connection o)
  closed o := (second.closed o).trans (first.closed o)

theorem Agrees.openStreams (agrees : n.Agrees n') (a : Nat) : n'.openStreams a = n.openStreams a := by
  unfold Service.openStreams
  rw [agrees.numObjects]
  apply List.filter_congr
  intro object _
  unfold isStreamOf
  rw [agrees.connection, agrees.closed]

theorem Arranged.agrees (arranged : n.Arranged) (agrees : n.Agrees n') : n'.Arranged := by
  constructor
  · intro a known
    rw [agrees.streams, agrees.openStreams]
    exact arranged.order a (agrees.numConnections ▸ known)
  · intro a known
    rw [agrees.streams]
    exact arranged.keys a (agrees.numConnections ▸ known)
  · intro o known
    rw [agrees.connection, agrees.numConnections]
    exact arranged.owner o (agrees.numObjects ▸ known)

theorem agrees_modConnection (n : Service) {f : Connection → Connection}
    (kept : (f (n.connections a)).streams = (n.connections a).streams) : n.Agrees (n.modConnection a f) := by
  refine ⟨rfl, rfl, fun b => ?_, fun _ => rfl, fun _ => rfl⟩
  change (Function.update n.connections a (f (n.connections a)) b).streams = _
  by_cases same : b = a
  · subst same
    rw [Function.update_self]
    exact kept
  · rw [Function.update_of_ne same]

theorem agrees_modObject (n : Service) {f : StreamObject → StreamObject}
    (connection : (f (n.objects o)).connection = (n.objects o).connection)
    (closed : (f (n.objects o)).output.closed = (n.objects o).output.closed) : n.Agrees (n.modObject o f) := by
  have objects (p : Nat) : (n.modObject o f).objects p = if p = o then f (n.objects o) else n.objects p :=
    Function.update_apply ..
  refine ⟨rfl, rfl, fun _ => rfl, fun p => ?_, fun p => ?_⟩
  · rw [objects]
    split_ifs with same
    · rw [same, connection]
    · rfl
  · rw [objects]
    split_ifs with same
    · rw [same, closed]
    · rfl

theorem agrees_handOver (n : Service) {output : Stream} (signals : List Signal)
    (closed : output.closed = (n.objects o).output.closed) : n.Agrees (n.handOver o output signals) := by
  have written : n.Agrees (n.modObject o fun o => { o with output }) := agrees_modObject n rfl closed
  unfold handOver
  dsimp only
  split
  · exact ⟨written.numConnections, written.numObjects, written.streams, written.connection, written.closed⟩
  · exact written

theorem agrees_writeObject (n : Service) (o : Nat) (data : List UInt8) (fin : Bool) (answer : Option Nat) :
    n.Agrees (n.writeObject o data fin answer) :=
  agrees_handOver n _ (Stream.closed_write ..)

theorem agrees_writeBufferedObject (n : Service) (o : Nat) (answers : List (Option Nat)) :
    n.Agrees (n.writeBufferedObject o answers) :=
  agrees_handOver n _ (Stream.closed_writeBufferedData ..)

/-! ## A new stream -/

/-- The descriptor is above those that the connection has in its map. -/
def Tops (n : Service) (a : Nat) (stream : Fd) : Prop := ∀ entry ∈ (n.connections a).streams, entry.1 < stream

instance (n : Service) (a : Nat) (stream : Fd) : Decidable (n.Tops a stream) :=
  inferInstanceAs (Decidable (∀ entry ∈ (n.connections a).streams, entry.1 < stream))

theorem Agrees.tops (agrees : n.Agrees n') (tops : n.Tops a stream) : n'.Tops a stream := by
  unfold Tops
  rw [agrees.streams]
  exact tops

theorem insertStream_of_tops {key : Fd} {streams : List (Fd × Nat)} (tops : ∀ entry ∈ streams, entry.1 < key) :
    insertStream key object streams = streams ++ [(key, object)] := by
  induction streams with
  | nil => rfl
  | cons head rest ih =>
    have above : head.1 < key := tops head (List.mem_cons_self ..)
    unfold insertStream
    rw [if_neg above.asymm, if_neg above.ne', ih fun entry member => tops entry (List.mem_cons_of_mem _ member)]
    rfl

theorem addStream_of_tops (tops : n.Tops a stream) :
    n.addStream a stream = { n with
      objects := Function.update n.objects n.numObjects { connection := a, stream }
      numObjects := n.numObjects + 1 }.modConnection a fun c =>
        { c with streams := c.streams ++ [(stream, n.numObjects)] } := by
  have missing : (n.connections a).getStream stream = none := by
    apply List.lookup_eq_none_iff.mpr
    intro entry member
    exact bne_iff_ne.mpr (tops entry member).ne'
  unfold addStream
  rw [missing]
  unfold modConnection
  dsimp only
  rw [insertStream_of_tops tops]

theorem objects_addStream_of_lt (tops : n.Tops a stream) (old : o < n.numObjects) :
    (n.addStream a stream).objects o = n.objects o := by
  rw [addStream_of_tops tops]
  exact Function.update_of_ne old.ne ..

theorem objects_addStream_self (tops : n.Tops a stream) :
    (n.addStream a stream).objects n.numObjects = { connection := a, stream } := by
  rw [addStream_of_tops tops]
  exact Function.update_self ..

theorem openStreams_addStream (tops : n.Tops a stream) (b : Nat) :
    (n.addStream a stream).openStreams b = n.openStreams b ++ if a = b then [n.numObjects] else [] := by
  have number : (n.addStream a stream).numObjects = n.numObjects + 1 := by
    rw [addStream_of_tops tops]
    rfl
  have earlier : (List.range n.numObjects).filter ((n.addStream a stream).isStreamOf b) = n.openStreams b := by
    apply List.filter_congr
    intro object member
    unfold isStreamOf
    rw [objects_addStream_of_lt tops (List.mem_range.mp member)]
  have last : (n.addStream a stream).isStreamOf b n.numObjects = decide (a = b) := by
    unfold isStreamOf
    rw [objects_addStream_self tops]
    exact Bool.and_true _
  conv_lhs => unfold openStreams
  rw [number, List.range_succ, List.filter_append, earlier, List.filter_singleton, last,
    Bool.cond_decide]

theorem Arranged.addStream (arranged : n.Arranged) (known : a < n.numConnections) (tops : n.Tops a stream) :
    (n.addStream a stream).Arranged := by
  have number : (n.addStream a stream).numConnections = n.numConnections := by
    rw [addStream_of_tops tops]
    rfl
  have mine : ((n.addStream a stream).connections a).streams = (n.connections a).streams ++ [(stream, n.numObjects)] := by
    rw [addStream_of_tops tops]
    simp only [modConnection, Function.update_self]
  have others {b : Nat} (distinct : b ≠ a) : (n.addStream a stream).connections b = n.connections b := by
    rw [addStream_of_tops tops]
    exact Function.update_of_ne distinct ..
  constructor
  · intro b bound
    rw [number] at bound
    rw [openStreams_addStream tops]
    by_cases same : b = a
    · subst same
      rw [mine, List.map_append, arranged.order b bound, if_pos rfl]
      rfl
    · rw [others same, arranged.order b bound, if_neg (Ne.symm same), List.append_nil]
  · intro b bound
    rw [number] at bound
    by_cases same : b = a
    · subst same
      rw [mine]
      apply List.pairwise_append.mpr
      refine ⟨arranged.keys b bound, List.pairwise_singleton .., ?_⟩
      intro entry member new isNew
      rw [List.mem_singleton.mp isNew]
      exact tops entry member
    · rw [others same]
      exact arranged.keys b bound
  · intro o bound
    have split : o < n.numObjects ∨ o = n.numObjects := by
      rw [addStream_of_tops tops] at bound
      exact Nat.lt_succ_iff_lt_or_eq.mp bound
    rw [number]
    rcases split with old | rfl
    · rw [objects_addStream_of_lt tops old]
      exact arranged.owner o old
    · rw [objects_addStream_self tops]
      exact known

/-! ## Closed streams -/

theorem objects_closeObject (n : Service) (o p : Nat) : (n.closeObject o).objects p =
    if p = o then { n.objects o with output := (n.objects o).output.close } else n.objects p :=
  Function.update_apply ..

theorem connection_closeObject (n : Service) (o p : Nat) :
    ((n.closeObject o).objects p).connection = (n.objects p).connection := by
  rw [objects_closeObject]
  split_ifs with same
  · rw [same]
  · rfl

theorem closed_closeObject (n : Service) (o p : Nat) :
    ((n.closeObject o).objects p).output.closed = ((n.objects p).output.closed || decide (p = o)) := by
  rw [objects_closeObject]
  split_ifs with same
  · simp only [same, Stream.close, decide_true, Bool.or_true]
  · simp only [same, decide_false, Bool.or_false]

theorem openStreams_closeObject (n : Service) (o a : Nat) :
    (n.closeObject o).openStreams a = (n.openStreams a).filter (· ≠ o) := by
  unfold openStreams
  rw [List.filter_filter]
  apply List.filter_congr
  intro object _
  unfold isStreamOf
  rw [connection_closeObject, closed_closeObject, Bool.not_or, decide_not, ← Bool.and_assoc, Bool.and_comm]

/-- The streams that the entries of a map lead to are closed. -/
def closeAll (n : Service) (entries : List (Fd × Nat)) : Service :=
  entries.foldl (fun n entry => n.closeObject entry.2) n

theorem closeAll_cons (n : Service) (entry : Fd × Nat) (rest : List (Fd × Nat)) :
    n.closeAll (entry :: rest) = (n.closeObject entry.2).closeAll rest := rfl

theorem connections_closeAll (entries : List (Fd × Nat)) (n : Service) :
    (n.closeAll entries).connections = n.connections ∧ (n.closeAll entries).numConnections = n.numConnections ∧
      (n.closeAll entries).numObjects = n.numObjects := by
  induction entries generalizing n with
  | nil => exact ⟨rfl, rfl, rfl⟩
  | cons entry rest ih => exact ih (n.closeObject entry.2)

theorem connection_closeAll (entries : List (Fd × Nat)) (n : Service) (o : Nat) :
    ((n.closeAll entries).objects o).connection = (n.objects o).connection := by
  induction entries generalizing n with
  | nil => rfl
  | cons entry rest ih => rw [closeAll_cons, ih, connection_closeObject]

theorem closed_of_closeAll (entries : List (Fd × Nat)) (n : Service) (o : Nat)
    (isOpen : ((n.closeAll entries).objects o).output.closed = false) : (n.objects o).output.closed = false := by
  induction entries generalizing n with
  | nil => exact isOpen
  | cons entry rest ih =>
    have before := ih (n.closeObject entry.2) isOpen
    rw [closed_closeObject, Bool.or_eq_false_iff] at before
    exact before.1

theorem openStreams_closeAll (entries : List (Fd × Nat)) (n : Service) (a : Nat) :
    (n.closeAll entries).openStreams a = (n.openStreams a).filter (· ∉ entries.map Prod.snd) := by
  induction entries generalizing n with
  | nil => simp only [List.map_nil, List.not_mem_nil, not_false_eq_true, decide_true, List.filter_true]; rfl
  | cons entry rest ih =>
    rw [closeAll_cons, ih, openStreams_closeObject, List.filter_filter]
    apply List.filter_congr
    intro object _
    simp only [List.map_cons, List.mem_cons, not_or, Bool.decide_and, ne_eq]
    exact Bool.and_comm ..

/-- A connection closes some of its streams and forgets them. -/
theorem Arranged.forget (arranged : n.Arranged) (known : a < n.numConnections) {entries : List (Fd × Nat)}
    (p : Fd × Nat → Bool) (listed : ∀ entry ∈ entries, entry ∈ (n.connections a).streams)
    (forgets : ∀ entry ∈ (n.connections a).streams, p entry = decide (entry.2 ∉ entries.map Prod.snd)) :
    ((n.closeAll entries).modConnection a fun c => { c with streams := c.streams.filter p }).Arranged := by
  obtain ⟨connections, numConnections, numObjects⟩ := connections_closeAll entries n
  have mine : (((n.closeAll entries).modConnection a fun c => { c with streams := c.streams.filter p }).connections
      a).streams = (n.connections a).streams.filter p := by
    simp only [modConnection, Function.update_self, connections]
  have others {b : Nat} (distinct : b ≠ a) : (((n.closeAll entries).modConnection a fun c =>
      { c with streams := c.streams.filter p }).connections b) = n.connections b := by
    simp only [modConnection, Function.update_of_ne distinct, connections]
  constructor
  · intro b bound
    have bound : b < n.numConnections := numConnections ▸ bound
    change _ = (n.closeAll entries).openStreams b
    rw [openStreams_closeAll]
    by_cases same : b = a
    · subst same
      rw [mine, ← arranged.order b known, List.filter_map, List.filter_congr forgets]
      rfl
    · rw [others same, arranged.order b bound]
      symm
      apply List.filter_eq_self.mpr
      intro object isOpen
      apply decide_eq_true
      intro closes
      obtain ⟨entry, member, rfl⟩ := List.mem_map.mp closes
      -- an entry of `a` leads to a stream of `a`
      have ofA : entry.2 ∈ n.openStreams a := by
        rw [← arranged.order a known]
        exact List.mem_map_of_mem (listed entry member)
      exact same ((mem_openStreams.mp isOpen).2.1.symm.trans (mem_openStreams.mp ofA).2.1)
  · intro b bound
    have bound : b < n.numConnections := numConnections ▸ bound
    by_cases same : b = a
    · subst same
      rw [mine]
      exact (arranged.keys b known).filter p
    · rw [others same]
      exact arranged.keys b bound
  · intro o bound
    change ((n.closeAll entries).objects o).connection < (n.closeAll entries).numConnections
    rw [connection_closeAll, numConnections]
    exact arranged.owner o (numObjects ▸ bound)

theorem Arranged.clearStreams (arranged : n.Arranged) (known : a < n.numConnections) : (n.clearStreams a).Arranged := by
  have forgotten := arranged.forget known (fun _ => false) (fun _ => id)
    fun entry member => (decide_eq_false (not_not.mpr (List.mem_map_of_mem member))).symm
  simp only [List.filter_false] at forgotten
  exact forgotten

/-- Keys and streams of a map are paired. -/
theorem Arranged.paired (arranged : n.Arranged) (known : a < n.numConnections) {left right : Fd × Nat}
    (memberLeft : left ∈ (n.connections a).streams) (memberRight : right ∈ (n.connections a).streams) :
    left.1 = right.1 ↔ left.2 = right.2 := by
  have numbers : ((n.connections a).streams.map Prod.snd).Nodup := by
    rw [arranged.order a known]
    exact (n.sorted_openStreams a).imp ne_of_lt
  have keys : ((n.connections a).streams.map Prod.fst).Nodup :=
    List.pairwise_map.mpr ((arranged.keys a known).imp ne_of_lt)
  constructor
  · intro same
    exact congrArg Prod.snd (List.inj_on_of_nodup_map keys memberLeft memberRight same)
  · intro same
    exact congrArg Prod.fst (List.inj_on_of_nodup_map numbers memberLeft memberRight same)

theorem Arranged.drop (arranged : n.Arranged) (known : a < n.numConnections)
    (found : (n.connections a).getStream stream = some object) :
    ((n.closeObject object).modConnection a fun c =>
      { c with streams := c.streams.filter fun entry => entry.1 ≠ stream }).Arranged := by
  have listed : ∀ entry ∈ [(stream, object)], entry ∈ (n.connections a).streams := by
    intro entry member
    rw [List.mem_singleton.mp member]
    exact mem_of_getStream found
  refine arranged.forget known _ listed fun entry member => ?_
  have paired := arranged.paired known member (mem_of_getStream found)
  apply decide_eq_decide.mpr
  rw [List.map_singleton, List.mem_singleton]
  exact not_congr paired

/-! ## Steps -/

/-- A new connection has no streams. -/
theorem Arranged.addConnection (arranged : n.Arranged) (socket : Fd) (connected : Bool) :
    (n.addConnection socket connected).Arranged := by
  have bound {b : Nat} (known : b < (n.addConnection socket connected).numConnections) :
      b < n.numConnections ∨ b = n.numConnections := Nat.lt_succ_iff_lt_or_eq.mp known
  have old {b : Nat} (known : b < n.numConnections) :
      (n.addConnection socket connected).connections b = n.connections b := Function.update_of_ne known.ne ..
  have new : ((n.addConnection socket connected).connections n.numConnections).streams = [] := by
    simp only [Service.addConnection, Function.update_self]
  constructor
  · intro b known
    change _ = n.openStreams b
    rcases bound known with known | rfl
    · rw [old known]
      exact arranged.order b known
    · rw [new]
      symm
      apply List.eq_nil_iff_forall_not_mem.mpr
      intro object isOpen
      obtain ⟨numbered, ofNew, -⟩ := mem_openStreams.mp isOpen
      exact (arranged.owner object numbered).ne ofNew
  · intro b known
    rcases bound known with known | rfl
    · rw [old known]
      exact arranged.keys b known
    · rw [new]
      exact .nil
  · intro o known
    exact Nat.lt_succ_of_lt (arranged.owner o known)

/-- What a step does to the streams of the connections. -/
inductive Rearranges (n n' : Service) : Prop where
  | same (agrees : n.Agrees n')
  | added (middle : Service) (a : Nat) (stream : Fd) (known : a < n.numConnections) (tops : n.Tops a stream)
    (before : n.Agrees middle) (after : (middle.addStream a stream).Agrees n')
  | dropped (a object : Nat) (stream : Fd) (known : a < n.numConnections)
    (found : (n.connections a).getStream stream = some object)
    (after : n' = (n.closeObject object).modConnection a fun c =>
      { c with streams := c.streams.filter fun entry => entry.1 ≠ stream })
  | cleared (a : Nat) (known : a < n.numConnections) (after : (n.clearStreams a).Agrees n')
  | opened (middle : Service) (socket : Fd) (connected : Bool) (before : n.Agrees middle)
    (after : n' = middle.addConnection socket connected)

theorem Arranged.rearranges (arranged : n.Arranged) (rearranges : n.Rearranges n') : n'.Arranged := by
  cases rearranges with
  | same agrees => exact arranged.agrees agrees
  | added middle a stream known tops before after =>
    have tops' : middle.Tops a stream := before.tops tops
    exact ((arranged.agrees before).addStream (before.numConnections.symm ▸ known) tops').agrees after
  | dropped a object stream known found after =>
    rw [after]
    exact arranged.drop known found
  | cleared a known after => exact (arranged.clearStreams known).agrees after
  | opened middle socket connected before after =>
    rw [after]
    exact (arranged.agrees before).addConnection socket connected

/-- Streams stay with their connection, and what is open was open before. -/
structure Persists (n n' : Service) : Prop where
  number : n.numObjects ≤ n'.numObjects
  connection : ∀ o < n.numObjects, (n'.objects o).connection = (n.objects o).connection
  isOpen : ∀ o < n.numObjects, (n'.objects o).output.closed = false → (n.objects o).output.closed = false

theorem Persists.refl (n : Service) : n.Persists n := ⟨le_rfl, fun _ _ => rfl, fun _ _ => id⟩

theorem Persists.trans {n'' : Service} (first : n.Persists n') (second : n'.Persists n'') : n.Persists n'' where
  number := first.number.trans second.number
  connection o known := (second.connection o (known.trans_le first.number)).trans (first.connection o known)
  isOpen o known isOpen := first.isOpen o known (second.isOpen o (known.trans_le first.number) isOpen)

theorem Agrees.persists (agrees : n.Agrees n') : n.Persists n' where
  number := agrees.numObjects.ge
  connection o _ := agrees.connection o
  isOpen o _ isOpen := (agrees.closed o).symm.trans isOpen

theorem persists_addStream (tops : n.Tops a stream) : n.Persists (n.addStream a stream) := by
  constructor
  · rw [addStream_of_tops tops]
    exact Nat.le_succ _
  · intro o known
    rw [objects_addStream_of_lt tops known]
  · intro o known
    rw [objects_addStream_of_lt tops known]
    exact id

theorem persists_closeAll (n : Service) (entries : List (Fd × Nat)) (a : Nat) (f : Connection → Connection) :
    n.Persists ((n.closeAll entries).modConnection a f) where
  number := (connections_closeAll entries n).2.2.ge
  connection o _ := connection_closeAll entries n o
  isOpen o _ := closed_of_closeAll entries n o

theorem Rearranges.persists (rearranges : n.Rearranges n') : n.Persists n' := by
  cases rearranges with
  | same agrees => exact agrees.persists
  | added middle a stream known tops before after =>
    have tops' : middle.Tops a stream := before.tops tops
    exact (before.persists.trans (persists_addStream tops')).trans after.persists
  | dropped a object stream known found after =>
    rw [after]
    exact persists_closeAll n [(stream, object)] a _
  | cleared a known after => exact (persists_closeAll n (n.connections a).streams a _).trans after.persists
  | opened middle socket connected before after =>
    rw [after]
    exact ⟨before.persists.number, before.persists.connection, before.persists.isOpen⟩

end Service

end PosixQuic.Simple
