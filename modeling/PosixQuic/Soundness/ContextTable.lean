import PosixQuic.Model.IOService
import Mathlib.Tactic

/-! # Where the context table leads to

A destructor removes the entry under the one id that its context remembers, and none if that id is zero. So the
table keeps to objects that exist as long as an object is added once only and the counter does not pass zero.
-/

namespace PosixQuic.Simple.IOService

variable {s : IOService}

/-- `AddContext` is called for a context without id, and does not issue the id zero. -/
def Unwrapped (s : IOService) : ServiceCall → Prop
  | .newServerConnection | .newStream _ => s.ctxIdInc + 1 ≠ 0
  | .connect connection => (s.contexts connection).id = 0 ∧ s.ctxIdInc + 1 ≠ 0
  | .accept connection bound => bound = true → (s.contexts connection).id = 0 ∧ s.ctxIdInc + 1 ≠ 0
  | .newConnection | .destroyStream _ | .destroyConnection _ | .epollWait _ | .dispatch => True

instance (s : IOService) : (call : ServiceCall) → Decidable (s.Unwrapped call)
  | .newServerConnection | .newStream _ => inferInstanceAs (Decidable (s.ctxIdInc + 1 ≠ 0))
  | .connect connection => inferInstanceAs (Decidable ((s.contexts connection).id = 0 ∧ s.ctxIdInc + 1 ≠ 0))
  | .accept connection bound =>
    inferInstanceAs (Decidable (bound = true → (s.contexts connection).id = 0 ∧ s.ctxIdInc + 1 ≠ 0))
  | .newConnection | .destroyStream _ | .destroyConnection _ | .epollWait _ | .dispatch =>
    inferInstanceAs (Decidable True)

/-- The object has not been destroyed. -/
def Alive (s : IOService) (object : Nat) : Prop := object < s.count ∧ (s.contexts object).destroyed = false

/-- The objects: a `Stream` lives inside of a `Connection`. -/
structure Housed (s : IOService) : Prop where
  socket : ∀ object < s.count, (s.contexts object).isSocket = true → (s.contexts object).connection = object
  owner : ∀ object < s.count, (s.contexts object).connection < s.count ∧
    (s.contexts (s.contexts object).connection).isSocket = true
  home : ∀ object, s.Alive object → s.Alive (s.contexts object).connection

/-- The table: an entry leads to an object that remembers it. -/
structure Linked (s : IOService) : Prop where
  leads : ∀ id object, s.contextTable id = some object →
    s.Alive object ∧ (s.contexts object).id = id ∧ (id, object) ∈ s.registered
  issued : ∀ id object, (id, object) ∈ s.registered → id ≠ 0 ∧ id ≤ s.ctxIdInc
  unique : ∀ id first second, (id, first) ∈ s.registered → (id, second) ∈ s.registered → first = second

/-- The batch: events have been registered, and have led to the object that did it. -/
structure Traced (s : IOService) : Prop where
  batch : ∀ id ∈ s.batch, ∃ object, (id, object) ∈ s.registered
  dispatched : ∀ id found, (id, found) ∈ s.dispatched →
    ∃ object, (id, object) ∈ s.registered ∧ (found = none ∨ found = some object)

structure Sound (s : IOService) : Prop where
  housed : s.Housed
  linked : s.Linked
  traced : s.Traced

/-! ## Construction -/

section Construct

variable {context : Context}

theorem contexts_construct_of_lt (context : Context) {object : Nat} (old : object < s.count) :
    (s.construct context).contexts object = s.contexts object :=
  Function.update_of_ne old.ne ..

theorem contexts_construct_self (s : IOService) (context : Context) :
    (s.construct context).contexts s.count = context :=
  Function.update_self ..

theorem alive_construct_of_lt {object : Nat} (context : Context) (old : object < s.count) :
    (s.construct context).Alive object ↔ s.Alive object := by
  unfold Alive
  rw [contexts_construct_of_lt context old]
  have more : object < (s.construct context).count := Nat.lt_succ_of_lt old
  simp only [old, more, true_and]

/-- A new object is its own `Connection`, or it belongs to one that exists. -/
theorem Housed.construct (housed : s.Housed) (existing : context.destroyed = false)
    (belongs : (context.isSocket = true ∧ context.connection = s.count) ∨
      (context.isSocket = false ∧ s.Alive context.connection ∧ (s.contexts context.connection).isSocket = true)) :
    (s.construct context).Housed := by
  have split {object : Nat} (bound : object < (s.construct context).count) : object < s.count ∨ object = s.count :=
    Nat.lt_succ_iff_lt_or_eq.mp bound
  constructor
  · intro object bound isSocket
    rcases split bound with old | rfl
    · rw [contexts_construct_of_lt context old] at isSocket ⊢
      exact housed.socket object old isSocket
    · rw [contexts_construct_self] at isSocket ⊢
      rcases belongs with ⟨-, same⟩ | ⟨isStream, -⟩
      · exact same
      · exact absurd (isStream.symm.trans isSocket) Bool.false_ne_true
  · intro object bound
    rcases split bound with old | rfl
    · rw [contexts_construct_of_lt context old]
      obtain ⟨within, isSocket⟩ := housed.owner object old
      rw [contexts_construct_of_lt context within]
      exact ⟨Nat.lt_succ_of_lt within, isSocket⟩
    · rw [contexts_construct_self]
      rcases belongs with ⟨isSocket, same⟩ | ⟨-, alive, isSocket⟩
      · rw [same, contexts_construct_self]
        exact ⟨Nat.lt_succ_self _, isSocket⟩
      · rw [contexts_construct_of_lt context alive.1]
        exact ⟨Nat.lt_succ_of_lt alive.1, isSocket⟩
  · intro object alive
    rcases split alive.1 with old | rfl
    · rw [contexts_construct_of_lt context old, alive_construct_of_lt context (housed.owner object old).1]
      exact housed.home object ((alive_construct_of_lt context old).mp alive)
    · rw [contexts_construct_self]
      rcases belongs with ⟨-, same⟩ | ⟨-, alive, -⟩
      · rw [same]
        exact ⟨Nat.lt_succ_self _, by rw [contexts_construct_self]; exact existing⟩
      · exact (alive_construct_of_lt context alive.1).mpr alive

theorem Linked.construct (linked : s.Linked) (context : Context) : (s.construct context).Linked := by
  refine ⟨fun id object found => ?_, linked.issued, linked.unique⟩
  obtain ⟨alive, remembers, registered⟩ := linked.leads id object found
  rw [contexts_construct_of_lt context alive.1]
  exact ⟨(alive_construct_of_lt context alive.1).mpr alive, remembers, registered⟩

end Construct

/-! ## Registration -/

section Register

variable {object : Nat}

theorem contexts_addIntoService_of_ne {other : Nat} (distinct : other ≠ object) :
    (s.addIntoService object).contexts other = s.contexts other :=
  Function.update_of_ne distinct ..

theorem contexts_addIntoService_self (s : IOService) (object : Nat) :
    (s.addIntoService object).contexts object = { s.contexts object with id := s.ctxIdInc + 1 } :=
  Function.update_self ..

/-- A new id changes nothing about the objects but what they remember. -/
theorem contexts_addIntoService (s : IOService) (object other : Nat) :
    ∃ id, (s.addIntoService object).contexts other = { s.contexts other with id } := by
  by_cases same : other = object
  · subst same
    exact ⟨_, contexts_addIntoService_self s other⟩
  · exact ⟨_, contexts_addIntoService_of_ne same⟩

theorem alive_addIntoService (s : IOService) (object other : Nat) :
    (s.addIntoService object).Alive other ↔ s.Alive other := by
  obtain ⟨id, same⟩ := s.contexts_addIntoService object other
  unfold Alive
  rw [same]
  rfl

theorem Housed.addIntoService (housed : s.Housed) (object : Nat) : (s.addIntoService object).Housed := by
  constructor
  · intro other bound
    obtain ⟨id, same⟩ := s.contexts_addIntoService object other
    rw [same]
    exact housed.socket other bound
  · intro other bound
    obtain ⟨id, same⟩ := s.contexts_addIntoService object other
    obtain ⟨id', same'⟩ := s.contexts_addIntoService object (s.contexts other).connection
    rw [same]
    change _ ∧ ((s.addIntoService object).contexts (s.contexts other).connection).isSocket = true
    rw [same']
    exact housed.owner other bound
  · intro other alive
    obtain ⟨id, same⟩ := s.contexts_addIntoService object other
    rw [same]
    rw [alive_addIntoService] at alive ⊢
    exact housed.home other alive

/-- The new id is above all that were issued, and the context had none. -/
theorem Linked.addIntoService (linked : s.Linked) (alive : s.Alive object) (unset : (s.contexts object).id = 0)
    (unwrapped : s.ctxIdInc + 1 ≠ 0) : (s.addIntoService object).Linked := by
  have grows : s.ctxIdInc < s.ctxIdInc + 1 := by bv_omega
  have fresh (other : Nat) : (s.ctxIdInc + 1, other) ∉ s.registered := fun registered =>
    absurd (linked.issued _ other registered).2 (BitVec.not_le.mpr grows)
  have split {id : BitVec 64} {other : Nat} (registered : (id, other) ∈ (s.addIntoService object).registered) :
      (id, other) ∈ s.registered ∨ (id = s.ctxIdInc + 1 ∧ other = object) :=
    (List.mem_append.mp registered).imp_right fun new => Prod.mk.inj (List.mem_singleton.mp new)
  constructor
  · intro id other found
    have found : Function.update s.contextTable (s.ctxIdInc + 1) (some object) id = some other := found
    by_cases new : id = s.ctxIdInc + 1
    · subst new
      rw [Function.update_self] at found
      cases found
      rw [alive_addIntoService, contexts_addIntoService_self]
      exact ⟨alive, rfl, List.mem_append_right _ (List.mem_singleton_self _)⟩
    · rw [Function.update_of_ne new] at found
      obtain ⟨alive, remembers, registered⟩ := linked.leads id other found
      have distinct : other ≠ object := by
        rintro rfl
        exact (linked.issued id other registered).1 (remembers.symm.trans unset)
      rw [alive_addIntoService, contexts_addIntoService_of_ne distinct]
      exact ⟨alive, remembers, List.mem_append_left _ registered⟩
  · intro id other registered
    rcases split registered with old | ⟨rfl, rfl⟩
    · obtain ⟨nonzero, below⟩ := linked.issued id other old
      refine ⟨nonzero, ?_⟩
      change id ≤ s.ctxIdInc + 1
      bv_omega
    · exact ⟨unwrapped, BitVec.le_refl _⟩
  · intro id first second left right
    rcases split left with known | ⟨rfl, rfl⟩
    · rcases split right with known' | ⟨rfl, rfl⟩
      · exact linked.unique id first second known known'
      · exact absurd known (fresh first)
    · rcases split right with known | ⟨-, rfl⟩
      · exact absurd known (fresh second)
      · rfl

theorem Traced.addIntoService (traced : s.Traced) (object : Nat) : (s.addIntoService object).Traced := by
  constructor
  · intro id waits
    obtain ⟨owner, registered⟩ := traced.batch id waits
    exact ⟨owner, List.mem_append_left _ registered⟩
  · intro id found looked
    obtain ⟨owner, registered, led⟩ := traced.dispatched id found looked
    exact ⟨owner, List.mem_append_left _ registered, led⟩

end Register

/-! ## Destruction -/

section Destroy

variable {object : Nat}

theorem destroy_eq (s : IOService) (object : Nat) :
    s.destroy object = { s with
      contextTable := if (s.contexts object).id ≠ 0 then
        Function.update s.contextTable (s.contexts object).id none else s.contextTable
      contexts := Function.update s.contexts object { s.contexts object with destroyed := true } } := by
  unfold destroy
  dsimp only
  split_ifs <;> rfl

theorem contexts_destroy (s : IOService) (object other : Nat) :
    (s.destroy object).contexts other =
      { s.contexts other with destroyed := (s.contexts other).destroyed || decide (other = object) } := by
  rw [destroy_eq]
  change Function.update s.contexts object _ other = _
  by_cases same : other = object
  · subst same
    simp only [Function.update_self, decide_true, Bool.or_true]
  · simp only [Function.update_of_ne same, decide_eq_false same, Bool.or_false]

theorem alive_destroy {other : Nat} : (s.destroy object).Alive other ↔ s.Alive other ∧ other ≠ object := by
  unfold Alive
  rw [contexts_destroy, destroy_eq]
  simp only [Bool.or_eq_false_iff, decide_eq_false_iff_not, and_assoc, ne_eq]

theorem count_destroy (s : IOService) (object : Nat) : (s.destroy object).count = s.count := by
  rw [destroy_eq]

theorem Housed.destroy (housed : s.Housed)
    (alone : ∀ other, s.Alive other → other ≠ object → (s.contexts other).connection ≠ object) :
    (s.destroy object).Housed := by
  constructor
  · intro other bound
    rw [count_destroy] at bound
    rw [contexts_destroy]
    exact housed.socket other bound
  · intro other bound
    rw [count_destroy] at bound ⊢
    rw [contexts_destroy, contexts_destroy]
    exact housed.owner other bound
  · intro other alive
    rw [alive_destroy] at alive
    rw [contexts_destroy, alive_destroy]
    exact ⟨housed.home other alive.1, alone other alive.1 alive.2⟩

/-- All entries of an object are under the id that it remembers. -/
theorem Linked.destroy (linked : s.Linked) (object : Nat) : (s.destroy object).Linked := by
  have kept {id : BitVec 64} {other : Nat} (found : (s.destroy object).contextTable id = some other) :
      s.contextTable id = some other ∧ other ≠ object := by
    rw [destroy_eq] at found
    dsimp only at found
    split_ifs at found with remembers
    · by_cases same : id = (s.contexts object).id
      · rw [same, Function.update_self] at found
        cases found
      · rw [Function.update_of_ne same] at found
        refine ⟨found, ?_⟩
        rintro rfl
        exact same (linked.leads id other found).2.1.symm
    · refine ⟨found, ?_⟩
      rintro rfl
      obtain ⟨-, is, registered⟩ := linked.leads id other found
      exact (linked.issued id other registered).1 (is.symm.trans (not_not.mp remembers))
  have registered : (s.destroy object).registered = s.registered := by rw [destroy_eq]
  have counter : (s.destroy object).ctxIdInc = s.ctxIdInc := by rw [destroy_eq]
  constructor
  · intro id other found
    obtain ⟨found, distinct⟩ := kept found
    obtain ⟨alive, remembers, known⟩ := linked.leads id other found
    rw [alive_destroy, contexts_destroy, registered]
    exact ⟨⟨alive, distinct⟩, remembers, known⟩
  · rw [registered, counter]
    exact linked.issued
  · rw [registered]
    exact linked.unique

theorem Traced.destroy (traced : s.Traced) (object : Nat) : (s.destroy object).Traced := by
  rw [destroy_eq]
  exact ⟨traced.batch, traced.dispatched⟩

theorem Sound.destroy (sound : s.Sound)
    (alone : ∀ other, s.Alive other → other ≠ object → (s.contexts other).connection ≠ object) :
    (s.destroy object).Sound :=
  ⟨sound.housed.destroy alone, sound.linked.destroy object, sound.traced.destroy object⟩

/-- Nothing lives in a `Stream`. -/
theorem Sound.destroyStream (sound : s.Sound) (isStream : (s.contexts object).isSocket = false) :
    (s.destroy object).Sound := by
  apply sound.destroy
  rintro other alive - same
  have isSocket := (sound.housed.owner other alive.1).2
  rw [same] at isSocket
  exact absurd (isStream.symm.trans isSocket) Bool.false_ne_true

theorem contexts_foldl_destroy (objects : List Nat) (s : IOService) (other : Nat) :
    (objects.foldl IOService.destroy s).contexts other =
      { s.contexts other with destroyed := (s.contexts other).destroyed || decide (other ∈ objects) } := by
  induction objects generalizing s with
  | nil => simp only [List.foldl_nil, List.not_mem_nil, decide_false, Bool.or_false]
  | cons first rest ih =>
    rw [List.foldl_cons, ih, contexts_destroy]
    simp only [List.mem_cons, Bool.decide_or, Bool.or_assoc]

theorem count_foldl_destroy (objects : List Nat) (s : IOService) :
    (objects.foldl IOService.destroy s).count = s.count := by
  induction objects generalizing s with
  | nil => rfl
  | cons first rest ih => rw [List.foldl_cons, ih, count_destroy]

theorem Sound.foldl_destroy {objects : List Nat} (sound : s.Sound)
    (streams : ∀ object ∈ objects, (s.contexts object).isSocket = false) : (objects.foldl IOService.destroy s).Sound := by
  induction objects generalizing s with
  | nil => exact sound
  | cons first rest ih =>
    rw [List.foldl_cons]
    apply ih
    · exact sound.destroyStream (streams first (List.mem_cons_self ..))
    · intro object member
      rw [contexts_destroy]
      exact streams object (List.mem_cons_of_mem _ member)

theorem mem_streamsOf {connection : Nat} : object ∈ s.streamsOf connection ↔
    s.Alive object ∧ (s.contexts object).isSocket = false ∧ (s.contexts object).connection = connection := by
  unfold streamsOf Alive
  simp only [List.mem_filter, List.mem_range, Bool.and_eq_true, Bool.not_eq_true', decide_eq_true_eq]
  tauto

/-- The destructor of a `Connection` destroys its streams first. -/
theorem Sound.destroyConnection (sound : s.Sound) (connection : Nat) :
    ((s.clearStreams connection).destroy connection).Sound := by
  have cleared : (s.clearStreams connection).Sound :=
    sound.foldl_destroy fun object member => (mem_streamsOf.mp member).2.1
  apply cleared.destroy
  rintro other ⟨bound, existing⟩ distinct same
  rw [clearStreams, count_foldl_destroy] at bound
  rw [clearStreams, contexts_foldl_destroy] at existing same
  simp only [Bool.or_eq_false_iff, decide_eq_false_iff_not, mem_streamsOf] at existing
  cases isSocket : (s.contexts other).isSocket with
  | true => exact distinct ((sound.housed.socket other bound isSocket).symm.trans same)
  | false => exact existing.2 ⟨⟨bound, existing.1⟩, isSocket, same⟩

end Destroy

/-! ## Runs -/

theorem alive_of_admitted {object : Nat} {isSocket : Bool} (admitted : s.alive object isSocket = true) :
    s.Alive object ∧ (s.contexts object).isSocket = isSocket := by
  simp only [alive, Bool.and_eq_true, decide_eq_true_eq, beq_iff_eq, Bool.not_eq_true'] at admitted
  exact ⟨⟨admitted.1.1, admitted.2⟩, admitted.1.2⟩

theorem Sound.construct {context : Context} (sound : s.Sound) (existing : context.destroyed = false)
    (belongs : (context.isSocket = true ∧ context.connection = s.count) ∨
      (context.isSocket = false ∧ s.Alive context.connection ∧ (s.contexts context.connection).isSocket = true)) :
    (s.construct context).Sound :=
  ⟨sound.housed.construct existing belongs, sound.linked.construct context, sound.traced.batch, sound.traced.dispatched⟩

theorem Sound.addIntoService {object : Nat} (sound : s.Sound) (alive : s.Alive object)
    (unset : (s.contexts object).id = 0) (unwrapped : s.ctxIdInc + 1 ≠ 0) : (s.addIntoService object).Sound :=
  ⟨sound.housed.addIntoService object, sound.linked.addIntoService alive unset unwrapped,
    sound.traced.addIntoService object⟩

/-- A constructor that registers its own object. -/
theorem Sound.constructRegistered {context : Context} (sound : s.Sound) (existing : context.destroyed = false)
    (unset : context.id = 0) (unwrapped : s.ctxIdInc + 1 ≠ 0)
    (belongs : (context.isSocket = true ∧ context.connection = s.count) ∨
      (context.isSocket = false ∧ s.Alive context.connection ∧ (s.contexts context.connection).isSocket = true)) :
    ((s.construct context).addIntoService s.count).Sound := by
  have same := contexts_construct_self s context
  apply (sound.construct existing belongs).addIntoService
  · exact ⟨Nat.lt_succ_self _, by rw [same]; exact existing⟩
  · rw [same]
    exact unset
  · exact unwrapped

theorem Sound.dispatch (sound : s.Sound) : (s.step .dispatch).Sound := by
  simp only [step]
  split
  · exact sound
  · next id rest waiting =>
    refine ⟨⟨sound.housed.socket, sound.housed.owner, sound.housed.home⟩,
      ⟨sound.linked.leads, sound.linked.issued, sound.linked.unique⟩, ?_, ?_⟩
    · intro other waits
      exact sound.traced.batch other (waiting ▸ List.mem_cons_of_mem _ waits)
    · intro other found looked
      rcases List.mem_append.mp looked with earlier | now
      · exact sound.traced.dispatched other found earlier
      · obtain ⟨rfl, rfl⟩ := Prod.mk.inj (List.mem_singleton.mp now)
        obtain ⟨object, registered⟩ := sound.traced.batch other (waiting ▸ List.mem_cons_self ..)
        refine ⟨object, registered, ?_⟩
        cases led : s.getContext other with
        | none => exact .inl rfl
        | some target =>
          have known := (sound.linked.leads other target led).2.2
          exact .inr (congrArg some (sound.linked.unique other target object known registered))

theorem Sound.step (sound : s.Sound) {call : ServiceCall} (admitted : s.admits call = true)
    (unwrapped : s.Unwrapped call) : (s.step call).Sound := by
  cases call with
  | newConnection => exact sound.construct rfl (.inl ⟨rfl, rfl⟩)
  | newServerConnection => exact sound.constructRegistered rfl rfl unwrapped (.inl ⟨rfl, rfl⟩)
  | connect connection =>
    exact sound.addIntoService (alive_of_admitted admitted).1 unwrapped.1 unwrapped.2
  | accept connection bound =>
    cases bound with
    | false => exact sound
    | true => exact sound.addIntoService (alive_of_admitted admitted).1 (unwrapped rfl).1 (unwrapped rfl).2
  | newStream connection =>
    obtain ⟨alive, isSocket⟩ := alive_of_admitted admitted
    exact sound.constructRegistered rfl rfl unwrapped (.inr ⟨rfl, alive, isSocket⟩)
  | destroyStream stream => exact sound.destroyStream (alive_of_admitted admitted).2
  | destroyConnection connection => exact sound.destroyConnection connection
  | epollWait ids =>
    refine ⟨⟨sound.housed.socket, sound.housed.owner, sound.housed.home⟩,
      ⟨sound.linked.leads, sound.linked.issued, sound.linked.unique⟩, ?_, sound.traced.dispatched⟩
    intro id waits
    simp only [admits, Bool.and_eq_true, List.all_eq_true, List.any_eq_true, beq_iff_eq] at admitted
    obtain ⟨entry, registered, rfl⟩ := admitted.2 id waits
    exact ⟨entry.2, registered⟩
  | dispatch => exact sound.dispatch

end PosixQuic.Simple.IOService
