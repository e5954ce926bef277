import Mathlib.Logic.Relation
import Mathlib.Tactic.SplitIfs

/-! # Reachability of a guarded, executable transition function

A system is a step function that may fault, together with a guard saying which labels its
environment may issue in which state. A label whose guard holds and whose step does not fault moves
the state. Reachability is the reflexive transitive closure of these moves, so the one induction on
runs is the invariant rule. `replay` runs a concrete list of labels with every guard checked, which
turns a computation into a reachability proof.
-/

namespace Machine

variable {State Label Fault : Type*}

/-- Executable transitions and the labels admitted in each state. -/
structure System (State Label Fault : Type*) where
  guard : State → Label → Prop
  step : State → Label → Except Fault State

namespace System

variable (system : System State Label Fault)

/-- One admitted transition that does not fault. -/
def Moves (before after : State) : Prop :=
  ∃ label, system.guard before label ∧ system.step before label = .ok after

/-- `after` ends some finite run from `before`. -/
def Reachable : State → State → Prop := Relation.ReflTransGen system.Moves

/-- The same transitions, admitted in fewer states. -/
def restrict (condition : State → Label → Prop) : System State Label Fault where
  guard state label := system.guard state label ∧ condition state label
  step := system.step

variable {system} {first last : State}

instance {condition : State → Label → Prop} [∀ state label, Decidable (system.guard state label)]
    [∀ state label, Decidable (condition state label)] (state : State) (label : Label) :
    Decidable ((system.restrict condition).guard state label) :=
  inferInstanceAs (Decidable (system.guard state label ∧ condition state label))

theorem Reachable.refl (state : State) : system.Reachable state state := Relation.ReflTransGen.refl

theorem Reachable.trans {middle : State} (left : system.Reachable first middle) (right : system.Reachable middle last) :
    system.Reachable first last :=
  Relation.ReflTransGen.trans left right

theorem Reachable.move {before after : State} {label : Label} (run : system.Reachable first before)
    (admitted : system.guard before label) (stepped : system.step before label = .ok after) :
    system.Reachable first after :=
  Relation.ReflTransGen.tail run ⟨label, admitted, stepped⟩

/-- A property of the first state that every admitted step keeps holds in every state reached. -/
theorem Reachable.invariant {P : State → Prop} (run : system.Reachable first last) (start : P first)
    (keep : ∀ before label after, P before → system.guard before label →
      system.step before label = .ok after → P after) : P last := by
  induction run with
  | refl => exact start
  | tail _ move ih =>
    obtain ⟨label, admitted, stepped⟩ := move
    exact keep _ label _ ih admitted stepped

/-- Every run of the restricted system is a run of the unrestricted one. -/
theorem Reachable.of_restrict {condition : State → Label → Prop}
    (run : (system.restrict condition).Reachable first last) : system.Reachable first last := by
  induction run with
  | refl => exact .refl first
  | tail _ move ih =>
    obtain ⟨label, admitted, stepped⟩ := move
    exact ih.move admitted.1 stepped

variable (system) in
/-- Execute labels in order, refusing one whose guard fails. -/
def replay? [∀ state label, Decidable (system.guard state label)] (state : State) :
    List Label → Option State
  | [] => some state
  | label :: rest =>
    if system.guard state label then
      match system.step state label with
      | .ok next => replay? next rest
      | .error _ => none
    else none

theorem replay?_cons [∀ state label, Decidable (system.guard state label)] {label : Label} {rest : List Label}
    (executed : system.replay? first (label :: rest) = some last) :
    system.guard first label ∧ ∃ next, system.step first label = .ok next ∧ system.replay? next rest = some last := by
  simp only [replay?] at executed
  split_ifs at executed with admitted
  split at executed
  · next next stepped => exact ⟨admitted, next, stepped, executed⟩
  · contradiction

theorem reachable_of_replay? [∀ state label, Decidable (system.guard state label)] {labels : List Label}
    (executed : system.replay? first labels = some last) : system.Reachable first last := by
  induction labels generalizing first with
  | nil =>
    cases executed
    exact .refl _
  | cons label rest ih =>
    obtain ⟨admitted, next, stepped, continued⟩ := replay?_cons executed
    exact ((Reachable.refl first).move admitted stepped).trans (ih continued)

theorem exists_reachable [∀ state label, Decidable (system.guard state label)] (labels : List Label)
    {P : State → Prop} (ends : ∃ last ∈ system.replay? first labels, P last) :
    ∃ last, system.Reachable first last ∧ P last :=
  ends.imp fun _ ⟨executed, holds⟩ => ⟨reachable_of_replay? executed, holds⟩

/-- A run of labels that meet a condition in every state is a run of the restricted system. -/
theorem reachable_restrict_of_replay? [∀ state label, Decidable (system.guard state label)]
    {condition : State → Label → Prop} {labels : List Label} (executed : system.replay? first labels = some last)
    (meets : ∀ label ∈ labels, ∀ state, condition state label) : (system.restrict condition).Reachable first last := by
  induction labels generalizing first with
  | nil =>
    cases executed
    exact .refl _
  | cons label rest ih =>
    obtain ⟨admitted, next, stepped, executed⟩ := replay?_cons executed
    have restricted : (system.restrict condition).guard first label :=
      ⟨admitted, meets label (List.mem_cons_self ..) first⟩
    have continued := ih executed fun other member => meets other (List.mem_cons_of_mem _ member)
    exact ((Reachable.refl first).move restricted stepped).trans continued

end System

end Machine
