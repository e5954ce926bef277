import Mathlib.Data.List.AList
import Mathlib.Tactic

/-! # Reference counts kept beside a table

A table registers values under keys, and each value may use a resource. Beside the table, a map counts
for every resource the registrations that use it, and has no entry for a resource that is not in use.
The counts are exact when they agree with the table, and the lemmas say what registering and
deregistering one value has to do to the map.
-/

namespace Machine

variable {Key Value Resource : Type*} [DecidableEq Key] [DecidableEq Resource]

/-- How many registrations use the resource. -/
def users (table : AList fun _ : Key => Value) (uses : Value → Option Resource) (resource : Resource) : Nat :=
  table.entries.countP fun registration => uses registration.2 = some resource

/-- The map holds the number of users, and nothing for an unused resource. -/
def ExactCounts (table : AList fun _ : Key => Value) (uses : Value → Option Resource)
    (counts : Resource → Option Int) : Prop :=
  ∀ resource, counts resource = if users table uses resource = 0 then none else some (users table uses resource : Int)

variable {table : AList fun _ : Key => Value} {uses : Value → Option Resource} {resource : Resource}

theorem users_pos_iff :
    0 < users table uses resource ↔ ∃ key value, table.lookup key = some value ∧ uses value = some resource := by
  rw [users, List.countP_pos_iff]
  constructor
  · rintro ⟨⟨key, value⟩, member, used⟩
    exact ⟨key, value, AList.mem_lookup_iff.mpr member, by simpa using used⟩
  · rintro ⟨key, value, found, used⟩
    exact ⟨⟨key, value⟩, AList.mem_lookup_iff.mp found, by simpa using used⟩

theorem users_insert {key : Key} (value : Value) (fresh : table.lookup key = none) :
    users (table.insert key value) uses resource =
      users table uses resource + if uses value = some resource then 1 else 0 := by
  rw [users, AList.entries_insert_of_notMem (AList.lookup_eq_none.mp fresh), List.countP_cons]
  simp [users]

theorem users_erase {key : Key} {value : Value} (found : table.lookup key = some value)
    (uses : Value → Option Resource) (resource : Resource) :
    users (table.erase key) uses resource + (if uses value = some resource then 1 else 0) =
      users table uses resource := by
  have present : key ∈ table.entries.keys := AList.lookup_isSome.mp (by simp [found])
  obtain ⟨other, before, after, -, split, erased⟩ := List.exists_of_kerase present
  have same : other = value := by
    have member : ⟨key, other⟩ ∈ table.entries := by simp [split]
    have lookup := AList.mem_lookup_iff.mpr member
    rw [found] at lookup
    exact (Option.some.inj lookup).symm
  subst same
  rw [users, show (table.erase key).entries = table.entries.kerase key from rfl, erased, users, split]
  simp only [List.countP_append, List.countP_cons, decide_eq_true_eq]
  omega

/-- Only the registered values matter. -/
theorem users_congr {uses' : Value → Option Resource}
    (same : ∀ key value, table.lookup key = some value → uses' value = uses value) :
    users table uses' resource = users table uses resource := by
  refine List.countP_congr ?_
  rintro ⟨key, value⟩ member
  rw [same key value (AList.mem_lookup_iff.mpr member)]

namespace ExactCounts

variable {counts : Resource → Option Int} {key : Key} {value : Value}

theorem congr {uses' : Value → Option Resource} (exact : ExactCounts table uses counts)
    (same : ∀ key value, table.lookup key = some value → uses' value = uses value) :
    ExactCounts table uses' counts := by
  intro resource
  rw [users_congr same]
  exact exact resource

omit [DecidableEq Key] in
theorem eq_none_iff (exact : ExactCounts table uses counts) :
    counts resource = none ↔ users table uses resource = 0 := by
  rw [exact resource]
  split_ifs with unused <;> simp [unused]

/-- A resource that a registered value uses is counted. -/
theorem counted (exact : ExactCounts table uses counts) (found : table.lookup key = some value)
    (used : uses value = some resource) :
    counts resource = some (users table uses resource : Int) ∧ 0 < users table uses resource := by
  have positive : 0 < users table uses resource := users_pos_iff.mpr ⟨key, value, found, used⟩
  refine ⟨?_, positive⟩
  rw [exact resource, if_neg (by omega)]

/-- Registering a value adds one reference to its resource. -/
theorem insert (exact : ExactCounts table uses counts) {counts' : Resource → Option Int}
    (fresh : table.lookup key = none) (used : uses value = some resource)
    (here : counts' resource = some ((counts resource).getD 0 + 1))
    (elsewhere : ∀ other, other ≠ resource → counts' other = counts other) :
    ExactCounts (table.insert key value) uses counts' := by
  intro other
  rw [users_insert value fresh, used]
  by_cases same : other = resource
  · subst same
    rw [here, exact other]
    by_cases unused : users table uses other = 0 <;> simp [unused]
  · rw [elsewhere other same, exact other, if_neg fun equal => same (Option.some.inj equal).symm]
    rfl

/-- Deregistering a value takes one reference back, and the entry with the last one. -/
theorem erase (exact : ExactCounts table uses counts) {counts' : Resource → Option Int}
    (found : table.lookup key = some value) (used : uses value = some resource)
    (here : counts' resource = if users table uses resource = 1 then none
      else some ((users table uses resource : Int) - 1))
    (elsewhere : ∀ other, other ≠ resource → counts' other = counts other) :
    ExactCounts (table.erase key) uses counts' := by
  intro other
  have erased := users_erase found uses other
  rw [used] at erased
  by_cases same : other = resource
  · subst same
    simp only [if_true] at erased
    rw [here]
    by_cases last : users table uses other = 1
    · rw [if_pos last, if_pos (by omega)]
    · rw [if_neg last, if_neg (by omega), Option.some.injEq]
      omega
  · rw [if_neg fun equal => same (Option.some.inj equal).symm, add_zero] at erased
    rw [elsewhere other same, exact other, erased]

end ExactCounts

end Machine
