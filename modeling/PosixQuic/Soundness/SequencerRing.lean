import PosixQuic.Model.SequencerBuffer
import Mathlib.Tactic

/-! # The geometry of the block ring

An offset lies in the block that its position in the ring falls into. Seen from one offset, its block is the stretch
of offsets around it, and a window of the ring's capacity that starts in that stretch meets the block once more at
most, at its very end. Every question about blocks is reduced to offsets here.
-/

namespace PosixQuic

namespace BufferLayout

variable (layout : BufferLayout) {offset : Nat}

theorem blockSize_lt_capacity : layout.blockSize < layout.capacity := by
  have blocks := (Nat.le_div_iff_mul_le layout.blockSize_pos).mp layout.blocks_gt_one
  have size := layout.blockSize_pos
  omega

theorem capacity_pos : 0 < layout.capacity := (Nat.zero_le _).trans_lt layout.blockSize_lt_capacity

/-- The place of an offset in the ring, by block and offset in it. -/
theorem position_eq (offset : Nat) :
    layout.getBlockIndex offset * layout.blockSize + layout.getInBlockOffset offset = offset % layout.capacity :=
  Nat.div_add_mod' ..

/-- One block for each full one, and one for what is left of the capacity. -/
theorem blocksCount_eq : layout.blocksCount =
    layout.capacity / layout.blockSize + if layout.capacity % layout.blockSize = 0 then 0 else 1 := by
  have size := layout.blockSize_pos
  have split := Nat.div_add_mod' layout.capacity layout.blockSize
  have rest := Nat.mod_lt layout.capacity size
  unfold blocksCount
  split_ifs with whole
  · rw [Nat.add_zero, Nat.div_eq_iff size]
    constructor
    all_goals omega
  · rw [Nat.div_eq_iff size]
    have next : (layout.capacity / layout.blockSize + 1) * layout.blockSize =
      layout.capacity / layout.blockSize * layout.blockSize + layout.blockSize := by ring
    constructor
    all_goals omega

theorem lt_blocksCount_iff {index : Nat} : index < layout.blocksCount ↔ index * layout.blockSize < layout.capacity := by
  rw [blocksCount, Nat.lt_iff_add_one_le, Nat.le_div_iff_mul_le layout.blockSize_pos]
  have next : (index + 1) * layout.blockSize = index * layout.blockSize + layout.blockSize := by ring
  have size := layout.blockSize_pos
  omega

/-- A block ends where the next one starts, or with the ring. -/
theorem block_end (index : Nat) :
    0 < layout.getBlockCapacity index ∧ layout.getBlockCapacity index ≤ layout.blockSize ∧
      index * layout.blockSize + layout.getBlockCapacity index =
        if index + 1 = layout.blocksCount then layout.capacity else (index + 1) * layout.blockSize := by
  have size := layout.blockSize_pos
  have split := Nat.div_add_mod' layout.capacity layout.blockSize
  have rest := Nat.mod_lt layout.capacity size
  have count := layout.blocksCount_eq
  have next : (index + 1) * layout.blockSize = index * layout.blockSize + layout.blockSize := by ring
  by_cases last : index + 1 = layout.blocksCount
  · rcases Nat.eq_zero_or_pos (layout.capacity % layout.blockSize) with whole | part
    · rw [if_pos whole] at count
      have full : layout.capacity / layout.blockSize = index + 1 := by omega
      rw [full] at split
      simp only [getBlockCapacity, if_pos last, if_pos whole]
      omega
    · rw [if_neg part.ne'] at count
      have full : layout.capacity / layout.blockSize = index := by omega
      rw [full] at split
      simp only [getBlockCapacity, if_pos last, if_neg part.ne']
      omega
  · simp only [getBlockCapacity, if_neg last]
    omega

theorem block_end_le {index : Nat} (inRing : index < layout.blocksCount) :
    index * layout.blockSize + layout.getBlockCapacity index ≤ layout.capacity := by
  obtain ⟨-, -, ends⟩ := layout.block_end index
  rw [ends]
  split_ifs with last
  · exact le_rfl
  · have next : (index + 1) * layout.blockSize < layout.capacity :=
      layout.lt_blocksCount_iff.mp (by omega)
    exact next.le

theorem getBlockIndex_lt (offset : Nat) : layout.getBlockIndex offset < layout.blocksCount := by
  rw [lt_blocksCount_iff]
  have position := layout.position_eq offset
  have inRing := Nat.mod_lt offset layout.capacity_pos
  omega

/-- Where the block of an offset starts. -/
def blockStart (offset : Nat) : Nat := offset - layout.getInBlockOffset offset

theorem getInBlockOffset_le (offset : Nat) : layout.getInBlockOffset offset ≤ offset :=
  (Nat.mod_le ..).trans (Nat.mod_le ..)

theorem blockStart_add (offset : Nat) : layout.blockStart offset + layout.getInBlockOffset offset = offset :=
  Nat.sub_add_cancel (layout.getInBlockOffset_le offset)

theorem getInBlockOffset_lt (offset : Nat) :
    layout.getInBlockOffset offset < layout.getBlockCapacity (layout.getBlockIndex offset) := by
  obtain ⟨-, -, ends⟩ := layout.block_end (layout.getBlockIndex offset)
  have position := layout.position_eq offset
  have inRing := Nat.mod_lt offset layout.capacity_pos
  have inBlock : layout.getInBlockOffset offset < layout.blockSize := Nat.mod_lt _ layout.blockSize_pos
  split_ifs at ends with last
  · omega
  · have next : (layout.getBlockIndex offset + 1) * layout.blockSize =
      layout.getBlockIndex offset * layout.blockSize + layout.blockSize := by ring
    omega

theorem blockStart_mod (offset : Nat) :
    layout.blockStart offset % layout.capacity = layout.getBlockIndex offset * layout.blockSize := by
  have position := layout.position_eq offset
  have split := Nat.div_add_mod offset layout.capacity
  have start : layout.blockStart offset =
      layout.getBlockIndex offset * layout.blockSize + layout.capacity * (offset / layout.capacity) := by
    have back := layout.blockStart_add offset
    omega
  have inRing : layout.getBlockIndex offset * layout.blockSize < layout.capacity :=
    layout.lt_blocksCount_iff.mp (layout.getBlockIndex_lt offset)
  rw [start, Nat.add_mul_mod_self_left, Nat.mod_eq_of_lt inRing]

/-- Seen from its start, a block takes up the first offsets of a round of the ring, and no others. -/
theorem getBlockIndex_blockStart_add {distance : Nat} (inRound : distance < layout.capacity) :
    layout.getBlockIndex (layout.blockStart offset + distance) = layout.getBlockIndex offset ↔
      distance < layout.getBlockCapacity (layout.getBlockIndex offset) := by
  obtain ⟨-, short, ends⟩ := layout.block_end (layout.getBlockIndex offset)
  have fits := layout.block_end_le (layout.getBlockIndex_lt offset)
  have start := layout.blockStart_mod offset
  have size := layout.blockSize_pos
  set index := layout.getBlockIndex offset
  have next : (index + 1) * layout.blockSize = index * layout.blockSize + layout.blockSize := by ring
  have position : (layout.blockStart offset + distance) % layout.capacity =
      if index * layout.blockSize + distance < layout.capacity then index * layout.blockSize + distance
      else index * layout.blockSize + distance - layout.capacity := by
    rw [Nat.add_mod, start, Nat.mod_eq_of_lt inRound]
    split_ifs with inside
    · exact Nat.mod_eq_of_lt inside
    · rw [Nat.mod_eq_sub_mod (by omega), Nat.mod_eq_of_lt (by omega)]
  have falls : ∀ place, place / layout.blockSize = index ↔
      index * layout.blockSize ≤ place ∧ place < index * layout.blockSize + layout.blockSize := by
    intro place
    rw [Nat.div_eq_iff size]
    omega
  rw [getBlockIndex, position, falls]
  split_ifs at ends ⊢ <;> omega

theorem getInBlockOffset_blockStart_add {distance : Nat}
    (inBlock : distance < layout.getBlockCapacity (layout.getBlockIndex offset)) :
    layout.getInBlockOffset (layout.blockStart offset + distance) = distance := by
  have fits := layout.block_end_le (layout.getBlockIndex_lt offset)
  have same := (layout.getBlockIndex_blockStart_add (by omega)).mpr inBlock
  have position := layout.position_eq (layout.blockStart offset + distance)
  rw [same, Nat.add_mod, layout.blockStart_mod, Nat.mod_eq_of_lt (show distance < layout.capacity by omega),
    Nat.mod_eq_of_lt (show _ + distance < layout.capacity by omega)] at position
  omega

/-- One round later everything is in the same place. -/
theorem getBlockIndex_add_capacity (offset : Nat) :
    layout.getBlockIndex (offset + layout.capacity) = layout.getBlockIndex offset := by
  rw [getBlockIndex, getBlockIndex, Nat.add_mod_right]

theorem getInBlockOffset_add_capacity (offset : Nat) :
    layout.getInBlockOffset (offset + layout.capacity) = layout.getInBlockOffset offset := by
  rw [getInBlockOffset, getInBlockOffset, Nat.add_mod_right]

/-- The offsets that share a block, as far as the next round. -/
theorem getBlockIndex_eq_iff {other : Nat} (from_start : layout.blockStart offset ≤ other)
    (below : other < layout.blockStart offset + layout.capacity +
      layout.getBlockCapacity (layout.getBlockIndex offset)) :
    layout.getBlockIndex other = layout.getBlockIndex offset ↔
      other < layout.blockStart offset + layout.getBlockCapacity (layout.getBlockIndex offset) ∨
        layout.blockStart offset + layout.capacity ≤ other := by
  have fits := layout.block_end_le (layout.getBlockIndex_lt offset)
  rcases lt_or_ge other (layout.blockStart offset + layout.capacity) with thisRound | nextRound
  · obtain ⟨distance, rfl⟩ := Nat.exists_eq_add_of_le from_start
    rw [layout.getBlockIndex_blockStart_add (by omega)]
    omega
  · obtain ⟨distance, rfl⟩ := Nat.exists_eq_add_of_le nextRound
    rw [show layout.blockStart offset + layout.capacity + distance =
        layout.blockStart offset + distance + layout.capacity by omega, getBlockIndex_add_capacity,
      layout.getBlockIndex_blockStart_add (by omega)]
    omega

/-- A later offset of the window shares the block and comes behind in it just when the block ends behind both. -/
theorem same_round_iff {other : Nat} (later : offset ≤ other) (inWindow : other < offset + layout.capacity) :
    (layout.getBlockIndex offset = layout.getBlockIndex other ∧
        layout.getInBlockOffset offset ≤ layout.getInBlockOffset other) ↔
      other < layout.blockStart offset + layout.getBlockCapacity (layout.getBlockIndex offset) := by
  have start := layout.blockStart_add offset
  have place := layout.getInBlockOffset_lt offset
  have within := layout.block_end_le (layout.getBlockIndex_lt offset)
  rw [eq_comm, layout.getBlockIndex_eq_iff (by omega) (by omega)]
  constructor
  · rintro ⟨here | wrapped, behind⟩
    · exact here
    · obtain ⟨distance, rfl⟩ := Nat.exists_eq_add_of_le wrapped
      rw [show layout.blockStart offset + layout.capacity + distance =
        layout.blockStart offset + distance + layout.capacity by omega, getInBlockOffset_add_capacity,
        layout.getInBlockOffset_blockStart_add (by omega)] at behind
      omega
  · intro here
    obtain ⟨distance, rfl⟩ := Nat.exists_eq_add_of_le (show layout.blockStart offset ≤ other by omega)
    refine ⟨.inl here, ?_⟩
    rw [layout.getInBlockOffset_blockStart_add (by omega)]
    omega

/-- Within one round of the ring no two offsets have the same place. -/
theorem eq_of_same_place {low first second : Nat} (from_low : low ≤ first ∧ first < low + layout.capacity)
    (from_low' : low ≤ second ∧ second < low + layout.capacity)
    (block : layout.getBlockIndex first = layout.getBlockIndex second)
    (offset : layout.getInBlockOffset first = layout.getInBlockOffset second) : first = second := by
  have same : first % layout.capacity = second % layout.capacity := by
    rw [← layout.position_eq, ← layout.position_eq, block, offset]
  have split := Nat.div_add_mod first layout.capacity
  have split' := Nat.div_add_mod second layout.capacity
  rcases lt_trichotomy (first / layout.capacity) (second / layout.capacity) with less | equal | more
  · have := Nat.mul_le_mul_left layout.capacity (Nat.succ_le_of_lt less)
    rw [Nat.mul_succ] at this
    omega
  · rw [equal] at split
    omega
  · have := Nat.mul_le_mul_left layout.capacity (Nat.succ_le_of_lt more)
    rw [Nat.mul_succ] at this
    omega

end BufferLayout

end PosixQuic
