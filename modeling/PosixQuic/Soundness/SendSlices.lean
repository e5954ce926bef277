import Mathlib.Data.List.TakeWhile
import PosixQuic.Model.SendBuffer
import PosixQuic.Soundness.Reassembly

/-! # The slices of a send buffer

The slices lie one behind the other up to the end of what has been saved, and the write index stands at the slice that
holds the first byte that has not been serialized. Everything that the buffer does to its slices keeps these two facts.
-/

namespace PosixQuic

open Machine (IntervalSet)

namespace SendBuffer

variable {content : Nat → UInt8} {start stop offset len serialized : Nat} {slice : BufferedSlice}
  {slices : List BufferedSlice} {buffer : SendBuffer}

/-! ## Tiling -/

/-- The slices cover the bytes from `start` to `stop`. -/
def Tiles (content : Nat → UInt8) : Nat → List BufferedSlice → Nat → Prop
  | start, [], stop => start = stop
  | start, slice :: rest, stop => slice.offset = start ∧ slice.data ≠ [] ∧
      slice.data = readBytes content start slice.data.length ∧ Tiles content slice.stop rest stop

theorem lt_stop (solid : slice.data ≠ []) : slice.offset < slice.stop :=
  Nat.lt_add_of_pos_right (List.length_pos_iff.mpr solid)

theorem Tiles.le (tiles : Tiles content start slices stop) : start ≤ stop := by
  induction slices generalizing start with
  | nil => exact le_of_eq tiles
  | cons slice rest ih =>
    obtain ⟨rfl, solid, -, later⟩ := tiles
    exact (lt_stop solid).le.trans (ih later)

theorem tiles_append {front back : List BufferedSlice} :
    Tiles content start (front ++ back) stop ↔ ∃ middle, Tiles content start front middle ∧ Tiles content middle back stop := by
  induction front generalizing start with
  | nil => exact ⟨fun tiles => ⟨start, rfl, tiles⟩, fun ⟨middle, same, tiles⟩ => (show start = middle from same) ▸ tiles⟩
  | cons slice rest ih =>
    simp only [List.cons_append, Tiles, ih]
    tauto

/-- The slices from an index on. -/
theorem Tiles.drop (tiles : Tiles content start slices stop) {index : Nat} (found : slices[index]? = some slice) :
    ∃ rest, slices.drop index = slice :: rest ∧ Tiles content slice.offset (slice :: rest) stop := by
  obtain ⟨short, at_index⟩ := List.getElem?_eq_some_iff.mp found
  have split : slices.drop index = slice :: slices.drop (index + 1) := by rw [List.drop_eq_getElem_cons short, at_index]
  rw [← List.take_append_drop index slices, tiles_append, split] at tiles
  obtain ⟨middle, -, tiles⟩ := tiles
  exact ⟨_, split, tiles.1.symm ▸ tiles⟩

/-! ## Serializing -/

theorem writeSlices_zero (slices : List BufferedSlice) (offset : Nat) : writeSlices slices offset 0 = ⟨[], 0, 0⟩ := by
  cases slices with
  | nil => rfl
  | cons slice rest => rw [writeSlices, if_pos (.inl rfl)]

/-- A write that starts in the first slice, and either ends there too or goes on behind it. -/
theorem writeSlices_cons {rest : List BufferedSlice} (from_start : slice.offset ≤ offset) (before : offset < slice.stop)
    (data : slice.data = readBytes content slice.offset slice.data.length) (asked : 0 < len) :
    writeSlices (slice :: rest) offset len =
      if offset + len < slice.stop then ⟨readBytes content offset len, 0, 0⟩
      else
        let later := writeSlices rest slice.stop (len - (slice.stop - offset))
        ⟨readBytes content offset (slice.stop - offset) ++ later.bytes, later.left, later.finished + 1⟩ := by
  have length : slice.data.length = slice.stop - slice.offset := (Nat.add_sub_cancel_left ..).symm
  have copied : ∀ n, n ≤ slice.stop - offset →
      (slice.data.drop (offset - slice.offset)).take n = readBytes content offset n := by
    intro n fits
    rw [data, drop_readBytes, take_readBytes, show slice.offset + (offset - slice.offset) = offset by omega,
      min_eq_left (by omega)]
  rw [writeSlices, if_neg (by omega), if_neg (by omega)]
  dsimp only
  rw [show slice.data.length - (offset - slice.offset) = slice.stop - offset by omega]
  split_ifs with all short
  · omega
  · rw [min_eq_right (by omega), copied _ le_rfl, show offset + (slice.stop - offset) = slice.stop by omega]
  · rw [min_eq_left (by omega), copied _ (by omega), Nat.sub_self, writeSlices_zero, List.append_nil]
  · omega

/-- The loop writes what it is asked for. -/
theorem Tiles.writeSlices (tiles : Tiles content start slices stop) (from_start : start ≤ offset)
    (inside : offset + len ≤ stop) :
    (SendBuffer.writeSlices slices offset len).bytes = readBytes content offset len ∧
      (SendBuffer.writeSlices slices offset len).left = 0 := by
  induction slices generalizing start offset len with
  | nil =>
    obtain rfl : len = 0 := by
      have same : start = stop := tiles
      omega
    exact ⟨rfl, rfl⟩
  | cons slice rest ih =>
    obtain ⟨rfl, solid, data, later⟩ := tiles
    rcases Nat.eq_zero_or_pos len with rfl | asked
    · rw [writeSlices_zero]
      exact ⟨rfl, rfl⟩
    rcases Nat.lt_or_ge offset slice.stop with here | passed
    · rw [writeSlices_cons from_start here data asked]
      split_ifs with short
      · exact ⟨rfl, rfl⟩
      · obtain ⟨bytes, left⟩ := ih later le_rfl (show slice.stop + (len - (slice.stop - offset)) ≤ stop by omega)
        refine ⟨?_, left⟩
        have whole := readBytes_add content offset (slice.stop - offset) (len - (slice.stop - offset))
        rw [show offset + (slice.stop - offset) = slice.stop by omega,
          show slice.stop - offset + (len - (slice.stop - offset)) = len by omega] at whole
        dsimp only
        rw [bytes, whole]
    · rw [SendBuffer.writeSlices, if_neg (by omega), if_pos passed]
      exact ih later passed inside

/-- The slice where a write ends, counted from the slice where it starts. -/
theorem Tiles.finished (tiles : Tiles content start slices stop) (from_start : start ≤ offset)
    (here : ∀ slice ∈ slices.head?, offset < slice.stop) (inside : offset + len ≤ stop) :
    let finished := (SendBuffer.writeSlices slices offset len).finished
    (finished = slices.length ∧ offset + len = stop) ∨
      ∃ slice, slices[finished]? = some slice ∧ slice.offset ≤ offset + len ∧ offset + len < slice.stop := by
  induction slices generalizing start offset len with
  | nil =>
    have same : start = stop := tiles
    exact .inl ⟨rfl, by omega⟩
  | cons slice rest ih =>
    obtain ⟨rfl, solid, data, later⟩ := tiles
    have before : offset < slice.stop := here slice rfl
    rcases Nat.eq_zero_or_pos len with rfl | asked
    · rw [writeSlices_zero]
      exact .inr ⟨slice, rfl, by omega, by omega⟩
    rw [writeSlices_cons from_start before data asked]
    split_ifs with short
    · exact .inr ⟨slice, rfl, by omega, by omega⟩
    · have here' : ∀ next ∈ rest.head?, slice.stop < next.stop := by
        intro next first
        cases rest with
        | nil => exact absurd first (by simp)
        | cons second others =>
          obtain rfl : second = next := by simpa using first
          exact later.1 ▸ lt_stop later.2.1
      rcases ih later le_rfl here' (show slice.stop + (len - (slice.stop - offset)) ≤ stop by omega) with
        ⟨all, reached⟩ | ⟨next, found, low, high⟩
      · exact .inl ⟨congrArg (· + 1) all, by omega⟩
      · exact .inr ⟨next, by simpa using found, by omega, by omega⟩

/-! ## The write index -/

/-- The slices of a buffer that has serialized everything before `serialized`. -/
structure Stocked (content : Nat → UInt8) (serialized : Nat) (buffer : SendBuffer) : Prop where
  tiled : ∃ base, (∀ x < base, x ∈ buffer.bytesAcked) ∧ Tiles content base buffer.slices buffer.streamOffset
  acked : ∀ x ∈ buffer.bytesAcked, x < serialized
  indexed : (buffer.writeIndex = none ∧ serialized = buffer.streamOffset) ∨
    ∃ index slice, buffer.writeIndex = some index ∧ buffer.slices[index]? = some slice ∧
      slice.offset ≤ serialized ∧ serialized < slice.stop

theorem Stocked.serialized_le (stocked : buffer.Stocked content serialized) : serialized ≤ buffer.streamOffset := by
  rcases stocked.indexed with ⟨-, all⟩ | ⟨index, slice, -, found, -, high⟩
  · exact all.le
  · obtain ⟨base, -, tiles⟩ := stocked.tiled
    obtain ⟨rest, -, -, -, -, later⟩ := tiles.drop found
    exact high.le.trans later.le

/-- New data is serialized from the index on, and the index moves with it. -/
theorem Stocked.writeStreamData (stocked : buffer.Stocked content serialized) (asked : 0 < len)
    (inside : serialized + len ≤ buffer.streamOffset) :
    ∃ writeIndex, buffer.writeStreamData serialized len =
        .ok (readBytes content serialized len, { buffer with writeIndex }) ∧
      Stocked content (serialized + len) { buffer with writeIndex } := by
  rcases stocked.indexed with ⟨-, all⟩ | ⟨index, slice, indexed, found, low, high⟩
  · omega
  obtain ⟨base, -, tiles⟩ := stocked.tiled
  obtain ⟨rest, split, tiles⟩ := tiles.drop found
  rw [← split] at tiles
  obtain ⟨bytes, left⟩ := tiles.writeSlices low inside
  have ended := tiles.finished low (by simpa [split] using high) inside
  set last := index + (SendBuffer.writeSlices (buffer.slices.drop index) serialized len).finished with last_def
  refine ⟨if last = buffer.slices.length then none else some last, ?_, stocked.tiled,
    fun x there => (stocked.acked x there).trans (by omega), ?_⟩
  · simp only [SendBuffer.writeStreamData, indexed, found, if_neg (not_le.mpr high), if_pos low, left, if_true, bytes,
      ← last_def]
  · have short := (List.getElem?_eq_some_iff.mp found).1
    rcases ended with ⟨all, reached⟩ | ⟨slice', found', low', high'⟩
    · rw [List.length_drop] at all
      rw [if_pos (by omega)]
      exact .inl ⟨rfl, reached⟩
    · rw [List.getElem?_drop, ← last_def] at found'
      rw [if_neg (List.getElem?_eq_some_iff.mp found').1.ne]
      exact .inr ⟨last, slice', rfl, found', low', high'⟩

/-- Data that was serialized before and has not been acknowledged is still there. -/
theorem Stocked.rewriteStreamData (stocked : buffer.Stocked content serialized) (asked : 0 < len)
    (before : offset + len ≤ serialized) (unacked : ∀ x, offset ≤ x → x < offset + len → x ∉ buffer.bytesAcked) :
    buffer.writeStreamData offset len = .ok (readBytes content offset len, buffer) := by
  obtain ⟨base, gone, tiles⟩ := stocked.tiled
  have from_base : base ≤ offset := by
    by_contra within
    exact unacked offset le_rfl (by omega) (gone offset (by omega))
  have reach := stocked.serialized_le
  obtain ⟨bytes, left⟩ := tiles.writeSlices from_base (show offset + len ≤ buffer.streamOffset by omega)
  rcases stocked.indexed with ⟨indexed, all⟩ | ⟨index, slice, indexed, found, low, high⟩
  · simp only [SendBuffer.writeStreamData, indexed, left, if_true, bytes]
  · simp only [SendBuffer.writeStreamData, indexed, found]
    rw [if_neg (show ¬ slice.stop ≤ offset by omega)]
    rcases Nat.lt_or_ge offset slice.offset with missed | hit
    · rw [if_neg (by omega), if_pos left, bytes]
    · -- The write ends before the slice of the index does, so the index stays.
      obtain ⟨rest, split, tiles'⟩ := tiles.drop found
      have written := @writeSlices_cons content offset len slice rest hit (by omega) tiles'.2.2.1 asked
      rw [if_pos (by omega)] at written
      rw [if_pos hit, split, written]
      simp only [if_true, Nat.add_zero, if_neg (List.getElem?_eq_some_iff.mp found).1.ne, ← indexed]

/-! ## Saving -/

theorem Stocked.saveMemSlice (stocked : buffer.Stocked content serialized) (some_data : 0 < len) :
    ∃ slices writeIndex, buffer.saveMemSlice (readBytes content buffer.streamOffset len) =
        { buffer with slices, writeIndex, streamOffset := buffer.streamOffset + len } ∧
      Stocked content serialized { buffer with slices, writeIndex, streamOffset := buffer.streamOffset + len } := by
  obtain ⟨base, gone, tiles⟩ := stocked.tiled
  have solid : readBytes content buffer.streamOffset len ≠ [] := by
    rw [← List.length_pos_iff, length_readBytes]
    exact some_data
  have saved : (⟨buffer.streamOffset, readBytes content buffer.streamOffset len⟩ : BufferedSlice).stop =
      buffer.streamOffset + len := by rw [BufferedSlice.stop, length_readBytes]
  refine ⟨_, _, by rw [SendBuffer.saveMemSlice, if_neg (by simpa using solid), length_readBytes], ⟨base, gone, ?_⟩,
    stocked.acked, ?_⟩
  · exact tiles_append.mpr ⟨buffer.streamOffset, tiles, rfl, solid, by rw [length_readBytes], saved⟩
  · rcases stocked.indexed with ⟨indexed, all⟩ | ⟨index, slice, indexed, found, low, high⟩
    · exact .inr ⟨buffer.slices.length, ⟨buffer.streamOffset, readBytes content buffer.streamOffset len⟩,
        by rw [indexed, Option.none_or], List.getElem?_concat_length, all.ge, by omega⟩
    · have short := (List.getElem?_eq_some_iff.mp found).1
      exact .inr ⟨index, slice, by rw [indexed, Option.some_or], by rw [List.getElem?_append_left short, found], low, high⟩

theorem Stocked.saveSlices {maxDataSliceSize : Nat} (positive : 0 < maxDataSliceSize) {rounds : Nat}
    (stocked : buffer.Stocked content serialized) (enough : len ≤ rounds) :
    ∃ slices writeIndex,
      saveSlices maxDataSliceSize rounds buffer (readBytes content buffer.streamOffset len) =
        { buffer with slices, writeIndex, streamOffset := buffer.streamOffset + len } ∧
      Stocked content serialized { buffer with slices, writeIndex, streamOffset := buffer.streamOffset + len } := by
  induction rounds generalizing buffer len with
  | zero =>
    obtain rfl : len = 0 := Nat.le_zero.mp enough
    exact ⟨buffer.slices, buffer.writeIndex, rfl, stocked⟩
  | succ rounds ih =>
    rcases Nat.eq_zero_or_pos len with rfl | some_data
    · exact ⟨buffer.slices, buffer.writeIndex, rfl, stocked⟩
    have solid : readBytes content buffer.streamOffset len ≠ [] := by
      rw [← List.length_pos_iff, length_readBytes]
      exact some_data
    rw [SendBuffer.saveSlices, if_neg (by simpa using solid), take_readBytes, drop_readBytes]
    obtain ⟨slices, writeIndex, saved, stocked'⟩ :=
      stocked.saveMemSlice (show 0 < min maxDataSliceSize len by omega)
    have rest : readBytes content (buffer.streamOffset + maxDataSliceSize) (len - maxDataSliceSize) =
        readBytes content (buffer.streamOffset + min maxDataSliceSize len) (len - min maxDataSliceSize len) := by
      rcases Nat.le_total maxDataSliceSize len with long | short
      · rw [min_eq_left long]
      · rw [min_eq_right short, Nat.sub_eq_zero_of_le short, Nat.sub_self, readBytes_zero, readBytes_zero]
    rw [saved, rest]
    obtain ⟨slices', writeIndex', saved', stocked''⟩ := ih stocked'
      (show len - min maxDataSliceSize len ≤ rounds by omega)
    have total : buffer.streamOffset + min maxDataSliceSize len + (len - min maxDataSliceSize len) =
        buffer.streamOffset + len := by omega
    dsimp only at saved' stocked''
    rw [total] at saved' stocked''
    exact ⟨slices', writeIndex', saved', stocked''⟩

/-- `SaveStreamData` adds the data at the end. -/
theorem Stocked.saveStreamData (stocked : buffer.Stocked content serialized) (flags : SendFlags) (len : Nat) :
    ∃ slices writeIndex, buffer.saveStreamData flags (readBytes content buffer.streamOffset len) =
        { buffer with slices, writeIndex, streamOffset := buffer.streamOffset + len } ∧
      Stocked content serialized { buffer with slices, writeIndex, streamOffset := buffer.streamOffset + len } := by
  rw [SendBuffer.saveStreamData, length_readBytes]
  exact stocked.saveSlices flags.maxDataSliceSize_pos le_rfl

/-! ## Releasing -/

/-- Dropping slices from the front whose bytes have all been acknowledged. -/
theorem Tiles.dropWhile {acked : IntervalSet Nat} (tiles : Tiles content start slices stop) (gone : ∀ x < start, x ∈ acked) :
    ∃ base, (∀ x < base, x ∈ acked) ∧
      Tiles content base (slices.dropWhile fun slice => acked.contains slice.offset slice.stop) stop := by
  induction slices generalizing start with
  | nil => exact ⟨start, gone, tiles⟩
  | cons slice rest ih =>
    rcases Bool.eq_false_or_eq_true (acked.contains slice.offset slice.stop) with popped | kept
    · obtain ⟨rfl, solid, -, later⟩ := tiles
      have all := (IntervalSet.contains_iff (lt_stop solid)).mp popped
      rw [List.dropWhile_cons, if_pos popped]
      apply ih later
      intro x below
      exact (Nat.lt_or_ge x slice.offset).elim (gone x) fun within => all x within below
    · rw [List.dropWhile_cons, if_neg (by simp [kept])]
      exact ⟨start, gone, tiles⟩

/-- An element that is not dropped keeps its place among those that stay. -/
theorem getElem?_dropWhile_of_not {done : BufferedSlice → Bool} {index : Nat} (found : slices[index]? = some slice)
    (kept : done slice = false) :
    (slices.dropWhile done)[index - (slices.takeWhile done).length]? = some slice := by
  have split := List.takeWhile_append_dropWhile (p := done) (l := slices)
  rw [← split] at found
  have behind : (slices.takeWhile done).length ≤ index := by
    by_contra within
    rw [List.getElem?_append_left (by omega)] at found
    have popped := List.mem_takeWhile_imp (List.mem_of_getElem? found)
    rw [kept] at popped
    exact Bool.false_ne_true popped
  rw [List.getElem?_append_right behind] at found
  exact found

theorem Stocked.popAcked (stocked : buffer.Stocked content serialized) : Stocked content serialized buffer.popAcked := by
  obtain ⟨base, gone, tiles⟩ := stocked.tiled
  refine ⟨tiles.dropWhile gone, stocked.acked, ?_⟩
  rcases stocked.indexed with ⟨indexed, all⟩ | ⟨index, slice, indexed, found, low, high⟩
  · exact .inl ⟨by rw [SendBuffer.popAcked, indexed]; rfl, all⟩
  · -- The slice of the index holds a byte that has not been acknowledged, so it is not popped.
    have kept : buffer.bytesAcked.contains slice.offset slice.stop = false := by
      by_contra popped
      rw [Bool.not_eq_false, IntervalSet.contains_iff (by omega)] at popped
      exact lt_irrefl _ (stocked.acked serialized (popped serialized low high))
    exact .inr ⟨_, slice, by rw [SendBuffer.popAcked, indexed]; rfl, getElem?_dropWhile_of_not found kept, low, high⟩

end SendBuffer

end PosixQuic
