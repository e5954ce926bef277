import PosixQuic.Soundness.SequencerRing

/-! # Reassembly of a stream from frames in any order

Whatever frames of a stream arrive, and however they overlap, the ring holds exactly the unread bytes that have
arrived, each in its place, and a block is allocated exactly while it holds one. The loops that go block by block are
first shown to write and to read byte by byte; everything else is said by `lookup`.
-/

namespace PosixQuic

open Machine (IntervalSet)

section Bytes

variable (bytes : Nat → UInt8)

@[simp]
theorem length_readBytes (start len : Nat) : (readBytes bytes start len).length = len := by simp [readBytes]

@[simp]
theorem readBytes_zero (start : Nat) : readBytes bytes start 0 = [] := rfl

theorem readBytes_succ (start len : Nat) :
    readBytes bytes start (len + 1) = bytes start :: readBytes bytes (start + 1) len := by
  simp only [readBytes, List.range_succ_eq_map, List.map_cons, List.map_map, Nat.add_zero]
  congr 2
  funext k
  simp only [Function.comp_apply]
  congr 1
  omega

theorem readBytes_add (start len rest : Nat) :
    readBytes bytes start (len + rest) = readBytes bytes start len ++ readBytes bytes (start + len) rest := by
  simp [readBytes, List.range_add, Nat.add_assoc]

theorem drop_readBytes (start len count : Nat) :
    (readBytes bytes start len).drop count = readBytes bytes (start + count) (len - count) := by
  rcases Nat.le_total count len with inside | beyond
  · obtain ⟨rest, rfl⟩ := Nat.exists_eq_add_of_le inside
    rw [readBytes_add, List.drop_left' (length_readBytes ..), Nat.add_sub_cancel_left]
  · rw [Nat.sub_eq_zero_of_le beyond, readBytes_zero]
    exact List.drop_eq_nil_of_le (by simpa using beyond)

theorem take_readBytes (start len count : Nat) :
    (readBytes bytes start len).take count = readBytes bytes start (min count len) := by
  rcases Nat.le_total count len with inside | beyond
  · obtain ⟨rest, rfl⟩ := Nat.exists_eq_add_of_le inside
    rw [readBytes_add, List.take_left' (length_readBytes ..), Nat.min_eq_left inside]
  · rw [Nat.min_eq_right beyond, List.take_of_length_le (by simpa using beyond)]

theorem readBytes_congr {bytes bytes' : Nat → UInt8} {start start' len : Nat}
    (same : ∀ k < len, bytes (start + k) = bytes' (start' + k)) :
    readBytes bytes start len = readBytes bytes' start' len := by
  apply List.map_congr_left
  intro k member
  exact same k (List.mem_range.mp member)

end Bytes

namespace BufferBlock

theorem write_cons (block : BufferBlock) (dest : Nat) (value : UInt8) (rest : List UInt8) :
    block.write dest (value :: rest) = write (Function.update block dest value) (dest + 1) rest := by
  funext k
  simp only [write, List.length_cons]
  rcases Nat.lt_trichotomy k dest with less | rfl | more
  · rw [if_neg (by omega), if_neg (by omega), Function.update_of_ne (by omega)]
  · rw [if_pos (by omega), if_neg (by omega), Function.update_self, Nat.sub_self, List.getD_cons_zero]
  · obtain ⟨j, rfl⟩ := Nat.exists_eq_add_of_lt more
    rw [show dest + j + 1 - dest = j + 1 by omega, show dest + j + 1 - (dest + 1) = j by omega,
      List.getD_cons_succ, Function.update_of_ne (by omega)]
    exact if_congr (by omega) rfl rfl

theorem write_nil (block : BufferBlock) (dest : Nat) : block.write dest [] = block := by
  funext k
  exact if_neg (by simp only [List.length_nil]; omega)

end BufferBlock

namespace SequencerBuffer

variable {layout : BufferLayout} {content : Nat → UInt8} {buffer : SequencerBuffer layout}

/-- The byte that the ring holds for an offset. -/
def lookup (buffer : SequencerBuffer layout) (offset : Nat) : Option UInt8 :=
  (buffer.blocks (layout.getBlockIndex offset)).map fun block => block (layout.getInBlockOffset offset)

/-- Write one byte, into a new block if there is none. -/
def poke (buffer : SequencerBuffer layout) (offset : Nat) (value : UInt8) : SequencerBuffer layout :=
  buffer.setBlock (layout.getBlockIndex offset) (some (Function.update
    ((buffer.blocks (layout.getBlockIndex offset)).getD fun _ => 0) (layout.getInBlockOffset offset) value))

/-- Write byte by byte. -/
def fill (buffer : SequencerBuffer layout) : Nat → List UInt8 → SequencerBuffer layout
  | _, [] => buffer
  | offset, value :: rest => (buffer.poke offset value).fill (offset + 1) rest

theorem fill_append (buffer : SequencerBuffer layout) (offset : Nat) (first second : List UInt8) :
    buffer.fill offset (first ++ second) = (buffer.fill offset first).fill (offset + first.length) second := by
  induction first generalizing buffer offset with
  | nil => rfl
  | cons value rest ih =>
    rw [List.cons_append, fill, ih, fill, List.length_cons, Nat.add_assoc, Nat.add_comm 1]

/-- A copy within one block writes its bytes one after the other. -/
theorem setBlock_write (buffer : SequencerBuffer layout) {offset : Nat} {value : UInt8} {rest : List UInt8}
    (fits : rest.length < layout.getBlockCapacity (layout.getBlockIndex offset) - layout.getInBlockOffset offset) :
    buffer.setBlock (layout.getBlockIndex offset)
        (some (((buffer.blocks (layout.getBlockIndex offset)).getD fun _ => 0).write (layout.getInBlockOffset offset)
          (value :: rest))) =
      buffer.fill offset (value :: rest) := by
  induction rest generalizing buffer offset value with
  | nil => rw [BufferBlock.write_cons, BufferBlock.write_nil]; rfl
  | cons next rest ih =>
    rw [List.length_cons] at fits
    have place := layout.blockStart_add offset
    have inBlock : layout.getInBlockOffset offset + 1 < layout.getBlockCapacity (layout.getBlockIndex offset) := by
      omega
    have within := layout.block_end_le (layout.getBlockIndex_lt offset)
    have following : offset + 1 = layout.blockStart offset + (layout.getInBlockOffset offset + 1) := by omega
    have sameBlock : layout.getBlockIndex (offset + 1) = layout.getBlockIndex offset := by
      rw [following]
      exact (layout.getBlockIndex_blockStart_add (by omega)).mpr inBlock
    have nextPlace : layout.getInBlockOffset (offset + 1) = layout.getInBlockOffset offset + 1 := by
      rw [following]
      exact layout.getInBlockOffset_blockStart_add inBlock
    have tail := @ih (buffer.poke offset value) (offset + 1) next (by rw [sameBlock, nextPlace]; omega)
    rw [fill, ← tail, sameBlock, nextPlace, BufferBlock.write_cons]
    simp [poke, setBlock]

/-- Offsets up to the end of the window, and of a block behind it, do not wrap. -/
def Unwrapped (buffer : SequencerBuffer layout) : Prop :=
  buffer.totalBytesRead + layout.capacity + layout.blockSize < 2 ^ 64

theorem bytesAvail_spec (unwrapped : buffer.Unwrapped) {offset : Nat}
    (inside : offset < buffer.totalBytesRead + layout.capacity) :
    0 < buffer.bytesAvail offset ∧ offset + buffer.bytesAvail offset ≤ buffer.totalBytesRead + layout.capacity ∧
      buffer.bytesAvail offset ≤
        layout.getBlockCapacity (layout.getBlockIndex offset) - layout.getInBlockOffset offset := by
  unfold Unwrapped at unwrapped
  have place := layout.getInBlockOffset_lt offset
  obtain ⟨-, short, -⟩ := layout.block_end (layout.getBlockIndex offset)
  have limit : wrap64 (buffer.totalBytesRead + layout.capacity) = buffer.totalBytesRead + layout.capacity :=
    Nat.mod_eq_of_lt (by omega)
  have reach : ∀ avail ≤ layout.blockSize, wrap64 (offset + avail) = offset + avail :=
    fun avail small => Nat.mod_eq_of_lt (by omega)
  simp only [bytesAvail]
  rw [limit, reach _ (by omega)]
  split_ifs with beyond
  all_goals omega

/-- `CopyStreamData` within the window ends, and writes its data byte by byte. -/
theorem copyStreamData_eq (unwrapped : buffer.Unwrapped) {fuel offset : Nat} {source : List UInt8}
    (enough : source.length ≤ fuel) (fits : offset + source.length ≤ buffer.totalBytesRead + layout.capacity) :
    copyStreamData fuel buffer offset source = .ok ⟨buffer.fill offset source, source.length, none⟩ := by
  induction fuel generalizing buffer offset source with
  | zero =>
    obtain rfl := List.eq_nil_of_length_eq_zero (Nat.le_zero.mp enough)
    rfl
  | succ fuel ih =>
    cases source with
    | nil => rfl
    | cons value rest =>
      rw [List.length_cons] at enough fits
      obtain ⟨some_room, inWindow, inBlock⟩ := bytesAvail_spec unwrapped (show offset < _ by omega)
      have inArray := layout.getBlockIndex_lt offset
      set count := min (buffer.bytesAvail offset) (value :: rest).length with count_def
      have counted : 0 < count ∧ count ≤ rest.length + 1 ∧ count ≤ buffer.bytesAvail offset := by
        rw [count_def, List.length_cons]
        omega
      obtain ⟨before, take_eq⟩ : ∃ before, (value :: rest).take count = value :: before := by
        obtain ⟨k, positive⟩ := Nat.exists_eq_add_of_lt counted.1
        exact ⟨rest.take k, by rw [positive, Nat.zero_add, List.take_succ_cons]⟩
      have taken : before.length + 1 = count := by
        have lengths := congrArg List.length take_eq
        rw [List.length_take, List.length_cons, List.length_cons] at lengths
        omega
      have written := @setBlock_write _ buffer offset value before (by omega)
      rw [← take_eq] at written
      have tail := @ih (buffer.fill offset ((value :: rest).take count)) (written ▸ unwrapped) (offset + count)
        ((value :: rest).drop count) (by rw [List.length_drop, List.length_cons]; omega)
        (by rw [List.length_drop, List.length_cons, ← written]; simp only [setBlock]; omega)
      simp only [copyStreamData]
      rw [if_neg (by omega), ← count_def, written, tail]
      have whole := buffer.fill_append offset ((value :: rest).take count) ((value :: rest).drop count)
      rw [List.take_append_drop, List.length_take, Nat.min_eq_left (by rw [List.length_cons]; omega)] at whole
      rw [← whole, Except.map, List.length_drop, List.length_cons, Nat.add_sub_cancel' counted.2.1]

theorem lookup_poke_self (buffer : SequencerBuffer layout) (offset : Nat) (value : UInt8) :
    (buffer.poke offset value).lookup offset = some value := by
  simp [lookup, poke, setBlock]

/-- Within one round of the ring a byte overwrites no other. -/
theorem lookup_poke_of_ne {low offset other : Nat} {value held : UInt8}
    (inside : low ≤ offset ∧ offset < low + layout.capacity) (inside' : low ≤ other ∧ other < low + layout.capacity)
    (different : other ≠ offset) (there : buffer.lookup other = some held) :
    (buffer.poke offset value).lookup other = some held := by
  obtain ⟨block, found, rfl⟩ := Option.map_eq_some_iff.mp there
  by_cases sameBlock : layout.getBlockIndex other = layout.getBlockIndex offset
  · have apart : layout.getInBlockOffset other ≠ layout.getInBlockOffset offset := fun samePlace =>
      different (layout.eq_of_same_place inside' inside sameBlock samePlace)
    rw [sameBlock] at found
    simp [lookup, poke, setBlock, sameBlock, found, apart]
  · simp [lookup, poke, setBlock, sameBlock, found]

/-- What a sequence of writes does: the offsets in `new` get their bytes, and no other unread byte changes. -/
structure Fills (content : Nat → UInt8) (new : Nat → Prop) (before after : SequencerBuffer layout) : Prop where
  total : after.totalBytesRead = before.totalBytesRead
  received : after.bytesReceived = before.bytesReceived
  buffered : after.numBytesBuffered = before.numBytesBuffered
  written : ∀ x, new x → after.lookup x = some (content x)
  kept : ∀ x value, before.totalBytesRead ≤ x → x < before.totalBytesRead + layout.capacity → ¬ new x →
    before.lookup x = some value → after.lookup x = some value
  allocated : ∀ k, (after.blocks k).isSome = true ↔
    (before.blocks k).isSome = true ∨ ∃ x, new x ∧ layout.getBlockIndex x = k

theorem Fills.refl (content : Nat → UInt8) (buffer : SequencerBuffer layout) :
    Fills content (fun _ => False) buffer buffer where
  total := rfl
  received := rfl
  buffered := rfl
  written _ := False.elim
  kept _ _ _ _ _ := id
  allocated k := by simp

theorem Fills.trans {new new' : Nat → Prop} {first second third : SequencerBuffer layout}
    (earlier : Fills content new first second) (later : Fills content new' second third)
    (inside : ∀ x, new x → first.totalBytesRead ≤ x ∧ x < first.totalBytesRead + layout.capacity) :
    Fills content (fun x => new x ∨ new' x) first third where
  total := later.total.trans earlier.total
  received := later.received.trans earlier.received
  buffered := later.buffered.trans earlier.buffered
  written x either := by
    by_cases again : new' x
    · exact later.written x again
    · have first_time := either.resolve_right again
      obtain ⟨from_read, below⟩ := inside x first_time
      apply later.kept x _ (earlier.total ▸ from_read) (earlier.total ▸ below) again
      exact earlier.written x first_time
  kept x value from_read below neither there := by
    obtain ⟨notNew, notNew'⟩ := not_or.mp neither
    apply later.kept x value (earlier.total ▸ from_read) (earlier.total ▸ below) notNew'
    exact earlier.kept x value from_read below notNew there
  allocated k := by
    rw [later.allocated, earlier.allocated, or_assoc, ← exists_or]
    simp only [or_and_right]

theorem Fills.congr {new new' : Nat → Prop} {before after : SequencerBuffer layout}
    (fills : Fills content new before after) (same : ∀ x, new x ↔ new' x) : Fills content new' before after := by
  have equal : new = new' := funext fun x => propext (same x)
  exact equal ▸ fills

theorem poke_fills (buffer : SequencerBuffer layout) (content : Nat → UInt8) {offset : Nat}
    (inside : buffer.totalBytesRead ≤ offset ∧ offset < buffer.totalBytesRead + layout.capacity) :
    Fills content (· = offset) buffer (buffer.poke offset (content offset)) where
  total := rfl
  received := rfl
  buffered := rfl
  written x same := same ▸ buffer.lookup_poke_self ..
  kept x value from_read below different there := lookup_poke_of_ne inside ⟨from_read, below⟩ different there
  allocated k := by
    rcases eq_or_ne k (layout.getBlockIndex offset) with rfl | other
    · simp [poke, setBlock]
    · simp [poke, setBlock, other, other.symm]

/-- Writing a stretch of the content. -/
theorem fill_fills (buffer : SequencerBuffer layout) (content : Nat → UInt8) {offset len : Nat}
    (from_read : buffer.totalBytesRead ≤ offset) (fits : offset + len ≤ buffer.totalBytesRead + layout.capacity) :
    Fills content (fun x => offset ≤ x ∧ x < offset + len) buffer
      (buffer.fill offset (readBytes content offset len)) := by
  induction len generalizing buffer offset with
  | zero => exact (Fills.refl content buffer).congr fun x => ⟨False.elim, by omega⟩
  | succ len ih =>
    have first := poke_fills buffer content ⟨from_read, show offset < _ by omega⟩
    have rest := @ih (buffer.poke offset (content offset)) (offset + 1) (show buffer.totalBytesRead ≤ _ by omega)
      (show _ ≤ buffer.totalBytesRead + _ by omega)
    rw [readBytes_succ, fill]
    exact (first.trans rest (by omega)).congr fun x => by omega

/-- The whole loop over the intervals that are new. -/
theorem copyIntervals_eq {startingOffset len : Nat} (unwrapped : buffer.Unwrapped) (bytesBuffered : Nat)
    {intervals : List (Machine.Interval Nat)}
    (inFrame : ∀ i ∈ intervals, startingOffset ≤ i.min ∧ i.min < i.max ∧ i.max ≤ startingOffset + len)
    (unread : ∀ i ∈ intervals, buffer.totalBytesRead ≤ i.min)
    (fits : startingOffset + len ≤ buffer.totalBytesRead + layout.capacity) :
    ∃ after bytes, bytes = bytesBuffered + (intervals.map fun i => i.max - i.min).sum ∧
      copyIntervals startingOffset (readBytes content startingOffset len) buffer bytesBuffered intervals =
        .ok ⟨{ after with numBytesBuffered := after.numBytesBuffered + bytes }, bytes, .noError, ""⟩ ∧
      Fills content (Machine.Intervals.Covers intervals) buffer after := by
  induction intervals generalizing buffer bytesBuffered with
  | nil => exact ⟨buffer, bytesBuffered, rfl, rfl, (Fills.refl content buffer).congr fun x => by simp⟩
  | cons i rest ih =>
    obtain ⟨⟨starts, some_point, ends⟩, restInFrame⟩ := List.forall_mem_cons.mp inFrame
    obtain ⟨unread_i, restUnread⟩ := List.forall_mem_cons.mp unread
    have piece : ((readBytes content startingOffset len).drop (i.min - startingOffset)).take (i.max - i.min) =
        readBytes content i.min (i.max - i.min) := by
      rw [drop_readBytes, take_readBytes, Nat.add_sub_cancel' starts, Nat.min_eq_left (by omega)]
    have copies := @copyStreamData_eq _ buffer unwrapped (i.max - i.min) i.min
      (readBytes content i.min (i.max - i.min)) (by simp) (by simp; omega)
    have first := fill_fills buffer content unread_i (show i.min + (i.max - i.min) ≤ _ by omega)
    have same := first.total
    obtain ⟨after, bytes, counted, result, fills⟩ := ih (show Unwrapped _ by unfold Unwrapped; rw [same]; exact unwrapped)
      (bytesBuffered + (i.max - i.min)) restInFrame (by rw [same]; exact restUnread) (by rw [same]; exact fits)
    refine ⟨after, bytes, ?_, ?_, ?_⟩
    · rw [counted, List.map_cons, List.sum_cons]
      omega
    · simp only [copyIntervals, piece, length_readBytes, copies]
      exact result
    · apply (first.trans fills fun x here => by omega).congr
      intro x
      rw [Machine.Intervals.covers_cons, Nat.add_sub_cancel' some_point.le]

/-- The buffer of a stream with the given content. -/
structure Holds (content : Nat → UInt8) (buffer : SequencerBuffer layout) : Prop where
  read : ∀ x < buffer.totalBytesRead, x ∈ buffer.bytesReceived
  window : ∀ x ∈ buffer.bytesReceived, x < buffer.totalBytesRead + layout.capacity
  stored : ∀ x ∈ buffer.bytesReceived, buffer.totalBytesRead ≤ x → buffer.lookup x = some (content x)
  allocated : ∀ k, (buffer.blocks k).isSome = true →
    ∃ x ∈ buffer.bytesReceived, buffer.totalBytesRead ≤ x ∧ layout.getBlockIndex x = k
  counted : buffer.numBytesBuffered + buffer.totalBytesRead = buffer.bytesReceived.count
  sized : buffer.bytesReceived.size < maxNumDataIntervalsAllowed

/-- Filling in what is new keeps the buffer right. -/
theorem Holds.fill {buffer after : SequencerBuffer layout} (holds : buffer.Holds content)
    {bytesReceived newlyReceived : IntervalSet Nat}
    (union : ∀ x, x ∈ bytesReceived ↔ x ∈ buffer.bytesReceived ∨ x ∈ newlyReceived)
    (fresh : ∀ x ∈ newlyReceived, x ∉ buffer.bytesReceived)
    (inside : ∀ x ∈ newlyReceived, x < buffer.totalBytesRead + layout.capacity)
    (sized : bytesReceived.size < maxNumDataIntervalsAllowed)
    (fills : Fills content (· ∈ newlyReceived) { buffer with bytesReceived } after) : ({ after with
      numBytesBuffered := after.numBytesBuffered + newlyReceived.count } : SequencerBuffer layout).Holds content := by
  obtain ⟨total, received, buffered, written, kept, allocated⟩ := fills
  have unread : ∀ x ∈ newlyReceived, buffer.totalBytesRead ≤ x := fun x new =>
    not_lt.mp fun below => fresh x new (holds.read x below)
  constructor
  · simp only [total, received, union]
    exact fun x below => .inl (holds.read x below)
  · simp only [total, received, union]
    exact fun x either => either.elim (holds.window x) (inside x)
  · simp only [total, received, union]
    rintro x (old | new) from_read
    · have same := holds.stored x old from_read
      by_cases again : x ∈ newlyReceived
      · exact absurd old (fresh x again)
      · exact kept x _ from_read (holds.window x old) again same
    · exact written x new
  · simp only [total, received, union]
    intro k there
    rcases (allocated k).mp there with old | ⟨x, new, rfl⟩
    · obtain ⟨x, member, from_read, block⟩ := holds.allocated k old
      exact ⟨x, .inl member, from_read, block⟩
    · exact ⟨x, .inr new, unread x new, rfl⟩
  · have sum := IntervalSet.count_of_disjoint union fun x old new => fresh x new old
    have before := holds.counted
    simp only [total, received, buffered] at *
    omega
  · simp only [received]
    exact sized

/-- The part of a frame that has not arrived before. -/
def newlyReceived (buffer : SequencerBuffer layout) (startingOffset len : Nat) : IntervalSet Nat :=
  (IntervalSet.single startingOffset (startingOffset + len)).difference buffer.bytesReceived

theorem mem_newlyReceived {startingOffset len x : Nat} :
    x ∈ buffer.newlyReceived startingOffset len ↔
      (startingOffset ≤ x ∧ x < startingOffset + len) ∧ x ∉ buffer.bytesReceived := by simp [newlyReceived]

theorem Holds.unread_of_newlyReceived (holds : buffer.Holds content) {startingOffset len x : Nat}
    (new : x ∈ buffer.newlyReceived startingOffset len) : buffer.totalBytesRead ≤ x :=
  not_lt.mp fun below => (mem_newlyReceived.mp new).2 (holds.read x below)

/-- What `OnStreamData` does with a frame of the stream: it accepts the frame exactly when the frame has data, lies in the
window and leaves few enough gaps, and then holds all that has arrived. -/
theorem Holds.onStreamData (holds : buffer.Holds content) (unwrapped : buffer.Unwrapped) {startingOffset len : Nat}
    (short : startingOffset + len < 2 ^ 64) :
    ∃ outcome, buffer.onStreamData startingOffset (readBytes content startingOffset len) = .ok outcome ∧
      outcome.buffer.totalBytesRead = buffer.totalBytesRead ∧
      (outcome.error = .noError ↔ 0 < len ∧ startingOffset + len ≤ buffer.totalBytesRead + layout.capacity ∧
        (buffer.bytesReceived.add startingOffset (startingOffset + len)).size < maxNumDataIntervalsAllowed) ∧
      (outcome.error = .noError → outcome.buffer.Holds content ∧
        outcome.buffer.bytesReceived = buffer.bytesReceived.add startingOffset (startingOffset + len) ∧
        outcome.bytesBuffered = (buffer.newlyReceived startingOffset len).count) := by
  have union : ∀ x, x ∈ buffer.bytesReceived.add startingOffset (startingOffset + len) ↔
      x ∈ buffer.bytesReceived ∨ x ∈ buffer.newlyReceived startingOffset len := by
    intro x
    rw [IntervalSet.mem_add, mem_newlyReceived]
    tauto
  have limit : wrap64 (buffer.totalBytesRead + layout.capacity) = buffer.totalBytesRead + layout.capacity := by
    unfold Unwrapped at unwrapped
    exact Nat.mod_eq_of_lt (by omega)
  have reach : wrap64 (startingOffset + len) = startingOffset + len := Nat.mod_eq_of_lt short
  have refused : ∀ {code : QuicErrorCode} (after : SequencerBuffer layout) (details : String), code ≠ .noError →
      (⟨after, 0, code, details⟩ : StreamDataOutcome layout).error ≠ .noError := fun _ _ different => different
  simp only [SequencerBuffer.onStreamData, length_readBytes, limit, reach]
  rw [← newlyReceived]
  split_ifs with nothing beyond known tooMany
  · have error := refused buffer "Received empty stream frame without FIN."
      (show QuicErrorCode.emptyStreamFrameNoFin ≠ .noError by decide)
    exact ⟨_, rfl, rfl, iff_of_false error (by omega), fun impossible => absurd impossible error⟩
  · have error := refused buffer "Received data beyond available range."
      (show QuicErrorCode.internalError ≠ .noError by decide)
    exact ⟨_, rfl, rfl, iff_of_false error (by omega), fun impossible => absurd impossible error⟩
  · have same : buffer.bytesReceived.add startingOffset (startingOffset + len) = buffer.bytesReceived :=
      IntervalSet.ext fun x => by simp only [union, IntervalSet.isEmpty_iff.mp known, or_false]
    refine ⟨_, rfl, rfl, iff_of_true rfl ⟨by omega, by omega, (congrArg _ same).trans_lt holds.sized⟩, fun _ => ⟨holds, same.symm, ?_⟩⟩
    simp [IntervalSet.count, List.isEmpty_iff.mp known]
  · have error := refused { buffer with bytesReceived := buffer.bytesReceived.add startingOffset (startingOffset + len) }
      "Too many data intervals received for this stream."
      (show QuicErrorCode.tooManyStreamDataIntervals ≠ .noError by decide)
    exact ⟨_, rfl, rfl, iff_of_false error (by omega), fun impossible => absurd impossible error⟩
  · have fits : startingOffset + len ≤ buffer.totalBytesRead + layout.capacity := by omega
    have inFrame : ∀ i ∈ (buffer.newlyReceived startingOffset len).intervals,
        startingOffset ≤ i.min ∧ i.min < i.max ∧ i.max ≤ startingOffset + len := by
      intro i member
      have first := (mem_newlyReceived.mp (IntervalSet.min_mem member)).1
      have last := (mem_newlyReceived.mp (IntervalSet.pred_max_mem member)).1
      have some_point := (buffer.newlyReceived startingOffset len).canonical.nonempty i member
      omega
    have unread : ∀ i ∈ (buffer.newlyReceived startingOffset len).intervals, buffer.totalBytesRead ≤ i.min :=
      fun i member => holds.unread_of_newlyReceived (IntervalSet.min_mem member)
    obtain ⟨after, bytes, counted, result, fills⟩ := @copyIntervals_eq _ content
      { buffer with bytesReceived := buffer.bytesReceived.add startingOffset (startingOffset + len) } startingOffset len
      unwrapped 0 (buffer.newlyReceived startingOffset len).intervals inFrame unread fits
    have bytes_eq : bytes = (buffer.newlyReceived startingOffset len).count := by
      rw [counted, Nat.zero_add]
      rfl
    rw [bytes_eq] at result
    have sized := not_le.mp tooMany
    refine ⟨_, result, fills.total, iff_of_true rfl ⟨by omega, fits, sized⟩, fun _ => ⟨?_, fills.received, rfl⟩⟩
    apply holds.fill union (fun x new => (mem_newlyReceived.mp new).2) ?_ sized fills
    exact fun x new => (mem_newlyReceived.mp new).1.2.trans_le fits

end SequencerBuffer

end PosixQuic
