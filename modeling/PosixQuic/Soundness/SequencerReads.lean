import PosixQuic.Soundness.Reassembly

/-! # Reading a reassembled stream

Regions are handed out block by block, up to the first gap, and blocks are released as soon as nothing unread is left
in them. Releasing looks only at the end of the window and at the next interval; that this decides whether a block is
still in use is the geometry of the ring.
-/

namespace PosixQuic

open Machine (IntervalSet)

namespace SequencerBuffer

variable {layout : BufferLayout} {content : Nat → UInt8} {buffer : SequencerBuffer layout}

/-- `FirstMissingByte` is the least offset that has not arrived. -/
theorem firstMissingByte_spec (buffer : SequencerBuffer layout) :
    (∀ x < buffer.firstMissingByte, x ∈ buffer.bytesReceived) ∧ buffer.firstMissingByte ∉ buffer.bytesReceived := by
  rcases received : buffer.bytesReceived with ⟨intervals, canonical⟩
  simp only [firstMissingByte, received, IntervalSet.first?, IntervalSet.mem_def]
  cases intervals with
  | nil => simp
  | cons first rest =>
    simp only [List.head?_cons]
    split_ifs with late
    · refine ⟨by simp, fun there => ?_⟩
      exact absurd (canonical.le_of_covers there) (by omega)
    · exact ⟨fun x below => ⟨first, List.mem_cons_self, by omega, below⟩,
        canonical.not_covers_max List.mem_cons_self⟩

theorem le_firstMissingByte {bound : Nat} (all : ∀ x < bound, x ∈ buffer.bytesReceived) :
    bound ≤ buffer.firstMissingByte :=
  not_lt.mp fun below => buffer.firstMissingByte_spec.2 (all _ below)

/-- A stretch that has arrived, is unread and lies in one block is in that block. -/
theorem Holds.getBlock (holds : buffer.Holds content) {offset len : Nat} (from_read : buffer.totalBytesRead ≤ offset)
    (some_byte : 0 < len) (arrived : offset + len ≤ buffer.firstMissingByte)
    (inBlock : layout.getInBlockOffset offset + len ≤ layout.getBlockCapacity (layout.getBlockIndex offset)) :
    ∃ block, buffer.getBlock (layout.getBlockIndex offset) = .ok block ∧
      readBytes block (layout.getInBlockOffset offset) len = readBytes content offset len := by
  have stored : ∀ k < len, buffer.lookup (offset + k) = some (content (offset + k)) := fun k below =>
    holds.stored _ (buffer.firstMissingByte_spec.1 _ (by omega)) (by omega)
  obtain ⟨block, found, -⟩ := Option.map_eq_some_iff.mp (stored 0 some_byte)
  rw [Nat.add_zero] at found
  have start := layout.blockStart_add offset
  have within := layout.block_end_le (layout.getBlockIndex_lt offset)
  refine ⟨block, by rw [SequencerBuffer.getBlock, found], readBytes_congr fun k below => ?_⟩
  have place : offset + k = layout.blockStart offset + (layout.getInBlockOffset offset + k) := by omega
  have sameBlock : layout.getBlockIndex (offset + k) = layout.getBlockIndex offset := by
    rw [place]
    exact (layout.getBlockIndex_blockStart_add (by omega)).mpr (by omega)
  have samePlace : layout.getInBlockOffset (offset + k) = layout.getInBlockOffset offset + k := by
    rw [place]
    exact layout.getInBlockOffset_blockStart_add (by omega)
  have byte := stored k below
  rw [lookup, sameBlock, samePlace, found] at byte
  exact Option.some.inj byte

/-- `GetReadableRegions` hands out the content from the read position on, never beyond a gap and never through a block
that is not there, unless nothing is readable. -/
theorem Holds.getReadableRegions (holds : buffer.Holds content) :
    buffer.readableBytes = 0 ∧ buffer.getReadableRegions = .ok none ∨
      ∃ len, 0 < len ∧ len ≤ buffer.readableBytes ∧
        buffer.getReadableRegions = .ok (some (readBytes content buffer.totalBytesRead len)) := by
  have reached := le_firstMissingByte holds.read
  have window : buffer.firstMissingByte ≤ buffer.totalBytesRead + layout.capacity := by
    by_contra beyond
    have outside := holds.window (buffer.totalBytesRead + layout.capacity)
      (buffer.firstMissingByte_spec.1 _ (by omega))
    omega
  set gap := buffer.firstMissingByte with gap_def
  have readable : buffer.readableBytes = gap - buffer.totalBytesRead := rfl
  have start := layout.blockStart_add buffer.totalBytesRead
  have place := layout.getInBlockOffset_lt buffer.totalBytesRead
  have stored : ∀ {len}, 0 < len → buffer.totalBytesRead + len ≤ gap →
      layout.getInBlockOffset buffer.totalBytesRead + len ≤
        layout.getBlockCapacity (layout.getBlockIndex buffer.totalBytesRead) → _ := holds.getBlock le_rfl
  simp only [SequencerBuffer.getReadableRegions, nextBlockToRead, readOffset, ← gap_def]
  split_ifs with nothing single
  · exact .inl ⟨nothing, rfl⟩
  · have inBlock := (layout.same_round_iff (show buffer.totalBytesRead ≤ gap - 1 by omega) (by omega)).mp single
    obtain ⟨block, found, bytes⟩ := @stored buffer.readableBytes (by omega) (by omega) (by omega)
    exact .inr ⟨buffer.readableBytes, by omega, le_rfl, by rw [found, ← bytes]; rfl⟩
  · have beyond := (layout.same_round_iff (show buffer.totalBytesRead ≤ gap - 1 by omega) (by omega)).not.mp single
    obtain ⟨block, found, bytes⟩ := @stored (layout.getBlockCapacity (layout.getBlockIndex buffer.totalBytesRead) -
      layout.getInBlockOffset buffer.totalBytesRead) (by omega) (by omega) (by omega)
    refine .inr ⟨_, ?_, ?_, by rw [found, ← bytes]; rfl⟩ <;> omega

/-! ## Consuming -/

/-- `NextExpectedByte` is the end of what has arrived. -/
theorem nextExpectedByte_spec {x : Nat} (arrived : x ∈ buffer.bytesReceived) :
    x < buffer.nextExpectedByte ∧ buffer.nextExpectedByte - 1 ∈ buffer.bytesReceived := by
  obtain ⟨i, member, -⟩ := IntervalSet.mem_def.mp arrived
  have some_interval : buffer.bytesReceived.intervals ≠ [] := List.ne_nil_of_mem member
  have ends : buffer.bytesReceived.last? = some (buffer.bytesReceived.intervals.getLast some_interval) :=
    List.getLast?_eq_some_getLast some_interval
  have next : buffer.nextExpectedByte = (buffer.bytesReceived.intervals.getLast some_interval).max := by
    rw [nextExpectedByte, ends]
  rw [next]
  exact ⟨IntervalSet.lt_last ends arrived, IntervalSet.pred_max_mem (List.getLast_mem some_interval)⟩

/-- What has been read is the first interval, or the first part of it. -/
theorem exists_first (some_read : 0 < buffer.totalBytesRead)
    (read : ∀ x < buffer.totalBytesRead, x ∈ buffer.bytesReceived) :
    ∃ first rest, buffer.bytesReceived.intervals = first :: rest ∧ first.min = 0 ∧
      first.max = buffer.firstMissingByte := by
  obtain ⟨i, member, starts, -⟩ := IntervalSet.mem_def.mp (read 0 some_read)
  cases split : buffer.bytesReceived.intervals with
  | nil => exact absurd (split ▸ member) List.not_mem_nil
  | cons first rest =>
    have least : first.min = 0 := by
      have zero : Machine.Intervals.Covers (first :: rest) 0 := split ▸ read 0 some_read
      exact Nat.le_zero.mp ((split ▸ buffer.bytesReceived.canonical).le_of_covers zero)
    refine ⟨first, rest, rfl, least, ?_⟩
    simp [firstMissingByte, IntervalSet.first?, split, least]

theorem isEmpty_iff (some_read : 0 < buffer.totalBytesRead)
    (read : ∀ x < buffer.totalBytesRead, x ∈ buffer.bytesReceived) :
    buffer.isEmpty = true ↔ ∀ x ∈ buffer.bytesReceived, x < buffer.totalBytesRead := by
  obtain ⟨first, rest, split, least, gap⟩ := exists_first some_read read
  have reached := le_firstMissingByte read
  have canonical : Machine.Intervals.Canonical (first :: rest) := split ▸ buffer.bytesReceived.canonical
  have test : buffer.isEmpty = true ↔ rest = [] ∧ first.max = buffer.totalBytesRead := by
    simp [isEmpty, IntervalSet.isEmpty, IntervalSet.size, IntervalSet.first?, split, some_read]
  have points : ∀ x, x ∈ buffer.bytesReceived ↔ Machine.Intervals.Covers (first :: rest) x := by
    intro x
    rw [IntervalSet.mem_def, split]
    rfl
  rw [test]
  constructor
  · rintro ⟨rfl, ends⟩ x there
    rw [points, Machine.Intervals.covers_cons] at there
    simpa [ends] using there.elim And.right fun later => absurd later (Machine.Intervals.covers_nil x)
  · intro all
    constructor
    · cases rest with
      | nil => rfl
      | cons next rest =>
        have member : next ∈ first :: next :: rest := by simp
        have beyond := (Machine.Intervals.canonical_cons.mp canonical).2.1 next List.mem_cons_self
        have below := all next.min ((points _).mpr (canonical.covers_min member))
        omega
    · have some_first := canonical.nonempty first List.mem_cons_self
      have below := all (first.max - 1) ((points _).mpr ⟨first, List.mem_cons_self, by omega, by omega⟩)
      omega

theorem retireBlock_snd (buffer : SequencerBuffer layout) (index : Nat) :
    (buffer.retireBlock index).2 = buffer.setBlock index none := by
  unfold retireBlock
  cases found : buffer.blocks index with
  | none =>
    have same : Function.update buffer.blocks index none = buffer.blocks := by rw [← found, Function.update_eq_self]
    simp [setBlock, same]
  | some block => rfl

/-- The buffer after `count` more bytes have been read. -/
def advance (buffer : SequencerBuffer layout) (count : Nat) : SequencerBuffer layout :=
  { buffer with
    totalBytesRead := buffer.totalBytesRead + count
    numBytesBuffered := buffer.numBytesBuffered - count }

/-- Some unread byte that has arrived is in the block. -/
def InUse (buffer : SequencerBuffer layout) (index : Nat) : Prop :=
  ∃ x ∈ buffer.bytesReceived, buffer.totalBytesRead ≤ x ∧ layout.getBlockIndex x = index

/-- Where the unread bytes of the block at the old read position are: in the rest of the block, or at the end of the
window, which has come round to its beginning. -/
theorem Holds.getBlockIndex_eq_iff (holds : buffer.Holds content) {x : Nat} (unread : buffer.totalBytesRead ≤ x)
    (arrived : x ∈ buffer.bytesReceived) : layout.getBlockIndex x = buffer.nextBlockToRead ↔
      x < layout.blockStart buffer.totalBytesRead + layout.getBlockCapacity buffer.nextBlockToRead ∨
        layout.blockStart buffer.totalBytesRead + layout.capacity ≤ x := by
  have start := layout.blockStart_add buffer.totalBytesRead
  have place := layout.getInBlockOffset_lt buffer.totalBytesRead
  have window := holds.window x arrived
  unfold nextBlockToRead
  apply layout.getBlockIndex_eq_iff
  all_goals omega

/-- `RetireBlockIfEmpty`, called when the read position has left a block or come to a gap in it, keeps the block
exactly while it is in use. -/
theorem Holds.retireBlockIfEmpty (holds : buffer.Holds content) {count : Nat} (some_read : 0 < count)
    (exhausts : count = min buffer.readableBytes (layout.getBlockCapacity buffer.nextBlockToRead - buffer.readOffset)) :
    ((buffer.advance count).InUse buffer.nextBlockToRead →
        ((buffer.advance count).retireBlockIfEmpty buffer.nextBlockToRead).2 = buffer.advance count) ∧
      (¬ (buffer.advance count).InUse buffer.nextBlockToRead →
        ((buffer.advance count).retireBlockIfEmpty buffer.nextBlockToRead).2 =
          (buffer.advance count).setBlock buffer.nextBlockToRead none) := by
  set advanced := buffer.advance count
  set used := buffer.nextBlockToRead
  have isUsed : layout.getBlockIndex buffer.totalBytesRead = used := rfl
  set base := layout.blockStart buffer.totalBytesRead
  have start := layout.blockStart_add buffer.totalBytesRead
  have place : buffer.readOffset < layout.getBlockCapacity used := layout.getInBlockOffset_lt buffer.totalBytesRead
  have inside : buffer.totalBytesRead = base + buffer.readOffset := start.symm
  obtain ⟨-, short, -⟩ := layout.block_end used
  have ring := layout.blockSize_lt_capacity
  have total : advanced.totalBytesRead = buffer.totalBytesRead + count := rfl
  have readable : buffer.readableBytes = advanced.firstMissingByte - buffer.totalBytesRead := rfl
  have read : ∀ x < advanced.totalBytesRead, x ∈ advanced.bytesReceived := fun x below =>
    advanced.firstMissingByte_spec.1 x (by omega)
  have blockOf : ∀ x ∈ advanced.bytesReceived, advanced.totalBytesRead ≤ x →
      (layout.getBlockIndex x = used ↔ x < base + layout.getBlockCapacity used ∨ base + layout.capacity ≤ x) :=
    fun x arrived unread => holds.getBlockIndex_eq_iff (by omega) arrived
  have emptiness := isEmpty_iff (show 0 < advanced.totalBytesRead by omega) read
  have last_unread : ¬ advanced.isEmpty = true → advanced.nextExpectedByte - 1 ∈ advanced.bytesReceived ∧
      advanced.totalBytesRead ≤ advanced.nextExpectedByte - 1 := by
    intro left
    rw [emptiness] at left
    push Not at left
    obtain ⟨x, arrived, unread⟩ := left
    obtain ⟨below, last⟩ := nextExpectedByte_spec arrived
    exact ⟨last, by omega⟩
  -- Once the end of the window is not in the block, its unread bytes are those before the end of the block.
  have ahead : ¬ advanced.isEmpty = true → layout.getBlockIndex (advanced.nextExpectedByte - 1) ≠ used →
      ∀ x ∈ advanced.bytesReceived, advanced.totalBytesRead ≤ x → layout.getBlockIndex x = used →
        x < base + layout.getBlockCapacity used := by
    intro left elsewhere x arrived unread here
    obtain ⟨last, late⟩ := last_unread left
    have below := (nextExpectedByte_spec arrived).1
    rcases (blockOf x arrived unread).mp here with before | wrapped
    · exact before
    · exact absurd ((blockOf _ last late).mpr (.inr (by omega))) elsewhere
  unfold SequencerBuffer.retireBlockIfEmpty
  split_ifs with drained reachesEnd sameBlock
  · refine ⟨?_, fun _ => retireBlock_snd ..⟩
    rintro ⟨x, arrived, unread, -⟩
    exact absurd (emptiness.mp drained x arrived) (by omega)
  · obtain ⟨last, late⟩ := last_unread drained
    exact ⟨fun _ => rfl, fun unused => absurd ⟨_, last, late, reachesEnd⟩ unused⟩
  · -- The read position has come to a gap, so the first interval ends with it.
    have stopped : advanced.totalBytesRead < base + layout.getBlockCapacity used := by
      have here := layout.getBlockIndex_eq_iff (show base ≤ advanced.totalBytesRead by omega) (by rw [isUsed]; omega)
      rw [isUsed] at here
      have either := here.mp sameBlock
      omega
    obtain ⟨first, rest, split, least, ends⟩ := exists_first (show 0 < advanced.totalBytesRead by omega) read
    have canonical : Machine.Intervals.Canonical (first :: rest) := split ▸ advanced.bytesReceived.canonical
    have points : ∀ x, x ∈ advanced.bytesReceived ↔ Machine.Intervals.Covers (first :: rest) x := fun x => by
      rw [IntervalSet.mem_def, split]
      rfl
    have behind : ∀ x ∈ advanced.bytesReceived, advanced.totalBytesRead ≤ x → Machine.Intervals.Covers rest x := by
      intro x arrived unread
      exact canonical.covers_tail.mpr ⟨(points x).mp arrived, by omega⟩
    rw [split]
    cases rest with
    | nil =>
      obtain ⟨last, late⟩ := last_unread drained
      exact absurd (behind _ last late) (Machine.Intervals.covers_nil _)
    | cons next rest =>
      have later := (Machine.Intervals.canonical_cons.mp canonical).2
      have next_arrived : next.min ∈ advanced.bytesReceived := (points _).mpr (canonical.covers_min (by simp))
      have next_unread : advanced.totalBytesRead ≤ next.min := by
        have gap := later.1 next List.mem_cons_self
        omega
      dsimp only
      split_ifs with nextHere
      · exact ⟨fun _ => rfl, fun unused => absurd ⟨_, next_arrived, next_unread, nextHere⟩ unused⟩
      · refine ⟨?_, fun _ => retireBlock_snd ..⟩
        rintro ⟨x, arrived, unread, here⟩
        have before := ahead drained reachesEnd x arrived unread here
        have order := later.2.le_of_covers (behind x arrived unread)
        exact absurd ((blockOf _ next_arrived next_unread).mpr (.inl (by omega))) nextHere
  · refine ⟨?_, fun _ => retireBlock_snd ..⟩
    rintro ⟨x, arrived, unread, here⟩
    have before := ahead drained reachesEnd x arrived unread here
    have left : layout.getBlockIndex advanced.totalBytesRead = used := by
      rw [← isUsed, layout.getBlockIndex_eq_iff (show base ≤ advanced.totalBytesRead by omega) (by rw [isUsed]; omega),
        isUsed]
      omega
    exact absurd left sameBlock

/-- Reading on in one block, after which only blocks that are not in use have been released and the block just read is
in use or released. -/
theorem Holds.advance (holds : buffer.Holds content) {count : Nat}
    (available : buffer.totalBytesRead + count ≤ buffer.firstMissingByte)
    (inBlock : buffer.readOffset + count ≤ layout.getBlockCapacity buffer.nextBlockToRead)
    {blocks : Nat → Option BufferBlock}
    (released : ∀ k, blocks k = buffer.blocks k ∨ blocks k = none ∧ ¬ (buffer.advance count).InUse k)
    (left : (blocks buffer.nextBlockToRead).isSome = true → (buffer.advance count).InUse buffer.nextBlockToRead) :
    ({ buffer.advance count with blocks } : SequencerBuffer layout).Holds content := by
  have arrived : ∀ x < buffer.totalBytesRead + count, x ∈ buffer.bytesReceived := fun x below =>
    buffer.firstMissingByte_spec.1 x (by omega)
  constructor
  · exact arrived
  · intro x there
    have window := holds.window x there
    simp only [SequencerBuffer.advance]
    omega
  · intro x there unread
    have unread' : buffer.totalBytesRead + count ≤ x := unread
    rcases released (layout.getBlockIndex x) with same | ⟨-, unused⟩
    · have stored := holds.stored x there (by omega)
      rw [lookup, ← same] at stored
      exact stored
    · exact absurd ⟨x, there, unread, rfl⟩ unused
  · intro k allocated
    have same : blocks k = buffer.blocks k := by
      rcases released k with same | ⟨gone, -⟩
      · exact same
      · simp [gone] at allocated
    obtain ⟨x, there, from_read, rfl⟩ := holds.allocated k (same ▸ allocated)
    rcases Nat.lt_or_ge x (buffer.totalBytesRead + count) with consumed | unread
    · -- A byte that has just been read was in the block just read.
      have start := layout.blockStart_add buffer.totalBytesRead
      have here : layout.getBlockIndex x = buffer.nextBlockToRead := by
        apply (holds.getBlockIndex_eq_iff from_read there).mpr
        unfold readOffset at inBlock
        omega
      rw [here] at allocated ⊢
      exact left allocated
    · exact ⟨x, there, unread, rfl⟩
  · have all := IntervalSet.le_count arrived
    have counted := holds.counted
    simp only [SequencerBuffer.advance]
    omega
  · exact holds.sized

/-- One round of `MarkConsumed`. -/
theorem Holds.consumeRound (holds : buffer.Holds content) {count avail : Nat}
    (avail_def : avail = min buffer.readableBytes (layout.getBlockCapacity buffer.nextBlockToRead - buffer.readOffset))
    (some_read : 0 < count) (available : count ≤ avail) :
    (if avail = count then ((buffer.advance count).retireBlockIfEmpty buffer.nextBlockToRead).2
      else buffer.advance count).Holds content ∧
    ∃ blocks, (if avail = count then ((buffer.advance count).retireBlockIfEmpty buffer.nextBlockToRead).2
      else buffer.advance count) = { buffer.advance count with blocks } := by
  have readable : buffer.readableBytes = buffer.firstMissingByte - buffer.totalBytesRead := rfl
  have place : buffer.readOffset < layout.getBlockCapacity buffer.nextBlockToRead :=
    layout.getInBlockOffset_lt buffer.totalBytesRead
  have before_gap : buffer.totalBytesRead + count ≤ buffer.firstMissingByte := by omega
  have inBlock : buffer.readOffset + count ≤ layout.getBlockCapacity buffer.nextBlockToRead := by omega
  have keeps : (buffer.advance count).InUse buffer.nextBlockToRead → (buffer.advance count).Holds content := by
    intro used
    exact holds.advance before_gap inBlock (fun k => .inl rfl) fun _ => used
  split_ifs with exhausted
  · obtain ⟨kept, retired⟩ := holds.retireBlockIfEmpty some_read (exhausted ▸ avail_def)
    by_cases used : (buffer.advance count).InUse buffer.nextBlockToRead
    · rw [kept used]
      exact ⟨keeps used, _, rfl⟩
    · rw [retired used]
      refine ⟨holds.advance before_gap inBlock (fun k => ?_) ?_, _, rfl⟩
      · rcases eq_or_ne k buffer.nextBlockToRead with rfl | other
        · exact .inr ⟨Function.update_self .., used⟩
        · exact .inl (Function.update_of_ne other ..)
      · simp
  · -- Bytes of the block are left to read, the next one among them.
    have start := layout.blockStart_add buffer.totalBytesRead
    have arrived := buffer.firstMissingByte_spec.1 (buffer.totalBytesRead + count) (by omega)
    refine ⟨keeps ⟨_, arrived, le_rfl, ?_⟩, _, rfl⟩
    apply (holds.getBlockIndex_eq_iff (Nat.le_add_right ..) arrived).mpr
    unfold readOffset at *
    omega

theorem Holds.consume (holds : buffer.Holds content) {fuel bytesToConsume : Nat} (enough : bytesToConsume ≤ fuel)
    (available : buffer.totalBytesRead + bytesToConsume ≤ buffer.firstMissingByte) :
    ∃ after, SequencerBuffer.consume fuel buffer bytesToConsume = .ok after ∧ after.Holds content ∧
      after.totalBytesRead = buffer.totalBytesRead + bytesToConsume ∧ after.bytesReceived = buffer.bytesReceived := by
  induction fuel generalizing buffer bytesToConsume with
  | zero =>
    obtain rfl := Nat.le_zero.mp enough
    exact ⟨buffer, rfl, holds, rfl, rfl⟩
  | succ fuel ih =>
    cases bytesToConsume with
    | zero => exact ⟨buffer, rfl, holds, rfl, rfl⟩
    | succ bytes =>
      have readable : buffer.readableBytes = buffer.firstMissingByte - buffer.totalBytesRead := rfl
      have place : buffer.readOffset < layout.getBlockCapacity buffer.nextBlockToRead :=
        layout.getInBlockOffset_lt buffer.totalBytesRead
      set avail := min buffer.readableBytes (layout.getBlockCapacity buffer.nextBlockToRead - buffer.readOffset)
        with avail_def
      set count := min (bytes + 1) avail with count_def
      have round := @Holds.consumeRound _ content buffer holds count avail avail_def (by omega) (by omega)
      set after := if avail = count then ((buffer.advance count).retireBlockIfEmpty buffer.nextBlockToRead).2
        else buffer.advance count with after_def
      obtain ⟨holds', blocks, shape⟩ := round
      have total : after.totalBytesRead = buffer.totalBytesRead + count := by rw [shape]; rfl
      have received : after.bytesReceived = buffer.bytesReceived := by rw [shape]; rfl
      have gap : after.firstMissingByte = buffer.firstMissingByte := by
        rw [firstMissingByte, received]
        rfl
      obtain ⟨last, result, holdsLast, totalLast, receivedLast⟩ :=
        @ih after holds' (bytes + 1 - count) (by omega) (by omega)
      refine ⟨last, ?_, holdsLast, by omega, receivedLast.trans received⟩
      rw [← result]
      rfl

/-- `MarkConsumed` accepts exactly what can be read. -/
theorem Holds.markConsumed (holds : buffer.Holds content) {bytesUsed : Nat}
    (available : buffer.totalBytesRead + bytesUsed ≤ buffer.firstMissingByte) :
    ∃ after, buffer.markConsumed bytesUsed = .ok (true, after) ∧ after.Holds content ∧
      after.totalBytesRead = buffer.totalBytesRead + bytesUsed ∧ after.bytesReceived = buffer.bytesReceived := by
  have readable : buffer.readableBytes = buffer.firstMissingByte - buffer.totalBytesRead := rfl
  obtain ⟨after, result, rest⟩ := holds.consume le_rfl available
  refine ⟨after, ?_, rest⟩
  rw [SequencerBuffer.markConsumed, if_neg (by omega), result]
  rfl

theorem mem_clear {x : Nat} : x ∈ buffer.clear.bytesReceived ↔ x < buffer.totalBytesRead := by simp [clear]

/-- A cleared buffer has forgotten what it had not handed out. -/
theorem clear_holds (content : Nat → UInt8) : buffer.clear.Holds content := by
  have points : ∀ x, x ∈ buffer.clear.bytesReceived ↔ x < buffer.totalBytesRead := fun _ => mem_clear
  constructor
  · exact fun x below => (points x).mpr below
  · intro x there
    exact ((points x).mp there).trans_le (Nat.le_add_right ..)
  · intro x there unread
    exact absurd ((points x).mp there) (not_lt_of_ge unread)
  · intro k allocated
    simp [clear] at allocated
  · rw [IntervalSet.count_of_lt points]
    simp [clear]
  · rcases Nat.eq_zero_or_pos buffer.totalBytesRead with none_read | some_read
    · have nothing : buffer.clear.bytesReceived = .empty := IntervalSet.ext fun x => by
        rw [points, none_read]
        simp
      rw [nothing]
      decide
    · rw [clear, IntervalSet.size, IntervalSet.intervals_single some_read, List.length_singleton]
      decide

theorem firstMissingByte_clear (buffer : SequencerBuffer layout) :
    buffer.clear.firstMissingByte = buffer.totalBytesRead := by
  obtain ⟨below, missing⟩ := buffer.clear.firstMissingByte_spec
  rw [mem_clear, not_lt] at missing
  apply le_antisymm _ missing
  by_contra beyond
  exact lt_irrefl _ (mem_clear.mp (below _ (not_le.mp beyond)))

theorem nextExpectedByte_le {bound : Nat} (all : ∀ x ∈ buffer.bytesReceived, x < bound) :
    buffer.nextExpectedByte ≤ bound := by
  unfold nextExpectedByte
  cases last : buffer.bytesReceived.last? with
  | none => exact Nat.zero_le _
  | some i =>
    have below := all _ (IntervalSet.pred_max_mem (List.mem_of_getLast? last))
    dsimp only
    omega

theorem Holds.totalBytesRead_le_nextExpectedByte (holds : buffer.Holds content) :
    buffer.totalBytesRead ≤ buffer.nextExpectedByte := by
  rcases Nat.eq_zero_or_pos buffer.totalBytesRead with none_read | some_read
  · omega
  · have last := (nextExpectedByte_spec (holds.read (buffer.totalBytesRead - 1) (by omega))).1
    omega

end SequencerBuffer

end PosixQuic
