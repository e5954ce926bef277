import PosixQuic.Machine.IntervalSet
import PosixQuic.Model.Basic

/-! # The reassembly buffer of a receiving stream

`QuicStreamSequencerBuffer` keeps what has arrived but was not read yet in a ring of blocks. A block is allocated
when the first byte of it arrives and released when nothing unread is left in it. `bytes_received_` says which
offsets have ever arrived; what has been read is its first stretch. The map of arrival times is left out: nothing
that a Quartc stream calls reads it.
-/

namespace PosixQuic

open Machine (IntervalSet)

/-- `kBlockSizeBytes` and the constructor's `max_capacity_bytes`, with its `CHECK_GT(blocks_count_, 1)`. -/
structure BufferLayout where
  blockSize : Nat
  capacity : Nat
  blockSize_pos : 0 < blockSize
  blocks_gt_one : 1 < (capacity + blockSize - 1) / blockSize
  small : capacity + blockSize ≤ 2 ^ 62

namespace BufferLayout

/-- What `QuicStreamSequencer` uses: blocks of 8 KiB and `kStreamReceiveWindowLimit`. -/
def libquic : BufferLayout := ⟨8 * 1024, 16 * 1024 * 1024, by decide, by decide, by decide⟩

def blocksCount (layout : BufferLayout) : Nat := (layout.capacity + layout.blockSize - 1) / layout.blockSize

def getBlockIndex (layout : BufferLayout) (offset : Nat) : Nat := offset % layout.capacity / layout.blockSize

def getInBlockOffset (layout : BufferLayout) (offset : Nat) : Nat := offset % layout.capacity % layout.blockSize

/-- Only the last block may be shorter. -/
def getBlockCapacity (layout : BufferLayout) (blockIndex : Nat) : Nat :=
  if blockIndex + 1 = layout.blocksCount then
    let result := layout.capacity % layout.blockSize
    if result = 0 then layout.blockSize else result
  else layout.blockSize

end BufferLayout

/-- `QuicStreamOffset` and `size_t` have 64 bits. -/
def wrap64 (n : Nat) : Nat := n % 2 ^ 64

/-- `kMaxNumDataIntervalsAllowed`, which is `2 * kMaxPacketGap`. -/
def maxNumDataIntervalsAllowed : Nat := 2 * 5000

abbrev BufferBlock := Nat → UInt8

namespace BufferBlock

/-- `memcpy` into a block. -/
def write (block : BufferBlock) (dest : Nat) (source : List UInt8) : BufferBlock := fun k =>
  if dest ≤ k ∧ k < dest + source.length then source.getD (k - dest) 0 else block k

end BufferBlock

/-- A stretch of bytes, such as those behind an `iovec` into a block. -/
def readBytes (bytes : Nat → UInt8) (start len : Nat) : List UInt8 := (List.range len).map fun k => bytes (start + k)

/-- The `QuicErrorCode`s of the receiving side. -/
inductive QuicErrorCode where
  | noError
  | internalError
  | emptyStreamFrameNoFin
  | flowControlReceivedTooMuchData
  | tooManyStreamDataIntervals
  | streamSequencerInvalidState
  | streamLengthOverflow
deriving DecidableEq, Repr

/-- What a call can do instead of returning. -/
inductive BufferFault where
  | nullBlock
  | endlessLoop
deriving DecidableEq, Repr

structure SequencerBuffer (layout : BufferLayout) where
  totalBytesRead : Nat := 0
  blocks : Nat → Option BufferBlock := fun _ => none
  numBytesBuffered : Nat := 0
  bytesReceived : IntervalSet Nat := .empty

namespace SequencerBuffer

variable {layout : BufferLayout}

/-- `Clear`, and `ReleaseWholeBuffer`: an array without blocks and no array are not told apart. -/
def clear (buffer : SequencerBuffer layout) : SequencerBuffer layout :=
  { buffer with
    blocks := fun _ => none
    numBytesBuffered := 0
    bytesReceived := .single 0 buffer.totalBytesRead }

def firstMissingByte (buffer : SequencerBuffer layout) : Nat :=
  match buffer.bytesReceived.first? with
  | none => 0
  | some first => if 0 < first.min then 0 else first.max

def nextExpectedByte (buffer : SequencerBuffer layout) : Nat :=
  match buffer.bytesReceived.last? with
  | none => 0
  | some last => last.max

def readableBytes (buffer : SequencerBuffer layout) : Nat := buffer.firstMissingByte - buffer.totalBytesRead

def isEmpty (buffer : SequencerBuffer layout) : Bool :=
  buffer.bytesReceived.isEmpty ||
    (buffer.bytesReceived.size = 1 && 0 < buffer.totalBytesRead &&
      buffer.bytesReceived.first?.any fun first => first.max = buffer.totalBytesRead)

def readOffset (buffer : SequencerBuffer layout) : Nat := layout.getInBlockOffset buffer.totalBytesRead

def nextBlockToRead (buffer : SequencerBuffer layout) : Nat := layout.getBlockIndex buffer.totalBytesRead

def setBlock (buffer : SequencerBuffer layout) (index : Nat) (block : Option BufferBlock) : SequencerBuffer layout :=
  { buffer with blocks := Function.update buffer.blocks index block }

/-- How much of the block at `offset` a write may use: up to its end, and to the end of the ring. -/
def bytesAvail (buffer : SequencerBuffer layout) (offset : Nat) : Nat :=
  let avail := layout.getBlockCapacity (layout.getBlockIndex offset) - layout.getInBlockOffset offset
  let limit := wrap64 (buffer.totalBytesRead + layout.capacity)
  if limit < wrap64 (offset + avail) then limit - offset else avail

/-- The result of `CopyStreamData` and its out-parameters. -/
structure CopyOutcome (layout : BufferLayout) where
  buffer : SequencerBuffer layout
  bytesCopy : Nat
  failure : Option String

/-- `CopyStreamData`, block by block. Every round but one in a broken state copies a byte, so the length of the data
bounds the rounds. -/
def copyStreamData : Nat → SequencerBuffer layout → Nat → List UInt8 → Except BufferFault (CopyOutcome layout)
  | _, buffer, _, [] => .ok ⟨buffer, 0, none⟩
  | 0, _, _, _ :: _ => .error .endlessLoop
  | fuel + 1, buffer, offset, source =>
    let writeBlockNum := layout.getBlockIndex offset
    let writeBlockOffset := layout.getInBlockOffset offset
    if layout.blocksCount ≤ writeBlockNum then
      .ok ⟨buffer, 0, some ("QuicStreamSequencerBuffer error: OnStreamData() exceed array bounds." ++
        "write offset = " ++ toString offset ++ " write_block_num = " ++ toString writeBlockNum ++
        " blocks_count_ = " ++ toString layout.blocksCount)⟩
    else
      let block := (buffer.blocks writeBlockNum).getD fun _ => 0
      let bytesToCopy := min (buffer.bytesAvail offset) source.length
      let copied := buffer.setBlock writeBlockNum (some (block.write writeBlockOffset (source.take bytesToCopy)))
      (copyStreamData fuel copied (offset + bytesToCopy) (source.drop bytesToCopy)).map fun rest =>
        { rest with bytesCopy := bytesToCopy + rest.bytesCopy }

/-- The result of `OnStreamData` and its out-parameters. -/
structure StreamDataOutcome (layout : BufferLayout) where
  buffer : SequencerBuffer layout
  bytesBuffered : Nat
  error : QuicErrorCode
  errorDetails : String

/-- The loop over `newly_received`: each of its intervals is copied from its place in the frame. -/
def copyIntervals (startingOffset : Nat) (data : List UInt8) :
    SequencerBuffer layout → Nat → List (Machine.Interval Nat) → Except BufferFault (StreamDataOutcome layout)
  | buffer, bytesBuffered, [] =>
    .ok ⟨{ buffer with numBytesBuffered := buffer.numBytesBuffered + bytesBuffered }, bytesBuffered, .noError, ""⟩
  | buffer, bytesBuffered, interval :: rest => do
    let piece := (data.drop (interval.min - startingOffset)).take (interval.max - interval.min)
    let copy ← copyStreamData piece.length buffer interval.min piece
    match copy.failure with
    | some details => return ⟨copy.buffer, bytesBuffered, .streamSequencerInvalidState, details⟩
    | none => copyIntervals startingOffset data copy.buffer (bytesBuffered + copy.bytesCopy) rest

/-- `OnStreamData`. Only what has not arrived before is copied; `quic_fast_path_on_stream_data` is off. -/
def onStreamData (buffer : SequencerBuffer layout) (startingOffset : Nat) (data : List UInt8) :
    Except BufferFault (StreamDataOutcome layout) :=
  let size := data.length
  if size = 0 then
    .ok ⟨buffer, 0, .emptyStreamFrameNoFin, "Received empty stream frame without FIN."⟩
  else if wrap64 (buffer.totalBytesRead + layout.capacity) < wrap64 (startingOffset + size) ∨
      wrap64 (startingOffset + size) < startingOffset then
    .ok ⟨buffer, 0, .internalError, "Received data beyond available range."⟩
  else
    let newlyReceived := (IntervalSet.single startingOffset (startingOffset + size)).difference buffer.bytesReceived
    if newlyReceived.isEmpty then .ok ⟨buffer, 0, .noError, ""⟩
    else
      let bytesReceived := buffer.bytesReceived.add startingOffset (startingOffset + size)
      if maxNumDataIntervalsAllowed ≤ bytesReceived.size then
        .ok ⟨{ buffer with bytesReceived }, 0, .tooManyStreamDataIntervals,
          "Too many data intervals received for this stream."⟩
      else copyIntervals startingOffset data { buffer with bytesReceived } 0 newlyReceived.intervals

def getBlock (buffer : SequencerBuffer layout) (index : Nat) : Except BufferFault BufferBlock :=
  match buffer.blocks index with
  | none => .error .nullBlock
  | some block => .ok block

/-- `GetReadableRegions` called with one `iovec`, as the bytes behind it: to the first gap or to the end of the block. -/
def getReadableRegions (buffer : SequencerBuffer layout) : Except BufferFault (Option (List UInt8)) :=
  if buffer.readableBytes = 0 then .ok none
  else
    let startBlockIdx := buffer.nextBlockToRead
    let readableOffsetEnd := buffer.firstMissingByte - 1
    let endBlockOffset := layout.getInBlockOffset readableOffsetEnd
    let endBlockIdx := layout.getBlockIndex readableOffsetEnd
    if startBlockIdx = endBlockIdx ∧ buffer.readOffset ≤ endBlockOffset then do
      let block ← buffer.getBlock startBlockIdx
      return some (readBytes block buffer.readOffset buffer.readableBytes)
    else do
      let block ← buffer.getBlock startBlockIdx
      return some (readBytes block buffer.readOffset (layout.getBlockCapacity startBlockIdx - buffer.readOffset))

/-- `RetireBlock` refuses a block that is not there. -/
def retireBlock (buffer : SequencerBuffer layout) (index : Nat) : Bool × SequencerBuffer layout :=
  match buffer.blocks index with
  | none => (false, buffer)
  | some _ => (true, buffer.setBlock index none)

/-- `RetireBlockIfEmpty`, which keeps a block that the end of the ring or the next interval has reached. -/
def retireBlockIfEmpty (buffer : SequencerBuffer layout) (blockIndex : Nat) : Bool × SequencerBuffer layout :=
  if buffer.isEmpty then buffer.retireBlock blockIndex
  else if layout.getBlockIndex (buffer.nextExpectedByte - 1) = blockIndex then (true, buffer)
  else if buffer.nextBlockToRead = blockIndex then
    match buffer.bytesReceived.intervals with
    | _ :: next :: _ =>
      if layout.getBlockIndex next.min = blockIndex then (true, buffer) else buffer.retireBlock blockIndex
    | _ => (false, buffer)
  else buffer.retireBlock blockIndex

/-- The loop of `MarkConsumed`. Each round ends a block or the bytes to consume. -/
def consume : Nat → SequencerBuffer layout → Nat → Except BufferFault (SequencerBuffer layout)
  | _, buffer, 0 => .ok buffer
  | 0, _, _ + 1 => .error .endlessLoop
  | fuel + 1, buffer, bytesToConsume =>
    let blockIdx := buffer.nextBlockToRead
    let bytesAvailable := min buffer.readableBytes (layout.getBlockCapacity blockIdx - buffer.readOffset)
    let bytesRead := min bytesToConsume bytesAvailable
    let advanced := { buffer with
      totalBytesRead := buffer.totalBytesRead + bytesRead
      numBytesBuffered := buffer.numBytesBuffered - bytesRead }
    let retired := if bytesAvailable = bytesRead then (advanced.retireBlockIfEmpty blockIdx).2 else advanced
    consume fuel retired (bytesToConsume - bytesRead)

/-- `MarkConsumed` refuses to consume more than is readable. -/
def markConsumed (buffer : SequencerBuffer layout) (bytesUsed : Nat) :
    Except BufferFault (Bool × SequencerBuffer layout) :=
  if buffer.readableBytes < bytesUsed then .ok (false, buffer)
  else (consume bytesUsed buffer bytesUsed).map fun consumed => (true, consumed)

/-- `FlushBufferedFrames` skips to the end of what has arrived, over the gaps. -/
def flushBufferedFrames (buffer : SequencerBuffer layout) : Nat × SequencerBuffer layout :=
  let flushed := { buffer with totalBytesRead := buffer.nextExpectedByte }
  (flushed.totalBytesRead - buffer.totalBytesRead, flushed.clear)

end SequencerBuffer

end PosixQuic
