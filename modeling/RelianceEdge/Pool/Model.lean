import RelianceEdge.Lib.Op
import RelianceEdge.Pool.Endian

set_option relaxedAutoImplicit false
set_option autoImplicit false

/-!
# The buffer cache of several volumes

`buffer.c`, `blockio.c` and the parts of `buffercmn.c` it calls, with the pool of buffers shared by
every volume, blocks as bytes in the byte order of the disk, and a block device that may fail a
request. The rest of the driver sees the cache through `RelianceEdge.Buffer`, where there is one
volume and a block has its type.

A request to the device takes the next of the `outcomes` of the state: `none` when it succeeds,
otherwise what it leaves in the blocks it was about.

## Main definitions

* `Pool` — the buffer context, the volumes and their devices.
* `Pool.redBufferGet`, `Pool.redBufferPut`, … — `buffer.c`.
-/

namespace RelianceEdge

variable [RedConf]

open RedConf

/-- The part of the configuration that only the shared pool needs. -/
class PoolConf where
  /-- `REDCONF_VOLUME_COUNT`. -/
  volumeCount : ℕ
  /-- `REDCONF_ENDIAN_SWAP`. -/
  endianSwap : Bool
  /-- `RedCrcNode()`: the checksum of the sequence number and of what follows the header. -/
  redCrcNode : UInt64 → List UInt8 → UInt32

variable [PoolConf]

open PoolConf

/-- `BUFFERHEAD`, with the dirty flag and the type of `uFlags` apart. -/
structure PoolHead where
  ulBlock : ℕ
  bVolNum : ℕ
  bRefCount : ℕ
  fDirty : Bool
  type : BufType

/-- The fields of `VOLUME` that the cache reads or sets. -/
structure PoolVolume where
  ulBlockCount : ℕ
  ullSequence : UInt64
  fMounted : Bool
  fReadOnly : Bool

/-- `BUFFERCTX`, the volumes and the contents of their devices. -/
structure Pool where
  uNumUsed : ℕ
  abMRU : List ℕ
  aHead : ℕ → PoolHead
  pbBlkBuf : ℕ → RawBlock
  /-- `gbRedVolNum`, the current volume. -/
  gbRedVolNum : ℕ
  gaRedVolume : ℕ → PoolVolume
  disk : ℕ → ℕ → RawBlock
  /-- How the device answers the requests to come; those beyond the end of the list succeed. -/
  outcomes : List (Option (ℕ → RawBlock))

/-- Operations of the cache. -/
abbrev PoolOp (α : Type) := Op Pool RedError α

namespace RawBlock

/-- Swap a block if the machine and the disk differ in byte order. -/
def swap (block : RawBlock) (type : BufType) : RawBlock :=
  if endianSwap then block.redBufferEndianSwap type else block

@[simp] lemma swap_swap (block : RawBlock) (type : BufType) :
    (block.swap type).swap type = block := by
  unfold swap
  split_ifs
  · exact block.redBufferEndianSwap_swap type
  · rfl

@[simp] lemma swap_data (block : RawBlock) : block.swap .data = block := by
  unfold swap
  split_ifs <;> rfl

/-- A block of zeroes. -/
def zero : RawBlock := ⟨⟨0, 0, 0⟩, List.replicate (blockSize - 16) 0⟩

end RawBlock

/-- The node header of a stored block in the byte order of the machine. -/
def NodeHeader.fromDisk (hdr : NodeHeader) : NodeHeader := if endianSwap then hdr.swap else hdr

/-- `META_SIG_MASTER` and its siblings. -/
def metaSig : BufType → UInt32
  | .master => 0x5453414D
  | .imap => 0x50414D49
  | .inode => 0x444F4E49
  | .dindir => 0x494C4244
  | .indir => 0x49444E49
  | .directory => 0x44524944
  | .data => 0

namespace Pool

/-! ## Volumes and devices -/

/-- `gpRedVolume`. -/
def gpRedVolume (s : Pool) : PoolVolume := s.gaRedVolume s.gbRedVolNum

/-- Replace the fields of one volume. -/
def setVolume (s : Pool) (bVolNum : ℕ) (vol : PoolVolume) : Pool :=
  { s with gaRedVolume := Function.update s.gaRedVolume bVolNum vol }

/-- `CRITICAL_ERROR()`: the current volume becomes read-only. -/
def criticalError : PoolOp Unit :=
  .modify fun s => s.setVolume s.gbRedVolNum { s.gpRedVolume with fReadOnly := true }

/-- `CRITICAL_ASSERT(EXP)`. -/
def criticalAssert (exp : Bool) : PoolOp Unit := if exp then pure () else criticalError

/-- The device answers a request. -/
def request : PoolOp (Option (ℕ → RawBlock)) := fun s =>
  (.ok (s.outcomes.headD none), { s with outcomes := s.outcomes.tail })

/-- Whether the blocks lie on the volume. -/
def blockRangeIsValid (s : Pool) (bVolNum ulBlockStart ulBlockCount : ℕ) : Bool :=
  decide (ulBlockStart < (s.gaRedVolume bVolNum).ulBlockCount) &&
    decide (ulBlockCount ≤ (s.gaRedVolume bVolNum).ulBlockCount - ulBlockStart) &&
    decide (ulBlockCount ≠ 0)

/-- Replace the blocks of a range on one device. -/
def setDisk (s : Pool) (bVolNum ulBlockStart ulBlockCount : ℕ) (blocks : ℕ → RawBlock) : Pool :=
  { s with disk := fun v b =>
      if v = bVolNum ∧ ulBlockStart ≤ b ∧ b < ulBlockStart + ulBlockCount then
        blocks (b - ulBlockStart)
      else s.disk v b }

/-- `RedIoRead()`: the status, and what is then in the destination if the device was asked. -/
def redIoRead (bVolNum ulBlockStart ulBlockCount : ℕ) :
    PoolOp (Except RedError Unit × Option (ℕ → RawBlock)) := do
  let s ← .get
  if volumeCount ≤ bVolNum ∨ ¬ s.blockRangeIsValid bVolNum ulBlockStart ulBlockCount then
    criticalAssert (decide (bVolNum < volumeCount) && !(s.gaRedVolume bVolNum).fMounted)
    pure (.error .EINVAL, none)
  else
    match ← request with
    | none => pure (.ok (), some fun ulIdx => s.disk bVolNum (ulBlockStart + ulIdx))
    | some garbage =>
      criticalAssert (!(s.gaRedVolume bVolNum).fMounted)
      pure (.error RedError.EIO, some garbage)

/-- `RedIoWrite()`: a request that fails leaves anything in the blocks. -/
def redIoWrite (bVolNum ulBlockStart ulBlockCount : ℕ) (pBuffer : ℕ → RawBlock) :
    PoolOp Unit := do
  let s ← .get
  if volumeCount ≤ bVolNum ∨ ¬ s.blockRangeIsValid bVolNum ulBlockStart ulBlockCount then
    criticalError
    .fail .EINVAL
  else
    match ← request with
    | none => .modify fun s => s.setDisk bVolNum ulBlockStart ulBlockCount pBuffer
    | some garbage =>
      .modify fun s => s.setDisk bVolNum ulBlockStart ulBlockCount garbage
      criticalError
      .fail RedError.EIO

/-! ## Buffer heads -/

/-- Update one buffer head. -/
def setHead (s : Pool) (bIdx : ℕ) (f : PoolHead → PoolHead) : Pool :=
  { s with aHead := Function.update s.aHead bIdx (f (s.aHead bIdx)) }

/-- Replace the contents of one buffer. -/
def setBuf (s : Pool) (bIdx : ℕ) (block : RawBlock) : Pool :=
  { s with pbBlkBuf := Function.update s.pbBlkBuf bIdx block }

/-- `RedBufferInit()`. -/
def redBufferInit : PoolOp Unit :=
  .modify fun s => { s with
    uNumUsed := 0
    abMRU := (List.range bufferCount).reverse
    aHead := fun _ => ⟨BBLK_INVALID, 0, 0, false, .data⟩
    pbBlkBuf := fun _ => .zero }

/-- `BufferMakeLRU()`. -/
def bufferMakeLRU (bIdx : ℕ) : PoolOp Unit :=
  .modify fun s => { s with
    abMRU := if bIdx ∈ s.abMRU then s.abMRU.erase bIdx ++ [bIdx] else s.abMRU }

/-- `BufferMakeMRU()`. -/
def bufferMakeMRU (bIdx : ℕ) : PoolOp Unit :=
  .modify fun s => { s with
    abMRU := if bIdx ∈ s.abMRU then bIdx :: s.abMRU.erase bIdx else s.abMRU }

/-- The buffer of a block of a volume. -/
def find (s : Pool) (bVolNum ulBlock : ℕ) : Option ℕ :=
  (List.range bufferCount).find? fun bIdx =>
    (s.aHead bIdx).bVolNum == bVolNum && (s.aHead bIdx).ulBlock == ulBlock

/-- `BufferFind()`. -/
def bufferFind (ulBlock : ℕ) : PoolOp (Option ℕ) := do
  let s ← .get
  if s.gpRedVolume.ulBlockCount ≤ ulBlock then pure none
  else pure (s.find s.gbRedVolNum ulBlock)

/-- `BufferToIdx()`: a pointer is good when it refers to a buffer in use for the current volume. -/
def bufferToIdx (s : Pool) (pBuffer : ℕ) : Bool :=
  decide (pBuffer < bufferCount) && (s.aHead pBuffer).ulBlock != BBLK_INVALID &&
    (s.aHead pBuffer).bVolNum == s.gbRedVolNum

/-! ## Nodes -/

/-- `RedVolSeqNumIncrement()`. -/
def redVolSeqNumIncrement (bVolNum : ℕ) : PoolOp Unit := do
  let s ← .get
  if volumeCount ≤ bVolNum then .fail .EINVAL
  else if (s.gaRedVolume bVolNum).ullSequence = UInt64.ofNat (2 ^ 64 - 1) then
    criticalError
    .fail .EFUBAR
  else
    .modify fun s => s.setVolume bVolNum { s.gaRedVolume bVolNum with
      ullSequence := (s.gaRedVolume bVolNum).ullSequence + 1 }

/-- `RedBufferIsValid()` for a metadata type. -/
def redBufferIsValid (s : Pool) (pbBuffer : RawBlock) (type : BufType) : Bool :=
  let hdr := pbBuffer.hdr.fromDisk
  (hdr.ulSignature == metaSig type) &&
    (hdr.ulCRC == redCrcNode pbBuffer.hdr.ullSequence pbBuffer.rest) &&
    !(s.gpRedVolume.fMounted && decide (s.gpRedVolume.ullSequence ≤ hdr.ullSequence))

/-- A node with its header filled in, in the byte order of the disk. -/
def finalized (node : RawBlock) (type : BufType) (ullSeqNum : UInt64) : RawBlock :=
  let block :=
    ({ node with hdr := { node.hdr with
        ulSignature := metaSig type, ullSequence := ullSeqNum } } : RawBlock).swap type
  let ulCrc := redCrcNode block.hdr.ullSequence block.rest
  { block with hdr := { block.hdr with ulCRC := if endianSwap then redRev32 ulCrc else ulCrc } }

/-- `RedBufferFinalize()`. -/
def redBufferFinalize (bIdx bVolNum : ℕ) (type : BufType) : PoolOp Unit := do
  let s ← .get
  if volumeCount ≤ bVolNum then .fail .EINVAL
  else
    let ullSeqNum := (s.gaRedVolume bVolNum).ullSequence
    redVolSeqNumIncrement bVolNum
    .modify fun s => s.setBuf bIdx (finalized (s.pbBlkBuf bIdx) type ullSeqNum)

/-- `BufferWrite()`. -/
def bufferWrite (bIdx : ℕ) : PoolOp Unit := do
  let s ← .get
  let pHead := s.aHead bIdx
  .when (pHead.type ≠ .data) (redBufferFinalize bIdx pHead.bVolNum pHead.type)
  let s ← .get
  let ret ← .attempt (redIoWrite pHead.bVolNum pHead.ulBlock 1 fun _ => s.pbBlkBuf bIdx)
  -- The buffer is in the byte order of the disk, whether or not the write succeeded.
  .modify fun s => s.setBuf bIdx ((s.pbBlkBuf bIdx).swap pHead.type)
  .ofExcept ret

/-! ## Acquiring and releasing -/

/-- The part of `RedBufferGet()` that fills an unreferenced buffer: with zeroes for a new block,
from the device otherwise. -/
def bufferFill (bIdx ulBlock : ℕ) (type : BufType) (fNew : Bool) : PoolOp Unit := do
  if fNew then .modify fun s => s.setBuf bIdx .zero
  else
    -- A read that fails must not leave the head with its old block number.
    .modify fun s => s.setHead bIdx fun h => { h with ulBlock := BBLK_INVALID }
    let s ← .get
    let (ret, blocks) ← redIoRead s.gbRedVolNum ulBlock 1
    .modify fun s => (blocks.map fun blocks => s.setBuf bIdx (blocks 0)).getD s
    .ofExcept ret
    let s ← .get
    .when (type ≠ .data ∧ s.redBufferIsValid (s.pbBlkBuf bIdx) type = false) do
      criticalAssert (type = .master)
      .fail RedError.EIO
    .modify fun s => s.setBuf bIdx ((s.pbBlkBuf bIdx).swap type)

/-- The part of `RedBufferGet()` that repurposes an unreferenced buffer for a block. -/
def bufferRepurpose (ulBlock : ℕ) (type : BufType) (fNew : Bool) : PoolOp ℕ := do
  let s ← .get
  match s.abMRU.reverse.find? fun bIdx => (s.aHead bIdx).bRefCount == 0 with
  | none =>
    criticalError
    .fail .EBUSY
  | some bIdx =>
    let pHead := s.aHead bIdx
    .when (pHead.fDirty && pHead.ulBlock != BBLK_INVALID) (bufferWrite bIdx)
    bufferFill bIdx ulBlock type fNew
    .modify fun s => s.setHead bIdx fun h =>
      { h with bVolNum := s.gbRedVolNum, ulBlock := ulBlock, fDirty := false, type := .data }
    pure bIdx

/-- The part of `RedBufferGet()` that finds the buffer of a block or repurposes one for it. -/
def bufferObtain (ulBlock : ℕ) (type : BufType) (fNew : Bool) : PoolOp ℕ := do
  let s ← .get
  match ← bufferFind ulBlock with
  | some bIdx =>
    if fNew ∨ type ≠ (s.aHead bIdx).type then
      criticalError
      .fail .EFUBAR
    else pure bIdx
  | none =>
    if s.uNumUsed = bufferCount then
      criticalError
      .fail .EBUSY
    else bufferRepurpose ulBlock type fNew

/-- The part of `RedBufferGet()` that takes a reference to the buffer. -/
def bufferReference (bIdx : ℕ) (type : BufType) (fDirty : Bool) : PoolOp Unit := do
  .modify fun s => s.setHead bIdx fun h =>
    { h with bRefCount := (h.bRefCount + 1) % 256, fDirty := h.fDirty || fDirty, type := type }
  .modify fun s =>
    if (s.aHead bIdx).bRefCount = 1 then { s with uNumUsed := s.uNumUsed + 1 } else s
  bufferMakeMRU bIdx

/-- `RedBufferGet()`. -/
def redBufferGet (ulBlock : ℕ) (type : BufType) (fDirty fNew : Bool) : PoolOp ℕ := do
  let s ← .get
  if s.gpRedVolume.ulBlockCount ≤ ulBlock ∨ (fNew ∧ ¬ fDirty) then .fail .EINVAL
  else
    let bIdx ← bufferObtain ulBlock type fNew
    bufferReference bIdx type fDirty
    pure bIdx

/-- `RedBufferPut()`. -/
def redBufferPut (pBuffer : ℕ) : PoolOp Unit :=
  .modify fun s =>
    if s.bufferToIdx pBuffer then
      let s := s.setHead pBuffer fun h => { h with bRefCount := (h.bRefCount + 255) % 256 }
      if (s.aHead pBuffer).bRefCount = 0 then { s with uNumUsed := s.uNumUsed - 1 } else s
    else s

/-- `RedBufferDirty()`. -/
def redBufferDirty (pBuffer : ℕ) : PoolOp Unit :=
  .modify fun s =>
    if s.bufferToIdx pBuffer then s.setHead pBuffer fun h => { h with fDirty := true } else s

/-- `RedBufferBranch()`. -/
def redBufferBranch (pBuffer ulBlockNew : ℕ) : PoolOp Unit :=
  .modify fun s =>
    if s.bufferToIdx pBuffer ∧ ulBlockNew < s.gpRedVolume.ulBlockCount then
      s.setHead pBuffer fun h => { h with fDirty := true, ulBlock := ulBlockNew }
    else s

/-- `RedBufferDiscard()`. -/
def redBufferDiscard (pBuffer : ℕ) : PoolOp Unit := do
  let s ← .get
  .when (s.bufferToIdx pBuffer) do
    .modify fun s => s.setHead pBuffer fun h => { h with bRefCount := 0, ulBlock := BBLK_INVALID }
    .modify fun s => { s with uNumUsed := s.uNumUsed - 1 }
    bufferMakeLRU pBuffer

/-! ## Ranges -/

/-- Whether the head is associated with a block of the range on the volume. -/
def headIsIn (h : PoolHead) (bVolNum ulBlockStart ulBlockCount : ℕ) :
    Bool :=
  h.bVolNum == bVolNum && h.ulBlock != BBLK_INVALID && decide (ulBlockStart ≤ h.ulBlock) &&
    decide (h.ulBlock < ulBlockStart + ulBlockCount)

/-- The loop of `RedBufferFlushRange()`. -/
def bufferFlushLoop (ulBlockStart ulBlockCount : ℕ) : List ℕ → PoolOp Unit
  | [] => pure ()
  | bIdx :: rest => do
    let s ← .get
    .when (headIsIn (s.aHead bIdx) s.gbRedVolNum ulBlockStart ulBlockCount &&
        (s.aHead bIdx).fDirty) do
      bufferWrite bIdx
      .modify fun s => s.setHead bIdx fun h => { h with fDirty := false }
    bufferFlushLoop ulBlockStart ulBlockCount rest

/-- `RedBufferFlushRange()`. -/
def redBufferFlushRange (ulBlockStart ulBlockCount : ℕ) : PoolOp Unit := do
  let s ← .get
  if s.blockRangeIsValid s.gbRedVolNum ulBlockStart ulBlockCount then
    bufferFlushLoop ulBlockStart ulBlockCount (List.range bufferCount)
  else .fail .EINVAL

/-- The loop of `RedBufferDiscardRange()`. -/
def bufferDiscardLoop (ulBlockStart ulBlockCount : ℕ) : List ℕ → PoolOp Unit
  | [] => pure ()
  | bIdx :: rest => do
    let s ← .get
    .when (headIsIn (s.aHead bIdx) s.gbRedVolNum ulBlockStart ulBlockCount) do
      if (s.aHead bIdx).bRefCount = 0 then
        .modify fun s => s.setHead bIdx fun h => { h with ulBlock := BBLK_INVALID }
        bufferMakeLRU bIdx
      else
        criticalError
        .fail .EBUSY
    bufferDiscardLoop ulBlockStart ulBlockCount rest

/-- `RedBufferDiscardRange()`. -/
def redBufferDiscardRange (ulBlockStart ulBlockCount : ℕ) : PoolOp Unit := do
  let s ← .get
  if s.blockRangeIsValid s.gbRedVolNum ulBlockStart ulBlockCount then
    bufferDiscardLoop ulBlockStart ulBlockCount (List.range bufferCount)
  else .fail .EINVAL

/-- `RedBufferReadRange()`. -/
def redBufferReadRange (ulBlockStart ulBlockCount : ℕ) : PoolOp (ℕ → RawBlock) := do
  let s ← .get
  if s.blockRangeIsValid s.gbRedVolNum ulBlockStart ulBlockCount then
    redBufferFlushRange ulBlockStart ulBlockCount
    let (ret, blocks) ← redIoRead s.gbRedVolNum ulBlockStart ulBlockCount
    .ofExcept ret
    pure (blocks.getD fun _ => .zero)
  else .fail .EINVAL

/-- `RedBufferWriteRange()`. -/
def redBufferWriteRange (ulBlockStart ulBlockCount : ℕ) (pbDataBuffer : ℕ → RawBlock) :
    PoolOp Unit := do
  let s ← .get
  if s.blockRangeIsValid s.gbRedVolNum ulBlockStart ulBlockCount then
    redIoWrite s.gbRedVolNum ulBlockStart ulBlockCount pbDataBuffer
    redBufferDiscardRange ulBlockStart ulBlockCount
  else .fail .EINVAL

/-- `RedCoreVolSetCurrent()`. -/
def redCoreVolSetCurrent (bVolNum : ℕ) : PoolOp Unit := do
  if volumeCount ≤ bVolNum then .fail .EINVAL
  else .modify fun s => { s with gbRedVolNum := bVolNum }

end Pool

end RelianceEdge
