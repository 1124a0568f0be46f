import RelianceEdge.State

set_option relaxedAutoImplicit false
set_option autoImplicit false

/-!
# Block device access and the buffer cache

`blockio.c`, `buffer.c` and `buffercmn.c`. The block device never fails a request: a power loss
is modelled on the history of the device, not as an error. A buffer pointer is the index of its
buffer; contents are typed nodes, so the node header exists only on the device.

## Main definitions

* `FS.writeTarget` — what a write to a block overwrites at this moment.
* `redIoRead`, `redIoWrite`, `redIoFlush` — `blockio.c`.
* `redBufferGet`, `redBufferPut`, `redBufferBranch`, … — `buffer.c`.
-/

namespace RelianceEdge

variable [RedConf]

open RedConf

/-! ## Reading the state without changing it -/

/-- `BufferFind()` on the heads alone: the first buffer associated with the block. Heads that are
not in use have the block number `BBLK_INVALID`, which is no block. -/
def BufCtx.find (bc : BufCtx) (ulBlock : ℕ) : Option ℕ :=
  if ulBlock = BBLK_INVALID then none
  else (List.range bufferCount).find? fun bIdx => (bc.aHead bIdx).ulBlock == ulBlock

/-- The current contents of a block: its buffer when it has one, the device otherwise. -/
def FS.peek (s : FS) (ulBlock : ℕ) : Node :=
  match s.buf.find ulBlock with
  | some bIdx => s.buf.pbBlkBuf bIdx
  | none => (s.disk ulBlock).node

/-- `IMAPNODEIDX_IS_VALID()`. -/
def CoreVolume.imapNodeIdxIsValid (c : CoreVolume) (ulImapNode : ℕ) : Bool :=
  decide (ulImapNode < min c.ulImapNodeCount metarootEntries)

/-- `RedImapNodeBlock()`: the location of an external imap node that a metaroot selects. -/
def CoreVolume.redImapNodeBlock (c : CoreVolume) (bMR : Bool) (ulImapNode : ℕ) : ℕ :=
  c.ulImapStartBN + ulImapNode * 2 +
    if c.imapNodeIdxIsValid ulImapNode && (c.aMR bMR).abEntries ulImapNode then 1 else 0

/-- The imap bit of a block in one metaroot, whichever way the imap is stored. -/
def FS.imapBit (s : FS) (bMR : Bool) (ulBlock : ℕ) : Bool :=
  let ulOffset := ulBlock - s.core.ulInodeTableStartBN
  if s.core.fImapInline then (s.core.aMR bMR).abEntries ulOffset
  else (s.peek (s.core.redImapNodeBlock bMR (ulOffset / imapnodeEntries))).asImap
    (ulOffset % imapnodeEntries)

/-- The allocation state that the two bits of a block say. -/
def allocStateOf (fWorking fCommitted : Bool) : AllocState :=
  if fWorking then (if fCommitted then .used else .new)
  else (if fCommitted then .afree else .free)

/-- The allocation state of a block. -/
def FS.allocState (s : FS) (ulBlock : ℕ) : AllocState :=
  allocStateOf (s.imapBit s.core.bCurMR ulBlock) (s.imapBit (!s.core.bCurMR) ulBlock)

/-- What a write to the block overwrites. -/
def FS.writeTarget (s : FS) (ulBlock : ℕ) : WriteTarget :=
  if ulBlock = BLOCK_NUM_MASTER then .master
  else if ulBlock < BLOCK_NUM_FIRST_METAROOT + 2 then
    .metaroot (ulBlock = BLOCK_NUM_FIRST_METAROOT + s.core.bCurMR.toNat)
  else if ulBlock < s.core.ulInodeTableStartBN then
    .imapNode (ulBlock =
      s.core.redImapNodeBlock (!s.core.bCurMR) ((ulBlock - s.core.ulImapStartBN) / 2))
  else .block (s.allocState ulBlock)

/-! ## Block device -/

/-- Write one block. -/
def FS.writeBlock (s : FS) (ulBlock : ℕ) (content : DiskBlock) : FS :=
  { s with
    disk := Function.update s.disk ulBlock content
    history := .write ulBlock content (s.writeTarget ulBlock) :: s.history }

/-- Whether the blocks lie on the volume. -/
def FS.blockRangeIsValid (s : FS) (ulBlockStart ulBlockCount : ℕ) : Bool :=
  decide (ulBlockStart < s.vol.ulBlockCount) &&
    decide (ulBlockCount ≤ s.vol.ulBlockCount - ulBlockStart) && decide (ulBlockCount ≠ 0)

/-- `RedIoRead()`. -/
def redIoRead (ulBlockStart ulBlockCount : ℕ) : Red (ℕ → DiskBlock) := do
  let s ← .get
  if s.blockRangeIsValid ulBlockStart ulBlockCount then
    pure fun ulIdx => s.disk (ulBlockStart + ulIdx)
  else
    criticalAssert (!s.vol.fMounted)
    .fail .EINVAL

/-- `RedIoWrite()`. -/
def redIoWrite (ulBlockStart ulBlockCount : ℕ) (pBuffer : ℕ → DiskBlock) : Red Unit := do
  let s ← .get
  if s.blockRangeIsValid ulBlockStart ulBlockCount then
    .modify fun s => (List.range ulBlockCount).foldl
      (fun s ulIdx => s.writeBlock (ulBlockStart + ulIdx) (pBuffer ulIdx)) s
  else
    criticalError
    .fail .EINVAL

/-- `RedIoFlush()`. -/
def redIoFlush : Red Unit := .modify fun s => { s with history := .flush :: s.history }

/-! ## Buffer heads -/

/-- Update one buffer head. -/
def FS.setHead (s : FS) (bIdx : ℕ) (f : BufferHead → BufferHead) : FS :=
  { s with buf := { s.buf with
      aHead := Function.update s.buf.aHead bIdx (f (s.buf.aHead bIdx)) } }

/-- Replace the contents of one buffer. -/
def FS.setBuf (s : FS) (bIdx : ℕ) (nd : Node) : FS :=
  { s with buf := { s.buf with pbBlkBuf := Function.update s.buf.pbBlkBuf bIdx nd } }

/-- `RedBufferInit()`. -/
def redBufferInit : Red Unit :=
  .modify fun s => { s with buf :=
    { uNumUsed := 0
      abMRU := (List.range bufferCount).reverse
      aHead := fun _ => ⟨BBLK_INVALID, 0, false, .data⟩
      pbBlkBuf := fun _ => .bytes fun _ => 0 } }

/-- `BufferMakeLRU()`. -/
def bufferMakeLRU (bIdx : ℕ) : Red Unit :=
  .modify fun s => { s with buf := { s.buf with
    abMRU := if bIdx ∈ s.buf.abMRU then s.buf.abMRU.erase bIdx ++ [bIdx] else s.buf.abMRU } }

/-- `BufferMakeMRU()`. -/
def bufferMakeMRU (bIdx : ℕ) : Red Unit :=
  .modify fun s => { s with buf := { s.buf with
    abMRU := if bIdx ∈ s.buf.abMRU then bIdx :: s.buf.abMRU.erase bIdx else s.buf.abMRU } }

/-- `BufferFind()`. -/
def bufferFind (ulBlock : ℕ) : Red (Option ℕ) := do
  let s ← .get
  if s.vol.ulBlockCount ≤ ulBlock then pure none
  else pure (s.buf.find ulBlock)

/-- `BufferToIdx()`: a pointer is good when it refers to a buffer in use. -/
def BufCtx.bufferToIdx (bc : BufCtx) (pBuffer : ℕ) : Bool :=
  decide (pBuffer < bufferCount) && (bc.aHead pBuffer).ulBlock != BBLK_INVALID

/-- `RedVolSeqNumIncrement()`. -/
def redVolSeqNumIncrement : Red Unit :=
  .modify fun s => { s with vol := { s.vol with ullSequence := s.vol.ullSequence + 1 } }

/-- `RedBufferIsValid()`: signature, CRC, and, once mounted, the sequence number. -/
def FS.redBufferIsValid (s : FS) (pBuffer : DiskBlock) (type : BufType) : Bool :=
  (pBuffer.ulSignature == .node type) && pBuffer.fCRCIsValid &&
    !(s.vol.fMounted && decide (s.vol.ullSequence ≤ pBuffer.ullSequence))

/-- `RedBufferFinalize()`: the block with its header filled in. -/
def redBufferFinalize (nd : Node) (type : BufType) : Red DiskBlock := do
  let s ← .get
  redVolSeqNumIncrement
  pure ⟨.node type, s.vol.ullSequence, true, true, nd⟩

/-- `BufferWrite()`. -/
def bufferWrite (bIdx : ℕ) : Red Unit := do
  let s ← .get
  let pHead := s.buf.aHead bIdx
  let block ←
    if pHead.type = .data then pure ⟨.none, 0, true, true, s.buf.pbBlkBuf bIdx⟩
    else redBufferFinalize (s.buf.pbBlkBuf bIdx) pHead.type
  redIoWrite pHead.ulBlock 1 fun _ => block

/-! ## Acquiring and releasing -/

/-- The block as a reader of the given type sees it: file data has no header to check, so it is
bytes whatever is stored. -/
def DiskBlock.content (block : DiskBlock) (type : BufType) : Node :=
  match type with
  | .data => .bytes block.node.asBytes
  | _ => block.node

/-- The part of `RedBufferGet()` that fills an unreferenced buffer: with zeroes for a new block,
from the device otherwise. -/
def bufferFill (bIdx ulBlock : ℕ) (type : BufType) (fNew : Bool) : Red Unit := do
  if fNew then .modify fun s => s.setBuf bIdx (.zero type)
  else
    -- A read that fails must not leave the head with its old block number.
    .modify fun s => s.setHead bIdx fun h => { h with ulBlock := BBLK_INVALID }
    let blocks ← redIoRead ulBlock 1
    let s ← .get
    .modify fun s => s.setBuf bIdx ((blocks 0).content type)
    .when (type ≠ .data ∧ s.redBufferIsValid (blocks 0) type = false) do
      criticalAssert (type = .master)
      .fail RedError.EIO

/-- The part of `RedBufferGet()` that repurposes an unreferenced buffer for a block. -/
def bufferRepurpose (ulBlock : ℕ) (type : BufType) (fNew : Bool) : Red ℕ := do
  let s ← .get
  match s.buf.abMRU.reverse.find? fun bIdx => (s.buf.aHead bIdx).bRefCount == 0 with
  | none =>
    criticalError
    .fail .EBUSY
  | some bIdx =>
    let pHead := s.buf.aHead bIdx
    .when (pHead.fDirty && pHead.ulBlock != BBLK_INVALID) (bufferWrite bIdx)
    bufferFill bIdx ulBlock type fNew
    .modify fun s => s.setHead bIdx fun h =>
      { h with ulBlock := ulBlock, fDirty := false, type := .data }
    pure bIdx

/-- The part of `RedBufferGet()` that finds the buffer of a block or repurposes one for it. -/
def bufferObtain (ulBlock : ℕ) (type : BufType) (fNew : Bool) : Red ℕ := do
  let s ← .get
  match ← bufferFind ulBlock with
  | some bIdx =>
    if fNew ∨ type ≠ (s.buf.aHead bIdx).type then
      criticalError
      .fail .EFUBAR
    else pure bIdx
  | none =>
    if s.buf.uNumUsed = bufferCount then
      criticalError
      .fail .EBUSY
    else bufferRepurpose ulBlock type fNew

/-- The part of `RedBufferGet()` that takes a reference to the buffer. -/
def bufferReference (bIdx : ℕ) (type : BufType) (fDirty : Bool) : Red Unit := do
  .modify fun s => s.setHead bIdx fun h =>
    { h with bRefCount := h.bRefCount + 1, fDirty := h.fDirty || fDirty, type := type }
  .modify fun s =>
    if (s.buf.aHead bIdx).bRefCount = 1 then
      { s with buf := { s.buf with uNumUsed := s.buf.uNumUsed + 1 } }
    else s
  bufferMakeMRU bIdx

/-- `RedBufferGet()`. -/
def redBufferGet (ulBlock : ℕ) (type : BufType) (fDirty fNew : Bool) : Red ℕ := do
  let s ← .get
  if s.vol.ulBlockCount ≤ ulBlock ∨ (fNew ∧ ¬ fDirty) then .fail .EINVAL
  else
    let bIdx ← bufferObtain ulBlock type fNew
    bufferReference bIdx type fDirty
    pure bIdx

/-- `RedBufferPut()`. -/
def redBufferPut (pBuffer : ℕ) : Red Unit :=
  .modify fun s =>
    if s.buf.bufferToIdx pBuffer then
      let s := s.setHead pBuffer fun h => { h with bRefCount := h.bRefCount - 1 }
      if (s.buf.aHead pBuffer).bRefCount = 0 then
        { s with buf := { s.buf with uNumUsed := s.buf.uNumUsed - 1 } }
      else s
    else s

/-- `RedBufferDirty()`. -/
def redBufferDirty (pBuffer : ℕ) : Red Unit :=
  .modify fun s =>
    if s.buf.bufferToIdx pBuffer then s.setHead pBuffer fun h => { h with fDirty := true }
    else s

/-- `RedBufferBranch()`. -/
def redBufferBranch (pBuffer ulBlockNew : ℕ) : Red Unit :=
  .modify fun s =>
    if s.buf.bufferToIdx pBuffer ∧ ulBlockNew < s.vol.ulBlockCount then
      s.setHead pBuffer fun h => { h with fDirty := true, ulBlock := ulBlockNew }
    else s

/-- `RedBufferDiscard()`. -/
def redBufferDiscard (pBuffer : ℕ) : Red Unit := do
  let s ← .get
  .when (s.buf.bufferToIdx pBuffer) do
    .modify fun s => s.setHead pBuffer fun h => { h with bRefCount := 0, ulBlock := BBLK_INVALID }
    .modify fun s => { s with buf := { s.buf with uNumUsed := s.buf.uNumUsed - 1 } }
    bufferMakeLRU pBuffer

/-! ## Ranges -/

/-- Whether the buffer is associated with a block of the range. -/
def BufferHead.isIn (h : BufferHead) (ulBlockStart ulBlockCount : ℕ) : Bool :=
  h.ulBlock != BBLK_INVALID && decide (ulBlockStart ≤ h.ulBlock) &&
    decide (h.ulBlock < ulBlockStart + ulBlockCount)

/-- The loop of `RedBufferFlushRange()`. -/
def bufferFlushLoop (ulBlockStart ulBlockCount : ℕ) : List ℕ → Red Unit
  | [] => pure ()
  | bIdx :: rest => do
    let s ← .get
    .when ((s.buf.aHead bIdx).isIn ulBlockStart ulBlockCount && (s.buf.aHead bIdx).fDirty) do
      bufferWrite bIdx
      .modify fun s => s.setHead bIdx fun h => { h with fDirty := false }
    bufferFlushLoop ulBlockStart ulBlockCount rest

/-- `RedBufferFlushRange()`. -/
def redBufferFlushRange (ulBlockStart ulBlockCount : ℕ) : Red Unit := do
  let s ← .get
  if s.blockRangeIsValid ulBlockStart ulBlockCount then
    bufferFlushLoop ulBlockStart ulBlockCount (List.range bufferCount)
  else .fail .EINVAL

/-- Dissociate an unreferenced buffer from its block. -/
def bufferInvalidate (bIdx : ℕ) : Red Unit := do
  .modify fun s => s.setHead bIdx fun h => { h with ulBlock := BBLK_INVALID }
  bufferMakeLRU bIdx

/-- The loop of `RedBufferDiscardRange()`. -/
def bufferDiscardLoop (ulBlockStart ulBlockCount : ℕ) : List ℕ → Red Unit
  | [] => pure ()
  | bIdx :: rest => do
    let s ← .get
    .when ((s.buf.aHead bIdx).isIn ulBlockStart ulBlockCount) do
      if (s.buf.aHead bIdx).bRefCount = 0 then bufferInvalidate bIdx
      else
        criticalError
        .fail .EBUSY
    bufferDiscardLoop ulBlockStart ulBlockCount rest

/-- `RedBufferDiscardRange()`. -/
def redBufferDiscardRange (ulBlockStart ulBlockCount : ℕ) : Red Unit := do
  let s ← .get
  if s.blockRangeIsValid ulBlockStart ulBlockCount then
    bufferDiscardLoop ulBlockStart ulBlockCount (List.range bufferCount)
  else .fail .EINVAL

/-- `RedBufferReadRange()`: the bytes of the blocks, one after the other. -/
def redBufferReadRange (ulBlockStart ulBlockCount : ℕ) : Red (ℕ → UInt8) := do
  let s ← .get
  if s.blockRangeIsValid ulBlockStart ulBlockCount then
    redBufferFlushRange ulBlockStart ulBlockCount
    let blocks ← redIoRead ulBlockStart ulBlockCount
    pure fun ulOffset => (blocks (ulOffset / blockSize)).node.asBytes (ulOffset % blockSize)
  else .fail .EINVAL

/-- `RedBufferWriteRange()`. -/
def redBufferWriteRange (ulBlockStart ulBlockCount : ℕ) (pbDataBuffer : ℕ → UInt8) :
    Red Unit := do
  let s ← .get
  if s.blockRangeIsValid ulBlockStart ulBlockCount then
    redIoWrite ulBlockStart ulBlockCount fun ulIdx =>
      ⟨.none, 0, true, true, .bytes fun ulOffset => pbDataBuffer (ulIdx * blockSize + ulOffset)⟩
    redBufferDiscardRange ulBlockStart ulBlockCount
  else .fail .EINVAL

end RelianceEdge
