import RelianceEdge.Buffer

set_option relaxedAutoImplicit false
set_option autoImplicit false

/-!
# The imap

`imap.c`, `imapinline.c` and `imapextern.c`: the bitmap of the inode slots and the allocable
blocks, in the metaroot itself or in imap nodes of two locations each.

## Main definitions

* `redImapBlockGet`, `redImapBlockSet` — read and change the bit of a block.
* `redImapAllocBlock` — take a block that is free in both metaroots.
* `redImapBlockState` — the allocation state of a block.
-/

namespace RelianceEdge

variable [RedConf]

/-- Whether the block has a bit in the imap. -/
def FS.hasImapBit (s : FS) (ulBlock : ℕ) : Bool :=
  decide (s.core.ulInodeTableStartBN ≤ ulBlock) && decide (ulBlock < s.vol.ulBlockCount)

/-! ## Inline imap -/

/-- `RedImapIBlockGet()`. -/
def redImapIBlockGet (bMR : Bool) (ulBlock : ℕ) : Red Bool := do
  let s ← .get
  if !s.core.fImapInline || !s.hasImapBit ulBlock then .fail .EINVAL
  else pure ((s.core.aMR bMR).abEntries (ulBlock - s.core.ulInodeTableStartBN))

/-- `RedImapIBlockSet()`. -/
def redImapIBlockSet (ulBlock : ℕ) (fAllocated : Bool) : Red Unit := do
  let s ← .get
  if !s.core.fImapInline || !s.hasImapBit ulBlock then .fail .EINVAL
  else
    let ulOffset := ulBlock - s.core.ulInodeTableStartBN
    if s.mr.abEntries ulOffset = fAllocated then
      criticalError
      .fail .EFUBAR
    else
      .modify fun s => s.setMR fun mr =>
        { mr with abEntries := Function.update mr.abEntries ulOffset fAllocated }

/-- Whether all eight bits of a byte of the bitmap are set. -/
def byteIsFull (abEntries : ℕ → Bool) (ulBmpIdx : ℕ) : Bool :=
  ulBmpIdx % 8 == 0 && (List.range 8).all fun k => abEntries (ulBmpIdx + k)

/-- The next block to examine: past the end of the volume the search continues at the first
allocable block. -/
def FS.wrapSearch (s : FS) (ulSearchBlock : ℕ) : ℕ :=
  if ulSearchBlock = s.vol.ulBlockCount then s.core.ulFirstAllocableBN else ulSearchBlock

/-- The block after a byte of allocated blocks. -/
def FS.skipByte (s : FS) (ulSearchBlock : ℕ) : ℕ :=
  s.wrapSearch (ulSearchBlock + min 8 (s.vol.ulBlockCount - ulSearchBlock))

/-- The loop of `RedImapIBlockFindFree()`, for at most `fuel` iterations. -/
def imapIFindFreeLoop (s : FS) (ulBlock : ℕ) : ℕ → ℕ → Except RedError ℕ
  | 0, _ => .error .outOfFuel
  | fuel + 1, ulSearchBlock =>
    let ulBmpIdx := ulSearchBlock - s.core.ulInodeTableStartBN
    if byteIsFull s.mr.abEntries ulBmpIdx then
      if s.skipByte ulSearchBlock = ulBlock then .error .ENOSPC
      else imapIFindFreeLoop s ulBlock fuel (s.skipByte ulSearchBlock)
    else if !s.mr.abEntries ulBmpIdx && !s.mrCommitted.abEntries ulBmpIdx then .ok ulSearchBlock
    else if s.wrapSearch (ulSearchBlock + 1) = ulBlock then .error .ENOSPC
    else imapIFindFreeLoop s ulBlock fuel (s.wrapSearch (ulSearchBlock + 1))

/-- Whether a search for a free block may start at the block. -/
def FS.isAllocable (s : FS) (ulBlock : ℕ) : Bool :=
  decide (s.core.ulFirstAllocableBN ≤ ulBlock) && decide (ulBlock < s.vol.ulBlockCount)

/-- `RedImapIBlockFindFree()`. A search that has not ended after examining as many blocks as the
volume has twice over never ends. -/
def redImapIBlockFindFree (ulBlock : ℕ) : Red ℕ := do
  let s ← .get
  if !s.core.fImapInline || !s.isAllocable ulBlock then .fail .EINVAL
  else .ofExcept (imapIFindFreeLoop s ulBlock (2 * s.vol.ulBlockCount) ulBlock)

/-! ## External imap -/

/-- `ImapNodeIsBranched()`. -/
def CoreVolume.imapNodeIsBranched (c : CoreVolume) (ulImapNode : ℕ) : Bool :=
  c.imapNodeIdxIsValid ulImapNode &&
    ((c.aMR false).abEntries ulImapNode != (c.aMR true).abEntries ulImapNode)

/-- `RedImapEBlockGet()`. -/
def redImapEBlockGet (bMR : Bool) (ulBlock : ℕ) : Red Bool := do
  let s ← .get
  if s.core.fImapInline || !s.hasImapBit ulBlock then .fail .EINVAL
  else
    let ulOffset := ulBlock - s.core.ulInodeTableStartBN
    let ulImapNode := ulOffset / imapnodeEntries
    let bMRToRead :=
      if bMR = !s.core.bCurMR ∧ !s.core.imapNodeIsBranched ulImapNode then !bMR else bMR
    let pImap ← redBufferGet (s.core.redImapNodeBlock bMRToRead ulImapNode) .imap false false
    let s ← .get
    redBufferPut pImap
    pure ((s.buf.pbBlkBuf pImap).asImap (ulOffset % imapnodeEntries))

/-- `ImapNodeBranch()`. -/
def imapNodeBranch (ulImapNode : ℕ) : Red ℕ := do
  let s ← .get
  if !s.core.imapNodeIdxIsValid ulImapNode then .fail .EINVAL
  else if s.core.imapNodeIsBranched ulImapNode then
    redBufferGet (s.core.redImapNodeBlock s.core.bCurMR ulImapNode) .imap true false
  else
    .modify fun s => s.setMR fun mr =>
      { mr with abEntries := Function.update mr.abEntries ulImapNode (!mr.abEntries ulImapNode) }
    let s ← .get
    let ulBlockCurrent := s.core.redImapNodeBlock s.core.bCurMR ulImapNode
    let ulBlockOld := s.core.redImapNodeBlock (!s.core.bCurMR) ulImapNode
    redBufferDiscardRange ulBlockCurrent 1
    let pImap ← redBufferGet ulBlockOld .imap false false
    redBufferBranch pImap ulBlockCurrent
    pure pImap

/-- `RedImapEBlockSet()`. -/
def redImapEBlockSet (ulBlock : ℕ) (fAllocated : Bool) : Red Unit := do
  let s ← .get
  if s.core.fImapInline || !s.hasImapBit ulBlock then .fail .EINVAL
  else
    let ulOffset := ulBlock - s.core.ulInodeTableStartBN
    let pImap ← imapNodeBranch (ulOffset / imapnodeEntries)
    let ulImapEntry := ulOffset % imapnodeEntries
    let s ← .get
    let abEntries := (s.buf.pbBlkBuf pImap).asImap
    if abEntries ulImapEntry = fAllocated then
      criticalError
      redBufferPut pImap
      .fail .EFUBAR
    else
      .modify fun s => s.setBuf pImap (.imap (Function.update abEntries ulImapEntry fAllocated))
      redBufferPut pImap

/-- The buffer of the working imap node, kept from the last iteration when it is the same
node. -/
def imapEFindFreeNode (ulImapNode ulPrevImapNode : ℕ) (pImap : Option ℕ) : Red ℕ := do
  let s ← .get
  let block := s.core.redImapNodeBlock s.core.bCurMR ulImapNode
  match pImap with
  | some pImap =>
    if ulImapNode = ulPrevImapNode then pure pImap
    else
      redBufferPut pImap
      redBufferGet block .imap false false
  | none => redBufferGet block .imap false false

/-- The loop of `RedImapEBlockFindFree()`, for at most `fuel` iterations. `pImap` is the imap
node buffer that the last iteration left referenced. -/
def imapEFindFreeLoop (ulBlock : ℕ) : ℕ → ℕ → ℕ → Option ℕ → Red ℕ
  | 0, _, _, _ => .fail .outOfFuel
  | fuel + 1, ulSearchBlock, ulPrevImapNode, pImap => do
    let s ← .get
    let ulBmpIdx := ulSearchBlock - s.core.ulInodeTableStartBN
    let ulImapNode := ulBmpIdx / imapnodeEntries
    let ulImapIdx := ulBmpIdx % imapnodeEntries
    let pImap ← imapEFindFreeNode ulImapNode ulPrevImapNode pImap
    let s ← .get
    let abEntries := (s.buf.pbBlkBuf pImap).asImap
    if byteIsFull abEntries ulImapIdx then
      if s.skipByte ulSearchBlock = ulBlock then
        redBufferPut pImap
        .fail .ENOSPC
      else imapEFindFreeLoop ulBlock fuel (s.skipByte ulSearchBlock) ulImapNode (some pImap)
    else if abEntries ulImapIdx then
      if s.wrapSearch (ulSearchBlock + 1) = ulBlock then
        redBufferPut pImap
        .fail .ENOSPC
      else
        imapEFindFreeLoop ulBlock fuel (s.wrapSearch (ulSearchBlock + 1)) ulImapNode (some pImap)
    else
      -- Two imap buffers are never held at once.
      redBufferPut pImap
      let pImap ← redBufferGet (s.core.redImapNodeBlock (!s.core.bCurMR) ulImapNode) .imap
        false false
      let s ← .get
      redBufferPut pImap
      if !(s.buf.pbBlkBuf pImap).asImap ulImapIdx then pure ulSearchBlock
      else if s.wrapSearch (ulSearchBlock + 1) = ulBlock then .fail .ENOSPC
      else imapEFindFreeLoop ulBlock fuel (s.wrapSearch (ulSearchBlock + 1)) ulImapNode none

/-- `RedImapEBlockFindFree()`. -/
def redImapEBlockFindFree (ulBlock : ℕ) : Red ℕ := do
  let s ← .get
  if s.core.fImapInline || !s.isAllocable ulBlock then .fail .EINVAL
  else imapEFindFreeLoop ulBlock (2 * s.vol.ulBlockCount) ulBlock 0 none

/-! ## Either imap -/

/-- `RedImapBlockGet()`. -/
def redImapBlockGet (bMR : Bool) (ulBlock : ℕ) : Red Bool := do
  let s ← .get
  if !s.hasImapBit ulBlock then .fail .EINVAL
  else if s.core.fImapInline then redImapIBlockGet bMR ulBlock
  else redImapEBlockGet bMR ulBlock

/-- The critical error of `RedImapBlockSet()`: allocating when no block is free, or freeing when
every allocable block is. -/
def FS.freeCountForbids (s : FS) (ulBlock : ℕ) (fAllocated : Bool) : Bool :=
  decide (s.core.ulFirstAllocableBN ≤ ulBlock) &&
    ((fAllocated && s.mr.ulFreeBlocks == 0) ||
      (!fAllocated && decide (s.vol.ulBlocksAllocable ≤ s.mr.ulFreeBlocks)))

/-- The adjustment of the free block counts at the end of `RedImapBlockSet()`. -/
def imapAdjustFreeCount (ulBlock : ℕ) (fAllocated : Bool) : Red Unit := do
  let s ← .get
  .when (s.core.ulFirstAllocableBN ≤ ulBlock) do
    if fAllocated then
      .modify fun s => s.setMR fun mr => { mr with ulFreeBlocks := u32 (mr.ulFreeBlocks - 1) }
    else
      let fWasAllocated ← .attempt (redImapBlockGet (!s.core.bCurMR) ulBlock)
      match fWasAllocated with
      | .error e =>
        criticalError
        .fail e
      | .ok true =>
        .modify fun s => { s with core := { s.core with
          ulAlmostFreeBlocks := u32 (s.core.ulAlmostFreeBlocks + 1) } }
      | .ok false =>
        .modify fun s => s.setMR fun mr => { mr with ulFreeBlocks := u32 (mr.ulFreeBlocks + 1) }

/-- `RedImapBlockSet()`. -/
def redImapBlockSet (ulBlock : ℕ) (fAllocated : Bool) : Red Unit := do
  let s ← .get
  if !s.hasImapBit ulBlock then .fail .EINVAL
  else if s.freeCountForbids ulBlock fAllocated then
    criticalError
    .fail .EFUBAR
  else
    let ret ← .attempt (if s.core.fImapInline then redImapIBlockSet ulBlock fAllocated
      else redImapEBlockSet ulBlock fAllocated)
    .modify fun s => { s with core := { s.core with fBranched := true } }
    .ofExcept ret
    .when (!fAllocated) do
      match ← .attempt (redBufferDiscardRange ulBlock 1) with
      | .error e =>
        criticalError
        .fail e
      | .ok () => pure ()
    imapAdjustFreeCount ulBlock fAllocated

/-- The block after an allocated one, where the next search starts. -/
def FS.allocNextAfter (s : FS) (ulBlock : ℕ) : ℕ := s.wrapSearch (ulBlock + 1)

/-- `RedImapAllocBlock()`. -/
def redImapAllocBlock : Red ℕ := do
  let s ← .get
  if s.mr.ulFreeBlocks = 0 then .fail .ENOSPC
  else
    match ← .attempt (if s.core.fImapInline then redImapIBlockFindFree s.mr.ulAllocNextBlock
      else redImapEBlockFindFree s.mr.ulAllocNextBlock) with
    | .ok ulBlock =>
      .modify fun s => s.setMR fun mr => { mr with ulAllocNextBlock := s.allocNextAfter ulBlock }
      match ← .attempt (redImapBlockSet ulBlock true) with
      | .error e =>
        criticalError
        .fail e
      | .ok () => pure ulBlock
    | .error .ENOSPC =>
      -- The free block count is not zero, yet no free block was found.
      criticalError
      .fail RedError.EIO
    | .error e => .fail e

/-- `RedImapBlockState()`. -/
def redImapBlockState (ulBlock : ℕ) : Red AllocState := do
  let s ← .get
  if !s.hasImapBit ulBlock then .fail .EINVAL
  else
    let fBitCurrent ← redImapBlockGet s.core.bCurMR ulBlock
    let fBitOld ← redImapBlockGet (!s.core.bCurMR) ulBlock
    pure (allocStateOf fBitCurrent fBitOld)

end RelianceEdge
