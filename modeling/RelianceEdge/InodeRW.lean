import RelianceEdge.InodeTrunc

set_option relaxedAutoImplicit false
set_option autoImplicit false

/-!
# Reading and writing file data

The part of `inodedata.c` that moves bytes between an inode and a caller's buffer. A caller's
buffer is a function from offsets to bytes.

## Main definitions

* `redInodeDataRead` — read a range, split into a partial head, whole blocks and a partial tail.
* `redInodeDataWrite` — write a range in the same three parts; whole blocks go to the device in
  extents, past the buffers.
-/

namespace RelianceEdge

variable [RedConf]

open RedConf

/-- `RedMemCpy()` into a caller's buffer at an offset. -/
def copyAt (pbBuffer : ℕ → UInt8) (ulIndex ulLen : ℕ) (src : ℕ → UInt8) : ℕ → UInt8 :=
  fun k => if ulIndex ≤ k ∧ k < ulIndex + ulLen then src (k - ulIndex) else pbBuffer k

/-! ## Extents -/

/-- The loop of `GetExtent()`, over the number of blocks that may still join the run. -/
def getExtentLoop (ulBlockStart ulFirstBlock : ℕ) : ℕ → ℕ → RedI ℕ
  | 0, ulRunLen => pure ulRunLen
  | n + 1, ulRunLen => do
    if ← seekInodeSparse (ulBlockStart + ulRunLen) then
      if (← getCInode).ulDataBlock ≠ ulFirstBlock + ulRunLen then pure ulRunLen
      else getExtentLoop ulBlockStart ulFirstBlock n (ulRunLen + 1)
    else pure ulRunLen

/-- `GetExtent()`: the first block and the length of the run that starts at a logical block. -/
def getExtent (ulBlockStart ulExtentLen : ℕ) : RedI (ℕ × ℕ) := do
  seekInode ulBlockStart
  let ulFirstBlock := (← getCInode).ulDataBlock
  let ulRunLen ← getExtentLoop ulBlockStart ulFirstBlock (ulExtentLen - 1) 1
  pure (ulFirstBlock, ulRunLen)

/-! ## Reading -/

/-- `ReadUnaligned()`: the bytes of a range inside one block. -/
def readUnaligned (ullStart ulLen : ℕ) : RedI (ℕ → UInt8) := do
  if ullStart / blockSize ≠ (ullStart + ulLen - 1) / blockSize then .fail .EINVAL
  else
    match ← .attempt (redInodeDataSeekAndRead (ullStart / blockSize)) with
    | .ok () =>
      let pInode ← getCInode
      let s ← liftFS .get
      pure fun k => (s.deref pInode.pbData).asBytes (ullStart % blockSize + k)
    | .error .ENODATA => pure fun _ => 0
    | .error e => .fail e

/-- The loop of `ReadAligned()`, for at most `fuel` extents. -/
def readAlignedLoop (ulBlockStart ulBlockCount : ℕ) : ℕ → ℕ → (ℕ → UInt8) → RedI (ℕ → UInt8)
  | fuel, ulBlockIndex, pbBuffer => do
    if ulBlockCount ≤ ulBlockIndex then pure pbBuffer
    else
      match fuel with
      | 0 => .fail .outOfFuel
      | fuel + 1 =>
        match ← .attempt (getExtent (ulBlockStart + ulBlockIndex)
          (ulBlockCount - ulBlockIndex)) with
        | .ok (ulExtentStart, ulExtentLen) =>
          let pbExtent ← liftFS (redBufferReadRange ulExtentStart ulExtentLen)
          readAlignedLoop ulBlockStart ulBlockCount fuel (ulBlockIndex + ulExtentLen)
            (copyAt pbBuffer (ulBlockIndex * blockSize) (ulExtentLen * blockSize) pbExtent)
        | .error .ENODATA =>
          readAlignedLoop ulBlockStart ulBlockCount fuel (ulBlockIndex + 1)
            (copyAt pbBuffer (ulBlockIndex * blockSize) blockSize fun _ => 0)
        | .error e => .fail e

/-- `ReadAligned()`. -/
def readAligned (ulBlockStart ulBlockCount : ℕ) : RedI (ℕ → UInt8) :=
  readAlignedLoop ulBlockStart ulBlockCount ulBlockCount 0 fun _ => 0

/-- `RedInodeDataRead()`: the number of bytes read, and the bytes. -/
def redInodeDataRead (ullStart ulLen : ℕ) : RedI (ℕ × (ℕ → UInt8)) := do
  let pInode ← getCInode
  let s ← liftFS .get
  if !s.cinodeIsMounted pInode then .fail .EINVAL
  else
    let ullSize := (← inodeBuf).ullSize
    if ullSize ≤ ullStart then pure (0, fun _ => 0)
    else if ulLen = 0 then pure (0, fun _ => 0)
    else
      let ulLen := min ulLen (ullSize - ullStart)
      -- Unaligned partial block at start.
      let ulHead :=
        if ullStart % blockSize ≠ 0 then min ulLen (blockSize - ullStart % blockSize) else 0
      let pbBuffer ←
        if ullStart % blockSize ≠ 0 then do
          let pbHead ← readUnaligned ullStart ulHead
          pure (copyAt (fun _ => 0) 0 ulHead pbHead)
        else pure fun _ => 0
      -- Whole blocks.
      let ulBlockCount := (ulLen - ulHead) / blockSize
      let pbBuffer ←
        if blockSize ≤ ulLen - ulHead then do
          let pbWhole ← readAligned ((ullStart + ulHead) / blockSize) ulBlockCount
          pure (copyAt pbBuffer ulHead (ulBlockCount * blockSize) pbWhole)
        else pure pbBuffer
      -- Aligned partial block at end.
      let ulReadIndex := ulHead + ulBlockCount * blockSize
      let pbBuffer ←
        if ulReadIndex < ulLen then do
          let pbTail ← readUnaligned (ullStart + ulReadIndex) (ulLen - ulReadIndex)
          pure (copyAt pbBuffer ulReadIndex (ulLen - ulReadIndex) pbTail)
        else pure pbBuffer
      pure (ulLen, pbBuffer)

/-! ## Writing -/

/-- `WriteUnaligned()`. -/
def writeUnaligned (ullStart ulLen : ℕ) (pbBuffer : ℕ → UInt8) : RedI Unit := do
  if ullStart / blockSize ≠ (ullStart + ulLen - 1) / blockSize then .fail .EINVAL
  else
    let _ ← seekInodeSparse (ullStart / blockSize)
    branchBlock .fileData true
    modifyData fun ab => copyAt ab (ullStart % blockSize) ulLen pbBuffer

/-- The extent that `WriteAligned()` is collecting: its first block and length, and the block that
ended it, which is the first of the next extent. -/
structure Extent where
  ulExtentStart : ℕ
  ulExtentLen : ℕ
  ulNextDataBlock : ℕ

/-- The inner loop of `WriteAligned()`, over the number of blocks still to be written: branch a
contiguous extent of blocks. -/
def branchExtent (ulBlockStart : ℕ) : ℕ → ℕ → Extent → RedI (Except RedError Unit × Extent)
  | 0, _, ext => pure (.ok (), ext)
  | n + 1, i, ext => do
    let ret ←
      if ext.ulNextDataBlock = BLOCK_SPARSE then
        .attempt do
          let _ ← seekInodeSparse (ulBlockStart + i)
          branchBlock .fileData false
      else pure (.ok ())
    let ext := { ext with ulNextDataBlock := BLOCK_SPARSE }
    match ret with
    | .error e => pure (.error e, ext)
    | .ok () =>
      let ulDataBlock := (← getCInode).ulDataBlock
      if ext.ulExtentLen = 0 then
        branchExtent ulBlockStart n (i + 1)
          { ext with ulExtentStart := ulDataBlock, ulExtentLen := 1 }
      else if ulDataBlock = ext.ulExtentStart + ext.ulExtentLen then
        branchExtent ulBlockStart n (i + 1) { ext with ulExtentLen := ext.ulExtentLen + 1 }
      else pure (.ok (), { ext with ulNextDataBlock := ulDataBlock })

/-- The outer loop of `WriteAligned()`, for at most `fuel` extents: the number of blocks written,
and the error that stopped it. -/
def writeAlignedLoop (ulBlockStart ulBlockCount : ℕ) (pbBuffer : ℕ → UInt8) :
    ℕ → ℕ → ℕ → RedI (Except RedError Unit × ℕ)
  | fuel, ulBlockIndex, ulNextDataBlock => do
    if ulBlockCount ≤ ulBlockIndex then pure (.ok (), ulBlockIndex)
    else
      match fuel with
      | 0 => .fail .outOfFuel
      | fuel + 1 =>
        let (ret, ext) ← branchExtent ulBlockStart (ulBlockCount - ulBlockIndex) ulBlockIndex
          ⟨BLOCK_SPARSE, 0, ulNextDataBlock⟩
        let fFull := decide (ret = .error .ENOSPC) && decide (0 < ext.ulExtentLen)
        if ret = .ok () ∨ fFull then
          liftFS (redBufferWriteRange ext.ulExtentStart ext.ulExtentLen
            fun k => pbBuffer (ulBlockIndex * blockSize + k))
          if fFull then pure (.error .ENOSPC, ulBlockIndex + ext.ulExtentLen)
          else
            writeAlignedLoop ulBlockStart ulBlockCount pbBuffer fuel
              (ulBlockIndex + ext.ulExtentLen) ext.ulNextDataBlock
        else pure (ret, ulBlockIndex)

/-- `WriteAligned()`: the number of blocks written. -/
def writeAligned (ulBlockStart ulBlockCount : ℕ) (pbBuffer : ℕ → UInt8) : RedI ℕ := do
  redInodePutData
  let (ret, ulBlockIndex) ←
    writeAlignedLoop ulBlockStart ulBlockCount pbBuffer ulBlockCount 0 BLOCK_SPARSE
  match ret with
  | .ok () => pure ulBlockIndex
  | .error e => if e = .ENOSPC ∧ 0 < ulBlockIndex then pure ulBlockIndex else .fail e

/-- The whole blocks of `RedInodeDataWrite()`: the number of blocks written. Once a byte has been
written, a full disk only ends the write. -/
def writeWhole (ulBlockOffset ulBlockCount ulWriteIndex : ℕ) (pbBuffer : ℕ → UInt8) :
    RedI ℕ := do
  match ← .attempt (writeAligned ulBlockOffset ulBlockCount
    fun k => pbBuffer (ulWriteIndex + k)) with
  | .ok ulBlocksWritten => pure ulBlocksWritten
  | .error e => if e = .ENOSPC ∧ 0 < ulWriteIndex then pure 0 else .fail e

/-- The partial tail of `RedInodeDataWrite()`: the number of bytes written. -/
def writeTail (ullStart ulWriteIndex ulRemaining : ℕ) (pbBuffer : ℕ → UInt8) : RedI ℕ := do
  match ← .attempt (writeUnaligned (ullStart + ulWriteIndex) ulRemaining
      fun k => pbBuffer (ulWriteIndex + k)) with
  | .ok () => pure ulRemaining
  | .error .ENOSPC => pure 0
  | .error e => .fail e

/-- `RedInodeDataWrite()`: the number of bytes written. -/
def redInodeDataWrite (ullStart ulLen : ℕ) (pbBuffer : ℕ → UInt8) : RedI ℕ := do
  let pInode ← getCInode
  let s ← liftFS .get
  if !s.cinodeIsDirty pInode then .fail .EINVAL
  else if inodeSizeMax < ullStart ∨ (ullStart = inodeSizeMax ∧ 0 < ulLen) then .fail .EFBIG
  else if ulLen = 0 then pure 0
  else
    let ulLen := min ulLen (inodeSizeMax - ullStart)
    .when ((← inodeBuf).ullSize < ullStart) expandPrepare
    -- Partial block at start.
    let ulHead :=
      if ullStart % blockSize ≠ 0 ∨ ulLen < blockSize then
        min ulLen (blockSize - ullStart % blockSize)
      else 0
    .when (ullStart % blockSize ≠ 0 ∨ ulLen < blockSize) do
      writeUnaligned ullStart ulHead pbBuffer
    -- Whole blocks.
    let ulBlockCount := (ulLen - ulHead) / blockSize
    let ulBlocksWritten ←
      if blockSize ≤ ulLen - ulHead then
        writeWhole ((ullStart + ulHead) / blockSize) ulBlockCount ulHead pbBuffer
      else pure 0
    let ulWriteIndex := ulHead + ulBlocksWritten * blockSize
    -- Partial block at end, unless the whole blocks stopped short.
    let ulTail ←
      if ulBlocksWritten = ulBlockCount ∧ ulWriteIndex < ulLen then
        writeTail ullStart ulWriteIndex (ulLen - ulWriteIndex) pbBuffer
      else pure 0
    let ulWriteIndex := ulWriteIndex + ulTail
    modifyInodeBuf fun ino => { ino with ullSize := max ino.ullSize (ullStart + ulWriteIndex) }
    pure ulWriteIndex

end RelianceEdge
