import RelianceEdge.InodeData

set_option relaxedAutoImplicit false
set_option autoImplicit false

/-!
# Truncating and reserving

The part of `inodedata.c` that shrinks an inode, prepares its end for an expansion, or counts
the sparse blocks of a range for a reservation.

## Main definitions

* `shrink`, `truncDindir`, `truncIndir`, `truncDataBlock` — free the blocks beyond a new end.
* `expandPrepare` — zero the rest of the last block.
* `redInodeDataTruncate` — change the size of an inode.
* `redInodeDataReserve`, `redInodeDataUnreserve` — reservations for a file.
-/

namespace RelianceEdge

variable [RedConf]

open RedConf

/-! ## Freeing blocks -/

/-- `TruncDataBlock()`. -/
def truncDataBlock (pulBlock : EntryRef) (fPropagate : Bool) : RedI Unit := do
  let pInode ← getCInode
  let s ← liftFS .get
  if !s.cinodeIsMounted pInode then .fail .EINVAL
  else
    let ulBlock ← getEntry pulBlock
    .when (ulBlock ≠ BLOCK_SPARSE) do
      liftFS (redImapBlockSet ulBlock false)
      let ino ← inodeBuf
      if ino.ulBlocks = 0 then
        liftFS criticalError
        .fail .EFUBAR
      else
        modifyInodeBuf fun ino => { ino with ulBlocks := ino.ulBlocks - 1 }
      .when fPropagate (setEntry pulBlock BLOCK_SPARSE)

/-- `TruncDataBlock()` on the pointers of a list of entries. -/
def truncDataBlocks (ref : ℕ → EntryRef) (fPropagate : Bool) : List ℕ → RedI Unit
  | [] => pure ()
  | uEntry :: rest => do
    truncDataBlock (ref uEntry) fPropagate
    truncDataBlocks ref fPropagate rest

/-- Whether any of the first `uEntries` pointers is not sparse. -/
def anyAllocated (aulEntries : ℕ → ℕ) (uEntries : ℕ) : Bool :=
  (List.range uEntries).any fun uEntry => aulEntries uEntry != BLOCK_SPARSE

/-- `TruncIndir()`: whether the indirect was freed. -/
def truncIndir : RedI Bool := do
  let pInode ← getCInode
  let s ← liftFS .get
  if !s.cinodeIsMounted pInode then .fail .EINVAL
  else if pInode.pIndir.isNone then pure false
  else
    let fBranch := anyAllocated (s.deref pInode.pIndir).asIndir.aulEntries pInode.uIndirEntry
    .when fBranch (branchBlock .indir false)
    let ulIndirEntriesMax := inodeDataBlocks - (pInode.ulLogicalBlock - pInode.uIndirEntry)
    let uIndirEntries := min indirEntries ulIndirEntriesMax
    truncDataBlocks .indir fBranch
      (List.range' pInode.uIndirEntry (uIndirEntries - pInode.uIndirEntry))
    .when (!fBranch) do
      redInodePutIndir
      liftFS (redImapBlockSet (← getCInode).ulIndirBlock false)
    pure !fBranch

/-- The loop of `TruncDindir()` over the entries of the double indirect. -/
def truncDindirLoop (fBranch : Bool) : List ℕ → ℕ → RedI Unit
  | [], _ => pure ()
  | uEntry :: rest, ulBlock => do
    let _ ← seekInodeSparse ulBlock
    .when ((← getCInode).ulIndirBlock ≠ BLOCK_SPARSE) do
      let fIndirFreed ← truncIndir
      .when (fBranch && fIndirFreed) (setEntry (.dindir uEntry) BLOCK_SPARSE)
    truncDindirLoop fBranch rest (ulBlock + (indirEntries - (← getCInode).uIndirEntry))

/-- `TruncDindir()`: whether the double indirect was freed. -/
def truncDindir : RedI Bool := do
  let pInode ← getCInode
  let s ← liftFS .get
  if !s.cinodeIsMounted pInode then .fail .EINVAL
  else if pInode.pDindir.isNone then pure false
  else
    let aulEntries := (s.deref pInode.pDindir).asIndir.aulEntries
    let fBranch := anyAllocated aulEntries pInode.uDindirEntry ||
      (aulEntries pInode.uDindirEntry != BLOCK_SPARSE &&
        anyAllocated (s.deref pInode.pIndir).asIndir.aulEntries pInode.uIndirEntry)
    .when fBranch (branchBlock .dindir false)
    let ulDindirOffset := pInode.uIndirEntry + pInode.uDindirEntry * indirEntries
    let ulDindirDataBlock := pInode.ulLogicalBlock - ulDindirOffset
    let ulBlocksTillMax := inodeDataBlocks - ulDindirDataBlock
    let ulDindirEntriesMax := ulBlocksTillMax / indirEntries +
      if ulBlocksTillMax % indirEntries ≠ 0 then 1 else 0
    let uDindirEntries := min indirEntries ulDindirEntriesMax
    truncDindirLoop fBranch
      (List.range' pInode.uDindirEntry (uDindirEntries - pInode.uDindirEntry))
      pInode.ulLogicalBlock
    .when (!fBranch) do
      redInodePutDindir
      liftFS (redImapBlockSet (← getCInode).ulDindirBlock false)
    pure !fBranch

/-- The loop of `Shrink()` over the indirect pointers, for at most `fuel` of them; yields the
block it stopped at. -/
def shrinkIndirs : ℕ → ℕ → RedI ℕ
  | fuel, ulTruncBlock => do
    if directPointers + inodeIndirBlocks ≤ ulTruncBlock then pure ulTruncBlock
    else
      match fuel with
      | 0 => .fail .outOfFuel
      | fuel + 1 =>
        let _ ← seekInodeSparse ulTruncBlock
        let fFreed ← truncIndir
        let pInode ← getCInode
        .when fFreed (setEntry (.inode pInode.uInodeEntry) BLOCK_SPARSE)
        shrinkIndirs fuel (ulTruncBlock + (indirEntries - pInode.uIndirEntry))

/-- The loop of `Shrink()` over the double indirect pointers, for at most `fuel` of them. -/
def shrinkDindirs : ℕ → ℕ → RedI Unit
  | fuel, ulTruncBlock => do
    if inodeDataBlocks ≤ ulTruncBlock then pure ()
    else
      match fuel with
      | 0 => .fail .outOfFuel
      | fuel + 1 =>
        let _ ← seekInodeSparse ulTruncBlock
        -- `truncDindir` seeks, so the entries are remembered.
        let pInode ← getCInode
        let fFreed ← truncDindir
        .when fFreed (setEntry (.inode pInode.uInodeEntry) BLOCK_SPARSE)
        let ulDataBlocks :=
          dindirDataBlocks - pInode.uDindirEntry * indirEntries - pInode.uIndirEntry
        shrinkDindirs fuel (ulTruncBlock + min ulDataBlocks (inodeDataBlocks - ulTruncBlock))

/-- `Shrink()`. -/
def shrink (ullSize : ℕ) : RedI Unit := do
  let pInode ← getCInode
  let s ← liftFS .get
  if !s.cinodeIsMounted pInode ∨ (0 < ullSize ∧ !pInode.fDirty) then .fail .EINVAL
  else
    let ulTruncBlock := (ullSize + blockSize - 1) / blockSize
    redInodePutData
    truncDataBlocks .inode true (List.range' ulTruncBlock (directPointers - ulTruncBlock))
    let ulTruncBlock ← shrinkIndirs indirectPointers (max ulTruncBlock directPointers)
    .when dindirsExist (shrinkDindirs dindirPointers ulTruncBlock)

/-! ## Expanding -/

/-- Replace bytes of the data buffer. -/
def modifyData (f : (ℕ → UInt8) → ℕ → UInt8) : RedI Unit := do
  let pInode ← getCInode
  match pInode.pbData with
  | some pbData =>
    liftFS (.modify fun s => s.setBuf pbData (.bytes (f (s.buf.pbBlkBuf pbData).asBytes)))
  | none => pure ()

/-- `CINODE_IS_DIRTY()`. -/
def FS.cinodeIsDirty (s : FS) (ci : CInode) : Bool := s.cinodeIsMounted ci && ci.fDirty

/-- `ExpandPrepare()`. -/
def expandPrepare : RedI Unit := do
  let pInode ← getCInode
  let s ← liftFS .get
  if !s.cinodeIsDirty pInode then .fail .EINVAL
  else
    let ullSize := (← inodeBuf).ullSize
    let ulOldSizeByteInBlock := ullSize % blockSize
    .when (ulOldSizeByteInBlock ≠ 0) do
      .when (← seekInodeSparse (ullSize / blockSize)) do
        branchBlock .fileData true
        modifyData fun ab ulOffset => if ulOldSizeByteInBlock ≤ ulOffset then 0 else ab ulOffset

/-- `RedInodeDataTruncate()`. -/
def redInodeDataTruncate (ullSize : ℕ) : RedI Unit := do
  let pInode ← getCInode
  let s ← liftFS .get
  if !s.cinodeIsMounted pInode then .fail .EINVAL
  else if inodeSizeMax < ullSize then .fail .EFBIG
  else
    let ino ← inodeBuf
    if ino.ullSize < ullSize then expandPrepare
    else if ullSize < ino.ullSize then shrink ullSize
    modifyInodeBuf fun ino => { ino with ullSize := ullSize }

/-! ## Reserving -/

/-- The previous entries of `CountSparseBlocks()`. -/
structure PrevEntries where
  uPrevInodeEntry : ℕ
  uPrevDindirEntry : ℕ
  uPrevIndirEntry : ℕ

/-- One more block that must be allocated to reach the current coordinates. -/
def countNode (uPrevEntry uEntry : ℕ) : ℕ :=
  if uEntry ≠ COORD_ENTRY_INVALID ∧ uPrevEntry ≠ uEntry then 1 else 0

/-- The loop of `CountSparseBlocks()`, over the remaining number of blocks. -/
def countSparseLoop (ulStartBlockOff : ℕ) : ℕ → ℕ → PrevEntries → ℕ → RedI ℕ
  | 0, _, _, ulSparseBlocks => pure ulSparseBlocks
  | n + 1, ulBlockOff, prev, ulSparseBlocks => do
    if (← seekInodeSparse ulBlockOff) && decide (ulStartBlockOff < ulBlockOff) then
      liftFS criticalError
      .fail .EFUBAR
    else
      let pInode ← getCInode
      let ulSparseBlocks := ulSparseBlocks +
        (if prev.uPrevInodeEntry ≠ pInode.uInodeEntry then 1 else 0) +
        countNode prev.uPrevDindirEntry pInode.uDindirEntry +
        countNode prev.uPrevIndirEntry pInode.uIndirEntry
      let prev : PrevEntries :=
        { uPrevInodeEntry := pInode.uInodeEntry
          uPrevDindirEntry :=
            if pInode.uDindirEntry ≠ COORD_ENTRY_INVALID then pInode.uDindirEntry
            else prev.uPrevDindirEntry
          uPrevIndirEntry :=
            if pInode.uIndirEntry ≠ COORD_ENTRY_INVALID then pInode.uIndirEntry
            else prev.uPrevIndirEntry }
      countSparseLoop ulStartBlockOff n (ulBlockOff + 1) prev ulSparseBlocks

/-- `CountSparseBlocks()`. -/
def countSparseBlocks (ullOffset ullLen : ℕ) : RedI ℕ := do
  let ulStartBlockOff := ullOffset / blockSize
  let ulEndBlockOffset := (ullOffset + ullLen + blockSize - 1) / blockSize
  let _ ← seekInodeSparse ulStartBlockOff
  let pInode ← getCInode
  let s ← liftFS .get
  let prev : PrevEntries :=
    { uPrevInodeEntry :=
        if (s.deref pInode.pInodeBuf).asInode.aulEntries pInode.uInodeEntry ≠ BLOCK_SPARSE then
          pInode.uInodeEntry
        else COORD_ENTRY_INVALID
      uPrevDindirEntry :=
        if pInode.uDindirEntry ≠ COORD_ENTRY_INVALID ∧ pInode.pDindir.isSome ∧
            (s.deref pInode.pDindir).asIndir.aulEntries pInode.uDindirEntry ≠ BLOCK_SPARSE then
          pInode.uDindirEntry
        else COORD_ENTRY_INVALID
      uPrevIndirEntry :=
        if pInode.uIndirEntry ≠ COORD_ENTRY_INVALID ∧ pInode.pIndir.isSome ∧
            (s.deref pInode.pIndir).asIndir.aulEntries pInode.uIndirEntry ≠ BLOCK_SPARSE then
          pInode.uIndirEntry
        else COORD_ENTRY_INVALID }
  countSparseLoop ulStartBlockOff (ulEndBlockOffset - ulStartBlockOff) ulStartBlockOff prev 0

/-- `RedInodeDataReserve()`. -/
def redInodeDataReserve (ullOffset ullLen : ℕ) : RedI Unit := do
  let pInode ← getCInode
  let s ← liftFS .get
  let ino ← inodeBuf
  if !s.cinodeIsDirty pInode ∨ ullOffset ≠ ino.ullSize ∨ ullLen = 0 then .fail .EINVAL
  else if inodeSizeMax < ullOffset ∨ inodeSizeMax - ullOffset < ullLen then .fail .EFBIG
  else
    expandPrepare
    let ulNeedBlocks ← countSparseBlocks ullOffset ullLen
    let s ← liftFS .get
    if s.redVolFreeBlockCount < u32 (ulNeedBlocks + inodeMaxDepth) then .fail .ENOSPC
    else
      liftFS (.modify fun s => { s with core := { s.core with
        ulReservedInodes := u32 (s.core.ulReservedInodes + 1)
        ulReservedInodeBlocks := u32 (s.core.ulReservedInodeBlocks + ulNeedBlocks) } })
      modifyInodeBuf fun ino => { ino with ullSize := ullOffset + ullLen }

/-- `RedInodeDataUnreserve()`. -/
def redInodeDataUnreserve (ullOffset : ℕ) : RedI Unit := do
  let pInode ← getCInode
  let s ← liftFS .get
  let ino ← inodeBuf
  if !s.cinodeIsMounted pInode ∨ ino.ullSize < ullOffset then .fail .EINVAL
  else if s.core.ulReservedInodes = 0 then
    liftFS criticalError
    .fail .EFUBAR
  else
    let ulReclaimBlocks ← countSparseBlocks ullOffset (ino.ullSize - ullOffset)
    let s ← liftFS .get
    if s.core.ulReservedInodeBlocks < ulReclaimBlocks then
      liftFS criticalError
      .fail .EFUBAR
    else
      liftFS (.modify fun s => { s with core := { s.core with
        ulReservedInodes := s.core.ulReservedInodes - 1
        ulReservedInodeBlocks := s.core.ulReservedInodeBlocks - ulReclaimBlocks } })

end RelianceEdge
