import RelianceEdge.Inode

set_option relaxedAutoImplicit false
set_option autoImplicit false

/-!
# File data

`inodedata.c`: seeking to a logical block of an inode, branching the path to it, reading,
writing and truncating. `RedVolFreeBlockCount()` of `volume.c`, which decides what may be
branched, is here too.

## Main definitions

* `seekInode` — position a cached inode on a logical block.
* `branchBlock` — make the path to the current block writeable.
-/

namespace RelianceEdge

variable [RedConf]

open RedConf

/-! ## Free blocks -/

/-- `RedVolFreeBlockCount()`. -/
def FS.redVolFreeBlockCount (s : FS) : ℕ :=
  let ulFreeBlocks :=
    if s.core.fUseReservedBlocks then s.mr.ulFreeBlocks else s.mr.ulFreeBlocks - RESERVED_BLOCKS
  if s.core.fUseReservedInodeBlocks then ulFreeBlocks
  else
    -- The subtraction that would underflow raises REDERROR and yields zero.
    let ulFreeBlocks := ulFreeBlocks - s.core.ulReservedInodeBlocks
    if 0 < s.core.ulReservedInodes then
      ulFreeBlocks - min ulFreeBlocks (u32 (s.core.ulReservedInodes * inodeMaxDepth))
    else ulFreeBlocks

/-! ## Pointers into the nodes of a cached inode -/

/-- The pointer that leads to the node of a depth: an entry of the inode, of the double indirect
or of the indirect, given by the coordinates of the cached inode. -/
inductive EntryRef
  | inode (uEntry : ℕ)
  | dindir (uEntry : ℕ)
  | indir (uEntry : ℕ)

/-- The pointer that an entry holds. -/
def FS.entryAt (s : FS) (ci : CInode) : EntryRef → ℕ
  | .inode uEntry => (s.deref ci.pInodeBuf).asInode.aulEntries uEntry
  | .dindir uEntry => (s.deref ci.pDindir).asIndir.aulEntries uEntry
  | .indir uEntry => (s.deref ci.pIndir).asIndir.aulEntries uEntry

/-- Read a pointer. -/
def getEntry (ref : EntryRef) : RedI ℕ := fun t => (.ok (t.1.entryAt t.2 ref), t)

/-- Change the indirect or double indirect node in its buffer. -/
def modifyIndirBuf (depth : BranchDepth) (f : Indir → Indir) : RedI Unit := do
  let pInode ← getCInode
  match pInode.buf depth with
  | some pBuffer =>
    liftFS (.modify fun s => s.setBuf pBuffer (.indir (f (s.buf.pbBlkBuf pBuffer).asIndir)))
  | none => pure ()

/-- Store a pointer. -/
def setEntry (ref : EntryRef) (ulBlock : ℕ) : RedI Unit :=
  match ref with
  | .inode uEntry => modifyInodeBuf fun ino =>
      { ino with aulEntries := Function.update ino.aulEntries uEntry ulBlock }
  | .dindir uEntry => modifyIndirBuf .dindir fun ind =>
      { ind with aulEntries := Function.update ind.aulEntries uEntry ulBlock }
  | .indir uEntry => modifyIndirBuf .indir fun ind =>
      { ind with aulEntries := Function.update ind.aulEntries uEntry ulBlock }

/-- `CINODE_DATA_BFLAG()`. -/
def FS.cinodeDataBFlag (s : FS) (ci : CInode) : BufType :=
  if ci.fDirectory ∧ RED_DISK_LAYOUT_DIRCRC ≤ s.core.ulVersion then .directory else .data

/-! ## Seeking -/

/-- The part of `SeekCoord()` for a block that the inode points to itself. -/
def seekCoordDirect (ulBlock : ℕ) : RedI Unit := do
  redInodePutCoord
  let ulDataBlock ← getEntry (.inode ulBlock)
  modifyCInode fun ci => { ci with
    uInodeEntry := ulBlock
    ulDataBlock := ulDataBlock
    uDindirEntry := COORD_ENTRY_INVALID
    uIndirEntry := COORD_ENTRY_INVALID }

/-- The part of `SeekCoord()` for a block below an indirect pointer. -/
def seekCoordIndir (ulBlock : ℕ) : RedI Unit := do
  let pInode ← getCInode
  let ulIndirRangeOffset := ulBlock - directPointers
  let uInodeEntry := ulIndirRangeOffset / indirEntries + directPointers
  redInodePutDindir
  .when (pInode.uInodeEntry ≠ uInodeEntry ∨ !pInode.fCoordInited) do
    redInodePutIndir
    let ulIndirBlock ← getEntry (.inode uInodeEntry)
    modifyCInode fun ci => { ci with uInodeEntry := uInodeEntry, ulIndirBlock := ulIndirBlock }
  modifyCInode fun ci => { ci with
    uDindirEntry := COORD_ENTRY_INVALID
    uIndirEntry := ulIndirRangeOffset % indirEntries }

/-- The part of `SeekCoord()` for a block below a double indirect pointer. -/
def seekCoordDindir (ulBlock : ℕ) : RedI Unit := do
  let pInode ← getCInode
  let ulDindirRangeOffset := ulBlock - directPointers - inodeIndirBlocks
  let uInodeEntry := ulDindirRangeOffset / dindirDataBlocks + directPointers + indirectPointers
  let ulDindirNodeOffset := ulDindirRangeOffset % dindirDataBlocks
  let uDindirEntry := ulDindirNodeOffset / indirEntries
  if pInode.uInodeEntry ≠ uInodeEntry ∨ !pInode.fCoordInited then
    redInodePutIndir
    redInodePutDindir
    let ulDindirBlock ← getEntry (.inode uInodeEntry)
    modifyCInode fun ci => { ci with uInodeEntry := uInodeEntry, ulDindirBlock := ulDindirBlock }
  else if pInode.uDindirEntry ≠ uDindirEntry then redInodePutIndir
  modifyCInode fun ci => { ci with
    uDindirEntry := uDindirEntry
    uIndirEntry := ulDindirNodeOffset % indirEntries }

/-- `SeekCoord()`. -/
def seekCoord (ulBlock : ℕ) : RedI Unit := do
  let pInode ← getCInode
  let s ← liftFS .get
  if !s.cinodeIsMounted pInode ∨ inodeDataBlocks ≤ ulBlock then pure ()
  else if pInode.ulLogicalBlock ≠ ulBlock ∨ !pInode.fCoordInited then
    redInodePutData
    modifyCInode fun ci => { ci with ulLogicalBlock := ulBlock }
    if ulBlock < directPointers then seekCoordDirect ulBlock
    else if ulBlock < inodeIndirBlocks + directPointers then seekCoordIndir ulBlock
    else seekCoordDindir ulBlock
    modifyCInode fun ci => { ci with fCoordInited := true }

/-- Buffer the node of a depth, unless it is buffered already. -/
def bufferNode (depth : BranchDepth) (type : BufType) : RedI Unit := do
  let pInode ← getCInode
  .when ((pInode.buf depth).isNone) do
    let pBuffer ← liftFS (redBufferGet (pInode.block depth) type false false)
    modifyCInode fun ci => ci.setBuf depth (some pBuffer)

/-- The part of `SeekInode()` that reads the double indirect of the coordinates. -/
def seekDindir : RedI Unit := do
  let pInode ← getCInode
  .when (pInode.uDindirEntry ≠ COORD_ENTRY_INVALID) do
    if pInode.ulDindirBlock = BLOCK_SPARSE then
      modifyCInode fun ci => { ci with ulIndirBlock := BLOCK_SPARSE }
    else
      bufferNode .dindir .dindir
      let ulIndirBlock ← getEntry (.dindir pInode.uDindirEntry)
      modifyCInode fun ci => { ci with ulIndirBlock := ulIndirBlock }

/-- The part of `SeekInode()` that reads the indirect of the coordinates. -/
def seekIndir : RedI Unit := do
  let pInode ← getCInode
  .when (pInode.uIndirEntry ≠ COORD_ENTRY_INVALID) do
    if pInode.ulIndirBlock = BLOCK_SPARSE then
      modifyCInode fun ci => { ci with ulDataBlock := BLOCK_SPARSE }
    else
      bufferNode .indir .indir
      let ulDataBlock ← getEntry (.indir pInode.uIndirEntry)
      modifyCInode fun ci => { ci with ulDataBlock := ulDataBlock }

/-- `SeekInode()`. -/
def seekInode (ulBlock : ℕ) : RedI Unit := do
  let pInode ← getCInode
  let s ← liftFS .get
  if !s.cinodeIsMounted pInode ∨ inodeDataBlocks ≤ ulBlock then .fail .EINVAL
  else
    seekCoord ulBlock
    seekDindir
    seekIndir
    let pInode ← getCInode
    .when (pInode.ulDataBlock = BLOCK_SPARSE) (.fail .ENODATA)

/-- `SeekInode()` where a sparse block is no error: whether the block is allocated. -/
def seekInodeSparse (ulBlock : ℕ) : RedI Bool := do
  match ← .attempt (seekInode ulBlock) with
  | .ok () => pure true
  | .error .ENODATA => pure false
  | .error e => .fail e

/-- `RedInodeDataSeekAndRead()`. -/
def redInodeDataSeekAndRead (ulBlock : ℕ) : RedI Unit := do
  seekInode ulBlock
  let pInode ← getCInode
  let s ← liftFS .get
  bufferNode .fileData (s.cinodeDataBFlag pInode)

/-! ## Branching -/

/-- The cost of one node of the path: none when it is branched already. -/
def branchNodeCost (ulBlock : ℕ) : RedI ℕ := do
  if ulBlock = BLOCK_SPARSE then pure 1
  else
    let state ← liftFS (redImapBlockState ulBlock)
    pure (if state = .new then 0 else 1)

/-- Whether branching to `depth` includes the indirect node. -/
def BranchDepth.includesIndir : BranchDepth → Bool
  | .dindir => false
  | _ => true

/-- `BranchBlockCost()`. The source starts from `INODE_MAX_DEPTH`, one for each kind of node that
exists, and takes one away for each node that need not be branched. -/
def branchBlockCost (depth : BranchDepth) : RedI ℕ := do
  let pInode ← getCInode
  let s ← liftFS .get
  if !s.cinodeIsMounted pInode ∨ !pInode.fCoordInited then .fail .EINVAL
  else
    let ulDindirCost ←
      if dindirsExist ∧ pInode.uDindirEntry ≠ COORD_ENTRY_INVALID then
        branchNodeCost pInode.ulDindirBlock
      else pure 0
    let ulIndirCost ←
      if indirsExist ∧ pInode.uIndirEntry ≠ COORD_ENTRY_INVALID ∧ depth.includesIndir then
        branchNodeCost pInode.ulIndirBlock
      else pure 0
    let ulDataCost ←
      if depth = .fileData then branchNodeCost pInode.ulDataBlock else pure 0
    pure (ulDindirCost + ulIndirCost + ulDataCost)

/-- The reservation that a new block uses up. -/
def consumeReservation : Red Unit := do
  let s ← .get
  .when s.core.fUseReservedInodeBlocks do
    if s.core.ulReservedInodeBlocks = 0 then
      criticalError
      .fail .EFUBAR
    else
      .modify fun s => { s with core := { s.core with
        ulReservedInodeBlocks := s.core.ulReservedInodeBlocks - 1 } }

/-- The buffer of the node that `BranchOneBlock()` is about to move. -/
def obtainNode (depth : BranchDepth) (ulPrevBlock : ℕ) (uBFlag : BufType) : RedI ℕ := do
  let pInode ← getCInode
  match pInode.buf depth with
  | some pBuffer => pure pBuffer
  | none =>
    let pBuffer ← liftFS (redBufferGet ulPrevBlock uBFlag false false)
    modifyCInode fun ci => ci.setBuf depth (some pBuffer)
    pure pBuffer

/-- `BranchOneBlock()` on the block number and the buffer pointer of a depth; `fBuffer` is false
for a null `ppBuffer`. -/
def branchOneBlock (depth : BranchDepth) (fBuffer : Bool) (uBFlag : BufType) : RedI Unit := do
  let pInode ← getCInode
  let ulPrevBlock := pInode.block depth
  let state ←
    if ulPrevBlock ≠ BLOCK_SPARSE then liftFS (redImapBlockState ulPrevBlock) else pure .free
  if state = .new then
    .when fBuffer do
      match pInode.buf depth with
      | some pBuffer => liftFS (redBufferDirty pBuffer)
      | none =>
        let pBuffer ← liftFS (redBufferGet ulPrevBlock uBFlag true false)
        modifyCInode fun ci => ci.setBuf depth (some pBuffer)
  else
    let ulBlock ← liftFS redImapAllocBlock
    modifyCInode fun ci => ci.setBlock depth ulBlock
    if ulPrevBlock = BLOCK_SPARSE then
      liftFS consumeReservation
      .when fBuffer do
        if (pInode.buf depth).isSome then .fail .EINVAL
        else
          let pBuffer ← liftFS (redBufferGet ulBlock uBFlag true true)
          modifyCInode fun ci => ci.setBuf depth (some pBuffer)
    else
      .when fBuffer do
        let pBuffer ← obtainNode depth ulPrevBlock uBFlag
        liftFS (redBufferBranch pBuffer ulBlock)
      liftFS (redImapBlockSet ulPrevBlock false)

/-- The part of `BranchBlock()` after the cost has been accepted. -/
def branchPath (depth : BranchDepth) (fBuffer : Bool) : RedI Unit := do
  let pInode ← getCInode
  .when (pInode.uDindirEntry ≠ COORD_ENTRY_INVALID) do
    branchOneBlock .dindir true .dindir
    modifyIndirBuf .dindir fun ind => { ind with ulInode := pInode.ulInode }
    setEntry (.inode pInode.uInodeEntry) (← getCInode).ulDindirBlock
  .when (pInode.uIndirEntry ≠ COORD_ENTRY_INVALID ∧ depth.includesIndir) do
    branchOneBlock .indir true .indir
    modifyIndirBuf .indir fun ind => { ind with ulInode := pInode.ulInode }
    let ulIndirBlock := (← getCInode).ulIndirBlock
    if pInode.uDindirEntry ≠ COORD_ENTRY_INVALID then
      setEntry (.dindir pInode.uDindirEntry) ulIndirBlock
    else setEntry (.inode pInode.uInodeEntry) ulIndirBlock
  .when (depth = .fileData) do
    let s ← liftFS .get
    branchOneBlock .fileData (fBuffer || pInode.pbData.isSome) (s.cinodeDataBFlag pInode)
    let ulDataBlock := (← getCInode).ulDataBlock
    if pInode.uIndirEntry ≠ COORD_ENTRY_INVALID then
      setEntry (.indir pInode.uIndirEntry) ulDataBlock
    else setEntry (.inode pInode.uInodeEntry) ulDataBlock
    .when (pInode.ulDataBlock = BLOCK_SPARSE) do
      let ino ← inodeBuf
      if ino.ulBlocks < inodeDataBlocks then
        modifyInodeBuf fun ino => { ino with ulBlocks := ino.ulBlocks + 1 }
      else
        liftFS criticalError
        .fail .EFUBAR

/-- `BranchBlock()`. -/
def branchBlock (depth : BranchDepth) (fBuffer : Bool) : RedI Unit := do
  let ulCost ← branchBlockCost depth
  let s ← liftFS .get
  if s.redVolFreeBlockCount < ulCost then .fail .ENOSPC
  else
    match ← .attempt (branchPath depth fBuffer) with
    | .error e =>
      liftFS criticalError
      .fail e
    | .ok () => pure ()

end RelianceEdge
