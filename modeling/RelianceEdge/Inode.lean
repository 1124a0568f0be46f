import RelianceEdge.Imap

set_option relaxedAutoImplicit false
set_option autoImplicit false

/-!
# Cached inodes and inode slots

The part of `inode.c` that needs no file data: mounting, branching, releasing and freeing an
inode, and the two slots of every inode in the inode table. `ftype.c` is here too.

## Main definitions

* `redInodeMount`, `redInodePut` — acquire and release a cached inode.
* `redInodeBranch` — move an inode to its writeable slot.
* `redInodeFree` — return an inode number.
-/

namespace RelianceEdge

variable [RedConf]

open RedConf

/-! ## File types -/

/-- `FTYPE`: a mask of expected types. -/
structure FType where
  file : Bool
  dir : Bool
  symlink : Bool
  deriving DecidableEq

/-- `FTYPE_FILE`. -/
def FTYPE_FILE : FType := ⟨true, false, false⟩

/-- `FTYPE_DIR`. -/
def FTYPE_DIR : FType := ⟨false, true, false⟩

/-- `FTYPE_SYMLINK`. -/
def FTYPE_SYMLINK : FType := ⟨false, false, true⟩

/-- `FTYPE_ANY`. -/
def FTYPE_ANY : FType := ⟨true, true, deleteOpen⟩

/-- `FTYPE_NOTDIR`. -/
def FTYPE_NOTDIR : FType := ⟨true, false, deleteOpen⟩

/-- `RedFileTypeCheck()`. -/
def redFileTypeCheck (actualType expectedType : FType) : Except RedError Unit :=
  if (actualType.file && expectedType.file) || (actualType.dir && expectedType.dir) ||
      (actualType.symlink && expectedType.symlink) then .ok ()
  else if deleteOpen ∧ (actualType = FTYPE_SYMLINK ∨ expectedType = FTYPE_SYMLINK) then
    .error .ENOLINK
  else if actualType = FTYPE_DIR then .error .EISDIR
  else .error .ENOTDIR

/-- The type of a mode. -/
def Mode.fileType : Mode → FType
  | .dir => FTYPE_DIR
  | .lnk => if deleteOpen then FTYPE_SYMLINK else ⟨false, false, false⟩
  | .reg => FTYPE_FILE
  | .invalid => ⟨false, false, false⟩

/-- `RedModeTypeCheck()`. -/
def redModeTypeCheck (uMode : Mode) (expectedType : FType) : Except RedError Unit :=
  redFileTypeCheck uMode.fileType expectedType

/-! ## Inode slots -/

/-- `INODE_IS_VALID()`. -/
def FS.inodeIsValid (s : FS) (ulInode : ℕ) : Bool :=
  decide (INODE_FIRST_VALID ≤ ulInode) &&
    decide (ulInode < INODE_FIRST_VALID + s.core.ulInodeCount)

/-- `CINODE_IS_MOUNTED()`. -/
def FS.cinodeIsMounted (s : FS) (ci : CInode) : Bool :=
  s.inodeIsValid ci.ulInode && ci.pInodeBuf.isSome

/-- `InodeBlock()`. -/
def FS.inodeBlock (s : FS) (ulInode : ℕ) (bWhich : Bool) : ℕ :=
  s.core.ulInodeTableStartBN + (ulInode - INODE_FIRST_VALID) * 2 + bWhich.toNat

/-- `RedInodeBitGet()`. -/
def redInodeBitGet (bMR : Bool) (ulInode : ℕ) (bWhich : Bool) : Red Bool := do
  let s ← .get
  if !s.inodeIsValid ulInode then .fail .EINVAL
  else redImapBlockGet bMR (s.inodeBlock ulInode bWhich)

/-- `InodeBitSet()`. -/
def inodeBitSet (ulInode : ℕ) (bWhich fAllocated : Bool) : Red Unit := do
  let s ← .get
  if !s.inodeIsValid ulInode then .fail .EINVAL
  else redImapBlockSet (s.inodeBlock ulInode bWhich) fAllocated

/-- `InodeGetCurrentCopy()`: the slot that is allocated in the working state. -/
def inodeGetCurrentCopy (ulInode : ℕ) : Red Bool := do
  let s ← .get
  let fSlot0Allocated ← redInodeBitGet s.core.bCurMR ulInode false
  if fSlot0Allocated then pure false
  else
    let fSlot1Allocated ← redInodeBitGet s.core.bCurMR ulInode true
    if fSlot1Allocated then pure true else .fail .EBADF

/-- `InodeGetWriteableCopy()`: the slot that is free in the committed state. -/
def inodeGetWriteableCopy (ulInode : ℕ) : Red Bool := do
  let s ← .get
  let fSlot0Allocated ← redInodeBitGet (!s.core.bCurMR) ulInode false
  if !fSlot0Allocated then pure false
  else
    let fSlot1Allocated ← redInodeBitGet (!s.core.bCurMR) ulInode true
    if !fSlot1Allocated then pure true
    else
      criticalError
      .fail .EFUBAR

/-- `RedInodeIsFree()`. -/
def redInodeIsFree (ulInode : ℕ) : Red Bool := do
  let s ← .get
  let fSlot0Allocated ← redInodeBitGet s.core.bCurMR ulInode false
  if fSlot0Allocated then pure false
  else
    let fSlot1Allocated ← redInodeBitGet s.core.bCurMR ulInode true
    pure !fSlot1Allocated

/-- The loop of `InodeFindFree()`. -/
def inodeFindFreeLoop : List ℕ → Red (Option ℕ)
  | [] => pure none
  | ulInode :: rest => do
    let fFree ← redInodeIsFree ulInode
    if fFree then pure (some ulInode) else inodeFindFreeLoop rest

/-- `InodeFindFree()`. -/
def inodeFindFree : Red ℕ := do
  let s ← .get
  if s.mr.ulFreeInodes = 0 then .fail .ENFILE
  else
    let n := INODE_FIRST_VALID + s.core.ulInodeCount
    match ← inodeFindFreeLoop (List.range' INODE_FIRST_FREE (n - INODE_FIRST_FREE)) with
    | some ulInode => pure ulInode
    | none =>
      criticalError
      .fail .ENFILE

/-- `InodeIsBranched()`. -/
def inodeIsBranched (ulInode : ℕ) : Red Bool := do
  let s ← .get
  if !s.inodeIsValid ulInode then .fail .EINVAL
  else
    let state ← redImapBlockState (s.inodeBlock ulInode false)
    if state = .new then pure true
    else
      let state ← redImapBlockState (s.inodeBlock ulInode true)
      pure (decide (state = .new))

/-! ## Releasing -/

/-- Release one of the buffers of the coordinates, if there is one. -/
def redInodePutBuf (depth : BranchDepth) : RedI Unit := do
  let pInode ← getCInode
  match pInode.buf depth with
  | some pBuffer =>
    liftFS (redBufferPut pBuffer)
    modifyCInode fun ci => ci.setBuf depth none
  | none => pure ()

/-- `RedInodePutData()`. -/
def redInodePutData : RedI Unit := redInodePutBuf .fileData

/-- `RedInodePutIndir()`. -/
def redInodePutIndir : RedI Unit := redInodePutBuf .indir

/-- `RedInodePutDindir()`. -/
def redInodePutDindir : RedI Unit := redInodePutBuf .dindir

/-- `RedInodePutCoord()`. -/
def redInodePutCoord : RedI Unit := do
  redInodePutData
  redInodePutIndir
  redInodePutDindir

/-- Change the inode in its buffer. -/
def modifyInodeBuf (f : Inode → Inode) : RedI Unit := do
  let pInode ← getCInode
  match pInode.pInodeBuf with
  | some pInodeBuf =>
    liftFS (.modify fun s => s.setBuf pInodeBuf (.inode (f (s.buf.pbBlkBuf pInodeBuf).asInode)))
  | none => pure ()

/-- The inode in its buffer. -/
def inodeBuf : RedI Inode := fun t => (.ok (t.1.deref t.2.pInodeBuf).asInode, t)

/-- `IPUT_UPDATE_MTIME` and `IPUT_UPDATE_CTIME`. -/
structure IPut where
  mtime : Bool
  ctime : Bool

/-- `RedInodePut()`. -/
def redInodePut (bTimeFields : IPut) : RedI Unit := do
  redInodePutCoord
  let pInode ← getCInode
  match pInode.pInodeBuf with
  | some pInodeBuf =>
    .when ((bTimeFields.mtime || bTimeFields.ctime) && pInode.fBranched && pInode.fDirty) do
      let ulNow := (← liftFS .get).now
      modifyInodeBuf fun ino => { ino with
        ulMTime := if bTimeFields.mtime then ulNow else ino.ulMTime
        ulCTime := if bTimeFields.ctime then ulNow else ino.ulCTime }
    liftFS (redBufferPut pInodeBuf)
    modifyCInode fun ci => { ci with pInodeBuf := none }
  | none => pure ()

/-! ## Branching, mounting and freeing -/

/-- `RedInodeBranch()`. -/
def redInodeBranch : RedI Unit := do
  let pInode ← getCInode
  let s ← liftFS .get
  match pInode.pInodeBuf with
  | some pInodeBuf =>
    if !s.inodeIsValid pInode.ulInode then .fail .EINVAL
    else if !pInode.fBranched then
      let ret ← .attempt do
        let bWhich ← liftFS (inodeGetWriteableCopy pInode.ulInode)
        liftFS (redBufferBranch pInodeBuf (s.inodeBlock pInode.ulInode bWhich))
        modifyCInode fun ci => { ci with fBranched := true, fDirty := true }
        liftFS (inodeBitSet pInode.ulInode (!bWhich) false)
        liftFS (inodeBitSet pInode.ulInode bWhich true)
      match ret with
      | .error e =>
        liftFS criticalError
        .fail e
      | .ok () => pure ()
    else
      liftFS (redBufferDirty pInodeBuf)
      modifyCInode fun ci => { ci with fDirty := true }
  | none => .fail .EINVAL

/-- `RedInodeMount()`. -/
def redInodeMount (type : FType) (fBranch : Bool) : RedI Unit := do
  let ulInode := (← getCInode).ulInode
  let s ← liftFS .get
  if !s.inodeIsValid ulInode then .fail .EBADF
  else
    modifyCInode fun _ => { CInode.zero with ulInode := ulInode }
    let ret ← .attempt do
      let bWhich ← liftFS (inodeGetCurrentCopy ulInode)
      let pInodeBuf ← liftFS (redBufferGet (s.inodeBlock ulInode bWhich) .inode false false)
      modifyCInode fun ci => { ci with pInodeBuf := some pInodeBuf }
      let fBranched ← liftFS (inodeIsBranched ulInode)
      modifyCInode fun ci => { ci with fBranched := fBranched }
      let ino ← inodeBuf
      modifyCInode fun ci => { ci with fDirectory := decide (ino.uMode = .dir) }
      .ofExcept (redModeTypeCheck ino.uMode type)
      .when fBranch redInodeBranch
    match ret with
    | .error e =>
      redInodePut ⟨false, false⟩
      .fail e
    | .ok () => pure ()

/-- Free the slot of an inode that is allocated in the working state. -/
def inodeFreeSlot (ulInode : ℕ) : Red Unit := do
  let s ← .get
  let fSlot0Allocated ← redInodeBitGet s.core.bCurMR ulInode false
  let fSlot1Allocated ← redInodeBitGet s.core.bCurMR ulInode true
  if fSlot0Allocated then
    if fSlot1Allocated then
      criticalError
      .fail .EFUBAR
    else inodeBitSet ulInode false false
  else if !fSlot1Allocated then
    criticalError
    .fail .EBADF
  else inodeBitSet ulInode true false

/-- `RedInodeFree()`. -/
def redInodeFree : RedI Unit := do
  let pInode ← getCInode
  let s ← liftFS .get
  match pInode.pInodeBuf with
  | some pInodeBuf =>
    if !s.inodeIsValid pInode.ulInode then .fail .EINVAL
    else
      liftFS (redBufferDiscard pInodeBuf)
      modifyCInode fun ci => { ci with pInodeBuf := none }
      let ret ← .attempt (liftFS (inodeFreeSlot pInode.ulInode))
      modifyCInode fun ci => { ci with ulInode := INODE_INVALID }
      .ofExcept ret
      let s ← liftFS .get
      if s.core.ulInodeCount ≤ s.mr.ulFreeInodes then
        liftFS criticalError
        .fail .EFUBAR
      else
        liftFS (.modify fun s => s.setMR fun mr =>
          { mr with ulFreeInodes := u32 (mr.ulFreeInodes + 1) })
  | none => .fail .EINVAL

end RelianceEdge
