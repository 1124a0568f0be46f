import RelianceEdge.InodeTrunc

set_option relaxedAutoImplicit false
set_option autoImplicit false

/-!
# Creating, unlinking and deleting inodes

The part of `inode.c` that gives an inode its number and takes it away, with the orphan lists of
`volume.c`.

## Main definitions

* `redInodeCreate` — allocate an inode.
* `redInodeLinkDec` — drop a link: decrement, orphan, or delete.
* `redVolFreeOrphans` — free the inodes orphaned before the last mount.
-/

namespace RelianceEdge

variable [RedConf]

open RedConf

/-- Run an operation on a local cached inode that starts out with the given inode number. -/
def withCInode {α : Type} (ulInode : ℕ) (x : RedI α) : Red α := fun s =>
  let r := x (s, { CInode.zero with ulInode := ulInode })
  (r.1, r.2.1)

/-! ## Deleting -/

/-- `InodeDelete()`. -/
def inodeDelete : RedI Unit := do
  let pInode ← getCInode
  let s ← liftFS .get
  if !s.cinodeIsMounted pInode then .fail .EINVAL
  else
    .when ((← inodeBuf).ullSize ≠ 0) (redInodeDataTruncate 0)
    redInodeFree

/-- `RedInodeFreeOrphan()`. -/
def redInodeFreeOrphan : RedI Unit := do
  let pInode ← getCInode
  let s ← liftFS .get
  let ino ← inodeBuf
  if !s.cinodeIsMounted pInode then .fail .EINVAL
  else if ino.uNLink ≠ 0 ∨ ino.ulPInode ≠ INODE_INVALID then
    liftFS criticalError
    .fail .EFUBAR
  else inodeDelete

/-- `RedInodeLinkDec()`. -/
def redInodeLinkDec (fOrphan : Bool) : RedI Unit := do
  let pInode ← getCInode
  let s ← liftFS .get
  let ino ← inodeBuf
  if !s.cinodeIsMounted pInode then .fail .EINVAL
  else if 1 < ino.uNLink then
    redInodeBranch
    modifyInodeBuf fun ino => { ino with uNLink := ino.uNLink - 1 }
  else if deleteOpen && fOrphan then
    redInodeBranch
    let mr := (← liftFS .get).mr
    modifyInodeBuf fun ino => { ino with
      uNLink := 0
      ulPInode := INODE_INVALID
      ulNextOrphan := mr.ulOrphanHead }
    liftFS (.modify fun s => s.setMR fun mr => { mr with
      ulOrphanTail :=
        if mr.ulOrphanTail = INODE_INVALID then pInode.ulInode else mr.ulOrphanTail
      ulOrphanHead := pInode.ulInode })
  else inodeDelete

/-! ## Orphans -/

/-- One round of `RedVolFreeOrphans()`: free the first defunct orphan. -/
def freeFirstOrphan : Red Unit := do
  let s ← .get
  let ulNextInode ← withCInode s.mr.ulDefunctOrphanHead do
    redInodeMount FTYPE_ANY false
    let ulNextInode := (← inodeBuf).ulNextOrphan
    redInodeFreeOrphan
    pure ulNextInode
  .modify fun s => s.setMR fun mr => { mr with ulDefunctOrphanHead := ulNextInode }

/-- The loop of `RedVolFreeOrphans()`. -/
def freeOrphansLoop : ℕ → Red Unit
  | 0 => pure ()
  | n + 1 => do
    freeFirstOrphan
    freeOrphansLoop n

/-- `RedVolFreeOrphans()`. -/
def redVolFreeOrphans (ulCount : ℕ) : Red Unit := do
  if ulCount = 0 then .fail .EINVAL
  else
    match ← .attempt (freeOrphansLoop ulCount) with
    | .ok () => pure ()
    | .error e =>
      let s ← .get
      if e ≠ .EBADF then .fail e
      else if s.mr.ulDefunctOrphanHead ≠ INODE_INVALID then
        criticalError
        .fail .EFUBAR

/-- `ConcatOrphanLists()`. -/
def concatOrphanLists : Red Unit := do
  let s ← .get
  withCInode s.mr.ulOrphanTail do
    redInodeMount FTYPE_ANY true
    let ret ← .attempt do
      if (← inodeBuf).ulNextOrphan ≠ INODE_INVALID then
        liftFS criticalError
        .fail .EFUBAR
      else
        let mr := (← liftFS .get).mr
        modifyInodeBuf fun ino => { ino with ulNextOrphan := mr.ulDefunctOrphanHead }
        liftFS (.modify fun s => s.setMR fun mr => { mr with
          ulDefunctOrphanHead := mr.ulOrphanHead
          ulOrphanHead := INODE_INVALID
          ulOrphanTail := INODE_INVALID })
    redInodePut ⟨false, false⟩
    .ofExcept ret

/-! ## Creating -/

/-- The inode number for `RedInodeCreate()`: the requested one if it is free, or a free one, for
which a defunct orphan may be freed. -/
def inodeCreateNumber (ulInode : ℕ) : Red ℕ := do
  let s ← .get
  if ulInode = INODE_INVALID then
    match ← .attempt inodeFindFree with
    | .ok ulInode => pure ulInode
    | .error e =>
      let s ← .get
      let ulInode := s.mr.ulDefunctOrphanHead
      if deleteOpen ∧ e = .ENFILE ∧ ulInode ≠ INODE_INVALID then
        redVolFreeOrphans 1
        pure ulInode
      else .fail e
  else if s.inodeIsValid ulInode then
    if ← redInodeIsFree ulInode then pure ulInode else .fail .EEXIST
  else .fail .EBADF

/-- Whether an inode of the mode can be created. -/
def Mode.canCreate : Mode → Bool
  | .reg | .dir => true
  | .lnk => deleteOpen
  | .invalid => false

/-- `RedInodeCreate()`; there is no parent inode when the root directory is created. -/
def redInodeCreate (pPInode : Option CInode) (uMode : Mode) : RedI Unit := do
  let ulInode := (← getCInode).ulInode
  let s ← liftFS .get
  let fParentIsValid :=
    match pPInode with
    | some pPInode => s.cinodeIsMounted pPInode
    | none => ulInode == INODE_ROOTDIR
  if !fParentIsValid || !uMode.canCreate then .fail .EINVAL
  else
    modifyCInode fun _ => .zero
    let ulInode ← liftFS (inodeCreateNumber ulInode)
    modifyCInode fun ci => { ci with ulInode := ulInode }
    let bWriteableWhich ← liftFS (inodeGetWriteableCopy ulInode)
    let s ← liftFS .get
    let pInodeBuf ←
      liftFS (redBufferGet (s.inodeBlock ulInode bWriteableWhich) .inode true true)
    modifyCInode fun ci => { ci with pInodeBuf := some pInodeBuf }
    match ← .attempt (liftFS (inodeBitSet ulInode bWriteableWhich true)) with
    | .error e =>
      liftFS (redBufferPut pInodeBuf)
      .fail e
    | .ok () =>
      let ulNow := (← liftFS .get).now
      modifyInodeBuf fun ino => { ino with
        ulATime := ulNow
        ulMTime := ulNow
        ulCTime := ulNow
        uNLink := 1
        ulPInode := match pPInode with
          | some pPInode => pPInode.ulInode
          | none => INODE_INVALID
        uMode := uMode }
      modifyCInode fun ci => { ci with
        fDirectory := decide (uMode = .dir)
        fBranched := true
        fDirty := true }
      liftFS (.modify fun s =>
        s.setMR fun mr => { mr with ulFreeInodes := u32 (mr.ulFreeInodes - 1) })

end RelianceEdge
