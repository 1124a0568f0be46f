import RelianceEdge.Space.Core
import RelianceEdge.Lib.Op
import RelianceEdge.Volume

set_option relaxedAutoImplicit false
set_option autoImplicit false
set_option linter.unusedSectionVars false

/-!
# Names and orphans of a mounted volume

The operations on names once more, now as they run on a volume: with the lists of orphans that
start in the metaroot, the count of free inodes, the committed state, and with every way in which
they fail. Which change of a directory finds no free blocks is not decided here; an operation gets
that as an argument, a `DirRoom`. A call that succeeds does to the inodes what the function of
`Space` with the same name does (`coreCreate_ends` and the like). The functions of `Core` are the
ones that run on blocks and buffers, for the mounts that must not write; nothing here rests on them.

## Main definitions

* `OrphanSpace` — what one metaroot reaches: inodes and lists of orphans.
* `NameVolume`, `NameDisk` — the working state of a volume, alone and with the committed state.
* `NameVolume.coreCreate`, `NameVolume.coreLink`, `NameVolume.coreUnlink`,
  `NameVolume.coreRename`, `NameVolume.coreFreeOrphan` — operations on names.
* `NameDisk.redVolMount`, `NameDisk.redVolTransact`, `NameDisk.redVolRollback` — what happens to
  the whole volume.
* `Call` — one call of the core, and `Call.exec`, what it does.
-/

namespace RelianceEdge

variable [RedConf]

open RedConf

/-- **What a metaroot reaches**: the inodes in use, `INODE::ulNextOrphan` of them, and the heads
of the lists of orphans. -/
structure OrphanSpace extends Space where
  ulNextOrphan : ℕ → ℕ
  ulOrphanHead : ℕ
  ulOrphanTail : ℕ
  ulDefunctOrphanHead : ℕ
  ulFreeInodes : ℕ

/-- **The working state of a mounted volume.** -/
structure NameVolume extends OrphanSpace where
  fBranched : Bool
  fReadOnly : Bool

/-- **A mounted volume**: the working state, and the one of the last transaction point. -/
structure NameDisk extends NameVolume where
  committed : OrphanSpace

/-- Whether there are free blocks for the entry that is written and for the entry that is
deleted. -/
structure DirRoom where
  fWrite : Bool
  fDelete : Bool

/-- What decides the outcome of a call apart from names and orphans: the room for the call and for
its second attempt, the events in the transaction mask, and the free blocks that `CoreFull()`
sees. -/
structure Circumstances where
  first : DirRoom
  second : DirRoom
  fVolfull : Bool
  fAlmostFree : Bool
  fRecovered : Bool
  fTransact : Bool

/-- An operation on the working state. -/
abbrev NameOp := Op NameVolume RedError

/-- An operation on a mounted volume. -/
abbrev DiskOp := Op NameDisk RedError

/-- A change of a directory that needs blocks: it fails when there are none. -/
def DirRoom.spend {α : Type} (fFits : Bool) (x : Except RedError α) : Except RedError α := do
  let a ← x
  if fFits then .ok a else .error .ENOSPC

namespace NameVolume

variable (s : FS)

/-! ## Inodes -/

/-- Change inodes, which branches the volume. -/
def put (v : NameVolume) (sp : Space) : NameVolume := { v with node := sp.node, fBranched := true }

/-- `CRITICAL_ERROR()`. -/
def criticalError : NameOp Unit := .modify fun v => { v with fReadOnly := true }

/-- `RedInodeBranch()`: the inode has two places, so this does not need a free block. -/
def redInodeBranch : NameOp Unit := .modify fun v => { v with fBranched := true }

/-- `RedInodeMount()` with `FTYPE_ANY`. -/
def redInodeMount (ulInode : ℕ) : NameOp FileNode := do
  let v ← .get
  .ofExcept (v.mount ulInode)

/-- `RedInodeMount()` with `FTYPE_DIR`. -/
def redInodeMountDir (ulInode : ℕ) : NameOp (FileNode × DirData) := do
  let v ← .get
  .ofExcept (v.mountDir ulInode)

/-- `InodeFindFree()`. -/
def inodeFindFree : NameOp ℕ := do
  let v ← .get
  if v.ulFreeInodes = 0 then .fail .ENFILE
  else
    let n := INODE_FIRST_VALID + s.core.ulInodeCount
    match (List.range' INODE_FIRST_FREE (n - INODE_FIRST_FREE)).find?
      fun ulInode => (v.node ulInode).isNone with
    | some ulInode => pure ulInode
    | none => do
      criticalError
      .fail .ENFILE

/-- `RedInodeFree()`. -/
def redInodeFree (ulInode : ℕ) : NameOp Unit := do
  let v ← .get
  match v.node ulInode with
  | none =>
    criticalError
    .fail .EBADF
  | some _ =>
    .modify fun v => v.put (v.set ulInode none)
    if s.core.ulInodeCount ≤ v.ulFreeInodes then
      criticalError
      .fail .EFUBAR
    else .modify fun v => { v with ulFreeInodes := v.ulFreeInodes + 1 }

/-- `RedInodeFreeOrphan()`, with `InodeDelete()`: nothing is left of the data. -/
def redInodeFreeOrphan (ulInode : ℕ) (ino : FileNode) : NameOp Unit :=
  if ino.uNLink ≠ 0 ∨ ino.ulPInode ≠ INODE_INVALID then do
    criticalError
    .fail .EFUBAR
  else redInodeFree s ulInode

/-- The part of `RedInodeLinkDec()` that makes an inode an orphan: it becomes the head of the
list. -/
def pushOrphan (ulInode : ℕ) : NameOp Unit := .modify fun v =>
  { v.put (v.modify ulInode fun ino => { ino with uNLink := 0, ulPInode := INODE_INVALID }) with
    ulNextOrphan := Function.update v.ulNextOrphan ulInode v.ulOrphanHead
    ulOrphanTail := if v.ulOrphanTail = INODE_INVALID then ulInode else v.ulOrphanTail
    ulOrphanHead := ulInode }

/-- `RedInodeLinkDec()`, with `InodeDelete()`. -/
def redInodeLinkDec (ulInode : ℕ) (fOrphan : Bool) : NameOp Unit := do
  let ino ← redInodeMount ulInode
  if 1 < ino.uNLink then
    .modify fun v => v.put (v.modify ulInode fun ino => { ino with uNLink := ino.uNLink - 1 })
  else if deleteOpen && fOrphan then pushOrphan ulInode
  else redInodeFree s ulInode

/-! ## Defunct orphans -/

/-- One round of `RedVolFreeOrphans()`: free the first defunct orphan. -/
def freeFirstOrphan : NameOp Unit := do
  let v ← .get
  let ino ← redInodeMount v.ulDefunctOrphanHead
  redInodeFreeOrphan s v.ulDefunctOrphanHead ino
  .modify fun w => { w with ulDefunctOrphanHead := v.ulNextOrphan v.ulDefunctOrphanHead }

/-- The loop of `RedVolFreeOrphans()`. -/
def freeOrphansLoop : ℕ → NameOp Unit
  | 0 => pure ()
  | n + 1 => do
    freeFirstOrphan s
    freeOrphansLoop n

/-- The end of `RedVolFreeOrphans()`: `-RED_EBADF` is the end of the list. -/
def freeOrphansEnd : Except RedError Unit → NameOp Unit
  | .ok () => pure ()
  | .error e => do
    let v ← .get
    if e ≠ .EBADF then .fail e
    else if v.ulDefunctOrphanHead ≠ INODE_INVALID then
      criticalError
      .fail .EFUBAR

/-- `RedVolFreeOrphans()`. -/
def redVolFreeOrphans (ulCount : ℕ) : NameOp Unit := do
  if ulCount = 0 then .fail .EINVAL
  else
    let ret ← .attempt (freeOrphansLoop s ulCount)
    freeOrphansEnd ret

/-- `RedCoreVolFreeOrphans()`. -/
def redCoreVolFreeOrphans (ulCount : ℕ) : NameOp Unit := do
  let v ← .get
  if ulCount = 0 then .fail .EINVAL
  else if v.fReadOnly then .fail .EROFS
  else if v.ulDefunctOrphanHead = INODE_INVALID then .fail .ENOENT
  else
    redVolFreeOrphans s ulCount
    let v ← .get
    .when (v.ulDefunctOrphanHead = INODE_INVALID) (.fail .ENOENT)

/-! ## Creating, linking and unlinking -/

/-- The inode number for `RedInodeCreate()`: when no inode is free, that of a defunct orphan. -/
def inodeCreateNumber : NameOp ℕ := do
  let ret ← .attempt (inodeFindFree s)
  match ret with
  | .ok ulInode => pure ulInode
  | .error e =>
    let v ← .get
    if deleteOpen ∧ e = .ENFILE ∧ v.ulDefunctOrphanHead ≠ INODE_INVALID then
      redVolFreeOrphans s 1
      pure v.ulDefunctOrphanHead
    else .fail e

/-- `RedInodeCreate()` of an inode in a directory. -/
def redInodeCreate (ulPInode : ℕ) (uMode : Mode) : NameOp ℕ := do
  if !uMode.canCreate then .fail .EINVAL
  else
    let ulInode ← inodeCreateNumber s
    .modify fun v => { v.put (v.set ulInode (some ⟨1, ulPInode, .new uMode⟩)) with
      ulNextOrphan := Function.update v.ulNextOrphan ulInode 0
      ulFreeInodes := v.ulFreeInodes - 1 }
    pure ulInode

/-- `RedDirEntryCreate()` in a mounted directory. -/
def redDirEntryCreate (room : DirRoom) (ulPInode : ℕ) (pszName : CString) (ulInode : ℕ) :
    NameOp Unit := do
  let (_, d) ← redInodeMountDir ulPInode
  let d ← .ofExcept (DirRoom.spend room.fWrite (d.redDirEntryCreate s pszName ulInode))
  .modify fun v => v.put (v.setDir ulPInode d)

/-- `CoreCreate()`. -/
def coreCreate (room : DirRoom) (ulPInode : ℕ) (pszName : CString) (uMode : Mode) : NameOp ℕ := do
  let _ ← redInodeMountDir ulPInode
  let ulInode ← redInodeCreate s ulPInode uMode
  let ret ← .attempt (redDirEntryCreate s room ulPInode pszName ulInode)
  match ret with
  | .ok () => pure ulInode
  | .error e => do
    let ret2 ← .attempt (redInodeFree s ulInode)
    match ret2 with
    | .ok () => .fail e
    | .error _ =>
      criticalError
      .fail e

/-- `CoreLink()`. -/
def coreLink (room : DirRoom) (ulPInode : ℕ) (pszName : CString) (ulInode : ℕ) : NameOp Unit := do
  let _ ← redInodeMountDir ulPInode
  redInodeBranch
  let ino ← redInodeMount ulInode
  if ino.data.fDirectory then .fail .EPERM
  else if ino.uNLink = UINT16_MAX then .fail .EMLINK
  else
    redDirEntryCreate s room ulPInode pszName ulInode
    .modify fun v => v.put (v.modify ulInode fun ino => { ino with uNLink := ino.uNLink + 1 })

/-- `CoreUnlink()`. -/
def coreUnlink (room : DirRoom) (ulPInode : ℕ) (pszName : CString) (fOrphan : Bool) :
    NameOp Unit := do
  if !deleteOpen && fOrphan then .fail .EINVAL
  else
    let (_, d) ← redInodeMountDir ulPInode
    let (found, ulDeleteIdx) ← .ofExcept (d.redDirEntryLookup s pszName)
    match found with
    | none => .fail .ENOENT
    | some de =>
      redInodeBranch
      let ino ← redInodeMount de.ulInode
      if !Space.mayRemove ino then .fail .ENOTEMPTY
      else
        let d ← .ofExcept (DirRoom.spend room.fDelete (d.redDirEntryDelete s ulDeleteIdx))
        .modify fun v => v.put (v.setDir ulPInode d)
        redInodeLinkDec s de.ulInode fOrphan

/-! ## Renaming -/

/-- The revert of `RedDirEntryRename()`: give the destination entry its previous value. The block
that holds it has been branched for the entry that is reverted. -/
def revertEntry (ulDstPInode ulDstIdx : ℕ) (de : Dirent) (dst : Option Dirent) : NameOp Unit := do
  let (_, dDst) ← redInodeMountDir ulDstPInode
  let ret :=
    match dst with
    | some dst => dDst.dirEntryWrite s ulDstIdx (some { de with ulInode := dst.ulInode })
    | none => dDst.redDirEntryDelete s ulDstIdx
  match ret with
  | .ok dDst => .modify fun v => v.put (v.setDir ulDstPInode dDst)
  | .error e =>
    criticalError
    .fail e

/-- The part of `RedDirEntryRename()` that writes the destination entry and deletes the source
entry. The parents may be one directory. -/
def dirEntryMove (room : DirRoom) (ulSrcPInode ulSrcIdx ulDstPInode ulDstIdx : ℕ) (de : Dirent)
    (dst : Option Dirent) : NameOp Unit := do
  let (_, dDst) ← redInodeMountDir ulDstPInode
  let dDst ← .ofExcept (DirRoom.spend room.fWrite (dDst.dirEntryWrite s ulDstIdx (some de)))
  .modify fun v => v.put (v.setDir ulDstPInode dDst)
  let (_, dSrc) ← redInodeMountDir ulSrcPInode
  match DirRoom.spend room.fDelete (dSrc.redDirEntryDelete s ulSrcIdx) with
  | .ok dSrc =>
    .modify fun v => v.put (v.setDir ulSrcPInode dSrc)
    .modify fun v => v.put (v.modify de.ulInode fun ino => { ino with ulPInode := ulDstPInode })
  | .error e => do
    .when (e = .ENOSPC) (revertEntry s ulDstPInode ulDstIdx de dst)
    .fail e

/-- The part of `RedDirEntryRename()` after the lookups, for the source entry and the entry in its
place, if there is one. -/
def dirEntryRename (room : DirRoom) (ulSrcPInode ulSrcIdx ulSrcInode ulDstPInode ulDstIdx : ℕ)
    (dst : Option Dirent) (pszDstName : CString) : NameOp Unit := do
  let v ← .get
  let srcIno ← redInodeMount ulSrcInode
  .ofExcept (match dst with
    | some dst => v.mountReplaced srcIno.data.fDirectory dst.ulInode
    | none => pure ())
  .ofExcept (if srcIno.data.fDirectory then v.dirCyclicRenameCheck s ulSrcInode ulDstPInode
    else pure ())
  let de ← .ofExcept (DirData.newDirent pszDstName ulSrcInode)
  dirEntryMove s room ulSrcPInode ulSrcIdx ulDstPInode ulDstIdx de dst

/-- `RedDirEntryRename()`: the inode that lost its name to the source, if there is one. -/
def redDirEntryRename (room : DirRoom) (ulSrcPInode : ℕ) (pszSrcName : CString) (ulDstPInode : ℕ)
    (pszDstName : CString) : NameOp (Option ℕ) := do
  let (_, dSrc) ← redInodeMountDir ulSrcPInode
  let (_, dDst) ← redInodeMountDir ulDstPInode
  if isDotOrDotDot pszDstName (redNameLen pszDstName) then .fail .EINVAL
  else
    let (src, ulSrcIdx) ← .ofExcept (dSrc.redDirEntryLookup s pszSrcName)
    match src with
    | none => .fail .ENOENT
    | some src =>
      let (dst, ulDstIdx) ← .ofExcept (dDst.redDirEntryLookup s pszDstName)
      match dst with
      | none =>
        if ulDstIdx = DIR_INDEX_INVALID then .fail .ENOSPC
        else
          dirEntryRename s room ulSrcPInode ulSrcIdx src.ulInode ulDstPInode ulDstIdx none
            pszDstName
          pure none
      | some dst =>
        -- two names of one inode are both kept
        if src.ulInode = dst.ulInode then pure none
        else
          dirEntryRename s room ulSrcPInode ulSrcIdx src.ulInode ulDstPInode ulDstIdx (some dst)
            pszDstName
          pure (some dst.ulInode)

/-- `CoreRename()`. -/
def coreRename (room : DirRoom) (ulSrcPInode : ℕ) (pszSrcName : CString) (ulDstPInode : ℕ)
    (pszDstName : CString) (fOrphan : Bool) : NameOp Unit := do
  if !deleteOpen && fOrphan then .fail .EINVAL
  else
    let _ ← redInodeMountDir ulSrcPInode
    redInodeBranch
    let _ ← redInodeMountDir ulDstPInode
    let replaced ← redDirEntryRename s room ulSrcPInode pszSrcName ulDstPInode pszDstName
    match replaced with
    | none => pure ()
    | some ulDstInode => redInodeLinkDec s ulDstInode fOrphan

/-! ## Freeing an orphan -/

/-- The search of `RedCoreFreeOrphan()` along the list of orphans, for at most `fuel` steps: the
inode before the requested one. -/
def findOrphanLoop (v : NameVolume) (ulInode : ℕ) : ℕ → ℕ → ℕ → Except RedError ℕ
  | 0, ulPrevInode, ulCurInode =>
    if ulCurInode = ulInode then .ok ulPrevInode else .error .outOfFuel
  | fuel + 1, ulPrevInode, ulCurInode => do
    if ulCurInode = ulInode then .ok ulPrevInode
    else
      let _ ← v.mount (v.ulNextOrphan ulCurInode)
      findOrphanLoop v ulInode fuel ulCurInode (v.ulNextOrphan ulCurInode)

/-- Take the requested inode, already deleted, out of the list of orphans: it was the first one,
or the one before it is changed. -/
def unlinkOrphan (ulInode ulPrevInode ulNextInode : ℕ) : NameOp Unit := .modify fun v => { v with
  ulOrphanHead := if v.ulOrphanHead = ulInode then ulNextInode else v.ulOrphanHead
  ulNextOrphan :=
    if v.ulOrphanHead = ulInode then v.ulNextOrphan
    else Function.update v.ulNextOrphan ulPrevInode ulNextInode
  ulOrphanTail := if ulInode = v.ulOrphanTail then ulPrevInode else v.ulOrphanTail
  fBranched := true }

/-- `RedCoreFreeOrphan()` on a volume that is not read-only. -/
def coreFreeOrphan (ulInode : ℕ) : NameOp Unit := do
  let v ← .get
  let _ ← redInodeMount v.ulOrphanHead
  let ulPrevInode ←
    .ofExcept (findOrphanLoop v ulInode s.core.ulInodeCount INODE_INVALID v.ulOrphanHead)
  let ino ← redInodeMount ulInode
  redInodeFreeOrphan s ulInode ino
  unlinkOrphan ulInode ulPrevInode (v.ulNextOrphan ulInode)

/-- A change of the data of a file or a symbolic link. -/
def coreFileData (ulInode : ℕ) (data : List UInt8) : NameOp Unit := do
  let ino ← redInodeMount ulInode
  match ino.data with
  | .dir _ => .fail .EISDIR
  | .reg _ => .modify fun v => v.put (v.modify ulInode fun ino => { ino with data := .reg data })
  | .lnk _ => .modify fun v => v.put (v.modify ulInode fun ino => { ino with data := .lnk data })

/-! ## Mounting -/

/-- The orphans of the list become defunct. -/
def retireOrphans : NameOp Unit := .modify fun v => { v with
  ulDefunctOrphanHead := v.ulOrphanHead
  ulOrphanHead := INODE_INVALID
  ulOrphanTail := INODE_INVALID }

/-- `ConcatOrphanLists()`. -/
def concatOrphanLists : NameOp Unit := do
  let v ← .get
  let _ ← redInodeMount v.ulOrphanTail
  redInodeBranch
  if v.ulNextOrphan v.ulOrphanTail ≠ INODE_INVALID then
    criticalError
    .fail .EFUBAR
  else .modify fun v => { v with
    ulNextOrphan := Function.update v.ulNextOrphan v.ulOrphanTail v.ulDefunctOrphanHead
    ulDefunctOrphanHead := v.ulOrphanHead
    ulOrphanHead := INODE_INVALID
    ulOrphanTail := INODE_INVALID }

/-- The orphans at the end of `RedVolMount()`. -/
def mountOrphans (ulFlags : MountFlags) : NameOp Unit := do
  let v ← .get
  if !ulFlags.fSkipDelete then
    redVolFreeOrphans s UINT32_MAX
    retireOrphans
    redVolFreeOrphans s UINT32_MAX
  else if v.ulDefunctOrphanHead = INODE_INVALID then retireOrphans
  else if v.ulOrphanHead ≠ INODE_INVALID then concatOrphanLists

end NameVolume

namespace NameDisk

variable (s : FS)

/-! ## The committed state -/

/-- Run an operation on the working state. -/
def onWorking {α : Type} (x : NameOp α) : DiskOp α :=
  .zoom NameDisk.toNameVolume (fun d v => { d with toNameVolume := v }) x

/-- `RedVolTransact()`. -/
def redVolTransact : DiskOp Unit := .modify fun d =>
  if d.fBranched then { d with committed := d.toOrphanSpace, fBranched := false } else d

/-- `RedVolMountMetaroot()`: the committed state becomes the working state. -/
def redVolMountMetaroot : DiskOp Unit := .modify fun d => { d with toOrphanSpace := d.committed }

/-- `RedVolRollback()`. -/
def redVolRollback : DiskOp Unit := do
  let d ← .get
  .when d.fBranched do
    redVolMountMetaroot
    .modify fun d => { d with fBranched := false }

/-- `RedVolMount()`, as far as the inodes go. -/
def redVolMount (ulFlags : MountFlags) : DiskOp Unit := do
  .modify fun d => { d with fReadOnly := ulFlags.fReadOnly }
  redVolMountMetaroot
  .when deleteOpen (onWorking (NameVolume.mountOrphans s ulFlags))

/-- `RedCoreVolUnmount()`, with `RED_TRANSACT_UMOUNT` in the transaction mask or without it. -/
def redCoreVolUnmount (fTransact : Bool) : DiskOp Unit := do
  let d ← .get
  .when (!d.fReadOnly && fTransact) redVolTransact

/-- The power fails: the driver starts anew. -/
def powerLoss : DiskOp Unit := .modify fun d => { d with fBranched := false }

/-! ## Calls -/

/-- `CoreFull()`. -/
def coreFull (c : Circumstances) : DiskOp Unit := do
  let d ← .get
  if c.fVolfull then
    .when (deleteOpen ∧ d.ulDefunctOrphanHead ≠ INODE_INVALID)
      (onWorking (NameVolume.redVolFreeOrphans s UINT32_MAX))
    .when c.fAlmostFree redVolTransact
    .when (!c.fRecovered) (.fail .ENOSPC)
  else .fail .ENOSPC

/-- The check that opens the functions which need a writeable volume. -/
def whenWriteable {α : Type} (x : DiskOp α) : DiskOp α := do
  let d ← .get
  if d.fReadOnly then .fail .EROFS else x

/-- The second attempt, when the disk was full in the first one. -/
def coreAgain {α : Type} (c : Circumstances) (op : DirRoom → NameOp α) :
    Except RedError α → DiskOp α
  | .ok a => pure a
  | .error e => do
    if e ≠ .ENOSPC then .fail e
    else
      NameDisk.coreFull s c
      onWorking (op c.second)

/-- Run an operation of a writeable volume. When the disk is full, make room and run it again.
After success, commit if the event is in the transaction mask. -/
def coreRetry {α : Type} (c : Circumstances) (op : DirRoom → NameOp α) : DiskOp α :=
  whenWriteable do
    let ret ← .attempt (onWorking (op c.first))
    let a ← coreAgain s c op ret
    .when c.fTransact redVolTransact
    pure a

end NameDisk

/-- **A call of the core** that has to do with names or orphans. -/
inductive Call
  | create (c : Circumstances) (ulPInode : ℕ) (pszName : CString) (uMode : Mode)
  | link (c : Circumstances) (ulPInode : ℕ) (pszName : CString) (ulInode : ℕ)
  | unlink (c : Circumstances) (ulPInode : ℕ) (pszName : CString) (fOrphan : Bool)
  | rename (c : Circumstances) (ulSrcPInode : ℕ) (pszSrcName : CString) (ulDstPInode : ℕ)
      (pszDstName : CString) (fOrphan : Bool)
  | freeOrphan (ulInode : ℕ)
  | freeOrphans (ulCount : ℕ)
  | fileData (ulInode : ℕ) (data : List UInt8)
  | transact
  | rollback
  | remount (fTransact : Bool) (ulFlags : MountFlags)
  | powerLoss (ulFlags : MountFlags)

/-- The call without its results. -/
def Call.exec (s : FS) : Call → DiskOp Unit
  | .create c ulPInode pszName uMode => do
    let _ ← NameDisk.coreRetry s c fun room => NameVolume.coreCreate s room ulPInode pszName uMode
  | .link c ulPInode pszName ulInode =>
    NameDisk.coreRetry s c fun room => NameVolume.coreLink s room ulPInode pszName ulInode
  | .unlink c ulPInode pszName fOrphan =>
    NameDisk.coreRetry s c fun room => NameVolume.coreUnlink s room ulPInode pszName fOrphan
  | .rename c ulSrcPInode pszSrcName ulDstPInode pszDstName fOrphan =>
    NameDisk.coreRetry s c fun room =>
      NameVolume.coreRename s room ulSrcPInode pszSrcName ulDstPInode pszDstName fOrphan
  | .freeOrphan ulInode =>
    .when deleteOpen
      (NameDisk.whenWriteable (NameDisk.onWorking (NameVolume.coreFreeOrphan s ulInode)))
  | .freeOrphans ulCount =>
    .when deleteOpen (NameDisk.onWorking (NameVolume.redCoreVolFreeOrphans s ulCount))
  | .fileData ulInode data =>
    NameDisk.whenWriteable (NameDisk.onWorking (NameVolume.coreFileData ulInode data))
  | .transact => NameDisk.whenWriteable NameDisk.redVolTransact
  | .rollback => NameDisk.whenWriteable NameDisk.redVolRollback
  | .remount fTransact ulFlags => do
    NameDisk.redCoreVolUnmount fTransact
    NameDisk.redVolMount s ulFlags
  | .powerLoss ulFlags => do
    NameDisk.powerLoss
    NameDisk.redVolMount s ulFlags

/-- The state a call leaves, whether it succeeds or fails. -/
def Call.run (s : FS) (call : Call) (d : NameDisk) : NameDisk := (call.exec s d).2

end RelianceEdge
