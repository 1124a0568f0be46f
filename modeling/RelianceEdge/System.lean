import RelianceEdge.Core
import RelianceEdge.Format

set_option relaxedAutoImplicit false
set_option autoImplicit false

/-!
# The driver as a state machine

The rest of `core.c`, and every call of the core's interface as one step of a state machine.

## Main definitions

* `redCoreInit` — the state of a freshly initialized driver.
* `CoreOp` — a call of the core, with its arguments.
* `CoreOp.run` — the state the call leaves.
* `Run` — the states a sequence of calls goes through.
-/

namespace RelianceEdge

variable [RedConf]

open RedConf

/-! ## Volume functions -/

/-- `RedCoreInit()`: everything is zeroed, the buffers are empty. -/
def redCoreInit (ulTransMask : ℕ) (s : FS) : FS :=
  let s : FS := { s with
    vol := ⟨false, false, ulTransMask, 0, 0, 0⟩
    core := ⟨0, false, 0, 0, 0, 0, 0, fun _ => .zero, false, false, 0, false, 0, 0, false⟩ }
  (redBufferInit s).2

/-- `RedCoreVolUnmount()`. -/
def redCoreVolUnmount : Red Unit := do
  let s ← .get
  .when (!s.vol.fReadOnly && s.transMaskHas RED_TRANSACT_UMOUNT) redVolTransact
  let s ← .get
  redBufferDiscardRange 0 s.vol.ulBlockCount
  .modify fun s => { s with vol := { s.vol with fMounted := false } }

/-- The check that opens the functions which need a mounted writeable volume. -/
def whenWriteable {α : Type} (x : Red α) : Red α := do
  let s ← .get
  if !s.vol.fMounted then .fail .EINVAL
  else if s.vol.fReadOnly then .fail .EROFS
  else x

/-- The check that opens the functions which need a mounted volume. -/
def whenMounted {α : Type} (x : Red α) : Red α := do
  let s ← .get
  if !s.vol.fMounted then .fail .EINVAL else x

/-- `RedCoreVolTransact()`. -/
def redCoreVolTransact : Red Unit := whenWriteable redVolTransact

/-- `RedCoreVolRollback()`. -/
def redCoreVolRollback : Red Unit := whenWriteable redVolRollback

/-- `RedCoreTransMaskSet()`. -/
def redCoreTransMaskSet (ulEventMask : ℕ) : Red Unit := do
  let s ← .get
  if !s.vol.fMounted ∨ ulEventMask &&& RED_TRANSACT_MASK ≠ ulEventMask then .fail .EINVAL
  else if s.vol.fReadOnly then .fail .EROFS
  else .modify fun s => { s with vol := { s.vol with ulTransMask := ulEventMask } }

/-- `RedCoreVolFreeOrphans()`. -/
def redCoreVolFreeOrphans (ulCount : ℕ) : Red Unit := do
  let s ← .get
  if !s.vol.fMounted ∨ ulCount = 0 then .fail .EINVAL
  else if s.vol.fReadOnly then .fail .EROFS
  else if s.mr.ulDefunctOrphanHead = INODE_INVALID then .fail .ENOENT
  else
    redVolFreeOrphans ulCount
    let s ← .get
    .when (s.mr.ulDefunctOrphanHead = INODE_INVALID) (.fail .ENOENT)

/-! ## Orphans -/

/-- The search of `RedCoreFreeOrphan()` along the list of orphans, for at most `fuel` steps:
`ino` ends at the requested inode, `prevIno` at the one before it. -/
def findOrphanLoop (ulInode : ℕ) : ℕ → RedC Unit
  | 0 => do
    let ino ← cinode .ino
    if ino.ulInode = ulInode then pure () else .fail .outOfFuel
  | fuel + 1 => do
    let ino ← cinode .ino
    if ino.ulInode = ulInode then pure ()
    else
      .when ((← cinode .prevIno).ulInode ≠ INODE_INVALID) do
        on .prevIno (redInodePut ⟨false, false⟩)
      modifyCinode .prevIno fun _ => ino
      let ulNextOrphan := (← on .prevIno inodeBuf).ulNextOrphan
      setInode .ino ulNextOrphan
      on .ino (redInodeMount FTYPE_ANY false)
      findOrphanLoop ulInode fuel

/-- Take the requested inode, already deleted, out of the list of orphans. -/
def unlinkOrphan (ulInode ulNextInode : ℕ) : RedC Unit := do
  let s ← liftC .get
  if s.mr.ulOrphanHead = ulInode then
    liftC (.modify fun s => s.setMR fun mr => { mr with ulOrphanHead := ulNextInode })
  else
    let ret ← .attempt do
      let ret ← .attempt (on .prevIno redInodeBranch)
      criticalAssertOk ret
      .ofExcept ret
      on .prevIno (modifyInodeBuf fun ino => { ino with ulNextOrphan := ulNextInode })
    on .prevIno (redInodePut ⟨false, false⟩)
    .ofExcept ret
  let s ← liftC .get
  .when (ulInode = s.mr.ulOrphanTail) do
    let ulPrevInode := (← cinode .prevIno).ulInode
    liftC (.modify fun s => s.setMR fun mr => { mr with ulOrphanTail := ulPrevInode })

/-- `RedCoreFreeOrphan()`. -/
def redCoreFreeOrphan (ulInode : ℕ) : Red Unit :=
  whenWriteable do
    let s ← .get
    withCInodes do
      setInode .ino s.mr.ulOrphanHead
      on .ino (redInodeMount FTYPE_ANY false)
      findOrphanLoop ulInode s.core.ulInodeCount
      let ulNextInode := (← on .ino inodeBuf).ulNextOrphan
      on .ino redInodeFreeOrphan
      unlinkOrphan ulInode ulNextInode

/-! ## Names, attributes and data -/

/-- `RedCoreLookup()`. -/
def redCoreLookup (ulPInode : ℕ) (pszName : CString) : Red ℕ :=
  whenMounted do
    withInode ulPInode FTYPE_DIR false iputNone do
      let lookup ← redDirEntryLookup pszName
      if lookup.fFound then pure (lookup.ulInode.getD INODE_INVALID) else .fail .ENOENT

/-- `RedCoreStat()`: the inode without its pointers. -/
def redCoreStat (ulInode : ℕ) : Red Inode :=
  whenMounted do
    withInode ulInode FTYPE_ANY false iputNone do
      let ino ← inodeBuf
      pure { ino with aulEntries := fun _ => 0 }

/-- `RedCoreUTimes()`; without times, the current time. -/
def redCoreUTimes (ulInode : ℕ) (pulTimes : Option (ℕ × ℕ)) : Red Unit :=
  whenWriteable do
    withInode ulInode FTYPE_ANY false iputC do
      redInodeBranch
      let ulNow := (← liftFS .get).now
      modifyInodeBuf fun ino => { ino with
        ulATime := (pulTimes.getD (ulNow, ulNow)).1
        ulMTime := (pulTimes.getD (ulNow, ulNow)).2 }

/-- `RedCoreFileRead()`. -/
def redCoreFileRead (ulInode ullStart ulLen : ℕ) : Red (ℕ × (ℕ → UInt8)) :=
  whenMounted do
    withInode ulInode FTYPE_NOTDIR false iputNone (redInodeDataRead ullStart ulLen)

/-- `RedCoreFileUnreserve()`. -/
def redCoreFileUnreserve (ulInode ullOffset : ℕ) : Red Unit :=
  whenWriteable do
    withInode ulInode FTYPE_FILE false iputNone (redInodeDataUnreserve ullOffset)

/-- `RedCoreDirRead()`. -/
def redCoreDirRead (ulInode ulPos : ℕ) : Red (ℕ × Option (CString × ℕ)) :=
  whenMounted do
    withInode ulInode FTYPE_DIR false iputNone (redDirEntryRead ulPos)

/-- `RedCoreDirParent()`. -/
def redCoreDirParent (ulInode : ℕ) : Red ℕ :=
  whenMounted do
    if ulInode = INODE_ROOTDIR then pure INODE_INVALID
    else
      withInode ulInode FTYPE_DIR false iputNone do
        let ino ← inodeBuf
        if deleteOpen ∧ ino.ulPInode = INODE_INVALID then .fail .ENOENT
        else pure ino.ulPInode

/-! ## The state machine -/

/-- A call of the core, or the passing of time. -/
inductive CoreOp
  | format (opts : RedFmtOpt)
  | mount (ulFlags : MountFlags)
  | unmount
  | transact
  | rollback
  | transMaskSet (ulEventMask : ℕ)
  | freeOrphans (ulCount : ℕ)
  | freeOrphan (ulInode : ℕ)
  | create (ulPInode : ℕ) (pszName : CString) (uMode : Mode)
  | link (ulPInode : ℕ) (pszName : CString) (ulInode : ℕ)
  | unlink (ulPInode : ℕ) (pszName : CString) (fOrphan : Bool)
  | rename (ulSrcPInode : ℕ) (pszSrcName : CString) (ulDstPInode : ℕ) (pszDstName : CString)
      (fOrphan : Bool)
  | lookup (ulPInode : ℕ) (pszName : CString)
  | stat (ulInode : ℕ)
  | uTimes (ulInode : ℕ) (pulTimes : Option (ℕ × ℕ))
  | fileRead (ulInode ullStart ulLen : ℕ)
  | fileWrite (ulInode ullStart ulLen : ℕ) (pBuffer : ℕ → UInt8)
  | fileWriteReserved (ulInode ullStart ulLen : ℕ) (pBuffer : ℕ → UInt8)
  | fileTruncate (ulInode ullSize : ℕ)
  | fileReserve (ulInode ullOffset ullLen : ℕ)
  | fileUnreserve (ulInode ullOffset : ℕ)
  | dirRead (ulInode ulPos : ℕ)
  | dirParent (ulInode : ℕ)
  | clock (ulNow : ℕ)

/-- The call without its results. -/
def CoreOp.exec : CoreOp → Red Unit
  | .format opts => redVolFormat opts
  | .mount ulFlags => redVolMount ulFlags
  | .unmount => redCoreVolUnmount
  | .transact => redCoreVolTransact
  | .rollback => redCoreVolRollback
  | .transMaskSet ulEventMask => redCoreTransMaskSet ulEventMask
  | .freeOrphans ulCount => if deleteOpen then redCoreVolFreeOrphans ulCount else pure ()
  | .freeOrphan ulInode => if deleteOpen then redCoreFreeOrphan ulInode else pure ()
  | .create ulPInode pszName uMode => do let _ ← redCoreCreate ulPInode pszName uMode
  | .link ulPInode pszName ulInode => redCoreLink ulPInode pszName ulInode
  | .unlink ulPInode pszName fOrphan => redCoreUnlink ulPInode pszName fOrphan
  | .rename ulSrcPInode pszSrcName ulDstPInode pszDstName fOrphan =>
    redCoreRename ulSrcPInode pszSrcName ulDstPInode pszDstName fOrphan
  | .lookup ulPInode pszName => do let _ ← redCoreLookup ulPInode pszName
  | .stat ulInode => do let _ ← redCoreStat ulInode
  | .uTimes ulInode pulTimes => redCoreUTimes ulInode pulTimes
  | .fileRead ulInode ullStart ulLen => do let _ ← redCoreFileRead ulInode ullStart ulLen
  | .fileWrite ulInode ullStart ulLen pBuffer => do
    let _ ← redCoreFileWrite ulInode ullStart ulLen pBuffer
  | .fileWriteReserved ulInode ullStart ulLen pBuffer => do
    let _ ← redCoreFileWriteReserved ulInode ullStart ulLen pBuffer
  | .fileTruncate ulInode ullSize => redCoreFileTruncate ulInode ullSize
  | .fileReserve ulInode ullOffset ullLen => redCoreFileReserve ulInode ullOffset ullLen
  | .fileUnreserve ulInode ullOffset => redCoreFileUnreserve ulInode ullOffset
  | .dirRead ulInode ulPos => do let _ ← redCoreDirRead ulInode ulPos
  | .dirParent ulInode => do let _ ← redCoreDirParent ulInode
  | .clock ulNow => .modify fun s => { s with now := ulNow }

/-- The state a call leaves. -/
def CoreOp.run (op : CoreOp) (s : FS) : FS := (op.exec s).2

/-- The state after a sequence of calls. -/
def Run (ops : List CoreOp) (s : FS) : FS := ops.foldl (fun s op => op.run s) s

end RelianceEdge
