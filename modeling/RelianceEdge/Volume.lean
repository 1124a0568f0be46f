import RelianceEdge.InodeLife

set_option relaxedAutoImplicit false
set_option autoImplicit false

/-!
# Mounting, transaction points and rollback

`volume.c`. The block device opens and closes without fail, and its geometry is a number of
blocks. The checksums of a stored metaroot are the two flags of its block.

## Main definitions

* `redVolMount`, `redVolMountMaster`, `redVolMountMetaroot` — find the committed state.
* `redVolTransact` — commit the working state.
* `redVolRollback` — return to the committed state.
-/

namespace RelianceEdge

variable [RedConf]

open RedConf

/-! ## Layout -/

/-- `MINIMUM_METADATA_BLOCKS`: the master block, the metaroots and the slots of one inode. -/
def MINIMUM_METADATA_BLOCKS : ℕ := 1 + 2 + 2

/-- `RedVolInitBlockGeometry()`. -/
def redVolInitBlockGeometry : Red Unit :=
  .modify fun s => { s with vol := { s.vol with ulBlockCount := s.ulDevBlocks } }

/-- `RedVolInitBlockLayout()`. -/
def redVolInitBlockLayout : Red Unit := do
  let s ← .get
  if s.vol.ulBlockCount < MINIMUM_METADATA_BLOCKS then .fail .EINVAL
  else
    let fImapInline := decide (s.vol.ulBlockCount - 3 ≤ metarootEntries)
    .modify fun s => { s with core := { s.core with fImapInline := fImapInline } }
    if fImapInline then
      .modify fun s => { s with core := { s.core with ulInodeTableStartBN := 3 } }
    else
      let ulImapNodeCount :=
        u32 (s.vol.ulBlockCount - 3 + (imapnodeEntries + 2 - 1)) / (imapnodeEntries + 2)
      .modify fun s => { s with core := { s.core with
        ulImapStartBN := 3
        ulImapNodeCount := ulImapNodeCount } }
      if metarootEntries < ulImapNodeCount then .fail .EINVAL
      else
        .modify fun s => { s with core := { s.core with
          ulInodeTableStartBN := 3 + ulImapNodeCount * 2 } }
    let s ← .get
    if UINT32_MAX < s.core.ulInodeCount * 2 + s.core.ulInodeTableStartBN then .fail .EINVAL
    else
      let ulFirstAllocableBN := s.core.ulInodeTableStartBN + s.core.ulInodeCount * 2
      .modify fun s => { s with core := { s.core with ulFirstAllocableBN := ulFirstAllocableBN } }
      if s.vol.ulBlockCount < ulFirstAllocableBN then .fail .EINVAL
      else
        .modify fun s => { s with vol := { s.vol with
          ulBlocksAllocable := s.vol.ulBlockCount - ulFirstAllocableBN } }

/-! ## Mounting -/

/-- The mount flags of `redapimacs.h`. -/
structure MountFlags where
  /-- `RED_MOUNT_READONLY`. -/
  fReadOnly : Bool
  /-- `RED_MOUNT_SKIP_DELETE`. -/
  fSkipDelete : Bool

/-- `RED_MOUNT_DEFAULT`. -/
def RED_MOUNT_DEFAULT : MountFlags := ⟨false, false⟩

/-- Whether the driver cannot mount a volume with this master block. -/
def FS.masterIsUnsupported (s : FS) (pMB : MasterBlock) : Bool :=
  !redDiskLayoutIsSupported pMB.ulVersion || decide (s.vol.ulBlockCount < pMB.ulBlockCount) ||
    pMB.uMaxNameLen != nameMax || pMB.uDirectPointers != directPointers ||
    pMB.uIndirectPointers != indirectPointers || pMB.bBlockSizeP2 != blockSizeP2 ||
    !pMB.fApiPosix || !pMB.fInodeTimestamps || !pMB.fInodeBlocks || pMB.fInodeUidGid ||
    pMB.fDeleteOpen != deleteOpen || !pMB.fInodeNLink || pMB.uFeaturesIncompat != 0 ||
    (decide (RED_DISK_LAYOUT_POSIXIER ≤ pMB.ulVersion) && s.bSectorSizeP2 != pMB.bSectorSizeP2)

/-- `MBFEATURE_MASK_WRITEABLE`. -/
def MBFEATURE_MASK_WRITEABLE : ℕ := if deleteOpen then 1 else 0

/-- `RedVolMountMaster()`. -/
def redVolMountMaster (ulFlags : MountFlags) : Red Unit := do
  let pBuffer ← redBufferGet BLOCK_NUM_MASTER .master false false
  let s ← .get
  let pMB := (s.buf.pbBlkBuf pBuffer).asMaster
  let ret ← .attempt do
    if s.masterIsUnsupported pMB then .fail RedError.EIO
    else
      .modify fun s => { s with
        vol := { s.vol with
          ullSequence := (s.disk BLOCK_NUM_MASTER).ullSequence
          ulBlockCount := pMB.ulBlockCount }
        core := { s.core with
          ulVersion := pMB.ulVersion
          ulInodeCount := pMB.ulInodeCount } }
      redVolInitBlockLayout
      .modify fun s => { s with vol := { s.vol with fReadOnly := ulFlags.fReadOnly } }
      if !ulFlags.fReadOnly ∧ pMB.uFeaturesReadOnly &&& MBFEATURE_MASK_WRITEABLE
          ≠ pMB.uFeaturesReadOnly then .fail .EROFS
  redBufferDiscard pBuffer
  .ofExcept ret

/-- `MetarootIsValid()`: the verdict, and whether the first sector is valid. -/
def metarootIsValid (pMR : DiskBlock) : Bool × Bool :=
  if pMR.ulSignature ≠ .metaroot then (false, false)
  else (pMR.fSectorCRCIsValid && pMR.fCRCIsValid, pMR.fSectorCRCIsValid)

/-- The choice between the two metaroots in `RedVolMountMetaroot()`. -/
def chooseMetaroot (pMR0 pMR1 : DiskBlock) : Except RedError Bool :=
  let (fValid0, fSector0) := metarootIsValid pMR0
  let (fValid1, fSector1) := metarootIsValid pMR1
  if !fValid0 && fAtomicSectorWrite && !fSector0 then .error RedError.EIO
  else if !fValid1 && fAtomicSectorWrite && !fSector1 then .error RedError.EIO
  else if fValid1 && (!fValid0 || decide (pMR0.ullSequence < pMR1.ullSequence)) then .ok true
  else if fValid0 then .ok false
  else .error RedError.EIO

/-- A stored metaroot as `RedVolMountMetaroot()` finds it in memory. -/
def DiskBlock.metaroot (block : DiskBlock) : Metaroot :=
  { block.node.asMetaroot with ullSequence := block.ullSequence }

/-- `RedVolMountMetaroot()`. -/
def redVolMountMetaroot : Red Unit := do
  let retMR0 ← .attempt (redIoRead BLOCK_NUM_FIRST_METAROOT 1)
  let retMR1 ← .attempt (redIoRead (BLOCK_NUM_FIRST_METAROOT + 1) 1)
  match retMR0, retMR1 with
  | .ok pMR0, .ok pMR1 =>
    .modify fun s => { s with core := { s.core with
      aMR := fun bMR => if bMR then (pMR1 0).metaroot else (pMR0 0).metaroot } }
    let bMR ← .ofExcept (chooseMetaroot (pMR0 0) (pMR1 0))
    .modify fun s => { s with core := { s.core with bCurMR := bMR } }
    .modify fun s => { s with vol := { s.vol with
      ullSequence := max s.vol.ullSequence s.mr.ullSequence } }
    redVolSeqNumIncrement
    .modify fun s => { s with
      vol := { s.vol with fMounted := true }
      core := { s.core with
        fUseReservedBlocks := false
        ulAlmostFreeBlocks := 0
        aMR := Function.update s.core.aMR (!s.core.bCurMR) s.mr
        bCurMR := !s.core.bCurMR } }
  | .error e, _ => .fail e
  | _, .error e => .fail e

/-- The orphans at the end of `RedVolMount()`. -/
def mountOrphans (ulFlags : MountFlags) : Red Unit := do
  let s ← .get
  if !ulFlags.fSkipDelete then
    redVolFreeOrphans UINT32_MAX
    .modify fun s => s.setMR fun mr => { mr with
      ulDefunctOrphanHead := mr.ulOrphanHead
      ulOrphanHead := INODE_INVALID
      ulOrphanTail := INODE_INVALID }
    redVolFreeOrphans UINT32_MAX
  else if s.mr.ulDefunctOrphanHead = INODE_INVALID then
    .modify fun s => s.setMR fun mr => { mr with
      ulDefunctOrphanHead := mr.ulOrphanHead
      ulOrphanHead := INODE_INVALID
      ulOrphanTail := INODE_INVALID }
  else if s.mr.ulOrphanHead ≠ INODE_INVALID then concatOrphanLists

/-- `RedVolMount()`. -/
def redVolMount (ulFlags : MountFlags) : Red Unit := do
  let ret ← .attempt do
    redVolInitBlockGeometry
    redVolMountMaster ulFlags
    redVolMountMetaroot
    .when deleteOpen (mountOrphans ulFlags)
  match ret with
  | .error e =>
    let s ← .get
    let _ ← .attempt (redBufferDiscardRange 0 s.vol.ulBlockCount)
    .fail e
  | .ok () => pure ()

/-! ## Transaction points -/

/-- A metaroot as it is stored. -/
def Metaroot.block (mr : Metaroot) : DiskBlock :=
  ⟨.metaroot, mr.ullSequence, true, true, .metaroot mr⟩

/-- `RedVolTransact()`. -/
def redVolTransact : Red Unit := do
  let s ← .get
  .when s.core.fBranched do
    let ret ← .attempt do
      .modify fun s => s.setMR fun mr =>
        { mr with ulFreeBlocks := u32 (mr.ulFreeBlocks + s.core.ulAlmostFreeBlocks) }
      .modify fun s => { s with core := { s.core with ulAlmostFreeBlocks := 0 } }
      redBufferFlushRange 0 s.vol.ulBlockCount
      .modify fun s => s.setMR fun mr => { mr with ullSequence := s.vol.ullSequence }
      redVolSeqNumIncrement
      redIoFlush
      let s ← .get
      redIoWrite (BLOCK_NUM_FIRST_METAROOT + s.core.bCurMR.toNat) 1 fun _ => s.mr.block
      redIoFlush
      .modify fun s => { s with core := { s.core with
        aMR := Function.update s.core.aMR (!s.core.bCurMR) s.mr
        bCurMR := !s.core.bCurMR
        fBranched := false } }
    match ret with
    | .error e =>
      criticalError
      .fail e
    | .ok () => pure ()

/-- `RedVolRollback()`. -/
def redVolRollback : Red Unit := do
  let s ← .get
  .when s.core.fBranched do
    let ret ← .attempt do
      redBufferDiscardRange 0 s.vol.ulBlockCount
      redVolMountMaster RED_MOUNT_DEFAULT
      redVolMountMetaroot
      .modify fun s => { s with core := { s.core with fBranched := false } }
    match ret with
    | .error e =>
      criticalError
      .fail e
    | .ok () => pure ()

end RelianceEdge
