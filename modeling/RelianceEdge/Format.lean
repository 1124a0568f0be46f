import RelianceEdge.Volume

set_option relaxedAutoImplicit false
set_option autoImplicit false

/-!
# Formatting

`format.c`.

## Main definitions

* `RedFmtOpt` — the options of a format.
* `redVolFormat` — write an empty file system with a root directory.
-/

namespace RelianceEdge

variable [RedConf]

open RedConf

/-- `REDFMTOPT`, with the inode count of `VOLCONF` filled in by the caller; without a count it is
computed. -/
structure RedFmtOpt where
  ulVersion : ℕ
  ulInodeCount : Option ℕ

/-- `ComputeInodeCount()`. -/
def FS.computeInodeCount (s : FS) : ℕ :=
  let ulInodeBlocksMax :=
    min UINT32_MAX (2 + inodeDataBlocks + indirectPointers + dindirPointers * indirEntries)
  let ulInodeCountMin := s.vol.ulBlockCount / ulInodeBlocksMax +
    if s.vol.ulBlockCount % ulInodeBlocksMax ≠ 0 then 1 else 0
  max ulInodeCountMin (s.vol.ulBlockCount / (16 + 2))

/-- Overwrite the master block, so that an interrupted format leaves nothing to mount. -/
def formatEraseMaster : Red Unit := do
  let pMB ← redBufferGet BLOCK_NUM_MASTER .data true true
  let ret ← .attempt (redBufferFlushRange BLOCK_NUM_MASTER 1)
  redBufferDiscard pMB
  .ofExcept ret
  redIoFlush

/-- Create both copies of the imap nodes. -/
def formatImapNodes : List ℕ → Red Unit
  | [] => pure ()
  | ulImapBlock :: rest => do
    let pImap ← redBufferGet ulImapBlock .imap true true
    redBufferPut pImap
    formatImapNodes rest

/-- Create the root directory. -/
def formatRootDir : Red Unit :=
  withCInode INODE_ROOTDIR do
    redInodeCreate none .dir
    redInodePut ⟨false, false⟩

/-- The master block of a format. -/
def FS.formatMaster (s : FS) (ulVersion : ℕ) : MasterBlock where
  ulVersion := ulVersion
  ulInodeCount := s.core.ulInodeCount
  ulBlockCount := s.vol.ulBlockCount
  uMaxNameLen := nameMax
  uDirectPointers := directPointers
  uIndirectPointers := indirectPointers
  bBlockSizeP2 := blockSizeP2
  fApiPosix := true
  fInodeTimestamps := true
  fInodeBlocks := true
  fInodeNLink := true
  fInodeUidGid := false
  fDeleteOpen := deleteOpen
  uFeaturesIncompat := 0
  uFeaturesReadOnly := MBFEATURE_MASK_WRITEABLE
  bSectorSizeP2 := if RED_DISK_LAYOUT_POSIXIER ≤ ulVersion then s.bSectorSizeP2 else 0

/-- Populate and write out the master block. -/
def formatWriteMaster (ulVersion : ℕ) : Red Unit := do
  let pMB ← redBufferGet BLOCK_NUM_MASTER .master true true
  .modify fun s => s.setBuf pMB (.master (s.formatMaster ulVersion))
  let ret ← .attempt (redBufferFlushRange BLOCK_NUM_MASTER 1)
  redBufferPut pMB
  .ofExcept ret
  redIoFlush

/-- `RedVolFormat()` once the device is open. -/
def formatVolume (ulVersion : ℕ) (ulInodeCount : Option ℕ) : Red Unit := do
  .modify fun s => { s with
    vol := { s.vol with fReadOnly := false }
    core := { s.core with
      ulVersion := ulVersion
      ulInodeCount := ulInodeCount.getD s.computeInodeCount } }
  redVolInitBlockLayout
  formatEraseMaster
  let s ← .get
  .when (!s.core.fImapInline) do
    formatImapNodes (List.range' s.core.ulImapStartBN (s.core.ulImapNodeCount * 2))
  .modify fun s => s.setMR fun _ => { Metaroot.zero with
    ulFreeBlocks := s.vol.ulBlocksAllocable
    ulFreeInodes := s.core.ulInodeCount
    ulAllocNextBlock := s.core.ulFirstAllocableBN }
  .modify fun s => { s with core := { s.core with fBranched := true } }
  redVolTransact
  formatRootDir
  redVolTransact
  formatWriteMaster ulVersion

/-- `RedVolFormat()`. -/
def redVolFormat (pOptions : RedFmtOpt) : Red Unit := do
  let ulVersion :=
    if pOptions.ulVersion = 0 then RED_DISK_LAYOUT_VERSION else pOptions.ulVersion
  if pOptions.ulVersion ≠ 0 ∧ !redDiskLayoutIsSupported pOptions.ulVersion then .fail .EINVAL
  else
    let s ← .get
    if s.vol.fMounted then .fail .EBUSY
    else
      redVolInitBlockGeometry
      let ret ← .attempt (formatVolume ulVersion pOptions.ulInodeCount)
      let s ← .get
      let ret2 ← .attempt (redBufferDiscardRange 0 s.vol.ulBlockCount)
      .ofExcept ret
      .ofExcept ret2

end RelianceEdge
