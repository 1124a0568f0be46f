import RelianceEdge.Dir
import RelianceEdge.Volume

set_option relaxedAutoImplicit false
set_option autoImplicit false

/-!
# Core operations

`core.c`, and the functions of `dir.c` that work on several cached inodes at once. A core
function declares its cached inodes as local variables; here they are the components of a
function from handles, all zeroed to begin with. Owner permissions are not configured.

## Main definitions

* `coreCreate`, `coreLink`, `coreUnlink`, `coreRename` — operations on names.
* `coreFileWrite`, `coreFileTruncate`, `coreFileReserve` — operations on file data.
* `coreRetry` — the pattern of the `RedCore*` functions: make room when the disk is full, run the
  operation again, and commit when the transaction mask says so.
-/

namespace RelianceEdge

variable [RedConf]

open RedConf

/-! ## Several cached inodes -/

/-- The local cached inodes of the core functions. -/
inductive Handle
  /-- `pino`, `SrcPInode`. -/
  | pino
  /-- `ino`, `SrcInode`. -/
  | ino
  /-- `DstPInode`. -/
  | dstPino
  /-- `DstInode`. -/
  | dstIno
  /-- `prevIno`. -/
  | prevIno
  deriving DecidableEq, Repr

/-- Operations on the local cached inodes. -/
abbrev RedC (α : Type) := Op (FS × (Handle → CInode)) RedError α

/-- An operation on the cached inode of a handle. -/
def on {α : Type} (h : Handle) (x : RedI α) : RedC α :=
  Op.zoom (fun t => (t.1, t.2 h)) (fun t u => (u.1, Function.update t.2 h u.2)) x

/-- An operation that uses no cached inode of the caller. -/
def liftC {α : Type} (x : Red α) : RedC α := Op.zoom Prod.fst (fun t s => (s, t.2)) x

/-- The cached inode of a handle. -/
def cinode (h : Handle) : RedC CInode := fun t => (.ok (t.2 h), t)

/-- Change the cached inode of a handle. -/
def modifyCinode (h : Handle) (f : CInode → CInode) : RedC Unit :=
  fun t => (.ok (), (t.1, Function.update t.2 h (f (t.2 h))))

/-- Run an operation on fresh local cached inodes. -/
def withCInodes {α : Type} (x : RedC α) : Red α := fun s =>
  let r := x (s, fun _ => .zero)
  (r.1, r.2.1)

/-- Set the inode number of a local cached inode. -/
def setInode (h : Handle) (ulInode : ℕ) : RedC Unit :=
  modifyCinode h fun ci => { ci with ulInode := ulInode }

/-- `IPUT_UPDATE_MTIME | IPUT_UPDATE_CTIME` after success, nothing after a failure. -/
def iputMC {α : Type} (ret : Except RedError α) : IPut := ⟨ret.isOk, ret.isOk⟩

/-- `IPUT_UPDATE_CTIME` after success, nothing after a failure. -/
def iputC {α : Type} (ret : Except RedError α) : IPut := ⟨false, ret.isOk⟩

/-! ## Creating, linking and unlinking -/

/-- `CRITICAL_ASSERT(ret == 0)` on a status. -/
def criticalAssertOk {α : Type} (ret : Except RedError α) : RedC Unit :=
  liftC (criticalAssert ret.isOk)

/-- `CoreCreate()`. A mode with bits outside `RED_S_IFVALID` is rejected by the type. -/
def coreCreate (ulPInode : ℕ) (pszName : CString) (uMode : Mode) : Red ℕ := do
  let s ← .get
  if s.vol.fReadOnly then .fail .EROFS
  else
    withCInodes do
      setInode .pino ulPInode
      on .pino (redInodeMount FTYPE_DIR false)
      let ret ← .attempt do
        let pino ← cinode .pino
        on .ino (redInodeCreate (some pino) uMode)
        let ret ← .attempt do
          on .pino redInodeBranch
          let ino ← cinode .ino
          on .pino (redDirEntryCreate pszName ino.ulInode)
          pure ino.ulInode
        match ret with
        | .ok _ => pure ()
        | .error _ =>
          let ret2 ← .attempt (on .ino redInodeFree)
          criticalAssertOk ret2
        on .ino (redInodePut ⟨false, false⟩)
        .ofExcept ret
      on .pino (redInodePut (iputMC ret))
      .ofExcept ret

/-- The error of a link to a directory. -/
def linkError : RedError → RedError
  | .EISDIR => .EPERM
  | e => e

/-- `CoreLink()`. -/
def coreLink (ulPInode : ℕ) (pszName : CString) (ulInode : ℕ) : Red Unit := do
  let s ← .get
  if s.vol.fReadOnly then .fail .EROFS
  else
    withCInodes do
      setInode .pino ulPInode
      on .pino (redInodeMount FTYPE_DIR false)
      let ret ← .attempt do
        setInode .ino ulInode
        match ← .attempt (on .ino (redInodeMount FTYPE_NOTDIR false)) with
        | .error e => .fail (linkError e)
        | .ok () =>
          let ret ← .attempt do
            let ino ← on .ino inodeBuf
            .when (ino.uNLink = UINT16_MAX) (.fail .EMLINK)
            on .pino redInodeBranch
            on .ino redInodeBranch
            let ino ← cinode .ino
            on .pino (redDirEntryCreate pszName ino.ulInode)
            on .ino (modifyInodeBuf fun ino => { ino with uNLink := ino.uNLink + 1 })
          on .ino (redInodePut (iputC ret))
          .ofExcept ret
      on .pino (redInodePut (iputMC ret))
      .ofExcept ret

/-- Set `fUseReservedBlocks`. -/
def setUseReservedBlocks (f : Bool) : Red Unit :=
  .modify fun s => { s with core := { s.core with fUseReservedBlocks := f } }

/-- `CoreUnlink()`. -/
def coreUnlink (ulPInode : ℕ) (pszName : CString) (fOrphan : Bool) : Red Unit := do
  let s ← .get
  if s.vol.fReadOnly then .fail .EROFS
  else if !deleteOpen && fOrphan then .fail .EINVAL
  else
    withCInodes do
      setInode .pino ulPInode
      on .pino (redInodeMount FTYPE_DIR false)
      let ret ← .attempt do
        let lookup ← on .pino (redDirEntryLookup pszName)
        .when (!lookup.fFound) (.fail .ENOENT)
        on .pino redInodeBranch
        setInode .ino (lookup.ulInode.getD INODE_INVALID)
        on .ino (redInodeMount FTYPE_ANY false)
        let ret ← .attempt do
          let ino ← on .ino inodeBuf
          .when ((← cinode .ino).fDirectory ∧ 0 < ino.ullSize) (.fail .ENOTEMPTY)
          liftC (setUseReservedBlocks true)
          let ret ← .attempt (on .pino (redDirEntryDelete lookup.ulEntryIdx))
          liftC (setUseReservedBlocks false)
          .ofExcept ret
          -- The parent's buffers are released first, so that fewer are needed at once.
          on .pino redInodePutCoord
          let ret ← .attempt (on .ino (redInodeLinkDec fOrphan))
          criticalAssertOk ret
          .ofExcept ret
        on .ino (redInodePut (iputC ret))
        .ofExcept ret
      on .pino (redInodePut (iputMC ret))
      .ofExcept ret

/-! ## Renaming -/

/-- The loop of `DirCyclicRenameCheck()`, over the iterations left: how many were left when it
stopped, and the parent it stopped at. -/
def dirCyclicLoop (ulSrcInode : ℕ) : ℕ → ℕ → Red (ℕ × ℕ)
  | 0, ulNextParent => pure (0, ulNextParent)
  | n + 1, ulNextParent => do
    if ulNextParent = ulSrcInode ∨ ulNextParent = INODE_ROOTDIR ∨ ulNextParent = INODE_INVALID then
      pure (n + 1, ulNextParent)
    else
      let ulPInode ← withCInode ulNextParent do
        redInodeMount FTYPE_DIR false
        let ino ← inodeBuf
        redInodePut ⟨false, false⟩
        pure ino.ulPInode
      dirCyclicLoop ulSrcInode n ulPInode

/-- `DirCyclicRenameCheck()`. -/
def dirCyclicRenameCheck (ulSrcInode : ℕ) (pDstPInode : CInode) : Red Unit := do
  let s ← .get
  if !s.inodeIsValid ulSrcInode || !s.cinodeIsMounted pDstPInode then .fail .EINVAL
  else if ulSrcInode = pDstPInode.ulInode then .fail .EINVAL
  else if !pDstPInode.fDirectory then .fail .ENOTDIR
  else
    let (ulLeft, ulNextParent) ← dirCyclicLoop ulSrcInode s.core.ulInodeCount
      (s.deref pDstPInode.pInodeBuf).asInode.ulPInode
    if ulLeft = 0 then
      criticalError
      .fail .EFUBAR
    else if ulSrcInode = ulNextParent then .fail .EINVAL

/-- The part of `RedDirEntryRename()` after the lookups, for names of different inodes. -/
def dirEntryMove (hDstP : Handle) (ulSrcIdx ulDstIdx : ℕ) (pszDstName : CString) :
    RedC Unit := do
  on .ino (redInodeMount FTYPE_ANY true)
  let fSrcDirectory := (← cinode .ino).fDirectory
  .when ((← cinode .dstIno).ulInode ≠ INODE_INVALID) do
    on .dstIno (redInodeMount (if fSrcDirectory then FTYPE_DIR else FTYPE_NOTDIR) true)
    let ino ← on .dstIno inodeBuf
    .when ((← cinode .dstIno).fDirectory ∧ 0 < ino.ullSize) (.fail .ENOTEMPTY)
  let ulSrcInode := (← cinode .ino).ulInode
  let pDstPInode ← cinode hDstP
  .when fSrcDirectory (liftC (dirCyclicRenameCheck ulSrcInode pDstPInode))
  let ulDstNameLen := redNameLen pszDstName
  on hDstP (dirEntryWrite ulDstIdx ulSrcInode pszDstName ulDstNameLen)
  match ← .attempt (on .pino (redDirEntryDelete ulSrcIdx)) with
  | .ok () =>
    on .ino (modifyInodeBuf fun ino => { ino with ulPInode := pDstPInode.ulInode })
  | .error .ENOSPC =>
    -- Put the destination entry back the way it was.
    let ulDstInode := (← cinode .dstIno).ulInode
    match ← .attempt (on hDstP (
        if ulDstInode ≠ INODE_INVALID then
          dirEntryWrite ulDstIdx ulDstInode pszDstName ulDstNameLen
        else redDirEntryDelete ulDstIdx)) with
    | .ok () => .fail .ENOSPC
    | .error e =>
      liftC criticalError
      .fail e
  | .error e => .fail e

/-- `RedDirEntryRename()`. The destination parent may be the cached inode of the source
parent. -/
def redDirEntryRename (hDstP : Handle) (pszSrcName pszDstName : CString) : RedC Unit := do
  let pSrcPInode ← cinode .pino
  let pDstPInode ← cinode hDstP
  let s ← liftC .get
  if !s.cinodeIsDirty pSrcPInode || !s.cinodeIsDirty pDstPInode then .fail .EINVAL
  else if !pSrcPInode.fDirectory || !pDstPInode.fDirectory then .fail .ENOTDIR
  else if isDotOrDotDot pszDstName (redNameLen pszDstName) then .fail .EINVAL
  else
    let src ← on .pino (redDirEntryLookup pszSrcName)
    .when (!src.fFound) (.fail .ENOENT)
    setInode .ino (src.ulInode.getD INODE_INVALID)
    let dst ← on hDstP (redDirEntryLookup pszDstName)
    .when (!dst.fFound ∧ dst.ulEntryIdx = DIR_INDEX_INVALID) (.fail .ENOSPC)
    setInode .dstIno (if dst.fFound then dst.ulInode.getD INODE_INVALID else INODE_INVALID)
    .when ((← cinode .ino).ulInode ≠ (← cinode .dstIno).ulInode) do
      dirEntryMove hDstP src.ulEntryIdx dst.ulEntryIdx pszDstName

/-- `CoreRename()`. -/
def coreRename (ulSrcPInode : ℕ) (pszSrcName : CString) (ulDstPInode : ℕ) (pszDstName : CString)
    (fOrphan : Bool) : Red Unit := do
  let s ← .get
  if s.vol.fReadOnly then .fail .EROFS
  else if !deleteOpen && fOrphan then .fail .EINVAL
  else
    withCInodes do
      setInode .pino ulSrcPInode
      let ret ← .attempt do
        on .pino (redInodeMount FTYPE_DIR true)
        let hDstP := if ulSrcPInode = ulDstPInode then Handle.pino else .dstPino
        .when (ulSrcPInode ≠ ulDstPInode) do
          setInode .dstPino ulDstPInode
          on .dstPino (redInodeMount FTYPE_DIR true)
        let ret ← .attempt do
          redDirEntryRename hDstP pszSrcName pszDstName
          let dst ← cinode .dstIno
          let src ← cinode .ino
          .when (dst.ulInode ≠ INODE_INVALID ∧ dst.ulInode ≠ src.ulInode) do
            -- The parents' buffers are released first, so that fewer are needed at once.
            on .pino redInodePutCoord
            on hDstP redInodePutCoord
            let ret ← .attempt (on .dstIno (redInodeLinkDec fOrphan))
            criticalAssertOk ret
            .ofExcept ret
        let fUpdateTimestamps :=
          ret.isOk && decide ((← cinode .dstIno).ulInode ≠ (← cinode .ino).ulInode)
        on .dstIno (redInodePut ⟨false, false⟩)
        on .ino (redInodePut ⟨false, fUpdateTimestamps⟩)
        on hDstP (redInodePut ⟨fUpdateTimestamps, fUpdateTimestamps⟩)
        .ofExcept (ret.map fun _ => fUpdateTimestamps)
      let fUpdateTimestamps := ret.toOption.getD false
      on .pino (redInodePut ⟨fUpdateTimestamps, fUpdateTimestamps⟩)
      .ofExcept (ret.map fun _ => ())

/-! ## File data -/

/-- Mount an inode, run an operation on it, and release it with the given timestamps. -/
def withInode {α : Type} (ulInode : ℕ) (type : FType) (fBranch : Bool)
    (put : Except RedError α → IPut) (x : RedI α) : Red α :=
  withCInode ulInode do
    redInodeMount type fBranch
    let ret ← .attempt x
    redInodePut (put ret)
    .ofExcept ret

/-- `RedInodePut()` without timestamps. -/
def iputNone {α : Type} (_ : Except RedError α) : IPut := ⟨false, false⟩

/-- `CoreFileWrite()`. -/
def coreFileWrite (ulInode ullStart ulLen : ℕ) (pBuffer : ℕ → UInt8) : Red ℕ := do
  let s ← .get
  if s.vol.fReadOnly then .fail .EROFS
  else withInode ulInode FTYPE_NOTDIR true iputMC (redInodeDataWrite ullStart ulLen pBuffer)

/-- `CoreFileTruncate()`. -/
def coreFileTruncate (ulInode ullSize : ℕ) : Red Unit := do
  let s ← .get
  if s.vol.fReadOnly then .fail .EROFS
  else
    withInode ulInode FTYPE_NOTDIR true iputMC do
      let ino ← inodeBuf
      liftFS (setUseReservedBlocks (decide (ullSize < ino.ullSize)))
      let ret ← .attempt (redInodeDataTruncate ullSize)
      liftFS (setUseReservedBlocks false)
      .ofExcept ret

/-- `CoreFileReserve()`. -/
def coreFileReserve (ulInode ullOffset ullLen : ℕ) : Red Unit := do
  let s ← .get
  if s.vol.fReadOnly then .fail .EROFS
  else withInode ulInode FTYPE_FILE true iputMC (redInodeDataReserve ullOffset ullLen)

/-! ## Transactions -/

/-- `RED_TRANSACT_UMOUNT`. -/
def RED_TRANSACT_UMOUNT : ℕ := 0x1

/-- `RED_TRANSACT_CREAT`. -/
def RED_TRANSACT_CREAT : ℕ := 0x2

/-- `RED_TRANSACT_UNLINK`. -/
def RED_TRANSACT_UNLINK : ℕ := 0x4

/-- `RED_TRANSACT_MKDIR`. -/
def RED_TRANSACT_MKDIR : ℕ := 0x8

/-- `RED_TRANSACT_RENAME`. -/
def RED_TRANSACT_RENAME : ℕ := 0x10

/-- `RED_TRANSACT_LINK`. -/
def RED_TRANSACT_LINK : ℕ := 0x20

/-- `RED_TRANSACT_WRITE`. -/
def RED_TRANSACT_WRITE : ℕ := 0x80

/-- `RED_TRANSACT_TRUNCATE`. -/
def RED_TRANSACT_TRUNCATE : ℕ := 0x200

/-- `RED_TRANSACT_VOLFULL`. -/
def RED_TRANSACT_VOLFULL : ℕ := 0x400

/-- `RED_TRANSACT_MASK` of the POSIX-like API with every event supported. -/
def RED_TRANSACT_MASK : ℕ := 0xFFF

/-- Whether an event of the transaction mask is set. -/
def FS.transMaskHas (s : FS) (ulTransFlag : ℕ) : Bool := s.vol.ulTransMask &&& ulTransFlag != 0

/-- `CoreAutoTransact()`. -/
def coreAutoTransact (ulTransFlag : ℕ) : Red Unit := do
  let s ← .get
  .when (s.transMaskHas ulTransFlag) redVolTransact

/-- `CoreFull()`. -/
def coreFull : Red Unit := do
  let s ← .get
  if s.transMaskHas RED_TRANSACT_VOLFULL then
    let ulFreeBlocks := s.mr.ulFreeBlocks
    .when (deleteOpen ∧ s.mr.ulDefunctOrphanHead ≠ INODE_INVALID) (redVolFreeOrphans UINT32_MAX)
    let s ← .get
    .when (0 < s.core.ulAlmostFreeBlocks) redVolTransact
    let s ← .get
    .when (s.mr.ulFreeBlocks ≤ ulFreeBlocks) (.fail .ENOSPC)
  else .fail .ENOSPC

/-- Run an operation of a mounted writeable volume. When the disk is full, make room and run it
again. After success, commit if the event is in the transaction mask. -/
def coreRetry {α : Type} (ulTransFlag : ℕ) (op : Red α) : Red α := do
  let s ← .get
  if !s.vol.fMounted then .fail .EINVAL
  else if s.vol.fReadOnly then .fail .EROFS
  else
    let a ←
      match ← .attempt op with
      | .ok a => pure a
      | .error .ENOSPC => do
        coreFull
        op
      | .error e => .fail e
    coreAutoTransact ulTransFlag
    pure a

/-- `RedCoreCreate()`. -/
def redCoreCreate (ulPInode : ℕ) (pszName : CString) (uMode : Mode) : Red ℕ :=
  coreRetry (if uMode = .dir then RED_TRANSACT_MKDIR else RED_TRANSACT_CREAT)
    (coreCreate ulPInode pszName uMode)

/-- `RedCoreLink()`. -/
def redCoreLink (ulPInode : ℕ) (pszName : CString) (ulInode : ℕ) : Red Unit :=
  coreRetry RED_TRANSACT_LINK (coreLink ulPInode pszName ulInode)

/-- `RedCoreUnlink()`. -/
def redCoreUnlink (ulPInode : ℕ) (pszName : CString) (fOrphan : Bool) : Red Unit :=
  coreRetry RED_TRANSACT_UNLINK (coreUnlink ulPInode pszName fOrphan)

/-- `RedCoreRename()`. -/
def redCoreRename (ulSrcPInode : ℕ) (pszSrcName : CString) (ulDstPInode : ℕ)
    (pszDstName : CString) (fOrphan : Bool) : Red Unit :=
  coreRetry RED_TRANSACT_RENAME (coreRename ulSrcPInode pszSrcName ulDstPInode pszDstName fOrphan)

/-- `RedCoreFileWrite()`. -/
def redCoreFileWrite (ulInode ullStart ulLen : ℕ) (pBuffer : ℕ → UInt8) : Red ℕ :=
  coreRetry RED_TRANSACT_WRITE (coreFileWrite ulInode ullStart ulLen pBuffer)

/-- `RedCoreFileTruncate()`. -/
def redCoreFileTruncate (ulInode ullSize : ℕ) : Red Unit :=
  coreRetry RED_TRANSACT_TRUNCATE (coreFileTruncate ulInode ullSize)

/-- `RedCoreFileReserve()`: no event of the mask commits it. -/
def redCoreFileReserve (ulInode ullOffset ullLen : ℕ) : Red Unit :=
  coreRetry 0 (coreFileReserve ulInode ullOffset ullLen)

/-- Set `fUseReservedInodeBlocks`. -/
def setUseReservedInodeBlocks (f : Bool) : Red Unit :=
  .modify fun s => { s with core := { s.core with fUseReservedInodeBlocks := f } }

/-- `RedCoreFileWriteReserved()`. -/
def redCoreFileWriteReserved (ulInode ullStart ulLen : ℕ) (pBuffer : ℕ → UInt8) : Red ℕ := do
  setUseReservedInodeBlocks true
  let ret ← .attempt (redCoreFileWrite ulInode ullStart ulLen pBuffer)
  setUseReservedInodeBlocks false
  .ofExcept ret

end RelianceEdge
