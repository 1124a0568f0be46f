import RelianceEdge.Lib.Refs
import RelianceEdge.Orphan.Directory

set_option relaxedAutoImplicit false
set_option autoImplicit false
set_option linter.unusedSectionVars false

/-!
# Handles, open inodes and tasks

The tables of `posix.c`, with several volumes and several tasks and with working directories, in a
build without `red_freserve()` (`REDCONF_API_POSIX_FRESERVE` is 0): handles and working directories
refer to open inodes, which are counted, and a file descriptor is made of the index of its handle,
its volume and the mount generation of the volume. What the path functions find is an argument of
the calls; each call runs as a whole, since the driver has one mutex. The device reports no errors.

## Main definitions

* `PosixConf` — the sizes of the tables.
* `PosixState` — the tables and the volumes.
* `PosixState.openInoFind`, `PosixState.openInoDeref` — a reference to an open inode is looked for
  and given up.
* `PosixState.handleOpen`, `PosixState.handleClose`, `PosixState.cwdClose` — the two kinds of
  references.
* `PosixState.fildesPack`, `PosixState.fildesToHandle` — file descriptors.
* `PosixState.fildesOpen` — opening a file, a directory or a symbolic link.
-/

namespace RelianceEdge

/-- A configuration of the POSIX-like API: `REDCONF_HANDLE_COUNT`, `REDCONF_TASK_COUNT` and
`REDCONF_VOLUME_COUNT`. `REDCONF_API_POSIX_FRESERVE` is 0, so that an open inode has no
`OIFLAG_RESERVED` and no `ullResOff`. -/
class PosixConf extends RedConf where
  handleCount : ℕ
  taskCount : ℕ
  volumeCount : ℕ
  /-- `redconfigchk.h` allows 1 to 4096 handles. -/
  handleCount_mem : 1 ≤ handleCount ∧ handleCount ≤ 4096
  /-- Tasks are registered when there can be more than one. -/
  taskCount_ge : 2 ≤ taskCount
  /-- `redconfigchk.h` allows 1 to 255 volumes. -/
  volumeCount_mem : 1 ≤ volumeCount ∧ volumeCount ≤ 255

/-- A small configuration of the API. -/
abbrev smallPosixConf : PosixConf where
  toRedConf := smallConf
  handleCount := 2
  taskCount := 2
  volumeCount := 2
  handleCount_mem := by decide
  taskCount_ge := by decide
  volumeCount_mem := by decide

variable [PosixConf]

open RedConf PosixConf

/-- `OPEN_INODE_COUNT`. -/
def openInodeCount : ℕ := handleCount + taskCount

/-- `FD_GEN_BITS`. -/
def FD_GEN_BITS : ℕ := 11

/-- `FD_VOL_BITS`. -/
def FD_VOL_BITS : ℕ := 8

/-- `FD_IDX_BITS`. -/
def FD_IDX_BITS : ℕ := 12

/-- `FD_GEN_MAX`. -/
def FD_GEN_MAX : ℕ := 2 ^ FD_GEN_BITS - 1

/-- `FD_VOL_MAX`. -/
def FD_VOL_MAX : ℕ := 2 ^ FD_VOL_BITS - 1

/-- `FD_IDX_MAX`. -/
def FD_IDX_MAX : ℕ := 2 ^ FD_IDX_BITS - 1

/-- `FD_MIN`. -/
def FD_MIN : ℤ := 3

/-- `OPENINODE`; `INODE_INVALID` is an open inode that is available. -/
structure OpenInode where
  ulInode : ℕ
  bVolNum : ℕ
  /-- `OIFLAG_ORPHAN`. -/
  fOrphan : Bool
  uRefs : ℕ

/-- `REDHANDLE`, without its offset; without an open inode it is free. -/
structure RedHandle where
  pOpenIno : Option ℕ
  /-- `HFLAG_DIRECTORY`. -/
  fDirectory : Bool
  /-- `HFLAG_READABLE`. -/
  fReadable : Bool
  /-- `HFLAG_WRITEABLE`. -/
  fWriteable : Bool
  /-- `HFLAG_APPENDING`. -/
  fAppending : Bool
  /-- `HFLAG_SYMLINK`. -/
  fSymlink : Bool

/-- `TASKSLOT`; the task zero is none. -/
structure TaskSlot where
  ulTaskId : ℕ
  pCwd : Option ℕ

/-- A volume, with what its metaroots reach; `geo` is its geometry. -/
structure PosixVolume where
  geo : FS
  fMounted : Bool
  disk : NameDisk

/-- The errors of the API: those of the core, and those that only `posix.c` returns. -/
inductive PosixError
  | red (e : RedError)
  | EMFILE | EUSERS | EXDEV
  deriving DecidableEq

namespace PosixError

@[match_pattern] abbrev EBADF : PosixError := .red .EBADF
@[match_pattern] abbrev EBUSY : PosixError := .red .EBUSY
@[match_pattern] abbrev EEXIST : PosixError := .red .EEXIST
@[match_pattern] abbrev EFUBAR : PosixError := .red .EFUBAR
@[match_pattern] abbrev EINVAL : PosixError := .red .EINVAL
@[match_pattern] abbrev EISDIR : PosixError := .red .EISDIR
@[match_pattern] abbrev ENOENT : PosixError := .red .ENOENT
@[match_pattern] abbrev EROFS : PosixError := .red .EROFS

end PosixError

/-- **The state of the POSIX-like API.** -/
structure PosixState where
  gfPosixInited : Bool
  gaOpenInos : ℕ → OpenInode
  gaHandle : ℕ → RedHandle
  gaTask : ℕ → TaskSlot
  gauGeneration : ℕ → ℕ
  gbRedVolNum : ℕ
  gaRedVolume : ℕ → PosixVolume

/-- An operation on the state of the API. -/
abbrev PosixOp := Op PosixState PosixError

/-- An open inode of zeroes. -/
def OpenInode.zero : OpenInode := ⟨INODE_INVALID, 0, false, 0⟩

/-- A handle of zeroes. -/
def RedHandle.zero : RedHandle := ⟨none, false, false, false, false, false⟩

/-- A task slot of zeroes. -/
def TaskSlot.zero : TaskSlot := ⟨0, none⟩

/-- The type of a handle, as `FildesToHandle()` reads it from the flags. -/
def RedHandle.htype (h : RedHandle) : FType :=
  if h.fDirectory && !h.fSymlink then FTYPE_DIR
  else if deleteOpen && h.fSymlink && !h.fDirectory then FTYPE_SYMLINK
  else FTYPE_FILE

/-- `st_mode` of an inode, for its type. -/
def FileData.mode : FileData → Mode
  | .dir _ => .dir
  | .reg _ => .reg
  | .lnk _ => .lnk

namespace PosixState

/-! ## Parts of the state -/

/-- Change an open inode. -/
def setOpenIno (p : PosixState) (i : ℕ) (f : OpenInode → OpenInode) : PosixState :=
  { p with gaOpenInos := Function.update p.gaOpenInos i (f (p.gaOpenInos i)) }

/-- Change a handle. -/
def setHandle (p : PosixState) (h : ℕ) (f : RedHandle → RedHandle) : PosixState :=
  { p with gaHandle := Function.update p.gaHandle h (f (p.gaHandle h)) }

/-- Change a task slot. -/
def setTask (p : PosixState) (t : ℕ) (f : TaskSlot → TaskSlot) : PosixState :=
  { p with gaTask := Function.update p.gaTask t (f (p.gaTask t)) }

/-- Change a volume. -/
def setVolume (p : PosixState) (v : ℕ) (f : PosixVolume → PosixVolume) : PosixState :=
  { p with gaRedVolume := Function.update p.gaRedVolume v (f (p.gaRedVolume v)) }

/-- `gpRedVolume`. -/
def gpRedVolume (p : PosixState) : PosixVolume := p.gaRedVolume p.gbRedVolNum

/-! ## The core -/

/-- `RedCoreVolSetCurrent()`. -/
def redCoreVolSetCurrent (bVolNum : ℕ) : PosixOp Unit :=
  if volumeCount ≤ bVolNum then .fail .EINVAL
  else .modify fun p => { p with gbRedVolNum := bVolNum }

/-- The result of a function of the core. -/
def ofRed {α : Type} (r : Except RedError α) : PosixOp α := .ofExcept (r.mapError .red)

/-- Run a function of the core on the current volume. -/
def onCurrent {α : Type} (x : FS → DiskOp α) : PosixOp α := fun p =>
  let (ret, disk) := x p.gpRedVolume.geo p.gpRedVolume.disk
  (ret.mapError .red, p.setVolume p.gbRedVolNum fun vol => { vol with disk })

/-- Run a function of the core that needs a mounted volume. -/
def whenMounted {α : Type} (x : FS → DiskOp α) : PosixOp α := do
  let p ← .get
  if !p.gpRedVolume.fMounted then .fail .EINVAL else onCurrent x

/-- `RedCoreCreate()`. -/
def redCoreCreate (c : Circumstances) (ulPInode : ℕ) (pszName : CString) (uMode : Mode) :
    PosixOp ℕ :=
  whenMounted fun s =>
    NameDisk.coreRetry s c fun room => NameVolume.coreCreate s room ulPInode pszName uMode

/-- `RedCoreLink()`, `RedCoreUnlink()`, `RedCoreRename()`, `RedCoreFreeOrphan()`,
`RedCoreVolFreeOrphans()`, `RedCoreFileTruncate()`, `RedCoreVolTransact()`,
`RedCoreVolRollback()`: a call of the core. -/
def redCore (call : Call) : PosixOp Unit := whenMounted fun s => call.exec s

/-- `RedCoreLookup()`. -/
def redCoreLookup (ulPInode : ℕ) (pszName : CString) : PosixOp ℕ :=
  whenMounted fun s => NameDisk.onWorking (NameVolume.redCoreLookup s ulPInode pszName)

/-- `RedCoreStat()`, for `st_mode` and `st_nlink`. -/
def redCoreStat (ulInode : ℕ) : PosixOp (Mode × ℕ) :=
  whenMounted fun _ => NameDisk.onWorking do
    let ino ← NameVolume.redInodeMount ulInode
    pure (ino.data.mode, ino.uNLink)

/-- `RedCoreVolMount()` of a volume that is not mounted. -/
def redCoreVolMount (ulFlags : MountFlags) : PosixOp Unit := do
  onCurrent fun s => NameDisk.redVolMount s ulFlags
  .modify fun p => p.setVolume p.gbRedVolNum fun vol => { vol with fMounted := true }

/-- `RedCoreVolUnmount()`. -/
def redCoreVolUnmount (fTransact : Bool) : PosixOp Unit := do
  onCurrent fun _ => NameDisk.redCoreVolUnmount fTransact
  .modify fun p => p.setVolume p.gbRedVolNum fun vol => { vol with fMounted := false }

/-! ## Open inodes -/

/-- `OpenInoFind()`: the index of the open inode. -/
def openInoFind (bVolNum ulInode : ℕ) (fAlloc : Bool) : PosixOp (Option ℕ) := do
  let p ← .get
  let (pOpenIno, pFreeIno) := Refs.scan
    (fun i => (p.gaOpenInos i).ulInode == ulInode && (p.gaOpenInos i).bVolNum == bVolNum)
    (fun i => (p.gaOpenInos i).ulInode == INODE_INVALID) (List.range openInodeCount) none
  match pOpenIno with
  | some i => pure (some i)
  | none =>
    match fAlloc, pFreeIno with
    | true, some i => do
      .modify fun p => p.setOpenIno i fun _ => ⟨ulInode, bVolNum, false, 0⟩
      pure (some i)
    | _, _ => pure none

/-- `OpenInoDeref()`, as it is compiled with `REDCONF_API_POSIX_FRESERVE` 0: without the call of
`RedCoreFileUnreserve()`. The error of the cleanup is that of `RedCoreVolSetCurrent()` or that of
`RedCoreFreeOrphan()`. -/
def openInoDeref (pOpenIno : ℕ) (fDoCleanup fPropagateCleanupError : Bool) : PosixOp Unit := do
  let p ← .get
  let oi := p.gaOpenInos pOpenIno
  if openInodeCount ≤ pOpenIno then .fail .EINVAL
  else if oi.uRefs = 0 then .fail .EINVAL
  else
    .when (oi.uRefs = 1) do
      .when (deleteOpen ∧ fDoCleanup ∧ p.gpRedVolume.disk.fReadOnly = false) do
        let ret ← .attempt do
          redCoreVolSetCurrent oi.bVolNum
          .when oi.fOrphan (redCore (.freeOrphan oi.ulInode))
        .when fPropagateCleanupError (.ofExcept ret)
      .modify fun p => p.setOpenIno pOpenIno fun oi => { oi with ulInode := INODE_INVALID }
    .modify fun p => p.setOpenIno pOpenIno fun oi => { oi with uRefs := oi.uRefs - 1 }

/-- A reference to an open inode that has been found is counted; `uRefs` has 16 bits. -/
def openInoRef (pOpenIno : ℕ) : PosixOp Unit :=
  .modify fun p => p.setOpenIno pOpenIno fun oi => { oi with uRefs := (oi.uRefs + 1) % 65536 }

/-- `InodeUnlinkCheck()`. -/
def inodeUnlinkCheck (ulInode : ℕ) : PosixOp Unit := do
  let p ← .get
  match ← openInoFind p.gbRedVolNum ulInode false with
  | none => pure ()
  | some _ =>
    let (_, st_nlink) ← redCoreStat ulInode
    .when (st_nlink = 1) (.fail .EBUSY)

/-- The callers of `InodeUnlinkCheck()`: whether the inode is to be orphaned. -/
def unlinkOrphans (ulInode : ℕ) : PosixOp Bool := do
  match ← .attempt (inodeUnlinkCheck ulInode) with
  | .ok () => pure false
  | .error e => if deleteOpen ∧ e = .EBUSY then pure true else .fail e

/-- `InodeOrphaned()`. -/
def inodeOrphaned (ulInode : ℕ) : PosixOp Unit := do
  let p ← .get
  match ← openInoFind p.gbRedVolNum ulInode false with
  | none => pure ()
  | some i => .modify fun p => p.setOpenIno i fun oi => { oi with fOrphan := true }

/-! ## Handles -/

/-- `HandleFindFree()`. -/
def handleFindFree : PosixOp (Option ℕ) := do
  let p ← .get
  match (List.range handleCount).find? fun h => (p.gaHandle h).pOpenIno.isNone with
  | none => pure none
  | some h => do
    .modify fun p => p.setHandle h fun _ => .zero
    pure (some h)

/-- `HandleOpen()`. -/
def handleOpen (pHandle ulInode : ℕ) : PosixOp Unit := do
  let p ← .get
  match ← openInoFind p.gbRedVolNum ulInode true with
  | none =>
    .modify fun p => p.setHandle pHandle fun h => { h with pOpenIno := none }
    .fail .EFUBAR
  | some i =>
    openInoRef i
    .modify fun p => p.setHandle pHandle fun h => { h with pOpenIno := some i }

/-- `HandleClose()`; `fTransFlag` says that the event is in the transaction mask. -/
def handleClose (pHandle : ℕ) (fTransFlag : Bool) : PosixOp Unit := do
  let p ← .get
  if handleCount ≤ pHandle then .fail .EINVAL
  else
    match (p.gaHandle pHandle).pOpenIno with
    | none => .fail .EBADF
    | some i =>
      redCoreVolSetCurrent (p.gaOpenInos i).bVolNum
      let p ← .get
      .when (p.gpRedVolume.disk.fReadOnly = false ∧ p.gpRedVolume.fMounted = false) (.fail .EINVAL)
      let fTransacting := !p.gpRedVolume.disk.fReadOnly && fTransFlag
      openInoDeref i true fTransacting
      .modify fun p => p.setHandle pHandle fun h => { h with pOpenIno := none }
      let p ← .get
      .when (!p.gpRedVolume.disk.fReadOnly && fTransacting) (redCore .transact)

/-! ## File descriptors -/

/-- `FildesPack()`. -/
def fildesPack (p : PosixState) (uHandleIdx bVolNum : ℕ) : ℤ :=
  if handleCount ≤ uHandleIdx ∨ volumeCount ≤ bVolNum then -1
  else
    let ulFdBits := p.gauGeneration bVolNum
    let ulFdBits := ulFdBits <<< FD_VOL_BITS ||| bVolNum
    let ulFdBits := ulFdBits <<< FD_IDX_BITS ||| uHandleIdx
    if (ulFdBits : ℤ) < FD_MIN then -1 else ulFdBits

/-- `FildesUnpack()`: the index of the handle, the volume and the generation. -/
def fildesUnpack (iFildes : ℤ) : ℕ × ℕ × ℕ :=
  let ulFdBits := iFildes.toNat
  (ulFdBits &&& FD_IDX_MAX, ulFdBits >>> FD_IDX_BITS &&& FD_VOL_MAX,
    ulFdBits >>> FD_IDX_BITS >>> FD_VOL_BITS &&& FD_GEN_MAX)

/-- `FildesToHandle()`: the index of the handle. -/
def fildesToHandle (p : PosixState) (iFildes : ℤ) (expectedType : FType) : Except RedError ℕ :=
  if iFildes < FD_MIN then .error .EBADF
  else
    let (uHandleIdx, bVolNum, uGeneration) := fildesUnpack iFildes
    if handleCount ≤ uHandleIdx ∨ volumeCount ≤ bVolNum then .error .EBADF
    else
      match (p.gaHandle uHandleIdx).pOpenIno with
      | none => .error .EBADF
      | some i =>
        if (p.gaOpenInos i).bVolNum ≠ bVolNum ∨ p.gauGeneration bVolNum ≠ uGeneration then
          .error .EBADF
        else do
          redFileTypeCheck (p.gaHandle uHandleIdx).htype expectedType
          .ok uHandleIdx

/-! ## Working directories -/

/-- `CwdClose()`. -/
def cwdClose (pTask : ℕ) (fClearVol fReset : Bool) : PosixOp Unit := do
  let p ← .get
  match (p.gaTask pTask).pCwd with
  | some i => openInoDeref i (!fReset) false
  | none => pure ()
  let p ← .get
  let pCwd ← openInoFind (if fClearVol then 0 else p.gbRedVolNum) INODE_ROOTDIR true
  .modify fun p => p.setTask pTask fun task => { task with pCwd := pCwd }
  match pCwd with
  | some i => openInoRef i
  | none => .fail .EFUBAR

/-- The loop of `CwdCloseVol()`, over the task slots. -/
def cwdCloseVolLoop (fReset : Bool) : List ℕ → PosixOp Unit
  | [] => pure ()
  | ulIdx :: rest => do
    let p ← .get
    match (p.gaTask ulIdx).pCwd with
    | some i =>
      .when ((p.gaOpenInos i).bVolNum = p.gbRedVolNum) (cwdClose ulIdx false fReset)
    | none => pure ()
    cwdCloseVolLoop fReset rest

/-- `CwdCloseVol()`. -/
def cwdCloseVol (fReset : Bool) : PosixOp Unit := cwdCloseVolLoop fReset (List.range taskCount)

/-- The loop of `CwdResetAll()`, which ignores errors. -/
def cwdResetAllLoop : List ℕ → PosixOp Unit
  | [] => pure ()
  | ulIdx :: rest => do
    let _ ← .attempt (cwdClose ulIdx true true)
    cwdResetAllLoop rest

/-- `CwdResetAll()`. -/
def cwdResetAll : PosixOp Unit := cwdResetAllLoop (List.range taskCount)

/-! ## Tasks -/

/-- `TaskFind()`. -/
def taskFind (p : PosixState) (ulTaskId : ℕ) : Option ℕ :=
  (List.range taskCount).find? fun t => (p.gaTask t).ulTaskId == ulTaskId

/-- `TaskRegister()`. -/
def taskRegister (ulTaskId : ℕ) : PosixOp (Option ℕ) := do
  let p ← .get
  let (pTask, pFreeTask) := Refs.scan (fun t => (p.gaTask t).ulTaskId == ulTaskId)
    (fun t => (p.gaTask t).ulTaskId == 0) (List.range taskCount) none
  match pTask, pFreeTask with
  | some t, _ => pure (some t)
  | none, some t => do
    .modify fun p => p.setTask t fun task => { task with ulTaskId }
    pure (some t)
  | none, none => pure none

/-- `TaskUnregister()`. -/
def taskUnregister (ulTaskId : ℕ) : PosixOp Unit := do
  let p ← .get
  match p.taskFind ulTaskId with
  | none => .fail .ENOENT
  | some t =>
    .modify fun p => p.setTask t fun task => { task with ulTaskId := 0 }
    cwdClose t true false

/-- `PosixEnter()`, of the task `ulTaskId`. -/
def posixEnter (ulTaskId : ℕ) : PosixOp Unit := do
  let p ← .get
  if p.gfPosixInited then
    match ← taskRegister ulTaskId with
    | some _ => pure ()
    | none => .fail .EUSERS
  else .fail .EINVAL

/-! ## Paths -/

/-- What a path function leaves: the volume it has made the current one, and its result. -/
structure Found (α : Type) where
  bVolNum : Option ℕ
  ret : Except RedError α

/-- `PathStartingPoint()` or `RedPathVolumeLookup()`. -/
def path {α : Type} (r : Found α) : PosixOp α := do
  match r.bVolNum with
  | some bVolNum => redCoreVolSetCurrent bVolNum
  | none => pure ()
  ofRed r.ret

/-! ## Opening -/

/-- `RED_O_*`. -/
structure OpenFlags where
  fRdOnly : Bool
  fWrOnly : Bool
  fRdWr : Bool
  fAppend : Bool
  fCreat : Bool
  fExcl : Bool
  fTrunc : Bool
  fNoFollow : Bool
  fSymlink : Bool

/-- What the path of `FildesOpen()` names: `name` is what `RedPathToName()` returns, and `inode`
what `RedPathLookup()` returns. -/
structure OpenPath where
  start : Found Unit
  name : Except RedError (ℕ × CString)
  inode : Except RedError ℕ

/-- The part of `FildesOpen()` that looks for the inode: its number, and whether it has been
created. -/
def fildesLookup (c : Circumstances) (path : OpenPath) (ulOpenFlags : OpenFlags) (uMode : Mode) :
    PosixOp (ℕ × Bool) := do
  if ulOpenFlags.fCreat then
    match path.name with
    | .ok (ulPInode, pszName) =>
      match ← .attempt (redCoreCreate c ulPInode pszName uMode) with
      | .ok ulInode => pure (ulInode, true)
      | .error e =>
        if e = .EROFS ∨ e = .EEXIST ∧ !ulOpenFlags.fExcl then
          match ← .attempt (redCoreLookup ulPInode pszName) with
          | .ok ulInode =>
            if e = .EROFS ∧ ulOpenFlags.fExcl then .fail .EEXIST else pure (ulInode, false)
          | .error e' => .fail (if e = .EROFS ∧ e' = .ENOENT then .EROFS else e')
        else .fail e
    | .error e =>
      if e = .EISDIR then
        if ulOpenFlags.fExcl then .fail (if ulOpenFlags.fRdOnly then .EEXIST else .EISDIR)
        else pure (INODE_ROOTDIR, false)
      else .fail (.red e)
  else do
    let ulInode ← ofRed path.inode
    pure (ulInode, false)

/-- The checks of `FildesOpen()` on an inode that it has not created, and its truncation: the mode
of the inode. -/
def fildesCheck (ulOpenFlags : OpenFlags) (type : FType) (ulInode : ℕ) : PosixOp Mode := do
  let (uMode, _) ← redCoreStat ulInode
  ofRed (match redModeTypeCheck uMode type with
    | .error .ENOLINK => .error (if deleteOpen ∧ ulOpenFlags.fNoFollow then .ELOOP else .ENOLINK)
    | ret => ret)
  if uMode = .dir ∧ !ulOpenFlags.fRdOnly then .fail .EISDIR
  else
    .when ulOpenFlags.fTrunc (redCore (.fileData ulInode []))
    pure uMode

/-- `FildesOpen()`: the file descriptor. -/
def fildesOpen (c : Circumstances) (path : OpenPath) (ulOpenFlags : OpenFlags) (type : FType)
    (uMode : Mode) : PosixOp ℤ := do
  PosixState.path path.start
  let p ← .get
  if p.gpRedVolume.disk.fReadOnly ∧
      (ulOpenFlags.fWrOnly ∨ ulOpenFlags.fRdWr ∨ ulOpenFlags.fTrunc) then .fail .EROFS
  else
    match ← handleFindFree with
    | none => .fail .EMFILE
    | some pHandle =>
      let (ulInode, fCreated) ← fildesLookup c path ulOpenFlags uMode
      let uMode ← if fCreated then pure uMode else fildesCheck ulOpenFlags type ulInode
      handleOpen pHandle ulInode
      .modify fun p => p.setHandle pHandle fun h => { h with
        fDirectory := h.fDirectory || uMode == .dir
        fSymlink := h.fSymlink || deleteOpen && uMode == .lnk
        fReadable := h.fReadable || ulOpenFlags.fRdOnly || ulOpenFlags.fRdWr
        fWriteable := h.fWriteable || ulOpenFlags.fWrOnly || ulOpenFlags.fRdWr
        fAppending := h.fAppending || ulOpenFlags.fAppend }
      let p ← .get
      let iFildes := p.fildesPack pHandle p.gbRedVolNum
      if iFildes = -1 then .fail .EFUBAR else pure iFildes

end PosixState

end RelianceEdge
