import RelianceEdge.Handle.Model

set_option relaxedAutoImplicit false
set_option autoImplicit false
set_option linter.unusedSectionVars false

/-!
# The calls of the POSIX-like API

The functions of `posix.c` that open and close, mount and unmount, make and remove names, and
change working directories, in a build with `REDCONF_API_POSIX_FRESERVE` 0. Each one is called by a
task, which becomes a user of the file system if there is a slot for it. The transaction mask is an
argument of each call; neither `red_format2()` nor the target that `red_symlink()` writes is among
the calls.

## Main definitions

* `PosixCall` — a call, with its arguments and with what the path functions find.
* `PosixCall.exec` — what it does.
-/

namespace RelianceEdge

variable [PosixConf]

open RedConf PosixConf

namespace PosixState

/-! ## The driver -/

/-- `RedCoreInit()`: nothing is mounted. The clock and the mutex of the system may fail. -/
def redCoreInit (os : Except RedError Unit) : PosixOp Unit := do
  .modify fun p => { p with gaRedVolume := fun v =>
    { p.gaRedVolume v with
      fMounted := false
      disk := { (p.gaRedVolume v).disk with fBranched := false, fReadOnly := false } } }
  ofRed os

/-- `red_init()`. -/
def redInit (os : Except RedError Unit) : PosixOp Unit := do
  let p ← .get
  .when (p.gfPosixInited = false) do
    redCoreInit os
    .modify fun p => { p with
      gaHandle := fun _ => .zero
      gaOpenInos := fun _ => .zero
      gaTask := fun _ => .zero }
    cwdResetAll
    .modify fun p => { p with gfPosixInited := true }

/-- `red_uninit()`; the uninitialization of the system may fail. -/
def redUninit (os : Except RedError Unit) : PosixOp Unit := do
  let p ← .get
  .when p.gfPosixInited do
    if (List.range volumeCount).any fun v => (p.gaRedVolume v).fMounted then .fail .EBUSY
    else
      .modify fun p => { p with gfPosixInited := false }
      ofRed os

/-- The power fails: what is in memory is lost. -/
def powerLoss : PosixOp Unit := .modify fun p =>
  { gfPosixInited := false
    gaOpenInos := fun _ => .zero
    gaHandle := fun _ => .zero
    gaTask := fun _ => .zero
    gauGeneration := fun _ => 0
    gbRedVolNum := 0
    gaRedVolume := fun v =>
      { p.gaRedVolume v with
        fMounted := false
        disk := { (p.gaRedVolume v).disk with fBranched := false, fReadOnly := false } } }

/-- `red_taskregister()`, of the task `ulTaskId`. -/
def redTaskregister (ulTaskId : ℕ) : PosixOp Unit := do
  let p ← .get
  if p.gfPosixInited then
    match ← taskRegister ulTaskId with
    | some _ => pure ()
    | none => .fail .EUSERS
  else .fail .EINVAL

/-- `red_taskunregister()`, of the task `ulTaskId`. -/
def redTaskunregister (ulTaskId : ℕ) : PosixOp Unit := do
  let p ← .get
  if p.gfPosixInited then taskUnregister ulTaskId else .fail .EINVAL

/-! ## Volumes -/

/-- `red_mount2()`. -/
def redMount2 (volume : Found Unit) (ulFlags : MountFlags) : PosixOp Unit := do
  path volume
  let p ← .get
  if p.gpRedVolume.fMounted then .fail .EBUSY
  else
    redCoreVolMount ulFlags
    .modify fun p => { p with
      gauGeneration := Function.update p.gauGeneration p.gbRedVolNum
        (if FD_GEN_MAX < p.gauGeneration p.gbRedVolNum + 1 then 1
        else p.gauGeneration p.gbRedVolNum + 1) }

/-- The loop of `red_umount2()` over the handles. -/
def umountLoop (fForce : Bool) : List ℕ → PosixOp Unit
  | [] => pure ()
  | uHandleIdx :: rest => do
    let p ← .get
    match (p.gaHandle uHandleIdx).pOpenIno with
    | some i =>
      .when ((p.gaOpenInos i).bVolNum = p.gbRedVolNum)
        (if fForce then handleClose uHandleIdx false else .fail .EBUSY)
    | none => pure ()
    umountLoop fForce rest

/-- `red_umount2()`; `fTransact` says that `RED_TRANSACT_UMOUNT` is in the transaction mask. -/
def redUmount2 (volume : Found Unit) (fForce fTransact : Bool) : PosixOp Unit := do
  path volume
  let p ← .get
  if !p.gpRedVolume.fMounted then .fail .EINVAL
  else
    umountLoop fForce (List.range handleCount)
    cwdCloseVol false
    redCoreVolUnmount fTransact

/-- Whether a handle of the current volume is open, for `red_rollback()`. -/
def hasHandles (p : PosixState) : Bool := (List.range handleCount).any fun h =>
  (p.gaHandle h).pOpenIno.any fun i => (p.gaOpenInos i).bVolNum == p.gbRedVolNum

/-- `red_rollback()`. -/
def redRollback (volume : Found Unit) : PosixOp Unit := do
  path volume
  let p ← .get
  if p.hasHandles then .fail .EBUSY
  else
    redCore .rollback
    let _ ← .attempt (cwdCloseVol true)

/-- `red_transact()`. -/
def redTransact (volume : Found Unit) : PosixOp Unit := do
  path volume
  redCore .transact

/-- `red_freeorphans()`. -/
def redFreeorphans (volume : Found Unit) (ulCount : ℕ) : PosixOp Unit := do
  path volume
  redCore (.freeOrphans ulCount)

/-! ## Files -/

/-- The check of the flags in `red_openat()`. -/
def OpenFlags.areValid (f : OpenFlags) : Bool :=
  (f.fRdOnly && !f.fWrOnly && !f.fRdWr || !f.fRdOnly && f.fWrOnly && !f.fRdWr ||
    !f.fRdOnly && !f.fWrOnly && f.fRdWr) && !(f.fTrunc && f.fRdOnly) &&
  !(f.fExcl && !f.fCreat) && (deleteOpen || !f.fSymlink) && !(f.fNoFollow && f.fSymlink)

/-- `red_openat()`: the file descriptor. -/
def redOpenat (c : Circumstances) (path : OpenPath) (ulOpenFlags : OpenFlags) : PosixOp ℤ :=
  if !ulOpenFlags.areValid then .fail .EINVAL
  else if ulOpenFlags.fSymlink then fildesOpen c path ulOpenFlags FTYPE_SYMLINK .lnk
  else fildesOpen c path ulOpenFlags ⟨true, true, false⟩ .reg

/-- The flags of `red_opendir()`. -/
def rdOnly : OpenFlags := ⟨true, false, false, false, false, false, false, false, false⟩

/-- `red_opendir()`: the index of the handle. -/
def redOpendir (c : Circumstances) (path : OpenPath) : PosixOp ℕ := do
  let iFildes ← fildesOpen c path rdOnly FTYPE_DIR .invalid
  pure (fildesUnpack iFildes).1

/-- `red_close()`, with `FildesClose()`. -/
def redClose (iFildes : ℤ) (fTransact : Bool) : PosixOp Unit := do
  let p ← .get
  let pHandle ← ofRed (p.fildesToHandle iFildes FTYPE_ANY)
  handleClose pHandle fTransact

/-- `DirStreamIsValid()`, of a pointer to a handle. -/
def dirStreamIsValid (p : PosixState) (pDirStream : ℕ) : Bool :=
  decide (pDirStream < handleCount) &&
    ((p.gaHandle pDirStream).pOpenIno.any fun i =>
      decide ((p.gaOpenInos i).bVolNum < volumeCount)) && (p.gaHandle pDirStream).fDirectory

/-- `red_closedir()`. -/
def redClosedir (pDirStream : ℕ) : PosixOp Unit := do
  let p ← .get
  if p.dirStreamIsValid pDirStream then handleClose pDirStream false else .fail .EBADF

/-- The inode of a handle that is open for writing: the start of `red_write()`, `red_pwrite()` and
`red_ftruncate()`. -/
def writeable (iFildes : ℤ) : PosixOp ℕ := do
  let p ← .get
  let ret := match p.fildesToHandle iFildes FTYPE_NOTDIR with
    | .error .EISDIR => .error .EBADF
    | ret => ret
  let pHandle ← ofRed ret
  if !(p.gaHandle pHandle).fWriteable then .fail .EBADF
  else
    match (p.gaHandle pHandle).pOpenIno with
    | none => .fail .EBADF
    | some i =>
      redCoreVolSetCurrent (p.gaOpenInos i).bVolNum
      pure (p.gaOpenInos i).ulInode

/-- `red_write()`, `red_pwrite()` or `red_ftruncate()`, for the data that they leave. -/
def redWrite (iFildes : ℤ) (data : List UInt8) : PosixOp Unit := do
  let ulInode ← writeable iFildes
  redCore (.fileData ulInode data)

/-! ## Names -/

/-- `red_mkdirat()`, and `red_symlink()` up to where it writes the target. -/
def redMknod (c : Circumstances) (name : Found (ℕ × CString)) (uMode : Mode) : PosixOp ℕ := do
  let (ulPInode, pszName) ← path name
  redCoreCreate c ulPInode pszName uMode

/-- Two starting points, on one volume. -/
def pathTwice (start start' : Found Unit) : PosixOp Unit := do
  path start
  let p ← .get
  path start'
  let q ← .get
  .when (p.gbRedVolNum ≠ q.gbRedVolNum) (.fail .EXDEV)

/-- `red_linkat()`: `inode` is what `RedPathLookup()` returns for the one path, and `link` what
`RedPathToName()` returns for the other. -/
def redLinkat (c : Circumstances) (start start' : Found Unit) (inode : Except RedError ℕ)
    (link : Except RedError (ℕ × CString)) : PosixOp Unit := do
  pathTwice start start'
  let ulInode ← ofRed inode
  let (ulLinkPInode, pszLinkName) ← ofRed link
  redCore (.link c ulLinkPInode pszLinkName ulInode)

/-- `red_unlinkat()`, with `RED_AT_REMOVEDIR` or without it. -/
def redUnlinkat (c : Circumstances) (name : Found (ℕ × CString)) (fRemoveDir : Bool) :
    PosixOp Unit := do
  let (ulPInode, pszName) ← path name
  let ulInode ← redCoreLookup ulPInode pszName
  .when fRemoveDir do
    let (st_mode, _) ← redCoreStat ulInode
    ofRed (match redModeTypeCheck st_mode FTYPE_DIR with
      | .error .ENOLINK => .error .ENOTDIR
      | ret => ret)
  let fOrphan ← unlinkOrphans ulInode
  redCore (.unlink c ulPInode pszName fOrphan)
  .when fOrphan (inodeOrphaned ulInode)

/-- The part of `red_renameat()` that looks for the destination: the inode that it names, if there
is one, and whether it is to be orphaned. -/
def renameDest (ulNewPInode : ℕ) (pszNewName : CString) : PosixOp (ℕ × Bool) := do
  match ← .attempt (redCoreLookup ulNewPInode pszNewName) with
  | .ok ulDestInode => do
    let fOrphan ← unlinkOrphans ulDestInode
    pure (ulDestInode, fOrphan)
  | .error e => if e = .ENOENT then pure (INODE_INVALID, false) else .fail e

/-- `red_renameat()`: `old` and `new` are what `RedPathToName()` returns for the two paths. -/
def redRenameat (c : Circumstances) (start start' : Found Unit)
    (old new : Except RedError (ℕ × CString)) : PosixOp Unit := do
  pathTwice start start'
  let (ulOldPInode, pszOldName) ← ofRed old
  let (ulNewPInode, pszNewName) ← ofRed new
  let (ulDestInode, fOrphan) ← renameDest ulNewPInode pszNewName
  redCore (.rename c ulOldPInode pszOldName ulNewPInode pszNewName fOrphan)
  .when fOrphan (inodeOrphaned ulDestInode)

/-- `red_chdir()`, by the task `ulTaskId`. -/
def redChdir (ulTaskId : ℕ) (start : Found Unit) (inode : Except RedError ℕ) : PosixOp Unit := do
  path start
  let p ← .get
  let bVolNum := p.gbRedVolNum
  let ulInode ← ofRed inode
  .when (ulInode ≠ INODE_ROOTDIR) do
    let (st_mode, _) ← redCoreStat ulInode
    .when (st_mode ≠ .dir) (.fail (.red .ENOTDIR))
  let p ← .get
  match p.taskFind ulTaskId with
  | none => .fail .EFUBAR
  | some pTask =>
    match (p.gaTask pTask).pCwd with
    | none => .fail .EFUBAR
    | some i =>
      openInoDeref i true false
      let pCwd ← openInoFind bVolNum ulInode true
      .modify fun p => p.setTask pTask fun task => { task with pCwd }
      match pCwd with
      | some i => openInoRef i
      | none => .fail .EFUBAR

end PosixState

open PosixState

/-- **A call of the API**, by the task `ulTaskId` where it makes the task a user. -/
inductive PosixCall
  | init (os : Except RedError Unit)
  | uninit (os : Except RedError Unit)
  | powerLoss
  | taskregister (ulTaskId : ℕ)
  | taskunregister (ulTaskId : ℕ)
  | mount2 (ulTaskId : ℕ) (volume : Found Unit) (ulFlags : MountFlags)
  | umount2 (ulTaskId : ℕ) (volume : Found Unit) (fForce fTransact : Bool)
  | rollback (ulTaskId : ℕ) (volume : Found Unit)
  | transact (ulTaskId : ℕ) (volume : Found Unit)
  | freeorphans (ulTaskId : ℕ) (volume : Found Unit) (ulCount : ℕ)
  | openat (ulTaskId : ℕ) (c : Circumstances) (path : OpenPath) (ulOpenFlags : OpenFlags)
  | opendir (ulTaskId : ℕ) (c : Circumstances) (path : OpenPath)
  | close (ulTaskId : ℕ) (iFildes : ℤ) (fTransact : Bool)
  | closedir (ulTaskId : ℕ) (pDirStream : ℕ)
  | write (ulTaskId : ℕ) (iFildes : ℤ) (data : List UInt8)
  | mknod (ulTaskId : ℕ) (c : Circumstances) (name : Found (ℕ × CString)) (uMode : Mode)
  | linkat (ulTaskId : ℕ) (c : Circumstances) (start start' : Found Unit)
      (inode : Except RedError ℕ) (link : Except RedError (ℕ × CString))
  | unlinkat (ulTaskId : ℕ) (c : Circumstances) (name : Found (ℕ × CString)) (fRemoveDir : Bool)
  | renameat (ulTaskId : ℕ) (c : Circumstances) (start start' : Found Unit)
      (old new : Except RedError (ℕ × CString))
  | chdir (ulTaskId : ℕ) (start : Found Unit) (inode : Except RedError ℕ)

/-- **What a call does.** Its result is a file descriptor, a handle, an inode or zero. -/
def PosixCall.exec : PosixCall → PosixOp ℤ
  | .init os => do redInit os; pure 0
  | .uninit os => do redUninit os; pure 0
  | .powerLoss => do PosixState.powerLoss; pure 0
  | .taskregister ulTaskId => do redTaskregister ulTaskId; pure 0
  | .taskunregister ulTaskId => do redTaskunregister ulTaskId; pure 0
  | .mount2 ulTaskId volume ulFlags => do posixEnter ulTaskId; redMount2 volume ulFlags; pure 0
  | .umount2 ulTaskId volume fForce fTransact => do
    posixEnter ulTaskId
    redUmount2 volume fForce fTransact
    pure 0
  | .rollback ulTaskId volume => do posixEnter ulTaskId; redRollback volume; pure 0
  | .transact ulTaskId volume => do posixEnter ulTaskId; redTransact volume; pure 0
  | .freeorphans ulTaskId volume ulCount => do
    posixEnter ulTaskId
    redFreeorphans volume ulCount
    pure 0
  | .openat ulTaskId c path ulOpenFlags => do posixEnter ulTaskId; redOpenat c path ulOpenFlags
  | .opendir ulTaskId c path => do
    posixEnter ulTaskId
    let h ← redOpendir c path
    pure h
  | .close ulTaskId iFildes fTransact => do posixEnter ulTaskId; redClose iFildes fTransact; pure 0
  | .closedir ulTaskId pDirStream => do posixEnter ulTaskId; redClosedir pDirStream; pure 0
  | .write ulTaskId iFildes data => do posixEnter ulTaskId; redWrite iFildes data; pure 0
  | .mknod ulTaskId c name uMode => do
    posixEnter ulTaskId
    let i ← redMknod c name uMode
    pure i
  | .linkat ulTaskId c start start' inode link => do
    posixEnter ulTaskId
    redLinkat c start start' inode link
    pure 0
  | .unlinkat ulTaskId c name fRemoveDir => do
    posixEnter ulTaskId
    redUnlinkat c name fRemoveDir
    pure 0
  | .renameat ulTaskId c start start' old new => do
    posixEnter ulTaskId
    redRenameat c start start' old new
    pure 0
  | .chdir ulTaskId start inode => do
    posixEnter ulTaskId
    redChdir ulTaskId start inode
    pure 0

/-- The state a call leaves, whether it succeeds or fails. -/
def PosixCall.run (call : PosixCall) (p : PosixState) : PosixState := (call.exec p).2

end RelianceEdge
