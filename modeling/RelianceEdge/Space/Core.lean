import RelianceEdge.Space.DirData

set_option relaxedAutoImplicit false
set_option autoImplicit false
set_option linter.unusedSectionVars false

/-!
# Operations on names

The functions of `core.c` that create, link, unlink, rename and enumerate names, with what they
use of `dir.c` and `inode.c`, over the inodes of a mounted volume. An operation that fails, also
for lack of space, leaves the names as they were: what it had done is undone before it returns.

## Main definitions

* `FileNode`, `Space` — an inode with its data, and the inodes of a volume.
* `Space.coreCreate`, `Space.coreLink`, `Space.coreUnlink`, `Space.coreRename`,
  `Space.redCoreFreeOrphan` — operations on names.
* `Space.redCoreDirRead` — the next entry of a directory.
* `Space.Step` — one operation through the POSIX-like API.
-/

namespace RelianceEdge

variable [RedConf]

open RedConf

/-- The data of an inode, by its type. -/
inductive FileData
  | dir (d : DirData)
  | reg (data : List UInt8)
  | lnk (target : List UInt8)

/-- `INODE`, as far as names go. -/
structure FileNode where
  uNLink : ℕ
  ulPInode : ℕ
  data : FileData

/-- **The inodes of a volume**: those in use, by their numbers. -/
structure Space where
  node : ℕ → Option FileNode

namespace FileData

/-- The data of a new inode. -/
def new : Mode → FileData
  | .dir => .dir .empty
  | .lnk => .lnk []
  | _ => .reg []

/-- `CINODE::fDirectory`. -/
def fDirectory : FileData → Bool
  | .dir _ => true
  | _ => false

end FileData

namespace Space

variable (s : FS) (sp : Space)

/-! ## Inodes -/

/-- Replace an inode. -/
def set (ulInode : ℕ) (ino : Option FileNode) : Space := ⟨Function.update sp.node ulInode ino⟩

/-- Change an inode that is in use. -/
def modify (ulInode : ℕ) (f : FileNode → FileNode) : Space :=
  sp.set ulInode ((sp.node ulInode).map f)

/-- Change the data of a directory. -/
def setDir (ulInode : ℕ) (d : DirData) : Space :=
  sp.modify ulInode fun ino => { ino with data := .dir d }

/-- `RedInodeMount()` with `FTYPE_ANY`. -/
def mount (ulInode : ℕ) : Except RedError FileNode :=
  match sp.node ulInode with
  | none => .error .EBADF
  | some ino => .ok ino

/-- `RedInodeMount()` with `FTYPE_DIR`. -/
def mountDir (ulInode : ℕ) : Except RedError (FileNode × DirData) := do
  let ino ← sp.mount ulInode
  match ino.data with
  | .dir d => .ok (ino, d)
  | .reg _ => .error .ENOTDIR
  | .lnk _ => .error .ENOLINK

/-- `RedInodeLinkDec()`. -/
def redInodeLinkDec (ulInode : ℕ) (fOrphan : Bool) : Except RedError Space := do
  let ino ← sp.mount ulInode
  if 1 < ino.uNLink then
    .ok (sp.modify ulInode fun ino => { ino with uNLink := ino.uNLink - 1 })
  else if deleteOpen && fOrphan then
    .ok (sp.modify ulInode fun ino => { ino with uNLink := 0, ulPInode := INODE_INVALID })
  else .ok (sp.set ulInode none)

/-- `RedCoreFreeOrphan()`. -/
def redCoreFreeOrphan (ulInode : ℕ) : Except RedError Space := do
  let ino ← sp.mount ulInode
  if ino.uNLink ≠ 0 ∨ ino.ulPInode ≠ INODE_INVALID then .error .EFUBAR
  else .ok (sp.set ulInode none)

/-! ## Creating, linking and unlinking -/

/-- `CoreCreate()`, where `RedInodeCreate()` has chosen the free inode `ulInode`. -/
def coreCreate (ulInode ulPInode : ℕ) (pszName : CString) (uMode : Mode) :
    Except RedError Space := do
  let (_, d) ← sp.mountDir ulPInode
  let d ← d.redDirEntryCreate s pszName ulInode
  .ok ((sp.setDir ulPInode d).set ulInode (some ⟨1, ulPInode, .new uMode⟩))

/-- `CoreLink()`. -/
def coreLink (ulPInode : ℕ) (pszName : CString) (ulInode : ℕ) : Except RedError Space := do
  let (_, d) ← sp.mountDir ulPInode
  let ino ← sp.mount ulInode
  if ino.data.fDirectory then .error .EPERM
  else if ino.uNLink = UINT16_MAX then .error .EMLINK
  else
    let d ← d.redDirEntryCreate s pszName ulInode
    .ok ((sp.setDir ulPInode d).modify ulInode fun ino => { ino with uNLink := ino.uNLink + 1 })

/-- Whether an inode may lose its name: a directory has to be empty. -/
def mayRemove (ino : FileNode) : Bool :=
  match ino.data with
  | .dir d => d.ullSize == 0
  | _ => true

/-- `CoreUnlink()`. -/
def coreUnlink (ulPInode : ℕ) (pszName : CString) (fOrphan : Bool) : Except RedError Space := do
  if !deleteOpen && fOrphan then .error .EINVAL
  else
    let (_, d) ← sp.mountDir ulPInode
    let (found, ulDeleteIdx) ← d.redDirEntryLookup s pszName
    match found with
    | none => .error .ENOENT
    | some de =>
      let ino ← sp.mount de.ulInode
      if !mayRemove ino then .error .ENOTEMPTY
      else
        let d ← d.redDirEntryDelete s ulDeleteIdx
        (sp.setDir ulPInode d).redInodeLinkDec de.ulInode fOrphan

/-! ## Renaming -/

/-- The loop of `DirCyclicRenameCheck()`, over the iterations left: how many were left when it
stopped, and the parent it stopped at. -/
def dirCyclicLoop (ulSrcInode : ℕ) : ℕ → ℕ → Except RedError (ℕ × ℕ)
  | 0, ulNextParent => .ok (0, ulNextParent)
  | n + 1, ulNextParent => do
    if ulNextParent = ulSrcInode ∨ ulNextParent = INODE_ROOTDIR ∨ ulNextParent = INODE_INVALID then
      .ok (n + 1, ulNextParent)
    else
      let (ino, _) ← sp.mountDir ulNextParent
      dirCyclicLoop ulSrcInode n ino.ulPInode

/-- `DirCyclicRenameCheck()`. -/
def dirCyclicRenameCheck (ulSrcInode ulDstPInode : ℕ) : Except RedError Unit := do
  if ulSrcInode = ulDstPInode then .error .EINVAL
  else
    let (ino, _) ← sp.mountDir ulDstPInode
    let (ulLeft, ulNextParent) ← sp.dirCyclicLoop ulSrcInode s.core.ulInodeCount ino.ulPInode
    if ulLeft = 0 then .error .EFUBAR
    else if ulSrcInode = ulNextParent then .error .EINVAL
    else .ok ()

/-- The part of `RedDirEntryRename()` that mounts the inode which loses its name to the source: it
has the type of the source, and a directory is empty. -/
def mountReplaced (fSrcDirectory : Bool) (ulDstInode : ℕ) : Except RedError Unit :=
  if fSrcDirectory then do
    let (_, d) ← sp.mountDir ulDstInode
    if d.ullSize = 0 then .ok () else .error .ENOTEMPTY
  else do
    let ino ← sp.mount ulDstInode
    if ino.data.fDirectory then .error .EISDIR else .ok ()

/-- The part of `RedDirEntryRename()` that writes the destination entry and deletes the source
entry. The parents may be one directory. -/
def dirEntryMove (ulSrcPInode ulSrcIdx ulDstPInode ulDstIdx : ℕ) (de : Dirent) :
    Except RedError Space := do
  let (_, dDst) ← sp.mountDir ulDstPInode
  let dDst ← dDst.dirEntryWrite s ulDstIdx (some de)
  let sp := sp.setDir ulDstPInode dDst
  let (_, dSrc) ← sp.mountDir ulSrcPInode
  let dSrc ← dSrc.redDirEntryDelete s ulSrcIdx
  let sp := sp.setDir ulSrcPInode dSrc
  .ok (sp.modify de.ulInode fun ino => { ino with ulPInode := ulDstPInode })

/-- The part of `RedDirEntryRename()` after the lookups, for the source entry and the entry in its
place, if there is one. -/
def dirEntryRename (ulSrcPInode ulSrcIdx ulSrcInode ulDstPInode ulDstIdx : ℕ)
    (dst : Option Dirent) (pszDstName : CString) : Except RedError Space := do
  let srcIno ← sp.mount ulSrcInode
  match dst with
  | some dst => sp.mountReplaced srcIno.data.fDirectory dst.ulInode
  | none => pure ()
  if srcIno.data.fDirectory then sp.dirCyclicRenameCheck s ulSrcInode ulDstPInode
  let de ← DirData.newDirent pszDstName ulSrcInode
  sp.dirEntryMove s ulSrcPInode ulSrcIdx ulDstPInode ulDstIdx de

/-- `CoreRename()`, with `RedDirEntryRename()`. -/
def coreRename (ulSrcPInode : ℕ) (pszSrcName : CString) (ulDstPInode : ℕ) (pszDstName : CString)
    (fOrphan : Bool) : Except RedError Space := do
  if !deleteOpen && fOrphan then .error .EINVAL
  else
    let (_, dSrc) ← sp.mountDir ulSrcPInode
    let (_, dDst) ← sp.mountDir ulDstPInode
    if isDotOrDotDot pszDstName (redNameLen pszDstName) then .error .EINVAL
    else
      let (src, ulSrcIdx) ← dSrc.redDirEntryLookup s pszSrcName
      match src with
      | none => .error .ENOENT
      | some src =>
        let (dst, ulDstIdx) ← dDst.redDirEntryLookup s pszDstName
        match dst with
        | none =>
          if ulDstIdx = DIR_INDEX_INVALID then .error .ENOSPC
          else
            sp.dirEntryRename s ulSrcPInode ulSrcIdx src.ulInode ulDstPInode ulDstIdx none
              pszDstName
        | some dst =>
          -- two names of one inode are both kept
          if src.ulInode = dst.ulInode then .ok sp
          else
            let sp ← sp.dirEntryRename s ulSrcPInode ulSrcIdx src.ulInode ulDstPInode ulDstIdx
              (some dst) pszDstName
            sp.redInodeLinkDec dst.ulInode fOrphan

/-! ## Enumerating -/

/-- `RedCoreDirRead()`: the position for the next call, and the entry; without one the status is
`-RED_ENOENT`. -/
def redCoreDirRead (ulInode ulPos : ℕ) : Except RedError (ℕ × Option Dirent) := do
  let (_, d) ← sp.mountDir ulInode
  d.redDirEntryRead s ulPos

/-! ## Runs -/

/-- `RedCoreDirParent()` knows the parent: the path functions go on from no other directory. -/
def HasParent (ulInode : ℕ) : Prop :=
  ulInode = INODE_ROOTDIR ∨ ∃ ino, sp.node ulInode = some ino ∧ ino.ulPInode ≠ INODE_INVALID

/-- **One operation** through the POSIX-like API. Names are only looked for and made in
directories that have not been removed; the data of files changes in any way. -/
inductive Step : Space → Space → Prop
  | create {sp sp' : Space} {ulInode ulPInode : ℕ} {pszName : CString} {uMode : Mode}
      (hp : sp.HasParent ulPInode) (hfree : sp.node ulInode = none)
      (hvalid : ulInode ≠ INODE_INVALID)
      (h : sp.coreCreate s ulInode ulPInode pszName uMode = .ok sp') : Step sp sp'
  | link {sp sp' : Space} {ulPInode ulInode : ℕ} {pszName : CString}
      (hp : sp.HasParent ulPInode) (h : sp.coreLink s ulPInode pszName ulInode = .ok sp') :
      Step sp sp'
  | unlink {sp sp' : Space} {ulPInode : ℕ} {pszName : CString} {fOrphan : Bool}
      (hp : sp.HasParent ulPInode) (h : sp.coreUnlink s ulPInode pszName fOrphan = .ok sp') :
      Step sp sp'
  | rename {sp sp' : Space} {ulSrcPInode ulDstPInode : ℕ} {pszSrcName pszDstName : CString}
      {fOrphan : Bool} (hsrc : sp.HasParent ulSrcPInode) (hdst : sp.HasParent ulDstPInode)
      (h : sp.coreRename s ulSrcPInode pszSrcName ulDstPInode pszDstName fOrphan = .ok sp') :
      Step sp sp'
  | freeOrphan {sp sp' : Space} {ulInode : ℕ} (h : sp.redCoreFreeOrphan ulInode = .ok sp') :
      Step sp sp'
  | writeFile {sp : Space} {ulInode : ℕ} {data data' : List UInt8} {n p : ℕ}
      (h : sp.node ulInode = some ⟨n, p, .reg data⟩) :
      Step sp (sp.set ulInode (some ⟨n, p, .reg data'⟩))
  | writeLink {sp : Space} {ulInode : ℕ} {data data' : List UInt8} {n p : ℕ}
      (h : sp.node ulInode = some ⟨n, p, .lnk data⟩) :
      Step sp (sp.set ulInode (some ⟨n, p, .lnk data'⟩))

/-- The inodes of a new volume: `RedVolFormat()` creates the root directory. -/
def format : Space where
  node := fun ulInode =>
    if ulInode = INODE_ROOTDIR then some ⟨1, INODE_INVALID, .dir .empty⟩ else none

/-- **The states of a volume in use**, each with the committed one: a transaction point commits
the state, and a rollback or a power loss goes back to the committed one. -/
inductive Reachable : Space → Space → Prop
  | format : Reachable format format
  | step {sp sp' committed : Space} (h : Reachable sp committed) (hs : Step s sp sp') :
      Reachable sp' committed
  | transact {sp committed : Space} (h : Reachable sp committed) : Reachable sp sp
  | revert {sp committed : Space} (h : Reachable sp committed) : Reachable committed committed

end Space

end RelianceEdge
