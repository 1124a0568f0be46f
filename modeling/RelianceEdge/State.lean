import RelianceEdge.Conf
import RelianceEdge.Lib.Op

set_option relaxedAutoImplicit false
set_option autoImplicit false

/-!
# Nodes, volume state and the block device

The on-disk nodes of `rednodes.h` as typed values, the run-time state of one volume
(`VOLUME`, `COREVOLUME`, the two metaroots, the buffer cache) and the block device under it.

The device keeps the whole history of its writes and flushes, so that every power-loss point of
a run is a prefix of that history. Each write is recorded with the class of its target at the
time it was issued.

## Main definitions

* `RedError` — the negated `REDSTATUS` codes the core returns.
* `Node` — the contents of a block; `DiskBlock` adds the node header.
* `Volume`, `CoreVolume`, `BufCtx` — the run-time structures.
* `FS` — the state of the driver for its volume; `Red` — operations on it.
* `CInode` — a cached inode.
-/

namespace RelianceEdge

/-- The error codes of `rederrno.h` that the core returns, negated. `outOfFuel` is not a status:
it is the outcome of a loop of the model that reached its bound on iterations, where the loop of
the source may go on. -/
inductive RedError
  | EPERM | ENOENT | EIO | EBADF | EACCES | EBUSY | EEXIST | ENOTDIR | EISDIR | EINVAL | ENFILE
  | EFBIG | ENOSPC | EROFS | EMLINK | ERANGE | ENAMETOOLONG | ENOTEMPTY | ENODATA | ELOOP
  | ENOLINK
  | outOfFuel
  deriving DecidableEq, Repr

/-- `RED_EFUBAR` is `RED_EINVAL`. -/
@[match_pattern] abbrev RedError.EFUBAR : RedError := .EINVAL

/-- `uMode`: without owner permissions only the type bits are valid. `invalid` stands for every
other bit pattern, zero included. -/
inductive Mode
  | invalid | reg | dir | lnk
  deriving DecidableEq, Repr

/-- `INODE`. -/
structure Inode where
  ullSize : ℕ
  ulBlocks : ℕ
  ulATime : ℕ
  ulMTime : ℕ
  ulCTime : ℕ
  uMode : Mode
  uNLink : ℕ
  ulPInode : ℕ
  ulNextOrphan : ℕ
  aulEntries : ℕ → ℕ

/-- An inode block of zeroes. -/
def Inode.zero : Inode := ⟨0, 0, 0, 0, 0, .invalid, 0, 0, 0, fun _ => 0⟩

/-- `INDIR` and `DINDIR`. -/
structure Indir where
  ulInode : ℕ
  aulEntries : ℕ → ℕ

/-- `METAROOT`, without its CRCs. -/
structure Metaroot where
  ullSequence : ℕ
  ulFreeBlocks : ℕ
  ulFreeInodes : ℕ
  ulAllocNextBlock : ℕ
  ulDefunctOrphanHead : ℕ
  ulOrphanHead : ℕ
  ulOrphanTail : ℕ
  abEntries : ℕ → Bool

/-- A metaroot of zeroes. -/
def Metaroot.zero : Metaroot := ⟨0, 0, 0, 0, 0, 0, 0, fun _ => false⟩

/-- `MASTERBLOCK`: the fields mount checks or copies. -/
structure MasterBlock where
  ulVersion : ℕ
  ulInodeCount : ℕ
  ulBlockCount : ℕ
  uMaxNameLen : ℕ
  uDirectPointers : ℕ
  uIndirectPointers : ℕ
  bBlockSizeP2 : ℕ
  /-- `MBFLAG_API_POSIX`. -/
  fApiPosix : Bool
  /-- `MBFLAG_INODE_TIMESTAMPS`. -/
  fInodeTimestamps : Bool
  /-- `MBFLAG_INODE_BLOCKS`. -/
  fInodeBlocks : Bool
  /-- `MBFLAG_INODE_NLINK`. -/
  fInodeNLink : Bool
  /-- `MBFLAG_INODE_UIDGID`. -/
  fInodeUidGid : Bool
  /-- `MBFLAG_DELETE_OPEN`. -/
  fDeleteOpen : Bool
  uFeaturesIncompat : ℕ
  uFeaturesReadOnly : ℕ
  bSectorSizeP2 : ℕ

/-- A master block of zeroes. -/
def MasterBlock.zero : MasterBlock :=
  ⟨0, 0, 0, 0, 0, 0, 0, false, false, false, false, false, false, 0, 0, 0⟩

/-- The type bits of a buffer, `BFLAG_META_MASK`; `data` has none of them. -/
inductive BufType
  | data | master | imap | inode | indir | dindir | directory
  deriving DecidableEq, Repr

/-- The contents of a block, in the shape its type gives them. -/
inductive Node
  | bytes (ab : ℕ → UInt8)
  | master (mb : MasterBlock)
  | metaroot (mr : Metaroot)
  | imap (abEntries : ℕ → Bool)
  | inode (ino : Inode)
  | indir (ind : Indir)

namespace Node

/-- The contents read as file data. -/
def asBytes : Node → ℕ → UInt8
  | bytes ab => ab
  | _ => fun _ => 0

/-- The contents read as a master block. -/
def asMaster : Node → MasterBlock
  | master mb => mb
  | _ => .zero

/-- The contents read as a metaroot. -/
def asMetaroot : Node → Metaroot
  | metaroot mr => mr
  | _ => .zero

/-- The bitmap of an imap node. -/
def asImap : Node → ℕ → Bool
  | imap ab => ab
  | _ => fun _ => false

/-- The contents read as an inode. -/
def asInode : Node → Inode
  | inode ino => ino
  | _ => .zero

/-- The contents read as an indirect or double indirect node. -/
def asIndir : Node → Indir
  | indir ind => ind
  | _ => ⟨0, fun _ => 0⟩

/-- A block of zeroes of the given type. -/
def zero : BufType → Node
  | .data | .directory => bytes fun _ => 0
  | .master => master .zero
  | .imap => imap fun _ => false
  | .inode => inode .zero
  | .indir | .dindir => indir ⟨0, fun _ => 0⟩

@[simp] lemma asImap_imap (ab : ℕ → Bool) : (imap ab).asImap = ab := rfl

end Node

/-- The signature in a node header; file data has none. -/
inductive Signature
  | none | node (type : BufType) | metaroot
  deriving DecidableEq

/-- A block as it is stored: header and contents. -/
structure DiskBlock where
  /-- `NODEHEADER::ulSignature`. -/
  ulSignature : Signature
  /-- `NODEHEADER::ullSequence`. -/
  ullSequence : ℕ
  /-- Whether `NODEHEADER::ulCRC` matches the contents. -/
  fCRCIsValid : Bool
  /-- Whether `METAROOT::ulSectorCRC` matches the first sector. -/
  fSectorCRCIsValid : Bool
  /-- The rest of the block. -/
  node : Node

/-- `ALLOCSTATE`. -/
inductive AllocState
  | free | used | new | afree
  deriving DecidableEq, Repr

/-- What a block write overwrites. -/
inductive WriteTarget
  /-- The master block. -/
  | master
  /-- A metaroot slot, and whether it is the one of `bCurMR`. -/
  | metaroot (fCurrent : Bool)
  /-- A location of an external imap node, and whether the committed metaroot selects it. -/
  | imapNode (fCommitted : Bool)
  /-- A block that has bits in the imap, and its allocation state. -/
  | block (state : AllocState)
  deriving DecidableEq

/-- What the driver asks of the block device. -/
inductive IoEvent
  | write (ulBlock : ℕ) (content : DiskBlock) (target : WriteTarget)
  | flush

/-- `VOLUME`. -/
structure Volume where
  fMounted : Bool
  fReadOnly : Bool
  ulTransMask : ℕ
  ulBlockCount : ℕ
  ulBlocksAllocable : ℕ
  /-- Assumed never to wrap around. -/
  ullSequence : ℕ

/-- `COREVOLUME`. The metaroot index is a `Bool`, `false` for 0. -/
structure CoreVolume where
  ulVersion : ℕ
  fImapInline : Bool
  ulImapStartBN : ℕ
  ulImapNodeCount : ℕ
  ulInodeTableStartBN : ℕ
  ulInodeCount : ℕ
  ulFirstAllocableBN : ℕ
  aMR : Bool → Metaroot
  bCurMR : Bool
  fBranched : Bool
  ulAlmostFreeBlocks : ℕ
  fUseReservedBlocks : Bool
  ulReservedInodes : ℕ
  ulReservedInodeBlocks : ℕ
  fUseReservedInodeBlocks : Bool

/-- `BUFFERHEAD`, with the dirty flag and the type of `uFlags` apart. -/
structure BufferHead where
  ulBlock : ℕ
  bRefCount : ℕ
  fDirty : Bool
  type : BufType

/-- `BUFFERCTX`: heads and buffer contents by index, and the MRU array. -/
structure BufCtx where
  uNumUsed : ℕ
  abMRU : List ℕ
  aHead : ℕ → BufferHead
  pbBlkBuf : ℕ → Node

/-- The state of the driver and of its block device. -/
structure FS where
  /-- The number of blocks of the device. -/
  ulDevBlocks : ℕ
  /-- The sector size of the device, as a power of two. -/
  bSectorSizeP2 : ℕ
  /-- What a read returns: the last content written to each block. -/
  disk : ℕ → DiskBlock
  /-- Writes and flushes so far, the latest first. -/
  history : List IoEvent
  buf : BufCtx
  vol : Volume
  core : CoreVolume
  /-- `RedOsClockGetTime()`. -/
  now : ℕ

/-- Operations of the core. -/
abbrev Red (α : Type) := Op FS RedError α

/-- `CINODE`; buffer pointers are buffer indexes. -/
structure CInode where
  ulInode : ℕ
  fDirectory : Bool
  fBranched : Bool
  fDirty : Bool
  fCoordInited : Bool
  pInodeBuf : Option ℕ
  uInodeEntry : ℕ
  pDindir : Option ℕ
  ulDindirBlock : ℕ
  uDindirEntry : ℕ
  pIndir : Option ℕ
  ulIndirBlock : ℕ
  uIndirEntry : ℕ
  pbData : Option ℕ
  ulDataBlock : ℕ
  ulLogicalBlock : ℕ

/-- A zeroed cached inode. -/
def CInode.zero : CInode :=
  ⟨0, false, false, false, false, none, 0, none, 0, 0, none, 0, 0, none, 0, 0⟩

/-- `BRANCHDEPTH`: the double indirect, the indirect or the data block on the path from an inode
to its data. -/
inductive BranchDepth
  | dindir | indir | fileData
  deriving DecidableEq, Repr

namespace CInode

/-- `pDindir`, `pIndir` or `pbData`. -/
def buf (ci : CInode) : BranchDepth → Option ℕ
  | .dindir => ci.pDindir
  | .indir => ci.pIndir
  | .fileData => ci.pbData

/-- Set `pDindir`, `pIndir` or `pbData`. -/
def setBuf (ci : CInode) (depth : BranchDepth) (p : Option ℕ) : CInode :=
  match depth with
  | .dindir => { ci with pDindir := p }
  | .indir => { ci with pIndir := p }
  | .fileData => { ci with pbData := p }

/-- `ulDindirBlock`, `ulIndirBlock` or `ulDataBlock`. -/
def block (ci : CInode) : BranchDepth → ℕ
  | .dindir => ci.ulDindirBlock
  | .indir => ci.ulIndirBlock
  | .fileData => ci.ulDataBlock

/-- Set `ulDindirBlock`, `ulIndirBlock` or `ulDataBlock`. -/
def setBlock (ci : CInode) (depth : BranchDepth) (ulBlock : ℕ) : CInode :=
  match depth with
  | .dindir => { ci with ulDindirBlock := ulBlock }
  | .indir => { ci with ulIndirBlock := ulBlock }
  | .fileData => { ci with ulDataBlock := ulBlock }

end CInode

/-- Operations on one cached inode. -/
abbrev RedI (α : Type) := Op (FS × CInode) RedError α

/-- An operation of the core inside one on a cached inode. -/
def liftFS {α : Type} (x : Red α) : RedI α := Op.zoom Prod.fst (fun t s => (s, t.2)) x

/-- The cached inode itself. -/
def getCInode : RedI CInode := fun t => (.ok t.2, t)

/-- Change the cached inode. -/
def modifyCInode (f : CInode → CInode) : RedI Unit := fun t => (.ok (), (t.1, f t.2))

@[simp] lemma getCInode_bind_run {α : Type} (f : CInode → RedI α) (t : FS × CInode) :
    (getCInode >>= f) t = f t.2 t := rfl

@[simp] lemma getFS_bind_run {α : Type} (f : FS → RedI α) (t : FS × CInode) :
    (liftFS .get >>= f) t = f t.1 t := rfl

/-- `gpRedMR`, the working metaroot. -/
def FS.mr (s : FS) : Metaroot := s.core.aMR s.core.bCurMR

/-- The committed metaroot. -/
def FS.mrCommitted (s : FS) : Metaroot := s.core.aMR (!s.core.bCurMR)

/-- Update the working metaroot. -/
def FS.setMR (s : FS) (f : Metaroot → Metaroot) : FS :=
  { s with core := { s.core with
      aMR := Function.update s.core.aMR s.core.bCurMR (f s.mr) } }

/-- The contents of a buffer; a null pointer reads as zeroes. -/
def FS.deref (s : FS) : Option ℕ → Node
  | some pBuffer => s.buf.pbBlkBuf pBuffer
  | none => .bytes fun _ => 0

/-- `CRITICAL_ERROR()`: the volume becomes read-only. -/
def criticalError : Red Unit :=
  .modify fun s => { s with vol := { s.vol with fReadOnly := true } }

/-- `CRITICAL_ASSERT(EXP)`. -/
def criticalAssert (exp : Bool) : Red Unit := if exp then pure () else criticalError

end RelianceEdge
