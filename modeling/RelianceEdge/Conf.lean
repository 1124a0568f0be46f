import Mathlib.Data.Nat.Bitwise
import Mathlib.Tactic.Common

set_option relaxedAutoImplicit false
set_option autoImplicit false

/-!
# Compile-time configuration

The `REDCONF_*` macros of `redconf.h` and the constants that `rednodes.h`, `redcoremacs.h` and
`redbufferpriv.h` derive from them, for a read-write build of the POSIX-like API with every
optional function of the core enabled (`RENAME_ATOMIC`, `INODE_BLOCKS`, `INODE_TIMESTAMPS`, both
imap representations; `DELETE_OPEN` and `SYMLINK` together are a parameter), without owner
permissions and without access times. `FRESERVE` changes no constant here: the calls of the core on
one volume are those of a build with it, and the handles of `posix.c` those of a build without it
(`PosixConf`).

## Main definitions

* `RedConf` — one accepted configuration; the checks the preprocessor makes are its fields.
* `inodeDataBlocks`, `inodeSizeMax` — the reach of the pointers of an inode.
* `RESERVED_BLOCKS`, `inodeMaxDepth` — the block budgets of `redcoremacs.h`.
-/

namespace RelianceEdge

/-- `UINT32_MAX`. -/
def UINT32_MAX : ℕ := 4294967295

/-- `UINT16_MAX`. -/
def UINT16_MAX : ℕ := 65535

/-- `SECTOR_SIZE_MIN`. -/
def SECTOR_SIZE_MIN : ℕ := 128

/-- Reduction of a sum or difference to `uint32_t`. -/
def u32 (n : ℕ) : ℕ := n % 4294967296

/-- Subtraction of `uint32_t`. -/
def sub32 (a b : ℕ) : ℕ := u32 (a + 4294967296 - b)

lemma u32_of_le {n : ℕ} (h : n ≤ UINT32_MAX) : u32 n = n := by
  unfold u32
  unfold UINT32_MAX at h
  omega

/-- `INODE_HEADER_SIZE`: node header and size, the number of blocks, the three timestamps, the mode
and link count, and the parent, with the orphan list if there is one. -/
def inodeHeaderSizeOf (deleteOpen : Bool) : ℕ :=
  16 + 8 + 4 + 12 + 4 + (4 + if deleteOpen then 4 else 0)

/-- `INODE_ENTRIES` of a block of `2 ^ p2` bytes. -/
def inodeEntriesOf (p2 : ℕ) (deleteOpen : Bool) : ℕ :=
  (2 ^ p2 - inodeHeaderSizeOf deleteOpen) / 4

/-- `MINIMUM_BUFFER_COUNT` of an inode with `entries` pointers: two parent directories all the
way down, source and destination inode, one inode for the cyclic rename check, and one imap
node. -/
def minimumBufferCountOf (entries direct indirect : ℕ) : ℕ :=
  let inodeBuffers := if direct + indirect < entries then 4 else if 0 < indirect then 3 else 2
  inodeBuffers + inodeBuffers + 3 + 1

/-- A configuration accepted by `redconfigchk.h`, `redmacs.h` and `rednodes.h`. -/
class RedConf where
  /-- `BLOCK_SIZE_P2`. -/
  blockSizeP2 : ℕ
  /-- `REDCONF_DELETE_OPEN`, with `REDCONF_API_POSIX_SYMLINK`. -/
  deleteOpen : Bool
  /-- `REDCONF_DIRECT_POINTERS`. -/
  directPointers : ℕ
  /-- `REDCONF_INDIRECT_POINTERS`. -/
  indirectPointers : ℕ
  /-- `REDCONF_NAME_MAX`. -/
  nameMax : ℕ
  /-- `REDCONF_PATH_SEPARATOR`. -/
  pathSeparator : UInt8
  /-- `REDCONF_BUFFER_COUNT`. -/
  bufferCount : ℕ
  /-- `VOLCONF::fAtomicSectorWrite`. -/
  fAtomicSectorWrite : Bool
  /-- The block size is a power of two between 128 and 65536. -/
  blockSizeP2_mem : 7 ≤ blockSizeP2 ∧ blockSizeP2 ≤ 16
  /-- `REDCONF_DIRECT_POINTERS` and `REDCONF_INDIRECT_POINTERS` fit the inode. -/
  pointers_le : directPointers + indirectPointers ≤ inodeEntriesOf blockSizeP2 deleteOpen
  /-- `REDCONF_NAME_MAX` is at least one and leaves room in a directory block. -/
  nameMax_mem : 1 ≤ nameMax ∧ nameMax ≤ 2 ^ blockSizeP2 - 4
  /-- The path separator is a non-null ASCII character. -/
  pathSeparator_mem : 1 ≤ pathSeparator.toNat ∧ pathSeparator.toNat ≤ 127
  /-- With working directories the path separator is not a dot. -/
  pathSeparator_ne_dot : pathSeparator ≠ 46
  /-- The buffer heads are indexed by `uint8_t`. -/
  bufferCount_le : bufferCount ≤ 255
  /-- `REDCONF_BUFFER_COUNT` is at least `MINIMUM_BUFFER_COUNT` of the configuration. -/
  bufferCount_ge : minimumBufferCountOf (inodeEntriesOf blockSizeP2 deleteOpen)
    directPointers indirectPointers ≤ bufferCount

variable [RedConf]

open RedConf

/-- `REDCONF_BLOCK_SIZE`. -/
def blockSize : ℕ := 2 ^ blockSizeP2

/-- `NODEHEADER_SIZE`. -/
def NODEHEADER_SIZE : ℕ := 16

/-- `INODE_ENTRIES`. -/
def inodeEntries : ℕ := inodeEntriesOf blockSizeP2 deleteOpen

/-- `INDIR_ENTRIES`: node header and owning inode take 20 bytes. -/
def indirEntries : ℕ := (blockSize - 20) / 4

/-- `METAROOT_ENTRIES`: the metaroot header takes 32 bytes, and twelve more for the orphan
lists. -/
def metarootEntries : ℕ := (blockSize - (32 + if deleteOpen then 12 else 0)) * 8

/-- `IMAPNODE_ENTRIES`. -/
def imapnodeEntries : ℕ := (blockSize - 16) * 8

/-- `DINDIR_POINTERS`. -/
def dindirPointers : ℕ := inodeEntries - directPointers - indirectPointers

/-- `DINDIR_DATA_BLOCKS`. -/
def dindirDataBlocks : ℕ := indirEntries * indirEntries

/-- `INODE_INDIR_BLOCKS`. -/
def inodeIndirBlocks : ℕ := indirectPointers * indirEntries

/-- `INODE_DINDIR_BLOCKS_MAX`. -/
def inodeDindirBlocksMax : ℕ := UINT32_MAX - (directPointers + inodeIndirBlocks)

/-- `DINDIR_POINTERS_MAX`. -/
def dindirPointersMax : ℕ :=
  inodeDindirBlocksMax / dindirDataBlocks +
    (if inodeDindirBlocksMax % dindirDataBlocks = 0 then 0 else 1)

/-- `INODE_DINDIR_BLOCKS`. -/
def inodeDindirBlocks : ℕ :=
  if dindirPointersMax ≤ dindirPointers then inodeDindirBlocksMax
  else dindirPointers * dindirDataBlocks

/-- `INODE_DATA_BLOCKS`. -/
def inodeDataBlocks : ℕ := directPointers + inodeIndirBlocks + inodeDindirBlocks

/-- `INODE_SIZE_MAX`. -/
def inodeSizeMax : ℕ := blockSize * inodeDataBlocks

/-- `DINDIRS_EXIST`. -/
def dindirsExist : Bool := decide (0 < dindirPointers)

/-- `INDIRS_EXIST`. -/
def indirsExist : Bool := decide (directPointers < inodeEntries)

/-- `INODE_MAX_DEPTH`. -/
def inodeMaxDepth : ℕ := if dindirsExist then 3 else if indirsExist then 2 else 1

/-- `RESERVED_BLOCKS`, with unlink and rmdir enabled. -/
def RESERVED_BLOCKS : ℕ := if dindirsExist then 3 else if 0 < indirectPointers then 2 else 1

/-- `BBLK_INVALID`. -/
def BBLK_INVALID : ℕ := UINT32_MAX

/-- `BLOCK_SPARSE`. -/
def BLOCK_SPARSE : ℕ := 0

/-- `BLOCK_NUM_MASTER`. -/
def BLOCK_NUM_MASTER : ℕ := 0

/-- `BLOCK_NUM_FIRST_METAROOT`. -/
def BLOCK_NUM_FIRST_METAROOT : ℕ := 1

/-- `INODE_INVALID`. -/
def INODE_INVALID : ℕ := 0

/-- `INODE_FIRST_VALID`. -/
def INODE_FIRST_VALID : ℕ := 2

/-- `INODE_ROOTDIR`. -/
def INODE_ROOTDIR : ℕ := 2

/-- `INODE_FIRST_FREE`: the root directory is created by format. -/
def INODE_FIRST_FREE : ℕ := 3

/-- `COORD_ENTRY_INVALID`. -/
def COORD_ENTRY_INVALID : ℕ := UINT16_MAX

/-- `RED_DISK_LAYOUT_ORIGINAL`. -/
def RED_DISK_LAYOUT_ORIGINAL : ℕ := 1

/-- `RED_DISK_LAYOUT_DIRCRC`. -/
def RED_DISK_LAYOUT_DIRCRC : ℕ := 4

/-- `RED_DISK_LAYOUT_POSIXIER`. -/
def RED_DISK_LAYOUT_POSIXIER : ℕ := 5

/-- `RED_DISK_LAYOUT_MINIMUM`: open inodes can only be deleted with the newest layout. -/
def RED_DISK_LAYOUT_MINIMUM : ℕ :=
  if deleteOpen then RED_DISK_LAYOUT_POSIXIER else RED_DISK_LAYOUT_ORIGINAL

/-- `RED_DISK_LAYOUT_MAXIMUM`: a name that fills a whole block leaves no room for the header of
a directory block. -/
def RED_DISK_LAYOUT_MAXIMUM : ℕ :=
  if blockSize - 4 - 16 < nameMax then RED_DISK_LAYOUT_ORIGINAL else RED_DISK_LAYOUT_POSIXIER

/-- `RED_DISK_LAYOUT_IS_SUPPORTED`. -/
def redDiskLayoutIsSupported (ver : ℕ) : Bool :=
  (ver == RED_DISK_LAYOUT_ORIGINAL || ver == RED_DISK_LAYOUT_DIRCRC ||
    ver == RED_DISK_LAYOUT_POSIXIER) &&
  decide (RED_DISK_LAYOUT_MINIMUM ≤ ver) && decide (ver ≤ RED_DISK_LAYOUT_MAXIMUM)

/-- `RED_DISK_LAYOUT_VERSION`: the layout of a format that does not name one. -/
def RED_DISK_LAYOUT_VERSION : ℕ :=
  if RED_DISK_LAYOUT_MAXIMUM < RED_DISK_LAYOUT_DIRCRC then RED_DISK_LAYOUT_ORIGINAL
  else if RED_DISK_LAYOUT_MINIMUM < RED_DISK_LAYOUT_DIRCRC then RED_DISK_LAYOUT_DIRCRC
  else RED_DISK_LAYOUT_MINIMUM

/-- A small configuration, on which the conditions of theorems are seen to be met. -/
abbrev smallConf : RedConf where
  blockSizeP2 := 9
  deleteOpen := true
  directPointers := 4
  indirectPointers := 4
  nameMax := 12
  pathSeparator := 47
  bufferCount := 12
  fAtomicSectorWrite := false
  blockSizeP2_mem := by decide
  pointers_le := by decide
  nameMax_mem := by decide
  pathSeparator_mem := by decide
  pathSeparator_ne_dot := by decide
  bufferCount_le := by decide
  bufferCount_ge := by decide

end RelianceEdge
