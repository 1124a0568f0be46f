import RelianceEdge.InodeRW

set_option relaxedAutoImplicit false
set_option autoImplicit false

/-!
# Directories

`dir.c` and `namelen.c`. A directory is an inode whose data is an array of entries of fixed
size, which never cross a block boundary; with the newer layouts each block starts with a node
header. Strings are lists of bytes, read as zero past their end.

## Main definitions

* `redDirEntryLookup`, `redDirEntryRead` — search and enumerate a directory.
* `redDirEntryCreate`, `redDirEntryDelete` — add and remove an entry.
-/

namespace RelianceEdge

variable [RedConf]

open RedConf

/-- A null-terminated string; a read past its end yields the terminator. -/
abbrev CString : Type := List UInt8

/-- The byte at an index of a string. -/
def CString.at (psz : CString) (ulIdx : ℕ) : UInt8 := psz.getD ulIdx 0

/-- `RedNameLen()`: names end at a null or a path separator. -/
def redNameLen (pszName : CString) : ℕ :=
  (pszName.takeWhile fun c => c != 0 && c != pathSeparator).length

/-! ## Layout -/

/-- `DIR_INDEX_INVALID`. -/
def DIR_INDEX_INVALID : ℕ := UINT32_MAX

/-- `DIRENT_SIZE`: the inode number and the name, padded to a multiple of four. -/
def direntSize : ℕ :=
  4 + nameMax + if nameMax % 4 ≠ 0 then 4 - nameMax % 4 else 0

/-- `DIRENTS_OFFSET`. -/
def FS.direntsOffset (s : FS) : ℕ :=
  if RED_DISK_LAYOUT_DIRCRC ≤ s.core.ulVersion then NODEHEADER_SIZE else 0

/-- `DIRENTS_PER_BLOCK`. -/
def FS.direntsPerBlock (s : FS) : ℕ := (blockSize - s.direntsOffset) / direntSize

/-- `DIRENTS_MAX`. -/
def FS.direntsMax (s : FS) : ℕ := min UINT32_MAX (inodeDataBlocks * s.direntsPerBlock)

/-- `DIR_BLOCK_UNUSED_SPACE`. -/
def FS.dirBlockUnusedSpace (s : FS) : ℕ :=
  blockSize - (s.direntsOffset + direntSize * s.direntsPerBlock)

/-- `DirEntryIndexToOffset()`. -/
def FS.dirEntryIndexToOffset (s : FS) (ulIdx : ℕ) : ℕ :=
  ulIdx / s.direntsPerBlock * blockSize + s.direntsOffset + ulIdx % s.direntsPerBlock * direntSize

/-- `DirOffsetToEntryIndex()`. -/
def FS.dirOffsetToEntryIndex (s : FS) (ullOffset : ℕ) : ℕ :=
  ullOffset / blockSize * s.direntsPerBlock +
    if ullOffset % blockSize ≠ 0 then (ullOffset % blockSize - s.direntsOffset) / direntSize else 0

/-! ## Entries -/

/-- The bytes of a `DIRENT`. -/
def direntBytes (ulInode : ℕ) (pszName : CString) (ulNameLen : ℕ) : ℕ → UInt8 := fun k =>
  if k < 4 then UInt8.ofNat (ulInode / 256 ^ k % 256)
  else if k - 4 < ulNameLen then pszName.at (k - 4)
  else 0

/-- Where the entry of a block starts. -/
def FS.direntOffset (s : FS) (ulBlockIdx : ℕ) : ℕ := s.direntsOffset + ulBlockIdx * direntSize

/-- `DIRENT::ulInode`. -/
def FS.direntInode (s : FS) (pDirents : ℕ → UInt8) (ulBlockIdx : ℕ) : ℕ :=
  ((List.range 4).map fun k =>
    (pDirents (s.direntOffset ulBlockIdx + k)).toNat * 256 ^ k).sum

/-- A byte of `DIRENT::acName`. -/
def FS.direntName (s : FS) (pDirents : ℕ → UInt8) (ulBlockIdx k : ℕ) : UInt8 :=
  pDirents (s.direntOffset ulBlockIdx + 4 + k)

/-- `RedStrNCmp()` is zero on the strings from an index on. -/
def redStrNCmpIsZero (a b : ℕ → UInt8) : ℕ → ℕ → Bool
  | 0, _ => true
  | n + 1, k =>
    if a k ≠ b k then false
    else if a k = 0 then true
    else redStrNCmpIsZero a b n (k + 1)

/-- Whether the entry holds the name. A name of the maximum length is not terminated. -/
def FS.direntMatches (s : FS) (pDirents : ℕ → UInt8) (ulBlockIdx : ℕ) (pszName : CString)
    (ulNameLen : ℕ) : Bool :=
  redStrNCmpIsZero (s.direntName pDirents ulBlockIdx) pszName.at ulNameLen 0 &&
    (ulNameLen == nameMax || s.direntName pDirents ulBlockIdx ulNameLen == 0)

/-! ## Lookup -/

/-- What `RedDirEntryLookup()` stores for its caller. -/
structure DirLookup where
  /-- The status is zero, not `-RED_ENOENT`. -/
  fFound : Bool
  /-- `*pulEntryIdx`. -/
  ulEntryIdx : ℕ
  /-- `*pulInode`, when it is written. -/
  ulInode : Option ℕ

/-- The entry loop of `RedDirEntryLookup()` inside one block: the matching entry, and the first
free entry so far. -/
def FS.lookupInBlock (s : FS) (pDirents : ℕ → UInt8) (pszName : CString) (ulNameLen ulIdx : ℕ) :
    List ℕ → ℕ → Option ℕ × ℕ
  | [], ulFreeIdx => (none, ulFreeIdx)
  | ulBlockIdx :: rest, ulFreeIdx =>
    if s.direntInode pDirents ulBlockIdx ≠ INODE_INVALID then
      if s.direntMatches pDirents ulBlockIdx pszName ulNameLen then (some ulBlockIdx, ulFreeIdx)
      else s.lookupInBlock pDirents pszName ulNameLen ulIdx rest ulFreeIdx
    else
      s.lookupInBlock pDirents pszName ulNameLen ulIdx rest
        (if ulFreeIdx = DIR_INDEX_INVALID then ulIdx + ulBlockIdx else ulFreeIdx)

/-- The block loop of `RedDirEntryLookup()`, for at most `fuel` blocks: the index where it
stopped, the inode number of the matching entry, and the first free entry. -/
def dirLookupLoop (pszName : CString) (ulNameLen ulDirentCount : ℕ) :
    ℕ → ℕ → ℕ → RedI (ℕ × Option ℕ × ℕ)
  | fuel, ulIdx, ulFreeIdx => do
    if ulDirentCount ≤ ulIdx then pure (ulIdx, none, ulFreeIdx)
    else
      match fuel with
      | 0 => .fail .outOfFuel
      | fuel + 1 =>
        let s ← liftFS .get
        match ← .attempt (redInodeDataSeekAndRead (ulIdx / s.direntsPerBlock)) with
        | .ok () =>
          let pInode ← getCInode
          let s ← liftFS .get
          let pDirents := (s.deref pInode.pbData).asBytes
          let ulBlockLastIdx := min s.direntsPerBlock (ulDirentCount - ulIdx)
          match s.lookupInBlock pDirents pszName ulNameLen ulIdx (List.range ulBlockLastIdx)
              ulFreeIdx with
          | (some ulBlockIdx, ulFreeIdx) =>
            pure (ulIdx + ulBlockIdx, some (s.direntInode pDirents ulBlockIdx), ulFreeIdx)
          | (none, ulFreeIdx) =>
            dirLookupLoop pszName ulNameLen ulDirentCount fuel (ulIdx + ulBlockLastIdx) ulFreeIdx
        | .error .ENODATA =>
          dirLookupLoop pszName ulNameLen ulDirentCount fuel (ulIdx + s.direntsPerBlock)
            (if ulFreeIdx = DIR_INDEX_INVALID then ulIdx else ulFreeIdx)
        | .error e => .fail e

/-- `RedDirEntryLookup()`. -/
def redDirEntryLookup (pszName : CString) : RedI DirLookup := do
  let pPInode ← getCInode
  let s ← liftFS .get
  if !s.cinodeIsMounted pPInode then .fail .EINVAL
  else if !pPInode.fDirectory then .fail .ENOTDIR
  else
    let ulNameLen := redNameLen pszName
    if ulNameLen = 0 then .fail .EINVAL
    else if nameMax < ulNameLen then .fail .ENAMETOOLONG
    else
      let ulDirentCount := s.dirOffsetToEntryIndex (← inodeBuf).ullSize
      let (ulIdx, ulInode, ulFreeIdx) ←
        dirLookupLoop pszName ulNameLen ulDirentCount ulDirentCount 0 DIR_INDEX_INVALID
      if ulIdx = ulDirentCount then
        pure ⟨false, if ulFreeIdx = DIR_INDEX_INVALID ∧ ulDirentCount < s.direntsMax then
          ulDirentCount else ulFreeIdx, none⟩
      else pure ⟨true, ulIdx, ulInode⟩

/-! ## Reading -/

/-- The entry loop of `RedDirEntryRead()` inside one block. -/
def FS.readInBlock (s : FS) (pDirents : ℕ → UInt8) : List ℕ → Option ℕ
  | [] => none
  | ulBlockIdx :: rest =>
    if s.direntInode pDirents ulBlockIdx ≠ INODE_INVALID then some ulBlockIdx
    else s.readInBlock pDirents rest

/-- The name of an entry as `RedStrNCpy()` leaves it for the caller. -/
def FS.direntCString (s : FS) (pDirents : ℕ → UInt8) (ulBlockIdx : ℕ) : CString :=
  ((List.range nameMax).map (s.direntName pDirents ulBlockIdx)).takeWhile (· != 0)

/-- The block loop of `RedDirEntryRead()`, for at most `fuel` blocks: the next index, and the name
and inode number of the entry found; without one the status is `-RED_ENOENT`. -/
def dirReadLoop (ulDirentCount : ℕ) : ℕ → ℕ → RedI (ℕ × Option (CString × ℕ))
  | fuel, ulIdx => do
    if ulDirentCount ≤ ulIdx then pure (ulDirentCount, none)
    else
      match fuel with
      | 0 => .fail .outOfFuel
      | fuel + 1 =>
        let s ← liftFS .get
        let ulBlockOffset := ulIdx / s.direntsPerBlock
        match ← .attempt (redInodeDataSeekAndRead ulBlockOffset) with
        | .ok () =>
          let pInode ← getCInode
          let s ← liftFS .get
          let pDirents := (s.deref pInode.pbData).asBytes
          let ulBlockLastIdx :=
            min s.direntsPerBlock (ulDirentCount - ulBlockOffset * s.direntsPerBlock)
          let ulBlockIdx := ulIdx % s.direntsPerBlock
          match s.readInBlock pDirents
              (List.range' ulBlockIdx (ulBlockLastIdx - ulBlockIdx)) with
          | some k =>
            pure (ulBlockOffset * s.direntsPerBlock + k + 1,
              some (s.direntCString pDirents k, s.direntInode pDirents k))
          | none => dirReadLoop ulDirentCount fuel (ulIdx + (ulBlockLastIdx - ulBlockIdx))
        | .error .ENODATA =>
          dirReadLoop ulDirentCount fuel
            (ulIdx + (s.direntsPerBlock - ulIdx % s.direntsPerBlock))
        | .error e => .fail e

/-- `RedDirEntryRead()`. -/
def redDirEntryRead (ulIdx : ℕ) : RedI (ℕ × Option (CString × ℕ)) := do
  let pPInode ← getCInode
  let s ← liftFS .get
  if !s.cinodeIsMounted pPInode then .fail .EINVAL
  else if !pPInode.fDirectory then .fail .ENOTDIR
  else
    let ulDirentCount := s.dirOffsetToEntryIndex (← inodeBuf).ullSize
    dirReadLoop ulDirentCount ulDirentCount ulIdx

/-! ## Writing -/

/-- `DirEntryWrite()`. -/
def dirEntryWrite (ulIdx ulInode : ℕ) (pszName : CString) (ulNameLen : ℕ) : RedI Unit := do
  let pPInode ← getCInode
  let s ← liftFS .get
  if !s.cinodeIsDirty pPInode ∨ s.direntsMax ≤ ulIdx ∨
      (!s.inodeIsValid ulInode ∧ ulInode ≠ INODE_INVALID) ∨ nameMax < ulNameLen ∨
      ¬ (ulNameLen = 0 ↔ ulInode = INODE_INVALID) then .fail .EINVAL
  else if !pPInode.fDirectory then .fail .ENOTDIR
  else
    let _ ← redInodeDataWrite (s.dirEntryIndexToOffset ulIdx) direntSize
      (direntBytes ulInode pszName ulNameLen)

/-- Whether a name is `.` or `..`. -/
def isDotOrDotDot (pszName : CString) (ulNameLen : ℕ) : Bool :=
  (ulNameLen == 1 && pszName.at 0 == 46) ||
    (ulNameLen == 2 && pszName.at 0 == 46 && pszName.at 1 == 46)

/-- `RedDirEntryCreate()`. -/
def redDirEntryCreate (pszName : CString) (ulInode : ℕ) : RedI Unit := do
  let pPInode ← getCInode
  let s ← liftFS .get
  if !s.cinodeIsDirty pPInode ∨ !s.inodeIsValid ulInode then .fail .EINVAL
  else if !pPInode.fDirectory then .fail .ENOTDIR
  else
    let ulNameLen := redNameLen pszName
    if ulNameLen = 0 then .fail .EINVAL
    else if nameMax < ulNameLen then .fail .ENAMETOOLONG
    else if isDotOrDotDot pszName ulNameLen then .fail .EINVAL
    else
      let lookup ← redDirEntryLookup pszName
      if lookup.fFound then .fail .EEXIST
      else if lookup.ulEntryIdx = DIR_INDEX_INVALID then .fail .ENOSPC
      else dirEntryWrite lookup.ulEntryIdx ulInode pszName ulNameLen

/-! ## Deleting -/

/-- The backward search of `RedDirEntryDelete()` inside one block: the last entry in use among the
first `n`. -/
def FS.lastInBlock (s : FS) (pDirents : ℕ → UInt8) : ℕ → Option ℕ
  | 0 => none
  | n + 1 =>
    if s.direntInode pDirents n ≠ INODE_INVALID then some n else s.lastInBlock pDirents n

/-- The backward search of `RedDirEntryDelete()`, for at most `fuel` blocks: the last entry in use
up to `ulTruncIdx`, or `UINT32_MAX` when there is none. -/
def dirTruncLoop : ℕ → ℕ → RedI ℕ
  | fuel, ulTruncIdx => do
    if ulTruncIdx = UINT32_MAX then pure ulTruncIdx
    else
      match fuel with
      | 0 => .fail .outOfFuel
      | fuel + 1 =>
        let s ← liftFS .get
        match ← .attempt (redInodeDataSeekAndRead (ulTruncIdx / s.direntsPerBlock)) with
        | .ok () =>
          let pInode ← getCInode
          let s ← liftFS .get
          let pDirents := (s.deref pInode.pbData).asBytes
          let ulBlockIdx := ulTruncIdx % s.direntsPerBlock
          match s.lastInBlock pDirents (ulBlockIdx + 1) with
          | some k => pure (ulTruncIdx - ulBlockIdx + k)
          | none => dirTruncLoop fuel (sub32 ulTruncIdx (ulBlockIdx + 1))
        | .error .ENODATA => dirTruncLoop fuel (sub32 ulTruncIdx s.direntsPerBlock)
        | .error e => .fail e

/-- The new size of a directory that ends with the given number of entries. -/
def FS.dirTruncSize (s : FS) (ulTruncIdx : ℕ) : ℕ :=
  let ullNewSize := s.dirEntryIndexToOffset ulTruncIdx
  let ullNewSize :=
    if RED_DISK_LAYOUT_DIRCRC ≤ s.core.ulVersion ∧ ulTruncIdx % s.direntsPerBlock = 0 then
      ullNewSize - NODEHEADER_SIZE
    else ullNewSize
  if 0 < s.dirBlockUnusedSpace ∧ blockSize ≤ ullNewSize ∧ ullNewSize % blockSize = 0 then
    ullNewSize - s.dirBlockUnusedSpace
  else ullNewSize

/-- `RedDirEntryDelete()`. -/
def redDirEntryDelete (ulDeleteIdx : ℕ) : RedI Unit := do
  let pPInode ← getCInode
  let s ← liftFS .get
  let ullIdxOffset := s.dirEntryIndexToOffset ulDeleteIdx
  let ullSize := (← inodeBuf).ullSize
  if !s.cinodeIsDirty pPInode then .fail .EINVAL
  else if !pPInode.fDirectory then .fail .ENOTDIR
  else if s.direntsMax ≤ ulDeleteIdx ∨ ullSize ≤ ullIdxOffset then .fail .EINVAL
  else if ullIdxOffset + direntSize = ullSize then
    let ulTruncIdx ← dirTruncLoop ulDeleteIdx (sub32 ulDeleteIdx 1)
    redInodeDataTruncate (s.dirTruncSize (u32 (ulTruncIdx + 1)))
  else dirEntryWrite ulDeleteIdx INODE_INVALID [] 0

end RelianceEdge
