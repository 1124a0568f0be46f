import RelianceEdge.Lib.Slots
import RelianceEdge.Posix.Tree
import RelianceEdge.Space.Layout

set_option relaxedAutoImplicit false
set_option autoImplicit false
set_option linter.unusedSectionVars false

/-!
# The data of a directory

The functions of `dir.c` over the data of one directory inode: a size in bytes, and blocks of
entries, any of which may be sparse. The functions of `inodedata.c` that they call read a block,
write one entry, and cut the data off; what lies past the size is left in its block.

## Main definitions

* `DirData` — the size and the blocks of a directory.
* `DirData.redDirEntryLookup`, `DirData.redDirEntryRead`, `DirData.dirEntryWrite`,
  `DirData.redDirEntryCreate`, `DirData.redDirEntryDelete` — the functions of `dir.c`.
-/

namespace RelianceEdge

variable [RedConf]

open RedConf

/-- The data of a directory inode. An entry that is not in use has the invalid inode number. -/
structure DirData where
  /-- `INODE::ullSize`. -/
  ullSize : ℕ
  /-- The entries of a block; a sparse block has none. -/
  block : ℕ → Option (ℕ → Option Dirent)

namespace DirData

/-- The data of a new directory. -/
def empty : DirData := ⟨0, fun _ => none⟩

variable (s : FS) (d : DirData)

/-! ## Data -/

/-- `RedInodeDataSeekAndRead()`. -/
def redInodeDataSeekAndRead (ulBlock : ℕ) : Except RedError (ℕ → Option Dirent) :=
  match d.block ulBlock with
  | some pDirents => .ok pDirents
  | none => .error .ENODATA

/-- `RedInodeDataWrite()` of one entry. -/
def redInodeDataWrite (ullOffset : ℕ) (de : Option Dirent) : DirData :=
  let ulBlock := ullOffset / blockSize
  let ulBlockIdx := (ullOffset % blockSize - s.direntsOffset) / direntSize
  { ullSize := max d.ullSize (ullOffset + direntSize)
    block := Function.update d.block ulBlock
      (some (Function.update ((d.block ulBlock).getD fun _ => none) ulBlockIdx de)) }

/-- `RedInodeDataTruncate()` to a smaller size. -/
def redInodeDataTruncate (ullSize : ℕ) : DirData where
  ullSize := ullSize
  block := fun ulBlock => if ulBlock * blockSize < ullSize then d.block ulBlock else none

/-- The number of entries up to the size. -/
def direntCount : ℕ := s.dirOffsetToEntryIndex d.ullSize

/-! ## Lookup -/

/-- The entry loop of `RedDirEntryLookup()` inside one block: the matching entry with its index
in the block, and the first free entry so far. -/
def lookupInBlock (pDirents : ℕ → Option Dirent) (pszName : CString) (ulIdx : ℕ) :
    List ℕ → ℕ → Option (ℕ × Dirent) × ℕ
  | [], ulFreeIdx => (none, ulFreeIdx)
  | ulBlockIdx :: rest, ulFreeIdx =>
    match pDirents ulBlockIdx with
    | some de =>
      if de.matches pszName then (some (ulBlockIdx, de), ulFreeIdx)
      else lookupInBlock pDirents pszName ulIdx rest ulFreeIdx
    | none =>
      lookupInBlock pDirents pszName ulIdx rest
        (if ulFreeIdx = DIR_INDEX_INVALID then ulIdx + ulBlockIdx else ulFreeIdx)

/-- The block loop of `RedDirEntryLookup()`, for at most `fuel` blocks: the index where it
stopped, the matching entry, and the first free entry. -/
def dirLookupLoop (pszName : CString) (ulDirentCount : ℕ) :
    ℕ → ℕ → ℕ → Except RedError (ℕ × Option Dirent × ℕ)
  | fuel, ulIdx, ulFreeIdx =>
    if ulDirentCount ≤ ulIdx then .ok (ulIdx, none, ulFreeIdx)
    else
      match fuel with
      | 0 => .error .outOfFuel
      | fuel + 1 =>
        match d.redInodeDataSeekAndRead (ulIdx / s.direntsPerBlock) with
        | .ok pDirents =>
          let ulBlockLastIdx := min s.direntsPerBlock (ulDirentCount - ulIdx)
          match lookupInBlock pDirents pszName ulIdx (List.range ulBlockLastIdx) ulFreeIdx with
          | (some (ulBlockIdx, de), ulFreeIdx) => .ok (ulIdx + ulBlockIdx, some de, ulFreeIdx)
          | (none, ulFreeIdx) =>
            dirLookupLoop pszName ulDirentCount fuel (ulIdx + ulBlockLastIdx) ulFreeIdx
        | .error .ENODATA =>
          dirLookupLoop pszName ulDirentCount fuel (ulIdx + s.direntsPerBlock)
            (if ulFreeIdx = DIR_INDEX_INVALID then ulIdx else ulFreeIdx)
        | .error e => .error e

/-- `RedDirEntryLookup()`: the entry and its index; without one the status is `-RED_ENOENT`, and
the index is that of the first free entry. -/
def redDirEntryLookup (pszName : CString) : Except RedError (Option Dirent × ℕ) := do
  let ulNameLen := redNameLen pszName
  if ulNameLen = 0 then .error .EINVAL
  else if nameMax < ulNameLen then .error .ENAMETOOLONG
  else
    let ulDirentCount := d.direntCount s
    let (ulIdx, de, ulFreeIdx) ←
      dirLookupLoop s d pszName ulDirentCount ulDirentCount 0 DIR_INDEX_INVALID
    if ulIdx = ulDirentCount then
      .ok (none, if ulFreeIdx = DIR_INDEX_INVALID ∧ ulDirentCount < s.direntsMax then
        ulDirentCount else ulFreeIdx)
    else .ok (de, ulIdx)

/-! ## Reading -/

/-- The entry loop of `RedDirEntryRead()` inside one block. -/
def readInBlock (pDirents : ℕ → Option Dirent) : List ℕ → Option (ℕ × Dirent)
  | [] => none
  | ulBlockIdx :: rest =>
    match pDirents ulBlockIdx with
    | some de => some (ulBlockIdx, de)
    | none => readInBlock pDirents rest

/-- The block loop of `RedDirEntryRead()`, for at most `fuel` blocks: the next index, and the
entry found; without one the status is `-RED_ENOENT`. -/
def dirReadLoop (ulDirentCount : ℕ) : ℕ → ℕ → Except RedError (ℕ × Option Dirent)
  | fuel, ulIdx =>
    if ulDirentCount ≤ ulIdx then .ok (ulDirentCount, none)
    else
      match fuel with
      | 0 => .error .outOfFuel
      | fuel + 1 =>
        let ulBlockOffset := ulIdx / s.direntsPerBlock
        let ulBlockIdx := ulIdx % s.direntsPerBlock
        match d.redInodeDataSeekAndRead ulBlockOffset with
        | .ok pDirents =>
          let ulBlockLastIdx :=
            min s.direntsPerBlock (ulDirentCount - ulBlockOffset * s.direntsPerBlock)
          match readInBlock pDirents (List.range' ulBlockIdx (ulBlockLastIdx - ulBlockIdx)) with
          | some (k, de) => .ok (ulBlockOffset * s.direntsPerBlock + k + 1, some de)
          | none => dirReadLoop ulDirentCount fuel (ulIdx + (ulBlockLastIdx - ulBlockIdx))
        | .error .ENODATA =>
          dirReadLoop ulDirentCount fuel (ulIdx + (s.direntsPerBlock - ulBlockIdx))
        | .error e => .error e

/-- `RedDirEntryRead()`. -/
def redDirEntryRead (ulIdx : ℕ) : Except RedError (ℕ × Option Dirent) :=
  dirReadLoop s d (d.direntCount s) (d.direntCount s) ulIdx

/-! ## Writing -/

/-- `DirEntryWrite()`. -/
def dirEntryWrite (ulIdx : ℕ) (de : Option Dirent) : Except RedError DirData :=
  if s.direntsMax ≤ ulIdx then .error .EINVAL
  else .ok (redInodeDataWrite s d (s.dirEntryIndexToOffset ulIdx) de)

/-- The entry for a name, after the checks that `RedDirEntryCreate()` makes of it. -/
def newDirent (pszName : CString) (ulInode : ℕ) : Except RedError Dirent :=
  let ulNameLen := redNameLen pszName
  if h0 : ulNameLen = 0 then .error .EINVAL
  else if hmax : nameMax < ulNameLen then .error .ENAMETOOLONG
  else if hdot : isDotOrDotDot pszName ulNameLen then .error .EINVAL
  else .ok {
    acName := pszName.take ulNameLen
    ulInode := ulInode
    acName_ne_nil := by
      intro h
      rw [List.take_eq_nil_iff] at h
      rcases h with h | h
      · exact h0 h
      · subst h
        exact h0 rfl
    length_le := by
      rw [List.length_take]
      omega
    clean := by
      intro c hc
      obtain ⟨k, hk, rfl⟩ := List.mem_iff_getElem.1 hc
      rw [List.length_take] at hk
      have := redNameLen_lt (s := pszName) (k := k) (by omega)
      unfold CString.at at this
      rw [List.getElem_take]
      rwa [List.getD_eq_getElem _ _ (by omega)] at this
    not_dot := by
      constructor
      · intro h
        apply hdot
        have hlen := congrArg List.length h
        have hat : CString.at (pszName.take ulNameLen) 0 = 46 := by rw [h]; rfl
        have hle := redNameLen_le_length pszName
        rw [List.length_take] at hlen
        have h1 : ulNameLen = 1 := by
          simp only [nameDot, List.length_singleton] at hlen
          omega
        rw [CString.at_take (by omega)] at hat
        simp [isDotOrDotDot, h1, hat]
      · intro h
        apply hdot
        have hlen := congrArg List.length h
        have hat0 : CString.at (pszName.take ulNameLen) 0 = 46 := by rw [h]; rfl
        have hat1 : CString.at (pszName.take ulNameLen) 1 = 46 := by rw [h]; rfl
        have hle := redNameLen_le_length pszName
        rw [List.length_take] at hlen
        have h2 : ulNameLen = 2 := by
          simp only [nameDotDot, List.length_cons, List.length_nil] at hlen
          omega
        rw [CString.at_take (by omega)] at hat0 hat1
        simp [isDotOrDotDot, h2, hat0, hat1] }

/-- `RedDirEntryCreate()`. -/
def redDirEntryCreate (pszName : CString) (ulInode : ℕ) : Except RedError DirData := do
  let de ← newDirent pszName ulInode
  let (found, ulEntryIdx) ← redDirEntryLookup s d pszName
  if found.isSome then .error .EEXIST
  else if ulEntryIdx = DIR_INDEX_INVALID then .error .ENOSPC
  else dirEntryWrite s d ulEntryIdx (some de)

/-! ## Deleting -/

/-- The backward search of `RedDirEntryDelete()` inside one block: the last entry in use among the
first `n`. -/
def lastInBlock (pDirents : ℕ → Option Dirent) : ℕ → Option ℕ
  | 0 => none
  | n + 1 => if (pDirents n).isSome then some n else lastInBlock pDirents n

/-- The backward search of `RedDirEntryDelete()`, for at most `fuel` blocks: the last entry in use
up to `ulTruncIdx`, or `UINT32_MAX` when there is none. -/
def dirTruncLoop : ℕ → ℕ → Except RedError ℕ
  | fuel, ulTruncIdx =>
    if ulTruncIdx = UINT32_MAX then .ok ulTruncIdx
    else
      match fuel with
      | 0 => .error .outOfFuel
      | fuel + 1 =>
        match d.redInodeDataSeekAndRead (ulTruncIdx / s.direntsPerBlock) with
        | .ok pDirents =>
          let ulBlockIdx := ulTruncIdx % s.direntsPerBlock
          match lastInBlock pDirents (ulBlockIdx + 1) with
          | some k => .ok (ulTruncIdx - ulBlockIdx + k)
          | none => dirTruncLoop fuel (sub32 ulTruncIdx (ulBlockIdx + 1))
        | .error .ENODATA => dirTruncLoop fuel (sub32 ulTruncIdx s.direntsPerBlock)
        | .error e => .error e

/-- `RedDirEntryDelete()`. -/
def redDirEntryDelete (ulDeleteIdx : ℕ) : Except RedError DirData := do
  let ullIdxOffset := s.dirEntryIndexToOffset ulDeleteIdx
  if s.direntsMax ≤ ulDeleteIdx ∨ d.ullSize ≤ ullIdxOffset then .error .EINVAL
  else if ullIdxOffset + direntSize = d.ullSize then
    let ulTruncIdx ← dirTruncLoop s d ulDeleteIdx (sub32 ulDeleteIdx 1)
    .ok (d.redInodeDataTruncate (s.dirTruncSize (u32 (ulTruncIdx + 1))))
  else dirEntryWrite s d ulDeleteIdx none

end DirData

end RelianceEdge
