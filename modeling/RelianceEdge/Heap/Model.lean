import RelianceEdge.Lib.Memory
import RelianceEdge.Lib.Op
import RelianceEdge.Conf

set_option relaxedAutoImplicit false
set_option autoImplicit false

/-!
# The heap allocator

The optional allocator of `heap.c`: a pool of memory that is tiled with blocks, each of which begins
with a header. The headers are linked both ways and stay in the order of their addresses. A free
block is found by best fit, split when it is too large, and merged with its neighbours when it is
given back.

Pointers are addresses, and `NULL` is 0. A loop that has not ended after as many steps as the pool
has bytes never ends.

## Main definitions

* `RedHeapHdr`, `Heap` — a header, and the memory with the heap management data.
* `redHeapInit`, `redHeapAlloc`, `redHeapCalloc`, `redHeapRealloc`, `redHeapFree`.
-/

namespace RelianceEdge

/-- The size of a pointer. -/
class HeapConf where
  ptrSize : ℕ
  ptrSize_mem : ptrSize = 4 ∨ ptrSize = 8

/-- `sREDHEAPHDR`. -/
@[ext]
structure RedHeapHdr where
  ulSentinel : ℕ
  ulBlockSize : ℕ
  pNext : ℕ
  pPrev : ℕ
  deriving DecidableEq

/-- `REDHEAPINFO`. -/
structure RedHeapInfo where
  pbPoolBase : ℕ
  ulPoolSize : ℕ
  ulAllocBytes : ℕ
  ulMaxAllocBytes : ℕ
  ulAllocCount : ℕ
  ulTotalCount : ℕ
  deriving DecidableEq

/-- The memory and the heap management data. -/
structure Heap where
  mem : Memory
  gHI : RedHeapInfo

/-- What may go wrong without a status: a loop that never ends. -/
inductive HeapError where
  | outOfFuel
  deriving DecidableEq

abbrev HeapOp (α : Type) := Op Heap HeapError α

def REDHEAP_SENTINEL_FREE : ℕ := 0xFBFCFDFE

def REDHEAP_SENTINEL_ALLOC : ℕ := 0xFBFCFDFF

/-- `~REDHEAP_SENTINEL_FREE`, what is left in the header of a block that was merged. -/
def REDHEAP_SENTINEL_MERGED : ℕ := 0x04030201

variable [HeapConf]

open HeapConf

/-! ## Headers -/

/-- `(x + REDHEAP_ALIGN_MASK) & ~REDHEAP_ALIGN_MASK`. -/
def alignUp (x : ℕ) : ℕ := (x + (ptrSize - 1)) / ptrSize * ptrSize

/-- `REDHEAP_HDR_SIZE`. -/
def redHeapHdrSize : ℕ := alignUp (4 + 4 + ptrSize + ptrSize)

/-- `REDHEAP_MEM_TO_HDR()`. -/
def redHeapMemToHdr (pMem : ℕ) : ℕ := pMem - redHeapHdrSize

/-- `REDHEAP_HDR_TO_MEM()`. -/
def redHeapHdrToMem (pHdr : ℕ) : ℕ := pHdr + redHeapHdrSize

/-- The header at an address. -/
def Heap.hdr (h : Heap) (p : ℕ) : RedHeapHdr where
  ulSentinel := h.mem.load p 4
  ulBlockSize := h.mem.load (p + 4) 4
  pNext := h.mem.load (p + 8) ptrSize
  pPrev := h.mem.load (p + 8 + ptrSize) ptrSize

def Heap.setSentinel (h : Heap) (p v : ℕ) : Heap := { h with mem := h.mem.store p 4 v }

def Heap.setBlockSize (h : Heap) (p v : ℕ) : Heap := { h with mem := h.mem.store (p + 4) 4 v }

def Heap.setNext (h : Heap) (p v : ℕ) : Heap := { h with mem := h.mem.store (p + 8) ptrSize v }

def Heap.setPrev (h : Heap) (p v : ℕ) : Heap :=
  { h with mem := h.mem.store (p + 8 + ptrSize) ptrSize v }

/-- `REDHEAP_IS_FREE()`. -/
def Heap.isFree (h : Heap) (p : ℕ) : Bool := (h.hdr p).ulSentinel == REDHEAP_SENTINEL_FREE

/-- `REDHEAP_IS_ALLOC()`. -/
def Heap.isAlloc (h : Heap) (p : ℕ) : Bool := (h.hdr p).ulSentinel == REDHEAP_SENTINEL_ALLOC

/-! ## Pools -/

/-- `RedHeapInit()`. -/
def redHeapInit (pMemBase ulMemSize : ℕ) (mem : Memory) : Heap :=
  let gHI : RedHeapInfo :=
    { pbPoolBase := pMemBase
      ulPoolSize := ulMemSize
      ulAllocBytes := redHeapHdrSize
      ulMaxAllocBytes := redHeapHdrSize
      ulAllocCount := 1
      ulTotalCount := 2 }
  let pHead := pMemBase
  let ulBlockSize := (ulMemSize - redHeapHdrSize) / ptrSize * ptrSize
  let pLast := pMemBase + ulBlockSize
  let h : Heap := ⟨mem, gHI⟩
  let h := h.setSentinel pHead REDHEAP_SENTINEL_FREE
  let h := h.setBlockSize pHead ulBlockSize
  let h := h.setNext pHead pLast
  let h := h.setPrev pHead 0
  -- The terminating header is marked as allocated, so that it is never merged.
  let h := h.setSentinel pLast REDHEAP_SENTINEL_ALLOC
  let h := h.setBlockSize pLast redHeapHdrSize
  let h := h.setNext pLast 0
  h.setPrev pLast pHead

/-! ## Blocks -/

/-- Split a block that is too large. -/
def heapBlockSplit (pBlock ulRequestedSize : ℕ) (h : Heap) : Heap :=
  let pNext := pBlock + ulRequestedSize
  let h := h.setNext pNext (h.hdr pBlock).pNext
  let h := h.setPrev (h.hdr pNext).pNext pNext
  let h := h.setPrev pNext pBlock
  let h := h.setNext (h.hdr pNext).pPrev pNext
  let h := h.setBlockSize pNext (sub32 (h.hdr pBlock).ulBlockSize ulRequestedSize)
  let h := h.setSentinel pNext REDHEAP_SENTINEL_FREE
  let h := { h with gHI := { h.gHI with ulTotalCount := u32 (h.gHI.ulTotalCount + 1) } }
  h.setBlockSize pBlock ulRequestedSize

/-- Mark a block as allocated. -/
def heapBlockMark (pBlock : ℕ) (h : Heap) : Heap :=
  let h := h.setSentinel pBlock REDHEAP_SENTINEL_ALLOC
  let ulAllocBytes := u32 (h.gHI.ulAllocBytes + (h.hdr pBlock).ulBlockSize)
  { h with gHI := { h.gHI with
    ulAllocCount := u32 (h.gHI.ulAllocCount + 1)
    ulAllocBytes := ulAllocBytes
    ulMaxAllocBytes :=
      if ulAllocBytes > h.gHI.ulMaxAllocBytes then ulAllocBytes else h.gHI.ulMaxAllocBytes } }

/-- `HeapBlockAlloc()`. The sum is of the type of a size. -/
def heapBlockAlloc (pBlock ulRequestedSize : ℕ) (h : Heap) : Heap :=
  if (h.hdr pBlock).ulBlockSize > (ulRequestedSize + redHeapHdrSize) % 2 ^ (8 * ptrSize) then
    heapBlockMark pBlock (heapBlockSplit pBlock ulRequestedSize h)
  else heapBlockMark pBlock h

/-- Merge a block with the one after it. -/
def heapMerge (pBlock pNext : ℕ) (h : Heap) : Heap :=
  let h := h.setBlockSize pBlock (u32 ((h.hdr pBlock).ulBlockSize + (h.hdr pNext).ulBlockSize))
  let h := h.setNext pBlock (h.hdr pNext).pNext
  let h := if (h.hdr pBlock).pNext ≠ 0 then h.setPrev (h.hdr pBlock).pNext pBlock else h
  let h := h.setSentinel pNext REDHEAP_SENTINEL_MERGED
  { h with gHI := { h.gHI with ulTotalCount := sub32 h.gHI.ulTotalCount 1 } }

/-- Merge a block with a free one after it. -/
def heapMergeNext (pBlock : ℕ) (h : Heap) : Heap :=
  if (h.hdr pBlock).pNext ≠ 0 ∧ h.isFree (h.hdr pBlock).pNext then
    heapMerge pBlock (h.hdr pBlock).pNext h
  else h

/-- Merge a block with a free one before it. -/
def heapMergePrev (pBlock : ℕ) (h : Heap) : ℕ × Heap :=
  if (h.hdr pBlock).pPrev ≠ 0 ∧ h.isFree (h.hdr pBlock).pPrev then
    ((h.hdr pBlock).pPrev, heapMerge (h.hdr pBlock).pPrev pBlock h)
  else (pBlock, h)

/-- Mark a block as free. -/
def heapBlockUnmark (pBlock : ℕ) (h : Heap) : Heap :=
  let h := h.setSentinel pBlock REDHEAP_SENTINEL_FREE
  { h with gHI := { h.gHI with
    ulAllocCount := sub32 h.gHI.ulAllocCount 1
    ulAllocBytes := sub32 h.gHI.ulAllocBytes (h.hdr pBlock).ulBlockSize } }

/-- `HeapBlockFree()`. -/
def heapBlockFree (pBlock : ℕ) (h : Heap) : ℕ × Heap :=
  heapMergePrev pBlock (heapMergeNext pBlock (heapBlockUnmark pBlock h))

/-! ## Requests -/

/-- The size of a block that has room for a request. -/
def requestedSize (ulSize : ℕ) : ℕ := u32 (alignUp ulSize + redHeapHdrSize)

/-- The search for the best fit, from `pHead` on, for at most `fuel` headers. `best` is the best
block so far with its size, 0 if there is none. When a block is reallocated (`fSkip`), the blocks
that it could be merged with are passed over as one. -/
def heapSearch (h : Heap) (fSkip : Bool) (ulRequestedSize : ℕ) :
    ℕ → ℕ → ℕ × ℕ → Except HeapError (ℕ × ℕ)
  | 0, _, _ => .error .outOfFuel
  | fuel + 1, pHead, best =>
    if pHead = 0 then .ok best
    else if fSkip ∧ pHead = best.1 then
      heapSearch h fSkip ulRequestedSize fuel (best.1 + best.2) best
    else if h.isFree pHead then
      let ulBlockSize := (h.hdr pHead).ulBlockSize
      if ulBlockSize ≥ ulRequestedSize ∧ (best.2 = 0 ∨ ulBlockSize < best.2) then
        -- Stop when the fit is optimal.
        if ulBlockSize = ulRequestedSize then .ok (pHead, ulBlockSize)
        else heapSearch h fSkip ulRequestedSize fuel (h.hdr pHead).pNext (pHead, ulBlockSize)
      else heapSearch h fSkip ulRequestedSize fuel (h.hdr pHead).pNext best
    else if !h.isAlloc pHead then .ok (0, 0)
    else heapSearch h fSkip ulRequestedSize fuel (h.hdr pHead).pNext best

/-- `RedHeapAlloc()`. -/
def redHeapAlloc (ulSize : ℕ) : HeapOp ℕ := do
  let h ← .get
  let ulRequestedSize := requestedSize ulSize
  let best ← .ofExcept (heapSearch h false ulRequestedSize (h.gHI.ulPoolSize + 1) h.gHI.pbPoolBase
    (0, 0))
  if best.2 > 0 then
    .modify (heapBlockAlloc best.1 ulRequestedSize)
    pure (redHeapHdrToMem best.1)
  else pure 0

/-- Whether a pointer is outside the heap, as `RedHeapFree()` sees it. -/
def Heap.isOutside (h : Heap) (pMem : ℕ) : Bool :=
  decide (pMem < h.gHI.pbPoolBase + redHeapHdrSize) ||
    decide (pMem ≥ h.gHI.pbPoolBase + (h.gHI.ulPoolSize - redHeapHdrSize * 2))

/-- `RedHeapFree()`. -/
def redHeapFree (pMem : ℕ) : HeapOp Unit := do
  let h ← .get
  if h.isOutside pMem then pure ()
  else if !h.isAlloc (redHeapMemToHdr pMem) then pure ()
  else .modify fun h => (heapBlockFree (redHeapMemToHdr pMem) h).2

/-- The block that an allocated one could become part of, with its size. -/
def Heap.mergedBlock (h : Heap) (pCurrent : ℕ) : ℕ × ℕ :=
  let ulBestSize := (h.hdr pCurrent).ulBlockSize
  let ulBestSize :=
    if (h.hdr pCurrent).pNext ≠ 0 ∧ h.isFree (h.hdr pCurrent).pNext then
      u32 (ulBestSize + (h.hdr (h.hdr pCurrent).pNext).ulBlockSize)
    else ulBestSize
  if (h.hdr pCurrent).pPrev ≠ 0 ∧ h.isFree (h.hdr pCurrent).pPrev then
    ((h.hdr pCurrent).pPrev, u32 (ulBestSize + (h.hdr (h.hdr pCurrent).pPrev).ulBlockSize))
  else (pCurrent, ulBestSize)

/-- Copy the data of a block. -/
def Heap.copy (h : Heap) (pbDst pbSrc n : ℕ) : Heap := { h with mem := h.mem.move pbDst pbSrc n }

/-- `RedHeapRealloc()`. -/
def redHeapRealloc (pMem ulSize : ℕ) : HeapOp ℕ := do
  if ulSize = 0 then
    redHeapFree pMem
    pure 0
  else
    let h ← .get
    let pCurrent := redHeapMemToHdr pMem
    if h.isOutside pMem then pure 0
    else if !h.isAlloc pCurrent then pure 0
    else
      let ulRequestedSize := requestedSize ulSize
      let merged := h.mergedBlock pCurrent
      let best ← .ofExcept (heapSearch h true ulRequestedSize
        (h.gHI.ulPoolSize + 1) h.gHI.pbPoolBase
        (if merged.2 < ulRequestedSize then (0, 0) else merged))
      if best.2 > 0 then
        let ulCopySize := min ulSize (sub32 (h.hdr pCurrent).ulBlockSize redHeapHdrSize)
        if best.1 = pCurrent ∨ best.1 = (h.hdr pCurrent).pPrev then
          -- Combine the neighbours, and copy the data when the block begins earlier now.
          let pBestBlock := (heapBlockFree pCurrent h).1
          .modify fun h => (heapBlockFree pCurrent h).2
          .modify fun h =>
            if redHeapHdrToMem pBestBlock ≠ redHeapHdrToMem pCurrent then
              h.copy (redHeapHdrToMem pBestBlock) (redHeapHdrToMem pCurrent) ulCopySize
            else h
          .modify (heapBlockAlloc pBestBlock ulRequestedSize)
          pure (redHeapHdrToMem pBestBlock)
        else
          .modify fun h => h.copy (redHeapHdrToMem best.1) (redHeapHdrToMem pCurrent) ulCopySize
          .modify (heapBlockAlloc best.1 ulRequestedSize)
          .modify fun h => (heapBlockFree pCurrent h).2
          pure (redHeapHdrToMem best.1)
      else pure 0

/-- `RedHeapCalloc()`. -/
def redHeapCalloc (ulElements ulElementSize : ℕ) : HeapOp ℕ := do
  let ulSize := u32 (alignUp ulElementSize)
  if ulSize < ulElementSize ∨ (ulElements > 0 ∧ ulSize > UINT32_MAX / ulElements) then pure 0
  else
    let ulSize := u32 (ulSize * ulElements)
    let pMem ← redHeapAlloc ulSize
    if pMem ≠ 0 then
      .modify fun h => { h with mem := h.mem.fill pMem 0 ulSize }
      pure pMem
    else pure 0

end RelianceEdge
