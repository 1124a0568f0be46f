import Mathlib.Data.List.Chain
import RelianceEdge.Heap.Blocks

set_option relaxedAutoImplicit false
set_option autoImplicit false
set_option linter.unusedSectionVars false

/-!
# Operations on the blocks of a heap

What splitting, marking and merging do to the list of blocks, and from that what `HeapBlockAlloc()`
and `HeapBlockFree()` do.

## Main definitions

* `Heap.Sound` — the blocks tile the pool, and no two neighbours are free.

## Main results

* `Heap.Tiled.split`, `Heap.Tiled.mark`, `Heap.Tiled.merge` — the single changes.
* `Heap.Sound.blockAlloc`, `Heap.Sound.blockFree` — the operations.
-/

namespace RelianceEdge

variable [HeapConf]

open HeapConf

section

variable {h h' : Heap} {p q e : ℕ} {a b sz req : ℕ} {bs l r : List HeapBlock}

lemma sub32_of_le (hab : b ≤ a) (ha : a < 2 ^ 32) : sub32 a b = a - b := by
  unfold sub32 u32
  omega

lemma u32_of_lt (ha : a < 2 ^ 32) : u32 a = a := Nat.mod_eq_of_lt ha

lemma sentinel_free_lt : REDHEAP_SENTINEL_FREE < 2 ^ 32 := by decide

lemma sentinel_alloc_lt : REDHEAP_SENTINEL_ALLOC < 2 ^ 32 := by decide

lemma length_le_blockBytes (hs : ∀ b ∈ bs, redHeapHdrSize ≤ b.size) :
    bs.length ≤ blockBytes bs := by
  induction bs with
  | nil => exact le_rfl
  | cons b bs ih =>
    have h1 := hs b List.mem_cons_self
    have h2 := ih fun c hc => hs c (List.mem_cons_of_mem _ hc)
    have h3 := redHeapHdrSize_pos
    rw [List.length_cons, blockBytes_cons]
    omega

lemma usedCount_le : usedCount bs ≤ bs.length := List.countP_le_length

/-- The counts of a pool are small. -/
lemma Heap.Tiled.count_lt (ht : h.Tiled bs) : bs.length + 2 < 2 ^ 32 := by
  have h1 := length_le_blockBytes fun b hb => (ht.block b hb).1
  have h2 := ht.bytes
  have h3 := ht.size_lt
  have h4 := redHeapHdrSize_eq
  omega

/-! ## Splitting and marking -/

/-- **Splitting a free block.** -/
lemma Heap.Tiled.split (ht : h.Tiled (l ++ [⟨sz, false⟩] ++ r))
    (hq : q = h.gHI.pbPoolBase + blockBytes l) (hreq : redHeapHdrSize ≤ req) (hdvd : ptrSize ∣ req)
    (hsz : req + redHeapHdrSize ≤ sz) :
    (heapBlockSplit q req h).Tiled (l ++ [⟨req, false⟩, ⟨sz - req, false⟩] ++ r) ∧
      h.OnlyHdrs (heapBlockSplit q req h) [q, q + req, q + sz] ∧
      (heapBlockSplit q req h).gHI = { h.gHI with ulTotalCount := h.gHI.ulTotalCount + 1 } := by
  have hle := ht.bytes_le
  simp only [blockBytes_append, blockBytes_cons, blockBytes_nil] at hle
  have hlt := ht.size_lt
  have hcount := ht.count_lt
  have hpos := redHeapHdrSize_pos
  have hblock : redHeapHdrSize ≤ sz ∧ ptrSize ∣ sz := ht.block ⟨sz, false⟩ (by simp)
  have hhdr : h.hdr q = ⟨REDHEAP_SENTINEL_FREE, sz, q + sz, lastAt 0 h.gHI.pbPoolBase l⟩ := by
    rw [hq, Heap.Tiled.hdr (by simpa using ht)]
    rfl
  have h1 : HdrApart q (q + req) := .inl (by omega)
  have h2 : HdrApart (q + req) (q + sz) := .inl (by omega)
  have h3 : HdrApart q (q + sz) := .inl (by omega)
  have hsub : sub32 sz req = sz - req := sub32_of_le (by omega) (by omega)
  have hq' : q < 256 ^ ptrSize := ht.lt_pow (by omega)
  have hn' : q + req < 256 ^ ptrSize := ht.lt_pow (by omega)
  have he' : q + sz < 256 ^ ptrSize := ht.lt_pow (by omega)
  have hr' : req < 2 ^ 32 := by omega
  have hd' : sz - req < 2 ^ 32 := by omega
  have hinfo : (heapBlockSplit q req h).gHI =
      { h.gHI with ulTotalCount := h.gHI.ulTotalCount + 1 } := by
    have htotal : u32 (h.gHI.ulTotalCount + 1) = h.gHI.ulTotalCount + 1 := by
      rw [ht.totalCount]
      exact u32_of_lt (by omega)
    rw [← htotal]
    rfl
  have honly : h.OnlyHdrs (heapBlockSplit q req h) [q, q + req, q + sz] := by
    unfold heapBlockSplit
    simp only [Heap.hdr_setNext, Heap.hdr_setPrev, Heap.hdr_setPrev_of_apart, hhdr,
      h1.symm, h2.symm, hn',
      he', hq']
    exact ((((((((Heap.OnlyHdrs.refl h _).setNext (by simp)).setPrev (by simp)).setPrev
      (by simp)).setNext (by simp)).setBlockSize (by simp)).setSentinel (by simp)).withInfo
      _).setBlockSize (by simp)
  have hfin : (heapBlockSplit q req h).hdr q =
        ⟨REDHEAP_SENTINEL_FREE, req, q + req, lastAt 0 h.gHI.pbPoolBase l⟩ ∧
      (heapBlockSplit q req h).hdr (q + req) = ⟨REDHEAP_SENTINEL_FREE, sz - req, q + sz, q⟩ ∧
      (heapBlockSplit q req h).hdr (q + sz) = { h.hdr (q + sz) with pPrev := q + req } := by
    unfold heapBlockSplit
    simp only [Heap.hdr_withInfo, Heap.hdr_setNext, Heap.hdr_setPrev, Heap.hdr_setBlockSize,
      Heap.hdr_setSentinel, Heap.hdr_setNext_of_apart, Heap.hdr_setPrev_of_apart,
      Heap.hdr_setBlockSize_of_apart, Heap.hdr_setSentinel_of_apart, hhdr, h1, h1.symm,
      h2, h2.symm, h3,
      h3.symm, hsub, hq', hn', he', hr', hd', sentinel_free_lt, and_self]
  have hend : h.gHI.pbPoolBase + blockBytes (l ++ [⟨sz, false⟩]) = q + sz := by
    simp only [blockBytes_append, blockBytes_cons, blockBytes_nil]
    omega
  refine ⟨ht.edit ?_ ?_ honly ?_ ?_ ?_ ?_ ?_ ?_ ?_ ?_ ?_, honly, hinfo⟩
  · simp only [blockBytes_cons, blockBytes_nil]
    exact congrArg (· + 0) (Nat.add_sub_cancel' (show req ≤ sz by omega))
  · intro c hc
    simp only [List.mem_cons, List.not_mem_nil, or_false] at hc
    rcases hc with rfl | rfl
    · exact ⟨hreq, hdvd⟩
    · exact ⟨by dsimp only; omega, Nat.dvd_sub hblock.2 hdvd⟩
  · intro x hx
    rw [hend]
    simp only [List.mem_cons, List.not_mem_nil, or_false] at hx
    omega
  · rw [← hq]
    refine ⟨hfin.1, ?_, trivial⟩
    rw [hfin.2.1]
    unfold HeapBlock.hdr HeapBlock.sentinel
    simp only [Bool.false_eq_true, if_false, RedHeapHdr.mk.injEq, true_and, and_true]
    omega
  · rw [hend, hfin.2.2]
    simp [lastAt, ← hq]
  · rw [hinfo]
  · rw [hinfo]
  · rw [hinfo]
    simp only [List.length_cons, List.length_nil]
  · rw [hinfo]
    simp
  · rw [hinfo]
    simp
  · rw [hinfo]
    exact ht.maxAllocBytes

/-- **Marking a free block as allocated.** -/
lemma Heap.Tiled.mark (ht : h.Tiled (l ++ [⟨sz, false⟩] ++ r))
    (hq : q = h.gHI.pbPoolBase + blockBytes l) :
    (heapBlockMark q h).Tiled (l ++ [⟨sz, true⟩] ++ r) ∧ h.OnlyHdrs (heapBlockMark q h) [q] ∧
      (heapBlockMark q h).gHI.pbPoolBase = h.gHI.pbPoolBase ∧
      (heapBlockMark q h).gHI.ulPoolSize = h.gHI.ulPoolSize := by
  have hle := ht.bytes_le
  simp only [blockBytes_append, blockBytes_cons, blockBytes_nil] at hle
  have hlt := ht.size_lt
  have hcount := ht.count_lt
  have husedCount : usedCount (l ++ [⟨sz, false⟩] ++ r) ≤ _ := usedCount_le
  have hl : usedBytes l ≤ blockBytes l := usedBytes_le
  have hr : usedBytes r ≤ blockBytes r := usedBytes_le
  have hbytes := ht.bytes
  simp only [blockBytes_append, blockBytes_cons, blockBytes_nil] at hbytes
  have hpos := redHeapHdrSize_pos
  have hblock : redHeapHdrSize ≤ sz ∧ ptrSize ∣ sz := ht.block ⟨sz, false⟩ (by simp)
  have hhdr : h.hdr q = ⟨REDHEAP_SENTINEL_FREE, sz, q + sz, lastAt 0 h.gHI.pbPoolBase l⟩ := by
    rw [hq, Heap.Tiled.hdr (by simpa using ht)]
    rfl
  have hsize : ((h.setSentinel q REDHEAP_SENTINEL_ALLOC).hdr q).ulBlockSize = sz := by
    rw [Heap.hdr_setSentinel sentinel_alloc_lt, hhdr]
  have hbytes' : u32 (h.gHI.ulAllocBytes + sz) = h.gHI.ulAllocBytes + sz := by
    rw [ht.allocBytes]
    simp only [usedBytes_append, usedBytes_cons, usedBytes_nil, Bool.false_eq_true, if_false]
    exact u32_of_lt (by omega)
  have hcount' : u32 (h.gHI.ulAllocCount + 1) = h.gHI.ulAllocCount + 1 := by
    rw [ht.allocCount]
    exact u32_of_lt (by omega)
  have hrun : heapBlockMark q h = { h.setSentinel q REDHEAP_SENTINEL_ALLOC with gHI := { h.gHI with
      ulAllocCount := h.gHI.ulAllocCount + 1
      ulAllocBytes := h.gHI.ulAllocBytes + sz
      ulMaxAllocBytes := if h.gHI.ulAllocBytes + sz > h.gHI.ulMaxAllocBytes then
        h.gHI.ulAllocBytes + sz else h.gHI.ulMaxAllocBytes } } := by
    unfold heapBlockMark
    simp only [hsize, Heap.gHI_setSentinel, hbytes', hcount']
  have honly : h.OnlyHdrs (heapBlockMark q h) [q] := by
    rw [hrun]
    exact ((Heap.OnlyHdrs.refl h [q]).setSentinel List.mem_cons_self).withInfo _
  have hend : h.gHI.pbPoolBase + blockBytes (l ++ [⟨sz, false⟩]) = q + sz := by
    simp only [blockBytes_append, blockBytes_cons, blockBytes_nil]
    omega
  have hapart : HdrApart q (q + sz) := .inl (by omega)
  refine ⟨ht.edit ?_ ?_ honly ?_ ?_ ?_ ?_ ?_ ?_ ?_ ?_ ?_, honly, by rw [hrun], by rw [hrun]⟩
  · rfl
  · intro c hc
    rw [List.mem_singleton.1 hc]
    exact hblock
  · intro x hx
    rw [hend, List.mem_singleton.1 hx]
    omega
  · rw [← hq]
    refine ⟨?_, trivial⟩
    rw [hrun, Heap.hdr_withInfo, Heap.hdr_setSentinel sentinel_alloc_lt, hhdr]
    rfl
  · have hprev := ht.pPrev
    rw [hend] at hprev ⊢
    rw [honly.hdr (by simpa using hapart)]
    have hlast : lastAt 0 h.gHI.pbPoolBase (l ++ [⟨sz, true⟩]) =
        lastAt 0 h.gHI.pbPoolBase (l ++ [⟨sz, false⟩]) := by simp [lastAt]
    rw [hlast, ← hprev]
  · rw [hrun]
  · rw [hrun]
  · rw [hrun]
    simp only [List.length_cons, List.length_nil]
  · rw [hrun]
    simp
  · rw [hrun]
    simp
  · rw [hrun]
    dsimp only
    split_ifs <;> omega

/-- **Marking an allocated block as free.** -/
lemma Heap.Tiled.unmark (ht : h.Tiled (l ++ [⟨sz, true⟩] ++ r))
    (hq : q = h.gHI.pbPoolBase + blockBytes l) :
    (heapBlockUnmark q h).Tiled (l ++ [⟨sz, false⟩] ++ r) ∧ h.OnlyHdrs (heapBlockUnmark q h) [q] ∧
      (heapBlockUnmark q h).gHI.pbPoolBase = h.gHI.pbPoolBase ∧
      (heapBlockUnmark q h).gHI.ulPoolSize = h.gHI.ulPoolSize := by
  have hle := ht.bytes_le
  simp only [blockBytes_append, blockBytes_cons, blockBytes_nil] at hle
  have hlt := ht.size_lt
  have hcount := ht.count_lt
  have husedCount : usedCount (l ++ [⟨sz, true⟩] ++ r) ≤ _ := usedCount_le
  have hl : usedBytes l ≤ blockBytes l := usedBytes_le
  have hr : usedBytes r ≤ blockBytes r := usedBytes_le
  have hbytes := ht.bytes
  simp only [blockBytes_append, blockBytes_cons, blockBytes_nil] at hbytes
  have hpos := redHeapHdrSize_pos
  have hblock : redHeapHdrSize ≤ sz ∧ ptrSize ∣ sz := ht.block ⟨sz, true⟩ (by simp)
  have hhdr : h.hdr q = ⟨REDHEAP_SENTINEL_ALLOC, sz, q + sz, lastAt 0 h.gHI.pbPoolBase l⟩ := by
    rw [hq, Heap.Tiled.hdr (by simpa using ht)]
    rfl
  have hsize : ((h.setSentinel q REDHEAP_SENTINEL_FREE).hdr q).ulBlockSize = sz := by
    rw [Heap.hdr_setSentinel sentinel_free_lt, hhdr]
  have halloc := ht.allocBytes
  have hused := ht.allocCount
  simp only [usedBytes_append, usedBytes_cons, usedBytes_nil, if_true, usedCount_append,
    usedCount_cons, usedCount_nil] at halloc hused husedCount
  have hbytes' : sub32 h.gHI.ulAllocBytes sz = h.gHI.ulAllocBytes - sz :=
    sub32_of_le (by omega) (by omega)
  have hcount' : sub32 h.gHI.ulAllocCount 1 = h.gHI.ulAllocCount - 1 :=
    sub32_of_le (by omega) (by omega)
  have hrun : heapBlockUnmark q h = { h.setSentinel q REDHEAP_SENTINEL_FREE with gHI := { h.gHI with
      ulAllocCount := h.gHI.ulAllocCount - 1
      ulAllocBytes := h.gHI.ulAllocBytes - sz } } := by
    unfold heapBlockUnmark
    simp only [hsize, Heap.gHI_setSentinel, hbytes', hcount']
  have honly : h.OnlyHdrs (heapBlockUnmark q h) [q] := by
    rw [hrun]
    exact ((Heap.OnlyHdrs.refl h [q]).setSentinel List.mem_cons_self).withInfo _
  have hend : h.gHI.pbPoolBase + blockBytes (l ++ [⟨sz, true⟩]) = q + sz := by
    simp only [blockBytes_append, blockBytes_cons, blockBytes_nil]
    omega
  have hapart : HdrApart q (q + sz) := .inl (by omega)
  refine ⟨ht.edit ?_ ?_ honly ?_ ?_ ?_ ?_ ?_ ?_ ?_ ?_ ?_, honly, by rw [hrun], by rw [hrun]⟩
  · rfl
  · intro c hc
    rw [List.mem_singleton.1 hc]
    exact hblock
  · intro x hx
    rw [hend, List.mem_singleton.1 hx]
    omega
  · rw [← hq]
    refine ⟨?_, trivial⟩
    rw [hrun, Heap.hdr_withInfo, Heap.hdr_setSentinel sentinel_free_lt, hhdr]
    rfl
  · have hprev := ht.pPrev
    rw [hend] at hprev ⊢
    rw [honly.hdr (by simpa using hapart)]
    have hlast : lastAt 0 h.gHI.pbPoolBase (l ++ [⟨sz, false⟩]) =
        lastAt 0 h.gHI.pbPoolBase (l ++ [⟨sz, true⟩]) := by simp [lastAt]
    rw [hlast, ← hprev]
  · rw [hrun]
  · rw [hrun]
  · rw [hrun]
    simp only [List.length_cons, List.length_nil]
  · rw [hrun]
    simp only [usedCount_cons, usedCount_nil, if_true, Bool.false_eq_true, if_false]
    omega
  · rw [hrun]
    simp only [usedBytes_cons, usedBytes_nil, if_true, Bool.false_eq_true, if_false]
    omega
  · rw [hrun]
    have := ht.maxAllocBytes
    dsimp only
    omega

/-! ## Merging -/

/-- **Merging two free blocks.** -/
lemma Heap.Tiled.merge (ht : h.Tiled (l ++ [⟨a, false⟩, ⟨b, false⟩] ++ r))
    (hp : p = h.gHI.pbPoolBase + blockBytes l) :
    (heapMerge p (p + a) h).Tiled (l ++ [⟨a + b, false⟩] ++ r) ∧
      h.OnlyHdrs (heapMerge p (p + a) h) [p, p + a, p + (a + b)] ∧
      (heapMerge p (p + a) h).gHI.pbPoolBase = h.gHI.pbPoolBase ∧
      (heapMerge p (p + a) h).gHI.ulPoolSize = h.gHI.ulPoolSize := by
  have hle := ht.bytes_le
  simp only [blockBytes_append, blockBytes_cons, blockBytes_nil] at hle
  have hlt := ht.size_lt
  have hcount := ht.count_lt
  have hpos := redHeapHdrSize_pos
  have hbase := ht.base_pos
  have ha : redHeapHdrSize ≤ a ∧ ptrSize ∣ a := ht.block ⟨a, false⟩ (by simp)
  have hb : redHeapHdrSize ≤ b ∧ ptrSize ∣ b := ht.block ⟨b, false⟩ (by simp)
  have hhdr : h.hdr p = ⟨REDHEAP_SENTINEL_FREE, a, p + a, lastAt 0 h.gHI.pbPoolBase l⟩ := by
    rw [hp, Heap.Tiled.hdr (r := ⟨b, false⟩ :: r) (by simpa using ht)]
    rfl
  have hhdr' : h.hdr (p + a) = ⟨REDHEAP_SENTINEL_FREE, b, p + (a + b), p⟩ := by
    have := Heap.Tiled.hdr (l := l ++ [⟨a, false⟩]) (b := ⟨b, false⟩) (r := r) (by simpa using ht)
    rw [show h.gHI.pbPoolBase + blockBytes (l ++ [⟨a, false⟩]) = p + a by
      simp only [blockBytes_append, blockBytes_cons, blockBytes_nil]
      omega] at this
    rw [this]
    simp [HeapBlock.hdr, HeapBlock.sentinel, lastAt, hp, Nat.add_assoc]
  have h1 : HdrApart p (p + a) := .inl (by omega)
  have h2 : HdrApart (p + a) (p + (a + b)) := .inl (by omega)
  have h3 : HdrApart p (p + (a + b)) := .inl (by omega)
  have hp' : p < 256 ^ ptrSize := ht.lt_pow (by omega)
  have he' : p + (a + b) < 256 ^ ptrSize := ht.lt_pow (by omega)
  have hs' : a + b < 2 ^ 32 := by omega
  have hu : u32 (a + b) = a + b := u32_of_lt hs'
  have hne : p + (a + b) ≠ 0 := by omega
  have htotal : sub32 h.gHI.ulTotalCount 1 = h.gHI.ulTotalCount - 1 := by
    have := ht.totalCount
    exact sub32_of_le (by omega) (by omega)
  have hrun : heapMerge p (p + a) h =
      { (((h.setBlockSize p (a + b)).setNext p (p + (a + b))).setPrev (p + (a + b)) p).setSentinel
            (p + a)
          REDHEAP_SENTINEL_MERGED with
        gHI := { h.gHI with ulTotalCount := h.gHI.ulTotalCount - 1 } } := by
    unfold heapMerge
    simp only [Heap.hdr_setNext, Heap.hdr_setBlockSize_of_apart, hhdr, hhdr', h1, hu,
      he', ne_eq, hne,
      not_false_eq_true, if_true, Heap.gHI_setSentinel, Heap.gHI_setPrev, Heap.gHI_setNext,
      Heap.gHI_setBlockSize, htotal]
  have honly : h.OnlyHdrs (heapMerge p (p + a) h) [p, p + a, p + (a + b)] := by
    rw [hrun]
    exact (((((Heap.OnlyHdrs.refl h _).setBlockSize (by simp)).setNext (by simp)).setPrev
      (by simp)).setSentinel (by simp)).withInfo _
  have hfin : (heapMerge p (p + a) h).hdr p =
        ⟨REDHEAP_SENTINEL_FREE, a + b, p + (a + b), lastAt 0 h.gHI.pbPoolBase l⟩ ∧
      (heapMerge p (p + a) h).hdr (p + (a + b)) = { h.hdr (p + (a + b)) with pPrev := p } := by
    rw [hrun]
    simp only [Heap.hdr_withInfo, Heap.hdr_setNext, Heap.hdr_setPrev, Heap.hdr_setBlockSize,
      Heap.hdr_setNext_of_apart, Heap.hdr_setPrev_of_apart, Heap.hdr_setBlockSize_of_apart,
      Heap.hdr_setSentinel_of_apart, hhdr, h1.symm, h2, h3, h3.symm, hp', he', hs', and_self]
  have hend : h.gHI.pbPoolBase + blockBytes (l ++ [⟨a, false⟩, ⟨b, false⟩]) = p + (a + b) := by
    simp only [blockBytes_append, blockBytes_cons, blockBytes_nil]
    omega
  refine ⟨ht.edit ?_ ?_ honly ?_ ?_ ?_ ?_ ?_ ?_ ?_ ?_ ?_, honly, by rw [hrun], by rw [hrun]⟩
  · simp
  · intro c hc
    rw [List.mem_singleton.1 hc]
    exact ⟨by dsimp only; omega, Nat.dvd_add ha.2 hb.2⟩
  · intro x hx
    rw [hend]
    simp only [List.mem_cons, List.not_mem_nil, or_false] at hx
    omega
  · rw [← hp]
    exact ⟨hfin.1, trivial⟩
  · rw [hend, hfin.2]
    simp [lastAt, ← hp]
  · rw [hrun]
  · rw [hrun]
  · rw [hrun]
    have := ht.totalCount
    simp only [List.length_cons, List.length_nil]
    omega
  · rw [hrun]
    simp
  · rw [hrun]
    simp
  · rw [hrun]
    exact ht.maxAllocBytes

/-! ## Neighbours -/

/-- No two neighbours are free. -/
def NoFreeNeighbours (bs : List HeapBlock) : Prop :=
  bs.IsChain fun b c => b.used = true ∨ c.used = true

lemma noFreeNeighbours_mid {c : HeapBlock} : NoFreeNeighbours (l ++ [c] ++ r) ↔
    NoFreeNeighbours l ∧ NoFreeNeighbours r ∧
      (c.used = true ∨ (∀ d ∈ l.getLast?, d.used = true) ∧ ∀ d ∈ r.head?, d.used = true) := by
  unfold NoFreeNeighbours
  rw [List.isChain_append, List.isChain_append]
  simp only [List.isChain_singleton, List.head?_cons, Option.mem_some_iff, List.getLast?_append,
    List.getLast?_singleton, Option.some_or, true_and, forall_eq']
  constructor
  · rintro ⟨⟨h1, h2⟩, h3, h4⟩
    refine ⟨h1, h3, ?_⟩
    by_cases hc : c.used = true
    · exact .inl hc
    · exact .inr ⟨fun d hd => (h2 d hd).resolve_right hc, fun d hd => (h4 d hd).resolve_left hc⟩
  · rintro ⟨h1, h3, h4⟩
    refine ⟨⟨h1, fun d hd => ?_⟩, h3, fun d hd => ?_⟩
    · exact h4.symm.imp (fun h => h.1 d hd) id
    · exact h4.imp id fun h => h.2 d hd

lemma noFreeNeighbours_cons {c : HeapBlock} : NoFreeNeighbours (c :: r) ↔
    NoFreeNeighbours r ∧ (c.used = true ∨ ∀ d ∈ r.head?, d.used = true) := by
  have := noFreeNeighbours_mid (l := []) (c := c) (r := r)
  simpa [NoFreeNeighbours] using this

lemma noFreeNeighbours_concat {c : HeapBlock} : NoFreeNeighbours (l ++ [c]) ↔
    NoFreeNeighbours l ∧ (c.used = true ∨ ∀ d ∈ l.getLast?, d.used = true) := by
  have := noFreeNeighbours_mid (l := l) (c := c) (r := [])
  simpa [NoFreeNeighbours] using this

/-- Whether the first of some blocks is free. -/
lemma head_cases (r : List HeapBlock) :
    (∀ d ∈ r.head?, d.used = true) ∨ ∃ n r', r = ⟨n, false⟩ :: r' := by
  rcases r with _ | ⟨⟨n, _ | _⟩, r⟩
  · exact .inl (by simp)
  · exact .inr ⟨n, r, rfl⟩
  · exact .inl (by simp)

/-- Whether the last of some blocks is free. -/
lemma last_cases (l : List HeapBlock) :
    (∀ d ∈ l.getLast?, d.used = true) ∨ ∃ n l', l = l' ++ [⟨n, false⟩] := by
  rcases List.eq_nil_or_concat l with rfl | ⟨l', ⟨n, _ | _⟩, rfl⟩
  · exact .inl (by simp)
  · exact .inr ⟨n, l', List.concat_eq_append⟩
  · exact .inl (by simp)

lemma sentinel_alloc_ne : (REDHEAP_SENTINEL_ALLOC == REDHEAP_SENTINEL_FREE) = false := by decide

section

variable {u : Bool}

/-- The header of a block says where the next one is. -/
lemma Heap.Tiled.next (ht : h.Tiled (l ++ [⟨sz, u⟩] ++ r))
    (hq : q = h.gHI.pbPoolBase + blockBytes l) :
    (h.hdr q).ulBlockSize = sz ∧ (h.hdr q).pNext = q + sz ∧ q + sz ≠ 0 ∧
      (h.hdr q).pPrev = lastAt 0 h.gHI.pbPoolBase l ∧ (h.isAlloc q = true ↔ u = true) ∧
      (h.isFree q = true ↔ u = false) := by
  have hpos := ht.base_pos
  have hhdr : h.hdr q = (⟨sz, u⟩ : HeapBlock).hdr (lastAt 0 h.gHI.pbPoolBase l) q := by
    rw [hq, Heap.Tiled.hdr (by simpa using ht)]
  unfold Heap.isAlloc Heap.isFree
  rw [hhdr]
  refine ⟨rfl, rfl, by omega, rfl, ?_, ?_⟩
  · cases u <;> simp [HeapBlock.hdr, HeapBlock.sentinel, REDHEAP_SENTINEL_ALLOC,
      REDHEAP_SENTINEL_FREE]
  · cases u <;> simp [HeapBlock.hdr, HeapBlock.sentinel, REDHEAP_SENTINEL_ALLOC,
      REDHEAP_SENTINEL_FREE]

lemma Heap.Tiled.next_free {n : ℕ} (ht : h.Tiled (l ++ [⟨sz, u⟩] ++ ⟨n, false⟩ :: r))
    (hq : q = h.gHI.pbPoolBase + blockBytes l) :
    h.isFree (q + sz) = true ∧ (h.hdr (q + sz)).ulBlockSize = n := by
  have ht' : h.Tiled (l ++ [⟨sz, u⟩] ++ [⟨n, false⟩] ++ r) := by simpa using ht
  have := ht'.next (q := q + sz) (by
    simp only [blockBytes_append, blockBytes_cons, blockBytes_nil]
    omega)
  exact ⟨this.2.2.2.2.2.2 rfl, this.1⟩

lemma Heap.Tiled.next_used (ht : h.Tiled (l ++ [⟨sz, u⟩] ++ r))
    (hq : q = h.gHI.pbPoolBase + blockBytes l) (hr : ∀ d ∈ r.head?, d.used = true) :
    h.isFree (q + sz) = false := by
  have hend : q + sz = h.gHI.pbPoolBase + blockBytes (l ++ [⟨sz, u⟩]) := by
    simp only [blockBytes_append, blockBytes_cons, blockBytes_nil]
    omega
  rcases r with _ | ⟨⟨n, v⟩, r⟩
  · have hterm := ht.tiles.2
    rw [List.append_nil, ← hend] at hterm
    unfold Heap.isFree
    rw [hterm]
    exact sentinel_alloc_ne
  · have hv : v = true := by simpa using hr
    have ht' : h.Tiled (l ++ [⟨sz, u⟩] ++ [⟨n, v⟩] ++ r) := by simpa using ht
    have := ht'.next hend
    rw [Bool.eq_false_iff]
    intro hf
    rw [this.2.2.2.2.2.1 hf] at hv
    cases hv

lemma Heap.Tiled.prev_free {n : ℕ} (ht : h.Tiled (l ++ [⟨n, false⟩] ++ [⟨sz, u⟩] ++ r))
    (hq : q = h.gHI.pbPoolBase + blockBytes (l ++ [⟨n, false⟩])) :
    (h.hdr q).pPrev = h.gHI.pbPoolBase + blockBytes l ∧ h.gHI.pbPoolBase + blockBytes l ≠ 0 ∧
      h.isFree (h.gHI.pbPoolBase + blockBytes l) = true ∧
      (h.hdr (h.gHI.pbPoolBase + blockBytes l)).ulBlockSize = n := by
  have hpos := ht.base_pos
  have h1 := (ht.next hq).2.2.2.1
  have ht' : h.Tiled (l ++ [⟨n, false⟩] ++ ⟨sz, u⟩ :: r) := by simpa using ht
  have h2 := ht'.next rfl
  refine ⟨?_, by omega, h2.2.2.2.2.2.2 rfl, h2.1⟩
  rw [h1, lastAt_append]
  rfl

lemma Heap.Tiled.prev_used (ht : h.Tiled (l ++ [⟨sz, u⟩] ++ r))
    (hq : q = h.gHI.pbPoolBase + blockBytes l) (hl : ∀ d ∈ l.getLast?, d.used = true) :
    ¬ ((h.hdr q).pPrev ≠ 0 ∧ h.isFree (h.hdr q).pPrev = true) := by
  rw [(ht.next hq).2.2.2.1]
  rcases List.eq_nil_or_concat l with rfl | ⟨l', ⟨n, v⟩, rfl⟩
  · exact fun h => h.1 rfl
  · have hv : v = true := by simpa using hl
    have ht' : h.Tiled (l' ++ [⟨n, v⟩] ++ ⟨sz, u⟩ :: r) := by simpa using ht
    have h2 := ht'.next rfl
    rw [List.concat_eq_append, lastAt_append]
    rintro ⟨-, hf⟩
    rw [h2.2.2.2.2.2.1 hf] at hv
    cases hv

end

/-! ## Merging with the neighbours -/

/-- What merging with the next block does. -/
lemma Heap.Tiled.mergeNext (ht : h.Tiled (l ++ [⟨sz, false⟩] ++ r))
    (hq : q = h.gHI.pbPoolBase + blockBytes l) : ∃ rm r' n,
      r = rm ++ r' ∧ (∀ d ∈ rm, d.used = false) ∧ n = sz + blockBytes rm ∧
      (heapMergeNext q h).Tiled (l ++ [⟨n, false⟩] ++ r') ∧
      h.OnlyHdrs (heapMergeNext q h) [q, q + sz, q + n] ∧
      (heapMergeNext q h).gHI.pbPoolBase = h.gHI.pbPoolBase ∧
      (heapMergeNext q h).gHI.ulPoolSize = h.gHI.ulPoolSize ∧
      ((∀ d ∈ r.head?, d.used = true) ∧ rm = [] ∨ ∃ k, rm = [⟨k, false⟩]) := by
  obtain ⟨-, hnext, hne, -⟩ := ht.next hq
  unfold heapMergeNext
  rw [hnext]
  rcases head_cases r with hr | ⟨n, r', rfl⟩
  · rw [if_neg fun hc => by
      have := ht.next_used hq hr
      rw [this] at hc
      cases hc.2]
    exact ⟨[], r, sz, rfl, by simp, by simp, ht, .refl _ _, rfl, rfl, .inl ⟨hr, rfl⟩⟩
  · rw [if_pos ⟨hne, (ht.next_free hq).1⟩]
    obtain ⟨h1, h2, h3, h4⟩ := Heap.Tiled.merge (a := sz) (b := n) (r := r') (by simpa using ht) hq
    exact ⟨[⟨n, false⟩], r', sz + n, rfl, by simp, by simp, h1, h2, h3, h4, .inr ⟨n, rfl⟩⟩

/-- What merging with the previous block does. -/
lemma Heap.Tiled.mergePrev (ht : h.Tiled (l ++ [⟨sz, false⟩] ++ r))
    (hq : q = h.gHI.pbPoolBase + blockBytes l) : ∃ lm l' n p,
      l = l' ++ lm ∧ (∀ d ∈ lm, d.used = false) ∧ n = blockBytes lm + sz ∧
      p = h.gHI.pbPoolBase + blockBytes l' ∧ (heapMergePrev q h).1 = p ∧
      (heapMergePrev q h).2.Tiled (l' ++ [⟨n, false⟩] ++ r) ∧
      h.OnlyHdrs (heapMergePrev q h).2 [p, q, p + n] ∧
      (heapMergePrev q h).2.gHI.pbPoolBase = h.gHI.pbPoolBase ∧
      (heapMergePrev q h).2.gHI.ulPoolSize = h.gHI.ulPoolSize ∧
      ((∀ d ∈ l.getLast?, d.used = true) ∧ lm = [] ∨ ∃ k, lm = [⟨k, false⟩]) := by
  unfold heapMergePrev
  rcases last_cases l with hl | ⟨n, l', rfl⟩
  · rw [if_neg (ht.prev_used hq hl)]
    exact ⟨[], l, sz, q, by simp, by simp, by simp, hq, rfl, ht, .refl _ _, rfl, rfl,
      .inl ⟨hl, rfl⟩⟩
  · obtain ⟨h1, h2, h3, -⟩ := ht.prev_free hq
    rw [h1, if_pos ⟨h2, h3⟩]
    have hq' : q = h.gHI.pbPoolBase + blockBytes l' + n := by
      rw [hq]
      simp only [blockBytes_append, blockBytes_cons, blockBytes_nil]
      omega
    obtain ⟨k1, k2, k3, k4⟩ := Heap.Tiled.merge (l := l') (a := n) (b := sz) (r := r)
      (by simpa using ht) rfl
    rw [← hq'] at k1 k2 k3 k4
    exact ⟨[⟨n, false⟩], l', n + sz, _, rfl, by simp, by simp, rfl, rfl, k1, k2, k3, k4,
      .inr ⟨n, rfl⟩⟩

/-! ## The operations -/

/-- **The blocks tile the pool, and no two neighbours are free.** -/
structure Heap.Sound (h : Heap) (bs : List HeapBlock) : Prop where
  tiled : h.Tiled bs
  apart : NoFreeNeighbours bs

/-- Nothing but the memory and the statistics has changed. -/
def Heap.SamePool (h h' : Heap) : Prop :=
  h'.gHI.pbPoolBase = h.gHI.pbPoolBase ∧ h'.gHI.ulPoolSize = h.gHI.ulPoolSize

/-- **`HeapBlockAlloc()`** on a free block that is large enough. -/
theorem Heap.Sound.blockAlloc (hs : h.Sound (l ++ [⟨sz, false⟩] ++ r))
    (hq : q = h.gHI.pbPoolBase + blockBytes l) (hreq : redHeapHdrSize ≤ req) (hdvd : ptrSize ∣ req)
    (hsz : req ≤ sz) : ∃ n rm, req ≤ n ∧ n + blockBytes rm = sz ∧ (∀ d ∈ rm, d.used = false) ∧
      (heapBlockAlloc q req h).Sound (l ++ [⟨n, true⟩] ++ (rm ++ r)) ∧
      h.OnlyHdrs (heapBlockAlloc q req h) [q, q + req, q + sz] ∧
      h.SamePool (heapBlockAlloc q req h) := by
  have ht := hs.tiled
  have hle := ht.bytes_le
  simp only [blockBytes_append, blockBytes_cons, blockBytes_nil] at hle
  have hlt := ht.size_lt
  obtain ⟨hl, hr, hends⟩ := noFreeNeighbours_mid.1 hs.apart
  obtain ⟨-, hr'⟩ := hends.resolve_left Bool.false_ne_true
  have hmod : (req + redHeapHdrSize) % 2 ^ (8 * ptrSize) = req + redHeapHdrSize := by
    apply Nat.mod_eq_of_lt
    refine lt_of_lt_of_le (show req + redHeapHdrSize < 2 ^ 32 by omega) ?_
    rw [pow_mul]
    exact two_pow_le
  unfold heapBlockAlloc
  rw [(ht.next hq).1, hmod]
  by_cases hlarge : sz > req + redHeapHdrSize
  · rw [if_pos hlarge]
    obtain ⟨h1, h2, h3⟩ := ht.split hq hreq hdvd hlarge.le
    have hbase : (heapBlockSplit q req h).gHI.pbPoolBase = h.gHI.pbPoolBase := by rw [h3]
    have h1' : (heapBlockSplit q req h).Tiled (l ++ [⟨req, false⟩] ++ ⟨sz - req, false⟩ :: r) := by
      simpa using h1
    obtain ⟨k1, k2, k3, k4⟩ := h1'.mark (q := q) (by rw [hbase]; exact hq)
    refine ⟨req, [⟨sz - req, false⟩], le_rfl, ?_, by simp, ⟨k1, ?_⟩, h2.trans (k2.mono (by simp)),
      k3.trans hbase, k4.trans (by rw [h3])⟩
    · simp only [blockBytes_cons, blockBytes_nil]
      omega
    · rw [List.singleton_append, noFreeNeighbours_mid, noFreeNeighbours_cons]
      exact ⟨hl, ⟨hr, .inr hr'⟩, .inl rfl⟩
  · rw [if_neg hlarge]
    obtain ⟨k1, k2, k3, k4⟩ := ht.mark hq
    refine ⟨sz, [], hsz, by simp, by simp, ⟨k1, ?_⟩, k2.mono (by simp), k3, k4⟩
    rw [List.nil_append, noFreeNeighbours_mid]
    exact ⟨hl, hr, .inl rfl⟩

/-- The block that an allocated one could become part of. -/
lemma Heap.Tiled.mergedBlock (ht : h.Tiled (l ++ [⟨sz, true⟩] ++ r))
    (hq : q = h.gHI.pbPoolBase + blockBytes l) {l' lm rm r' : List HeapBlock} (hl : l = l' ++ lm)
    (hr : r = rm ++ r')
    (hlm : (∀ d ∈ l.getLast?, d.used = true) ∧ lm = [] ∨ ∃ k, lm = [⟨k, false⟩])
    (hrm : (∀ d ∈ r.head?, d.used = true) ∧ rm = [] ∨ ∃ k, rm = [⟨k, false⟩]) :
    h.mergedBlock q =
      (h.gHI.pbPoolBase + blockBytes l', blockBytes (lm ++ [⟨sz, true⟩] ++ rm)) := by
  obtain ⟨hsize, hnext, hne, -⟩ := ht.next hq
  have hlt := ht.size_lt
  have hbytes := ht.bytes
  have hsum : (if (h.hdr q).pNext ≠ 0 ∧ h.isFree (h.hdr q).pNext then
      u32 ((h.hdr q).ulBlockSize + (h.hdr (h.hdr q).pNext).ulBlockSize)
      else (h.hdr q).ulBlockSize) = sz + blockBytes rm := by
    rw [hnext, hsize]
    rcases hrm with ⟨hr', rfl⟩ | ⟨k, rfl⟩
    · rw [if_neg fun hc => by
        rw [ht.next_used hq hr'] at hc
        cases hc.2]
      rfl
    · subst hr
      obtain ⟨h1, h2⟩ := Heap.Tiled.next_free ht hq
      rw [if_pos ⟨hne, h1⟩, h2]
      simp only [blockBytes_append, blockBytes_cons, blockBytes_nil] at hbytes ⊢
      exact u32_of_lt (by omega)
  unfold Heap.mergedBlock
  dsimp only
  rw [hsum]
  rcases hlm with ⟨hl', rfl⟩ | ⟨k, rfl⟩
  · rw [if_neg (ht.prev_used hq hl')]
    rw [List.append_nil] at hl
    rw [hq, hl]
    simp
  · subst hl
    obtain ⟨h1, h2, h3, h4⟩ := Heap.Tiled.prev_free ht hq
    rw [h1, if_pos ⟨h2, h3⟩, h4, u32_of_lt]
    · simp only [blockBytes_append, blockBytes_cons, blockBytes_nil, Prod.mk.injEq, true_and]
      omega
    · rw [hr] at hbytes
      simp only [blockBytes_append, blockBytes_cons, blockBytes_nil] at hbytes
      omega

/-- **`HeapBlockFree()`** on an allocated block. -/
theorem Heap.Sound.blockFree (hs : h.Sound (l ++ [⟨sz, true⟩] ++ r))
    (hq : q = h.gHI.pbPoolBase + blockBytes l) : ∃ l' lm rm r' n p,
      l = l' ++ lm ∧ r = rm ++ r' ∧ (∀ d ∈ lm, d.used = false) ∧ (∀ d ∈ rm, d.used = false) ∧
      n = blockBytes (lm ++ [⟨sz, true⟩] ++ rm) ∧ p = h.gHI.pbPoolBase + blockBytes l' ∧
      h.mergedBlock q = (p, n) ∧ (heapBlockFree q h).1 = p ∧
      (heapBlockFree q h).2.Sound (l' ++ [⟨n, false⟩] ++ r') ∧
      h.OnlyHdrs (heapBlockFree q h).2 [p, q, q + sz, p + n] ∧
      h.SamePool (heapBlockFree q h).2 := by
  have ht := hs.tiled
  obtain ⟨hl, hr, -⟩ := noFreeNeighbours_mid.1 hs.apart
  obtain ⟨k1, k2, k3, k4⟩ := ht.unmark hq
  have hq1 : q = (heapBlockUnmark q h).gHI.pbPoolBase + blockBytes l := by rw [k3]; exact hq
  obtain ⟨rm, r', n, rfl, hrm, hn, m1, m2, m3, m4, hrm'⟩ := k1.mergeNext hq1
  have hq2 : q = (heapMergeNext q (heapBlockUnmark q h)).gHI.pbPoolBase + blockBytes l := by
    rw [m3]
    exact hq1
  obtain ⟨lm, l', n', p, rfl, hlm, hn', hp, hp', j1, j2, j3, j4, hlm'⟩ := m1.mergePrev hq2
  rw [m3, k3] at hp
  have hqp : q = p + blockBytes lm := by
    rw [hq, hp, blockBytes_append]
    omega
  have hbytes : n' = blockBytes (lm ++ [⟨sz, true⟩] ++ rm) := by
    simp only [blockBytes_append, blockBytes_cons, blockBytes_nil]
    omega
  refine ⟨l', lm, rm, r', n', p, rfl, rfl, hlm, hrm, hbytes, hp, ?_, hp', ⟨j1, ?_⟩, ?_,
    j3.trans (m3.trans k3), j4.trans (m4.trans k4)⟩
  · rw [ht.mergedBlock hq rfl rfl hlm' hrm', hp, hbytes]
  · -- The neighbours of what was merged were next to a free block.
    rw [noFreeNeighbours_mid]
    have h1 : NoFreeNeighbours l' ∧ ∀ d ∈ l'.getLast?, d.used = true := by
      rcases hlm' with ⟨hlast, rfl⟩ | ⟨k, rfl⟩
      · rw [List.append_nil] at hl hlast
        exact ⟨hl, hlast⟩
      · obtain ⟨g1, g2⟩ := noFreeNeighbours_concat.1 hl
        exact ⟨g1, g2.resolve_left Bool.false_ne_true⟩
    have h2 : NoFreeNeighbours r' ∧ ∀ d ∈ r'.head?, d.used = true := by
      rcases hrm' with ⟨hhead, rfl⟩ | ⟨k, rfl⟩
      · exact ⟨hr, hhead⟩
      · obtain ⟨g1, g2⟩ := noFreeNeighbours_cons.1 hr
        exact ⟨g1, g2.resolve_left Bool.false_ne_true⟩
    exact ⟨h1.1, h2.1, .inr ⟨h1.2, h2.2⟩⟩
  · have hend : q + n = p + n' := by omega
    refine ((k2.mono (by simp)).trans (m2.mono ?_)).trans (j2.mono (by simp))
    simp [hend]

end

end RelianceEdge
