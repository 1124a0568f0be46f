import RelianceEdge.Heap.Calls

set_option relaxedAutoImplicit false
set_option autoImplicit false
set_option linter.unusedSectionVars false

/-!
# Integrity of the heap

Every run of calls, with sizes for which the block that is needed has a 32-bit size, keeps the heap
intact, whatever the clients store in their allocations. A larger size is not refused: the size of
the block wraps around, and the allocation has less room than was asked for.

## Main definitions

* `IsPool` — what `RedHeapInit()` asserts of a pool.
* `Reachable` — a heap that a run of calls leaves, with the allocations of the clients.

## Main results

* `Reachable.holds` — the blocks tile the pool, and hold the allocations.
* `heap_integrity` — what the calls do in a heap that can be reached.
-/

namespace RelianceEdge

variable [HeapConf]

open HeapConf

/-! ## Pools -/

/-- What `RedHeapInit()` asserts of a pool, which is a region of the address space. -/
structure IsPool (pMemBase ulMemSize : ℕ) : Prop where
  base_pos : 0 < pMemBase
  base_le : pMemBase + ulMemSize ≤ 256 ^ ptrSize
  base_dvd : ptrSize ∣ pMemBase
  size_lt : ulMemSize < 2 ^ 32
  size_dvd : ptrSize ∣ ulMemSize
  size_ge : redHeapHdrSize * 2 ≤ ulMemSize

/-- **A new pool** is one free block. -/
lemma IsPool.init {base size : ℕ} (hp : IsPool base size) (mem : Memory) :
    (redHeapInit base size mem).Holds [⟨size - redHeapHdrSize, false⟩] [] := by
  obtain ⟨h1, h2, h3, h4, h5, h6⟩ := hp
  have hpos := redHeapHdrSize_pos
  have hdvd : ptrSize ∣ size - redHeapHdrSize := Nat.dvd_sub h5 redHeapHdrSize_dvd
  have hblock : (size - redHeapHdrSize) / ptrSize * ptrSize = size - redHeapHdrSize :=
    Nat.div_mul_cancel hdvd
  have ha : HdrApart base (base + (size - redHeapHdrSize)) := .inl (by omega)
  have hlast : base + (size - redHeapHdrSize) < 256 ^ ptrSize := by omega
  have hbase : base < 256 ^ ptrSize := by omega
  have hzero : 0 < 256 ^ ptrSize := by omega
  have hsz : size - redHeapHdrSize < 2 ^ 32 := by omega
  have hhdr : redHeapHdrSize < 2 ^ 32 := by omega
  have hrun : (redHeapInit base size mem).hdr base =
        ⟨REDHEAP_SENTINEL_FREE, size - redHeapHdrSize, base + (size - redHeapHdrSize), 0⟩ ∧
      (redHeapInit base size mem).hdr (base + (size - redHeapHdrSize)) = terminator base := by
    unfold redHeapInit terminator
    simp only [hblock, Heap.hdr_setNext, Heap.hdr_setPrev,
      Heap.hdr_setBlockSize, Heap.hdr_setSentinel,
      Heap.hdr_setNext_of_apart, Heap.hdr_setPrev_of_apart, Heap.hdr_setBlockSize_of_apart,
      Heap.hdr_setSentinel_of_apart, ha, ha.symm, hlast, hbase, hzero, hsz, hhdr, sentinel_free_lt,
      sentinel_alloc_lt, and_self]
  refine ⟨⟨⟨h1, h2, h3, h4, ⟨⟨hrun.1, trivial⟩, ?_⟩, ?_, ?_, rfl, rfl, ?_, le_rfl⟩, ?_⟩, ?_, ?_⟩
  · exact hrun.2
  · change size - redHeapHdrSize + 0 + redHeapHdrSize = size
    omega
  · intro b hb
    rw [List.mem_singleton.1 hb]
    exact ⟨by dsimp only; omega, hdvd⟩
  · exact (Nat.zero_add _).symm
  · exact List.isChain_singleton _
  · intro x hx
    cases hx
  · exact List.Pairwise.nil

/-- Which sizes have a block with a 32-bit size. -/
lemma sizeFits_iff {n : ℕ} : SizeFits n ↔ n + redHeapHdrSize + ptrSize ≤ 2 ^ 32 := by
  unfold SizeFits alignUp
  rw [redHeapHdrSize_eq]
  rcases ptrSize_mem with h | h <;> rw [h] <;> omega

/-! ## Runs -/

/-- What a request for `n` bytes that gave `p` leaves of the allocations. -/
def granted (p n : ℕ) (L : List (ℕ × ℕ)) : List (ℕ × ℕ) := if p = 0 then L else (p, n) :: L

/-- A number of elements whose block has a 32-bit size, or that is refused. -/
def CallocFits (ulElements ulElementSize : ℕ) : Prop :=
  UINT32_MAX < alignUp ulElementSize * ulElements ∨ SizeFits (alignUp ulElementSize * ulElements)

/-- **A heap that a run of calls leaves**, with the allocations that were not given back. Between
the calls the clients store what they like in their allocations and outside the pool. -/
inductive Reachable : Heap → List (ℕ × ℕ) → Prop
  | init {pMemBase ulMemSize : ℕ} (mem : Memory) (hp : IsPool pMemBase ulMemSize) :
      Reachable (redHeapInit pMemBase ulMemSize mem) []
  | alloc {h h' : Heap} {L : List (ℕ × ℕ)} {ulSize p : ℕ} (hr : Reachable h L)
      (hn : SizeFits ulSize) (hrun : redHeapAlloc ulSize h = (.ok p, h')) :
      Reachable h' (granted p ulSize L)
  | calloc {h h' : Heap} {L : List (ℕ × ℕ)} {ulElements ulElementSize p : ℕ} (hr : Reachable h L)
      (hn : CallocFits ulElements ulElementSize)
      (hrun : redHeapCalloc ulElements ulElementSize h = (.ok p, h')) :
      Reachable h' (granted p (ulElements * ulElementSize) L)
  | realloc {h h' : Heap} {L : List (ℕ × ℕ)} {x : ℕ × ℕ} {ulSize p : ℕ} (hr : Reachable h L)
      (hx : x ∈ L) (hn : SizeFits ulSize) (hrun : redHeapRealloc x.1 ulSize h = (.ok p, h')) :
      Reachable h' (if ulSize ≠ 0 ∧ p = 0 then L else granted p ulSize (L.erase x))
  | free {h h' : Heap} {L : List (ℕ × ℕ)} {x : ℕ × ℕ} (hr : Reachable h L) (hx : x ∈ L)
      (hrun : redHeapFree x.1 h = (.ok (), h')) : Reachable h' (L.erase x)
  | store {h : Heap} {L : List (ℕ × ℕ)} {x : ℕ × ℕ} {a : ℕ} (v : UInt8) (hr : Reachable h L)
      (hx : x ∈ L) (ha : x.1 ≤ a) (ha' : a < x.1 + x.2) :
      Reachable { h with mem := h.mem.fill a v 1 } L
  | elsewhere {h : Heap} {L : List (ℕ × ℕ)} {a : ℕ} (v : UInt8) (hr : Reachable h L)
      (ha : a < h.gHI.pbPoolBase ∨ h.gHI.pbPoolBase + h.gHI.ulPoolSize ≤ a) :
      Reachable { h with mem := h.mem.fill a v 1 } L

section

variable {h h' : Heap} {L : List (ℕ × ℕ)} {p n : ℕ}

lemma Heap.Granted.holds {bs : List HeapBlock} (hg : h.Granted h' L p n) (hh : h.Holds bs L) :
    ∃ bs', h'.Holds bs' (granted p n L) := by
  unfold granted
  rcases hg with ⟨rfl, rfl⟩ | ⟨hp, -, hh'⟩
  · exact ⟨bs, hh⟩
  · rw [if_neg hp]
    exact hh'

/-- A client stores a byte in an allocation. -/
lemma Heap.Holds.store {bs : List HeapBlock} {x : ℕ × ℕ} {a : ℕ} (hh : h.Holds bs L) (v : UInt8)
    (hx : x ∈ L) (ha : x.1 ≤ a) (ha' : a < x.1 + x.2) :
    Heap.Holds { h with mem := h.mem.fill a v 1 } bs L := by
  obtain ⟨q, m, hq, hb, hm⟩ := hh.held x hx
  refine ⟨⟨hh.sound.tiled.of_body hb rfl fun y hy => ?_, hh.sound.apart⟩, hh.held, hh.distinct⟩
  refine Memory.fill_of_notMem ?_
  dsimp only at hy
  omega

/-- A client stores a byte outside the pool. -/
lemma Heap.Holds.elsewhere {bs : List HeapBlock} {a : ℕ} (hh : h.Holds bs L) (v : UInt8)
    (ha : a < h.gHI.pbPoolBase ∨ h.gHI.pbPoolBase + h.gHI.ulPoolSize ≤ a) :
    Heap.Holds { h with mem := h.mem.fill a v 1 } bs L := by
  have ht := hh.sound.tiled
  have hbytes := ht.bytes
  have hhdr : ∀ q, h.gHI.pbPoolBase ≤ q →
      q + redHeapHdrSize ≤ h.gHI.pbPoolBase + h.gHI.ulPoolSize →
      Heap.hdr { h with mem := h.mem.fill a v 1 } q = h.hdr q := by
    intro q hq hq'
    apply Heap.hdr_congr
    intro y hy hy'
    exact Memory.fill_of_notMem (by omega)
  refine ⟨⟨ht.congr rfl (fun q b hb => hhdr q hb.ge ?_) (hhdr _ (by omega) (by omega)),
    hh.sound.apart⟩, hh.held, hh.distinct⟩
  have h1 := hb.le
  have h2 := (ht.block b hb.mem).1
  omega

/-- A free by way of `RedHeapRealloc()`. -/
lemma redHeapRealloc_zero (p : ℕ) (h : Heap) :
    redHeapRealloc p 0 h = ((redHeapFree p h).1.map fun _ => 0, (redHeapFree p h).2) := by
  unfold redHeapRealloc
  rw [if_pos rfl]
  exact Op.bind_pure_run _ _ _

/-- **In a heap that can be reached the blocks tile the pool and hold the allocations.** -/
theorem Reachable.holds (hr : Reachable h L) : ∃ bs, h.Holds bs L := by
  induction hr with
  | init mem hp => exact ⟨_, hp.init mem⟩
  | alloc hr hn hrun ih =>
    obtain ⟨bs, hh⟩ := ih
    obtain ⟨p, h', hrun', hg⟩ := hh.alloc hn
    rw [hrun] at hrun'
    cases hrun'
    exact hg.holds hh
  | calloc hr hn hrun ih =>
    obtain ⟨bs, hh⟩ := ih
    obtain ⟨p, h', hrun', hg, -⟩ := hh.calloc hn
    rw [hrun] at hrun'
    cases hrun'
    exact hg.holds hh
  | @realloc h h' L x n p hr hx hn hrun ih =>
    obtain ⟨bs, hh⟩ := ih
    by_cases hn0 : n = 0
    · subst hn0
      obtain ⟨h1, hrun1, -, hh1⟩ := hh.free hx
      rw [redHeapRealloc_zero, hrun1] at hrun
      cases hrun
      exact hh1
    · obtain ⟨p', h1, hrun1, hg, -⟩ := hh.realloc hx hn hn0
      rw [hrun] at hrun1
      cases hrun1
      by_cases hp : p = 0
      · rw [if_pos ⟨hn0, hp⟩]
        rcases hg with ⟨-, rfl⟩ | hg
        · exact ⟨bs, hh⟩
        · exact absurd hp hg.1
      · rw [if_neg fun h => hp h.2]
        exact hg.holds (hh.erase x)
  | free hr hx hrun ih =>
    obtain ⟨bs, hh⟩ := ih
    obtain ⟨h1, hrun1, -, hh1⟩ := hh.free hx
    rw [hrun] at hrun1
    cases hrun1
    exact hh1
  | @store h L x a v hr hx ha ha' ih =>
    obtain ⟨bs, hh⟩ := ih
    exact ⟨bs, hh.store v hx ha ha'⟩
  | @elsewhere h L a v hr ha ih =>
    obtain ⟨bs, hh⟩ := ih
    exact ⟨bs, hh.elsewhere v ha⟩

/-! ## Integrity -/

/-- **Heap integrity.** In every heap that a run of calls leaves, the headers tile the pool, no two
neighbours are free, the statistics are the sums over the blocks, and the allocations are inside the
pool and disjoint. A request either changes nothing and gives `NULL`, or gives room for the size
that was asked for and leaves the other allocations and the memory outside the pool alone;
`RedHeapCalloc()` gives zeros, and `RedHeapRealloc()` the data that was there. To reallocate to no
bytes is to free. -/
theorem heap_integrity (hr : Reachable h L) :
    (∃ bs, h.Sound bs) ∧
    (∀ x ∈ L, h.gHI.pbPoolBase ≤ x.1 ∧ x.1 + x.2 ≤ h.gHI.pbPoolBase + h.gHI.ulPoolSize) ∧
    L.Pairwise (fun x y => x.1 ≠ y.1 ∧ (x.1 + x.2 ≤ y.1 ∨ y.1 + y.2 ≤ x.1)) ∧
    (∀ ulSize, SizeFits ulSize → ∃ p h', redHeapAlloc ulSize h = (.ok p, h') ∧
      h.Granted h' L p ulSize) ∧
    (∀ ulElements ulElementSize, CallocFits ulElements ulElementSize →
      ∃ p h', redHeapCalloc ulElements ulElementSize h = (.ok p, h') ∧
        h.Granted h' L p (ulElements * ulElementSize) ∧
        (p ≠ 0 → ∀ k, k < ulElements * ulElementSize → h'.mem (p + k) = 0)) ∧
    (∀ x ∈ L, ∀ ulSize, SizeFits ulSize → ulSize ≠ 0 → ∃ p h',
      redHeapRealloc x.1 ulSize h = (.ok p, h') ∧ h.Granted h' (L.erase x) p ulSize ∧
        (p ≠ 0 → ∀ k, k < min x.2 ulSize → h'.mem (p + k) = h.mem (x.1 + k))) ∧
    ∀ x ∈ L, ∃ h', redHeapFree x.1 h = (.ok (), h') ∧ redHeapRealloc x.1 0 h = (.ok 0, h') ∧
      h.Spares h' (L.erase x) ∧ ∃ bs, h'.Holds bs (L.erase x) := by
  obtain ⟨bs, hh⟩ := hr.holds
  refine ⟨⟨bs, hh.sound⟩, fun x hx => ?_, hh.disjoint, fun n hn => hh.alloc hn,
    fun e s hn => hh.calloc hn, fun x hx n hn hn0 => hh.realloc hx hn hn0, fun x hx => ?_⟩
  · have := hh.inside hx
    omega
  · obtain ⟨h', hrun, hs, hh'⟩ := hh.free hx
    refine ⟨h', hrun, ?_, hs.mono fun y hy => List.mem_of_mem_erase hy, hh'⟩
    rw [redHeapRealloc_zero, hrun]
    rfl

end

/-! ## Small pools -/

/-- Pointers of four bytes. -/
abbrev heapConf32 : HeapConf := ⟨4, .inl rfl⟩

/-- A pool of 96 bytes. -/
def smallHeap : Heap :=
  letI := heapConf32
  redHeapInit 16 96 fun _ => 0

omit [HeapConf] in
lemma smallHeap_reachable : letI := heapConf32
    Reachable smallHeap [] ∧ Reachable (redHeapAlloc 5 smallHeap).2 [(32, 5)] := by
  let _ := heapConf32
  have hpool : IsPool 16 96 := ⟨by decide, by decide, by decide, by decide, by decide, by decide⟩
  have h0 : Reachable smallHeap [] := .init _ hpool
  have hfits : SizeFits 5 := sizeFits_iff.2 (by decide)
  have hfst : (redHeapAlloc 5 smallHeap).1 = .ok 32 := by decide
  have hrun : redHeapAlloc 5 smallHeap = (.ok 32, (redHeapAlloc 5 smallHeap).2) := Prod.ext hfst rfl
  exact ⟨h0, .alloc h0 hfits hrun⟩

omit [HeapConf] in
/-- Five bytes of a pool of 96 bytes are made six: the data is kept. -/
theorem heap_integrity_small : letI := heapConf32
    (redHeapAlloc 5 smallHeap).1 = .ok 32 ∧ ∃ p h',
      redHeapRealloc 32 6 (redHeapAlloc 5 smallHeap).2 = (.ok p, h') ∧
      (redHeapAlloc 5 smallHeap).2.Granted h' [] p 6 ∧
      (p ≠ 0 → ∀ k, k < 5 → h'.mem (p + k) = (redHeapAlloc 5 smallHeap).2.mem (32 + k)) := by
  let _ := heapConf32
  exact ⟨rfl, (heap_integrity smallHeap_reachable.2).2.2.2.2.2.1 (32, 5) List.mem_cons_self 6
    (sizeFits_iff.2 (by decide)) (by decide)⟩

omit [HeapConf] in
/-- In a pool of 96 bytes, reallocating five bytes to none gives `NULL` and gives the block back;
and a request for `2 ^ 32 - 1` bytes gives a block of 16 bytes, of which none is left for data. -/
theorem redHeapRealloc_zero_frees : letI := heapConf32
    Reachable smallHeap [] ∧ Reachable (redHeapAlloc 5 smallHeap).2 [(32, 5)] ∧
      (redHeapRealloc 32 0 (redHeapAlloc 5 smallHeap).2).1 = .ok 0 ∧
      (redHeapRealloc 32 0 (redHeapAlloc 5 smallHeap).2).2.gHI ≠
        (redHeapAlloc 5 smallHeap).2.gHI ∧
      (redHeapAlloc 4294967295 smallHeap).1 = .ok 32 ∧
      ((redHeapAlloc 4294967295 smallHeap).2.hdr 16).ulBlockSize = 16 := by
  let _ := heapConf32
  exact ⟨smallHeap_reachable.1, smallHeap_reachable.2, rfl, by decide, rfl, rfl⟩

end RelianceEdge
