import RelianceEdge.Heap.Integrity

set_option relaxedAutoImplicit false
set_option autoImplicit false
set_option linter.unusedSectionVars false

/-!
# Giving everything back

Runs of calls that keep account of the allocations not yet given back: a pointer that
`RedHeapFree()` refuses is still one of them. Giving all of them back makes the pool one free
block again, unless one of them begins within the last two header sizes of the pool, where the
range check of `RedHeapFree()` and `RedHeapRealloc()` takes it for a pointer outside the heap.

## Main definitions

* `LiveRun` — a heap that a run of calls leaves, with the allocations not yet given back.
* `Heap.GivesBack` — every one of them is accepted, and giving back all leaves one free block.

## Main results

* `heap_gives_back_iff` — the heap gives everything back exactly when no allocation begins within
  the last two header sizes.
-/

namespace RelianceEdge

variable [HeapConf]

open HeapConf

section

variable {h h' : Heap} {L : List (ℕ × ℕ)} {bs : List HeapBlock} {x : ℕ × ℕ} {p q n : ℕ}

/-! ## The count of the allocated headers -/

lemma heapBlockMark_allocCount (p : ℕ) (h : Heap) :
    (heapBlockMark p h).gHI.ulAllocCount = u32 (h.gHI.ulAllocCount + 1) := by
  unfold heapBlockMark
  simp only [Heap.gHI_setSentinel]

lemma heapBlockSplit_allocCount (p req : ℕ) (h : Heap) :
    (heapBlockSplit p req h).gHI.ulAllocCount = h.gHI.ulAllocCount := by
  unfold heapBlockSplit
  simp only [Heap.gHI_setSentinel, Heap.gHI_setNext, Heap.gHI_setPrev, Heap.gHI_setBlockSize]

lemma heapBlockAlloc_allocCount (p req : ℕ) (h : Heap) :
    (heapBlockAlloc p req h).gHI.ulAllocCount = u32 (h.gHI.ulAllocCount + 1) := by
  unfold heapBlockAlloc
  split
  · rw [heapBlockMark_allocCount, heapBlockSplit_allocCount]
  · exact heapBlockMark_allocCount p h

lemma Heap.gHI_ite_setPrev (c : Prop) [Decidable c] (a b : ℕ) (h : Heap) :
    (if c then h.setPrev a b else h).gHI = h.gHI := by
  split
  · exact Heap.gHI_setPrev
  · rfl

lemma heapMerge_gHI (p q : ℕ) (h : Heap) :
    (heapMerge p q h).gHI = { h.gHI with ulTotalCount := sub32 h.gHI.ulTotalCount 1 } := by
  unfold heapMerge
  simp only [Heap.gHI_setSentinel, Heap.gHI_ite_setPrev, Heap.gHI_setNext, Heap.gHI_setBlockSize]

lemma heapMerge_allocCount (p q : ℕ) (h : Heap) :
    (heapMerge p q h).gHI.ulAllocCount = h.gHI.ulAllocCount := by
  rw [heapMerge_gHI]

lemma heapBlockFree_allocCount (p : ℕ) (h : Heap) :
    (heapBlockFree p h).2.gHI.ulAllocCount = sub32 h.gHI.ulAllocCount 1 := by
  have hunmark : (heapBlockUnmark p h).gHI.ulAllocCount = sub32 h.gHI.ulAllocCount 1 := by
    unfold heapBlockUnmark
    simp only [Heap.gHI_setSentinel]
  have hnext : (heapMergeNext p (heapBlockUnmark p h)).gHI.ulAllocCount =
      sub32 h.gHI.ulAllocCount 1 := by
    unfold heapMergeNext
    split
    · rw [heapMerge_allocCount, hunmark]
    · exact hunmark
  unfold heapBlockFree heapMergePrev
  split
  · exact (heapMerge_allocCount _ _ _).trans hnext
  · exact hnext

/-- The blocks of a pool leave room in the count. -/
lemma Heap.Holds.allocCount (hh : h.Holds bs L) :
    h.gHI.ulAllocCount = usedCount bs + 1 ∧ usedCount bs + 2 < 2 ^ 32 := by
  have ht := hh.sound.tiled
  have hle : usedCount bs ≤ bs.length := List.countP_le_length
  have hlen := length_le_blockBytes fun b hb => (ht.block b hb).1
  have hbytes := ht.bytes
  have hlt := ht.size_lt
  have hhdr := redHeapHdrSize_eq
  exact ⟨ht.allocCount, by omega⟩

/-- A request counts one more header when it is granted. -/
lemma redHeapAlloc_allocCount (hrun : redHeapAlloc n h = (.ok p, h')) (hp : p ≠ 0) :
    h'.gHI.ulAllocCount = u32 (h.gHI.ulAllocCount + 1) := by
  unfold redHeapAlloc at hrun
  rw [Op.get_bind_run] at hrun
  obtain ⟨best, h1, hsearch, hrun⟩ := Op.bind_eq_ok hrun
  rw [Op.ofExcept_run] at hsearch
  obtain rfl : h = h1 := congrArg Prod.snd hsearch
  by_cases hbest : best.2 > 0
  · rw [if_pos hbest] at hrun
    have : heapBlockAlloc best.1 (requestedSize n) h = h' := congrArg Prod.snd hrun
    rw [← this]
    exact heapBlockAlloc_allocCount _ _ _
  · rw [if_neg hbest] at hrun
    have : Except.ok (ε := HeapError) 0 = .ok p := congrArg Prod.fst hrun
    cases this
    exact absurd rfl hp

lemma redHeapCalloc_allocCount {ulElements ulElementSize : ℕ}
    (hrun : redHeapCalloc ulElements ulElementSize h = (.ok p, h')) (hp : p ≠ 0) :
    h'.gHI.ulAllocCount = u32 (h.gHI.ulAllocCount + 1) := by
  unfold redHeapCalloc at hrun
  dsimp only at hrun
  split at hrun
  · have : Except.ok (ε := HeapError) 0 = .ok p := congrArg Prod.fst hrun
    cases this
    exact absurd rfl hp
  · obtain ⟨pMem, h1, halloc, hrun⟩ := Op.bind_eq_ok hrun
    by_cases hmem : pMem = 0
    · rw [if_neg (by simp [hmem])] at hrun
      have : Except.ok (ε := HeapError) 0 = .ok p := congrArg Prod.fst hrun
      cases this
      exact absurd rfl hp
    · rw [if_pos hmem] at hrun
      rw [← redHeapAlloc_allocCount halloc hmem]
      exact congrArg (fun r => r.2.gHI.ulAllocCount) hrun.symm

lemma Heap.gHI_copy (pbDst pbSrc n : ℕ) (h : Heap) : (h.copy pbDst pbSrc n).gHI = h.gHI := rfl

lemma Heap.gHI_ite_copy (c : Prop) [Decidable c] (pbDst pbSrc n : ℕ) (h : Heap) :
    (if c then h.copy pbDst pbSrc n else h).gHI = h.gHI := by
  split
  · rfl
  · rfl

/-- A request that is refused leaves the heap alone. -/
lemma redHeapAlloc_refused (hrun : redHeapAlloc n h = (.ok 0, h')) : h' = h := by
  unfold redHeapAlloc at hrun
  rw [Op.get_bind_run] at hrun
  obtain ⟨best, h1, hsearch, hrun⟩ := Op.bind_eq_ok hrun
  rw [Op.ofExcept_run] at hsearch
  obtain rfl : h = h1 := congrArg Prod.snd hsearch
  by_cases hbest : best.2 > 0
  · rw [if_pos hbest] at hrun
    have hptr : redHeapHdrToMem best.1 = 0 := Except.ok.inj (congrArg Prod.fst hrun)
    have hpos := redHeapHdrSize_pos
    unfold redHeapHdrToMem at hptr
    omega
  · rw [if_neg hbest] at hrun
    exact (congrArg Prod.snd hrun).symm

lemma redHeapCalloc_refused {ulElements ulElementSize : ℕ}
    (hrun : redHeapCalloc ulElements ulElementSize h = (.ok 0, h')) : h' = h := by
  unfold redHeapCalloc at hrun
  dsimp only at hrun
  split at hrun
  · exact (congrArg Prod.snd hrun).symm
  · obtain ⟨pMem, h1, halloc, hrun⟩ := Op.bind_eq_ok hrun
    by_cases hmem : pMem = 0
    · rw [if_neg (by simp [hmem])] at hrun
      obtain rfl : h1 = h' := congrArg Prod.snd hrun
      exact redHeapAlloc_refused (hmem ▸ halloc)
    · rw [if_pos hmem] at hrun
      exact absurd (Except.ok.inj (congrArg Prod.fst hrun)) hmem

lemma redHeapRealloc_refused (hn : n ≠ 0) (hrun : redHeapRealloc q n h = (.ok 0, h')) : h' = h := by
  have hpos := redHeapHdrSize_pos
  have hptr (pHdr : ℕ) : redHeapHdrToMem pHdr ≠ 0 := by
    unfold redHeapHdrToMem
    omega
  unfold redHeapRealloc at hrun
  rw [if_neg hn, Op.get_bind_run] at hrun
  by_cases hout : h.isOutside q = true
  · rw [if_pos hout] at hrun
    exact (congrArg Prod.snd hrun).symm
  rw [if_neg hout] at hrun
  by_cases halloc : (!h.isAlloc (redHeapMemToHdr q)) = true
  · rw [if_pos halloc] at hrun
    exact (congrArg Prod.snd hrun).symm
  rw [if_neg halloc] at hrun
  obtain ⟨best, h1, hsearch, hrun⟩ := Op.bind_eq_ok hrun
  rw [Op.ofExcept_run] at hsearch
  obtain rfl : h = h1 := congrArg Prod.snd hsearch
  by_cases hbest : best.2 > 0
  · rw [if_pos hbest] at hrun
    by_cases hplace : best.1 = redHeapMemToHdr q ∨ best.1 = (h.hdr (redHeapMemToHdr q)).pPrev
    · rw [if_pos hplace] at hrun
      exact absurd (Except.ok.inj (congrArg Prod.fst hrun)) (hptr _)
    · rw [if_neg hplace] at hrun
      exact absurd (Except.ok.inj (congrArg Prod.fst hrun)) (hptr _)
  · rw [if_neg hbest] at hrun
    exact (congrArg Prod.snd hrun).symm

/-- A block that is reallocated is counted as before. -/
lemma redHeapRealloc_allocCount (hrun : redHeapRealloc q n h = (.ok p, h')) (hn : n ≠ 0)
    (hcount : 1 ≤ h.gHI.ulAllocCount) (hlt : h.gHI.ulAllocCount + 1 < 2 ^ 32) :
    h'.gHI.ulAllocCount = h.gHI.ulAllocCount := by
  have hup : u32 (h.gHI.ulAllocCount + 1) = h.gHI.ulAllocCount + 1 := u32_of_le (by
    unfold UINT32_MAX
    omega)
  have hdown : sub32 h.gHI.ulAllocCount 1 + 1 = h.gHI.ulAllocCount := by
    rw [sub32_of_le hcount (by omega)]
    omega
  unfold redHeapRealloc at hrun
  rw [if_neg hn, Op.get_bind_run] at hrun
  by_cases hout : h.isOutside q = true
  · rw [if_pos hout] at hrun
    exact congrArg (fun r => r.2.gHI.ulAllocCount) hrun.symm
  rw [if_neg hout] at hrun
  by_cases halloc : (!h.isAlloc (redHeapMemToHdr q)) = true
  · rw [if_pos halloc] at hrun
    exact congrArg (fun r => r.2.gHI.ulAllocCount) hrun.symm
  rw [if_neg halloc] at hrun
  obtain ⟨best, h1, hsearch, hrun⟩ := Op.bind_eq_ok hrun
  rw [Op.ofExcept_run] at hsearch
  obtain rfl : h = h1 := congrArg Prod.snd hsearch
  by_cases hbest : best.2 > 0
  · rw [if_pos hbest] at hrun
    by_cases hplace : best.1 = redHeapMemToHdr q ∨ best.1 = (h.hdr (redHeapMemToHdr q)).pPrev
    · -- the block is free in between
      rw [if_pos hplace, Op.modify_bind_run, Op.modify_bind_run, Op.modify_bind_run] at hrun
      have hlast := congrArg (fun r => r.2.gHI.ulAllocCount) hrun.symm
      refine hlast.trans ?_
      rw [Op.pure_run]
      dsimp only
      rw [heapBlockAlloc_allocCount, Heap.gHI_ite_copy, heapBlockFree_allocCount, hdown,
        u32_of_le (by unfold UINT32_MAX; omega)]
    · rw [if_neg hplace, Op.modify_bind_run, Op.modify_bind_run, Op.modify_bind_run] at hrun
      have hlast := congrArg (fun r => r.2.gHI.ulAllocCount) hrun.symm
      refine hlast.trans ?_
      rw [Op.pure_run]
      dsimp only
      rw [heapBlockFree_allocCount, heapBlockAlloc_allocCount, Heap.gHI_copy, hup,
        sub32_of_le (by omega) hlt]
      omega
  · rw [if_neg hbest] at hrun
    exact congrArg (fun r => r.2.gHI.ulAllocCount) hrun.symm

/-! ## Giving one back -/

/-- The block that the range check of `RedHeapFree()` refuses begins within the last two header
sizes of the pool. -/
lemma Heap.Holds.isOutside_iff (hh : h.Holds bs L) (hx : x ∈ L) : h.isOutside x.1 = false ↔
    x.1 + redHeapHdrSize * 2 < h.gHI.pbPoolBase + h.gHI.ulPoolSize := by
  have hin := hh.inside hx
  unfold Heap.isOutside
  rw [Bool.or_eq_false_iff, decide_eq_false_iff_not, decide_eq_false_iff_not]
  omega

/-- An allocation that the range check lets pass is freed. -/
lemma Heap.Holds.free_accepted (hh : h.Holds bs L) (hx : x ∈ L) (hout : h.isOutside x.1 = false) :
    ∃ h' bs', redHeapFree x.1 h = (.ok (), h') ∧ h'.Holds bs' (L.erase x) ∧ h.SamePool h' ∧
      h'.gHI.ulAllocCount + 1 = h.gHI.ulAllocCount := by
  obtain ⟨l, sz, r, hbs, hq, hxq, hsz, halloc⟩ := hh.block hx
  obtain ⟨bs', -, -, -, -, -, -, -, -, -, -, -, -, -, -, hh', hs⟩ := hh.blockFree hx hxq hbs hq hsz
  obtain ⟨hcount, hlt⟩ := hh.allocCount
  refine ⟨_, bs', ?_, hh', hs.pool, ?_⟩
  · unfold redHeapFree
    rw [Op.get_bind_run, if_neg (by simp [hout]), if_neg (by simp [halloc])]
    rfl
  · rw [heapBlockFree_allocCount, sub32_of_le (by omega) (by omega)]
    omega

/-- An allocation that the range check refuses stays. -/
lemma redHeapFree_refused (hout : h.isOutside p = true) : redHeapFree p h = (.ok (), h) := by
  unfold redHeapFree
  rw [Op.get_bind_run, if_pos hout]
  rfl

/-- The block of an allocation has room for every smaller size. -/
lemma Heap.Holds.sizeFits (hh : h.Holds bs L) (hx : x ∈ L) (hle : n ≤ x.2) :
    SizeFits n ∧ ∀ l sz r, bs = l ++ [⟨sz, true⟩] ++ r →
      redHeapMemToHdr x.1 = h.gHI.pbPoolBase + blockBytes l → requestedSize n ≤ sz := by
  obtain ⟨l, sz, r, hbs, hq, -, hsz, -⟩ := hh.block hx
  have ht := hh.sound.tiled
  obtain ⟨-, hdvd⟩ := ht.block ⟨sz, true⟩ (by rw [hbs]; simp)
  have hle' : alignUp n + redHeapHdrSize ≤ sz := by
    have hsub : ptrSize ∣ sz - redHeapHdrSize := Nat.dvd_sub hdvd redHeapHdrSize_dvd
    have : alignUp n ≤ sz - redHeapHdrSize := by
      have hlt := alignUp_lt n
      obtain ⟨a, ha⟩ := alignUp_dvd n
      obtain ⟨c, hc⟩ := hsub
      have hac : ptrSize * a < ptrSize * (c + 1) := by
        rw [Nat.mul_add, ← ha, ← hc]
        omega
      have := Nat.mul_le_mul_left ptrSize (Nat.lt_succ_iff.1 (Nat.lt_of_mul_lt_mul_left hac))
      omega
    omega
  have hbytes := ht.bytes
  have hlt := ht.size_lt
  rw [hbs] at hbytes
  simp only [blockBytes_append, blockBytes_cons, blockBytes_nil] at hbytes
  have hfits : SizeFits n := by
    unfold SizeFits
    omega
  refine ⟨hfits, ?_⟩
  intro l' sz' r' hbs' hq'
  have hlr : l ++ (⟨sz, true⟩ :: r) = l' ++ (⟨sz', true⟩ :: r') := by
    simpa using hbs.symm.trans hbs'
  obtain ⟨-, hr⟩ := append_inj_of_blockBytes (by
    have := ht.size_pos
    rw [hbs] at this
    simpa using this) hlr (by omega)
  cases hr
  rw [hfits.requestedSize.1]
  exact hle'

/-- An allocation that the range check lets pass can be made smaller. -/
lemma Heap.Holds.realloc_accepted (hh : h.Holds bs L) (hx : x ∈ L)
    (hout : h.isOutside x.1 = false) (hn : n ≠ 0) (hle : n ≤ x.2) :
    ∃ p h', redHeapRealloc x.1 n h = (.ok p, h') ∧ p ≠ 0 := by
  have ht := hh.sound.tiled
  have hpos := redHeapHdrSize_pos
  obtain ⟨hfits, hroom⟩ := hh.sizeFits hx hle
  obtain ⟨l, sz, r, hbs, hq, hxq, hsz, halloc⟩ := hh.block hx
  obtain ⟨-, l0, mid, r0, p0, m, hbs0, hmid, hp0, hm, -, hpq, hqm, hmerged, -⟩ :=
    hh.blockFree hx hxq hbs hq hsz
  have hreq : requestedSize n ≤ m := by
    have := hroom l sz r hbs hq
    omega
  obtain ⟨best, hrun, hbest⟩ := ht.search true (requestedSize n) (p0, m)
    (fun _ => .inr ⟨l0, mid, r0, hbs0, hmid, by rw [hp0, hm]⟩)
    (h.gHI.ulPoolSize + 1) [] bs _ rfl ht.fuel (.inl rfl)
  have hreqpos : 0 < requestedSize n := by
    rw [hfits.requestedSize.1]
    omega
  have hbest0 : best.2 > 0 := by
    rcases hbest with rfl | ⟨-, k, -, -, rfl, hk⟩
    · exact lt_of_lt_of_le hreqpos hreq
    · exact lt_of_lt_of_le hreqpos hk
  simp only [blockBytes_nil, Nat.add_zero] at hrun
  unfold redHeapRealloc
  rw [if_neg hn, Op.get_bind_run, if_neg (by simp [hout]), if_neg (by simp [halloc]), hmerged,
    if_neg (by omega), hrun, Op.bind_ok (Op.ofExcept_run _ h), if_pos hbest0]
  split
  · refine ⟨_, _, rfl, ?_⟩
    unfold redHeapHdrToMem
    omega
  · refine ⟨_, _, rfl, ?_⟩
    unfold redHeapHdrToMem
    omega

end

/-! ## Runs -/

/-- What giving back `x` leaves of the allocations: all of them, when the range check refuses. -/
def Heap.givenBack (h : Heap) (x : ℕ × ℕ) (L : List (ℕ × ℕ)) : List (ℕ × ℕ) :=
  if h.isOutside x.1 then L else L.erase x

/-- **A heap that a run of calls leaves**, with the allocations not yet given back: one that the
range check refuses is still among them. The sizes granted are those whose block has a 32-bit
size. -/
inductive LiveRun : Heap → List (ℕ × ℕ) → Prop
  | init {pMemBase ulMemSize : ℕ} (mem : Memory) (hp : IsPool pMemBase ulMemSize) :
      LiveRun (redHeapInit pMemBase ulMemSize mem) []
  | alloc {h h' : Heap} {L : List (ℕ × ℕ)} {ulSize p : ℕ} (hr : LiveRun h L)
      (hn : SizeFits ulSize ∨ p = 0) (hrun : redHeapAlloc ulSize h = (.ok p, h')) :
      LiveRun h' (granted p ulSize L)
  | calloc {h h' : Heap} {L : List (ℕ × ℕ)} {ulElements ulElementSize p : ℕ} (hr : LiveRun h L)
      (hn : CallocFits ulElements ulElementSize ∨ p = 0)
      (hrun : redHeapCalloc ulElements ulElementSize h = (.ok p, h')) :
      LiveRun h' (granted p (ulElements * ulElementSize) L)
  | realloc {h h' : Heap} {L : List (ℕ × ℕ)} {x : ℕ × ℕ} {ulSize p : ℕ} (hr : LiveRun h L)
      (hx : x ∈ L) (hn : SizeFits ulSize ∨ p = 0)
      (hrun : redHeapRealloc x.1 ulSize h = (.ok p, h')) :
      LiveRun h' (if ulSize = 0 then h.givenBack x L
        else if p = 0 then L else (p, ulSize) :: L.erase x)
  | free {h h' : Heap} {L : List (ℕ × ℕ)} {x : ℕ × ℕ} (hr : LiveRun h L) (hx : x ∈ L)
      (hrun : redHeapFree x.1 h = (.ok (), h')) : LiveRun h' (h.givenBack x L)
  | store {h : Heap} {L : List (ℕ × ℕ)} {x : ℕ × ℕ} {a : ℕ} (v : UInt8) (hr : LiveRun h L)
      (hx : x ∈ L) (ha : x.1 ≤ a) (ha' : a < x.1 + x.2) :
      LiveRun { h with mem := h.mem.fill a v 1 } L
  | elsewhere {h : Heap} {L : List (ℕ × ℕ)} {a : ℕ} (v : UInt8) (hr : LiveRun h L)
      (ha : a < h.gHI.pbPoolBase ∨ h.gHI.pbPoolBase + h.gHI.ulPoolSize ≤ a) :
      LiveRun { h with mem := h.mem.fill a v 1 } L

/-- The blocks that are used are the allocations, no more, in a pool with room for a block. -/
structure Heap.Accounts (h : Heap) (L : List (ℕ × ℕ)) : Prop where
  holds : ∃ bs, h.Holds bs L
  allocCount : h.gHI.ulAllocCount = L.length + 1
  size_ge : redHeapHdrSize * 2 ≤ h.gHI.ulPoolSize

section

variable {h h' : Heap} {L : List (ℕ × ℕ)} {bs : List HeapBlock} {x : ℕ × ℕ} {p n : ℕ}

lemma Heap.Accounts.granted (hacc : h.Accounts L) (hg : h.Granted h' L p n)
    (hcount : p ≠ 0 → h'.gHI.ulAllocCount = u32 (h.gHI.ulAllocCount + 1)) :
    h'.Accounts (granted p n L) := by
  unfold RelianceEdge.granted
  rcases hg with ⟨rfl, rfl⟩ | ⟨hp, hs, hh'⟩
  · exact hacc
  · rw [if_neg hp]
    obtain ⟨bs, hh⟩ := hacc.holds
    obtain ⟨hused, hlt⟩ := hh.allocCount
    refine ⟨hh', ?_, hs.pool.2.symm ▸ hacc.size_ge⟩
    rw [hcount hp, u32_of_le (by unfold UINT32_MAX; omega), hacc.allocCount, List.length_cons]

lemma Heap.Accounts.givenBack (hacc : h.Accounts L) (hx : x ∈ L)
    (hrun : redHeapFree x.1 h = (.ok (), h')) : h'.Accounts (h.givenBack x L) := by
  unfold Heap.givenBack
  by_cases hout : h.isOutside x.1 = true
  · rw [if_pos hout]
    rw [redHeapFree_refused hout] at hrun
    cases hrun
    exact hacc
  · rw [if_neg hout]
    obtain ⟨bs, hh⟩ := hacc.holds
    obtain ⟨h1, bs', hrun1, hh1, hpool, hcount⟩ := hh.free_accepted hx (by simpa using hout)
    rw [hrun] at hrun1
    cases hrun1
    refine ⟨⟨bs', hh1⟩, ?_, hpool.2.symm ▸ hacc.size_ge⟩
    have := List.length_pos_of_mem hx
    have := hacc.allocCount
    rw [List.length_erase_of_mem hx]
    omega

/-- **A run accounts for every used block.** -/
theorem LiveRun.accounts (hr : LiveRun h L) : h.Accounts L := by
  induction hr with
  | init mem hp => exact ⟨⟨_, hp.init mem⟩, rfl, hp.size_ge⟩
  | alloc hr hn hrun ih =>
    rcases hn with hn | rfl
    swap
    · rwa [redHeapAlloc_refused hrun, granted, if_pos rfl]
    obtain ⟨bs, hh⟩ := ih.holds
    obtain ⟨p, h', hrun', hg⟩ := hh.alloc hn
    rw [hrun] at hrun'
    cases hrun'
    exact ih.granted hg (redHeapAlloc_allocCount hrun)
  | calloc hr hn hrun ih =>
    rcases hn with hn | rfl
    swap
    · rwa [redHeapCalloc_refused hrun, granted, if_pos rfl]
    obtain ⟨bs, hh⟩ := ih.holds
    obtain ⟨p, h', hrun', hg, -⟩ := hh.calloc hn
    rw [hrun] at hrun'
    cases hrun'
    exact ih.granted hg (redHeapCalloc_allocCount hrun)
  | @realloc h h' L x n p hr hx hn hrun ih =>
    obtain ⟨bs, hh⟩ := ih.holds
    by_cases hn0 : n = 0
    · subst hn0
      rw [if_pos rfl]
      rw [redHeapRealloc_zero] at hrun
      obtain ⟨h1, hrun1, -⟩ := hh.free hx
      rw [hrun1] at hrun
      cases hrun
      exact ih.givenBack hx hrun1
    · rcases hn with hn | rfl
      swap
      · rwa [redHeapRealloc_refused hn0 hrun, if_neg hn0, if_pos rfl]
      obtain ⟨hused, hlt⟩ := hh.allocCount
      obtain ⟨p', h1, hrun1, hg, -⟩ := hh.realloc hx hn hn0
      rw [hrun] at hrun1
      cases hrun1
      rw [if_neg hn0]
      rcases hg with ⟨rfl, rfl⟩ | ⟨hp, hs, hh'⟩
      · exact ih
      · rw [if_neg hp]
        refine ⟨hh', ?_, hs.pool.2.symm ▸ ih.size_ge⟩
        have := List.length_pos_of_mem hx
        have := ih.allocCount
        rw [redHeapRealloc_allocCount hrun hn0 (by omega) (by omega), List.length_cons,
          List.length_erase_of_mem hx]
        omega
  | free hr hx hrun ih => exact ih.givenBack hx hrun
  | store v hr hx ha ha' ih =>
    obtain ⟨bs, hh⟩ := ih.holds
    exact ⟨⟨bs, hh.store v hx ha ha'⟩, ih.allocCount, ih.size_ge⟩
  | elsewhere v hr ha ih =>
    obtain ⟨bs, hh⟩ := ih.holds
    exact ⟨⟨bs, hh.elsewhere v ha⟩, ih.allocCount, ih.size_ge⟩

/-! ## Giving all back -/

/-- Give pointers back, one after the other. -/
def redHeapFreeAll : List ℕ → HeapOp Unit
  | [] => pure ()
  | pMem :: ps => do
    redHeapFree pMem
    redHeapFreeAll ps

/-- A heap of one free block: the statistics count the terminating header only. -/
structure Heap.IsEmpty (h : Heap) : Prop where
  tiled : h.Tiled [⟨h.gHI.ulPoolSize - redHeapHdrSize, false⟩]
  allocCount : h.gHI.ulAllocCount = 1
  totalCount : h.gHI.ulTotalCount = 2
  allocBytes : h.gHI.ulAllocBytes = redHeapHdrSize

/-- **The heap gives everything back**: every allocation is freed by `RedHeapFree()` and can be
made smaller by `RedHeapRealloc()`, and after giving all back, in any order, the heap is one free
block. -/
structure Heap.GivesBack (h : Heap) (L : List (ℕ × ℕ)) : Prop where
  free : ∀ x ∈ L, ∃ h', redHeapFree x.1 h = (.ok (), h') ∧
    h'.gHI.ulAllocCount + 1 = h.gHI.ulAllocCount
  accepted : ∀ x ∈ L, h.isOutside x.1 = false ∧ h.isAlloc (redHeapMemToHdr x.1) = true
  realloc : ∀ x ∈ L, ∀ ulSize, ulSize ≠ 0 → ulSize ≤ x.2 →
    ∃ p h', redHeapRealloc x.1 ulSize h = (.ok p, h') ∧ p ≠ 0
  all : ∀ ps, ps.Perm (L.map Prod.fst) → ∃ h', redHeapFreeAll ps h = (.ok (), h') ∧ h'.IsEmpty

/-- A heap without allocations is one free block. -/
lemma Heap.Accounts.isEmpty (hacc : h.Accounts []) : h.IsEmpty := by
  obtain ⟨bs, hh⟩ := hacc.holds
  have ht := hh.sound.tiled
  have hsize := hacc.size_ge
  have hpos := redHeapHdrSize_pos
  have hnone : usedCount bs = 0 := by
    have h1 := ht.allocCount
    rw [hacc.allocCount, List.length_nil] at h1
    omega
  have hfree : ∀ b ∈ bs, b.used = false := by
    intro b hb
    simpa using List.countP_eq_zero.1 hnone b hb
  -- two neighbours would both be free
  obtain ⟨b, rfl⟩ : ∃ b, bs = [b] := by
    rcases bs with - | ⟨b, - | ⟨c, r⟩⟩
    · have := ht.bytes
      rw [blockBytes_nil] at this
      omega
    · exact ⟨b, rfl⟩
    · have hchain := (List.isChain_cons_cons.1 hh.sound.apart).1
      rw [hfree b (by simp), hfree c (by simp)] at hchain
      simp at hchain
  have hbytes := ht.bytes
  rw [blockBytes_cons, blockBytes_nil] at hbytes
  have hb : b = ⟨h.gHI.ulPoolSize - redHeapHdrSize, false⟩ := by
    have hu := hfree b (by simp)
    obtain ⟨size, used⟩ := b
    dsimp only at hu hbytes
    rw [hu, HeapBlock.mk.injEq]
    exact ⟨by omega, rfl⟩
  refine ⟨hb ▸ ht, hacc.allocCount, ht.totalCount, ?_⟩
  have hb' := ht.allocBytes
  rw [usedBytes_cons, usedBytes_nil, hfree b (by simp)] at hb'
  simpa using hb'

/-- No allocation begins within the last two header sizes of the pool. -/
def Heap.Clear (h : Heap) (L : List (ℕ × ℕ)) : Prop :=
  ∀ x ∈ L, x.1 + redHeapHdrSize * 2 < h.gHI.pbPoolBase + h.gHI.ulPoolSize

/-- **Giving all back**, by induction on the pointers. -/
lemma Heap.Accounts.freeAll (ps : List ℕ) (hacc : h.Accounts L) (hclear : h.Clear L)
    (hps : ps.Perm (L.map Prod.fst)) :
    ∃ h', redHeapFreeAll ps h = (.ok (), h') ∧ h'.IsEmpty := by
  induction ps generalizing h L with
  | nil =>
    obtain rfl : L = [] := List.map_eq_nil_iff.1 hps.symm.eq_nil
    exact ⟨h, rfl, hacc.isEmpty⟩
  | cons p ps ih =>
    obtain ⟨x, hx, rfl⟩ := List.mem_map.1 (hps.subset List.mem_cons_self)
    obtain ⟨bs, hh⟩ := hacc.holds
    have hout := (hh.isOutside_iff hx).2 (hclear x hx)
    obtain ⟨h1, bs', hrun, hh1, hpool, -⟩ := hh.free_accepted hx hout
    have hacc1 : h1.Accounts (L.erase x) := by
      have := hacc.givenBack hx hrun
      unfold Heap.givenBack at this
      rwa [if_neg (by simp [hout])] at this
    have hclear1 : h1.Clear (L.erase x) := by
      intro y hy
      rw [hpool.1, hpool.2]
      exact hclear y (List.mem_of_mem_erase hy)
    have hps1 : ps.Perm ((L.erase x).map Prod.fst) := by
      refine List.Perm.cons_inv (hps.trans ?_)
      exact (List.perm_cons_erase hx).map Prod.fst
    obtain ⟨h', hrest, hempty⟩ := ih hacc1 hclear1 hps1
    refine ⟨h', ?_, hempty⟩
    unfold redHeapFreeAll
    rw [Op.bind_ok hrun]
    exact hrest

/-- **The heap gives everything back exactly when no allocation begins within the last two header
sizes of the pool.** -/
theorem heap_gives_back_iff (hr : LiveRun h L) : h.GivesBack L ↔ h.Clear L := by
  have hacc := hr.accounts
  obtain ⟨bs, hh⟩ := hacc.holds
  constructor
  · intro hback x hx
    exact (hh.isOutside_iff hx).1 (hback.accepted x hx).1
  · intro hclear
    have hout : ∀ x ∈ L, h.isOutside x.1 = false := fun x hx =>
      (hh.isOutside_iff hx).2 (hclear x hx)
    constructor
    · intro x hx
      obtain ⟨h', bs', hrun, -, -, hcount⟩ := hh.free_accepted hx (hout x hx)
      exact ⟨h', hrun, hcount⟩
    · intro x hx
      obtain ⟨l, sz, r, -, -, -, -, halloc⟩ := hh.block hx
      exact ⟨hout x hx, halloc⟩
    · intro x hx n hn hle
      exact hh.realloc_accepted hx (hout x hx) hn hle
    · intro ps hps
      exact hacc.freeAll ps hclear hps

end

/-! ## A block at the end of a small pool -/

/-- A pool of 96 bytes after a request for 32 bytes, which leaves a block of 32 bytes at the end,
and one for 5 bytes, which takes it. -/
def fullHeap : Heap :=
  letI := heapConf32
  (redHeapAlloc 5 (redHeapAlloc 32 smallHeap).2).2

omit [HeapConf] in
lemma fullHeap_liveRun : letI := heapConf32
    LiveRun smallHeap [] ∧ LiveRun (redHeapAlloc 32 smallHeap).2 [(32, 32)] ∧
      LiveRun fullHeap [(80, 5), (32, 32)] := by
  let _ := heapConf32
  have hpool : IsPool 16 96 := ⟨by decide, by decide, by decide, by decide, by decide, by decide⟩
  have h0 : LiveRun smallHeap [] := .init _ hpool
  have hfst1 : (redHeapAlloc 32 smallHeap).1 = .ok 32 := by decide
  have hrun1 : redHeapAlloc 32 smallHeap = (.ok 32, (redHeapAlloc 32 smallHeap).2) :=
    Prod.ext hfst1 rfl
  have h1 : LiveRun (redHeapAlloc 32 smallHeap).2 [(32, 32)] :=
    .alloc h0 (.inl (sizeFits_iff.2 (by decide))) hrun1
  have hfst2 : (redHeapAlloc 5 (redHeapAlloc 32 smallHeap).2).1 = .ok 80 := by decide
  have hrun2 : redHeapAlloc 5 (redHeapAlloc 32 smallHeap).2 = (.ok 80, fullHeap) :=
    Prod.ext hfst2 rfl
  exact ⟨h0, h1, .alloc h1 (.inl (sizeFits_iff.2 (by decide))) hrun2⟩

/-- A pool of 160 bytes after requests for 32 and for 5 bytes, of which the first is given back, and
a request for 8 bytes, which takes its place. -/
def busyHeap : Heap :=
  letI := heapConf32
  (redHeapAlloc 8 (redHeapFree 32 (redHeapAlloc 5 (redHeapAlloc 32
    (redHeapInit 16 160 fun _ => 0)).2).2).2).2

omit [HeapConf] in
lemma busyHeap_liveRun : letI := heapConf32; LiveRun busyHeap [(32, 8), (80, 5)] := by
  let _ := heapConf32
  have hpool : IsPool 16 160 := ⟨by decide, by decide, by decide, by decide, by decide, by decide⟩
  have hrun {α : Type} {x : HeapOp α} {h : Heap} {a : α} (hx : (x h).1 = .ok a) :
      x h = (.ok a, (x h).2) := Prod.ext hx rfl
  have h1 : LiveRun _ [(32, 32)] :=
    .alloc (.init (fun _ => 0) hpool) (.inl (sizeFits_iff.2 (by decide)))
      (hrun (show (redHeapAlloc 32 _).1 = .ok 32 by decide +kernel))
  have h2 : LiveRun _ [(80, 5), (32, 32)] := .alloc h1 (.inl (sizeFits_iff.2 (by decide)))
    (hrun (show (redHeapAlloc 5 _).1 = .ok 80 by decide +kernel))
  have hgiven : ((redHeapAlloc 5 (redHeapAlloc 32 (redHeapInit 16 160 fun _ => 0)).2).2).givenBack
      (32, 32) [(80, 5), (32, 32)] = [(80, 5)] := by decide +kernel
  have h3 := LiveRun.free h2 (show (32, 32) ∈ [(80, 5), (32, 32)] by simp)
    (hrun (show (redHeapFree 32 _).1 = .ok () by decide +kernel))
  rw [hgiven] at h3
  exact .alloc h3 (.inl (sizeFits_iff.2 (by decide)))
    (hrun (show (redHeapAlloc 8 _).1 = .ok 32 by decide +kernel))

omit [HeapConf] in
/-- Two allocations can be given back, in both orders. -/
theorem heap_gives_back_small : letI := heapConf32
    busyHeap.GivesBack [(32, 8), (80, 5)] := by
  let _ := heapConf32
  refine (heap_gives_back_iff busyHeap_liveRun).2 fun x hx => ?_
  rcases List.mem_pair.1 hx with rfl | rfl
  · decide +kernel
  · decide +kernel

omit [HeapConf] in
/-- **A leak**: `RedHeapFree()` takes the allocation at the end of the pool for a pointer outside
the heap. -/
theorem redHeapFree_refuses_last : letI := heapConf32
    LiveRun fullHeap [(80, 5), (32, 32)] ∧ redHeapFree 80 fullHeap = (.ok (), fullHeap) ∧
      ¬fullHeap.GivesBack [(80, 5), (32, 32)] := by
  let _ := heapConf32
  refine ⟨fullHeap_liveRun.2.2, redHeapFree_refused (by decide), ?_⟩
  intro hback
  have := (hback.accepted (80, 5) List.mem_cons_self).1
  revert this
  decide

end RelianceEdge
