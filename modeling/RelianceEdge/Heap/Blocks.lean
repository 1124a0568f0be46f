import RelianceEdge.Heap.Model

set_option relaxedAutoImplicit false
set_option autoImplicit false
set_option linter.unusedSectionVars false

/-!
# Blocks of a heap

The pool as a list of blocks. The headers in the memory tile the pool with the blocks, and the
statistics are sums over them.

## Main definitions

* `HeapBlock`, `BlockAt` — a block, and where it is.
* `Heap.Tiles` — the headers are those of the blocks, with links both ways.
* `Heap.Tiled` — the headers tile the pool, and the statistics are right.
* `Heap.OnlyHdrs` — nothing but some headers has changed.

## Main results

* `Heap.Tiled.edit` — other blocks in place of some.
-/

namespace RelianceEdge

variable [HeapConf]

open HeapConf

/-! ## Sizes -/

lemma ptrSize_pos : 0 < ptrSize := by
  rcases ptrSize_mem with h | h <;> omega

lemma alignUp_dvd (x : ℕ) : ptrSize ∣ alignUp x := Dvd.intro_left _ rfl

lemma le_alignUp (x : ℕ) : x ≤ alignUp x := by
  have h := Nat.lt_div_mul_add ptrSize_pos (a := x + (ptrSize - 1))
  have hpos := ptrSize_pos
  unfold alignUp
  omega

lemma alignUp_lt (x : ℕ) : alignUp x < x + ptrSize := by
  have h := Nat.div_mul_le_self (x + (ptrSize - 1)) ptrSize
  have hpos := ptrSize_pos
  unfold alignUp
  omega

lemma alignUp_of_dvd {x : ℕ} (h : ptrSize ∣ x) : alignUp x = x := by
  obtain ⟨k, rfl⟩ := h
  have hpos := ptrSize_pos
  unfold alignUp
  rw [Nat.mul_add_div hpos, Nat.div_eq_of_lt (by omega), Nat.add_zero, Nat.mul_comm]

lemma redHeapHdrSize_eq : redHeapHdrSize = 8 + ptrSize + ptrSize := by
  unfold redHeapHdrSize
  apply alignUp_of_dvd
  rcases ptrSize_mem with h | h <;> rw [h] <;> decide

lemma redHeapHdrSize_dvd : ptrSize ∣ redHeapHdrSize := alignUp_dvd _

lemma redHeapHdrSize_pos : 0 < redHeapHdrSize := by
  rw [redHeapHdrSize_eq]
  omega

/-- Addresses are at least as large as sizes. -/
lemma two_pow_le : 2 ^ 32 ≤ 256 ^ ptrSize := by
  rcases ptrSize_mem with h | h <;> simp [h]

/-! ## Headers -/

/-- The headers at two addresses do not overlap. -/
def HdrApart (p q : ℕ) : Prop := p + redHeapHdrSize ≤ q ∨ q + redHeapHdrSize ≤ p

lemma HdrApart.symm {p q : ℕ} (h : HdrApart p q) : HdrApart q p := Or.symm h

/-- **Nothing but the headers at some addresses has changed.** -/
def Heap.OnlyHdrs (h h' : Heap) (ps : List ℕ) : Prop :=
  ∀ x, (∀ p ∈ ps, x < p ∨ p + redHeapHdrSize ≤ x) → h'.mem x = h.mem x

section

variable {h h' h'' : Heap} {p q v : ℕ} {ps qs : List ℕ}

lemma Heap.OnlyHdrs.refl (h : Heap) (ps : List ℕ) : h.OnlyHdrs h ps := fun _ _ => rfl

lemma Heap.OnlyHdrs.trans (h1 : h.OnlyHdrs h' ps) (h2 : h'.OnlyHdrs h'' ps) : h.OnlyHdrs h'' ps :=
  fun x hx => (h2 x hx).trans (h1 x hx)

lemma Heap.OnlyHdrs.mono (h1 : h.OnlyHdrs h' ps) (hs : ∀ p ∈ ps, p ∈ qs) : h.OnlyHdrs h' qs :=
  fun x hx => h1 x fun p hp => hx p (hs p hp)

/-- Another header is as it was. -/
lemma Heap.OnlyHdrs.hdr (h1 : h.OnlyHdrs h' ps) (hq : ∀ p ∈ ps, HdrApart p q) :
    h'.hdr q = h.hdr q := by
  have hmem : ∀ x, q ≤ x → x < q + redHeapHdrSize → h'.mem x = h.mem x := by
    intro x hx hx'
    apply h1
    intro p hp
    have := hq p hp
    unfold HdrApart at this
    omega
  have hs := redHeapHdrSize_eq
  unfold Heap.hdr
  congr 1 <;> apply Memory.load_congr <;> intro x hx hx' <;> exact hmem x (by omega) (by omega)

lemma Heap.OnlyHdrs.setSentinel (h1 : h.OnlyHdrs h' ps) (hp : p ∈ ps) :
    h.OnlyHdrs (h'.setSentinel p v) ps := by
  refine h1.trans fun x hx => ?_
  have := hx p hp
  have hs := redHeapHdrSize_eq
  exact Memory.store_of_notMem (by omega)

lemma Heap.OnlyHdrs.setBlockSize (h1 : h.OnlyHdrs h' ps) (hp : p ∈ ps) :
    h.OnlyHdrs (h'.setBlockSize p v) ps := by
  refine h1.trans fun x hx => ?_
  have := hx p hp
  have hs := redHeapHdrSize_eq
  exact Memory.store_of_notMem (by omega)

lemma Heap.OnlyHdrs.setNext (h1 : h.OnlyHdrs h' ps) (hp : p ∈ ps) :
    h.OnlyHdrs (h'.setNext p v) ps := by
  refine h1.trans fun x hx => ?_
  have := hx p hp
  have hs := redHeapHdrSize_eq
  exact Memory.store_of_notMem (by omega)

lemma Heap.OnlyHdrs.setPrev (h1 : h.OnlyHdrs h' ps) (hp : p ∈ ps) :
    h.OnlyHdrs (h'.setPrev p v) ps := by
  refine h1.trans fun x hx => ?_
  have := hx p hp
  have hs := redHeapHdrSize_eq
  exact Memory.store_of_notMem (by omega)

lemma Heap.OnlyHdrs.withInfo (h1 : h.OnlyHdrs h' ps) (g : RedHeapInfo) :
    h.OnlyHdrs { h' with gHI := g } ps := h1

lemma Heap.hdr_setSentinel (hv : v < 2 ^ 32) :
    (h.setSentinel p v).hdr p = { h.hdr p with ulSentinel := v } := by
  unfold Heap.hdr Heap.setSentinel
  ext
  · exact Memory.load_store hv
  · exact Memory.load_store_of_apart (by omega)
  · exact Memory.load_store_of_apart (by omega)
  · exact Memory.load_store_of_apart (by omega)

lemma Heap.hdr_setBlockSize (hv : v < 2 ^ 32) :
    (h.setBlockSize p v).hdr p = { h.hdr p with ulBlockSize := v } := by
  unfold Heap.hdr Heap.setBlockSize
  ext
  · exact Memory.load_store_of_apart (by omega)
  · exact Memory.load_store hv
  · exact Memory.load_store_of_apart (by omega)
  · exact Memory.load_store_of_apart (by omega)

lemma Heap.hdr_setNext (hv : v < 256 ^ ptrSize) :
    (h.setNext p v).hdr p = { h.hdr p with pNext := v } := by
  unfold Heap.hdr Heap.setNext
  ext
  · exact Memory.load_store_of_apart (by omega)
  · exact Memory.load_store_of_apart (by omega)
  · exact Memory.load_store hv
  · exact Memory.load_store_of_apart (by omega)

lemma Heap.hdr_setPrev (hv : v < 256 ^ ptrSize) :
    (h.setPrev p v).hdr p = { h.hdr p with pPrev := v } := by
  unfold Heap.hdr Heap.setPrev
  ext
  · exact Memory.load_store_of_apart (by omega)
  · exact Memory.load_store_of_apart (by omega)
  · exact Memory.load_store_of_apart (by omega)
  · exact Memory.load_store hv

lemma Heap.hdr_setSentinel_of_apart (ha : HdrApart p q) : (h.setSentinel p v).hdr q = h.hdr q :=
  ((Heap.OnlyHdrs.refl h [p]).setSentinel List.mem_cons_self).hdr (by simpa using ha)

lemma Heap.hdr_setBlockSize_of_apart (ha : HdrApart p q) : (h.setBlockSize p v).hdr q = h.hdr q :=
  ((Heap.OnlyHdrs.refl h [p]).setBlockSize List.mem_cons_self).hdr (by simpa using ha)

lemma Heap.hdr_setNext_of_apart (ha : HdrApart p q) : (h.setNext p v).hdr q = h.hdr q :=
  ((Heap.OnlyHdrs.refl h [p]).setNext List.mem_cons_self).hdr (by simpa using ha)

lemma Heap.hdr_setPrev_of_apart (ha : HdrApart p q) : (h.setPrev p v).hdr q = h.hdr q :=
  ((Heap.OnlyHdrs.refl h [p]).setPrev List.mem_cons_self).hdr (by simpa using ha)

@[simp] lemma Heap.hdr_withInfo (g : RedHeapInfo) : Heap.hdr { h with gHI := g } p = h.hdr p := rfl

@[simp] lemma Heap.gHI_setSentinel : (h.setSentinel p v).gHI = h.gHI := rfl

@[simp] lemma Heap.gHI_setBlockSize : (h.setBlockSize p v).gHI = h.gHI := rfl

@[simp] lemma Heap.gHI_setNext : (h.setNext p v).gHI = h.gHI := rfl

@[simp] lemma Heap.gHI_setPrev : (h.setPrev p v).gHI = h.gHI := rfl

end

/-! ## Blocks -/

/-- A block, with the size of its header. -/
structure HeapBlock where
  size : ℕ
  used : Bool
  deriving DecidableEq

/-- The sentinel of a block. -/
def HeapBlock.sentinel (b : HeapBlock) : ℕ :=
  if b.used then REDHEAP_SENTINEL_ALLOC else REDHEAP_SENTINEL_FREE

/-- The bytes of some blocks. -/
def blockBytes (bs : List HeapBlock) : ℕ := (bs.map HeapBlock.size).sum

/-- The bytes of the allocated ones among some blocks. -/
def usedBytes (bs : List HeapBlock) : ℕ := blockBytes (bs.filter HeapBlock.used)

/-- How many of some blocks are allocated. -/
def usedCount (bs : List HeapBlock) : ℕ := bs.countP HeapBlock.used

section

variable {b : HeapBlock} {bs l r : List HeapBlock}

@[simp] lemma blockBytes_nil : blockBytes [] = 0 := rfl

@[simp] lemma blockBytes_cons : blockBytes (b :: bs) = b.size + blockBytes bs := by
  simp [blockBytes]

@[simp] lemma blockBytes_append : blockBytes (l ++ r) = blockBytes l + blockBytes r := by
  simp [blockBytes]

@[simp] lemma usedBytes_nil : usedBytes [] = 0 := rfl

@[simp] lemma usedBytes_cons :
    usedBytes (b :: bs) = (if b.used then b.size else 0) + usedBytes bs := by
  unfold usedBytes
  rcases h : b.used with _ | _ <;> simp [h]

@[simp] lemma usedBytes_append : usedBytes (l ++ r) = usedBytes l + usedBytes r := by
  simp [usedBytes]

lemma usedBytes_le : usedBytes bs ≤ blockBytes bs := by
  induction bs with
  | nil => exact le_rfl
  | cons b bs ih =>
    rw [usedBytes_cons, blockBytes_cons]
    split_ifs <;> omega

@[simp] lemma usedCount_nil : usedCount [] = 0 := rfl

@[simp] lemma usedCount_cons : usedCount (b :: bs) = (if b.used then 1 else 0) + usedCount bs := by
  unfold usedCount
  rw [List.countP_cons, Nat.add_comm]

@[simp] lemma usedCount_append : usedCount (l ++ r) = usedCount l + usedCount r := by
  simp [usedCount]

end

/-- **Where a block is**, when the first one is at `base`. -/
def BlockAt (base : ℕ) (bs : List HeapBlock) (p : ℕ) (b : HeapBlock) : Prop :=
  ∃ l r, bs = l ++ b :: r ∧ p = base + blockBytes l

section

variable {base p q : ℕ} {b c : HeapBlock} {bs l r : List HeapBlock}

lemma BlockAt.mem (h : BlockAt base bs p b) : b ∈ bs := by
  obtain ⟨l, r, rfl, -⟩ := h
  simp

lemma blockAt_cons : BlockAt base (c :: bs) p b ↔
    (p = base ∧ b = c) ∨ BlockAt (base + c.size) bs p b := by
  constructor
  · rintro ⟨l, r, hl, rfl⟩
    rcases l with _ | ⟨d, l⟩
    · cases hl
      exact .inl ⟨by simp, rfl⟩
    · cases hl
      exact .inr ⟨l, r, rfl, by simp [Nat.add_assoc]⟩
  · rintro (⟨rfl, rfl⟩ | ⟨l, r, rfl, rfl⟩)
    · exact ⟨[], bs, rfl, by simp⟩
    · exact ⟨c :: l, r, rfl, by simp [Nat.add_assoc]⟩

lemma not_blockAt_nil : ¬ BlockAt base [] p b := by
  rintro ⟨l, r, h, -⟩
  simp at h

lemma blockAt_append :
    BlockAt base (l ++ r) p b ↔ BlockAt base l p b ∨ BlockAt (base + blockBytes l) r p b := by
  induction l generalizing base with
  | nil => simp [not_blockAt_nil]
  | cons c l ih =>
    rw [List.cons_append, blockAt_cons, ih, blockAt_cons, or_assoc, blockBytes_cons, Nat.add_assoc]

lemma BlockAt.ge (h : BlockAt base bs p b) : base ≤ p := by
  obtain ⟨l, r, -, rfl⟩ := h
  omega

lemma BlockAt.le (h : BlockAt base bs p b) : p + b.size ≤ base + blockBytes bs := by
  obtain ⟨l, r, rfl, rfl⟩ := h
  simp only [blockBytes_append, blockBytes_cons]
  omega

/-- Blocks do not overlap. -/
lemma BlockAt.apart (hs : ∀ d ∈ bs, 0 < d.size) (hb : BlockAt base bs p b)
    (hc : BlockAt base bs q c) : (p = q ∧ b = c) ∨ p + b.size ≤ q ∨ q + c.size ≤ p := by
  induction bs generalizing base with
  | nil => exact absurd hb not_blockAt_nil
  | cons d bs ih =>
    rw [blockAt_cons] at hb hc
    rcases hb with ⟨rfl, rfl⟩ | hb <;> rcases hc with ⟨rfl, rfl⟩ | hc
    · exact .inl ⟨rfl, rfl⟩
    · have := hc.ge
      exact .inr (.inl this)
    · have := hb.ge
      exact .inr (.inr this)
    · exact ih (fun e he => hs e (List.mem_cons_of_mem _ he)) hb hc

end

/-! ## Headers of blocks -/

/-- The header of a block at `p`. -/
def HeapBlock.hdr (b : HeapBlock) (prev p : ℕ) : RedHeapHdr :=
  ⟨b.sentinel, b.size, p + b.size, prev⟩

/-- The terminating header. -/
def terminator (prev : ℕ) : RedHeapHdr := ⟨REDHEAP_SENTINEL_ALLOC, redHeapHdrSize, 0, prev⟩

/-- The address of the last of some blocks, `prev` if there is none. -/
def lastAt (prev p : ℕ) : List HeapBlock → ℕ
  | [] => prev
  | b :: bs => lastAt p (p + b.size) bs

/-- The headers from `p` on are those of the blocks. -/
def Heap.Run (h : Heap) (prev p : ℕ) : List HeapBlock → Prop
  | [] => True
  | b :: bs => h.hdr p = b.hdr prev p ∧ h.Run p (p + b.size) bs

/-- **The headers from `p` on are those of the blocks**, and the terminating one. -/
def Heap.Tiles (h : Heap) (prev p : ℕ) (bs : List HeapBlock) : Prop :=
  h.Run prev p bs ∧ h.hdr (p + blockBytes bs) = terminator (lastAt prev p bs)

section

variable {h h' : Heap} {prev p q e : ℕ} {b : HeapBlock} {bs l mid mid' r : List HeapBlock}

@[simp] lemma lastAt_append :
    lastAt prev p (l ++ r) = lastAt (lastAt prev p l) (p + blockBytes l) r := by
  induction l generalizing prev p with
  | nil => simp [lastAt]
  | cons b l ih => simp [lastAt, ih, Nat.add_assoc]

lemma Heap.run_append :
    h.Run prev p (l ++ r) ↔ h.Run prev p l ∧ h.Run (lastAt prev p l) (p + blockBytes l) r := by
  induction l generalizing prev p with
  | nil => simp [Heap.Run, lastAt]
  | cons b l ih =>
    simp only [List.cons_append, Heap.Run, ih, lastAt, blockBytes_cons, Nat.add_assoc,
      and_assoc]

/-- Blocks depend on their own headers only. -/
lemma Heap.Run.congr (hr : h.Run prev p bs) (hs : ∀ b ∈ bs, redHeapHdrSize ≤ b.size)
    (hh : ∀ q, p ≤ q → q + redHeapHdrSize ≤ p + blockBytes bs → h'.hdr q = h.hdr q) :
    h'.Run prev p bs := by
  induction bs generalizing prev p with
  | nil => trivial
  | cons b bs ih =>
    have hb := hs b List.mem_cons_self
    rw [blockBytes_cons] at hh
    refine ⟨(hh p le_rfl (by omega)).trans hr.1,
      ih hr.2 (fun c hc => hs c (List.mem_cons_of_mem _ hc)) ?_⟩
    intro q hq hq'
    exact hh q (by omega) (by omega)

/-- The header after some blocks points back to the last of them. -/
lemma Heap.Tiles.pPrev (ht : h.Tiles prev p (l ++ r)) :
    (h.hdr (p + blockBytes l)).pPrev = lastAt prev p l := by
  rcases r with _ | ⟨b, r⟩
  · have := ht.2
    rw [List.append_nil] at this
    rw [this]
    rfl
  · have := (Heap.run_append.1 ht.1).2.1
    rw [this]
    rfl

/-- **Other blocks in place of some**, which take as many bytes. -/
lemma Heap.Tiles.edit (ht : h.Tiles prev p (l ++ mid ++ r)) (hm : blockBytes mid' = blockBytes mid)
    (hs : ∀ b ∈ l ++ r, redHeapHdrSize ≤ b.size)
    (hbefore : ∀ q, q + redHeapHdrSize ≤ p + blockBytes l → h'.hdr q = h.hdr q)
    (hmid : h'.Run (lastAt prev p l) (p + blockBytes l) mid')
    (hend : h'.hdr (p + blockBytes (l ++ mid)) = { h.hdr (p + blockBytes (l ++ mid)) with
      pPrev := lastAt prev p (l ++ mid') })
    (hafter : ∀ q, p + blockBytes (l ++ mid) + redHeapHdrSize ≤ q → h'.hdr q = h.hdr q) :
    h'.Tiles prev p (l ++ mid' ++ r) := by
  have hbytes : blockBytes (l ++ mid') = blockBytes (l ++ mid) := by simp [hm]
  obtain ⟨hrun, hterm⟩ := ht
  obtain ⟨hlm, hr⟩ := Heap.run_append.1 hrun
  have hl := (Heap.run_append.1 hlm).1
  have hl' : h'.Run prev p l := hl.congr (fun b hb => hs b (List.mem_append_left _ hb))
    fun q _ hq => hbefore q hq
  rcases r with _ | ⟨b, r⟩
  · refine ⟨?_, ?_⟩
    · rw [List.append_nil]
      exact Heap.run_append.2 ⟨hl', hmid⟩
    · rw [List.append_nil, hbytes, hend]
      rw [List.append_nil] at hterm
      rw [hterm]
      rfl
  · have hb : redHeapHdrSize ≤ b.size := hs b (by simp)
    refine ⟨Heap.run_append.2 ⟨Heap.run_append.2 ⟨hl', hmid⟩, ?_, ?_⟩, ?_⟩
    · rw [hbytes, hend, hr.1]
      rfl
    · rw [hbytes]
      refine hr.2.congr (fun c hc => hs c (by simp [hc])) fun q hq _ => hafter q (by omega)
    · have hpos : p + blockBytes (l ++ mid' ++ b :: r) = p + blockBytes (l ++ mid ++ b :: r) := by
        simp [hm]
      rw [hpos, hafter _ (by simp only [blockBytes_append, blockBytes_cons]; omega), hterm]
      congr 1
      rw [lastAt_append (l := l ++ mid), lastAt_append (l := l ++ mid'), hbytes]
      rfl

end

/-! ## Pools -/

/-- **The blocks tile the pool**, and the statistics are sums over them. -/
structure Heap.Tiled (h : Heap) (bs : List HeapBlock) : Prop where
  base_pos : 0 < h.gHI.pbPoolBase
  base_le : h.gHI.pbPoolBase + h.gHI.ulPoolSize ≤ 256 ^ ptrSize
  base_dvd : ptrSize ∣ h.gHI.pbPoolBase
  size_lt : h.gHI.ulPoolSize < 2 ^ 32
  tiles : h.Tiles 0 h.gHI.pbPoolBase bs
  bytes : blockBytes bs + redHeapHdrSize = h.gHI.ulPoolSize
  block : ∀ b ∈ bs, redHeapHdrSize ≤ b.size ∧ ptrSize ∣ b.size
  totalCount : h.gHI.ulTotalCount = bs.length + 1
  allocCount : h.gHI.ulAllocCount = usedCount bs + 1
  allocBytes : h.gHI.ulAllocBytes = usedBytes bs + redHeapHdrSize
  maxAllocBytes : h.gHI.ulAllocBytes ≤ h.gHI.ulMaxAllocBytes

section

variable {h h' : Heap} {p q : ℕ} {b : HeapBlock} {bs l mid mid' r : List HeapBlock}

/-- **Other blocks in place of some**, in a pool. -/
lemma Heap.Tiled.edit {ps : List ℕ} (ht : h.Tiled (l ++ mid ++ r))
    (hbytes : blockBytes mid' = blockBytes mid)
    (hblock : ∀ b ∈ mid', redHeapHdrSize ≤ b.size ∧ ptrSize ∣ b.size)
    (honly : h.OnlyHdrs h' ps)
    (hps : ∀ p ∈ ps, h.gHI.pbPoolBase + blockBytes l ≤ p ∧
      p ≤ h.gHI.pbPoolBase + blockBytes (l ++ mid))
    (hmid : h'.Run (lastAt 0 h.gHI.pbPoolBase l) (h.gHI.pbPoolBase + blockBytes l) mid')
    (hend : h'.hdr (h.gHI.pbPoolBase + blockBytes (l ++ mid)) =
      { h.hdr (h.gHI.pbPoolBase + blockBytes (l ++ mid)) with
        pPrev := lastAt 0 h.gHI.pbPoolBase (l ++ mid') })
    (hbase : h'.gHI.pbPoolBase = h.gHI.pbPoolBase) (hsize : h'.gHI.ulPoolSize = h.gHI.ulPoolSize)
    (htotal : h'.gHI.ulTotalCount + mid.length = h.gHI.ulTotalCount + mid'.length)
    (hcount : h'.gHI.ulAllocCount + usedCount mid = h.gHI.ulAllocCount + usedCount mid')
    (halloc : h'.gHI.ulAllocBytes + usedBytes mid = h.gHI.ulAllocBytes + usedBytes mid')
    (hmax : h'.gHI.ulAllocBytes ≤ h'.gHI.ulMaxAllocBytes) : h'.Tiled (l ++ mid' ++ r) where
  base_pos := by rw [hbase]; exact ht.base_pos
  base_le := by rw [hbase, hsize]; exact ht.base_le
  base_dvd := by rw [hbase]; exact ht.base_dvd
  size_lt := by rw [hsize]; exact ht.size_lt
  tiles := by
    rw [hbase]
    apply ht.tiles.edit hbytes
    · intro b hb
      refine (ht.block b ?_).1
      simp only [List.mem_append] at hb ⊢
      tauto
    · intro q hq
      apply honly.hdr
      intro p hp
      have := hps p hp
      exact .inr (by omega)
    · exact hmid
    · exact hend
    · intro q hq
      apply honly.hdr
      intro p hp
      have := hps p hp
      exact .inl (by omega)
  bytes := by
    have := ht.bytes
    simp only [blockBytes_append] at this ⊢
    omega
  block := by
    intro b hb
    simp only [List.mem_append] at hb
    rcases hb with (hb | hb) | hb
    · exact ht.block b (by simp [hb])
    · exact hblock b hb
    · exact ht.block b (by simp [hb])
  totalCount := by
    have := ht.totalCount
    simp only [List.length_append] at this ⊢
    omega
  allocCount := by
    have := ht.allocCount
    simp only [usedCount_append] at this ⊢
    omega
  allocBytes := by
    have := ht.allocBytes
    simp only [usedBytes_append] at this ⊢
    omega
  maxAllocBytes := hmax

/-- The header of a block in a pool. -/
lemma Heap.Tiled.hdr (ht : h.Tiled (l ++ b :: r)) :
    h.hdr (h.gHI.pbPoolBase + blockBytes l) =
      b.hdr (lastAt 0 h.gHI.pbPoolBase l) (h.gHI.pbPoolBase + blockBytes l) :=
  (Heap.run_append.1 ht.tiles.1).2.1

/-- The header after some blocks points back to the last of them. -/
lemma Heap.Tiled.pPrev (ht : h.Tiled (l ++ r)) :
    (h.hdr (h.gHI.pbPoolBase + blockBytes l)).pPrev = lastAt 0 h.gHI.pbPoolBase l :=
  ht.tiles.pPrev

lemma Heap.Tiled.bytes_le (ht : h.Tiled (l ++ r)) :
    blockBytes l + redHeapHdrSize ≤ h.gHI.ulPoolSize := by
  have := ht.bytes
  rw [blockBytes_append] at this
  omega

/-- Addresses in the pool fit in a pointer. -/
lemma Heap.Tiled.lt_pow (ht : h.Tiled bs) {a : ℕ} (ha : a < h.gHI.pbPoolBase + h.gHI.ulPoolSize) :
    a < 256 ^ ptrSize := lt_of_lt_of_le ha ht.base_le

end

end RelianceEdge
