import RelianceEdge.Heap.Ops

set_option relaxedAutoImplicit false
set_option autoImplicit false
set_option linter.unusedSectionVars false

/-!
# Calls of the heap allocator

What each call does to the allocations of its clients: the search for the best fit ends, and what it
finds is large enough; no call touches an allocation other than its own.

## Main definitions

* `Heap.Holds` — the blocks of the pool, with the allocations in them.
* `SizeFits` — a size for which the block that it needs has a 32-bit size.

## Main results

* `Heap.Tiled.search` — the search ends, with a block that is large enough.
* `Heap.Holds.alloc`, `Heap.Holds.calloc`, `Heap.Holds.free`, `Heap.Holds.realloc` — the calls.
-/

namespace RelianceEdge

variable [HeapConf]

open HeapConf

section

variable {h h' : Heap} {p q e : ℕ} {sz req : ℕ} {b c : HeapBlock}
  {bs l l' mid mid' r r' : List HeapBlock}
  {ps : List ℕ}

/-! ## Memory between the headers -/

/-- Splits of the same blocks at the same address are the same. -/
lemma append_inj_of_blockBytes (hs : ∀ b ∈ l ++ r, 0 < b.size) (hlr : l ++ r = l' ++ r')
    (hb : blockBytes l = blockBytes l') : l = l' ∧ r = r' := by
  have hnil : ∀ m : List HeapBlock, (∀ b ∈ m, 0 < b.size) → blockBytes m = 0 → m = [] := by
    intro m hm h0
    rcases m with _ | ⟨c, m⟩
    · rfl
    · have := hm c List.mem_cons_self
      rw [blockBytes_cons] at h0
      omega
  rcases List.append_eq_append_iff.1 hlr with ⟨m, rfl, rfl⟩ | ⟨m, rfl, rfl⟩
  · have hm : m = [] := hnil m (fun b hb => hs b (by simp [hb])) (by
      rw [blockBytes_append] at hb
      omega)
    simp [hm]
  · have hm : m = [] := hnil m (fun b hb => hs b (by simp [hb])) (by
      rw [blockBytes_append] at hb
      omega)
    simp [hm]

/-- Data is not touched by writing headers that do not begin in its block. -/
lemma Heap.OnlyHdrs.data (ho : h.OnlyHdrs h' ps) {n x : ℕ} (hps : ∀ p ∈ ps, p ≤ q ∨ q + n ≤ p)
    (hx : q + redHeapHdrSize ≤ x) (hx' : x < q + n) : h'.mem x = h.mem x := by
  apply ho
  intro p hp
  have := hps p hp
  omega

lemma Heap.Run.congr_at {prev : ℕ} (hr : h.Run prev p bs)
    (hh : ∀ q b, BlockAt p bs q b → h'.hdr q = h.hdr q) : h'.Run prev p bs := by
  induction bs generalizing prev p with
  | nil => trivial
  | cons b bs ih =>
    refine ⟨(hh p b (blockAt_cons.2 (.inl ⟨rfl, rfl⟩))).trans hr.1, ih hr.2 fun q c hc => ?_⟩
    exact hh q c (blockAt_cons.2 (.inr hc))

/-- A pool depends on the headers of its blocks only. -/
lemma Heap.Tiled.congr (ht : h.Tiled bs) (hinfo : h'.gHI = h.gHI)
    (hh : ∀ q b, BlockAt h.gHI.pbPoolBase bs q b → h'.hdr q = h.hdr q)
    (hend : h'.hdr (h.gHI.pbPoolBase + blockBytes bs) = h.hdr (h.gHI.pbPoolBase + blockBytes bs)) :
    h'.Tiled bs := by
  obtain ⟨h1, h2, h3, h4, ⟨h5, h6⟩, h7, h8, h9, h10, h11, h12⟩ := ht
  refine ⟨?_, ?_, ?_, ?_, ⟨?_, ?_⟩, ?_, h8, ?_, ?_, ?_, ?_⟩
  all_goals rw [hinfo]
  all_goals first | assumption | skip
  · exact h5.congr_at hh
  · rw [hend]
    exact h6

/-- A header depends on its bytes only. -/
lemma Heap.hdr_congr (hm : ∀ x, p ≤ x → x < p + redHeapHdrSize → h'.mem x = h.mem x) :
    h'.hdr p = h.hdr p := by
  have hs := redHeapHdrSize_eq
  unfold Heap.hdr
  congr 1 <;> apply Memory.load_congr <;> intro x hx hx' <;> exact hm x (by omega) (by omega)

lemma Heap.Tiled.size_pos (ht : h.Tiled bs) : ∀ b ∈ bs, 0 < b.size := by
  intro b hb
  have h1 := (ht.block b hb).1
  have h2 := redHeapHdrSize_pos
  omega

/-- Writing inside a block, after its header, leaves the pool alone. -/
lemma Heap.Tiled.of_body (ht : h.Tiled bs) (hb : BlockAt h.gHI.pbPoolBase bs q b)
    (hinfo : h'.gHI = h.gHI)
    (hm : ∀ x, x < q + redHeapHdrSize ∨ q + b.size ≤ x → h'.mem x = h.mem x) : h'.Tiled bs := by
  apply ht.congr hinfo
  · intro p c hc
    have hsize := (ht.block c hc.mem).1
    apply Heap.hdr_congr
    intro x hx hx'
    apply hm
    rcases BlockAt.apart ht.size_pos hb hc with ⟨rfl, -⟩ | h1 | h1
    · exact .inl hx'
    · exact .inr (by omega)
    · exact .inl (by omega)
  · apply Heap.hdr_congr
    intro x hx hx'
    have := hb.le
    exact hm x (.inr (by omega))

/-- Other blocks stay where they are when some are replaced. -/
lemma BlockAt.keep {base : ℕ} (hb : BlockAt base (l ++ mid ++ r) p b) (mid' : List HeapBlock)
    (hmid : ¬ BlockAt (base + blockBytes l) mid p b) (hbytes : blockBytes mid' = blockBytes mid) :
    BlockAt base (l ++ mid' ++ r) p b ∧
      (p + b.size ≤ base + blockBytes l ∨ base + blockBytes (l ++ mid) ≤ p) := by
  rw [blockAt_append, blockAt_append] at hb ⊢
  rw [show blockBytes (l ++ mid') = blockBytes (l ++ mid) by simp [hbytes]]
  rcases hb with (hb | hb) | hb
  · exact ⟨.inl (.inl hb), .inl hb.le⟩
  · exact absurd hb hmid
  · exact ⟨.inr hb, .inr hb.ge⟩

/-! ## The search -/

/-- **The search ends**: it gives the block it began with, or a free one that is large enough. -/
lemma Heap.Tiled.search (ht : h.Tiled bs) (fSkip : Bool) (req : ℕ) (best0 : ℕ × ℕ)
    (hskip : fSkip = true → best0 = (0, 0) ∨ ∃ l mid r, bs = l ++ mid ++ r ∧ mid ≠ [] ∧
      best0 = (h.gHI.pbPoolBase + blockBytes l, blockBytes mid)) :
    ∀ fuel l r best, bs = l ++ r → r.length + 2 ≤ fuel →
      (best = best0 ∨ ∃ l' n r', bs = l' ++ [⟨n, false⟩] ++ r' ∧
        best = (h.gHI.pbPoolBase + blockBytes l', n) ∧ req ≤ n ∧ blockBytes l' < blockBytes l) →
      ∃ best', heapSearch h fSkip req fuel (h.gHI.pbPoolBase + blockBytes l) best = .ok best' ∧
        (best' = best0 ∨ ∃ l' n r', bs = l' ++ [⟨n, false⟩] ++ r' ∧
          best' = (h.gHI.pbPoolBase + blockBytes l', n) ∧ req ≤ n) := by
  have hpos := ht.base_pos
  intro fuel
  induction fuel with
  | zero =>
    intro l r best _ hf
    omega
  | succ fuel ih =>
    intro l r best hbs hf hbest
    have hhead : h.gHI.pbPoolBase + blockBytes l ≠ 0 := by omega
    unfold heapSearch
    rw [if_neg hhead]
    by_cases hsk : fSkip = true ∧ h.gHI.pbPoolBase + blockBytes l = best.1
    · -- The blocks that could be merged are passed over.
      rw [if_pos hsk]
      rcases hbest with rfl | ⟨l', n, r', -, rfl, -, hlt⟩
      · rcases hskip hsk.1 with rfl | ⟨l0, mid, r0, hbs0, hmid, rfl⟩
        · exact absurd hsk.2 hhead
        · have hlr : l ++ r = l0 ++ (mid ++ r0) := by rw [← hbs, hbs0, List.append_assoc]
          obtain ⟨rfl, rfl⟩ := append_inj_of_blockBytes (by rw [← hbs]; exact ht.size_pos) hlr (by
            have := hsk.2
            dsimp only at this
            omega)
          have hlen : 0 < mid.length := List.length_pos_of_ne_nil hmid
          rw [List.length_append] at hf
          have := ih (l ++ mid) r0 (h.gHI.pbPoolBase + blockBytes l, blockBytes mid) hbs0
            (by omega) (.inl rfl)
          rwa [blockBytes_append, ← Nat.add_assoc] at this
      · have := hsk.2
        dsimp only at this
        omega
    rw [if_neg hsk]
    rcases r with _ | ⟨⟨n, u⟩, r⟩
    · -- The terminating header.
      have hterm := ht.tiles.2
      rw [List.append_nil] at hbs
      rw [hbs] at hterm
      have hfree : h.isFree (h.gHI.pbPoolBase + blockBytes l) = false := by
        unfold Heap.isFree
        rw [hterm]
        exact sentinel_alloc_ne
      have halloc : h.isAlloc (h.gHI.pbPoolBase + blockBytes l) = true := by
        unfold Heap.isAlloc
        rw [hterm]
        exact beq_self_eq_true _
      rw [if_neg (by simp [hfree]), if_neg (by simp [halloc]), hterm]
      obtain ⟨k, rfl⟩ := Nat.exists_eq_succ_of_ne_zero (show fuel ≠ 0 by simp at hf; omega)
      refine ⟨best, ?_, hbest.imp id fun h => ?_⟩
      · unfold heapSearch
        exact if_pos rfl
      · obtain ⟨l', n, r', h1, h2, h3, -⟩ := h
        exact ⟨l', n, r', h1, h2, h3⟩
    have hbs' : bs = l ++ [⟨n, u⟩] ++ r := by simp [hbs]
    obtain ⟨hsize, hnext, -, -, halloc, hfree⟩ := Heap.Tiled.next (hbs' ▸ ht) rfl
    have hpos' := ht.size_pos ⟨n, u⟩ (by simp [hbs])
    dsimp only at hpos'
    rw [List.length_cons] at hf
    have hgo : ∀ best', (best' = best0 ∨ ∃ l' m r', bs = l' ++ [⟨m, false⟩] ++ r' ∧
          best' = (h.gHI.pbPoolBase + blockBytes l', m) ∧ req ≤ m ∧
          blockBytes l' < blockBytes (l ++ [⟨n, u⟩])) →
        ∃ best'',
          heapSearch h fSkip req fuel (h.hdr (h.gHI.pbPoolBase + blockBytes l)).pNext best' =
            .ok best'' ∧ (best'' = best0 ∨ ∃ l' n r', bs = l' ++ [⟨n, false⟩] ++ r' ∧
          best'' = (h.gHI.pbPoolBase + blockBytes l', n) ∧ req ≤ n) := fun best' hbest' => by
      have := ih (l ++ [⟨n, u⟩]) r best' hbs' (by omega) hbest'
      rw [hnext]
      simpa [Nat.add_assoc] using this
    have hkeep : best = best0 ∨ ∃ l' m r', bs = l' ++ [⟨m, false⟩] ++ r' ∧
        best = (h.gHI.pbPoolBase + blockBytes l', m) ∧ req ≤ m ∧
        blockBytes l' < blockBytes (l ++ [⟨n, u⟩]) := by
      refine hbest.imp id fun h => ?_
      obtain ⟨l', m, r', h1, h2, h3, h4⟩ := h
      exact ⟨l', m, r', h1, h2, h3, by rw [blockBytes_append]; omega⟩
    rcases u with _ | _
    · rw [if_pos (hfree.2 rfl), hsize]
      dsimp only
      by_cases hfit : n ≥ req ∧ (best.2 = 0 ∨ n < best.2)
      · rw [if_pos hfit]
        by_cases heq : n = req
        · rw [if_pos heq]
          exact ⟨_, rfl, .inr ⟨l, n, r, hbs', rfl, hfit.1⟩⟩
        · rw [if_neg heq]
          apply hgo
          refine .inr ⟨l, n, r, hbs', rfl, hfit.1, ?_⟩
          simp only [blockBytes_append, blockBytes_cons, blockBytes_nil]
          omega
      · rw [if_neg hfit]
        exact hgo _ hkeep
    · rw [if_neg (by simp [hfree]), if_neg (by simp [halloc.2 rfl])]
      exact hgo _ hkeep

/-! ## Allocations -/

/-- **The blocks of the pool, with the allocations in them**: pointers with the sizes that were
asked for. -/
structure Heap.Holds (h : Heap) (bs : List HeapBlock) (L : List (ℕ × ℕ)) : Prop where
  sound : h.Sound bs
  held : ∀ x ∈ L, ∃ q m, x.1 = q + redHeapHdrSize ∧ BlockAt h.gHI.pbPoolBase bs q ⟨m, true⟩ ∧
    redHeapHdrSize + x.2 ≤ m
  distinct : L.Pairwise fun x y => x.1 ≠ y.1

/-- **What a call leaves alone**: the allocations, and the memory outside the pool. -/
structure Heap.Spares (h h' : Heap) (L : List (ℕ × ℕ)) : Prop where
  pool : h.SamePool h'
  data : ∀ x ∈ L, ∀ k, k < x.2 → h'.mem (x.1 + k) = h.mem (x.1 + k)
  outside : ∀ a, a < h.gHI.pbPoolBase ∨ h.gHI.pbPoolBase + h.gHI.ulPoolSize ≤ a →
    h'.mem a = h.mem a

/-- The block that a size needs has a 32-bit size. -/
def SizeFits (n : ℕ) : Prop := alignUp n + redHeapHdrSize < 2 ^ 32

variable {h'' : Heap} {L L' : List (ℕ × ℕ)} {x y : ℕ × ℕ} {n m : ℕ}

lemma Heap.Spares.refl (h : Heap) (L : List (ℕ × ℕ)) : h.Spares h L :=
  ⟨⟨rfl, rfl⟩, fun _ _ _ _ => rfl, fun _ _ => rfl⟩

lemma Heap.Spares.trans (h1 : h.Spares h' L) (h2 : h'.Spares h'' L) : h.Spares h'' L := by
  obtain ⟨⟨b1, s1⟩, d1, o1⟩ := h1
  obtain ⟨⟨b2, s2⟩, d2, o2⟩ := h2
  refine ⟨⟨b2.trans b1, s2.trans s1⟩, fun x hx k hk => (d2 x hx k hk).trans (d1 x hx k hk), ?_⟩
  intro a ha
  rw [b1, s1] at o2
  exact (o2 a ha).trans (o1 a ha)

lemma Heap.Spares.mono (h1 : h.Spares h' L) (hL : ∀ x ∈ L', x ∈ L) : h.Spares h' L' :=
  ⟨h1.pool, fun x hx => h1.data x (hL x hx), h1.outside⟩

lemma SizeFits.requestedSize (hn : SizeFits n) :
    requestedSize n = alignUp n + redHeapHdrSize ∧ redHeapHdrSize + n ≤ requestedSize n ∧
      ptrSize ∣ requestedSize n := by
  have hreq : RelianceEdge.requestedSize n = alignUp n + redHeapHdrSize := u32_of_lt hn
  have hle := le_alignUp n
  refine ⟨hreq, ?_, ?_⟩
  · rw [hreq]
    omega
  · rw [hreq]
    exact Nat.dvd_add (alignUp_dvd n) redHeapHdrSize_dvd

/-- **Allocations are inside the pool, and do not overlap.** -/
theorem Heap.Holds.inside (hh : h.Holds bs L) (hx : x ∈ L) :
    h.gHI.pbPoolBase + redHeapHdrSize ≤ x.1 ∧
      x.1 + x.2 + redHeapHdrSize ≤ h.gHI.pbPoolBase + h.gHI.ulPoolSize := by
  obtain ⟨q, m, hq, hb, hm⟩ := hh.held x hx
  have h1 := hb.ge
  have h2 := hb.le
  have h3 := hh.sound.tiled.bytes
  dsimp only at h2
  omega

theorem Heap.Holds.disjoint (hh : h.Holds bs L) :
    L.Pairwise fun x y => x.1 ≠ y.1 ∧ (x.1 + x.2 ≤ y.1 ∨ y.1 + y.2 ≤ x.1) := by
  refine hh.distinct.imp_of_mem fun {x y} hx hy hne => ⟨hne, ?_⟩
  obtain ⟨q, m, hq, hb, hm⟩ := hh.held x hx
  obtain ⟨q', m', hq', hb', hm'⟩ := hh.held y hy
  rcases hb.apart hh.sound.tiled.size_pos hb' with ⟨rfl, -⟩ | h1 | h1
  · exact absurd (hq.trans hq'.symm) hne
  · dsimp only at h1
    omega
  · dsimp only at h1
    omega

lemma Heap.Holds.ne_of_erase (hh : h.Holds bs L) (hx : x ∈ L) (hy : y ∈ L.erase x) :
    y ∈ L ∧ y.1 ≠ x.1 := by
  have hnd : L.Nodup := hh.distinct.imp fun hne heq => hne (by rw [heq])
  obtain ⟨hyx, hyL⟩ := hnd.mem_erase_iff.1 hy
  have hsymm : Std.Symm fun x y : ℕ × ℕ => x.1 ≠ y.1 := ⟨fun _ _ h => h.symm⟩
  exact ⟨hyL, hh.distinct.forall hyL hx hyx⟩

/-- What a change to the blocks, which writes headers only, does to an allocation elsewhere. -/
lemma Heap.OnlyHdrs.spares (ho : h.OnlyHdrs h' ps) (hpool : h.SamePool h')
    (hps : ∀ p ∈ ps, h.gHI.pbPoolBase ≤ p ∧
      p + redHeapHdrSize ≤ h.gHI.pbPoolBase + h.gHI.ulPoolSize)
    (hL : ∀ x ∈ L, ∃ q m, x.1 = q + redHeapHdrSize ∧ redHeapHdrSize + x.2 ≤ m ∧
      ∀ p ∈ ps, p ≤ q ∨ q + m ≤ p) : h.Spares h' L := by
  refine ⟨hpool, fun x hx k hk => ?_, fun a ha => ho a fun p hp => ?_⟩
  · obtain ⟨q, m, hq, hm, hqp⟩ := hL x hx
    exact ho.data hqp (by omega) (by omega)
  · have := hps p hp
    omega

/-- **Taking a free block.** -/
lemma Heap.Holds.blockAlloc (hh : h.Holds bs L) (hbs : bs = l ++ [⟨sz, false⟩] ++ r)
    (hq : q = h.gHI.pbPoolBase + blockBytes l) (hn : SizeFits n) (hsz : requestedSize n ≤ sz) :
    (∃ bs', (heapBlockAlloc q (requestedSize n) h).Holds bs' ((redHeapHdrToMem q, n) :: L)) ∧
      h.Spares (heapBlockAlloc q (requestedSize n) h) L ∧
      ∀ k, k < n → (heapBlockAlloc q (requestedSize n) h).mem (redHeapHdrToMem q + k) =
        h.mem (redHeapHdrToMem q + k) := by
  subst hbs
  obtain ⟨-, hreq, hdvd⟩ := hn.requestedSize
  obtain ⟨m, rm, hm, hbytes, hrm, hsound, honly, hpool⟩ :=
    hh.sound.blockAlloc hq (by omega) hdvd hsz
  have hle := hh.sound.tiled.bytes_le
  simp only [blockBytes_append, blockBytes_cons, blockBytes_nil] at hle
  have hpos := redHeapHdrSize_pos
  have hkeep : ∀ q' k, BlockAt h.gHI.pbPoolBase (l ++ [⟨sz, false⟩] ++ r) q' ⟨k, true⟩ →
      BlockAt h.gHI.pbPoolBase (l ++ ([⟨m, true⟩] ++ rm) ++ r) q' ⟨k, true⟩ ∧
        (q' + k ≤ q ∨ q + sz ≤ q') := fun q' k hb => by
    have := hb.keep ([⟨m, true⟩] ++ rm) (fun hmid => ?_) ?_
    · refine ⟨this.1, ?_⟩
      have h2 := this.2
      simp only [blockBytes_append, blockBytes_cons, blockBytes_nil] at h2
      omega
    · rw [blockAt_cons] at hmid
      rcases hmid with ⟨-, h⟩ | h
      · cases h
      · exact not_blockAt_nil h
    · simp only [blockBytes_append, blockBytes_cons, blockBytes_nil]
      omega
  refine ⟨⟨l ++ ([⟨m, true⟩] ++ rm) ++ r, ?_, ?_, ?_⟩, ?_, ?_⟩
  · simpa [List.append_assoc] using hsound
  · rw [hpool.1]
    intro x hx
    rcases List.mem_cons.1 hx with rfl | hx
    · exact ⟨q, m, rfl, ⟨l, rm ++ r, by simp, hq⟩, by dsimp only; omega⟩
    · obtain ⟨q', k, h1, h2, h3⟩ := hh.held x hx
      exact ⟨q', k, h1, (hkeep q' k h2).1, h3⟩
  · refine List.pairwise_cons.2 ⟨fun x hx heq => ?_, hh.distinct⟩
    obtain ⟨q', k, h1, h2, h3⟩ := hh.held x hx
    have := (hkeep q' k h2).2
    unfold redHeapHdrToMem at heq
    dsimp only at heq
    omega
  · refine honly.spares hpool (fun p hp => ?_) fun x hx => ?_
    · simp only [List.mem_cons, List.not_mem_nil, or_false] at hp
      omega
    · obtain ⟨q', k, h1, h2, h3⟩ := hh.held x hx
      refine ⟨q', k, h1, h3, fun p hp => ?_⟩
      have := (hkeep q' k h2).2
      simp only [List.mem_cons, List.not_mem_nil, or_false] at hp
      omega
  · intro k hk
    unfold redHeapHdrToMem
    refine honly.data (q := q) (n := requestedSize n) (fun p hp => ?_) (by omega) (by omega)
    simp only [List.mem_cons, List.not_mem_nil, or_false] at hp
    omega

/-- **Giving an allocation back.** -/
lemma Heap.Holds.blockFree (hh : h.Holds bs L) (hx : x ∈ L) (hxq : x.1 = q + redHeapHdrSize)
    (hbs : bs = l ++ [⟨sz, true⟩] ++ r) (hq : q = h.gHI.pbPoolBase + blockBytes l)
    (hsz : redHeapHdrSize + x.2 ≤ sz) : ∃ bs' l' mid r' p n,
      bs = l' ++ mid ++ r' ∧ mid ≠ [] ∧ p = h.gHI.pbPoolBase + blockBytes l' ∧ n = blockBytes mid ∧
      bs' = l' ++ [⟨n, false⟩] ++ r' ∧ p ≤ q ∧ q + sz ≤ p + n ∧
      h.mergedBlock q = (p, n) ∧ (heapBlockFree q h).1 = p ∧
      (heapBlockFree q h).2.Holds bs' (L.erase x) ∧ h.Spares (heapBlockFree q h).2 L := by
  subst hbs
  obtain ⟨l', lm, rm, r', n, p, rfl, rfl, hlm, hrm, hn, hp, hmerged, hfst, hsound, honly, hpool⟩ :=
    hh.sound.blockFree hq
  have hle := hh.sound.tiled.bytes
  simp only [blockBytes_append, blockBytes_cons, blockBytes_nil] at hle hq hn
  have hpos := redHeapHdrSize_pos
  have hassoc :
      l' ++ lm ++ [⟨sz, true⟩] ++ (rm ++ r') = l' ++ (lm ++ [⟨sz, true⟩] ++ rm) ++ r' := by
    simp
  have hmid : ∀ q' k, BlockAt (h.gHI.pbPoolBase + blockBytes l') (lm ++ [⟨sz, true⟩] ++ rm) q'
      ⟨k, true⟩ → q' = q := fun q' k hb => by
    rw [blockAt_append, blockAt_append, blockAt_cons] at hb
    rcases hb with (hb | ⟨hb, -⟩ | hb) | hb
    · exact absurd (hlm _ hb.mem) (by simp)
    · omega
    · exact absurd hb not_blockAt_nil
    · exact absurd (hrm _ hb.mem) (by simp)
  have hkeep : ∀ q' k, BlockAt h.gHI.pbPoolBase (l' ++ lm ++ [⟨sz, true⟩] ++ (rm ++ r')) q'
      ⟨k, true⟩ → q' ≠ q → BlockAt h.gHI.pbPoolBase (l' ++ [⟨n, false⟩] ++ r') q' ⟨k, true⟩ ∧
        (q' + k ≤ p ∨ p + n ≤ q') := fun q' k hb hne => by
    rw [hassoc] at hb
    have := hb.keep [⟨n, false⟩] (fun h => hne (hmid q' k h)) (by
      simp only [blockBytes_append, blockBytes_cons, blockBytes_nil]
      omega)
    refine ⟨this.1, ?_⟩
    have h2 := this.2
    simp only [blockBytes_append, blockBytes_cons, blockBytes_nil] at h2
    omega
  refine ⟨_, l', lm ++ [⟨sz, true⟩] ++ rm, r', p, n, hassoc, by simp, hp, ?_,
    rfl, by omega, by omega,
    hmerged, hfst, ⟨hsound, ?_, hh.distinct.sublist List.erase_sublist⟩, ?_⟩
  · simp only [blockBytes_append, blockBytes_cons, blockBytes_nil]
    omega
  · rw [hpool.1]
    intro y hy
    obtain ⟨hyL, hne⟩ := hh.ne_of_erase hx hy
    obtain ⟨q', k, h1, h2, h3⟩ := hh.held y hyL
    exact ⟨q', k, h1, (hkeep q' k h2 (by omega)).1, h3⟩
  · refine honly.spares hpool (fun p' hp' => ?_) fun y hy => ?_
    · simp only [List.mem_cons, List.not_mem_nil, or_false] at hp'
      omega
    · obtain ⟨q', k, h1, h2, h3⟩ := hh.held y hy
      by_cases hqq : q' = q
      · subst hqq
        have hbq : BlockAt h.gHI.pbPoolBase (l' ++ lm ++ [⟨sz, true⟩] ++ (rm ++ r'))
          q' ⟨sz, true⟩ :=
          ⟨l' ++ lm, rm ++ r', by simp, by rw [blockBytes_append]; omega⟩
        have hsame : sz = k := by
          rcases hbq.apart hh.sound.tiled.size_pos h2 with ⟨-, h⟩ | h | h
          · cases h
            rfl
          · dsimp only at h
            omega
          · dsimp only at h
            omega
        refine ⟨q', sz, h1, by omega, fun p' hp' => ?_⟩
        simp only [List.mem_cons, List.not_mem_nil, or_false] at hp'
        omega
      · refine ⟨q', k, h1, h3, fun p' hp' => ?_⟩
        have := (hkeep q' k h2 hqq).2
        simp only [List.mem_cons, List.not_mem_nil, or_false] at hp'
        omega

/-- **Copying into a free block.** -/
lemma Heap.Holds.copy (hh : h.Holds bs L) (hb : BlockAt h.gHI.pbPoolBase bs p ⟨sz, false⟩)
    (hn : redHeapHdrSize + n ≤ sz) (src : ℕ) :
    (h.copy (redHeapHdrToMem p) src n).Holds bs L ∧
      h.Spares (h.copy (redHeapHdrToMem p) src n) L := by
  have hout : ∀ a, a < p + redHeapHdrSize ∨ p + sz ≤ a →
      (h.copy (redHeapHdrToMem p) src n).mem a = h.mem a := fun a ha => by
    refine Memory.move_of_notMem ?_
    unfold redHeapHdrToMem
    omega
  have h1 := hb.ge
  have h2 := hb.le
  have h3 := hh.sound.tiled.bytes
  dsimp only at h2
  refine ⟨⟨⟨hh.sound.tiled.of_body hb rfl hout, hh.sound.apart⟩, hh.held, hh.distinct⟩, ⟨rfl, rfl⟩,
    fun x hx k hk => ?_, fun a ha => hout a (by omega)⟩
  obtain ⟨q', m', g1, g2, g3⟩ := hh.held x hx
  apply hout
  rcases hb.apart hh.sound.tiled.size_pos g2 with ⟨-, h⟩ | h | h
  · cases h
  · dsimp only at h
    omega
  · dsimp only at h
    omega

/-! ## The calls -/

/-- What a request leaves: nothing is changed, or there is one more allocation. -/
def Heap.Granted (h h' : Heap) (L : List (ℕ × ℕ)) (p n : ℕ) : Prop :=
  (p = 0 ∧ h' = h) ∨ (p ≠ 0 ∧ h.Spares h' L ∧ ∃ bs, h'.Holds bs ((p, n) :: L))

/-- A pool has at most as many blocks as bytes. -/
lemma Heap.Tiled.fuel (ht : h.Tiled bs) : bs.length + 2 ≤ h.gHI.ulPoolSize + 1 := by
  have h1 := length_le_blockBytes fun b hb => (ht.block b hb).1
  have h2 := ht.bytes
  have h3 := redHeapHdrSize_pos
  omega

/-- **`RedHeapAlloc()`**. -/
theorem Heap.Holds.alloc (hh : h.Holds bs L) (hn : SizeFits n) : ∃ p h',
    redHeapAlloc n h = (.ok p, h') ∧ h.Granted h' L p n := by
  have ht := hh.sound.tiled
  have hpos := redHeapHdrSize_pos
  obtain ⟨best, hrun, hbest⟩ := ht.search false (requestedSize n) (0, 0)
    (fun h => by cases h) (h.gHI.ulPoolSize + 1) [] bs (0, 0) rfl ht.fuel (.inl rfl)
  simp only [blockBytes_nil, Nat.add_zero] at hrun
  unfold redHeapAlloc
  rw [Op.get_bind_run, hrun, Op.bind_ok (Op.ofExcept_run _ h)]
  rcases hbest with rfl | ⟨l, sz, r, hbs, rfl, hreq⟩
  · exact ⟨0, h, rfl, .inl ⟨rfl, rfl⟩⟩
  · have hsz := ht.size_pos ⟨sz, false⟩ (by rw [hbs]; simp)
    dsimp only at hsz
    obtain ⟨h1, h2, -⟩ := hh.blockAlloc hbs rfl hn hreq
    refine ⟨_, _, if_pos hsz ▸ rfl, .inr ⟨?_, h2, h1⟩⟩
    unfold redHeapHdrToMem
    omega

lemma Heap.Holds.erase (hh : h.Holds bs L) (x : ℕ × ℕ) : h.Holds bs (L.erase x) :=
  ⟨hh.sound, fun y hy => hh.held y (List.mem_of_mem_erase hy),
    hh.distinct.sublist List.erase_sublist⟩

/-- The block of an allocation. -/
lemma Heap.Holds.block (hh : h.Holds bs L) (hx : x ∈ L) : ∃ l sz r,
    bs = l ++ [⟨sz, true⟩] ++ r ∧ redHeapMemToHdr x.1 = h.gHI.pbPoolBase + blockBytes l ∧
      x.1 = redHeapMemToHdr x.1 + redHeapHdrSize ∧ redHeapHdrSize + x.2 ≤ sz ∧
      h.isAlloc (redHeapMemToHdr x.1) = true := by
  obtain ⟨q, sz, hq, ⟨l, r, hbs, hql⟩, hsz⟩ := hh.held x hx
  have hmem : redHeapMemToHdr x.1 = q := by
    unfold redHeapMemToHdr
    omega
  have hbs' : bs = l ++ [⟨sz, true⟩] ++ r := by rw [hbs, List.append_assoc, List.singleton_append]
  have hnext := Heap.Tiled.next (hbs' ▸ hh.sound.tiled) hql
  rw [hmem]
  exact ⟨l, sz, r, hbs', hql, hq, hsz, hnext.2.2.2.2.1.2 rfl⟩

/-- **`RedHeapFree()`**. -/
theorem Heap.Holds.free (hh : h.Holds bs L) (hx : x ∈ L) : ∃ h',
    redHeapFree x.1 h = (.ok (), h') ∧ h.Spares h' L ∧ ∃ bs', h'.Holds bs' (L.erase x) := by
  obtain ⟨l, sz, r, hbs, hq, hxq, hsz, halloc⟩ := hh.block hx
  unfold redHeapFree
  rw [Op.get_bind_run]
  by_cases hout : h.isOutside x.1 = true
  · rw [if_pos hout]
    exact ⟨h, rfl, .refl h L, bs, hh.erase x⟩
  · rw [if_neg hout, if_neg (by simp [halloc])]
    obtain ⟨bs', -, -, -, -, -, -, -, -, -, -, -, -, -, -, hh', hs⟩ :=
      hh.blockFree hx hxq hbs hq hsz
    exact ⟨_, rfl, hs, bs', hh'⟩

/-- Where the block that is merged begins. -/
lemma Heap.mergedBlock_fst (h : Heap) (q : ℕ) :
    (h.mergedBlock q).1 = q ∨ (h.mergedBlock q).1 = (h.hdr q).pPrev := by
  unfold Heap.mergedBlock
  dsimp only
  split_ifs
  · exact .inr rfl
  · exact .inr rfl
  · exact .inl rfl
  · exact .inl rfl

/-- A free block that is where the merged one would begin is part of it. -/
lemma Heap.Holds.merged_ge {l0 r0 : List HeapBlock} (hh : h.Holds bs L)
    (hbs : bs = l ++ [⟨sz, true⟩] ++ r) (hq : q = h.gHI.pbPoolBase + blockBytes l)
    (hbs' : bs = l' ++ [⟨m, false⟩] ++ r')
    (hplace : h.gHI.pbPoolBase + blockBytes l' = q ∨
      h.gHI.pbPoolBase + blockBytes l' = (h.hdr q).pPrev)
    (hbs0 : bs = l0 ++ mid ++ r0) (hmid : mid ≠ [])
    (hmerged : (h.mergedBlock q).1 = h.gHI.pbPoolBase + blockBytes l0) : m ≤ blockBytes mid := by
  have ht := hh.sound.tiled
  have hpos := ht.base_pos
  have hfree : h.isFree (h.gHI.pbPoolBase + blockBytes l') = true :=
    (Heap.Tiled.next (hbs' ▸ ht) rfl).2.2.2.2.2.2 rfl
  have hprev : h.gHI.pbPoolBase + blockBytes l' = (h.hdr q).pPrev := by
    refine hplace.resolve_left fun heq => ?_
    rw [heq, (Heap.Tiled.next (hbs ▸ ht) hq).2.2.2.2.2] at hfree
    cases hfree
  have hfst : (h.mergedBlock q).1 = h.gHI.pbPoolBase + blockBytes l' := by
    unfold Heap.mergedBlock
    dsimp only
    rw [← hprev, if_pos ⟨by omega, hfree⟩]
  have hlr : l0 ++ (mid ++ r0) = l' ++ (⟨m, false⟩ :: r') := by
    rw [← List.append_assoc, ← hbs0, hbs', List.append_assoc, List.singleton_append]
  obtain ⟨-, hr⟩ := append_inj_of_blockBytes (by
    rw [← List.append_assoc, ← hbs0]
    exact ht.size_pos) hlr (by omega)
  rcases mid with _ | ⟨c, mid⟩
  · exact absurd rfl hmid
  · cases hr
    rw [blockBytes_cons]
    exact Nat.le_add_right _ _

/-- Reallocating in place, or where the block before begins. -/
lemma Heap.Holds.reallocMerged (hh : h.Holds bs L) (hx : x ∈ L) (hn : SizeFits n)
    (hbs : bs = l ++ [⟨sz, true⟩] ++ r) (hq : redHeapMemToHdr x.1 = h.gHI.pbPoolBase + blockBytes l)
    (hxq : x.1 = redHeapMemToHdr x.1 + redHeapHdrSize) (hsz : redHeapHdrSize + x.2 ≤ sz)
    (hreq : requestedSize n ≤ (h.mergedBlock (redHeapMemToHdr x.1)).2) :
    let pBest := (heapBlockFree (redHeapMemToHdr x.1) h).1
    let h1 := (heapBlockFree (redHeapMemToHdr x.1) h).2
    let h2 := if redHeapHdrToMem pBest ≠ redHeapHdrToMem (redHeapMemToHdr x.1) then
      h1.copy (redHeapHdrToMem pBest) (redHeapHdrToMem (redHeapMemToHdr x.1))
        (min n (sub32 (h.hdr (redHeapMemToHdr x.1)).ulBlockSize redHeapHdrSize)) else h1
    let h3 := heapBlockAlloc pBest (requestedSize n) h2
    redHeapHdrToMem pBest ≠ 0 ∧ h.Spares h3 (L.erase x) ∧
      (∀ k, k < min x.2 n → h3.mem (redHeapHdrToMem pBest + k) = h.mem (x.1 + k)) ∧
      ∃ bs', h3.Holds bs' ((redHeapHdrToMem pBest, n) :: L.erase x) := by
  have hpos := redHeapHdrSize_pos
  obtain ⟨bs', l', mid, r', p, m, -, -, hp, -, hbs', hpq, hqp, hmerged, hfst, hh1, hs1⟩ :=
    hh.blockFree hx hxq hbs hq hsz
  have hbytes := hh.sound.tiled.bytes
  have hlt := hh.sound.tiled.size_lt
  rw [hbs] at hbytes
  simp only [blockBytes_append, blockBytes_cons, blockBytes_nil] at hbytes
  have hsize : (h.hdr (redHeapMemToHdr x.1)).ulBlockSize = sz :=
    (Heap.Tiled.next (hbs ▸ hh.sound.tiled) hq).1
  rw [hmerged] at hreq
  dsimp only at hreq ⊢
  rw [hfst, hsize, sub32_of_le (show redHeapHdrSize ≤ sz by omega) (by omega)]
  generalize redHeapMemToHdr x.1 = q at *
  set h1 := (heapBlockFree q h).2 with hh1def
  set k0 := min n (sz - redHeapHdrSize) with hk0
  have hbase : h1.gHI.pbPoolBase = h.gHI.pbPoolBase := hs1.pool.1
  have hbp : BlockAt h1.gHI.pbPoolBase bs' p ⟨m, false⟩ :=
    ⟨l', r', by rw [hbs', List.append_assoc, List.singleton_append], by rw [hbase]; exact hp⟩
  -- The data is where the block begins now.
  have hstep : ∃ h2, (if redHeapHdrToMem p ≠ redHeapHdrToMem q then
      h1.copy (redHeapHdrToMem p) (redHeapHdrToMem q) k0 else h1) = h2 ∧ h2.Holds bs' (L.erase x) ∧
      h1.Spares h2 (L.erase x) ∧
      ∀ k, k < min x.2 n → h2.mem (redHeapHdrToMem p + k) = h1.mem (redHeapHdrToMem q + k) := by
    by_cases hne : redHeapHdrToMem p ≠ redHeapHdrToMem q
    · rw [if_pos hne]
      obtain ⟨c1, c2⟩ := hh1.copy hbp (n := k0) (by omega) (redHeapHdrToMem q)
      exact ⟨_, rfl, c1, c2, fun k hk => Memory.move_add (by omega)⟩
    · rw [if_neg hne]
      rw [ne_eq, not_not] at hne
      exact ⟨_, rfl, hh1, .refl _ _, fun k _ => by rw [hne]⟩
  obtain ⟨h2, hrun2, hh2, hs2, hdata2⟩ := hstep
  rw [hrun2]
  have hbase2 : h2.gHI.pbPoolBase = h.gHI.pbPoolBase := hs2.pool.1.trans hbase
  obtain ⟨a1, a2, a3⟩ := hh2.blockAlloc hbs' (q := p) (by rw [hbase2]; exact hp) hn hreq
  refine ⟨?_, ?_, fun k hk => ?_, a1⟩
  · unfold redHeapHdrToMem
    omega
  · exact ((hs1.mono fun y hy => List.mem_of_mem_erase hy).trans hs2).trans a2
  · rw [a3 k (by omega), hdata2 k hk]
    have := hs1.data x hx k (by omega)
    rw [hxq] at this
    rw [hxq]
    exact this

/-- Reallocating elsewhere. -/
lemma Heap.Holds.reallocMoved (hh : h.Holds bs L) (hx : x ∈ L) (hn : SizeFits n)
    (hbs : bs = l ++ [⟨sz, true⟩] ++ r) (hq : redHeapMemToHdr x.1 = h.gHI.pbPoolBase + blockBytes l)
    (hxq : x.1 = redHeapMemToHdr x.1 + redHeapHdrSize) (hsz : redHeapHdrSize + x.2 ≤ sz)
    (hbs' : bs = l' ++ [⟨m, false⟩] ++ r') (hp : p = h.gHI.pbPoolBase + blockBytes l')
    (hreq : requestedSize n ≤ m) :
    let h1 := h.copy (redHeapHdrToMem p) (redHeapHdrToMem (redHeapMemToHdr x.1))
      (min n (sub32 (h.hdr (redHeapMemToHdr x.1)).ulBlockSize redHeapHdrSize))
    let h2 := heapBlockAlloc p (requestedSize n) h1
    let h3 := (heapBlockFree (redHeapMemToHdr x.1) h2).2
    redHeapHdrToMem p ≠ 0 ∧ h.Spares h3 (L.erase x) ∧
      (∀ k, k < min x.2 n → h3.mem (redHeapHdrToMem p + k) = h.mem (x.1 + k)) ∧
      ∃ bs', h3.Holds bs' ((redHeapHdrToMem p, n) :: L.erase x) := by
  have hpos := redHeapHdrSize_pos
  have hfit := hn.requestedSize
  have hbytes := hh.sound.tiled.bytes
  have hlt := hh.sound.tiled.size_lt
  rw [hbs] at hbytes
  simp only [blockBytes_append, blockBytes_cons, blockBytes_nil] at hbytes
  have hsize : (h.hdr (redHeapMemToHdr x.1)).ulBlockSize = sz :=
    (Heap.Tiled.next (hbs ▸ hh.sound.tiled) hq).1
  dsimp only
  rw [hsize, sub32_of_le (show redHeapHdrSize ≤ sz by omega) (by omega)]
  set k0 := min n (sz - redHeapHdrSize) with hk0
  have hbp : BlockAt h.gHI.pbPoolBase bs p ⟨m, false⟩ :=
    ⟨l', r', by rw [hbs', List.append_assoc, List.singleton_append], hp⟩
  obtain ⟨c1, c2⟩ := hh.copy hbp (n := k0) (by omega) (redHeapHdrToMem (redHeapMemToHdr x.1))
  obtain ⟨⟨bs2, a1⟩, a2, a3⟩ := c1.blockAlloc hbs' (q := p) (by rw [c2.pool.1]; exact hp) hn hreq
  -- The old allocation is still there.
  have hx2 : x ∈ (redHeapHdrToMem p, n) :: L := List.mem_cons_of_mem _ hx
  obtain ⟨l2, sz2, r2, hbs2, hq2, -, hsz2, -⟩ := a1.block hx2
  obtain ⟨bs3, -, -, -, -, -, -, -, -, -, -, -, -, -, -, f1, f2⟩ :=
    a1.blockFree hx2 hxq hbs2 hq2 hsz2
  have hne : (redHeapHdrToMem p, n) ≠ x := fun heq => by
    have := (List.pairwise_cons.1 a1.distinct).1 x hx
    rw [← heq] at this
    exact this rfl
  rw [List.erase_cons_tail (by simpa using hne)] at f1
  refine ⟨?_, ?_, fun k hk => ?_, bs3, f1⟩
  · unfold redHeapHdrToMem
    omega
  · have h1 : h.Spares _ (L.erase x) := (c2.trans a2).mono fun y hy => List.mem_of_mem_erase hy
    exact h1.trans (f2.mono fun y hy => List.mem_cons_of_mem _ (List.mem_of_mem_erase hy))
  · rw [f2.data _ List.mem_cons_self k (by dsimp only; omega), a3 k (by omega)]
    have hmove : (h.copy (redHeapHdrToMem p) (redHeapHdrToMem (redHeapMemToHdr x.1)) k0).mem
        (redHeapHdrToMem p + k) = h.mem (redHeapHdrToMem (redHeapMemToHdr x.1) + k) :=
      Memory.move_add (by omega)
    rw [hmove]
    unfold redHeapHdrToMem
    rw [← hxq]

/-- **`RedHeapRealloc()`**, to a size other than zero. -/
theorem Heap.Holds.realloc (hh : h.Holds bs L) (hx : x ∈ L) (hn : SizeFits n) (hn0 : n ≠ 0) :
    ∃ p h', redHeapRealloc x.1 n h = (.ok p, h') ∧ h.Granted h' (L.erase x) p n ∧
      (p ≠ 0 → ∀ k, k < min x.2 n → h'.mem (p + k) = h.mem (x.1 + k)) := by
  have ht := hh.sound.tiled
  have hnull : h.Granted h (L.erase x) 0 n ∧
      ((0 : ℕ) ≠ 0 → ∀ k, k < min x.2 n → h.mem (0 + k) = h.mem (x.1 + k)) :=
    ⟨.inl ⟨rfl, rfl⟩, fun h => absurd rfl h⟩
  obtain ⟨l, sz, r, hbs, hq, hxq, hsz, halloc⟩ := hh.block hx
  obtain ⟨-, l0, mid, r0, p0, m, hbs0, hmid, hp0, hm, -, -, -, hmerged, -⟩ :=
    hh.blockFree hx hxq hbs hq hsz
  unfold redHeapRealloc
  rw [if_neg hn0, Op.get_bind_run]
  by_cases hout : h.isOutside x.1 = true
  · rw [if_pos hout]
    exact ⟨0, h, rfl, hnull⟩
  rw [if_neg hout, if_neg (by simp [halloc]), hmerged]
  obtain ⟨best, hrun, hbest⟩ := ht.search true (requestedSize n)
    (if m < requestedSize n then (0, 0) else (p0, m)) (fun _ => by
      by_cases hlt : m < requestedSize n
      · exact .inl (if_pos hlt)
      · exact .inr ⟨l0, mid, r0, hbs0, hmid, by rw [if_neg hlt, hp0, hm]⟩)
    (h.gHI.ulPoolSize + 1) [] bs _ rfl ht.fuel (.inl rfl)
  simp only [blockBytes_nil, Nat.add_zero] at hrun
  rw [hrun, Op.bind_ok (Op.ofExcept_run _ h)]
  by_cases h0 : best.2 > 0
  swap
  · rw [if_neg h0]
    exact ⟨0, h, rfl, hnull⟩
  rw [if_pos h0]
  by_cases hplace : best.1 = redHeapMemToHdr x.1 ∨ best.1 = (h.hdr (redHeapMemToHdr x.1)).pPrev
  · -- The merged block is large enough.
    have hreq : requestedSize n ≤ m := by
      rcases hbest with rfl | ⟨lb, szb, rb, hbsb, rfl, hreq⟩
      · by_contra hlt
        rw [if_pos (by omega)] at h0
        exact absurd h0 (lt_irrefl 0)
      · refine hreq.trans (hh.merged_ge hbs hq hbsb ?_ hbs0 hmid (by rw [hmerged, hp0])
          |>.trans hm.ge)
        exact hplace
    rw [if_pos hplace]
    have hgo := hh.reallocMerged hx hn hbs hq hxq hsz (by rw [hmerged]; exact hreq)
    exact ⟨_, _, rfl, .inr ⟨hgo.1, hgo.2.1, hgo.2.2.2⟩, fun _ => hgo.2.2.1⟩
  · rcases hbest with rfl | ⟨lb, szb, rb, hbsb, rfl, hreq⟩
    · by_cases hlt : m < requestedSize n
      · rw [if_pos hlt] at h0
        exact absurd h0 (lt_irrefl 0)
      · rw [if_neg hlt] at hplace
        have := h.mergedBlock_fst (redHeapMemToHdr x.1)
        rw [hmerged] at this
        exact absurd this hplace
    · rw [if_neg hplace]
      have hgo := hh.reallocMoved hx hn hbs hq hxq hsz hbsb rfl hreq
      exact ⟨_, _, rfl, .inr ⟨hgo.1, hgo.2.1, hgo.2.2.2⟩, fun _ => hgo.2.2.1⟩

lemma Heap.Granted.weaken (hg : h.Granted h' L p n) (hm : m ≤ n) : h.Granted h' L p m := by
  refine hg.imp id fun ⟨hp, hs, bs, hh⟩ => ⟨hp, hs, bs, hh.sound, fun x hx => ?_, ?_⟩
  · rcases List.mem_cons.1 hx with rfl | hx
    · obtain ⟨q, k, h1, h2, h3⟩ := hh.held (p, n) List.mem_cons_self
      exact ⟨q, k, h1, h2, by dsimp only at h3 ⊢; omega⟩
    · exact hh.held x (List.mem_cons_of_mem _ hx)
  · obtain ⟨h1, h2⟩ := List.pairwise_cons.1 hh.distinct
    exact List.pairwise_cons.2 ⟨h1, h2⟩

/-- Setting the bytes of an allocation leaves the others alone. -/
lemma Heap.Holds.fill (hh : h.Holds bs ((p, n) :: L)) (v : UInt8) :
    Heap.Holds { h with mem := h.mem.fill p v n } bs ((p, n) :: L) ∧
      h.Spares { h with mem := h.mem.fill p v n } L := by
  obtain ⟨q, m, hq, hb, hm⟩ := hh.held (p, n) List.mem_cons_self
  dsimp only at hq hm
  have hout : ∀ a, a < p ∨ p + n ≤ a → h.mem.fill p v n a = h.mem a := fun a ha =>
    Memory.fill_of_notMem ha
  have hin := hh.inside List.mem_cons_self
  dsimp only at hin
  refine ⟨⟨⟨hh.sound.tiled.of_body hb rfl fun a ha => hout a ?_, hh.sound.apart⟩, hh.held,
    hh.distinct⟩, ⟨rfl, rfl⟩, fun x hx k hk => hout _ ?_, fun a ha => hout a ?_⟩
  · dsimp only at ha
    omega
  · have := (List.pairwise_cons.1 hh.disjoint).1 x hx
    dsimp only at this
    omega
  · omega

/-- **`RedHeapCalloc()`**. -/
theorem Heap.Holds.calloc (hh : h.Holds bs L) {ulElements ulElementSize : ℕ}
    (hn : UINT32_MAX < alignUp ulElementSize * ulElements ∨
      SizeFits (alignUp ulElementSize * ulElements)) : ∃ p h',
    redHeapCalloc ulElements ulElementSize h = (.ok p, h') ∧
      h.Granted h' L p (ulElements * ulElementSize) ∧
      (p ≠ 0 → ∀ k, k < ulElements * ulElementSize → h'.mem (p + k) = 0) := by
  have hle := le_alignUp ulElementSize
  have hmul : ulElements * ulElementSize ≤ alignUp ulElementSize * ulElements := by
    rw [Nat.mul_comm]
    exact Nat.mul_le_mul_right _ hle
  have hnull : h.Granted h L 0 (ulElements * ulElementSize) ∧
      ((0 : ℕ) ≠ 0 → ∀ k, k < ulElements * ulElementSize → h.mem (0 + k) = 0) :=
    ⟨.inl ⟨rfl, rfl⟩, fun h => absurd rfl h⟩
  unfold redHeapCalloc
  dsimp only
  split_ifs with hover
  · exact ⟨0, h, rfl, hnull⟩
  rw [not_or, not_and, not_lt, not_lt] at hover
  obtain ⟨h1, h2⟩ := hover
  have halign : u32 (alignUp ulElementSize) = alignUp ulElementSize := by
    have hlt := alignUp_lt ulElementSize
    have h8 : ptrSize ≤ 8 := by
      rcases ptrSize_mem with h | h <;> omega
    unfold u32 at h1 ⊢
    omega
  rw [halign] at h2 ⊢
  have hprod : alignUp ulElementSize * ulElements ≤ UINT32_MAX := by
    rcases Nat.eq_zero_or_pos ulElements with rfl | hpos
    · rw [Nat.mul_zero]
      exact Nat.zero_le _
    · exact (Nat.le_div_iff_mul_le hpos).1 (h2 hpos)
  rw [u32_of_le hprod]
  obtain ⟨p, h', hrun, hg⟩ := hh.alloc (hn.resolve_left (by omega))
  rw [Op.bind_ok hrun]
  rcases hg with ⟨rfl, rfl⟩ | ⟨hp, hsp, bs', hh'⟩
  · rw [if_neg (by simp)]
    exact ⟨0, h', rfl, hnull⟩
  · rw [if_pos hp]
    obtain ⟨f1, f2⟩ := hh'.fill 0
    refine ⟨p, _, rfl, Heap.Granted.weaken (.inr ⟨hp, hsp.trans f2, bs', f1⟩) hmul,
      fun _ k hk => ?_⟩
    exact Memory.fill_of_mem (by omega) (by omega)

end

end RelianceEdge
