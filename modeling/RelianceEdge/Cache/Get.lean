import RelianceEdge.Cache.Inv

set_option relaxedAutoImplicit false
set_option autoImplicit false
set_option linter.unusedSectionVars false

/-!
# Acquiring and releasing buffers

`RedBufferGet()` and the functions that take one referenced buffer.

## Main definitions

* `Touched` — the cache may have changed for some blocks, nothing else has.
* `Repurposed` — an unreferenced buffer has been given to a block.

## Main results

* `redBufferGet_ok` — acquiring a buffer succeeds while fewer references are held than there are
  buffers.
-/

namespace RelianceEdge

variable [RedConf]

open RedConf

/-! ## Acquiring a buffer -/

/-- The state `s'` differs from `s` in the contents of the cache for the blocks `D` at most, and
in nothing that is stored or referenced in `R`. -/
structure Touched (s s' : FS) (R : List ℕ) (D : ℕ → Prop) : Prop where
  rest : s'.core = s.core ∧ s'.vol = s.vol ∧ s'.now = s.now ∧ s'.disk = s.disk ∧
    s'.history = s.history ∧ s'.ulDevBlocks = s.ulDevBlocks ∧ s'.bSectorSizeP2 = s.bSectorSizeP2
  peek : ∀ b, ¬ D b → s'.peek b = s.peek b
  readable : ∀ b t, ¬ D b → s.Readable b t → s'.Readable b t
  held : ∀ i ∈ R, s.KeepsBuf s' i

/-- The state `s'` has the unreferenced buffer `i` of `s` repurposed for a block, with one
reference to it. -/
structure Repurposed (s s' : FS) (i b : ℕ) (t : BufType) (fDirty : Bool) (nd : Node) : Prop where
  rest : s'.core = s.core ∧ s'.vol = s.vol ∧ s'.now = s.now ∧ s'.disk = s.disk ∧
    s'.history = s.history ∧ s'.ulDevBlocks = s.ulDevBlocks ∧ s'.bSectorSizeP2 = s.bSectorSizeP2
  head : s'.buf.aHead = Function.update s.buf.aHead i ⟨b, 1, fDirty, t⟩
  content : s'.buf.pbBlkBuf = Function.update s.buf.pbBlkBuf i nd
  perm : s'.buf.abMRU.Perm s.buf.abMRU
  used : s'.buf.uNumUsed = s.buf.uNumUsed + 1

section

variable {s s' : FS} {prot own : ℕ → Prop} {R : List ℕ} {X : ℕ → Prop} {i b : ℕ} {t : BufType}
  {fDirty : Bool} {nd : Node}

lemma Repurposed.head_of_ne (h : Repurposed s s' i b t fDirty nd) {j : ℕ} (hj : j ≠ i) :
    s'.buf.aHead j = s.buf.aHead j := by rw [h.head, Function.update_of_ne hj]

lemma Repurposed.head_self (h : Repurposed s s' i b t fDirty nd) :
    s'.buf.aHead i = ⟨b, 1, fDirty, t⟩ := by rw [h.head, Function.update_self]

lemma Repurposed.content_of_ne (h : Repurposed s s' i b t fDirty nd) {j : ℕ} (hj : j ≠ i) :
    s'.buf.pbBlkBuf j = s.buf.pbBlkBuf j := by rw [h.content, Function.update_of_ne hj]

lemma Repurposed.content_self (h : Repurposed s s' i b t fDirty nd) :
    s'.buf.pbBlkBuf i = nd := by rw [h.content, Function.update_self]

lemma Repurposed.okFor (h : Repurposed s s' i b t fDirty nd) (t' : BufType) (d : DiskBlock) :
    s'.okFor t' d = s.okFor t' d := by
  simp only [FS.okFor, h.rest.2.1]

/-- The invariant after repurposing. -/
lemma Repurposed.inv (h : Repurposed s s' i b t fDirty nd) (hi : BufInv s prot own R X)
    (hlt : i < bufferCount) (hn : i ∉ R) (hb : b < s.vol.ulBlockCount)
    (hf : s.buf.find b = none) (hbytes : t = .data → nd.isBytes = true)
    (hclean : fDirty = false → s.okFor t (s.disk b) = true ∧ (s.disk b).node = nd)
    (hdirty : fDirty = true → ¬ prot b) (hown : own b) : BufInv s' prot own (i :: R) X := by
  have hbv := hi.valid_ne hb
  have hnone := (BufCtx.find_eq_none_iff hbv).1 hf
  have hblk : ∀ j, j ≠ i → s'.buf.blk j = s.buf.blk j := fun j hj => by
    simp only [BufCtx.blk, h.head_of_ne hj]
  have hblki : s'.buf.blk i = b := by simp only [BufCtx.blk, h.head_self]
  refine ⟨by rw [h.rest.2.1]; exact hi.count_le, h.perm.trans hi.perm, ?_, ?_, ?_, ?_, ?_, ?_, ?_,
    ?_, ?_, fun j hj => List.mem_cons_of_mem _ (hi.exempt j hj), ?_⟩
  · intro j k hj hk hjk hv
    by_cases h1 : j = i <;> by_cases h2 : k = i
    · rw [h1, h2]
    · rw [h1, hblki, hblk k h2] at hjk
      exact absurd hjk.symm (hnone k hk)
    · rw [h2, hblki, hblk j h1] at hjk
      exact absurd hjk (hnone j hj)
    · rw [hblk j h1, hblk k h2] at hjk
      rw [hblk j h1] at hv
      exact hi.unique j k hj hk hjk hv
  · intro j hj
    by_cases h1 : j = i
    · subst h1
      rw [h.head_self, List.count_cons_self, List.count_eq_zero_of_not_mem hn]
    · rw [h.head_of_ne h1, List.count_cons_of_ne (Ne.symm h1)]
      exact hi.refs j hj
  · intro j hj
    rcases List.mem_cons.1 hj with rfl | hj
    · exact hlt
    · exact hi.refs_lt j hj
  · intro j hj
    by_cases h1 : j = i
    · rw [h1, hblki]; exact hbv
    · rw [hblk j h1]
      exact hi.held j ((List.mem_cons.1 hj).resolve_left h1)
  · rw [h.used, hi.used, List.toFinset_cons, Finset.card_insert_of_notMem (by simpa using hn)]
  · intro j hj hv
    rw [h.rest.2.1]
    by_cases h1 : j = i
    · rw [h1, hblki]; exact hb
    · rw [hblk j h1] at hv ⊢
      exact hi.lt j hj hv
  · intro j hj hv ht
    by_cases h1 : j = i
    · subst h1
      rw [h.head_self] at ht
      rw [h.content_self]
      exact hbytes ht
    · rw [hblk j h1] at hv
      rw [h.head_of_ne h1] at ht
      rw [h.content_of_ne h1]
      exact hi.bytes j hj hv ht
  · intro j hj hv hc hx
    rw [h.okFor, h.rest.2.2.2.1]
    by_cases h1 : j = i
    · subst h1
      rw [h.head_self] at hc ⊢
      rw [h.content_self, hblki]
      exact hclean hc
    · rw [hblk j h1] at hv ⊢
      rw [h.head_of_ne h1] at hc ⊢
      rw [h.content_of_ne h1]
      exact hi.clean j hj hv hc hx
  · intro j hj hv hc
    by_cases h1 : j = i
    · subst h1
      rw [h.head_self] at hc
      rw [hblki]
      exact hdirty hc
    · rw [hblk j h1] at hv ⊢
      rw [h.head_of_ne h1] at hc
      exact hi.dirty j hj hv hc
  · intro j hj hv
    by_cases h1 : j = i
    · rw [h1, hblki]; exact hown
    · rw [hblk j h1] at hv ⊢
      exact hi.owned j hj hv

/-- Repurposing a buffer whose contents the device has changes the contents of no other block. -/
lemma Repurposed.touched (h : Repurposed s s' i b t fDirty nd) (hi : BufInv s prot own R X)
    (hlt : i < bufferCount) (hn : i ∉ R) (hb : b < s.vol.ulBlockCount)
    (hf : s.buf.find b = none)
    (hdisk : s.buf.blk i ≠ BBLK_INVALID →
      s.okFor (s.buf.aHead i).type (s.disk (s.buf.blk i)) = true ∧
        (s.disk (s.buf.blk i)).node = s.buf.pbBlkBuf i) :
    Touched s s' R (· = b) := by
  have hbv := hi.valid_ne hb
  have hnone := (BufCtx.find_eq_none_iff hbv).1 hf
  have hblk : ∀ j, j ≠ i → s'.buf.blk j = s.buf.blk j := fun j hj => by
    simp only [BufCtx.blk, h.head_of_ne hj]
  have hblki : s'.buf.blk i = b := by simp only [BufCtx.blk, h.head_self]
  have hfind : ∀ b', b' ≠ b → b' ≠ s.buf.blk i → s'.buf.find b' = s.buf.find b' :=
    fun b' h1 h2 => BufCtx.find_congr fun j hj => by
      by_cases hji : j = i
      · subst hji
        rw [hblki]
        exact ⟨fun h' => absurd h'.symm h1, fun h' => absurd h'.symm h2⟩
      · rw [hblk j hji]
  have hold : s.buf.blk i ≠ BBLK_INVALID → s'.buf.find (s.buf.blk i) = none := fun hv => by
    rw [BufCtx.find_eq_none_iff hv]
    intro j hj
    by_cases hji : j = i
    · rw [hji, hblki]
      exact fun h' => hnone i hlt h'.symm
    · rw [hblk j hji]
      exact fun h' => hji (hi.unique j i hj hlt h' (h' ▸ hv))
  have hsome : ∀ b' j, b' ≠ b → b' ≠ s.buf.blk i → s.buf.find b' = some j → j ≠ i :=
    fun b' j _ h2 hj hji => h2 (by rw [← (BufCtx.find_some hj).2.1, hji])
  refine ⟨h.rest, fun b' h1 => ?_, fun b' t' h1 hr => ?_, fun j hj => ?_⟩
  · by_cases h2 : b' = s.buf.blk i
    · by_cases hv : s.buf.blk i = BBLK_INVALID
      · rw [h2, hv, FS.peek_none (by simp), FS.peek_none (by simp), h.rest.2.2.2.1]
      · rw [h2, FS.peek_none (hold hv), FS.peek_some
          ((BufCtx.find_eq_some_iff hi.unique).2 ⟨hlt, rfl, hv⟩), h.rest.2.2.2.1, (hdisk hv).2]
    · rcases hf' : s.buf.find b' with _ | j
      · rw [FS.peek_none hf', FS.peek_none (by rw [hfind b' h1 h2, hf']), h.rest.2.2.2.1]
      · rw [FS.peek_some hf', FS.peek_some (by rw [hfind b' h1 h2, hf']),
          h.content_of_ne (hsome b' j h1 h2 hf')]
  · by_cases h2 : b' = s.buf.blk i
    · by_cases hv : s.buf.blk i = BBLK_INVALID
      · rw [h2, hv, FS.readable_none (by simp)] at hr ⊢
        rw [h.okFor, h.rest.2.2.2.1]
        exact hr
      · rw [h2, FS.readable_some ((BufCtx.find_eq_some_iff hi.unique).2 ⟨hlt, rfl, hv⟩)] at hr
        rw [h2, FS.readable_none (hold hv), h.okFor, h.rest.2.2.2.1, ← hr]
        exact (hdisk hv).1
    · rcases hf' : s.buf.find b' with _ | j
      · rw [FS.readable_none hf'] at hr
        rw [FS.readable_none (by rw [hfind b' h1 h2, hf']), h.okFor, h.rest.2.2.2.1]
        exact hr
      · rw [FS.readable_some hf'] at hr
        rw [FS.readable_some (by rw [hfind b' h1 h2, hf']),
          h.head_of_ne (hsome b' j h1 h2 hf')]
        exact hr
  · have hji : j ≠ i := fun h' => hn (h' ▸ hj)
    exact ⟨hblk j hji, by rw [h.head_of_ne hji], fun hd => by rw [h.head_of_ne hji, hd],
      h.content_of_ne hji⟩

lemma Repurposed.find (h : Repurposed s s' i b t fDirty nd) (hi : BufInv s' prot own (i :: R) X)
    (hbv : b ≠ BBLK_INVALID) : s'.buf.find b = some i :=
  (BufCtx.find_eq_some_iff hi.unique).2
    ⟨hi.refs_lt i List.mem_cons_self, by simp only [BufCtx.blk, h.head_self], hbv⟩

lemma Touched.steady (h : Touched s s' R (· = b)) (hp : s'.peek b = s.peek b)
    (hr : ∀ t, s.Readable b t → s'.Readable b t) : Steady s s' prot R where
  core := h.rest.1
  now := h.rest.2.2.1
  dev := h.rest.2.2.2.2.2
  vol := by rw [h.rest.2.1]
  seq := by rw [h.rest.2.1]
  peek b' := by
    by_cases hb : b' = b
    · rw [hb, hp]
    · exact h.peek b' hb
  readable b' t hr' := by
    by_cases hb : b' = b
    · subst hb; exact hr t hr'
    · exact h.readable b' t hb hr'
  held := h.held
  disk _ _ := by rw [h.rest.2.2.2.1]
  hist := ⟨[], by simp [h.rest.2.2.2.2.1], by simp⟩

/-- The state `bufferRepurpose` leaves, before the buffer is referenced. -/
structure Loaded (s s' : FS) (i b : ℕ) (nd : Node) : Prop where
  rest : s'.core = s.core ∧ s'.vol = s.vol ∧ s'.now = s.now ∧ s'.disk = s.disk ∧
    s'.history = s.history ∧ s'.ulDevBlocks = s.ulDevBlocks ∧ s'.bSectorSizeP2 = s.bSectorSizeP2
  head : s'.buf.aHead = Function.update s.buf.aHead i ⟨b, (s.buf.aHead i).bRefCount, false, .data⟩
  content : s'.buf.pbBlkBuf = Function.update s.buf.pbBlkBuf i nd
  mru : s'.buf.abMRU = s.buf.abMRU
  used : s'.buf.uNumUsed = s.buf.uNumUsed

lemma BufInv.find_lru (hi : BufInv s prot own R X) (hR : R.length < bufferCount) :
    ∃ i, (s.buf.abMRU.reverse.find? fun bIdx => (s.buf.aHead bIdx).bRefCount == 0) = some i ∧
      i < bufferCount ∧ i ∉ R := by
  obtain ⟨j, hj, hjR⟩ := hi.exists_free hR
  have hmem : ∀ k, k ∈ s.buf.abMRU.reverse ↔ k < bufferCount := fun k => by
    rw [List.mem_reverse, hi.perm.mem_iff, List.mem_range]
  rcases hf : s.buf.abMRU.reverse.find? fun bIdx => (s.buf.aHead bIdx).bRefCount == 0 with _ | i
  · have := List.find?_eq_none.1 hf j ((hmem j).2 hj)
    rw [(hi.notMem_iff hj).2 hjR] at this
    simp at this
  · have hlt := (hmem i).1 (List.mem_of_find?_eq_some hf)
    have h0 := List.find?_some hf
    exact ⟨i, rfl, hlt, (hi.notMem_iff hlt).1 (by simpa using h0)⟩

lemma FS.okFor_content {block : DiskBlock} (h : s.okFor t block = true) :
    block.content t = block.node := by
  unfold DiskBlock.content
  cases t <;> try rfl
  simp only [FS.okFor, if_true] at h
  rcases hn : block.node <;> simp_all [Node.isBytes, Node.asBytes]

/-- Filling an unreferenced buffer changes its contents, and its head if it is read. -/
lemma bufferFill_ok {fNew : Bool} (hb : b < s.vol.ulBlockCount)
    (ho : fNew = false → s.okFor t (s.disk b) = true) :
    (bufferFill i b t fNew).Ok s fun _ s' => ∃ v,
      s' = (s.setHead i fun h => { h with ulBlock := v }).setBuf i
        (if fNew then .zero t else (s.disk b).node) := by
  unfold bufferFill
  rcases fNew with _ | _
  · simp only [Bool.false_eq_true, if_false]
    refine Op.Ok.modify_bind ?_
    have hrange : (s.setHead i fun h => { h with ulBlock := BBLK_INVALID }).blockRangeIsValid b 1
        = true := FS.blockRangeIsValid_one (s := s) hb
    refine Op.Ok.bind (Q := fun blocks s' => blocks 0 = s.disk b ∧
      s' = s.setHead i fun h => { h with ulBlock := BBLK_INVALID }) ?_ fun blocks s' ⟨h0, hs⟩ => ?_
    · unfold redIoRead
      refine Op.Ok.get_bind ?_
      rw [if_pos hrange]
      exact Op.Ok.pure ⟨rfl, rfl⟩
    · subst hs
      refine Op.Ok.get_bind (Op.Ok.modify_bind (Op.Ok.when (fun h => ?_) fun _ => ?_))
      · rw [h0] at h
        exact absurd ((FS.okFor_isValid h.1 (ho rfl)).symm.trans h.2) (by decide)
      · exact ⟨_, by rw [h0, FS.okFor_content (ho rfl)]⟩
  · simp only [if_true]
    exact Op.Ok.modify ⟨(s.buf.aHead i).ulBlock, by simp [FS.setHead, FS.setBuf]⟩

lemma bufferRepurpose_ok {fNew : Bool} (hi : BufInv s prot own R X) (hb : b < s.vol.ulBlockCount)
    (hf : s.buf.find b = none) (hr : fNew = false → s.Readable b t)
    (hR : R.length < bufferCount) :
    (bufferRepurpose b t fNew).Ok s fun i s2 => ∃ s1, Steady s s1 prot R ∧ BufInv s1 prot own R X ∧
      s1.buf = s.buf ∧ i < bufferCount ∧ i ∉ R ∧
      (s1.buf.blk i ≠ BBLK_INVALID →
        s1.okFor (s1.buf.aHead i).type (s1.disk (s1.buf.blk i)) = true ∧
          (s1.disk (s1.buf.blk i)).node = s1.buf.pbBlkBuf i) ∧
      (fNew = false → s1.okFor t (s1.disk b) = true ∧ (s1.disk b).node = s.peek b) ∧
      Loaded s1 s2 i b (if fNew then .zero t else s.peek b) := by
  obtain ⟨i, hfind, hlt, hn⟩ := hi.find_lru hR
  unfold bufferRepurpose
  refine Op.Ok.get_bind ?_
  simp only [hfind]
  refine Op.Ok.bind (evict_ok hi hlt hn) fun _ s1 ⟨hst, hi1, hbuf, hdisk⟩ => ?_
  have hf1 : s1.buf.find b = none := by rw [hbuf]; exact hf
  rw [← hbuf] at hdisk
  have hok : fNew = false → s1.okFor t (s1.disk b) = true := fun h =>
    (FS.readable_none hf1).1 (hst.readable b t (hr h))
  have hpk : (s1.disk b).node = s.peek b := by rw [← hst.peek, FS.peek_none hf1]
  have hb1 : b < s1.vol.ulBlockCount := by rw [hst.vol]; exact hb
  refine Op.Ok.bind (bufferFill_ok hb1 hok) ?_
  rintro _ _ ⟨v, rfl⟩
  refine Op.Ok.modify_bind (Op.Ok.pure ?_)
  refine ⟨s1, hst, hi1, hbuf, hlt, hn, hdisk, fun h => ⟨hok h, hpk⟩,
    ⟨⟨rfl, rfl, rfl, rfl, rfl, rfl, rfl⟩, ?_, by rw [hpk]; rfl, rfl, rfl⟩⟩
  simp [FS.setHead, FS.setBuf]

lemma bufferFind_run (hb : b < s.vol.ulBlockCount) : bufferFind b s = (.ok (s.buf.find b), s) := by
  have : ¬ s.vol.ulBlockCount ≤ b := by omega
  simp [bufferFind, this]

/-- The state `bufferReference` leaves. -/
structure Referenced (s s' : FS) (i : ℕ) (t : BufType) (fDirty : Bool) : Prop where
  rest : s'.core = s.core ∧ s'.vol = s.vol ∧ s'.now = s.now ∧ s'.disk = s.disk ∧
    s'.history = s.history ∧ s'.ulDevBlocks = s.ulDevBlocks ∧ s'.bSectorSizeP2 = s.bSectorSizeP2
  head : s'.buf.aHead = Function.update s.buf.aHead i
    ⟨s.buf.blk i, (s.buf.aHead i).bRefCount + 1, (s.buf.aHead i).fDirty || fDirty, t⟩
  content : s'.buf.pbBlkBuf = s.buf.pbBlkBuf
  perm : s'.buf.abMRU.Perm s.buf.abMRU
  used : s'.buf.uNumUsed = s.buf.uNumUsed + if (s.buf.aHead i).bRefCount = 0 then 1 else 0

lemma bufferMakeMRU_perm (l : List ℕ) (i : ℕ) :
    (if i ∈ l then i :: l.erase i else l).Perm l := by
  split_ifs with h
  · exact (List.perm_cons_erase h).symm
  · exact .refl _

lemma bufferMakeLRU_perm (l : List ℕ) (i : ℕ) :
    (if i ∈ l then l.erase i ++ [i] else l).Perm l := by
  split_ifs with h
  · exact List.perm_append_comm.trans (List.perm_cons_erase h).symm
  · exact .refl _

lemma bufferReference_ok (s : FS) (i : ℕ) (t : BufType) (fDirty : Bool) :
    (bufferReference i t fDirty).Ok s fun _ s' => Referenced s s' i t fDirty := by
  unfold bufferReference bufferMakeMRU
  refine Op.Ok.modify_bind (Op.Ok.modify_bind (Op.Ok.modify ?_))
  by_cases h0 : (s.buf.aHead i).bRefCount = 0
  · have : ((s.setHead i fun h => { h with
        bRefCount := h.bRefCount + 1
        fDirty := h.fDirty || fDirty
        type := t }).buf.aHead i).bRefCount = 1 := by
      simp [FS.setHead, h0]
    rw [if_pos this]
    exact ⟨⟨rfl, rfl, rfl, rfl, rfl, rfl, rfl⟩, rfl, rfl, bufferMakeMRU_perm _ _, by
      rw [if_pos h0]; rfl⟩
  · have : ¬ ((s.setHead i fun h => { h with
        bRefCount := h.bRefCount + 1
        fDirty := h.fDirty || fDirty
        type := t }).buf.aHead i).bRefCount = 1 := by
      simp [FS.setHead, h0]
    rw [if_neg this]
    exact ⟨⟨rfl, rfl, rfl, rfl, rfl, rfl, rfl⟩, rfl, rfl, bufferMakeMRU_perm _ _, by
      rw [if_neg h0]; rfl⟩

/-- Referencing a buffer that was just loaded. -/
lemma Loaded.reference {s2 : FS} (h : Loaded s s2 i b nd) (h' : Referenced s2 s' i t fDirty)
    (h0 : (s.buf.aHead i).bRefCount = 0) : Repurposed s s' i b t fDirty nd := by
  obtain ⟨a1, a2, a3, a4, a5, a6, a7⟩ := h.rest
  obtain ⟨b1, b2, b3, b4, b5, b6, b7⟩ := h'.rest
  refine ⟨⟨b1.trans a1, b2.trans a2, b3.trans a3, b4.trans a4, b5.trans a5, b6.trans a6,
    b7.trans a7⟩, ?_, h'.content.trans h.content, h.mru ▸ h'.perm, ?_⟩
  · rw [h'.head, h.head]
    simp [h0, BufCtx.blk, h.head]
  · rw [h'.used, h.used, h.head]
    simp [h0]

/-- Referencing a buffer that holds its block already. -/
lemma Referenced.same (h : Referenced s s' i t fDirty) (ht : (s.buf.aHead i).type = t) :
    SameBlocks s s' := by
  refine ⟨h.rest, fun j => ?_, fun j => ?_, fun j => by rw [h.content]⟩
  all_goals
    by_cases hj : j = i
    · subst hj; simp [h.head, BufCtx.blk, ht]
    · simp [h.head, BufCtx.blk, hj]

lemma Referenced.inv (h : Referenced s s' i t fDirty) (hi : BufInv s prot own R X)
    (ht : (s.buf.aHead i).type = t) (hlt : i < bufferCount) (hv : s.buf.blk i ≠ BBLK_INVALID)
    (hd : fDirty = true → ¬ prot (s.buf.blk i)) : BufInv s' prot own (i :: R) X := by
  refine hi.of_same (h.same ht) h.perm (fun j hj => ?_) (fun j hj => ?_) (fun j hj => ?_) ?_
    (fun j hj hvj => ?_) (fun j hx => List.mem_cons_of_mem _ (hi.exempt j hx)) fun j _ _ hx _ => hx
  · by_cases hji : j = i
    · subst hji; simp [h.head, hi.refs j hj]
    · rw [h.head, Function.update_of_ne hji, List.count_cons_of_ne (Ne.symm hji), hi.refs j hj]
  · rcases List.mem_cons.1 hj with rfl | hj
    · exact hlt
    · exact hi.refs_lt j hj
  · rcases List.mem_cons.1 hj with rfl | hj
    · exact hv
    · exact hi.held j hj
  · rw [h.used, hi.used, List.toFinset_cons]
    by_cases hm : i ∈ R
    · rw [if_neg fun h0 => (hi.notMem_iff hlt).1 h0 hm, Finset.insert_eq_of_mem (by simpa using hm),
        add_zero]
    · rw [if_pos ((hi.notMem_iff hlt).2 hm), Finset.card_insert_of_notMem (by simpa using hm)]
  · by_cases hji : j = i
    · subst hji
      rcases hf : fDirty with _ | _
      · left; simp [h.head, hf]
      · right; simp [h.head, hf, hd hf]
    · left; rw [h.head, Function.update_of_ne hji]

/-- **Acquiring a readable block** succeeds while fewer references are held than there are
buffers. -/
theorem redBufferGet_ok (hi : BufInv s prot own R X) (hb : b < s.vol.ulBlockCount)
    (hr : s.Readable b t) (hR : R.length < bufferCount) (hd : fDirty = true → ¬ prot b)
    (hown : own b) :
    (redBufferGet b t fDirty false).Ok s fun i s' => Steady s s' prot R ∧
      BufInv s' prot own (i :: R) X ∧ s'.buf.blk i = b ∧ (s'.buf.aHead i).type = t ∧
      s'.buf.pbBlkBuf i = s.peek b ∧ (fDirty = true → (s'.buf.aHead i).fDirty = true) := by
  have hbv := hi.valid_ne hb
  have hb' : ¬ s.vol.ulBlockCount ≤ b := by omega
  unfold redBufferGet
  refine Op.Ok.get_bind ?_
  rw [if_neg (by simp [hb'])]
  rcases hf : s.buf.find b with _ | i
  · -- The block is not buffered.
    refine Op.Ok.bind (Q := fun i s2 => ∃ s1, Steady s s1 prot R ∧ BufInv s1 prot own R X ∧
      s1.buf = s.buf ∧ i < bufferCount ∧ i ∉ R ∧
      (s1.buf.blk i ≠ BBLK_INVALID →
        s1.okFor (s1.buf.aHead i).type (s1.disk (s1.buf.blk i)) = true ∧
          (s1.disk (s1.buf.blk i)).node = s1.buf.pbBlkBuf i) ∧
      (s1.okFor t (s1.disk b) = true ∧ (s1.disk b).node = s.peek b) ∧
      Loaded s1 s2 i b (s.peek b)) ?_ ?_
    · unfold bufferObtain
      refine Op.Ok.get_bind ?_
      rw [Op.Ok, Op.bind_ok (bufferFind_run hb), hf, if_neg (hi.used_lt hR)]
      refine (bufferRepurpose_ok hi hb hf (fun _ => hr) hR).mono ?_
      rintro i s2 ⟨s1, h1, h2, h3, h4, h5, h6, h7, h8⟩
      exact ⟨s1, h1, h2, h3, h4, h5, h6, h7 rfl, h8⟩
    · rintro i s2 ⟨s1, hst, hi1, hbuf, hlt, hn, hdisk, ⟨hok, hpk⟩, hl⟩
      refine Op.Ok.bind (bufferReference_ok s2 i t fDirty) fun _ s' href => Op.Ok.pure ?_
      have hrp := hl.reference href ((hi1.notMem_iff hlt).2 hn)
      have hb1 : b < s1.vol.ulBlockCount := by rw [hst.vol]; exact hb
      have hf1 : s1.buf.find b = none := by rw [hbuf]; exact hf
      have hbytes : t = .data → (s.peek b).isBytes = true := fun h => by
        rw [h] at hok
        rw [← hpk]
        exact (Bool.and_eq_true _ _ ▸ (hok : (_ && _) = true)).2
      have hi' := hrp.inv hi1 hlt hn hb1 hf1 hbytes (fun _ => ⟨hok, hpk⟩) hd hown
      have hfind := hrp.find hi' hbv
      have hpeek : s'.peek b = s1.peek b := by
        rw [FS.peek_some hfind, hrp.content_self, hst.peek]
      have hread : ∀ t', s1.Readable b t' → s'.Readable b t' := fun t' h => by
        rw [FS.readable_some hfind, hrp.head_self]
        exact FS.okFor_inj hok ((FS.readable_none hf1).1 h)
      refine ⟨hst.trans ((hrp.touched hi1 hlt hn hb1 hf1 hdisk).steady hpeek hread), hi', ?_, ?_,
        hrp.content_self, ?_⟩
      · simp only [BufCtx.blk, hrp.head_self]
      · rw [hrp.head_self]
      · rw [hrp.head_self]; exact id
  · -- The block is buffered.
    obtain ⟨hlt, hblk, -⟩ := BufCtx.find_some hf
    have ht := (FS.readable_some hf).1 hr
    refine Op.Ok.bind (Q := fun j s1 => j = i ∧ s1 = s) ?_ ?_
    · unfold bufferObtain
      refine Op.Ok.get_bind ?_
      rw [Op.Ok, Op.bind_ok (bufferFind_run hb), hf]
      simp only [Bool.false_eq_true, ht, ne_eq, not_true_eq_false, or_self, if_false]
      exact Op.Ok.pure ⟨rfl, rfl⟩
    · rintro j s1 ⟨hj, hs1⟩
      rw [hj, hs1]
      refine Op.Ok.bind (bufferReference_ok s i t fDirty) fun _ s' href => Op.Ok.pure ?_
      have hs := href.same ht
      refine ⟨hs.steady fun j _ hdj => ?_, href.inv hi ht hlt (hblk ▸ hbv) (hblk ▸ hd), ?_, ?_, ?_,
        ?_⟩
      · by_cases hji : j = i
        · rw [href.head, hji, Function.update_self, ← hji, hdj]; rfl
        · rw [href.head, Function.update_of_ne hji, hdj]
      · rw [hs.blk, hblk]
      · rw [hs.type, ht]
      · rw [hs.content, FS.peek_some hf]
      · intro h; simp [href.head, h]

end

end RelianceEdge
