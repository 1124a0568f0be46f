import RelianceEdge.Cache.Range

set_option relaxedAutoImplicit false
set_option autoImplicit false
set_option linter.unusedSectionVars false

/-!
# The empty cache

Before a mount and after an unmount no block is cached. A block that is acquired from there on is
the only one in the cache, and nothing but the buffers changes until it is given up.

## Main definitions

* `FS.NoBuffers` — the cache is empty.
* `BufCtx.Sole` — one block is cached.

## Main results

* `redBufferGet_empty` — acquiring a block through an empty cache.
* `redBufferDiscard_sole` — the only block is given up.
-/

namespace RelianceEdge

variable [RedConf]

open RedConf

/-- **The cache is empty**: no buffer is in use. -/
abbrev FS.NoBuffers (s : FS) : Prop :=
  BufInv s (fun _ => True) (fun _ => False) [] (fun _ => False)

/-- **One block is cached**, in the buffer `i` with the head `h` and the contents `nd`. -/
structure BufCtx.Sole (bc : BufCtx) (i : ℕ) (h : BufferHead) (nd : Node) : Prop where
  lt : i < bufferCount
  perm : bc.abMRU.Perm (List.range bufferCount)
  head : bc.aHead i = h
  content : bc.pbBlkBuf i = nd
  other : ∀ j, j < bufferCount → j ≠ i →
    (bc.aHead j).ulBlock = BBLK_INVALID ∧ (bc.aHead j).bRefCount = 0
  used : bc.uNumUsed = if h.bRefCount = 0 then 0 else 1

section

variable {s s' : FS} {i b n : ℕ} {t : BufType} {nd : Node}

/-- An empty cache satisfies the invariant whatever the rest of the state is. -/
lemma FS.NoBuffers.inv {prot own : ℕ → Prop} (h : s.NoBuffers) (hb : s'.buf = s.buf)
    (hle : s'.vol.ulBlockCount ≤ UINT32_MAX) : BufInv s' prot own [] (fun _ => False) := by
  have hno : ∀ i, i < bufferCount → s'.buf.blk i = BBLK_INVALID := fun i hi => by
    by_contra hv
    rw [hb] at hv
    exact h.owned i hi hv
  exact
    { count_le := hle
      perm := by rw [hb]; exact h.perm
      unique := by rw [hb]; exact h.unique
      refs := by rw [hb]; exact h.refs
      refs_lt := by simp
      held := by simp
      used := by rw [hb]; exact h.used
      lt := fun i hi hv => absurd (hno i hi) hv
      bytes := fun i hi hv => absurd (hno i hi) hv
      clean := fun i hi hv => absurd (hno i hi) hv
      dirty := fun i hi hv => absurd (hno i hi) hv
      exempt := by simp
      owned := fun i hi hv => absurd (hno i hi) hv }

lemma FS.NoBuffers.find (h : s.NoBuffers) (b : ℕ) : s.buf.find b = none :=
  h.find_of_not_own (b := b) fun h => h

lemma FS.NoBuffers.peek (h : s.NoBuffers) (b : ℕ) : s.peek b = (s.disk b).node :=
  FS.peek_none (h.find b)

lemma FS.NoBuffers.readable (h : s.NoBuffers) (b : ℕ) (t : BufType) :
    s.Readable b t ↔ s.okFor t (s.disk b) = true := FS.readable_none (h.find b)

/-- When every buffer that is in use could be discarded, the cache is empty. -/
lemma BufInv.noBuffers {prot own : ℕ → Prop} (h : BufInv s prot own [] (fun _ => False))
    (hf : ∀ b, own b → s.buf.find b = none) : s.NoBuffers := by
  have hno : ∀ i, i < bufferCount → s.buf.blk i = BBLK_INVALID := fun i hi => by
    by_contra hv
    have hn := hf _ (h.owned i hi hv)
    rw [BufCtx.find_eq_none_iff hv] at hn
    exact hn i hi rfl
  exact { h with
    dirty := fun i hi hv => absurd (hno i hi) hv
    owned := fun i hi hv => absurd (hno i hi) hv }

lemma FS.noBuffers_of (hp : s.buf.abMRU.Perm (List.range bufferCount))
    (hb : ∀ i, i < bufferCount → s.buf.blk i = BBLK_INVALID ∧ (s.buf.aHead i).bRefCount = 0)
    (hu : s.buf.uNumUsed = 0) (hle : s.vol.ulBlockCount ≤ UINT32_MAX) : s.NoBuffers where
  count_le := hle
  perm := hp
  unique i _ hi _ _ hv := absurd (hb i hi).1 hv
  refs i hi := (hb i hi).2
  refs_lt := by simp
  held := by simp
  used := hu
  lt i hi hv := absurd (hb i hi).1 hv
  bytes i hi hv := absurd (hb i hi).1 hv
  clean i hi hv := absurd (hb i hi).1 hv
  dirty i hi hv := absurd (hb i hi).1 hv
  exempt := by simp
  owned i hi hv := absurd (hb i hi).1 hv

/-- After `RedBufferInit()` no block is cached. -/
lemma FS.noBuffers_init (hb : s.buf = (redBufferInit s).2.buf)
    (hle : s.vol.ulBlockCount ≤ UINT32_MAX) :
    s.NoBuffers :=
  FS.noBuffers_of (by rw [hb]; exact List.reverse_perm _) (fun i _ => by rw [hb]; exact ⟨rfl, rfl⟩)
    (by rw [hb]; rfl) hle

/-! ## Acquiring the only block -/

/-- Whether a block can be acquired: a new one always, a stored one when it passes the checks. -/
def FS.obtainable (s : FS) (b : ℕ) (t : BufType) (fNew : Bool) : Bool :=
  fNew || t == .data || s.redBufferIsValid (s.disk b) t

/-- The contents of an acquired block. -/
def FS.obtained (s : FS) (b : ℕ) (t : BufType) (fNew : Bool) : Node :=
  if fNew then .zero t else (s.disk b).content t

lemma redIoRead_run {a n : ℕ} (h : s.blockRangeIsValid a n = true) :
    redIoRead a n s = (.ok fun ulIdx => s.disk (a + ulIdx), s) := by
  unfold redIoRead
  rw [Op.get_bind_run, if_pos h, Op.pure_run]

/-- What filling a buffer leaves when the block can be acquired. -/
lemma bufferFill_run {fNew : Bool} (hb : b < s.vol.ulBlockCount)
    (ho : s.obtainable b t fNew = true) : ∃ v, bufferFill i b t fNew s = (.ok (),
      (s.setHead i fun h => { h with ulBlock := v }).setBuf i (s.obtained b t fNew)) := by
  unfold bufferFill
  rcases fNew with _ | _
  · refine ⟨BBLK_INVALID, ?_⟩
    simp only [Bool.false_eq_true, if_false]
    rw [Op.modify_bind_run, Op.bind_ok
      (redIoRead_run (s := s.setHead i _) (FS.blockRangeIsValid_one hb)), Op.get_bind_run,
      Op.modify_bind_run, Op.when_neg]
    · rfl
    · rintro ⟨ht, hv⟩
      simp only [FS.obtainable, Bool.false_or, Bool.or_eq_true, beq_iff_eq, ht, false_or] at ho
      exact absurd (ho.symm.trans hv) (by decide)
  · refine ⟨(s.buf.aHead i).ulBlock, ?_⟩
    simp [FS.obtained, FS.setHead, FS.setBuf]

/-- Through an empty cache, the buffer that is repurposed holds no block. -/
lemma bufferObtain_empty (h : s.NoBuffers) (hb : b < s.vol.ulBlockCount) (t : BufType)
    (fNew : Bool) :
    ∃ j, j < bufferCount ∧ (s.buf.aHead j).bRefCount = 0 ∧ bufferObtain b t fNew s = (do
      bufferFill j b t fNew
      .modify fun s => s.setHead j fun h => { h with ulBlock := b, fDirty := false, type := .data }
      pure j : Red ℕ) s := by
  have hpos : 0 < bufferCount := by
    have := bufferCount_ge
    simp only [minimumBufferCountOf] at this
    omega
  obtain ⟨j, hfind, hlt, -⟩ := h.find_lru hpos
  refine ⟨j, hlt, h.refs j hlt, ?_⟩
  have hinv : s.buf.blk j = BBLK_INVALID := by
    by_contra hv
    exact h.owned j hlt hv
  unfold bufferObtain
  rw [Op.get_bind_run, Op.bind_ok (bufferFind_run hb), h.find]
  simp only
  rw [if_neg (by rw [h.used]; exact hpos.ne)]
  unfold bufferRepurpose
  rw [Op.get_bind_run, hfind]
  simp only
  rw [Op.when_neg (by simp [hinv]), Op.pure_bind_run]

/-- **Acquiring a block through an empty cache** changes nothing but the buffers. -/
theorem redBufferGet_empty {fDirty fNew : Bool} (h : s.NoBuffers) (hb : b < s.vol.ulBlockCount)
    (hn : fNew = true → fDirty = true) (ho : s.obtainable b t fNew = true) :
    (redBufferGet b t fDirty fNew).Ok s fun j s' => j < bufferCount ∧
      Repurposed s s' j b t fDirty (s.obtained b t fNew) := by
  obtain ⟨j, hlt, href, hrun⟩ := bufferObtain_empty h hb t fNew
  obtain ⟨v, hfill⟩ := bufferFill_run (i := j) hb ho
  unfold redBufferGet
  refine .get_bind ?_
  rw [if_neg (by simp only [not_or, not_le, not_and, not_not]; exact ⟨hb, hn⟩)]
  rw [Op.bind_ok hfill, Op.modify_bind_run, Op.pure_run] at hrun
  refine .run_bind hrun ((bufferReference_ok _ _ _ _).bind ?_)
  rintro - s' hr
  refine .pure ⟨hlt, Loaded.reference ?_ hr href⟩
  exact ⟨⟨rfl, rfl, rfl, rfl, rfl, rfl, rfl⟩, by simp [FS.setHead, FS.setBuf], rfl, rfl, rfl⟩

/-- Nothing but the buffers differs. -/
lemma FS.eq_of_rest (h : s'.core = s.core ∧ s'.vol = s.vol ∧ s'.now = s.now ∧ s'.disk = s.disk ∧
    s'.history = s.history ∧ s'.ulDevBlocks = s.ulDevBlocks ∧ s'.bSectorSizeP2 = s.bSectorSizeP2) :
    s' = { s with buf := s'.buf } := by
  obtain ⟨h1, h2, h3, h4, h5, h6, h7⟩ := h
  rcases s' with ⟨⟩
  simp only at h1 h2 h3 h4 h5 h6 h7 ⊢
  rw [h1, h2, h3, h4, h5, h6, h7]

/-- The block that was acquired is the only one. -/
lemma Repurposed.sole {fDirty : Bool} (h : s.NoBuffers) (hlt : i < bufferCount)
    (hr : Repurposed s s' i b t fDirty nd) : s'.buf.Sole i ⟨b, 1, fDirty, t⟩ nd where
  lt := hlt
  perm := hr.perm.trans h.perm
  head := hr.head_self
  content := hr.content_self
  other j hj hne := by
    rw [hr.head_of_ne hne, h.refs j hj]
    exact ⟨by_contra fun hv => h.owned j hj hv, rfl⟩
  used := by rw [hr.used, h.used]; rfl

/-! ## The only block -/

section

variable {f : Bool}

/-- Discarding the only block leaves the cache empty. -/
lemma redBufferDiscard_sole (hs : s.buf.Sole i ⟨b, 1, f, t⟩ nd) (hv : b ≠ BBLK_INVALID)
    (hle : s.vol.ulBlockCount ≤ UINT32_MAX) :
    (redBufferDiscard i).Ok s fun _ s' => s' = { s with buf := s'.buf } ∧ s'.NoBuffers := by
  have hidx : s.buf.bufferToIdx i = true := by
    simp [BufCtx.bufferToIdx, hs.lt, hs.head, hv]
  unfold redBufferDiscard
  refine .get_bind ?_
  rw [Op.when_pos hidx]
  refine .modify_bind (.modify_bind (.modify ⟨rfl, FS.noBuffers_of ?_ (fun j hj => ?_) ?_ hle⟩))
  · exact (bufferMakeLRU_perm _ _).trans hs.perm
  · by_cases hj' : j = i
    · subst hj'
      simp [FS.setHead, hs.head, BufCtx.blk]
    · simp only [FS.setHead, BufCtx.blk, Function.update_of_ne hj']
      exact hs.other j hj hj'
  · simp [FS.setHead, hs.used]

end

end

end RelianceEdge
