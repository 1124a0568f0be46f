import RelianceEdge.Cache.Held

set_option relaxedAutoImplicit false
set_option autoImplicit false
set_option linter.unusedSectionVars false

/-!
# Ranges of blocks

Flushing and discarding the blocks of a range.

## Main results

* `redBufferDiscardRange_ok` — afterwards no block of the range is buffered.
* `redBufferFlushRange_ok` — afterwards no block of the range has a dirty buffer.
-/

namespace RelianceEdge

variable [RedConf]

open RedConf

/-- A block of the range. -/
def InRange (ulBlockStart ulBlockCount b : ℕ) : Prop :=
  ulBlockStart ≤ b ∧ b < ulBlockStart + ulBlockCount

section

variable {s s' s'' : FS} {prot own : ℕ → Prop} {R R' : List ℕ} {X : ℕ → Prop} {D : ℕ → Prop}
  {a n : ℕ}

lemma BufferHead.isIn_iff {h : BufferHead} :
    h.isIn a n = true ↔ h.ulBlock ≠ BBLK_INVALID ∧ InRange a n h.ulBlock := by
  simp [BufferHead.isIn, InRange, and_assoc]

lemma FS.blockRangeIsValid_iff :
    s.blockRangeIsValid a n = true ↔ 0 < n ∧ a + n ≤ s.vol.ulBlockCount := by
  simp only [FS.blockRangeIsValid, Bool.and_eq_true, decide_eq_true_eq]
  omega

lemma Touched.refl (s : FS) (R : List ℕ) (D : ℕ → Prop) : Touched s s R D :=
  ⟨⟨rfl, rfl, rfl, rfl, rfl, rfl, rfl⟩, fun _ _ => rfl, fun _ _ _ h => h, fun i _ => .refl s i⟩

lemma Touched.trans (h : Touched s s' R D) (h' : Touched s' s'' R D) : Touched s s'' R D := by
  obtain ⟨a1, a2, a3, a4, a5, a6, a7⟩ := h.rest
  obtain ⟨b1, b2, b3, b4, b5, b6, b7⟩ := h'.rest
  exact ⟨⟨b1.trans a1, b2.trans a2, b3.trans a3, b4.trans a4, b5.trans a5, b6.trans a6,
    b7.trans a7⟩, fun b hb => (h'.peek b hb).trans (h.peek b hb),
    fun b t hb hr => h'.readable b t hb (h.readable b t hb hr),
    fun i hi => (h.held i hi).trans (h'.held i hi)⟩

/-! ## Discarding -/

/-- One step of the loop of `RedBufferDiscardRange()`. -/
lemma bufferInvalidate_ok {i : ℕ} (hi : BufInv s prot own R X) (hlt : i < bufferCount) (hn : i ∉ R)
    (hv : s.buf.blk i ≠ BBLK_INVALID) (hD : D (s.buf.blk i)) :
    (bufferInvalidate i).Ok s fun _ s' => Touched s s' R D ∧ BufInv s' prot own R X ∧
        s'.buf.blk i = BBLK_INVALID ∧ ∀ j, j ≠ i → s'.buf.blk j = s.buf.blk j := by
  unfold bufferInvalidate bufferMakeLRU
  refine Op.Ok.modify_bind (Op.Ok.modify ?_)
  have hr : Renumbered s { s with buf := { s.buf with
      aHead := Function.update s.buf.aHead i { s.buf.aHead i with ulBlock := BBLK_INVALID }
      abMRU := if i ∈ s.buf.abMRU then s.buf.abMRU.erase i ++ [i] else s.buf.abMRU } } i
      BBLK_INVALID :=
    ⟨⟨rfl, rfl, rfl, rfl, rfl, rfl, rfl⟩, fun j hj => by simp [hj],
      by simp [BufCtx.blk], rfl, bufferMakeLRU_perm _ _⟩
  have hfilter : R.filter (· ≠ i) = R := List.filter_eq_self.2 fun j hj => by
    simp only [ne_eq, decide_not, Bool.not_eq_true', decide_eq_false_iff_not]
    exact fun h => hn (h ▸ hj)
  refine ⟨?_, hr.inv hi hlt (.inl rfl) (by simp [hi.refs i hlt]) (fun _ _ => rfl)
    (fun h => absurd h hn) hi.used (fun h => absurd rfl h) (fun _ _ => Iff.rfl)
    (fun h => hi.exempt i h), hr.blk, fun j hj => hr.blk_of_ne hj⟩
  have := hr.touched hi hlt (Ne.symm hv) (D := D) (fun h => absurd rfl h) (.inl hD)
  rwa [hfilter] at this

lemma bufferDiscardLoop_ok (l : List ℕ) (hi : BufInv s prot own R X)
    (hR : ∀ i ∈ R, ¬ InRange a n (s.buf.blk i)) (hl : ∀ i ∈ l, i < bufferCount) :
    (bufferDiscardLoop a n l).Ok s fun _ s' => Touched s s' R (InRange a n) ∧
    BufInv s' prot own R X ∧
      (∀ j, s'.buf.blk j = s.buf.blk j ∨ s'.buf.blk j = BBLK_INVALID) ∧
      ∀ j ∈ l, s'.buf.blk j ≠ BBLK_INVALID → ¬ InRange a n (s'.buf.blk j) := by
  induction l generalizing s with
  | nil => exact Op.Ok.pure ⟨.refl _ _ _, hi, fun _ => .inl rfl, by simp⟩
  | cons i rest ih =>
    unfold bufferDiscardLoop
    refine Op.Ok.get_bind ?_
    refine Op.Ok.bind (Q := fun _ s1 => Touched s s1 R (InRange a n) ∧ BufInv s1 prot own R X ∧
      (∀ j, s1.buf.blk j = s.buf.blk j ∨ s1.buf.blk j = BBLK_INVALID) ∧
      (s1.buf.blk i ≠ BBLK_INVALID → ¬ InRange a n (s1.buf.blk i))) ?_ ?_
    · refine Op.Ok.when (fun h => ?_) fun h => ⟨.refl _ _ _, hi, fun _ => .inl rfl, fun hv hr => ?_⟩
      · obtain ⟨hv, hr⟩ := BufferHead.isIn_iff.1 h
        have hlt := hl i List.mem_cons_self
        have hn : i ∉ R := fun hm => hR i hm hr
        rw [if_pos ((hi.notMem_iff hlt).2 hn)]
        refine (bufferInvalidate_ok hi hlt hn hv hr).mono fun _ s1 ⟨h1, h2, h3, h4⟩ => ?_
        refine ⟨h1, h2, fun j => ?_, fun h => absurd h3 h⟩
        by_cases hj : j = i
        · exact .inr (hj ▸ h3)
        · exact .inl (h4 j hj)
      · exact h (BufferHead.isIn_iff.2 ⟨hv, hr⟩)
    · rintro _ s1 ⟨h1, h2, h3, h4⟩
      have hR1 : ∀ j ∈ R, ¬ InRange a n (s1.buf.blk j) := fun j hj => by
        rw [(h1.held j hj).blk]; exact hR j hj
      refine (ih h2 hR1 fun j hj => hl j (List.mem_cons_of_mem _ hj)).mono ?_
      rintro _ s2 ⟨g1, g2, g3, g4⟩
      refine ⟨h1.trans g1, g2, fun j => ?_, fun j hj hv => ?_⟩
      · rcases g3 j with h | h
        · rw [h]; exact h3 j
        · exact .inr h
      · rcases List.mem_cons.1 hj with rfl | hj
        · rcases g3 j with h | h
          · rw [h] at hv ⊢; exact h4 hv
          · exact absurd h hv
        · exact g4 j hj hv

/-- **Discarding a range** that holds no referenced block. -/
theorem redBufferDiscardRange_ok (hi : BufInv s prot own R X) (hn : 0 < n)
    (hb : a + n ≤ s.vol.ulBlockCount) (hR : ∀ i ∈ R, ¬ InRange a n (s.buf.blk i)) :
    (redBufferDiscardRange a n).Ok s fun _ s' => Touched s s' R (InRange a n) ∧
      BufInv s' prot own R X ∧ (∀ b, InRange a n b → s'.buf.find b = none) ∧
      ∀ j, s'.buf.blk j = s.buf.blk j ∨ s'.buf.blk j = BBLK_INVALID := by
  unfold redBufferDiscardRange
  refine Op.Ok.get_bind ?_
  rw [if_pos (FS.blockRangeIsValid_iff.2 ⟨hn, hb⟩)]
  refine (bufferDiscardLoop_ok _ hi hR fun i hm => List.mem_range.1 hm).mono ?_
  rintro _ s' ⟨h1, h2, h3, h4⟩
  refine ⟨h1, h2, fun b hr => ?_, h3⟩
  have hbv : b ≠ BBLK_INVALID := hi.valid_ne (hr.2.trans_le hb)
  rw [BufCtx.find_eq_none_iff hbv]
  rintro j hj rfl
  exact h4 j (List.mem_range.2 hj) hbv hr

/-! ## Flushing -/

/-- Clearing the dirty flag of a buffer that the device agrees with. -/
lemma BufInv.undirty {i : ℕ} (hi : BufInv s prot own R X)
    (hc : s.okFor (s.buf.aHead i).type (s.disk (s.buf.blk i)) = true ∧
      (s.disk (s.buf.blk i)).node = s.buf.pbBlkBuf i) :
    BufInv (s.setHead i fun h => { h with fDirty := false }) prot own R X ∧
      SameBlocks s (s.setHead i fun h => { h with fDirty := false }) := by
  have hhead : ∀ j, (s.setHead i fun h => { h with fDirty := false }).buf.aHead j =
      if j = i then { s.buf.aHead i with fDirty := false } else s.buf.aHead j := fun j => by
    by_cases h : j = i
    · subst h; simp [FS.setHead]
    · simp [FS.setHead, h]
  have hsame : SameBlocks s (s.setHead i fun h => { h with fDirty := false }) := by
    refine ⟨⟨rfl, rfl, rfl, rfl, rfl, rfl, rfl⟩, fun j => ?_, fun j => ?_, fun j => rfl⟩
    all_goals
      by_cases h : j = i
      · subst h; simp [BufCtx.blk, hhead]
      · simp [BufCtx.blk, hhead, h]
  refine ⟨⟨hi.count_le, hi.perm, fun j k hj hk hjk hv => ?_, fun j hj => ?_, hi.refs_lt,
    fun j hj => ?_, hi.used, fun j hj hv => ?_, fun j hj hv ht => ?_, fun j hj hv hcl hx => ?_,
    fun j hj hv hd => ?_, hi.exempt, fun j hj hv => ?_⟩, hsame⟩
  · rw [hsame.blk, hsame.blk] at hjk
    rw [hsame.blk] at hv
    exact hi.unique j k hj hk hjk hv
  · rw [hhead]
    split_ifs with h
    · subst h; exact hi.refs j hj
    · exact hi.refs j hj
  · rw [hsame.blk]; exact hi.held j hj
  · rw [hsame.blk] at hv ⊢; exact hi.lt j hj hv
  · rw [hsame.blk] at hv
    rw [hsame.type] at ht
    exact hi.bytes j hj hv ht
  · rw [hsame.blk] at hv ⊢
    rw [hsame.type]
    by_cases h : j = i
    · subst h; exact hc
    · rw [hhead, if_neg h] at hcl
      exact hi.clean j hj hv hcl hx
  · rw [hsame.blk] at hv ⊢
    rw [hhead] at hd
    split_ifs at hd with h
    exact hi.dirty j hj hv hd
  · rw [hsame.blk] at hv ⊢; exact hi.owned j hj hv

/-- What a flush changes: dirty flags of buffers in the range, and the device. -/
structure Flushed (s s' : FS) (prot own : ℕ → Prop) (R R' : List ℕ) (X : ℕ → Prop) : Prop where
  steady : Steady s s' prot R'
  inv : BufInv s' prot own R X
  blk : ∀ j, s'.buf.blk j = s.buf.blk j
  type : ∀ j, (s'.buf.aHead j).type = (s.buf.aHead j).type
  content : ∀ j, s'.buf.pbBlkBuf j = s.buf.pbBlkBuf j
  dirty : ∀ j, (s'.buf.aHead j).fDirty = true → (s.buf.aHead j).fDirty = true

lemma bufferFlushLoop_ok (l : List ℕ) (hi : BufInv s prot own R X)
    (hR' : ∀ i ∈ R', ¬ InRange a n (s.buf.blk i))
    (hl : ∀ i ∈ l, i < bufferCount) :
    (bufferFlushLoop a n l).Ok s fun _ s' => Flushed s s' prot own R R' X ∧
      ∀ j ∈ l, s'.buf.blk j ≠ BBLK_INVALID → InRange a n (s'.buf.blk j) →
        (s'.buf.aHead j).fDirty = false := by
  induction l generalizing s with
  | nil =>
    exact Op.Ok.pure ⟨⟨.refl _ _ _, hi, fun _ => rfl, fun _ => rfl, fun _ => rfl, fun _ h => h⟩,
      by simp⟩
  | cons i rest ih =>
    unfold bufferFlushLoop
    refine Op.Ok.get_bind ?_
    refine Op.Ok.bind (Q := fun _ s1 => Flushed s s1 prot own R R' X ∧
      (s1.buf.blk i ≠ BBLK_INVALID → InRange a n (s1.buf.blk i) →
        (s1.buf.aHead i).fDirty = false)) ?_ ?_
    · refine Op.Ok.when (fun h => ?_) fun h => ⟨⟨.refl _ _ _, hi, fun _ => rfl, fun _ => rfl,
        fun _ => rfl, fun _ h => h⟩, fun hv hr => ?_⟩
      · rw [Bool.and_eq_true] at h
        obtain ⟨hv, hr⟩ := BufferHead.isIn_iff.1 h.1
        have hlt := hl i List.mem_cons_self
        refine Op.Ok.bind (bufferWrite_ok hi hlt hv) fun _ s1 hw => Op.Ok.modify ?_
        obtain ⟨hi1, hok, hnode⟩ := hw.inv hi hlt hv
        rw [← hw.buf] at hok hnode
        obtain ⟨hu, hsame⟩ := hi1.undirty (i := i) ⟨hok, hnode⟩
        have hst : Steady s s1 prot R' := hw.steady hlt hv hi.unique (hi.dirty i hlt hv h.2)
        refine ⟨⟨hst.trans (hsame.steady fun j hj hd => ?_), hu, fun j => ?_, fun j => ?_,
          fun j => ?_, fun j hd => ?_⟩, fun _ _ => by simp [FS.setHead]⟩
        · have hji : j ≠ i := by
            rintro rfl
            exact hR' j hj hr
          simp [FS.setHead, hji, hd]
        · rw [hsame.blk, hw.buf]
        · rw [hsame.type, hw.buf]
        · rw [hsame.content, hw.buf]
        · by_cases hji : j = i
          · rw [hji]; exact h.2
          · rw [← hw.buf]
            simpa [FS.setHead, hji] using hd
      · rw [Bool.and_eq_true, not_and] at h
        exact Bool.eq_false_iff.2 (h (BufferHead.isIn_iff.2 ⟨hv, hr⟩))
    · rintro _ s1 ⟨h1, h2⟩
      have hR1 : ∀ j ∈ R', ¬ InRange a n (s1.buf.blk j) := fun j hj => by
        rw [h1.blk]; exact hR' j hj
      refine (ih h1.inv hR1 fun j hj => hl j (List.mem_cons_of_mem _ hj)).mono ?_
      rintro _ s2 ⟨g1, g2⟩
      refine ⟨⟨h1.steady.trans g1.steady, g1.inv, fun j => (g1.blk j).trans (h1.blk j),
        fun j => (g1.type j).trans (h1.type j), fun j => (g1.content j).trans (h1.content j),
        fun j hd => h1.dirty j (g1.dirty j hd)⟩, fun j hj hv hr => ?_⟩
      rcases List.mem_cons.1 hj with rfl | hj
      · rw [g1.blk] at hv hr
        exact Bool.eq_false_iff.2 fun hd => Bool.eq_false_iff.1 (h2 hv hr) (g1.dirty j hd)
      · exact g2 j hj hv hr

/-- **Flushing a range**; the references in `R'` lie outside it. -/
theorem redBufferFlushRange_ok (hi : BufInv s prot own R X) (hn : 0 < n)
    (hb : a + n ≤ s.vol.ulBlockCount)
    (hR' : ∀ i ∈ R', ¬ InRange a n (s.buf.blk i)) :
    (redBufferFlushRange a n).Ok s fun _ s' => Flushed s s' prot own R R' X ∧
      ∀ j, j < bufferCount → s'.buf.blk j ≠ BBLK_INVALID → InRange a n (s'.buf.blk j) →
        (s'.buf.aHead j).fDirty = false := by
  unfold redBufferFlushRange
  refine Op.Ok.get_bind ?_
  rw [if_pos (FS.blockRangeIsValid_iff.2 ⟨hn, hb⟩)]
  refine (bufferFlushLoop_ok _ hi hR' fun i hm => List.mem_range.1 hm).mono ?_
  rintro _ s' ⟨h1, h2⟩
  exact ⟨h1, fun j hj => h2 j (List.mem_range.2 hj)⟩

/-- The same when nothing is said about referenced buffers. -/
lemma redBufferFlushRange_blocks (hi : BufInv s prot own R X) (hn : 0 < n)
    (hb : a + n ≤ s.vol.ulBlockCount) :
    (redBufferFlushRange a n).Ok s fun _ s' => Flushed s s' prot own R [] X ∧
      ∀ j, j < bufferCount → s'.buf.blk j ≠ BBLK_INVALID → InRange a n (s'.buf.blk j) →
        (s'.buf.aHead j).fDirty = false :=
  redBufferFlushRange_ok hi hn hb (by simp)

end

end RelianceEdge
