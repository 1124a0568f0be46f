import RelianceEdge.Commit.Transact

set_option relaxedAutoImplicit false
set_option autoImplicit false
set_option linter.unusedSectionVars false

/-!
# Rollback

A rollback throws every buffer away and mounts again what the device holds.

## Main definitions

* `RolledBack` — what a rollback leaves.

## Main results

* `redVolRollback_run` — a rollback succeeds.
* `RolledBack.alloc`, `RolledBack.onDevice` — the committed state is the working one.
-/

namespace RelianceEdge

variable [RedConf]

open RedConf

/-- **What a rollback leaves**: both metaroots are the committed one, and the cache is empty. -/
structure RolledBack (s s' : FS) : Prop where
  core : s'.core = { s.core with
    aMR := fun _ => s.mrCommitted
    fBranched := false
    fUseReservedBlocks := false
    ulAlmostFreeBlocks := 0 }
  vol : s'.vol = { s.vol with
    fReadOnly := false
    ullSequence := max (s.disk BLOCK_NUM_MASTER).ullSequence s.mrCommitted.ullSequence + 1 }
  disk : s'.disk = s.disk
  history : s'.history = s.history
  now : s'.now = s.now
  dev : s'.ulDevBlocks = s.ulDevBlocks ∧ s'.bSectorSizeP2 = s.bSectorSizeP2
  noBuffers : s'.NoBuffers

section

variable {s s' : FS} {K : ℕ → Prop} {W C : ℕ → Bool} {own : ℕ → Prop} {b : ℕ} {t : BufType}

/-- What a mount finds on the device is what is in memory already. -/
lemma OnDevice.masterMounted (h : OnDevice s K) : s.masterMounted RED_MOUNT_DEFAULT =
    { s with vol := { s.vol with
      fReadOnly := false, ullSequence := (s.disk BLOCK_NUM_MASTER).ullSequence } } := by
  obtain ⟨h1, h2, h3⟩ := h.same
  have hsame := h.layout.same
  unfold FS.masterMounted
  dsimp only
  rw [h1, h2, h3]
  have hcore : s.withLayout.core = s.core := congrArg FS.core hsame
  have hvol : s.withLayout.vol = s.vol := congrArg FS.vol hsame
  unfold FS.withLayout at hcore hvol ⊢
  simp only at hcore hvol ⊢
  rw [hcore]
  have hb := congrArg Volume.ulBlocksAllocable hvol
  simp only at hb
  rw [hb]
  rfl

/-- **A rollback succeeds.** -/
theorem redVolRollback_run (h : AllocInv s W C own [] (fun _ => False)) (hd : OnDevice s K)
    (hbr : s.core.fBranched = true) : redVolRollback.Ok s fun _ s' => RolledBack s s' := by
  have hge := hd.layout.fits.count_ge
  unfold redVolRollback
  refine .get_bind ?_
  rw [Op.when_pos hbr]
  refine Op.Ok.attempt_bind_ok (Q := fun _ s' => RolledBack s s') ?_ fun _ s' ht => .pure ht
  refine (redBufferDiscardRange_ok h.buf (by unfold MINIMUM_METADATA_BLOCKS at hge; omega)
    (by omega)
    (by simp)).bind ?_
  rintro - s1 ⟨ht, hi, hfind, -⟩
  obtain ⟨hcore, hvol, hnow, hdisk, hhist, hdev⟩ := ht.rest
  have hno : s1.NoBuffers := by
    refine BufInv.noBuffers hi fun b hb => ?_
    by_cases hlt : b < s.vol.ulBlockCount
    · exact hfind b ⟨by omega, by omega⟩
    · by_contra hne
      obtain ⟨i, hi'⟩ := Option.ne_none_iff_exists'.1 hne
      obtain ⟨hil, rfl, hv⟩ := BufCtx.find_some hi'
      have := hi.lt i hil hv
      rw [hvol] at this
      exact hlt this
  have hd1 : OnDevice s1 (fun _ => False) := by
    have hf : Frame s s1 (s.Prot C) _ _ := ht.frame
    exact (hd.mono fun _ hf => hf.elim).of_frame hf (.of_eq hcore) fun b hb =>
      .inl (hb.resolve_right id)
  refine (redVolMountMaster_ok hno hd1.master (by
    rw [hvol]; unfold MINIMUM_METADATA_BLOCKS at hge; omega)).bind ?_
  rintro - s2 ⟨hno2, hs2⟩
  rw [hd1.masterMounted] at hs2
  have hch : chooseMetaroot (s2.disk BLOCK_NUM_FIRST_METAROOT)
      (s2.disk (BLOCK_NUM_FIRST_METAROOT + 1)) = .ok (!s1.core.bCurMR) := by
    rw [hs2]
    exact hd1.chosen
  have hcount2 : s2.vol.ulBlockCount = s.vol.ulBlockCount := by rw [hs2, ← hvol]
  refine .run_bind (redVolMountMetaroot_run (by
    rw [hcount2]; unfold MINIMUM_METADATA_BLOCKS at hge; omega) hch) (.modify ?_)
  have hmr : (s2.disk (BLOCK_NUM_FIRST_METAROOT + (!s1.core.bCurMR).toNat)).metaroot =
      s.mrCommitted := by
    rw [hs2]
    have : s.mrCommitted = s1.mrCommitted := by unfold FS.mrCommitted; rw [hcore]
    rw [this]
    exact hd1.metaroot
  have hcore2 : s2.core = s.core := by rw [hs2, ← hcore]
  have hvol2 : s2.vol = { s.vol with
      fReadOnly := false, ullSequence := (s.disk BLOCK_NUM_MASTER).ullSequence } := by
    rw [hs2, ← hvol, ← hdisk]
  refine ⟨?_, ?_, ?_, ?_, ?_, ?_, ?_⟩
  · unfold FS.selected
    dsimp only
    rw [hmr, hcore2, hcore, Bool.not_not]
  · unfold FS.selected
    dsimp only
    rw [hmr, hvol2]
    have := hd.mounted
    rcases hsv : s.vol with ⟨⟩
    rw [hsv] at this
    cases this
    rfl
  · change s2.disk = s.disk
    rw [hs2, ← hdisk]
  · change s2.history = s.history
    rw [hs2, ← hhist]
  · change s2.now = s.now
    rw [hs2, ← hnow]
  · change s2.ulDevBlocks = s.ulDevBlocks ∧ s2.bSectorSizeP2 = s.bSectorSizeP2
    rw [hs2, ← hdev.1, ← hdev.2]
    exact ⟨rfl, rfl⟩
  · exact hno2.inv rfl (by
      change s2.vol.ulBlockCount ≤ UINT32_MAX
      rw [hcount2]; exact hd.layout.fits.count_le)

/-! ## What it leaves -/

/-- The buffers of committed blocks are clean, so the device has the same contents. -/
lemma BufInv.peek_prot {prot : ℕ → Prop} (h : BufInv s prot own [] (fun _ => False)) (hp : prot b) :
    s.peek b = (s.disk b).node := by
  cases hf : s.buf.find b with
  | none => exact FS.peek_none hf
  | some i =>
    obtain ⟨hlt, rfl, hv⟩ := BufCtx.find_some hf
    rw [FS.peek_some hf]
    refine ((h.clean i hlt hv ?_ (by simp)).2).symm
    by_contra hd
    exact h.dirty i hlt hv (by simpa using hd) hp

lemma BufInv.okFor_prot {prot : ℕ → Prop} (h : BufInv s prot own [] (fun _ => False)) (hp : prot b)
    (hr : s.Readable b t) : s.okFor t (s.disk b) = true := by
  cases hf : s.buf.find b with
  | none => exact (FS.readable_none hf).1 hr
  | some i =>
    obtain ⟨hlt, rfl, hv⟩ := BufCtx.find_some hf
    have hcl : (s.buf.aHead i).fDirty = false := by
      by_contra hd
      exact h.dirty i hlt hv (by simpa using hd) hp
    have hok := (h.clean i hlt hv hcl (by simp)).1
    rw [FS.readable_some hf] at hr
    rwa [hr] at hok

lemma RolledBack.peek (h : AllocInv s W C own [] (fun _ => False)) (hr : RolledBack s s')
    (hp : s.Prot C b) : s'.peek b = s.peek b := by
  rw [hr.noBuffers.peek, hr.disk, h.buf.peek_prot hp]

/-- The metadata of the committed state can still be read, though the sequence number of the volume
has gone back. -/
lemma RolledBack.readable (h : AllocInv s W C own [] (fun _ => False)) (hd : OnDevice s K)
    (hr : RolledBack s s') (hp : s.Prot C b) (hK : t ≠ .data → K b) (hread : s.Readable b t) :
    s'.Readable b t := by
  rw [hr.noBuffers.readable, hr.disk]
  have hok := h.buf.okFor_prot hp hread
  unfold FS.okFor at hok ⊢
  by_cases ht : t = .data
  · rw [if_pos ht] at hok ⊢
    exact hok
  · rw [if_neg ht] at hok ⊢
    have hseq := hd.fresh b (hK ht)
    rw [hr.vol]
    simp only [Bool.and_eq_true, decide_eq_true_eq] at hok ⊢
    exact ⟨hok.1, Nat.lt_succ_of_le hseq⟩

lemma RolledBack.sameLayout (hr : RolledBack s s') : s.core.SameLayout s'.core := by
  rw [hr.core]
  exact ⟨rfl, rfl, rfl, rfl, rfl, rfl⟩

lemma RolledBack.cur (hr : RolledBack s s') : s'.core.bCurMR = s.core.bCurMR := by
  rw [hr.core]

lemma RolledBack.aMR (hr : RolledBack s s') (bMR : Bool) : s'.core.aMR bMR = s.mrCommitted := by
  rw [hr.core]

/-- **The committed state is the working one** after a rollback. -/
theorem RolledBack.alloc (h : AllocInv s W C own [] (fun _ => False)) (hd : OnDevice s K)
    (hr : RolledBack s s') (hK : s.core.fImapInline = false → ∀ n, n < s.core.ulImapNodeCount →
      K (s.core.redImapNodeBlock (!s.core.bCurMR) n)) :
    AllocInv s' C C own [] (fun _ => False) := by
  have hl := hr.sameLayout
  have hv : s'.vol.ulBlockCount = s.vol.ulBlockCount := by rw [hr.vol]
  have ha : s'.vol.ulBlocksAllocable = s.vol.ulBlocksAllocable := by rw [hr.vol]
  have hhas : ∀ b, s'.covers b = s.covers b := fun b => by
    unfold FS.covers
    rw [hl.tableStart, hl.inline, hl.nodeCount]
  have hnode : ∀ bMR n, s'.core.redImapNodeBlock bMR n =
      s.core.redImapNodeBlock (!s.core.bCurMR) n := fun bMR n => by
    unfold CoreVolume.redImapNodeBlock CoreVolume.imapNodeIdxIsValid
    rw [hr.aMR, hl.imapStart, hl.nodeCount]
    rfl
  have hprot : s.core.fImapInline = false → ∀ n, n < s.core.ulImapNodeCount →
      s.Prot C (s.core.redImapNodeBlock (!s.core.bCurMR) n) := fun hi n hn => by
    refine .inr (.inr (.inl ⟨(h.bits.layout.nodeBlock_lt hi hn _).2, ?_⟩))
    rw [CoreVolume.nodeBlock_div]
  have hbit : ∀ bMR b, s.covers b = true → s'.imapBit bMR b = C b := by
    intro bMR b hb
    rw [← h.bits.coversCommitted b hb]
    unfold FS.imapBit
    rw [hl.inline, hl.tableStart]
    cases hi : s.core.fImapInline with
    | true =>
      simp only [if_true]
      rw [hr.aMR]
      rfl
    | false =>
      simp only [Bool.false_eq_true, if_false]
      rw [hnode, hr.peek h (hprot hi _ (FS.covers_node hi hb))]
  refine ⟨⟨h.bits.layout.of_sameLayout hl hv ha, fun b hb => ?_, fun b hb => ?_,
    fun hi n hn bMR => ?_⟩, ?_, ?_, h.high⟩
  · exact hbit _ b (by rw [← hhas]; exact hb)
  · exact hbit _ b (by rw [← hhas]; exact hb)
  · rw [hl.inline] at hi
    rw [hl.nodeCount] at hn
    rw [hnode]
    exact hr.readable h hd (hprot hi n hn) (fun _ => hK hi n hn) (h.bits.nodes hi n hn _)
  · exact hr.noBuffers.inv rfl (by rw [hv]; exact h.buf.count_le)
  · rw [hl.tableStart]
    exact h.low

/-- The device holds the committed state as before. -/
theorem RolledBack.onDevice (hd : OnDevice s K) (hr : RolledBack s s') : OnDevice s' K := by
  have hl := hr.sameLayout
  have hmrc : s'.mrCommitted = s.mrCommitted := by
    unfold FS.mrCommitted
    rw [hr.aMR]
    rfl
  have hm := hd.master
  exact
    { layout := hd.layout.of_same hl (by rw [hr.vol]) (by rw [hr.vol])
      mounted := by rw [hr.vol]; exact hd.mounted
      master := by
        refine ⟨?_, ?_, by rw [hr.disk]; exact hm.features, by rw [hr.disk]; exact hm.fits⟩
        · have hv := hm.valid
          unfold FS.redBufferIsValid at hv ⊢
          rw [hr.vol, hr.disk]
          simp only [Bool.and_eq_true, Bool.not_eq_true', Bool.and_eq_false_iff,
            decide_eq_false_iff_not, not_le] at hv ⊢
          exact ⟨hv.1, .inr (Nat.lt_succ_of_le (le_max_left _ _))⟩
        · rw [hr.disk, ← hm.supported]
          unfold FS.masterIsUnsupported
          rw [hr.vol, hr.dev.2]
      same := by
        rw [hr.disk, hl.inodeCount]
        have := hd.same
        rw [hr.vol, hr.core]
        exact this
      chosen := by rw [hr.disk, hr.cur]; exact hd.chosen
      metaroot := by rw [hr.disk, hr.cur, hmrc]; exact hd.metaroot
      seq := by
        rw [hmrc, hr.vol]
        exact Nat.lt_succ_of_le (le_max_right _ _)
      fresh := by rw [hr.disk, hmrc]; exact hd.fresh }

end

end RelianceEdge
