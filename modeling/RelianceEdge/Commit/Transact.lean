import RelianceEdge.Alloc.Set
import RelianceEdge.Mount.Device

set_option relaxedAutoImplicit false
set_option autoImplicit false
set_option linter.unusedSectionVars false

/-!
# The committed state and the transaction point

Between two transaction points the device holds the state that the last one committed: the master
block, the metaroot that a mount would select, and the metadata below it. A transaction point
flushes what is dirty and then writes the other metaroot, which a mount selects from then on.

## Main definitions

* `OnDevice` — the device holds the committed state.
* `Transacted` — what a transaction point leaves.

## Main results

* `OnDevice.of_frame` — a run that leaves the committed state alone leaves it on the device.
* `redVolTransact_run` — a transaction point succeeds and commits the working state.
-/

namespace RelianceEdge

variable [RedConf]

open RedConf

/-- **The device holds the committed state.** The blocks `K` are metadata of that state: their
sequence numbers are not higher than that of the metaroot. -/
structure OnDevice (s : FS) (K : ℕ → Prop) : Prop where
  layout : s.HasLayout
  mounted : s.vol.fMounted = true
  master : s.HasMaster
  same : (s.disk BLOCK_NUM_MASTER).node.asMaster.ulBlockCount = s.vol.ulBlockCount ∧
    (s.disk BLOCK_NUM_MASTER).node.asMaster.ulInodeCount = s.core.ulInodeCount ∧
    (s.disk BLOCK_NUM_MASTER).node.asMaster.ulVersion = s.core.ulVersion
  chosen : chooseMetaroot (s.disk BLOCK_NUM_FIRST_METAROOT)
    (s.disk (BLOCK_NUM_FIRST_METAROOT + 1)) = .ok (!s.core.bCurMR)
  metaroot : (s.disk (BLOCK_NUM_FIRST_METAROOT + (!s.core.bCurMR).toNat)).metaroot = s.mrCommitted
  seq : s.mrCommitted.ullSequence < s.vol.ullSequence
  fresh : ∀ b, K b → (s.disk b).ullSequence ≤
    max (s.disk BLOCK_NUM_MASTER).ullSequence s.mrCommitted.ullSequence

section

variable {s s' : FS} {K K' : ℕ → Prop} {W C : ℕ → Bool} {own : ℕ → Prop} {prot : ℕ → Prop}
  {R : List ℕ} {D : ℕ → Prop}

lemma FS.HasMaster.of_eq (h : s.HasMaster)
    (hv : s'.vol = { s.vol with ullSequence := s'.vol.ullSequence })
    (hseq : s.vol.ullSequence ≤ s'.vol.ullSequence) (hsec : s'.bSectorSizeP2 = s.bSectorSizeP2)
    (hd : s'.disk BLOCK_NUM_MASTER = s.disk BLOCK_NUM_MASTER) : s'.HasMaster := by
  refine ⟨?_, ?_, by rw [hd]; exact h.features, by rw [hd]; exact h.fits⟩
  · have hvalid := h.valid
    rw [hd]
    unfold FS.redBufferIsValid at hvalid ⊢
    rw [hv]
    simp only [Bool.and_eq_true, Bool.not_eq_true', Bool.and_eq_false_iff,
      decide_eq_false_iff_not, not_le] at hvalid ⊢
    exact ⟨hvalid.1, hvalid.2.imp_right fun hlt => hlt.trans_le hseq⟩
  · rw [hd, ← h.supported]
    unfold FS.masterIsUnsupported
    rw [hv, hsec]

/-- A run that leaves the committed state alone leaves it on the device. -/
lemma OnDevice.of_frame (h : OnDevice s K) (hf : Frame s s' prot R D) (hk : s.core.Keeps s'.core)
    (hp : ∀ b, b < 3 ∨ K b → prot b) : OnDevice s' K := by
  have hlow : ∀ b, b < 3 → s'.disk b = s.disk b := fun b hb => hf.disk b (hp b (.inl hb))
  have h0 : s'.disk BLOCK_NUM_MASTER = s.disk BLOCK_NUM_MASTER := hlow _ (by decide)
  have hmrc : s'.mrCommitted = s.mrCommitted := by
    unfold FS.mrCommitted
    rw [hk.cur, hk.committed]
  exact
    { layout := h.layout.of_same hk.sameLayout hf.count (by rw [hf.vol])
      mounted := by rw [hf.vol]; exact h.mounted
      master := h.master.of_eq hf.vol hf.seq hf.dev.2 h0
      same := by rw [h0, hf.count, hk.inodeCount, hk.version]; exact h.same
      chosen := by rw [hlow _ (by decide), hlow _ (by decide), hk.cur]; exact h.chosen
      metaroot := by
        rw [hmrc, hk.cur, hlow]
        · exact h.metaroot
        · cases s.core.bCurMR <;> decide
      seq := by rw [hmrc]; exact h.seq.trans_le hf.seq
      fresh := fun b hb => by
        rw [hmrc, h0, hf.disk b (hp b (.inr hb))]
        exact h.fresh b hb }

lemma OnDevice.mono (h : OnDevice s K) (hK : ∀ b, K' b → K b) : OnDevice s K' :=
  { h with fresh := fun b hb => h.fresh b (hK b hb) }

/-! ## The transaction point -/

/-- The state at the end of a transaction point, from the one after the flush of the buffers. -/
def FS.transacted (s : FS) : FS :=
  let mr := { s.mr with ullSequence := s.vol.ullSequence }
  let ulBlock := BLOCK_NUM_FIRST_METAROOT + s.core.bCurMR.toNat
  { s with
    disk := Function.update s.disk ulBlock mr.block
    history := .flush :: .write ulBlock mr.block (.metaroot true) :: .flush :: s.history
    vol := { s.vol with ullSequence := s.vol.ullSequence + 1 }
    core := { s.core with
      aMR := fun _ => mr
      bCurMR := !s.core.bCurMR
      fBranched := false } }

/-- The counts as they are committed. -/
def FS.settled (s : FS) : FS :=
  let s' := s.setMR fun mr =>
    { mr with ulFreeBlocks := u32 (mr.ulFreeBlocks + s.core.ulAlmostFreeBlocks) }
  { s' with core := { s'.core with ulAlmostFreeBlocks := 0 } }

/-- **What a transaction point leaves**: the state that some run of the cache reached, committed. -/
structure Transacted (s s' : FS) (own : ℕ → Prop) (C : ℕ → Bool) : Prop where
  flushed : ∃ s1, Flushed s.settled s1 (s.Prot C) own [] [] (fun _ => False) ∧
    (∀ i, i < bufferCount → s1.buf.blk i ≠ BBLK_INVALID → (s1.buf.aHead i).fDirty = false) ∧
    s' = s1.transacted

lemma FS.settled_keeps (s : FS) : s.core.Keeps s.settled.core := by
  have h := FS.setMR_keeps s fun mr =>
    { mr with ulFreeBlocks := u32 (mr.ulFreeBlocks + s.core.ulAlmostFreeBlocks) }
  exact ⟨h.version, h.inline, h.imapStart, h.nodeCount, h.tableStart, h.inodeCount, h.first, h.cur,
    h.committed⟩

lemma AllocInv.settled (h : AllocInv s W C own R D) : AllocInv s.settled W C own R D :=
  AllocInv.of_core (h.setMR (fun mr => { mr with
    ulFreeBlocks := u32 (mr.ulFreeBlocks + s.core.ulAlmostFreeBlocks) }) fun _ => rfl) _
    ⟨rfl, rfl, rfl, rfl, rfl, rfl, rfl, rfl, rfl⟩ rfl

/-- A transaction point flushes the buffers and writes the metaroot, whatever may be dirty. -/
lemma redVolTransact_flushed (h : BufInv s.settled prot own [] (fun _ => False))
    (hl : 3 ≤ s.vol.ulBlockCount) (hbr : s.core.fBranched = true) :
    redVolTransact.Ok s fun _ s' => ∃ s1, Flushed s.settled s1 prot own [] [] (fun _ => False) ∧
      (∀ i, i < bufferCount → s1.buf.blk i ≠ BBLK_INVALID → (s1.buf.aHead i).fDirty = false) ∧
      s' = s1.transacted := by
  unfold redVolTransact
  refine .get_bind ?_
  rw [Op.when_pos hbr]
  refine Op.Ok.attempt_bind_ok (Q := fun _ s' => ∃ s1,
    Flushed s.settled s1 prot own [] [] (fun _ => False) ∧
    (∀ i, i < bufferCount → s1.buf.blk i ≠ BBLK_INVALID → (s1.buf.aHead i).fDirty = false) ∧
    s' = s1.transacted) ?_ fun _ s' ht => .pure ht
  refine .modify_bind (.modify_bind ?_)
  change (_ : Red Unit).Ok s.settled _
  refine (redBufferFlushRange_blocks h (by omega) (by
    change 0 + s.vol.ulBlockCount ≤ s.vol.ulBlockCount; omega)).bind ?_
  rintro - s1 ⟨hfl, hclean⟩
  have hcount : s1.vol.ulBlockCount = s.vol.ulBlockCount := hfl.steady.count
  have hvalid :
      s1.blockRangeIsValid (BLOCK_NUM_FIRST_METAROOT + s1.core.bCurMR.toNat) 1 = true := by
    refine FS.blockRangeIsValid_one ?_
    have : s1.core.bCurMR.toNat ≤ 1 := by cases s1.core.bCurMR <;> decide
    rw [hcount, BLOCK_NUM_FIRST_METAROOT]
    omega
  refine .modify_bind (.modify_bind (.modify_bind (.get_bind ?_)))
  refine .run_bind (redIoWrite_one hvalid) (.modify_bind (.modify ?_))
  refine ⟨s1, hfl, fun i hi hv => hclean i hi hv ?_, ?_⟩
  · have := hfl.inv.lt i hi hv
    unfold InRange
    omega
  · have hT : ∀ s : FS, s.core.bCurMR = s1.core.bCurMR → s.writeTarget
        (BLOCK_NUM_FIRST_METAROOT + s1.core.bCurMR.toNat) = .metaroot true := fun s h => by
      unfold FS.writeTarget
      rw [← h]
      cases s.core.bCurMR <;> rfl
    have hmr : ∀ (f : Bool → Metaroot) (b : Bool) (mr : Metaroot),
        Function.update (Function.update f b mr) (!b) mr = fun _ => mr := by
      intro f b mr
      funext b'
      cases b <;> cases b' <;> rfl
    unfold FS.transacted FS.writeBlock
    simp only [FS.setMR, FS.mr, Function.update_self, hmr, hT]

/-- **A transaction point succeeds.** -/
theorem redVolTransact_run (h : AllocInv s W C own [] (fun _ => False))
    (hl : 3 ≤ s.vol.ulBlockCount)
    (hbr : s.core.fBranched = true) :
    redVolTransact.Ok s fun _ s' => Transacted s s' own C := by
  have hbuf := h.settled.buf
  rw [FS.prot_congr s.settled_keeps rfl] at hbuf
  exact (redVolTransact_flushed hbuf hl hbr).mono fun _ _ h => ⟨h⟩

/-! ## What it leaves -/

lemma FS.transacted_disk {b : ℕ} (hb : b < 1 ∨ 3 ≤ b) : s.transacted.disk b = s.disk b := by
  have : s.core.bCurMR.toNat ≤ 1 := by cases s.core.bCurMR <;> decide
  unfold FS.transacted
  exact Function.update_of_ne (by rw [BLOCK_NUM_FIRST_METAROOT]; omega) _ _

lemma FS.transacted_peek {b : ℕ} (hb : 3 ≤ b) : s.transacted.peek b = s.peek b := by
  unfold FS.peek
  rw [FS.transacted_disk (.inr hb)]
  rfl

lemma FS.transacted_okFor {t : BufType} {block : DiskBlock} (h : s.okFor t block = true) :
    s.transacted.okFor t block = true := FS.okFor_mono (Nat.le_succ _) h

lemma FS.transacted_readable {b : ℕ} {t : BufType} (hb : 3 ≤ b) (h : s.Readable b t) :
    s.transacted.Readable b t := by
  have hbuf : s.transacted.buf = s.buf := rfl
  unfold FS.Readable at h ⊢
  rw [hbuf]
  cases hf : s.buf.find b with
  | some i =>
    rw [hf] at h
    exact h
  | none =>
    rw [hf] at h
    simp only at h ⊢
    rw [FS.transacted_disk (.inr hb)]
    exact FS.transacted_okFor h

lemma FS.transacted_sameLayout : s.core.SameLayout s.transacted.core :=
  ⟨rfl, rfl, rfl, rfl, rfl, rfl⟩

lemma FS.transacted_nodeBlock (bMR : Bool) (n : ℕ) :
    s.transacted.core.redImapNodeBlock bMR n = s.core.redImapNodeBlock s.core.bCurMR n := rfl

/-- The bitmap that was the working one is also the committed one. -/
lemma ImapBits.transacted (h : ImapBits s W C) : ImapBits s.transacted W W := by
  have hbit : ∀ bMR b, s.covers b = true →
      s.transacted.imapBit bMR b = s.imapBit s.core.bCurMR b := by
    intro bMR b hb
    unfold FS.imapBit
    cases hi : s.core.fImapInline with
    | true =>
      have hi' : s.transacted.core.fImapInline = true := hi
      rw [hi']
      rfl
    | false =>
      have hi' : s.transacted.core.fImapInline = false := hi
      have hn := FS.covers_node hi hb
      have hstart : s.transacted.core.ulInodeTableStartBN = s.core.ulInodeTableStartBN := rfl
      simp only [hi', Bool.false_eq_true, if_false]
      rw [hstart, FS.transacted_nodeBlock, FS.transacted_peek (h.layout.nodeBlock_lt hi hn _).1]
  refine ⟨h.layout.of_sameLayout FS.transacted_sameLayout rfl rfl, fun b hb => ?_, fun b hb => ?_,
    fun hi n hn bMR => ?_⟩
  · rw [hbit _ _ hb]
    exact h.coversWorking b hb
  · rw [hbit _ _ hb]
    exact h.coversWorking b hb
  · rw [FS.transacted_nodeBlock]
    exact FS.transacted_readable (h.layout.nodeBlock_lt hi hn _).1 (h.nodes hi n hn _)

lemma BufInv.transacted {prot' : ℕ → Prop} {X : ℕ → Prop} (h : BufInv s prot own R X)
    (hown : ∀ b, own b → 3 ≤ b)
    (hclean : ∀ i, i < bufferCount → s.buf.blk i ≠ BBLK_INVALID → (s.buf.aHead i).fDirty = false) :
    BufInv s.transacted prot' own R X :=
  { h with
    clean := fun i hi hv hd hx => by
      obtain ⟨hok, hcont⟩ := h.clean i hi hv hd hx
      have hdisk : s.transacted.disk (s.buf.blk i) = s.disk (s.buf.blk i) :=
        FS.transacted_disk (.inr (hown _ (h.owned i hi hv)))
      refine ⟨?_, (congrArg DiskBlock.node hdisk).trans hcont⟩
      rw [← hdisk] at hok
      exact FS.transacted_okFor hok
    dirty := fun i hi hv hd => by
      have hd' : (s.buf.aHead i).fDirty = true := hd
      rw [hclean i hi hv] at hd'
      cases hd' }

variable {K : ℕ → Prop}

/-- **The working state is the committed one** after a transaction point. -/
theorem Transacted.alloc (h : AllocInv s W C own [] (fun _ => False)) (ht : Transacted s s' own C) :
    AllocInv s' W W own [] (fun _ => False) := by
  obtain ⟨s1, hfl, hclean, rfl⟩ := ht.flushed
  have hA := h.settled
  have hsteady := hfl.steady
  rw [← FS.prot_congr s.settled_keeps rfl] at hsteady
  refine ⟨(hA.bits.of_steady hsteady).transacted, hfl.inv.transacted h.high hclean, ?_, h.high⟩
  intro b hb hlt
  have hstart : s1.transacted.core.ulInodeTableStartBN = s.core.ulInodeTableStartBN := by
    rw [FS.transacted_sameLayout.tableStart, hsteady.core]
    exact s.settled_keeps.tableStart
  exact h.low b hb (by rw [← hstart]; exact hlt)

/-- A block that can be read as metadata right after the flush is on the device, with a sequence
number that has been used up. -/
lemma Flushed.seq_lt {s1 : FS} {t : BufType} {b : ℕ}
    (hfl : Flushed s s1 prot own [] [] (fun _ => False))
    (hclean : ∀ i, i < bufferCount → s1.buf.blk i ≠ BBLK_INVALID → (s1.buf.aHead i).fDirty = false)
    (ht : t ≠ .data) (h : s.Readable b t) : (s1.disk b).ullSequence < s1.vol.ullSequence := by
  have hr := hfl.steady.readable b t h
  have hok : s1.okFor t (s1.disk b) = true := by
    cases hf : s1.buf.find b with
    | none => exact (FS.readable_none hf).1 hr
    | some i =>
      rw [FS.readable_some hf] at hr
      obtain ⟨hlt, rfl, hv⟩ := BufCtx.find_some hf
      have := (hfl.inv.clean i hlt hv (hclean i hlt hv) (by simp)).1
      rwa [hr] at this
  rw [FS.okFor, if_neg ht] at hok
  simp only [Bool.and_eq_true, decide_eq_true_eq] at hok
  exact hok.2

lemma metarootIsValid_block (mr : Metaroot) : metarootIsValid mr.block = (true, true) := rfl

/-- The metaroot that is chosen is valid, its first sector included. -/
lemma chooseMetaroot_valid {p0 p1 : DiskBlock} {bMR : Bool} (h : chooseMetaroot p0 p1 = .ok bMR) :
    metarootIsValid (if bMR then p1 else p0) = (true, true) := by
  have hall : ∀ p : DiskBlock, (metarootIsValid p).1 = true → metarootIsValid p = (true, true) := by
    intro p hp
    unfold metarootIsValid at hp ⊢
    split_ifs at hp ⊢ with hs
    rw [Bool.and_eq_true] at hp
    rw [hp.1, hp.2]
    rfl
  unfold chooseMetaroot at h
  rcases h0 : metarootIsValid p0 with ⟨v0, f0⟩
  rcases h1 : metarootIsValid p1 with ⟨v1, f1⟩
  simp only [h0, h1] at h
  split_ifs at h with _ _ c3 c4
  · cases h
    refine hall _ ?_
    rw [if_pos rfl, h1]
    simp only [Bool.and_eq_true] at c3
    exact c3.1
  · cases h
    refine hall _ ?_
    rw [if_neg (by simp), h0]
    exact c4

/-- Of two valid metaroots the one with the higher sequence number is chosen. -/
lemma chooseMetaroot_newer {p0 p1 : DiskBlock} {bMR : Bool}
    (h0 : metarootIsValid p0 = (true, true)) (h1 : metarootIsValid p1 = (true, true))
    (h : if bMR then p0.ullSequence < p1.ullSequence else p1.ullSequence < p0.ullSequence) :
    chooseMetaroot p0 p1 = .ok bMR := by
  unfold chooseMetaroot
  rw [h0, h1]
  cases bMR with
  | true =>
    have h : p0.ullSequence < p1.ullSequence := h
    simp [h]
  | false =>
    have h : p1.ullSequence < p0.ullSequence := h
    simp [not_lt.2 h.le]

/-- The metaroot just written is the one a mount selects. -/
lemma FS.transacted_chosen
    (hch : chooseMetaroot (s.disk BLOCK_NUM_FIRST_METAROOT)
      (s.disk (BLOCK_NUM_FIRST_METAROOT + 1)) = .ok (!s.core.bCurMR))
    (hseq : (s.disk (BLOCK_NUM_FIRST_METAROOT + (!s.core.bCurMR).toNat)).ullSequence <
      s.vol.ullSequence) :
    chooseMetaroot (s.transacted.disk BLOCK_NUM_FIRST_METAROOT)
      (s.transacted.disk (BLOCK_NUM_FIRST_METAROOT + 1)) = .ok s.core.bCurMR := by
  have hold := chooseMetaroot_valid hch
  unfold FS.transacted
  dsimp only
  cases hcur : s.core.bCurMR with
  | true =>
    rw [hcur] at hold hseq
    have hself : BLOCK_NUM_FIRST_METAROOT + 1 = BLOCK_NUM_FIRST_METAROOT + true.toNat := rfl
    rw [Function.update_of_ne (by decide), hself, Function.update_self]
    exact chooseMetaroot_newer hold (metarootIsValid_block _) hseq
  | false =>
    rw [hcur] at hold hseq
    have hne : BLOCK_NUM_FIRST_METAROOT + 1 ≠ BLOCK_NUM_FIRST_METAROOT + false.toNat := by decide
    have hself : ∀ block, Function.update s.disk (BLOCK_NUM_FIRST_METAROOT + false.toNat) block
        BLOCK_NUM_FIRST_METAROOT = block := fun _ => Function.update_self _ _ _
    rw [Function.update_of_ne hne, hself]
    exact chooseMetaroot_newer (metarootIsValid_block _) hold hseq

lemma DiskBlock.metaroot_block (mr : Metaroot) : mr.block.metaroot = mr := rfl

/-- **The device holds what a transaction point committed.** -/
theorem Transacted.onDevice (h : AllocInv s W C own [] (fun _ => False)) (hd : OnDevice s K)
    (ht : Transacted s s' own C) (hK : ∀ b, K' b → 3 ≤ b ∧ ∃ t, t ≠ .data ∧ s.Readable b t) :
    OnDevice s' K' := by
  obtain ⟨s1, hfl, hclean, rfl⟩ := ht.flushed
  have hs := hfl.steady
  rw [← FS.prot_congr s.settled_keeps rfl] at hs
  have hA := h.settled
  -- The flush leaves the committed state alone.
  have hd1 : OnDevice s1 (fun _ => False) := by
    have hset : OnDevice s.settled (fun _ => False) := by
      have hf : Frame s s.settled (s.Prot C) [] (fun _ => False) := Frame.of_core s.settled.core
      exact (hd.mono fun _ hf => hf.elim).of_frame hf s.settled_keeps fun b hb =>
        .inl (hb.resolve_right id)
    exact hset.of_frame (hA.bits.frame (D := fun _ => False) hs) (.of_eq hs.core) fun b hb =>
      .inl (hb.resolve_right id)
  have hseq : (s1.disk (BLOCK_NUM_FIRST_METAROOT + (!s1.core.bCurMR).toNat)).ullSequence <
      s1.vol.ullSequence := by
    have := hd1.seq
    rw [← hd1.metaroot] at this
    exact this
  have hlayout := FS.transacted_sameLayout (s := s1)
  have h0 : s1.transacted.disk BLOCK_NUM_MASTER = s1.disk BLOCK_NUM_MASTER :=
    FS.transacted_disk (.inl (by decide))
  have hslot : s1.transacted.disk (BLOCK_NUM_FIRST_METAROOT + (!s1.transacted.core.bCurMR).toNat) =
      s1.transacted.mrCommitted.block := by
    have hcur : (!s1.transacted.core.bCurMR) = s1.core.bCurMR := Bool.not_not _
    rw [hcur]
    exact Function.update_self _ _ _
  exact
    { layout := hd1.layout.of_same hlayout rfl rfl
      mounted := hd1.mounted
      master := hd1.master.of_eq rfl (Nat.le_succ _) rfl h0
      same := by rw [h0]; exact hd1.same
      chosen := by
        rw [FS.transacted_chosen hd1.chosen hseq]
        exact congrArg Except.ok (Bool.not_not _).symm
      metaroot := by rw [hslot, DiskBlock.metaroot_block]
      seq := Nat.lt_succ_self _
      fresh := fun b hb => by
        obtain ⟨hge, t, htne, hr⟩ := hK b hb
        have hlt := hfl.seq_lt hclean htne hr
        rw [FS.transacted_disk (.inr hge)]
        exact hlt.le.trans (le_max_right _ _) }

end

end RelianceEdge
