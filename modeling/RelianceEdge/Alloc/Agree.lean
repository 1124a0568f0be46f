import RelianceEdge.Alloc.FindFree
import RelianceEdge.Format
import RelianceEdge.Mount.Layout

set_option relaxedAutoImplicit false
set_option autoImplicit false
set_option linter.unusedSectionVars false

/-!
# Both imaps are the same allocator

Transaction points, rollbacks and evictions in terms of the machine of two sets, and the runs that
are made of them: the same calls give the same results with either imap, wherever the buffers of the
external one are evicted.

## Main definitions

* `ImapCall`, `ImapEvent` — the calls, and the evictions and flushes between them.
* `imapRun` — what the calls of a run return, and the state it leaves.

## Main results

* `Refines.transact`, `Refines.rollback` — the two sets at a transaction point and at a rollback.
* `imap_agree` — runs of two imaps that stand for the same sets give the same results.
-/

namespace RelianceEdge

variable [RedConf]

open RedConf

section

variable {s s' : FS} {a : Bitmaps} {own : ℕ → Prop} {C : ℕ → Bool}

/-! ## Transaction points -/

lemma Transacted.count (ht : Transacted s s' own C) :
    s'.vol.ulBlockCount = s.vol.ulBlockCount := by
  obtain ⟨s1, hfl, -, rfl⟩ := ht.flushed
  exact hfl.steady.count

lemma Transacted.core (ht : Transacted s s' own C) :
    ∃ n, s'.core = { s.settled.core with
      aMR := fun _ => { s.settled.mr with ullSequence := n }
      bCurMR := !s.core.bCurMR
      fBranched := false } := by
  obtain ⟨s1, hfl, -, rfl⟩ := ht.flushed
  have hc := hfl.steady.core
  refine ⟨s1.vol.ullSequence, ?_⟩
  unfold FS.transacted FS.mr
  simp only [hc]
  rfl

lemma FS.settled_mr (s : FS) : s.settled.mr =
    { s.mr with ulFreeBlocks := u32 (s.mr.ulFreeBlocks + s.core.ulAlmostFreeBlocks) } :=
  FS.setMR_mr s fun mr =>
    { mr with ulFreeBlocks := u32 (mr.ulFreeBlocks + s.core.ulAlmostFreeBlocks) }

/-- **A transaction point** makes the committed sets the working ones. -/
theorem Refines.transact (h : Refines s a) :
    redVolTransact.Ok s fun _ s' => Refines s' (bitTransact a).2 := by
  have hbit : (bitTransact a).2 = if a.branched then a.commit else a := rfl
  rw [hbit]
  rcases hbr : s.core.fBranched with _ | _
  · rw [if_neg (by rw [← h.branched, hbr]; simp)]
    unfold redVolTransact
    refine Op.Ok.get_bind ?_
    rw [Op.when_neg (by simp [hbr])]
    exact Op.Ok.pure h
  rw [if_pos (by rw [← h.branched, hbr])]
  have hl := h.alloc.bits.layout
  have hcount : 3 ≤ s.vol.ulBlockCount := hl.start_ge.trans hl.start_le
  refine (redVolTransact_run h.alloc hcount hbr).mono ?_
  rintro _ s' ht
  obtain ⟨n, hc⟩ := ht.core
  have hstart : s'.core.ulInodeTableStartBN = s.core.ulInodeTableStartBN := by rw [hc]; rfl
  have hblocks : ∀ w, s'.blocksOf w = s.blocksOf w := fun w => by
    funext b
    simp only [FS.blocksOf, hstart]
  have hmr : ∀ bMR, (s'.core.aMR bMR).ulFreeBlocks = u32 (a.free + a.almost) ∧
      (s'.core.aMR bMR).ulAllocNextBlock = s.core.ulInodeTableStartBN + a.next := fun bMR => by
    rw [hc]
    simp only [FS.settled_mr, h.free, h.almost, h.next, and_self]
  refine ⟨?_, ?_, ?_, ?_, ?_, (hmr _).1, (hmr _).1, ?_, ?_, ?_, ?_⟩
  · rw [hblocks, hblocks]
    exact ht.alloc h.alloc
  · -- The nodes that the new committed metaroot selects are the working ones.
    refine ht.onDevice h.alloc h.device ?_
    rintro b ⟨hi, n, hn, rfl⟩
    have hi : s.core.fImapInline = false := by rw [hc] at hi; exact hi
    have hn : n < s.core.ulImapNodeCount := by rw [hc] at hn; exact hn
    rw [show s'.core.redImapNodeBlock (!s'.core.bCurMR) n =
      s.core.redImapNodeBlock s.core.bCurMR n by
      rw [hc]
      unfold CoreVolume.redImapNodeBlock CoreVolume.imapNodeIdxIsValid
      simp only [FS.settled_mr]
      rfl]
    exact ⟨(hl.nodeBlock_lt hi hn _).1, .imap, by simp, h.alloc.bits.nodes hi n hn _⟩
  · rw [ht.count, hstart]
    exact h.count
  · rw [hstart, hc]
    exact h.first
  · rw [hc]
    exact congrArg not h.cur
  · rw [hstart]
    exact (hmr _).2
  · rw [hstart]
    exact (hmr _).2
  · rw [hc]
    rfl
  · rw [hc]
    rfl

/-! ## Rollbacks -/

/-- **A rollback** makes the working sets the committed ones. -/
theorem Refines.rollback (h : Refines s a) :
    redVolRollback.Ok s fun _ s' => Refines s' (bitRollback a).2 := by
  have hbit : (bitRollback a).2 = if a.branched then a.revert else a := rfl
  rw [hbit]
  rcases hbr : s.core.fBranched with _ | _
  · rw [if_neg (by rw [← h.branched, hbr]; simp)]
    unfold redVolRollback
    refine Op.Ok.get_bind ?_
    rw [Op.when_neg (by simp [hbr])]
    exact Op.Ok.pure h
  rw [if_pos (by rw [← h.branched, hbr])]
  refine (redVolRollback_run h.alloc h.device hbr).mono ?_
  rintro _ s' hr
  have hc := hr.core
  have hstart : s'.core.ulInodeTableStartBN = s.core.ulInodeTableStartBN := by rw [hc]
  have hblocks : ∀ w, s'.blocksOf w = s.blocksOf w := fun w => by
    funext b
    simp only [FS.blocksOf, hstart]
  have hmr : s'.mr = s.mrCommitted := by
    unfold FS.mr
    rw [hr.aMR]
  have hmr' : s'.mrCommitted = s.mrCommitted := by
    unfold FS.mrCommitted
    rw [hr.aMR]
    rfl
  refine ⟨?_, ?_, ?_, ?_, ?_, ?_, ?_, ?_, ?_, ?_, ?_⟩
  · rw [hblocks, hblocks]
    exact hr.alloc h.alloc h.device fun hi n hn => ⟨hi, n, hn, rfl⟩
  · have hnode : s'.CommittedNode = s.CommittedNode := by
      funext b
      unfold FS.CommittedNode CoreVolume.redImapNodeBlock CoreVolume.imapNodeIdxIsValid
      rw [hr.aMR, hc]
      rfl
    rw [hnode]
    exact hr.onDevice h.device
  · rw [hr.vol, hstart]
    exact h.count
  · rw [hstart, hc]
    exact h.first
  · rw [hc]
    exact h.cur
  · rw [hmr]
    exact h.freeCommitted
  · rw [hmr']
    exact h.freeCommitted
  · rw [hmr, hstart]
    exact h.nextCommitted
  · rw [hmr', hstart]
    exact h.nextCommitted
  · rw [hc]
    rfl
  · rw [hc]
    rfl

/-! ## Evictions -/

/-- What `RedBufferGet()` does to an unreferenced buffer that it is about to use for another
block. -/
def bufferEvict (bIdx : ℕ) : Red Unit := do
  let s ← .get
  let pHead := s.buf.aHead bIdx
  .when (bIdx < bufferCount ∧ pHead.bRefCount = 0 ∧ pHead.ulBlock ≠ BBLK_INVALID) do
    .when (pHead.fDirty && pHead.ulBlock != BBLK_INVALID) (bufferWrite bIdx)
    bufferInvalidate bIdx

/-- An eviction changes no block. -/
lemma bufferEvict_ok {prot : ℕ → Prop} {R : List ℕ} {X : ℕ → Prop} (hi : BufInv s prot own R X)
    (i : ℕ) : (bufferEvict i).Ok s fun _ s' => Steady s s' prot R ∧ BufInv s' prot own R X := by
  unfold bufferEvict
  refine Op.Ok.get_bind (Op.Ok.when ?_ fun _ => ⟨.refl _ _ _, hi⟩)
  rintro ⟨hlt, href, hv⟩
  have hn := (hi.notMem_iff hlt).1 href
  refine Op.Ok.bind (evict_ok hi hlt hn) ?_
  rintro _ s1 ⟨h1, hi1, hbuf, hdisk⟩
  have hv1 : s1.buf.blk i ≠ BBLK_INVALID := by rw [hbuf]; exact hv
  have hfind : s1.buf.find (s1.buf.blk i) = some i :=
    (BufCtx.find_eq_some_iff hi1.unique).2 ⟨hlt, rfl, hv1⟩
  refine (bufferInvalidate_ok hi1 hlt hn hv1 (D := (· = s1.buf.blk i)) rfl).mono ?_
  rintro _ s2 ⟨ht, hi2, hblk, hother⟩
  have hnone : s2.buf.find (s1.buf.blk i) = none := by
    rw [BufCtx.find_eq_none_iff hv1]
    intro j hj hbj
    by_cases hji : j = i
    · rw [hji, hblk] at hbj
      exact hv1 hbj.symm
    · rw [hother j hji] at hbj
      exact hji (hi1.unique j i hj hlt hbj (hbj ▸ hv1))
  obtain ⟨hok, hnode⟩ := hdisk hv
  refine ⟨h1.trans (ht.steady ?_ fun t hr => ?_), hi2⟩
  · rw [FS.peek_none hnone, FS.peek_some hfind, ht.rest.2.2.2.1, hbuf]
    exact hnode
  · rw [FS.readable_some hfind] at hr
    rw [FS.readable_none hnone, ← hr, ht.rest.2.2.2.1]
    rw [hbuf]
    unfold FS.okFor at hok ⊢
    rw [ht.rest.2.1]
    exact hok

/-! ## Calls -/

/-- A call, on the imap of the volume. -/
def ImapCall.onImap (c : ImapCall) : Red ImapResult := do
  let s ← .get
  match c with
  | get bMR p => do
    let f ← redImapBlockGet bMR (s.blockAt p)
    pure (.bit f)
  | set p f => do
    redImapBlockSet (s.blockAt p) f
    pure .done
  | alloc => do
    let ulBlock ← redImapAllocBlock
    pure (.block (ulBlock - s.core.ulInodeTableStartBN))
  | state p => do
    let st ← redImapBlockState (s.blockAt p)
    pure (.state st)
  | transact => do
    redVolTransact
    pure .done
  | rollback => do
    redVolRollback
    pure .done

/-- What may happen to an imap: a call, or, between calls, an eviction or a flush. -/
inductive ImapEvent where
  | call (c : ImapCall)
  | evict (bIdx : ℕ)
  | flush (ulBlockStart ulBlockCount : ℕ)

/-- The calls of a run. -/
def imapCalls : List ImapEvent → List ImapCall
  | [] => []
  | .call c :: rest => c :: imapCalls rest
  | .evict _ :: rest => imapCalls rest
  | .flush _ _ :: rest => imapCalls rest

/-- What the calls of a run return, and the state it leaves. A call that never returns is the
last. -/
def imapRun (s : FS) : List ImapEvent → List (Except RedError ImapResult) × FS
  | [] => ([], s)
  | .call c :: rest =>
    let r := c.onImap s
    if hangs r.1 then ([r.1], r.2) else (r.1 :: (imapRun r.2 rest).1, (imapRun r.2 rest).2)
  | .evict bIdx :: rest => imapRun (bufferEvict bIdx s).2 rest
  | .flush ulBlockStart ulBlockCount :: rest =>
    imapRun (redBufferFlushRange ulBlockStart ulBlockCount s).2 rest

/-- A call whose value is renamed, and those of its counterpart. -/
lemma Op.Post.renamed {α β : Type} {x : Red α} {y : Bit β} {f : β → α} {g : α → ImapResult}
    {k : β → ImapResult} (hg : ∀ b, g (f b) = k b)
    (h : x.Post s fun r s' => r = (y a).1.map f ∧ (hangs r = false → Refines s' (y a).2)) :
    (x >>= fun v => pure (g v)).Post s fun r s' =>
      r = ((y >>= fun v => (pure (k v) : Bit ImapResult)) a).1 ∧
        (hangs r = false → Refines s' ((y >>= fun v => (pure (k v) : Bit ImapResult)) a).2) := by
  unfold Op.Post at h ⊢
  rw [Op.bind_pure_run, Op.bind_pure_run, h.1]
  refine ⟨?_, fun hr => h.2 ?_⟩
  · rcases (y a).1 with e | v
    · rfl
    · exact congrArg Except.ok (hg v)
  · rwa [h.1, ← hangs_map _ g]

/-- **Every call** gives what it gives on the two sets. -/
theorem Refines.call (h : Refines s a) (c : ImapCall) :
    c.onImap.Post s fun r s' =>
      r = (c.onBits a).1 ∧ (hangs r = false → Refines s' (c.onBits a).2) := by
  have hid : ∀ {α : Type} (r : Except RedError α), r = r.map id := fun r => by
    cases r <;> rfl
  refine Op.Post.get_bind ?_
  cases c with
  | get bMR p =>
    refine Op.Post.renamed (f := id) (fun _ => rfl) ((h.get bMR p).mono fun r s' hr => ?_)
    exact ⟨hr.1.trans (hid _), fun _ => hr.2⟩
  | set p f =>
    refine Op.Post.renamed (f := id) (fun _ => rfl) ((h.set p f).mono fun r s' hr => ?_)
    exact ⟨hr.1.trans (hid _), fun _ => hr.2⟩
  | alloc =>
    refine Op.Post.renamed (fun p => ?_) (h.allocBlock.mono fun r s' hr =>
      ⟨hr.1, fun hh => hr.2 (hangs_ne hh)⟩)
    exact congrArg ImapResult.block (Nat.add_sub_cancel_left _ _)
  | state p =>
    refine Op.Post.renamed (f := id) (fun _ => rfl) ((h.state p).mono fun r s' hr => ?_)
    exact ⟨hr.1.trans (hid _), fun _ => hr.2⟩
  | transact =>
    exact Op.Post.renamed (f := id) (fun _ => rfl) (h.transact.post fun _ s' hr =>
      ⟨rfl, fun _ => hr⟩)
  | rollback =>
    exact Op.Post.renamed (f := id) (fun _ => rfl) (h.rollback.post fun _ s' hr =>
      ⟨rfl, fun _ => hr⟩)

/-- An eviction is no change. -/
lemma Refines.evict (h : Refines s a) (i : ℕ) : Refines (bufferEvict i s).2 a := by
  obtain ⟨_, s', hrun, hs, hi⟩ := bufferEvict_ok h.alloc.buf i
  rw [hrun]
  exact h.of_steady hs (h.alloc.of_steady hs hi)

/-- A flush is no change. -/
lemma Refines.flush (h : Refines s a) (ulBlockStart n : ℕ) :
    Refines (redBufferFlushRange ulBlockStart n s).2 a := by
  rcases hv : s.blockRangeIsValid ulBlockStart n with _ | _
  · unfold redBufferFlushRange
    rw [Op.get_bind_run, if_neg (by simp [hv])]
    exact h
  · obtain ⟨hn, hle⟩ := FS.blockRangeIsValid_iff.1 hv
    obtain ⟨_, s', hrun, hf, -⟩ := redBufferFlushRange_blocks h.alloc.buf hn hle
    rw [hrun]
    exact h.of_steady hf.steady (h.alloc.of_steady hf.steady hf.inv)

/-- **A run of an imap** is the run of its calls on the two sets. -/
theorem Refines.run (h : Refines s a) (es : List ImapEvent) :
    (imapRun s es).1 = (bitRun a (imapCalls es)).1 ∧
      ((∀ r ∈ (imapRun s es).1, hangs r = false) →
        Refines (imapRun s es).2 (bitRun a (imapCalls es)).2) := by
  induction es generalizing s a with
  | nil => exact ⟨rfl, fun _ => h⟩
  | cons e rest ih =>
    cases e with
    | call c =>
      obtain ⟨hr, hnext⟩ := h.call c
      unfold imapRun imapCalls bitRun
      dsimp only
      rw [← hr]
      rcases hh : hangs (c.onImap s).1 with _ | _
      · obtain ⟨h1, h2⟩ := ih (hnext hh)
        simp only [Bool.false_eq_true, if_false]
        refine ⟨by rw [h1], fun hall => h2 fun r hmem => hall r (List.mem_cons_of_mem _ hmem)⟩
      · rw [if_pos rfl, if_pos rfl]
        refine ⟨rfl, fun hall => ?_⟩
        rw [hall _ List.mem_cons_self] at hh
        cases hh
    | evict i => exact ih (h.evict i)
    | flush ulBlockStart n => exact ih (h.flush ulBlockStart n)

end

/-! ## A volume to begin with -/

/-- A volume of `n` blocks, just mounted, with nothing in its imap. -/
def emptyVolume (ver n inodes : ℕ) : FS :=
  let s := emptyGeometry ver n inodes
  { s with disk := fun b =>
      if b = BLOCK_NUM_MASTER then
        ⟨.node .master, 1, true, true, .master (s.formatMaster ver)⟩
      else if b = BLOCK_NUM_FIRST_METAROOT then (emptyMetaroot n inodes 2).block
      else if b = BLOCK_NUM_FIRST_METAROOT + 1 then (emptyMetaroot n inodes 1).block
      else ⟨.node .imap, 1, true, true, .imap fun _ => false⟩ }

/-- The two sets of such a volume. -/
def emptyBits (n inodes : ℕ) : Bitmaps where
  count := n - layoutStart n
  first := inodes * 2
  cur := true
  working := fun _ => false
  committed := fun _ => false
  free := n - (layoutStart n + inodes * 2)
  freeCommitted := n - (layoutStart n + inodes * 2)
  next := inodes * 2
  nextCommitted := inodes * 2
  almost := 0
  branched := false

/-- Volumes with as many positions stand for the same sets. -/
lemma emptyBits_congr {n m inodes : ℕ} (h : n - layoutStart n = m - layoutStart m) :
    emptyBits n inodes = emptyBits m inodes := by
  have hfree : n - (layoutStart n + inodes * 2) = m - (layoutStart m + inodes * 2) := by omega
  unfold emptyBits
  rw [h, hfree]

lemma emptyBits_idle (n inodes : ℕ) : (emptyBits n inodes).Idle := fun _ => ⟨rfl, rfl, rfl, rfl⟩

section

variable {ver n inodes : ℕ}

lemma emptyVolume_imap {b : ℕ} (hb : 3 ≤ b) :
    (emptyVolume ver n inodes).disk b = ⟨.node .imap, 1, true, true, .imap fun _ => false⟩ := by
  change (if b = BLOCK_NUM_MASTER then _ else if b = BLOCK_NUM_FIRST_METAROOT then _
    else if b = BLOCK_NUM_FIRST_METAROOT + 1 then _ else _) = _
  rw [if_neg (by rw [BLOCK_NUM_MASTER]; omega), if_neg (by rw [BLOCK_NUM_FIRST_METAROOT]; omega),
    if_neg (by rw [BLOCK_NUM_FIRST_METAROOT]; omega)]

lemma emptyVolume_layout (h : LayoutFits n inodes) : (emptyVolume ver n inodes).HasLayout := by
  have hg : (emptyGeometry ver n inodes).HasLayout := FS.withLayout_hasLayout h
  exact hg.of_same ⟨rfl, rfl, rfl, rfl, rfl, rfl⟩ rfl rfl

lemma emptyVolume_master (hv : redDiskLayoutIsSupported ver = true) (h : LayoutFits n inodes) :
    (emptyVolume ver n inodes).HasMaster where
  valid := rfl
  supported := by
    have hm : ((emptyVolume ver n inodes).disk BLOCK_NUM_MASTER).node.asMaster =
        (emptyGeometry ver n inodes).formatMaster ver := rfl
    rw [hm]
    unfold FS.masterIsUnsupported FS.formatMaster
    have hcount : (emptyGeometry ver n inodes).vol.ulBlockCount = n := rfl
    have hcount' : (emptyVolume ver n inodes).vol.ulBlockCount = n := rfl
    have hsector : (emptyVolume ver n inodes).bSectorSizeP2 = 9 := rfl
    have hsector' : (emptyGeometry ver n inodes).bSectorSizeP2 = 9 := rfl
    simp only [hv, hcount, hcount', hsector, hsector']
    by_cases hver : RED_DISK_LAYOUT_POSIXIER ≤ ver <;> simp [hver]
  features := by
    have hm : ((emptyVolume ver n inodes).disk BLOCK_NUM_MASTER).node.asMaster.uFeaturesReadOnly =
        MBFEATURE_MASK_WRITEABLE := rfl
    rw [hm, Nat.and_self]
  fits := h

/-- **Every geometry that has a layout has a volume that stands for two empty sets.** -/
theorem emptyVolume_refines (hv : redDiskLayoutIsSupported ver = true) (h : LayoutFits n inodes) :
    Refines (emptyVolume ver n inodes) (emptyBits n inodes) := by
  have hlayout : (emptyVolume ver n inodes).HasLayout := emptyVolume_layout h
  have hl := hlayout.layout
  have hbuf : (emptyVolume ver n inodes).NoBuffers := FS.noBuffers_init rfl h.count_le
  have hnode : ∀ b, 3 ≤ b → (emptyVolume ver n inodes).peek b = .imap fun _ => false := by
    intro b hb
    rw [hbuf.peek, emptyVolume_imap hb]
  have hle : layoutStart n + inodes * 2 ≤ n := h.inodes_le
  have hbit : ∀ bMR b, (emptyVolume ver n inodes).covers b = true →
      (emptyVolume ver n inodes).imapBit bMR b = false := fun bMR b hb => by
    unfold FS.imapBit
    rcases hi : (emptyVolume ver n inodes).core.fImapInline with _ | _
    · simp only [Bool.false_eq_true, if_false]
      rw [hnode _ (hl.nodeBlock_lt hi (FS.covers_node hi hb) bMR).1]
      rfl
    · rfl
  refine ⟨⟨⟨hl, fun b hb => hbit _ b hb, fun b hb => hbit _ b hb, fun hi k hk bMR => ?_⟩,
    hbuf.inv rfl h.count_le, fun b hb _ => hb, fun b hb => hb⟩, ?_, ?_, rfl, rfl, rfl, rfl,
    rfl, rfl, rfl,
    rfl⟩
  · rw [hbuf.readable, emptyVolume_imap (hl.nodeBlock_lt hi hk bMR).1]
    rfl
  · refine ⟨hlayout, rfl, emptyVolume_master hv h, ⟨rfl, rfl, rfl⟩, ?_, rfl, Nat.lt_succ_self 2, ?_⟩
    · rfl
    · rintro b ⟨hi, k, hk, rfl⟩
      rw [emptyVolume_imap (hl.nodeBlock_lt hi hk _).1]
      exact le_max_left 1 _
  · change n = layoutStart n + (n - layoutStart n)
    omega

end

/-! ## Both imaps -/

omit [RedConf] in
/-- **Inline and external imaps are the same allocator.** Two volumes, each with its own build of
the driver and its own way to store the imap, that stand for the same two sets: the same calls, with
any evictions and flushes between them, give the results that the two sets give, and the volumes
stand for what these calls make of the two sets. From there on a transaction point makes the
committed set the working one, and a rollback makes the working set the committed one. -/
theorem imap_agree (c c' : RedConf) (s s' : FS) (a : Bitmaps) (h : @Refines c s a)
    (h' : @Refines c' s' a) (hidle : a.Idle) (es es' : List ImapEvent)
    (hes : imapCalls es = imapCalls es') :
    (@imapRun c s es).1 = (@imapRun c' s' es').1 ∧
      (@imapRun c s es).1 = (bitRun a (imapCalls es)).1 ∧
      ((∀ r ∈ (@imapRun c s es).1, hangs r = false) →
        let a' := (bitRun a (imapCalls es)).2
        @Refines c (@imapRun c s es).2 a' ∧ @Refines c' (@imapRun c' s' es').2 a' ∧
        (∃ a1, a1.working = a'.working ∧ a1.committed = a'.working ∧
          (@redVolTransact c).Ok (@imapRun c s es).2 (fun _ t => @Refines c t a1) ∧
          (@redVolTransact c').Ok (@imapRun c' s' es').2 (fun _ t => @Refines c' t a1)) ∧
        ∃ a1, a1.working = a'.committed ∧ a1.committed = a'.committed ∧
          (@redVolRollback c).Ok (@imapRun c s es).2 (fun _ t => @Refines c t a1) ∧
          (@redVolRollback c').Ok (@imapRun c' s' es').2 (fun _ t => @Refines c' t a1)) := by
  obtain ⟨h1, h2⟩ := @Refines.run c s a h es
  obtain ⟨h1', h2'⟩ := @Refines.run c' s' a h' es'
  rw [← hes] at h1' h2'
  refine ⟨h1.trans h1'.symm, h1, fun hall => ?_⟩
  have hr := h2 hall
  have hr' := h2' (by rwa [h1', ← h1])
  have hi := hidle.run (imapCalls es)
  refine ⟨hr, hr', ⟨(bitTransact _).2, bitTransact_working _, hi.transact_committed,
    @Refines.transact c _ _ hr, @Refines.transact c' _ _ hr'⟩, (bitRollback _).2,
    hi.rollback_working, bitRollback_committed _, @Refines.rollback c _ _ hr,
    @Refines.rollback c' _ _ hr'⟩

omit [RedConf] in
/-- The volumes of 3746 and of 3748 blocks have the same positions, the first with an inline imap,
the second with an external one. Both give what the two sets give. -/
theorem imap_agree_small : letI := smallConf
    layoutInline 3746 = true ∧ layoutInline 3748 = false ∧
      (imapRun (emptyVolume 5 3746 4) [.call .alloc, .call .transact]).1 =
        (imapRun (emptyVolume 5 3748 4) [.call .alloc, .evict 0, .call .transact]).1 ∧
      (imapRun (emptyVolume 5 3746 4) [.call .alloc, .call .transact]).1 =
        (bitRun (emptyBits 3746 4) [.alloc, .transact]).1 := by
  let _ := smallConf
  have hinline : LayoutFits 3746 4 := ⟨by decide, by decide, by decide, by decide, by decide⟩
  have hexternal : LayoutFits 3748 4 := ⟨by decide, by decide, by decide, by decide, by decide⟩
  have hver : redDiskLayoutIsSupported 5 = true := by decide
  have h : Refines (emptyVolume 5 3746 4) (emptyBits 3746 4) := emptyVolume_refines hver hinline
  have h' : Refines (emptyVolume 5 3748 4) (emptyBits 3746 4) := by
    rw [emptyBits_congr (n := 3746) (m := 3748) (by decide)]
    exact emptyVolume_refines hver hexternal
  obtain ⟨hsame, hbits, -⟩ := imap_agree smallConf smallConf _ _ _ h h' (emptyBits_idle _ _)
    [.call .alloc, .call .transact] [.call .alloc, .evict 0, .call .transact] rfl
  exact ⟨by decide, by decide, hsame, hbits⟩

end RelianceEdge
