import RelianceEdge.Alloc.Machine
import RelianceEdge.Commit.Rollback

set_option relaxedAutoImplicit false
set_option autoImplicit false
set_option linter.unusedSectionVars false

/-!
# Both imaps are the two sets

The inline and the external imap refine the same machine of two sets, call by call. The position of
a block is its distance from the first block that has a bit.

## Main definitions

* `Refines` — the state of the driver stands for a pair of sets with their counts.

## Main results

* `Refines.get`, `Refines.set`, `Refines.state` — these operations give what the machine gives.
-/

namespace RelianceEdge

variable [RedConf]

open RedConf

/-- A set of positions as a set of blocks. -/
def FS.blocksOf (s : FS) (w : ℕ → Bool) (b : ℕ) : Bool := w (b - s.core.ulInodeTableStartBN)

/-- The locations of the imap nodes that the committed metaroot selects. -/
def FS.CommittedNode (s : FS) (b : ℕ) : Prop :=
  s.core.fImapInline = false ∧ ∃ n, n < s.core.ulImapNodeCount ∧
    b = s.core.redImapNodeBlock (!s.core.bCurMR) n

/-- **The state stands for the pair of sets `a`**, whichever way the imap is stored. -/
structure Refines (s : FS) (a : Bitmaps) : Prop where
  alloc : AllocInv s (s.blocksOf a.working) (s.blocksOf a.committed) (3 ≤ ·) [] (fun _ => False)
  device : OnDevice s s.CommittedNode
  count : s.vol.ulBlockCount = s.core.ulInodeTableStartBN + a.count
  first : s.core.ulFirstAllocableBN = s.core.ulInodeTableStartBN + a.first
  cur : s.core.bCurMR = a.cur
  free : s.mr.ulFreeBlocks = a.free
  freeCommitted : s.mrCommitted.ulFreeBlocks = a.freeCommitted
  next : s.mr.ulAllocNextBlock = s.core.ulInodeTableStartBN + a.next
  nextCommitted : s.mrCommitted.ulAllocNextBlock = s.core.ulInodeTableStartBN + a.nextCommitted
  almost : s.core.ulAlmostFreeBlocks = a.almost
  branched : s.core.fBranched = a.branched

section

variable {s s' : FS} {a a' : Bitmaps} {p : ℕ} {f : Bool} {D : ℕ → Prop}

lemma FS.blocksOf_keeps (hk : s.core.Keeps s'.core) (w : ℕ → Bool) :
    s'.blocksOf w = s.blocksOf w := by
  funext b
  simp only [FS.blocksOf, hk.tableStart]

lemma FS.committedNode_keeps (hk : s.core.Keeps s'.core) : s'.CommittedNode = s.CommittedNode := by
  funext b
  simp only [FS.CommittedNode, hk.inline, hk.nodeCount, hk.nodeBlock_committed]

lemma FS.mrCommitted_keeps (hk : s.core.Keeps s'.core) : s'.mrCommitted = s.mrCommitted := by
  unfold FS.mrCommitted
  rw [hk.cur, hk.committed]

lemma FS.Layout.committedNode_prot (hl : s.Layout) {C : ℕ → Bool} {b : ℕ} (h : s.CommittedNode b) :
    s.Prot C b := by
  obtain ⟨hi, n, hn, rfl⟩ := h
  refine .inr (.inr (.inl ⟨(hl.nodeBlock_lt hi hn _).2, ?_⟩))
  rw [CoreVolume.nodeBlock_div]

/-- The sets of positions that two machines may differ in when only the working state changes. -/
structure Bitmaps.SameCommitted (a a' : Bitmaps) : Prop where
  count : a'.count = a.count
  first : a'.first = a.first
  cur : a'.cur = a.cur
  committed : a'.committed = a.committed
  freeCommitted : a'.freeCommitted = a.freeCommitted
  nextCommitted : a'.nextCommitted = a.nextCommitted

/-- A run between two transaction points, with what it does to the working state. -/
lemma Refines.of_frame (h : Refines s a) (ha : a.SameCommitted a')
    (hf : Frame s s' (s.Prot (s.blocksOf a.committed)) [] D) (hk : s.core.Keeps s'.core)
    (hA : AllocInv s' (s.blocksOf a'.working) (s.blocksOf a.committed) (3 ≤ ·) [] (fun _ => False))
    (hfree : s'.mr.ulFreeBlocks = a'.free)
    (hnext : s'.mr.ulAllocNextBlock = s.core.ulInodeTableStartBN + a'.next)
    (halmost : s'.core.ulAlmostFreeBlocks = a'.almost)
    (hbranched : s'.core.fBranched = a'.branched) : Refines s' a' where
  alloc := by
    rw [FS.blocksOf_keeps hk, FS.blocksOf_keeps hk, ha.committed]
    exact hA
  device := by
    rw [FS.committedNode_keeps hk]
    refine h.device.of_frame hf hk fun b hb => ?_
    rcases hb with hb | hb
    · exact .inl hb
    · exact h.alloc.bits.layout.committedNode_prot hb
  count := by rw [hf.count, hk.tableStart, ha.count]; exact h.count
  first := by rw [hk.first, hk.tableStart, ha.first]; exact h.first
  cur := by rw [hk.cur, ha.cur]; exact h.cur
  free := hfree
  freeCommitted := by rw [FS.mrCommitted_keeps hk, ha.freeCommitted]; exact h.freeCommitted
  next := by rw [hk.tableStart]; exact hnext
  nextCommitted := by
    rw [FS.mrCommitted_keeps hk, hk.tableStart, ha.nextCommitted]
    exact h.nextCommitted
  almost := halmost
  branched := hbranched

/-- A run of the cache changes nothing. -/
lemma Refines.of_steady (h : Refines s a)
    (hs : Steady s s' (s.Prot (s.blocksOf a.committed)) [])
    (hA : AllocInv s' (s.blocksOf a.working) (s.blocksOf a.committed) (3 ≤ ·) []
      (fun _ => False)) : Refines s' a := by
  have hmr : s'.mr = s.mr := by unfold FS.mr; rw [hs.core]
  refine h.of_frame ⟨rfl, rfl, rfl, rfl, rfl, rfl⟩ (D := fun _ => False)
    (h.alloc.bits.frame hs) (.of_eq hs.core) hA ?_ ?_ ?_ ?_
  · rw [hmr]; exact h.free
  · rw [hmr]; exact h.next
  · rw [hs.core]; exact h.almost
  · rw [hs.core]; exact h.branched

/-- The state after a critical error: the volume is read-only. -/
abbrev FS.critical (s : FS) : FS := { s with vol := { s.vol with fReadOnly := true } }

/-- After a critical error the imap is as it was. -/
lemma Refines.critical (h : Refines s a) : Refines s.critical a := by
  obtain ⟨⟨hbits, hbuf, hlow, hhigh⟩, hd, h1, h2, h3, h4, h5, h6, h7, h8, h9⟩ := h
  have hl := hbits.layout
  refine ⟨⟨⟨⟨hl.count_le, hl.inline, hl.external, hl.first, hl.first_le, hl.allocable⟩,
    hbits.coversWorking, hbits.coversCommitted, hbits.nodes⟩, ?_, hlow, hhigh⟩, ?_, h1,
    h2, h3, h4, h5,
    h6, h7, h8, h9⟩
  · exact ⟨hbuf.count_le, hbuf.perm, hbuf.unique, hbuf.refs, hbuf.refs_lt, hbuf.held, hbuf.used,
      hbuf.lt, hbuf.bytes, hbuf.clean, hbuf.dirty, hbuf.exempt, hbuf.owned⟩
  · have hm := hd.master
    exact ⟨hd.layout.of_same ⟨rfl, rfl, rfl, rfl, rfl, rfl⟩ rfl rfl, hd.mounted,
      ⟨hm.valid, hm.supported, hm.features, hm.fits⟩, hd.same, hd.chosen, hd.metaroot, hd.seq,
      hd.fresh⟩

lemma Refines.of_setMR (h : Refines s a) (ha : a.SameCommitted a') (g : Metaroot → Metaroot)
    (hab : ∀ mr, (g mr).abEntries = mr.abEntries) (hw : a'.working = a.working)
    (hfree : (g s.mr).ulFreeBlocks = a'.free)
    (hnext : (g s.mr).ulAllocNextBlock = s.core.ulInodeTableStartBN + a'.next)
    (halmost : a'.almost = a.almost) (hbranched : a'.branched = a.branched) :
    Refines (s.setMR g) a' := by
  refine h.of_frame ha (D := fun _ => False) (Frame.of_core _) (FS.setMR_keeps s g) ?_ ?_ ?_ ?_ ?_
  · rw [hw]
    exact h.alloc.setMR g hab
  · rw [FS.setMR_mr]; exact hfree
  · rw [FS.setMR_mr]; exact hnext
  · rw [halmost]; exact h.almost
  · rw [hbranched]; exact h.branched

lemma Refines.setBranched (h : Refines s a) : Refines s.branched { a with branched := true } :=
  h.of_frame ⟨rfl, rfl, rfl, rfl, rfl, rfl⟩ (D := fun _ => False) (Frame.of_core _)
    (FS.branched_onlyImap s).keeps (h.alloc.of_core _ (FS.branched_onlyImap s).keeps rfl) h.free
    h.next
    h.almost rfl

lemma Refines.setAlmost (h : Refines s a) (n : ℕ) :
    Refines { s with core := { s.core with ulAlmostFreeBlocks := n } } { a with almost := n } := by
  have hk : s.core.Keeps { s.core with ulAlmostFreeBlocks := n } :=
    ⟨rfl, rfl, rfl, rfl, rfl, rfl, rfl, rfl, rfl⟩
  exact h.of_frame ⟨rfl, rfl, rfl, rfl, rfl, rfl⟩ (D := fun _ => False) (Frame.of_core _) hk
    (h.alloc.of_core _ hk rfl) h.free h.next rfl h.branched

/-! ## Positions -/

/-- A block given by its position, which may lie outside the imap. -/
def FS.blockAt (s : FS) (p : ℤ) : ℕ := (s.core.ulInodeTableStartBN + p).toNat

lemma Refines.hasImapBit (h : Refines s a) (p : ℤ) : s.hasImapBit (s.blockAt p) = a.has p := by
  have hge := h.alloc.bits.layout.start_ge
  have hc := h.count
  rw [Bool.eq_iff_iff, FS.hasImapBit_iff]
  unfold FS.blockAt Bitmaps.has
  simp only [Bool.and_eq_true, decide_eq_true_eq]
  omega

lemma FS.blockAt_nat (s : FS) (p : ℕ) : s.blockAt p = s.core.ulInodeTableStartBN + p := by
  unfold FS.blockAt
  omega

lemma Refines.blockAt_of_has (_h : Refines s a) {p : ℤ} (hp : a.has p = true) :
    s.blockAt p = s.core.ulInodeTableStartBN + p.toNat := by
  unfold Bitmaps.has at hp
  simp only [Bool.and_eq_true, decide_eq_true_eq] at hp
  unfold FS.blockAt
  omega

lemma FS.blocksOf_add (s : FS) (w : ℕ → Bool) (p : ℕ) :
    s.blocksOf w (s.core.ulInodeTableStartBN + p) = w p := by
  unfold FS.blocksOf
  rw [Nat.add_sub_cancel_left]

lemma bufferCount_pos : 0 < bufferCount := by
  have := bufferCount_ge
  simp only [minimumBufferCountOf] at this
  omega

/-! ## Reading -/

/-- **Reading a bit** gives what the machine gives. -/
theorem Refines.get (h : Refines s a) (bMR : Bool) (p : ℤ) :
    (redImapBlockGet bMR (s.blockAt p)).Post s fun r s' =>
      r = (bitGet bMR p a).1 ∧ Refines s' (bitGet bMR p a).2 := by
  unfold bitGet
  rw [Op.get_bind_run]
  rcases hp : a.has p with _ | _
  · rw [if_pos (by simp)]
    unfold redImapBlockGet
    refine Op.Post.get_bind ?_
    rw [if_pos (by simp [h.hasImapBit, hp])]
    exact Op.Post.fail ⟨rfl, h⟩
  · have hb : s.hasImapBit (s.blockAt p) = true := by rw [h.hasImapBit, hp]
    rw [if_neg (by simp)]
    refine (redImapBlockGet_ok h.alloc hb bMR bufferCount_pos).post ?_
    rintro r s' ⟨hr, hs, hA⟩
    refine ⟨?_, h.of_steady hs hA⟩
    rw [hr, h.blockAt_of_has hp, FS.blocksOf_add, FS.blocksOf_add, h.cur]
    rfl

/-- **The state of a block** is what the machine gives. -/
theorem Refines.state (h : Refines s a) (p : ℤ) :
    (redImapBlockState (s.blockAt p)).Post s fun r s' =>
      r = (bitState p a).1 ∧ Refines s' (bitState p a).2 := by
  unfold bitState
  rw [Op.get_bind_run]
  rcases hp : a.has p with _ | _
  · rw [if_pos (by simp)]
    unfold redImapBlockState
    refine Op.Post.get_bind ?_
    rw [if_pos (by simp [h.hasImapBit, hp])]
    exact Op.Post.fail ⟨rfl, h⟩
  · have hb : s.hasImapBit (s.blockAt p) = true := by rw [h.hasImapBit, hp]
    rw [if_neg (by simp)]
    refine (redImapBlockState_ok h.alloc hb bufferCount_pos).post ?_
    rintro r s' ⟨hr, hs, hA⟩
    refine ⟨?_, h.of_steady hs hA⟩
    rw [hr, h.blockAt_of_has hp, FS.blocksOf_add, FS.blocksOf_add]
    rfl

/-! ## Changing a bit -/

lemma FS.blocksOf_update (s : FS) (w : ℕ → Bool) (p : ℕ) (f : Bool) (b : ℕ)
    (hb : s.core.ulInodeTableStartBN ≤ b) :
    s.blocksOf (Function.update w p f) b =
      Function.update (s.blocksOf w) (s.core.ulInodeTableStartBN + p) f b := by
  unfold FS.blocksOf
  by_cases hbp : b = s.core.ulInodeTableStartBN + p
  · rw [hbp, Nat.add_sub_cancel_left, Function.update_self, Function.update_self]
  · rw [Function.update_of_ne hbp, Function.update_of_ne (by omega)]

/-- The invariant depends on the blocks that have a bit only. -/
lemma AllocInv.congr {W W' C : ℕ → Bool} {own X : ℕ → Prop} {R : List ℕ}
    (h : AllocInv s W C own R X)
    (hW : ∀ b, s.core.ulInodeTableStartBN ≤ b → W' b = W b) : AllocInv s W' C own R X :=
  ⟨⟨h.bits.layout, fun b hb => (h.bits.coversWorking b hb).trans (hW b (FS.covers_ge hb)).symm,
    h.bits.coversCommitted, h.bits.nodes⟩, h.buf, h.low, h.high⟩

/-- Dereferencing a buffer concerns the buffers only. -/
lemma redBufferPut_congr {i : ℕ} (hb : s'.buf = s.buf) :
    redBufferPut i s' = (.ok (), { s' with buf := (redBufferPut i s).2.buf }) := by
  unfold redBufferPut
  simp only [Op.modify_run, hb, FS.setHead]
  by_cases h : s.buf.bufferToIdx i = true
  · simp only [if_pos h]
    by_cases h0 : (s.buf.aHead i).bRefCount - 1 = 0
    · simp only [Function.update_self, if_pos h0]
    · simp only [Function.update_self, if_neg h0]
  · rw [if_neg h, if_neg h, ← hb]

/-- An imap node is branched before it turns out that there is nothing to change. -/
lemma redImapEBlockSet_same {W C : ℕ → Bool} {own : ℕ → Prop} {b : ℕ}
    (h : AllocInv s W C own [] (fun _ => False)) (hi : s.core.fImapInline = false)
    (hb : s.hasImapBit b = true) (hW : W b = f) :
    ∃ s', redImapEBlockSet b f s = (.error .EFUBAR, s'.critical) ∧
      Frame s s' (s.Prot C) [] (· < s.core.ulInodeTableStartBN) ∧ OnlyEntries s s' ∧
      AllocInv s' W C own [] (fun _ => False) := by
  have hn := h.bits.layout.node_lt hi hb
  obtain ⟨i, s1, hrun, hf1, ho1, hA1, hbr1, hblk1, htype1, hdirty1⟩ :=
    imapNodeBranch_ok h hi hn bufferCount_pos (by simp)
  obtain ⟨_, s2, hput, h2, hi2, -⟩ := redBufferPut_cons hA1.buf fun _ h => h.elim
  have hk := ho1.keeps
  have hb1 : s1.hasImapBit b = true := (FS.hasImapBit_keeps hk hf1.count b).trans hb
  have hbit : (s1.buf.pbBlkBuf i).asImap
      ((b - s.core.ulInodeTableStartBN) % imapnodeEntries) = f := by
    rw [← hA1.buf.peek_held List.mem_cons_self, hblk1, ← hk.cur, ← hk.tableStart,
      (hA1.bits.nodeBit (hk.inline.trans hi) hb1 rfl rfl).1, hW]
  have hp2 := hA1.prot_steady h2
  refine ⟨s2, ?_, ?_, ho1.trans_eq h2.core, hA1.of_steady h2 hi2⟩
  · unfold redImapEBlockSet
    rw [Op.get_bind_run, if_neg (by simp [hi, hb]), Op.bind_ok hrun, Op.get_bind_run, if_pos hbit]
    change (redBufferPut i >>= fun _ => Op.fail RedError.EFUBAR) s1.critical = _
    have hs2 : s2 = { s1 with buf := s2.buf } := by
      have hself : redBufferPut i s1 = (.ok (), { s1 with buf := (redBufferPut i s1).2.buf }) :=
        redBufferPut_congr rfl
      rw [hput] at hself
      exact (Prod.mk.inj hself).2
    have hcritical : redBufferPut i s1.critical =
        (.ok (), { s1.critical with buf := (redBufferPut i s1).2.buf }) := redBufferPut_congr rfl
    rw [Op.bind_ok hcritical, hput, Op.fail_run, hs2]
  · have := hA1.bits.frame (D := (· < s.core.ulInodeTableStartBN))
      (h2.weaken fun _ hm => (List.not_mem_nil hm).elim)
    rw [FS.prot_congr hk hf1.count] at this
    exact hf1.trans this

/-- Setting a bit to what it is fails, whichever way the imap is stored. -/
lemma imapBitSet_same {W C : ℕ → Bool} {own : ℕ → Prop} {b : ℕ}
    (h : AllocInv s W C own [] (fun _ => False)) (hb : s.hasImapBit b = true) (hW : W b = f) :
    ∃ s', (if s.core.fImapInline then redImapIBlockSet b f else redImapEBlockSet b f) s =
        (.error .EFUBAR, s'.critical) ∧
      Frame s s' (s.Prot C) [] (· < s.core.ulInodeTableStartBN) ∧ OnlyEntries s s' ∧
      AllocInv s' W C own [] (fun _ => False) := by
  rcases hi : s.core.fImapInline with _ | _
  · simp only [Bool.false_eq_true, if_false]
    exact redImapEBlockSet_same h hi hb hW
  · simp only [if_true]
    have hbit : s.mr.abEntries (b - s.core.ulInodeTableStartBN) = f := by
      rw [← hW, ← h.bits.working hb]
      simp [FS.imapBit, hi, FS.mr]
    refine ⟨s, ?_, Frame.refl _ _ _ _, .of_eq rfl, h⟩
    unfold redImapIBlockSet
    rw [Op.get_bind_run, if_neg (by simp [hi, hb])]
    exact (congrFun (if_pos hbit) s).trans rfl

/-- A run that changes nothing of `COREVOLUME` but the bitmap of the working metaroot. -/
lemma Refines.of_onlyEntries (h : Refines s a) {w : ℕ → Bool}
    (hf : Frame s s' (s.Prot (s.blocksOf a.committed)) [] D) (ho : OnlyEntries s s')
    (hA : AllocInv s' (s.blocksOf w) (s.blocksOf a.committed) (3 ≤ ·) [] (fun _ => False)) :
    Refines s' { a with working := w } := by
  have hk := ho.keeps
  obtain ⟨ab, hc⟩ := ho
  have hmr : s'.mr = { s.mr with abEntries := ab } := by
    have : s'.mr = (s.setMR fun mr => { mr with abEntries := ab }).mr := by simp only [FS.mr, hc]
    rw [this, FS.setMR_mr]
  refine h.of_frame ⟨rfl, rfl, rfl, rfl, rfl, rfl⟩ hf hk hA ?_ ?_ ?_ ?_
  · rw [hmr]; exact h.free
  · rw [hmr]; exact h.next
  · rw [hc]; exact h.almost
  · rw [hc]; exact h.branched

/-- A freed block leaves the cache, and the imap is as it was. -/
lemma Refines.discard (h : Refines s a) {b : ℕ} (hb : s.hasImapBit b = true) :
    (redBufferDiscardRange b 1).Ok s fun _ s' => Refines s' a ∧ s'.core = s.core := by
  refine (redBufferDiscardRange_freed h.alloc hb (by simp)).mono ?_
  rintro _ s' ⟨ht, hA⟩
  have hmr : s'.mr = s.mr := by unfold FS.mr; rw [ht.rest.1]
  refine ⟨h.of_frame ⟨rfl, rfl, rfl, rfl, rfl, rfl⟩ ht.frame (.of_eq ht.rest.1)
    (hA.own_mono (fun b hb => hb.1) fun _ hb => hb) ?_ ?_ ?_ ?_, ht.rest.1⟩
  · rw [hmr]; exact h.free
  · rw [hmr]; exact h.next
  · rw [ht.rest.1]; exact h.almost
  · rw [ht.rest.1]; exact h.branched

lemma Refines.forbids (h : Refines s a) (p : ℕ) :
    s.freeCountForbids (s.core.ulInodeTableStartBN + p) f = a.forbids p f := by
  have hfirst : s.core.ulFirstAllocableBN ≤ s.core.ulInodeTableStartBN + p ↔ a.first ≤ p := by
    rw [h.first]
    omega
  have hallocable : s.vol.ulBlocksAllocable = a.count - a.first := by
    rw [h.alloc.bits.layout.allocable, h.count, h.first]
    omega
  unfold FS.freeCountForbids Bitmaps.forbids
  simp only [hfirst, h.free, hallocable]

/-- The adjustment of the counts, once the bit has changed. -/
lemma Refines.adjust (h : Refines s a) {p : ℕ} (hp : p < a.count) :
    (imapAdjustFreeCount (s.core.ulInodeTableStartBN + p) f).Ok s fun _ s' =>
      Refines s' (a.adjust p f) := by
  have hfirst : s.core.ulFirstAllocableBN ≤ s.core.ulInodeTableStartBN + p ↔ a.first ≤ p := by
    rw [h.first]
    omega
  have hb : s.hasImapBit (s.core.ulInodeTableStartBN + p) = true :=
    FS.hasImapBit_iff.2 ⟨Nat.le_add_right _ _, by rw [h.count]; omega⟩
  unfold imapAdjustFreeCount
  refine Op.Ok.get_bind (Op.Ok.when (fun hfa => ?_) fun hfa => ?_)
  · have hle := hfirst.1 hfa
    rcases f with _ | _
    · -- A freed block is available at once unless the committed state has it.
      simp only [Bool.false_eq_true, if_false]
      refine Op.Ok.attempt_bind_ok (redImapBlockGet_ok h.alloc hb _ bufferCount_pos) ?_
      rintro r s1 ⟨hr, hs1, hA1⟩
      have h1 := h.of_steady hs1 hA1
      rw [if_neg (by simp), FS.blocksOf_add] at hr
      rcases hc : a.committed p with _ | _ <;> rw [hr, hc]
      · refine Op.Ok.modify ?_
        simp only [Bitmaps.adjust, if_pos hle, Bool.false_eq_true, if_false, hc]
        have ha : a.SameCommitted { a with free := u32 (a.free + 1) } :=
          ⟨rfl, rfl, rfl, rfl, rfl, rfl⟩
        refine h1.of_setMR ha (fun mr => { mr with ulFreeBlocks := u32 (mr.ulFreeBlocks + 1) })
          (fun _ => rfl) rfl ?_ h1.next rfl rfl
        change u32 (s1.mr.ulFreeBlocks + 1) = u32 (a.free + 1)
        rw [h1.free]
      · refine Op.Ok.modify ?_
        simp only [Bitmaps.adjust, if_pos hle, Bool.false_eq_true, if_false, hc, if_true]
        rw [h1.almost]
        exact h1.setAlmost _
    · simp only [if_true]
      refine Op.Ok.modify ?_
      simp only [Bitmaps.adjust, if_pos hle, if_true]
      have ha : a.SameCommitted { a with free := u32 (a.free - 1) } :=
        ⟨rfl, rfl, rfl, rfl, rfl, rfl⟩
      refine h.of_setMR ha (fun mr => { mr with ulFreeBlocks := u32 (mr.ulFreeBlocks - 1) })
        (fun _ => rfl) rfl ?_ h.next rfl rfl
      change u32 (s.mr.ulFreeBlocks - 1) = u32 (a.free - 1)
      rw [h.free]
  · rw [Bitmaps.adjust, if_neg fun hle => hfa (hfirst.2 hle)]
    exact h

/-- **Setting a bit** gives what the machine gives. -/
theorem Refines.set (h : Refines s a) (p : ℤ) (f : Bool) :
    (redImapBlockSet (s.blockAt p) f).Post s fun r s' =>
      r = (bitSet p f a).1 ∧ Refines s' (bitSet p f a).2 := by
  unfold redImapBlockSet bitSet
  refine Op.Post.get_bind ?_
  rw [Op.get_bind_run]
  rcases hp : a.has p with _ | _
  · rw [if_pos (by simp [h.hasImapBit, hp]), if_pos (by simp)]
    exact Op.Post.fail ⟨rfl, h⟩
  have hb : s.hasImapBit (s.blockAt p) = true := by rw [h.hasImapBit, hp]
  have hlt : p.toNat < a.count := by
    simp only [Bitmaps.has, Bool.and_eq_true, decide_eq_true_eq] at hp
    omega
  rw [h.blockAt_of_has hp] at hb ⊢
  rw [if_neg (by simp [hb]), h.forbids]
  simp only [Bool.not_true, Bool.false_eq_true, if_false]
  rcases hforbid : a.forbids p.toNat f with _ | _
  · simp only [Bool.false_eq_true, if_false]
    by_cases hsame : a.working p.toNat = f
    · -- There is nothing to change.
      rw [if_pos hsame]
      obtain ⟨s1, hrun, hf1, ho1, hA1⟩ := imapBitSet_same (f := f) h.alloc hb (by
        rw [FS.blocksOf_add, hsame])
      have h1 := (h.of_onlyEntries (w := a.working) hf1 ho1 hA1).critical.setBranched
      refine Op.Post.attempt_bind ?_
      unfold Op.Post
      rw [hrun]
      exact ⟨rfl, h1⟩
    · rw [if_neg hsame]
      obtain ⟨_, s1, hrun, hf1, ho1, hA1⟩ := imapBitSet_ok (f := f) h.alloc hb (by
        rw [FS.blocksOf_add]
        revert hsame
        rcases a.working p.toNat with _ | _ <;> rcases f with _ | _ <;> simp)
          bufferCount_pos (by simp)
      have hstart : s1.core.ulInodeTableStartBN = s.core.ulInodeTableStartBN := ho1.keeps.tableStart
      have h1 := (h.of_onlyEntries hf1 ho1 (hA1.congr fun b hge =>
        s.blocksOf_update a.working p.toNat f b (hstart ▸ hge))).setBranched
      refine Op.Ok.post (Q := fun _ s' => Refines s' (a.setBit p.toNat f)) ?_ fun _ s' h' =>
        ⟨rfl, h'⟩
      refine Op.Ok.attempt_bind_ok (Op.Ok.intro hrun (Q := fun _ s' => s1 = s') rfl) ?_
      rintro _ _ rfl
      refine Op.Ok.modify_bind (Op.Ok.run_bind rfl ?_)
      have hb1 : s1.branched.hasImapBit (s.core.ulInodeTableStartBN + p.toNat) = true :=
        (FS.hasImapBit_keeps (ho1.keeps.trans (FS.branched_onlyImap s1).keeps) hf1.count _).trans hb
      refine Op.Ok.bind (Q := fun _ s2 => Refines s2 _ ∧ s2.core = s1.branched.core)
        (Op.Ok.when (fun _ => ?_) fun _ => ⟨h1, rfl⟩) ?_
      · exact Op.Ok.attempt_bind_ok (h1.discard hb1) fun _ _ h2 => Op.Ok.pure h2
      · rintro _ s2 ⟨h2, hc2⟩
        have hstart2 : s2.core.ulInodeTableStartBN = s.core.ulInodeTableStartBN := by
          rw [hc2]
          exact hstart
        rw [← hstart2]
        exact h2.adjust hlt
  · rw [if_pos rfl, if_pos rfl]
    exact Op.Post.modify_bind (Op.Post.fail ⟨rfl, h.critical⟩)

end

end RelianceEdge
