import RelianceEdge.Alloc.Search

set_option relaxedAutoImplicit false
set_option autoImplicit false
set_option linter.unusedSectionVars false

/-!
# Changing a bit

`RedImapIBlockSet()`, `ImapNodeBranch()` and `RedImapEBlockSet()`: the working bit of one block
changes, whichever way the imap is stored. An external imap node is copied to its other location
before it is changed for the first time after a transaction point.

## Main results

* `imapNodeBranch_ok` — branching an imap node leaves the bitmaps as they are.
* `redImapIBlockSet_ok`, `redImapEBlockSet_ok` — the bit of one block changes.
-/

namespace RelianceEdge

variable [RedConf]

open RedConf

section

variable {s s' : FS} {W C : ℕ → Bool} {prot own : ℕ → Prop} {R : List ℕ} {X : ℕ → Prop} {b : ℕ}

lemma filter_cons_self {i : ℕ} (h : i ∉ R) : (i :: R).filter (· ≠ i) = R := by
  rw [List.filter_cons_of_neg (by simp)]
  exact List.filter_eq_self.2 fun j hj => by
    simp only [ne_eq, decide_not, Bool.not_eq_true', decide_eq_false_iff_not]
    exact fun h' => h (h' ▸ hj)

/-! ## The working metaroot -/

@[simp] lemma FS.setMR_mr (s : FS) (f : Metaroot → Metaroot) : (s.setMR f).mr = f s.mr := by
  simp [FS.setMR, FS.mr]

lemma FS.setMR_keeps (s : FS) (f : Metaroot → Metaroot) : s.core.Keeps (s.setMR f).core :=
  ⟨rfl, rfl, rfl, rfl, rfl, rfl, rfl, rfl, by simp [FS.setMR]⟩

/-- A change of `COREVOLUME` alone is no change of any block. -/
lemma Frame.of_core {D : ℕ → Prop} (c : CoreVolume) : Frame s { s with core := c } prot R D where
  now := rfl
  dev := ⟨rfl, rfl⟩
  vol := rfl
  seq := le_rfl
  peek _ _ := rfl
  readable _ _ _ h := h
  held _ _ := ⟨rfl, rfl, id, rfl⟩
  disk _ _ := rfl
  hist := ⟨[], rfl, by simp⟩

lemma BufInv.of_core (hi : BufInv s prot own R X) (c : CoreVolume) :
    BufInv { s with core := c } prot own R X :=
  ⟨hi.count_le, hi.perm, hi.unique, hi.refs, hi.refs_lt, hi.held, hi.used, hi.lt,
    hi.bytes, hi.clean,
    hi.dirty, hi.exempt, hi.owned⟩

lemma Touched.frame {D : ℕ → Prop} (h : Touched s s' R D) : Frame s s' prot R D where
  now := h.rest.2.2.1
  dev := h.rest.2.2.2.2.2
  vol := by rw [h.rest.2.1]
  seq := by rw [h.rest.2.1]
  peek := h.peek
  readable := h.readable
  held := h.held
  disk _ _ := by rw [h.rest.2.2.2.1]
  hist := ⟨[], by simp [h.rest.2.2.2.2.1], by simp⟩

/-! ## Inline imap -/

lemma ImapBits.setInline (h : ImapBits s W C) (hi : s.core.fImapInline = true)
    (hb : s.hasImapBit b = true) (f : Bool) :
    ImapBits (s.setMR fun mr => { mr with
      abEntries := Function.update mr.abEntries (b - s.core.ulInodeTableStartBN) f })
      (Function.update W b f) C where
  layout := h.layout.of_keeps (FS.setMR_keeps s _) rfl rfl
  coversWorking b' hb' := by
    have h1 := (FS.hasImapBit_iff.1 hb).1
    have h2 := FS.covers_ge (s := s) hb'
    have := h.coversWorking b' hb'
    simp only [FS.imapBit, hi, if_true] at this
    simp only [FS.imapBit, FS.setMR, hi, if_true, Function.update_self]
    by_cases hbb : b' = b
    · subst hbb; simp
    · rw [Function.update_of_ne hbb, Function.update_of_ne (by omega)]
      exact this
  coversCommitted b' hb' := by
    have := h.coversCommitted b' hb'
    simp only [FS.imapBit, hi, if_true] at this
    simpa [FS.imapBit, FS.setMR, hi] using this
  nodes hi' := by
    have : s.core.fImapInline = false := hi'
    rw [hi] at this; cases this

lemma redImapIBlockSet_ok (h : ImapBits s W C) (hi : s.core.fImapInline = true)
    (hb : s.hasImapBit b = true) {f : Bool} (hW : W b = !f) :
    redImapIBlockSet b f s = (.ok (), s.setMR fun mr => { mr with
      abEntries := Function.update mr.abEntries (b - s.core.ulInodeTableStartBN) f }) := by
  have hbit : s.mr.abEntries (b - s.core.ulInodeTableStartBN) = !f := by
    rw [← hW, ← h.working hb]
    simp [FS.imapBit, hi, FS.mr]
  unfold redImapIBlockSet
  simp [hi, hb, hbit]

/-! ## External imap -/

/-- The state `s'` has, of `COREVOLUME`, at most the bitmap of the working metaroot changed. -/
def OnlyEntries (s s' : FS) : Prop :=
  ∃ ab, s'.core = (s.setMR fun mr => { mr with abEntries := ab }).core

lemma OnlyEntries.keeps (h : OnlyEntries s s') : s.core.Keeps s'.core := by
  obtain ⟨ab, h⟩ := h
  rw [h]
  exact FS.setMR_keeps s _

lemma OnlyEntries.of_eq (h : s'.core = s.core) : OnlyEntries s s' := by
  refine ⟨s.mr.abEntries, ?_⟩
  rw [h]
  simp [FS.setMR, FS.mr]

lemma OnlyEntries.trans_eq {s'' : FS} (h : OnlyEntries s s') (h' : s''.core = s'.core) :
    OnlyEntries s s'' := by
  obtain ⟨ab, h⟩ := h
  exact ⟨ab, h'.trans h⟩

/-- The imap node locations when only the bit of one node may have changed. -/
lemma nodeBlock_setMR (s : FS) (n : ℕ) (v : Bool) (n' : ℕ) (hn : n' ≠ n) (bMR : Bool) :
    (s.setMR fun mr =>
      { mr with abEntries := Function.update mr.abEntries n v }).core.redImapNodeBlock
      bMR n' = s.core.redImapNodeBlock bMR n' := by
  unfold CoreVolume.redImapNodeBlock CoreVolume.imapNodeIdxIsValid
  by_cases hc : bMR = s.core.bCurMR
  · subst hc
    simp [FS.setMR, FS.mr, hn]
  · simp [FS.setMR, hc]

/-- The working metaroot after `ImapNodeBranch()` has chosen the other location of a node. -/
def Metaroot.flip (n : ℕ) (mr : Metaroot) : Metaroot :=
  { mr with abEntries := Function.update mr.abEntries n (!mr.abEntries n) }

lemma FS.flip_branched {n : ℕ} (hv : s.core.imapNodeIdxIsValid n = true)
    (hbr : s.core.imapNodeIsBranched n = false) :
    (s.setMR (Metaroot.flip n)).core.imapNodeIsBranched n = true := by
  have hv' : (s.setMR (Metaroot.flip n)).core.imapNodeIdxIsValid n = true := hv
  unfold CoreVolume.imapNodeIsBranched at hbr ⊢
  rw [hv', Bool.true_and]
  rw [hv, Bool.true_and] at hbr
  have heq : (s.core.aMR false).abEntries n = (s.core.aMR true).abEntries n := by simpa using hbr
  rcases hc : s.core.bCurMR with _ | _ <;>
    simp [FS.setMR, FS.mr, Metaroot.flip, hc, heq]

/-- The last step of branching an imap node: its contents move to the new location. -/
lemma imapNodeMove_ok (h : AllocInv s W C own R X) (hi : s.core.fImapInline = false) {n : ℕ}
    (hn : n < s.core.ulImapNodeCount) (hbr : s.core.imapNodeIsBranched n = false) {s1 s4 : FS}
    {i : ℕ} (hs1 : s1 = s.setMR (Metaroot.flip n))
    (hf : Frame s1 s4 (s.Prot C) R (· = s1.core.redImapNodeBlock s.core.bCurMR n))
    (hc : s4.core = s1.core) (hbuf : BufInv s4 (s.Prot C) own (i :: R) X)
    (hblk : s4.buf.blk i = s1.core.redImapNodeBlock s.core.bCurMR n)
    (htype : (s4.buf.aHead i).type = .imap)
    (hcont : s4.buf.pbBlkBuf i = s.peek (s.core.redImapNodeBlock s.core.bCurMR n)) :
    AllocInv s4 W C own (i :: R) X := by
  have hkeep1 : s.core.Keeps s1.core := hs1 ▸ FS.setMR_keeps s _
  have hkeep : s.core.Keeps s4.core := hc ▸ hkeep1
  have hv : s4.vol.ulBlockCount = s.vol.ulBlockCount := by rw [hf.count, hs1]; rfl
  have hv' : s4.vol.ulBlocksAllocable = s.vol.ulBlocksAllocable := by rw [hf.vol, hs1]; rfl
  have hl4 := h.bits.layout.of_keeps hkeep hv hv'
  have hi4 : s4.core.fImapInline = false := hkeep.inline.trans hi
  have hbit : ∀ b, s4.covers b = s.covers b := FS.covers_keeps hkeep
  have hpeek : ∀ b, b ≠ s1.core.redImapNodeBlock s.core.bCurMR n → s4.peek b = s.peek b :=
    fun b hb => by rw [hf.peek b hb, hs1]; rfl
  have hread : ∀ b t, b ≠ s1.core.redImapNodeBlock s.core.bCurMR n → s.Readable b t →
      s4.Readable b t := fun b t hb hr => hf.readable b t hb (by rw [hs1]; exact hr)
  have hother : ∀ bMR n', n' ≠ n →
      s4.core.redImapNodeBlock bMR n' = s.core.redImapNodeBlock bMR n' := fun bMR n' hn' => by
    rw [hc, hs1]
    exact nodeBlock_setMR s n _ n' hn' bMR
  have hne : ∀ bMR n', n' ≠ n →
      s.core.redImapNodeBlock bMR n' ≠ s1.core.redImapNodeBlock s.core.bCurMR n :=
    fun bMR n' hn' he => hn' (by
      have : s1.core.redImapNodeBlock bMR n' = s1.core.redImapNodeBlock s.core.bCurMR n := by
        rw [← hc, hother bMR n' hn', hc]; exact he
      exact CoreVolume.redImapNodeBlock_inj this)
  have hnew : s4.peek (s1.core.redImapNodeBlock s.core.bCurMR n) =
      s.peek (s.core.redImapNodeBlock s.core.bCurMR n) := by
    rw [← hblk, hbuf.peek_held List.mem_cons_self, hcont]
  have hvalid := (h.bits.layout.idxIsValid hi).2 hn
  have hold : s.core.redImapNodeBlock (!s.core.bCurMR) n ≠
      s1.core.redImapNodeBlock s.core.bCurMR n := by
    rw [← hkeep1.nodeBlock_committed, hkeep1.cur]
    refine Ne.symm (CoreVolume.nodeBlock_ne_of_branched ?_ _)
    rw [hs1]
    exact FS.flip_branched hvalid hbr
  refine ⟨⟨hl4, fun b hb => ?_, fun b hb => ?_, fun _ n' hn' bMR => ?_⟩, ?_, ?_, ?_⟩
  · rw [hbit] at hb
    rw [← h.bits.coversWorking b hb]
    unfold FS.imapBit
    simp only [hi, hi4, Bool.false_eq_true, if_false, hkeep.tableStart, hkeep.cur]
    by_cases hnn : (b - s.core.ulInodeTableStartBN) / imapnodeEntries = n
    · rw [hnn, hc, hnew]
    · rw [hother _ _ hnn, hpeek _ (hne _ _ hnn)]
  · rw [hbit] at hb
    rw [← h.bits.coversCommitted b hb]
    unfold FS.imapBit
    simp only [hi, hi4, Bool.false_eq_true, if_false, hkeep.tableStart, hkeep.nodeBlock_committed]
    by_cases hnn : (b - s.core.ulInodeTableStartBN) / imapnodeEntries = n
    · rw [hnn, hpeek _ hold]
    · rw [hpeek _ (hne _ _ hnn)]
  · rw [hkeep.nodeCount] at hn'
    by_cases hnn : n' = n
    · subst hnn
      by_cases hcur : bMR = s.core.bCurMR
      · rw [hc, hcur, ← hblk]
        exact (hbuf.readable_held List.mem_cons_self).2 htype
      · have : s4.core.redImapNodeBlock bMR n' = s.core.redImapNodeBlock (!s.core.bCurMR) n' := by
          rw [← hkeep.nodeBlock_committed, hkeep.cur, Bool.eq_not_of_ne hcur]
        rw [this]
        exact hread _ _ hold (h.bits.nodes hi n' hn' _)
    · rw [hother _ _ hnn]
      exact hread _ _ (hne _ _ hnn) (h.bits.nodes hi n' hn' _)
  · rw [FS.prot_congr hkeep hv]
    exact hbuf
  · rw [hkeep.tableStart]
    exact h.low
  · exact h.high

/-- **Branching an imap node**: its working copy is buffered and dirty, at a location that the
committed metaroot does not select, and the bitmaps are as they were. -/
lemma imapNodeBranch_ok (h : AllocInv s W C own R X) (hi : s.core.fImapInline = false) {n : ℕ}
    (hn : n < s.core.ulImapNodeCount) (hR : R.length < bufferCount)
    (hhigh : ∀ i ∈ R, s.core.ulInodeTableStartBN ≤ s.buf.blk i) :
    (imapNodeBranch n).Ok s fun i s' =>
      Frame s s' (s.Prot C) R (· < s.core.ulInodeTableStartBN) ∧ OnlyEntries s s' ∧
      AllocInv s' W C own (i :: R) X ∧ s'.core.imapNodeIsBranched n = true ∧
      s'.buf.blk i = s'.core.redImapNodeBlock s.core.bCurMR n ∧
      (s'.buf.aHead i).type = .imap ∧ (s'.buf.aHead i).fDirty = true := by
  have hvalid := (h.bits.layout.idxIsValid hi).2 hn
  unfold imapNodeBranch
  refine Op.Ok.get_bind ?_
  rw [if_neg (by simp [hvalid])]
  rcases hbr : s.core.imapNodeIsBranched n with _ | _
  · simp only [Bool.false_eq_true, if_false]
    refine Op.Ok.modify_bind (Op.Ok.get_bind ?_)
    change (do
      let _ ← redBufferDiscardRange
        ((s.setMR (Metaroot.flip n)).core.redImapNodeBlock s.core.bCurMR n) 1
      let pImap ← redBufferGet
        ((s.setMR (Metaroot.flip n)).core.redImapNodeBlock (!s.core.bCurMR) n) .imap false false
      let _ ← redBufferBranch pImap
        ((s.setMR (Metaroot.flip n)).core.redImapNodeBlock s.core.bCurMR n)
      pure pImap : Red ℕ).Ok (s.setMR (Metaroot.flip n)) _
    set s1 := s.setMR (Metaroot.flip n) with hs1
    set new := s1.core.redImapNodeBlock s.core.bCurMR n with hnew
    set old := s1.core.redImapNodeBlock (!s.core.bCurMR) n with hold
    have hkeep : s.core.Keeps s1.core := FS.setMR_keeps s _
    have hbr1 : s1.core.imapNodeIsBranched n = true := FS.flip_branched hvalid hbr
    have hl1 : s1.Layout := h.bits.layout.of_keeps hkeep rfl rfl
    have hnewlt := hl1.nodeBlock_lt hi hn s.core.bCurMR
    have holdlt := hl1.nodeBlock_lt hi hn (!s.core.bCurMR)
    rw [← hnew, hkeep.tableStart] at hnewlt
    rw [← hold, hkeep.tableStart] at holdlt
    have hne : new ≠ old := CoreVolume.nodeBlock_ne_of_branched hbr1 _
    have hold' : old = s.core.redImapNodeBlock (!s.core.bCurMR) n := hkeep.nodeBlock_committed n
    have holdcur : old = s.core.redImapNodeBlock s.core.bCurMR n :=
      hold'.trans (CoreVolume.nodeBlock_eq_of_not_branched hbr _ _)
    have hle := h.bits.layout.start_le
    have hpn : ¬ s.Prot C new := by
      unfold FS.Prot
      have hdiv : (new - s.core.ulImapStartBN) / 2 = n :=
        CoreVolume.nodeBlock_div s1.core s.core.bCurMR n
      rw [hdiv, ← hold']
      rintro (h | h | h | h) <;> omega
    have hpo : s.Prot C old := by
      have hdiv : (old - s.core.ulImapStartBN) / 2 = n :=
        CoreVolume.nodeBlock_div s1.core (!s.core.bCurMR) n
      exact .inr (.inr (.inl ⟨holdlt.2, by rw [hdiv, ← hold']⟩))
    -- The new location leaves the cache.
    have hhigh1 : ∀ i ∈ R, ¬ InRange new 1 (s1.buf.blk i) := fun i hm hr => by
      have := hhigh i hm
      have h2 : s1.buf.blk i = s.buf.blk i := rfl
      unfold InRange at hr
      omega
    refine Op.Ok.bind (redBufferDiscardRange_ok (h.buf.of_core _) one_pos
      (by change new + 1 ≤ s.vol.ulBlockCount; omega) hhigh1) ?_
    rintro _ s2 ⟨ht2, hi2, hf2, -⟩
    have hfn : s2.buf.find new = none := hf2 new ⟨le_rfl, Nat.lt_succ_self _⟩
    have hc2 : s2.core = s1.core := ht2.rest.1
    have hv2 : s2.vol = s.vol := ht2.rest.2.1
    have hout : ¬ InRange new 1 old := by unfold InRange; omega
    -- The old location is read.
    have hi2' : BufInv s2 (s.Prot C) (fun b => own b ∧ b ≠ new) R X :=
      hi2.disown hfn fun b' hb' ho => ⟨ho, hb'⟩
    have hread : s2.Readable old .imap := ht2.readable _ _ hout (by
      change s.Readable old .imap
      rw [hold']
      exact h.bits.nodes hi n hn _)
    refine Op.Ok.bind (redBufferGet_ok hi2' (by rw [hv2]; omega) hread hR
      (fun h => by cases h) ⟨h.low _ holdlt.1 holdlt.2, hne.symm⟩) ?_
    rintro i s3 ⟨hst3, hi3, hblk3, htype3, hcont3, -⟩
    have hfn3 : s3.buf.find new = none := hi3.find_of_not_own fun h => h.2 rfl
    have hiR : i ∉ R := fun hm => by
      have h1 := (hst3.held i hm).blk
      rw [hblk3, (ht2.held i hm).blk] at h1
      have h2 := hhigh i hm
      have h3 : s1.buf.blk i = s.buf.blk i := rfl
      omega
    have hclean : (s3.buf.aHead i).fDirty = false := by
      by_contra hd
      have hm := hi3.mem_lt (i := i) List.mem_cons_self
      exact hi3.dirty i hm.1 hm.2.1 (by simpa using hd) (hblk3 ▸ hpo)
    have hXi : ¬ X i := fun hx => hiR (h.buf.exempt i hx)
    -- Its contents move to the new location.
    refine Op.Ok.bind (redBufferBranch_ok (hi3.own_mono fun b h => h.1) List.mem_cons_self
      (by rw [hst3.count, hv2]; omega) hfn3 hpn hclean hXi (h.low _ hnewlt.1 hnewlt.2)) ?_
    rintro _ s4 ⟨ht4, hi4, hblk4, htype4, hcont4, hdirty4⟩
    refine Op.Ok.pure ?_
    rw [filter_cons_self hiR] at ht4
    have hcom2 : ∀ b, s2.hasImapBit b = true → s2.imapBit (!s2.core.bCurMR) b = C b := by
      intro b hb
      have hb0 : s.hasImapBit b = true := by
        rw [← hb]
        simp only [FS.hasImapBit, hc2, hv2]; rfl
      rw [← h.bits.committed hb0]
      have hnl := h.bits.layout.node_lt hi hb0
      unfold FS.imapBit
      have hi2'' : s2.core.fImapInline = false := by rw [hc2]; exact hi
      rw [hi, hi2'']
      simp only [Bool.false_eq_true, if_false]
      have hk2 : s.core.Keeps s2.core := hc2 ▸ hkeep
      rw [hk2.nodeBlock_committed, hk2.tableStart, ht2.peek]
      · rfl
      · intro hr
        have h1 : s.core.redImapNodeBlock (!s.core.bCurMR)
            ((b - s.core.ulInodeTableStartBN) / imapnodeEntries) = new := by
          unfold InRange at hr; omega
        rw [hnew, ← hkeep.nodeBlock_committed] at h1
        have h2 := CoreVolume.redImapNodeBlock_inj h1
        rw [h2] at h1
        exact hne h1.symm
    have hframe : Frame s1 s4 (s.Prot C) R (· = new) := by
      have hp2 : s2.Prot C = s.Prot C := FS.prot_congr (hc2 ▸ hkeep) (by rw [hv2])
      refine (ht2.frame.mono (fun _ h => h) fun b hb => ?_).trans
        ((hst3.frame fun b hp => ?_).trans ht4.frame)
      · unfold InRange at hb; omega
      · exact FS.isCow hcom2 (by rw [hp2]; exact hp)
    have hc4 : s4.core = s1.core := by rw [ht4.rest.1, hst3.core, hc2]
    have hcont : s4.buf.pbBlkBuf i = s.peek (s.core.redImapNodeBlock s.core.bCurMR n) := by
      rw [hcont4, hcont3, ht2.peek _ hout, holdcur]
      rfl
    have hA := imapNodeMove_ok h hi hn hbr hs1 hframe hc4 hi4 hblk4 (htype4.trans htype3) hcont
    refine ⟨?_, ⟨_, hc4⟩, hA, by rw [hc4]; exact hbr1, by rw [hblk4, hc4], htype4.trans htype3,
      hdirty4⟩
    refine (Frame.of_core s1.core).trans (hframe.mono (fun _ h => h) fun b hb => ?_)
    rw [hb]; exact hnewlt.2
  · simp only [if_true]
    obtain ⟨hge, hlt⟩ := h.bits.layout.nodeBlock_lt hi hn s.core.bCurMR
    have hp : ¬ s.Prot C (s.core.redImapNodeBlock s.core.bCurMR n) := by
      have hle := h.bits.layout.start_le
      unfold FS.Prot
      rw [CoreVolume.nodeBlock_div]
      have := CoreVolume.nodeBlock_ne_of_branched hbr s.core.bCurMR
      rintro (h | h | h | h)
      · omega
      · omega
      · exact this h.2
      · omega
    refine (redBufferGet_ok h.buf (hlt.trans_le h.bits.layout.start_le)
      (h.bits.nodes hi n hn _) hR (fun _ => hp) (h.low _ hge hlt)).mono ?_
    rintro i s' ⟨h1, h2, h3, h4, -, h6⟩
    exact ⟨h.bits.frame h1, .of_eq h1.core, h.of_steady h1 h2, by rw [h1.core]; exact hbr,
      by rw [h1.core]; exact h3, h4, h6 rfl⟩

/-- Changing a bit in the buffer of a branched imap node. -/
lemma AllocInv.setNodeBit {i n : ℕ} (h : AllocInv s W C own (i :: R) X)
    (hi : s.core.fImapInline = false) (hb : s.hasImapBit b = true)
    (hn : (b - s.core.ulInodeTableStartBN) / imapnodeEntries = n)
    (hbr : s.core.imapNodeIsBranched n = true)
    (hblk : s.buf.blk i = s.core.redImapNodeBlock s.core.bCurMR n)
    (htype : (s.buf.aHead i).type = .imap) (hd : (s.buf.aHead i).fDirty = true) (f : Bool) :
    AllocInv (s.setBuf i (.imap (Function.update (s.buf.pbBlkBuf i).asImap
      ((b - s.core.ulInodeTableStartBN) % imapnodeEntries) f))) (Function.update W b f) C own
      (i :: R) X := by
  set nd : Node := .imap (Function.update (s.buf.pbBlkBuf i).asImap
      ((b - s.core.ulInodeTableStartBN) % imapnodeEntries) f) with hnd
  have hm : i ∈ i :: R := List.mem_cons_self
  have hpeek : ∀ x, (s.setBuf i nd).peek x = if x = s.buf.blk i then nd else s.peek x :=
    fun x => h.buf.setBuf_peek hm x
  have hcont : s.buf.pbBlkBuf i = s.peek (s.core.redImapNodeBlock s.core.bCurMR n) := by
    rw [← hblk, h.buf.peek_held hm]
  refine ⟨⟨h.bits.layout.of_keeps (.refl _) rfl rfl, fun b' hb' => ?_, fun b' hb' => ?_,
    fun _ n' hn' bMR => h.bits.nodes hi n' hn' bMR⟩, ?_, h.low, h.high⟩
  · have hb' : s.covers b' = true := hb'
    have hW := h.bits.coversWorking b' hb'
    have hc : (s.setBuf i nd).core = s.core := rfl
    unfold FS.imapBit at hW ⊢
    simp only [hc, hi, Bool.false_eq_true, if_false] at hW ⊢
    rw [hpeek, hblk]
    by_cases hnn : (b' - s.core.ulInodeTableStartBN) / imapnodeEntries = n
    · rw [hnn, if_pos rfl, hnd, Node.asImap_imap, hcont]
      rw [hnn] at hW
      by_cases hbb : b' = b
      · subst hbb; simp
      · rw [Function.update_of_ne, hW, Function.update_of_ne hbb]
        intro hmod
        have h1 := (FS.hasImapBit_iff.1 hb).1
        have h2 := FS.covers_ge hb'
        have h3 := Nat.div_add_mod (b' - s.core.ulInodeTableStartBN) imapnodeEntries
        have h4 := Nat.div_add_mod (b - s.core.ulInodeTableStartBN) imapnodeEntries
        rw [hnn, hmod, ← hn] at h3
        omega
    · rw [if_neg fun h' => hnn (CoreVolume.redImapNodeBlock_inj h'), hW,
        Function.update_of_ne]
      rintro rfl
      exact hnn hn
  · have hb' : s.covers b' = true := hb'
    have hC := h.bits.coversCommitted b' hb'
    have hc : (s.setBuf i nd).core = s.core := rfl
    unfold FS.imapBit at hC ⊢
    simp only [hc, hi, Bool.false_eq_true, if_false] at hC ⊢
    rw [hpeek, hblk, if_neg, hC]
    intro h'
    have := CoreVolume.redImapNodeBlock_inj h'
    rw [this] at h'
    exact CoreVolume.nodeBlock_ne_of_branched hbr s.core.bCurMR h'.symm
  · exact h.buf.setBuf hm (fun ht => by rw [htype] at ht; cases ht) (fun _ h => h) h.buf.exempt
      (.inl hd)

lemma redImapEBlockSet_ok (h : AllocInv s W C own R X) (hi : s.core.fImapInline = false)
    (hb : s.hasImapBit b = true) {f : Bool} (hW : W b = !f) (hR : R.length < bufferCount)
    (hhigh : ∀ i ∈ R, s.core.ulInodeTableStartBN ≤ s.buf.blk i) :
    (redImapEBlockSet b f).Ok s fun _ s' =>
      Frame s s' (s.Prot C) R (· < s.core.ulInodeTableStartBN) ∧ OnlyEntries s s' ∧
      AllocInv s' (Function.update W b f) C own R X := by
  have hn := h.bits.layout.node_lt hi hb
  unfold redImapEBlockSet
  refine Op.Ok.get_bind ?_
  rw [if_neg (by simp [hi, hb])]
  refine Op.Ok.bind (imapNodeBranch_ok h hi hn hR hhigh) ?_
  rintro i s1 ⟨hf1, ho1, hA1, hbr1, hblk1, htype1, hdirty1⟩
  refine Op.Ok.get_bind ?_
  have hk := ho1.keeps
  have hi1 : s1.core.fImapInline = false := hk.inline.trans hi
  have hb1 : s1.hasImapBit b = true := by
    rw [← hb]; simp only [FS.hasImapBit, hk.tableStart, hf1.count]
  rw [← hk.cur] at hblk1
  rw [← hk.tableStart] at hbr1 hblk1
  have hm : i ∈ i :: R := List.mem_cons_self
  have hbit : (s1.buf.pbBlkBuf i).asImap
      ((b - s.core.ulInodeTableStartBN) % imapnodeEntries) = !f := by
    rw [← hA1.buf.peek_held hm, hblk1, ← hk.tableStart,
      (hA1.bits.nodeBit hi1 hb1 rfl rfl).1, hW]
  rw [if_neg (by rw [hbit]; simp)]
  refine Op.Ok.modify_bind ?_
  have hA2 := hA1.setNodeBit hi1 hb1 rfl hbr1 hblk1 htype1 hdirty1 f
  rw [hk.tableStart] at hA2
  refine (redBufferPut_cons hA2.buf h.buf.exempt).mono ?_
  rintro _ s3 ⟨h3, hi3, -⟩
  have hiR : i ∉ R := fun hm' => by
    have h1 := hhigh i hm'
    rw [← (hf1.held i hm').blk, hblk1, ← hk.tableStart] at h1
    have := (hA1.bits.layout.nodeBlock_lt hi1 (n := (b - s1.core.ulInodeTableStartBN) /
      imapnodeEntries) (by rw [hk.tableStart, hk.nodeCount]; exact hn) s1.core.bCurMR).2
    omega
  have hlow : s1.buf.blk i < s.core.ulInodeTableStartBN := by
    rw [hblk1, ← hk.tableStart]
    exact (hA1.bits.layout.nodeBlock_lt hi1 (n := (b - s1.core.ulInodeTableStartBN) /
      imapnodeEntries) (by rw [hk.tableStart, hk.nodeCount]; exact hn) s1.core.bCurMR).2
  have hp2 := hA2.prot_steady h3
  have ht : Touched s1 (s1.setBuf i (.imap (Function.update (s1.buf.pbBlkBuf i).asImap
      ((b - s.core.ulInodeTableStartBN) % imapnodeEntries) f))) ((i :: R).filter (· ≠ i))
      (· = s1.buf.blk i) := hA1.buf.setBuf_touched hm
  rw [filter_cons_self hiR] at ht
  have hpc : s1.Prot C = s.Prot C := FS.prot_congr hk hf1.count
  refine ⟨hf1.trans ((ht.frame.mono (fun _ h => h) fun x hx => hx ▸ hlow).trans ?_),
    ho1.trans_eq h3.core, hA2.of_steady h3 hi3⟩
  have := hA2.bits.frame (D := (· < s.core.ulInodeTableStartBN))
    (h3.weaken fun _ h => List.mem_cons_of_mem i h)
  rw [show FS.Prot (s1.setBuf i _) C = s1.Prot C from rfl, hpc] at this
  exact this

end

end RelianceEdge
