import RelianceEdge.Alloc.Bits

set_option relaxedAutoImplicit false
set_option autoImplicit false
set_option linter.unusedSectionVars false

/-!
# Reading the bitmaps

`RedImapBlockGet()` and `RedImapBlockState()` read the two sets, and nothing else changes.

## Main definitions

* `AllocInv` — the bitmaps, the cache and what may be buffered.

## Main results

* `redImapBlockGet_ok`, `redImapBlockState_ok`.
-/

namespace RelianceEdge

variable [RedConf]

open RedConf

/-- **The invariant below the inodes**: the bitmaps `W` and `C`, and a cache that protects the
committed state and holds blocks of `own` only, never the master block or a metaroot. -/
structure AllocInv (s : FS) (W C : ℕ → Bool) (own : ℕ → Prop) (R : List ℕ) (X : ℕ → Prop) :
    Prop where
  bits : ImapBits s W C
  buf : BufInv s (s.Prot C) own R X
  low : ∀ b, 3 ≤ b → b < s.core.ulInodeTableStartBN → own b
  high : ∀ b, own b → 3 ≤ b

section

variable {s s' : FS} {W C : ℕ → Bool} {own : ℕ → Prop} {R R' : List ℕ} {X : ℕ → Prop} {b : ℕ}

/-- A run of the cache keeps the invariant, with the references it took or dropped. -/
lemma AllocInv.of_steady {R'' : List ℕ} {X' : ℕ → Prop} (h : AllocInv s W C own R X)
    (hs : Steady s s' (s.Prot C) R') (hi : BufInv s' (s.Prot C) own R'' X') :
    AllocInv s' W C own R'' X' where
  bits := h.bits.of_steady hs
  buf := by
    rw [FS.prot_congr (.of_eq hs.core) (by rw [hs.vol])]
    exact hi
  low := by rw [hs.core]; exact h.low
  high := h.high

lemma AllocInv.prot_steady (_h : AllocInv s W C own R X) (hs : Steady s s' (s.Prot C) R') :
    s'.Prot C = s.Prot C :=
  FS.prot_congr (.of_eq hs.core) (by rw [hs.vol])

lemma AllocInv.own_mono {own' : ℕ → Prop} (h : AllocInv s W C own R X) (ho : ∀ b, own b → own' b)
    (hge : ∀ b, own' b → 3 ≤ b) : AllocInv s W C own' R X :=
  ⟨h.bits, h.buf.own_mono ho, fun b hb hlt => ho b (h.low b hb hlt), hge⟩

lemma FS.hasImapBit_congr (hs : s'.core = s.core) (hv : s'.vol.ulBlockCount = s.vol.ulBlockCount)
    (b : ℕ) : s'.hasImapBit b = s.hasImapBit b := by
  simp only [FS.hasImapBit, hs, hv]

/-! ## Imap nodes -/

/-- Acquiring an imap node to read it. -/
lemma imapNodeGet_ok (h : AllocInv s W C own R X) (hi : s.core.fImapInline = false) {n : ℕ}
    (hn : n < s.core.ulImapNodeCount) (bMR : Bool) (hR : R.length < bufferCount) :
    (redBufferGet (s.core.redImapNodeBlock bMR n) .imap false false).Ok s fun i s' =>
      Steady s s' (s.Prot C) R ∧ BufInv s' (s.Prot C) own (i :: R) X ∧
        s'.buf.pbBlkBuf i = s.peek (s.core.redImapNodeBlock bMR n) := by
  obtain ⟨hge, hlt⟩ := h.bits.layout.nodeBlock_lt hi hn bMR
  refine (redBufferGet_ok h.buf (hlt.trans_le h.bits.layout.start_le) (h.bits.nodes hi n hn bMR) hR
    (fun h => by cases h) (h.low _ hge hlt)).mono ?_
  rintro i s' ⟨h1, h2, -, -, h5, -⟩
  exact ⟨h1, h2, h5⟩

/-- Reading an imap node and releasing it. -/
lemma imapNodeRead_run {α : Type} (h : AllocInv s W C own R X) (hi : s.core.fImapInline = false)
    {n : ℕ} (hn : n < s.core.ulImapNodeCount) (bMR : Bool) (hR : R.length < bufferCount)
    (f : (ℕ → Bool) → FS → Red α) :
    ∃ s0 s1, (do
      let pImap ← redBufferGet (s.core.redImapNodeBlock bMR n) .imap false false
      let s ← .get
      redBufferPut pImap
      f (s.buf.pbBlkBuf pImap).asImap s : Red α) s =
        f (s.peek (s.core.redImapNodeBlock bMR n)).asImap s0 s1 ∧
      Steady s s1 (s.Prot C) R ∧ AllocInv s1 W C own R X ∧ s0.core = s.core ∧
      s0.vol.ulBlockCount = s.vol.ulBlockCount := by
  obtain ⟨i, s0, hget, h1, h2, h3⟩ := imapNodeGet_ok h hi hn bMR hR
  obtain ⟨_, s1, hput, g1, g2, -⟩ := redBufferPut_cons h2 h.buf.exempt
  have hst := h1.trans (g1.weaken fun i hi => List.mem_cons_of_mem _ hi)
  refine ⟨s0, s1, ?_, hst, h.of_steady hst g2, h1.core, by rw [h1.vol]⟩
  rw [Op.bind_ok hget, Op.get_bind_run, Op.bind_ok hput, h3]

lemma imapNodeRead_ok {α : Type} (h : AllocInv s W C own R X) (hi : s.core.fImapInline = false)
    {n : ℕ} (hn : n < s.core.ulImapNodeCount) (bMR : Bool) (hR : R.length < bufferCount)
    (f : (ℕ → Bool) → FS → Red α) {Q : α → FS → Prop}
    (hf : ∀ s1, Steady s s1 (s.Prot C) R → AllocInv s1 W C own R X →
      ∀ s0 : FS, s0.core = s.core → s0.vol.ulBlockCount = s.vol.ulBlockCount →
      (f (s.peek (s.core.redImapNodeBlock bMR n)).asImap s0).Ok s1 Q) :
    (do
      let pImap ← redBufferGet (s.core.redImapNodeBlock bMR n) .imap false false
      let s ← .get
      redBufferPut pImap
      f (s.buf.pbBlkBuf pImap).asImap s : Red α).Ok s Q := by
  obtain ⟨s0, s1, hrun, hst, hinv, hc, hv⟩ := imapNodeRead_run h hi hn bMR hR f
  unfold Op.Ok
  rw [hrun]
  exact hf s1 hst hinv s0 hc hv

/-! ## Bits -/

lemma redImapIBlockGet_ok (hi : s.core.fImapInline = true)
    (hb : s.hasImapBit b = true) (bMR : Bool) :
    redImapIBlockGet bMR b s = (.ok (s.imapBit bMR b), s) := by
  unfold redImapIBlockGet
  simp [hi, hb, FS.imapBit]

lemma redImapEBlockGet_ok (h : AllocInv s W C own R X) (hi : s.core.fImapInline = false)
    (hb : s.hasImapBit b = true) (bMR : Bool) (hR : R.length < bufferCount) :
    (redImapEBlockGet bMR b).Ok s fun r s' => r = s.imapBit bMR b ∧
      Steady s s' (s.Prot C) R ∧ AllocInv s' W C own R X := by
  unfold redImapEBlockGet
  refine Op.Ok.get_bind ?_
  rw [if_neg (by simp [hi, hb])]
  have hn := h.bits.layout.node_lt hi hb
  set n := (b - s.core.ulInodeTableStartBN) / imapnodeEntries with hndef
  set bMRToRead :=
    if bMR = !s.core.bCurMR ∧ (!s.core.imapNodeIsBranched n) = true then !bMR else bMR
    with hread
  have hblock : s.core.redImapNodeBlock bMRToRead n = s.core.redImapNodeBlock bMR n := by
    rw [hread]
    split_ifs with hc
    · exact CoreVolume.nodeBlock_eq_of_not_branched (by simpa using hc.2) _ _
    · rfl
  refine imapNodeRead_ok h hi hn bMRToRead hR (fun ab s0 =>
    pure (ab ((b - s.core.ulInodeTableStartBN) % imapnodeEntries))) ?_
  intro s1 hst hinv s0 _ _
  refine Op.Ok.pure ⟨?_, hst, hinv⟩
  rw [hblock]
  simp [FS.imapBit, hi, hndef]

/-- **Reading a bit** of the working or the committed set. -/
theorem redImapBlockGet_ok (h : AllocInv s W C own R X) (hb : s.hasImapBit b = true) (bMR : Bool)
    (hR : R.length < bufferCount) :
    (redImapBlockGet bMR b).Ok s fun r s' =>
      r = (if bMR = s.core.bCurMR then W b else C b) ∧ Steady s s' (s.Prot C) R ∧
        AllocInv s' W C own R X := by
  have hbit : s.imapBit bMR b = if bMR = s.core.bCurMR then W b else C b := by
    split_ifs with hc
    · rw [hc, h.bits.working hb]
    · rw [Bool.eq_not_of_ne hc, h.bits.committed hb]
  unfold redImapBlockGet
  refine Op.Ok.get_bind ?_
  rw [if_neg (by simp [hb])]
  rcases hi : s.core.fImapInline with _ | _
  · simp only [Bool.false_eq_true, if_false]
    refine (redImapEBlockGet_ok h hi hb bMR hR).mono ?_
    rintro r s' ⟨rfl, h2⟩
    exact ⟨hbit, h2⟩
  · simp only [if_true]
    exact Op.Ok.intro (redImapIBlockGet_ok hi hb bMR) ⟨hbit, .refl _ _ _, h⟩

/-- **Reading the allocation state** of a block. -/
theorem redImapBlockState_ok (h : AllocInv s W C own R X) (hb : s.hasImapBit b = true)
    (hR : R.length < bufferCount) :
    (redImapBlockState b).Ok s fun r s' => r = allocStateOf (W b) (C b) ∧
      Steady s s' (s.Prot C) R ∧ AllocInv s' W C own R X := by
  unfold redImapBlockState
  refine Op.Ok.get_bind ?_
  rw [if_neg (by simp [hb])]
  refine Op.Ok.bind (redImapBlockGet_ok h hb _ hR) ?_
  rintro _ s1 ⟨rfl, h1, hinv1⟩
  have hb1 : s1.hasImapBit b = true := by
    rw [FS.hasImapBit_congr h1.core (by rw [h1.vol]), hb]
  refine Op.Ok.bind (redImapBlockGet_ok hinv1 hb1 _ hR) ?_
  rintro _ s2 ⟨rfl, h2, hinv2⟩
  refine Op.Ok.pure ⟨?_, h1.trans ?_, hinv2⟩
  · rw [h1.core]
    simp
  · rwa [h.prot_steady h1] at h2

end

end RelianceEdge
