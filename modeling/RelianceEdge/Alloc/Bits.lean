import Mathlib.Data.Finset.Card
import Mathlib.Order.Interval.Finset.Nat
import RelianceEdge.Cache.Range
import RelianceEdge.Imap

set_option relaxedAutoImplicit false
set_option autoImplicit false
set_option linter.unusedSectionVars false

/-!
# The two bitmaps

The imap abstracted to two sets of blocks, the ones allocated in the working state and the ones
allocated in the committed state, whichever way the imap is stored. The committed set decides which
blocks must not be overwritten.

## Main definitions

* `FS.Layout` — the regions of the volume.
* `CoreVolume.Prot` — the blocks that belong to the committed state.
* `ImapBits` — the imap says what the two bitmaps say.

## Main results

* `FS.isCow` — a write to an unprotected block leaves the committed state alone.
* `ImapBits.of_steady` — a run of the cache changes neither bitmap.
-/

namespace RelianceEdge

variable [RedConf]

open RedConf

/-! ## Layout -/

/-- **Layout**: what `RedVolInitBlockLayout()` establishes. -/
structure FS.Layout (s : FS) : Prop where
  count_le : s.vol.ulBlockCount ≤ UINT32_MAX
  inline : s.core.fImapInline = true →
    s.core.ulInodeTableStartBN = 3 ∧ s.vol.ulBlockCount - 3 ≤ metarootEntries
  external : s.core.fImapInline = false → s.core.ulImapStartBN = 3 ∧
    s.core.ulInodeTableStartBN = 3 + s.core.ulImapNodeCount * 2 ∧
    s.core.ulImapNodeCount ≤ metarootEntries ∧
    s.vol.ulBlockCount ≤ 3 + s.core.ulImapNodeCount * (imapnodeEntries + 2)
  first : s.core.ulFirstAllocableBN = s.core.ulInodeTableStartBN + s.core.ulInodeCount * 2
  first_le : s.core.ulFirstAllocableBN ≤ s.vol.ulBlockCount
  allocable : s.vol.ulBlocksAllocable = s.vol.ulBlockCount - s.core.ulFirstAllocableBN

lemma imapnodeEntries_pos : 0 < imapnodeEntries := by
  have h : 2 ^ 7 ≤ blockSize := Nat.pow_le_pow_right (by decide) blockSizeP2_mem.1
  unfold imapnodeEntries
  omega

section

variable {s : FS}

lemma FS.Layout.start_ge (h : s.Layout) : 3 ≤ s.core.ulInodeTableStartBN := by
  rcases hi : s.core.fImapInline with _ | _
  · have := h.external hi; omega
  · have := h.inline hi; omega

lemma FS.hasImapBit_iff {b : ℕ} :
    s.hasImapBit b = true ↔ s.core.ulInodeTableStartBN ≤ b ∧ b < s.vol.ulBlockCount := by
  simp [FS.hasImapBit]

/-- Whether the bitmap reaches as far as the block: a bitmap may be longer than the volume. -/
def FS.covers (s : FS) (b : ℕ) : Bool :=
  decide (s.core.ulInodeTableStartBN ≤ b) && (s.core.fImapInline ||
    decide ((b - s.core.ulInodeTableStartBN) / imapnodeEntries < s.core.ulImapNodeCount))

lemma FS.covers_ge {b : ℕ} (h : s.covers b = true) : s.core.ulInodeTableStartBN ≤ b := by
  simp only [FS.covers, Bool.and_eq_true, decide_eq_true_eq] at h
  exact h.1

lemma FS.covers_node {b : ℕ} (hi : s.core.fImapInline = false) (h : s.covers b = true) :
    (b - s.core.ulInodeTableStartBN) / imapnodeEntries < s.core.ulImapNodeCount := by
  simpa [FS.covers, hi] using (Bool.and_eq_true_iff.1 h).2

/-- The imap node that has the bit of a block. -/
lemma FS.Layout.node_lt (h : s.Layout) (hi : s.core.fImapInline = false) {b : ℕ}
    (hb : s.hasImapBit b = true) :
    (b - s.core.ulInodeTableStartBN) / imapnodeEntries < s.core.ulImapNodeCount := by
  obtain ⟨-, h2, -, h4⟩ := h.external hi
  obtain ⟨h5, h6⟩ := FS.hasImapBit_iff.1 hb
  refine Nat.div_lt_of_lt_mul ?_
  rw [Nat.mul_add] at h4
  rw [Nat.mul_comm]
  omega

/-- The bitmap reaches the end of the volume. -/
lemma FS.Layout.covers (h : s.Layout) {b : ℕ} (hb : s.hasImapBit b = true) : s.covers b = true := by
  unfold FS.covers
  rw [Bool.and_eq_true, decide_eq_true_eq]
  refine ⟨(FS.hasImapBit_iff.1 hb).1, ?_⟩
  cases hi : s.core.fImapInline with
  | true => rfl
  | false => simpa using h.node_lt hi hb

lemma FS.Layout.idxIsValid (h : s.Layout) (hi : s.core.fImapInline = false) {n : ℕ} :
    s.core.imapNodeIdxIsValid n = true ↔ n < s.core.ulImapNodeCount := by
  have := (h.external hi).2.2.1
  simp only [CoreVolume.imapNodeIdxIsValid, decide_eq_true_eq]
  omega

lemma CoreVolume.redImapNodeBlock_mem (c : CoreVolume) (bMR : Bool) (n : ℕ) :
    c.redImapNodeBlock bMR n = c.ulImapStartBN + n * 2 ∨
      c.redImapNodeBlock bMR n = c.ulImapStartBN + n * 2 + 1 := by
  unfold CoreVolume.redImapNodeBlock
  split_ifs <;> simp

lemma FS.Layout.nodeBlock_lt (h : s.Layout) (hi : s.core.fImapInline = false) {n : ℕ}
    (hn : n < s.core.ulImapNodeCount) (bMR : Bool) :
    3 ≤ s.core.redImapNodeBlock bMR n ∧
      s.core.redImapNodeBlock bMR n < s.core.ulInodeTableStartBN := by
  obtain ⟨h1, h2, -⟩ := h.external hi
  have := s.core.redImapNodeBlock_mem bMR n
  omega

/-- Different imap nodes have different locations. -/
lemma CoreVolume.redImapNodeBlock_inj {c : CoreVolume} {bMR bMR' : Bool} {n n' : ℕ}
    (h : c.redImapNodeBlock bMR n = c.redImapNodeBlock bMR' n') : n = n' := by
  have h1 := c.redImapNodeBlock_mem bMR n
  have h2 := c.redImapNodeBlock_mem bMR' n'
  omega

/-- A location of an imap node determines the node. -/
lemma CoreVolume.nodeBlock_div (c : CoreVolume) (bMR : Bool) (n : ℕ) :
    (c.redImapNodeBlock bMR n - c.ulImapStartBN) / 2 = n := by
  have := c.redImapNodeBlock_mem bMR n
  omega

lemma FS.Layout.start_le (h : s.Layout) : s.core.ulInodeTableStartBN ≤ s.vol.ulBlockCount := by
  have := h.first_le
  rw [h.first] at this
  omega

lemma CoreVolume.nodeBlock_eq_of_not_branched {c : CoreVolume} {n : ℕ}
    (h : c.imapNodeIsBranched n = false) (bMR bMR' : Bool) :
    c.redImapNodeBlock bMR n = c.redImapNodeBlock bMR' n := by
  unfold CoreVolume.imapNodeIsBranched at h
  unfold CoreVolume.redImapNodeBlock
  rcases hv : c.imapNodeIdxIsValid n with _ | _
  · simp
  · rw [hv] at h
    have : (c.aMR false).abEntries n = (c.aMR true).abEntries n := by simpa using h
    cases bMR <;> cases bMR' <;> simp [this]

lemma CoreVolume.nodeBlock_ne_of_branched {c : CoreVolume} {n : ℕ}
    (h : c.imapNodeIsBranched n = true) (bMR : Bool) :
    c.redImapNodeBlock bMR n ≠ c.redImapNodeBlock (!bMR) n := by
  unfold CoreVolume.imapNodeIsBranched at h
  unfold CoreVolume.redImapNodeBlock
  simp only [Bool.and_eq_true, bne_iff_ne] at h
  obtain ⟨hv, hne⟩ := h
  rw [hv]
  rcases hx : (c.aMR false).abEntries n with _ | _ <;>
    rcases hy : (c.aMR true).abEntries n with _ | _ <;>
    cases bMR <;> simp_all

end

/-! ## Protected blocks -/

/-- **Protected blocks**: the blocks outside the two bitmaps' reach that no buffer may overwrite,
the imap node locations that the committed metaroot selects, and the blocks allocated in the
committed state. -/
def FS.Prot (s : FS) (C : ℕ → Bool) (b : ℕ) : Prop :=
  b < 3 ∨ s.vol.ulBlockCount ≤ b ∨
    (b < s.core.ulInodeTableStartBN ∧
      b = s.core.redImapNodeBlock (!s.core.bCurMR) ((b - s.core.ulImapStartBN) / 2)) ∨
    (s.core.ulInodeTableStartBN ≤ b ∧ C b = true)

/-- **Kept layout**: what no operation between two transaction points changes in `COREVOLUME`. -/
structure CoreVolume.Keeps (c c' : CoreVolume) : Prop where
  version : c'.ulVersion = c.ulVersion
  inline : c'.fImapInline = c.fImapInline
  imapStart : c'.ulImapStartBN = c.ulImapStartBN
  nodeCount : c'.ulImapNodeCount = c.ulImapNodeCount
  tableStart : c'.ulInodeTableStartBN = c.ulInodeTableStartBN
  inodeCount : c'.ulInodeCount = c.ulInodeCount
  first : c'.ulFirstAllocableBN = c.ulFirstAllocableBN
  cur : c'.bCurMR = c.bCurMR
  committed : c'.aMR (!c.bCurMR) = c.aMR (!c.bCurMR)

section

variable {s s' s'' : FS} {W C : ℕ → Bool} {prot : ℕ → Prop} {R : List ℕ} {X : ℕ → Prop}

lemma CoreVolume.Keeps.refl (c : CoreVolume) : c.Keeps c :=
  ⟨rfl, rfl, rfl, rfl, rfl, rfl, rfl, rfl, rfl⟩

lemma CoreVolume.Keeps.of_eq {c c' : CoreVolume} (h : c' = c) : c.Keeps c' := h ▸ .refl c

lemma CoreVolume.Keeps.trans {c c' c'' : CoreVolume} (h : c.Keeps c') (h' : c'.Keeps c'') :
    c.Keeps c'' :=
  ⟨h'.version.trans h.version, h'.inline.trans h.inline, h'.imapStart.trans h.imapStart,
    h'.nodeCount.trans h.nodeCount, h'.tableStart.trans h.tableStart,
    h'.inodeCount.trans h.inodeCount, h'.first.trans h.first, h'.cur.trans h.cur, by
    rw [← h.committed, ← h.cur, h'.committed]⟩

lemma CoreVolume.Keeps.nodeBlock_committed {c c' : CoreVolume} (h : c.Keeps c') (n : ℕ) :
    c'.redImapNodeBlock (!c'.bCurMR) n = c.redImapNodeBlock (!c.bCurMR) n := by
  unfold CoreVolume.redImapNodeBlock CoreVolume.imapNodeIdxIsValid
  rw [h.imapStart, h.nodeCount, h.cur, h.committed]

lemma FS.prot_congr (h : s.core.Keeps s'.core) (hv : s'.vol.ulBlockCount = s.vol.ulBlockCount) :
    s'.Prot C = s.Prot C := by
  funext b
  simp only [FS.Prot, hv, h.tableStart, h.imapStart, h.nodeBlock_committed]

lemma FS.hasImapBit_keeps (h : s.core.Keeps s'.core)
    (hv : s'.vol.ulBlockCount = s.vol.ulBlockCount) (b : ℕ) : s'.hasImapBit b = s.hasImapBit b := by
  simp only [FS.hasImapBit, h.tableStart, hv]

lemma FS.covers_keeps (h : s.core.Keeps s'.core) (b : ℕ) : s'.covers b = s.covers b := by
  simp only [FS.covers, h.tableStart, h.inline, h.nodeCount]

lemma FS.Layout.of_keeps (hl : s.Layout) (h : s.core.Keeps s'.core)
    (hv : s'.vol.ulBlockCount = s.vol.ulBlockCount)
    (ha : s'.vol.ulBlocksAllocable = s.vol.ulBlocksAllocable) : s'.Layout where
  count_le := hv ▸ hl.count_le
  inline hi := by
    rw [h.tableStart, hv]
    exact hl.inline (h.inline ▸ hi)
  external hi := by
    rw [h.imapStart, h.tableStart, h.nodeCount, hv]
    exact hl.external (h.inline ▸ hi)
  first := by rw [h.first, h.tableStart, h.inodeCount]; exact hl.first
  first_le := by rw [h.first, hv]; exact hl.first_le
  allocable := by rw [ha, hv, h.first]; exact hl.allocable

/-! ## The bitmaps -/

/-- **The bitmaps**: `W` are the blocks allocated in the working state, `C` the ones allocated in
the committed state, as far as the bitmaps reach, and every imap node can be read. -/
structure ImapBits (s : FS) (W C : ℕ → Bool) : Prop where
  layout : s.Layout
  coversWorking : ∀ b, s.covers b = true → s.imapBit s.core.bCurMR b = W b
  coversCommitted : ∀ b, s.covers b = true → s.imapBit (!s.core.bCurMR) b = C b
  nodes : s.core.fImapInline = false → ∀ n, n < s.core.ulImapNodeCount → ∀ bMR,
    s.Readable (s.core.redImapNodeBlock bMR n) .imap

lemma ImapBits.working (h : ImapBits s W C) {b : ℕ} (hb : s.hasImapBit b = true) :
    s.imapBit s.core.bCurMR b = W b := h.coversWorking b (h.layout.covers hb)

lemma ImapBits.committed (h : ImapBits s W C) {b : ℕ} (hb : s.hasImapBit b = true) :
    s.imapBit (!s.core.bCurMR) b = C b := h.coversCommitted b (h.layout.covers hb)

lemma ImapBits.of_frame {D : ℕ → Prop} (h : ImapBits s W C) (hf : Frame s s' prot R D)
    (hc : s'.core = s.core)
    (hD : ∀ b, b < s.core.ulInodeTableStartBN → ¬ D b) : ImapBits s' W C := by
  have hv : s'.vol.ulBlockCount = s.vol.ulBlockCount := by rw [hf.vol]
  have hbit : ∀ b, s'.covers b = s.covers b := FS.covers_keeps (.of_eq hc)
  have himap : ∀ bMR b, s.covers b = true → s'.imapBit bMR b = s.imapBit bMR b := by
    intro bMR b hb
    unfold FS.imapBit
    rw [hc]
    rcases hi : s.core.fImapInline with _ | _
    · simp only [Bool.false_eq_true, if_false]
      rw [hf.peek _ (hD _ (h.layout.nodeBlock_lt hi (FS.covers_node hi hb) bMR).2)]
    · rfl
  refine ⟨h.layout.of_keeps (.of_eq hc) hv (by rw [hf.vol]), fun b hb => ?_, fun b hb => ?_,
    fun hi n hn bMR => ?_⟩
  · rw [hbit] at hb
    rw [himap _ _ hb, hc, h.coversWorking b hb]
  · rw [hbit] at hb
    rw [himap _ _ hb, hc, h.coversCommitted b hb]
  · rw [hc] at hi hn ⊢
    exact hf.readable _ _ (hD _ (h.layout.nodeBlock_lt hi hn bMR).2) (h.nodes hi n hn bMR)

/-- **A write to an unprotected block leaves the committed state alone**, whatever the working
state is. -/
theorem FS.isCow
    (hC : ∀ b, s.hasImapBit b = true → s.imapBit (!s.core.bCurMR) b = C b) {b : ℕ}
    (hp : ¬ s.Prot C b) : (s.writeTarget b).IsCow := by
  simp only [FS.Prot, not_or, not_lt, not_le, not_and] at hp
  obtain ⟨h3, hlt, hnode, hc⟩ := hp
  unfold FS.writeTarget
  rw [if_neg (by unfold BLOCK_NUM_MASTER; omega),
    if_neg (by unfold BLOCK_NUM_FIRST_METAROOT; omega)]
  split_ifs with hs
  · exact decide_eq_false (hnode hs)
  · have hb : s.hasImapBit b = true := FS.hasImapBit_iff.2 ⟨by omega, hlt⟩
    have hc : C b = false := by simpa using hc (by omega)
    unfold FS.allocState
    rw [hC b hb, hc]
    cases s.imapBit s.core.bCurMR b <;> simp [allocStateOf, WriteTarget.IsCow]

lemma ImapBits.isCow (h : ImapBits s W C) {b : ℕ} (hp : ¬ s.Prot C b) : (s.writeTarget b).IsCow :=
  FS.isCow (fun _ hb => h.committed hb) hp

lemma ImapBits.frame {D : ℕ → Prop} (h : ImapBits s W C) (hs : Steady s s' (s.Prot C) R) :
    Frame s s' (s.Prot C) R D := hs.frame fun _ hp => h.isCow hp

lemma ImapBits.of_steady (h : ImapBits s W C) (hs : Steady s s' (s.Prot C) R) : ImapBits s' W C :=
  h.of_frame (h.frame (D := fun _ => False) hs) hs.core fun _ _ h => h

end

end RelianceEdge
