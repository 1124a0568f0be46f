import RelianceEdge.Volume
import RelianceEdge.Alloc.Bits

set_option relaxedAutoImplicit false
set_option autoImplicit false
set_option linter.unusedSectionVars false

/-!
# The layout of a volume

What `RedVolInitBlockLayout()` computes depends on the number of blocks and the number of inodes
only, so computing it again finds the layout that is there.

## Main definitions

* `layoutInline`, `layoutNodes`, `layoutStart` — the layout for a number of blocks.
* `LayoutFits` — the geometries that have a layout.
* `FS.withLayout` — the state that carries the layout of its geometry.
* `FS.HasLayout` — the state carries it already.

## Main results

* `redVolInitBlockLayout_run`, `redVolInitBlockLayout_accepts` — which geometries the function
  accepts.
* `FS.HasLayout.layout` — such a layout is sound.
-/

namespace RelianceEdge

variable [RedConf]

open RedConf

/-- Whether the imap of a volume with `n` blocks is in the metaroot. -/
def layoutInline (n : ℕ) : Bool := decide (n - 3 ≤ metarootEntries)

/-- The number of imap nodes of a volume with `n` blocks; the sum is one of `uint32_t`. -/
def layoutNodes (n : ℕ) : ℕ := u32 (n - 3 + (imapnodeEntries + 2 - 1)) / (imapnodeEntries + 2)

/-- Where the inode table of a volume with `n` blocks starts. -/
def layoutStart (n : ℕ) : ℕ := if layoutInline n then 3 else 3 + layoutNodes n * 2

/-- **The geometries that have a layout**: `n` blocks with room for `inodes` inodes. -/
structure LayoutFits (n inodes : ℕ) : Prop where
  count_le : n ≤ UINT32_MAX
  count_ge : MINIMUM_METADATA_BLOCKS ≤ n
  nodes_le : layoutInline n = false → layoutNodes n ≤ metarootEntries
  inodes_le : layoutStart n + inodes * 2 ≤ n
  /-- The sum behind the number of imap nodes does not wrap around. -/
  nodes_fit : layoutInline n = false → n - 3 + (imapnodeEntries + 2 - 1) ≤ UINT32_MAX

/-- Two states of a volume with the same layout. -/
structure CoreVolume.SameLayout (c c' : CoreVolume) : Prop where
  inline : c'.fImapInline = c.fImapInline
  imapStart : c'.ulImapStartBN = c.ulImapStartBN
  nodeCount : c'.ulImapNodeCount = c.ulImapNodeCount
  tableStart : c'.ulInodeTableStartBN = c.ulInodeTableStartBN
  inodeCount : c'.ulInodeCount = c.ulInodeCount
  first : c'.ulFirstAllocableBN = c.ulFirstAllocableBN

/-- The state with the layout of its geometry. -/
def FS.withLayout (s : FS) : FS :=
  let n := s.vol.ulBlockCount
  { s with
    vol := { s.vol with ulBlocksAllocable := n - (layoutStart n + s.core.ulInodeCount * 2) }
    core := { s.core with
      fImapInline := layoutInline n
      ulImapStartBN := if layoutInline n then s.core.ulImapStartBN else 3
      ulImapNodeCount := if layoutInline n then s.core.ulImapNodeCount else layoutNodes n
      ulInodeTableStartBN := layoutStart n
      ulFirstAllocableBN := layoutStart n + s.core.ulInodeCount * 2 } }

/-- **The state has the layout of its geometry.** -/
structure FS.HasLayout (s : FS) : Prop where
  fits : LayoutFits s.vol.ulBlockCount s.core.ulInodeCount
  same : s.withLayout = s

section

variable {s s' : FS}

/-- **The geometry decides whether the layout can be computed.** -/
lemma redVolInitBlockLayout_run (hge : MINIMUM_METADATA_BLOCKS ≤ s.vol.ulBlockCount)
    (hnodes : layoutInline s.vol.ulBlockCount = false →
      layoutNodes s.vol.ulBlockCount ≤ metarootEntries)
    (hle : s.vol.ulBlockCount ≤ UINT32_MAX)
    (hfit : layoutStart s.vol.ulBlockCount + s.core.ulInodeCount * 2 ≤ s.vol.ulBlockCount) :
    redVolInitBlockLayout s = (.ok (), s.withLayout) := by
  unfold redVolInitBlockLayout FS.withLayout
  unfold layoutStart at hfit ⊢
  rw [Op.get_bind_run, if_neg (by omega)]
  cases hi : layoutInline s.vol.ulBlockCount with
  | true =>
    rw [hi, if_pos rfl] at hfit
    have hi' : s.vol.ulBlockCount - 3 ≤ metarootEntries := by simpa [layoutInline] using hi
    simp only [hi', decide_true, if_true, Op.modify_bind_run, Op.get_bind_run]
    rw [if_neg (by omega), Op.modify_bind_run, if_neg (by omega)]
    simp only [hi, if_true]
    rfl
  | false =>
    rw [hi, if_neg (by simp)] at hfit
    have hi' : ¬ s.vol.ulBlockCount - 3 ≤ metarootEntries := by simpa [layoutInline] using hi
    have hn := hnodes hi
    simp only [hi', decide_false, Bool.false_eq_true, if_false, Op.modify_bind_run,
      ← layoutNodes.eq_def]
    rw [if_neg (by omega)]
    simp only [Op.modify_bind_run, Op.get_bind_run]
    rw [if_neg (by omega), if_neg (by omega)]
    simp only [hi, Bool.false_eq_true, if_false]
    rfl

/-- What the function checks before it accepts a geometry. -/
lemma redVolInitBlockLayout_accepts (h : redVolInitBlockLayout s = (.ok (), s')) :
    MINIMUM_METADATA_BLOCKS ≤ s.vol.ulBlockCount ∧
      (layoutInline s.vol.ulBlockCount = false →
        layoutNodes s.vol.ulBlockCount ≤ metarootEntries) ∧
      layoutStart s.vol.ulBlockCount + s.core.ulInodeCount * 2 ≤ s.vol.ulBlockCount := by
  unfold redVolInitBlockLayout at h
  rw [Op.get_bind_run] at h
  by_cases hge : s.vol.ulBlockCount < MINIMUM_METADATA_BLOCKS
  · rw [if_pos hge] at h
    cases h
  rw [if_neg hge] at h
  by_cases hi : s.vol.ulBlockCount - 3 ≤ metarootEntries
  · have hi' : layoutInline s.vol.ulBlockCount = true := by simpa [layoutInline] using hi
    simp only [hi, decide_true, if_true, Op.modify_bind_run, Op.get_bind_run] at h
    by_cases h1 : UINT32_MAX < s.core.ulInodeCount * 2 + 3
    · rw [if_pos h1] at h
      cases h
    rw [if_neg h1, Op.modify_bind_run] at h
    by_cases h2 : s.vol.ulBlockCount < 3 + s.core.ulInodeCount * 2
    · rw [if_pos h2] at h
      cases h
    refine ⟨not_lt.1 hge, fun hf => ?_, ?_⟩
    · rw [hi'] at hf
      cases hf
    · rw [layoutStart, if_pos hi']
      exact not_lt.1 h2
  · have hi' : layoutInline s.vol.ulBlockCount = false := by simpa [layoutInline] using hi
    simp only [hi, decide_false, Bool.false_eq_true, if_false, Op.modify_bind_run,
      ← layoutNodes.eq_def] at h
    by_cases h0 : metarootEntries < layoutNodes s.vol.ulBlockCount
    · rw [if_pos h0] at h
      cases h
    rw [if_neg h0] at h
    simp only [Op.modify_bind_run, Op.get_bind_run] at h
    change (if UINT32_MAX < s.core.ulInodeCount * 2 + (3 + layoutNodes s.vol.ulBlockCount * 2) then
      _ else _ : Red Unit) _ = _ at h
    by_cases h1 : UINT32_MAX < s.core.ulInodeCount * 2 + (3 + layoutNodes s.vol.ulBlockCount * 2)
    · rw [if_pos h1] at h
      cases h
    rw [if_neg h1, Op.modify_bind_run] at h
    by_cases h2 : s.vol.ulBlockCount <
        3 + layoutNodes s.vol.ulBlockCount * 2 + s.core.ulInodeCount * 2
    · rw [if_pos h2] at h
      cases h
    refine ⟨not_lt.1 hge, fun _ => not_lt.1 h0, ?_⟩
    rw [layoutStart, if_neg (by simp [hi'])]
    exact not_lt.1 h2

lemma LayoutFits.run (h : LayoutFits s.vol.ulBlockCount s.core.ulInodeCount) :
    redVolInitBlockLayout s = (.ok (), s.withLayout) :=
  redVolInitBlockLayout_run h.count_ge h.nodes_le h.count_le h.inodes_le

lemma FS.withLayout_hasLayout (h : LayoutFits s.vol.ulBlockCount s.core.ulInodeCount) :
    s.withLayout.HasLayout := by
  refine ⟨h, ?_⟩
  unfold FS.withLayout
  dsimp only
  cases layoutInline s.vol.ulBlockCount <;> rfl

/-- The layout only depends on the geometry. -/
lemma FS.HasLayout.of_same (h : s.HasLayout) (hc : s.core.SameLayout s'.core)
    (hv : s'.vol.ulBlockCount = s.vol.ulBlockCount)
    (ha : s'.vol.ulBlocksAllocable = s.vol.ulBlocksAllocable) : s'.HasLayout := by
  have hvol : s.vol.ulBlockCount - (layoutStart s.vol.ulBlockCount + s.core.ulInodeCount * 2) =
      s.vol.ulBlocksAllocable := congrArg (fun s : FS => s.vol.ulBlocksAllocable) h.same
  have h1 := congrArg (fun s : FS => s.core.fImapInline) h.same
  have h2 := congrArg (fun s : FS => s.core.ulImapStartBN) h.same
  have h3 := congrArg (fun s : FS => s.core.ulImapNodeCount) h.same
  have h4 := congrArg (fun s : FS => s.core.ulInodeTableStartBN) h.same
  have h5 := congrArg (fun s : FS => s.core.ulFirstAllocableBN) h.same
  simp only [FS.withLayout] at h1 h2 h3 h4 h5
  refine ⟨by rw [hv, hc.inodeCount]; exact h.fits, ?_⟩
  rw [← hc.inline] at h1
  rw [← hc.imapStart] at h2
  rw [← hc.nodeCount] at h3
  rw [← hc.tableStart] at h4
  rw [← hc.first, ← hc.inodeCount] at h5
  rw [← hc.inodeCount, ← ha] at hvol
  rw [← hv] at hvol h1 h2 h3 h4 h5
  rw [h5] at hvol
  unfold FS.withLayout
  simp only [h2, h3, h5, hvol]
  simp only [h1, h4]

lemma CoreVolume.Keeps.sameLayout {c c' : CoreVolume} (h : c.Keeps c') : c.SameLayout c' :=
  ⟨h.inline, h.imapStart, h.nodeCount, h.tableStart, h.inodeCount, h.first⟩

lemma FS.Layout.of_sameLayout (hl : s.Layout) (h : s.core.SameLayout s'.core)
    (hv : s'.vol.ulBlockCount = s.vol.ulBlockCount)
    (ha : s'.vol.ulBlocksAllocable = s.vol.ulBlocksAllocable) : s'.Layout where
  count_le := by rw [hv]; exact hl.count_le
  inline hi := by
    rw [h.tableStart, hv]
    exact hl.inline (by rw [← h.inline]; exact hi)
  external hi := by
    rw [h.imapStart, h.tableStart, h.nodeCount, hv]
    exact hl.external (by rw [← h.inline]; exact hi)
  first := by rw [h.first, h.tableStart, h.inodeCount]; exact hl.first
  first_le := by rw [h.first, hv]; exact hl.first_le
  allocable := by rw [ha, hv, h.first]; exact hl.allocable

lemma FS.HasLayout.start (h : s.HasLayout) :
    s.core.ulInodeTableStartBN = layoutStart s.vol.ulBlockCount :=
  (congrArg (fun s : FS => s.core.ulInodeTableStartBN) h.same).symm

lemma FS.HasLayout.inline (h : s.HasLayout) :
    s.core.fImapInline = layoutInline s.vol.ulBlockCount :=
  (congrArg (fun s : FS => s.core.fImapInline) h.same).symm

lemma FS.HasLayout.first (h : s.HasLayout) :
    s.core.ulFirstAllocableBN = layoutStart s.vol.ulBlockCount + s.core.ulInodeCount * 2 :=
  (congrArg (fun s : FS => s.core.ulFirstAllocableBN) h.same).symm

/-- The nodes of an external imap have a bit for every block behind them. -/
lemma layoutNodes_mul {n : ℕ} (hn : n - 3 + (imapnodeEntries + 2 - 1) ≤ UINT32_MAX) :
    n - 3 ≤ layoutNodes n * (imapnodeEntries + 2) := by
  have h := Nat.div_add_mod (n - 3 + (imapnodeEntries + 2 - 1)) (imapnodeEntries + 2)
  have hm := Nat.mod_lt (n - 3 + (imapnodeEntries + 2 - 1)) (show 0 < imapnodeEntries + 2 by omega)
  unfold layoutNodes
  rw [u32_of_le hn, Nat.mul_comm]
  omega

/-- **The layout of a geometry is sound.** -/
theorem FS.HasLayout.layout (h : s.HasLayout) : s.Layout where
  count_le := h.fits.count_le
  inline hi := by
    rw [h.inline] at hi
    rw [h.start, layoutStart, if_pos hi]
    exact ⟨rfl, by simpa [layoutInline] using hi⟩
  external hi := by
    rw [h.inline] at hi
    have h2 := congrArg (fun s : FS => s.core.ulImapStartBN) h.same
    have h3 := congrArg (fun s : FS => s.core.ulImapNodeCount) h.same
    simp only [FS.withLayout, hi, Bool.false_eq_true, if_false] at h2 h3
    have hmul := layoutNodes_mul (h.fits.nodes_fit hi)
    rw [h.start, layoutStart, if_neg (by simp [hi]), ← h2, ← h3]
    exact ⟨rfl, rfl, h.fits.nodes_le hi, by omega⟩
  first := by rw [h.first, h.start]
  first_le := by
    rw [h.first]
    exact h.fits.inodes_le
  allocable := by
    rw [h.first]
    exact (congrArg (fun s : FS => s.vol.ulBlocksAllocable) h.same).symm

end

/-! ## A volume to begin with -/

/-- The metaroot of a volume with nothing in its imap. -/
def emptyMetaroot (n inodes seq : ℕ) : Metaroot :=
  { Metaroot.zero with
    ullSequence := seq
    ulFreeBlocks := n - (layoutStart n + inodes * 2)
    ulAllocNextBlock := layoutStart n + inodes * 2 }

/-- The geometry of a volume of `n` blocks, just mounted. -/
def emptyGeometry (ver n inodes : ℕ) : FS :=
  FS.withLayout
    { ulDevBlocks := n
      bSectorSizeP2 := 9
      disk := fun _ => ⟨.none, 0, false, false, .bytes fun _ => 0⟩
      history := []
      buf := ⟨0, (List.range bufferCount).reverse, fun _ => ⟨BBLK_INVALID, 0, false, .data⟩,
        fun _ => .bytes fun _ => 0⟩
      vol := ⟨true, false, 0, n, 0, 3⟩
      core := ⟨ver, false, 0, 0, 0, inodes, 0, fun _ => emptyMetaroot n inodes 2,
        true, false, 0, false, 0, 0, false⟩
      now := 0 }

end RelianceEdge
