import RelianceEdge.Alloc.Node

set_option relaxedAutoImplicit false
set_option autoImplicit false
set_option linter.unusedSectionVars false

/-!
# Setting the bit of a block

The part of `RedImapBlockSet()` that sets or clears a bit: the working set changes by one block, and
the rest of the volume stays as it is.

## Main definitions

* `OnlyImap` — what setting a bit leaves alone in `COREVOLUME`.

## Main results

* `imapBitSet_ok` — a bit changes in one of the bitmaps.
* `redBufferDiscardRange_freed` — the buffer of a block that is freed is given up.
-/

namespace RelianceEdge

variable [RedConf]

open RedConf

section

variable {s s' s'' : FS} {W C : ℕ → Bool} {own : ℕ → Prop} {R : List ℕ} {X : ℕ → Prop} {b : ℕ}
  {f : Bool}

/-- **What allocation leaves alone**: the layout, the committed metaroot, the counts and lists of
inodes, and the reservations. -/
structure OnlyImap (s s' : FS) : Prop where
  keeps : s.core.Keeps s'.core
  freeInodes : s'.mr.ulFreeInodes = s.mr.ulFreeInodes
  defunct : s'.mr.ulDefunctOrphanHead = s.mr.ulDefunctOrphanHead
  head : s'.mr.ulOrphanHead = s.mr.ulOrphanHead
  tail : s'.mr.ulOrphanTail = s.mr.ulOrphanTail
  useReserved : s'.core.fUseReservedBlocks = s.core.fUseReservedBlocks
  useReservedInode : s'.core.fUseReservedInodeBlocks = s.core.fUseReservedInodeBlocks
  reservedInodes : s'.core.ulReservedInodes = s.core.ulReservedInodes
  reservedInodeBlocks : s'.core.ulReservedInodeBlocks = s.core.ulReservedInodeBlocks
  branched : s.core.fBranched = true → s'.core.fBranched = true

/-! ## The bit of a block, either way -/

lemma AllocInv.of_core (h : AllocInv s W C own R X) (c : CoreVolume) (hk : s.core.Keeps c)
    (hab : (c.aMR s.core.bCurMR).abEntries = (s.core.aMR s.core.bCurMR).abEntries) :
    AllocInv { s with core := c } W C own R X := by
  have hall : ∀ bMR, (c.aMR bMR).abEntries = (s.core.aMR bMR).abEntries := fun bMR => by
    by_cases hc : bMR = s.core.bCurMR
    · rw [hc, hab]
    · rw [Bool.eq_not_of_ne hc, hk.committed]
  have hnode : ∀ bMR n, c.redImapNodeBlock bMR n = s.core.redImapNodeBlock bMR n := fun bMR n => by
    unfold CoreVolume.redImapNodeBlock CoreVolume.imapNodeIdxIsValid
    rw [hk.imapStart, hk.nodeCount, hall]
  have hbit : ∀ bMR b, FS.imapBit { s with core := c } bMR b = s.imapBit bMR b := fun bMR b => by
    unfold FS.imapBit
    simp only [hk.inline, hk.tableStart, hall, hnode]
    rfl
  have hhas : ∀ b, FS.covers { s with core := c } b = s.covers b := FS.covers_keeps hk
  refine ⟨⟨h.bits.layout.of_keeps hk rfl rfl, fun b hb => ?_, fun b hb => ?_,
    fun hi n hn bMR => ?_⟩,
    ?_, ?_, ?_⟩
  · rw [hbit]; change s.imapBit c.bCurMR b = _
    rw [hk.cur, h.bits.coversWorking b (hhas b ▸ hb)]
  · rw [hbit]; change s.imapBit (!c.bCurMR) b = _
    rw [hk.cur, h.bits.coversCommitted b (hhas b ▸ hb)]
  · change s.Readable (c.redImapNodeBlock bMR n) .imap
    rw [hnode]
    exact h.bits.nodes (hk.inline ▸ hi) n (by rw [← hk.nodeCount]; exact hn) bMR
  · have hp : ({ s with core := c } : FS).Prot C = s.Prot C := FS.prot_congr hk rfl
    rw [hp]
    exact h.buf.of_core c
  · intro b hge hb
    exact h.low b hge (by rw [← hk.tableStart]; exact hb)
  · exact h.high

/-- Changing the bit of a block, whichever way the imap is stored. -/
lemma imapBitSet_ok (h : AllocInv s W C own R X) (hb : s.hasImapBit b = true) (hW : W b = !f)
    (hR : R.length < bufferCount) (hhigh : ∀ i ∈ R, s.core.ulInodeTableStartBN ≤ s.buf.blk i) :
    (if s.core.fImapInline then redImapIBlockSet b f else redImapEBlockSet b f).Ok s fun _ s' =>
      Frame s s' (s.Prot C) R (· < s.core.ulInodeTableStartBN) ∧ OnlyEntries s s' ∧
      AllocInv s' (Function.update W b f) C own R X := by
  rcases hi : s.core.fImapInline with _ | _
  · simp only [Bool.false_eq_true, if_false]
    exact redImapEBlockSet_ok h hi hb hW hR hhigh
  · simp only [if_true]
    refine Op.Ok.intro (redImapIBlockSet_ok h.bits hi hb hW) ⟨Frame.of_core _, ⟨_, rfl⟩,
      h.bits.setInline hi hb f, ?_, h.low, h.high⟩
    rw [FS.prot_congr (FS.setMR_keeps s _) rfl]
    exact h.buf.of_core _

/-! ## Adjusting the counts -/

lemma FS.setMR_core_of_counts (s : FS) (g : Metaroot → Metaroot)
    (hg : ∀ mr, (g mr).abEntries = mr.abEntries) :
    ((s.setMR g).core.aMR s.core.bCurMR).abEntries = (s.core.aMR s.core.bCurMR).abEntries := by
  simp [FS.setMR, FS.mr, hg]

lemma AllocInv.setMR (h : AllocInv s W C own R X) (g : Metaroot → Metaroot)
    (hg : ∀ mr, (g mr).abEntries = mr.abEntries) : AllocInv (s.setMR g) W C own R X :=
  h.of_core _ (FS.setMR_keeps s g) (FS.setMR_core_of_counts s g hg)

/-! ## Setting the bit of a block -/

/-- The state after `RedImapBlockSet()` has noted that there is something to commit. -/
abbrev FS.branched (s : FS) : FS := { s with core := { s.core with fBranched := true } }

lemma FS.branched_onlyImap (s : FS) : OnlyImap s s.branched :=
  ⟨⟨rfl, rfl, rfl, rfl, rfl, rfl, rfl, rfl, rfl⟩, rfl, rfl, rfl, rfl, rfl, rfl, rfl,
    rfl, fun _ => rfl⟩

/-- A freed block that is not referenced leaves the cache. -/
lemma redBufferDiscardRange_freed (h : AllocInv s W C own R X) (hb : s.hasImapBit b = true)
    (hn : ∀ i ∈ R, s.buf.blk i ≠ b) :
    (redBufferDiscardRange b 1).Ok s fun _ s' => Touched s s' R (InRange b 1) ∧
      AllocInv s' W C (fun x => own x ∧ x ≠ b) R X := by
  obtain ⟨hge, hlt⟩ := FS.hasImapBit_iff.1 hb
  have hheld : ∀ i ∈ R, ¬ InRange b 1 (s.buf.blk i) := fun i hm hr => by
    have := hn i hm
    unfold InRange at hr
    omega
  refine (redBufferDiscardRange_ok h.buf one_pos hlt hheld).mono ?_
  rintro _ s' ⟨ht, hi, hfind, -⟩
  have hk : s.core.Keeps s'.core := .of_eq ht.rest.1
  have hf : Frame s s' (s.Prot C) R (InRange b 1) := ht.frame
  refine ⟨ht, h.bits.of_frame hf ht.rest.1 fun x hx hr => ?_, ?_,
    fun x hx hx' => ?_, fun x ho => h.high x ho.1⟩
  · unfold InRange at hr
    omega
  · rw [FS.prot_congr hk (by rw [ht.rest.2.1])]
    exact hi.disown (hfind b ⟨le_rfl, Nat.lt_succ_self _⟩) fun x hx ho => ⟨ho, hx⟩
  · rw [hk.tableStart] at hx'
    exact ⟨h.low x hx hx', by omega⟩

end

end RelianceEdge
