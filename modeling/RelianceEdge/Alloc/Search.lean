import RelianceEdge.Alloc.Access

set_option relaxedAutoImplicit false
set_option autoImplicit false
set_option linter.unusedSectionVars false

/-!
# What the search for a free block reads

The search goes round the allocable blocks, skips bytes of the bitmap that are full, and keeps the
buffer of the imap node it is in.

## Main definitions

* `NodeKept` — the imap node buffer that the loop keeps.

## Main results

* `imapEFindFreeNode_ok` — the buffer of the next imap node.
* `ImapBits.nodeBit` — the bits of an imap node are those of the blocks it covers.
-/

namespace RelianceEdge

variable [RedConf]

open RedConf

/-! ## Full bytes -/

section

variable {s : FS} {W C : ℕ → Bool} {own : ℕ → Prop} {R : List ℕ} {X : ℕ → Prop} {start fuel p : ℕ}

omit [RedConf] in
lemma byteIsFull_iff {ab : ℕ → Bool} {k : ℕ} :
    byteIsFull ab k = true ↔ k % 8 = 0 ∧ ∀ j, j < 8 → ab (k + j) = true := by
  simp [byteIsFull, List.all_eq_true]

/-- The eight bits of a byte are in one imap node. -/
lemma mod_imapnodeEntries {k j : ℕ} (hk : k % imapnodeEntries % 8 = 0) (hj : j < 8) :
    (k + j) / imapnodeEntries = k / imapnodeEntries ∧
      (k + j) % imapnodeEntries = k % imapnodeEntries + j := by
  have hpos := imapnodeEntries_pos
  have h8 : imapnodeEntries % 8 = 0 := by simp [imapnodeEntries]
  have hlt : k % imapnodeEntries + j < imapnodeEntries := by
    have h1 := Nat.mod_lt k hpos
    omega
  have hk' : k + j = imapnodeEntries * (k / imapnodeEntries) + (k % imapnodeEntries + j) := by
    have := Nat.div_add_mod k imapnodeEntries
    omega
  rw [hk']
  constructor
  · rw [Nat.mul_add_div hpos, Nat.div_eq_of_lt hlt]; rfl
  · rw [Nat.mul_add_mod, Nat.mod_eq_of_lt hlt]

/-! ## External imap -/

/-- The imap node buffer that the loop keeps: that of the working node `prev`, if any. -/
def NodeKept (s : FS) (W C : ℕ → Bool) (own : ℕ → Prop) (R : List ℕ) (X : ℕ → Prop)
    (prev : ℕ) : Option ℕ → Prop
  | none => AllocInv s W C own R X
  | some i => AllocInv s W C own (i :: R) X ∧
    s.buf.pbBlkBuf i = s.peek (s.core.redImapNodeBlock s.core.bCurMR prev)

lemma imapEFindFreeNode_ok {prev : ℕ} {pImap : Option ℕ} (h : NodeKept s W C own R X prev pImap)
    (hX : ∀ i, X i → i ∈ R) (hi : s.core.fImapInline = false) {n : ℕ}
    (hn : n < s.core.ulImapNodeCount) (hR : R.length < bufferCount) :
    (imapEFindFreeNode n prev pImap).Ok s fun i s' => Steady s s' (s.Prot C) R ∧
      AllocInv s' W C own (i :: R) X ∧
      s'.buf.pbBlkBuf i = s.peek (s.core.redImapNodeBlock s.core.bCurMR n) := by
  have hget : ∀ s1, AllocInv s1 W C own R X → s1.core = s.core →
      (redBufferGet (s.core.redImapNodeBlock s.core.bCurMR n) .imap false false).Ok s1 fun i s' =>
        Steady s1 s' (s1.Prot C) R ∧ AllocInv s' W C own (i :: R) X ∧
          s'.buf.pbBlkBuf i = s1.peek (s.core.redImapNodeBlock s.core.bCurMR n) := by
    intro s1 h1 hc
    have := imapNodeGet_ok h1 (hc ▸ hi) (n := n) (hc ▸ hn) s.core.bCurMR hR
    rw [hc] at this
    exact this.mono fun i s' ⟨g1, g2, g3⟩ => ⟨g1, h1.of_steady g1 g2, g3⟩
  unfold imapEFindFreeNode
  refine Op.Ok.get_bind ?_
  rcases pImap with _ | i
  · exact hget s h rfl
  · obtain ⟨h1, h2⟩ := h
    dsimp only
    split_ifs with hp
    · exact Op.Ok.pure ⟨.refl _ _ _, h1, by rw [hp]; exact h2⟩
    · refine Op.Ok.bind (redBufferPut_cons h1.buf hX) fun _ s1 ⟨g1, g2, _⟩ => ?_
      refine (hget s1 (h1.of_steady g1 g2) g1.core).mono fun j s' ⟨k1, k2, k3⟩ => ?_
      rw [h1.prot_steady g1] at k1
      exact ⟨(g1.weaken fun _ h => List.mem_cons_of_mem _ h).trans k1, k2, by rw [k3, g1.peek]⟩

/-- The bits of one imap node are those of the blocks it covers. -/
lemma ImapBits.nodeBit (h : ImapBits s W C) (hi : s.core.fImapInline = false) {b n k : ℕ}
    (hb : s.hasImapBit b = true) (hn : (b - s.core.ulInodeTableStartBN) / imapnodeEntries = n)
    (hk : (b - s.core.ulInodeTableStartBN) % imapnodeEntries = k) :
    (s.peek (s.core.redImapNodeBlock s.core.bCurMR n)).asImap k = W b ∧
      (s.peek (s.core.redImapNodeBlock (!s.core.bCurMR) n)).asImap k = C b := by
  subst hn hk
  rw [← h.working hb, ← h.committed hb]
  simp [FS.imapBit, hi]

end

end RelianceEdge
