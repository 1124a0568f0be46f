import RelianceEdge.Alloc.Refine

set_option relaxedAutoImplicit false
set_option autoImplicit false
set_option linter.unusedSectionVars false

/-!
# The search for a free block

`RedImapIBlockFindFree()` and `RedImapEBlockFindFree()` are written separately. Both examine the
positions in the order in which the machine of two sets does, so both find what it finds.

## Main results

* `imapIFindFreeLoop_search`, `imapEFindFreeLoop_search` — each loop is the search of the machine.
* `Refines.findFree` — the search of either imap.
* `Refines.allocBlock` — `RedImapAllocBlock()`.
-/

namespace RelianceEdge

variable [RedConf]

open RedConf

section

variable {s s' : FS} {a : Bitmaps} {start p : ℕ}

/-! ## The order of the search -/

/-- The block of a position. -/
abbrev FS.blockOf (s : FS) (p : ℕ) : ℕ := s.core.ulInodeTableStartBN + p

/-- **The positions of a volume**: the blocks that have a bit, and the ones that can be
allocated. -/
structure FS.Positions (s : FS) (a : Bitmaps) : Prop where
  count : s.vol.ulBlockCount = s.core.ulInodeTableStartBN + a.count
  first : s.core.ulFirstAllocableBN = s.core.ulInodeTableStartBN + a.first

lemma Refines.positions (h : Refines s a) : s.Positions a := ⟨h.count, h.first⟩

lemma FS.Positions.wrapSearch (h : s.Positions a) (p : ℕ) :
    s.wrapSearch (s.blockOf p) = s.blockOf (a.wrap p) := by
  unfold FS.wrapSearch Bitmaps.wrap FS.blockOf
  by_cases hp : p = a.count
  · rw [if_pos (by rw [h.count, hp]), if_pos hp, h.first]
  · rw [if_neg (by rw [h.count]; omega), if_neg hp]

lemma FS.Positions.skipByte (h : s.Positions a) (p : ℕ) :
    s.skipByte (s.blockOf p) = s.blockOf (a.wrap (p + min 8 (a.count - p))) := by
  have hmin : s.vol.ulBlockCount - s.blockOf p = a.count - p := by
    rw [h.count, FS.blockOf]
    omega
  unfold FS.skipByte
  rw [hmin, ← h.wrapSearch, FS.blockOf, FS.blockOf, Nat.add_assoc]

lemma FS.Positions.isAllocable (h : s.Positions a) (p : ℕ) :
    s.isAllocable (s.blockOf p) = true ↔ a.first ≤ p ∧ p < a.count := by
  unfold FS.isAllocable FS.blockOf
  rw [h.first, h.count]
  simp only [Bool.and_eq_true, decide_eq_true_eq]
  omega

lemma FS.blockOf_inj {p q : ℕ} : s.blockOf p = s.blockOf q ↔ p = q := by
  unfold FS.blockOf
  omega

/-! ## Inline imap -/

/-- The bits of an inline imap, with the counts. -/
def FS.inlineBits (s : FS) : Bitmaps where
  count := s.vol.ulBlockCount - s.core.ulInodeTableStartBN
  first := s.core.ulFirstAllocableBN - s.core.ulInodeTableStartBN
  cur := s.core.bCurMR
  working := s.mr.abEntries
  committed := s.mrCommitted.abEntries
  free := s.mr.ulFreeBlocks
  freeCommitted := s.mrCommitted.ulFreeBlocks
  next := s.mr.ulAllocNextBlock - s.core.ulInodeTableStartBN
  nextCommitted := s.mrCommitted.ulAllocNextBlock - s.core.ulInodeTableStartBN
  almost := s.core.ulAlmostFreeBlocks
  branched := s.core.fBranched

/-- Of an inline imap, the machine has every bit. -/
lemma Refines.inlineBits (h : Refines s a) (hi : s.core.fImapInline = true) :
    s.mr.abEntries = a.working ∧ s.mrCommitted.abEntries = a.committed := by
  have hbits := h.alloc.bits
  have hcov : ∀ p, s.covers (s.blockOf p) = true := fun p => by
    unfold FS.covers
    simp [hi, FS.blockOf]
  constructor
  · funext p
    have := hbits.coversWorking _ (hcov p)
    rwa [FS.blocksOf_add, FS.imapBit, if_pos hi, FS.blockOf, Nat.add_sub_cancel_left] at this
  · funext p
    have := hbits.coversCommitted _ (hcov p)
    rwa [FS.blocksOf_add, FS.imapBit, if_pos hi, FS.blockOf, Nat.add_sub_cancel_left] at this

lemma imapIFindFreeLoop_search (h : s.Positions a) (hw : s.mr.abEntries = a.working)
    (hc : s.mrCommitted.abEntries = a.committed) :
    ∀ n p, imapIFindFreeLoop s (s.blockOf start) n (s.blockOf p) =
      (a.search start n p).map s.blockOf := by
  intro n
  induction n with
  | zero => intro p; rfl
  | succ n ih =>
    intro p
    have hnext : s.wrapSearch (s.blockOf p + 1) = s.blockOf (a.wrap (p + 1)) := h.wrapSearch (p + 1)
    unfold imapIFindFreeLoop Bitmaps.search Bitmaps.isFree Bitmaps.after
    rw [hw, hc, show s.blockOf p - s.core.ulInodeTableStartBN = p from Nat.add_sub_cancel_left _ _,
      h.skipByte, hnext]
    by_cases hfull : byteIsFull a.working p = true
    · have hp := (byteIsFull_iff.1 hfull).2 0 (by omega)
      rw [Nat.add_zero] at hp
      simp only [if_pos hfull, hp, Bool.not_true, Bool.false_and, Bool.false_eq_true, if_false,
        FS.blockOf_inj]
      split_ifs
      · rfl
      · exact ih _
    · simp only [if_neg hfull, FS.blockOf_inj]
      split_ifs
      · rfl
      · rfl
      · exact ih _

/-! ## External imap -/

/-- A byte of an imap node is the byte of the machine, beyond the last position too. -/
lemma Refines.byteIsFull (h : Refines s a) (hi : s.core.fImapInline = false)
    (hn : p / imapnodeEntries < s.core.ulImapNodeCount) :
    byteIsFull (s.peek (s.core.redImapNodeBlock s.core.bCurMR (p / imapnodeEntries))).asImap
      (p % imapnodeEntries) = byteIsFull a.working p := by
  have h8 : p % imapnodeEntries % 8 = p % 8 :=
    Nat.mod_mod_of_dvd p (Nat.dvd_of_mod_eq_zero (by simp [imapnodeEntries]))
  have hbit : p % 8 = 0 → ∀ j, j < 8 →
      (s.peek (s.core.redImapNodeBlock s.core.bCurMR (p / imapnodeEntries))).asImap
        (p % imapnodeEntries + j) = a.working (p + j) := fun hp j hj => by
    obtain ⟨hdiv, hmod⟩ := mod_imapnodeEntries (k := p) (h8.trans hp) hj
    have hsub : s.blockOf (p + j) - s.core.ulInodeTableStartBN = p + j :=
      Nat.add_sub_cancel_left _ _
    have hcov : s.covers (s.blockOf (p + j)) = true := by
      unfold FS.covers
      rw [hsub, hdiv]
      simp [hn, FS.blockOf]
    have := h.alloc.bits.coversWorking _ hcov
    rw [FS.blocksOf_add, FS.imapBit, if_neg (by simp [hi]), hsub, hdiv, hmod] at this
    exact this
  rw [Bool.eq_iff_iff, byteIsFull_iff, byteIsFull_iff, h8]
  exact and_congr_right fun hp => forall₂_congr fun j hj => by rw [hbit hp j hj]

lemma imapEFindFreeLoop_search {s0 : FS} (h : Refines s0 a) (hi : s0.core.fImapInline = false)
    (hfirst : a.first < a.count) :
    ∀ n p prev pImap s, Steady s0 s (s0.Prot (s0.blocksOf a.committed)) [] →
      NodeKept s (s0.blocksOf a.working) (s0.blocksOf a.committed) (3 ≤ ·) [] (fun _ => False) prev
        pImap → p < a.count →
      (imapEFindFreeLoop (s0.blockOf start) n (s0.blockOf p) prev pImap).Post s fun r s' =>
        r = (a.search start n p).map s0.blockOf ∧
        (r ≠ .error .outOfFuel → Refines s' a ∧ s'.core = s0.core) := by
  have hX : ∀ i, (fun _ : ℕ => False) i → i ∈ ([] : List ℕ) := fun _ h => h.elim
  have hwrap : ∀ {s1 : FS}, s1.core = s0.core → s1.vol.ulBlockCount = s0.vol.ulBlockCount → ∀ p,
      s1.wrapSearch (s0.blockOf p + 1) = s0.blockOf (a.wrap (p + 1)) ∧
        s1.skipByte (s0.blockOf p) = s0.blockOf (a.wrap (p + min 8 (a.count - p))) := by
    intro s1 hc hv p
    rw [← h.positions.wrapSearch, ← h.positions.skipByte]
    unfold FS.skipByte FS.wrapSearch
    rw [hc, hv]
    exact ⟨rfl, rfl⟩
  intro n
  induction n with
  | zero => intro p _ _ s _ _ _; exact Op.Post.fail ⟨rfl, fun h => absurd rfl h⟩
  | succ n ih =>
    intro p prev pImap s hs hk hp
    have hprot : s.Prot (s0.blocksOf a.committed) = s0.Prot (s0.blocksOf a.committed) :=
      FS.prot_congr (.of_eq hs.core) (by rw [hs.vol])
    have hb : s0.hasImapBit (s0.blockOf p) = true :=
      FS.hasImapBit_iff.2 ⟨Nat.le_add_right _ _, by rw [h.count, FS.blockOf]; omega⟩
    have hsub : s0.blockOf p - s.core.ulInodeTableStartBN = p := by
      rw [hs.core]
      exact Nat.add_sub_cancel_left _ _
    have hn : p / imapnodeEntries < s0.core.ulImapNodeCount := by
      have := h.alloc.bits.layout.node_lt hi hb
      rwa [show s0.blockOf p - s0.core.ulInodeTableStartBN = p from
        Nat.add_sub_cancel_left _ _] at this
    have hi' : s.core.fImapInline = false := by rw [hs.core]; exact hi
    have hn' : p / imapnodeEntries < s.core.ulImapNodeCount := by rw [hs.core]; exact hn
    obtain ⟨hW, hC⟩ := h.alloc.bits.nodeBit hi hb (n := p / imapnodeEntries)
      (k := p % imapnodeEntries)
      (by rw [show s0.blockOf p - s0.core.ulInodeTableStartBN = p from Nat.add_sub_cancel_left _ _])
      (by rw [show s0.blockOf p - s0.core.ulInodeTableStartBN = p from Nat.add_sub_cancel_left _ _])
    rw [FS.blocksOf_add] at hW hC
    unfold imapEFindFreeLoop
    refine Op.Post.get_bind ?_
    rw [hsub]
    refine Op.Ok.bind_post (imapEFindFreeNode_ok hk hX hi' hn' bufferCount_pos) ?_
    rintro i s1 ⟨h1, hA1, hc1⟩
    rw [hprot] at h1
    have hs1 := hs.trans h1
    have hnode : s1.buf.pbBlkBuf i =
        s0.peek (s0.core.redImapNodeBlock s0.core.bCurMR (p / imapnodeEntries)) := by
      rw [hc1, hs.peek, hs.core]
    have hkept : NodeKept s1 (s0.blocksOf a.working) (s0.blocksOf a.committed) (3 ≤ ·) []
        (fun _ => False) (p / imapnodeEntries) (some i) := ⟨hA1, by rw [hnode, hs1.peek, hs1.core]⟩
    have hput : (redBufferPut i).Ok s1 fun _ s' =>
        Steady s0 s' (s0.Prot (s0.blocksOf a.committed)) [] ∧
          AllocInv s' (s0.blocksOf a.working) (s0.blocksOf a.committed) (3 ≤ ·) []
            (fun _ => False) := by
      refine (redBufferPut_cons hA1.buf hX).mono ?_
      rintro _ s2 ⟨h2, hi2, -⟩
      have hprot1 : s1.Prot (s0.blocksOf a.committed) = s0.Prot (s0.blocksOf a.committed) :=
        FS.prot_congr (.of_eq hs1.core) (by rw [hs1.vol])
      have hA2 := hA1.of_steady h2 hi2
      rw [hprot1] at h2
      exact ⟨hs1.trans (h2.weaken (by simp)), hA2⟩
    have hend : (redBufferPut i >>= fun _ => (Op.fail RedError.ENOSPC : Red ℕ)).Post s1 fun r s' =>
        r = .error .ENOSPC ∧ Refines s' a ∧ s'.core = s0.core := by
      refine Op.Ok.bind_post hput ?_
      rintro _ s2 ⟨h2, hA2⟩
      exact Op.Post.fail ⟨rfl, h.of_steady h2 hA2, h2.core⟩
    have hnext : ∀ q, a.after p = q → a.isFree p = false → q ≠ start → ∀ prev pImap s2,
        Steady s0 s2 (s0.Prot (s0.blocksOf a.committed)) [] →
        NodeKept s2 (s0.blocksOf a.working) (s0.blocksOf a.committed) (3 ≤ ·) []
          (fun _ => False) prev
          pImap →
        (imapEFindFreeLoop (s0.blockOf start) n (s0.blockOf q) prev pImap).Post s2 fun r s' =>
          r = (a.search start (n + 1) p).map s0.blockOf ∧
          (r ≠ .error .outOfFuel → Refines s' a ∧ s'.core = s0.core) := by
      rintro _ rfl hfree hne prev pImap s2 hs2 hk2
      rw [Bitmaps.search_next hfree hne]
      refine ih _ prev pImap s2 hs2 hk2 ?_
      rcases Bitmaps.after_cases hp with hq | ⟨-, hq⟩
      · rw [hq]; exact hfirst
      · exact hq
    refine Op.Post.get_bind ?_
    dsimp only
    rw [hnode, h.byteIsFull hi hn, hW, (hwrap hs1.core hs1.count p).1,
      (hwrap hs1.core hs1.count p).2]
    by_cases hfull : RelianceEdge.byteIsFull a.working p = true
    · have hfree : a.isFree p = false :=
        Bitmaps.isFree_of_working ((byteIsFull_iff.1 hfull).2 0 (by omega))
      have hafter : a.after p = a.wrap (p + min 8 (a.count - p)) := if_pos hfull
      rw [if_pos hfull]
      by_cases hq : a.wrap (p + min 8 (a.count - p)) = start
      · rw [if_pos (FS.blockOf_inj.2 hq), Bitmaps.search_end hfree (hafter.trans hq)]
        exact hend.mono fun r s' hr => ⟨hr.1, fun _ => hr.2⟩
      · rw [if_neg fun h => hq (FS.blockOf_inj.1 h)]
        exact hnext _ hafter hfree hq _ _ s1 hs1 hkept
    have hafter : a.after p = a.wrap (p + 1) := if_neg hfull
    rw [if_neg hfull]
    rcases hworking : a.working p with _ | _
    · -- The working bit is clear; the committed one decides.
      rw [if_neg (by simp)]
      refine Op.Ok.bind_post hput ?_
      rintro _ s2 ⟨h2, hA2⟩
      obtain ⟨s3, s4, hrun, h4, hA4, hc3, hv3⟩ := imapNodeRead_run hA2 (by rw [h2.core]; exact hi)
        (n := p / imapnodeEntries) (by rw [h2.core]; exact hn) (!s1.core.bCurMR) bufferCount_pos
        (fun ab s3 => if !ab (p % imapnodeEntries) then pure (s0.blockOf p)
          else if s3.wrapSearch (s0.blockOf p + 1) = s0.blockOf start then .fail .ENOSPC
          else imapEFindFreeLoop (s0.blockOf start) n (s3.wrapSearch (s0.blockOf p + 1))
            (p / imapnodeEntries) none)
      have hs4 : Steady s0 s4 (s0.Prot (s0.blocksOf a.committed)) [] := by
        have hprot2 : s2.Prot (s0.blocksOf a.committed) = s0.Prot (s0.blocksOf a.committed) :=
          FS.prot_congr (.of_eq h2.core) (by rw [h2.vol])
        rw [hprot2] at h4
        exact h2.trans h4
      rw [h2.core, ← hs1.core] at hrun
      unfold Op.Post
      rw [hrun, h2.peek, hs1.core, hC, (hwrap (hc3.trans h2.core) (hv3.trans h2.count) p).1]
      rcases hcommitted : a.committed p with _ | _
      · rw [if_pos (by simp), Bitmaps.search_free (by simp [Bitmaps.isFree, hworking, hcommitted])]
        exact ⟨rfl, fun _ => ⟨h.of_steady hs4 hA4, hs4.core⟩⟩
      · have hfree : a.isFree p = false := by simp [Bitmaps.isFree, hcommitted]
        rw [if_neg (by simp)]
        by_cases hq : a.wrap (p + 1) = start
        · rw [if_pos (FS.blockOf_inj.2 hq), Bitmaps.search_end hfree (hafter.trans hq)]
          exact ⟨rfl, fun _ => ⟨h.of_steady hs4 hA4, hs4.core⟩⟩
        · rw [if_neg fun h => hq (FS.blockOf_inj.1 h)]
          exact hnext _ hafter hfree hq _ none s4 hs4 hA4
    · have hfree := Bitmaps.isFree_of_working hworking
      rw [if_pos rfl]
      by_cases hq : a.wrap (p + 1) = start
      · rw [if_pos (FS.blockOf_inj.2 hq), Bitmaps.search_end hfree (hafter.trans hq)]
        exact hend.mono fun r s' hr => ⟨hr.1, fun _ => hr.2⟩
      · rw [if_neg fun h => hq (FS.blockOf_inj.1 h)]
        exact hnext _ hafter hfree hq _ _ s1 hs1 hkept

/-! ## Either imap -/

/-- The search of an inline imap, whatever the rest of the state is. -/
lemma redImapIBlockFindFree_search (h : s.Positions a) (hi : s.core.fImapInline = true)
    (hw : s.mr.abEntries = a.working) (hc : s.mrCommitted.abEntries = a.committed)
    (h1 : a.first ≤ start) (h2 : start < a.count) :
    redImapIBlockFindFree (s.blockOf start) s =
      ((a.search start (2 * a.count) start).map s.blockOf, s) := by
  have hle : a.count ≤ s.vol.ulBlockCount := by rw [h.count]; omega
  unfold redImapIBlockFindFree
  rw [Op.get_bind_run, if_neg (by simp [hi, (h.isAllocable start).2 ⟨h1, h2⟩]), Op.ofExcept_run,
    imapIFindFreeLoop_search h hw hc, Bitmaps.search_stable (by omega) h2 (by omega)]

/-- The search of an external imap. -/
lemma redImapEBlockFindFree_search (h : Refines s a) (hi : s.core.fImapInline = false)
    (h1 : a.first ≤ start) (h2 : start < a.count) :
    (redImapEBlockFindFree (s.blockOf start)).Post s fun r s' =>
      r = (a.search start (2 * a.count) start).map s.blockOf ∧
        (r ≠ .error .outOfFuel → Refines s' a ∧ s'.core = s.core) := by
  have hle : a.count ≤ s.vol.ulBlockCount := by rw [h.count]; omega
  have hfirst : a.first < a.count := by omega
  unfold redImapEBlockFindFree
  refine Op.Post.get_bind ?_
  rw [if_neg (by simp [hi, (h.positions.isAllocable start).2 ⟨h1, h2⟩])]
  rw [← Bitmaps.search_stable (n := 2 * s.vol.ulBlockCount) hfirst h2 (by omega)]
  exact imapEFindFreeLoop_search h hi hfirst _ _ 0 none s (.refl _ _ _) h.alloc h2

/-- **The search of either imap** finds what the machine finds. -/
theorem Refines.findFree (h : Refines s a) :
    (if s.core.fImapInline then redImapIBlockFindFree s.mr.ulAllocNextBlock
      else redImapEBlockFindFree s.mr.ulAllocNextBlock).Post s fun r s' =>
      r = a.findFree.map s.blockOf ∧ (r ≠ .error .outOfFuel → Refines s' a ∧ s'.core = s.core) := by
  have hnext : s.mr.ulAllocNextBlock = s.blockOf a.next := h.next
  rw [hnext]
  by_cases hrange : a.first ≤ a.next ∧ a.next < a.count
  · have hfind : a.findFree = a.search a.next (2 * a.count) a.next := if_pos hrange
    rw [hfind]
    rcases hi : s.core.fImapInline with _ | _
    · simp only [Bool.false_eq_true, if_false]
      exact redImapEBlockFindFree_search h hi hrange.1 hrange.2
    · simp only [if_true]
      obtain ⟨hw, hc⟩ := h.inlineBits hi
      unfold Op.Post
      rw [redImapIBlockFindFree_search h.positions hi hw hc hrange.1 hrange.2]
      exact ⟨rfl, fun _ => ⟨h, rfl⟩⟩
  · have hall : s.isAllocable (s.blockOf a.next) = false := by
      rw [Bool.eq_false_iff]
      exact fun hall => hrange ((h.positions.isAllocable a.next).1 hall)
    have hfind : a.findFree = .error .EINVAL := if_neg hrange
    rw [hfind]
    rcases s.core.fImapInline with _ | _
    · simp only [Bool.false_eq_true, if_false]
      unfold redImapEBlockFindFree
      refine Op.Post.get_bind ?_
      rw [if_pos (by simp [hall])]
      exact Op.Post.fail ⟨rfl, fun _ => ⟨h, rfl⟩⟩
    · simp only [if_true]
      unfold redImapIBlockFindFree
      refine Op.Post.get_bind ?_
      rw [if_pos (by simp [hall])]
      exact Op.Post.fail ⟨rfl, fun _ => ⟨h, rfl⟩⟩

/-- **Allocating a block** gives the position that the machine gives. -/
theorem Refines.allocBlock (h : Refines s a) :
    redImapAllocBlock.Post s fun r s' =>
      r = (bitAlloc a).1.map s.blockOf ∧ (r ≠ .error .outOfFuel → Refines s' (bitAlloc a).2) := by
  unfold redImapAllocBlock bitAlloc
  refine Op.Post.get_bind ?_
  rw [Op.get_bind_run, h.free]
  by_cases hfree : a.free = 0
  · rw [if_pos hfree, if_pos hfree]
    exact Op.Post.fail ⟨rfl, fun _ => h⟩
  rw [if_neg hfree, if_neg hfree]
  refine Op.Post.attempt_bind (h.findFree.mono ?_)
  rintro r s1 ⟨rfl, h1⟩
  rcases hfind : a.findFree with e | p
  · rw [hfind] at h1
    cases e with
    | ENOSPC =>
      exact Op.Post.modify_bind
        (Op.Post.fail ⟨rfl, fun _ => (h1 (by simp [Except.map])).1.critical⟩)
    | outOfFuel => exact Op.Post.fail ⟨rfl, fun h => absurd rfl h⟩
    | _ => exact Op.Post.fail ⟨rfl, fun _ => (h1 (by simp [Except.map])).1⟩
  · rw [hfind] at h1
    obtain ⟨h1, hc⟩ := h1 (by simp [Except.map])
    have hafter : s1.allocNextAfter (s.blockOf p) = s1.blockOf (a.wrap (p + 1)) := by
      rw [← h1.positions.wrapSearch]
      unfold FS.allocNextAfter FS.blockOf
      rw [hc]
      rfl
    have ha : a.SameCommitted { a with next := a.wrap (p + 1) } := ⟨rfl, rfl, rfl, rfl, rfl, rfl⟩
    have h2 := h1.of_setMR ha
      (fun mr => { mr with ulAllocNextBlock := s1.allocNextAfter (s.blockOf p) })
      (fun _ => rfl) rfl h1.free hafter rfl rfl
    refine Op.Post.modify_bind (Op.Post.attempt_bind ?_)
    have hset := h2.set p true
    rw [FS.blockAt_nat] at hset
    change (redImapBlockSet (s1.blockOf p) true).Post _ _ at hset
    rw [show s1.blockOf p = s.blockOf p by unfold FS.blockOf; rw [hc]] at hset
    refine hset.mono ?_
    rintro r s' ⟨rfl, h'⟩
    rcases hbit : bitSet p true { a with next := a.wrap (p + 1) } with ⟨e | _, a'⟩ <;>
      rw [hbit] at h'
    · have hrun := Op.bind_error (f := fun _ => (pure p : Bit ℕ)) hbit
      refine Op.Post.modify_bind (Op.Post.fail ?_)
      simp only [Op.modify_bind_run, hrun]
      exact ⟨rfl, fun _ => h'.critical⟩
    · have hrun := Op.bind_ok (f := fun _ => (pure p : Bit ℕ)) hbit
      refine Op.Post.pure ?_
      simp only [Op.modify_bind_run, hrun]
      exact ⟨rfl, fun _ => h'⟩

end

end RelianceEdge
