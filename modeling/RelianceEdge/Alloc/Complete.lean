import RelianceEdge.Alloc.Agree
import RelianceEdge.Alloc.Cyclic

set_option relaxedAutoImplicit false
set_option autoImplicit false
set_option linter.unusedSectionVars false

/-!
# The search for a free block is complete

What `RedImapIBlockFindFree()` and `RedImapEBlockFindFree()` find, and when `RedImapAllocBlock()`
finds a block. The searches are right unless nothing is free and a full byte is skipped that has the
start in its middle: then they never end. As long as the counts are right this does not happen.

## Main definitions

* `fullVolume` — a volume without a free block whose count says there is one.

## Main results

* `bitAlloc_ok_iff` — when a position can be allocated.
* `findFree_iff` — when a search gives the first free block in cyclic order.
-/

namespace RelianceEdge

open RedConf

section

variable {a : Bitmaps}

/-! ## Allocating -/

/-- What a search finds is free. -/
lemma Bitmaps.findFree_ok {q : ℕ} (h : a.findFree = .ok q) :
    (a.first ≤ a.next ∧ a.next < a.count) ∧ a.first ≤ q ∧ q < a.count ∧ a.isFree q = true := by
  unfold Bitmaps.findFree at h
  split_ifs at h with hrange
  have hpass : ¬ a.PassesOver a.next := fun hpass => by
    rw [Bitmaps.search_never hpass hrange.2 _ _ hrange.1 hrange.2 (.inr le_rfl)] at h
    cases h
  rw [Bitmaps.search_found hrange.1 hrange.2 hpass] at h
  obtain ⟨h1, h2, h3⟩ := Bitmaps.found_ok hrange.1 hrange.2 h
  exact ⟨hrange, h2, h3, h1⟩

/-- A search from a position in range finds something if there is something. -/
lemma Bitmaps.findFree_of_free (hrange : a.first ≤ a.next ∧ a.next < a.count)
    (hfree : ∃ p, a.first ≤ p ∧ p < a.count ∧ a.isFree p = true) : ∃ q, a.findFree = .ok q := by
  obtain ⟨p, hp, hp', hf⟩ := hfree
  have hpass : ¬ a.PassesOver a.next := fun hpass => by
    rw [hpass.1 p hp hp'] at hf
    cases hf
  unfold Bitmaps.findFree
  rw [if_pos hrange, Bitmaps.search_found hrange.1 hrange.2 hpass]
  rcases hx : a.firstFree a.next with _ | q
  · have hnone : a.found a.next = .error .ENOSPC := by
      unfold Bitmaps.found
      rw [hx]
      rfl
    rw [(Bitmaps.found_error_iff hrange.1 hrange.2).1 hnone p hp hp'] at hf
    cases hf
  · refine ⟨q, ?_⟩
    unfold Bitmaps.found
    rw [hx]
    rfl

/-- **A position can be allocated** exactly if the count is not zero, the search starts in range and
something is free. -/
theorem bitAlloc_ok_iff : (∃ q, (bitAlloc a).1 = .ok q) ↔
    a.free ≠ 0 ∧ (a.first ≤ a.next ∧ a.next < a.count) ∧
      ∃ p, a.first ≤ p ∧ p < a.count ∧ a.isFree p = true := by
  unfold bitAlloc
  rw [Op.get_bind_run]
  by_cases hf : a.free = 0
  · rw [if_pos hf]
    refine ⟨fun h => ?_, fun h => absurd hf h.1⟩
    obtain ⟨q, hq⟩ := h
    cases hq
  rw [if_neg hf]
  refine ⟨fun h => ?_, fun h => ?_⟩
  · obtain ⟨q, hq⟩ := h
    rcases hfind : a.findFree with e | p
    · rw [hfind] at hq
      cases e <;> cases hq
    · obtain ⟨h1, h2, h3, h4⟩ := Bitmaps.findFree_ok hfind
      exact ⟨hf, h1, p, h2, h3, h4⟩
  · obtain ⟨-, hrange, hfree⟩ := h
    obtain ⟨q, hq⟩ := Bitmaps.findFree_of_free hrange hfree
    obtain ⟨-, -, h3, h4⟩ := Bitmaps.findFree_ok hq
    have hset : bitSet q true { a with next := a.wrap (q + 1) } =
        (.ok (), Bitmaps.setBit { a with next := a.wrap (q + 1) } q true) := by
      unfold bitSet
      rw [Op.get_bind_run, if_neg (by simp [Bitmaps.has, h3]),
        if_neg (by simp [Bitmaps.forbids, hf]),
        if_neg (by simp [(Bitmaps.isFree_iff.1 h4).1])]
      rfl
    refine ⟨q, ?_⟩
    rw [hq]
    simp only [Op.modify_bind_run]
    rw [Op.bind_ok hset]
    rfl

end

variable [RedConf]

section

variable {s : FS} {a : Bitmaps} {start : ℕ}

/-- Blocks are found as positions are. -/
lemma FS.map_blockOf_inj {r r' : Except RedError ℕ} (h : r.map s.blockOf = r'.map s.blockOf) :
    r = r' := by
  rcases r with e | p <;> rcases r' with e' | p' <;> simp_all [Except.map]

/-- The positions of the bits of an inline imap. -/
lemma FS.inlineBits_positions {b : ℕ} (h : s.core.ulInodeTableStartBN ≤ s.core.ulFirstAllocableBN)
    (hb : s.isAllocable b = true) : s.Positions s.inlineBits ∧
      b = s.blockOf (b - s.core.ulInodeTableStartBN) ∧
      s.inlineBits.first ≤ b - s.core.ulInodeTableStartBN ∧
      b - s.core.ulInodeTableStartBN < s.inlineBits.count := by
  simp only [FS.isAllocable, Bool.and_eq_true, decide_eq_true_eq] at hb
  unfold FS.blockOf
  have hcount : s.inlineBits.count = s.vol.ulBlockCount - s.core.ulInodeTableStartBN := rfl
  have hfirst : s.inlineBits.first = s.core.ulFirstAllocableBN - s.core.ulInodeTableStartBN := rfl
  refine ⟨⟨?_, ?_⟩, ?_, ?_, ?_⟩ <;> omega

/-- The search of an external imap gives what the machine gives. -/
lemma redImapEBlockFindFree_fst (h : Refines s a) (hi : s.core.fImapInline = false)
    (h1 : a.first ≤ start) (h2 : start < a.count) :
    (redImapEBlockFindFree (s.blockOf start) s).1 =
      (a.search start (2 * a.count) start).map s.blockOf :=
  (redImapEBlockFindFree_search h hi h1 h2).1

/-- Allocating succeeds when the machine does. -/
lemma redImapAllocBlock_ok_iff (h : Refines s a) :
    (∃ b, (redImapAllocBlock s).1 = .ok b) ↔ ∃ q, (bitAlloc a).1 = .ok q := by
  have hr : (redImapAllocBlock s).1 = (bitAlloc a).1.map s.blockOf := h.allocBlock.1
  rw [hr]
  rcases (bitAlloc a).1 with e | q
  · refine ⟨fun h => ?_, fun h => ?_⟩ <;> obtain ⟨x, hx⟩ := h <;> cases hx
  · exact ⟨fun _ => ⟨q, rfl⟩, fun _ => ⟨_, rfl⟩⟩

/-- From right counts every run of calls returns, and leaves right counts. -/
lemma Refines.run_counted (h : Refines s a) (ha : a.Counted) (es : List ImapEvent)
    (hes : ∀ c ∈ imapCalls es, c.Fair a.first) :
    (∀ r ∈ (imapRun s es).1, hangs r = false) ∧
      ∃ a', Refines (imapRun s es).2 a' ∧ a'.Counted := by
  obtain ⟨h1, h2⟩ := h.run es
  obtain ⟨hc, hr⟩ := ha.run (imapCalls es) hes
  have hall : ∀ r ∈ (imapRun s es).1, hangs r = false := by
    rw [h1]
    exact hr
  exact ⟨hall, _, h2 hall, hc⟩

end

/-! ## Volumes -/

/-- An empty imap has the right counts. -/
lemma emptyBits_counted {n inodes : ℕ} (h : LayoutFits n inodes) :
    (emptyBits n inodes).Counted := by
  have hle : layoutStart n + inodes * 2 ≤ n := h.inodes_le
  have hcard : (emptyBits n inodes).allocables.card = n - (layoutStart n + inodes * 2) := by
    unfold Bitmaps.allocables
    rw [Nat.card_Ico]
    simp only [emptyBits]
    omega
  have hall : ∀ P : ℕ → Prop, [DecidablePred P] → (∀ p, P p) →
      n - (layoutStart n + inodes * 2) = ((emptyBits n inodes).allocables.filter P).card :=
    fun P _ hP => by rw [Finset.filter_true_of_mem fun p _ => hP p, hcard]
  have hcount := h.count_le
  refine ⟨?_, hall _ fun _ => rfl, ?_, hall _ fun _ => rfl, fun hlt => ⟨le_rfl, hlt⟩,
    fun hlt => ⟨le_rfl, hlt⟩⟩
  · change n - layoutStart n ≤ _
    omega
  · refine (Finset.card_eq_zero.2 (Finset.filter_eq_empty_iff.2 fun x _ hx => ?_)).symm
    have h2 : (emptyBits n inodes).committed x = true := hx.2
    cases h2

/-- **A volume without a free block** whose count says that there is one: the imap is full, and the
next search starts at the second allocable block. -/
def fullVolume (ver n inodes : ℕ) : FS :=
  let s := emptyVolume ver n inodes
  { s with core := { s.core with aMR := fun _ =>
    { emptyMetaroot n inodes 2 with
      ulFreeBlocks := 1
      ulAllocNextBlock := layoutStart n + inodes * 2 + 1
      abEntries := fun _ => true } } }

omit [RedConf] in
/-- A search from the second allocable block of a full volume passes over it. -/
lemma fullVolume_passesOver : letI := smallConf
    (fullVolume 5 24 4).inlineBits.PassesOver 9 := by
  let _ := smallConf
  refine ⟨fun p _ _ => rfl, by decide, by decide, ?_⟩
  rw [byteIsFull_iff]
  exact ⟨by decide, fun j _ => rfl⟩

/-! ## The searches -/

/-- **The search is complete**, unless it passes over its start: with either imap it gives the first
free block in cyclic order, or says that there is none, exactly if not (nothing is free and the
start is in the middle of a full byte of allocable blocks). Allocating a block succeeds exactly if
the count is not zero, the search starts in range and something is free; from right counts it does,
after every run of the calls that the file system makes, whenever the count is not zero. -/
theorem findFree_iff :
    (∀ (s : FS) (ulBlock : ℕ), s.core.fImapInline = true →
      s.core.ulInodeTableStartBN ≤ s.core.ulFirstAllocableBN → s.isAllocable ulBlock = true →
      ((redImapIBlockFindFree ulBlock s).1 =
          (s.inlineBits.found (ulBlock - s.core.ulInodeTableStartBN)).map s.blockOf ↔
        ¬ s.inlineBits.PassesOver (ulBlock - s.core.ulInodeTableStartBN))) ∧
    (∀ (s : FS) (a : Bitmaps) (start : ℕ), Refines s a → s.core.fImapInline = false →
      a.first ≤ start → start < a.count →
      ((redImapEBlockFindFree (s.blockOf start) s).1 = (a.found start).map s.blockOf ↔
        ¬ a.PassesOver start)) ∧
    (∀ (s : FS) (a : Bitmaps), Refines s a →
      ((∃ ulBlock, (redImapAllocBlock s).1 = .ok ulBlock) ↔
        a.free ≠ 0 ∧ (a.first ≤ a.next ∧ a.next < a.count) ∧
          ∃ p, a.first ≤ p ∧ p < a.count ∧ a.isFree p = true)) ∧
    ∀ (s : FS) (a : Bitmaps) (es : List ImapEvent), Refines s a → a.Counted →
      (∀ c ∈ imapCalls es, c.Fair a.first) →
      (∀ r ∈ (imapRun s es).1, hangs r = false) ∧
        ((imapRun s es).2.mr.ulFreeBlocks ≠ 0 →
          ∃ ulBlock, (redImapAllocBlock (imapRun s es).2).1 = .ok ulBlock) := by
  refine ⟨fun s b hi hle hb => ?_, fun s a start h hi h1 h2 => ?_, fun s a h => ?_,
    fun s a es h ha hes => ?_⟩
  · obtain ⟨hpos, hblock, h1, h2⟩ := FS.inlineBits_positions hle hb
    have hrun := redImapIBlockFindFree_search hpos hi rfl rfl h1 h2
    rw [← hblock] at hrun
    rw [hrun, ← Bitmaps.search_found_iff h1 h2]
    exact ⟨FS.map_blockOf_inj, fun h => by rw [h]⟩
  · rw [redImapEBlockFindFree_fst h hi h1 h2, ← Bitmaps.search_found_iff h1 h2]
    exact ⟨FS.map_blockOf_inj, fun h => by rw [h]⟩
  · rw [redImapAllocBlock_ok_iff h, bitAlloc_ok_iff]
  · obtain ⟨hall, a', h', ha'⟩ := h.run_counted ha es hes
    refine ⟨hall, fun hfree => ?_⟩
    obtain ⟨q, -, -, -, hrun⟩ := ha'.alloc_run (h'.free ▸ hfree)
    rw [redImapAllocBlock_ok_iff h', hrun]
    exact ⟨q, rfl⟩

omit [RedConf] in
/-- Two blocks taken on a volume of 3748 blocks, a transaction point, and there is a third. -/
theorem findFree_iff_small : letI := smallConf
    layoutInline 3748 = false ∧
      ∃ ulBlock, (redImapAllocBlock
        (imapRun (emptyVolume 5 3748 4) [.call .alloc, .call .alloc, .call .transact]).2).1 =
          .ok ulBlock := by
  let _ := smallConf
  have hfits : LayoutFits 3748 4 := ⟨by decide, by decide, by decide, by decide, by decide⟩
  have h : Refines (emptyVolume 5 3748 4) (emptyBits 3748 4) :=
    emptyVolume_refines (by decide) hfits
  refine ⟨by decide, ?_⟩
  refine (findFree_iff.2.2.2 _ _ [.call .alloc, .call .alloc, .call .transact] h
    (emptyBits_counted hfits) ?_).2 ?_
  · intro c hc
    simp only [imapCalls, List.mem_cons, List.not_mem_nil, or_false] at hc
    rcases hc with rfl | rfl | rfl <;> trivial
  · obtain ⟨h1, h2⟩ := h.run [.call .alloc, .call .alloc, .call .transact]
    have hfree := (h2 (by rw [h1]; decide)).free
    rw [hfree]
    decide

omit [RedConf] in
/-- On a full volume of 24 blocks, 3 of them before the inodes and 8 for the inodes, a search from
block 12 never ends. -/
theorem redImapIBlockFindFree_never : letI := smallConf
    (fullVolume 5 24 4).core.fImapInline = true ∧ (fullVolume 5 24 4).isAllocable 12 = true ∧
      (fullVolume 5 24 4).inlineBits.found 9 = .error .ENOSPC ∧
      (∀ n, imapIFindFreeLoop (fullVolume 5 24 4) 12 n 12 = .error .outOfFuel) ∧
      (redImapIBlockFindFree 12 (fullVolume 5 24 4)).1 = .error .outOfFuel ∧
      (redImapAllocBlock (fullVolume 5 24 4)).1 = .error .outOfFuel := by
  let _ := smallConf
  have hall : (fullVolume 5 24 4).isAllocable 12 = true := by decide
  have hle : (fullVolume 5 24 4).core.ulInodeTableStartBN ≤
      (fullVolume 5 24 4).core.ulFirstAllocableBN := by decide
  have hpass := fullVolume_passesOver
  obtain ⟨hpos, -, h1, h2⟩ := FS.inlineBits_positions hle hall
  have hloop : ∀ n, imapIFindFreeLoop (fullVolume 5 24 4) 12 n 12 = .error .outOfFuel := fun n => by
    have hrun : imapIFindFreeLoop (fullVolume 5 24 4) ((fullVolume 5 24 4).blockOf 9) n
        ((fullVolume 5 24 4).blockOf 9) = _ := imapIFindFreeLoop_search hpos rfl rfl n 9
    rw [Bitmaps.search_never hpass h2 n 9 h1 h2 (.inr le_rfl)] at hrun
    exact hrun
  have hfind : redImapIBlockFindFree 12 (fullVolume 5 24 4) =
      (.error .outOfFuel, fullVolume 5 24 4) := by
    unfold redImapIBlockFindFree
    rw [Op.get_bind_run, if_neg (by decide), Op.ofExcept_run, hloop]
  refine ⟨by decide, hall, Bitmaps.found_none h2 hpass.1 h1, hloop, ?_, ?_⟩
  · rw [hfind]
  · unfold redImapAllocBlock
    rw [Op.get_bind_run, if_neg (by decide)]
    have hnext : (if (fullVolume 5 24 4).core.fImapInline then
        redImapIBlockFindFree (fullVolume 5 24 4).mr.ulAllocNextBlock
        else redImapEBlockFindFree (fullVolume 5 24 4).mr.ulAllocNextBlock) =
        redImapIBlockFindFree 12 := by
      rw [if_pos (by decide)]
      rfl
    rw [hnext]
    simp only [Op.attempt_bind_run, hfind]
    rfl

end RelianceEdge
