import RelianceEdge.Orphan.Model
import RelianceEdge.Lib.Chain
import RelianceEdge.Space.Reach
import Mathlib.Data.Finset.Card
import Mathlib.Order.Interval.Finset.Nat

set_option relaxedAutoImplicit false
set_option autoImplicit false
set_option linter.unusedSectionVars false

/-!
# The lists of orphans

What holds of the lists of orphans and of the count of free inodes in a volume at rest, and how
the changes of one inode or of one list keep it.

## Main definitions

* `OrphanSpace.Lists` — the list of orphans and the list of defunct orphans.
* `OrphanSpace.Numbered` — inodes are in the inode table, and the free ones are counted.
* `OrphanSpace.Inv` — the invariant of the state that a metaroot reaches.

## Main results

* `Lists.push`, `Lists.pop`, `Lists.unlink`, `Lists.retire`, `Lists.concat` — the changes of the
  lists.
* `Numbered.add`, `Numbered.remove` — an inode is created, or freed.
-/

namespace RelianceEdge

variable [RedConf]

open RedConf

namespace OrphanSpace

/-- An inode that has lost its last name and is kept. -/
def IsOrphan (v : OrphanSpace) (i : ℕ) : Prop := ∃ ino, v.node i = some ino ∧ ino.uNLink = 0

/-- **The lists of orphans**: both end, they have no node in common, and their nodes are the
orphans. -/
structure Lists (v : OrphanSpace) (l m : List ℕ) : Prop where
  live : Chain v.ulNextOrphan INODE_INVALID v.ulOrphanHead l
  tail : v.ulOrphanTail = l.getLastD INODE_INVALID
  defunct : Chain v.ulNextOrphan INODE_INVALID v.ulDefunctOrphanHead m
  disjoint : ∀ i ∈ l, i ∉ m
  mem : ∀ i, i ∈ l ∨ i ∈ m ↔ v.IsOrphan i
  parent : ∀ i ino, v.node i = some ino → ino.uNLink = 0 → ino.ulPInode = INODE_INVALID

/-- The numbers of inodes. -/
def numbers (s : FS) : Finset ℕ :=
  Finset.Ico INODE_FIRST_VALID (INODE_FIRST_VALID + s.core.ulInodeCount)

/-- The inodes that are not in use. -/
def freeNumbers (s : FS) (v : OrphanSpace) : Finset ℕ :=
  (numbers s).filter fun i => (v.node i).isNone

/-- Inodes in use are in the inode table, and `METAROOT::ulFreeInodes` counts the others. -/
structure Numbered (s : FS) (v : OrphanSpace) : Prop where
  valid : ∀ i, v.node i ≠ none → i ∈ numbers s
  count : v.ulFreeInodes = (v.freeNumbers s).card

/-- What holds of the lists and numbers, also in the middle of a call. -/
structure Tables (s : FS) (v : OrphanSpace) (l m : List ℕ) : Prop where
  numbered : Numbered s v
  lists : Lists v l m

/-- **Invariant of what a metaroot reaches.** -/
structure Inv (s : FS) (v : OrphanSpace) (l m : List ℕ) : Prop extends Tables s v l m where
  space : Space.Inv s v.toSpace

variable {s : FS} {v v' : OrphanSpace} {l m t : List ℕ} {i j : ℕ} {ino : FileNode}
  {x : Option FileNode}

/-! ## Lists -/

namespace Lists

lemma not_mem (h : Lists v l m) (hi : ¬ v.IsOrphan i) : i ∉ l ∧ i ∉ m :=
  ⟨fun hl => hi ((h.mem i).1 (.inl hl)), fun hm => hi ((h.mem i).1 (.inr hm))⟩

/-- Head and tail are valid together. -/
lemma head_iff_tail (h : Lists v l m) :
    v.ulOrphanHead = INODE_INVALID ↔ v.ulOrphanTail = INODE_INVALID := by
  rw [h.live.eq_nil_iff, h.tail]
  constructor
  · rintro rfl
    rfl
  · intro ht
    rcases List.eq_nil_or_concat l with hl | ⟨l', y, hl⟩
    · exact hl
    · rw [hl, List.concat_eq_append, List.getLastD_concat] at ht
      refine absurd ?_ h.live.2
      rw [hl, ← ht]
      simp

/-- The lists stay as long as the orphans do. -/
lemma congr (h : Lists v l m) (horphan : ∀ j, v'.IsOrphan j ↔ v.IsOrphan j)
    (hparent : ∀ j ino, v'.node j = some ino → ino.uNLink = 0 → ino.ulPInode = INODE_INVALID)
    (hnext : ∀ j, v.IsOrphan j → v'.ulNextOrphan j = v.ulNextOrphan j)
    (hhead : v'.ulOrphanHead = v.ulOrphanHead) (htail : v'.ulOrphanTail = v.ulOrphanTail)
    (hdefunct : v'.ulDefunctOrphanHead = v.ulDefunctOrphanHead) : Lists v' l m where
  live := by
    rw [hhead]
    exact h.live.congr fun y hy => hnext y ((h.mem y).1 (.inl hy))
  tail := htail.trans h.tail
  defunct := by
    rw [hdefunct]
    exact h.defunct.congr fun y hy => hnext y ((h.mem y).1 (.inr hy))
  disjoint := h.disjoint
  mem i := (h.mem i).trans (horphan i).symm
  parent := hparent

lemma isOrphan_of_ne (hnode : v'.node = Function.update v.node i x) (hj : j ≠ i) :
    v'.IsOrphan j ↔ v.IsOrphan j := by
  unfold IsOrphan
  rw [hnode, Function.update_of_ne hj]

lemma isOrphan_self (hnode : v'.node = Function.update v.node i x) :
    v'.IsOrphan i ↔ ∃ ino, x = some ino ∧ ino.uNLink = 0 := by
  unfold IsOrphan
  rw [hnode, Function.update_self]

/-- Orphans other than a changed inode have no parent. -/
lemma parent_of_set (h : Lists v l m) (hnode : v'.node = Function.update v.node i x)
    (hx : ∀ ino, x = some ino → ino.uNLink = 0 → ino.ulPInode = INODE_INVALID) :
    ∀ j ino, v'.node j = some ino → ino.uNLink = 0 → ino.ulPInode = INODE_INVALID := by
  intro j ino hj h0
  rw [hnode] at hj
  by_cases hji : j = i
  · subst hji
    rw [Function.update_self] at hj
    exact hx ino hj h0
  · rw [Function.update_of_ne hji] at hj
    exact h.parent j ino hj h0

/-- An inode that is no orphan changes, and is none afterwards. -/
lemma of_set (h : Lists v l m) (hi : ¬ v.IsOrphan i)
    (hnode : v'.node = Function.update v.node i x)
    (hx : ∀ ino, x = some ino → ino.uNLink ≠ 0)
    (hnext : ∀ j, j ≠ i → v'.ulNextOrphan j = v.ulNextOrphan j)
    (hhead : v'.ulOrphanHead = v.ulOrphanHead) (htail : v'.ulOrphanTail = v.ulOrphanTail)
    (hdefunct : v'.ulDefunctOrphanHead = v.ulDefunctOrphanHead) : Lists v' l m := by
  refine h.congr (fun j => ?_)
    (h.parent_of_set hnode fun ino hino h0 => absurd h0 (hx ino hino))
    (fun j hj => hnext j fun he => hi (he ▸ hj)) hhead htail hdefunct
  by_cases hji : j = i
  · subst hji
    rw [isOrphan_self hnode]
    exact ⟨fun ⟨ino, hino, h0⟩ => absurd h0 (hx ino hino), fun hj => absurd hj hi⟩
  · exact isOrphan_of_ne hnode hji

/-- The data of an inode changes. -/
lemma of_data (h : Lists v l m) (hi : v.node i = some ino) {data : FileData}
    (hnode : v'.node = Function.update v.node i (some { ino with data }))
    (hnext : v'.ulNextOrphan = v.ulNextOrphan) (hhead : v'.ulOrphanHead = v.ulOrphanHead)
    (htail : v'.ulOrphanTail = v.ulOrphanTail)
    (hdefunct : v'.ulDefunctOrphanHead = v.ulDefunctOrphanHead) : Lists v' l m := by
  refine h.congr (fun j => ?_) (h.parent_of_set hnode ?_) (fun j _ => congrFun hnext j) hhead
    htail hdefunct
  · by_cases hji : j = i
    · subst hji
      rw [isOrphan_self hnode]
      constructor
      · rintro ⟨_, ⟨⟩, h0⟩
        exact ⟨ino, hi, h0⟩
      · rintro ⟨ino', hino', h0⟩
        obtain rfl := Option.some.inj (hi.symm.trans hino')
        exact ⟨_, rfl, h0⟩
    · exact isOrphan_of_ne hnode hji
  · rintro _ ⟨⟩ h0
    exact h.parent i ino hi h0

/-- The orphans when one more inode is one. -/
lemma orphans_insert (hnode : v'.node = Function.update v.node i (some ino))
    (h0 : ino.uNLink = 0) (j : ℕ) : v'.IsOrphan j ↔ j = i ∨ v.IsOrphan j := by
  by_cases hji : j = i
  · subst hji
    rw [isOrphan_self hnode]
    exact ⟨fun _ => .inl rfl, fun _ => ⟨ino, rfl, h0⟩⟩
  · rw [isOrphan_of_ne hnode hji]
    exact ⟨.inr, fun hj => hj.resolve_left hji⟩

/-- The orphans when an orphan is freed. -/
lemma orphans_erase (hnode : v'.node = Function.update v.node i none) (j : ℕ) :
    v'.IsOrphan j ↔ v.IsOrphan j ∧ j ≠ i := by
  by_cases hji : j = i
  · subst hji
    rw [isOrphan_self hnode]
    simp
  · rw [isOrphan_of_ne hnode hji]
    exact ⟨fun hj => ⟨hj, hji⟩, And.left⟩

/-- **An inode becomes an orphan**: the first one of the list. -/
theorem push (h : Lists v l m) (hi : ¬ v.IsOrphan i) (hvalid : i ≠ INODE_INVALID)
    (h0 : ino.uNLink = 0) (hpar : ino.ulPInode = INODE_INVALID)
    (hnode : v'.node = Function.update v.node i (some ino))
    (hnext : v'.ulNextOrphan = Function.update v.ulNextOrphan i v.ulOrphanHead)
    (hhead : v'.ulOrphanHead = i)
    (htail : v'.ulOrphanTail = if v.ulOrphanTail = INODE_INVALID then i else v.ulOrphanTail)
    (hdefunct : v'.ulDefunctOrphanHead = v.ulDefunctOrphanHead) : Lists v' (i :: l) m where
  live := by
    rw [hnext, hhead]
    exact h.live.push (h.not_mem hi).1 hvalid
  tail := by
    have hnil : v.ulOrphanTail = INODE_INVALID ↔ l = [] :=
      h.head_iff_tail.symm.trans h.live.eq_nil_iff
    rw [htail, List.getLastD_cons]
    cases l with
    | nil => exact if_pos (hnil.2 rfl)
    | cons y l =>
      rw [if_neg fun he => List.cons_ne_nil _ _ (hnil.1 he), h.tail, List.getLastD_cons,
        List.getLastD_cons]
  defunct := by
    rw [hnext, hdefunct]
    exact h.defunct.update (h.not_mem hi).2 _
  disjoint j hj := by
    rcases List.mem_cons.1 hj with rfl | hj
    · exact (h.not_mem hi).2
    · exact h.disjoint j hj
  mem j := by
    rw [orphans_insert hnode h0, ← h.mem, List.mem_cons, or_assoc]
  parent := h.parent_of_set hnode fun _ hino _ => Option.some.inj hino ▸ hpar

/-- **The first orphan of the list is freed.** -/
theorem pop (h : Lists v (i :: l) m) (hnode : v'.node = Function.update v.node i none)
    (hnext : v'.ulNextOrphan = v.ulNextOrphan) (hhead : v'.ulOrphanHead = v.ulNextOrphan i)
    (htail : v'.ulOrphanTail = if i = v.ulOrphanTail then INODE_INVALID else v.ulOrphanTail)
    (hdefunct : v'.ulDefunctOrphanHead = v.ulDefunctOrphanHead) : Lists v' l m := by
  have hnodup := List.nodup_cons.1 h.live.nodup
  have hm := h.disjoint i List.mem_cons_self
  refine ⟨?_, ?_, ?_, fun j hj => h.disjoint j (List.mem_cons_of_mem _ hj), fun j => ?_,
    h.parent_of_set hnode fun _ hino => absurd hino (by simp)⟩
  · rw [hnext, hhead]
    exact h.live.pop
  · rw [htail, h.tail, List.getLastD_cons]
    cases l with
    | nil => exact if_pos rfl
    | cons y l =>
      rw [List.getLastD_cons, List.getLastD_cons, if_neg]
      intro he
      apply hnodup.1
      rw [he]
      exact List.getLastD_mem_cons
  · rw [hnext, hdefunct]
    exact h.defunct
  · rw [orphans_erase hnode, ← h.mem, List.mem_cons]
    by_cases hji : j = i
    · subst hji
      simp [hnodup.1, hm]
    · simp [hji]

/-- **An orphan in the list is freed**: the one before it points to the one after it. -/
theorem unlink {p : ℕ} (h : Lists v (l ++ p :: i :: t) m)
    (hnode : v'.node = Function.update v.node i none)
    (hnext : v'.ulNextOrphan = Function.update v.ulNextOrphan p (v.ulNextOrphan i))
    (hhead : v'.ulOrphanHead = v.ulOrphanHead)
    (htail : v'.ulOrphanTail = if i = v.ulOrphanTail then p else v.ulOrphanTail)
    (hdefunct : v'.ulDefunctOrphanHead = v.ulDefunctOrphanHead) :
    Lists v' (l ++ p :: t) m := by
  have hnodup := h.live.nodup
  have hsub : ∀ j ∈ l ++ p :: t, j ∈ l ++ p :: i :: t := by
    intro j
    simp only [List.mem_append, List.mem_cons]
    tauto
  have hm : i ∉ m := h.disjoint i (by simp)
  have hi : i ∉ l ++ p :: t := by
    rw [List.nodup_append, List.nodup_cons, List.nodup_cons] at hnodup
    obtain ⟨-, ⟨hp, hi, -⟩, hdis⟩ := hnodup
    simp only [List.mem_append, List.mem_cons, not_or]
    exact ⟨fun hl => hdis i hl i (by simp) rfl, fun he => hp (he ▸ List.mem_cons_self), hi⟩
  refine ⟨?_, ?_, ?_, fun j hj => h.disjoint j (hsub j hj), fun j => ?_,
    h.parent_of_set hnode fun _ hino => absurd hino (by simp)⟩
  · rw [hnext, hhead]
    exact h.live.unlink
  · rw [htail, h.tail]
    rcases List.eq_nil_or_concat t with rfl | ⟨t', y, rfl⟩
    · simp
    · have hold : l ++ p :: i :: t'.concat y = (l ++ p :: i :: t') ++ [y] := by simp
      have hnew : l ++ p :: t'.concat y = (l ++ p :: t') ++ [y] := by simp
      have hne : i ≠ y := fun he => hi (by simp [he])
      rw [hold, hnew, List.getLastD_concat, List.getLastD_concat, if_neg hne]
  · rw [hnext, hdefunct]
    exact h.defunct.update (h.disjoint p (by simp)) _
  · rw [orphans_erase hnode, ← h.mem]
    by_cases hji : j = i
    · subst hji
      simp [hi, hm]
    · simp only [List.mem_append, List.mem_cons, hji, ne_eq, not_false_eq_true, and_true,
        false_or]

/-- **The first defunct orphan is freed.** -/
theorem popDefunct (h : Lists v l (i :: m)) (hnode : v'.node = Function.update v.node i none)
    (hnext : v'.ulNextOrphan = v.ulNextOrphan) (hhead : v'.ulOrphanHead = v.ulOrphanHead)
    (htail : v'.ulOrphanTail = v.ulOrphanTail)
    (hdefunct : v'.ulDefunctOrphanHead = v.ulNextOrphan i) : Lists v' l m := by
  have hnodup := List.nodup_cons.1 h.defunct.nodup
  have hl : i ∉ l := fun hl => h.disjoint i hl List.mem_cons_self
  refine ⟨?_, htail.trans h.tail, ?_,
    fun j hj hjm => h.disjoint j hj (List.mem_cons_of_mem _ hjm), fun j => ?_,
    h.parent_of_set hnode fun _ hino => absurd hino (by simp)⟩
  · rw [hnext, hhead]
    exact h.live
  · rw [hnext, hdefunct]
    exact h.defunct.pop
  · rw [orphans_erase hnode, ← h.mem, List.mem_cons]
    by_cases hji : j = i
    · subst hji
      simp [hnodup.1, hl]
    · simp [hji]

/-- **The orphans become defunct**, when no others are. -/
theorem retire (h : Lists v l []) (hnode : v'.node = v.node)
    (hnext : v'.ulNextOrphan = v.ulNextOrphan) (hhead : v'.ulOrphanHead = INODE_INVALID)
    (htail : v'.ulOrphanTail = INODE_INVALID)
    (hdefunct : v'.ulDefunctOrphanHead = v.ulOrphanHead) : Lists v' [] l where
  live := hhead ▸ Chain.nil_iff.2 rfl
  tail := htail
  defunct := by
    rw [hnext, hdefunct]
    exact h.live
  disjoint j hj := absurd hj List.not_mem_nil
  mem j := by
    have hmem := h.mem j
    simp only [List.not_mem_nil, or_false, false_or] at hmem ⊢
    rw [hmem, IsOrphan, IsOrphan, hnode]
  parent := hnode ▸ h.parent

/-- **Both lists become one**: the last orphan points to the first one that is defunct. -/
theorem concat (h : Lists v l m) (hl : l ≠ []) (hnode : v'.node = v.node)
    (hnext : v'.ulNextOrphan =
      Function.update v.ulNextOrphan v.ulOrphanTail v.ulDefunctOrphanHead)
    (hhead : v'.ulOrphanHead = INODE_INVALID) (htail : v'.ulOrphanTail = INODE_INVALID)
    (hdefunct : v'.ulDefunctOrphanHead = v.ulOrphanHead) : Lists v' [] (l ++ m) where
  live := hhead ▸ Chain.nil_iff.2 rfl
  tail := htail
  defunct := by
    obtain ⟨l', y, rfl⟩ := (List.eq_nil_or_concat l).resolve_left hl
    rw [List.concat_eq_append] at h ⊢
    have hy : v.ulOrphanTail = y := by
      rw [h.tail, List.getLastD_concat]
    rw [hnext, hdefunct, hy, List.append_assoc]
    exact h.live.concat h.defunct h.disjoint
  disjoint j hj := absurd hj List.not_mem_nil
  mem j := by
    have hmem := h.mem j
    simp only [List.not_mem_nil, false_or, List.mem_append]
    rw [hmem, IsOrphan, IsOrphan, hnode]
  parent := hnode ▸ h.parent

end Lists

/-! ## Numbers -/

namespace Numbered

/-- The inodes that are not in use stay the same. -/
lemma congr (h : Numbered s v) (hnode : ∀ j, v'.node j = none ↔ v.node j = none)
    (hfree : v'.ulFreeInodes = v.ulFreeInodes) : Numbered s v' where
  valid j hj := h.valid j fun hv => hj ((hnode j).2 hv)
  count := by
    rw [hfree, h.count]
    unfold freeNumbers
    congr 1
    ext j
    simp only [Finset.mem_filter, Option.isNone_iff_eq_none, hnode]

lemma of_set (h : Numbered s v) (hi : v.node i = some ino) {ino' : FileNode}
    (hnode : v'.node = Function.update v.node i (some ino'))
    (hfree : v'.ulFreeInodes = v.ulFreeInodes) : Numbered s v' := by
  refine h.congr (fun j => ?_) hfree
  rw [hnode]
  by_cases hj : j = i
  · subst hj
    rw [Function.update_self, hi]
    simp
  · rw [Function.update_of_ne hj]

/-- **An inode is created.** -/
theorem add (h : Numbered s v) (hi : i ∈ numbers s) (hfree : v.node i = none)
    (hnode : v'.node = Function.update v.node i (some ino))
    (hcount : v'.ulFreeInodes = v.ulFreeInodes - 1) : Numbered s v' where
  valid j hj := by
    by_cases hji : j = i
    · exact hji ▸ hi
    · rw [hnode, Function.update_of_ne hji] at hj
      exact h.valid j hj
  count := by
    have hmem : i ∈ v.freeNumbers s := by
      simp [freeNumbers, hi, hfree]
    have hset : v'.freeNumbers s = (v.freeNumbers s).erase i := by
      ext j
      by_cases hji : j = i
      · subst hji
        simp [freeNumbers, hnode]
      · simp [freeNumbers, hnode, hji]
    rw [hcount, h.count, hset, Finset.card_erase_of_mem hmem]

/-- **An inode is freed.** -/
theorem remove (h : Numbered s v) (hi : v.node i = some ino)
    (hnode : v'.node = Function.update v.node i none)
    (hcount : v'.ulFreeInodes = v.ulFreeInodes + 1) : Numbered s v' where
  valid j hj := by
    by_cases hji : j = i
    · exact hji ▸ h.valid i (by simp [hi])
    · rw [hnode, Function.update_of_ne hji] at hj
      exact h.valid j hj
  count := by
    have hmem : i ∉ v.freeNumbers s := by
      simp [freeNumbers, hi]
    have hset : v'.freeNumbers s = insert i (v.freeNumbers s) := by
      ext j
      by_cases hji : j = i
      · subst hji
        simp [freeNumbers, hnode, h.valid j (by simp [hi])]
      · simp [freeNumbers, hnode, hji]
    rw [hcount, h.count, hset, Finset.card_insert_of_notMem hmem]

/-- When an inode is in use, not all are free. -/
lemma free_lt (h : Numbered s v) (hi : v.node i = some ino) :
    v.ulFreeInodes < s.core.ulInodeCount := by
  have hmem : i ∈ numbers s := h.valid i (by simp [hi])
  have hlt : (v.freeNumbers s).card < (numbers s).card := by
    apply Finset.card_lt_card
    refine ⟨Finset.filter_subset _ _, fun hsub => ?_⟩
    have := hsub hmem
    simp [freeNumbers, hi] at this
  rw [h.count]
  simpa [numbers] using hlt

/-- A free inode is there when the count says so. -/
lemma exists_free (h : Numbered s v) (hfree : v.ulFreeInodes ≠ 0) :
    ∃ i ∈ numbers s, v.node i = none := by
  rw [h.count, Finset.card_ne_zero] at hfree
  obtain ⟨i, hi⟩ := hfree
  simp only [freeNumbers, Finset.mem_filter, Option.isNone_iff_eq_none] at hi
  exact ⟨i, hi⟩

end Numbered

end OrphanSpace

end RelianceEdge
