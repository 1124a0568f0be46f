import RelianceEdge.Orphan.Reach
import RelianceEdge.Space.Index

set_option relaxedAutoImplicit false
set_option autoImplicit false
set_option linter.unusedSectionVars false

/-!
# The name space is a tree

In every state of a volume in use the directories that have not been removed form a tree, the link
counts are exact, and every inode is reached from the root directory or is an orphan in a list.

## Main definitions

* `NameTree` — the names of a state and its lists of orphans.

## Main results

* `Shape.Linked.acyclic` — no directory lies in itself.
* `nameSpace_isTree` — the result for all states.
* `nameSpace_orphan` — a directory that has been removed while it is open has no name.
-/

namespace RelianceEdge

variable [RedConf]

open RedConf

namespace Shape

variable {S : Shape} {i p : ℕ}

/-- The parent directory of an inode, as the inode says. -/
def parentOf (S : Shape) (i : ℕ) : ℕ := (S.info i).elim INODE_INVALID Info.ulPInode

/-- A directory lies in another one. -/
def Child (S : Shape) (p i : ℕ) : Prop :=
  S.IsDir i ∧ ∃ k e, S.entry (p, k) = some e ∧ e.ulInode = i

/-- An inode is found along names from the root directory. -/
inductive Found (S : Shape) : ℕ → Prop
  | root : Found S INODE_ROOTDIR
  | entry {p k : ℕ} {e : Dirent} (h : S.entry (p, k) = some e) (hp : Found S p) : Found S e.ulInode

lemma Linked.found (h : S.Linked i) : S.Found i := by
  induction h with
  | root => exact .root
  | child he _ _ ih => exact .entry he ih

/-- From a directory in the tree, parents lead to the root directory. -/
lemma Linked.iterate_parentOf (hw : S.WellFormed) (h : S.Linked i) :
    ∃ t, S.parentOf^[t] i = INODE_ROOTDIR := by
  induction h with
  | root => exact ⟨0, rfl⟩
  | @child p k e he _ hd ih =>
    obtain ⟨t, ht⟩ := ih
    obtain ⟨n, hn, hdir⟩ := hd
    refine ⟨t + 1, ?_⟩
    have hparent : S.parentOf e.ulInode = p := by
      rw [parentOf, hn]
      exact hw.parent he hn hdir
    rw [Function.iterate_succ_apply, hparent, ht]

/-- A directory has one parent. -/
lemma Child.parent_unique (hw : S.WellFormed) {q : ℕ} (hp : S.Child p i) (hq : S.Child q i) :
    p = q := by
  obtain ⟨⟨n, hn, hdir⟩, k, e, he, rfl⟩ := hp
  obtain ⟨-, k', e', he', heq⟩ := hq
  rw [← hw.parent he hn hdir]
  exact hw.parent he' (heq ▸ hn) hdir

/-- **No directory in the tree lies in itself.** -/
lemma Linked.acyclic (hw : S.WellFormed) (h : S.Linked i) : ¬ Relation.TransGen S.Child i i := by
  induction h with
  | root =>
    intro hcycle
    obtain ⟨p, -, -, k, e, he, heq⟩ := Relation.TransGen.tail'_iff.1 hcycle
    exact (hw.target he).2 heq
  | @child p k e he _ hd ih =>
    intro hcycle
    obtain ⟨q, hreach, hq⟩ := Relation.TransGen.tail'_iff.1 hcycle
    obtain rfl : q = p := hq.parent_unique hw ⟨hd, k, e, he, rfl⟩
    exact ih (Relation.TransGen.head'_iff.2 ⟨_, hq, hreach⟩)

end Shape

/-- **The name space is a tree with exact link counts**, but for the orphans in the lists. -/
structure NameTree (s : FS) (v : OrphanSpace) (l m : List ℕ) : Prop where
  /-- The lists of orphans. -/
  live : Chain v.ulNextOrphan INODE_INVALID v.ulOrphanHead l
  defunct : Chain v.ulNextOrphan INODE_INVALID v.ulDefunctOrphanHead m
  /-- The root directory has no name. -/
  root : (v.shape s).IsDir INODE_ROOTDIR ∧ (v.shape s).names INODE_ROOTDIR = ∅
  /-- A directory has one name, in the directory that its inode says. -/
  name : ∀ i n, (v.shape s).info i = some n → n.fDirectory → i ≠ INODE_ROOTDIR → i ∉ l → i ∉ m →
    ∃ k, (v.shape s).names i = {(n.ulPInode, k)}
  /-- Parents lead to the root directory. -/
  parents : ∀ i n, (v.shape s).info i = some n → n.fDirectory → i ∉ l → i ∉ m →
    ∃ t, (v.shape s).parentOf^[t] i = INODE_ROOTDIR
  /-- No directory lies in itself. -/
  acyclic : ∀ i, ¬ Relation.TransGen (v.shape s).Child i i
  /-- The link count of a file is the number of its names. -/
  count : ∀ i n, (v.shape s).info i = some n → n.fDirectory = false →
    ((v.shape s).names i).encard = n.uNLink
  /-- The orphans are the inodes without links. -/
  orphan : ∀ i n, (v.shape s).info i = some n → (n.uNLink = 0 ↔ i ∈ l ∨ i ∈ m)
  /-- An orphan has no name, no entries and no parent. -/
  removed : ∀ i, i ∈ l ∨ i ∈ m → (v.shape s).names i = ∅ ∧ (v.shape s).IsEmpty i ∧
    ∃ n, (v.shape s).info i = some n ∧ n.ulPInode = INODE_INVALID
  /-- An entry lies in a directory and names an inode with links; if that is a directory, the entry
  lies in its parent. -/
  entry : ∀ p k e, (v.shape s).entry (p, k) = some e → (v.shape s).IsDir p ∧
    e.ulInode ∈ OrphanSpace.numbers s ∧ ∃ n, (v.shape s).info e.ulInode = some n ∧
      n.uNLink ≠ 0 ∧ (n.fDirectory → n.ulPInode = p)
  /-- An inode in use is found from the root directory, or it is an orphan. -/
  found : ∀ i n, (v.shape s).info i = some n → (v.shape s).Found i ∨ i ∈ l ∨ i ∈ m

open OrphanSpace NameVolume

variable {s : FS} {v : OrphanSpace} {l m : List ℕ} {i : ℕ}

namespace OrphanSpace.Inv

/-- The orphans are the inodes without links. -/
lemma uNLink_eq_zero_iff (h : Inv s v l m) {n : Info} (hn : (v.shape s).info i = some n) :
    n.uNLink = 0 ↔ i ∈ l ∨ i ∈ m := by
  obtain ⟨ino, hino, rfl⟩ := Space.shape_info_eq_some hn
  rw [h.lists.mem]
  constructor
  · exact fun h0 => ⟨ino, hino, h0⟩
  · rintro ⟨ino', hino', h0⟩
    rw [hino] at hino'
    cases hino'
    exact h0

/-- An orphan is not the root directory. -/
lemma ne_root (h : Inv s v l m) (hi : i ∈ l ∨ i ∈ m) : i ≠ INODE_ROOTDIR := by
  rintro rfl
  exact h.root_ne ((h.lists.mem _).1 hi)

/-- A directory that is no orphan is in the tree. -/
lemma linked (h : Inv s v l m) {n : Info} (hn : (v.shape s).info i = some n) (hd : n.fDirectory)
    (hi : ¬ (i ∈ l ∨ i ∈ m)) : (v.shape s).Linked i := by
  have hw := h.space.shape
  refine hw.linked_of_dir hn hd ?_
  by_cases hr : i = INODE_ROOTDIR
  · exact .inl hr
  · refine .inr fun hp => hi ((h.uNLink_eq_zero_iff hn).1 ((hw.parent_eq_invalid hn hd hr).1 hp))

/-- **The invariant says that the name space is a tree.** -/
theorem nameTree (h : Inv s v l m) : NameTree s v l m := by
  have hw := h.space.shape
  have hnot {i : ℕ} (hl : i ∉ l) (hm : i ∉ m) : ¬ (i ∈ l ∨ i ∈ m) := not_or.2 ⟨hl, hm⟩
  have hnames {i : ℕ} (hi : i ∈ l ∨ i ∈ m) : (v.shape s).names i = ∅ := by
    obtain ⟨ino, hino, h0, -⟩ := h.orphan hi
    rw [← Set.encard_eq_zero, hw.count (Space.shape_info hino) (h.ne_root hi)]
    exact congrArg Nat.cast h0
  refine ⟨h.lists.live, h.lists.defunct, ⟨hw.root, ?_⟩, fun i n hn hd hr hl hm => ?_,
    fun i n hn hd hl hm => ?_, fun i hcycle => ?_, fun i n hn hd => ?_,
    fun i n hn => h.uNLink_eq_zero_iff hn, fun i hi => ⟨hnames hi, ?_, ?_⟩, fun p k e he => ?_,
    fun i n hn => ?_⟩
  · refine Set.eq_empty_iff_forall_notMem.2 ?_
    rintro x ⟨e, he, heq⟩
    exact (hw.target he).2 heq
  · obtain ⟨k, e, -, -, hsingle⟩ := hw.name_of_dir hn hd hr fun h0 =>
      hnot hl hm ((h.uNLink_eq_zero_iff hn).1 h0)
    exact ⟨k, hsingle⟩
  · exact (h.linked hn hd (hnot hl hm)).iterate_parentOf hw
  · obtain ⟨p, ⟨-, k, e, he, -⟩, -⟩ := Relation.TransGen.head'_iff.1 hcycle
    exact (hw.linked he).acyclic hw hcycle
  · exact hw.count hn (hw.ne_root_of_file hn (by simp [hd]))
  · obtain ⟨ino, hino, h0, -⟩ := h.orphan hi
    by_cases hd : ino.info.fDirectory
    · exact hw.removed (Space.shape_info hino) hd (h.ne_root hi) h0
    · exact hw.isEmpty_of_file (Space.shape_info hino) hd
  · obtain ⟨ino, hino, -, hp⟩ := h.orphan hi
    exact ⟨_, Space.shape_info hino, hp⟩
  · obtain ⟨ino, hino, h0, -⟩ := h.named he
    exact ⟨hw.owner he, h.numbered.valid _ (by simp [hino]), _, Space.shape_info hino, h0,
      fun hd => hw.parent he (Space.shape_info hino) hd⟩
  · by_cases hi : i ∈ l ∨ i ∈ m
    · exact .inr hi
    left
    by_cases hd : n.fDirectory
    · exact (h.linked hn hd hi).found
    · have hcount := hw.count hn (hw.ne_root_of_file hn hd)
      obtain ⟨⟨p, k⟩, e, he, rfl⟩ : ((v.shape s).names i).Nonempty := by
        rw [← Set.encard_ne_zero, hcount]
        exact fun h0 => hi ((h.uNLink_eq_zero_iff hn).1 (Nat.cast_eq_zero.1 h0))
      exact .entry he (hw.linked he).found

end OrphanSpace.Inv

/-- **The name space of a volume in use is a tree** with exact link counts, but for the orphans;
so it is in the committed state. -/
theorem nameSpace_isTree (hver : redDiskLayoutIsSupported s.core.ulVersion)
    (hpos : 0 < s.core.ulInodeCount) (hcount : s.core.ulInodeCount ≤ UINT32_MAX) {d : NameDisk}
    (h : NameDisk.Reachable s d) :
    (∃ l m, NameTree s d.toOrphanSpace l m) ∧ ∃ l m, NameTree s d.committed l m := by
  obtain ⟨⟨l, m, hinv⟩, lc, mc, hcommitted⟩ := h.inv hver hpos hcount
  exact ⟨⟨l, m, hinv.nameTree⟩, lc, mc, hcommitted.nameTree⟩

omit [RedConf] in
/-- The result for a volume in use, with a directory, a file in each directory, and an orphan whose
name is still in the committed state. -/
theorem nameSpace_isTree_small : letI := smallConf
    let s := emptyGeometry 5 64 8
    ((∃ l m, NameTree s NameDisk.inUse.toOrphanSpace l m) ∧
      ∃ l m, NameTree s NameDisk.inUse.committed l m) ∧
    NameDisk.inUse.ulOrphanHead = 4 ∧ NameDisk.inUse.committed.ulOrphanHead = INODE_INVALID ∧
    ((NameDisk.inUse.shape s).entry (3, 0)).isSome ∧
    ((NameDisk.inUse.shape s).entry (INODE_ROOTDIR, 1)) = none ∧
    ((NameDisk.inUse.committed.shape s).entry (INODE_ROOTDIR, 1)).isSome :=
  ⟨@nameSpace_isTree smallConf _ (by decide) (by decide) (by decide) _ NameDisk.inUse_reachable,
    by decide +kernel, by decide +kernel, by decide +kernel, by decide +kernel, by decide +kernel⟩

omit [RedConf] in
/-- A directory is created in the root directory and removed while it is open. It is still an inode
in use, and no entry names it. -/
theorem nameSpace_orphan : letI := smallConf
    ¬ ∀ d, NameDisk.Reachable (emptyGeometry 5 64 8) d → ∀ i n,
      (d.shape (emptyGeometry 5 64 8)).info i = some n → n.fDirectory → i ≠ INODE_ROOTDIR →
      ∃ x, (d.shape (emptyGeometry 5 64 8)).names i = {x} := by
  let _ := smallConf
  intro hname
  have hver : redDiskLayoutIsSupported (emptyGeometry 5 64 8).core.ulVersion := by decide
  obtain ⟨de, hde, -⟩ : ∃ de, DirData.newDirent [97] INODE_FIRST_FREE = .ok de ∧ de.acName = [97] :=
    newDirent_byte _ (by decide) (by decide) (by decide)
  obtain ⟨d1, d2, rfl, rfl, -, -, hnode, -⟩ := NameDisk.format_orphan (s := emptyGeometry 5 64 8)
    hver rfl (by decide) (by decide) hde .dir rfl
  have hcreate : NameDisk.Reachable (emptyGeometry 5 64 8)
      ((Call.create NameDisk.roomy INODE_ROOTDIR [97] .dir).run _ (.format _)) :=
    .call .format (.inl rfl)
  have hreach : NameDisk.Reachable (emptyGeometry 5 64 8)
      ((Call.unlink NameDisk.roomy INODE_ROOTDIR [97] true).run _ _) := hcreate.call (.inl rfl)
  obtain ⟨⟨l, m, hinv⟩, -⟩ := hreach.inv hver (by decide) (by decide)
  obtain ⟨x, hx⟩ := hname _ hreach INODE_FIRST_FREE _ (Space.shape_info hnode) rfl (by decide)
  have horphan := (hinv.uNLink_eq_zero_iff (Space.shape_info hnode)).1 rfl
  rw [(hinv.nameTree.removed _ horphan).1] at hx
  exact Set.singleton_ne_empty x hx.symm

end RelianceEdge
