import RelianceEdge.Orphan.Lists

set_option relaxedAutoImplicit false
set_option autoImplicit false
set_option linter.unusedSectionVars false

/-!
# Freeing orphans

What the functions do that free inodes or that move whole lists of orphans: those that free
defunct orphans, the one that frees an orphan somewhere in the list, and the end of a mount.

## Main definitions

* `NameVolume.Freed` — some defunct orphans have been freed, and nothing else has happened.

## Main results

* `redVolFreeOrphans_run` — the first defunct orphans are freed, and it succeeds.
* `coreFreeOrphan_run` — exactly the orphans in the list can be freed, in any order.
* `mountOrphans_run` — after a mount no orphan is in the list, and none is lost.
-/

namespace RelianceEdge

variable [RedConf]

open RedConf

variable {s : FS} {l m : List ℕ} {i : ℕ} {ino : FileNode}

namespace OrphanSpace

variable {v : OrphanSpace}

namespace Inv

/-- An orphan is an inode without names and without a parent. -/
lemma orphan (h : Inv s v l m) (hi : i ∈ l ∨ i ∈ m) : ∃ ino, v.node i = some ino ∧
    ino.uNLink = 0 ∧ ino.ulPInode = INODE_INVALID := by
  obtain ⟨ino, hino, h0⟩ := (h.lists.mem i).1 hi
  exact ⟨ino, hino, h0, h.lists.parent i ino hino h0⟩

/-- The root directory is not an orphan. -/
lemma root_ne (h : Inv s v l m) : ¬ v.IsOrphan INODE_ROOTDIR := by
  rintro ⟨ino, hino, h0⟩
  obtain ⟨n, hn, hne⟩ := h.space.root
  rw [Space.shape_info hino] at hn
  cases hn
  exact hne h0

/-- The number zero is that of no inode. -/
lemma valid_ne (h : Inv s v l m) (hi : v.node i = some ino) : i ≠ INODE_INVALID := by
  rintro rfl
  have := h.space.shape.invalid
  rw [Space.shape_info hi] at this
  cases this

lemma invalid_free (h : Inv s v l m) : v.node INODE_INVALID = none := by
  rcases hv : v.node INODE_INVALID with _ | ino
  · rfl
  · exact absurd rfl (h.valid_ne hv)

/-- A directory with a parent is no orphan. -/
lemma hasParent_not_mem {p : ℕ} (h : Inv s v l m) (hp : v.toSpace.HasParent p) : p ∉ l ∧ p ∉ m := by
  refine h.lists.not_mem ?_
  rcases hp with rfl | ⟨ino, hino, hpar⟩
  · exact h.root_ne
  · rintro ⟨ino', hino', h0⟩
    exact hpar (by rw [← Option.some.inj (hino'.symm.trans hino), h.lists.parent p ino' hino' h0])

/-- An inode with a name has links. -/
lemma named {x : ℕ × ℕ} {e : Dirent} (h : Inv s v l m) (he : (v.shape s).entry x = some e) :
    ∃ ino, v.node e.ulInode = some ino ∧ ino.uNLink ≠ 0 ∧ e.ulInode ≠ INODE_INVALID := by
  obtain ⟨⟨n, hn⟩, hroot⟩ := h.space.shape.target he
  obtain ⟨ino, hino, rfl⟩ := Space.shape_info_eq_some hn
  refine ⟨ino, hino, fun h0 => ?_, h.valid_ne hino⟩
  have hcount := h.space.shape.count hn hroot
  have hlink : ino.info.uNLink = 0 := h0
  rw [hlink, Nat.cast_zero, Set.encard_eq_zero] at hcount
  exact Set.notMem_empty x (hcount ▸ ⟨e, he, rfl⟩)

/-- Both lists fit in the inode table. -/
lemma length_le (h : Inv s v l m) : l.length + m.length ≤ s.core.ulInodeCount := by
  have hnodup : (l ++ m).Nodup :=
    List.nodup_append.2 ⟨h.lists.live.nodup, h.lists.defunct.nodup,
      fun a ha b hb he => h.lists.disjoint a ha (he ▸ hb)⟩
  have hsub : (l ++ m).toFinset ⊆ numbers s := by
    intro i hi
    rw [List.mem_toFinset, List.mem_append] at hi
    obtain ⟨ino, hino, -⟩ := h.orphan hi
    exact h.numbered.valid i (by simp [hino])
  have hcard := Finset.card_le_card hsub
  rw [List.toFinset_card_of_nodup hnodup, List.length_append] at hcard
  simpa [numbers] using hcard

/-- Without an orphan the inodes and their names are as before. -/
lemma free_space (h : Space.Inv s v.toSpace) (hi : v.node i = some ino) (h0 : ino.uNLink = 0)
    (hpar : ino.ulPInode = INODE_INVALID) : Space.Inv s (v.set i none) ∧
    (v.set i none).shape s =
      ⟨Function.update (v.shape s).info i none, (v.shape s).entry⟩ := by
  have hfree : v.toSpace.redCoreFreeOrphan i = .ok (v.set i none) := by
    rw [Space.redCoreFreeOrphan, Space.mount, hi]
    exact if_neg (by simp [h0, hpar])
  obtain ⟨hsound, hstep⟩ := Space.redCoreFreeOrphan_step h hfree
  refine ⟨h.of_step hsound hstep, Space.shape_set ?_⟩
  have hroot : i ≠ INODE_ROOTDIR := by
    rintro rfl
    obtain ⟨n, hn, hne⟩ := h.root
    rw [Space.shape_info hi] at hn
    cases hn
    exact hne h0
  rw [Option.elim_none, Space.slots, hi, Option.elim_some, h.orphan_slots hi h0 hroot]

end Inv

end OrphanSpace

namespace NameVolume

open OrphanSpace

variable {v v' v'' : NameVolume} {m' m'' : List ℕ}

/-- **Some defunct orphans have been freed**: the entries are the same, and so are the inodes that
were not on the list of defunct orphans. -/
structure Freed (s : FS) (v : NameVolume) (l m : List ℕ) (v' : NameVolume) (m' : List ℕ) :
    Prop where
  inv : Inv s v'.toOrphanSpace l m'
  ro : v'.fReadOnly = v.fReadOnly
  suffix : m' <:+ m
  entry : (v'.shape s).entry = (v.shape s).entry
  node : ∀ i, i ∉ m → (v'.shape s).info i = (v.shape s).info i
  gone : ∀ i ∈ m, i ∉ m' → (v'.shape s).info i = none

lemma Freed.refl (h : Inv s v.toOrphanSpace l m) : Freed s v l m v m :=
  ⟨h, rfl, List.suffix_rfl, rfl, fun _ _ => rfl, fun _ hi hn => absurd hi hn⟩

lemma Freed.trans (h : Freed s v l m v' m') (h' : Freed s v' l m' v'' m'') :
    Freed s v l m v'' m'' where
  inv := h'.inv
  ro := h'.ro.trans h.ro
  suffix := h'.suffix.trans h.suffix
  entry := h'.entry.trans h.entry
  node i hi := (h'.node i fun hm => hi (h.suffix.subset hm)).trans (h.node i hi)
  gone i hi hn := by
    by_cases hm : i ∈ m'
    · exact h'.gone i hm hn
    · rw [h'.node i hm, h.gone i hi hm]

/-- The state apart from the inodes may be another one. -/
lemma Freed.congr (h : Freed s v l m v' m') (hinv : Inv s v''.toOrphanSpace l m')
    (hspace : v''.toSpace = v'.toSpace) (hro : v''.fReadOnly = v'.fReadOnly) :
    Freed s v l m v'' m' :=
  ⟨hinv, hro.trans h.ro, h.suffix, hspace ▸ h.entry, hspace ▸ h.node, hspace ▸ h.gone⟩

/-- **The orphans have become defunct**, some of them have been freed, and nothing else has
happened. -/
structure Retired (s : FS) (v : NameVolume) (l m : List ℕ) (v' : NameVolume) (m' : List ℕ) :
    Prop where
  inv : Inv s v'.toOrphanSpace [] m'
  ro : v'.fReadOnly = v.fReadOnly
  subset : ∀ i ∈ m', i ∈ l ∨ i ∈ m
  entry : (v'.shape s).entry = (v.shape s).entry
  node : ∀ i, i ∉ l → i ∉ m → (v'.shape s).info i = (v.shape s).info i

/-- What a call that fails leaves: at most, defunct orphans have been freed. -/
def Undone (s : FS) (v : NameVolume) (l m : List ℕ) (v' : NameVolume) : Prop :=
  ∃ m', Freed s v l m v' m'

/-- A directory keeps its parent when defunct orphans are freed. -/
lemma Freed.hasParent {p : ℕ} (hf : Freed s v l m v' m') (h : Inv s v.toOrphanSpace l m)
    (hp : v.toSpace.HasParent p) : v'.toSpace.HasParent p := by
  have hnode := hf.node p (h.hasParent_not_mem hp).2
  rcases hp with hp | ⟨ino, hino, hpar⟩
  · exact .inl hp
  · rw [Space.shape_info hino] at hnode
    obtain ⟨ino', hino', hinfo⟩ := Space.shape_info_eq_some hnode
    exact .inr ⟨ino', hino', (congrArg Info.ulPInode hinfo).trans_ne hpar⟩

/-! ## One inode -/

/-- The state after an inode has been freed. -/
def freed (v : NameVolume) (i : ℕ) : NameVolume :=
  { v.put (v.set i none) with ulFreeInodes := v.ulFreeInodes + 1 }

lemma redInodeMount_ok (hi : v.node i = some ino) : redInodeMount i v = (.ok ino, v) := by
  change (v.mount i, v) = _
  rw [Space.mount, hi]

lemma redInodeMount_error (hi : v.node i = none) : redInodeMount i v = (.error .EBADF, v) := by
  change (v.mount i, v) = _
  rw [Space.mount, hi]

/-- `RedInodeFree()` of an inode in use. -/
lemma redInodeFree_ok (h : Numbered s v.toOrphanSpace) (hi : v.node i = some ino) :
    redInodeFree s i v = (.ok (), v.freed i) := by
  have hlt := h.free_lt hi
  rw [redInodeFree, Op.get_bind_run, hi]
  dsimp only
  rw [Op.modify_bind_run, if_neg (Nat.not_le.2 hlt)]
  rfl

/-- `RedInodeFreeOrphan()` of an orphan. -/
lemma redInodeFreeOrphan_ok (h : Numbered s v.toOrphanSpace) (hi : v.node i = some ino)
    (h0 : ino.uNLink = 0) (hpar : ino.ulPInode = INODE_INVALID) :
    redInodeFreeOrphan s i ino v = (.ok (), v.freed i) := by
  rw [redInodeFreeOrphan, if_neg (by simp [h0, hpar])]
  exact redInodeFree_ok h hi

/-! ## Defunct orphans -/

/-- `RedVolFreeOrphans()` frees the first defunct orphan. -/
lemma freeFirstOrphan_cons (h : Inv s v.toOrphanSpace l (i :: m)) :
    ∃ v', freeFirstOrphan s v = (.ok (), v') ∧
      Freed s v l (i :: m) v' m := by
  have hhead : v.ulDefunctOrphanHead = i := (Chain.cons_iff.1 h.lists.defunct).1
  obtain ⟨ino, hi, h0, hpar⟩ := h.orphan (.inr List.mem_cons_self)
  obtain ⟨hspace, hshape⟩ := Inv.free_space h.space hi h0 hpar
  refine ⟨{ v.freed i with ulDefunctOrphanHead := v.ulNextOrphan i }, ?_, ⟨⟨?_, ?_⟩, hspace⟩, rfl,
    ?_, ?_, ?_, ?_⟩
  · rw [freeFirstOrphan, Op.get_bind_run, hhead, Op.bind_ok (redInodeMount_ok hi),
      Op.bind_ok (redInodeFreeOrphan_ok h.numbered hi h0 hpar)]
    rfl
  · exact h.numbered.remove hi rfl rfl
  · exact h.lists.popDefunct rfl rfl rfl rfl rfl
  · exact List.suffix_cons _ _
  · exact (congrArg Shape.entry hshape).trans rfl
  · intro j hj
    refine (congrFun (congrArg Shape.info hshape) j).trans (Function.update_of_ne ?_ _ _)
    rintro rfl
    exact hj List.mem_cons_self
  · intro j hj hn
    obtain rfl := (List.mem_cons.1 hj).resolve_right hn
    exact (congrFun (congrArg Shape.info hshape) j).trans (Function.update_self ..)

/-- At the end of the list the status is `-RED_EBADF`. -/
lemma freeFirstOrphan_nil (h : Inv s v.toOrphanSpace l []) :
    freeFirstOrphan s v = (.error .EBADF, v) := by
  have hhead : v.ulDefunctOrphanHead = INODE_INVALID := h.lists.defunct.1
  rw [freeFirstOrphan, Op.get_bind_run, hhead, Op.bind_error (redInodeMount_error h.invalid_free)]

/-- The loop frees as many defunct orphans as it has rounds, or all. -/
lemma freeOrphansLoop_run : ∀ (n : ℕ) {v : NameVolume} {m : List ℕ},
    Inv s v.toOrphanSpace l m → ∃ v', Freed s v l m v' (m.drop n) ∧
      (freeOrphansLoop s n v = (.ok (), v') ∨
        freeOrphansLoop s n v = (.error .EBADF, v') ∧ m.drop n = [])
  | 0, v, m, h => ⟨v, Freed.refl h, .inl rfl⟩
  | n + 1, v, [], h => by
    refine ⟨v, Freed.refl h, .inr ⟨?_, rfl⟩⟩
    rw [freeOrphansLoop, Op.bind_error (freeFirstOrphan_nil h)]
  | n + 1, v, i :: m, h => by
    obtain ⟨v1, h1, hfreed⟩ := freeFirstOrphan_cons h
    obtain ⟨v2, hfreed2, h2⟩ := freeOrphansLoop_run n hfreed.inv
    refine ⟨v2, hfreed.trans hfreed2, ?_⟩
    rwa [freeOrphansLoop, Op.bind_ok h1]

/-- **`RedVolFreeOrphans()` succeeds**, and frees the first defunct orphans. -/
theorem redVolFreeOrphans_run (h : Inv s v.toOrphanSpace l m) {n : ℕ} (hn : n ≠ 0) :
    ∃ v', redVolFreeOrphans s n v = (.ok (), v') ∧
      Freed s v l m v' (m.drop n) := by
  obtain ⟨v', hfreed, hrun | ⟨hrun, hnil⟩⟩ := freeOrphansLoop_run n h
  · refine ⟨v', ?_, hfreed⟩
    rw [redVolFreeOrphans, if_neg hn, Op.attempt_bind_run, hrun]
    rfl
  · refine ⟨v', ?_, hfreed⟩
    have hend : v'.ulDefunctOrphanHead = INODE_INVALID := by
      have := hfreed.inv.lists.defunct
      rw [hnil] at this
      exact this.1
    rw [redVolFreeOrphans, if_neg hn, Op.attempt_bind_run, hrun]
    change freeOrphansEnd (.error .EBADF) v' = _
    rw [freeOrphansEnd, Op.get_bind_run, if_neg (not_not.2 rfl), if_neg (not_not.2 hend)]
    rfl

/-! ## An orphan in the list -/

/-- The search finds an orphan that is on the list, with the one before it. -/
lemma findOrphanLoop_found {t2 : List ℕ} : ∀ (t1 : List ℕ) {fuel ulPrevInode ulCurInode : ℕ},
    Chain v.ulNextOrphan INODE_INVALID ulCurInode (t1 ++ i :: t2) →
    (∀ j ∈ t1 ++ i :: t2, v.IsOrphan j) → i ∉ t1 → t1.length ≤ fuel →
    findOrphanLoop v i fuel ulPrevInode ulCurInode = .ok (t1.getLastD ulPrevInode)
  | [], fuel, ulPrevInode, ulCurInode, h, _, _, _ => by
    have hcur : ulCurInode = i := (Chain.cons_iff.1 h).1
    cases fuel with
    | zero => rw [findOrphanLoop, if_pos hcur, List.getLastD_nil]
    | succ fuel => rw [findOrphanLoop, if_pos hcur, List.getLastD_nil]
  | y :: t1, 0, _, _, _, _, _, hfuel => absurd hfuel (by simp)
  | y :: t1, fuel + 1, ulPrevInode, ulCurInode, h, horphan, hne, hfuel => by
    obtain ⟨rfl, -, hnext⟩ := Chain.cons_iff.1 h
    rw [List.mem_cons, not_or] at hne
    have hmem : v.ulNextOrphan ulCurInode ∈ t1 ++ i :: t2 := by
      cases t1 with
      | nil => exact (Chain.cons_iff.1 hnext).1 ▸ List.mem_cons_self
      | cons z t1 => exact (Chain.cons_iff.1 hnext).1 ▸ List.mem_cons_self
    obtain ⟨ino, hino, -⟩ := horphan _ (List.mem_cons_of_mem _ hmem)
    have ih : findOrphanLoop v i fuel ulCurInode _ = _ := findOrphanLoop_found t1 hnext
      (fun j hj => horphan j (List.mem_cons_of_mem _ hj)) hne.2 (by simpa using hfuel)
    rw [findOrphanLoop, if_neg (Ne.symm hne.1), Space.mount, hino, List.getLastD_cons, ← ih]
    rfl

/-- The search for another inode comes to the end of the list. -/
lemma findOrphanLoop_missing (hinvalid : v.node INODE_INVALID = none) :
    ∀ (t : List ℕ) {y fuel ulPrevInode : ℕ},
    Chain v.ulNextOrphan INODE_INVALID y (y :: t) → (∀ j ∈ y :: t, v.IsOrphan j) → i ∉ y :: t →
    t.length < fuel → findOrphanLoop v i fuel ulPrevInode y = .error .EBADF
  | t, y, 0, _, _, _, _, hfuel => absurd hfuel (by simp)
  | [], y, fuel + 1, _, h, _, hne, _ => by
    have hnext : v.ulNextOrphan y = INODE_INVALID := (Chain.cons_iff.1 h).2.2.1
    rw [findOrphanLoop, if_neg fun he : y = i => hne (he ▸ List.mem_cons_self), hnext,
      Space.mount, hinvalid]
    rfl
  | z :: t, y, fuel + 1, _, h, horphan, hne, hfuel => by
    have hnext : Chain v.ulNextOrphan INODE_INVALID (v.ulNextOrphan y) (z :: t) := h.pop
    have hz : v.ulNextOrphan y = z := (Chain.cons_iff.1 hnext).1
    rw [hz] at hnext
    obtain ⟨ino, hino, -⟩ := horphan z (by simp)
    have ih : findOrphanLoop v i fuel y z = _ := findOrphanLoop_missing hinvalid t hnext
      (fun j hj => horphan j (List.mem_cons_of_mem _ hj))
      (fun hmem => hne (List.mem_cons_of_mem _ hmem)) (by simpa using hfuel)
    rw [findOrphanLoop, if_neg fun he : y = i => hne (he ▸ List.mem_cons_self), hz,
      Space.mount, hino, ← ih]
    rfl

/-- **`RedCoreFreeOrphan()` frees the orphans in the list**, each one wherever it is. -/
theorem coreFreeOrphan_run (h : Inv s v.toOrphanSpace l m) (hi : i ∈ l) :
    ∃ v', coreFreeOrphan s i v = (.ok (), v') ∧ Inv s v'.toOrphanSpace (l.erase i) m ∧
      v'.fReadOnly = v.fReadOnly ∧ v'.fBranched ∧
      v'.shape s = ⟨Function.update (v.shape s).info i none, (v.shape s).entry⟩ := by
  obtain ⟨t1, t2, rfl⟩ := List.append_of_mem hi
  have hnodup := h.lists.live.nodup
  have ht1 : i ∉ t1 := fun hmem =>
    (List.nodup_append.1 hnodup).2.2 i hmem i List.mem_cons_self rfl
  obtain ⟨ino, hino, h0, hpar⟩ := h.orphan (.inl hi)
  obtain ⟨hspace, hshape⟩ := Inv.free_space h.space hino h0 hpar
  have hlen := h.length_le
  rw [List.length_append] at hlen
  have hfind : findOrphanLoop v i s.core.ulInodeCount INODE_INVALID v.ulOrphanHead = _ :=
    findOrphanLoop_found t1 h.lists.live (fun j hj => (h.lists.mem j).1 (.inl hj)) ht1 (by omega)
  have hhead : t1 = [] ∧ v.ulOrphanHead = i ∨ t1 ≠ [] ∧ v.ulOrphanHead ∈ t1 := by
    cases t1 with
    | nil => exact .inl ⟨rfl, (Chain.cons_iff.1 h.lists.live).1⟩
    | cons z t1 =>
      exact .inr ⟨List.cons_ne_nil _ _, (Chain.cons_iff.1 h.lists.live).1 ▸ List.mem_cons_self⟩
  obtain ⟨inoHead, hinoHead, -⟩ : ∃ inoHead, v.node v.ulOrphanHead = some inoHead ∧ _ :=
    h.orphan (.inl (by
      rcases hhead with ⟨-, hhead⟩ | ⟨-, hhead⟩
      · exact hhead ▸ hi
      · exact List.mem_append_left _ hhead))
  have hrun : coreFreeOrphan s i v =
      unlinkOrphan i (t1.getLastD INODE_INVALID) (v.ulNextOrphan i) (v.freed i) := by
    rw [coreFreeOrphan, Op.get_bind_run, Op.bind_ok (redInodeMount_ok hinoHead),
      Op.ofExcept_bind_ok hfind, Op.bind_ok (redInodeMount_ok hino),
      Op.bind_ok (redInodeFreeOrphan_ok h.numbered hino h0 hpar)]
  refine ⟨_, hrun, ⟨⟨h.numbered.remove hino rfl rfl, ?_⟩, hspace⟩, rfl, rfl, hshape⟩
  rw [List.erase_append_right _ ht1, List.erase_cons_head]
  rcases hhead with ⟨rfl, hfirst⟩ | ⟨hne, hfirst⟩
  · exact h.lists.pop rfl (if_pos hfirst) (if_pos hfirst) rfl rfl
  · obtain ⟨t, p, rfl⟩ := (List.eq_nil_or_concat t1).resolve_left hne
    have hfirst : v.ulOrphanHead ≠ i := fun he => ht1 (he ▸ hfirst)
    rw [List.concat_eq_append] at h ⊢
    rw [List.append_assoc, List.singleton_append] at h ⊢
    rw [List.getLastD_concat]
    exact h.lists.unlink rfl (if_neg hfirst) (if_neg hfirst) rfl rfl

/-- No other inode can be freed. -/
theorem coreFreeOrphan_error (h : Inv s v.toOrphanSpace l m) (hi : i ∉ l) :
    coreFreeOrphan s i v = (.error .EBADF, v) := by
  rcases hl : l with _ | ⟨y, t⟩
  · have hhead : v.ulOrphanHead = INODE_INVALID := h.lists.live.eq_nil_iff.2 hl
    rw [coreFreeOrphan, Op.get_bind_run, hhead, Op.bind_error (redInodeMount_error h.invalid_free)]
  · subst hl
    have hlen := h.length_le
    rw [List.length_cons] at hlen
    have hhead : v.ulOrphanHead = y := (Chain.cons_iff.1 h.lists.live).1
    obtain ⟨ino, hino, -⟩ := h.orphan (.inl List.mem_cons_self)
    have hfind : findOrphanLoop v i s.core.ulInodeCount INODE_INVALID y = _ :=
      findOrphanLoop_missing h.invalid_free t (hhead ▸ h.lists.live)
        (fun j hj => (h.lists.mem j).1 (.inl hj)) hi (by omega)
    rw [coreFreeOrphan, Op.get_bind_run, hhead, Op.bind_ok (redInodeMount_ok hino),
      Op.ofExcept_bind_error hfind]

/-! ## The end of a mount -/

/-- The orphans become defunct, when no others are. -/
lemma retireOrphans_run (h : Inv s v.toOrphanSpace l []) :
    ∃ v', retireOrphans v = (.ok (), v') ∧ v'.toSpace = v.toSpace ∧
      v'.fReadOnly = v.fReadOnly ∧ Inv s v'.toOrphanSpace [] l :=
  ⟨_, rfl, rfl, rfl, ⟨h.numbered.congr (fun _ => Iff.rfl) rfl,
    h.lists.retire rfl rfl rfl rfl rfl⟩, h.space⟩

/-- `ConcatOrphanLists()` succeeds. -/
lemma concatOrphanLists_run (h : Inv s v.toOrphanSpace l m) (hl : l ≠ []) :
    ∃ v', concatOrphanLists v = (.ok (), v') ∧ v'.toSpace = v.toSpace ∧
      v'.fReadOnly = v.fReadOnly ∧ Inv s v'.toOrphanSpace [] (l ++ m) := by
  obtain ⟨t, y, hty⟩ := (List.eq_nil_or_concat l).resolve_left hl
  rw [List.concat_eq_append] at hty
  obtain rfl : v.ulOrphanTail = y := by
    rw [h.lists.tail, hty, List.getLastD_concat]
  obtain ⟨ino, hino, -⟩ := h.orphan (i := v.ulOrphanTail) (.inl (by simp [hty]))
  have hnext : v.ulNextOrphan v.ulOrphanTail = INODE_INVALID := by
    have hchain := h.lists.live.1
    rw [hty] at hchain
    obtain ⟨b, -, hb, hnext⟩ := Segment.append_iff.1 hchain
    exact hnext
  refine ⟨{ v with
    ulNextOrphan := Function.update v.ulNextOrphan v.ulOrphanTail v.ulDefunctOrphanHead
    ulDefunctOrphanHead := v.ulOrphanHead
    ulOrphanHead := INODE_INVALID
    ulOrphanTail := INODE_INVALID
    fBranched := true }, ?_, rfl, rfl, ⟨h.numbered.congr (fun _ => Iff.rfl) rfl,
    h.lists.concat hl rfl rfl rfl rfl rfl⟩, h.space⟩
  rw [concatOrphanLists, Op.get_bind_run, Op.bind_ok (redInodeMount_ok hino),
    redInodeBranch, Op.modify_bind_run, if_neg (not_not.2 hnext)]
  rfl

/-- **The end of a mount**: no orphan is in the list, and none is lost. -/
theorem mountOrphans_run (hcount : s.core.ulInodeCount ≤ UINT32_MAX)
    (h : Inv s v.toOrphanSpace l m) (ulFlags : MountFlags) :
    ∃ v' m', mountOrphans s ulFlags v = (.ok (), v') ∧ Retired s v l m v' m' ∧
      (ulFlags.fSkipDelete = false → m' = []) := by
  have hlen := h.length_le
  have hmax : UINT32_MAX ≠ 0 := by decide
  rw [mountOrphans, Op.get_bind_run]
  by_cases hskip : ulFlags.fSkipDelete
  · rw [if_neg (by simp [hskip])]
    have hnot {P : Prop} (hfalse : ulFlags.fSkipDelete = false) : P := by
      rw [hskip] at hfalse
      cases hfalse
    by_cases hdef : v.ulDefunctOrphanHead = INODE_INVALID
    · rw [if_pos hdef]
      obtain rfl : m = [] := h.lists.defunct.eq_nil_iff.1 hdef
      obtain ⟨v', hrun, hsp, hro, hinv⟩ := retireOrphans_run h
      exact ⟨v', l, hrun, ⟨hinv, hro, fun i hi => .inl hi, by rw [hsp], fun i _ _ => by rw [hsp]⟩,
        hnot⟩
    · rw [if_neg hdef]
      by_cases hhead : v.ulOrphanHead = INODE_INVALID
      · rw [if_neg (not_not.2 hhead)]
        obtain rfl : l = [] := h.lists.live.eq_nil_iff.1 hhead
        exact ⟨v, m, rfl, ⟨h, rfl, fun i hi => .inr hi, rfl, fun _ _ _ => rfl⟩, hnot⟩
      · rw [if_pos hhead]
        obtain ⟨v', hrun, hsp, hro, hinv⟩ :=
          concatOrphanLists_run h fun hl => hhead (h.lists.live.eq_nil_iff.2 hl)
        exact ⟨v', l ++ m, hrun, ⟨hinv, hro, fun i hi => List.mem_append.1 hi, by rw [hsp],
          fun i _ _ => by rw [hsp]⟩, hnot⟩
  · rw [if_pos (by simp [hskip])]
    obtain ⟨v1, hrun1, hfreed1⟩ := redVolFreeOrphans_run h hmax
    rw [List.drop_of_length_le (by omega)] at hfreed1
    obtain ⟨v2, hrun2, hsp2, hro2, hinv2⟩ := retireOrphans_run hfreed1.inv
    obtain ⟨v3, hrun3, hfreed3⟩ := redVolFreeOrphans_run hinv2 hmax
    rw [List.drop_of_length_le (by omega)] at hfreed3
    refine ⟨v3, [], ?_, ⟨hfreed3.inv, hfreed3.ro.trans (hro2.trans hfreed1.ro),
      fun i hi => absurd hi List.not_mem_nil, ?_, ?_⟩, fun _ => rfl⟩
    · rw [Op.bind_ok hrun1, Op.bind_ok hrun2, hrun3]
    · rw [hfreed3.entry, hsp2, hfreed1.entry]
    · intro i hl hm
      rw [hfreed3.node i hl, hsp2, hfreed1.node i hm]

end NameVolume

end RelianceEdge
