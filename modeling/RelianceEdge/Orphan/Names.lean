import RelianceEdge.Orphan.Free

set_option relaxedAutoImplicit false
set_option autoImplicit false
set_option linter.unusedSectionVars false

/-!
# Creating, linking and unlinking on a volume

What `CoreCreate()`, `CoreLink()` and `CoreUnlink()` leave, whether they succeed or fail. A call
that succeeds takes a step of the tree of names; one that fails leaves the names as they were, and
has at most freed defunct orphans.

## Main results

* `coreCreate_ends`, `coreLink_ends`, `coreUnlink_ends` — the outcome of a call; one that succeeds
  does to the inodes what `Space.coreCreate`, `Space.coreLink` or `Space.coreUnlink` does.
* `redInodeLinkDec_run` — dropping a link succeeds; at the last one the inode becomes the first
  orphan of the list, or it is freed.
-/

namespace RelianceEdge

variable [RedConf]

open RedConf

/-- A directory of the shape is an inode with entries. -/
lemma Space.exists_dir {s : FS} {sp : Space} {p : ℕ} (h : (sp.shape s).IsDir p) :
    ∃ ino d, sp.node p = some ino ∧ ino.data = .dir d := by
  obtain ⟨n, hn, hdir⟩ := h
  obtain ⟨ino, hino, rfl⟩ := Space.shape_info_eq_some hn
  rw [FileNode.info] at hdir
  cases hd : ino.data with
  | dir d => exact ⟨ino, d, hino, hd⟩
  | reg _ => rw [hd] at hdir; cases hdir
  | lnk _ => rw [hd] at hdir; cases hdir

lemma DirRoom.spend_eq_ok {α : Type} {fFits : Bool} {x : Except RedError α} {a : α}
    (h : DirRoom.spend fFits x = .ok a) : x = .ok a := by
  obtain ⟨b, hx, hfits⟩ := Except.bind_eq_ok h
  split_ifs at hfits
  rw [hx, hfits]

namespace NameVolume

open OrphanSpace

variable {s : FS} (hver : redDiskLayoutIsSupported s.core.ulVersion)
variable {v : NameVolume} {l m : List ℕ} {i p : ℕ} {ino : FileNode} {d : DirData} {room : DirRoom}
  {pszName : CString}

/-! ## The number of a new inode -/

/-- `InodeFindFree()` finds a free inode, or there is none. -/
lemma inodeFindFree_run (h : Inv s v.toOrphanSpace l m) :
    (∃ i, inodeFindFree s v = (.ok i, v) ∧ i ∈ numbers s ∧ v.node i = none) ∨
      inodeFindFree s v = (.error .ENFILE, v) := by
  rw [inodeFindFree, Op.get_bind_run]
  by_cases hfree : v.ulFreeInodes = 0
  · exact .inr (by rw [if_pos hfree]; rfl)
  rw [if_neg hfree]
  have hrange (j : ℕ) : j ∈ List.range' INODE_FIRST_FREE
      (INODE_FIRST_VALID + s.core.ulInodeCount - INODE_FIRST_FREE) ↔
      INODE_FIRST_FREE ≤ j ∧ j ∈ numbers s := by
    simp only [List.mem_range'_1, numbers, Finset.mem_Ico, INODE_FIRST_FREE, INODE_FIRST_VALID]
    omega
  rcases hfind : List.find? (fun ulInode => (v.node ulInode).isNone) _ with _ | j
  · obtain ⟨j, hj, hnone⟩ := h.numbered.exists_free hfree
    have hroot : j ≠ INODE_ROOTDIR := by
      rintro rfl
      obtain ⟨n, hn, -⟩ := h.space.root
      change (v.node INODE_ROOTDIR).map FileNode.info = some n at hn
      rw [hnone] at hn
      cases hn
    have hmem := (hrange j).2 ⟨?_, hj⟩
    · exact absurd (by simp [hnone]) (List.find?_eq_none.1 hfind j hmem)
    · simp only [numbers, Finset.mem_Ico, INODE_FIRST_FREE, INODE_FIRST_VALID,
        INODE_ROOTDIR] at hj hroot ⊢
      omega
  · refine .inl ⟨j, rfl, ((hrange j).1 (List.mem_of_find?_eq_some hfind)).2, ?_⟩
    simpa using List.find?_some hfind

/-- The number for a new inode: it is free, once a defunct orphan has been freed if need be. -/
lemma inodeCreateNumber_run (h : Inv s v.toOrphanSpace l m) :
    (∃ i v1 m1, inodeCreateNumber s v = (.ok i, v1) ∧
      Freed s v l m v1 m1 ∧ i ∈ numbers s ∧ v1.node i = none) ∨
    ∃ e, inodeCreateNumber s v = (.error e, v) := by
  rw [inodeCreateNumber, Op.attempt_bind_run]
  rcases inodeFindFree_run h with ⟨i, hrun, hi, hnone⟩ | hrun
  · rw [hrun]
    exact .inl ⟨i, v, m, rfl, Freed.refl h, hi, hnone⟩
  rw [hrun]
  dsimp only
  rw [Op.get_bind_run]
  split_ifs with hcond
  · obtain ⟨v1, hfree, hfreed⟩ := redVolFreeOrphans_run h (n := 1) (by decide)
    obtain ⟨t, rfl, -⟩ := h.lists.defunct.exists_cons hcond.2.2
    have hnodup := List.nodup_cons.1 h.lists.defunct.nodup
    obtain ⟨ino, hino, -⟩ := h.orphan (.inr List.mem_cons_self)
    refine .inl ⟨v.ulDefunctOrphanHead, v1, _, ?_, hfreed, ?_, ?_⟩
    · rw [Op.bind_ok hfree]
      rfl
    · exact h.numbered.valid _ (by simp [hino])
    · have := hfreed.gone _ List.mem_cons_self hnodup.1
      exact Option.map_eq_none_iff.1 this
  · exact .inr ⟨.ENFILE, rfl⟩

/-! ## Entries -/

lemma redInodeMountDir_ends (p : ℕ) : (redInodeMountDir p).Ends v
    (fun r v' => v.node p = some r.1 ∧ r.1.data = .dir r.2 ∧ v = v') fun v' => v = v' := by
  refine .ofExcept (fun r hr => ?_) fun _ _ => rfl
  obtain ⟨hp, hd⟩ := Space.mountDir_eq_ok hr
  exact ⟨hp, hd, rfl⟩

lemma redInodeMount_ends (i : ℕ) : (redInodeMount i).Ends v
    (fun ino v' => v.node i = some ino ∧ v = v') fun v' => v = v' := by
  rcases hi : v.node i with _ | ino
  · exact .error (redInodeMount_error hi) rfl
  · exact .ok (redInodeMount_ok hi) ⟨rfl, rfl⟩

lemma redInodeMountDir_ok (hp : v.node p = some ino) (hd : ino.data = .dir d) :
    redInodeMountDir p v = (.ok (ino, d), v) := by
  change (v.mountDir p, v) = _
  rw [Space.mountDir_of_node hp hd]

/-- `RedDirEntryCreate()` changes the directory, or nothing. -/
lemma redDirEntryCreate_ends (hp : v.node p = some ino) (hd : ino.data = .dir d) :
    (redDirEntryCreate s room p pszName i).Ends v
      (fun _ v' => ∃ d', d.redDirEntryCreate s pszName i = .ok d' ∧ v' = v.put (v.setDir p d'))
      fun v' => v = v' := by
  refine .run_bind (redInodeMountDir_ok hp hd) (.ofExcept_bind (fun d' hd' => ?_) fun _ _ => rfl)
  exact .ok rfl ⟨d', DirRoom.spend_eq_ok hd', rfl⟩

/-! ## The tables in the middle of a call -/

/-- One inode in use is replaced by another one of the same links. -/
lemma Tables.data (h : Tables s v.toOrphanSpace l m) (hi : v.node i = some ino) {data : FileData}
    {sp : Space} (hnode : sp.node = Function.update v.node i (some { ino with data })) :
    Tables s (v.put sp).toOrphanSpace l m :=
  ⟨h.numbered.of_set hi hnode rfl, h.lists.of_data hi hnode rfl rfl rfl rfl⟩

lemma setDir_node {sp : Space} (hp : sp.node p = some ino) :
    (sp.setDir p d).node = Function.update sp.node p (some { ino with data := .dir d }) := by
  rw [Space.setDir, Space.modify, hp]
  rfl

/-- The entries of a directory change. -/
lemma Tables.setDir (h : Tables s v.toOrphanSpace l m) (hp : v.node p = some ino) (d : DirData) :
    Tables s (v.put (v.setDir p d)).toOrphanSpace l m := Tables.data h hp (setDir_node hp)

lemma modify_node {sp : Space} (hi : sp.node i = some ino) (f : FileNode → FileNode) :
    (sp.modify i f).node = Function.update sp.node i (some (f ino)) := by
  rw [Space.modify, hi]
  rfl

/-- An inode with links gets others. -/
lemma Tables.links (h : Tables s v.toOrphanSpace l m) (hi : v.node i = some ino)
    (h0 : ino.uNLink ≠ 0) {f : FileNode → FileNode} (hf : (f ino).uNLink ≠ 0) :
    Tables s (v.put (v.modify i f)).toOrphanSpace l m := by
  have hnot : ¬ v.IsOrphan i := by
    rintro ⟨ino', hi', h0'⟩
    obtain rfl := Option.some.inj (hi.symm.trans hi')
    exact h0 h0'
  refine ⟨h.numbered.of_set hi (modify_node hi f) rfl, h.lists.of_set hnot (modify_node hi f) ?_
    (fun _ _ => rfl) rfl rfl rfl⟩
  rintro _ ⟨⟩
  exact hf

/-- **`RedInodeLinkDec()` succeeds.** When the inode loses its last name it becomes the first
orphan of the list, or it is freed. -/
theorem redInodeLinkDec_run (h : Tables s v.toOrphanSpace l m) (hi : v.node i = some ino)
    (h0 : ino.uNLink ≠ 0) (hvalid : i ≠ INODE_INVALID) (fOrphan : Bool) :
    ∃ v' l', redInodeLinkDec s i fOrphan v = (.ok (), v') ∧
      v.toSpace.redInodeLinkDec i fOrphan = .ok v'.toSpace ∧ v'.fReadOnly = v.fReadOnly ∧
      Tables s v'.toOrphanSpace l' m ∧ (l' = l ∨ l' = i :: l ∧ fOrphan ∧ v'.IsOrphan i) := by
  have hnot : ¬ v.IsOrphan i := by
    rintro ⟨ino', hi', h0'⟩
    obtain rfl := Option.some.inj (hi.symm.trans hi')
    exact h0 h0'
  rw [redInodeLinkDec, Op.bind_ok (redInodeMount_ok hi), Space.redInodeLinkDec, Space.mount, hi]
  change ∃ v' l', _ ∧ (if 1 < ino.uNLink then _ else _) = _ ∧ _
  by_cases hlink : 1 < ino.uNLink
  · rw [if_pos hlink, if_pos hlink]
    refine ⟨_, l, rfl, rfl, rfl, Tables.links h hi h0 ?_, .inl rfl⟩
    dsimp only
    omega
  rw [if_neg hlink, if_neg hlink]
  by_cases horphan : (deleteOpen && fOrphan) = true
  · rw [if_pos horphan, if_pos horphan]
    have hnode := modify_node hi fun ino => { ino with uNLink := 0, ulPInode := INODE_INVALID }
    refine ⟨_, i :: l, rfl, rfl, rfl, ⟨h.numbered.of_set hi hnode rfl,
      h.lists.push hnot hvalid rfl rfl hnode rfl rfl rfl rfl⟩,
      .inr ⟨rfl, (Bool.and_eq_true_iff.1 horphan).2, ?_⟩⟩
    exact (Lists.isOrphan_self hnode).2 ⟨_, rfl, rfl⟩
  · rw [if_neg horphan, if_neg horphan, redInodeFree_ok h.numbered hi]
    refine ⟨_, l, rfl, rfl, rfl, ⟨h.numbered.remove hi rfl rfl, ?_⟩, .inl rfl⟩
    exact h.lists.of_set hnot rfl (fun _ hino => absurd hino (by simp)) (fun _ _ => rfl) rfl rfl
      rfl

/-! ## Calls -/

/-- The state after an inode has been created. -/
def created (v : NameVolume) (i : ℕ) (ino : FileNode) : NameVolume :=
  { v.put (v.set i (some ino)) with
    ulNextOrphan := Function.update v.ulNextOrphan i 0
    ulFreeInodes := v.ulFreeInodes - 1 }

/-- An inode that is not in use becomes one with a link. -/
lemma Tables.create (h : Tables s v.toOrphanSpace l m) (hi : i ∈ numbers s)
    (hfree : v.node i = none) (h0 : ino.uNLink ≠ 0) :
    Tables s (v.created i ino).toOrphanSpace l m := by
  have hnot : ¬ v.IsOrphan i := by
    rintro ⟨ino', hi', -⟩
    rw [hfree] at hi'
    cases hi'
  refine ⟨h.numbered.add hi hfree rfl rfl, h.lists.of_set hnot rfl ?_ (fun j hj => ?_) rfl rfl rfl⟩
  · rintro _ ⟨⟩
    exact h0
  · exact Function.update_of_ne hj _ _

/-- An inode that has been created is freed again. -/
lemma Tables.uncreate (h : Tables s v.toOrphanSpace l m) (hi : i ∈ numbers s)
    (hfree : v.node i = none) (ino : FileNode) (h0 : ino.uNLink ≠ 0) :
    ∃ v', redInodeFree s i (v.created i ino) = (.ok (), v') ∧ v'.toSpace = v.toSpace ∧
      v'.fReadOnly = v.fReadOnly ∧ Tables s v'.toOrphanSpace l m := by
  have htab := Tables.create h hi hfree h0
  have hnode : (v.created i ino).node i = some ino := Function.update_self ..
  have hnot : ¬ (v.created i ino).IsOrphan i := by
    rintro ⟨ino', hi', h0'⟩
    obtain rfl := Option.some.inj (hnode.symm.trans hi')
    exact h0 h0'
  refine ⟨_, redInodeFree_ok htab.numbered hnode, ?_, rfl, htab.numbered.remove hnode rfl rfl,
    htab.lists.of_set hnot rfl (fun _ hino => absurd hino (by simp)) (fun _ _ => rfl) rfl rfl rfl⟩
  change Space.mk (Function.update (Function.update v.node i (some ino)) i none) = v.toSpace
  rw [Function.update_idem, ← hfree, Function.update_eq_self]

/-- `RedInodeCreate()` creates an inode, or changes nothing. -/
lemma redInodeCreate_run (h : Inv s v.toOrphanSpace l m) (p : ℕ) (uMode : Mode) :
    (∃ i, ∃ v1 : NameVolume, ∃ m1,
      redInodeCreate s p uMode v = (.ok i, v1.created i ⟨1, p, .new uMode⟩) ∧
      Freed s v l m v1 m1 ∧ i ∈ numbers s ∧ v1.node i = none) ∨
    ∃ e, redInodeCreate s p uMode v = (.error e, v) := by
  rw [redInodeCreate]
  by_cases hmode : uMode.canCreate
  · rw [if_neg (by simp [hmode])]
    rcases inodeCreateNumber_run h with ⟨i, v1, m1, hnum, hrest⟩ | ⟨e, hnum⟩
    · refine .inl ⟨i, v1, m1, ?_, hrest⟩
      rw [Op.bind_ok hnum]
      rfl
    · exact .inr ⟨e, Op.bind_error hnum⟩
  · exact .inr ⟨.EINVAL, by rw [if_pos (by simp [hmode])]; rfl⟩

/-- The directory may get its entry before or after the inode that the entry names. -/
lemma set_setDir {sp : Space} (hne : p ≠ i) (x : Option FileNode) :
    (sp.set i x).setDir p d = (sp.setDir p d).set i x := by
  rw [Space.setDir, Space.modify, Space.set_ne x hne]
  exact congrArg Space.mk (Function.update_comm (Ne.symm hne) _ _ _)

include hver in
/-- **`CoreCreate()`**, with the defunct orphan that may have been freed for the inode. -/
theorem coreCreate_ends (h : Inv s v.toOrphanSpace l m) (hp : v.toSpace.HasParent p)
    (uMode : Mode) : (coreCreate s room p pszName uMode).Ends v
      (fun i v' => v'.fReadOnly = v.fReadOnly ∧ ∃ v1 m1, Freed s v l m v1 m1 ∧
        Inv s v'.toOrphanSpace l m1 ∧ Shape.Step (v1.shape s) (v'.shape s) ∧
        v1.node i = none ∧ v1.toSpace.coreCreate s i p pszName uMode = .ok v'.toSpace)
      fun v' => Undone s v l m v' := by
  refine .bind' (redInodeMountDir_ends p) ?_ fun v' hv' => ⟨m, hv' ▸ Freed.refl h⟩
  rintro ⟨inoP, d⟩ _ ⟨hP, hd, rfl⟩
  rcases redInodeCreate_run h p uMode with ⟨i, v1, m1, hcreate, hfreed, hi, hnone⟩ | ⟨e, hcreate⟩
  swap
  · exact .error (Op.bind_error hcreate) ⟨m, Freed.refl h⟩
  refine .run_bind hcreate ?_
  have htab := hfreed.inv.toTables
  -- The directory is not one of the defunct orphans.
  obtain ⟨ino1, d1, hP1, hd1⟩ : ∃ ino1 d1, v1.node p = some ino1 ∧ ino1.data = .dir d1 := by
    refine Space.exists_dir (s := s) ⟨inoP.info, ?_, by rw [FileNode.info, hd]; rfl⟩
    rw [hfreed.node p (h.hasParent_not_mem hp).2, Space.shape_info hP]
  have hne : p ≠ i := by
    rintro rfl
    rw [hP1] at hnone
    cases hnone
  have hPw : (v1.created i ⟨1, p, .new uMode⟩).node p = some ino1 :=
    (Function.update_of_ne hne _ _).trans hP1
  refine .attempt_bind (redDirEntryCreate_ends hPw hd1) (fun _ v' hv' => ?_) fun e v' hv' => ?_
  · obtain ⟨d', hd', rfl⟩ := hv'
    have hspace : v1.toSpace.coreCreate s i p pszName uMode =
        .ok (((v1.created i ⟨1, p, .new uMode⟩).toSpace).setDir p d') := by
      change _ = Except.ok ((v1.set i _).setDir p d')
      rw [Space.coreCreate, Space.mountDir_of_node hP1 hd1, set_setDir hne]
      change d1.redDirEntryCreate s pszName i >>= _ = _
      rw [hd']
      rfl
    have hvalid : i ≠ INODE_INVALID := by
      rintro rfl
      simp [numbers, INODE_FIRST_VALID, INODE_INVALID] at hi
    obtain ⟨hsound, hstep⟩ :=
      Space.coreCreate_step hver hfreed.inv.space.sound (hfreed.hasParent h hp) hnone hvalid hspace
    have htab' := Tables.setDir (Tables.create htab hi hnone Nat.one_ne_zero) hPw d'
    exact .ok rfl ⟨hfreed.ro, v1, m1, hfreed,
      ⟨htab', hfreed.inv.space.of_step hsound hstep⟩, hstep, hnone, hspace⟩
  · subst hv'
    obtain ⟨v', hfree, hspace, hro, htab'⟩ := Tables.uncreate htab hi hnone
      ⟨1, p, .new uMode⟩ Nat.one_ne_zero
    have hundone : Undone s v l m v' :=
      ⟨m1, hfreed.congr ⟨htab', hspace ▸ hfreed.inv.space⟩ hspace hro⟩
    have hends : (redInodeFree s i).Ends (v1.created i ⟨1, p, .new uMode⟩) (fun _ w => w = v')
        fun _ => False := .ok hfree rfl
    refine .attempt_bind hends (fun _ w hw => ?_) fun _ _ hf => hf.elim
    exact .error rfl (hw ▸ hundone)

/-- A call that has only branched the volume has changed no name. -/
lemma Freed.branched (h : Inv s v.toOrphanSpace l m) :
    Freed s v l m { v with fBranched := true } m :=
  ⟨h, rfl, List.suffix_rfl, rfl, fun _ _ => rfl, fun _ hi hn => absurd hi hn⟩

include hver in
/-- **`CoreLink()`** to an inode that is no orphan. -/
theorem coreLink_ends (h : Inv s v.toOrphanSpace l m) (hp : v.toSpace.HasParent p)
    (hi : ¬ v.IsOrphan i) : (coreLink s room p pszName i).Ends v
      (fun _ v' => v'.fReadOnly = v.fReadOnly ∧ Inv s v'.toOrphanSpace l m ∧
        Shape.Step (v.shape s) (v'.shape s) ∧
        v.toSpace.coreLink s p pszName i = .ok v'.toSpace)
      fun v' => Undone s v l m v' := by
  have hundone : Undone s v l m v := ⟨m, Freed.refl h⟩
  have hbranched : Undone s v l m { v with fBranched := true } := ⟨m, Freed.branched h⟩
  refine .bind' (redInodeMountDir_ends p) ?_ fun v' hv' => hv' ▸ hundone
  rintro ⟨inoP, d⟩ _ ⟨hP, hd, rfl⟩
  refine .run_bind rfl (.bind' (redInodeMount_ends i) ?_ fun v' hv' => hv' ▸ hbranched)
  rintro ino _ ⟨hI, rfl⟩
  change v.node i = some ino at hI
  dsimp only
  split_ifs with hdir hmax
  · exact .fail hbranched
  · exact .fail hbranched
  refine .bind' (redDirEntryCreate_ends hP hd) ?_ fun v' hv' => hv' ▸ hbranched
  rintro ⟨⟩ _ ⟨d', hd', rfl⟩
  have hne : i ≠ p := by
    rintro rfl
    rw [Option.some.inj (hI.symm.trans hP), hd] at hdir
    exact hdir rfl
  have hlink : ino.uNLink ≠ 0 := fun h0 => hi ⟨ino, hI, h0⟩
  have hspace : v.toSpace.coreLink s p pszName i =
      .ok ((v.setDir p d').modify i fun ino => { ino with uNLink := ino.uNLink + 1 }) := by
    rw [Space.coreLink, Space.mountDir_of_node hP hd]
    change v.mount i >>= _ = _
    rw [Space.mount, hI]
    change (if _ then _ else if ino.uNLink = UINT16_MAX then _ else _) = _
    rw [if_neg hdir, if_neg hmax]
    change d.redDirEntryCreate s pszName i >>= _ = _
    rw [hd']
    rfl
  obtain ⟨hsound, hstep⟩ := Space.coreLink_step hver h.space.sound hp hspace
  have htab : Tables s (v.put (v.setDir p d')).toOrphanSpace l m := Tables.setDir h.toTables hP d'
  have hI' : (v.put (v.setDir p d')).node i = some ino := (Space.setDir_ne hne).trans hI
  exact .ok rfl ⟨rfl, ⟨Tables.links htab hI' hlink (Nat.succ_ne_zero _),
    h.space.of_step hsound hstep⟩, hstep, hspace⟩

/-- The list of orphans after a call that may have made the inode of a name an orphan. -/
def Pushed (S : Shape) (p : ℕ) (pszName : CString) (fOrphan : Bool) (l l' : List ℕ) : Prop :=
  l' = l ∨ ∃ k e, S.entry (p, k) = some e ∧ e.matches pszName ∧ fOrphan ∧ l' = e.ulInode :: l

include hver in
/-- **`CoreUnlink()`.** -/
theorem coreUnlink_ends (h : Inv s v.toOrphanSpace l m) (fOrphan : Bool) :
    (coreUnlink s room p pszName fOrphan).Ends v
      (fun _ v' => v'.fReadOnly = v.fReadOnly ∧ Shape.Step (v.shape s) (v'.shape s) ∧
        v.toSpace.coreUnlink s p pszName fOrphan = .ok v'.toSpace ∧
        ∃ l', Inv s v'.toOrphanSpace l' m ∧ Pushed (v.shape s) p pszName fOrphan l l')
      fun v' => Undone s v l m v' := by
  have hundone : Undone s v l m v := ⟨m, Freed.refl h⟩
  have hbranched : Undone s v l m { v with fBranched := true } := ⟨m, Freed.branched h⟩
  rw [coreUnlink]
  split_ifs with hparam
  · exact .fail hundone
  refine .bind' (redInodeMountDir_ends p) ?_ fun v' hv' => hv' ▸ hundone
  rintro ⟨inoP, d⟩ _ ⟨hP, hd, rfl⟩
  refine .ofExcept_bind (fun r hlookup => ?_) fun _ _ => hundone
  obtain ⟨_ | de, k⟩ := r
  · exact .fail hundone
  refine .run_bind rfl (.bind' (redInodeMount_ends de.ulInode) ?_ fun v' hv' => hv' ▸ hbranched)
  rintro ino _ ⟨hI, rfl⟩
  change v.node de.ulInode = some ino at hI
  dsimp only
  split_ifs with hremove
  · exact .fail hbranched
  refine .ofExcept_bind (fun d' hd' => ?_) fun _ _ => hbranched
  have hdelete := DirRoom.spend_eq_ok hd'
  have hholds := h.space.sound.holds hP hd
  obtain ⟨hentry, hmatch⟩ := hholds.lookup_found hver hlookup
  have he : (v.shape s).entry (p, k) = some de := by rw [Space.shape_entry hP hd, hentry]
  obtain ⟨ino', hI', hlink, hvalid⟩ := h.named he
  obtain rfl := Option.some.inj (hI.symm.trans hI')
  have hempty := Space.slots_of_mayRemove hver h.space.sound hI (by simpa using hremove)
  have hne : de.ulInode ≠ p := by
    intro heq
    have := Space.isEmpty_of_slots hI hempty k
    rw [heq, he] at this
    cases this
  have htab : Tables s (v.put (v.setDir p d')).toOrphanSpace l m := Tables.setDir h.toTables hP d'
  have hI1 : (v.put (v.setDir p d')).node de.ulInode = some ino := (Space.setDir_ne hne).trans hI
  obtain ⟨v', l', hrun, hdec, hro, htab', hl'⟩ := redInodeLinkDec_run htab hI1 hlink hvalid fOrphan
  have hspace : v.toSpace.coreUnlink s p pszName fOrphan = .ok v'.toSpace := by
    rw [Space.coreUnlink, if_neg hparam, Space.mountDir_of_node hP hd]
    change d.redDirEntryLookup s pszName >>= _ = _
    rw [hlookup]
    change v.mount de.ulInode >>= _ = _
    rw [Space.mount, hI]
    change (if (!Space.mayRemove ino) = true then _ else _) = _
    rw [if_neg hremove]
    change d.redDirEntryDelete s k >>= _ = _
    rw [hdelete]
    exact hdec
  obtain ⟨hsound, hstep⟩ := Space.coreUnlink_step hver h.space.sound hspace
  refine .ok hrun ⟨hro, hstep, hspace, l', ⟨htab', h.space.of_step hsound hstep⟩, ?_⟩
  rcases hl' with hl' | ⟨hl', horphan, -⟩
  · exact .inl hl'
  · exact .inr ⟨k, de, he, hmatch, horphan, hl'⟩

/-! ## Calls that succeed -/

variable {de : Dirent}

include hver in
/-- `CoreCreate()` succeeds in an empty directory when an inode is free. -/
lemma coreCreate_ok (room : DirRoom) (hp : v.node p = some ino) (hd : ino.data = .dir .empty)
    (hfind : inodeFindFree s v = (.ok i, v)) (hne : p ≠ i) {uMode : Mode} (hmode : uMode.canCreate)
    (hde : DirData.newDirent pszName i = .ok de) (hmax : 0 < s.direntsMax) (hroom : room.fWrite) :
    ∃ d', DirData.Holds s d' [some de] ∧ coreCreate s room p pszName uMode v = (.ok i,
      (v.created i ⟨1, p, .new uMode⟩).put ((v.created i ⟨1, p, .new uMode⟩).setDir p d')) := by
  obtain ⟨d', hcreate, hl⟩ :=
    (DirData.empty_holds (s := s)).append_ok hver hde (by simp) hmax (by simp)
  refine ⟨d', hl, ?_⟩
  have hnew : redInodeCreate s p uMode v = (.ok i, v.created i ⟨1, p, .new uMode⟩) := by
    rw [redInodeCreate, if_neg (by simp [hmode]), inodeCreateNumber, bind_assoc,
      Op.attempt_bind_run, hfind]
    rfl
  have hp1 : (v.created i ⟨1, p, .new uMode⟩).node p = some ino :=
    (Function.update_of_ne hne _ _).trans hp
  have hentry : redDirEntryCreate s room p pszName i (v.created i ⟨1, p, .new uMode⟩) = (.ok (),
      (v.created i ⟨1, p, .new uMode⟩).put ((v.created i ⟨1, p, .new uMode⟩).setDir p d')) := by
    rw [redDirEntryCreate, Op.bind_ok (redInodeMountDir_ok hp1 hd)]
    dsimp only
    rw [hcreate, show DirRoom.spend room.fWrite (.ok d' : Except RedError DirData) = .ok d' from
      if_pos hroom]
    rfl
  rw [coreCreate, Op.bind_ok (redInodeMountDir_ok hp hd), Op.bind_ok hnew, Op.attempt_bind_run,
    hentry]
  rfl

include hver in
/-- `CoreUnlink()` makes an orphan of the inode of the only entry of a directory. -/
lemma coreUnlink_orphan (room : DirRoom) (hdel : deleteOpen) (hp : v.node p = some ino)
    (hd : ino.data = .dir d)
    (hl : DirData.Holds s d [some de]) (hde : DirData.newDirent pszName i = .ok de)
    (hne : p ≠ i) {inoI : FileNode} (hi : v.node i = some inoI) (hlink : inoI.uNLink = 1)
    (hremove : Space.mayRemove inoI) (hroom : room.fDelete) :
    ∃ d', DirData.Holds s d' [] ∧ coreUnlink s room p pszName true v =
      pushOrphan i (v.put (v.setDir p d')) := by
  obtain ⟨hname, rfl⟩ := DirData.newDirent_eq_ok hde
  have hmatch : de.matches pszName := by rw [Dirent.matches, hname, beq_self_eq_true]
  obtain ⟨d', hdelete⟩ := hl.delete_ok hver (k := 0) (by simp)
  obtain ⟨-, hfree⟩ := hl.delete hver hdelete
  refine ⟨d', hfree, ?_⟩
  have hlen : redNameLen pszName = de.acName.length := by
    rw [hname, List.length_take, min_eq_left (redNameLen_le_length _)]
  have hlookup : d.redDirEntryLookup s pszName = .ok (some de, 0) := by
    rw [hl.lookup_eq hver, if_neg, if_neg, Slots.search, if_pos hmatch]
    · rfl
    · exact Nat.not_lt.2 (hlen ▸ de.length_le)
    · rw [hlen, List.length_eq_zero_iff]
      exact de.acName_ne_nil
  have hmount : redInodeMount de.ulInode { v with fBranched := true } = (.ok inoI, _) :=
    redInodeMount_ok hi
  rw [coreUnlink, if_neg (by simp [hdel]), Op.bind_ok (redInodeMountDir_ok hp hd)]
  dsimp only
  rw [Op.ofExcept_bind_ok hlookup]
  dsimp only
  rw [redInodeBranch, Op.modify_bind_run, Op.bind_ok hmount, if_neg (by simp [hremove])]
  rw [hdelete, show DirRoom.spend room.fDelete (.ok d' : Except RedError DirData) = .ok d' from
    if_pos hroom]
  have hi1 : (v.put (v.setDir p d')).node de.ulInode = some inoI :=
    (Space.setDir_ne hne.symm).trans hi
  change redInodeLinkDec s de.ulInode true (v.put (v.setDir p d')) = _
  rw [redInodeLinkDec, Op.bind_ok (redInodeMount_ok hi1), if_neg (by omega),
    if_pos (by simp [hdel])]
end NameVolume

end RelianceEdge
