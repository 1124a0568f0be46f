import RelianceEdge.Orphan.NameStep

set_option relaxedAutoImplicit false
set_option autoImplicit false
set_option linter.unusedSectionVars false

/-!
# What becomes of the inodes

A call keeps every inode that it does not take the last name from. Defunct orphans apart, an inode
that is in use before a call is in use after it, of the same type, and it is without links only if
it was so or if the call has made it an orphan.

## Main definitions

* `Info.dropped` — an inode that has lost a name.
* `Call.Takes` — the inode that a call takes a name from.
* `Call.Fate` — what becomes of the inodes in a call.

## Main results

* `Call.run_fate` — what becomes of the inodes in a call that goes on from the state.
* `coreCreate_target` — an inode that has been created has a name.
-/

namespace RelianceEdge

variable [RedConf]

open RedConf

/-- **An inode that has lost a name**: it is kept without links if it is to be an orphan. -/
def Info.dropped (fOrphan : Bool) (n : Info) : Option Info :=
  if 1 < n.uNLink then some { n with uNLink := n.uNLink - 1 }
  else if deleteOpen && fOrphan then some { n with uNLink := 0, ulPInode := INODE_INVALID }
  else none

namespace Space

variable {s : FS} {sp sp' : Space} {i p q : ℕ} {pszName : CString} {fOrphan : Bool}

/-! ## Operations -/

lemma redInodeLinkDec_info {ino : FileNode} (hi : sp.node i = some ino)
    (hc : sp.redInodeLinkDec i fOrphan = .ok sp') :
    (sp'.shape s).info = Function.update (sp.shape s).info i (ino.info.dropped fOrphan) := by
  obtain ⟨ino', hmount, hc⟩ := Except.bind_eq_ok hc
  have hi' := mount_eq_ok hmount
  rw [hi] at hi'
  cases hi'
  split_ifs at hc with hlink horphan
  · cases hc
    have hinfo : 1 < ino.info.uNLink := hlink
    rw [shape_modify hi rfl, Info.dropped, if_pos hinfo]
    rfl
  · cases hc
    have hinfo : ¬ 1 < ino.info.uNLink := hlink
    rw [shape_modify hi rfl, Info.dropped, if_neg hinfo, if_pos horphan]
    rfl
  · cases hc
    have hinfo : ¬ 1 < ino.info.uNLink := hlink
    rw [Info.dropped, if_neg hinfo, if_neg horphan]
    funext j
    change ((sp.set i none).node j).map FileNode.info = _
    by_cases hj : j = i
    · subst hj
      rw [Function.update_self, set_same]
      rfl
    · rw [Function.update_of_ne hj, set_ne _ hj]
      rfl

/-- `CoreCreate()` adds an inode with one link. -/
lemma coreCreate_info {uMode : Mode} (hc : sp.coreCreate s i p pszName uMode = .ok sp') :
    ∃ n : Info, n.uNLink = 1 ∧ n.fDirectory = (FileData.new uMode).fDirectory ∧
      (sp'.shape s).info = Function.update (sp.shape s).info i (some n) := by
  obtain ⟨⟨ino, d⟩, hmount, hc⟩ := Except.bind_eq_ok hc
  obtain ⟨hp, hd⟩ := mountDir_eq_ok hmount
  obtain ⟨d', -, hc⟩ := Except.bind_eq_ok hc
  cases hc
  refine ⟨FileNode.info ⟨1, p, .new uMode⟩, rfl, rfl, ?_⟩
  have hdir : ((sp.setDir p d').shape s).info = (sp.shape s).info := by rw [shape_setDir hp hd]
  rw [← hdir]
  funext j
  change (((sp.setDir p d').set i _).node j).map FileNode.info = _
  by_cases hj : j = i
  · subst hj
    rw [Function.update_self, set_same]
    rfl
  · rw [Function.update_of_ne hj, set_ne _ hj]
    rfl

/-- `CoreLink()` adds a link to an inode. -/
lemma coreLink_info (hc : sp.coreLink s p pszName i = .ok sp') :
    ∃ n, (sp.shape s).info i = some n ∧ (sp'.shape s).info =
      Function.update (sp.shape s).info i (some { n with uNLink := n.uNLink + 1 }) := by
  obtain ⟨⟨inoP, d⟩, hmount, hc⟩ := Except.bind_eq_ok hc
  obtain ⟨hp, hd⟩ := mountDir_eq_ok hmount
  obtain ⟨ino, hmount, hc⟩ := Except.bind_eq_ok hc
  have hi := mount_eq_ok hmount
  split_ifs at hc with hdir hmax
  obtain ⟨d', -, hc⟩ := Except.bind_eq_ok hc
  cases hc
  have hne : i ≠ p := by
    rintro rfl
    rw [hp] at hi
    cases hi
    exact hdir (by rw [hd]; rfl)
  have hi' : (sp.setDir p d').node i = some ino := by rw [setDir_ne hne, hi]
  refine ⟨ino.info, shape_info hi, ?_⟩
  rw [shape_modify hi' rfl, shape_setDir hp hd]
  rfl

/-- `CoreUnlink()` takes a name from an inode. -/
lemma coreUnlink_info (hver : redDiskLayoutIsSupported s.core.ulVersion) (h : Inv s sp)
    (hc : sp.coreUnlink s p pszName fOrphan = .ok sp') :
    ∃ i n, sp.names s (p, pszName.name) = some i ∧ (sp.shape s).info i = some n ∧
      (sp'.shape s).info = Function.update (sp.shape s).info i (n.dropped fOrphan) := by
  unfold coreUnlink at hc
  split_ifs at hc with hparam
  obtain ⟨⟨inoP, d⟩, hmount, hc⟩ := Except.bind_eq_ok hc
  obtain ⟨hp, hd⟩ := mountDir_eq_ok hmount
  obtain ⟨⟨found, k⟩, hlookup, hc⟩ := Except.bind_eq_ok hc
  rcases found with _ | de
  · cases hc
  obtain ⟨ino, hmount, hc⟩ := Except.bind_eq_ok hc
  have hi := mount_eq_ok hmount
  split_ifs at hc with hremove
  obtain ⟨d', -, hc⟩ := Except.bind_eq_ok hc
  obtain ⟨hat, hmatch⟩ := (h.sound.holds hp hd).lookup_found hver hlookup
  have hentry : (sp.shape s).entry (p, k) = some de := by rw [shape_entry hp hd, hat]
  obtain ⟨ino1, hi1, hinfo1⟩ : ∃ ino1, (sp.setDir p d').node de.ulInode = some ino1 ∧
      ino1.info = ino.info := by
    have hinfo : ((sp.setDir p d').shape s).info de.ulInode = some ino.info := by
      rw [shape_setDir hp hd, shape_info (s := s) hi]
    exact shape_info_eq_some hinfo
  refine ⟨de.ulInode, ino.info, ?_, shape_info (s := s) hi, ?_⟩
  · rw [← Dirent.matches_iff.1 hmatch]
    exact (names_maps h.shape).eq_some hentry
  · rw [redInodeLinkDec_info hi1 hc, shape_setDir hp hd, hinfo1]

/-- `CoreRename()` gives the source another parent, and takes a name from the inode it replaces. -/
lemma coreRename_info (hver : redDiskLayoutIsSupported s.core.ulVersion) (h : Inv s sp)
    {pszSrc pszDst : CString} (hc : sp.coreRename s p pszSrc q pszDst fOrphan = .ok sp') :
    ∃ i n, sp.names s (p, pszSrc.name) = some i ∧ (sp.shape s).info i = some n ∧
      (sp.names s (q, pszDst.name) = some i ∧ sp' = sp ∨
        sp.names s (q, pszDst.name) = none ∧
          (sp'.shape s).info =
            Function.update (sp.shape s).info i (some { n with ulPInode := q }) ∨
        ∃ j n', sp.names s (q, pszDst.name) = some j ∧ j ≠ i ∧ (sp.shape s).info j = some n' ∧
          (sp'.shape s).info =
            Function.update (Function.update (sp.shape s).info i (some { n with ulPInode := q }))
              j (n'.dropped fOrphan)) := by
  unfold coreRename at hc
  by_cases hparam : (!deleteOpen && fOrphan) = true
  · rw [if_pos hparam] at hc
    cases hc
  rw [if_neg hparam] at hc
  obtain ⟨⟨inoP, dP⟩, hmount, hc⟩ := Except.bind_eq_ok hc
  obtain ⟨hp, hdP⟩ := mountDir_eq_ok hmount
  obtain ⟨⟨inoQ, dQ⟩, hmount, hc⟩ := Except.bind_eq_ok hc
  obtain ⟨hq, hdQ⟩ := mountDir_eq_ok hmount
  dsimp only at hc
  split_ifs at hc with hdot
  obtain ⟨⟨src, j⟩, hsrc, hc⟩ := Except.bind_eq_ok hc
  rcases src with _ | e
  · cases hc
  obtain ⟨⟨dst, k⟩, hlookup, hc⟩ := Except.bind_eq_ok hc
  have hmaps := names_maps h.shape
  have hholds := h.sound.holds hq hdQ
  obtain ⟨hej, hmatchE⟩ := (h.sound.holds hp hdP).lookup_found hver hsrc
  have he : (sp.shape s).entry (p, j) = some e := by rw [shape_entry hp hdP, hej]
  obtain ⟨n, hn⟩ := (h.shape.target he).1
  rw [← Dirent.matches_iff.1 hmatchE]
  refine ⟨e.ulInode, n, hmaps.eq_some he, hn, ?_⟩
  rcases dst with _ | d
  · dsimp only at hc
    split_ifs at hc with hfull
    obtain ⟨ino, de, hi, -, -, hde, hmove⟩ := dirEntryRename_eq_ok hc
    obtain ⟨-, hdei⟩ := DirData.newDirent_eq_ok hde
    obtain ⟨hfresh, hfree⟩ := hholds.lookup_free hver hlookup
    obtain ⟨hk, -⟩ := hfree hfull
    obtain ⟨-, -, hshape⟩ := dirEntryMove_shape hver h.sound hq hdQ hk (hdei ▸ hi) hmove
    refine .inr (.inl ⟨hmaps.eq_none_iff.2 fun x e' hx hkey => ?_, ?_⟩)
    · obtain ⟨hxq, hname⟩ := Prod.mk.inj hkey
      obtain ⟨x1, x2⟩ := x
      obtain rfl : x1 = q := hxq
      rw [shape_entry hq hdQ] at hx
      exact hfresh e' (Slots.mem_iff.2 ⟨x2, hx⟩) (Dirent.matches_iff.2 hname)
    · rw [shape_info hi] at hn
      cases hn
      rw [hshape, hdei]
  · obtain ⟨hdk, hmatch⟩ := hholds.lookup_found hver hlookup
    have hdentry : (sp.shape s).entry (q, k) = some d := by rw [shape_entry hq hdQ, hdk]
    have hold := hmaps.eq_some hdentry
    rw [show entryKey (q, k) d = (q, pszDst.name) from
      Prod.ext rfl (Dirent.matches_iff.1 hmatch)] at hold
    dsimp only at hc
    split_ifs at hc with hsame
    · cases hc
      exact .inl ⟨hsame ▸ hold, rfl⟩
    · obtain ⟨sp1, hrename, hdec⟩ := Except.bind_eq_ok hc
      obtain ⟨ino, de, hi, -, -, hde, hmove⟩ := dirEntryRename_eq_ok hrename
      obtain ⟨-, hdei⟩ := DirData.newDirent_eq_ok hde
      obtain ⟨-, -, hshape⟩ := dirEntryMove_shape hver h.sound hq hdQ
        (Nat.le_of_lt (Slots.lt_of_at hdk)) (hdei ▸ hi) hmove
      obtain ⟨n', hn'⟩ := (h.shape.target hdentry).1
      have hinfo : (sp1.shape s).info d.ulInode = some n' := by
        rw [hshape, hdei]
        exact (Function.update_of_ne (Ne.symm hsame) _ _).trans hn'
      obtain ⟨inoD, hD, rfl⟩ := shape_info_eq_some hinfo
      refine .inr (.inr ⟨d.ulInode, inoD.info, hold, Ne.symm hsame, hn', ?_⟩)
      rw [shape_info hi] at hn
      cases hn
      rw [redInodeLinkDec_info hD hdec, hshape, hdei]

end Space

/-! ## Calls -/

/-- Two views of one file. -/
def Info.Same (n n' : Info) : Prop := n'.fDirectory = n.fDirectory ∧ (n'.uNLink = 0 ↔ n.uNLink = 0)

/-- The inode that a call takes a name from. -/
def Call.Takes (M : NameMap) (f : Bool) (i : ℕ) : Call → Prop
  | .unlink _ ulPInode pszName fOrphan => fOrphan = f ∧ M (ulPInode, pszName.name) = some i
  | .rename _ ulSrcPInode pszSrcName ulDstPInode pszDstName fOrphan => fOrphan = f ∧
    M (ulDstPInode, pszDstName.name) = some i ∧ M (ulSrcPInode, pszSrcName.name) ≠ some i
  | _ => False

/-- **What becomes of the inodes** in a call, the defunct orphans `m` apart. -/
structure Call.Fate (call : Call) (M : NameMap) (m : List ℕ) (fDone : Prop)
    (info info' : ℕ → Option Info) : Prop where
  kept : ∀ i n, info i = some n → i ∉ m → call ≠ .freeOrphan i →
    (fDone → ∀ f, ¬ call.Takes M f i) → ∃ n', info' i = some n' ∧ n.Same n'
  dropped : fDone → ∀ i n f, info i = some n → i ∉ m → call.Takes M f i → info' i = n.dropped f

/-- A call takes a name. -/
lemma Call.Takes.exists_name {M : NameMap} {f : Bool} {i : ℕ} {call : Call}
    (h : call.Takes M f i) : ∃ x, M x = some i := by
  cases call with
  | unlink c p pszName fOrphan => exact ⟨_, h.2⟩
  | rename c p pszSrc q pszDst fOrphan => exact ⟨_, h.2.1⟩
  | _ => exact absurd h id

lemma Info.dropped_fDirectory {n n' : Info} {fOrphan : Bool} (h : n.dropped fOrphan = some n') :
    n'.fDirectory = n.fDirectory := by
  unfold Info.dropped at h
  split_ifs at h <;> cases h <;> rfl

lemma Info.Same.refl (n : Info) : n.Same n := ⟨rfl, Iff.rfl⟩

open OrphanSpace NameVolume NameDisk

variable {s : FS} {d d' : NameDisk} {l m m' : List ℕ} {i : ℕ} {call : Call} {M : NameMap}
  {info info' : ℕ → Option Info}

namespace Call.Fate

/-- A call that is not done leaves the inodes alone. -/
lemma of_same {fDone : Prop} (hinfo : ∀ i, i ∉ m → info' i = info i)
    (hdone : fDone → ∀ f i, ¬ call.Takes M f i) : call.Fate M m fDone info info' where
  kept i n hi hm _ _ := ⟨n, by rw [hinfo i hm, hi], .refl n⟩
  dropped hd i n f _ _ htakes := absurd htakes (hdone hd f i)

/-- Defunct orphans that have been freed before do not matter. -/
lemma congr {info1 : ℕ → Option Info} {fDone : Prop} (h : call.Fate M m' fDone info1 info')
    (hinfo : ∀ i, i ∉ m → info1 i = info i) (hm : ∀ i ∈ m', i ∈ m) :
    call.Fate M m fDone info info' where
  kept i n hi hmi := h.kept i n (by rw [hinfo i hmi, hi]) fun hmem => hmi (hm i hmem)
  dropped hd i n f hi hmi := h.dropped hd i n f (by rw [hinfo i hmi, hi]) fun hmem =>
    hmi (hm i hmem)

/-- A call that changes one inode and takes no name. -/
lemma of_update {n0 : Option Info} (hinfo : info' = Function.update info i n0)
    (hi : ∀ n, info i = some n → ∃ n', n0 = some n' ∧ n.Same n')
    (htakes : ∀ f i, ¬ call.Takes M f i) : call.Fate M m True info info' where
  kept j n hj _ _ _ := by
    subst hinfo
    by_cases hji : j = i
    · subst hji
      rw [Function.update_self]
      exact hi n hj
    · rw [Function.update_of_ne hji]
      exact ⟨n, hj, .refl n⟩
  dropped _ j _ f _ _ h := absurd h (htakes f j)

/-- A call that takes a name, after it has perhaps changed other inodes. -/
lemma of_dropped {j : ℕ} {info1 : ℕ → Option Info} {n1 : Info} {f0 : Bool} (hj : info j = some n1)
    (hinfo : info' = Function.update info1 j (n1.dropped f0)) (htakes : call.Takes M f0 j)
    (honly : ∀ f k, call.Takes M f k → k = j ∧ f = f0)
    (hkept : ∀ k n, k ≠ j → info k = some n → ∃ n', info1 k = some n' ∧ n.Same n') :
    call.Fate M m True info info' where
  kept k n hk _ _ hnot := by
    have hkj : k ≠ j := by
      rintro rfl
      exact hnot trivial f0 htakes
    rw [hinfo, Function.update_of_ne hkj]
    exact hkept k n hkj hk
  dropped _ k n f hk _ h := by
    obtain ⟨rfl, rfl⟩ := honly f k h
    rw [hj] at hk
    cases hk
    rw [hinfo, Function.update_self]

end Call.Fate

/-- **What a call leaves** in place of a state with the defunct orphans `m`: some of these are
left, and the other inodes are as the call says. -/
def Call.Outcome (s : FS) (call : Call) (sp : Space) (m : List ℕ) (fDone : Prop)
    (w : OrphanSpace) : Prop :=
  ∃ m', (∃ l', Inv s w l' m') ∧ m' <:+ m ∧
    call.Fate (sp.names s) m fDone (sp.shape s).info (w.shape s).info

/-- Defunct orphans are freed before a call. -/
lemma Call.Outcome.of_freed {v v' : NameVolume} {w : OrphanSpace} {fDone : Prop}
    (hf : Freed s v l m v' m') (h : Inv s v.toOrphanSpace l m)
    (ho : call.Outcome s v'.toSpace m' fDone w) : call.Outcome s v.toSpace m fDone w := by
  obtain ⟨m2, hinv, hsuffix, hfate⟩ := ho
  rw [hf.names h] at hfate
  exact ⟨m2, hinv, hsuffix.trans hf.suffix, hfate.congr hf.node fun i hi => hf.suffix.subset hi⟩

/-- A call that only frees defunct orphans. -/
lemma Call.Outcome.freed {v v' : NameVolume} {fDone : Prop} (hf : Freed s v l m v' m')
    (hdone : fDone → ∀ f i, ¬ call.Takes (v.names s) f i) :
    call.Outcome s v.toSpace m fDone v'.toOrphanSpace :=
  ⟨m', ⟨l, hf.inv⟩, hf.suffix, .of_same hf.node hdone⟩

/-- What `coreRetry` leaves, for an operation that leaves what a call leaves. -/
lemma Call.Outcome.of_retry {α : Type} {c : Circumstances} {op : DirRoom → NameOp α}
    (h : Inv s d.toOrphanSpace l m) {r : Except RedError α}
    (hrun : NameDisk.coreRetry s c op d = (r, d'))
    (hop : ∀ (v : NameVolume) m1, Freed s d.toNameVolume l m v m1 → ∀ room,
      (op room).Ends v (fun _ v' => v'.fReadOnly = v.fReadOnly ∧
        call.Outcome s v.toSpace m1 True v'.toOrphanSpace) fun v' => Undone s v l m1 v') :
    call.Outcome s d.toSpace m (r.map (fun _ => ()) = .ok ()) d'.toOrphanSpace := by
  have hends := coreRetry_ends (W := fun _ w => call.Outcome s d.toSpace m True w) c h
    fun v m1 hf room => (hop v m1 hf room).mono (fun _ v' hv' => ⟨hv'.1, hv'.2.of_freed hf h⟩)
      fun _ hv' => hv'
  rcases hends with ⟨a, d1, hrun1, -, ⟨m', hinv, hsuffix, hfate⟩, -⟩ | ⟨e, d1, hrun1, hfail, -⟩
  · rw [hrun] at hrun1
    cases hrun1
    exact ⟨m', hinv, hsuffix, fun i n hi hm hne hnot => hfate.kept i n hi hm hne
      fun _ => hnot rfl, fun _ => hfate.dropped trivial⟩
  · rw [hrun] at hrun1
    cases hrun1
    obtain ⟨m', hf⟩ := hfail
    exact .freed hf (by simp [Except.map])

/-- A call that leaves the working state alone. -/
lemma Call.Outcome.same {fDone : Prop} {w : OrphanSpace}
    (hinv : ∃ l', Inv s w l' m) (hinfo : (w.shape s).info = (d.shape s).info)
    (hdone : fDone → ∀ f i, ¬ call.Takes (d.names s) f i) :
    call.Outcome s d.toSpace m fDone w :=
  ⟨m, hinv, List.suffix_rfl, .of_same (fun i _ => by rw [hinfo]) hdone⟩

/-- An operation on the working state of a writeable volume. -/
lemma Call.Outcome.of_working {x : NameOp Unit} (h : Inv s d.toOrphanSpace l m)
    {ret : Except RedError Unit} (hrun : whenWriteable (onWorking x) d = (ret, d'))
    (hx : ∀ r v', x d.toNameVolume = (r, v') →
      call.Outcome s d.toSpace m (r = .ok ()) v'.toOrphanSpace) :
    call.Outcome s d.toSpace m (ret = .ok ()) d'.toOrphanSpace := by
  rw [whenWriteable, Op.get_bind_run] at hrun
  split_ifs at hrun with hro
  · cases hrun
    exact .same ⟨l, h⟩ rfl fun hok => by cases hok
  · cases hrun
    exact hx _ _ rfl

/-- `RedCoreVolFreeOrphans()` frees some defunct orphans, whatever it returns. -/
lemma redCoreVolFreeOrphans_undone {v : NameVolume} (h : Inv s v.toOrphanSpace l m) (n : ℕ) :
    Undone s v l m (redCoreVolFreeOrphans s n v).2 := by
  have hundone : Undone s v l m v := ⟨m, Freed.refl h⟩
  rw [redCoreVolFreeOrphans, Op.get_bind_run]
  split_ifs with h0 hro hdef
  · exact hundone
  · exact hundone
  · exact hundone
  obtain ⟨v', hrun, hfreed⟩ := redVolFreeOrphans_run h h0
  rw [Op.bind_ok hrun, Op.get_bind_run]
  by_cases hend : v'.ulDefunctOrphanHead = INODE_INVALID
  · rw [Op.when_pos hend]
    exact ⟨_, hfreed⟩
  · rw [Op.when_neg hend]
    exact ⟨_, hfreed⟩

/-- `RedCoreFreeOrphan()` frees the inode, or it fails and leaves the volume alone. -/
lemma Call.freeOrphan_run (h : Inv s d.toOrphanSpace l m) (i : ℕ) :
    (∃ e, (Call.freeOrphan i).exec s d = (.error e, d)) ∨
      (deleteOpen = false ∧ (Call.freeOrphan i).exec s d = (.ok (), d)) ∨
      ∃ d', (Call.freeOrphan i).exec s d = (.ok (), d') ∧ i ∈ l ∧ d.fReadOnly = false ∧
        (d'.shape s).info = Function.update (d.shape s).info i none := by
  rw [Call.exec]
  by_cases hdel : deleteOpen = true
  swap
  · rw [Op.when_neg hdel]
    exact .inr (.inl ⟨by simpa using hdel, rfl⟩)
  rw [Op.when_pos hdel, whenWriteable, Op.get_bind_run]
  split_ifs with hro
  · exact .inl ⟨_, rfl⟩
  by_cases hi : i ∈ l
  · obtain ⟨v', hrun, -, -, -, hshape⟩ := coreFreeOrphan_run h hi
    refine .inr (.inr ⟨{ d with toNameVolume := v' }, ?_, hi, by simpa using hro, ?_⟩)
    · rw [onWorking, Op.zoom_run, hrun]
    · exact congrArg Shape.info hshape
  · refine .inl ⟨.EBADF, ?_⟩
    rw [onWorking, Op.zoom_run, coreFreeOrphan_error h hi]

variable (hver : redDiskLayoutIsSupported s.core.ulVersion)

include hver in
/-- **What becomes of the inodes** in a call that goes on from the state. -/
theorem Call.run_fate (h : Inv s d.toOrphanSpace l m) (hlegal : call.Legal s d)
    (honward : call.Onward) {ret : Except RedError Unit} (hrun : call.exec s d = (ret, d')) :
    call.Outcome s d.toSpace m (ret = .ok ()) d'.toOrphanSpace := by
  cases call with
  | create c p pszName uMode =>
    rcases hr : NameDisk.coreRetry s c
      (fun room => NameVolume.coreCreate s room p pszName uMode) d with ⟨r, d1⟩
    have hmap := Op.bind_pure_run (NameDisk.coreRetry s c
      fun room => NameVolume.coreCreate s room p pszName uMode) (fun _ => ()) d
    rw [hr] at hmap
    obtain ⟨rfl, rfl⟩ := Prod.mk.inj (hrun.symm.trans hmap)
    refine .of_retry h hr fun v m1 hf room => ?_
    refine (coreCreate_ends hver hf.inv (hf.hasParent h hlegal) uMode).mono
      (fun i v' hv' => ?_) fun _ hv' => hv'
    obtain ⟨hro, v1, m2, hf1, hinv1, -, hfree, hcreate⟩ := hv'
    obtain ⟨n, -, -, hinfo⟩ := Space.coreCreate_info (s := s) hcreate
    refine ⟨hro, .of_freed hf1 hf.inv ⟨m2, ⟨l, hinv1⟩, List.suffix_rfl, .of_update hinfo ?_ ?_⟩⟩
    · intro n' hn'
      obtain ⟨ino, hino, -⟩ := Space.shape_info_eq_some hn'
      rw [hfree] at hino
      cases hino
    · simp [Call.Takes]
  | link c p pszName i =>
    rw [← map_unit ret]
    refine .of_retry h hrun fun v m1 hf room => ?_
    have horphan := hf.not_isOrphan h (hlegal.2.not_isOrphan h)
    refine (coreLink_ends hver hf.inv (hf.hasParent h hlegal.1) horphan).mono
      (fun _ v' hv' => ?_) fun _ hv' => hv'
    obtain ⟨hro, hinv', -, hlink⟩ := hv'
    obtain ⟨n, hn, hinfo⟩ := Space.coreLink_info (s := s) hlink
    refine ⟨hro, m1, ⟨l, hinv'⟩, List.suffix_rfl, .of_update hinfo ?_ (by simp [Call.Takes])⟩
    intro n' hn'
    rw [hn] at hn'
    cases hn'
    refine ⟨_, rfl, rfl, ?_⟩
    obtain ⟨ino, hino, rfl⟩ := Space.shape_info_eq_some hn
    have hne : ino.info.uNLink ≠ 0 := fun h0 => horphan ⟨ino, hino, h0⟩
    simp [hne]
  | unlink c p pszName fOrphan =>
    rw [← map_unit ret]
    refine .of_retry h hrun fun v m1 hf room => ?_
    refine (coreUnlink_ends hver hf.inv fOrphan).mono (fun _ v' hv' => ?_) fun _ hv' => hv'
    obtain ⟨hro, -, hunlink, l', hinv', -⟩ := hv'
    obtain ⟨i, n, hname, hn, hinfo⟩ := Space.coreUnlink_info hver hf.inv.space hunlink
    refine ⟨hro, m1, ⟨l', hinv'⟩, List.suffix_rfl, .of_dropped hn hinfo ⟨rfl, hname⟩ ?_
      fun k n' _ hk => ⟨n', hk, .refl n'⟩⟩
    rintro f j ⟨rfl, hj⟩
    exact ⟨Option.some.inj (hj.symm.trans hname), rfl⟩
  | rename c p pszSrcName q pszDstName fOrphan =>
    rw [← map_unit ret]
    refine .of_retry h hrun fun v m1 hf room => ?_
    refine (coreRename_ends hver hf.inv (hf.hasParent h hlegal.2) fOrphan).mono
      (fun _ v' hv' => ?_) fun _ hv' => hv'
    obtain ⟨hro, -, hrename, l', hinv', -⟩ := hv'
    obtain ⟨i, n, hname, hn, hinfo⟩ := Space.coreRename_info hver hf.inv.space hrename
    refine ⟨hro, m1, ⟨l', hinv'⟩, List.suffix_rfl, ?_⟩
    have hkept (n' : Info) (hn' : (v.shape s).info i = some n') :
        ∃ n'', some { n with ulPInode := q } = some n'' ∧ n'.Same n'' := by
      rw [hn] at hn'
      cases hn'
      exact ⟨_, rfl, rfl, Iff.rfl⟩
    rcases hinfo with ⟨hsame, heq⟩ | ⟨hnone, hinfo⟩ | ⟨j, n', hj, hne, hn', hinfo⟩
    · refine .of_same (fun _ _ => by rw [heq]) ?_
      rintro - f j ⟨-, hj, hnot⟩
      exact hnot (hj ▸ hsame ▸ hname)
    · refine .of_update hinfo hkept ?_
      rintro f j ⟨-, hj, -⟩
      rw [hnone] at hj
      cases hj
    · have htakes : Call.Takes (v.names s) fOrphan j
          (.rename c p pszSrcName q pszDstName fOrphan) :=
        ⟨rfl, hj, fun heq => hne (Option.some.inj (heq.symm.trans hname))⟩
      refine .of_dropped hn' hinfo htakes ?_ fun k n1 _ hk => ?_
      · rintro f j' ⟨rfl, hj', -⟩
        exact ⟨Option.some.inj (hj'.symm.trans hj), rfl⟩
      · by_cases hki : k = i
        · subst hki
          rw [Function.update_self]
          exact hkept n1 hk
        · rw [Function.update_of_ne hki]
          exact ⟨n1, hk, .refl n1⟩
  | freeOrphan i =>
    rw [Call.exec] at hrun
    by_cases hdel : deleteOpen = true
    · rw [Op.when_pos hdel] at hrun
      refine .of_working h hrun fun r v' hx => ?_
      by_cases hi : i ∈ l
      · obtain ⟨v1, hrun1, hinv, -, -, hshape⟩ := coreFreeOrphan_run h hi
        rw [hx] at hrun1
        cases hrun1
        refine ⟨m, ⟨_, hinv⟩, List.suffix_rfl, ⟨fun j n hj _ hne _ => ?_, ?_⟩⟩
        · have hji : j ≠ i := fun heq => hne (heq ▸ rfl)
          rw [hshape]
          exact ⟨n, (Function.update_of_ne hji _ _).trans hj, .refl n⟩
        · simp [Call.Takes]
      · rw [coreFreeOrphan_error h hi] at hx
        cases hx
        exact .same ⟨l, h⟩ rfl fun hok => by cases hok
    · rw [Op.when_neg hdel] at hrun
      cases hrun
      exact .same ⟨l, h⟩ rfl (by simp [Call.Takes])
  | freeOrphans n =>
    rw [Call.exec] at hrun
    by_cases hdel : deleteOpen = true
    · rw [Op.when_pos hdel] at hrun
      cases hrun
      obtain ⟨m', hf⟩ := redCoreVolFreeOrphans_undone h n
      exact .freed hf (by simp [Call.Takes])
    · rw [Op.when_neg hdel] at hrun
      cases hrun
      exact .same ⟨l, h⟩ rfl (by simp [Call.Takes])
  | fileData i data =>
    refine .of_working h hrun fun r v' hx => ?_
    obtain ⟨r1, v1, hrun1, -, hinv⟩ := coreFileData_run h i data
    have hshape := coreFileData_shape (s := s) d.toNameVolume i data
    rw [hx] at hrun1 hshape
    cases hrun1
    exact .same ⟨l, hinv⟩ (congrArg Shape.info hshape) (by simp [Call.Takes])
  | transact =>
    rw [Call.exec, whenWriteable, Op.get_bind_run] at hrun
    split_ifs at hrun with hro
    · cases hrun
      exact .same ⟨l, h⟩ rfl fun hok => by cases hok
    · obtain ⟨d1, hrun1, hspace, -⟩ := when_transact d True
      rw [Op.when_pos trivial, hrun] at hrun1
      cases hrun1
      exact .same ⟨l, hspace ▸ h⟩ (by rw [hspace]) (by simp [Call.Takes])
  | rollback => exact absurd honward (by simp [Call.Onward])
  | remount fTransact ulFlags => exact absurd honward (by simp [Call.Onward])
  | powerLoss ulFlags => exact absurd honward (by simp [Call.Onward])

/-! ## Inodes that are found -/

/-- What is found by its name has a name. -/
lemma NameDisk.target_of_names (h : Inv s d.toOrphanSpace l m) {x : ℕ × List UInt8}
    (hx : d.names s x = some i) : d.Target s i := by
  obtain ⟨y, e, he, -, hi⟩ := (Space.names_maps h.space.shape x i).1 hx
  exact .inr ⟨y, e, he, hi⟩

/-- An inode that a path leads to is in use, and is no orphan. -/
lemma NameDisk.Target.exists_info (h : Inv s d.toOrphanSpace l m) (hi : d.Target s i) :
    ∃ n, (d.shape s).info i = some n ∧ n.uNLink ≠ 0 := by
  have hnot := hi.not_isOrphan h
  obtain ⟨ino, hino⟩ : ∃ ino, d.node i = some ino := by
    rcases hi with (rfl | ⟨ino, hino, -⟩) | ⟨x, e, he, rfl⟩
    · obtain ⟨n, hn, -⟩ := h.space.shape.root
      obtain ⟨ino, hino, -⟩ := Space.shape_info_eq_some hn
      exact ⟨ino, hino⟩
    · exact ⟨ino, hino⟩
    · obtain ⟨ino, hino, -⟩ := h.named he
      exact ⟨ino, hino⟩
  exact ⟨ino.info, Space.shape_info hino, fun h0 => hnot ⟨ino, hino, h0⟩⟩

include hver in
/-- **An inode that has been created** has a name, and the type that was asked for. -/
lemma coreCreate_target {c : Circumstances} {p : ℕ} {pszName : CString} {uMode : Mode}
    (h : Inv s d.toOrphanSpace l m) (hp : d.toSpace.HasParent p)
    (hrun : NameDisk.coreRetry s c (fun room => NameVolume.coreCreate s room p pszName uMode) d =
      (.ok i, d')) :
    d'.Target s i ∧ ∃ n, (d'.shape s).info i = some n ∧
      n.fDirectory = (FileData.new uMode).fDirectory := by
  have hop (v : NameVolume) m1 (hf : Freed s d.toNameVolume l m v m1) (room : DirRoom) :
      (NameVolume.coreCreate s room p pszName uMode).Ends v (fun i v' =>
        v'.fReadOnly = v.fReadOnly ∧ (∃ l' m', Inv s v'.toOrphanSpace l' m') ∧
          v'.names s (p, pszName.name) = some i ∧ ∃ n, (v'.shape s).info i = some n ∧
            n.fDirectory = (FileData.new uMode).fDirectory) fun v' => Undone s v l m1 v' := by
    refine (coreCreate_ends hver hf.inv (hf.hasParent h hp) uMode).mono
      (fun j v' hv' => ?_) fun _ hv' => hv'
    obtain ⟨hro, v1, m2, hf1, hinv1, -, hfree, hcreate⟩ := hv'
    obtain ⟨-, hnames⟩ := Space.coreCreate_names hver hf1.inv.space hinv1.space hfree hcreate
    obtain ⟨n, -, hdir, hinfo⟩ := Space.coreCreate_info (s := s) hcreate
    exact ⟨hro, ⟨l, m2, hinv1⟩, by rw [hnames, Function.update_self], n,
      by rw [hinfo, Function.update_self], hdir⟩
  rcases coreRetry_ends (W := fun i w => (∃ l' m', Inv s w l' m') ∧
      w.names s (p, pszName.name) = some i ∧ ∃ n, (w.shape s).info i = some n ∧
        n.fDirectory = (FileData.new uMode).fDirectory) c h hop with
    ⟨a, d1, hrun1, -, ⟨⟨l', m', hinv⟩, hname, hinfo⟩, -⟩ | ⟨e, d1, hrun1, -⟩
  · rw [hrun] at hrun1
    cases hrun1
    exact ⟨NameDisk.target_of_names hinv hname, hinfo⟩
  · rw [hrun] at hrun1
    cases hrun1

end RelianceEdge
