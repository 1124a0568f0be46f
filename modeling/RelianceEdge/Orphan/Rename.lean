import RelianceEdge.Orphan.Names

set_option relaxedAutoImplicit false
set_option autoImplicit false
set_option linter.unusedSectionVars false

/-!
# Renaming on a volume

What `CoreRename()` leaves, whether it succeeds or fails. When the source entry cannot be deleted
for lack of blocks, the destination entry has been written already; it gets its previous value
back, and the names are as before.

## Main results

* `revertEntry_run` — the revert succeeds.
* `dirEntryMove_ends`, `redDirEntryRename_ends`, `coreRename_ends` — the outcome of a call; one
  that succeeds does to the inodes what `Space.coreRename` does.
-/

namespace RelianceEdge

variable [RedConf]

open RedConf

/-- The invariant of the inodes depends on what the directories hold and on the shape only. -/
lemma Space.Inv.of_shape {s : FS} {sp sp' : Space} (h : Space.Inv s sp) (hsound : sp'.Sound s)
    (hshape : sp'.shape s = sp.shape s) : Space.Inv s sp' where
  sound := hsound
  shape := hshape ▸ h.shape
  root := hshape ▸ h.root

lemma DirData.dirEntryWrite_ok {s : FS} {d d' : DirData} {k : ℕ} {o : Option Dirent}
    (h : d.dirEntryWrite s k o = .ok d') (d1 : DirData) (o' : Option Dirent) :
    ∃ d2, d1.dirEntryWrite s k o' = .ok d2 := by
  unfold DirData.dirEntryWrite at h ⊢
  split_ifs at h ⊢ with hk
  exact ⟨_, rfl⟩

namespace NameVolume

open OrphanSpace

variable {s : FS} (hver : redDiskLayoutIsSupported s.core.ulVersion)
variable {v : NameVolume} {l m : List ℕ} {i p q j k : ℕ} {ino inoQ : FileNode} {d dQ dQ' : DirData}
  {room : DirRoom} {e de : Dirent} {dst : Option Dirent}

/-! ## The revert -/

include hver in
/-- **The revert of a rename succeeds**, and the names are as before the entry was written. -/
lemma revertEntry_run (h : Inv s v.toOrphanSpace l m) (hq : v.node q = some inoQ)
    (hd : inoQ.data = .dir dQ) (hk : k ≤ (dQ.slots s).length)
    (hwrite : dQ.dirEntryWrite s k (some de) = .ok dQ') (hdst : (v.shape s).entry (q, k) = dst)
    (hname : ∀ d, dst = some d → d.acName = de.acName) :
    ∃ v', revertEntry s q k de dst (v.put (v.setDir q dQ')) = (.ok (), v') ∧
      Undone s v l m v' := by
  have hput := (h.space.sound.holds hq hd).write hver hk hwrite
  have hshape := Space.shape_put hq hd (hput.slots_eq hver) hk
  have hsound : (v.setDir q dQ').Sound s := h.space.sound.setDir hver hput
  have htab : Tables s (v.put (v.setDir q dQ')).toOrphanSpace l m := Tables.setDir h.toTables hq dQ'
  have hq1 : (v.setDir q dQ').node q = some { inoQ with data := .dir dQ' } := Space.setDir_same hq
  -- Whatever the directory gets back, its entries are those it had.
  have hback (dQ2 : DirData) (l2 : List (Option Dirent)) (hl2 : DirData.Holds s dQ2 l2)
      (hentry : (((v.setDir q dQ').setDir q dQ2).shape s) = v.shape s) :
      Undone s v l m
        ((v.put (v.setDir q dQ')).put ((v.setDir q dQ').setDir q dQ2)) := by
    refine ⟨m, ⟨⟨Tables.setDir htab hq1 dQ2, h.space.of_shape (hsound.setDir hver hl2) hentry⟩, rfl,
      List.suffix_rfl, ?_, ?_, fun i hi hn => absurd hi hn⟩⟩
    · exact congrArg Shape.entry hentry
    · exact fun i _ => congrFun (congrArg Shape.info hentry) i
  have hmount : redInodeMountDir q (v.put (v.setDir q dQ')) = _ := redInodeMountDir_ok hq1 rfl
  rw [revertEntry, Op.bind_ok hmount]
  have hslots : dQ'.slots s = Slots.put (dQ.slots s) k de := hput.slots_eq hver
  rcases dst with _ | d
  · -- The entry was a new one; it is deleted.
    have hlt : k < (Slots.put (dQ.slots s) k de).length := by
      rw [Slots.length_put hk]
      omega
    obtain ⟨dQ2, hdelete⟩ := hput.delete_ok hver hlt
    obtain ⟨-, hfree⟩ := hput.delete hver hdelete
    refine ⟨_, ?_, hback dQ2 _ hfree ?_⟩
    · dsimp only
      rw [hdelete]
      rfl
    · rw [Space.shape_free hq1 rfl (hslots ▸ hfree.slots_eq hver), hshape]
      dsimp only
      rw [Function.update_idem, ← hdst, Function.update_eq_self]
  · -- The entry had replaced another one; that is written again.
    have heq : { de with ulInode := d.ulInode } = d := by
      have hacName := hname d rfl
      cases d
      cases de
      cases hacName
      rfl
    obtain ⟨dQ2, hwrite2⟩ := DirData.dirEntryWrite_ok hwrite dQ' (some d)
    have hk2 : k ≤ (Slots.put (dQ.slots s) k de).length := by
      rw [Slots.length_put hk]
      omega
    have hput2 := hput.write hver hk2 hwrite2
    refine ⟨_, ?_, hback dQ2 _ hput2 ?_⟩
    · dsimp only
      rw [heq, hwrite2]
      rfl
    · rw [Space.shape_put hq1 rfl (hslots ▸ hput2.slots_eq hver) (hslots ▸ hk2), hshape]
      dsimp only
      rw [Function.update_idem, ← hdst, Function.update_eq_self]

/-! ## The call -/

include hver in
/-- **The move of an entry** succeeds, or is reverted. -/
lemma dirEntryMove_ends (h : Inv s v.toOrphanSpace l m) (hq : v.node q = some inoQ)
    (hd : inoQ.data = .dir dQ) (hk : k ≤ (dQ.slots s).length)
    (hdst : (v.shape s).entry (q, k) = dst) (hname : ∀ d, dst = some d → d.acName = de.acName)
    (he : (v.shape s).entry (p, j) = some e) (hino : e.ulInode = de.ulInode)
    (hne : (q, k) ≠ (p, j)) :
    (dirEntryMove s room p j q k de dst).Ends v
      (fun _ v' => v.toSpace.dirEntryMove s p j q k de = .ok v'.toSpace ∧
        Tables s v'.toOrphanSpace l m ∧ v'.fReadOnly = v.fReadOnly)
      fun v' => Undone s v l m v' := by
  have hundone : Undone s v l m v := ⟨m, Freed.refl h⟩
  refine .run_bind (redInodeMountDir_ok hq hd) (.ofExcept_bind (fun dQ' hspend => ?_)
    fun _ _ => hundone)
  have hwrite := DirRoom.spend_eq_ok hspend
  have hput := (h.space.sound.holds hq hd).write hver hk hwrite
  have hshape := Space.shape_put hq hd (hput.slots_eq hver) hk
  have hsound : (v.setDir q dQ').Sound s := h.space.sound.setDir hver hput
  have htab : Tables s (v.put (v.setDir q dQ')).toOrphanSpace l m := Tables.setDir h.toTables hq dQ'
  -- The source entry is still where it was.
  have he1 : ((v.setDir q dQ').shape s).entry (p, j) = some e := by
    rw [hshape]
    exact (Function.update_of_ne hne.symm _ _).trans he
  obtain ⟨inoP, dP, hp, hdP⟩ : ∃ inoP dP, (v.setDir q dQ').node p = some inoP ∧
      inoP.data = .dir dP := by
    refine Space.exists_dir (s := s) ?_
    obtain ⟨n, hn, hdir⟩ := h.space.shape.owner he
    exact ⟨n, by rw [hshape]; exact hn, hdir⟩
  have hmount : redInodeMountDir p (v.put (v.setDir q dQ')) = _ := redInodeMountDir_ok hp hdP
  refine .run_bind rfl (.run_bind hmount ?_)
  have hslot : Slots.at (dP.slots s) j = some e := by rw [← Space.shape_entry hp hdP, he1]
  obtain ⟨dP', hdelete⟩ := (hsound.holds hp hdP).delete_ok hver (Slots.lt_of_at hslot)
  dsimp only
  rw [hdelete]
  by_cases hroom : room.fDelete
  · rw [show DirRoom.spend room.fDelete (.ok dP' : Except RedError DirData) = .ok dP'
      from if_pos hroom]
    refine .ok rfl ⟨?_, ?_, rfl⟩
    · rw [Space.dirEntryMove, Space.mountDir_of_node hq hd]
      change dQ.dirEntryWrite s k (some de) >>= _ = _
      rw [hwrite]
      change (v.setDir q dQ').mountDir p >>= _ = _
      rw [Space.mountDir_of_node hp hdP]
      change dP.redDirEntryDelete s j >>= _ = _
      rw [hdelete]
      rfl
    · have htab2 : Tables s ((v.put (v.setDir q dQ')).put
          ((v.setDir q dQ').setDir p dP')).toOrphanSpace l m := Tables.setDir htab hp dP'
      obtain ⟨ino, hI, hlink, -⟩ := h.named he
      have hinfo : (((v.setDir q dQ').setDir p dP').shape s).info de.ulInode = some ino.info := by
        rw [Space.shape_setDir hp hdP, hshape, ← hino, Space.shape_info hI]
      obtain ⟨ino2, hI2, heq⟩ := Space.shape_info_eq_some hinfo
      have hlink2 : ino2.uNLink ≠ 0 := (congrArg Info.uNLink heq).trans_ne hlink
      exact Tables.links htab2 hI2 hlink2 hlink2
  · rw [show DirRoom.spend room.fDelete (.ok dP' : Except RedError DirData) = .error .ENOSPC from
      if_neg hroom]
    obtain ⟨v', hrevert, hundone'⟩ := revertEntry_run hver h hq hd hk hwrite hdst hname
    exact .error (Op.bind_ok hrevert) hundone'

include hver in
/-- The move of an entry with its checks. -/
lemma dirEntryRename_ends (h : Inv s v.toOrphanSpace l m) (hq : v.node q = some inoQ)
    (hd : inoQ.data = .dir dQ) (hk : k ≤ (dQ.slots s).length)
    (hdst : (v.shape s).entry (q, k) = dst) {pszName : CString}
    (hmatch : ∀ d, dst = some d → d.matches pszName) (he : (v.shape s).entry (p, j) = some e)
    (hne : (q, k) ≠ (p, j)) :
    (dirEntryRename s room p j e.ulInode q k dst pszName).Ends v
      (fun _ v' => v.toSpace.dirEntryRename s p j e.ulInode q k dst pszName = .ok v'.toSpace ∧
        Tables s v'.toOrphanSpace l m ∧ v'.fReadOnly = v.fReadOnly)
      fun v' => Undone s v l m v' := by
  have hundone : Undone s v l m v := ⟨m, Freed.refl h⟩
  refine .run_bind rfl (.bind' (redInodeMount_ends e.ulInode) ?_ fun v' hv' => hv' ▸ hundone)
  rintro ino _ ⟨hI, rfl⟩
  refine .ofExcept_bind (fun r hreplaced => .ofExcept_bind (fun r' hcyclic => ?_)
    fun _ _ => hundone) fun _ _ => hundone
  refine .ofExcept_bind (fun de hde => ?_) fun _ _ => hundone
  obtain ⟨hname, hino⟩ := DirData.newDirent_eq_ok hde
  have hsame (d : Dirent) (hd : dst = some d) : d.acName = de.acName := by
    rw [hname]
    exact beq_iff_eq.1 (hmatch d hd)
  refine (dirEntryMove_ends hver h hq hd hk hdst hsame he hino.symm hne).mono
    (fun _ v' hv' => ⟨?_, hv'.2⟩) fun _ hv' => hv'
  have hrest : (DirData.newDirent pszName e.ulInode >>= fun de =>
      v.toSpace.dirEntryMove s p j q k de) = .ok v'.toSpace := by
    rw [hde]
    exact hv'.1
  -- The checks have been passed.
  have hcheck : (if ino.data.fDirectory then
      v.toSpace.dirCyclicRenameCheck s e.ulInode q >>= fun _ =>
        DirData.newDirent pszName e.ulInode >>= fun de => v.toSpace.dirEntryMove s p j q k de
      else DirData.newDirent pszName e.ulInode >>= fun de =>
        v.toSpace.dirEntryMove s p j q k de) = .ok v'.toSpace := by
    by_cases hdir : ino.data.fDirectory = true
    · rw [if_pos hdir] at hcyclic ⊢
      rw [hcyclic]
      exact hrest
    · rw [if_neg hdir]
      exact hrest
  rw [Space.dirEntryRename, Space.mount, hI]
  rcases dst with _ | d
  · exact hcheck
  · change v.toSpace.mountReplaced ino.data.fDirectory d.ulInode >>= _ = _
    dsimp only at hreplaced
    rw [hreplaced]
    exact hcheck

/-- The equation of `CoreRename()` over the inodes, once `RedDirEntryRename()` has succeeded. -/
def Renamed (s : FS) (sp sp' : Space) (p : ℕ) (pszSrcName : CString) (q : ℕ) (pszDstName : CString)
    (replaced : Option ℕ) : Prop :=
  ∀ fOrphan, (!deleteOpen && fOrphan) = false → sp.coreRename s p pszSrcName q pszDstName fOrphan =
    replaced.elim (.ok sp') fun i => sp'.redInodeLinkDec i fOrphan

include hver in
/-- **`RedDirEntryRename()`.** -/
lemma redDirEntryRename_ends (h : Inv s v.toOrphanSpace l m) {pszSrcName pszDstName : CString} :
    (redDirEntryRename s room p pszSrcName q pszDstName).Ends v
      (fun r v' => Renamed s v.toSpace v'.toSpace p pszSrcName q pszDstName r ∧
        Tables s v'.toOrphanSpace l m ∧ v'.fReadOnly = v.fReadOnly ∧ ∀ i, r = some i → ∃ k e ino,
          (v.shape s).entry (q, k) = some e ∧ e.matches pszDstName ∧ e.ulInode = i ∧
          v'.node i = some ino ∧ ino.uNLink ≠ 0 ∧ i ≠ INODE_INVALID)
      fun v' => Undone s v l m v' := by
  have hundone : Undone s v l m v := ⟨m, Freed.refl h⟩
  rw [redDirEntryRename]
  refine .bind' (redInodeMountDir_ends p) ?_ fun v' hv' => hv' ▸ hundone
  rintro ⟨inoP, dP⟩ _ ⟨hp, hdP, rfl⟩
  refine .bind' (redInodeMountDir_ends q) ?_ fun v' hv' => hv' ▸ hundone
  rintro ⟨inoQ, dQ⟩ _ ⟨hq, hdQ, rfl⟩
  dsimp only at hp hdP hq hdQ ⊢
  by_cases hdot : isDotOrDotDot pszDstName (redNameLen pszDstName) = true
  · rw [if_pos hdot]
    exact .fail hundone
  rw [if_neg hdot]
  refine .ofExcept_bind (fun r hsrc => ?_) fun _ _ => hundone
  obtain ⟨_ | src, j⟩ := r
  · exact .fail hundone
  refine .ofExcept_bind (fun r hlookup => ?_) fun _ _ => hundone
  obtain ⟨hj, -⟩ := (h.space.sound.holds hp hdP).lookup_found hver hsrc
  have he : (v.shape s).entry (p, j) = some src := by rw [Space.shape_entry hp hdP, hj]
  have hholds := h.space.sound.holds hq hdQ
  -- The function over the inodes comes to the same point.
  have hfirst (fOrphan : Bool) (hparam : (!deleteOpen && fOrphan) = false) :
      v.toSpace.coreRename s p pszSrcName q pszDstName fOrphan = r.1.elim
        (if r.2 = DIR_INDEX_INVALID then .error .ENOSPC
          else v.toSpace.dirEntryRename s p j src.ulInode q r.2 none pszDstName)
        fun d => if src.ulInode = d.ulInode then .ok v.toSpace
          else v.toSpace.dirEntryRename s p j src.ulInode q r.2 (some d) pszDstName >>= fun sp =>
            sp.redInodeLinkDec d.ulInode fOrphan := by
    rw [Space.coreRename, if_neg (by rw [hparam]; exact Bool.false_ne_true),
      Space.mountDir_of_node hp hdP, Space.mountDir_of_node hq hdQ]
    change (if isDotOrDotDot pszDstName (redNameLen pszDstName) then _ else _) = _
    rw [if_neg hdot]
    rw [hsrc]
    change dQ.redDirEntryLookup s pszDstName >>= _ = _
    rw [hlookup]
    obtain ⟨_ | d, k⟩ := r
    · rfl
    · rfl
  have hplace {k : ℕ} {o : Option Dirent} (ho : (v.shape s).entry (q, k) = o)
      (hsame : ∀ d, o = some d → src.ulInode ≠ d.ulInode) : (q, k) ≠ (p, j) := by
    intro heq
    rw [heq, he] at ho
    exact hsame src ho.symm rfl
  obtain ⟨_ | d, k⟩ := r
  · dsimp only [Option.elim_none] at hfirst ⊢
    by_cases hfull : k = DIR_INDEX_INVALID
    · rw [if_pos hfull]
      exact .fail hundone
    obtain ⟨hk, -, hnone, -⟩ := (hholds.lookup_free hver hlookup).2 hfull
    have hdst : (v.shape s).entry (q, k) = none := by rw [Space.shape_entry hq hdQ, hnone]
    rw [if_neg hfull]
    refine .bind (dirEntryRename_ends hver h hq hdQ hk hdst (by simp) he
      (hplace hdst (by simp))) fun _ v' hv' =>
        .ok rfl ⟨fun fOrphan hparam => ?_, hv'.2.1, hv'.2.2, by simp⟩
    rw [hfirst fOrphan hparam, if_neg hfull]
    exact hv'.1
  · obtain ⟨hdk, hmatch⟩ := hholds.lookup_found hver hlookup
    have hdst : (v.shape s).entry (q, k) = some d := by rw [Space.shape_entry hq hdQ, hdk]
    dsimp only [Option.elim_some] at hfirst ⊢
    by_cases hsame : src.ulInode = d.ulInode
    · rw [if_pos hsame]
      refine .ok rfl ⟨fun fOrphan hparam => ?_, h.toTables, rfl, by simp⟩
      rw [hfirst fOrphan hparam, if_pos hsame]
      rfl
    rw [if_neg hsame]
    have hk := Nat.le_of_lt (Slots.lt_of_at hdk)
    refine .bind (dirEntryRename_ends hver h hq hdQ hk hdst ?_ he (hplace hdst ?_)) fun _ v' hv' =>
      .ok rfl ⟨fun fOrphan hparam => ?_, hv'.2.1, hv'.2.2, ?_⟩
    · rintro _ ⟨⟩
      exact hmatch
    · rintro _ ⟨⟩
      exact hsame
    · rw [hfirst fOrphan hparam, if_neg hsame, hv'.1]
      rfl
    · rintro _ ⟨⟩
      obtain ⟨ino, hI, hlink, hvalid⟩ := h.named hdst
      obtain ⟨inoS, de, hS, -, -, hde, hmove⟩ := Space.dirEntryRename_eq_ok hv'.1
      obtain ⟨-, hdei⟩ := DirData.newDirent_eq_ok hde
      obtain ⟨-, -, hshape⟩ :=
        Space.dirEntryMove_shape hver h.space.sound hq hdQ hk (hdei ▸ hS) hmove
      have hinfo : (v'.shape s).info d.ulInode = some ino.info := by
        rw [hshape, hdei]
        exact (Function.update_of_ne (Ne.symm hsame) _ _).trans (Space.shape_info hI)
      obtain ⟨ino', hI', heq⟩ := Space.shape_info_eq_some hinfo
      exact ⟨k, d, ino', hdst, hmatch, rfl, hI', (congrArg Info.uNLink heq).trans_ne hlink, hvalid⟩

include hver in
/-- **`CoreRename()`.** -/
theorem coreRename_ends (h : Inv s v.toOrphanSpace l m) (hq : v.toSpace.HasParent q)
    {pszSrcName pszDstName : CString} (fOrphan : Bool) :
    (coreRename s room p pszSrcName q pszDstName fOrphan).Ends v
      (fun _ v' => v'.fReadOnly = v.fReadOnly ∧
        (v'.shape s = v.shape s ∨ Shape.Step (v.shape s) (v'.shape s)) ∧
        v.toSpace.coreRename s p pszSrcName q pszDstName fOrphan = .ok v'.toSpace ∧
        ∃ l', Inv s v'.toOrphanSpace l' m ∧ Pushed (v.shape s) q pszDstName fOrphan l l')
      fun v' => Undone s v l m v' := by
  have hundone : Undone s v l m v := ⟨m, Freed.refl h⟩
  rw [coreRename]
  by_cases hparam : (!deleteOpen && fOrphan) = true
  · rw [if_pos hparam]
    exact .fail hundone
  rw [if_neg hparam]
  refine .bind' (redInodeMountDir_ends p) ?_ fun v' hv' => hv' ▸ hundone
  rintro _ _ ⟨-, -, rfl⟩
  refine .run_bind rfl (.bind' (redInodeMountDir_ends q) ?_
    fun v' hv' => hv' ▸ ⟨m, Freed.branched h⟩)
  rintro _ _ ⟨-, -, rfl⟩
  refine .bind' (redDirEntryRename_ends (v := { v with fBranched := true }) hver h) ?_
    fun _ ⟨m', hfreed⟩ => ⟨m', (Freed.branched h).trans hfreed⟩
  rintro r v1 ⟨hrenamed, htab, hro, hnamed⟩
  replace hrenamed := hrenamed fOrphan (by simpa using hparam)
  have hdone {v' : NameVolume} {l' : List ℕ} (hspace : v.toSpace.coreRename s p pszSrcName q
      pszDstName fOrphan = .ok v'.toSpace) (htab' : Tables s v'.toOrphanSpace l' m) :
      (v'.shape s = v.shape s ∨ Shape.Step (v.shape s) (v'.shape s)) ∧
        Inv s v'.toOrphanSpace l' m := by
    obtain ⟨hsound, hstep, -⟩ :=
      Space.coreRename_step hver h.space.sound h.space.shape hq hspace
    rcases hstep with hsame | hstep
    · exact ⟨.inl (by rw [hsame]), htab', hsame ▸ h.space⟩
    · exact ⟨.inr hstep, htab', h.space.of_step hsound hstep⟩
  rcases r with _ | i
  · obtain ⟨hstep, hinv⟩ := hdone hrenamed htab
    exact .ok rfl ⟨hro, hstep, hrenamed, l, hinv, .inl rfl⟩
  · obtain ⟨k, e, ino, he, hmatch, rfl, hI, hlink, hvalid⟩ := hnamed i rfl
    obtain ⟨v', l', hrun, hdec, hro', htab', hl'⟩ :=
      redInodeLinkDec_run htab hI hlink hvalid fOrphan
    obtain ⟨hstep, hinv⟩ := hdone (hrenamed.trans hdec) htab'
    refine .ok hrun ⟨hro'.trans hro, hstep, hrenamed.trans hdec, l', hinv, ?_⟩
    rcases hl' with hl' | ⟨hl', horphan, -⟩
    · exact .inl hl'
    · exact .inr ⟨k, e, he, hmatch, horphan, hl'⟩

end NameVolume

end RelianceEdge
