import RelianceEdge.Mount.Device
import RelianceEdge.Mount.ReadOnly

set_option relaxedAutoImplicit false
set_option autoImplicit false
set_option linter.unusedSectionVars false

/-!
# Mounting read-only

A read-only mount and whatever follows it should leave the volume alone. The mount itself reads the
master block and the metaroots only, but then turns to the lists of orphans without asking whether
the volume is read-only.

## Main definitions

* `FS.storedMetaroot` — the metaroot that a mount selects.
* `Metaroot.orphansSettled` — its lists of orphans leave the mount nothing to do.
* `FS.Untouched` — nothing has been modified, in memory or on the device.

## Main results

* `readOnlyMount_untouched_iff` — a read-only mount leaves the volume untouched exactly when there
  was nothing to do for the orphans.
-/

namespace RelianceEdge

variable [RedConf]

open RedConf

/-- The metaroot that a mount selects on the device. -/
def FS.storedMetaroot (s : FS) : Option Metaroot :=
  match chooseMetaroot (s.disk BLOCK_NUM_FIRST_METAROOT)
    (s.disk (BLOCK_NUM_FIRST_METAROOT + 1)) with
  | .ok bMR => some (s.disk (BLOCK_NUM_FIRST_METAROOT + bMR.toNat)).metaroot
  | .error _ => none

/-- **The lists of orphans leave a mount nothing to do**: both are empty, or there are defunct
orphans only and the mount is told to skip them. -/
def Metaroot.orphansSettled (mr : Metaroot) (ulFlags : MountFlags) : Prop :=
  if mr.ulDefunctOrphanHead = INODE_INVALID then
    mr.ulOrphanHead = INODE_INVALID ∧ mr.ulOrphanTail = INODE_INVALID
  else ulFlags.fSkipDelete = true ∧ mr.ulOrphanHead = INODE_INVALID

/-- **Nothing has been modified** since the state `s`: the working metaroot is the committed one,
the volume is not branched, no buffer is dirty, and the device has been asked to write nothing. -/
structure FS.Untouched (s s' : FS) : Prop where
  metaroot : s'.mr = s'.mrCommitted
  branched : s'.core.fBranched = false
  clean : s'.Clean
  disk : s'.disk = s.disk
  history : s'.history = s.history

/-- What reading the master block and the metaroots leaves. -/
structure Still (s s' : FS) : Prop where
  clean : s'.Clean
  branched : s'.core.fBranched = s.core.fBranched
  disk : s'.disk = s.disk
  history : s'.history = s.history

/-- From a clean cache, the run leaves `Still`. -/
def Stills (s s' : FS) : Prop := s.Clean → Still s s'

section

variable {s s' : FS} {ulFlags : MountFlags}

instance : IsPreorder FS Stills where
  refl _ h := ⟨h, rfl, rfl, rfl⟩
  trans _ _ _ h h' hc := by
    have h1 := h hc
    have h2 := h' h1.clean
    exact ⟨h2.clean, h2.branched.trans h1.branched, h2.disk.trans h1.disk,
      h2.history.trans h1.history⟩

lemma Reads.still {α : Type} {x : Red α} (h : x.Respects Reads) : x.Respects Stills :=
  h.mono fun _ _ hi hc => ⟨(hi hc).clean, (hi hc).branched, (hi hc).disk, (hi hc).history⟩

/-! ## The master block and the metaroots -/

lemma still_redVolInitBlockLayout : redVolInitBlockLayout.Respects Stills := by
  have hcore : ∀ f : FS → CoreVolume, (∀ s : FS, (f s).fBranched = s.core.fBranched) →
      (Op.modify fun s => { s with core := f s } : Red Unit).Respects Stills :=
    fun f hf => .modify fun s h => ⟨h, hf s, rfl, rfl⟩
  have hrest : (do
      let s ← .get
      if UINT32_MAX < s.core.ulInodeCount * 2 + s.core.ulInodeTableStartBN then .fail .EINVAL
      else
        let ulFirstAllocableBN := s.core.ulInodeTableStartBN + s.core.ulInodeCount * 2
        .modify fun s => { s with core := { s.core with ulFirstAllocableBN := ulFirstAllocableBN } }
        if s.vol.ulBlockCount < ulFirstAllocableBN then .fail .EINVAL
        else
          .modify fun s => { s with vol := { s.vol with
            ulBlocksAllocable := s.vol.ulBlockCount - ulFirstAllocableBN } } : Red Unit).Respects
      Stills :=
    .get_bind fun _ => .ite (.fail _) <| .bind (hcore _ fun _ => rfl) fun _ => .ite (.fail _) <|
      .modify fun _ h => ⟨h, rfl, rfl, rfl⟩
  exact .get_bind fun _ => .ite (.fail _) <| .bind (hcore _ fun _ => rfl) fun _ =>
    .ite (.bind (hcore _ fun _ => rfl) fun _ => hrest) <|
      .bind (hcore _ fun _ => rfl) fun _ => .ite (.bind (.fail _) fun _ => hrest)
        (.bind (hcore _ fun _ => rfl) fun _ => hrest)

lemma still_redVolMountMaster (ulFlags : MountFlags) :
    (redVolMountMaster ulFlags).Respects Stills := by
  refine .bind (Reads.still (reads_redBufferGet _ _ _)) fun i => .get_bind fun s =>
    .bind (.attempt (.ite (.fail _) ?_)) fun r =>
      .bind (Reads.still (reads_redBufferDiscard i)) fun _ => .ofExcept _
  exact .bind (.modify fun _ h => ⟨h, rfl, rfl, rfl⟩) fun _ =>
    .bind still_redVolInitBlockLayout fun _ => .bind (.modify fun _ h => ⟨h, rfl, rfl, rfl⟩)
      fun _ => .ite (.fail _) (.pure _)

/-- A mount of the master block that succeeds takes the mode of the volume from the flags. -/
lemma redVolMountMaster_readOnly (h : redVolMountMaster ulFlags s = (.ok (), s')) :
    s'.vol.fReadOnly = ulFlags.fReadOnly := by
  obtain ⟨i, s1, -, h⟩ := Op.bind_eq_ok h
  obtain ⟨s2, _, hx, hd⟩ := Op.attempt_bind_eq_ok h
  have hvol : (redBufferDiscard i s2).2.vol = s2.vol := by
    unfold redBufferDiscard
    rw [Op.get_bind_run]
    by_cases hb : s2.buf.bufferToIdx i = true
    · rw [Op.when_pos hb]
      rfl
    · rw [Op.when_neg hb]
      rfl
  rw [hd] at hvol
  rw [hvol]
  by_cases hu : s1.masterIsUnsupported (s1.buf.pbBlkBuf i).asMaster = true
  · rw [if_pos hu] at hx
    cases hx
  rw [if_neg hu, Op.modify_bind_run] at hx
  obtain ⟨_, s3, -, hx⟩ := Op.bind_eq_ok hx
  rw [Op.modify_bind_run] at hx
  split_ifs at hx
  · cases hx
  · cases hx
    rfl

lemma FS.storedMetaroot_eq {bMR : Bool} (h : chooseMetaroot (s.disk BLOCK_NUM_FIRST_METAROOT)
    (s.disk (BLOCK_NUM_FIRST_METAROOT + 1)) = .ok bMR) :
    s.storedMetaroot = some (s.disk (BLOCK_NUM_FIRST_METAROOT + bMR.toNat)).metaroot := by
  unfold FS.storedMetaroot
  rw [h]

/-- A mount that succeeds selects a metaroot; what it does then about the orphans starts from a
state in which nothing has been modified. -/
lemma redVolMount_eq_ok (hc : s.Clean) (h : redVolMount ulFlags s = (.ok (), s')) :
    ∃ s1 mr, s.storedMetaroot = some mr ∧ s1.mr = mr ∧ s1.mrCommitted = mr ∧ Still s s1 ∧
      s1.vol.fMounted = true ∧ s1.vol.fReadOnly = ulFlags.fReadOnly ∧
      (Op.when (deleteOpen = true) (mountOrphans ulFlags)) s1 = (.ok (), s') := by
  unfold redVolMount at h
  rw [Op.attempt_bind_run] at h
  set x : Red Unit := do
    redVolInitBlockGeometry
    redVolMountMaster ulFlags
    redVolMountMetaroot
    .when deleteOpen (mountOrphans ulFlags) with hx
  rcases hr : x s with ⟨e | u, s2⟩
  · rw [hr] at h
    simp only [Op.get_bind_run, Op.attempt_bind_run] at h
    cases h
  · rw [hr] at h
    cases h
    rw [hx, redVolInitBlockGeometry, Op.modify_bind_run] at hr
    obtain ⟨_, sm, hm, hr⟩ := Op.bind_eq_ok hr
    obtain ⟨_, s1, hmr, hr⟩ := Op.bind_eq_ok hr
    have hstill : Still s sm := by
      have := still_redVolMountMaster ulFlags
        { s with vol := { s.vol with ulBlockCount := s.ulDevBlocks } } hc
      rw [hm] at this
      exact ⟨this.clean, this.branched, this.disk, this.history⟩
    obtain ⟨bMR, hch, rfl⟩ := redVolMountMetaroot_eq_ok hmr
    rw [hstill.disk] at hch
    have hro : sm.vol.fReadOnly = ulFlags.fReadOnly := redVolMountMaster_readOnly hm
    refine ⟨sm.selected bMR, _, FS.storedMetaroot_eq hch, ?_, ?_, ?_, rfl, hro, hr⟩
    · rw [← hstill.disk]
      rfl
    · rw [← hstill.disk]
      rfl
    · exact ⟨hstill.clean, hstill.branched, hstill.disk, hstill.history⟩

/-! ## The orphans -/

/-- Without defunct orphans there is nothing to free. -/
lemma redVolFreeOrphans_none (h : s.mr.ulDefunctOrphanHead = INODE_INVALID) {n : ℕ} (hn : 0 < n) :
    redVolFreeOrphans n s = (.ok (), s) := by
  obtain ⟨n, rfl⟩ := Nat.exists_eq_succ_of_ne_zero hn.ne'
  have hmount : redInodeMount FTYPE_ANY false (s, { CInode.zero with ulInode := INODE_INVALID }) =
      (.error .EBADF, (s, { CInode.zero with ulInode := INODE_INVALID })) := by
    have hv : s.inodeIsValid INODE_INVALID = false := by simp [FS.inodeIsValid, INODE_INVALID,
      INODE_FIRST_VALID]
    unfold redInodeMount
    rw [getCInode_bind_run, getFS_bind_run, if_pos (by simp [hv])]
    rfl
  have hfirst : freeFirstOrphan s = (.error .EBADF, s) := by
    unfold freeFirstOrphan
    rw [Op.get_bind_run, h]
    refine Op.bind_error ?_
    unfold withCInode
    rw [Op.bind_error hmount]
  have hloop : freeOrphansLoop (n + 1) s = (.error .EBADF, s) := Op.bind_error hfirst
  unfold redVolFreeOrphans
  rw [if_neg (by omega), Op.attempt_bind_run, hloop]
  simp only
  rw [Op.get_bind_run, if_neg (by simp), if_neg (by simp [h])]
  rfl

/-- Changing a bit of the imap marks the volume as branched. -/
lemma redImapBlockSet_branched {b : ℕ} {f : Bool} (h : redImapBlockSet b f s = (.ok (), s')) :
    s'.core.fBranched = true := by
  unfold redImapBlockSet at h
  rw [Op.get_bind_run] at h
  by_cases h1 : (!s.hasImapBit b) = true
  · rw [if_pos h1] at h
    cases h
  rw [if_neg h1] at h
  by_cases h2 : s.freeCountForbids b f = true
  · rw [if_pos h2] at h
    cases h
  rw [if_neg h2, Op.attempt_bind_run, Op.modify_bind_run] at h
  have hs := congrArg Prod.snd h
  rw [← show _ = s' from hs]
  exact (respects_redImapBlockSet_tail (I := SameLists) b f _ _).branched rfl

lemma inodeFreeSlot_branched {n : ℕ} (h : inodeFreeSlot n s = (.ok (), s')) :
    s'.core.fBranched = true := by
  have hset : ∀ {s1 : FS} {w : Bool}, inodeBitSet n w false s1 = (.ok (), s') →
      s'.core.fBranched = true := fun {s1 w} h => by
    unfold inodeBitSet at h
    rw [Op.get_bind_run] at h
    split_ifs at h
    · cases h
    · exact redImapBlockSet_branched h
  unfold inodeFreeSlot at h
  rw [Op.get_bind_run] at h
  obtain ⟨f0, s1, -, h⟩ := Op.bind_eq_ok h
  obtain ⟨f1, s2, -, h⟩ := Op.bind_eq_ok h
  cases f0 <;> cases f1
  · cases h
  · exact hset h
  · exact hset h
  · cases h

/-- Freeing an inode marks the volume as branched. -/
lemma redInodeFree_branched {t t' : FS × CInode} (h : redInodeFree t = (.ok (), t')) :
    t'.1.core.fBranched = true := by
  obtain ⟨s, ci⟩ := t
  unfold redInodeFree at h
  obtain ⟨_, _, hci, h⟩ := Op.bind_eq_ok h
  cases hci
  obtain ⟨_, _, hs, h⟩ := Op.bind_eq_ok h
  cases hs
  rcases hp : ci.pInodeBuf with _ | i
  · simp only [hp] at h
    cases h
  simp only [hp] at h
  split_ifs at h
  · cases h
  obtain ⟨_, t1, -, h⟩ := Op.bind_eq_ok h
  obtain ⟨_, t2, -, h⟩ := Op.bind_eq_ok h
  rw [Op.attempt_bind_run] at h
  obtain ⟨_, t3, hm, h⟩ := Op.bind_eq_ok h
  cases hm
  obtain ⟨_, t4, hr, h⟩ := Op.bind_eq_ok h
  rw [Op.ofExcept_run, Prod.mk.injEq] at hr
  obtain ⟨hr, rfl⟩ := hr
  obtain ⟨_, t5, hg, h⟩ := Op.bind_eq_ok h
  cases hg
  have hb : (inodeFreeSlot ci.ulInode t2.1).2.core.fBranched = true :=
    inodeFreeSlot_branched (Prod.ext hr rfl)
  split_ifs at h
  · cases h
  · cases h
    exact hb

lemma redInodeFreeOrphan_branched {t t' : FS × CInode} (h : redInodeFreeOrphan t = (.ok (), t')) :
    t'.1.core.fBranched = true := by
  unfold redInodeFreeOrphan at h
  obtain ⟨_, _, -, h⟩ := Op.bind_eq_ok h
  obtain ⟨_, _, -, h⟩ := Op.bind_eq_ok h
  obtain ⟨_, _, -, h⟩ := Op.bind_eq_ok h
  split_ifs at h
  · cases h
  · cases h
  unfold inodeDelete at h
  obtain ⟨_, _, -, h⟩ := Op.bind_eq_ok h
  obtain ⟨_, _, -, h⟩ := Op.bind_eq_ok h
  split_ifs at h
  · cases h
  obtain ⟨_, _, -, h⟩ := Op.bind_eq_ok h
  obtain ⟨_, _, -, h⟩ := Op.bind_eq_ok h
  exact redInodeFree_branched h

lemma withCInode_eq_ok {α : Type} {n : ℕ} {x : RedI α} {a : α}
    (h : withCInode n x s = (.ok a, s')) :
    ∃ ci, x (s, { CInode.zero with ulInode := n }) = (.ok a, (s', ci)) := by
  unfold withCInode at h
  rw [Prod.mk.injEq] at h
  obtain ⟨h1, rfl⟩ := h
  exact ⟨_, Prod.ext h1 rfl⟩

lemma freeFirstOrphan_branched (h : freeFirstOrphan s = (.ok (), s')) :
    s'.core.fBranched = true := by
  unfold freeFirstOrphan at h
  rw [Op.get_bind_run] at h
  obtain ⟨n, s1, h1, h⟩ := Op.bind_eq_ok h
  cases h
  obtain ⟨ci, h1⟩ := withCInode_eq_ok h1
  obtain ⟨_, t1, -, h1⟩ := Op.bind_eq_ok h1
  obtain ⟨_, t2, -, h1⟩ := Op.bind_eq_ok h1
  obtain ⟨_, t3, ho, h1⟩ := Op.bind_eq_ok h1
  rw [Op.pure_run, Prod.mk.injEq] at h1
  have := redInodeFreeOrphan_branched ho
  rw [h1.2] at this
  exact this

/-- Freeing the defunct orphans, when there are any, marks the volume as branched. -/
lemma redVolFreeOrphans_branched (h : s.mr.ulDefunctOrphanHead ≠ INODE_INVALID) {n : ℕ}
    (ho : redVolFreeOrphans n s = (.ok (), s')) : s'.core.fBranched = true := by
  unfold redVolFreeOrphans at ho
  split_ifs at ho with hn
  · cases ho
  obtain ⟨n, rfl⟩ := Nat.exists_eq_succ_of_ne_zero hn
  rw [Op.attempt_bind_run] at ho
  rcases hf : freeFirstOrphan s with ⟨e | u, s1⟩
  · -- The first orphan cannot be freed: it stays the head, and the call fails.
    have hl : freeOrphansLoop (n + 1) s = (.error e, s1) := Op.bind_error hf
    have hd : s1.mr.ulDefunctOrphanHead = s.mr.ulDefunctOrphanHead := by
      have hr := respects_freeDefunctHead (I := SameLists) s.mr.ulDefunctOrphanHead s
      unfold freeFirstOrphan at hf
      rw [Op.get_bind_run, Op.bind_run] at hf
      rcases hw : (withCInode s.mr.ulDefunctOrphanHead do
          redInodeMount FTYPE_ANY false
          let ulNextInode := (← inodeBuf).ulNextOrphan
          redInodeFreeOrphan
          pure ulNextInode : Red ℕ) s with ⟨e' | k, s2⟩
      · rw [hw] at hf hr
        cases hf
        exact hr.defunct
      · rw [hw] at hf
        cases hf
    rw [hl] at ho
    simp only at ho
    rw [Op.get_bind_run, hd] at ho
    split_ifs at ho
    · cases ho
    · cases ho
  · have hb := freeFirstOrphan_branched hf
    have hrest := (respects_freeOrphansLoop (I := Ambient) n s1).branched hb
    have hl : freeOrphansLoop (n + 1) s = freeOrphansLoop n s1 := Op.bind_ok hf
    rw [hl] at ho
    rcases hr : freeOrphansLoop n s1 with ⟨e | u, s2⟩
    · rw [hr] at ho hrest
      simp only at ho
      rw [Op.get_bind_run] at ho
      split_ifs at ho
      · cases ho
      · cases ho
      · cases ho
        exact hrest
    · rw [hr] at ho hrest
      cases ho
      exact hrest

/-- The metaroots and the layout in memory are the same. -/
def SameCore (s s' : FS) : Prop := s'.core = s.core

instance : IsPreorder FS SameCore where
  refl _ := rfl
  trans _ _ _ h h' := Eq.trans h' h

lemma sameCore_liftFS {x : Red Unit} (h : x.Respects SameCore) :
    (liftFS x).Respects (Op.OnFst SameCore) := .zoom h fun _ _ hu => hu

lemma sameCore_redBufferPut (i : ℕ) : (redBufferPut i).Respects SameCore := by
  refine .modify fun s => ?_
  split_ifs
  · dsimp only
    split_ifs <;> rfl
  · rfl

lemma sameCore_redInodePutBuf (d : BranchDepth) :
    (redInodePutBuf d).Respects (Op.OnFst SameCore) := by
  refine .bind (fun _ => rfl) fun ci => ?_
  cases ci.buf d
  · exact .pure _
  · exact .bind (sameCore_liftFS (sameCore_redBufferPut _)) fun _ _ => rfl

/-- Releasing a cached inode changes buffers only. -/
lemma sameCore_redInodePut (f : IPut) : (redInodePut f).Respects (Op.OnFst SameCore) := by
  refine .bind (.bind (sameCore_redInodePutBuf _) fun _ =>
    .bind (sameCore_redInodePutBuf _) fun _ =>
    sameCore_redInodePutBuf _) fun _ => .bind (fun _ => rfl) fun ci => ?_
  cases ci.pInodeBuf
  · exact .pure _
  · refine .bind (.when (.bind (fun _ => rfl) fun _ => .bind (fun _ => rfl) fun ci => ?_)) fun _ =>
      .bind (sameCore_liftFS (sameCore_redBufferPut _)) fun _ _ => rfl
    cases ci.pInodeBuf
    · exact .pure _
    · exact fun _ => rfl

/-- Concatenating the lists of orphans leaves no live orphan. -/
lemma concatOrphanLists_head (h : concatOrphanLists s = (.ok (), s')) :
    s'.mr.ulOrphanHead = INODE_INVALID := by
  unfold concatOrphanLists at h
  rw [Op.get_bind_run] at h
  obtain ⟨ci, h⟩ := withCInode_eq_ok h
  obtain ⟨_, t1, -, h⟩ := Op.bind_eq_ok h
  obtain ⟨t2, _, hx, hp⟩ := Op.attempt_bind_eq_ok h
  have hcore : s'.core = t2.1.core := by
    have := sameCore_redInodePut ⟨false, false⟩ t2
    rw [hp] at this
    exact this
  rw [FS.mr, hcore, ← FS.mr]
  obtain ⟨ino, t3, hi, hx⟩ := Op.bind_eq_ok hx
  split_ifs at hx
  · cases hx
  obtain ⟨_, t4, -, hx⟩ := Op.bind_eq_ok hx
  obtain ⟨_, t5, -, hx⟩ := Op.bind_eq_ok hx
  cases hx
  exact congrArg Metaroot.ulOrphanHead (FS.setMR_mr _ _)

lemma FS.setMR_same {f : Metaroot → Metaroot} (h : f s.mr = s.mr) : s.setMR f = s := by
  unfold FS.setMR
  rw [h, FS.mr, Function.update_eq_self]

/-- When there is nothing to do about the orphans, the mount does nothing. -/
lemma mountOrphans_settled (h : s.mr.orphansSettled ulFlags) :
    mountOrphans ulFlags s = (.ok (), s) := by
  have hsame : s.mr.ulDefunctOrphanHead = INODE_INVALID → s.mr.ulOrphanHead = INODE_INVALID →
      s.mr.ulOrphanTail = INODE_INVALID → (s.setMR fun mr => { mr with
        ulDefunctOrphanHead := mr.ulOrphanHead
        ulOrphanHead := INODE_INVALID
        ulOrphanTail := INODE_INVALID }) = s := fun h1 h2 h3 => by
    refine FS.setMR_same ?_
    rcases hm : s.mr with ⟨a1, a2, a3, a4, a5, a6, a7, a8⟩
    rw [hm] at h1 h2 h3
    simp only at h1 h2 h3
    rw [h1, h2, h3]
  have hpos : 0 < UINT32_MAX := by decide
  unfold Metaroot.orphansSettled at h
  unfold mountOrphans
  rw [Op.get_bind_run]
  by_cases hd : s.mr.ulDefunctOrphanHead = INODE_INVALID
  · rw [if_pos hd] at h
    by_cases hs : (!ulFlags.fSkipDelete) = true
    · rw [if_pos hs, Op.bind_ok (redVolFreeOrphans_none hd hpos), Op.modify_bind_run,
        hsame hd h.1 h.2]
      exact redVolFreeOrphans_none hd hpos
    · rw [if_neg hs, if_pos hd, Op.modify_run, hsame hd h.1 h.2]
  · rw [if_neg hd] at h
    rw [if_neg (by simp [h.1]), if_neg hd, if_neg (by simp [h.2])]
    rfl

/-- When there is something to do about the orphans, a mount that succeeds marks the volume as
branched or leaves the working metaroot different from the committed one. -/
lemma mountOrphans_unsettled (hmr : s.mr = s.mrCommitted)
    (h : mountOrphans ulFlags s = (.ok (), s'))
    (hb : s'.core.fBranched = false) (hsame : s'.mr = s'.mrCommitted) :
    s.mr.orphansSettled ulFlags := by
  have hcommitted : s'.mrCommitted = s.mr := by
    have := respects_mountOrphans (I := Ambient) ulFlags s
    rw [h] at this
    rw [FS.mrCommitted, this.keeps.cur, this.keeps.committed, hmr]
    rfl
  have hlists : ∀ s1 : FS, s1.mr.ulOrphanHead = INODE_INVALID ∧ s1.mr.ulOrphanTail = INODE_INVALID →
      s1 = s' → s.mr.ulOrphanHead = INODE_INVALID ∧ s.mr.ulOrphanTail = INODE_INVALID := by
    rintro s1 h1 rfl
    rwa [hsame, hcommitted] at h1
  unfold Metaroot.orphansSettled
  unfold mountOrphans at h
  rw [Op.get_bind_run] at h
  by_cases hs : (!ulFlags.fSkipDelete) = true
  · rw [if_pos hs] at h
    obtain ⟨_, s1, h1, h⟩ := Op.bind_eq_ok h
    rw [Op.modify_bind_run] at h
    have hd : s.mr.ulDefunctOrphanHead = INODE_INVALID := by
      by_contra hd
      have hb1 := redVolFreeOrphans_branched hd h1
      have hrest := (respects_redVolFreeOrphans (I := Ambient) UINT32_MAX
        (s1.setMR fun mr => { mr with
        ulDefunctOrphanHead := mr.ulOrphanHead
        ulOrphanHead := INODE_INVALID
        ulOrphanTail := INODE_INVALID })).branched hb1
      rw [h] at hrest
      rw [hrest] at hb
      cases hb
    rw [redVolFreeOrphans_none hd (by decide)] at h1
    cases h1
    rw [if_pos hd]
    set s2 : FS := s.setMR fun mr => { mr with
      ulDefunctOrphanHead := mr.ulOrphanHead
      ulOrphanHead := INODE_INVALID
      ulOrphanTail := INODE_INVALID } with hs2
    have hmr2 : s2.mr.ulDefunctOrphanHead = INODE_INVALID := by
      by_contra hd2
      rw [redVolFreeOrphans_branched hd2 h] at hb
      cases hb
    rw [redVolFreeOrphans_none hmr2 (by decide)] at h
    exact hlists s2 ⟨by rw [hs2, FS.setMR_mr], by rw [hs2, FS.setMR_mr]⟩ (Prod.mk.inj h).2
  · rw [if_neg hs] at h
    by_cases hd : s.mr.ulDefunctOrphanHead = INODE_INVALID
    · rw [if_pos hd] at h ⊢
      exact hlists _ ⟨by rw [FS.setMR_mr], by rw [FS.setMR_mr]⟩ (Prod.mk.inj h).2
    · rw [if_neg hd] at h ⊢
      refine ⟨by simpa using hs, ?_⟩
      by_contra hh
      rw [if_pos hh] at h
      have := concatOrphanLists_head h
      rw [hsame, hcommitted] at this
      exact hh this

/-! ## The whole run -/

lemma FS.Untouched.of_idle {s0 : FS} (h : s0.Untouched s) (hi : Idle s s') : s0.Untouched s' := by
  refine ⟨?_, hi.branched.trans h.branched, hi.clean, hi.disk.trans h.disk,
    hi.history.trans h.history⟩
  rw [FS.mr, FS.mrCommitted, hi.metaroots, hi.cur]
  exact h.metaroot

/-- Unmounting a read-only volume leaves it untouched. -/
lemma FS.Untouched.unmount {s0 : FS} (h : s0.Untouched s) (hro : s.vol.fReadOnly = true) :
    s0.Untouched (CoreOp.unmount.run s) := by
  change s0.Untouched (redCoreVolUnmount s).2
  unfold redCoreVolUnmount
  rw [Op.get_bind_run, Op.when_neg (by simp [hro]), Op.pure_bind_run, Op.get_bind_run, Op.bind_run]
  have hi := reads_redBufferDiscardRange 0 s.vol.ulBlockCount s h.clean
  rcases hd : redBufferDiscardRange 0 s.vol.ulBlockCount s with ⟨e | u, s1⟩
  · rw [hd] at hi
    exact h.of_idle hi
  · rw [hd] at hi
    have := h.of_idle hi
    exact ⟨this.metaroot, this.branched, this.clean, this.disk, this.history⟩

/-- **The volume stays untouched** by a mount with the given flags, every run of calls after it, and
an unmount. -/
def FS.StaysUntouched (s : FS) (ulFlags : MountFlags) : Prop :=
  ∀ ops : List CoreOp, (∀ op ∈ ops, op.whileMounted = true) →
    s.Untouched (Run ops (redVolMount ulFlags s).2) ∧
      s.Untouched (Run (ops ++ [.unmount]) (redVolMount ulFlags s).2)

/-- **Read-only mounts.** With no dirty buffer in the cache, a read-only mount that succeeds and
everything after it leave the volume untouched if and only if the volume was not marked as branched
before, and the lists of orphans on it leave the mount nothing to do. -/
theorem readOnlyMount_untouched_iff (hro : ulFlags.fReadOnly = true)
    (hc : s.Clean)
    (hm : (redVolMount ulFlags s).1 = .ok ()) :
    s.StaysUntouched ulFlags ↔ s.core.fBranched = false ∧ (deleteOpen = true →
      ∀ mr, s.storedMetaroot = some mr → mr.orphansSettled ulFlags) := by
  unfold FS.StaysUntouched
  rcases hmount : redVolMount ulFlags s with ⟨r, s'⟩
  rw [hmount] at hm
  cases hm
  obtain ⟨s1, mr, hst, hmr, hmc, hstill, hmnt, hro1, h⟩ := redVolMount_eq_ok hc hmount
  rw [hro] at hro1
  have hsame : s1.mr = s1.mrCommitted := hmr.trans hmc.symm
  constructor
  · intro hall
    have hu : s.Untouched s' := (hall [] (by simp)).1
    have hamb : Ambient s1 s' := by
      have := Op.Respects.when (c := deleteOpen = true)
        (respects_mountOrphans (I := Ambient) ulFlags) s1
      rwa [h] at this
    refine ⟨?_, fun hd mr' hmr' => ?_⟩
    · have hb1 : s1.core.fBranched = false := by
        by_contra hb
        have := hamb.branched (by simpa using hb)
        rw [hu.branched] at this
        cases this
      rw [← hstill.branched, hb1]
    · rw [hst, Option.some_inj] at hmr'
      rw [← hmr', ← hmr]
      rw [Op.when_pos hd] at h
      exact mountOrphans_unsettled hsame h hu.branched hu.metaroot
  · rintro ⟨hb, hset⟩ ops hops
    have hs1 : s1 = s' := by
      by_cases hd : deleteOpen = true
      · rw [Op.when_pos hd, mountOrphans_settled (by rw [hmr]; exact hset hd mr hst)] at h
        exact (Prod.mk.inj h).2
      · rw [Op.when_neg hd] at h
        exact (Prod.mk.inj h).2
    rw [← hs1]
    have hu : s.Untouched s1 := ⟨hsame, hstill.branched.trans hb, hstill.clean, hstill.disk,
      hstill.history⟩
    have hi := Idle.run hops hstill.clean hmnt hro1
    refine ⟨hu.of_idle hi, ?_⟩
    rw [Run, List.foldl_append]
    exact (hu.of_idle hi).unmount (hi.readOnly hro1)

/-- A driver just initialized, over a device of sixteen blocks that holds the given metaroot. -/
def smallVolume (mr : Metaroot) : FS :=
  let s : FS := redCoreInit 0
    { ulDevBlocks := 16
      bSectorSizeP2 := 9
      disk := fun _ => ⟨.none, 0, false, false, .bytes fun _ => 0⟩
      history := []
      buf := ⟨0, [], fun _ => ⟨0, 0, false, .data⟩, fun _ => .bytes fun _ => 0⟩
      vol := ⟨false, false, 0, 16, 0, 0⟩
      core := ⟨0, false, 0, 0, 0, 4, 0, fun _ => .zero, false, false, 0, false, 0, 0, false⟩
      now := 0 }
  let pMB := FS.formatMaster
    { s with
      vol := { s.vol with ulBlockCount := 16 }
      core := { s.core with ulInodeCount := 4 } } RED_DISK_LAYOUT_POSIXIER
  { s with disk := fun ulBlock =>
      if ulBlock = BLOCK_NUM_MASTER then ⟨.node .master, 1, true, true, .master pMB⟩
      else if ulBlock = BLOCK_NUM_FIRST_METAROOT then mr.block
      else s.disk ulBlock }

end

/-- A volume on which the root directory is in use, and nothing else. -/
def rootVolume : FS :=
  let s := smallVolume { Metaroot.zero with
    ullSequence := 2, ulFreeInodes := 3, abEntries := fun i => i == 0 }
  { s with disk := Function.update s.disk 3 ⟨.node .inode, 1, true, true,
    .inode { Inode.zero with uMode := .dir, uNLink := 1 }⟩ }

omit [RedConf] in
/-- A volume with a root directory and without orphans stays untouched, also when the directory is
read. -/
theorem readOnlyMount_untouched_small : letI := smallConf
    rootVolume.StaysUntouched ⟨true, true⟩ ∧
      (redCoreStat INODE_ROOTDIR (redVolMount ⟨true, true⟩ rootVolume).2).1.map Inode.uMode =
        .ok .dir := by
  let _ := smallConf
  have hclean : rootVolume.Clean := fun _ h => absurd rfl h
  have hmount : (redVolMount ⟨true, true⟩ rootVolume).1 = .ok () := by decide +kernel
  refine ⟨(readOnlyMount_untouched_iff rfl hclean hmount).mpr ⟨rfl, fun _ mr h => ?_⟩,
    by decide +kernel⟩
  cases h
  exact ⟨rfl, rfl⟩

omit [RedConf] in
/-- The inode 3 was an open file, deleted by the time of the last transaction. A read-only mount
moves it to the list of defunct orphans, in memory only. -/
theorem readOnlyMount_moves_orphans : letI := smallConf
    let s := smallVolume { Metaroot.zero with
      ullSequence := 2, ulOrphanHead := 3, ulOrphanTail := 3 }
    (redVolMount ⟨true, true⟩ s).1 = .ok () ∧ ¬ s.StaysUntouched ⟨true, true⟩ := by
  refine ⟨rfl, fun h => ?_⟩
  have hmr := (h [] (by simp)).1.metaroot
  exact absurd (congrArg Metaroot.ulDefunctOrphanHead hmr) (by decide)

end RelianceEdge
