import RelianceEdge.Handle.Reach

set_option relaxedAutoImplicit false
set_option autoImplicit false
set_option linter.unusedSectionVars false

/-!
# The last close

`HandleClose()` gives a reference up. When it was the last one to an inode that has lost its names,
the inode is freed, and with it what makes it an orphan; nothing else happens to any inode. It fails
in one case only: when the open inode is marked as an orphan although it still has a name, the
error of `RedCoreFreeOrphan()` is returned, and the handle stays open.

## Main definitions

* `PosixState.Cleans` — the last reference to an open inode that is marked is given up.
* `PosixState.Closes` — what a close does to the volumes, and when it fails.

## Main results

* `Settled.deref_plain`, `Settled.deref_clean` — `OpenInoDeref()`.
* `close_exact` — what `red_close()` does in every state that calls lead to.
-/

namespace RelianceEdge

variable [PosixConf]

open RedConf PosixConf OrphanSpace

namespace PosixState

variable {p p' : PosixState} {r : Ref} {v i o h t : ℕ} {x : ℕ × ℕ}

/-- `OpenInoDeref()` cleans up: the open inode is marked as an orphan, and nobody else refers to it;
the volume is writeable. -/
abbrev Cleans (p : PosixState) (o : ℕ) : Prop :=
  deleteOpen = true ∧ (p.gaRedVolume (p.gaOpenInos o).bVolNum).disk.fReadOnly = false ∧
    (p.gaOpenInos o).uRefs = 1 ∧ (p.gaOpenInos o).fOrphan = true

/-- The open inode is for an inode that has a name. -/
def Named (p : PosixState) (o : ℕ) : Prop :=
  ∃ ino, (p.gaRedVolume (p.gaOpenInos o).bVolNum).disk.node (p.gaOpenInos o).ulInode = some ino ∧
    ino.uNLink ≠ 0

/-- **`OpenInoDeref()` without a cleanup.** -/
lemma Settled.deref_plain (hs : Settled p) (hptr : p.ptr r = some o)
    (hcur : p.gbRedVolNum = (p.gaOpenInos o).bVolNum) (hclean : ¬ p.Cleans o) (fPropagate : Bool) :
    openInoDeref o true fPropagate p = (.ok (), p.setOpenIno o OpenInode.deref) := by
  have ho := Finset.mem_range.1 (hs.good.table.mem r o hptr).2
  have hpos : p.refs o ≠ 0 := (hs.good.table.refs_pos hptr).ne'
  by_cases hone : p.refs o = 1
  swap
  · exact openInoDeref_shared ho hpos hone true fPropagate
  by_cases hdo : p.DoesCleanup true
  swap
  · exact openInoDeref_silent ho hone hdo fPropagate
  have hwriteable : (p.gaRedVolume (p.gaOpenInos o).bVolNum).disk.fReadOnly = false :=
    hcur ▸ hdo.2.2
  have hflag : ¬ (p.gaOpenInos o).fOrphan = true := fun hf =>
    hclean ⟨hdo.1, hwriteable, hone, hf⟩
  have hskip : (do
      redCoreVolSetCurrent (p.gaOpenInos o).bVolNum
      .when (p.gaOpenInos o).fOrphan (redCore (.freeOrphan (p.gaOpenInos o).ulInode)) :
        PosixOp Unit) p = (.ok (), p) := by
    rw [← hcur, Op.bind_ok (redCoreVolSetCurrent_run hs.good.current), Op.when_neg hflag]
    rfl
  rw [openInoDeref_last ho hone hdo hskip rfl fPropagate, if_neg (by simp)]

/-- **`OpenInoDeref()` with a cleanup**, for what `RedCoreFreeOrphan()` returns. -/
lemma Settled.deref_clean (hs : Settled p) (hptr : p.ptr r = some o)
    (hcur : p.gbRedVolNum = (p.gaOpenInos o).bVolNum) (hclean : p.Cleans o)
    (hm : p.gpRedVolume.fMounted) {ret : Except RedError Unit} {d : NameDisk}
    (hrun : (Call.freeOrphan (p.gaOpenInos o).ulInode).exec p.gpRedVolume.geo p.gpRedVolume.disk =
      (ret, d)) (fPropagate : Bool) :
    openInoDeref o true fPropagate p =
      if fPropagate = true ∧ (ret.mapError PosixError.red) ≠ .ok () then
        (ret.mapError .red, p.setVolume p.gbRedVolNum fun vol => { vol with disk := d })
      else (.ok (), (p.setVolume p.gbRedVolNum fun vol => { vol with disk := d }).setOpenIno o
        OpenInode.deref) := by
  have ho := Finset.mem_range.1 (hs.good.table.mem r o hptr).2
  have hdo : p.DoesCleanup true := ⟨hclean.1, rfl, by rw [gpRedVolume, hcur]; exact hclean.2.1⟩
  have hcleanup : (do
      redCoreVolSetCurrent (p.gaOpenInos o).bVolNum
      .when (p.gaOpenInos o).fOrphan (redCore (.freeOrphan (p.gaOpenInos o).ulInode)) :
        PosixOp Unit) p =
      (ret.mapError .red, p.setVolume p.gbRedVolNum fun vol => { vol with disk := d }) := by
    rw [← hcur, Op.bind_ok (redCoreVolSetCurrent_run hs.good.current), Op.when_pos hclean.2.2.2]
    exact redCore_run hm hrun
  exact openInoDeref_last ho hclean.2.2.1 hdo hcleanup rfl fPropagate

/-- **What the cleanup does**: an inode that has lost its names is freed, and one that has a name is
not. -/
lemma Settled.freeOrphan_exact (hs : Settled p) (hptr : p.ptr r = some o)
    (hm : (p.gaRedVolume (p.gaOpenInos o).bVolNum).fMounted) (hclean : p.Cleans o) :
    let vol := p.gaRedVolume (p.gaOpenInos o).bVolNum
    let call := Call.freeOrphan (p.gaOpenInos o).ulInode
    (p.Named o → ∃ e, call.exec vol.geo vol.disk = (.error e, vol.disk)) ∧
      (¬ p.Named o → ∃ d, call.exec vol.geo vol.disk = (.ok (), d) ∧
        d.committed = vol.disk.committed ∧ d.fReadOnly = false ∧ d.fBranched = true ∧
        d.shape vol.geo =
          ⟨Function.update (vol.disk.shape vol.geo).info (p.gaOpenInos o).ulInode none,
          (vol.disk.shape vol.geo).entry⟩) := by
  intro vol call
  obtain ⟨n, -, ino, l, m, hino, -, hinv, hnot, hlist⟩ := hs.keptBy hptr hm
  have hexec : call.exec vol.geo vol.disk =
      NameDisk.onWorking (NameVolume.coreFreeOrphan vol.geo (p.gaOpenInos o).ulInode) vol.disk := by
    change Op.when (deleteOpen = true) _ vol.disk = _
    rw [Op.when_pos hclean.1, NameDisk.whenWriteable, Op.get_bind_run,
      show vol.disk.fReadOnly = false from hclean.2.1]
    rfl
  refine ⟨fun hnamed => ?_, fun hnamed => ?_⟩
  · -- The inode is not on the list.
    obtain ⟨ino', hino', hlink⟩ := hnamed
    have hl : (p.gaOpenInos o).ulInode ∉ l := by
      intro hl
      obtain ⟨ino0, hino0, h0⟩ := (hinv.lists.mem _).1 (.inl hl)
      rw [hino'] at hino0
      cases hino0
      exact hlink h0
    refine ⟨.EBADF, ?_⟩
    rw [hexec, NameDisk.onWorking, Op.zoom_run, NameVolume.coreFreeOrphan_error hinv hl]
  · have h0 : ino.uNLink = 0 := by
      by_contra hne
      exact hnamed ⟨ino, hino, hne⟩
    obtain ⟨v', hrun, -, hro, hbranched, hshape⟩ :=
      NameVolume.coreFreeOrphan_run hinv (hlist h0).1
    refine ⟨{ vol.disk with toNameVolume := v' }, ?_, rfl, ?_, hbranched, hshape⟩
    · rw [hexec, NameDisk.onWorking, Op.zoom_run, hrun]
    · exact hro.trans hclean.2.1

/-! ## Handles -/

/-- What a close leaves of the volume of the handle: `d` is the state after the cleanup. -/
structure ClosedDisk (d : NameDisk) (fTransacting : Bool) (d' : NameDisk) : Prop where
  working : d'.toOrphanSpace = d.toOrphanSpace
  committed : fTransacting = true → d.fBranched = true → d'.committed = d.toOrphanSpace
  silent : fTransacting = false → d' = d

/-- The end of `HandleClose()`, with its transaction. -/
lemma handleClose_end {q : PosixState} (hm : q.gpRedVolume.fMounted) (h : ℕ) (fTransacting : Bool)
    (hro : fTransacting = true → q.gpRedVolume.disk.fReadOnly = false) :
    ∃ q', (do
        .modify fun p => p.setHandle h fun h => { h with pOpenIno := none }
        let q ← .get
        .when (!q.gpRedVolume.disk.fReadOnly && fTransacting) (redCore .transact) :
          PosixOp Unit) q =
        (.ok (), q') ∧
      ClosedDisk q.gpRedVolume.disk fTransacting (q'.gaRedVolume q.gbRedVolNum).disk ∧
      ∀ w ≠ q.gbRedVolNum, q'.gaRedVolume w = q.gaRedVolume w := by
  rw [Op.modify_bind_run, Op.get_bind_run]
  rcases fTransacting with _ | _
  · rw [Op.when_neg (by simp)]
    exact ⟨_, rfl, ⟨rfl, by simp, fun _ => rfl⟩, fun _ _ => rfl⟩
  have hwriteable : q.gpRedVolume.disk.fReadOnly = false := hro rfl
  have hwhen : (!(q.setHandle h fun h => { h with pOpenIno := none }).gpRedVolume.disk.fReadOnly &&
      true) = true := by
    change (!q.gpRedVolume.disk.fReadOnly && true) = true
    rw [hwriteable]
    rfl
  rw [Op.when_pos hwhen]
  obtain ⟨d, hrun, hclosed⟩ : ∃ d, Call.transact.exec q.gpRedVolume.geo q.gpRedVolume.disk =
      (.ok (), d) ∧ ClosedDisk q.gpRedVolume.disk true d := by
    rw [Call.exec, NameDisk.whenWriteable, Op.get_bind_run, hwriteable]
    refine ⟨_, rfl, ?_⟩
    dsimp only
    split_ifs with hbranched
    · exact ⟨rfl, fun _ _ => rfl, by simp⟩
    · exact ⟨rfl, fun _ hb => absurd hb hbranched, by simp⟩
  refine ⟨_, redCore_run (p := q.setHandle h fun h => { h with pOpenIno := none }) hm hrun, ?_,
    fun w hw => setVolume_ne hw _⟩
  change ClosedDisk _ _ (Function.update q.gaRedVolume q.gbRedVolNum _ q.gbRedVolNum).disk
  rw [Function.update_self]
  exact hclosed

/-- **What `HandleClose()` does to the volumes**, with its status `ret`, where `i` is the inode of
the handle, on the volume `v`. -/
structure Closes (p : PosixState) (o : ℕ) (fTransFlag : Bool) (ret : Except PosixError Unit)
    (p' : PosixState) : Prop where
  /-- It fails only if the open inode is marked although it has a name. -/
  ok : ret = .ok () ↔ ¬ (fTransFlag = true ∧ p.Cleans o ∧ p.Named o)
  /-- The inode is freed with the last reference when it has no name. -/
  freed : p.Cleans o → ¬ p.Named o →
    let vol := p.gaRedVolume (p.gaOpenInos o).bVolNum
    (p'.gaRedVolume (p.gaOpenInos o).bVolNum).disk.shape vol.geo =
      ⟨Function.update (vol.disk.shape vol.geo).info (p.gaOpenInos o).ulInode none,
        (vol.disk.shape vol.geo).entry⟩
  /-- Otherwise no inode and no name changes. -/
  kept : ¬ (p.Cleans o ∧ ¬ p.Named o) →
    (p'.gaRedVolume (p.gaOpenInos o).bVolNum).disk.toOrphanSpace =
      (p.gaRedVolume (p.gaOpenInos o).bVolNum).disk.toOrphanSpace
  /-- A transaction point follows if it is asked for. -/
  committed : ret = .ok () → fTransFlag = true →
    (p.gaRedVolume (p.gaOpenInos o).bVolNum).disk.fReadOnly = false →
    (p.gaRedVolume (p.gaOpenInos o).bVolNum).disk.fBranched = true ∨ p.Cleans o →
    (p'.gaRedVolume (p.gaOpenInos o).bVolNum).disk.committed =
      (p'.gaRedVolume (p.gaOpenInos o).bVolNum).disk.toOrphanSpace
  uncommitted : fTransFlag = false →
    (p'.gaRedVolume (p.gaOpenInos o).bVolNum).disk.committed =
      (p.gaRedVolume (p.gaOpenInos o).bVolNum).disk.committed
  other : ∀ w ≠ (p.gaOpenInos o).bVolNum, p'.gaRedVolume w = p.gaRedVolume w

/-- **`HandleClose()`**, between two calls. -/
lemma Settled.handleClose_closes (hs : Settled p) (hptr : (p.gaHandle h).pOpenIno = some o)
    (fTransFlag : Bool) : (handleClose h fTransFlag).Post p (Closes p o fTransFlag) := by
  have hptr' : p.ptr (.inl h) = some o := hptr
  obtain ⟨⟨v, i⟩, hkey, hview⟩ := hs.good.table.view_some hptr'
  obtain ⟨-, hv, hi⟩ := key_eq_some.1 hkey
  have hlt : v < volumeCount := hs.good.valid _ _ hview
  have hm : (p.gaRedVolume v).fMounted := hs.good.handle_mounted (by simp) hview
  have hset : Entered p { p with gbRedVolNum := v } :=
    ⟨rfl, rfl, fun _ => rfl, rfl, rfl, rfl, fun _ => hlt⟩
  obtain ⟨hs0, -⟩ := hset.settled hs
  rw [Op.Post, hs.good.handleClose_start hptr' fTransFlag hview]
  subst hv
  have hro : (!(p.gaRedVolume (p.gaOpenInos o).bVolNum).disk.fReadOnly && fTransFlag) = true →
      (p.gaRedVolume (p.gaOpenInos o).bVolNum).disk.fReadOnly = false := fun hf => by
    simpa using (Bool.and_eq_true_iff.1 hf).1
  -- Nothing has been freed, and the reference has been given up.
  have hplain (hderef : openInoDeref o true
        (!(p.gaRedVolume (p.gaOpenInos o).bVolNum).disk.fReadOnly && fTransFlag)
        { p with gbRedVolNum := (p.gaOpenInos o).bVolNum } = (.ok (), ({ p with
          gbRedVolNum := (p.gaOpenInos o).bVolNum } : PosixState).setOpenIno o OpenInode.deref))
      (hkept : ¬ (p.Cleans o ∧ ¬ p.Named o))
      (hok : ¬ (fTransFlag = true ∧ p.Cleans o ∧ p.Named o)) :
      (do
        openInoDeref o true
          (!(p.gaRedVolume (p.gaOpenInos o).bVolNum).disk.fReadOnly && fTransFlag)
        .modify fun p => p.setHandle h fun h => { h with pOpenIno := none }
        let q ← .get
        .when (!q.gpRedVolume.disk.fReadOnly &&
          (!(p.gaRedVolume (p.gaOpenInos o).bVolNum).disk.fReadOnly && fTransFlag))
          (redCore .transact) : PosixOp Unit).Post
        { p with gbRedVolNum := (p.gaOpenInos o).bVolNum } (Closes p o fTransFlag) := by
    obtain ⟨q, hrun, hdisk, hother⟩ := handleClose_end (q := ({ p with
      gbRedVolNum := (p.gaOpenInos o).bVolNum } : PosixState).setOpenIno o OpenInode.deref) hm h
        (!(p.gaRedVolume (p.gaOpenInos o).bVolNum).disk.fReadOnly && fTransFlag) hro
    rw [Op.Post, (Op.bind_ok hderef).trans hrun]
    refine ⟨⟨fun _ => hok, fun _ => rfl⟩, fun hc hn => absurd ⟨hc, hn⟩ hkept,
      fun _ => hdisk.working, fun _ hf hwr hb => ?_, fun hf => ?_, fun w hw => hother w hw⟩
    · have hbranched := hb.resolve_right fun hc => hkept ⟨hc, fun hn => hok ⟨hf, hc, hn⟩⟩
      have htrans := hdisk.committed (by rw [hwr, hf]; rfl) hbranched
      exact htrans.trans hdisk.working.symm
    · exact congrArg NameDisk.committed (hdisk.silent (by rw [hf]; simp))
  by_cases hclean : p.Cleans o
  swap
  · exact hplain (hs0.deref_plain (r := .inl h) hptr rfl hclean _) (fun hc => hclean hc.1)
      fun hc => hclean hc.2.1
  have hwr := hclean.2.1
  obtain ⟨hstuck, hfreed⟩ := hs.freeOrphan_exact hptr' hm hclean
  by_cases hnamed : p.Named o
  · -- The cleanup fails.
    obtain ⟨e, hexec⟩ := hstuck hnamed
    have hderef := hs0.deref_clean (r := .inl h) hptr rfl hclean hm hexec
      (!(p.gaRedVolume (p.gaOpenInos o).bVolNum).disk.fReadOnly && fTransFlag)
    rcases fTransFlag with _ | _
    · rw [if_neg (by simp)] at hderef
      refine hplain (hderef.trans
        (congrArg (fun q : PosixState => ((.ok () : Except PosixError Unit),
        q.setOpenIno o OpenInode.deref)) setVolume_same)) (fun hc => hc.2 hnamed) (by simp)
    · rw [if_pos ⟨by rw [hwr]; rfl, by simp [Except.mapError]⟩] at hderef
      rw [Op.bind_error (hderef.trans (congrArg (Prod.mk _) setVolume_same))]
      exact ⟨⟨by simp, fun hc => absurd ⟨rfl, hclean, hnamed⟩ hc⟩, fun _ hn => absurd hnamed hn,
        fun _ => rfl, by simp, by simp, fun _ _ => rfl⟩
  · obtain ⟨d, hexec, hcommitted, hdro, hbranched, hshape⟩ := hfreed hnamed
    have hderef := hs0.deref_clean (r := .inl h) hptr rfl hclean hm hexec
      (!(p.gaRedVolume (p.gaOpenInos o).bVolNum).disk.fReadOnly && fTransFlag)
    rw [if_neg (by simp [Except.mapError])] at hderef
    set q0 : PosixState := (({ p with
      gbRedVolNum := (p.gaOpenInos o).bVolNum } : PosixState).setVolume (p.gaOpenInos o).bVolNum
        fun vol => { vol with disk := d }).setOpenIno o OpenInode.deref with hq0
    have hself : q0.gaRedVolume (p.gaOpenInos o).bVolNum =
        { p.gaRedVolume (p.gaOpenInos o).bVolNum with disk := d } :=
      Function.update_self (p.gaOpenInos o).bVolNum _ p.gaRedVolume
    have hself' :
        q0.gpRedVolume = { p.gaRedVolume (p.gaOpenInos o).bVolNum with disk := d } := hself
    obtain ⟨q, hrun, hdisk, hother⟩ := handleClose_end (q := q0) (by rw [hself']; exact hm) h
      (!(p.gaRedVolume (p.gaOpenInos o).bVolNum).disk.fReadOnly && fTransFlag)
      fun _ => by rw [hself']; exact hdro
    rw [hself'] at hdisk
    change ClosedDisk d _ (q.gaRedVolume (p.gaOpenInos o).bVolNum).disk at hdisk
    rw [(Op.bind_ok hderef).trans hrun]
    refine ⟨⟨fun _ hc => hnamed hc.2.2, fun _ => rfl⟩, fun _ _ => ?_,
      fun hc => absurd ⟨hclean, hnamed⟩ hc, fun _ hf _ _ => ?_, fun hf => ?_, fun w hw => ?_⟩
    · exact (congrArg (fun v : OrphanSpace => v.shape _) hdisk.working).trans hshape
    · exact (hdisk.committed (by rw [hwr, hf]; rfl) hbranched).trans hdisk.working.symm
    · rw [hdisk.silent (by rw [hf]; simp)]
      exact hcommitted
    · exact (hother w hw).trans (Function.update_of_ne hw _ p.gaRedVolume)

/-- `red_close()`, between two calls. -/
lemma Settled.redClose_closes (hs : Settled p) {iFildes : ℤ}
    (hh : p.fildesToHandle iFildes FTYPE_ANY = .ok h) (fTransact : Bool) :
    ∃ o, (p.gaHandle h).pOpenIno = some o ∧ (redClose iFildes fTransact).Post p fun ret p' =>
      Closes p o fTransact ret p' ∧
        p'.view = if ret = .ok () then Function.update p.view (.inl h) none else p.view := by
  obtain ⟨i, hview⟩ := (fildesToHandle_ok hs.good hh).used
  obtain ⟨-, o, -, hptr, -⟩ := hs.good.table.of_view hview
  refine ⟨o, hptr, .get_bind ?_⟩
  rw [hh]
  refine Op.Post.mono ((hs.handleClose_closes hptr fTransact).and
    (hs.handleClose_moved hptr fTransact)) fun ret p' hpost => ⟨hpost.1, ?_⟩
  rcases ret with e | ⟨⟩
  · rw [if_neg (by simp)]
    exact hpost.2.error e rfl
  · rw [if_pos rfl]
    exact hpost.2.ok () rfl

end PosixState

open PosixState

variable {p : PosixState}

/-- **What a close does**, in every state that calls lead to: it frees the inode exactly if that has
no name and no other reference, and fails exactly if the inode is to be freed and has a name. -/
theorem close_exact (hmax : openInodeCount ≤ UINT16_MAX) (hreach : p.Reachable)
    {iFildes : ℤ} {h : ℕ}
    (hh : p.fildesToHandle iFildes FTYPE_ANY = .ok h) (fTransact : Bool) :
    ∃ o, (p.gaHandle h).pOpenIno = some o ∧ (redClose iFildes fTransact).Post p fun ret p' =>
      Closes p o fTransact ret p' ∧
        p'.view = if ret = .ok () then Function.update p.view (.inl h) none else p.view :=
  (hreach.settled hmax).redClose_closes hh fTransact

omit [PosixConf] in
/-- The last close of a file that has lost its name. -/
theorem close_exact_small : letI := smallPosixConf
    ∃ o, (orphanOpened.gaHandle 1).pOpenIno = some o ∧
      (redClose 1048577 true).Post orphanOpened fun ret p' => Closes orphanOpened o true ret p' ∧
        p'.view = if ret = .ok () then Function.update orphanOpened.view (.inl 1) none
          else orphanOpened.view := by
  let _ := smallPosixConf
  have hh : orphanOpened.fildesToHandle 1048577 FTYPE_ANY = .ok 1 := by decide +kernel
  exact close_exact (by decide) orphanOpened_reachable hh true

end RelianceEdge
