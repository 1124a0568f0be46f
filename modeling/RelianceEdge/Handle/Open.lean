import RelianceEdge.Handle.Fildes

set_option relaxedAutoImplicit false
set_option autoImplicit false
set_option linter.unusedSectionVars false

/-!
# Opening

`FildesOpen()` finds a free handle, looks for the inode or creates it, checks its type, and makes
the handle a reference to it. There is always an open inode left, and the file descriptor can always
be packed: what fails leaves the handles as they were.

## Main definitions

* `PosixState.Reaches` — what the lookup in `FildesOpen()` has found.

## Main results

* `fildesLookup_post`, `fildesCheck_post` — the inode is one of a mounted volume, with a name.
* `Settled.handleOpen_run` — the handle is a reference to it.
* `fildesOpen_moved` — opening.
-/

namespace RelianceEdge

variable [PosixConf]

open RedConf PosixConf OrphanSpace

namespace PosixState

variable {p p' : PosixState} {r : Ref} {v i o h t : ℕ} {x : ℕ × ℕ} {α : Type}

/-! ## Handles -/

/-- `HandleFindFree()`. -/
lemma Settled.handleFindFree_run (hs : Settled p) : handleFindFree p = (.ok none, p) ∨
    ∃ h < handleCount, p.view (.inl h) = none ∧
      handleFindFree p = (.ok (some h), p.setHandle h fun _ => .zero) ∧
      Stays p (.ok () : Except PosixError Unit) (p.setHandle h fun _ => .zero) := by
  rw [handleFindFree, Op.get_bind_run]
  rcases hfind : (List.range handleCount).find? fun h => (p.gaHandle h).pOpenIno.isNone with _ | h
  · exact .inl rfl
  have hh := List.mem_range.1 (List.mem_of_find?_eq_some hfind)
  have hfree := List.find?_some hfind
  have hnone : p.ptr (.inl h) = none := Option.isNone_iff_eq_none.1 hfree
  have hptr : (p.setHandle h fun _ => .zero).ptr = p.ptr := by
    rw [ptr_setHandle]
    exact Function.update_eq_self_iff.2 hnone.symm
  refine .inr ⟨h, hh, hs.good.table.view_eq_none_iff.2 hnone, rfl, ?_⟩
  exact hs.of_same (hs.good.changeHandle hnone _) hptr rfl
    ⟨rfl, fun _ => rfl, rfl, fun _ => rfl, fun _ => rfl⟩

/-- The state in which a handle is a reference to an open inode, counted once more. -/
def withHandle (p : PosixState) (g : ℕ → OpenInode) (h o : ℕ) (f : RedHandle → RedHandle) :
    PosixState :=
  ((({ p with gaOpenInos := g }).setOpenIno o fun oi =>
    { oi with uRefs := (oi.uRefs + 1) % 65536 }).setHandle h fun h =>
      { h with pOpenIno := some o }).setHandle h f

/-- **`HandleOpen()`**, with the flags that `FildesOpen()` gives the handle: an open inode is found
for the handle. -/
lemma Settled.handleOpen_run (hmax : openInodeCount ≤ UINT16_MAX) (hs : Settled p)
    (hh : h < handleCount) (hnone : p.view (.inl h) = none) {b : Bool}
    (hm : p.gpRedVolume.fMounted) (hi : p.gpRedVolume.disk.Linked p.gpRedVolume.geo i b)
    {f : RedHandle → RedHandle} (hptr : ∀ x, (f x).pOpenIno = x.pOpenIno)
    (hdir : ∀ o, (f { p.gaHandle h with pOpenIno := o }).fDirectory = b) :
    ∃ p', (do
        handleOpen h i
        .modify fun p => p.setHandle h f : PosixOp Unit) p = (.ok (), p') ∧ Settled p' ∧
      p'.view = Function.update p.view (.inl h) (some (p.gbRedVolNum, i)) ∧
      p'.gauGeneration = p.gauGeneration ∧ p'.gbRedVolNum = p.gbRedVolNum := by
  have hsound : p.gpRedVolume.Sound := hs.good.sound _ hs.good.current
  obtain ⟨l, m, hinv⟩ := hsound.working hm
  have hvalid : i ≠ INODE_INVALID := by
    obtain ⟨n, hn, -⟩ := hi
    obtain ⟨ino, hino, -⟩ := Space.shape_info_eq_some hn
    exact hinv.valid_ne hino
  obtain ⟨o, g, hrun, hacq⟩ := acquire (v := p.gbRedVolNum) hmax hs.good.table (handle_mem.2 hh)
    (hs.good.table.view_eq_none_iff.1 hnone) hvalid
  have hend : (do
      handleOpen h i
      .modify fun p => p.setHandle h f : PosixOp Unit) p = (.ok (), p.withHandle g h o f) := by
    have hopen : handleOpen h i p = (.ok (), (({ p with gaOpenInos := g }).setOpenIno o fun oi =>
        { oi with uRefs := (oi.uRefs + 1) % 65536 }).setHandle h fun h =>
          { h with pOpenIno := some o }) := by
      rw [handleOpen, Op.get_bind_run]
      exact Op.bind_ok hrun
    exact Op.bind_ok hopen
  have hhandle :
      (p.withHandle g h o f).gaHandle h = f { p.gaHandle h with pOpenIno := some o } := by
    simp [withHandle, setHandle, setOpenIno]
  have hptr' : (p.withHandle g h o f).ptr = Function.update p.ptr (.inl h) (some o) := by
    rw [withHandle, ptr_setHandle, hptr, ptr_setHandle, Function.update_idem]
    simp only [setHandle, Function.update_self]
    rfl
  have hfits (r' : Ref) (hr' : r' ≠ .inl h) (n : Info) (hn : p.Fits r' n) :
      (p.withHandle g h o f).Fits r' n :=
    (fits_setHandle hr').2 ((fits_setHandle hr').2 hn)
  have hoffer : (p.withHandle g h o f).Offers (.inl h) (p.gbRedVolNum, i) := by
    refine ⟨hs.good.current, fun _ => ?_, fun hmounted => ?_⟩
    · obtain ⟨n, hn, hlink, hb, hdef⟩ := hi
      refine ⟨n, hn, hdef, ?_, hlink⟩
      change ((p.withHandle g h o f).gaHandle h).fDirectory = _
      rw [hhandle, hdir, hb]
    · have hmounted' : p.gpRedVolume.fMounted = false := hmounted
      rw [hm] at hmounted'
      cases hmounted'
  have hattach : Good (∅ \ {.inl h}) (Function.update p.ptr (.inl h) (some o))
      (p.withHandle g h o f) ∧
      Refs.view (Function.update p.ptr (.inl h) (some o)) (p.withHandle g h o f).key =
        Function.update p.view (.inl h) (some (p.gbRedVolNum, i)) :=
    hs.good.attach hacq rfl rfl rfl hfits hoffer
  obtain ⟨hgood, hview⟩ := hattach
  rw [← hptr'] at hgood hview
  have hview' : (p.withHandle g h o f).view =
      Function.update p.view (.inl h) (some (p.gbRedVolNum, i)) := hview
  refine ⟨_, hend, ?_, hview', rfl, rfl⟩
  refine hs.of_frame (hgood.weaken (by simp)) ⟨rfl, fun _ => rfl, rfl, fun _ => rfl, fun _ => rfl⟩
    fun t _ ht => ?_
  rwa [hview', Function.update_of_ne (by simp)]

/-! ## Looking for the inode -/

/-- What changes no reference, and neither the current volume. -/
structure Kept (p : PosixState) (p' : PosixState) : Prop where
  settled : Settled p'
  view : p'.view = p.view
  frame : Frame p p'
  current : p'.gbRedVolNum = p.gbRedVolNum

lemma Settled.kept (hs : Settled p) : Kept p p := ⟨hs, rfl, .refl p, rfl⟩

lemma Kept.trans {p'' : PosixState} (h : Kept p p') (h' : Kept p' p'') : Kept p p'' :=
  ⟨h'.settled, h'.view.trans h.view, h.frame.trans h'.frame, h'.current.trans h.current⟩

/-- A call of the core that takes no name, and leaves the inodes that have one. -/
lemma Settled.redCore_kept (hs : Settled p) {call : Call}
    (hlegal : p.gpRedVolume.fMounted → call.Legal p.gpRedVolume.geo p.gpRedVolume.disk)
    (honward : call.Onward) (hfree : ∀ i, call ≠ .freeOrphan i)
    (htakes : ∀ M f i, ¬ call.Takes M f i) : (redCore call).Post p fun _ p' => Kept p p' ∧
      ∀ i b, p.gpRedVolume.fMounted → p.gpRedVolume.disk.Linked p.gpRedVolume.geo i b →
        p'.gpRedVolume.disk.Linked p'.gpRedVolume.geo i b := by
  have hstays := hs.redCore_stays hlegal honward hfree htakes
  rcases hm : p.gpRedVolume.fMounted with _ | _
  · rw [Op.Post, redCore, whenMounted_error hm]
    exact ⟨hs.kept, fun _ _ hmounted => by cases hmounted⟩
  rcases hrun : call.exec p.gpRedVolume.geo p.gpRedVolume.disk with ⟨ret, d⟩
  rw [Op.Post, redCore_run hm hrun] at hstays ⊢
  have hsound : p.gpRedVolume.Sound := hs.good.sound _ hs.good.current
  obtain ⟨l, m, hinv⟩ := hsound.working hm
  refine ⟨⟨hstays.1, hstays.2, frame_setDisk d, rfl⟩, fun i b _ hi => ?_⟩
  rw [show (p.setVolume p.gbRedVolNum fun vol => { vol with disk := d }).gpRedVolume =
    { p.gpRedVolume with disk := d } from setVolume_self _]
  exact hi.exec hsound.version hinv (hlegal hm) honward hrun htakes

/-- **What the lookup has found**: an inode with a name; it has the type of the mode if it has been
created. -/
structure Reaches (p : PosixState) (uMode : Mode) (a : ℕ × Bool) : Prop where
  target : p.gpRedVolume.disk.Target p.gpRedVolume.geo a.1
  created : a.2 = true → p.gpRedVolume.fMounted ∧
    p.gpRedVolume.disk.Linked p.gpRedVolume.geo a.1 (uMode == .dir)

/-- The part of `FildesOpen()` that looks for the inode. -/
lemma fildesLookup_post (hs : Settled p) (c : Circumstances) {path : OpenPath}
    (hname : p.NameOk p.gbRedVolNum path.name) (hinode : p.InodeOk p.gbRedVolNum path.inode)
    (ulOpenFlags : OpenFlags) (uMode : Mode) :
    (fildesLookup c path ulOpenFlags uMode).Post p fun ret p' => Kept p p' ∧
      ∀ a, ret = .ok a → p'.Reaches uMode a := by
  rw [fildesLookup]
  by_cases hcreat : ulOpenFlags.fCreat = true
  swap
  · rw [if_neg hcreat]
    refine ofRed_post.bind (fun i p' hp' => ?_) fun e p' hp' => ?_
    · obtain ⟨rfl, hi⟩ := hp'
      refine .pure ⟨hs.kept, fun a ha => ?_⟩
      cases ha
      exact ⟨hinode i (hi i rfl), by simp⟩
    · obtain ⟨rfl, -⟩ := hp'
      exact ⟨hs.kept, by simp⟩
  rw [if_pos hcreat]
  rcases hpath : path.name with e | ⟨ulPInode, pszName⟩
  · dsimp only
    by_cases hdir : e = .EISDIR
    · rw [if_pos hdir]
      by_cases hexcl : ulOpenFlags.fExcl = true
      · rw [if_pos hexcl]
        exact .fail ⟨hs.kept, by simp⟩
      · -- The path is that of the root directory.
        rw [if_neg hexcl]
        refine .pure ⟨hs.kept, fun a ha => ?_⟩
        cases ha
        exact ⟨.inl (.inl rfl), by simp⟩
    · rw [if_neg hdir]
      exact .fail ⟨hs.kept, by simp⟩
  have hcreate := hs.redCoreCreate_post c pszName uMode (hname _ hpath)
  refine .attempt_bind (hcreate.mono fun ret p' hp' => ?_)
  obtain ⟨⟨hs', hview⟩, hframe, hcur, hnew⟩ := hp'
  have hkept : Kept p p' := ⟨hs', hview, hframe, hcur⟩
  rcases ret with e | i
  · dsimp only
    by_cases he : e = .EROFS ∨ e = .EEXIST ∧ (!ulOpenFlags.fExcl) = true
    swap
    · rw [if_neg he]
      exact .fail ⟨hkept, by simp⟩
    rw [if_pos he]
    obtain ⟨ret, hlookup, hfound, -⟩ := redCoreLookup_run hs' ulPInode pszName
    refine .attempt_bind ?_
    rw [Op.Post, hlookup]
    rcases ret with e' | i
    · exact .fail ⟨hkept, by simp⟩
    · dsimp only
      by_cases hexcl : e = .EROFS ∧ ulOpenFlags.fExcl = true
      · rw [if_pos hexcl]
        exact .fail ⟨hkept, by simp⟩
      · rw [if_neg hexcl]
        obtain ⟨hm, hi⟩ := hfound i rfl
        have hsound : p'.gpRedVolume.Sound := hs'.good.sound _ hs'.good.current
        obtain ⟨l, m, hinv⟩ := hsound.working hm
        refine .pure ⟨hkept, fun a ha => ?_⟩
        cases ha
        exact ⟨NameDisk.target_of_names hinv hi, by simp⟩
  · obtain ⟨hm, htarget, n, hn, hdir⟩ := hnew i rfl
    have hsound : p'.gpRedVolume.Sound := hs'.good.sound _ hs'.good.current
    obtain ⟨l, m, hinv⟩ := hsound.working hm
    have hlinked := htarget.linked hinv hn
    have hmode : (FileData.new uMode).fDirectory = (uMode == .dir) := by cases uMode <;> rfl
    rw [hdir, hmode] at hlinked
    refine .pure ⟨hkept, fun a ha => ?_⟩
    cases ha
    exact ⟨htarget, fun _ => ⟨hm, hlinked⟩⟩

/-- The checks of `FildesOpen()`, and its truncation. -/
lemma fildesCheck_post (hs : Settled p) (ulOpenFlags : OpenFlags) (type : FType)
    (htarget : p.gpRedVolume.disk.Target p.gpRedVolume.geo i) :
    (fildesCheck ulOpenFlags type i).Post p fun ret p' => Kept p p' ∧
      ∀ uMode, ret = .ok uMode → p'.gpRedVolume.fMounted ∧
        p'.gpRedVolume.disk.Linked p'.gpRedVolume.geo i (uMode == .dir) := by
  obtain ⟨ret, hstat, hok, -⟩ := redCoreStat_run (p := p) i
  rcases ret with e | ⟨uMode, n⟩
  · rw [Op.Post, fildesCheck, Op.bind_error hstat]
    exact ⟨hs.kept, by simp⟩
  obtain ⟨hm, ino, hino, hmode⟩ := hok _ rfl
  cases hmode
  have hsound : p.gpRedVolume.Sound := hs.good.sound _ hs.good.current
  obtain ⟨l, m, hinv⟩ := hsound.working hm
  have hlinked : p.gpRedVolume.disk.Linked p.gpRedVolume.geo i (ino.data.mode == .dir) := by
    have hdir : ino.info.fDirectory = (ino.data.mode == .dir) := by
      rcases ino with ⟨n, pi, data⟩
      cases data <;> rfl
    rw [← hdir]
    exact htarget.linked hinv (Space.shape_info hino)
  have hstat' : (redCoreStat i).Ok p fun a p' => a = (ino.data.mode, ino.uNLink) ∧ p' = p :=
    .intro hstat ⟨rfl, rfl⟩
  refine hstat'.bind_post fun a p' hp' => ?_
  obtain ⟨rfl, rfl⟩ := hp'
  refine ofRed_post.bind (fun _ p' hp' => ?_) fun e p' hp' => ?_
  · obtain ⟨rfl, -⟩ := hp'
    by_cases hdir : ino.data.mode = .dir ∧ (!ulOpenFlags.fRdOnly) = true
    · rw [if_pos hdir]
      exact .fail ⟨hs.kept, by simp⟩
    · rw [if_neg hdir]
      have hlegal : (Call.fileData i []).Legal p'.gpRedVolume.geo p'.gpRedVolume.disk := by
        simp [Call.Legal]
      have hkept := hs.redCore_kept (fun _ => hlegal) (by simp [Call.Onward]) (by simp)
        (by simp [Call.Takes])
      by_cases htrunc : ulOpenFlags.fTrunc = true
      · rw [Op.when_pos htrunc]
        refine hkept.bind (fun _ q hq => .pure ⟨hq.1, fun uMode hu => ?_⟩) fun e q hq => ?_
        · cases hu
          refine ⟨?_, hq.2 i _ hm hlinked⟩
          rw [gpRedVolume, hq.1.current, hq.1.frame.mounted]
          exact hm
        · exact ⟨hq.1, by simp⟩
      · rw [Op.when_neg htrunc]
        refine .pure ⟨hs.kept, fun uMode hu => ?_⟩
        cases hu
        exact ⟨hm, hlinked⟩
  · obtain ⟨rfl, -⟩ := hp'
    exact ⟨hs.kept, by simp⟩

/-! ## Opening -/

/-- **What opening does**: a handle that was free is for an inode of the volume, and the file
descriptor is for the handle. -/
def Opens (p : PosixState) (v : ℕ) (iFildes : ℤ) (p' : PosixState) : Prop :=
  ∃ h i, h < handleCount ∧ p.view (.inl h) = none ∧
    p'.view = Function.update p.view (.inl h) (some (v, i)) ∧
    iFildes = p.fildesPack h v ∧ p.gauGeneration v ≠ 0

/-- The end of `FildesOpen()`, where the handle is opened. -/
lemma Settled.fildesEnd_moved (hmax : openInodeCount ≤ UINT16_MAX) (hs : Settled p)
    (hh : h < handleCount) (hnone : p.view (.inl h) = none) (hzero : p.gaHandle h = .zero)
    {uMode : Mode} (hm : p.gpRedVolume.fMounted)
    (hi : p.gpRedVolume.disk.Linked p.gpRedVolume.geo i (uMode == .dir))
    (ulOpenFlags : OpenFlags) :
    (do
      handleOpen h i
      .modify fun p => p.setHandle h fun h => { h with
        fDirectory := h.fDirectory || uMode == .dir
        fSymlink := h.fSymlink || deleteOpen && uMode == .lnk
        fReadable := h.fReadable || ulOpenFlags.fRdOnly || ulOpenFlags.fRdWr
        fWriteable := h.fWriteable || ulOpenFlags.fWrOnly || ulOpenFlags.fRdWr
        fAppending := h.fAppending || ulOpenFlags.fAppend }
      let p ← .get
      let iFildes := p.fildesPack h p.gbRedVolNum
      if iFildes = -1 then .fail .EFUBAR else pure iFildes : PosixOp ℤ).Post p
      (Moved (Opens p p.gbRedVolNum) p) := by
  obtain ⟨p', hrun, hs', hview, hgen, hcur⟩ := hs.handleOpen_run hmax hh hnone hm hi
    (f := fun h => { h with
        fDirectory := h.fDirectory || uMode == .dir
        fSymlink := h.fSymlink || deleteOpen && uMode == .lnk
        fReadable := h.fReadable || ulOpenFlags.fRdOnly || ulOpenFlags.fRdWr
        fWriteable := h.fWriteable || ulOpenFlags.fWrOnly || ulOpenFlags.fRdWr
        fAppending := h.fAppending || ulOpenFlags.fAppend })
    (fun _ => rfl) (fun _ => by rw [hzero]; rfl)
  have hstarted : p.gauGeneration p.gbRedVolNum ≠ 0 := (hs.generation _).2 hm
  have hpack : p'.fildesPack h p'.gbRedVolNum = p.fildesPack h p.gbRedVolNum := by
    rw [fildesPack, fildesPack, hgen, hcur]
  have hne : p'.fildesPack h p'.gbRedVolNum ≠ -1 := by
    rw [hpack, fildesPack_eq hh hs.good.current hstarted]
    omega
  rw [← bind_assoc, Op.Post, Op.bind_ok hrun, Op.get_bind_run, if_neg hne]
  refine ⟨hs', fun a ha => ?_, by simp⟩
  cases ha
  exact ⟨h, i, hh, hnone, hview, hpack, hstarted⟩

/-- **`FildesOpen()`.** -/
lemma fildesOpen_moved (hmax : openInodeCount ≤ UINT16_MAX) (hs : Settled p) (c : Circumstances)
    {path : OpenPath} (hname : p.NameOk (p.pathVolume path.start) path.name)
    (hinode : p.InodeOk (p.pathVolume path.start) path.inode) (ulOpenFlags : OpenFlags)
    (type : FType) (uMode : Mode) : (fildesOpen c path ulOpenFlags type uMode).Post p
      (Moved (Opens p (p.pathVolume path.start)) p) := by
  refine hs.moved_bind (path_entered path.start) fun _ p1 he hp1 hs1 hview1 => ?_
  obtain ⟨-, hp1⟩ := hp1
  have hcur1 : p1.gbRedVolNum = p.pathVolume path.start := by rw [hp1]
  refine .get_bind ?_
  by_cases hro : p1.gpRedVolume.disk.fReadOnly = true ∧ (ulOpenFlags.fWrOnly = true ∨
      ulOpenFlags.fRdWr = true ∨ ulOpenFlags.fTrunc = true)
  · rw [if_pos hro]
    exact hs1.moved_error rfl
  rw [if_neg hro]
  rcases hs1.handleFindFree_run with hfull | ⟨h, hh, hnone, hfree, hs2, hview2⟩
  · rw [Op.Post, Op.bind_ok hfull]
    exact hs1.moved_error rfl
  have hfree' : handleFindFree.Ok p1 fun a p' => a = some h ∧ p' = p1.setHandle h fun _ => .zero :=
    .intro hfree ⟨rfl, rfl⟩
  refine hfree'.bind_post fun _ p2 hp2 => ?_
  obtain ⟨rfl, hp2⟩ := hp2
  rw [← hp2] at hs2 hview2
  have hcur2 : p2.gbRedVolNum = p.pathVolume path.start := by
    rw [hp2]
    exact hcur1
  have hvol2 : p2.gaRedVolume = p.gaRedVolume := by
    rw [hp2]
    exact he.volume
  have hname2 : p2.NameOk p2.gbRedVolNum path.name := by
    rw [NameOk, hcur2, hvol2]
    exact hname
  have hinode2 : p2.InodeOk p2.gbRedVolNum path.inode := by
    rw [InodeOk, hcur2, hvol2]
    exact hinode
  refine (fildesLookup_post hs2 c hname2 hinode2 ulOpenFlags uMode).bind (fun a p3 hp3 => ?_)
    fun e p3 hp3 => hp3.1.settled.moved_error (hp3.1.view.trans hview2)
  obtain ⟨hk3, hreaches⟩ := hp3
  obtain ⟨i, fCreated⟩ := a
  have hreaches := hreaches _ rfl
  -- The rest, once the type of the inode is known.
  have hend {uMode' : Mode} {p4 : PosixState} (hk4 : Kept p3 p4) (hm : p4.gpRedVolume.fMounted)
      (hi : p4.gpRedVolume.disk.Linked p4.gpRedVolume.geo i (uMode' == .dir)) :=
    have hk := hk3.trans hk4
    have hzero : p4.gaHandle h = .zero := by
      rw [hk.frame.handle, hp2]
      simp [setHandle]
    hk4.settled.fildesEnd_moved hmax hh (by rw [hk.view, hview2, hnone]) hzero hm hi ulOpenFlags
  have hmoved {p4 : PosixState} (hk : Kept p2 p4) {ret : Except PosixError ℤ} {q : PosixState}
      (hq : Moved (Opens p4 p4.gbRedVolNum) p4 ret q) :
      Moved (Opens p (p.pathVolume path.start)) p1 ret q := by
    have hview4 : p4.view = p1.view := hk.view.trans hview2
    have hgen4 : p4.gauGeneration = p.gauGeneration := by
      rw [hk.frame.generation, hp2]
      exact he.generation
    have hcur4 : p4.gbRedVolNum = p.pathVolume path.start := hk.current.trans hcur2
    refine ⟨hq.settled, fun fd hfd => ?_, fun e hfail => (hq.error e hfail).trans hview4⟩
    obtain ⟨h', i', hh', hnone', hview', hpack, hstarted⟩ := hq.ok fd hfd
    rw [hview4, hview1] at hnone' hview'
    rw [hcur4] at hview' hpack hstarted
    rw [hgen4] at hstarted
    refine ⟨h', i', hh', hnone', hview', ?_, hstarted⟩
    rw [hpack, fildesPack, fildesPack, hgen4]
  rcases fCreated with _ | _
  · refine (fildesCheck_post hk3.settled ulOpenFlags type hreaches.target).bind
      (fun uMode' p4 hp4 => ?_) fun e p4 hp4 =>
        hp4.1.settled.moved_error ((hk3.trans hp4.1).view.trans hview2)
    obtain ⟨hm, hi⟩ := hp4.2 uMode' rfl
    exact (hend hp4.1 hm hi).mono fun _ _ hq => hmoved (hk3.trans hp4.1) hq
  · obtain ⟨hm, hi⟩ := hreaches.created rfl
    exact Op.Post.mono (hend hk3.settled.kept hm hi) fun _ _ hq => hmoved hk3 hq

/-- `red_openat()`. -/
lemma redOpenat_moved (hmax : openInodeCount ≤ UINT16_MAX) (hs : Settled p) (c : Circumstances)
    {path : OpenPath} (hname : p.NameOk (p.pathVolume path.start) path.name)
    (hinode : p.InodeOk (p.pathVolume path.start) path.inode) (ulOpenFlags : OpenFlags) :
    (redOpenat c path ulOpenFlags).Post p (Moved (Opens p (p.pathVolume path.start)) p) := by
  rw [redOpenat]
  split_ifs
  · exact hs.moved_error rfl
  · exact fildesOpen_moved hmax hs c hname hinode ulOpenFlags _ _
  · exact fildesOpen_moved hmax hs c hname hinode ulOpenFlags _ _

/-- `red_opendir()`. -/
lemma redOpendir_moved (hmax : openInodeCount ≤ UINT16_MAX) (hs : Settled p) (c : Circumstances)
    {path : OpenPath} (hname : p.NameOk (p.pathVolume path.start) path.name)
    (hinode : p.InodeOk (p.pathVolume path.start) path.inode) :
    (redOpendir c path).Post p (Moved (fun h q => ∃ iFildes,
      Opens p (p.pathVolume path.start) iFildes q ∧ h = (fildesUnpack iFildes).1) p) := by
  refine (fildesOpen_moved hmax hs c hname hinode rdOnly FTYPE_DIR .invalid).bind
    (fun fd q hq => .pure ⟨hq.settled, fun h hh => ?_, by simp⟩) fun e q hq =>
      hq.settled.moved_error (hq.error e rfl)
  cases hh
  exact ⟨fd, hq.ok fd rfl, rfl⟩

end PosixState

end RelianceEdge
