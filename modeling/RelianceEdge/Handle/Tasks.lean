import RelianceEdge.Handle.Open

set_option relaxedAutoImplicit false
set_option autoImplicit false
set_option linter.unusedSectionVars false

/-!
# Tasks and their working directories

A task that is registered has a working directory from `red_init()` on: the code in `red_chdir()`
that deals with a task without one is unreachable. Before the driver is initialized there may be
stale references, but none is to a volume that is mounted.

## Main results

* `redChdir_moved`, `redTaskunregister_moved` — the working directory of one task.
* `redInit_moved`, `redUninit_stays`, `powerLoss_moved` — those of all tasks.
-/

namespace RelianceEdge

variable [PosixConf]

open RedConf PosixConf OrphanSpace

namespace PosixState

variable {p p' : PosixState} {r : Ref} {v i o h t : ℕ} {x : ℕ × ℕ} {α : Type}

/-! ## Changing the working directory -/

lemma taskFind_some {ulTaskId : ℕ} (ht : p.taskFind ulTaskId = some t) :
    t < taskCount ∧ (p.gaTask t).ulTaskId = ulTaskId :=
  ⟨List.mem_range.1 (List.mem_of_find?_eq_some ht), by simpa using List.find?_some ht⟩

/-- The search for a task, where no task has come or gone. -/
lemma CallFrame.taskFind (hf : CallFrame p p') (ulTaskId : ℕ) :
    p'.taskFind ulTaskId = p.taskFind ulTaskId := by
  rw [PosixState.taskFind, PosixState.taskFind]
  simp only [hf.task]

/-- **What `red_chdir()` needs** of the inode: it is the root directory, or a directory of the
mounted volume. -/
def CanChdir (p : PosixState) (v i : ℕ) : Prop :=
  i = INODE_ROOTDIR ∨ (p.gaRedVolume v).fMounted ∧
    ∃ ino, (p.gaRedVolume v).disk.node i = some ino ∧ ino.data.fDirectory = true

/-- `red_chdir()`, once the path has been resolved, with its checks. -/
lemma canChdir_post (i : ℕ) : (Op.when (i ≠ INODE_ROOTDIR) do
      let (st_mode, _) ← redCoreStat i
      .when (st_mode ≠ .dir) (.fail (.red .ENOTDIR)) : PosixOp Unit).Post p fun ret p' =>
    p' = p ∧ (ret = .ok () → p.CanChdir p.gbRedVolNum i) := by
  by_cases hi : i = INODE_ROOTDIR
  · rw [Op.when_neg (not_not.2 hi)]
    exact .pure ⟨rfl, fun _ => .inl hi⟩
  rw [Op.when_pos hi]
  obtain ⟨ret, hstat, hok, -⟩ := redCoreStat_run (p := p) i
  rcases ret with e | ⟨mode, n⟩
  · rw [Op.Post, Op.bind_error hstat]
    exact ⟨rfl, by simp⟩
  obtain ⟨hm, ino, hino, ha⟩ := hok _ rfl
  cases ha
  rw [Op.Post, Op.bind_ok hstat]
  dsimp only
  by_cases hdir : ino.data.mode = .dir
  · refine ⟨?_, fun _ => .inr ⟨hm, ino, hino, ?_⟩⟩
    · rw [Op.when_neg (not_not.2 hdir)]
      rfl
    · rcases hdata : ino.data with d | b | b
      · rfl
      · rw [hdata] at hdir
        cases hdir
      · rw [hdata] at hdir
        cases hdir
  · rw [Op.when_pos hdir]
    exact ⟨rfl, by simp⟩

/-- The inode can be a working directory. -/
lemma Settled.offers_cwd (hs : Settled p) (hv : v < volumeCount)
    (htarget : (p.gaRedVolume v).disk.Target (p.gaRedVolume v).geo i) (hcan : p.CanChdir v i) :
    p.Offers (.inr t) (v, i) := by
  rcases hcan with rfl | ⟨hm, ino, hino, hdir⟩
  · exact hs.good.offers_root hv
  · obtain ⟨l, m, hinv⟩ := (hs.good.sound v hv).working hm
    obtain ⟨n, hn, hlink, hb, hdef⟩ := htarget.linked hinv (Space.shape_info hino)
    refine ⟨hv, fun _ => ⟨n, hn, hdef, hb.trans hdir, hlink⟩, fun hmounted => ?_⟩
    have hmounted' : (p.gaRedVolume v).fMounted = false := hmounted
    rw [hm] at hmounted'
    cases hmounted'

/-- **The end of `red_chdir()`** succeeds: the task has a working directory to give up, and there is
an open inode for the new one. -/
lemma Settled.cwdMove_run (hmax : openInodeCount ≤ UINT16_MAX) (hs : Settled p) {ulTaskId : ℕ}
    (ht : p.taskFind ulTaskId = some t) (hcwd : p.view (.inr t) ≠ none) (hv : v < volumeCount)
    (htarget : (p.gaRedVolume v).disk.Target (p.gaRedVolume v).geo i) (hcan : p.CanChdir v i) :
    ∃ p', (match p.taskFind ulTaskId with
      | none => .fail .EFUBAR
      | some pTask =>
        match (p.gaTask pTask).pCwd with
        | none => .fail .EFUBAR
        | some o => do
          openInoDeref o true false
          let pCwd ← openInoFind v i true
          .modify fun p => p.setTask pTask fun task => { task with pCwd }
          match pCwd with
          | some i => openInoRef i
          | none => .fail .EFUBAR : PosixOp Unit) p = (.ok (), p') ∧ Settled p' ∧
      p'.view = Function.update p.view (.inr t) (some (v, i)) ∧ CallFrame p p' := by
  obtain ⟨hlt, -⟩ := taskFind_some ht
  have hne : p.ptr (.inr t) ≠ none := fun hnone => hcwd (hs.good.table.view_eq_none_iff.2 hnone)
  obtain ⟨o, hptr⟩ := Option.ne_none_iff_exists'.1 hne
  have hptr' : (p.gaTask t).pCwd = some o := hptr
  have hvalid : i ≠ INODE_INVALID := by
    rcases hcan with rfl | ⟨hm, ino, hino, -⟩
    · decide
    · obtain ⟨l, m, hinv⟩ := (hs.good.sound v hv).working hm
      exact hinv.valid_ne hino
  rw [ht]
  dsimp only
  rw [hptr']
  obtain ⟨p1, hrun1, h1, hview1, hframe1, -, hoffers⟩ | ⟨hf, -⟩ := hs.good.deref hptr true false
  swap
  · cases hf
  have hptr1 : p1.ptr = Function.update (Function.update p.ptr (.inr t) none) (.inr t)
      (p1.ptr (.inr t)) := by
    rw [Function.update_idem, hframe1.ptr_eq, Function.update_eq_self]
  obtain ⟨p2, hrun2, h2, hview2, hframe2, -⟩ := h1.cwdOpen hmax hptr1 (Function.update_self ..) hlt
    hvalid (hoffers _ _ (hs.offers_cwd hv htarget hcan))
  rw [hview1, Function.update_idem] at hview2
  refine ⟨p2, (Op.bind_ok hrun1).trans hrun2, ?_, hview2, hframe1.call.trans hframe2⟩
  refine hs.of_frame (h2.weaken (by simp)) (hframe1.call.trans hframe2) fun t' _ ht' => ?_
  rw [hview2]
  by_cases htt : t' = t
  · subst htt
    rw [Function.update_self]
    simp
  · rwa [Function.update_of_ne fun heq => htt (Sum.inr.inj heq)]

/-- **`red_chdir()`.** -/
lemma redChdir_moved (hmax : openInodeCount ≤ UINT16_MAX) (hs : Settled p)
    (hi : p.gfPosixInited = true) {ulTaskId : ℕ} {start : Found Unit}
    {inode : Except RedError ℕ} (hinode : p.InodeOk (p.pathVolume start) inode) :
    (redChdir ulTaskId start inode).Post p (Moved (fun _ q => ∃ t i,
      q.taskFind ulTaskId = some t ∧ inode = .ok i ∧
      q.view = Function.update p.view (.inr t) (some (p.pathVolume start, i))) p) := by
  refine hs.moved_bind (path_entered start) fun _ p1 he hp1 hs1 hview1 => ?_
  obtain ⟨-, hp1⟩ := hp1
  have hcur : p1.gbRedVolNum = p.pathVolume start := by rw [hp1]
  rw [← hcur, ← hview1]
  rw [← hcur, InodeOk, ← he.volume] at hinode
  refine .get_bind (hs1.moved_bind ofRed_entered fun i p2 _ hp2 hs2 _ => ?_)
  obtain ⟨rfl, hret⟩ := hp2
  have hcheck := (canChdir_post (p := p2) i).mono fun ret p' hp' => (⟨hp'.1 ▸ .refl p2,
    fun a ha => ⟨hp'.1, hp'.2 ha⟩⟩ : Entered p2 p' ∧
      ∀ a : Unit, ret = .ok a → p' = p2 ∧ p2.CanChdir p2.gbRedVolNum i)
  refine hs2.moved_bind hcheck fun _ p3 _ hp3 hs3 _ => ?_
  obtain ⟨rfl, hcan⟩ := hp3
  refine .get_bind ?_
  rcases ht : p3.taskFind ulTaskId with _ | t
  · exact hs3.moved_error rfl
  have hcwd := hs3.cwd (he.inited.trans hi) t (taskFind_some ht).1
  obtain ⟨p', hrun, hs', hview, hframe⟩ := hs3.cwdMove_run hmax ht hcwd hs3.good.current
    (hinode i hret) hcan
  rw [ht] at hrun
  have hmoved : Moved (fun _ q => ∃ t i, q.taskFind ulTaskId = some t ∧ inode = .ok i ∧
      q.view = Function.update p3.view (.inr t) (some (p3.gbRedVolNum, i))) p3
      (.ok () : Except PosixError Unit) p' :=
    ⟨hs', fun _ _ => ⟨t, i, (hframe.taskFind ulTaskId).trans ht, hret, hview⟩, by simp⟩
  exact (congrArg (fun y => Moved _ p3 y.1 y.2) hrun).mpr hmoved

/-! ## Tasks that come and go -/

lemma redTaskregister_stays (hs : Settled p) (ulTaskId : ℕ) :
    (redTaskregister ulTaskId).Post p (Stays p) := by
  refine .get_bind ?_
  by_cases hi : p.gfPosixInited = true
  · rw [if_pos hi]
    refine (taskRegister_entered ulTaskId).bind_post fun a p' hp' => ?_
    rcases a with _ | t
    · exact .fail (hp'.1.settled hs)
    · exact .pure (hp'.1.settled hs)
  · rw [if_neg hi]
    exact .fail ⟨hs, rfl⟩

/-- The working directory of a task is closed, between two calls. -/
lemma Settled.cwdClose_moved (hmax : openInodeCount ≤ UINT16_MAX) (hs : Settled p)
    (ht : t < taskCount) (fReset : Bool) : (cwdClose t true fReset).Ok p fun _ p' => Settled p' ∧
      p'.view = Function.update p.view (.inr t) (some (0, INODE_ROOTDIR)) ∧ CallFrame p p' := by
  obtain ⟨p', hrun, hgood, hview, hframe, -⟩ := hs.good.cwdClose_run hmax ht true fReset (.inl rfl)
  refine .intro hrun ⟨hs.of_frame (hgood.weaken (by simp)) hframe fun t' _ ht' => ?_, hview, hframe⟩
  rw [hview]
  by_cases htt : t' = t
  · subst htt
    rw [Function.update_self]
    simp
  · rwa [Function.update_of_ne fun heq => htt (Sum.inr.inj heq)]

/-- `red_taskunregister()`. -/
lemma redTaskunregister_moved (hmax : openInodeCount ≤ UINT16_MAX) (hs : Settled p)
    (ulTaskId : ℕ) : (redTaskunregister ulTaskId).Post p (Moved (fun _ q => ∃ t,
      p.taskFind ulTaskId = some t ∧
      q.view = Function.update p.view (.inr t) (some (0, INODE_ROOTDIR))) p) := by
  refine .get_bind ?_
  by_cases hi : p.gfPosixInited = true
  swap
  · rw [if_neg hi]
    exact hs.moved_error rfl
  rw [if_pos hi]
  refine .get_bind ?_
  rcases ht : p.taskFind ulTaskId with _ | t
  · exact hs.moved_error rfl
  obtain ⟨hs1, hview1⟩ := (entered_setTask (p := p) (t := t) 0).settled hs
  refine .modify_bind ((hs1.cwdClose_moved hmax (taskFind_some ht).1 false).post
    fun _ q hq => ⟨hq.1, fun _ _ => ⟨t, rfl, ?_⟩, by simp⟩)
  rw [hq.2.1, hview1]

/-! ## The driver -/

/-- The working directories after `red_init()`. -/
def atRoot (l : List ℕ) (V : View) : View
  | .inl h => V (.inl h)
  | .inr t => if t ∈ l then some (0, INODE_ROOTDIR) else V (.inr t)

/-- The loop of `CwdResetAll()`. -/
lemma Good.cwdResetAllLoop_run (hmax : openInodeCount ≤ UINT16_MAX) : ∀ (l : List ℕ)
    {p : PosixState}, Good ∅ p.ptr p → (∀ t ∈ l, t < taskCount) →
    ∃ p', cwdResetAllLoop l p = (.ok (), p') ∧ Good ∅ p'.ptr p' ∧ p'.view = atRoot l p.view ∧
      CallFrame p p' := by
  intro l
  induction l with
  | nil =>
    intro p hg _
    refine ⟨p, rfl, hg, ?_, .refl p⟩
    funext r
    cases r with
    | inl h => rfl
    | inr t => simp [atRoot]
  | cons t rest ih =>
    intro p hg hl
    obtain ⟨p1, hrun1, h1, hview1, hframe1, -⟩ :=
      hg.cwdClose_run hmax (hl t (by simp)) true true (.inl rfl)
    obtain ⟨p', hrun', hgood, hview', hframe'⟩ :=
      ih (h1.weaken (by simp)) fun t' ht' => hl t' (by simp [ht'])
    refine ⟨p', ?_, hgood, ?_, hframe1.trans hframe'⟩
    · rw [cwdResetAllLoop, Op.attempt_bind_run, hrun1]
      exact hrun'
    · rw [hview', hview1]
      funext r
      cases r with
      | inl h =>
        have hne : (.inl h : Ref) ≠ .inr t := Sum.inl_ne_inr
        simp only [atRoot, Function.update_of_ne hne]
      | inr a =>
        by_cases ha : a = t
        · subst ha
          simp [atRoot]
        · have hne : (.inr a : Ref) ≠ .inr t := fun heq => ha (Sum.inr.inj heq)
          simp only [atRoot, Function.update_of_ne hne, List.mem_cons, ha, false_or]

/-- Tables of zeroes. -/
lemma counted_zero : Refs.Counted refSet objects (fun _ => none) (fun _ => 0)
    (fun _ => (none : Option (ℕ × ℕ))) where
  mem _ _ h := by cases h
  refs_eq o _ := by simp [Refs.count]
  used o _ := by simp
  unique _ _ _ _ _ h := by cases h

/-- **The state after a start**: the tables are zero, and no volume is mounted. -/
structure Zeroed (p : PosixState) : Prop where
  openInos : p.gaOpenInos = fun _ => .zero
  handle : p.gaHandle = fun _ => .zero
  task : p.gaTask = fun _ => .zero
  mounted : ∀ v, (p.gaRedVolume v).fMounted = false
  current : p.gbRedVolNum < volumeCount
  sound : ∀ v < volumeCount, (p.gaRedVolume v).Sound

lemma Zeroed.good (hz : Zeroed p) : Good ∅ p.ptr p ∧ p.view = fun _ => none := by
  have hptr : p.ptr = fun _ => none := by
    funext r
    cases r with
    | inl h => rw [PosixState.ptr, hz.handle]; rfl
    | inr t => rw [PosixState.ptr, hz.task]; rfl
  have hkey : p.key = fun _ => none := by
    funext o
    rw [key_eq_none, hz.openInos]
    rfl
  have hrefs : p.refs = fun _ => 0 := by
    funext o
    rw [PosixState.refs, hz.openInos]
    rfl
  have hview (r : Ref) : Refs.view p.ptr p.key r = none := by
    rw [hptr]
    rfl
  refine ⟨⟨?_, hz.current, hz.sound, fun r x hx => ?_, fun r _ x hx => ?_⟩, funext hview⟩
  · rw [hptr, hkey, hrefs]
    exact counted_zero
  · rw [hview] at hx
    cases hx
  · rw [hview] at hx
    cases hx

/-- **`red_init()`.** It does nothing when the driver is initialized. -/
lemma redInit_moved (hmax : openInodeCount ≤ UINT16_MAX) (hs : Settled p)
    (os : Except RedError Unit) : (redInit os).Post p (Moved (fun _ q => q.view =
      if p.gfPosixInited then p.view else atRoot (List.range taskCount) fun _ => none) p) := by
  refine .get_bind ?_
  rcases hi : p.gfPosixInited with _ | _
  swap
  · exact ⟨hs, fun _ _ => rfl, by simp⟩
  rw [Op.when_pos rfl]
  have hunmounted {v : ℕ} (hv : v < volumeCount) := hs.uninited hi v hv
  rcases os with e | ⟨⟩
  · -- Only the volumes have changed, none of which is mounted.
    refine Settled.moved_error ?_ rfl
    refine ⟨hs.good.congr rfl rfl hs.good.current (fun v hv => (hs.good.sound v hv).reset)
      fun r _ x hx hserves => ⟨fun hm => (Bool.false_ne_true hm).elim,
        fun _ => hserves.unmounted (hunmounted (hs.good.valid r x hx))⟩,
      fun hi' => ?_, fun _ v _ => rfl, fun v => ⟨(hs.generation v).1,
        fun hm => (Bool.false_ne_true hm).elim⟩⟩
    exact (Bool.false_ne_true (hi.symm.trans hi')).elim
  let p1 : PosixState := { p with
    gaRedVolume := fun v => { p.gaRedVolume v with
      fMounted := false
      disk := { (p.gaRedVolume v).disk with fBranched := false, fReadOnly := false } }
    gaHandle := fun _ => .zero
    gaOpenInos := fun _ => .zero
    gaTask := fun _ => .zero }
  have hzero : Zeroed p1 :=
    ⟨rfl, rfl, rfl, fun _ => rfl, hs.good.current, fun v hv => (hs.good.sound v hv).reset⟩
  obtain ⟨hgood1, hview1⟩ := hzero.good
  obtain ⟨p2, hrun2, h2, hview2, hframe2⟩ := hgood1.cwdResetAllLoop_run hmax
    (List.range taskCount) fun t ht => List.mem_range.1 ht
  have hrun : (do
      redCoreInit (.ok ())
      .modify fun p => { p with
        gaHandle := fun _ => .zero
        gaOpenInos := fun _ => .zero
        gaTask := fun _ => .zero }
      cwdResetAll
      .modify fun p => { p with gfPosixInited := true } : PosixOp Unit) p =
      (.ok (), { p2 with gfPosixInited := true }) := Op.bind_ok hrun2
  rw [hview1] at hview2
  rw [Op.Post, hrun]
  refine ⟨⟨h2.congr rfl rfl h2.current h2.sound fun _ _ _ _ hserves => hserves, fun _ t ht => ?_,
    by simp, fun v => ⟨?_, fun hm => ?_⟩⟩, fun _ _ => hview2, by simp⟩
  · change p2.view (.inr t) ≠ none
    rw [hview2, atRoot, if_pos (List.mem_range.2 ht)]
    simp
  · change p2.gauGeneration v ≤ FD_GEN_MAX
    rw [hframe2.generation]
    exact (hs.generation v).1
  · have hm' : (p2.gaRedVolume v).fMounted = true := hm
    rw [hframe2.mounted] at hm'
    cases hm'

/-- `red_uninit()`. -/
lemma redUninit_stays (hs : Settled p) (os : Except RedError Unit) :
    (redUninit os).Post p (Stays p) := by
  refine .get_bind ?_
  by_cases hi : p.gfPosixInited = true
  swap
  · rw [Op.when_neg hi]
    exact .pure ⟨hs, rfl⟩
  rw [Op.when_pos hi]
  rcases hany : (List.range volumeCount).any fun v => (p.gaRedVolume v).fMounted with _ | _
  swap
  · exact .fail ⟨hs, rfl⟩
  have hnone (v : ℕ) (hv : v < volumeCount) : (p.gaRedVolume v).fMounted = false := by
    simpa using List.any_eq_false.1 hany v (List.mem_range.2 hv)
  exact ⟨⟨hs.good.congr rfl rfl hs.good.current hs.good.sound fun _ _ _ _ hserves => hserves,
    fun hm => (Bool.false_ne_true hm).elim, fun _ => hnone, hs.generation⟩, rfl⟩

/-- **The power fails.** -/
lemma powerLoss_moved (hs : Settled p) :
    powerLoss.Post p (Moved (fun _ q => q.view = fun _ => none) p) := by
  have hzero : Zeroed (powerLoss p).2 := ⟨rfl, rfl, rfl, fun _ => rfl, volumeCount_mem.1,
    fun v hv => (hs.good.sound v hv).reset⟩
  obtain ⟨hgood, hview⟩ := hzero.good
  refine ⟨⟨hgood, by simp [powerLoss], fun _ v _ => rfl, fun v => ⟨?_, by simp [powerLoss]⟩⟩,
    fun _ _ => hview, fun e he => ?_⟩
  · exact Nat.zero_le _
  · cases he

end PosixState

end RelianceEdge
