import RelianceEdge.Handle.Tables

set_option relaxedAutoImplicit false
set_option autoImplicit false
set_option linter.unusedSectionVars false

/-!
# Handles and working directories

What `HandleClose()`, `CwdClose()` and `CwdCloseVol()` do to the references: a handle is gone, and
a working directory is the root directory of a volume. They keep the invariant of the tables, and
`CwdCloseVol()` even restores it after a rollback, where working directories may be lost.

## Main definitions

* `PosixState.view` — what the references are for.
* `PosixState.rooted` — working directories of a volume are closed.

## Main results

* `Good.cwdClose_run`, `Good.cwdCloseVolLoop_run` — working directories.
* `Good.handleClose_run` — handles.
-/

namespace RelianceEdge

variable [PosixConf]

open RedConf PosixConf OrphanSpace

/-- What the references are for. -/
abbrev View := Ref → Option (ℕ × ℕ)

namespace PosixState

/-- **What the references are for.** -/
def view (p : PosixState) : View := Refs.view p.ptr p.key

variable {X : Set Ref} {ptr : Ref → Option ℕ} {p p' : PosixState} {r : Ref} {v i o h t : ℕ}
  {x : ℕ × ℕ}

/-! ## Handles and task slots -/

lemma Frame.ptr_eq (hf : Frame p p') : p'.ptr = p.ptr := by
  funext r
  cases r with
  | inl h => rw [PosixState.ptr, PosixState.ptr, hf.handle]
  | inr t => rw [PosixState.ptr, PosixState.ptr, hf.task]

lemma ptr_setHandle (f : RedHandle → RedHandle) :
    (p.setHandle h f).ptr = Function.update p.ptr (.inl h) (f (p.gaHandle h)).pOpenIno := by
  funext r
  cases r with
  | inl a =>
    by_cases ha : a = h
    · subst ha
      simp [PosixState.ptr, setHandle]
    · simp [PosixState.ptr, setHandle, ha]
  | inr a => simp [PosixState.ptr, setHandle]

lemma ptr_setTask (f : TaskSlot → TaskSlot) :
    (p.setTask t f).ptr = Function.update p.ptr (.inr t) (f (p.gaTask t)).pCwd := by
  funext r
  cases r with
  | inl a => simp [PosixState.ptr, setTask]
  | inr a =>
    by_cases ha : a = t
    · subst ha
      simp [PosixState.ptr, setTask]
    · simp [PosixState.ptr, setTask, ha]

lemma fits_setHandle {f : RedHandle → RedHandle} {n : Info} (hr : r ≠ .inl h) :
    (p.setHandle h f).Fits r n ↔ p.Fits r n := by
  cases r with
  | inl a =>
    have ha : a ≠ h := fun heq => hr (heq ▸ rfl)
    simp [Fits, setHandle, ha]
  | inr a => rfl

/-- A handle that is not in use may change. -/
lemma Good.changeHandle (hg : Good X ptr p) (hnone : ptr (.inl h) = none)
    (f : RedHandle → RedHandle) :
    Good X ptr (p.setHandle h f) := by
  refine hg.congr rfl rfl hg.current hg.sound fun r _ x hx hs => hs.mono fun n hn =>
    ⟨(fits_setHandle ?_).2 hn.1, hn.2⟩
  rintro rfl
  rw [Refs.view, hnone] at hx
  cases hx

/-- A volume keeps its root directory. -/
lemma keeps_root {vol : PosixVolume} (hs : vol.Sound) : vol.Keeps INODE_ROOTDIR
    (fun n => n.fDirectory = true ∧ n.uNLink ≠ 0) True := by
  refine ⟨fun hm => ?_, fun _ => ⟨rfl, trivial⟩⟩
  obtain ⟨l, m, hinv⟩ := hs.working hm
  obtain ⟨n, hn, hdir⟩ := hinv.space.shape.root
  obtain ⟨ino, hino, rfl⟩ := Space.shape_info_eq_some hn
  have hnot := hinv.root_ne
  refine ⟨ino.info, hn, fun hd => ?_, hdir, fun h0 => hnot ⟨ino, hino, h0⟩⟩
  exact hnot ((hinv.lists.mem _).1 (.inr (hinv.defunct_iff.1 hd)))

/-- The root directory of a volume can be a working directory. -/
lemma Good.offers_root (hg : Good X ptr p) (hv : v < volumeCount) :
    p.Offers (.inr t) (v, INODE_ROOTDIR) :=
  ⟨hv, (keeps_root (hg.sound v hv)).mounted, fun _ => ⟨rfl, rfl⟩⟩

/-! ## Working directories -/

/-- What the functions on references leave alone. -/
structure CallFrame (p p' : PosixState) : Prop where
  inited : p'.gfPosixInited = p.gfPosixInited
  task : ∀ t, (p'.gaTask t).ulTaskId = (p.gaTask t).ulTaskId
  generation : p'.gauGeneration = p.gauGeneration
  mounted : ∀ v, (p'.gaRedVolume v).fMounted = (p.gaRedVolume v).fMounted
  geo : ∀ v, (p'.gaRedVolume v).geo = (p.gaRedVolume v).geo

lemma CallFrame.refl (p : PosixState) : CallFrame p p :=
  ⟨rfl, fun _ => rfl, rfl, fun _ => rfl, fun _ => rfl⟩

lemma CallFrame.trans {p'' : PosixState} (h : CallFrame p p') (h' : CallFrame p' p'') :
    CallFrame p p'' where
  inited := h'.inited.trans h.inited
  task t := (h'.task t).trans (h.task t)
  generation := h'.generation.trans h.generation
  mounted v := (h'.mounted v).trans (h.mounted v)
  geo v := (h'.geo v).trans (h.geo v)

lemma Frame.call (h : Frame p p') : CallFrame p p' :=
  ⟨h.inited, fun t => by rw [h.task], h.generation, h.mounted, h.geo⟩

/-- The state in which the working directory of a task is an open inode, counted once more. -/
def withCwd (p : PosixState) (g : ℕ → OpenInode) (t o : ℕ) : PosixState :=
  (({ p with gaOpenInos := g }).setTask t fun task => { task with pCwd := some o }).setOpenIno o
    fun oi => { oi with uRefs := (oi.uRefs + 1) % 65536 }

/-- **A working directory is made**, where there is none: `OpenInoFind()` and the count, as
`CwdClose()` and `red_chdir()` have them. -/
lemma Good.cwdOpen (hmax : openInodeCount ≤ UINT16_MAX) (hg : Good X ptr p)
    (hptr : p.ptr = Function.update ptr (.inr t) (p.ptr (.inr t))) (hnone : ptr (.inr t) = none)
    (ht : t < taskCount) (hi : i ≠ INODE_INVALID) (hoffer : p.Offers (.inr t) (v, i)) :
    ∃ p', (do
        let pCwd ← openInoFind v i true
        .modify fun p => p.setTask t fun task => { task with pCwd }
        match pCwd with
        | some i => openInoRef i
        | none => .fail .EFUBAR : PosixOp Unit) p = (.ok (), p') ∧
      Good (X \ {.inr t}) p'.ptr p' ∧
      p'.view = Function.update (Refs.view ptr p.key) (.inr t) (some (v, i)) ∧ CallFrame p p' ∧
      p'.gbRedVolNum = p.gbRedVolNum ∧ p'.gaRedVolume = p.gaRedVolume := by
  obtain ⟨o, g, hrun, hacq⟩ := acquire (v := v) hmax hg.table (task_mem.2 ht) hnone hi
  have hptr' : (p.withCwd g t o).ptr = Function.update ptr (.inr t) (some o) := by
    change (({ p with gaOpenInos := g }).setTask t fun task => { task with pCwd := some o }).ptr = _
    rw [ptr_setTask]
    change Function.update p.ptr (.inr t) (some o) = _
    rw [hptr, Function.update_idem]
  have hfits (r' : Ref) (_ : r' ≠ .inr t) (n : Info) (hn : p.Fits r' n) :
      (p.withCwd g t o).Fits r' n := by
    cases r' with
    | inl a => exact hn
    | inr a => exact hn
  have hattach : Good (X \ {.inr t}) (Function.update ptr (.inr t) (some o)) (p.withCwd g t o) ∧
      Refs.view (Function.update ptr (.inr t) (some o)) (p.withCwd g t o).key =
        Function.update (Refs.view ptr p.key) (.inr t) (some (v, i)) :=
    hg.attach hacq rfl rfl rfl hfits hoffer
  have hend : (do
        let pCwd ← openInoFind v i true
        .modify fun p => p.setTask t fun task => { task with pCwd }
        match pCwd with
        | some i => openInoRef i
        | none => .fail .EFUBAR : PosixOp Unit) p = (.ok (), p.withCwd g t o) := by
    rw [Op.bind_ok hrun]
    rfl
  refine ⟨_, hend, by rw [hptr']; exact hattach.1, by rw [PosixState.view, hptr', hattach.2],
    ⟨rfl, fun t' => ?_, rfl, fun _ => rfl, fun _ => rfl⟩, rfl, rfl⟩
  by_cases htt : t' = t
  · subst htt
    simp [withCwd, setTask, setOpenIno]
  · simp [withCwd, setTask, setOpenIno, htt]

/-- **`CwdClose()`**: the task gets the root directory of a volume as its working directory. -/
lemma Good.cwdClose_run (hmax : openInodeCount ≤ UINT16_MAX) (hg : Good X p.ptr p)
    (ht : t < taskCount) (fClearVol fReset : Bool)
    (hcur : fClearVol = true ∨ ∀ y, p.view (.inr t) = some y → y.1 = p.gbRedVolNum) :
    ∃ p', cwdClose t fClearVol fReset p = (.ok (), p') ∧ Good (X \ {.inr t}) p'.ptr p' ∧
      p'.view = Function.update p.view (.inr t)
        (some (if fClearVol then 0 else p.gbRedVolNum, INODE_ROOTDIR)) ∧ CallFrame p p' ∧
      (fClearVol = false → p'.gbRedVolNum = p.gbRedVolNum) := by
  have hvol : 0 < volumeCount := volumeCount_mem.1
  -- The rest of the function, after the reference has been given up.
  have hrest {p1 : PosixState} (h1 : Good X (Function.update p.ptr (.inr t) none) p1)
      (hview : Refs.view (Function.update p.ptr (.inr t) none) p1.key =
        Function.update p.view (.inr t) none) (hframe : Frame p p1)
      (hcur1 : fClearVol = false → p1.gbRedVolNum = p.gbRedVolNum) :
      ∃ p', (do
          let p ← .get
          let pCwd ← openInoFind (if fClearVol then 0 else p.gbRedVolNum) INODE_ROOTDIR true
          .modify fun p => p.setTask t fun task => { task with pCwd }
          match pCwd with
          | some i => openInoRef i
          | none => .fail .EFUBAR : PosixOp Unit) p1 = (.ok (), p') ∧
        Good (X \ {.inr t}) p'.ptr p' ∧ p'.view = Function.update p.view (.inr t)
          (some (if fClearVol then 0 else p.gbRedVolNum, INODE_ROOTDIR)) ∧ CallFrame p p' ∧
        (fClearVol = false → p'.gbRedVolNum = p.gbRedVolNum) := by
    have hv : (if fClearVol then 0 else p1.gbRedVolNum) < volumeCount := by
      split_ifs
      · exact hvol
      · exact h1.current
    have hptr : p1.ptr = Function.update (Function.update p.ptr (.inr t) none) (.inr t)
        (p1.ptr (.inr t)) := by
      rw [Function.update_idem, hframe.ptr_eq, Function.update_eq_self]
    obtain ⟨p', hrun, hgood, hview', hframe', hcur', -⟩ := h1.cwdOpen hmax hptr
      (Function.update_self ..) ht (by decide) (h1.offers_root hv)
    refine ⟨p', hrun, hgood, ?_, hframe.call.trans hframe', fun hf => ?_⟩
    · rw [hview', hview, Function.update_idem]
      by_cases hf : fClearVol = true
      · rw [if_pos hf, if_pos hf]
      · rw [if_neg hf, if_neg hf, hcur1 (by simpa using hf)]
    · rw [hcur', hcur1 hf]
  rw [cwdClose, Op.get_bind_run]
  rcases hptr : (p.gaTask t).pCwd with _ | o
  · have hnone : Function.update p.ptr (.inr t) none = p.ptr :=
      Function.update_eq_self_iff.2 hptr.symm
    refine hrest (by rw [hnone]; exact hg) ?_ (.refl p) fun _ => rfl
    have hview : p.view (.inr t) = none := hg.table.view_eq_none_iff.2 hptr
    rw [hnone, ← hview, Function.update_eq_self]
    rfl
  · have hptr' : p.ptr (.inr t) = some o := hptr
    obtain ⟨p1, hrun, h1, hview, hframe, hcur1, -⟩ | ⟨hf, -⟩ := hg.deref hptr' (!fReset) false
    swap
    · cases hf
    obtain ⟨y, hkey, hy⟩ := hg.table.view_some hptr'
    obtain ⟨p', hrun', hend⟩ := hrest h1 hview hframe fun hf => hcur1.elim id fun heq => by
      rcases hcur with htrue | hcur
      · rw [hf] at htrue
        cases htrue
      · rw [heq, ← hcur y hy, (key_eq_some.1 hkey).2.1]
    exact ⟨p', (Op.bind_ok hrun).trans hrun', hend⟩

/-- Working directories of a volume are closed: they become its root directory. -/
def rooted (v : ℕ) (l : List ℕ) (V : View) : View
  | .inl h => V (.inl h)
  | .inr t =>
    if t ∈ l ∧ (V (.inr t)).map Prod.fst = some v then some (v, INODE_ROOTDIR) else V (.inr t)

/-- The references among the tasks of a list that are not served. -/
def stale (X : Set Ref) (l : List ℕ) : Set Ref := { r | r ∈ X ∧ ∃ t ∈ l, r = .inr t }

/-- **The loop of `CwdCloseVol()`.** The working directories that are closed need not be served
before. -/
lemma Good.cwdCloseVolLoop_run (hmax : openInodeCount ≤ UINT16_MAX) (fReset : Bool) :
    ∀ (l : List ℕ) {p : PosixState}, Good (stale X l) p.ptr p → (∀ t ∈ l, t < taskCount) →
      (∀ r ∈ X, (p.view r).map Prod.fst = some p.gbRedVolNum) →
      ∃ p', cwdCloseVolLoop fReset l p = (.ok (), p') ∧ Good ∅ p'.ptr p' ∧
        p'.view = rooted p.gbRedVolNum l p.view ∧ CallFrame p p' ∧
        p'.gbRedVolNum = p.gbRedVolNum := by
  intro l
  induction l with
  | nil =>
    intro p hg _ _
    have hstale : stale X [] = ∅ := by
      ext r
      simp [stale]
    refine ⟨p, rfl, hstale ▸ hg, ?_, .refl p, rfl⟩
    funext r
    cases r with
    | inl h => rfl
    | inr t => simp [rooted]
  | cons t rest ih =>
    intro p hg hl hX
    have ht := hl t (by simp)
    have hrest : ∀ t ∈ rest, t < taskCount := fun t' ht' => hl t' (by simp [ht'])
    rw [cwdCloseVolLoop, Op.get_bind_run]
    by_cases hon : (p.view (.inr t)).map Prod.fst = some p.gbRedVolNum
    · -- The working directory is on the volume.
      obtain ⟨y, hy, hcur⟩ := Option.map_eq_some_iff.1 hon
      obtain ⟨-, o, -, hptr, hkey⟩ := hg.table.of_view hy
      have hvol := (key_eq_some.1 hkey).2.1
      obtain ⟨p1, hrun, h1, hview, hframe, hcur1⟩ := hg.cwdClose_run hmax ht false fReset
        (.inr fun y' hy' => by rw [hy] at hy'; cases hy'; exact hcur)
      have hcur1 := hcur1 rfl
      have hsub : stale X (t :: rest) \ {.inr t} ⊆ stale X rest := by
        rintro r ⟨⟨hr, t', ht', rfl⟩, hne⟩
        rcases List.mem_cons.1 ht' with rfl | ht'
        · exact absurd rfl hne
        · exact ⟨hr, t', ht', rfl⟩
      have hX1 (r : Ref) (hr : r ∈ X) : (p1.view r).map Prod.fst = some p1.gbRedVolNum := by
        rw [hview, hcur1]
        by_cases hrt : r = .inr t
        · rw [hrt, Function.update_self]
          rfl
        · rw [Function.update_of_ne hrt]
          exact hX r hr
      obtain ⟨p', hrun', hgood, hview', hframe', hcur'⟩ := ih (h1.weaken hsub) hrest hX1
      refine ⟨p', ?_, hgood, ?_, hframe.trans hframe', hcur'.trans hcur1⟩
      · have hptr' : (p.gaTask t).pCwd = some o := hptr
        have hwhen : Op.when ((p.gaOpenInos o).bVolNum = p.gbRedVolNum)
            (cwdClose t false fReset) p = (.ok (), p1) := by
          rw [Op.when_pos (hvol.trans hcur), hrun]
        rw [hptr']
        exact (Op.bind_ok hwhen).trans hrun'
      · rw [hview', hcur1, hview]
        funext r
        cases r with
        | inl h =>
          have hne : (.inl h : Ref) ≠ .inr t := Sum.inl_ne_inr
          simp only [rooted, Function.update_of_ne hne]
        | inr a =>
          by_cases hat : a = t
          · subst hat
            simp [rooted, hon]
          · have hne : (.inr a : Ref) ≠ .inr t := fun heq => hat (Sum.inr.inj heq)
            simp only [rooted, Function.update_of_ne hne, List.mem_cons, hat, false_or]
    · -- It is on another one, or there is none.
      have hstale : stale X (t :: rest) ⊆ stale X rest := by
        rintro r ⟨hr, t', ht', rfl⟩
        rcases List.mem_cons.1 ht' with rfl | ht'
        · exact absurd (hX _ hr) hon
        · exact ⟨hr, t', ht', rfl⟩
      obtain ⟨p', hrun', hgood, hview', hframe', hcur'⟩ := ih (hg.weaken hstale) hrest hX
      refine ⟨p', ?_, hgood, ?_, hframe', hcur'⟩
      · rcases hptr : (p.gaTask t).pCwd with _ | o
        · exact hrun'
        · have hptr' : p.ptr (.inr t) = some o := hptr
          obtain ⟨y, hkey, hy⟩ := hg.table.view_some hptr'
          have hne : (p.gaOpenInos o).bVolNum ≠ p.gbRedVolNum := by
            intro heq
            refine hon (Option.map_eq_some_iff.2 ⟨y, hy, ?_⟩)
            rw [← heq, (key_eq_some.1 hkey).2.1]
          have hwhen : Op.when ((p.gaOpenInos o).bVolNum = p.gbRedVolNum)
              (cwdClose t false fReset) p = (.ok (), p) := by
            rw [Op.when_neg hne]
            rfl
          exact (Op.bind_ok hwhen).trans hrun'
      · rw [hview']
        funext r
        cases r with
        | inl h => rfl
        | inr a =>
          by_cases hat : a = t
          · subst hat
            simp [rooted, hon]
          · simp only [rooted, List.mem_cons, hat, false_or]

/-! ## Handles -/

/-- A handle that is open is for an inode of a mounted volume. -/
lemma Good.handle_mounted (hg : Good X ptr p) (hx : .inl h ∉ X)
    (hview : Refs.view ptr p.key (.inl h) = some x) : (p.gaRedVolume x.1).fMounted := by
  by_contra hm
  obtain ⟨-, hright⟩ := (hg.served _ hx x hview).unmounted (by simpa using hm)
  simp at hright

/-- `RedCoreVolTransact()` of a mounted volume. -/
lemma Good.transact (hg : Good X ptr p) (hm : p.gpRedVolume.fMounted) :
    ∃ ret p', redCore .transact p = (ret, p') ∧ Good X ptr p' ∧ p'.key = p.key ∧ Frame p p' ∧
      p'.gbRedVolNum = p.gbRedVolNum ∧ (p.gpRedVolume.disk.fReadOnly = false → ret = .ok ()) := by
  rcases hrun : Call.transact.exec p.gpRedVolume.geo p.gpRedVolume.disk with ⟨ret, d⟩
  refine ⟨_, _, redCore_run hm hrun, hg.core_of_keeps hm (by simp [Call.Legal])
    (by simp [Call.Onward]) hrun (swapped_setVolume d) (by simp) (by simp [Call.Takes]), rfl,
    frame_setVolume (fun _ => rfl) fun _ => rfl, rfl, fun hro => ?_⟩
  rw [Call.exec, NameDisk.whenWriteable, Op.get_bind_run, hro] at hrun
  cases hrun
  rfl

/-- `HandleClose()`, up to where it gives the reference up. -/
lemma Good.handleClose_start (hg : Good ∅ p.ptr p) (hptr : p.ptr (.inl h) = some o)
    (fTransFlag : Bool) (hview : Refs.view p.ptr p.key (.inl h) = some (v, i)) :
    handleClose h fTransFlag p = (do
      openInoDeref o true (!(p.gaRedVolume v).disk.fReadOnly && fTransFlag)
      .modify fun p => p.setHandle h fun h => { h with pOpenIno := none }
      let q ← .get
      .when (!q.gpRedVolume.disk.fReadOnly &&
        (!(p.gaRedVolume v).disk.fReadOnly && fTransFlag)) (redCore .transact) : PosixOp Unit)
      { p with gbRedVolNum := v } := by
  have hh := handle_mem.1 (hg.table.mem _ o hptr).1
  have hm : (p.gaRedVolume v).fMounted := hg.handle_mounted (by simp) hview
  have hptr' : (p.gaHandle h).pOpenIno = some o := hptr
  have hkey : p.key o = some (v, i) := by
    rw [Refs.view, hptr] at hview
    exact hview
  have hvol := (key_eq_some.1 hkey).2.1
  have hset : redCoreVolSetCurrent (p.gaOpenInos o).bVolNum p =
      (.ok (), { p with gbRedVolNum := v }) := by
    rw [hvol]
    exact redCoreVolSetCurrent_run (hg.valid _ _ hview)
  have hcheck : ¬ ((p.gaRedVolume v).disk.fReadOnly = false ∧ (p.gaRedVolume v).fMounted = false) :=
    fun hc => by simp [hm] at hc
  rw [handleClose, Op.get_bind_run, if_neg (by omega), hptr']
  refine (Op.bind_ok hset).trans (Op.bind_ok (a := ()) ?_)
  exact congrFun (Op.when_neg hcheck _) _

/-- **`HandleClose()`** gives the reference of the handle up, or fails in a transaction and leaves
it. -/
lemma Good.handleClose_run (hg : Good ∅ p.ptr p) (hptr : p.ptr (.inl h) = some o)
    (fTransFlag : Bool) :
    (∃ p', handleClose h fTransFlag p = (.ok (), p') ∧ Good ∅ p'.ptr p' ∧
      p'.view = Function.update p.view (.inl h) none ∧ CallFrame p p' ∧
      p'.gbRedVolNum = (p.gaOpenInos o).bVolNum) ∨
    fTransFlag = true ∧ ∃ e p', handleClose h fTransFlag p = (.error e, p') ∧ Good ∅ p'.ptr p' ∧
      p'.view = p.view ∧ CallFrame p p' := by
  obtain ⟨⟨v, i⟩, hkey, hview⟩ := hg.table.view_some hptr
  have hvol := (key_eq_some.1 hkey).2.1
  have hlt : v < volumeCount := hg.valid _ _ hview
  have hm : (p.gaRedVolume v).fMounted := hg.handle_mounted (by simp) hview
  have h0 : Good ∅ p.ptr { p with gbRedVolNum := v } := hg.setCurrent hlt
  have hframe0 : CallFrame p { p with gbRedVolNum := v } :=
    ⟨rfl, fun _ => rfl, rfl, fun _ => rfl, fun _ => rfl⟩
  rw [hg.handleClose_start hptr fTransFlag hview]
  rcases h0.deref hptr true (!(p.gaRedVolume v).disk.fReadOnly && fTransFlag) with
    ⟨p1, hrun, h1, hview1, hframe1, hcur1, -⟩ | ⟨hprop, e, p1, hrun, h1, hkey1, hframe1⟩
  swap
  · -- The cleanup has failed.
    have hptr1 : p1.ptr = p.ptr := hframe1.ptr_eq
    refine .inr ⟨(Bool.and_eq_true_iff.1 hprop).2, e, p1, Op.bind_error hrun, hptr1 ▸ h1, ?_,
      hframe0.trans hframe1.call⟩
    rw [PosixState.view, hptr1, hkey1]
    rfl
  have hcur : p1.gbRedVolNum = v := hcur1.elim id fun heq => heq.trans hvol
  have hptr1 : p1.ptr = p.ptr := hframe1.ptr_eq
  have hm1 : p1.gpRedVolume.fMounted := by
    rw [gpRedVolume, hcur, hframe1.mounted]
    exact hm
  -- The handle is free.
  have hptr2 : (p1.setHandle h fun h => { h with pOpenIno := none }).ptr =
      Function.update p.ptr (.inl h) none := by rw [ptr_setHandle, hptr1]
  have h2 : Good ∅ (p1.setHandle h fun h => { h with pOpenIno := none }).ptr
      (p1.setHandle h fun h => { h with pOpenIno := none }) := by
    rw [hptr2]
    exact h1.changeHandle (Function.update_self ..) _
  have hview2 : (p1.setHandle h fun h => { h with pOpenIno := none }).view =
      Function.update p.view (.inl h) none := by
    rw [PosixState.view, hptr2]
    exact hview1
  have hframe2 : CallFrame p (p1.setHandle h fun h => { h with pOpenIno := none }) :=
    (hframe0.trans hframe1.call).trans ⟨rfl, fun _ => rfl, rfl, fun _ => rfl, fun _ => rfl⟩
  left
  rw [Op.bind_ok hrun, Op.modify_bind_run, Op.get_bind_run]
  by_cases htrans : (!(p1.setHandle h fun h =>
    { h with pOpenIno := none }).gpRedVolume.disk.fReadOnly &&
      (!(p.gaRedVolume v).disk.fReadOnly && fTransFlag)) = true
  · rw [Op.when_pos htrans]
    obtain ⟨ret, p', hrun', hgood, hkey', hframe', hcur', hok⟩ := h2.transact hm1
    rw [hok (by simpa using (Bool.and_eq_true_iff.1 htrans).1)] at hrun'
    refine ⟨p', hrun', by rw [hframe'.ptr_eq]; exact hgood, ?_, hframe2.trans hframe'.call,
      hcur'.trans (hcur.trans hvol.symm)⟩
    rw [PosixState.view, hframe'.ptr_eq, hkey']
    exact hview2
  · rw [Op.when_neg htrans]
    exact ⟨_, rfl, h2, hview2, hframe2, hcur.trans hvol.symm⟩

end PosixState

end RelianceEdge
