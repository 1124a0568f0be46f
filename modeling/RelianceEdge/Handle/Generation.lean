import RelianceEdge.Handle.Release

set_option relaxedAutoImplicit false
set_option autoImplicit false
set_option linter.unusedSectionVars false

/-!
# Mount generations

A volume gets a new generation each time it is mounted; no other call changes a generation, and a
start forgets them. A file descriptor carries the generation of its volume, so that it is not taken
for one that has been returned after a later mount.

## Main definitions

* `PosixState.SameGeneration` — an operation leaves the generations alone.
* `PosixCall.Mounts` — a call mounts a volume.

## Main results

* `PosixCall.run_generation` — what each call does to the generations.
-/

namespace RelianceEdge

variable [PosixConf]

open RedConf PosixConf OrphanSpace

namespace PosixState

variable {p p' : PosixState} {v i o h t : ℕ} {α β : Type}

/-- The generations of the volumes are left alone. -/
def SameGeneration (p p' : PosixState) : Prop := p'.gauGeneration = p.gauGeneration

instance : IsPreorder PosixState SameGeneration where
  refl _ := rfl
  trans _ _ _ h h' := h'.trans h

/-! ## The core and the tables -/

lemma ofRed_generation (r : Except RedError α) : (ofRed r).Respects SameGeneration := .ofExcept _

lemma redCoreVolSetCurrent_generation (v : ℕ) :
    (redCoreVolSetCurrent v).Respects SameGeneration := .ite (.fail _) (.modify fun _ => rfl)

lemma path_generation (r : Found α) : (path r).Respects SameGeneration := by
  rw [path]
  rcases r.bVolNum with _ | v
  · exact ofRed_generation r.ret
  · exact .bind (redCoreVolSetCurrent_generation v) fun _ => ofRed_generation r.ret

lemma onCurrent_generation (f : FS → DiskOp α) : (onCurrent f).Respects SameGeneration :=
  fun _ => rfl

lemma whenMounted_generation (f : FS → DiskOp α) : (whenMounted f).Respects SameGeneration :=
  .get_bind fun _ => .ite (.fail _) (onCurrent_generation f)

lemma redCore_generation (call : Call) : (redCore call).Respects SameGeneration :=
  whenMounted_generation _

lemma openInoFind_generation (v i : ℕ) (fAlloc : Bool) :
    (openInoFind v i fAlloc).Respects SameGeneration := by
  refine .get_bind fun p => ?_
  rcases Refs.scan (fun o => (p.gaOpenInos o).ulInode == i && (p.gaOpenInos o).bVolNum == v)
    (fun o => (p.gaOpenInos o).ulInode == INODE_INVALID) (List.range openInodeCount) none
    with ⟨_ | o, pFreeIno⟩
  · rcases fAlloc with _ | _
    · exact .pure none
    · rcases pFreeIno with _ | o
      · exact .pure none
      · exact .bind (.modify fun _ => rfl) fun _ => .pure (some o)
  · exact .pure (some o)

lemma openInoRef_generation (o : ℕ) : (openInoRef o).Respects SameGeneration := .modify fun _ => rfl

lemma openInoDeref_generation (o : ℕ) (fDoCleanup fPropagate : Bool) :
    (openInoDeref o fDoCleanup fPropagate).Respects SameGeneration := by
  refine .get_bind fun p => .ite (.fail _) (.ite (.fail _) ?_)
  refine .bind (.when (.bind (.when ?_) fun _ => .modify fun _ => rfl)) fun _ =>
    .modify fun _ => rfl
  refine .bind (.attempt (.bind (redCoreVolSetCurrent_generation _) fun _ => ?_)) fun ret => ?_
  · exact .when (redCore_generation _)
  · exact .when (.ofExcept ret)

lemma inodeUnlinkCheck_generation (i : ℕ) : (inodeUnlinkCheck i).Respects SameGeneration := by
  refine .get_bind fun p => .bind (openInoFind_generation _ _ _) fun r => ?_
  rcases r with _ | o
  · exact .pure ()
  · exact .bind (whenMounted_generation _) fun _ => .when (.fail _)

lemma unlinkOrphans_generation (i : ℕ) : (unlinkOrphans i).Respects SameGeneration := by
  refine .bind (.attempt (inodeUnlinkCheck_generation i)) fun r => ?_
  rcases r with e | _
  · exact .ite (.pure true) (.fail e)
  · exact .pure false

lemma inodeOrphaned_generation (i : ℕ) : (inodeOrphaned i).Respects SameGeneration := by
  refine .get_bind fun p => .bind (openInoFind_generation _ _ _) fun r => ?_
  rcases r with _ | o
  · exact .pure ()
  · exact .modify fun _ => rfl

/-! ## Handles, tasks and working directories -/

lemma handleFindFree_generation : handleFindFree.Respects SameGeneration := by
  refine .get_bind fun p => ?_
  rcases (List.range handleCount).find? fun h => (p.gaHandle h).pOpenIno.isNone with _ | h
  · exact .pure none
  · exact .bind (.modify fun _ => rfl) fun _ => .pure (some h)

lemma handleOpen_generation (h i : ℕ) : (handleOpen h i).Respects SameGeneration := by
  refine .get_bind fun p => .bind (openInoFind_generation _ _ _) fun r => ?_
  rcases r with _ | o
  · exact .bind (.modify fun _ => rfl) fun _ => .fail _
  · exact .bind (openInoRef_generation o) fun _ => .modify fun _ => rfl

lemma handleClose_generation (h : ℕ) (fTransFlag : Bool) :
    (handleClose h fTransFlag).Respects SameGeneration := by
  refine .get_bind fun p => .ite (.fail _) ?_
  rcases (p.gaHandle h).pOpenIno with _ | o
  · exact .fail _
  · refine .bind (redCoreVolSetCurrent_generation _) fun _ => .get_bind fun q => ?_
    refine .bind (.when (.fail _)) fun _ => .bind (openInoDeref_generation _ _ _) fun _ => ?_
    exact .bind (.modify fun _ => rfl) fun _ => .get_bind fun q' => .when (redCore_generation _)

/-- The end of `CwdClose()` and of `red_chdir()`. -/
lemma cwdFind_generation (t v i : ℕ) : (do
    let pCwd ← openInoFind v i true
    .modify fun p => p.setTask t fun task => { task with pCwd := pCwd }
    match pCwd with
    | some i => openInoRef i
    | none => .fail .EFUBAR : PosixOp Unit).Respects SameGeneration := by
  refine .bind (openInoFind_generation _ _ _) fun r => .bind (.modify fun _ => rfl) fun _ => ?_
  rcases r with _ | o
  · exact .fail _
  · exact openInoRef_generation o

lemma cwdClose_generation (t : ℕ) (fClearVol fReset : Bool) :
    (cwdClose t fClearVol fReset).Respects SameGeneration := by
  refine .get_bind fun p => ?_
  rcases (p.gaTask t).pCwd with _ | o
  · exact .get_bind fun _ => cwdFind_generation t _ _
  · exact .bind (openInoDeref_generation _ _ _) fun _ => .get_bind fun _ => cwdFind_generation t _ _

lemma cwdCloseVol_generation (fReset : Bool) : (cwdCloseVol fReset).Respects SameGeneration := by
  rw [cwdCloseVol]
  induction List.range taskCount with
  | nil => exact .pure ()
  | cons t rest ih =>
    refine .get_bind fun p => ?_
    rcases (p.gaTask t).pCwd with _ | o
    · exact .bind (.pure ()) fun _ => ih
    · exact .bind (.when (cwdClose_generation t false fReset)) fun _ => ih

lemma cwdResetAll_generation : cwdResetAll.Respects SameGeneration := by
  rw [cwdResetAll]
  induction List.range taskCount with
  | nil => exact .pure ()
  | cons t rest ih => exact .bind (.attempt (cwdClose_generation t true true)) fun _ => ih

lemma taskRegister_generation (ulTaskId : ℕ) : (taskRegister ulTaskId).Respects SameGeneration := by
  refine .get_bind fun p => ?_
  rcases Refs.scan (fun t => (p.gaTask t).ulTaskId == ulTaskId)
    (fun t => (p.gaTask t).ulTaskId == 0) (List.range taskCount) none with ⟨_ | t, _ | t'⟩
  · exact .pure none
  · exact .bind (.modify fun _ => rfl) fun _ => .pure (some t')
  · exact .pure (some t)
  · exact .pure (some t)

lemma redTaskregister_generation (ulTaskId : ℕ) :
    (redTaskregister ulTaskId).Respects SameGeneration := by
  refine .get_bind fun p => .ite (.bind (taskRegister_generation ulTaskId) fun r => ?_) (.fail _)
  rcases r with _ | t
  · exact .fail _
  · exact .pure ()

/-- `PosixEnter()` does what `red_taskregister()` does. -/
lemma posixEnter_generation (ulTaskId : ℕ) : (posixEnter ulTaskId).Respects SameGeneration :=
  redTaskregister_generation ulTaskId

lemma redTaskunregister_generation (ulTaskId : ℕ) :
    (redTaskunregister ulTaskId).Respects SameGeneration := by
  refine .get_bind fun p => .ite (.get_bind fun p => ?_) (.fail _)
  rcases p.taskFind ulTaskId with _ | t
  · exact .fail _
  · exact .bind (.modify fun _ => rfl) fun _ => cwdClose_generation t true false

/-! ## Calls -/

lemma redInit_generation (os : Except RedError Unit) : (redInit os).Respects SameGeneration := by
  refine .get_bind fun p => .when (.bind (.bind (.modify fun _ => rfl) fun _ => ?_) fun _ => ?_)
  · exact ofRed_generation os
  · exact .bind (.modify fun _ => rfl) fun _ => .bind cwdResetAll_generation fun _ =>
      .modify fun _ => rfl

lemma redUninit_generation (os : Except RedError Unit) : (redUninit os).Respects SameGeneration :=
  .get_bind fun _ => .when (.ite (.fail _) (.bind (.modify fun _ => rfl) fun _ =>
    ofRed_generation os))

lemma umountLoop_generation (fForce : Bool) (l : List ℕ) :
    (umountLoop fForce l).Respects SameGeneration := by
  induction l with
  | nil => exact .pure ()
  | cons h rest ih =>
    refine .get_bind fun p => ?_
    rcases (p.gaHandle h).pOpenIno with _ | o
    · exact .bind (.pure ()) fun _ => ih
    · exact .bind (.when (.ite (handleClose_generation h false) (.fail _))) fun _ => ih

lemma redUmount2_generation (volume : Found Unit) (fForce fTransact : Bool) :
    (redUmount2 volume fForce fTransact).Respects SameGeneration := by
  refine .bind (path_generation volume) fun _ => .get_bind fun p => .ite (.fail _) ?_
  refine .bind (umountLoop_generation fForce _) fun _ =>
    .bind (cwdCloseVol_generation false) fun _ => ?_
  exact .bind (onCurrent_generation _) fun _ => .modify fun _ => rfl

lemma redRollback_generation (volume : Found Unit) :
    (redRollback volume).Respects SameGeneration := by
  refine .bind (path_generation volume) fun _ => .get_bind fun p => .ite (.fail _) ?_
  exact .bind (redCore_generation _) fun _ =>
    .bind (.attempt (cwdCloseVol_generation true)) fun _ =>
    .pure ()

lemma redTransact_generation (volume : Found Unit) :
    (redTransact volume).Respects SameGeneration :=
  .bind (path_generation volume) fun _ => redCore_generation _

lemma redFreeorphans_generation (volume : Found Unit) (ulCount : ℕ) :
    (redFreeorphans volume ulCount).Respects SameGeneration :=
  .bind (path_generation volume) fun _ => redCore_generation _

lemma fildesLookup_generation (c : Circumstances) (path : OpenPath) (ulOpenFlags : OpenFlags)
    (uMode : Mode) : (fildesLookup c path ulOpenFlags uMode).Respects SameGeneration := by
  refine .ite ?_ (.bind (ofRed_generation _) fun _ => .pure _)
  rcases path.name with e | ⟨ulPInode, pszName⟩
  · exact .ite (.ite (.fail _) (.pure _)) (.fail _)
  refine .bind (.attempt (whenMounted_generation _)) fun r => ?_
  rcases r with e | i
  · refine .ite (.bind (.attempt (whenMounted_generation _)) fun r => ?_) (.fail e)
    rcases r with e' | i
    · exact .fail _
    · exact .ite (.fail _) (.pure _)
  · exact .pure _

lemma fildesCheck_generation (ulOpenFlags : OpenFlags) (type : FType) (i : ℕ) :
    (fildesCheck ulOpenFlags type i).Respects SameGeneration := by
  refine .bind (whenMounted_generation _) fun a => .bind (ofRed_generation _) fun _ => ?_
  exact .ite (.fail _) (.bind (.when (redCore_generation _)) fun _ => .pure _)

lemma fildesOpen_generation (c : Circumstances) (path : OpenPath) (ulOpenFlags : OpenFlags)
    (type : FType) (uMode : Mode) :
    (fildesOpen c path ulOpenFlags type uMode).Respects SameGeneration := by
  refine .bind (path_generation _) fun _ => .get_bind fun p => .ite (.fail _) ?_
  refine .bind handleFindFree_generation fun r => ?_
  rcases r with _ | h
  · exact .fail _
  refine .bind (fildesLookup_generation c path ulOpenFlags uMode) fun a => ?_
  have hend (m : Mode) : (do
      handleOpen h a.1
      .modify fun p => p.setHandle h fun h => { h with
        fDirectory := h.fDirectory || m == .dir
        fSymlink := h.fSymlink || deleteOpen && m == .lnk
        fReadable := h.fReadable || ulOpenFlags.fRdOnly || ulOpenFlags.fRdWr
        fWriteable := h.fWriteable || ulOpenFlags.fWrOnly || ulOpenFlags.fRdWr
        fAppending := h.fAppending || ulOpenFlags.fAppend }
      let p ← .get
      let iFildes := p.fildesPack h p.gbRedVolNum
      if iFildes = -1 then .fail .EFUBAR else pure iFildes :
        PosixOp ℤ).Respects SameGeneration := by
    refine .bind (handleOpen_generation h a.1) fun _ => .bind (.modify fun _ => rfl) fun _ => ?_
    exact .get_bind fun q => .ite (.fail _) (.pure _)
  rcases a with ⟨i, _ | _⟩
  · exact .bind (fildesCheck_generation ulOpenFlags type i) hend
  · exact hend uMode

lemma redOpenat_generation (c : Circumstances) (path : OpenPath) (ulOpenFlags : OpenFlags) :
    (redOpenat c path ulOpenFlags).Respects SameGeneration :=
  .ite (.fail _) (.ite (fildesOpen_generation _ _ _ _ _) (fildesOpen_generation _ _ _ _ _))

lemma redOpendir_generation (c : Circumstances) (path : OpenPath) :
    (redOpendir c path).Respects SameGeneration :=
  .bind (fildesOpen_generation _ _ _ _ _) fun _ => .pure _

lemma redClose_generation (iFildes : ℤ) (fTransact : Bool) :
    (redClose iFildes fTransact).Respects SameGeneration :=
  .get_bind fun _ => .bind (ofRed_generation _) fun h => handleClose_generation h fTransact

lemma redClosedir_generation (pDirStream : ℕ) : (redClosedir pDirStream).Respects SameGeneration :=
  .get_bind fun _ => .ite (handleClose_generation pDirStream false) (.fail _)

lemma redWrite_generation (iFildes : ℤ) (data : List UInt8) :
    (redWrite iFildes data).Respects SameGeneration := by
  refine .bind (.get_bind fun p => .bind (ofRed_generation _) fun h => .ite (.fail _) ?_) fun i =>
    redCore_generation _
  rcases (p.gaHandle h).pOpenIno with _ | o
  · exact .fail _
  · exact .bind (redCoreVolSetCurrent_generation _) fun _ => .pure _

lemma redMknod_generation (c : Circumstances) (name : Found (ℕ × CString)) (uMode : Mode) :
    (redMknod c name uMode).Respects SameGeneration :=
  .bind (path_generation name) fun _ => whenMounted_generation _

lemma pathTwice_generation (start start' : Found Unit) :
    (pathTwice start start').Respects SameGeneration :=
  .bind (path_generation start) fun _ => .get_bind fun _ => .bind (path_generation start') fun _ =>
    .get_bind fun _ => .when (.fail _)

lemma redLinkat_generation (c : Circumstances) (start start' : Found Unit)
    (inode : Except RedError ℕ) (link : Except RedError (ℕ × CString)) :
    (redLinkat c start start' inode link).Respects SameGeneration :=
  .bind (pathTwice_generation start start') fun _ => .bind (ofRed_generation inode) fun _ =>
    .bind (ofRed_generation link) fun _ => redCore_generation _

lemma redUnlinkat_generation (c : Circumstances) (name : Found (ℕ × CString)) (fRemoveDir : Bool) :
    (redUnlinkat c name fRemoveDir).Respects SameGeneration := by
  refine .bind (path_generation name) fun a => .bind (whenMounted_generation _) fun i => ?_
  refine .bind (.when (.bind (whenMounted_generation _) fun _ => ofRed_generation _)) fun _ => ?_
  exact .bind (unlinkOrphans_generation i) fun f => .bind (redCore_generation _) fun _ =>
    .when (inodeOrphaned_generation i)

lemma renameDest_generation (ulNewPInode : ℕ) (pszNewName : CString) :
    (renameDest ulNewPInode pszNewName).Respects SameGeneration := by
  refine .bind (.attempt (whenMounted_generation _)) fun r => ?_
  rcases r with e | i
  · exact .ite (.pure _) (.fail e)
  · exact .bind (unlinkOrphans_generation i) fun _ => .pure _

lemma redRenameat_generation (c : Circumstances) (start start' : Found Unit)
    (old new : Except RedError (ℕ × CString)) :
    (redRenameat c start start' old new).Respects SameGeneration :=
  .bind (pathTwice_generation start start') fun _ => .bind (ofRed_generation old) fun _ =>
    .bind (ofRed_generation new) fun _ => .bind (renameDest_generation _ _) fun d =>
      .bind (redCore_generation _) fun _ => .when (inodeOrphaned_generation d.1)

lemma redChdir_generation (ulTaskId : ℕ) (start : Found Unit) (inode : Except RedError ℕ) :
    (redChdir ulTaskId start inode).Respects SameGeneration := by
  refine .bind (path_generation start) fun _ => .get_bind fun p =>
    .bind (ofRed_generation _) fun i => ?_
  refine .bind (.when (.bind (whenMounted_generation _) fun _ => .when (.fail _)))
    fun _ => .get_bind fun q => ?_
  rcases q.taskFind ulTaskId with _ | t
  · exact .fail _
  dsimp only
  rcases (q.gaTask t).pCwd with _ | o
  · exact .fail _
  exact .bind (openInoDeref_generation o true false) fun _ => cwdFind_generation t _ _

/-! ## Mounting -/

/-- The generation after the next mount. -/
def nextMount (g : ℕ) : ℕ := if FD_GEN_MAX < g + 1 then 1 else g + 1

lemma redMount2_generation (volume : Found Unit) (ulFlags : MountFlags) :
    (redMount2 volume ulFlags).Post p fun ret q =>
      (∀ e, ret = .error e → q.gauGeneration = p.gauGeneration) ∧
      (ret = .ok () → (p.gaRedVolume (p.pathVolume volume)).fMounted = false ∧
        q.gauGeneration = Function.update p.gauGeneration (p.pathVolume volume)
          (nextMount (p.gauGeneration (p.pathVolume volume)))) := by
  refine (path_entered volume).bind (fun _ p1 hp1 => .get_bind ?_) fun e p1 hp1 =>
    ⟨fun _ _ => hp1.1.generation, fun h => by cases h⟩
  obtain ⟨-, rfl⟩ := hp1.2 () rfl
  set p1 : PosixState := { p with gbRedVolNum := p.pathVolume volume } with hp1
  by_cases hm : p1.gpRedVolume.fMounted = true
  · rw [if_pos hm]
    exact .fail ⟨fun _ _ => rfl, fun h => by cases h⟩
  rw [if_neg hm]
  have hmount : (redCoreVolMount ulFlags).Respects fun p q =>
      q.gauGeneration = p.gauGeneration ∧ q.gbRedVolNum = p.gbRedVolNum := by
    intro q
    rcases hq : onCurrent (fun s => NameDisk.redVolMount s ulFlags) q with ⟨e | ⟨⟩, q1⟩
    · rw [redCoreVolMount, Op.bind_error hq]
      have hsame : (onCurrent (fun s => NameDisk.redVolMount s ulFlags) q).2 = q1 := by rw [hq]
      rw [← hsame]
      exact ⟨rfl, rfl⟩
    · rw [redCoreVolMount, Op.bind_ok hq]
      have hsame : (onCurrent (fun s => NameDisk.redVolMount s ulFlags) q).2 = q1 := by rw [hq]
      rw [← hsame]
      exact ⟨rfl, rfl⟩
  refine (hmount.post p1).bind (fun _ q hq => ⟨fun e he => (by cases he), fun _ => ⟨?_, ?_⟩⟩)
    fun e q hq => ⟨fun _ _ => hq.1, fun h => by cases h⟩
  · exact Bool.eq_false_iff.2 hm
  · change Function.update q.gauGeneration q.gbRedVolNum
      (nextMount (q.gauGeneration q.gbRedVolNum)) =
      Function.update p1.gauGeneration p1.gbRedVolNum (nextMount (p1.gauGeneration p1.gbRedVolNum))
    rw [hq.1, hq.2]

end PosixState

open PosixState

variable {p : PosixState} {v : ℕ}

/-- **A call mounts the volume.** -/
def PosixCall.Mounts (p : PosixState) (v : ℕ) (call : PosixCall) : Prop :=
  (∃ id volume ulFlags, call = .mount2 id volume ulFlags ∧ p.pathVolume volume = v) ∧
    ∃ ret, (call.exec p).1 = .ok ret

lemma PosixCall.mount2_generation (id : ℕ) (volume : Found Unit) (ulFlags : MountFlags) :
    (PosixCall.mount2 id volume ulFlags).exec.Post p fun ret q =>
      (∀ e, ret = .error e → q.gauGeneration = p.gauGeneration) ∧
      (∀ a, ret = .ok a → (p.gaRedVolume (p.pathVolume volume)).fMounted = false ∧
        q.gauGeneration = Function.update p.gauGeneration (p.pathVolume volume)
          (nextMount (p.gauGeneration (p.pathVolume volume)))) := by
  refine (posixEnter_entered id).bind (fun _ p1 h1 => ?_) fun e p1 h1 =>
    ⟨fun _ _ => h1.1.generation, fun _ h => by cases h⟩
  obtain ⟨he, hcur, -⟩ := h1
  have hvol : p1.pathVolume volume = p.pathVolume volume := by rw [pathVolume, pathVolume, hcur]
  refine (redMount2_generation volume ulFlags).bind (fun _ q hq => ⟨fun _ h => (by cases h),
    fun _ _ => ?_⟩) fun e q hq => ⟨fun _ _ => (hq.1 e rfl).trans he.generation,
      fun _ h => by cases h⟩
  have hok := hq.2 rfl
  rwa [hvol, he.volume, he.generation] at hok

/-- **A call that mounts the volume** finds it unmounted, and gives it the next generation. -/
lemma PosixCall.Mounts.generation {call : PosixCall} (h : call.Mounts p v) :
    (p.gaRedVolume v).fMounted = false ∧
      (call.run p).gauGeneration v = nextMount (p.gauGeneration v) := by
  obtain ⟨⟨id, volume, ulFlags, rfl, rfl⟩, ret, hret⟩ := h
  obtain ⟨hm, hgen⟩ := (mount2_generation id volume ulFlags).2 ret hret
  refine ⟨hm, ?_⟩
  rw [PosixCall.run, hgen, Function.update_self]

/-- **No other call changes the generation of a volume**, but a start. -/
theorem PosixCall.run_generation {call : PosixCall} (hpower : call ≠ .powerLoss)
    (hmounts : ¬ call.Mounts p v) : (call.run p).gauGeneration v = p.gauGeneration v := by
  have hsame {x : PosixOp ℤ} (hx : x.Respects SameGeneration) :
      (x p).2.gauGeneration v = p.gauGeneration v := congrFun (hx p) v
  have henter {α : Type} (id : ℕ) {x : PosixOp α} {g : α → ℤ} (hx : x.Respects SameGeneration) :
      ((do
        posixEnter id
        let a ← x
        pure (g a) : PosixOp ℤ) p).2.gauGeneration v = p.gauGeneration v :=
    hsame (.bind (posixEnter_generation id) fun _ => .bind hx fun _ => .pure _)
  cases call with
  | init os => exact hsame (.bind (redInit_generation os) fun _ => .pure _)
  | uninit os => exact hsame (.bind (redUninit_generation os) fun _ => .pure _)
  | powerLoss => exact absurd rfl hpower
  | taskregister id => exact hsame (.bind (redTaskregister_generation id) fun _ => .pure _)
  | taskunregister id => exact hsame (.bind (redTaskunregister_generation id) fun _ => .pure _)
  | mount2 id volume ulFlags =>
    obtain ⟨herror, hok⟩ := mount2_generation (p := p) id volume ulFlags
    rcases hret : ((PosixCall.mount2 id volume ulFlags).exec p).1 with e | a
    · exact congrFun (herror e hret) v
    · have hne : v ≠ p.pathVolume volume := fun heq =>
        hmounts ⟨⟨id, volume, ulFlags, rfl, heq.symm⟩, a, hret⟩
      rw [PosixCall.run, (hok a hret).2, Function.update_of_ne hne]
  | umount2 id volume fForce fTransact =>
    exact henter id (redUmount2_generation volume fForce fTransact)
  | rollback id volume => exact henter id (redRollback_generation volume)
  | transact id volume => exact henter id (redTransact_generation volume)
  | freeorphans id volume ulCount => exact henter id (redFreeorphans_generation volume ulCount)
  | openat id c path ulOpenFlags =>
    exact hsame (.bind (posixEnter_generation id) fun _ => redOpenat_generation c path ulOpenFlags)
  | opendir id c path => exact henter id (redOpendir_generation c path)
  | close id iFildes fTransact => exact henter id (redClose_generation iFildes fTransact)
  | closedir id pDirStream => exact henter id (redClosedir_generation pDirStream)
  | write id iFildes data => exact henter id (redWrite_generation iFildes data)
  | mknod id c name uMode => exact henter id (redMknod_generation c name uMode)
  | linkat id c start start' inode link =>
    exact henter id (redLinkat_generation c start start' inode link)
  | unlinkat id c name fRemoveDir => exact henter id (redUnlinkat_generation c name fRemoveDir)
  | renameat id c start start' old new =>
    exact henter id (redRenameat_generation c start start' old new)
  | chdir id start inode => exact henter id (redChdir_generation id start inode)

end RelianceEdge
