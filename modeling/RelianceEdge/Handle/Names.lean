import RelianceEdge.Handle.Close

set_option relaxedAutoImplicit false
set_option autoImplicit false
set_option linter.unusedSectionVars false

/-!
# The invariant between two calls

The invariant holds whenever no call is running. The calls that make and remove names keep it, and
change no reference: when the last name of an open inode goes, the inode is left as an orphan, and
its open inode is marked.

## Main definitions

* `PosixState.Settled` — the invariant between two calls.
* `PosixState.Unlinks` — what the callers of `InodeUnlinkCheck()` rely on.
* `PosixState.NameOk`, `PosixState.InodeOk` — what a path leads to.

## Main results

* `Settled.redCore_drops` — a call of the core that takes a name.
* `redMknod_stays`, `redLinkat_stays`, `redUnlinkat_stays`, `redRenameat_stays` — the calls.
-/

namespace RelianceEdge

variable [PosixConf]

open RedConf PosixConf OrphanSpace

namespace PosixState

/-- **The invariant between two calls.** -/
structure Settled (p : PosixState) : Prop where
  good : Good ∅ p.ptr p
  /-- Once the file system has been initialized, each task slot has a working directory. -/
  cwd : p.gfPosixInited → ∀ t < taskCount, p.view (.inr t) ≠ none
  uninited : p.gfPosixInited = false → ∀ v < volumeCount, (p.gaRedVolume v).fMounted = false
  generation : ∀ v, p.gauGeneration v ≤ FD_GEN_MAX ∧
    ((p.gaRedVolume v).fMounted → p.gauGeneration v ≠ 0)

variable {p p' : PosixState} {r : Ref} {v i o h t : ℕ} {x : ℕ × ℕ} {α : Type}

lemma Settled.of_frame (hs : Settled p) (hg : Good ∅ p'.ptr p') (hf : CallFrame p p')
    (hcwd : ∀ t < taskCount, p.view (.inr t) ≠ none → p'.view (.inr t) ≠ none) : Settled p' where
  good := hg
  cwd hi t ht := hcwd t ht (hs.cwd (hf.inited ▸ hi) t ht)
  uninited hi v hv := by
    rw [hf.mounted]
    exact hs.uninited (hf.inited ▸ hi) v hv
  generation v := by
    rw [hf.mounted, hf.generation]
    exact hs.generation v

/-- The tables stay, for all that `Good` and the references see of them. -/
lemma Settled.of_same (hs : Settled p) (hg : Good ∅ p.ptr p') (hptr : p'.ptr = p.ptr)
    (hkey : p'.key = p.key) (hf : CallFrame p p') : Settled p' ∧ p'.view = p.view := by
  have hview : p'.view = p.view := by rw [PosixState.view, PosixState.view, hptr, hkey]
  refine ⟨hs.of_frame (hptr ▸ hg) hf fun t _ ht => ?_, hview⟩
  rwa [hview]

/-! ## The start of a call -/

/-- Another task may have become a user, and another volume the current one. -/
structure Entered (p p' : PosixState) : Prop where
  openInos : p'.gaOpenInos = p.gaOpenInos
  handle : p'.gaHandle = p.gaHandle
  cwd : ∀ t, (p'.gaTask t).pCwd = (p.gaTask t).pCwd
  volume : p'.gaRedVolume = p.gaRedVolume
  generation : p'.gauGeneration = p.gauGeneration
  inited : p'.gfPosixInited = p.gfPosixInited
  current : p.gbRedVolNum < volumeCount → p'.gbRedVolNum < volumeCount

lemma Entered.refl (p : PosixState) : Entered p p := ⟨rfl, rfl, fun _ => rfl, rfl, rfl, rfl, id⟩

lemma Entered.trans {p'' : PosixState} (h : Entered p p') (h' : Entered p' p'') :
    Entered p p'' where
  openInos := h'.openInos.trans h.openInos
  handle := h'.handle.trans h.handle
  cwd t := (h'.cwd t).trans (h.cwd t)
  volume := h'.volume.trans h.volume
  generation := h'.generation.trans h.generation
  inited := h'.inited.trans h.inited
  current := h'.current ∘ h.current

lemma Entered.settled (he : Entered p p') (hs : Settled p) : Settled p' ∧ p'.view = p.view := by
  have hptr : p'.ptr = p.ptr := by
    funext r
    cases r with
    | inl h => rw [PosixState.ptr, PosixState.ptr, he.handle]
    | inr t => exact he.cwd t
  have hkey : p'.key = p.key := funext fun j => congrArg (fun g => (g j).key) he.openInos
  have hrefs : p'.refs = p.refs := funext fun j => congrArg (fun g => (g j).uRefs) he.openInos
  have hview : p'.view = p.view := by rw [PosixState.view, PosixState.view, hptr, hkey]
  have hgood : Good ∅ p.ptr p' := by
    refine hs.good.congr hkey hrefs (he.current hs.good.current) (fun v hv => ?_)
      fun r _ x _ hserves => ?_
    · rw [he.volume]
      exact hs.good.sound v hv
    · rw [Serves, he.volume]
      refine hserves.mono fun n hn => ⟨?_, fun h0 j hj hk => ?_⟩
      · cases r with
        | inl a =>
          rw [Fits, he.handle]
          exact hn.1
        | inr a => exact hn.1
      · rw [he.openInos]
        exact hn.2 h0 j hj (hkey ▸ hk)
  refine ⟨⟨hptr ▸ hgood, fun hi t ht => ?_, fun hi v hv => ?_, fun v => ?_⟩, hview⟩
  · rw [hview]
    exact hs.cwd (he.inited ▸ hi) t ht
  · rw [he.volume]
    exact hs.uninited (he.inited ▸ hi) v hv
  · rw [he.volume, he.generation]
    exact hs.generation v

lemma entered_setTask (ulTaskId : ℕ) :
    Entered p (p.setTask t fun task => { task with ulTaskId }) := by
  refine ⟨rfl, rfl, fun t' => ?_, rfl, rfl, rfl, id⟩
  by_cases ht : t' = t
  · subst ht
    simp [setTask]
  · simp [setTask, ht]

/-- `TaskRegister()` does not fail. -/
lemma taskRegister_entered (ulTaskId : ℕ) : (taskRegister ulTaskId).Ok p fun _ p' =>
    Entered p p' ∧ p'.gbRedVolNum = p.gbRedVolNum := by
  rw [taskRegister]
  refine .get_bind ?_
  rcases Refs.scan (fun t => (p.gaTask t).ulTaskId == ulTaskId)
    (fun t => (p.gaTask t).ulTaskId == 0) (List.range taskCount) none with ⟨_ | t, _ | t'⟩
  · exact .pure ⟨.refl p, rfl⟩
  · exact .modify_bind (.pure ⟨entered_setTask ulTaskId, rfl⟩)
  · exact .pure ⟨.refl p, rfl⟩
  · exact .pure ⟨.refl p, rfl⟩

/-- `PosixEnter()`. -/
lemma posixEnter_entered (ulTaskId : ℕ) : (posixEnter ulTaskId).Post p fun ret p' =>
    Entered p p' ∧ p'.gbRedVolNum = p.gbRedVolNum ∧ (ret = .ok () → p.gfPosixInited = true) := by
  rw [posixEnter]
  refine .get_bind ?_
  by_cases hi : p.gfPosixInited = true
  · rw [if_pos hi]
    refine (taskRegister_entered ulTaskId).bind_post fun a p' hp' => ?_
    rcases a with _ | t
    · exact .fail ⟨hp'.1, hp'.2, fun _ => hi⟩
    · exact .pure ⟨hp'.1, hp'.2, fun _ => hi⟩
  · rw [if_neg hi]
    exact .fail ⟨.refl p, rfl, by simp⟩

/-- The volume that a path is on. -/
def pathVolume (p : PosixState) (r : Found α) : ℕ := r.bVolNum.getD p.gbRedVolNum

/-- The path functions. -/
lemma path_entered (r : Found α) : (path r).Post p fun ret p' => Entered p p' ∧
    ∀ a, ret = .ok a → r.ret = .ok a ∧ p' = { p with gbRedVolNum := p.pathVolume r } := by
  have hret (q : PosixState) : (ofRed r.ret : PosixOp α).Post q fun ret q' =>
      q' = q ∧ ∀ a, ret = .ok a → r.ret = .ok a := by
    refine ⟨rfl, fun a ha => ?_⟩
    rcases hr : r.ret with e | b
    · rw [ofRed, hr] at ha
      cases ha
    · rw [ofRed, hr] at ha
      cases ha
      rfl
  rw [path]
  rcases hv : r.bVolNum with _ | v
  · refine (hret p).mono fun ret p' hp' => ?_
    obtain ⟨rfl, ha⟩ := hp'
    refine ⟨.refl p', fun a hok => ⟨ha a hok, ?_⟩⟩
    rw [pathVolume, hv]
    rfl
  · by_cases hlt : v < volumeCount
    · have hset : (redCoreVolSetCurrent v).Ok p fun _ p' => p' = { p with gbRedVolNum := v } :=
        .intro (redCoreVolSetCurrent_run hlt) rfl
      refine hset.bind_post fun _ p1 hp1 => (hret p1).mono fun ret p' hp' => ?_
      obtain ⟨rfl, ha⟩ := hp'
      subst hp1
      refine ⟨⟨rfl, rfl, fun _ => rfl, rfl, rfl, rfl, fun _ => hlt⟩, fun a hok => ⟨ha a hok, ?_⟩⟩
      rw [pathVolume, hv]
      rfl
    · have hfail : redCoreVolSetCurrent v p = (.error .EINVAL, p) := by
        rw [redCoreVolSetCurrent, if_pos (by omega)]
        rfl
      have hpost : (redCoreVolSetCurrent v).Post p fun ret p' => ret = .error .EINVAL ∧ p' = p :=
        ⟨congrArg Prod.fst hfail, congrArg Prod.snd hfail⟩
      refine hpost.bind (fun a p' hp' => ?_) fun e p' hp' => ?_
      · cases hp'.1
      · obtain ⟨-, rfl⟩ := hp'
        exact ⟨.refl p', by simp⟩

/-! ## Functions that only read -/

lemma onCurrent_working {f : FS → NameOp α} {ret : Except RedError α}
    (hrun : f p.gpRedVolume.geo p.gpRedVolume.disk.toNameVolume =
      (ret, p.gpRedVolume.disk.toNameVolume)) :
    onCurrent (fun s => NameDisk.onWorking (f s)) p = (ret.mapError .red, p) := by
  have hdisk : NameDisk.onWorking (f p.gpRedVolume.geo) p.gpRedVolume.disk =
      (ret, p.gpRedVolume.disk) := by rw [NameDisk.onWorking, Op.zoom_run, hrun]
  rw [onCurrent_run hdisk]
  exact congrArg (Prod.mk _) setVolume_same

lemma mapError_eq_ok {ret : Except RedError α} {a : α}
    (h : ret.mapError PosixError.red = .ok a) : ret = .ok a := by
  rcases ret with e | b
  · cases h
  · cases h
    rfl

lemma mapError_eq_error {ret : Except RedError α} {e : RedError}
    (h : ret.mapError PosixError.red = .error (.red e)) : ret = .error e := by
  rcases ret with e' | b
  · cases h
    rfl
  · cases h

lemma mountDir_ne_enoent {sp : Space} : sp.mountDir i ≠ .error .ENOENT := by
  intro hdir
  unfold Space.mountDir Space.mount at hdir
  rcases hnode : sp.node i with _ | ⟨n, pi, data⟩
  · rw [hnode] at hdir
    cases hdir
  · rw [hnode] at hdir
    cases data <;> cases hdir

/-- **`RedCoreLookup()`** finds what has the name. -/
lemma redCoreLookup_run (hs : Settled p) (ulPInode : ℕ) (pszName : CString) :
    ∃ ret, redCoreLookup ulPInode pszName p = (ret, p) ∧
      (∀ i, ret = .ok i → p.gpRedVolume.fMounted ∧
        p.gpRedVolume.disk.names p.gpRedVolume.geo (ulPInode, pszName.name) = some i) ∧
      (ret = .error .ENOENT →
        p.gpRedVolume.disk.names p.gpRedVolume.geo (ulPInode, pszName.name) = none) := by
  have hsound : p.gpRedVolume.Sound := hs.good.sound _ hs.good.current
  rcases hm : p.gpRedVolume.fMounted with _ | _
  · exact ⟨_, whenMounted_error hm _, by simp, by simp⟩
  obtain ⟨l, m, hinv⟩ := hsound.working hm
  rcases hdir : p.gpRedVolume.disk.mountDir ulPInode with e | ⟨ino, d⟩
  · -- the parent is no directory
    have he : e ≠ .ENOENT := fun heq => mountDir_ne_enoent (heq ▸ hdir)
    have hrun : NameVolume.redCoreLookup p.gpRedVolume.geo ulPInode pszName
        p.gpRedVolume.disk.toNameVolume = (.error e, p.gpRedVolume.disk.toNameVolume) := by
      refine Op.bind_error ?_
      rw [NameVolume.redInodeMountDir, Op.get_bind_run, hdir]
      rfl
    refine ⟨_, (whenMounted_run hm _).trans (onCurrent_working hrun), nofun, fun heq => ?_⟩
    exact absurd (Except.error.inj (mapError_eq_error heq)) he
  · obtain ⟨hp, hd⟩ := Space.mountDir_eq_ok hdir
    have hrun := redCoreLookup_eq hsound.version hinv hp hd pszName
    refine ⟨_, (whenMounted_run hm _).trans (onCurrent_working hrun), fun i hi => ⟨rfl, ?_⟩,
      fun heq => ?_⟩
    · replace hi := mapError_eq_ok hi
      split_ifs at hi
      rcases hname : p.gpRedVolume.disk.names p.gpRedVolume.geo (ulPInode, pszName.name) with _ | j
      · rw [hname] at hi
        cases hi
      · rw [hname] at hi
        cases hi
        rfl
    · replace heq := mapError_eq_error heq
      split_ifs at heq
      · cases heq
      · cases heq
      rcases hname : p.gpRedVolume.disk.names p.gpRedVolume.geo (ulPInode, pszName.name) with _ | j
      · rfl
      · rw [hname] at heq
        cases heq

/-- **`RedCoreStat()`.** -/
lemma redCoreStat_run (i : ℕ) : ∃ ret, redCoreStat i p = (ret, p) ∧
    (∀ a, ret = .ok a → p.gpRedVolume.fMounted ∧ ∃ ino, p.gpRedVolume.disk.node i = some ino ∧
      a = (ino.data.mode, ino.uNLink)) ∧
    (p.gpRedVolume.fMounted → ∀ ino, p.gpRedVolume.disk.node i = some ino →
      ret = .ok (ino.data.mode, ino.uNLink)) ∧ ret ≠ .error .EBUSY := by
  rcases hm : p.gpRedVolume.fMounted with _ | _
  · exact ⟨_, whenMounted_error hm _, by simp, by simp, by simp⟩
  rcases hnode : p.gpRedVolume.disk.node i with _ | ino
  · have hrun : (do
          let ino ← NameVolume.redInodeMount i
          pure (ino.data.mode, ino.uNLink) : NameOp (Mode × ℕ)) p.gpRedVolume.disk.toNameVolume =
        (.error .EBADF, p.gpRedVolume.disk.toNameVolume) :=
      Op.bind_error (NameVolume.redInodeMount_error hnode)
    refine ⟨_, (whenMounted_run hm _).trans (onCurrent_working hrun), nofun, fun _ ino hino => ?_,
      ?_⟩
    · cases hino
    · simp [Except.mapError]
  · have hrun : (do
          let ino ← NameVolume.redInodeMount i
          pure (ino.data.mode, ino.uNLink) : NameOp (Mode × ℕ)) p.gpRedVolume.disk.toNameVolume =
        (.ok (ino.data.mode, ino.uNLink), p.gpRedVolume.disk.toNameVolume) :=
      Op.bind_ok (NameVolume.redInodeMount_ok hnode)
    refine ⟨_, (whenMounted_run hm _).trans (onCurrent_working hrun), fun a ha => ?_,
      fun _ ino' hino' => ?_, by simp [Except.mapError]⟩
    · cases ha
      exact ⟨rfl, ino, rfl, rfl⟩
    · cases hino'
      rfl

/-! ## Calls of the core -/

/-- What a call leaves that changes no reference. -/
abbrev Stays (p : PosixState) (_ : Except PosixError α) (p' : PosixState) : Prop :=
  Settled p' ∧ p'.view = p.view

/-- The references after a call of the core. -/
lemma Settled.of_swapped (hs : Settled p) {d : NameDisk} (hg : Good ∅ p.ptr p')
    (hw : Swapped p d p') (hf : Frame p p') : Settled p' ∧ p'.view = p.view :=
  hs.of_same hg hf.ptr_eq hw.key hf.call

lemma frame_setDisk (d : NameDisk) :
    Frame p (p.setVolume p.gbRedVolNum fun vol => { vol with disk := d }) :=
  frame_setVolume (fun _ => rfl) fun _ => rfl

/-- A call of the core that takes no name. -/
lemma Settled.redCore_stays (hs : Settled p) {call : Call}
    (hlegal : p.gpRedVolume.fMounted → call.Legal p.gpRedVolume.geo p.gpRedVolume.disk)
    (honward : call.Onward) (hfree : ∀ i, call ≠ .freeOrphan i)
    (htakes : ∀ M f i, ¬ call.Takes M f i) : (redCore call).Post p (Stays p) := by
  rcases hm : p.gpRedVolume.fMounted with _ | _
  · rw [Op.Post, redCore, whenMounted_error hm]
    exact ⟨hs, rfl⟩
  rcases hrun : call.exec p.gpRedVolume.geo p.gpRedVolume.disk with ⟨ret, d⟩
  rw [Op.Post, redCore_run hm hrun]
  exact hs.of_swapped (hs.good.core_of_keeps hm (hlegal hm) honward hrun (swapped_setVolume d)
    hfree htakes) (swapped_setVolume d) (frame_setDisk d)

/-- **The callers of `InodeUnlinkCheck()`** ask for an orphan when the last name of an open inode
is taken, and only then. -/
structure Unlinks (p : PosixState) (i : ℕ) (fOrphan : Bool) : Prop where
  orphan : fOrphan = true → deleteOpen = true ∧
    (∃ o ∈ objects, p.key o = some (p.gbRedVolNum, i)) ∧
    ∃ ino, p.gpRedVolume.disk.node i = some ino ∧ ino.uNLink = 1
  plain : fOrphan = false → (∃ o ∈ objects, p.key o = some (p.gbRedVolNum, i)) →
    p.gpRedVolume.fMounted → ∀ ino, p.gpRedVolume.disk.node i = some ino → ino.uNLink ≠ 1

lemma unlinkOrphans_run (hi : i ≠ INODE_INVALID) :
    ∃ ret, unlinkOrphans i p = (ret, p) ∧ ∀ f, ret = .ok f → Unlinks p i f := by
  by_cases hopen : ∃ o ∈ objects, p.key o = some (p.gbRedVolNum, i)
  · obtain ⟨o, -, -, hfind⟩ := openInoFind_some hi hopen false
    obtain ⟨ret, hstat, hok, hback, hbusy⟩ := redCoreStat_run (p := p) i
    rcases ret with e | ⟨mode, n⟩
    · have hcheck : inodeUnlinkCheck i p = (.error e, p) := by
        rw [inodeUnlinkCheck, Op.get_bind_run]
        exact (Op.bind_ok hfind).trans (Op.bind_error hstat)
      refine ⟨.error e, ?_, nofun⟩
      rw [unlinkOrphans, Op.attempt_bind_run, hcheck]
      exact congrFun (if_neg fun hc => hbusy (by rw [hc.2])) _
    · obtain ⟨hm, ino, hino, ha⟩ := hok _ rfl
      cases ha
      have hcheck : inodeUnlinkCheck i p =
          (if ino.uNLink = 1 then .error .EBUSY else .ok (), p) := by
        rw [inodeUnlinkCheck, Op.get_bind_run]
        refine ((Op.bind_ok hfind).trans (Op.bind_ok hstat)).trans ?_
        change Op.when (ino.uNLink = 1) (Op.fail PosixError.EBUSY) p = _
        by_cases hn : ino.uNLink = 1
        · rw [Op.when_pos hn, if_pos hn]
          rfl
        · rw [Op.when_neg hn, if_neg hn]
          rfl
      rw [unlinkOrphans, Op.attempt_bind_run, hcheck]
      by_cases hn : ino.uNLink = 1
      · by_cases hdel : deleteOpen = true
        · refine ⟨.ok true, ?_, fun f hf => ?_⟩
          · rw [if_pos hn]
            exact congrFun (if_pos ⟨hdel, rfl⟩) _
          · cases hf
            exact ⟨fun _ => ⟨hdel, hopen, ino, hino, hn⟩, nofun⟩
        · refine ⟨.error .EBUSY, ?_, nofun⟩
          rw [if_pos hn]
          exact congrFun (if_neg fun hc => hdel hc.1) _
      · refine ⟨.ok false, ?_, fun f hf => ?_⟩
        · rw [if_neg hn]
          rfl
        · cases hf
          refine ⟨nofun, fun _ _ _ ino' hino' => ?_⟩
          rw [hino] at hino'
          cases hino'
          exact hn
  · have hclosed : ∀ o ∈ objects, p.key o ≠ some (p.gbRedVolNum, i) := by
      push Not at hopen
      exact hopen
    have hcheck : inodeUnlinkCheck i p = (.ok (), p) := by
      rw [inodeUnlinkCheck, Op.get_bind_run]
      exact Op.bind_ok (openInoFind_none hi hclosed).1
    refine ⟨.ok false, ?_, fun f hf => ?_⟩
    · rw [unlinkOrphans, Op.attempt_bind_run, hcheck]
      rfl
    · cases hf
      exact ⟨nofun, fun _ h _ => absurd h hopen⟩

/-- `InodeOrphaned()` marks an open inode. -/
lemma inodeOrphaned_run {ptr : Ref → Option ℕ}
    (htable : Refs.Counted refSet objects ptr p.refs p.key) (ho : o ∈ objects)
    (hkey : p.key o = some (p.gbRedVolNum, i)) :
    inodeOrphaned i p = (.ok (), p.setOpenIno o fun oi => { oi with fOrphan := true }) := by
  obtain ⟨o', ho', hkey', hfind⟩ :=
    openInoFind_some (key_eq_some.1 hkey).1 ⟨o, ho, hkey⟩ false
  obtain rfl := htable.unique o ho o' ho' _ hkey hkey'
  rw [inodeOrphaned, Op.get_bind_run]
  exact Op.bind_ok hfind

/-- **A call of the core that takes a name** as the check has said, with what its caller does
afterwards. -/
lemma Settled.redCore_drops (hs : Settled p) {call : Call} {fOrphan : Bool}
    (hlegal : p.gpRedVolume.fMounted → call.Legal p.gpRedVolume.geo p.gpRedVolume.disk)
    (honward : call.Onward) (hfree : ∀ i, call ≠ .freeOrphan i) (hunlinks : Unlinks p i fOrphan)
    (htakes : ∀ f j, call.Takes (p.gpRedVolume.disk.names p.gpRedVolume.geo) f j →
      j = i ∧ f = fOrphan) :
    (do
      redCore call
      .when fOrphan (inodeOrphaned i) : PosixOp Unit).Post p (Stays p) := by
  have hsound : p.gpRedVolume.Sound := hs.good.sound _ hs.good.current
  rcases hm : p.gpRedVolume.fMounted with _ | _
  · have hrun : redCore call p = (.error .EINVAL, p) := whenMounted_error hm _
    rw [Op.Post, Op.bind_error hrun]
    exact ⟨hs, rfl⟩
  obtain ⟨l, m, hinv⟩ := hsound.working hm
  rcases hrun : call.exec p.gpRedVolume.geo p.gpRedVolume.disk with ⟨ret, d⟩
  have hcore := redCore_run hm hrun
  rcases ret with e | ⟨⟩
  · -- no name has been taken
    rw [Op.Post, Op.bind_error hcore]
    exact hs.of_swapped (hs.good.core hm (hlegal hm) honward hrun (swapped_setVolume d)
      fun _ _ j _ => ⟨hfree j, nofun⟩) (swapped_setVolume d) (frame_setDisk d)
  have hobject {r : Ref} {j : ℕ} (hview : Refs.view p.ptr p.key r = some (p.gbRedVolNum, j)) :
      ∃ o ∈ objects, p.key o = some (p.gbRedVolNum, j) :=
    hs.good.table.exists_view_iff.2 ⟨r, hview⟩
  rw [Op.Post, Op.bind_ok hcore]
  rcases fOrphan with _ | _
  · rw [Op.when_neg (by simp)]
    refine hs.of_swapped (hs.good.core hm (hlegal hm) honward hrun (swapped_setVolume d)
      fun r _ j hj => ⟨hfree j, fun _ f n hf hn => ?_⟩) (swapped_setVolume d) (frame_setDisk d)
    obtain ⟨rfl, rfl⟩ := htakes f j hf
    obtain ⟨ino, hino, rfl⟩ := Space.shape_info_eq_some hn
    have hlink : ino.uNLink ≠ 1 := hunlinks.plain rfl (hobject hj) hm ino hino
    obtain ⟨x, hx⟩ := hf.exists_name
    obtain ⟨n', hn', hlink'⟩ := (NameDisk.target_of_names hinv hx).exists_info hinv
    rw [hn] at hn'
    cases hn'
    have hgt : 1 < ino.info.uNLink := by
      change 1 < ino.uNLink
      have : ino.uNLink ≠ 0 := hlink'
      omega
    refine ⟨_, if_pos hgt, fun h0 => ?_⟩
    change ino.info.uNLink - 1 = 0 at h0
    omega
  · obtain ⟨hdel, ⟨o, ho, hkey⟩, ino, hino, hlink⟩ := hunlinks.orphan rfl
    rw [Op.when_pos rfl, inodeOrphaned_run (p := p.setVolume p.gbRedVolNum fun vol =>
      { vol with disk := d }) hs.good.table ho hkey]
    have hw : Swapped p d ((p.setVolume p.gbRedVolNum fun vol =>
        { vol with disk := d }).setOpenIno o fun oi => { oi with fOrphan := true }) :=
      { swapped_setVolume d with
        key := by
          rw [key_setOpenIno]
          exact Function.update_eq_self o p.key
        refs := by
          rw [refs_setOpenIno]
          exact Function.update_eq_self o p.refs
        flag := fun j hj => by
          by_cases hjo : j = o
          · subst hjo
            simp [setOpenIno]
          · simpa [setOpenIno, setVolume, hjo] using hj }
    refine hs.of_swapped (hs.good.core hm (hlegal hm) honward hrun hw
      fun r _ j hj => ⟨hfree j, fun _ f n hf hn => ?_⟩) hw
        ((frame_setDisk d).trans (frame_setOpenIno fun oi => { oi with fOrphan := true }))
    obtain ⟨rfl, rfl⟩ := htakes f j hf
    have hlink' : ¬ 1 < n.uNLink := by
      rw [Space.shape_info hino] at hn
      cases hn
      change ¬ 1 < ino.uNLink
      omega
    refine ⟨{ n with uNLink := 0, ulPInode := INODE_INVALID }, ?_, fun _ o' ho' hk => ?_⟩
    · rw [Info.dropped, if_neg hlink', if_pos (by simp [hdel])]
    · rw [hw.key] at hk
      obtain rfl := hs.good.table.unique o ho o' ho' _ hkey hk
      simp [setOpenIno]

/-! ## Calls that change no reference -/

variable {β : Type}

/-- A call that begins with its path. -/
lemma Settled.stays_bind (hs : Settled p) {y : PosixOp α} {f : α → PosixOp β}
    {A : α → PosixState → Prop}
    (hy : y.Post p fun ret p' => Entered p p' ∧ ∀ a, ret = .ok a → A a p')
    (hf : ∀ a p', Entered p p' → A a p' → Settled p' → (f a).Post p' (Stays p')) :
    (y >>= f).Post p (Stays p) := by
  refine hy.bind (fun a p' hp' => ?_) fun e p' hp' => hp'.1.settled hs
  obtain ⟨hs', hview⟩ := hp'.1.settled hs
  exact (hf a p' hp'.1 (hp'.2 a rfl) hs').mono fun _ _ hq => ⟨hq.1, hq.2.trans hview⟩

/-- The parent that `RedPathToName()` returns has not been removed. -/
def NameOk (p : PosixState) (v : ℕ) (name : Except RedError (ℕ × CString)) : Prop :=
  ∀ y, name = .ok y → (p.gaRedVolume v).disk.toSpace.HasParent y.1

/-- The inode that `RedPathLookup()` returns has a name, or is the root directory. -/
def InodeOk (p : PosixState) (v : ℕ) (inode : Except RedError ℕ) : Prop :=
  ∀ i, inode = .ok i → (p.gaRedVolume v).disk.Target (p.gaRedVolume v).geo i

lemma ofRed_post {ret : Except RedError α} :
    (ofRed ret).Post p fun r p' => p' = p ∧ ∀ a, r = .ok a → ret = .ok a :=
  ⟨rfl, fun _ ha => mapError_eq_ok ha⟩

/-- The result of a path function, as the start of a call. -/
lemma ofRed_entered {ret : Except RedError α} :
    (ofRed ret).Post p fun r p' => Entered p p' ∧ ∀ a, r = .ok a → p' = p ∧ ret = .ok a :=
  ofRed_post.mono fun _ _ hr => ⟨hr.1 ▸ .refl p, fun a ha => ⟨hr.1, hr.2 a ha⟩⟩

lemma redTransact_stays (hs : Settled p) (volume : Found Unit) :
    (redTransact volume).Post p (Stays p) :=
  hs.stays_bind (path_entered volume) fun _ _ _ _ hs' => hs'.redCore_stays
    (fun _ => by simp [Call.Legal]) (by simp [Call.Onward]) (by simp) (by simp [Call.Takes])

lemma redFreeorphans_stays (hs : Settled p) (volume : Found Unit) (ulCount : ℕ) :
    (redFreeorphans volume ulCount).Post p (Stays p) :=
  hs.stays_bind (path_entered volume) fun _ _ _ _ hs' => hs'.redCore_stays
    (fun _ => by simp [Call.Legal]) (by simp [Call.Onward]) (by simp) (by simp [Call.Takes])

lemma writeable_entered (hs : Settled p) (iFildes : ℤ) : (writeable iFildes).Post p fun ret p' =>
    Entered p p' ∧ ∀ i, ret = .ok i → True := by
  rw [writeable]
  refine .get_bind (ofRed_post.bind (fun pHandle p' hp' => ?_) fun e p' hp' => ?_)
  · obtain ⟨rfl, -⟩ := hp'
    split_ifs
    · exact .fail ⟨.refl p', by simp⟩
    rcases hptr : (p'.gaHandle pHandle).pOpenIno with _ | o
    · exact .fail ⟨.refl p', by simp⟩
    · have hptr' : p'.ptr (.inl pHandle) = some o := hptr
      obtain ⟨y, hkey, hview⟩ := hs.good.table.view_some hptr'
      have hlt : (p'.gaOpenInos o).bVolNum < volumeCount := by
        rw [(key_eq_some.1 hkey).2.1]
        exact hs.good.valid _ _ hview
      have hset : (redCoreVolSetCurrent (p'.gaOpenInos o).bVolNum).Ok p' fun _ q =>
          q = { p' with gbRedVolNum := (p'.gaOpenInos o).bVolNum } :=
        .intro (redCoreVolSetCurrent_run hlt) rfl
      refine hset.bind_post fun _ q hq => .pure ⟨?_, by simp⟩
      rw [hq]
      exact ⟨rfl, rfl, fun _ => rfl, rfl, rfl, rfl, fun _ => hlt⟩
  · exact ⟨hp'.1 ▸ .refl p, by simp⟩

lemma redWrite_stays (hs : Settled p) (iFildes : ℤ) (data : List UInt8) :
    (redWrite iFildes data).Post p (Stays p) :=
  hs.stays_bind (writeable_entered hs iFildes) fun _ _ _ _ hs' => hs'.redCore_stays
    (fun _ => by simp [Call.Legal]) (by simp [Call.Onward]) (by simp) (by simp [Call.Takes])

/-- **`RedCoreCreate()`**: an inode that has been created is offered. -/
lemma Settled.redCoreCreate_post (hs : Settled p) (c : Circumstances) {ulPInode : ℕ}
    (pszName : CString) (uMode : Mode)
    (hparent : p.gpRedVolume.disk.toSpace.HasParent ulPInode) :
    (redCoreCreate c ulPInode pszName uMode).Post p fun ret p' => Stays p ret p' ∧
      Frame p p' ∧ p'.gbRedVolNum = p.gbRedVolNum ∧
      ∀ i, ret = .ok i → p'.gpRedVolume.fMounted ∧
        p'.gpRedVolume.disk.Target p'.gpRedVolume.geo i ∧
        ∃ n, (p'.gpRedVolume.disk.shape p'.gpRedVolume.geo).info i = some n ∧
          n.fDirectory = (FileData.new uMode).fDirectory := by
  have hsound : p.gpRedVolume.Sound := hs.good.sound _ hs.good.current
  rcases hm : p.gpRedVolume.fMounted with _ | _
  · rw [Op.Post, redCoreCreate, whenMounted_error hm]
    exact ⟨⟨hs, rfl⟩, .refl p, rfl, by simp⟩
  obtain ⟨l, m, hinv⟩ := hsound.working hm
  rcases hr : NameDisk.coreRetry p.gpRedVolume.geo c (fun room =>
    NameVolume.coreCreate p.gpRedVolume.geo room ulPInode pszName uMode) p.gpRedVolume.disk
    with ⟨ret, d⟩
  have hrun : (Call.create c ulPInode pszName uMode).exec p.gpRedVolume.geo p.gpRedVolume.disk =
      (ret.map fun _ => (), d) := by
    have hmap := Op.bind_pure_run (NameDisk.coreRetry p.gpRedVolume.geo c fun room =>
      NameVolume.coreCreate p.gpRedVolume.geo room ulPInode pszName uMode) (fun _ => ())
      p.gpRedVolume.disk
    rw [hr] at hmap
    exact hmap
  have hlegal : (Call.create c ulPInode pszName uMode).Legal p.gpRedVolume.geo p.gpRedVolume.disk :=
    hparent
  rw [Op.Post, redCoreCreate, whenMounted_run hm, onCurrent_run hr]
  refine ⟨hs.of_swapped (hs.good.core_of_keeps hm hlegal (by simp [Call.Onward]) hrun
    (swapped_setVolume d) (by simp) (by simp [Call.Takes])) (swapped_setVolume d)
    (frame_setDisk d), frame_setDisk d, rfl, fun i hi => ?_⟩
  obtain rfl := mapError_eq_ok hi
  rw [show (p.setVolume p.gbRedVolNum fun vol => { vol with disk := d }).gpRedVolume =
    { p.gpRedVolume with disk := d } from setVolume_self _]
  exact ⟨hm, coreCreate_target hsound.version hinv hparent hr⟩

lemma redMknod_stays (hs : Settled p) (c : Circumstances) {name : Found (ℕ × CString)}
    (hname : p.NameOk (p.pathVolume name) name.ret) (uMode : Mode) :
    (redMknod c name uMode).Post p (Stays p) := by
  refine hs.stays_bind (path_entered name) fun a p' _ hp' hs' => ?_
  obtain ⟨ha, rfl⟩ := hp'
  exact (hs'.redCoreCreate_post c a.2 uMode (hname a ha)).mono fun _ _ hq => hq.1

/-- The volume that two paths are on. -/
def pathVolume₂ (p : PosixState) (start start' : Found Unit) : ℕ :=
  start'.bVolNum.getD (p.pathVolume start)

lemma pathTwice_entered (start start' : Found Unit) : (pathTwice start start').Post p
    fun ret p' => Entered p p' ∧
      ∀ a, ret = .ok a → p' = { p with gbRedVolNum := p.pathVolume₂ start start' } := by
  rw [pathTwice]
  refine (path_entered start).bind (fun a p1 hp1 => ?_) fun e p1 hp1 => ⟨hp1.1, by simp⟩
  obtain ⟨he1, ha1⟩ := hp1
  obtain ⟨-, rfl⟩ := ha1 a rfl
  refine .get_bind ((path_entered start').bind (fun b p2 hp2 => ?_) fun e p2 hp2 =>
    ⟨he1.trans hp2.1, by simp⟩)
  obtain ⟨he2, ha2⟩ := hp2
  obtain ⟨-, rfl⟩ := ha2 b rfl
  refine .get_bind (.when (fun _ => .fail ⟨he1.trans he2, by simp⟩) fun _ => ?_)
  exact ⟨he1.trans he2, fun _ _ => rfl⟩

lemma redLinkat_stays (hs : Settled p) (c : Circumstances) {start start' : Found Unit}
    {inode : Except RedError ℕ} {link : Except RedError (ℕ × CString)}
    (hinode : p.InodeOk (p.pathVolume₂ start start') inode)
    (hlink : p.NameOk (p.pathVolume₂ start start') link) :
    (redLinkat c start start' inode link).Post p (Stays p) := by
  refine hs.stays_bind (pathTwice_entered start start') fun _ p' _ hp' hs' => ?_
  subst hp'
  refine hs'.stays_bind ofRed_entered fun i p' _ hp' hs' => ?_
  obtain ⟨rfl, hi⟩ := hp'
  refine hs'.stays_bind ofRed_entered fun y p' _ hp' hs' => ?_
  obtain ⟨rfl, hy⟩ := hp'
  exact hs'.redCore_stays (fun _ => ⟨hlink y hy, hinode i hi⟩) (by simp [Call.Onward]) (by simp)
    (by simp [Call.Takes])

/-- The inode that has a name is valid. -/
lemma Settled.ne_invalid (hs : Settled p) (hm : p.gpRedVolume.fMounted) {y : ℕ × List UInt8}
    (hy : p.gpRedVolume.disk.names p.gpRedVolume.geo y = some i) : i ≠ INODE_INVALID := by
  have hsound : p.gpRedVolume.Sound := hs.good.sound _ hs.good.current
  obtain ⟨l, m, hinv⟩ := hsound.working hm
  obtain ⟨n, hn, -⟩ := (NameDisk.target_of_names hinv hy).exists_info hinv
  obtain ⟨ino, hino, -⟩ := Space.shape_info_eq_some hn
  exact hinv.valid_ne hino

/-- An operation that only reads, as the start of a call. -/
lemma entered_of_run {y : PosixOp α} {A : α → Prop} {ret : Except PosixError α}
    (hrun : y p = (ret, p)) (hA : ∀ a, ret = .ok a → A a) :
    y.Post p fun r p' => Entered p p' ∧ ∀ a, r = .ok a → p' = p ∧ A a := by
  rw [Op.Post, hrun]
  exact ⟨.refl p, fun a ha => ⟨rfl, hA a ha⟩⟩

lemma entered_of_reads {y : PosixOp α} (hy : y.Respects Eq) :
    y.Post p fun r p' => Entered p p' ∧ ∀ a, r = .ok a → p' = p :=
  ⟨(hy p) ▸ .refl p, fun _ _ => (hy p).symm⟩

lemma redCoreStat_reads (i : ℕ) : (redCoreStat i).Respects Eq := fun p => by
  obtain ⟨ret, hstat, -⟩ := redCoreStat_run (p := p) i
  rw [hstat]

/-- **`red_unlinkat()`.** -/
lemma redUnlinkat_stays (hs : Settled p) (c : Circumstances) {name : Found (ℕ × CString)}
    (hname : p.NameOk (p.pathVolume name) name.ret) (fRemoveDir : Bool) :
    (redUnlinkat c name fRemoveDir).Post p (Stays p) := by
  refine hs.stays_bind (path_entered name) fun a p' _ hp' hs' => ?_
  obtain ⟨ha, rfl⟩ := hp'
  have hparent := hname a ha
  obtain ⟨ret, hlookup, hfound, -⟩ := redCoreLookup_run hs' a.1 a.2
  refine hs'.stays_bind (entered_of_run hlookup hfound) fun i p' _ hp' hs' => ?_
  obtain ⟨rfl, hm, hi⟩ := hp'
  refine hs'.stays_bind
    (entered_of_reads (.when (.bind (redCoreStat_reads i) fun _ => .ofExcept _)))
    fun _ p' _ hp' hs' => ?_
  subst hp'
  obtain ⟨ret, hcheck, hunlinks⟩ := unlinkOrphans_run (hs'.ne_invalid hm hi)
  refine hs'.stays_bind (entered_of_run hcheck hunlinks) fun f p' _ hp' hs' => ?_
  obtain ⟨rfl, hf⟩ := hp'
  refine hs'.redCore_drops (fun _ => hparent) (by simp [Call.Onward]) (by simp) hf ?_
  rintro f' j ⟨rfl, hj⟩
  exact ⟨Option.some.inj (hj.symm.trans hi), rfl⟩

/-- The destination of a rename. -/
lemma renameDest_run (hs : Settled p) (ulNewPInode : ℕ) (pszNewName : CString) :
    ∃ ret, renameDest ulNewPInode pszNewName p = (ret, p) ∧ ∀ d, ret = .ok d →
      Unlinks p d.1 d.2 ∧ (∀ j, p.gpRedVolume.disk.names p.gpRedVolume.geo
        (ulNewPInode, pszNewName.name) = some j → j = d.1) ∧ (d.2 = true →
          p.gpRedVolume.disk.names p.gpRedVolume.geo (ulNewPInode, pszNewName.name) =
          some d.1) := by
  obtain ⟨ret, hlookup, hfound, hmissing⟩ := redCoreLookup_run hs ulNewPInode pszNewName
  rcases ret with e | i
  · by_cases he : e = .ENOENT
    · subst he
      have hnone := hmissing rfl
      refine ⟨.ok (INODE_INVALID, false), ?_, fun d hd => ?_⟩
      · rw [renameDest, Op.attempt_bind_run, hlookup]
        rfl
      · obtain rfl : (INODE_INVALID, false) = d := Except.ok.inj hd
        refine ⟨⟨nofun, fun _ ⟨o, _, hkey⟩ => ?_⟩, fun j hj => ?_, by simp⟩
        · exact absurd rfl (key_eq_some.1 hkey).1
        · rw [hnone] at hj
          cases hj
    · refine ⟨.error e, ?_, nofun⟩
      rw [renameDest, Op.attempt_bind_run, hlookup]
      exact congrFun (if_neg he) _
  · obtain ⟨hm, hi⟩ := hfound i rfl
    obtain ⟨ret, hcheck, hunlinks⟩ := unlinkOrphans_run (p := p) (hs.ne_invalid hm hi)
    rcases ret with e | f
    · refine ⟨.error e, ?_, nofun⟩
      rw [renameDest, Op.attempt_bind_run, hlookup]
      exact Op.bind_error hcheck
    · refine ⟨.ok (i, f), ?_, fun d hd => ?_⟩
      · rw [renameDest, Op.attempt_bind_run, hlookup]
        exact Op.bind_ok hcheck
      · obtain rfl : (i, f) = d := Except.ok.inj hd
        exact ⟨hunlinks f rfl, fun j hj => Option.some.inj (hj.symm.trans hi), fun _ => hi⟩

/-- **`red_renameat()`.** -/
lemma redRenameat_stays (hs : Settled p) (c : Circumstances) {start start' : Found Unit}
    {old new : Except RedError (ℕ × CString)}
    (hold : p.NameOk (p.pathVolume₂ start start') old)
    (hnew : p.NameOk (p.pathVolume₂ start start') new) :
    (redRenameat c start start' old new).Post p (Stays p) := by
  refine hs.stays_bind (pathTwice_entered start start') fun _ p' _ hp' hs' => ?_
  subst hp'
  refine hs'.stays_bind ofRed_entered fun a p' _ hp' hs' => ?_
  obtain ⟨rfl, ha⟩ := hp'
  refine hs'.stays_bind ofRed_entered fun b p' _ hp' hs' => ?_
  obtain ⟨rfl, hb⟩ := hp'
  obtain ⟨ret, hrun, hret⟩ := renameDest_run hs' b.1 b.2
  refine hs'.stays_bind (entered_of_run hrun hret) fun d p' _ hp' hs' => ?_
  obtain ⟨rfl, hunlinks, hdest, -⟩ := hp'
  refine hs'.redCore_drops (fun _ => ⟨hold a ha, hnew b hb⟩) (by simp [Call.Onward]) (by simp)
    hunlinks ?_
  rintro f' j ⟨rfl, hj, -⟩
  exact ⟨hdest j hj, rfl⟩

end PosixState

end RelianceEdge
