import RelianceEdge.Handle.Release

set_option relaxedAutoImplicit false
set_option autoImplicit false
set_option linter.unusedSectionVars false

/-!
# Open inodes that are marked

An open inode is marked as an orphan when its inode loses its last name. Then the mark and the link
count agree, until the inode is freed by its last close, and no close fails. One call breaks this: a
rename of an open inode with one name onto that same name.

## Main definitions

* `PosixVolume.Orphaned` — an inode has lost its names and has not become defunct.
* `PosixState.Exact` — only orphans are marked.

## Main results

* `Exact.swap` — the invariant through a call of the core.
-/

namespace RelianceEdge

variable [PosixConf]

open RedConf PosixConf OrphanSpace

/-- **The inode has lost its names**, and is on the list of orphans that are open. -/
def PosixVolume.Orphaned (vol : PosixVolume) (i : ℕ) : Prop :=
  vol.fMounted = true ∧ ∃ n, (vol.disk.shape vol.geo).info i = some n ∧ n.uNLink = 0 ∧
    ¬ vol.disk.Defunct vol.geo i

variable {vol : PosixVolume} {i j : ℕ} {call : Call} {ret : Except RedError Unit} {d : NameDisk}

lemma PosixVolume.Sound.exec (hs : vol.Sound) (hm : vol.fMounted)
    (hlegal : call.Legal vol.geo vol.disk) (honward : call.Onward)
    (hrun : call.exec vol.geo vol.disk = (ret, d)) :
    PosixVolume.Sound { vol with disk := d } := by
  obtain ⟨l, m, hinv⟩ := hs.working hm
  have hafter := Call.run_after hs.version hinv hlegal honward
  rw [show call.run vol.geo vol.disk = d from congrArg Prod.snd hrun] at hafter
  obtain ⟨m', ⟨l', hinv'⟩, -⟩ := Call.run_fate hs.version hinv hlegal honward hrun
  refine ⟨hs.version, hs.pos, hs.count, ?_, fun _ => ⟨l', m', hinv'⟩⟩
  rcases hafter.committed with hsame | hnew
  · exact hsame ▸ hs.committed
  · exact hnew

/-- **An orphan is not touched** by a call of the core, unless it is the one that is freed. -/
lemma PosixVolume.Orphaned.exec (hi : vol.Orphaned i) (hs : vol.Sound)
    (hlegal : call.Legal vol.geo vol.disk) (honward : call.Onward)
    (hrun : call.exec vol.geo vol.disk = (ret, d)) (hfree : call ≠ .freeOrphan i) :
    PosixVolume.Orphaned { vol with disk := d } i := by
  obtain ⟨hm, n, hn, hlink, hdef⟩ := hi
  obtain ⟨l, m, hinv⟩ := hs.working hm
  obtain ⟨m', ⟨l', hinv'⟩, hsuffix, hfate⟩ := Call.run_fate hs.version hinv hlegal honward hrun
  have hmem : i ∉ m := fun h => hdef (hinv.defunct_iff.2 h)
  obtain ⟨n', hn', hsame⟩ := hfate.kept i n hn hmem hfree fun _ f hf => by
    obtain ⟨x, hx⟩ := hf.exists_name
    obtain ⟨n0, hn0, hlink0⟩ := (NameDisk.target_of_names hinv hx).exists_info hinv
    rw [hn] at hn0
    cases hn0
    exact hlink0 hlink
  exact ⟨hm, n', hn', hsame.2.2 hlink,
    fun h => hmem (hsuffix.subset (hinv'.defunct_iff.1 h))⟩

/-- **The last name of an inode is taken**, and the inode is kept. -/
lemma PosixVolume.Orphaned.of_takes (hs : vol.Sound) (hm : vol.fMounted)
    (hlegal : call.Legal vol.geo vol.disk) (honward : call.Onward)
    (hrun : call.exec vol.geo vol.disk = (.ok (), d)) (hdelete : deleteOpen = true)
    (htakes : call.Takes (vol.disk.names vol.geo) true i) {ino : FileNode}
    (hino : vol.disk.node i = some ino) (hlink : ino.uNLink = 1) :
    PosixVolume.Orphaned { vol with disk := d } i := by
  obtain ⟨l, m, hinv⟩ := hs.working hm
  obtain ⟨m', ⟨l', hinv'⟩, hsuffix, hfate⟩ := Call.run_fate hs.version hinv hlegal honward hrun
  have hmem : i ∉ m := fun h => by
    obtain ⟨ino0, hino0, h0⟩ := (hinv.lists.mem i).1 (.inr h)
    rw [hino] at hino0
    cases hino0
    omega
  have hn : (vol.disk.shape vol.geo).info i = some ino.info := Space.shape_info hino
  have hdropped := hfate.dropped rfl i ino.info true hn hmem htakes
  rw [Info.dropped, if_neg (by change ¬ 1 < ino.uNLink; omega), if_pos (by simp [hdelete])]
    at hdropped
  exact ⟨hm, _, hdropped, rfl, fun h => hmem (hsuffix.subset (hinv'.defunct_iff.1 h))⟩

namespace PosixState

variable {p p' : PosixState} {r : Ref} {v o h t : ℕ} {x : ℕ × ℕ} {α β : Type}

/-- No inode is open twice. -/
def Unique (p : PosixState) : Prop :=
  ∀ o ∈ objects, ∀ o' ∈ objects, ∀ x, p.key o = some x → p.key o' = some x → o = o'

/-- **Only orphans are marked.** -/
structure Exact (p : PosixState) : Prop where
  current : p.gbRedVolNum < volumeCount
  sound : ∀ v < volumeCount, (p.gaRedVolume v).Sound
  unique : Unique p
  orphaned : ∀ o ∈ objects, ∀ v i, p.key o = some (v, i) → (p.gaOpenInos o).fOrphan = true →
    (p.gaRedVolume v).Orphaned i

/-- An operation marks nothing, and leaves the volumes alone. -/
structure Quiet (p p' : PosixState) : Prop where
  volume : p'.gaRedVolume = p.gaRedVolume
  current : p'.gbRedVolNum = p.gbRedVolNum
  unique : Unique p → Unique p'
  marks : ∀ o ∈ objects, ∀ x, p'.key o = some x → (p'.gaOpenInos o).fOrphan = true →
    p.key o = some x ∧ (p.gaOpenInos o).fOrphan = true

instance : IsPreorder PosixState Quiet where
  refl _ := ⟨rfl, rfl, id, fun _ _ _ hx hf => ⟨hx, hf⟩⟩
  trans _ _ _ h h' := ⟨h'.volume.trans h.volume, h'.current.trans h.current,
    h'.unique ∘ h.unique, fun o ho x hx hf =>
      h.marks o ho x (h'.marks o ho x hx hf).1 (h'.marks o ho x hx hf).2⟩

/-- What an operation keeps, whatever state it starts from. -/
def Keeping (p p' : PosixState) : Prop := Exact p → Exact p'

instance : IsPreorder PosixState Keeping where
  refl _ := id
  trans _ _ _ h h' := h' ∘ h

lemma Exact.quiet (hp : Exact p) (h : Quiet p p') : Exact p' where
  current := h.current ▸ hp.current
  sound := h.volume ▸ hp.sound
  unique := h.unique hp.unique
  orphaned o ho v i hx hf := by
    obtain ⟨hkey, hflag⟩ := h.marks o ho _ hx hf
    exact h.volume ▸ hp.orphaned o ho v i hkey hflag

/-- An operation that marks nothing. -/
lemma Quiet.keeping {x : PosixOp α} (h : x.Respects Quiet) : x.Respects Keeping :=
  h.mono fun _ _ hq hp => hp.quiet hq

/-- The open inodes and the volumes are not touched. -/
lemma Exact.same (hp : Exact p) (hopen : p'.gaOpenInos = p.gaOpenInos)
    (hvol : p'.gaRedVolume = p.gaRedVolume) (hcur : p'.gbRedVolNum < volumeCount) : Exact p' := by
  have hkey : p'.key = p.key := by
    funext o
    rw [key, key, hopen]
  refine ⟨hcur, hvol ▸ hp.sound, ?_, fun o ho v i hx hf => ?_⟩
  · rw [Unique, hkey]
    exact hp.unique
  · rw [hkey] at hx
    rw [hopen] at hf
    exact hvol ▸ hp.orphaned o ho v i hx hf

/-! ## The tables -/

lemma quiet_setHandle (f : RedHandle → RedHandle) : Quiet p (p.setHandle h f) :=
  ⟨rfl, rfl, id, fun _ _ _ hx hf => ⟨hx, hf⟩⟩

lemma quiet_setTask (f : TaskSlot → TaskSlot) : Quiet p (p.setTask t f) :=
  ⟨rfl, rfl, id, fun _ _ _ hx hf => ⟨hx, hf⟩⟩

/-- An open inode is counted, or becomes available. -/
lemma quiet_setOpenIno {f : OpenInode → OpenInode}
    (hf : ∀ oi x, (f oi).key = some x → oi.key = some x ∧
    ((f oi).fOrphan = true → oi.fOrphan = true)) :
    Quiet p (p.setOpenIno o f) := by
  have hold {o' : ℕ} {y : ℕ × ℕ} (hy : (p.setOpenIno o f).key o' = some y) :
      p.key o' = some y ∧ (((p.setOpenIno o f).gaOpenInos o').fOrphan = true →
        (p.gaOpenInos o').fOrphan = true) := by
    by_cases ho : o' = o
    · subst ho
      have hself : (p.setOpenIno o' f).gaOpenInos o' = f (p.gaOpenInos o') :=
        Function.update_self _ _ p.gaOpenInos
      rw [hself]
      rw [key, hself] at hy
      exact hf _ _ hy
    · have hne : (p.setOpenIno o f).gaOpenInos o' = p.gaOpenInos o' :=
        Function.update_of_ne ho _ p.gaOpenInos
      rw [hne]
      rw [key, hne] at hy
      exact ⟨hy, id⟩
  exact ⟨rfl, rfl, fun hu a ha b hb x hx hx' => hu a ha b hb x (hold hx).1 (hold hx').1,
    fun a _ x hx hflag => ⟨(hold hx).1, (hold hx).2 hflag⟩⟩

/-- An open inode that is available is used. -/
lemma quiet_alloc (hclosed : ∀ o ∈ objects, p.key o ≠ some (v, i)) :
    Quiet p (p.setOpenIno o fun _ => ⟨i, v, false, 0⟩) := by
  have hold {o' : ℕ} (ho : o' ≠ o) :
      (p.setOpenIno o fun _ => ⟨i, v, false, 0⟩).key o' = p.key o' := by
    rw [key_setOpenIno, Function.update_of_ne ho]
  have hnew {y : ℕ × ℕ} (hy : (p.setOpenIno o fun _ => ⟨i, v, false, 0⟩).key o = some y) :
      y = (v, i) := by
    rw [key_setOpenIno, Function.update_self] at hy
    simp only [OpenInode.key] at hy
    split_ifs at hy
    exact (Option.some.inj hy).symm
  refine ⟨rfl, rfl, fun hu a ha b hb y hya hyb => ?_, fun a ha y hkey hf => ?_⟩
  · by_cases hao : a = o <;> by_cases hbo : b = o
    · exact hao.trans hbo.symm
    · subst hao
      obtain rfl := hnew hya
      rw [hold hbo] at hyb
      exact absurd hyb (hclosed b hb)
    · subst hbo
      obtain rfl := hnew hyb
      rw [hold hao] at hya
      exact absurd hya (hclosed a ha)
    · rw [hold hao] at hya
      rw [hold hbo] at hyb
      exact hu a ha b hb y hya hyb
  · by_cases hao : a = o
    · subst hao
      simp [setOpenIno] at hf
    · rw [hold hao] at hkey
      exact ⟨hkey, by simpa [setOpenIno, hao] using hf⟩

lemma openInoFind_quiet (v i : ℕ) (fAlloc : Bool) : (openInoFind v i fAlloc).Respects Quiet := by
  intro p
  have hscan := (Refs.scan_eq
    (fun o => (p.gaOpenInos o).ulInode == i && (p.gaOpenInos o).bVolNum == v)
    (fun o => (p.gaOpenInos o).ulInode == INODE_INVALID) (List.range openInodeCount) none).1
  rw [openInoFind, Op.get_bind_run]
  rcases hrun : Refs.scan (fun o => (p.gaOpenInos o).ulInode == i && (p.gaOpenInos o).bVolNum == v)
    (fun o => (p.gaOpenInos o).ulInode == INODE_INVALID) (List.range openInodeCount) none
    with ⟨pOpenIno, pFreeIno⟩
  rw [hrun] at hscan
  dsimp only at hscan ⊢
  have hrefl : Quiet p p := refl_of Quiet p
  rcases pOpenIno with _ | o
  · have hclosed : ∀ o ∈ objects, p.key o ≠ some (v, i) := fun o ho hkey => by
      obtain ⟨-, hv, hi⟩ := key_eq_some.1 hkey
      have hnot := List.find?_eq_none.1 hscan.symm o (List.mem_range.2 (Finset.mem_range.1 ho))
      simp [hv, hi] at hnot
    rcases fAlloc with _ | _
    · exact hrefl
    · rcases pFreeIno with _ | o
      · exact hrefl
      · exact quiet_alloc hclosed
  · exact hrefl

lemma openInoRef_quiet (o : ℕ) : (openInoRef o).Respects Quiet :=
  .modify fun _ => quiet_setOpenIno fun _ _ hx => ⟨hx, id⟩

lemma key_deref (oi : OpenInode) {x : ℕ × ℕ} (hx : oi.deref.key = some x) :
    oi.key = some x ∧ (oi.deref.fOrphan = true → oi.fOrphan = true) := by
  unfold OpenInode.deref at hx ⊢
  split_ifs at hx ⊢ with hone
  · simp [OpenInode.key] at hx
  · exact ⟨hx, id⟩

lemma quiet_deref : Quiet p (p.setOpenIno o OpenInode.deref) :=
  quiet_setOpenIno fun oi _ hx => key_deref oi hx

lemma openInoDeref_quiet (o : ℕ) (fPropagate : Bool) :
    (openInoDeref o false fPropagate).Respects Quiet := by
  intro p
  by_cases ho : openInodeCount ≤ o
  · rw [openInoDeref, Op.get_bind_run, if_pos ho]
    exact refl_of Quiet p
  by_cases hzero : (p.gaOpenInos o).uRefs = 0
  · rw [openInoDeref, Op.get_bind_run, if_neg ho, if_pos hzero]
    exact refl_of Quiet p
  by_cases hone : p.refs o = 1
  · rw [openInoDeref_silent (Nat.lt_of_not_le ho) hone (by simp)]
    exact quiet_deref
  · rw [openInoDeref_shared (Nat.lt_of_not_le ho) hzero hone]
    exact quiet_deref

lemma handleOpen_quiet (h i : ℕ) : (handleOpen h i).Respects Quiet := by
  refine .get_bind fun p => .bind (openInoFind_quiet _ _ _) fun r => ?_
  rcases r with _ | o
  · exact .bind (.modify fun _ => quiet_setHandle _) fun _ => .fail _
  · exact .bind (openInoRef_quiet o) fun _ => .modify fun _ => quiet_setHandle _

/-- The end of `CwdClose()`: the root directory is found. -/
lemma cwdFind_quiet (t : ℕ) (fClearVol : Bool) : (do
    let p ← .get
    let pCwd ← openInoFind (if fClearVol then 0 else p.gbRedVolNum) INODE_ROOTDIR true
    .modify fun p => p.setTask t fun task => { task with pCwd := pCwd }
    match pCwd with
    | some i => openInoRef i
    | none => .fail .EFUBAR : PosixOp Unit).Respects Quiet := by
  refine .get_bind fun q => .bind (openInoFind_quiet _ _ _) fun r => ?_
  refine .bind (.modify fun _ => quiet_setTask _) fun _ => ?_
  rcases r with _ | o
  · exact .fail _
  · exact openInoRef_quiet o

lemma cwdClose_quiet (t : ℕ) (fClearVol : Bool) : (cwdClose t fClearVol true).Respects Quiet := by
  refine .get_bind fun p => ?_
  rcases (p.gaTask t).pCwd with _ | o
  · exact cwdFind_quiet t fClearVol
  · exact .bind (openInoDeref_quiet o false) fun _ => cwdFind_quiet t fClearVol

lemma cwdCloseVol_quiet : (cwdCloseVol true).Respects Quiet := by
  rw [cwdCloseVol]
  induction List.range taskCount with
  | nil => exact .pure ()
  | cons t rest ih =>
    refine .get_bind fun p => ?_
    rcases (p.gaTask t).pCwd with _ | o
    · exact .bind (.pure ()) fun _ => ih
    · exact .bind (.when (cwdClose_quiet t false)) fun _ => ih

lemma cwdResetAll_quiet : cwdResetAll.Respects Quiet := by
  rw [cwdResetAll]
  induction List.range taskCount with
  | nil => exact .pure ()
  | cons t rest ih => exact .bind (.attempt (cwdClose_quiet t true)) fun _ => ih

/-! ## Calls of the core -/

lemma redCoreVolSetCurrent_keeping (v : ℕ) : (redCoreVolSetCurrent v).Respects Keeping := by
  intro p hp
  by_cases hv : volumeCount ≤ v
  · rw [redCoreVolSetCurrent, if_pos hv]
    exact hp
  · rw [redCoreVolSetCurrent_run (by omega)]
    exact hp.same rfl rfl (Nat.lt_of_not_le hv)

/-- The state after a call of the core on a mounted volume, with what else has become of the open
inodes. -/
lemma Exact.swap (hp : Exact p) (hm : p.gpRedVolume.fMounted)
    (hlegal : call.Legal p.gpRedVolume.geo p.gpRedVolume.disk) (honward : call.Onward)
    (hrun : call.exec p.gpRedVolume.geo p.gpRedVolume.disk = (ret, d))
    (hself : p'.gaRedVolume p.gbRedVolNum = { p.gpRedVolume with disk := d })
    (hother : ∀ w ≠ p.gbRedVolNum, p'.gaRedVolume w = p.gaRedVolume w)
    (hcur : p'.gbRedVolNum < volumeCount) (hunique : Unique p')
    (hmarks : ∀ o ∈ objects, ∀ v i, p'.key o = some (v, i) → (p'.gaOpenInos o).fOrphan = true →
      (p.gaRedVolume v).Orphaned i ∧ (v = p.gbRedVolNum → call ≠ .freeOrphan i) ∨
        (p'.gaRedVolume v).Orphaned i) : Exact p' := by
  have hsound : p.gpRedVolume.Sound := hp.sound _ hp.current
  refine ⟨hcur, fun w hw => ?_, hunique, fun o ho w i hkey hf => ?_⟩
  · by_cases hwv : w = p.gbRedVolNum
    · subst hwv
      rw [hself]
      exact hsound.exec hm hlegal honward hrun
    · rw [hother w hwv]
      exact hp.sound w hw
  · obtain ⟨horphaned, hfree⟩ | hdone := hmarks o ho w i hkey hf
    · by_cases hwv : w = p.gbRedVolNum
      · subst hwv
        rw [hself]
        exact horphaned.exec hsound hlegal honward hrun (hfree rfl)
      · rwa [hother w hwv]
    · exact hdone

/-- **A call of the core** keeps the orphans, unless it frees one. -/
lemma Exact.setDisk (hp : Exact p) (hm : p.gpRedVolume.fMounted)
    (hlegal : call.Legal p.gpRedVolume.geo p.gpRedVolume.disk) (honward : call.Onward)
    (hrun : call.exec p.gpRedVolume.geo p.gpRedVolume.disk = (ret, d))
    (hfree : ∀ i, call ≠ .freeOrphan i) :
    Exact (p.setVolume p.gbRedVolNum fun vol => { vol with disk := d }) :=
  hp.swap hm hlegal honward hrun (setVolume_self _) (fun _ hw => setVolume_ne hw _) hp.current
    hp.unique fun o ho v i hx hf => .inl ⟨hp.orphaned o ho v i hx hf, fun _ => hfree i⟩

lemma Exact.redCore_post (hp : Exact p)
    (hlegal : p.gpRedVolume.fMounted → call.Legal p.gpRedVolume.geo p.gpRedVolume.disk)
    (honward : call.Onward) (hfree : ∀ i, call ≠ .freeOrphan i) :
    (redCore call).Post p fun _ p' => Exact p' := by
  rcases hm : p.gpRedVolume.fMounted with _ | _
  · rw [Op.Post, redCore, whenMounted_error hm]
    exact hp
  rcases hrun : call.exec p.gpRedVolume.geo p.gpRedVolume.disk with ⟨ret, d⟩
  rw [Op.Post, redCore_run hm hrun]
  exact hp.setDisk hm (hlegal hm) honward hrun hfree

/-- The calls that are legal everywhere. -/
lemma redCore_keeping (hlegal : ∀ s d, call.Legal s d) (honward : call.Onward)
    (hfree : ∀ i, call ≠ .freeOrphan i) : (redCore call).Respects Keeping :=
  fun _ hp => hp.redCore_post (fun _ => hlegal _ _) honward hfree

/-! ## References that are given up -/

/-- An orphan is freed, and its open inode given up. -/
lemma Exact.freeOrphan (hp : Exact p) (ho : o ∈ objects) (hone : p.refs o = 1)
    (hcur : (p.gaOpenInos o).bVolNum = p.gbRedVolNum) (hdelete : deleteOpen = true) : ∃ ret p1,
    redCore (.freeOrphan (p.gaOpenInos o).ulInode) p = (ret, p1) ∧ p1.gaOpenInos = p.gaOpenInos ∧
      (ret ≠ .ok () → Exact p1) ∧ Exact (p1.setOpenIno o OpenInode.deref) := by
  rcases hm : p.gpRedVolume.fMounted with _ | _
  · exact ⟨_, _, whenMounted_error hm _, rfl, fun _ => hp,
      hp.quiet quiet_deref⟩
  rcases hrun : (Call.freeOrphan (p.gaOpenInos o).ulInode).exec p.gpRedVolume.geo p.gpRedVolume.disk
    with ⟨ret, d⟩
  refine ⟨_, _, redCore_run hm hrun, rfl, fun hne => ?_, ?_⟩
  · -- it has failed
    obtain ⟨l, m, hinv⟩ := (hp.sound _ hp.current).working hm
    rcases Call.freeOrphan_run hinv (p.gaOpenInos o).ulInode with
      ⟨e, herror⟩ | ⟨hno, -⟩ | ⟨d', hok, -⟩
    · cases herror.symm.trans hrun
      exact (setVolume_same (p := p) (v := p.gbRedVolNum)).symm ▸ hp
    · rw [hdelete] at hno
      cases hno
    · cases hok.symm.trans hrun
      exact absurd rfl hne
  set q := (p.setVolume p.gbRedVolNum fun vol => { vol with disk := d }).setOpenIno o
    OpenInode.deref with hq
  have hnone : q.key o = none := by
    have hone' : (p.gaOpenInos o).uRefs = 1 := hone
    rw [hq, key_setOpenIno, Function.update_self]
    change (p.gaOpenInos o).deref.key = none
    rw [OpenInode.deref, if_pos hone']
    simp [OpenInode.key]
  have hkey {o' : ℕ} {y : ℕ × ℕ} (hy : q.key o' = some y) : o' ≠ o ∧ p.key o' = some y := by
    have hoo : o' ≠ o := by
      rintro rfl
      rw [hnone] at hy
      cases hy
    rw [hq, key_setOpenIno, Function.update_of_ne hoo] at hy
    exact ⟨hoo, hy⟩
  refine hp.swap hm (by simp [Call.Legal]) (by simp [Call.Onward]) hrun ?_ ?_ hp.current
    (fun a ha b hb x hx hx' => hp.unique a ha b hb x (hkey hx).2 (hkey hx').2)
    fun o' ho' v i hx hf => ?_
  · exact Function.update_self _ _ p.gaRedVolume
  · exact fun w hw => Function.update_of_ne hw _ p.gaRedVolume
  · obtain ⟨hoo, hx'⟩ := hkey hx
    have hsame : q.gaOpenInos o' = p.gaOpenInos o' := Function.update_of_ne hoo _ p.gaOpenInos
    rw [hsame] at hf
    refine .inl ⟨hp.orphaned o' ho' v i hx' hf, fun hv heq => ?_⟩
    -- the inode is not open a second time
    obtain rfl := Call.freeOrphan.inj heq
    subst hv
    exact hoo (hp.unique o' ho' o ho _ hx' (key_eq_some.2 ⟨(key_eq_some.1 hx').1, hcur, rfl⟩))

/-- **The cleanup** of an open inode that is given up by its last reference. -/
lemma Exact.cleanup (hp : Exact p) (ho : o ∈ objects) (hone : p.refs o = 1)
    (hdelete : deleteOpen = true) : ∃ ret p1, (do
        redCoreVolSetCurrent (p.gaOpenInos o).bVolNum
        .when (p.gaOpenInos o).fOrphan (redCore (.freeOrphan (p.gaOpenInos o).ulInode)) :
          PosixOp Unit) p = (ret, p1) ∧ p1.gaOpenInos = p.gaOpenInos ∧
      (ret ≠ .ok () → Exact p1) ∧ Exact (p1.setOpenIno o OpenInode.deref) := by
  have hderef {q : PosixState} (hq : Exact q) : Exact (q.setOpenIno o OpenInode.deref) :=
    hq.quiet quiet_deref
  by_cases hv : volumeCount ≤ (p.gaOpenInos o).bVolNum
  · have hset : redCoreVolSetCurrent (p.gaOpenInos o).bVolNum p = (.error .EINVAL, p) := by
      rw [redCoreVolSetCurrent, if_pos hv]
      rfl
    exact ⟨_, _, Op.bind_error hset, rfl, fun _ => hp, hderef hp⟩
  replace hv := Nat.lt_of_not_le hv
  have hexact : Exact { p with gbRedVolNum := (p.gaOpenInos o).bVolNum } := hp.same rfl rfl hv
  rw [Op.bind_ok (redCoreVolSetCurrent_run hv)]
  by_cases hflag : (p.gaOpenInos o).fOrphan = true
  · rw [Op.when_pos hflag]
    exact hexact.freeOrphan ho hone rfl hdelete
  · rw [Op.when_neg hflag]
    exact ⟨_, _, rfl, rfl, fun _ => hexact, hderef hexact⟩

lemma openInoDeref_keeping (o : ℕ) (fDoCleanup fPropagate : Bool) :
    (openInoDeref o fDoCleanup fPropagate).Respects Keeping := by
  intro p hp
  by_cases ho : openInodeCount ≤ o
  · rw [openInoDeref, Op.get_bind_run, if_pos ho]
    exact hp
  have hlt := Nat.lt_of_not_le ho
  by_cases hzero : p.refs o = 0
  · have hzero' : (p.gaOpenInos o).uRefs = 0 := hzero
    rw [openInoDeref, Op.get_bind_run, if_neg ho, if_pos hzero']
    exact hp
  have hderef : Exact (p.setOpenIno o OpenInode.deref) :=
    hp.quiet quiet_deref
  by_cases hone : p.refs o = 1
  swap
  · rw [openInoDeref_shared hlt hzero hone]
    exact hderef
  by_cases hclean : p.DoesCleanup fDoCleanup
  swap
  · rw [openInoDeref_silent hlt hone hclean]
    exact hderef
  obtain ⟨ret, p1, hrun, hopen, herror, hok⟩ :=
    hp.cleanup (Finset.mem_range.2 hlt) hone hclean.1
  rw [openInoDeref_last hlt hone hclean hrun hopen]
  split_ifs with hfail
  · exact herror hfail.2
  · exact hok

lemma handleClose_keeping (h : ℕ) (fTransFlag : Bool) :
    (handleClose h fTransFlag).Respects Keeping := by
  refine .get_bind fun p => .ite (.fail _) ?_
  rcases (p.gaHandle h).pOpenIno with _ | o
  · exact .fail _
  · refine .bind (redCoreVolSetCurrent_keeping _) fun _ => .get_bind fun q => ?_
    refine .bind (.when (.fail _)) fun _ => .bind (openInoDeref_keeping _ _ _) fun _ => ?_
    refine .bind (.modify fun _ hp => hp.quiet (quiet_setHandle _)) fun _ => ?_
    refine .get_bind fun q' => .when ?_
    exact redCore_keeping (by simp [Call.Legal]) (by simp [Call.Onward]) (by simp)

lemma cwdClose_keeping (t : ℕ) (fClearVol fReset : Bool) :
    (cwdClose t fClearVol fReset).Respects Keeping := by
  refine .get_bind fun p => ?_
  rcases (p.gaTask t).pCwd with _ | o
  · exact Quiet.keeping (cwdFind_quiet t fClearVol)
  · exact .bind (openInoDeref_keeping _ _ _) fun _ => Quiet.keeping (cwdFind_quiet t fClearVol)

lemma cwdCloseVol_keeping (fReset : Bool) : (cwdCloseVol fReset).Respects Keeping := by
  rw [cwdCloseVol]
  induction List.range taskCount with
  | nil => exact .pure ()
  | cons t rest ih =>
    refine .get_bind fun p => ?_
    rcases (p.gaTask t).pCwd with _ | o
    · exact .bind (.pure ()) fun _ => ih
    · exact .bind (.when (cwdClose_keeping t false fReset)) fun _ => ih

lemma umountLoop_keeping (fForce : Bool) (l : List ℕ) : (umountLoop fForce l).Respects Keeping := by
  induction l with
  | nil => exact .pure ()
  | cons h rest ih =>
    refine .get_bind fun p => ?_
    rcases (p.gaHandle h).pOpenIno with _ | o
    · exact .bind (.pure ()) fun _ => ih
    · exact .bind (.when (.ite (handleClose_keeping h false) (.fail _))) fun _ => ih

end PosixState

end RelianceEdge
