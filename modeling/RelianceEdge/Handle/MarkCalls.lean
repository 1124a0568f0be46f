import RelianceEdge.Handle.Marks

set_option relaxedAutoImplicit false
set_option autoImplicit false
set_option linter.unusedSectionVars false

/-!
# Marks through calls

Each call of the API keeps the marks on open inodes right, but for the rename of an open inode with
one name onto that name: `InodeUnlinkCheck()` says that the name is the last one, `RedCoreRename()`
leaves it alone, and the inode is marked nevertheless.

## Main definitions

* `PosixCall.RenamesOnto` — that call.
* `PosixState.ReachableClean` — the states that other calls lead to.
* `PosixState.MarksExact` — an open inode is marked if and only if its inode is an orphan.

## Main results

* `PosixCall.run_exact` — every other call keeps the marks right.
* `marks_exact`, `marks_exact_iff` — runs without that call, and what it does after one.
-/

namespace RelianceEdge

variable [PosixConf]

open RedConf PosixConf OrphanSpace

namespace PosixState

variable {p p' : PosixState} {v i o h t : ℕ} {call : Call} {ret : Except RedError Unit}
  {d : NameDisk} {α β : Type}

/-! ## Calls -/

lemma Exact.entered (hp : Exact p) (he : Entered p p') : Exact p' :=
  hp.same he.openInos he.volume (he.current hp.current)

/-- A call that begins with its path. -/
lemma Exact.bind (hs : Settled p) (hp : Exact p) {y : PosixOp α} {f : α → PosixOp β}
    {A : α → PosixState → Prop}
    (hy : y.Post p fun ret p' => Entered p p' ∧ ∀ a, ret = .ok a → A a p')
    (hf : ∀ a p', A a p' → Settled p' → Exact p' → (f a).Post p' fun _ q => Exact q) :
    (y >>= f).Post p fun _ q => Exact q :=
  hy.bind (fun a p' hp' => hf a p' (hp'.2 a rfl) (hp'.1.settled hs).1 (hp.entered hp'.1))
    fun _ _ hp' => hp.entered hp'.1

lemma Exact.enter (hs : Settled p) (hp : Exact p) (ulTaskId : ℕ) {y : PosixOp α} {g : α → β}
    (hy : ∀ p1, Entered p p1 → p1.gbRedVolNum = p.gbRedVolNum → p1.gfPosixInited = true →
      Settled p1 → Exact p1 → y.Post p1 fun _ q => Exact q) :
    (do
      posixEnter ulTaskId
      let a ← y
      pure (g a) : PosixOp β).Post p fun _ q => Exact q :=
  (posixEnter_entered ulTaskId).bind
    (fun _ p1 h1 => (hy p1 h1.1 h1.2.1 (h1.1.inited.trans (h1.2.2 rfl)) (h1.1.settled hs).1
      (hp.entered h1.1)).bind (fun _ _ hq => hq) fun _ _ hq => hq)
    fun _ _ h1 => hp.entered h1.1

lemma Exact.redCoreCreate_post (hp : Exact p) (c : Circumstances) {ulPInode : ℕ}
    (pszName : CString) (uMode : Mode)
    (hparent : p.gpRedVolume.disk.toSpace.HasParent ulPInode) :
    (redCoreCreate c ulPInode pszName uMode).Post p fun _ p' => Exact p' := by
  rcases hm : p.gpRedVolume.fMounted with _ | _
  · rw [Op.Post, redCoreCreate, whenMounted_error hm]
    exact hp
  rcases hr : NameDisk.coreRetry p.gpRedVolume.geo c (fun room =>
    NameVolume.coreCreate p.gpRedVolume.geo room ulPInode pszName uMode) p.gpRedVolume.disk
    with ⟨ret, d⟩
  have hrun : (Call.create c ulPInode pszName uMode).exec p.gpRedVolume.geo p.gpRedVolume.disk =
      (ret.map fun _ => (), d) := by
    have hmap := Op.bind_pure_run (NameDisk.coreRetry p.gpRedVolume.geo c fun room =>
      NameVolume.coreCreate p.gpRedVolume.geo room ulPInode pszName uMode) (fun _ => ())
      p.gpRedVolume.disk
    rw [hr] at hmap
    exact hmap
  have hlegal : (Call.create c ulPInode pszName uMode).Legal p.gpRedVolume.geo p.gpRedVolume.disk :=
    hparent
  rw [Op.Post, redCoreCreate, whenMounted_run hm, onCurrent_run hr]
  exact hp.setDisk hm hlegal (by simp [Call.Onward]) hrun (by simp)

lemma redMknod_exact (hs : Settled p) (hp : Exact p) (c : Circumstances)
    {name : Found (ℕ × CString)} (hname : p.NameOk (p.pathVolume name) name.ret) (uMode : Mode) :
    (redMknod c name uMode).Post p fun _ q => Exact q := by
  refine hp.bind hs (path_entered name) fun a p' hp' _ hexact => ?_
  obtain ⟨ha, rfl⟩ := hp'
  exact hexact.redCoreCreate_post c a.2 uMode (hname a ha)

lemma redLinkat_exact (hs : Settled p) (hp : Exact p) (c : Circumstances)
    {start start' : Found Unit} {inode : Except RedError ℕ} {link : Except RedError (ℕ × CString)}
    (hinode : p.InodeOk (p.pathVolume₂ start start') inode)
    (hlink : p.NameOk (p.pathVolume₂ start start') link) :
    (redLinkat c start start' inode link).Post p fun _ q => Exact q := by
  refine hp.bind hs (pathTwice_entered start start') fun _ p' hp' hs' hexact => ?_
  subst hp'
  refine hexact.bind hs' ofRed_entered fun i p' hp' hs' hexact => ?_
  obtain ⟨rfl, hi⟩ := hp'
  refine hexact.bind hs' ofRed_entered fun y p' hp' hs' hexact => ?_
  obtain ⟨rfl, hy⟩ := hp'
  exact hexact.redCore_post (fun _ => ⟨hlink y hy, hinode i hi⟩) (by simp [Call.Onward]) (by simp)

/-- **A call of the core that takes a name** as the check has said: what is marked afterwards has
lost its last name. -/
lemma Exact.redCore_drops (hs : Settled p) (hp : Exact p) {fOrphan : Bool}
    (hlegal : p.gpRedVolume.fMounted → call.Legal p.gpRedVolume.geo p.gpRedVolume.disk)
    (honward : call.Onward) (hfree : ∀ i, call ≠ .freeOrphan i) (hunlinks : Unlinks p i fOrphan)
    (htakes : fOrphan = true → call.Takes (p.gpRedVolume.disk.names p.gpRedVolume.geo) true i) :
    (do
      redCore call
      .when fOrphan (inodeOrphaned i) : PosixOp Unit).Post p fun _ q => Exact q := by
  rcases fOrphan with _ | _
  · refine (hp.redCore_post hlegal honward hfree).bind (fun _ p' hp' => ?_) fun _ _ hp' => hp'
    rw [Op.when_neg (by simp)]
    exact hp'
  rcases hm : p.gpRedVolume.fMounted with _ | _
  · have hrun : redCore call p = (.error .EINVAL, p) := whenMounted_error hm _
    rw [Op.Post, Op.bind_error hrun]
    exact hp
  rcases hrun : call.exec p.gpRedVolume.geo p.gpRedVolume.disk with ⟨ret, d⟩
  have hcore := redCore_run hm hrun
  rcases ret with e | ⟨⟩
  · rw [Op.Post, Op.bind_error hcore]
    exact hp.setDisk hm (hlegal hm) honward hrun hfree
  obtain ⟨hdelete, ⟨o, ho, hkey⟩, ino, hino, hlink⟩ := hunlinks.orphan rfl
  rw [Op.Post, Op.bind_ok hcore, Op.when_pos rfl, inodeOrphaned_run (p := p.setVolume p.gbRedVolNum
    fun vol => { vol with disk := d }) hs.good.table ho hkey]
  set q := (p.setVolume p.gbRedVolNum fun vol => { vol with disk := d }).setOpenIno o fun oi =>
    { oi with fOrphan := true } with hq
  have hkeys : q.key = p.key := by
    rw [hq, key_setOpenIno]
    exact Function.update_eq_self o p.key
  have hself : q.gaRedVolume p.gbRedVolNum = { p.gpRedVolume with disk := d } :=
    Function.update_self _ _ p.gaRedVolume
  refine hp.swap hm (hlegal hm) honward hrun hself
    (fun w hw => Function.update_of_ne hw _ p.gaRedVolume) hp.current ?_ fun o' ho' v j hx hf => ?_
  · rw [Unique, hkeys]
    exact hp.unique
  rw [hkeys] at hx
  by_cases hoo : o' = o
  · -- the mark is new
    subst hoo
    obtain ⟨rfl, rfl⟩ : p.gbRedVolNum = v ∧ i = j := by
      rw [hkey] at hx
      exact Prod.mk.inj (Option.some.inj hx)
    refine .inr ?_
    rw [hself]
    exact .of_takes (hp.sound _ hp.current) hm (hlegal hm) honward hrun hdelete (htakes rfl) hino
      hlink
  · have hsame : q.gaOpenInos o' = p.gaOpenInos o' := Function.update_of_ne hoo _ p.gaOpenInos
    rw [hsame] at hf
    exact .inl ⟨hp.orphaned o' ho' v j hx hf, fun _ => hfree j⟩

lemma redUnlinkat_exact (hs : Settled p) (hp : Exact p) (c : Circumstances)
    {name : Found (ℕ × CString)} (hname : p.NameOk (p.pathVolume name) name.ret)
    (fRemoveDir : Bool) : (redUnlinkat c name fRemoveDir).Post p fun _ q => Exact q := by
  refine hp.bind hs (path_entered name) fun a p' hp' hs' hexact => ?_
  obtain ⟨ha, rfl⟩ := hp'
  have hparent := hname a ha
  obtain ⟨ret, hlookup, hfound, -⟩ := redCoreLookup_run hs' a.1 a.2
  refine hexact.bind hs' (entered_of_run hlookup hfound) fun i p' hp' hs' hexact => ?_
  obtain ⟨rfl, hm, hi⟩ := hp'
  refine hexact.bind hs' (entered_of_reads (.when (.bind (redCoreStat_reads i) fun _ =>
    .ofExcept _))) fun _ p' hp' hs' hexact => ?_
  subst hp'
  obtain ⟨ret, hcheck, hunlinks⟩ := unlinkOrphans_run (hs'.ne_invalid hm hi)
  refine hexact.bind hs' (entered_of_run hcheck hunlinks) fun f p' hp' hs' hexact => ?_
  obtain ⟨rfl, hf⟩ := hp'
  exact hexact.redCore_drops hs' (fun _ => hparent) (by simp [Call.Onward]) (by simp) hf
    fun hf => ⟨hf, hi⟩

/-- **The rename of an open inode with one name onto that name**, on the volume `v`. -/
def RenamesOnto (p : PosixState) (v : ℕ) (old new : Except RedError (ℕ × CString)) : Prop :=
  let vol := p.gaRedVolume v
  ∃ x y i, old = .ok x ∧ new = .ok y ∧ vol.disk.names vol.geo (x.1, x.2.name) = some i ∧
    vol.disk.names vol.geo (y.1, y.2.name) = some i ∧ (∃ o ∈ objects, p.key o = some (v, i)) ∧
    ∃ ino, vol.disk.node i = some ino ∧ ino.uNLink = 1

lemma renamesOnto_self {v i o : ℕ} {x : ℕ × CString}
    (hname : (p.gaRedVolume v).disk.names (p.gaRedVolume v).geo (x.1, x.2.name) = some i)
    (ho : o ∈ objects) (hkey : p.key o = some (v, i))
    (hlink : ((p.gaRedVolume v).disk.node i).map FileNode.uNLink = some 1) :
    p.RenamesOnto v (.ok x) (.ok x) :=
  ⟨x, x, i, rfl, rfl, hname, hname, ⟨o, ho, hkey⟩, Option.map_eq_some_iff.1 hlink⟩

lemma redRenameat_exact (hs : Settled p) (hp : Exact p) (c : Circumstances)
    {start start' : Found Unit} {old new : Except RedError (ℕ × CString)}
    (hold : p.NameOk (p.pathVolume₂ start start') old)
    (hnew : p.NameOk (p.pathVolume₂ start start') new)
    (honto : ¬ p.RenamesOnto (p.pathVolume₂ start start') old new) :
    (redRenameat c start start' old new).Post p fun _ q => Exact q := by
  refine hp.bind hs (pathTwice_entered start start') fun _ p' hp' hs' hexact => ?_
  subst hp'
  refine hexact.bind hs' ofRed_entered fun a p' hp' hs' hexact => ?_
  obtain ⟨rfl, ha⟩ := hp'
  refine hexact.bind hs' ofRed_entered fun b p' hp' hs' hexact => ?_
  obtain ⟨rfl, hb⟩ := hp'
  obtain ⟨ret, hrun, hret⟩ := renameDest_run hs' b.1 b.2
  refine hexact.bind hs' (entered_of_run hrun hret) fun d p' hp' hs' hexact => ?_
  obtain ⟨rfl, hunlinks, -, hdest⟩ := hp'
  refine hexact.redCore_drops hs' (fun _ => ⟨hold a ha, hnew b hb⟩) (by simp [Call.Onward])
    (by simp) hunlinks fun hf => ⟨hf, hdest hf, fun hsrc => ?_⟩
  obtain ⟨-, hopen, hlink⟩ := hunlinks.orphan hf
  exact honto ⟨a, b, d.1, ha, hb, hsrc, hdest hf, hopen, hlink⟩

/-! ## Calls that make or take no name -/

lemma ofRed_keeping (r : Except RedError α) : (ofRed r).Respects Keeping := .ofExcept _

lemma path_keeping (r : Found α) : (path r).Respects Keeping := by
  rw [path]
  rcases r.bVolNum with _ | v
  · exact ofRed_keeping r.ret
  · exact .bind (redCoreVolSetCurrent_keeping v) fun _ => ofRed_keeping r.ret

lemma keeping_of_reads {x : PosixOp α} (hx : x.Respects Eq) : x.Respects Keeping :=
  hx.mono fun _ _ h hp => h ▸ hp

lemma taskRegister_keeping (ulTaskId : ℕ) : (taskRegister ulTaskId).Respects Keeping := by
  refine Quiet.keeping (.get_bind fun p => ?_)
  rcases Refs.scan (fun t => (p.gaTask t).ulTaskId == ulTaskId)
    (fun t => (p.gaTask t).ulTaskId == 0) (List.range taskCount) none with ⟨_ | t, _ | t'⟩
  · exact .pure none
  · exact .bind (.modify fun _ => quiet_setTask _) fun _ => .pure (some t')
  · exact .pure (some t)
  · exact .pure (some t)

lemma redTaskregister_keeping (ulTaskId : ℕ) : (redTaskregister ulTaskId).Respects Keeping := by
  refine .get_bind fun p => .ite (.bind (taskRegister_keeping ulTaskId) fun r => ?_) (.fail _)
  rcases r with _ | t
  · exact .fail _
  · exact .pure ()

lemma redTaskunregister_keeping (ulTaskId : ℕ) : (redTaskunregister ulTaskId).Respects Keeping := by
  refine .get_bind fun p => .ite (.get_bind fun p => ?_) (.fail _)
  rcases p.taskFind ulTaskId with _ | t
  · exact .fail _
  · exact .bind (.modify fun _ hp => hp.quiet (quiet_setTask _)) fun _ =>
      cwdClose_keeping t true false

lemma redTransact_keeping (volume : Found Unit) : (redTransact volume).Respects Keeping :=
  .bind (path_keeping volume) fun _ =>
    redCore_keeping (by simp [Call.Legal]) (by simp [Call.Onward]) (by simp)

lemma redFreeorphans_keeping (volume : Found Unit) (ulCount : ℕ) :
    (redFreeorphans volume ulCount).Respects Keeping :=
  .bind (path_keeping volume) fun _ =>
    redCore_keeping (by simp [Call.Legal]) (by simp [Call.Onward]) (by simp)

lemma redClose_keeping (iFildes : ℤ) (fTransact : Bool) :
    (redClose iFildes fTransact).Respects Keeping :=
  .get_bind fun _ => .bind (ofRed_keeping _) fun h => handleClose_keeping h fTransact

lemma redClosedir_keeping (pDirStream : ℕ) : (redClosedir pDirStream).Respects Keeping :=
  .get_bind fun _ => .ite (handleClose_keeping pDirStream false) (.fail _)

lemma redWrite_keeping (iFildes : ℤ) (data : List UInt8) :
    (redWrite iFildes data).Respects Keeping := by
  have hwriteable : (writeable iFildes).Respects Keeping := by
    refine .get_bind fun p => .bind (ofRed_keeping _) fun h => .ite (.fail _) ?_
    rcases (p.gaHandle h).pOpenIno with _ | o
    · exact .fail _
    · exact .bind (redCoreVolSetCurrent_keeping _) fun _ => .pure _
  exact .bind hwriteable fun i =>
    redCore_keeping (by simp [Call.Legal]) (by simp [Call.Onward]) (by simp)

lemma redChdir_keeping (ulTaskId : ℕ) (start : Found Unit) (inode : Except RedError ℕ) :
    (redChdir ulTaskId start inode).Respects Keeping := by
  refine .bind (path_keeping start) fun _ => .get_bind fun p => .bind (ofRed_keeping _) fun i => ?_
  refine .bind (.when (.bind (keeping_of_reads (redCoreStat_reads i)) fun _ => .when (.fail _)))
    fun _ => .get_bind fun q => ?_
  rcases q.taskFind ulTaskId with _ | t
  · exact .fail _
  dsimp only
  rcases (q.gaTask t).pCwd with _ | o
  · exact .fail _
  refine .bind (openInoDeref_keeping o true false) fun _ => Quiet.keeping ?_
  refine .bind (openInoFind_quiet _ _ _) fun r =>
    .bind (.modify fun _ => quiet_setTask _) fun _ => ?_
  rcases r with _ | o
  · exact .fail _
  · exact openInoRef_quiet o

/-- **What a rename onto the same name leaves**: the open inode is marked, and has its name. -/
lemma redRenameat_onto (hs : Settled p) (c : Circumstances) {start start' : Found Unit}
    {old new : Except RedError (ℕ × CString)}
    (hold : p.NameOk (p.pathVolume₂ start start') old)
    (hnew : p.NameOk (p.pathVolume₂ start start') new)
    (honto : p.RenamesOnto (p.pathVolume₂ start start') old new) :
    (redRenameat c start start' old new).Post p fun ret q => ret = .ok () →
      ∃ o ∈ objects, (q.gaOpenInos o).ulInode ≠ INODE_INVALID ∧
        (q.gaOpenInos o).fOrphan = true ∧
        (q.gaRedVolume (q.gaOpenInos o).bVolNum).fMounted = true ∧
        ∃ ino,
          (q.gaRedVolume (q.gaOpenInos o).bVolNum).disk.node (q.gaOpenInos o).ulInode = some ino ∧
          ino.uNLink ≠ 0 := by
  refine (pathTwice_entered start start').bind (fun _ p' hp' => ?_) fun e _ _ h => by cases h
  obtain rfl := hp'.2 () rfl
  obtain ⟨hs', -⟩ := hp'.1.settled hs
  refine ofRed_post.bind (fun a p' hp' => ?_) fun e _ _ h => by cases h
  obtain ⟨rfl, ha⟩ := hp'
  refine ofRed_post.bind (fun b p' hp' => ?_) fun e _ _ h => by cases h
  obtain ⟨rfl, hb⟩ := hp'
  obtain ⟨x, y, i, hx, hy, hsrc, hdst, ⟨o, ho, hkey⟩, ino, hino, hlink⟩ := honto
  obtain rfl := Except.ok.inj ((ha a rfl).symm.trans hx)
  obtain rfl := Except.ok.inj ((hb b rfl).symm.trans hy)
  set q : PosixState := { p with gbRedVolNum := p.pathVolume₂ start start' } with hq
  obtain ⟨ret, hrun, hret⟩ := renameDest_run hs' b.1 b.2
  obtain ⟨ulNewPInode, pszNewName⟩ := b
  dsimp only at hrun ⊢
  rcases ret with e | ⟨j, fOrphan⟩
  · rw [Op.Post, Op.bind_error hrun]
    intro h
    cases h
  rw [Op.Post, Op.bind_ok hrun]
  dsimp only
  obtain ⟨hunlinks, hdest, -⟩ := hret _ rfl
  obtain rfl : i = j := hdest i hdst
  rcases hm : q.gpRedVolume.fMounted with _ | _
  · have hcore :
        redCore (.rename c a.1 a.2 ulNewPInode pszNewName fOrphan) q = (.error .EINVAL, q) :=
      whenMounted_error hm _
    rw [Op.bind_error hcore]
    intro h
    cases h
  obtain rfl : fOrphan = true := by
    by_contra hf
    exact hunlinks.plain (by simpa using hf) ⟨o, ho, hkey⟩ hm ino hino hlink
  have hlegal : (Call.rename c a.1 a.2 ulNewPInode pszNewName true).Legal q.gpRedVolume.geo
      q.gpRedVolume.disk := ⟨hold a (ha a rfl), hnew _ (hb _ rfl)⟩
  rcases hcall : (Call.rename c a.1 a.2 ulNewPInode pszNewName true).exec q.gpRedVolume.geo
    q.gpRedVolume.disk with ⟨ret, d⟩
  have hcore := redCore_run hm hcall
  rcases ret with e | ⟨⟩
  · rw [Op.bind_error hcore]
    intro h
    cases h
  rw [Op.bind_ok hcore, Op.when_pos rfl, inodeOrphaned_run (p := q.setVolume q.gbRedVolNum
    fun vol => { vol with disk := d }) hs'.good.table ho hkey]
  intro _
  -- the inode has its name still
  have hsound : q.gpRedVolume.Sound := hs'.good.sound _ hs'.good.current
  obtain ⟨l, m, hinv⟩ := hsound.working hm
  obtain ⟨m', -, -, hfate⟩ := Call.run_fate hsound.version hinv hlegal (by simp [Call.Onward]) hcall
  have hmem : i ∉ m := fun h => by
    obtain ⟨ino0, hino0, h0⟩ := (hinv.lists.mem i).1 (.inr h)
    have hino' : q.gpRedVolume.disk.node i = some ino := hino
    rw [hino'] at hino0
    cases hino0
    omega
  obtain ⟨n', hn', hsame⟩ := hfate.kept i ino.info (Space.shape_info hino) hmem (by simp)
    fun _ f hf => hf.2.2 hsrc
  obtain ⟨ino', hino', rfl⟩ := Space.shape_info_eq_some hn'
  obtain ⟨hused, hvol, hnum⟩ := key_eq_some.1 hkey
  have hopen : ((q.setVolume q.gbRedVolNum fun vol => { vol with disk := d }).setOpenIno o fun oi =>
      { oi with fOrphan := true }).gaOpenInos o = { q.gaOpenInos o with fOrphan := true } :=
    Function.update_self _ _ q.gaOpenInos
  have hdisk : ((q.setVolume q.gbRedVolNum fun vol => { vol with disk := d }).setOpenIno o fun oi =>
      { oi with fOrphan := true }).gaRedVolume q.gbRedVolNum = { q.gpRedVolume with disk := d } :=
    Function.update_self _ _ q.gaRedVolume
  refine ⟨o, ho, ?_⟩
  dsimp only
  rw [hopen]
  have hvol' : (q.gaOpenInos o).bVolNum = q.gbRedVolNum := hvol
  have hnum' : (q.gaOpenInos o).ulInode = i := hnum
  dsimp only
  rw [hvol', hdisk, hnum']
  refine ⟨hused, rfl, hm, ino', hino', fun h0 => ?_⟩
  have hzero : ino.uNLink = 0 := hsame.2.1 h0
  omega

/-! ## Opening -/

lemma fildesLookup_exact (hs : Settled p) (hp : Exact p) (c : Circumstances) {path : OpenPath}
    (hname : p.NameOk p.gbRedVolNum path.name) (ulOpenFlags : OpenFlags) (uMode : Mode) :
    (fildesLookup c path ulOpenFlags uMode).Post p fun _ q => Exact q := by
  rw [fildesLookup]
  by_cases hcreat : ulOpenFlags.fCreat = true
  swap
  · rw [if_neg hcreat]
    exact (Op.Respects.bind (ofRed_keeping _) fun _ => .pure _) p hp
  rw [if_pos hcreat]
  rcases hpath : path.name with e | ⟨ulPInode, pszName⟩
  · exact (Op.Respects.ite (.ite (.fail _) (.pure _)) (.fail _) : Op.Respects _ Keeping) p hp
  refine .attempt_bind (((hs.redCoreCreate_post c pszName uMode (hname _ hpath)).and
    (hp.redCoreCreate_post c pszName uMode (hname _ hpath))).mono fun ret p' hp' => ?_)
  obtain ⟨⟨⟨hs', -⟩, -⟩, hexact⟩ := hp'
  rcases ret with e | i
  swap
  · exact hexact
  dsimp only
  by_cases he : e = .EROFS ∨ e = .EEXIST ∧ (!ulOpenFlags.fExcl) = true
  swap
  · rw [if_neg he]
    exact hexact
  rw [if_pos he]
  obtain ⟨ret, hlookup, -⟩ := redCoreLookup_run hs' ulPInode pszName
  refine .attempt_bind ?_
  rw [Op.Post, hlookup]
  rcases ret with e' | i
  · exact hexact
  · dsimp only
    by_cases hexcl : e = .EROFS ∧ ulOpenFlags.fExcl = true
    · rw [if_pos hexcl]
      exact hexact
    · rw [if_neg hexcl]
      exact hexact

lemma fildesCheck_keeping (ulOpenFlags : OpenFlags) (type : FType) (i : ℕ) :
    (fildesCheck ulOpenFlags type i).Respects Keeping := by
  refine .bind (keeping_of_reads (redCoreStat_reads i)) fun a => .bind (ofRed_keeping _) fun _ => ?_
  refine .ite (.fail _) (.bind (.when ?_) fun _ => .pure _)
  exact redCore_keeping (by simp [Call.Legal]) (by simp [Call.Onward]) (by simp)

lemma fildesOpen_exact (hs : Settled p) (hp : Exact p) (c : Circumstances) {path : OpenPath}
    (hname : p.NameOk (p.pathVolume path.start) path.name) (ulOpenFlags : OpenFlags)
    (type : FType) (uMode : Mode) :
    (fildesOpen c path ulOpenFlags type uMode).Post p fun _ q => Exact q := by
  refine hp.bind hs (path_entered path.start) fun _ p1 hp1 hs1 hexact => .get_bind ?_
  obtain ⟨-, rfl⟩ := hp1
  split_ifs
  · exact .fail hexact
  rcases hs1.handleFindFree_run with hrun | ⟨h, -, -, hrun, hs2, -⟩
  · rw [Op.Post, Op.bind_ok hrun]
    exact hexact
  rw [Op.Post, Op.bind_ok hrun]
  have hlookup := fildesLookup_exact hs2 (hexact.quiet (quiet_setHandle fun _ => .zero)) c hname
    ulOpenFlags uMode
  refine Op.Post.bind (R := fun _ q => Exact q) hlookup (fun a p2 hp2 => ?_) fun _ _ hp2 => hp2
  have hend (m : Mode) : (do
      handleOpen h a.1
      .modify fun p => p.setHandle h fun h => { h with
        fDirectory := h.fDirectory || m == .dir
        fSymlink := h.fSymlink || deleteOpen && m == .lnk
        fReadable := h.fReadable || ulOpenFlags.fRdOnly || ulOpenFlags.fRdWr
        fWriteable := h.fWriteable || ulOpenFlags.fWrOnly || ulOpenFlags.fRdWr
        fAppending := h.fAppending || ulOpenFlags.fAppend }
      let p ← .get
      let iFildes := p.fildesPack h p.gbRedVolNum
      if iFildes = -1 then .fail .EFUBAR else pure iFildes : PosixOp ℤ).Respects Keeping := by
    refine .bind (Quiet.keeping (handleOpen_quiet h a.1)) fun _ => ?_
    refine .bind (Quiet.keeping (.modify fun _ => quiet_setHandle _)) fun _ => ?_
    exact .get_bind fun q => .ite (.fail _) (.pure _)
  rcases a with ⟨i, _ | _⟩
  · exact (Op.Respects.bind (fildesCheck_keeping ulOpenFlags type i) hend) p2 hp2
  · exact hend uMode p2 hp2

lemma redOpenat_exact (hs : Settled p) (hp : Exact p) (c : Circumstances) {path : OpenPath}
    (hname : p.NameOk (p.pathVolume path.start) path.name) (ulOpenFlags : OpenFlags) :
    (redOpenat c path ulOpenFlags).Post p fun _ q => Exact q := by
  rw [redOpenat]
  split_ifs
  · exact .fail hp
  · exact fildesOpen_exact hs hp c hname _ _ _
  · exact fildesOpen_exact hs hp c hname _ _ _

lemma redOpendir_exact (hs : Settled p) (hp : Exact p) (c : Circumstances) {path : OpenPath}
    (hname : p.NameOk (p.pathVolume path.start) path.name) :
    (redOpendir c path).Post p fun _ q => Exact q :=
  (fildesOpen_exact hs hp c hname _ _ _).bind (fun _ _ hq => hq) fun _ _ hq => hq

/-! ## Volumes -/

lemma Settled.exact (hs : Settled p) (h : ∀ o ∈ objects, ∀ v i, p.key o = some (v, i) →
    (p.gaOpenInos o).fOrphan = true → (p.gaRedVolume v).Orphaned i) : Exact p :=
  ⟨hs.good.current, hs.good.sound, hs.good.table.unique, h⟩

/-- An open inode has a reference. -/
lemma Settled.exists_view (hs : Settled p) (ho : o ∈ objects) {x : ℕ × ℕ} (hx : p.key o = some x) :
    ∃ r, p.view r = some x ∧ x.1 < volumeCount := by
  obtain ⟨r, hr⟩ := hs.good.table.exists_view_iff.1 ⟨o, ho, hx⟩
  exact ⟨r, hr, hs.good.valid r x hr⟩

/-- The root directory is not marked. -/
lemma Exact.root (hp : Exact p) (hv : v < volumeCount) (ho : o ∈ objects)
    (hx : p.key o = some (v, INODE_ROOTDIR)) : (p.gaOpenInos o).fOrphan ≠ true := by
  intro hf
  obtain ⟨hm, n, hn, hlink, -⟩ := hp.orphaned o ho v _ hx hf
  obtain ⟨n', hn', -, -, hlink'⟩ := (keeps_root (hp.sound v hv)).mounted hm
  rw [hn] at hn'
  cases hn'
  exact hlink' hlink

/-- **One volume has become another one**, with references to its root directory at most. -/
lemma Exact.volume (hp : Exact p) (hs' : Settled p') {w : ℕ}
    (hmarks : ∀ o ∈ objects, ∀ x, p'.key o = some x → (p'.gaOpenInos o).fOrphan = true →
      p.key o = some x ∧ (p.gaOpenInos o).fOrphan = true)
    (hother : ∀ v ≠ w, p'.gaRedVolume v = p.gaRedVolume v)
    (hroot : ∀ r x, p'.view r = some x → x.1 = w → x.2 = INODE_ROOTDIR) : Exact p' := by
  refine hs'.exact fun o ho v i hx hf => ?_
  obtain ⟨hkey, hflag⟩ := hmarks o ho _ hx hf
  by_cases hv : v = w
  · obtain ⟨r, hr, hlt⟩ := hs'.exists_view ho hx
    obtain rfl : i = INODE_ROOTDIR := hroot r _ hr hv
    exact absurd hflag (hp.root hlt ho hkey)
  · rw [hother v hv]
    exact hp.orphaned o ho v i hkey hflag

/-- Only the current volume is touched. -/
structure Beside (p p' : PosixState) : Prop where
  openInos : p'.gaOpenInos = p.gaOpenInos
  current : p'.gbRedVolNum = p.gbRedVolNum
  other : ∀ v ≠ p.gbRedVolNum, p'.gaRedVolume v = p.gaRedVolume v

instance : IsPreorder PosixState Beside where
  refl _ := ⟨rfl, rfl, fun _ _ => rfl⟩
  trans _ _ _ h h' := ⟨h'.openInos.trans h.openInos, h'.current.trans h.current, fun v hv =>
    (h'.other v (h.current ▸ hv)).trans (h.other v hv)⟩

lemma Beside.marks (h : Beside p p') {o : ℕ} {x : ℕ × ℕ} (hx : p'.key o = some x)
    (hf : (p'.gaOpenInos o).fOrphan = true) :
    p.key o = some x ∧ (p.gaOpenInos o).fOrphan = true := by
  rw [key, h.openInos] at hx
  rw [h.openInos] at hf
  exact ⟨hx, hf⟩

lemma beside_setVolume (f : PosixVolume → PosixVolume) : Beside p (p.setVolume p.gbRedVolNum f) :=
  ⟨rfl, rfl, fun _ hv => setVolume_ne hv f⟩

lemma onCurrent_beside (f : FS → DiskOp α) : (onCurrent f).Respects Beside :=
  fun p => beside_setVolume (p := p) fun vol =>
    { vol with disk := (f p.gpRedVolume.geo p.gpRedVolume.disk).2 }

lemma redMount2_beside (volume : Found Unit) (ulFlags : MountFlags) :
    (redMount2 volume ulFlags).Post p fun _ p' => ∃ p1, Entered p p1 ∧ Beside p1 p' ∧
      (p1.gpRedVolume.fMounted = true → p' = p1) := by
  refine (path_entered volume).bind (fun _ p1 hp1 => .get_bind ?_) fun _ p1 hp1 =>
    ⟨p1, hp1.1, refl_of Beside p1, fun _ => rfl⟩
  by_cases hm : p1.gpRedVolume.fMounted = true
  · rw [if_pos hm]
    exact .fail ⟨p1, hp1.1, refl_of Beside p1, fun _ => rfl⟩
  rw [if_neg hm]
  have hrest : (do
      redCoreVolMount ulFlags
      .modify fun p => { p with
        gauGeneration := Function.update p.gauGeneration p.gbRedVolNum
          (if FD_GEN_MAX < p.gauGeneration p.gbRedVolNum + 1 then 1
          else p.gauGeneration p.gbRedVolNum + 1) } : PosixOp Unit).Respects Beside := by
    refine .bind (.bind (onCurrent_beside _) fun _ => .modify fun _ => beside_setVolume _)
      fun _ => ?_
    exact .modify fun _ => ⟨rfl, rfl, fun _ _ => rfl⟩
  exact ⟨p1, hp1.1, hrest p1, fun h => absurd h hm⟩

lemma redMount2_exact (hs : Settled p) (hp : Exact p) (hi : p.gfPosixInited = true)
    (volume : Found Unit) (ulFlags : MountFlags) :
    (redMount2 volume ulFlags).Post p fun _ q => Exact q := by
  refine ((redMount2_stays hs hi volume ulFlags).and (redMount2_beside volume ulFlags)).mono
    fun _ p' hp' => ?_
  obtain ⟨⟨hs', hview⟩, p1, he, hbeside, hsame⟩ := hp'
  obtain ⟨hs1, hview1⟩ := he.settled hs
  rcases hm : p1.gpRedVolume.fMounted with _ | _
  swap
  · exact (hsame hm) ▸ hp.entered he
  refine (hp.entered he).volume hs' (fun o _ x => hbeside.marks) hbeside.other fun r x hx hxv => ?_
  rw [hview, ← hview1] at hx
  refine ((hs1.good.served r (by simp) x hx).unmounted ?_).1
  rw [hxv]
  exact hm

lemma redCoreVolUnmount_run (fTransact : Bool) : ∃ d, redCoreVolUnmount fTransact p =
    (.ok (), p.setVolume p.gbRedVolNum fun vol => { vol with fMounted := false, disk := d }) := by
  obtain ⟨d, hrun, -⟩ := NameDisk.when_transact p.gpRedVolume.disk
    ((!p.gpRedVolume.disk.fReadOnly && fTransact) = true)
  have hdisk : NameDisk.redCoreVolUnmount fTransact p.gpRedVolume.disk = (.ok (), d) := by
    rw [NameDisk.redCoreVolUnmount, Op.get_bind_run, hrun]
  refine ⟨d, (Op.bind_ok (onCurrent_run (f := fun _ => NameDisk.redCoreVolUnmount fTransact)
    hdisk)).trans ?_⟩
  rw [Op.modify_run, setVolume, setVolume, setVolume]
  dsimp only
  rw [Function.update_self, Function.update_idem]

lemma redUmount2_exact (hmax : openInodeCount ≤ UINT16_MAX) (hs : Settled p) (hp : Exact p)
    (volume : Found Unit) (fForce fTransact : Bool) :
    (redUmount2 volume fForce fTransact).Post p fun _ q => Exact q := by
  have hend : (redUmount2 volume fForce fTransact).Post p fun _ p' => Exact p' ∨
      ∃ p2, Exact p2 ∧ Beside p2 p' ∧ (p'.gaRedVolume p2.gbRedVolNum).fMounted = false := by
    refine (path_entered volume).bind (fun _ p1 hp1 => .get_bind ?_) fun _ p1 hp1 =>
      .inl (hp.entered hp1.1)
    have hexact := hp.entered hp1.1
    split_ifs
    · exact .fail (.inl hexact)
    refine ((umountLoop_keeping fForce _).post p1).bind (fun _ p2 h2 => ?_) fun _ _ h2 =>
      .inl (h2 hexact)
    refine ((cwdCloseVol_keeping false).post p2).bind (fun _ p3 h3 => ?_) fun _ _ h3 =>
      .inl (h3 (h2 hexact))
    obtain ⟨d, hrun⟩ := redCoreVolUnmount_run (p := p3) fTransact
    rw [Op.Post, hrun]
    refine .inr ⟨p3, h3 (h2 hexact), beside_setVolume (p := p3) fun vol =>
      { vol with fMounted := false, disk := d }, ?_⟩
    exact congrArg PosixVolume.fMounted (setVolume_self (p := p3) (v := p3.gbRedVolNum) fun vol =>
      { vol with fMounted := false, disk := d })
  refine ((redUmount2_moved hmax hs volume fForce fTransact).and hend).mono fun _ p' hp' => ?_
  obtain ⟨hmoved, hexact | ⟨p2, hexact, hbeside, hm⟩⟩ := hp'
  · exact hexact
  refine hexact.volume hmoved.settled (fun o _ x => hbeside.marks) hbeside.other
    fun r x hx hxv => ?_
  refine ((hmoved.settled.good.served r (by simp) x hx).unmounted ?_).1
  rw [hxv]
  exact hm

/-- `RedCoreVolRollback()` touches the current volume, or fails. -/
lemma rollback_beside : (redCore .rollback).Post p fun ret q => Beside p q ∧
    ∀ e, ret = .error e → q = p := by
  rcases hm : p.gpRedVolume.fMounted with _ | _
  · rw [Op.Post, redCore, whenMounted_error hm]
    exact ⟨refl_of Beside p, fun _ _ => rfl⟩
  rcases hrun : Call.rollback.exec p.gpRedVolume.geo p.gpRedVolume.disk with ⟨ret, d⟩
  rw [Op.Post, redCore_run hm hrun]
  refine ⟨beside_setVolume (p := p) fun vol => { vol with disk := d }, fun e he => ?_⟩
  rw [Call.exec, NameDisk.whenWriteable, Op.get_bind_run] at hrun
  split_ifs at hrun with hro
  · cases hrun
    exact setVolume_same
  · rw [NameDisk.redVolRollback, Op.get_bind_run] at hrun
    by_cases hbranched : p.gpRedVolume.disk.fBranched = true
    · rw [Op.when_pos hbranched] at hrun
      cases hrun
      cases he
    · rw [Op.when_neg hbranched] at hrun
      cases hrun
      cases he

lemma redRollback_exact (hmax : openInodeCount ≤ UINT16_MAX) (hs : Settled p) (hp : Exact p)
    (volume : Found Unit) : (redRollback volume).Post p fun _ q => Exact q := by
  have hend : (redRollback volume).Post p fun ret p' => Exact p' ∨ ret = .ok () ∧
      ∃ q, Beside { p with gbRedVolNum := p.pathVolume volume } q ∧ Quiet q p' := by
    refine (path_entered volume).bind (fun _ p1 hp1 => .get_bind ?_) fun _ p1 hp1 =>
      .inl (hp.entered hp1.1)
    have hexact := hp.entered hp1.1
    obtain ⟨-, rfl⟩ := hp1.2 () rfl
    split_ifs
    · exact .fail (.inl hexact)
    refine rollback_beside.bind (fun _ q hq => .attempt_bind ?_) fun e q hq => .inl ?_
    · exact .inr ⟨rfl, q, hq.1, cwdCloseVol_quiet q⟩
    · exact hq.2 e rfl ▸ hexact
  refine ((redRollback_moved hmax hs volume).and hend).mono fun ret p' hp' => ?_
  obtain ⟨hmoved, hexact | ⟨hret, q, hbeside, hquiet⟩⟩ := hp'
  · exact hexact
  obtain ⟨hview, hnone⟩ := hmoved.ok () hret
  refine hp.volume (w := p.pathVolume volume) hmoved.settled (fun o ho x hx hf => ?_)
    (fun v hv => ?_) fun r x hx hxv => ?_
  · obtain ⟨hx', hf'⟩ := hquiet.marks o ho x hx hf
    exact hbeside.marks hx' hf'
  · rw [hquiet.volume]
    exact hbeside.other v hv
  · -- a reference to the volume is a working directory, and has been moved
    obtain ⟨hr, -⟩ := hmoved.settled.good.table.of_view hx
    rw [hview] at hx
    cases r with
    | inl h =>
      have hx' : p.view (.inl h) = some x := hx
      exact absurd (by rw [hx', Option.map_some, hxv]) (hnone h (handle_mem.1 hr))
    | inr t =>
      rw [rooted] at hx
      split_ifs at hx with hcond
      · rw [← Option.some.inj hx]
      · refine absurd ⟨List.mem_range.2 (task_mem.1 hr), ?_⟩ hcond
        rw [hx, Option.map_some, hxv]

/-! ## The driver -/

lemma redInit_exact (hmax : openInodeCount ≤ UINT16_MAX) (hs : Settled p) (hp : Exact p)
    (os : Except RedError Unit) : (redInit os).Post p fun _ q => Exact q := by
  rcases hi : p.gfPosixInited with _ | _
  swap
  · rw [Op.Post, redInit, Op.get_bind_run, Op.when_neg (by simp [hi])]
    exact hp
  have hunmarked (o : ℕ) (ho : o ∈ objects) (x : ℕ × ℕ) (hx : p.key o = some x) :
      (p.gaOpenInos o).fOrphan ≠ true := fun hf => by
    obtain ⟨r, -, hv⟩ := hs.exists_view ho hx
    have hm := (hp.orphaned o ho x.1 x.2 hx hf).1
    rw [hs.uninited hi x.1 hv] at hm
    cases hm
  have hend : (redInit os).Post p fun _ p' => p'.gaOpenInos = p.gaOpenInos ∨
      ∃ q, (q.gaOpenInos = fun _ => .zero) ∧ Quiet q p' := by
    have hrest : (do
        cwdResetAll
        .modify fun p => { p with gfPosixInited := true } : PosixOp Unit).Respects Quiet :=
      .bind cwdResetAll_quiet fun _ => .modify fun _ => ⟨rfl, rfl, id, fun _ _ _ hx hf => ⟨hx, hf⟩⟩
    rw [Op.Post, redInit, Op.get_bind_run, Op.when_pos hi]
    rcases os with e | ⟨⟩
    · exact .inl rfl
    · exact .inr ⟨{ p with
        gaRedVolume := fun v => { p.gaRedVolume v with
          fMounted := false
          disk := { (p.gaRedVolume v).disk with fBranched := false, fReadOnly := false } }
        gaHandle := fun _ => .zero
        gaOpenInos := fun _ => .zero
        gaTask := fun _ => .zero }, rfl, hrest _⟩
  refine ((redInit_moved hmax hs os).and hend).mono fun _ p' hp' => ?_
  obtain ⟨hmoved, hsame | ⟨q, hzero, hquiet⟩⟩ := hp'
  · refine hmoved.settled.exact fun o ho v i hx hf => ?_
    rw [key, hsame] at hx
    rw [hsame] at hf
    exact absurd hf (hunmarked o ho _ hx)
  · refine hmoved.settled.exact fun o ho v i hx hf => ?_
    obtain ⟨-, hf'⟩ := hquiet.marks o ho _ hx hf
    rw [hzero] at hf'
    cases hf'

lemma redUninit_keeping (os : Except RedError Unit) : (redUninit os).Respects Keeping := by
  refine .get_bind fun p => .when (.ite (.fail _) (.bind (.modify fun _ hp => ?_) fun _ => ?_))
  · exact hp.same rfl rfl hp.current
  · exact ofRed_keeping os

lemma powerLoss_exact (hs : Settled p) : powerLoss.Post p fun _ q => Exact q :=
  (powerLoss_moved hs).settled.exact fun _ _ _ _ _ hf => by cases hf

end PosixState

open PosixState

variable {p p' : PosixState}

/-! ## Runs -/

/-- **The call that marks what is not to be marked.** -/
def PosixCall.RenamesOnto (p : PosixState) : PosixCall → Prop
  | .renameat _ _ start start' old new => p.RenamesOnto (p.pathVolume₂ start start') old new
  | _ => False

/-- **Every other call keeps the marks right**, whether it succeeds or fails. -/
theorem PosixCall.run_exact (hmax : openInodeCount ≤ UINT16_MAX) (hs : Settled p) (hp : Exact p)
    {call : PosixCall} (hlegal : call.Legal p) (honto : ¬ call.RenamesOnto p) :
    call.exec.Post p fun _ q => Exact q := by
  have hvol {α : Type} {p1 : PosixState} (hcur : p1.gbRedVolNum = p.gbRedVolNum) (r : Found α) :
      p1.pathVolume r = p.pathVolume r := by rw [pathVolume, pathVolume, hcur]
  have hvol₂ {p1 : PosixState} (hcur : p1.gbRedVolNum = p.gbRedVolNum) (r r' : Found Unit) :
      p1.pathVolume₂ r r' = p.pathVolume₂ r r' := by rw [pathVolume₂, pathVolume₂, hvol hcur]
  have hname {p1 : PosixState} (he : Entered p p1) {v : ℕ} {name : Except RedError (ℕ × CString)}
      (hn : p.NameOk v name) : p1.NameOk v name := by rwa [NameOk, he.volume]
  have hinode {p1 : PosixState} (he : Entered p p1) {v : ℕ} {inode : Except RedError ℕ}
      (hn : p.InodeOk v inode) : p1.InodeOk v inode := by rwa [InodeOk, he.volume]
  have hpure {α β : Type} {y : PosixOp α} {g : α → β} (hy : y.Post p fun _ q => Exact q) :
      (do
        let a ← y
        pure (g a) : PosixOp β).Post p fun _ q => Exact q :=
    hy.bind (fun _ _ hq => hq) fun _ _ hq => hq
  cases call with
  | init os => exact hpure (redInit_exact hmax hs hp os)
  | uninit os => exact hpure (redUninit_keeping os p hp)
  | powerLoss => exact hpure (powerLoss_exact hs)
  | taskregister id => exact hpure (redTaskregister_keeping id p hp)
  | taskunregister id => exact hpure (redTaskunregister_keeping id p hp)
  | mount2 id volume ulFlags =>
    exact hp.enter hs id fun p1 _ _ hi hs1 hp1 => redMount2_exact hs1 hp1 hi volume ulFlags
  | umount2 id volume fForce fTransact =>
    exact hp.enter hs id fun p1 _ _ _ hs1 hp1 => redUmount2_exact hmax hs1 hp1 volume
      fForce fTransact
  | rollback id volume =>
    exact hp.enter hs id fun p1 _ _ _ hs1 hp1 => redRollback_exact hmax hs1 hp1 volume
  | transact id volume =>
    exact hp.enter hs id fun p1 _ _ _ _ hp1 => redTransact_keeping volume p1 hp1
  | freeorphans id volume ulCount =>
    exact hp.enter hs id fun p1 _ _ _ _ hp1 => redFreeorphans_keeping volume ulCount p1 hp1
  | openat id c path ulOpenFlags =>
    refine (posixEnter_entered id).bind (fun _ p1 h1 => ?_) fun _ _ h1 => hp.entered h1.1
    exact redOpenat_exact (h1.1.settled hs).1 (hp.entered h1.1) c
      (hname h1.1 (hvol h1.2.1 path.start ▸ hlegal.1)) ulOpenFlags
  | opendir id c path =>
    exact hp.enter hs id fun p1 he hcur _ hs1 hp1 => redOpendir_exact hs1 hp1 c
      (hname he (hvol hcur path.start ▸ hlegal.1))
  | close id iFildes fTransact =>
    exact hp.enter hs id fun p1 _ _ _ _ hp1 => redClose_keeping iFildes fTransact p1 hp1
  | closedir id pDirStream =>
    exact hp.enter hs id fun p1 _ _ _ _ hp1 => redClosedir_keeping pDirStream p1 hp1
  | write id iFildes data =>
    exact hp.enter hs id fun p1 _ _ _ _ hp1 => redWrite_keeping iFildes data p1 hp1
  | mknod id c name uMode =>
    exact hp.enter hs id fun p1 he hcur _ hs1 hp1 =>
      redMknod_exact hs1 hp1 c (hname he (hvol hcur name ▸ hlegal)) uMode
  | linkat id c start start' inode link =>
    exact hp.enter hs id fun p1 he hcur _ hs1 hp1 =>
      redLinkat_exact hs1 hp1 c (hinode he (hvol₂ hcur start start' ▸ hlegal.1))
        (hname he (hvol₂ hcur start start' ▸ hlegal.2))
  | unlinkat id c name fRemoveDir =>
    exact hp.enter hs id fun p1 he hcur _ hs1 hp1 =>
      redUnlinkat_exact hs1 hp1 c (hname he (hvol hcur name ▸ hlegal)) fRemoveDir
  | renameat id c start start' old new =>
    refine hp.enter hs id fun p1 he hcur _ hs1 hp1 =>
      redRenameat_exact hs1 hp1 c (hname he (hvol₂ hcur start start' ▸ hlegal.1))
        (hname he (hvol₂ hcur start start' ▸ hlegal.2)) fun h => honto ?_
    have hkey : p1.key = p.key := by
      funext o
      rw [key, key, he.openInos]
    rw [hvol₂ hcur, PosixState.RenamesOnto, he.volume, hkey] at h
    exact h
  | chdir id start inode =>
    exact hp.enter hs id fun p1 _ _ _ _ hp1 => redChdir_keeping id start inode p1 hp1

namespace PosixState

lemma Start.exact (h0 : Start p) : Exact p := by
  refine h0.settled.exact fun o _ v i hx _ => ?_
  rw [key, h0.zeroed.openInos] at hx
  cases hx

/-- **The states that calls lead to** when no open inode with one name is renamed onto that name. -/
def ReachableClean (p : PosixState) : Prop := ∃ p0, Start p0 ∧ Relation.ReflTransGen
  (fun p p' => ∃ call : PosixCall, call.Legal p ∧ ¬ call.RenamesOnto p ∧ p' = call.run p) p0 p

lemma ReachableClean.run (h : ReachableClean p) {call : PosixCall} (hlegal : call.Legal p)
    (honto : ¬ call.RenamesOnto p) : ReachableClean (call.run p) := by
  obtain ⟨p0, h0, hrun⟩ := h
  exact ⟨p0, h0, hrun.tail ⟨call, hlegal, honto, rfl⟩⟩

/-- **The invariants hold in every such state.** -/
lemma ReachableClean.exact (hmax : openInodeCount ≤ UINT16_MAX) (h : ReachableClean p) :
    Settled p ∧ Exact p := by
  obtain ⟨p0, h0, hrun⟩ := h
  induction hrun with
  | refl => exact ⟨h0.settled, h0.exact⟩
  | tail _ hstep ih =>
    obtain ⟨call, hlegal, honto, rfl⟩ := hstep
    exact ⟨(PosixCall.run_moved hmax ih.1 hlegal).settled,
      PosixCall.run_exact hmax ih.1 ih.2 hlegal honto⟩

/-- **An open inode is marked if and only if it is an orphan**: it has no name, and is on the list
of orphans that are open. -/
def MarksExact (p : PosixState) : Prop :=
  ∀ o < openInodeCount, (p.gaOpenInos o).ulInode ≠ INODE_INVALID →
    let oi := p.gaOpenInos o
    let vol := p.gaRedVolume oi.bVolNum
    vol.fMounted = true → (oi.fOrphan = true ↔ ∃ ino l m, vol.disk.node oi.ulInode = some ino ∧
      ino.uNLink = 0 ∧ OrphanSpace.Inv vol.geo vol.disk.toOrphanSpace l m ∧ oi.ulInode ∈ l)

lemma Exact.marksExact (hp : Exact p) (hs : Settled p) : MarksExact p := by
  intro o ho hused oi vol hm
  have ho' : o ∈ objects := Finset.mem_range.2 ho
  have hkey : p.key o = some (oi.bVolNum, oi.ulInode) := key_eq_some.2 ⟨hused, rfl, rfl⟩
  constructor
  · intro hf
    obtain ⟨-, n, hn, hlink, hdef⟩ := hp.orphaned o ho' _ _ hkey hf
    obtain ⟨r, -, hv⟩ := hs.exists_view ho' hkey
    obtain ⟨l, m, hinv⟩ := (hs.good.sound _ hv).working hm
    obtain ⟨ino, hino, rfl⟩ := Space.shape_info_eq_some hn
    refine ⟨ino, l, m, hino, hlink, hinv, ?_⟩
    exact ((hinv.lists.mem _).2 ⟨ino, hino, hlink⟩).resolve_right fun h =>
      hdef (hinv.defunct_iff.2 h)
  · rintro ⟨ino, -, -, hino, hlink, -⟩
    obtain ⟨r, hr, -⟩ := hs.exists_view ho' hkey
    obtain ⟨-, o1, ho1, hptr, hkey1⟩ := hs.good.table.of_view hr
    obtain rfl := hs.good.table.unique o ho' o1 ho1 _ hkey hkey1
    obtain ⟨n, -, ino1, l, m, hino1, -, -, -, hmarked⟩ := hs.keptBy hptr hm
    rw [hino] at hino1
    cases hino1
    exact (hmarked hlink).2

/-- **No close fails.** -/
lemma Exact.close_ok (hp : Exact p) (hs : Settled p) {iFildes : ℤ} {h : ℕ}
    (hh : p.fildesToHandle iFildes FTYPE_ANY = .ok h) (fTransact : Bool) :
    (redClose iFildes fTransact p).1 = .ok () := by
  obtain ⟨o, hptr, hclose⟩ := hs.redClose_closes hh fTransact
  refine hclose.1.ok.2 ?_
  rintro ⟨-, hclean, ino, hino, hlink⟩
  have hptr' : p.ptr (.inl h) = some o := hptr
  obtain ⟨x, hkey, -⟩ := hs.good.table.view_some hptr'
  have hused : (p.gaOpenInos o).ulInode ≠ INODE_INVALID := fun h0 => by
    rw [key_eq_none.2 h0] at hkey
    cases hkey
  obtain ⟨-, n, hn, h0, -⟩ := hp.orphaned o (hs.good.table.mem _ o hptr').2 _ _
    (key_eq_some.2 ⟨hused, rfl, rfl⟩) hclean.2.2.2
  obtain ⟨ino', hino', rfl⟩ := Space.shape_info_eq_some hn
  rw [hino] at hino'
  cases hino'
  exact hlink h0

end PosixState

/-- **The marks are right**, and no close of a valid descriptor fails, in every state that calls
lead to when no open inode with one name is renamed onto that name. -/
theorem marks_exact (hmax : openInodeCount ≤ UINT16_MAX) (h : p.ReachableClean) :
    MarksExact p ∧ ∀ iFildes h fTransact, p.fildesToHandle iFildes FTYPE_ANY = .ok h →
      (redClose iFildes fTransact p).1 = .ok () := by
  obtain ⟨hs, hp⟩ := h.exact hmax
  exact ⟨hp.marksExact hs, fun _ _ fTransact hh => hp.close_ok hs hh fTransact⟩

/-- **When a call keeps the marks right**: if it succeeds, exactly unless it renames an open inode
with one name onto that name. -/
theorem marks_exact_iff (hmax : openInodeCount ≤ UINT16_MAX) (h : p.ReachableClean)
    {call : PosixCall} (hlegal : call.Legal p) {ret : ℤ} (hok : (call.exec p).1 = .ok ret) :
    MarksExact (call.run p) ↔ ¬ call.RenamesOnto p := by
  obtain ⟨hs, hp⟩ := h.exact hmax
  refine ⟨fun hmarks honto => ?_, fun honto => Exact.marksExact
    (PosixCall.run_exact hmax hs hp hlegal honto) (PosixCall.run_moved hmax hs hlegal).settled⟩
  cases call with
  | renameat id c start start' old new =>
    have hpost : (PosixCall.renameat id c start start' old new).exec.Post p fun ret q =>
        (∃ a, ret = .ok a) → ∃ o ∈ objects, (q.gaOpenInos o).ulInode ≠ INODE_INVALID ∧
          (q.gaOpenInos o).fOrphan = true ∧
          (q.gaRedVolume (q.gaOpenInos o).bVolNum).fMounted = true ∧
          ∃ ino, (q.gaRedVolume (q.gaOpenInos o).bVolNum).disk.node (q.gaOpenInos o).ulInode =
            some ino ∧ ino.uNLink ≠ 0 := by
      refine (posixEnter_entered id).bind (fun _ p1 h1 => ?_) fun e _ _ h => by
        obtain ⟨_, h⟩ := h
        cases h
      obtain ⟨he, hcur, -⟩ := h1
      have hvol : p1.pathVolume₂ start start' = p.pathVolume₂ start start' := by
        rw [pathVolume₂, pathVolume₂, pathVolume, pathVolume, hcur]
      have hkey : p1.key = p.key := by
        funext o
        rw [key, key, he.openInos]
      have honto1 : p1.RenamesOnto (p1.pathVolume₂ start start') old new := by
        rw [hvol, PosixState.RenamesOnto, he.volume, hkey]
        exact honto
      refine (redRenameat_onto (he.settled hs).1 c ?_ ?_ honto1).bind
        (fun a q hq _ => hq rfl) fun e _ _ h => by
          obtain ⟨_, h⟩ := h
          cases h
      · rw [hvol, NameOk, he.volume]
        exact hlegal.1
      · rw [hvol, NameOk, he.volume]
        exact hlegal.2
    obtain ⟨o, ho, hused, hf, hm, ino, hino, hlink⟩ := hpost ⟨ret, hok⟩
    obtain ⟨ino', l, m, hino', h0, -⟩ := (hmarks o (Finset.mem_range.1 ho) hused hm).1 hf
    have hsame := hino.symm.trans hino'
    cases hsame
    exact hlink h0
  | _ => exact honto

omit [PosixConf] in
lemma fileOpened_reachableClean : letI := smallPosixConf; fileOpened.ReachableClean := by
  let _ := smallPosixConf
  have hstart : Start (powerOn (emptyGeometry 5 64 8)) :=
    powerOn_start (by decide) (by decide) (by decide)
  have hpower : (powerOn (emptyGeometry 5 64 8)).ReachableClean := ⟨_, hstart, .refl⟩
  have hinit : ((PosixCall.init (.ok ())).run (powerOn (emptyGeometry 5 64 8))).ReachableClean :=
    hpower.run trivial id
  have hmount : ((PosixCall.mount2 1 ⟨some 0, .ok ()⟩ RED_MOUNT_DEFAULT).run _).ReachableClean :=
    hinit.run trivial id
  have hroot : rootOpened.ReachableClean := hmount.run ⟨by simp [NameOk], by simp [InodeOk]⟩ id
  have hlegal : createFile.Legal rootOpened := ⟨nameOk_root _ _ _, by simp [InodeOk]⟩
  exact hroot.run hlegal id

omit [PosixConf] in
/-- A file has been unlinked while it is open. -/
theorem marks_exact_small : letI := smallPosixConf
    (MarksExact orphanOpened ∧ ∀ iFildes h fTransact,
      orphanOpened.fildesToHandle iFildes FTYPE_ANY = .ok h →
        (redClose iFildes fTransact orphanOpened).1 = .ok ()) ∧
      (orphanOpened.gaOpenInos 1).fOrphan = true := by
  let _ := smallPosixConf
  have hlegal : (PosixCall.unlinkat 1 NameDisk.roomy ⟨some 0, .ok (INODE_ROOTDIR, [97])⟩
      false).Legal fileOpened := nameOk_root _ _ _
  have horphan : orphanOpened.ReachableClean := fileOpened_reachableClean.run hlegal id
  exact ⟨marks_exact (by decide) horphan, by decide +kernel⟩

/-- An open file with one name is renamed onto that name. -/
def renameOnto : PosixCall :=
  .renameat 1 NameDisk.roomy ⟨some 0, .ok ()⟩ ⟨some 0, .ok ()⟩ (.ok (INODE_ROOTDIR, [97]))
    (.ok (INODE_ROOTDIR, [97]))

omit [PosixConf] in
/-- The open file has one name. -/
lemma fileOpened_named : letI := smallPosixConf
    (fileOpened.gaRedVolume 0).disk.names (fileOpened.gaRedVolume 0).geo
      (INODE_ROOTDIR, CString.name [97]) = some INODE_FIRST_FREE ∧
    fileOpened.key 1 = some (0, INODE_FIRST_FREE) ∧
    ((fileOpened.gaRedVolume 0).disk.node INODE_FIRST_FREE).map FileNode.uNLink = some 1 := by
  refine ⟨?_, ?_, ?_⟩
  all_goals decide +kernel

omit [PosixConf] in
lemma fileOpened_renamesOnto : letI := smallPosixConf; renameOnto.RenamesOnto fileOpened := by
  obtain ⟨hname, hkey, hlink⟩ := fileOpened_named
  have h1 : 1 ∈ @objects smallPosixConf := by decide
  exact @renamesOnto_self smallPosixConf _ 0 _ 1 (INODE_ROOTDIR, [97]) hname h1 hkey hlink

omit [PosixConf] in
/-- That rename succeeds, and leaves a wrong mark. -/
theorem marks_exact_iff_small : letI := smallPosixConf
    (renameOnto.exec fileOpened).1 = .ok 0 ∧ renameOnto.RenamesOnto fileOpened ∧
      ¬ MarksExact (renameOnto.run fileOpened) := by
  let _ := smallPosixConf
  have hok : (renameOnto.exec fileOpened).1 = .ok 0 := by decide +kernel
  have hlegal : renameOnto.Legal fileOpened := ⟨nameOk_root _ _ _, nameOk_root _ _ _⟩
  have hiff := marks_exact_iff (by decide) fileOpened_reachableClean hlegal hok
  exact ⟨hok, fileOpened_renamesOnto, fun hmarks => hiff.1 hmarks fileOpened_renamesOnto⟩

end RelianceEdge
