import RelianceEdge.Handle.Names

set_option relaxedAutoImplicit false
set_option autoImplicit false
set_option linter.unusedSectionVars false

/-!
# Mounting, unmounting and going back

The calls on whole volumes. A volume that is not mounted has no handles, and the working directories
on it are its root directory; `red_umount2()` sees to that, and `red_rollback()` does, too, for the
working directories, which may have been made since the last transaction point.

## Main definitions

* `PosixState.unmounted` — what the references are for after a volume has been unmounted.
* `PosixState.Moved` — a call succeeds and moves references, or fails and does not.

## Main results

* `redMount2_stays`, `redUmount2_moved`, `redRollback_moved` — the calls.
-/

namespace RelianceEdge

variable [PosixConf]

open RedConf PosixConf OrphanSpace

namespace PosixState

variable {p p' : PosixState} {r : Ref} {v i o h t : ℕ} {x : ℕ × ℕ} {α : Type}

/-! ## Volumes -/

/-- The volume `v` has become another one, with the references to its root directory at most. -/
lemma Settled.of_volume (hs : Settled p) {vol : PosixVolume} {gen : ℕ → ℕ}
    (hsound : vol.Sound) (hgen : ∀ w, gen w ≤ FD_GEN_MAX ∧
      ((Function.update p.gaRedVolume v vol w).fMounted → gen w ≠ 0))
    (hinit : vol.fMounted → p.gfPosixInited = true)
    (hroot : ∀ r x, p.view r = some x → x.1 = v → x.2 = INODE_ROOTDIR ∧ r.isRight = true) :
    Stays p (.ok () : Except PosixError Unit) { p with
      gaRedVolume := Function.update p.gaRedVolume v vol
      gauGeneration := gen } := by
  have hgood : Good ∅ p.ptr { p with
      gaRedVolume := Function.update p.gaRedVolume v vol
      gauGeneration := gen } := by
    refine hs.good.congr rfl rfl hs.good.current (fun w hw => ?_) fun r _ x hx hserves => ?_
    · by_cases hwv : w = v
      · subst hwv
        change (Function.update p.gaRedVolume w vol w).Sound
        rwa [Function.update_self]
      · change (Function.update p.gaRedVolume v vol w).Sound
        rw [Function.update_of_ne hwv]
        exact hs.good.sound w hw
    · change (Function.update p.gaRedVolume v vol x.1).Keeps _ _ _
      by_cases hxv : x.1 = v
      · obtain ⟨hx2, hr⟩ := hroot r x hx hxv
        rw [hxv, Function.update_self, hx2]
        refine ⟨fun hm => ?_, fun _ => ⟨rfl, hr⟩⟩
        obtain ⟨n, hn, hdef, hdir, hlink⟩ := (keeps_root hsound).mounted hm
        refine ⟨n, hn, hdef, ?_, fun h0 => absurd h0 hlink⟩
        cases r with
        | inl a => cases hr
        | inr a => exact hdir
      · rw [Function.update_of_ne hxv]
        exact hserves
  refine ⟨⟨hgood, hs.cwd, fun hi w hw => ?_, hgen⟩, rfl⟩
  change (Function.update p.gaRedVolume v vol w).fMounted = false
  by_cases hwv : w = v
  · subst hwv
    rw [Function.update_self]
    rcases hm : vol.fMounted with _ | _
    · rfl
    · rw [hinit hm] at hi
      cases hi
  · rw [Function.update_of_ne hwv]
    exact hs.uninited hi w hw

/-- The next generation of a volume. -/
lemma nextGeneration (g : ℕ) :
    (if FD_GEN_MAX < g + 1 then 1 else g + 1) ≤ FD_GEN_MAX ∧
      (if FD_GEN_MAX < g + 1 then 1 else g + 1) ≠ 0 := by
  have hmax : 1 ≤ FD_GEN_MAX := by decide
  split_ifs
  · exact ⟨hmax, by simp⟩
  · exact ⟨by omega, by omega⟩

/-- `red_mount2()`. -/
lemma redMount2_stays (hs : Settled p) (hi : p.gfPosixInited = true) (volume : Found Unit)
    (ulFlags : MountFlags) : (redMount2 volume ulFlags).Post p (Stays p) := by
  refine hs.stays_bind (path_entered volume) fun _ p' he _ hs' => ?_
  refine .get_bind ?_
  by_cases hm : p'.gpRedVolume.fMounted = true
  · rw [if_pos hm]
    exact .fail ⟨hs', rfl⟩
  rw [if_neg hm]
  have hsound : p'.gpRedVolume.Sound := hs'.good.sound _ hs'.good.current
  obtain ⟨l, m, hcommitted⟩ := hsound.committed
  obtain ⟨d, l', m', hrun, hsame, hinv, -⟩ :=
    NameDisk.redVolMount_run hsound.count hcommitted ulFlags
  have hcore : onCurrent (fun s => NameDisk.redVolMount s ulFlags) p' =
      (.ok (), p'.setVolume p'.gbRedVolNum fun vol => { vol with disk := d }) :=
    onCurrent_run (f := fun s => NameDisk.redVolMount s ulFlags) hrun
  have hmount : redCoreVolMount ulFlags p' = (.ok (), p'.setVolume p'.gbRedVolNum fun vol =>
      { vol with fMounted := true, disk := d }) := by
    refine (Op.bind_ok hcore).trans ?_
    rw [Op.modify_run, setVolume, setVolume, setVolume]
    dsimp only
    rw [Function.update_self, Function.update_idem]
  rw [Op.Post, Op.bind_ok hmount]
  have hsound' : PosixVolume.Sound { p'.gpRedVolume with fMounted := true, disk := d } :=
    ⟨hsound.version, hsound.pos, hsound.count, ⟨l, m, hsame ▸ hcommitted⟩, fun _ => ⟨l', m', hinv⟩⟩
  refine hs'.of_volume hsound'
    (fun w => ?_) (fun _ => he.inited.trans hi) fun r x hx hxv => ?_
  · dsimp only [setVolume]
    by_cases hw : w = p'.gbRedVolNum
    · subst hw
      rw [Function.update_self]
      exact ⟨(nextGeneration _).1,
        fun _ => (nextGeneration _).2⟩
    · rw [Function.update_of_ne hw, Function.update_of_ne hw]
      exact hs'.generation w
  · have hunmounted : (p'.gaRedVolume x.1).fMounted = false := by
      rw [hxv]
      exact Bool.eq_false_iff.2 hm
    exact (hs'.good.served r (by simp) x hx).unmounted hunmounted

/-- The handles of a volume are closed. -/
def closed (v : ℕ) (l : List ℕ) (V : View) : View
  | .inl h => if h ∈ l ∧ (V (.inl h)).map Prod.fst = some v then none else V (.inl h)
  | .inr t => V (.inr t)

/-- **The loop of `red_umount2()`** closes the handles of the volume, or finds that there are
none. -/
lemma Good.umountLoop_run (fForce : Bool) : ∀ (l : List ℕ) {p : PosixState}, Good ∅ p.ptr p →
    (∃ p', umountLoop fForce l p = (.ok (), p') ∧ Good ∅ p'.ptr p' ∧
      p'.view = closed p.gbRedVolNum l p.view ∧ CallFrame p p' ∧ p'.gbRedVolNum = p.gbRedVolNum ∧
      (fForce = false → ∀ h ∈ l, (p.view (.inl h)).map Prod.fst ≠ some p.gbRedVolNum)) ∨
    fForce = false ∧ umountLoop fForce l p = (.error .EBUSY, p) ∧
      ∃ h ∈ l, (p.view (.inl h)).map Prod.fst = some p.gbRedVolNum := by
  intro l
  induction l with
  | nil =>
    intro p hg
    refine .inl ⟨p, rfl, hg, ?_, .refl p, rfl, by simp⟩
    funext r
    cases r with
    | inl h => simp [closed]
    | inr t => rfl
  | cons h rest ih =>
    intro p hg
    by_cases hon : (p.view (.inl h)).map Prod.fst = some p.gbRedVolNum
    · -- The handle is on the volume.
      obtain ⟨y, hy, hcur⟩ := Option.map_eq_some_iff.1 hon
      obtain ⟨-, o, -, hptr, hkey⟩ := hg.table.of_view hy
      have hvol : (p.gaOpenInos o).bVolNum = p.gbRedVolNum := (key_eq_some.1 hkey).2.1.trans hcur
      have hptr' : (p.gaHandle h).pOpenIno = some o := hptr
      rw [umountLoop, Op.get_bind_run, hptr']
      rcases fForce with _ | _
      · refine .inr ⟨rfl, ?_, h, by simp, hon⟩
        exact Op.bind_error (congrFun (Op.when_pos hvol _) p)
      rcases hg.handleClose_run hptr false with ⟨p1, hrun, h1, hview, hframe, hcur1⟩ | ⟨hf, -⟩
      swap
      · cases hf
      rw [hvol] at hcur1
      have hwhen : Op.when ((p.gaOpenInos o).bVolNum = p.gbRedVolNum)
          (handleClose h false) p = (.ok (), p1) := (congrFun (Op.when_pos hvol _) p).trans hrun
      obtain ⟨p', hrun', hgood, hview', hframe', hcur', -⟩ | ⟨hf, -⟩ := ih h1
      swap
      · cases hf
      refine .inl ⟨p', (Op.bind_ok hwhen).trans hrun', hgood, ?_, hframe.trans hframe',
        hcur'.trans hcur1, by simp⟩
      rw [hview', hcur1, hview]
      funext r
      cases r with
      | inl a =>
        by_cases ha : a = h
        · subst ha
          simp [closed, hon]
        · have hne : (.inl a : Ref) ≠ .inl h := fun heq => ha (Sum.inl.inj heq)
          simp only [closed, Function.update_of_ne hne, List.mem_cons, ha, false_or]
      | inr t =>
        have hne : (.inr t : Ref) ≠ .inl h := Sum.inr_ne_inl
        simp only [closed, Function.update_of_ne hne]
    · -- It is on another one, or it is not open.
      have hskip : umountLoop fForce (h :: rest) p = umountLoop fForce rest p := by
        rw [umountLoop, Op.get_bind_run]
        rcases hptr : (p.gaHandle h).pOpenIno with _ | o
        · rfl
        · have hptr' : p.ptr (.inl h) = some o := hptr
          obtain ⟨y, hkey, hy⟩ := hg.table.view_some hptr'
          have hne : (p.gaOpenInos o).bVolNum ≠ p.gbRedVolNum := by
            intro heq
            refine hon (Option.map_eq_some_iff.2 ⟨y, hy, ?_⟩)
            rw [← heq, (key_eq_some.1 hkey).2.1]
          have hwhen : Op.when ((p.gaOpenInos o).bVolNum = p.gbRedVolNum)
              (if fForce then handleClose h false else .fail .EBUSY) p = (.ok (), p) :=
            congrFun (Op.when_neg hne _) p
          exact Op.bind_ok hwhen
      have hclosed :
          closed p.gbRedVolNum rest p.view = closed p.gbRedVolNum (h :: rest) p.view := by
        funext r
        cases r with
        | inl a =>
          by_cases ha : a = h
          · subst ha
            simp [closed, hon]
          · simp only [closed, List.mem_cons, ha, false_or]
        | inr t => rfl
      rcases ih hg with ⟨p', hrun', hgood, hview', hframe', hcur', hnone⟩ |
        ⟨hf, hrun', a, ha, hbusy⟩
      · refine .inl ⟨p', hskip.trans hrun', hgood, hview'.trans hclosed, hframe', hcur',
          fun hf a ha => ?_⟩
        rcases List.mem_cons.1 ha with rfl | ha
        · exact hon
        · exact hnone hf a ha
      · exact .inr ⟨hf, hskip.trans hrun', a, List.mem_cons_of_mem h ha, hbusy⟩

/-- **A volume has been unmounted**: its handles are closed, and its working directories are its
root directory. -/
def unmounted (v : ℕ) (V : View) : View :=
  rooted v (List.range taskCount) (closed v (List.range handleCount) V)

lemma rooted_ne_none {V : View} {l : List ℕ} (ht : V (.inr t) ≠ none) :
    rooted v l V (.inr t) ≠ none := by
  rw [rooted]
  split_ifs
  · simp
  · exact ht

/-- What references to a volume that has been unmounted are for. -/
lemma unmounted_root {p : PosixState} (hg : Good ∅ p.ptr p)
    (hr : unmounted v p.view r = some x) (hx : x.1 = v) :
    x.2 = INODE_ROOTDIR ∧ r.isRight = true := by
  cases r with
  | inl h =>
    rw [unmounted, rooted, closed] at hr
    split_ifs at hr with hc
    have hmem := handle_mem.1 (hg.table.of_view hr).1
    exact absurd ⟨List.mem_range.2 hmem, by rw [hr, Option.map_some, hx]⟩ hc
  | inr t =>
    rw [unmounted, rooted, closed] at hr
    split_ifs at hr with hc
    · obtain rfl := Option.some.inj hr
      exact ⟨rfl, rfl⟩
    · have hmem := task_mem.1 (hg.table.of_view hr).1
      exact absurd ⟨List.mem_range.2 hmem, by rw [hr, Option.map_some, hx]⟩ hc

/-- A call that succeeds moves the references as `A` says, and one that fails leaves them alone. -/
structure Moved (A : α → PosixState → Prop) (p : PosixState) (ret : Except PosixError α)
    (p' : PosixState) : Prop where
  settled : Settled p'
  ok : ∀ a, ret = .ok a → A a p'
  error : ∀ e, ret = .error e → p'.view = p.view

/-- A call that leaves the references alone. -/
lemma Stays.moved {ret : Except PosixError α} (h : Stays p ret p') :
    Moved (fun _ q => q.view = p.view) p ret p' := ⟨h.1, fun _ _ => h.2, fun _ _ => h.2⟩

lemma Settled.moved_error {A : α → PosixState → Prop} {e : PosixError} (hs : Settled p')
    (hview : p'.view = p.view) : Moved A p (.error e) p' := ⟨hs, by simp, fun _ _ => hview⟩

/-- A call that begins with its path. -/
lemma Settled.moved_bind (hs : Settled p) {β : Type} {y : PosixOp α} {f : α → PosixOp β}
    {A : α → PosixState → Prop} {B : β → PosixState → Prop}
    (hy : y.Post p fun ret p' => Entered p p' ∧ ∀ a, ret = .ok a → A a p')
    (hf : ∀ a p', Entered p p' → A a p' → Settled p' → p'.view = p.view →
      (f a).Post p' (Moved B p')) : (y >>= f).Post p (Moved B p) := by
  refine hy.bind (fun a p' hp' => ?_) fun e p' hp' => ?_
  · obtain ⟨hs', hview⟩ := hp'.1.settled hs
    refine (hf a p' hp'.1 (hp'.2 a rfl) hs' hview).mono fun _ _ hq =>
      ⟨hq.settled, hq.ok, fun e he => (hq.error e he).trans hview⟩
  · obtain ⟨hs', hview⟩ := hp'.1.settled hs
    exact hs'.moved_error hview

/-- `red_umount2()`. -/
lemma redUmount2_moved (hmax : openInodeCount ≤ UINT16_MAX) (hs : Settled p) (volume : Found Unit)
    (fForce fTransact : Bool) : (redUmount2 volume fForce fTransact).Post p
      (Moved (fun _ q => q.view = unmounted (p.pathVolume volume) p.view ∧ (fForce = false →
        ∀ h < handleCount, (p.view (.inl h)).map Prod.fst ≠ some (p.pathVolume volume))) p) := by
  refine hs.moved_bind (path_entered volume) fun _ p' he hp' hs' hview => ?_
  obtain ⟨-, hp'⟩ := hp'
  have hcur : p'.gbRedVolNum = p.pathVolume volume := by rw [hp']
  rw [← hcur, ← hview]
  refine .get_bind ?_
  rcases hm : p'.gpRedVolume.fMounted with _ | _
  · exact hs'.moved_error rfl
  rcases hs'.good.umountLoop_run fForce (List.range handleCount) with
    ⟨p1, hrun1, h1, hview1, hframe1, hcur1, hnone⟩ | ⟨-, hrun1, -⟩
  swap
  · rw [if_neg (by simp), Op.Post, Op.bind_error hrun1]
    exact hs'.moved_error rfl
  obtain ⟨p2, hrun2, h2, hview2, hframe2, hcur2⟩ := Good.cwdCloseVolLoop_run (X := ∅) hmax false
    (List.range taskCount) (p := p1) (h1.weaken (Set.empty_subset _))
    (fun t ht => List.mem_range.1 ht) (by simp)
  rw [hcur1, hview1] at hview2
  rw [hcur1] at hcur2
  -- The volume that is still mounted has references to its root directory only.
  have hroot (r : Ref) (x : ℕ × ℕ) (hx : p2.view r = some x) (hxv : x.1 = p'.gbRedVolNum) :
      x.2 = INODE_ROOTDIR ∧ r.isRight = true := by
    rw [hview2] at hx
    exact unmounted_root hs'.good hx hxv
  have hs2 : Settled p2 := hs'.of_frame h2 (hframe1.trans hframe2) fun t _ ht => by
    rw [hview2]
    exact rooted_ne_none ht
  have hm2 : p2.gpRedVolume.fMounted := by
    rw [gpRedVolume, hcur2, hframe2.mounted, hframe1.mounted]
    exact hm
  have hsound : p2.gpRedVolume.Sound := hs2.good.sound _ hs2.good.current
  obtain ⟨d, hrun, -, -, hcommitted⟩ := NameDisk.when_transact p2.gpRedVolume.disk
    ((!p2.gpRedVolume.disk.fReadOnly && fTransact) = true)
  have hsound' : PosixVolume.Sound { p2.gpRedVolume with fMounted := false, disk := d } := by
    refine ⟨hsound.version, hsound.pos, hsound.count, ?_, by simp⟩
    rcases hcommitted with hsame | hnew
    · exact hsame ▸ hsound.committed
    · exact hnew ▸ hsound.working hm2
  have hcore : onCurrent (fun _ => NameDisk.redCoreVolUnmount fTransact) p2 =
      (.ok (), p2.setVolume p2.gbRedVolNum fun vol => { vol with disk := d }) := by
    have hdisk : NameDisk.redCoreVolUnmount fTransact p2.gpRedVolume.disk = (.ok (), d) := by
      rw [NameDisk.redCoreVolUnmount, Op.get_bind_run, hrun]
    exact onCurrent_run (f := fun _ => NameDisk.redCoreVolUnmount fTransact) hdisk
  have hunmount : redCoreVolUnmount fTransact p2 = (.ok (), p2.setVolume p2.gbRedVolNum fun vol =>
      { vol with fMounted := false, disk := d }) := by
    refine (Op.bind_ok hcore).trans ?_
    rw [Op.modify_run, setVolume, setVolume, setVolume]
    dsimp only
    rw [Function.update_self, Function.update_idem]
  have hend : (do
      umountLoop fForce (List.range handleCount)
      cwdCloseVol false
      redCoreVolUnmount fTransact : PosixOp Unit) p' = (.ok (), p2.setVolume p2.gbRedVolNum
        fun vol => { vol with fMounted := false, disk := d }) :=
    (Op.bind_ok hrun1).trans ((Op.bind_ok hrun2).trans hunmount)
  rw [if_neg (by simp), Op.Post, hend]
  have hgen (w : ℕ) : p2.gauGeneration w ≤ FD_GEN_MAX ∧
      ((Function.update p2.gaRedVolume p2.gbRedVolNum
        { p2.gpRedVolume with fMounted := false, disk := d } w).fMounted →
          p2.gauGeneration w ≠ 0) := by
    refine ⟨(hs2.generation w).1, fun hmw => (hs2.generation w).2 ?_⟩
    by_cases hw : w = p2.gbRedVolNum
    · rw [hw, Function.update_self] at hmw
      cases hmw
    · rwa [Function.update_of_ne hw] at hmw
  obtain ⟨hs3, hview3⟩ := hs2.of_volume hsound' hgen (by simp) fun r x hx hxv =>
    hroot r x hx (hxv.trans hcur2)
  refine ⟨hs3, fun _ _ => ⟨?_, fun hf h hh => hnone hf h (List.mem_range.2 hh)⟩, by simp⟩
  exact hview3.trans hview2

/-- `red_rollback()`. -/
lemma redRollback_moved (hmax : openInodeCount ≤ UINT16_MAX) (hs : Settled p)
    (volume : Found Unit) : (redRollback volume).Post p
      (Moved (fun _ q => q.view = rooted (p.pathVolume volume) (List.range taskCount) p.view ∧
        ∀ h < handleCount, (p.view (.inl h)).map Prod.fst ≠ some (p.pathVolume volume)) p) := by
  refine hs.moved_bind (path_entered volume) fun _ p' he hp' hs' hview => ?_
  obtain ⟨-, hp'⟩ := hp'
  have hcur : p'.gbRedVolNum = p.pathVolume volume := by rw [hp']
  rw [← hcur, ← hview]
  refine .get_bind ?_
  rcases hbusy : p'.hasHandles with _ | _
  swap
  · exact hs'.moved_error rfl
  rw [if_neg (by simp)]
  have hnone (h : ℕ) (hh : h < handleCount) :
      (p'.view (.inl h)).map Prod.fst ≠ some p'.gbRedVolNum := by
    intro hon
    obtain ⟨y, hy, hcur⟩ := Option.map_eq_some_iff.1 hon
    obtain ⟨-, o, -, hptr, hkey⟩ := hs'.good.table.of_view hy
    have hptr' : (p'.gaHandle h).pOpenIno = some o := hptr
    have hnot := List.any_eq_false.1 hbusy h (List.mem_range.2 hh)
    rw [hptr'] at hnot
    exact hnot (by simpa using (key_eq_some.1 hkey).2.1.trans hcur)
  rcases hm : p'.gpRedVolume.fMounted with _ | _
  · have hcore : redCore .rollback p' = (.error .EINVAL, p') := whenMounted_error hm _
    rw [Op.Post, Op.bind_error hcore]
    exact hs'.moved_error rfl
  have hsound : p'.gpRedVolume.Sound := hs'.good.sound _ hs'.good.current
  obtain ⟨l, m, hinv⟩ := hsound.working hm
  obtain ⟨lc, mc, hinvc⟩ := hsound.committed
  rcases hrun : Call.rollback.exec p'.gpRedVolume.geo p'.gpRedVolume.disk with ⟨ret, d⟩
  have hd : Call.rollback.run p'.gpRedVolume.geo p'.gpRedVolume.disk = d := congrArg Prod.snd hrun
  obtain ⟨-, hsame, hspace⟩ := Call.run_rollback (s := p'.gpRedVolume.geo) p'.gpRedVolume.disk
  rw [hd] at hsame hspace
  have hw := swapped_setVolume (p := p') d
  -- The references to the volume may not be served any more.
  have hgood : Good { r | (p'.view r).map Prod.fst = some p'.gbRedVolNum } p'.ptr
      (p'.setVolume p'.gbRedVolNum fun vol => { vol with disk := d }) := by
    refine (hs'.good.weaken (Set.empty_subset _)).setDisk hw ⟨lc, mc, hsame ▸ hinvc⟩ fun _ => ?_
    obtain ⟨l', m', hinv'⟩ : ∃ l' m', Inv p'.gpRedVolume.geo d.toOrphanSpace l' m' := by
      rw [hspace]
      split_ifs
      · exact ⟨lc, mc, hinvc⟩
      · exact ⟨l, m, hinv⟩
    refine ⟨l', m', hinv', fun r hr i n hx _ _ => absurd ?_ hr⟩
    exact congrArg (Option.map Prod.fst) hx
  have hstale : { r | (p'.view r).map Prod.fst = some p'.gbRedVolNum } ⊆
      stale { r | (p'.view r).map Prod.fst = some p'.gbRedVolNum } (List.range taskCount) := by
    intro r hr
    obtain ⟨y, hy, -⟩ := Option.map_eq_some_iff.1 hr
    cases r with
    | inl h => exact absurd hr (hnone h (handle_mem.1 (hs'.good.table.of_view hy).1))
    | inr t =>
      exact ⟨hr, t, List.mem_range.2 (task_mem.1 (hs'.good.table.of_view hy).1), rfl⟩
  have hcore := redCore_run hm hrun
  rcases hro : p'.gpRedVolume.disk.fReadOnly with _ | _
  swap
  · -- Nothing has happened.
    rw [Call.exec, NameDisk.whenWriteable, Op.get_bind_run, hro] at hrun
    cases hrun
    rw [Op.Post, Op.bind_error (hcore.trans (congrArg (Prod.mk _) setVolume_same))]
    exact hs'.moved_error rfl
  obtain rfl : ret = .ok () := by
    rw [Call.exec, NameDisk.whenWriteable, Op.get_bind_run, hro, if_neg (by simp),
      NameDisk.redVolRollback, Op.get_bind_run] at hrun
    by_cases hbranched : p'.gpRedVolume.disk.fBranched = true
    · rw [Op.when_pos hbranched] at hrun
      cases hrun
      rfl
    · rw [Op.when_neg hbranched] at hrun
      cases hrun
      rfl
  obtain ⟨p2, hrun2, h2, hview2, hframe2, hcur2⟩ := Good.cwdCloseVolLoop_run
    (X := { r | (p'.view r).map Prod.fst = some p'.gbRedVolNum })
    (p := p'.setVolume p'.gbRedVolNum fun vol => { vol with disk := d }) hmax true
    (List.range taskCount) (hgood.weaken hstale) (fun t ht => List.mem_range.1 ht) (fun r hr => hr)
  have hend : (do
      redCore .rollback
      let _ ← .attempt (cwdCloseVol true) : PosixOp Unit) p' = (.ok (), p2) := by
    refine (Op.bind_ok hcore).trans ?_
    rw [Op.attempt_bind_run]
    exact congrArg (fun y => ((.ok (), y.2) : Except PosixError Unit × PosixState)) hrun2
  rw [Op.Post, hend]
  refine ⟨hs'.of_frame h2 ((frame_setDisk d).call.trans hframe2) fun t _ ht => ?_,
    fun _ _ => ⟨hview2, hnone⟩, by simp⟩
  rw [hview2]
  exact rooted_ne_none ht

end PosixState

end RelianceEdge
