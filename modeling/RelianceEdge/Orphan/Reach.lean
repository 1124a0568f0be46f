import RelianceEdge.Mount.Layout
import RelianceEdge.Orphan.Rename

set_option relaxedAutoImplicit false
set_option autoImplicit false
set_option linter.unusedSectionVars false

/-!
# Runs of a volume

Every call of the core, with its second attempt when the disk is full and with the transaction
points it sets, keeps the invariant of the working state and of the committed state.

## Main definitions

* `Call.Legal` — the inodes that a call is given have been found by their paths.
* `NameDisk.Reachable` — the states of a volume in use, from format on.

## Main results

* `NameDisk.coreRetry_ends` — the outcome of an operation with its second attempt.
* `Call.run_after` — how a call changes the list of orphans.
* `NameDisk.Reachable.inv` — the invariant of every state of a volume in use.
-/

namespace RelianceEdge

variable [RedConf]

open RedConf

open OrphanSpace NameVolume

variable {s : FS} {l m : List ℕ} {i : ℕ}

namespace NameDisk

variable {d d' d'' : NameDisk} {W W' : OrphanSpace → Prop} {α : Type}

/-! ## Transaction points -/

/-- The committed state is the one before, or it is of a kind. -/
def Commits (W : OrphanSpace → Prop) (d d' : NameDisk) : Prop :=
  d'.committed = d.committed ∨ W d'.committed

lemma Commits.refl : Commits W d d := .inl rfl

lemma Commits.mono (h : Commits W d d') (hW : ∀ w, W w → W' w) : Commits W' d d' :=
  h.imp_right (hW _)

/-- A transaction point commits the working state, or the state is as it was. -/
lemma when_transact (d : NameDisk) (c : Prop) [Decidable c] :
    ∃ d', Op.when c redVolTransact d = (.ok (), d') ∧ d'.toOrphanSpace = d.toOrphanSpace ∧
      d'.fReadOnly = d.fReadOnly ∧
      (d'.committed = d.committed ∨ d'.committed = d.toOrphanSpace) := by
  by_cases hc : c
  · rw [Op.when_pos hc]
    change ∃ d', (_, if d.fBranched then _ else d) = _ ∧ _
    split_ifs
    · exact ⟨_, rfl, rfl, rfl, .inr rfl⟩
    · exact ⟨d, rfl, rfl, rfl, .inl rfl⟩
  · rw [Op.when_neg hc]
    exact ⟨d, rfl, rfl, rfl, .inl rfl⟩

/-! ## Second attempts -/

/-- The names that a call leaves which fails: at most, defunct orphans have been freed. -/
def Leaves (s : FS) (v : NameVolume) (l m : List ℕ) (w : OrphanSpace) : Prop :=
  ∃ v', Undone s v l m v' ∧ w = v'.toOrphanSpace

/-- What a call leaves which fails, with the committed state. -/
def Failed (s : FS) (d : NameDisk) (l m : List ℕ) (d' : NameDisk) : Prop :=
  Undone s d.toNameVolume l m d'.toNameVolume ∧ Commits (Leaves s d.toNameVolume l m) d d'

lemma Failed.refl (h : Inv s d.toOrphanSpace l m) : Failed s d l m d :=
  ⟨⟨m, Freed.refl h⟩, .refl⟩

/-- A transaction point after a call that failed. -/
lemma Failed.transact (h : Failed s d l m d') (hspace : d''.toOrphanSpace = d'.toOrphanSpace)
    (hro : d''.fReadOnly = d'.fReadOnly)
    (hcommitted : d''.committed = d'.committed ∨ d''.committed = d'.toOrphanSpace) :
    Failed s d l m d'' := by
  obtain ⟨⟨m', hfreed⟩, hc⟩ := h
  refine ⟨⟨m', hfreed.congr (hspace ▸ hfreed.inv) (congrArg (·.toSpace) hspace) hro⟩, ?_⟩
  rcases hcommitted with hsame | hnew
  · rw [Commits, hsame]
    exact hc
  · exact .inr ⟨d'.toNameVolume, ⟨m', hfreed⟩, hnew⟩

/-- An operation on the working state leaves the committed state alone. -/
lemma onWorking_ends {x : NameOp α} {Q : α → NameDisk → Prop} {E : NameDisk → Prop}
    (h : x.Ends d.toNameVolume (fun a v => Q a { d with toNameVolume := v })
      fun v => E { d with toNameVolume := v }) : (onWorking x).Ends d Q E :=
  Op.Ends.zoom h

/-- `CoreFull()` frees defunct orphans and commits, and nothing else. -/
lemma coreFull_ends (c : Circumstances) (hd' : Failed s d l m d') :
    (coreFull s c).Ends d' (fun _ d2 => Failed s d l m d2) fun d2 => Failed s d l m d2 := by
  refine .run_bind rfl ?_
  split_ifs with hfull
  swap
  · exact .fail hd'
  have hfree : (Op.when (deleteOpen ∧ d'.ulDefunctOrphanHead ≠ INODE_INVALID)
      (onWorking (NameVolume.redVolFreeOrphans s UINT32_MAX))).Ends d'
      (fun _ d2 => Failed s d l m d2) fun _ => False := by
    by_cases hdef : deleteOpen ∧ d'.ulDefunctOrphanHead ≠ INODE_INVALID
    · rw [Op.when_pos hdef]
      obtain ⟨⟨m1, hfreed⟩, hcommitted⟩ := hd'
      obtain ⟨v2, hrun, hfreed2⟩ :=
        redVolFreeOrphans_run hfreed.inv (n := UINT32_MAX) (by decide)
      exact onWorking_ends (.ok hrun ⟨⟨_, hfreed.trans hfreed2⟩, hcommitted⟩)
    · rw [Op.when_neg hdef]
      exact .ok rfl hd'
  refine .bind' hfree (fun _ d2 hd2 => ?_) fun _ hf => hf.elim
  obtain ⟨d3, hrun, hspace, hro, hcommitted⟩ := when_transact d2 (c.fAlmostFree = true)
  have hd3 := hd2.transact hspace hro hcommitted
  refine .run_bind hrun ?_
  by_cases hrec : (!c.fRecovered) = true
  · rw [Op.when_pos hrec]
    exact .fail hd3
  · rw [Op.when_neg hrec]
    exact .ok rfl hd3

/-- What an operation leaves that succeeds, with the committed state. -/
def Done (s : FS) (d : NameDisk) (l m : List ℕ) (W : α → OrphanSpace → Prop) (a : α)
    (d' : NameDisk) : Prop :=
  d'.fReadOnly = d.fReadOnly ∧ W a d'.toOrphanSpace ∧
    Commits (fun w => Leaves s d.toNameVolume l m w ∨ W a w) d d'

/-- **An operation with its second attempt.** It is tried in the state before, and once more when
defunct orphans have been freed. -/
theorem coreRetry_ends (c : Circumstances) {op : DirRoom → NameOp α} {W : α → OrphanSpace → Prop}
    (h : Inv s d.toOrphanSpace l m)
    (hop : ∀ (v : NameVolume) m1, Freed s d.toNameVolume l m v m1 → ∀ room,
      (op room).Ends v (fun a v' => v'.fReadOnly = v.fReadOnly ∧ W a v'.toOrphanSpace)
        fun v' => Undone s v l m1 v') :
    (coreRetry s c op).Ends d (Done s d l m W) (Failed s d l m) := by
  -- After an attempt that succeeds there may be a transaction point.
  have hend (a : α) (d' : NameDisk) (hd' : Done s d l m W a d') :
      (Op.when c.fTransact redVolTransact >>= fun _ => pure a : DiskOp α).Ends d'
        (Done s d l m W) (Failed s d l m) := by
    obtain ⟨d2, hrun, hspace, hro, hcommitted⟩ := when_transact d' (c.fTransact = true)
    obtain ⟨hro', hW, hc⟩ := hd'
    refine .run_bind hrun (.ok rfl ⟨hro.trans hro', hspace ▸ hW, ?_⟩)
    rcases hcommitted with hsame | hnew
    · rw [Commits, hsame]
      exact hc
    · exact .inr (.inr (hnew ▸ hW))
  refine .run_bind rfl ?_
  split_ifs with hro
  · exact .fail (Failed.refl h)
  have hfirst : (onWorking (op c.first)).Ends d (Done s d l m W) (Failed s d l m) :=
    onWorking_ends ((hop d.toNameVolume m (Freed.refl h) c.first).mono
      (fun _ _ hw => ⟨hw.1, hw.2, .inl rfl⟩) fun _ hw => ⟨hw, .inl rfl⟩)
  refine .attempt_bind hfirst (fun a d' hd' => .run_bind rfl (hend a d' hd')) fun e d' hd' => ?_
  refine .bind ?_ hend
  rw [coreAgain]
  split_ifs with hfull
  · exact .fail hd'
  refine .bind (coreFull_ends c hd') fun _ d2 hd2 => ?_
  obtain ⟨⟨m2, hfreed⟩, hcommitted⟩ := hd2
  refine onWorking_ends ((hop d2.toNameVolume m2 hfreed c.second).mono
    (fun _ _ hw => ⟨hw.1.trans hfreed.ro, hw.2, hcommitted.imp_right .inl⟩) fun v' hw => ?_)
  obtain ⟨m3, hfreed3⟩ := hw
  exact ⟨⟨m3, hfreed.trans hfreed3⟩, hcommitted⟩

/-- An operation that succeeds in the first attempt, with no transaction point after it. -/
lemma coreRetry_ok {c : Circumstances} {op : DirRoom → NameOp α} {a : α} {v' : NameVolume}
    (hro : d.fReadOnly = false) (hop : op c.first d.toNameVolume = (.ok a, v'))
    (hc : c.fTransact = false) :
    coreRetry s c op d = (.ok a, { d with toNameVolume := v' }) := by
  have hfirst : onWorking (op c.first) d = (.ok a, { d with toNameVolume := v' }) := by
    rw [onWorking, Op.zoom_run, hop]
  rw [coreRetry, whenWriteable, Op.get_bind_run, if_neg (by simp [hro]), Op.attempt_bind_run,
    hfirst]
  change (Op.when (c.fTransact = true) NameDisk.redVolTransact >>= fun _ => pure a : DiskOp α) _ = _
  rw [Op.when_neg (by simp [hc])]
  rfl

end NameDisk

/-! ## Calls -/

open NameDisk

/-- An inode that a path leads to: a directory that has not been removed, or an inode with a
name. -/
def NameDisk.Target (s : FS) (d : NameDisk) (ulInode : ℕ) : Prop :=
  d.toSpace.HasParent ulInode ∨ ∃ x e, (d.shape s).entry x = some e ∧ e.ulInode = ulInode

/-- **The inodes that a call is given have been found by their paths** in the state before. -/
def Call.Legal (s : FS) (d : NameDisk) : Call → Prop
  | .create _ ulPInode _ _ => d.toSpace.HasParent ulPInode
  | .link _ ulPInode _ ulInode => d.toSpace.HasParent ulPInode ∧ d.Target s ulInode
  | .unlink _ ulPInode _ _ => d.toSpace.HasParent ulPInode
  | .rename _ ulSrcPInode _ ulDstPInode _ _ =>
    d.toSpace.HasParent ulSrcPInode ∧ d.toSpace.HasParent ulDstPInode
  | _ => True

/-- The calls that neither mount the volume nor go back to the committed state. -/
def Call.Onward : Call → Prop
  | .rollback => False
  | .remount _ _ => False
  | .powerLoss _ => False
  | _ => True

/-- How such a call changes the list of orphans. -/
def Call.Orphans (s : FS) (d : NameDisk) (l l' : List ℕ) : Call → Prop
  | .unlink _ ulPInode pszName fOrphan =>
    Pushed (d.shape s) ulPInode pszName fOrphan l l'
  | .rename _ _ _ ulDstPInode pszDstName fOrphan =>
    Pushed (d.shape s) ulDstPInode pszDstName fOrphan l l'
  | .freeOrphan ulInode => l' = if deleteOpen ∧ d.fReadOnly = false then l.erase ulInode else l
  | _ => l' = l

variable {d : NameDisk}

/-- The inode that a path leads to is no orphan. -/
lemma NameDisk.Target.not_isOrphan (h : Inv s d.toOrphanSpace l m) (hi : d.Target s i) :
    ¬ d.IsOrphan i := by
  rintro horphan
  rcases hi with hpar | ⟨x, e, he, rfl⟩
  · obtain ⟨hl, hm⟩ := h.hasParent_not_mem hpar
    rcases (h.lists.mem i).2 horphan with hmem | hmem
    · exact hl hmem
    · exact hm hmem
  · obtain ⟨ino, hino, h0, -⟩ := h.named he
    obtain ⟨ino', hino', h0'⟩ := horphan
    rw [hino] at hino'
    cases hino'
    exact h0 h0'

/-- Nothing becomes an orphan when orphans are freed. -/
lemma NameVolume.Freed.not_isOrphan {v v' : NameVolume} {m' : List ℕ} (hf : Freed s v l m v' m')
    (h : Inv s v.toOrphanSpace l m) (hi : ¬ v.IsOrphan i) : ¬ v'.IsOrphan i := by
  intro horphan
  rcases (hf.inv.lists.mem i).2 horphan with hmem | hmem
  · exact hi ((h.lists.mem i).1 (.inl hmem))
  · exact hi ((h.lists.mem i).1 (.inr (hf.suffix.subset hmem)))

/-- **A state that a call leaves.** -/
structure Call.After (s : FS) (d : NameDisk) (l : List ℕ) (call : Call) (d' : NameDisk) : Prop where
  ro : d'.fReadOnly = d.fReadOnly
  inv : ∃ l' m', Inv s d'.toOrphanSpace l' m' ∧ call.Orphans s d l l'
  committed : Commits (fun w => ∃ l' m', Inv s w l' m') d d'

/-- A call that fails is one that leaves the list of orphans alone. -/
lemma Call.After.of_failed (call : Call) {d' : NameDisk} (h : Failed s d l m d')
    (hl : call.Orphans s d l l) : call.After s d l d' := by
  obtain ⟨⟨m', hfreed⟩, hc⟩ := h
  refine ⟨hfreed.ro, ⟨l, m', hfreed.inv, hl⟩, hc.mono ?_⟩
  rintro _ ⟨v', ⟨m1, hfreed1⟩, rfl⟩
  exact ⟨l, m1, hfreed1.inv⟩

lemma Call.After.of_ends {α : Type} {x : DiskOp α} {call : Call} {W : α → OrphanSpace → Prop}
    (h : x.Ends d (Done s d l m W) (Failed s d l m)) (hl : call.Orphans s d l l)
    (hW : ∀ a w, W a w → ∃ l' m', Inv s w l' m' ∧ call.Orphans s d l l') :
    call.After s d l (x d).2 := by
  rcases h with ⟨a, d', hrun, hro, hw, hc⟩ | ⟨e, d', hrun, hfailed⟩
  · rw [hrun]
    refine ⟨hro, hW a _ hw, hc.mono ?_⟩
    rintro w (⟨v', ⟨m1, hfreed1⟩, rfl⟩ | hw)
    · exact ⟨l, m1, hfreed1.inv⟩
    · obtain ⟨l', m', hinv, -⟩ := hW a w hw
      exact ⟨l', m', hinv⟩
  · rw [hrun]
    exact .of_failed call hfailed hl

/-- An operation of a writeable volume that only changes the working state. -/
lemma Call.After.of_working {x : NameOp Unit} {call : Call} (h : Inv s d.toOrphanSpace l m)
    (hl : d.fReadOnly → call.Orphans s d l l)
    (hx : d.fReadOnly = false → ∃ r v' l' m', x d.toNameVolume = (r, v') ∧
      v'.fReadOnly = d.fReadOnly ∧ Inv s v'.toOrphanSpace l' m' ∧ call.Orphans s d l l') :
    call.After s d l (whenWriteable (onWorking x) d).2 := by
  change call.After s d l ((if d.fReadOnly = true then _ else onWorking x : DiskOp Unit) d).2
  by_cases hro : d.fReadOnly = true
  · rw [if_pos hro]
    exact ⟨rfl, ⟨l, m, h, hl hro⟩, .inl rfl⟩
  · rw [if_neg hro]
    obtain ⟨r, v', l', m', hrun, hro', hinv, horphans⟩ := hx (by simpa using hro)
    change call.After s d l { d with toNameVolume := (x d.toNameVolume).2 }
    rw [hrun]
    exact ⟨hro', ⟨l', m', hinv, horphans⟩, .inl rfl⟩

/-- A change of the data of a file keeps the invariant. -/
lemma coreFileData_run {v : NameVolume} (h : Inv s v.toOrphanSpace l m) (i : ℕ)
    (data : List UInt8) : ∃ r v', coreFileData i data v = (r, v') ∧ v'.fReadOnly = v.fReadOnly ∧
      Inv s v'.toOrphanSpace l m := by
  rw [coreFileData]
  rcases hi : v.node i with _ | ino
  · rw [Op.bind_error (redInodeMount_error hi)]
    exact ⟨_, _, rfl, rfl, h⟩
  rw [Op.bind_ok (redInodeMount_ok hi)]
  have hwrite (data' : FileData) (hdir : data'.fDirectory = ino.data.fDirectory)
      (hslots : data'.slots s = ino.data.slots s) (hsound : data'.Sound s) :
      Inv s (v.put (v.modify i fun ino => { ino with data := data' })).toOrphanSpace l m := by
    have hnode := modify_node hi fun ino => { ino with data := data' }
    refine ⟨Tables.data h.toTables hi hnode, ?_⟩
    have hset : v.modify i (fun ino => { ino with data := data' }) =
        v.set i (some { ino with data := data' }) := congrArg Space.mk hnode
    change Space.Inv s (v.modify i fun ino => { ino with data := data' })
    rw [hset]
    exact h.space.write hsound (Space.shape_write hi data' hdir hslots)
  cases hd : ino.data with
  | dir _ => exact ⟨_, _, rfl, rfl, h⟩
  | reg _ => exact ⟨_, _, rfl, rfl, hwrite _ (by rw [hd]; rfl) (by rw [hd]; rfl) (by nofun)⟩
  | lnk _ => exact ⟨_, _, rfl, rfl, hwrite _ (by rw [hd]; rfl) (by rw [hd]; rfl) (by nofun)⟩

variable (hver : redDiskLayoutIsSupported s.core.ulVersion)

/-- The lists of orphans of two states with the same names. -/
lemma NameVolume.Pushed.congr {S S' : Shape} {p : ℕ} {pszName : CString} {fOrphan : Bool}
    {l' : List ℕ} (h : Pushed S p pszName fOrphan l l') (hentry : S'.entry = S.entry) :
    Pushed S' p pszName fOrphan l l' := by
  rw [Pushed, hentry]
  exact h

include hver in
/-- **What a call leaves** that neither mounts the volume nor goes back to the committed state. -/
theorem Call.run_after {call : Call} (h : Inv s d.toOrphanSpace l m) (hlegal : call.Legal s d)
    (honward : call.Onward) : call.After s d l (call.run s d) := by
  cases call with
  | create c p pszName uMode =>
    change After s d l _ (((NameDisk.coreRetry s c fun room =>
      NameVolume.coreCreate s room p pszName uMode) >>= fun _ => pure ()) d).2
    rw [Op.bind_pure_run]
    refine .of_ends (coreRetry_ends c h fun v m1 hfreed room =>
      (coreCreate_ends hver hfreed.inv (hfreed.hasParent h hlegal) uMode).mono
        (fun _ v' hv' => ?_) fun _ hv' => hv') rfl fun _ _ hw => hw
    obtain ⟨hro, v1, m2, -, hinv, -⟩ := hv'
    exact ⟨hro, l, m2, hinv, rfl⟩
  | link c p pszName i =>
    obtain ⟨hp, hi⟩ := hlegal
    refine .of_ends (coreRetry_ends c h fun v m1 hfreed room =>
      (coreLink_ends hver hfreed.inv (hfreed.hasParent h hp)
        (hfreed.not_isOrphan h (hi.not_isOrphan h))).mono
        (fun _ v' hv' => ?_) fun _ hv' => hv') rfl fun _ _ hw => hw
    exact ⟨hv'.1, l, m1, hv'.2.1, rfl⟩
  | unlink c p pszName fOrphan =>
    refine .of_ends (coreRetry_ends c h fun v m1 hfreed room =>
      (coreUnlink_ends hver hfreed.inv fOrphan).mono
        (fun _ v' hv' => ?_) fun _ hv' => hv') (.inl rfl) fun _ _ hw => hw
    obtain ⟨hro, -, -, l', hinv, hpushed⟩ := hv'
    exact ⟨hro, l', m1, hinv, hpushed.congr hfreed.entry.symm⟩
  | rename c p pszSrcName q pszDstName fOrphan =>
    refine .of_ends (coreRetry_ends c h fun v m1 hfreed room =>
      (coreRename_ends hver hfreed.inv (hfreed.hasParent h hlegal.2) fOrphan).mono
        (fun _ v' hv' => ?_) fun _ hv' => hv') (.inl rfl) fun _ _ hw => hw
    obtain ⟨hro, -, -, l', hinv, hpushed⟩ := hv'
    exact ⟨hro, l', m1, hinv, hpushed.congr hfreed.entry.symm⟩
  | freeOrphan i =>
    change After s d l _ (Op.when (deleteOpen = true)
      (whenWriteable (onWorking (coreFreeOrphan s i))) d).2
    by_cases hdel : deleteOpen = true
    · rw [Op.when_pos hdel]
      refine .of_working h (fun hro => (if_neg (by simp [hro])).symm) fun hro => ?_
      by_cases hi : i ∈ l
      · obtain ⟨v', hrun, hinv, hro', -, -⟩ := coreFreeOrphan_run h hi
        exact ⟨_, v', _, m, hrun, hro', hinv, (if_pos ⟨hdel, hro⟩).symm⟩
      · refine ⟨_, _, l, m, coreFreeOrphan_error h hi, rfl, h, ?_⟩
        change l = if _ then _ else _
        rw [List.erase_of_not_mem hi, ite_self]
    · rw [Op.when_neg hdel]
      exact ⟨rfl, ⟨l, m, h, (if_neg fun hc => hdel hc.1).symm⟩, .inl rfl⟩
  | freeOrphans n =>
    change After s d l _ (Op.when (deleteOpen = true)
      (onWorking (redCoreVolFreeOrphans s n)) d).2
    by_cases hdel : deleteOpen = true
    · rw [Op.when_pos hdel]
      have hends : (redCoreVolFreeOrphans s n).Ends d.toNameVolume
          (fun _ v' => Undone s d.toNameVolume l m v')
          fun v' => Undone s d.toNameVolume l m v' := by
        have hundone : Undone s d.toNameVolume l m d.toNameVolume := ⟨m, Freed.refl h⟩
        refine .run_bind rfl ?_
        split_ifs with h0 hro hdef
        · exact .fail hundone
        · exact .fail hundone
        · exact .fail hundone
        obtain ⟨v', hrun, hfreed⟩ := redVolFreeOrphans_run h h0
        refine .run_bind hrun (.run_bind rfl ?_)
        by_cases hend : v'.ulDefunctOrphanHead = INODE_INVALID
        · rw [Op.when_pos hend]
          exact .fail ⟨_, hfreed⟩
        · rw [Op.when_neg hend]
          exact .ok rfl ⟨_, hfreed⟩
      refine (onWorking_ends (d := d) (hends.mono (fun _ v' hv' => ?_) fun v' hv' => ?_)).post
        (P := fun _ d' => After s d l (.freeOrphans n) d') (fun _ _ hd' => hd') fun _ _ hd' => hd'
      · exact .of_failed (.freeOrphans n) ⟨hv', .inl rfl⟩ rfl
      · exact .of_failed (.freeOrphans n) ⟨hv', .inl rfl⟩ rfl
    · rw [Op.when_neg hdel]
      exact ⟨rfl, ⟨l, m, h, rfl⟩, .inl rfl⟩
  | fileData i data =>
    refine .of_working h (fun _ => rfl) fun _ => ?_
    obtain ⟨r, v', hrun, hro, hinv⟩ := coreFileData_run h i data
    exact ⟨r, v', l, m, hrun, hro, hinv, rfl⟩
  | transact =>
    change After s d l _ ((if d.fReadOnly = true then _
      else NameDisk.redVolTransact : DiskOp Unit) d).2
    split_ifs
    · exact ⟨rfl, ⟨l, m, h, rfl⟩, .inl rfl⟩
    · obtain ⟨d', hrun, hspace, hro, hcommitted⟩ := when_transact d True
      rw [Op.when_pos trivial] at hrun
      rw [hrun]
      refine ⟨hro, ⟨l, m, hspace ▸ h, rfl⟩, hcommitted.imp_right fun hc => ?_⟩
      exact ⟨l, m, hc ▸ h⟩
  | rollback => exact honward.elim
  | remount _ _ => exact honward.elim
  | powerLoss _ => exact honward.elim

/-- On a read-only volume such a call does nothing. -/
lemma Call.run_readOnly {call : Call} (hro : d.fReadOnly = true) (honward : call.Onward) :
    call.run s d = d := by
  have hwriteable {α : Type} (x : DiskOp α) : whenWriteable x d = (.error .EROFS, d) := by
    rw [whenWriteable, Op.get_bind_run, if_pos hro]
    rfl
  cases call with
  | create c p pszName uMode =>
    rw [Call.run, Call.exec, NameDisk.coreRetry, Op.bind_error (hwriteable _)]
  | link c p pszName i => exact congrArg Prod.snd (hwriteable _)
  | unlink c p pszName fOrphan => exact congrArg Prod.snd (hwriteable _)
  | rename c p pszSrcName q pszDstName fOrphan => exact congrArg Prod.snd (hwriteable _)
  | freeOrphan i =>
    rw [Call.run, Call.exec]
    by_cases hdel : deleteOpen = true
    · rw [Op.when_pos hdel, hwriteable]
    · rw [Op.when_neg hdel]
      rfl
  | freeOrphans n =>
    rw [Call.run, Call.exec]
    by_cases hdel : deleteOpen = true
    · rw [Op.when_pos hdel, onWorking, Op.zoom_run, redCoreVolFreeOrphans, Op.get_bind_run]
      split_ifs <;> rfl
    · rw [Op.when_neg hdel]
      rfl
  | fileData i data => exact congrArg Prod.snd (hwriteable _)
  | transact => exact congrArg Prod.snd (hwriteable _)
  | rollback => exact honward.elim
  | remount _ _ => exact honward.elim
  | powerLoss _ => exact honward.elim

/-! ## Going back to the committed state -/

/-- **A rollback** of a writeable volume with changes goes back to the committed state; of another
volume it does nothing. -/
lemma Call.run_rollback (d : NameDisk) :
    (Call.rollback.run s d).fReadOnly = d.fReadOnly ∧
      (Call.rollback.run s d).committed = d.committed ∧
      (Call.rollback.run s d).toOrphanSpace =
        if d.fReadOnly = false ∧ d.fBranched then d.committed else d.toOrphanSpace := by
  rw [Call.run, Call.exec, whenWriteable, Op.get_bind_run]
  by_cases hro : d.fReadOnly = true
  · rw [if_pos hro, if_neg (by simp [hro])]
    exact ⟨rfl, rfl, rfl⟩
  rw [if_neg hro, NameDisk.redVolRollback, Op.get_bind_run]
  by_cases hbranched : d.fBranched = true
  · rw [Op.when_pos hbranched, if_pos ⟨by simpa using hro, hbranched⟩]
    exact ⟨rfl, rfl, rfl⟩
  · rw [Op.when_neg hbranched, if_neg fun hc => hbranched hc.2]
    exact ⟨rfl, rfl, rfl⟩

/-- **A mount**: the orphans of the committed state become defunct or are freed. -/
lemma NameDisk.redVolMount_run (hcount : s.core.ulInodeCount ≤ UINT32_MAX)
    (h : Inv s d.committed l m) (ulFlags : MountFlags) :
    ∃ d' l' m', redVolMount s ulFlags d = (.ok (), d') ∧ d'.committed = d.committed ∧
      Inv s d'.toOrphanSpace l' m' ∧
      (deleteOpen → l' = [] ∧ (ulFlags.fSkipDelete = false → m' = [])) ∧
      (d'.shape s).entry = (d.committed.shape s).entry := by
  rw [redVolMount, Op.modify_bind_run, redVolMountMetaroot, Op.modify_bind_run]
  by_cases hdel : deleteOpen = true
  · rw [Op.when_pos hdel]
    obtain ⟨v', m', hrun, hretired, hnil⟩ := mountOrphans_run hcount
      (v := ⟨d.committed, d.fBranched, ulFlags.fReadOnly⟩) h ulFlags
    refine ⟨{ d with toNameVolume := v' }, [], m', ?_, rfl, hretired.inv, fun _ => ⟨rfl, hnil⟩,
      hretired.entry⟩
    rw [onWorking, Op.zoom_run, hrun]
  · rw [Op.when_neg hdel]
    exact ⟨_, l, m, rfl, rfl, h, fun hc => absurd hc hdel, rfl⟩

/-- **A state after a mount.** -/
structure Call.Mounted (s : FS) (d d' : NameDisk) : Prop where
  inv : ∃ l' m', Inv s d'.toOrphanSpace l' m' ∧ (deleteOpen → l' = [])
  entry : (d'.shape s).entry = (d'.committed.shape s).entry
  committed : d'.committed = d.committed ∨ d'.committed = d.toOrphanSpace

/-- What is mounted after an unmount: the committed state, or the state before. -/
lemma Call.run_remount (hcount : s.core.ulInodeCount ≤ UINT32_MAX)
    (h : Inv s d.toOrphanSpace l m) (hc : ∃ l m, Inv s d.committed l m) (fTransact : Bool)
    (ulFlags : MountFlags) : Mounted s d ((Call.remount fTransact ulFlags).run s d) := by
  obtain ⟨lc, mc, hc⟩ := hc
  obtain ⟨d1, hrun1, -, -, hcommitted⟩ :=
    when_transact d ((!d.fReadOnly && fTransact) = true)
  obtain ⟨l1, m1, h1⟩ : ∃ l1 m1, Inv s d1.committed l1 m1 := by
    rcases hcommitted with hsame | hnew
    · exact ⟨lc, mc, hsame ▸ hc⟩
    · exact ⟨l, m, hnew ▸ h⟩
  obtain ⟨d', l', m', hrun, hsame, hinv, hnil, hentry⟩ := redVolMount_run hcount h1 ulFlags
  have hexec : (Call.remount fTransact ulFlags).exec s d = (.ok (), d') := by
    have hunmount : redCoreVolUnmount fTransact d = (.ok (), d1) := by
      rw [redCoreVolUnmount, Op.get_bind_run, hrun1]
    rw [Call.exec, Op.bind_ok hunmount, hrun]
  rw [Call.run, hexec]
  exact ⟨⟨l', m', hinv, fun hdel => (hnil hdel).1⟩, by rw [hentry, hsame],
    by rw [hsame]; exact hcommitted⟩

/-- What is mounted after a power loss: the committed state. -/
lemma Call.run_powerLoss (hcount : s.core.ulInodeCount ≤ UINT32_MAX)
    (hc : ∃ l m, Inv s d.committed l m) (ulFlags : MountFlags) :
    Mounted s d ((Call.powerLoss ulFlags).run s d) := by
  obtain ⟨lc, mc, hc⟩ := hc
  obtain ⟨d', l', m', hrun, hsame, hinv, hnil, hentry⟩ :=
    redVolMount_run (d := { d with fBranched := false }) hcount hc ulFlags
  rw [Call.run, show (Call.powerLoss ulFlags).exec s d = (.ok (), d') from hrun]
  exact ⟨⟨l', m', hinv, fun hdel => (hnil hdel).1⟩, by rw [hentry, hsame], .inl hsame⟩

/-! ## Runs -/

/-- What `red_format()` leaves: the root directory, and no orphans. -/
def OrphanSpace.format (s : FS) : OrphanSpace where
  node := Space.format.node
  ulNextOrphan := fun _ => 0
  ulOrphanHead := INODE_INVALID
  ulOrphanTail := INODE_INVALID
  ulDefunctOrphanHead := INODE_INVALID
  ulFreeInodes := s.core.ulInodeCount - 1

namespace NameDisk

/-- A new volume. -/
def format (s : FS) : NameDisk where
  toOrphanSpace := .format s
  fBranched := false
  fReadOnly := false
  committed := .format s

/-- **The states of a volume in use**, from format on: any legal calls, which succeed or fail. -/
inductive Reachable (s : FS) : NameDisk → Prop
  | format : Reachable s (format s)
  | call {d : NameDisk} {call : Call} (h : Reachable s d) (hl : call.Legal s d) :
      Reachable s (call.run s d)

end NameDisk

include hver in
/-- A new volume has one inode in use. -/
lemma OrphanSpace.format_inv (hpos : 0 < s.core.ulInodeCount) : Inv s (.format s) [] [] := by
  have hnode (j : ℕ) (ino : FileNode) (hj : (format s).node j = some ino) :
      j = INODE_ROOTDIR ∧ ino = ⟨1, INODE_INVALID, .dir .empty⟩ := by
    change (if j = INODE_ROOTDIR then _ else none) = _ at hj
    split_ifs at hj with hr
    exact ⟨hr, (Option.some.inj hj).symm⟩
  have hroot : INODE_ROOTDIR ∈ numbers s := by
    simp only [numbers, Finset.mem_Ico, INODE_FIRST_VALID, INODE_ROOTDIR]
    omega
  refine ⟨⟨⟨fun j hj => ?_, ?_⟩, ⟨Chain.nil_iff.2 rfl, rfl, Chain.nil_iff.2 rfl, by simp,
    fun j => ?_, fun j ino hj h0 => ?_⟩⟩, Space.format_inv hver⟩
  · obtain ⟨ino, hino⟩ := Option.ne_none_iff_exists'.1 hj
    exact (hnode j ino hino).1 ▸ hroot
  · have hset : (format s).freeNumbers s = (numbers s).erase INODE_ROOTDIR := by
      ext j
      rw [freeNumbers, Finset.mem_filter, Finset.mem_erase, and_comm]
      refine and_congr_left fun _ => ?_
      change (if j = INODE_ROOTDIR then _ else none : Option FileNode).isNone = true ↔ _
      split_ifs with hj <;> simp [hj]
    rw [hset, Finset.card_erase_of_mem hroot]
    simp [numbers, format]
  · refine ⟨fun h => by simp at h, ?_⟩
    rintro ⟨ino, hino, h0⟩
    rw [(hnode j ino hino).2] at h0
    cases h0
  · rw [(hnode j ino hj).2] at h0
    cases h0

include hver in
/-- **Run lemma**: in every state of a volume in use, and in the committed state, the names and the
lists of orphans satisfy the invariant. -/
theorem NameDisk.Reachable.inv (hpos : 0 < s.core.ulInodeCount)
    (hcount : s.core.ulInodeCount ≤ UINT32_MAX) (h : Reachable s d) :
    (∃ l m, Inv s d.toOrphanSpace l m) ∧ ∃ l m, Inv s d.committed l m := by
  induction h with
  | format => exact ⟨⟨[], [], format_inv hver hpos⟩, [], [], format_inv hver hpos⟩
  | @call d call h hl ih =>
    obtain ⟨⟨l, m, hinv⟩, hcommitted⟩ := ih
    by_cases honward : call.Onward
    · obtain ⟨-, ⟨l', m', hinv', -⟩, hc⟩ := Call.run_after hver hinv hl honward
      refine ⟨⟨l', m', hinv'⟩, ?_⟩
      rcases hc with hsame | hnew
      · exact hsame ▸ hcommitted
      · exact hnew
    · cases call with
      | rollback =>
        obtain ⟨-, hsame, hspace⟩ := Call.run_rollback (s := s) d
        rw [hsame, hspace]
        split_ifs
        · exact ⟨hcommitted, hcommitted⟩
        · exact ⟨⟨l, m, hinv⟩, hcommitted⟩
      | remount fTransact ulFlags =>
        obtain ⟨⟨l', m', hinv', -⟩, -, hc⟩ :=
          Call.run_remount hcount hinv hcommitted fTransact ulFlags
        refine ⟨⟨l', m', hinv'⟩, ?_⟩
        rcases hc with hsame | hnew
        · exact hsame ▸ hcommitted
        · exact ⟨l, m, hnew ▸ hinv⟩
      | powerLoss ulFlags =>
        obtain ⟨⟨l', m', hinv', -⟩, -, hc⟩ := Call.run_powerLoss hcount hcommitted ulFlags
        refine ⟨⟨l', m', hinv'⟩, ?_⟩
        rcases hc with hsame | hnew
        · exact hsame ▸ hcommitted
        · exact ⟨l, m, hnew ▸ hinv⟩
      | _ => exact absurd trivial honward

/-! ## A first orphan -/

namespace NameDisk

/-- Circumstances in which nothing is short and nothing is committed. -/
def roomy : Circumstances := ⟨⟨true, true⟩, ⟨true, true⟩, false, false, false, false⟩

/-- The first free inode of a new volume is the one after the root directory. -/
lemma format_find (hcount : 2 ≤ s.core.ulInodeCount) :
    NameVolume.inodeFindFree s (format s).toNameVolume =
      (.ok INODE_FIRST_FREE, (format s).toNameVolume) := by
  have hfree : (format s).toNameVolume.ulFreeInodes ≠ 0 := by
    change s.core.ulInodeCount - 1 ≠ 0
    omega
  obtain ⟨n, hn⟩ := Nat.exists_eq_add_of_le hcount
  have hrange : INODE_FIRST_VALID + s.core.ulInodeCount - INODE_FIRST_FREE = n + 1 := by
    rw [hn, INODE_FIRST_VALID, INODE_FIRST_FREE]
    omega
  have hnode : (format s).node INODE_FIRST_FREE = none := rfl
  have hfind : List.find? (fun ulInode => ((format s).node ulInode).isNone)
      (List.range' INODE_FIRST_FREE (INODE_FIRST_VALID + s.core.ulInodeCount - INODE_FIRST_FREE)) =
      some INODE_FIRST_FREE := by
    rw [hrange, List.range'_succ, List.find?_cons_of_pos]
    rw [hnode]
    rfl
  rw [NameVolume.inodeFindFree, Op.get_bind_run, if_neg hfree, hfind]
  rfl

include hver in
/-- **A first inode, and its orphan**: an inode is created in the root directory of a new volume and
unlinked while it is open. -/
lemma format_orphan (hdel : deleteOpen) (hcount : 2 ≤ s.core.ulInodeCount)
    (hmax : 0 < s.direntsMax) {pszName : CString} {de : Dirent}
    (hde : DirData.newDirent pszName INODE_FIRST_FREE = .ok de) (uMode : Mode)
    (hmode : uMode.canCreate) :
    ∃ d1 d2, (Call.create roomy INODE_ROOTDIR pszName uMode).run s (format s) = d1 ∧
      (Call.unlink roomy INODE_ROOTDIR pszName true).run s d1 = d2 ∧
      (d1.shape s).entry (INODE_ROOTDIR, 0) = some de ∧
      (∀ k e, (d1.shape s).entry (INODE_ROOTDIR, k) = some e → e.ulInode = INODE_FIRST_FREE) ∧
      d2.node INODE_FIRST_FREE = some ⟨0, INODE_INVALID, .new uMode⟩ ∧
      d2.ulOrphanHead = INODE_FIRST_FREE ∧ d2.fReadOnly = false ∧ d2.fBranched = true := by
  have hroot : (format s).node INODE_ROOTDIR = some ⟨1, INODE_INVALID, .dir .empty⟩ := rfl
  obtain ⟨dR, hl, hrun⟩ := coreCreate_ok hver (v := (format s).toNameVolume) ⟨true, true⟩
    hroot rfl (format_find hcount) (by decide) hmode hde hmax rfl
  obtain ⟨hname, hdei⟩ := DirData.newDirent_eq_ok hde
  set v1 := ((format s).toNameVolume.created INODE_FIRST_FREE
    ⟨1, INODE_ROOTDIR, .new uMode⟩) with hv1
  have hroot1 : v1.node INODE_ROOTDIR = some ⟨1, INODE_INVALID, .dir .empty⟩ := rfl
  have hnew : v1.node INODE_FIRST_FREE = some ⟨1, INODE_ROOTDIR, .new uMode⟩ :=
    Space.set_same _
  have hnew1 : (v1.put (v1.setDir INODE_ROOTDIR dR)).node INODE_FIRST_FREE =
      some ⟨1, INODE_ROOTDIR, .new uMode⟩ := (Space.setDir_ne (by decide)).trans hnew
  have hrootd : (v1.put (v1.setDir INODE_ROOTDIR dR)).node INODE_ROOTDIR =
      some ⟨1, INODE_INVALID, .dir dR⟩ := Space.setDir_same hroot1
  have hremove : Space.mayRemove ⟨1, INODE_ROOTDIR, .new uMode⟩ := by
    cases uMode <;> rfl
  obtain ⟨dR', hl', hrun'⟩ := coreUnlink_orphan hver ⟨true, true⟩ hdel hrootd rfl hl hde
    (by decide) hnew1 rfl hremove rfl
  have hslots := hl.slots_eq hver
  have hrunC : (Call.create roomy INODE_ROOTDIR pszName uMode).run s (format s) =
      { format s with toNameVolume := v1.put (v1.setDir INODE_ROOTDIR dR) } := by
    rw [Call.run, Call.exec, Op.bind_ok (coreRetry_ok rfl hrun rfl)]
    rfl
  refine ⟨_, _, hrunC, rfl, ?_, ?_, ?_⟩
  · rw [Space.shape_entry hrootd rfl, hslots]
    rfl
  · intro k e he
    rw [Space.shape_entry hrootd rfl, hslots] at he
    have hk := Slots.lt_of_at he
    obtain rfl : k = 0 := by simpa using hk
    rw [← Option.some.inj he, hdei]
  · have hrunU : (Call.unlink roomy INODE_ROOTDIR pszName true).exec s
        { format s with toNameVolume := v1.put (v1.setDir INODE_ROOTDIR dR) } = (.ok (), _) :=
      coreRetry_ok rfl hrun' rfl
    rw [Call.run, hrunU]
    refine ⟨?_, rfl, rfl, rfl⟩
    refine (congrFun (modify_node ((Space.setDir_ne (by decide)).trans hnew1) _) _).trans ?_
    exact Function.update_self ..

/-! ## A volume in use -/

/-- A directory and two files are created in the root directory, and a file in the directory; this
is committed, and the first of the two files is unlinked while it is open. -/
def inUseCalls : List Call :=
  [.create roomy INODE_ROOTDIR [97] .dir, .create roomy INODE_ROOTDIR [98] .reg,
    .create roomy INODE_ROOTDIR [99] .reg, .create roomy INODE_FIRST_FREE [100] .reg, .transact,
    .unlink roomy INODE_ROOTDIR [98] true]

/-- The volume after these calls. -/
def inUse : NameDisk :=
  inUseCalls.foldl (fun d call => call.run (emptyGeometry 5 64 8) d)
    (.format (emptyGeometry 5 64 8))

omit [RedConf] in
lemma inUse_reachable : letI := smallConf; Reachable (emptyGeometry 5 64 8) inUse := by
  let _ := smallConf
  have hroot (d : NameDisk) : d.toSpace.HasParent INODE_ROOTDIR := .inl rfl
  exact .call (.call (.call (.call (.call (.call .format (hroot _)) (hroot _)) (hroot _))
    (.inr ⟨_, rfl, by decide⟩)) trivial) (hroot _)

end NameDisk

end RelianceEdge
