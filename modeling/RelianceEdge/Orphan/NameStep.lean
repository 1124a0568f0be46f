import RelianceEdge.Orphan.NameMap
import RelianceEdge.Space.Index

set_option relaxedAutoImplicit false
set_option autoImplicit false
set_option linter.unusedSectionVars false

/-!
# Names through calls

A volume holds two maps of names, the working one and the committed one. Every call is an operation
on these two: it changes the working map or leaves it alone, and a transaction point copies the
working map to the committed one. A rollback, a mount and a power loss copy it back.

## Main definitions

* `NameMap.After` — what a call does to the working names when it succeeds.
* `Call.Names` — what a call does to both maps.
* `NameDisk.Clean` — a volume that is not branched has its committed names.

## Main results

* `NameDisk.Reachable.clean` — every state is clean.
* `names_transactional` — every call, of any run, does to the names what `Call.Names` says.
-/

namespace RelianceEdge

variable [RedConf]

open RedConf

/-! ## The maps -/

/-- A name takes the place of another, unless both are names of one inode. -/
def NameMap.move (M : NameMap) (src dst : ℕ × List UInt8) : NameMap :=
  if M dst = M src then M else Function.update (Function.update M src none) dst (M src)

/-- **What a call does to the names when it succeeds.** -/
def NameMap.After (M M' : NameMap) : Call → Prop
  | .create _ ulPInode pszName _ => ∃ i, M (ulPInode, pszName.name) = none ∧
      (∀ x, M x ≠ some i) ∧ M' = Function.update M (ulPInode, pszName.name) (some i)
  | .link _ ulPInode pszName ulInode => M (ulPInode, pszName.name) = none ∧
      M' = Function.update M (ulPInode, pszName.name) (some ulInode)
  | .unlink _ ulPInode pszName _ => (∃ i, M (ulPInode, pszName.name) = some i) ∧
      M' = Function.update M (ulPInode, pszName.name) none
  | .rename _ ulSrcPInode pszSrcName ulDstPInode pszDstName _ =>
    (∃ i, M (ulSrcPInode, pszSrcName.name) = some i) ∧
      M' = M.move (ulSrcPInode, pszSrcName.name) (ulDstPInode, pszDstName.name)
  | _ => M' = M

/-- A call that changes names, with a second attempt and perhaps a transaction point after it: it
does all or nothing, and what is committed is the names before or after it. -/
structure Call.Attempted (call : Call) (c : Circumstances) (ret : Except RedError Unit)
    (M C M' C' : NameMap) : Prop where
  done : ret = .ok () → M.After M' call
  failed : ret ≠ .ok () → M' = M
  committed : C' = C ∨ C' = M ∨ C' = M'
  transact : ret = .ok () → c.fTransact = true → C' = M'
  quiet : c.fTransact = false → ¬ (c.fVolfull = true ∧ c.fAlmostFree = true) → C' = C

/-- **What a call does to the working and the committed names.** -/
def Call.Names (fReadOnly : Bool) (ret : Except RedError Unit) (M C M' C' : NameMap) :
    Call → Prop
  | .create c ulPInode pszName uMode =>
    (Call.create c ulPInode pszName uMode).Attempted c ret M C M' C'
  | .link c ulPInode pszName ulInode =>
    (Call.link c ulPInode pszName ulInode).Attempted c ret M C M' C'
  | .unlink c ulPInode pszName fOrphan =>
    (Call.unlink c ulPInode pszName fOrphan).Attempted c ret M C M' C'
  | .rename c ulSrcPInode pszSrcName ulDstPInode pszDstName fOrphan =>
    (Call.rename c ulSrcPInode pszSrcName ulDstPInode pszDstName fOrphan).Attempted c ret M C M' C'
  | .transact => (ret = .ok () ↔ fReadOnly = false) ∧ M' = M ∧
      C' = if fReadOnly then C else M
  | .rollback => (ret = .ok () ↔ fReadOnly = false) ∧ C' = C ∧
      M' = if fReadOnly then M else C
  | .remount fTransact _ => ret = .ok () ∧ M' = C' ∧
      C' = if fReadOnly = false ∧ fTransact = true then M else C
  | .powerLoss _ => ret = .ok () ∧ M' = C ∧ C' = C
  | _ => M' = M ∧ C' = C

/-! ## The branched flag -/

/-- An operation that changes an inode branches the volume. -/
def Branches (v v' : NameVolume) : Prop :=
  v'.fBranched = true ∨ v'.fBranched = v.fBranched ∧ v'.node = v.node

instance : IsPreorder NameVolume Branches where
  refl _ := .inr ⟨rfl, rfl⟩
  trans v v1 v2 h h' := by
    rcases h' with h' | ⟨hb', hn'⟩
    · exact .inl h'
    rcases h with h | ⟨hb, hn⟩
    · exact .inl (hb'.trans h)
    · exact .inr ⟨hb'.trans hb, hn'.trans hn⟩

section Branches

open NameVolume

variable (s : FS) {α : Type}

lemma branches_criticalError : NameVolume.criticalError.Respects Branches :=
  .modify fun _ => .inr ⟨rfl, rfl⟩

lemma branches_critical (e : RedError) :
    (NameVolume.criticalError >>= fun _ => .fail e : NameOp α).Respects Branches :=
  branches_criticalError.bind fun _ => .fail e

lemma branches_redInodeMount (i : ℕ) : (NameVolume.redInodeMount i).Respects Branches :=
  .get_bind fun _ => .ofExcept _

lemma branches_redInodeMountDir (i : ℕ) : (redInodeMountDir i).Respects Branches :=
  .get_bind fun _ => .ofExcept _

lemma branches_inodeFindFree : (NameVolume.inodeFindFree s).Respects Branches := by
  refine .get_bind fun v => ?_
  refine .ite (.fail _) ?_
  dsimp only
  split
  · exact .pure _
  · exact branches_critical _

lemma branches_redInodeFree (i : ℕ) : (NameVolume.redInodeFree s i).Respects Branches := by
  refine .get_bind fun v => ?_
  split
  · exact branches_critical _
  · refine .bind (.modify fun _ => .inl rfl) fun _ => ?_
    split_ifs
    · exact branches_critical _
    · exact .modify fun _ => .inr ⟨rfl, rfl⟩

lemma branches_redInodeFreeOrphan (i : ℕ) (ino : FileNode) :
    (NameVolume.redInodeFreeOrphan s i ino).Respects Branches :=
  .ite (branches_critical _) (branches_redInodeFree s i)

lemma branches_redInodeLinkDec (i : ℕ) (fOrphan : Bool) :
    (NameVolume.redInodeLinkDec s i fOrphan).Respects Branches := by
  refine (branches_redInodeMount i).bind fun ino => ?_
  refine .ite (.modify fun _ => .inl rfl) (.ite (.modify fun _ => .inl rfl) ?_)
  exact branches_redInodeFree s i

lemma branches_freeFirstOrphan : (NameVolume.freeFirstOrphan s).Respects Branches := by
  refine .get_bind fun v => (branches_redInodeMount _).bind fun ino => ?_
  exact (branches_redInodeFreeOrphan s _ ino).bind fun _ => .modify fun _ => .inr ⟨rfl, rfl⟩

lemma branches_freeOrphansLoop (n : ℕ) :
    (NameVolume.freeOrphansLoop s n).Respects Branches := by
  induction n with
  | zero => exact .pure ()
  | succ n ih => exact (branches_freeFirstOrphan s).bind fun _ => ih

lemma branches_redVolFreeOrphans (n : ℕ) :
    (NameVolume.redVolFreeOrphans s n).Respects Branches := by
  refine .ite (.fail _) ((branches_freeOrphansLoop s n).attempt.bind fun ret => ?_)
  cases ret with
  | ok _ => exact .pure ()
  | error e =>
    refine .get_bind fun v => .ite (.fail e) (.ite ?_ (.pure ()))
    exact branches_critical _

lemma branches_redCoreVolFreeOrphans (n : ℕ) :
    (NameVolume.redCoreVolFreeOrphans s n).Respects Branches := by
  refine .get_bind fun v => .ite (.fail _) (.ite (.fail _) (.ite (.fail _) ?_))
  exact (branches_redVolFreeOrphans s n).bind fun _ => .get_bind fun _ => .when (.fail _)

lemma branches_redInodeCreate (p : ℕ) (uMode : Mode) :
    (NameVolume.redInodeCreate s p uMode).Respects Branches := by
  refine .ite (.fail _) (.bind ?_ fun i => .bind (.modify fun _ => .inl rfl) fun _ => .pure i)
  refine (branches_inodeFindFree s).attempt.bind fun ret => ?_
  cases ret with
  | ok i => exact .pure i
  | error e =>
    refine .get_bind fun v => .ite ?_ (.fail e)
    exact (branches_redVolFreeOrphans s 1).bind fun _ => .pure _

lemma branches_redDirEntryCreate (room : DirRoom) (p : ℕ) (pszName : CString) (i : ℕ) :
    (NameVolume.redDirEntryCreate s room p pszName i).Respects Branches :=
  (branches_redInodeMountDir p).bind fun _ => .bind (.ofExcept _) fun _ =>
    .modify fun _ => .inl rfl

lemma branches_coreCreate (room : DirRoom) (p : ℕ) (pszName : CString) (uMode : Mode) :
    (NameVolume.coreCreate s room p pszName uMode).Respects Branches := by
  refine (branches_redInodeMountDir p).bind fun _ =>
    (branches_redInodeCreate s p uMode).bind fun i =>
    (branches_redDirEntryCreate s room p pszName i).attempt.bind fun ret => ?_
  cases ret with
  | ok _ => exact .pure i
  | error e =>
    refine (branches_redInodeFree s i).attempt.bind fun ret2 => ?_
    cases ret2 with
    | ok _ => exact .fail e
    | error _ => exact branches_critical e

lemma branches_coreLink (room : DirRoom) (p : ℕ) (pszName : CString) (i : ℕ) :
    (NameVolume.coreLink s room p pszName i).Respects Branches := by
  refine (branches_redInodeMountDir p).bind fun _ => .bind (.modify fun _ => .inl rfl) fun _ =>
    (branches_redInodeMount i).bind fun ino => .ite (.fail _) (.ite (.fail _) ?_)
  exact (branches_redDirEntryCreate s room p pszName i).bind fun _ => .modify fun _ => .inl rfl

lemma branches_coreUnlink (room : DirRoom) (p : ℕ) (pszName : CString) (fOrphan : Bool) :
    (NameVolume.coreUnlink s room p pszName fOrphan).Respects Branches := by
  refine .ite (.fail _) ((branches_redInodeMountDir p).bind fun _ =>
    .bind (.ofExcept _) fun found => ?_)
  rcases found with ⟨_ | de, k⟩
  · exact .fail _
  · refine .bind (.modify fun _ => .inl rfl) fun _ =>
      (branches_redInodeMount _).bind fun ino => .ite (.fail _) ?_
    exact .bind (.ofExcept _) fun _ => .bind (.modify fun _ => .inl rfl) fun _ =>
      branches_redInodeLinkDec s _ fOrphan

lemma branches_revertEntry (q k : ℕ) (de : Dirent) (dst : Option Dirent) :
    (NameVolume.revertEntry s q k de dst).Respects Branches := by
  refine (branches_redInodeMountDir q).bind fun r => ?_
  obtain ⟨ino, dDst⟩ := r
  dsimp only
  split
  · exact .modify fun _ => .inl rfl
  · exact branches_critical _

lemma branches_dirEntryMove (room : DirRoom) (p j q k : ℕ) (de : Dirent) (dst : Option Dirent) :
    (NameVolume.dirEntryMove s room p j q k de dst).Respects Branches := by
  refine (branches_redInodeMountDir q).bind fun _ => .bind (.ofExcept _) fun _ =>
    .bind (.modify fun _ => .inl rfl) fun _ => (branches_redInodeMountDir p).bind fun r => ?_
  obtain ⟨ino, dSrc⟩ := r
  dsimp only
  split
  · exact .bind (.modify fun _ => .inl rfl) fun _ => .modify fun _ => .inl rfl
  · exact .bind (.when (branches_revertEntry s q k de dst)) fun _ => .fail _

lemma branches_dirEntryRename (room : DirRoom) (p j i q k : ℕ) (dst : Option Dirent)
    (pszName : CString) :
    (NameVolume.dirEntryRename s room p j i q k dst pszName).Respects Branches :=
  .get_bind fun _ => (branches_redInodeMount i).bind fun _ => .bind (.ofExcept _) fun _ =>
    .bind (.ofExcept _) fun _ => .bind (.ofExcept _) fun de =>
    branches_dirEntryMove s room p j q k de dst

lemma branches_redDirEntryRename (room : DirRoom) (p : ℕ) (pszSrcName : CString) (q : ℕ)
    (pszDstName : CString) :
    (NameVolume.redDirEntryRename s room p pszSrcName q pszDstName).Respects Branches := by
  refine (branches_redInodeMountDir p).bind fun _ => (branches_redInodeMountDir q).bind fun _ =>
    .ite (.fail _) (.bind (.ofExcept _) fun src => ?_)
  rcases src with ⟨_ | e, j⟩
  · exact .fail _
  refine .bind (.ofExcept _) fun dst => ?_
  rcases dst with ⟨_ | d, k⟩
  · exact .ite (.fail _) ((branches_dirEntryRename s room p j _ q k none _).bind fun _ => .pure _)
  · refine .ite (.pure _) ?_
    exact (branches_dirEntryRename s room p j _ q k (some d) _).bind fun _ => .pure _

lemma branches_coreRename (room : DirRoom) (p : ℕ) (pszSrcName : CString) (q : ℕ)
    (pszDstName : CString) (fOrphan : Bool) :
    (NameVolume.coreRename s room p pszSrcName q pszDstName fOrphan).Respects Branches := by
  refine .ite (.fail _) ((branches_redInodeMountDir p).bind fun _ =>
    .bind (.modify fun _ => .inl rfl) fun _ => (branches_redInodeMountDir q).bind fun _ =>
    (branches_redDirEntryRename s room p pszSrcName q pszDstName).bind fun r => ?_)
  cases r with
  | none => exact .pure ()
  | some i => exact branches_redInodeLinkDec s i fOrphan

lemma branches_coreFreeOrphan (i : ℕ) : (NameVolume.coreFreeOrphan s i).Respects Branches :=
  .get_bind fun _ => (branches_redInodeMount _).bind fun _ => .bind (.ofExcept _) fun _ =>
    (branches_redInodeMount i).bind fun ino => (branches_redInodeFreeOrphan s i ino).bind fun _ =>
    .modify fun _ => .inl rfl

lemma branches_coreFileData (i : ℕ) (data : List UInt8) :
    (NameVolume.coreFileData i data).Respects Branches := by
  refine (branches_redInodeMount i).bind fun ino => ?_
  cases ino.data with
  | dir _ => exact .fail _
  | reg _ => exact .modify fun _ => .inl rfl
  | lnk _ => exact .modify fun _ => .inl rfl

end Branches

/-! ## Clean volumes -/

namespace NameDisk

variable (s : FS)

/-- **A volume that is not branched has its committed names.** -/
def Clean (d : NameDisk) : Prop :=
  d.fBranched = false → (d.shape s).entry = (d.committed.shape s).entry

/-- What keeps a volume clean. -/
def StaysClean (d d' : NameDisk) : Prop := Clean s d → Clean s d'

/-- What commits nothing. -/
def SameCommitted (d d' : NameDisk) : Prop := d'.committed = d.committed

instance : IsPreorder NameDisk (StaysClean s) where
  refl _ h := h
  trans _ _ _ h h' hc := h' (h hc)

instance : IsPreorder NameDisk SameCommitted where
  refl _ := rfl
  trans _ _ _ h h' := Eq.trans h' h

variable {s} {α : Type}

lemma clean_onWorking {x : NameOp α} (h : x.Respects Branches) :
    (onWorking x).Respects (StaysClean s) := by
  refine h.zoom fun d v hv hd hb => ?_
  rcases hv with hv | ⟨hbranched, hnode⟩
  · exact absurd (hv.symm.trans hb) (by decide)
  · rw [← hd (hbranched.symm.trans hb)]
    change (v.shape s).entry = (d.shape s).entry
    have hspace : v.toSpace = d.toSpace := congrArg Space.mk hnode
    rw [hspace]

lemma committed_onWorking (x : NameOp α) : (onWorking x).Respects SameCommitted := fun _ => rfl

lemma clean_redVolTransact : redVolTransact.Respects (StaysClean s) := by
  refine .modify fun d hd => ?_
  split_ifs with hb
  · exact fun _ => rfl
  · exact hd

lemma clean_whenWriteable {x : DiskOp α} (h : x.Respects (StaysClean s)) :
    (whenWriteable x).Respects (StaysClean s) :=
  .get_bind fun _ => .ite (.fail _) h

lemma clean_coreFull (c : Circumstances) : (coreFull s c).Respects (StaysClean s) := by
  refine .get_bind fun d => .ite ?_ (.fail _)
  refine .bind (.when (clean_onWorking (branches_redVolFreeOrphans s _))) fun _ => ?_
  exact .bind (.when clean_redVolTransact) fun _ => .when (.fail _)

lemma clean_coreRetry (c : Circumstances) {op : DirRoom → NameOp α}
    (h : ∀ room, (op room).Respects Branches) : (coreRetry s c op).Respects (StaysClean s) := by
  refine clean_whenWriteable ((clean_onWorking (h _)).attempt.bind fun ret => .bind ?_ fun a =>
    .bind (.when clean_redVolTransact) fun _ => .pure a)
  cases ret with
  | ok a => exact .pure a
  | error e => exact .ite (.fail e) ((clean_coreFull c).bind fun _ => clean_onWorking (h _))

lemma committed_coreFull {c : Circumstances}
    (hc : ¬ (c.fVolfull = true ∧ c.fAlmostFree = true)) :
    (coreFull s c).Respects SameCommitted := by
  refine .get_bind fun d => ?_
  split_ifs with hfull
  · refine .bind (.when (committed_onWorking _)) fun _ => .bind (fun d => ?_) fun _ =>
      .when (.fail _)
    rw [Op.when_neg fun h => hc ⟨hfull, h⟩]
    rfl
  · exact .fail _

/-- Without a transaction point a call commits nothing. -/
lemma committed_coreRetry {c : Circumstances} (op : DirRoom → NameOp α)
    (ht : c.fTransact = false) (hc : ¬ (c.fVolfull = true ∧ c.fAlmostFree = true)) :
    (coreRetry s c op).Respects SameCommitted := by
  refine .get_bind fun d => .ite (.fail _) ((committed_onWorking _).attempt.bind fun ret =>
    .bind ?_ fun a => .bind (fun d => ?_) fun _ => .pure a)
  · cases ret with
    | ok a => exact .pure a
    | error e =>
      exact .ite (.fail e) ((committed_coreFull hc).bind fun _ => committed_onWorking _)
  · rw [Op.when_neg (by simp [ht])]
    rfl

/-- After a transaction point the volume is not branched. -/
lemma coreRetry_transacted {c : Circumstances} {op : DirRoom → NameOp α} {d d' : NameDisk} {a : α}
    (ht : c.fTransact = true) (h : coreRetry s c op d = (.ok a, d')) : d'.fBranched = false := by
  rw [coreRetry, whenWriteable, Op.get_bind_run] at h
  split_ifs at h with hro
  · cases h
  rw [Op.attempt_bind_run] at h
  obtain ⟨b, d1, -, h⟩ := Op.bind_eq_ok h
  rw [Op.when_pos ht] at h
  cases h
  change (if d1.fBranched = true then _ else _ : NameDisk).fBranched = false
  split_ifs with hb
  · rfl
  · simpa using hb

end NameDisk

open OrphanSpace NameVolume NameDisk

variable {s : FS} {d : NameDisk} {l m : List ℕ}

/-- What a call leaves that neither mounts the volume nor goes back is clean. -/
lemma Call.clean (call : Call) (honward : call.Onward) :
    (call.exec s).Respects (StaysClean s) := by
  cases call with
  | create c p pszName uMode =>
    exact (clean_coreRetry c fun room => branches_coreCreate s room p pszName uMode).bind
      fun _ => .pure ()
  | link c p pszName i => exact clean_coreRetry c fun room => branches_coreLink s room p pszName i
  | unlink c p pszName fOrphan =>
    exact clean_coreRetry c fun room => branches_coreUnlink s room p pszName fOrphan
  | rename c p pszSrcName q pszDstName fOrphan =>
    exact clean_coreRetry c fun room =>
      branches_coreRename s room p pszSrcName q pszDstName fOrphan
  | freeOrphan i =>
    exact .when (clean_whenWriteable (clean_onWorking (branches_coreFreeOrphan s i)))
  | freeOrphans n => exact .when (clean_onWorking (branches_redCoreVolFreeOrphans s n))
  | fileData i data => exact clean_whenWriteable (clean_onWorking (branches_coreFileData i data))
  | transact => exact clean_whenWriteable clean_redVolTransact
  | rollback => exact honward.elim
  | remount _ _ => exact honward.elim
  | powerLoss _ => exact honward.elim

/-- A rollback of a writeable volume leaves the committed names. -/
lemma NameDisk.rollback_clean (h : Clean s d) (hro : d.fReadOnly = false) :
    ((Call.rollback.run s d).shape s).entry =
      ((Call.rollback.run s d).committed.shape s).entry := by
  obtain ⟨-, hc, hspace⟩ := Call.run_rollback (s := s) d
  rw [hc, hspace]
  by_cases hb : d.fBranched = true
  · rw [if_pos ⟨hro, hb⟩]
  · rw [if_neg fun hc => hb hc.2]
    exact h (by simpa using hb)

/-- **Every state is clean.** -/
theorem NameDisk.Reachable.clean (hver : redDiskLayoutIsSupported s.core.ulVersion)
    (hpos : 0 < s.core.ulInodeCount) (hcount : s.core.ulInodeCount ≤ UINT32_MAX)
    (h : NameDisk.Reachable s d) : Clean s d := by
  induction h with
  | format => exact fun _ => rfl
  | @call d call h hl ih =>
    obtain ⟨⟨l, m, hinv⟩, hcommitted⟩ := h.inv hver hpos hcount
    cases call with
    | rollback =>
      by_cases hro : d.fReadOnly = true
      · rw [Call.run, Call.exec, whenWriteable, Op.get_bind_run, if_pos hro]
        exact ih
      · exact fun _ => rollback_clean ih (by simpa using hro)
    | remount fTransact ulFlags =>
      exact fun _ => (Call.run_remount hcount hinv hcommitted fTransact ulFlags).entry
    | powerLoss ulFlags => exact fun _ => (Call.run_powerLoss hcount hcommitted ulFlags).entry
    | create => exact Call.clean (.create ..) trivial d ih
    | link => exact Call.clean (.link ..) trivial d ih
    | unlink => exact Call.clean (.unlink ..) trivial d ih
    | rename => exact Call.clean (.rename ..) trivial d ih
    | freeOrphan => exact Call.clean (.freeOrphan _) trivial d ih
    | freeOrphans => exact Call.clean (.freeOrphans _) trivial d ih
    | fileData => exact Call.clean (.fileData ..) trivial d ih
    | transact => exact Call.clean .transact trivial d ih

/-! ## Calls -/

/-- Freeing orphans leaves the names alone. -/
lemma NameVolume.Freed.names {v v' : NameVolume} {m' : List ℕ} (hf : Freed s v l m v' m')
    (h : Inv s v.toOrphanSpace l m) : v'.names s = v.names s :=
  Space.names_congr h.space.shape hf.inv.space.shape hf.entry

/-- No name leads to a number that is not in use. -/
lemma OrphanSpace.Inv.names_ne {v : OrphanSpace} (h : Inv s v l m) {i : ℕ} (hi : v.node i = none)
    (x : ℕ × List UInt8) : v.names s x ≠ some i := by
  intro hx
  obtain ⟨y, e, he, -, rfl⟩ := (Space.names_maps h.space.shape x i).1 hx
  obtain ⟨ino, hino, -⟩ := h.named he
  rw [hi] at hino
  cases hino

/-- What a call does that is tried twice, from what one attempt does. -/
lemma Call.Attempted.of_ends {α : Type} {c : Circumstances} {op : DirRoom → NameOp α} {call : Call}
    (h : Inv s d.toOrphanSpace l m) {r : Except RedError α} {d' : NameDisk}
    (hrun : NameDisk.coreRetry s c op d = (r, d'))
    (hclean : d'.fBranched = false → d'.committed.names s = d'.names s) (F : α → NameMap)
    (hop : ∀ (v : NameVolume) m1, Freed s d.toNameVolume l m v m1 → ∀ room,
      (op room).Ends v (fun a v' => v'.fReadOnly = v.fReadOnly ∧
        (∃ l' m', Inv s v'.toOrphanSpace l' m') ∧ v'.names s = F a ∧ (v.names s).After (F a) call)
        fun v' => Undone s v l m1 v') :
    call.Attempted c (r.map fun _ => ()) (d.names s) (d.committed.names s) (d'.names s)
      (d'.committed.names s) := by
  have hends := coreRetry_ends (W := fun a w => (∃ l' m', Inv s w l' m') ∧ w.names s = F a ∧
      (d.names s).After (F a) call) c h fun v m1 hf room => (hop v m1 hf room).mono
    (fun _ v' hv' => ⟨hv'.1, hv'.2.1, hv'.2.2.1, hf.names h ▸ hv'.2.2.2⟩) fun _ hv' => hv'
  have hleaves {w : OrphanSpace} (hw : Leaves s d.toNameVolume l m w) :
      w.names s = d.names s := by
    obtain ⟨v', ⟨m', hf⟩, rfl⟩ := hw
    exact hf.names h
  have hquiet (ht : c.fTransact = false) (hc : ¬ (c.fVolfull = true ∧ c.fAlmostFree = true)) :
      d'.committed.names s = d.committed.names s := by
    have hsame := committed_coreRetry (s := s) op ht hc d
    rw [hrun] at hsame
    rw [show d'.committed = d.committed from hsame]
  rcases hends with ⟨a, d1, hrun1, hro, ⟨⟨l', m', hinv⟩, hnames, hafter⟩, hcommits⟩ |
    ⟨e, d1, hrun1, hfail⟩
  · rw [hrun] at hrun1
    cases hrun1
    have hcommitted : d'.committed.names s = d.committed.names s ∨
        d'.committed.names s = d.names s ∨ d'.committed.names s = d'.names s := by
      rcases hcommits with hsame | hleft | ⟨-, hw, -⟩
      · exact .inl (by rw [hsame])
      · exact .inr (.inl (hleaves hleft))
      · exact .inr (.inr (hw.trans hnames.symm))
    refine ⟨fun _ => hnames ▸ hafter, fun hne => absurd rfl hne, hcommitted, fun _ ht => ?_, hquiet⟩
    -- after a transaction point the volume is not branched, so it has its committed names
    exact hclean (coreRetry_transacted ht hrun)
  · rw [hrun] at hrun1
    cases hrun1
    obtain ⟨⟨m', hf⟩, hcommits⟩ := hfail
    refine ⟨nofun, fun _ => hf.names h, ?_, nofun, hquiet⟩
    rcases hcommits with hsame | hleft
    · exact .inl (by rw [hsame])
    · exact .inr (.inl (hleaves hleft))

/-- A volume that is not branched has its committed names. -/
lemma NameDisk.Reachable.committed_names (hver : redDiskLayoutIsSupported s.core.ulVersion)
    (hpos : 0 < s.core.ulInodeCount) (hcount : s.core.ulInodeCount ≤ UINT32_MAX)
    (h : NameDisk.Reachable s d) (hb : d.fBranched = false) : d.committed.names s = d.names s := by
  obtain ⟨⟨l, m, hinv⟩, ⟨l', m', hinv'⟩⟩ := h.inv hver hpos hcount
  exact Space.names_congr hinv.space.shape hinv'.space.shape (h.clean hver hpos hcount hb).symm

/-- A change of the data of a file leaves the entries alone. -/
lemma coreFileData_shape (v : NameVolume) (i : ℕ) (data : List UInt8) :
    ((coreFileData i data v).2.shape s) = v.shape s := by
  rw [coreFileData]
  rcases hi : v.node i with _ | ino
  · rw [Op.bind_error (redInodeMount_error hi)]
  rw [Op.bind_ok (redInodeMount_ok hi)]
  have hwrite (data' : FileData) (hdir : data'.fDirectory = ino.data.fDirectory)
      (hslots : data'.slots s = ino.data.slots s) :
      (v.modify i fun ino => { ino with data := data' }).shape s = v.shape s := by
    rw [show v.modify i (fun ino => { ino with data := data' }) =
      v.set i (some { ino with data := data' }) from congrArg Space.mk (modify_node hi _)]
    exact Space.shape_write hi data' hdir hslots
  cases hd : ino.data with
  | dir _ => rfl
  | reg _ => exact hwrite _ (by rw [hd]; rfl) (by rw [hd]; rfl)
  | lnk _ => exact hwrite _ (by rw [hd]; rfl) (by rw [hd]; rfl)

/-- Freeing an orphan leaves the entries alone. -/
lemma coreFreeOrphan_entry {v : NameVolume} (h : Inv s v.toOrphanSpace l m) (i : ℕ) :
    ((coreFreeOrphan s i v).2.shape s).entry = (v.shape s).entry := by
  by_cases hi : i ∈ l
  · obtain ⟨v', hrun, -, -, -, hshape⟩ := coreFreeOrphan_run h hi
    rw [hrun, hshape]
  · rw [coreFreeOrphan_error h hi]

/-- Freeing defunct orphans leaves the entries alone. -/
lemma redCoreVolFreeOrphans_entry {v : NameVolume} (h : Inv s v.toOrphanSpace l m) (n : ℕ) :
    ((redCoreVolFreeOrphans s n v).2.shape s).entry = (v.shape s).entry := by
  rw [redCoreVolFreeOrphans, Op.get_bind_run]
  split_ifs with h0 hro hdef
  · rfl
  · rfl
  · rfl
  obtain ⟨v', hrun, hfreed⟩ := redVolFreeOrphans_run h h0
  rw [Op.bind_ok hrun, Op.get_bind_run]
  by_cases hend : v'.ulDefunctOrphanHead = INODE_INVALID
  · rw [Op.when_pos hend]
    exact hfreed.entry
  · rw [Op.when_neg hend]
    exact hfreed.entry

/-- An operation on the working state that leaves the entries alone. -/
lemma names_onWorking {x : NameOp Unit} {ret : Except RedError Unit} {d' : NameDisk}
    (h : Inv s d.toOrphanSpace l m) (h' : ∃ l m, Inv s d'.toOrphanSpace l m)
    (hrun : whenWriteable (onWorking x) d = (ret, d') ∨ onWorking x d = (ret, d'))
    (hx : ((x d.toNameVolume).2.shape s).entry = (d.shape s).entry) :
    d'.names s = d.names s ∧ d'.committed.names s = d.committed.names s := by
  obtain ⟨l', m', h'⟩ := h'
  have hsame (hd : d' = d ∨ d' = { d with toNameVolume := (x d.toNameVolume).2 }) :
      d'.names s = d.names s ∧ d'.committed.names s = d.committed.names s := by
    rcases hd with rfl | rfl
    · exact ⟨rfl, rfl⟩
    · exact ⟨Space.names_congr h.space.shape h'.space.shape hx, rfl⟩
  rcases hrun with hrun | hrun
  · rw [whenWriteable, Op.get_bind_run] at hrun
    split_ifs at hrun with hro
    · cases hrun
      exact hsame (.inl rfl)
    · rw [onWorking, Op.zoom_run] at hrun
      cases hrun
      exact hsame (.inr rfl)
  · rw [onWorking, Op.zoom_run] at hrun
    cases hrun
    exact hsame (.inr rfl)

/-- A transaction point leaves the working names alone. -/
lemma transacted_working (d : NameDisk) : (NameDisk.redVolTransact d).2.names s = d.names s := by
  change Space.names s (if d.fBranched = true then _ else _ : NameDisk).toSpace = _
  split_ifs <;> rfl

/-- **A transaction point** commits the working names. -/
lemma transacted_names (h : d.fBranched = false → d.committed.names s = d.names s) :
    (NameDisk.redVolTransact d).2.committed.names s = d.names s := by
  change Space.names s (if d.fBranched = true then _ else _ : NameDisk).committed.toSpace = _
  split_ifs with hb
  · rfl
  · exact h (by simpa using hb)

lemma map_unit (r : Except RedError Unit) : r.map (fun _ => ()) = r := by
  cases r <;> rfl

/-- **Every call is an operation on the working and the committed names.** -/
theorem names_transactional (hver : redDiskLayoutIsSupported s.core.ulVersion)
    (hpos : 0 < s.core.ulInodeCount) (hcount : s.core.ulInodeCount ≤ UINT32_MAX)
    (h : NameDisk.Reachable s d) {call : Call} (hlegal : call.Legal s d)
    {ret : Except RedError Unit}
    {d' : NameDisk} (hrun : call.exec s d = (ret, d')) :
    call.Names d.fReadOnly ret (d.names s) (d.committed.names s) (d'.names s)
      (d'.committed.names s) := by
  obtain ⟨⟨l, m, hinv⟩, ⟨lc, mc, hinvC⟩⟩ := h.inv hver hpos hcount
  have hd' : call.run s d = d' := congrArg Prod.snd hrun
  have h' : NameDisk.Reachable s d' := hd' ▸ h.call hlegal
  have hinv' := (h'.inv hver hpos hcount).1
  have hclean0 := h.committed_names hver hpos hcount
  have hclean := h'.committed_names hver hpos hcount
  cases call with
  | create c p pszName uMode =>
    rcases hr : NameDisk.coreRetry s c
      (fun room => NameVolume.coreCreate s room p pszName uMode) d with ⟨r, d1⟩
    have hret : ret = r.map (fun _ => ()) ∧ d' = d1 := by
      rw [Call.exec] at hrun
      rcases r with e | i
      · rw [Op.bind_error hr] at hrun
        cases hrun
        exact ⟨rfl, rfl⟩
      · rw [Op.bind_ok hr] at hrun
        cases hrun
        exact ⟨rfl, rfl⟩
    obtain ⟨rfl, rfl⟩ := hret
    refine .of_ends hinv hr hclean
      (fun i => Function.update (d.names s) (p, pszName.name) (some i)) fun v m1 hf room => ?_
    refine (coreCreate_ends hver hf.inv (hf.hasParent hinv hlegal) uMode).mono
      (fun i v' hv' => ?_) fun _ hv' => hv'
    obtain ⟨hro, v1, m2, hf1, hinv1, -, hfree, hcreate⟩ := hv'
    obtain ⟨hnone, hnames⟩ :=
      Space.coreCreate_names hver hf1.inv.space hinv1.space hfree hcreate
    have hsame : v1.names s = d.names s := (hf1.names hf.inv).trans (hf.names hinv)
    have hsame' : v.names s = d.names s := hf.names hinv
    rw [hsame] at hnone hnames
    refine ⟨hro, ⟨l, m2, hinv1⟩, hnames, i, ?_, fun x => ?_, ?_⟩
    · rw [hsame', hnone]
    · rw [hsame', ← hsame]
      exact hf1.inv.names_ne hfree x
    · rw [hsame']
  | link c p pszName i =>
    rw [← map_unit ret]
    refine .of_ends hinv hrun hclean
      (fun _ => Function.update (d.names s) (p, pszName.name) (some i)) fun v m1 hf room => ?_
    refine (coreLink_ends hver hf.inv (hf.hasParent hinv hlegal.1)
      (hf.not_isOrphan hinv (hlegal.2.not_isOrphan hinv))).mono (fun _ v' hv' => ?_)
      fun _ hv' => hv'
    obtain ⟨hro, hinv', -, hlink⟩ := hv'
    obtain ⟨hnone, hnames⟩ := Space.coreLink_names hver hf.inv.space hinv'.space hlink
    have hsame : v.names s = d.names s := hf.names hinv
    rw [hsame] at hnone hnames ⊢
    exact ⟨hro, ⟨l, m1, hinv'⟩, hnames, hnone, rfl⟩
  | unlink c p pszName fOrphan =>
    rw [← map_unit ret]
    refine .of_ends hinv hrun hclean
      (fun _ => Function.update (d.names s) (p, pszName.name) none) fun v m1 hf room => ?_
    refine (coreUnlink_ends hver hf.inv fOrphan).mono (fun _ v' hv' => ?_) fun _ hv' => hv'
    obtain ⟨hro, -, hunlink, l', hinv', -⟩ := hv'
    obtain ⟨hsome, hnames⟩ := Space.coreUnlink_names hver hf.inv.space hinv'.space hunlink
    have hsame : v.names s = d.names s := hf.names hinv
    rw [hsame] at hsome hnames ⊢
    exact ⟨hro, ⟨l', m1, hinv'⟩, hnames, hsome, rfl⟩
  | rename c p pszSrcName q pszDstName fOrphan =>
    rw [← map_unit ret]
    refine .of_ends hinv hrun hclean (fun _ => NameMap.move (d.names s) (p, pszSrcName.name)
      (q, pszDstName.name)) fun v m1 hf room => ?_
    refine (coreRename_ends hver hf.inv (hf.hasParent hinv hlegal.2) fOrphan).mono
      (fun _ v' hv' => ?_) fun _ hv' => hv'
    obtain ⟨hro, -, hrename, l', hinv', -⟩ := hv'
    obtain ⟨i, hsome, hnames⟩ := Space.coreRename_names hver hf.inv.space hinv'.space hrename
    have hsame : v.names s = d.names s := hf.names hinv
    rw [hsame] at hsome hnames ⊢
    have hmove : NameMap.move (d.names s) (p, pszSrcName.name) (q, pszDstName.name) =
        v'.names s := by
      rw [NameMap.move, hsome, hnames]
    exact ⟨hro, ⟨l', m1, hinv'⟩, hmove.symm, ⟨i, hsome⟩, rfl⟩
  | freeOrphan i =>
    rw [Call.exec] at hrun
    by_cases hdel : deleteOpen = true
    · rw [Op.when_pos hdel] at hrun
      exact names_onWorking hinv hinv' (.inl hrun) (coreFreeOrphan_entry hinv i)
    · rw [Op.when_neg hdel] at hrun
      cases hrun
      exact ⟨rfl, rfl⟩
  | freeOrphans n =>
    rw [Call.exec] at hrun
    by_cases hdel : deleteOpen = true
    · rw [Op.when_pos hdel] at hrun
      exact names_onWorking hinv hinv' (.inr hrun) (redCoreVolFreeOrphans_entry hinv n)
    · rw [Op.when_neg hdel] at hrun
      cases hrun
      exact ⟨rfl, rfl⟩
  | fileData i data =>
    exact names_onWorking hinv hinv' (.inl hrun)
      (congrArg Shape.entry (coreFileData_shape _ i data))
  | transact =>
    rw [Call.exec, whenWriteable, Op.get_bind_run] at hrun
    split_ifs at hrun with hro
    · cases hrun
      rw [Call.Names, hro]
      exact ⟨by simp, rfl, rfl⟩
    · cases hrun
      rw [Call.Names, if_neg hro]
      exact ⟨⟨fun _ => by simpa using hro, fun _ => rfl⟩, transacted_working d,
        (transacted_names hclean0).trans rfl⟩
  | rollback =>
    obtain ⟨-, hsame, hspace⟩ := Call.run_rollback (s := s) d
    rw [hd'] at hsame hspace
    rw [Call.exec, whenWriteable, Op.get_bind_run] at hrun
    split_ifs at hrun with hro
    · cases hrun
      rw [Call.Names, hro]
      exact ⟨by simp, rfl, rfl⟩
    · have hro' : d.fReadOnly = false := by simpa using hro
      rw [Call.Names, hsame, hspace, if_neg hro]
      refine ⟨⟨fun _ => hro', fun _ => ?_⟩, rfl, ?_⟩
      · rw [NameDisk.redVolRollback, Op.get_bind_run] at hrun
        by_cases hb : d.fBranched = true
        · rw [Op.when_pos hb] at hrun
          cases hrun
          rfl
        · rw [Op.when_neg hb] at hrun
          cases hrun
          rfl
      · by_cases hb : d.fBranched = true
        · rw [if_pos ⟨hro', hb⟩]
        · rw [if_neg fun hc => hb hc.2]
          exact (hclean0 (by simpa using hb)).symm
  | remount fTransact ulFlags =>
    rw [Call.exec] at hrun
    obtain ⟨d1, hunmount, hc1, hnames1⟩ : ∃ d1, redCoreVolUnmount fTransact d = (.ok (), d1) ∧
        (∃ l m, Inv s d1.committed l m) ∧ d1.committed.names s =
          if d.fReadOnly = false ∧ fTransact = true then d.names s else d.committed.names s := by
      rw [redCoreVolUnmount, Op.get_bind_run]
      by_cases hcond : d.fReadOnly = false ∧ fTransact = true
      · rw [Op.when_pos (by simp [hcond]), if_pos hcond]
        refine ⟨_, rfl, ?_, transacted_names hclean0⟩
        change ∃ l m, Inv s (if d.fBranched = true then _ else _ : NameDisk).committed l m
        split_ifs
        · exact ⟨l, m, hinv⟩
        · exact ⟨lc, mc, hinvC⟩
      · rw [Op.when_neg (by simpa using hcond), if_neg hcond]
        exact ⟨d, rfl, ⟨lc, mc, hinvC⟩, rfl⟩
    obtain ⟨l1, m1, hc1⟩ := hc1
    obtain ⟨d2, l2, m2, hrun2, hsame, hinv2, -, hentry⟩ := redVolMount_run hcount hc1 ulFlags
    rw [Op.bind_ok hunmount, hrun2] at hrun
    cases hrun
    have hnames : d'.names s = d1.committed.names s :=
      Space.names_congr hc1.space.shape hinv2.space.shape hentry
    refine ⟨rfl, by rw [hnames, hsame], ?_⟩
    rw [hsame, hnames1]
  | powerLoss ulFlags =>
    obtain ⟨d1, l1, m1, hrun1, hsame, hinv1, -, hentry⟩ :=
      redVolMount_run (d := { d with fBranched := false }) hcount hinvC ulFlags
    have hd1 : (Except.ok (), d1) = (ret, d') := hrun1.symm.trans hrun
    cases hd1
    have hnames : d'.names s = d.committed.names s :=
      Space.names_congr hinvC.space.shape hinv1.space.shape hentry
    exact ⟨rfl, hnames, by rw [hsame]⟩

omit [RedConf] in
/-- The result for the first name in a new volume. -/
theorem names_transactional_small : letI := smallConf
    (Call.create NameDisk.roomy INODE_ROOTDIR [97] .dir).Names false
      ((Call.create NameDisk.roomy INODE_ROOTDIR [97] .dir).exec (emptyGeometry 5 64 8)
        (.format (emptyGeometry 5 64 8))).1
      ((NameDisk.format (emptyGeometry 5 64 8)).names (emptyGeometry 5 64 8))
      ((NameDisk.format (emptyGeometry 5 64 8)).committed.names (emptyGeometry 5 64 8))
      (((Call.create NameDisk.roomy INODE_ROOTDIR [97] .dir).run (emptyGeometry 5 64 8)
        (.format (emptyGeometry 5 64 8))).names (emptyGeometry 5 64 8))
      (((Call.create NameDisk.roomy INODE_ROOTDIR [97] .dir).run (emptyGeometry 5 64 8)
        (.format (emptyGeometry 5 64 8))).committed.names (emptyGeometry 5 64 8)) := by
  let _ := smallConf
  have hlegal : (Call.create NameDisk.roomy INODE_ROOTDIR [97] .dir).Legal (emptyGeometry 5 64 8)
      (.format (emptyGeometry 5 64 8)) := .inl rfl
  exact names_transactional (by decide) (by decide) (by decide) .format hlegal (Prod.ext rfl rfl)

end RelianceEdge
