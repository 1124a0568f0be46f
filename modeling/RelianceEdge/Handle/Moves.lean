import RelianceEdge.Handle.Tasks

set_option relaxedAutoImplicit false
set_option autoImplicit false
set_option linter.unusedSectionVars false

/-!
# What the calls do to the references

Seen from outside, the tables of open inodes are a map: each handle and each working directory has
the volume and the number of an inode. Each call of the API keeps the invariant of the tables; if it
succeeds it has one effect on this map, and if it fails it has none.

## Main definitions

* `PosixCall.Legal` — the arguments of a call have been found by their paths.
* `PosixCall.Moves` — what a call that succeeds does to the map.

## Main results

* `PosixCall.run_moved` — the calls keep the invariant, and do to the map what they should.
-/

namespace RelianceEdge

variable [PosixConf]

open RedConf PosixConf OrphanSpace PosixState

/-- **The arguments of a call have been found by their paths**, in the state before. -/
def PosixCall.Legal (p : PosixState) : PosixCall → Prop
  | .openat _ _ path _ | .opendir _ _ path =>
    p.NameOk (p.pathVolume path.start) path.name ∧ p.InodeOk (p.pathVolume path.start) path.inode
  | .mknod _ _ name _ | .unlinkat _ _ name _ => p.NameOk (p.pathVolume name) name.ret
  | .linkat _ _ start start' inode link =>
    p.InodeOk (p.pathVolume₂ start start') inode ∧ p.NameOk (p.pathVolume₂ start start') link
  | .renameat _ _ start start' old new =>
    p.NameOk (p.pathVolume₂ start start') old ∧ p.NameOk (p.pathVolume₂ start start') new
  | .chdir _ start inode => p.InodeOk (p.pathVolume start) inode
  | _ => True

/-- **What a call does to the references** when it succeeds with the result `ret` in the state
`p'`. -/
def PosixCall.Moves (p : PosixState) : PosixCall → ℤ → PosixState → Prop
  | .init _, _, p' => p'.view =
    if p.gfPosixInited then p.view else atRoot (List.range taskCount) fun _ => none
  | .powerLoss, _, p' => p'.view = fun _ => none
  | .taskunregister ulTaskId, _, p' => ∃ t, p.taskFind ulTaskId = some t ∧
    p'.view = Function.update p.view (.inr t) (some (0, INODE_ROOTDIR))
  | .umount2 _ volume fForce _, _, p' => p'.view = unmounted (p.pathVolume volume) p.view ∧
    (fForce = false → ∀ h < handleCount,
      (p.view (.inl h)).map Prod.fst ≠ some (p.pathVolume volume))
  | .rollback _ volume, _, p' =>
    p'.view = rooted (p.pathVolume volume) (List.range taskCount) p.view ∧
      ∀ h < handleCount, (p.view (.inl h)).map Prod.fst ≠ some (p.pathVolume volume)
  | .openat _ _ path _, ret, p' => Opens p (p.pathVolume path.start) ret p'
  | .opendir _ _ path, ret, p' => ∃ iFildes, Opens p (p.pathVolume path.start) iFildes p' ∧
    ret = (fildesUnpack iFildes).1
  | .close _ iFildes _, _, p' => ∃ h, p.fildesToHandle iFildes FTYPE_ANY = .ok h ∧
    p'.view = Function.update p.view (.inl h) none
  | .closedir _ pDirStream, _, p' => p.dirStreamIsValid pDirStream = true ∧
    p'.view = Function.update p.view (.inl pDirStream) none
  | .chdir ulTaskId start inode, _, p' => ∃ t i, p'.taskFind ulTaskId = some t ∧
    inode = .ok i ∧ p'.view = Function.update p.view (.inr t) (some (p.pathVolume start, i))
  | _, _, p' => p'.view = p.view

namespace PosixState

variable {p p' : PosixState} {v i o h t : ℕ} {α : Type}

/-! ## Calls of a task -/

lemma Entered.fildesToHandle (he : Entered p p') (iFildes : ℤ) (type : FType) :
    p'.fildesToHandle iFildes type = p.fildesToHandle iFildes type := by
  rw [PosixState.fildesToHandle, PosixState.fildesToHandle, he.handle, he.openInos, he.generation]

lemma Entered.dirStreamIsValid (he : Entered p p') (pDirStream : ℕ) :
    p'.dirStreamIsValid pDirStream = p.dirStreamIsValid pDirStream := by
  rw [PosixState.dirStreamIsValid, PosixState.dirStreamIsValid, he.handle, he.openInos]

lemma Entered.opens (he : Entered p p') (hview : p'.view = p.view) {iFildes : ℤ}
    {q : PosixState} (ho : Opens p' v iFildes q) : Opens p v iFildes q := by
  obtain ⟨h, i, hh, hnone, hview', hpack, hgen⟩ := ho
  rw [hview] at hnone hview'
  refine ⟨h, i, hh, hnone, hview', ?_, he.generation ▸ hgen⟩
  rw [hpack, fildesPack, fildesPack, he.generation]

/-- A call by a task that becomes a user. -/
lemma Settled.enter_moved (hs : Settled p) (ulTaskId : ℕ) {y : PosixOp α}
    {A : α → PosixState → Prop}
    (hy : ∀ p1, Entered p p1 → p1.gbRedVolNum = p.gbRedVolNum → p1.gfPosixInited = true →
      Settled p1 → p1.view = p.view → y.Post p1 (Moved A p1)) :
    (do
      posixEnter ulTaskId
      y).Post p (Moved A p) := by
  refine (posixEnter_entered ulTaskId).bind (fun _ p1 hp1 => ?_) fun e p1 hp1 => ?_
  · obtain ⟨he, hcur, hi⟩ := hp1
    obtain ⟨hs1, hview⟩ := he.settled hs
    exact (hy p1 he hcur (he.inited.trans (hi rfl)) hs1 hview).mono fun _ _ hq =>
      ⟨hq.settled, hq.ok, fun e hfail => (hq.error e hfail).trans hview⟩
  · obtain ⟨hs1, hview⟩ := hp1.1.settled hs
    exact hs1.moved_error hview

lemma moved_pure {y : PosixOp α} {A : α → PosixState → Prop} {β : Type} {g : α → β}
    {B : β → PosixState → Prop} (hy : y.Post p (Moved A p)) (hB : ∀ a q, A a q → B (g a) q) :
    (do
      let a ← y
      pure (g a) : PosixOp β).Post p (Moved B p) := by
  refine hy.bind (fun a q hq => .pure ⟨hq.settled, fun b hb => ?_, by simp⟩) fun e q hq =>
    hq.settled.moved_error (hq.error e rfl)
  cases hb
  exact hB a q (hq.ok a rfl)

/-- A call by a task that leaves the references alone. -/
lemma Settled.enter_stays (hs : Settled p) (ulTaskId : ℕ) {y : PosixOp α} {β : Type} {g : α → β}
    (hy : ∀ p1, Entered p p1 → p1.gbRedVolNum = p.gbRedVolNum → p1.gfPosixInited = true →
      Settled p1 → y.Post p1 (Stays p1)) :
    (do
      posixEnter ulTaskId
      let a ← y
      pure (g a) : PosixOp β).Post p (Moved (fun _ q => q.view = p.view) p) :=
  hs.enter_moved ulTaskId fun p1 he hcur hi hs1 hview =>
    moved_pure ((hy p1 he hcur hi hs1).mono fun _ _ hq => Stays.moved hq)
      fun _ _ hq => hq.trans hview

/-- A call that the driver makes of itself. -/
lemma stays_pure {y : PosixOp α} {β : Type} {g : α → β} (hy : y.Post p (Stays p)) :
    (do
      let a ← y
      pure (g a) : PosixOp β).Post p (Moved (fun _ q => q.view = p.view) p) :=
  moved_pure (hy.mono fun _ _ hq => Stays.moved hq) fun _ _ hq => hq

end PosixState

variable {p : PosixState}

/-- **Each call keeps the invariant of the tables.** If it succeeds it moves the references as it
should, and if it fails it leaves them alone. -/
theorem PosixCall.run_moved (hmax : openInodeCount ≤ UINT16_MAX) (hs : Settled p)
    {call : PosixCall} (hlegal : call.Legal p) : call.exec.Post p (Moved (call.Moves p) p) := by
  have hvol {α : Type} {p1 : PosixState} (hcur : p1.gbRedVolNum = p.gbRedVolNum) (r : Found α) :
      p1.pathVolume r = p.pathVolume r := by rw [pathVolume, pathVolume, hcur]
  have hvol₂ {p1 : PosixState} (hcur : p1.gbRedVolNum = p.gbRedVolNum) (r r' : Found Unit) :
      p1.pathVolume₂ r r' = p.pathVolume₂ r r' := by rw [pathVolume₂, pathVolume₂, hvol hcur]
  have hname {p1 : PosixState} (he : Entered p p1) {v : ℕ} {name : Except RedError (ℕ × CString)}
      (hn : p.NameOk v name) : p1.NameOk v name := by rwa [NameOk, he.volume]
  have hinode {p1 : PosixState} (he : Entered p p1) {v : ℕ} {inode : Except RedError ℕ}
      (hn : p.InodeOk v inode) : p1.InodeOk v inode := by rwa [InodeOk, he.volume]
  cases call with
  | init os => exact moved_pure (redInit_moved hmax hs os) fun _ _ hq => hq
  | uninit os => exact stays_pure (redUninit_stays hs os)
  | powerLoss => exact moved_pure (powerLoss_moved hs) fun _ _ hq => hq
  | taskregister id => exact stays_pure (redTaskregister_stays hs id)
  | taskunregister id => exact moved_pure (redTaskunregister_moved hmax hs id) fun _ _ hq => hq
  | mount2 id volume ulFlags =>
    exact hs.enter_stays id fun p1 _ _ hi hs1 => redMount2_stays hs1 hi volume ulFlags
  | umount2 id volume fForce fTransact =>
    refine hs.enter_moved id fun p1 _ hcur _ hs1 hview =>
      moved_pure (redUmount2_moved hmax hs1 volume fForce fTransact) fun _ q hq => ?_
    rwa [hvol hcur, hview] at hq
  | rollback id volume =>
    refine hs.enter_moved id fun p1 _ hcur _ hs1 hview =>
      moved_pure (redRollback_moved hmax hs1 volume) fun _ q hq => ?_
    rwa [hvol hcur, hview] at hq
  | transact id volume =>
    exact hs.enter_stays id fun p1 _ _ _ hs1 => redTransact_stays hs1 volume
  | freeorphans id volume ulCount =>
    exact hs.enter_stays id fun p1 _ _ _ hs1 => redFreeorphans_stays hs1 volume ulCount
  | openat id c path ulOpenFlags =>
    obtain ⟨hn, hi⟩ := hlegal
    refine hs.enter_moved id fun p1 he hcur _ hs1 hview => ?_
    rw [← hvol hcur] at hn hi
    refine (redOpenat_moved hmax hs1 c (hname he hn) (hinode he hi) ulOpenFlags).mono
      fun _ _ hq => ⟨hq.settled, fun fd hfd => ?_, hq.error⟩
    have hopens := he.opens hview (hq.ok fd hfd)
    rwa [hvol hcur] at hopens
  | opendir id c path =>
    obtain ⟨hn, hi⟩ := hlegal
    refine hs.enter_moved id fun p1 he hcur _ hs1 hview => ?_
    rw [← hvol hcur] at hn hi
    refine moved_pure (redOpendir_moved hmax hs1 c (hname he hn) (hinode he hi)) fun h q hq => ?_
    obtain ⟨fd, hopens, hfd⟩ := hq
    have hopens := he.opens hview hopens
    rw [hvol hcur] at hopens
    exact ⟨fd, hopens, congrArg Nat.cast hfd⟩
  | close id iFildes fTransact =>
    refine hs.enter_moved id fun p1 he _ _ hs1 hview =>
      moved_pure (redClose_moved hs1 iFildes fTransact) fun _ q hq => ?_
    rwa [he.fildesToHandle, hview] at hq
  | closedir id pDirStream =>
    refine hs.enter_moved id fun p1 he _ _ hs1 hview =>
      moved_pure (redClosedir_moved hs1 pDirStream) fun _ q hq => ?_
    rwa [he.dirStreamIsValid, hview] at hq
  | write id iFildes data =>
    exact hs.enter_stays id fun p1 _ _ _ hs1 => redWrite_stays hs1 iFildes data
  | mknod id c name uMode =>
    exact hs.enter_stays id fun p1 he hcur _ hs1 =>
      redMknod_stays hs1 c (hname he (hvol hcur name ▸ hlegal)) uMode
  | linkat id c start start' inode link =>
    exact hs.enter_stays id fun p1 he hcur _ hs1 =>
      redLinkat_stays hs1 c (hinode he (hvol₂ hcur start start' ▸ hlegal.1))
        (hname he (hvol₂ hcur start start' ▸ hlegal.2))
  | unlinkat id c name fRemoveDir =>
    exact hs.enter_stays id fun p1 he hcur _ hs1 =>
      redUnlinkat_stays hs1 c (hname he (hvol hcur name ▸ hlegal)) fRemoveDir
  | renameat id c start start' old new =>
    exact hs.enter_stays id fun p1 he hcur _ hs1 =>
      redRenameat_stays hs1 c (hname he (hvol₂ hcur start start' ▸ hlegal.1))
        (hname he (hvol₂ hcur start start' ▸ hlegal.2))
  | chdir id start inode =>
    refine hs.enter_moved id fun p1 he hcur hi hs1 hview =>
      moved_pure (redChdir_moved hmax hs1 hi (hinode he (hvol hcur start ▸ hlegal)))
        fun _ q hq => ?_
    rwa [hvol hcur, hview] at hq

end RelianceEdge
