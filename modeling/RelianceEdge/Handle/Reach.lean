import RelianceEdge.Handle.Moves
import Mathlib.Logic.Relation

set_option relaxedAutoImplicit false
set_option autoImplicit false
set_option linter.unusedSectionVars false

/-!
# Every state that calls lead to

From the power-on of a device with formatted volumes on, the tables of `posix.c` are sound: counts
are right, no inode is open twice, and there always is an open inode for another reference. An open
inode is in use on a mounted volume until it is closed, whatever names are made and removed, and
whatever happens on the way.

## Main definitions

* `PosixState.Start` — the power has come on.
* `PosixState.Reachable` — the states that calls lead to.
* `PosixState.TablesSound`, `PosixState.InodesKept` — what holds in all of them.

## Main results

* `PosixState.Reachable.settled` — the run lemma.
* `tables_sound`, `open_inodes_kept` — the tables, and the inodes they are for.
-/

namespace RelianceEdge

variable [PosixConf]

open RedConf PosixConf OrphanSpace

namespace PosixState

/-- **The power has come on**: nothing is mounted, and the volumes have been formatted. -/
structure Start (p : PosixState) : Prop where
  zeroed : Zeroed p
  inited : p.gfPosixInited = false
  generation : p.gauGeneration = fun _ => 0

/-- **The power comes on** with volumes of one geometry that have been formatted. -/
def powerOn (geo : FS) : PosixState where
  gfPosixInited := false
  gaOpenInos _ := .zero
  gaHandle _ := .zero
  gaTask _ := .zero
  gauGeneration _ := 0
  gbRedVolNum := 0
  gaRedVolume _ := ⟨geo, false, .format geo⟩

lemma powerOn_start {geo : FS} (hver : redDiskLayoutIsSupported geo.core.ulVersion)
    (hpos : 0 < geo.core.ulInodeCount) (hcount : geo.core.ulInodeCount ≤ UINT32_MAX) :
    Start (powerOn geo) where
  zeroed := ⟨rfl, rfl, rfl, fun _ => rfl, volumeCount_mem.1, fun _ _ =>
    ⟨hver, hpos, hcount, ⟨[], [], format_inv hver hpos⟩, by simp [powerOn]⟩⟩
  inited := rfl
  generation := rfl

/-- One call, with arguments that have been found by their paths; it may succeed or fail. -/
def Step (p p' : PosixState) : Prop := ∃ call : PosixCall, call.Legal p ∧ p' = call.run p

/-- **The states that calls lead to.** -/
def Reachable (p : PosixState) : Prop := ∃ p0, Start p0 ∧ Relation.ReflTransGen Step p0 p

variable {p p' : PosixState} {h t o v i : ℕ}

lemma Start.settled (h0 : Start p) : Settled p := by
  obtain ⟨hgood, hview⟩ := h0.zeroed.good
  refine ⟨hgood, fun hi => ?_, fun _ v _ => h0.zeroed.mounted v, fun v => ⟨?_, fun hm => ?_⟩⟩
  · rw [h0.inited] at hi
    cases hi
  · rw [h0.generation]
    exact Nat.zero_le _
  · rw [h0.zeroed.mounted] at hm
    cases hm

lemma Settled.step (hmax : openInodeCount ≤ UINT16_MAX) (hs : Settled p) (h : Step p p') :
    Settled p' := by
  obtain ⟨call, hlegal, rfl⟩ := h
  exact (PosixCall.run_moved hmax hs hlegal).settled

/-- **The invariant holds in every state that calls lead to.** -/
lemma Reachable.settled (hmax : openInodeCount ≤ UINT16_MAX) (h : Reachable p) : Settled p := by
  obtain ⟨p0, h0, hrun⟩ := h
  induction hrun with
  | refl => exact h0.settled
  | tail _ hstep ih => exact ih.step hmax hstep

lemma Reachable.run (h : Reachable p) {call : PosixCall} (hlegal : call.Legal p) :
    Reachable (call.run p) := by
  obtain ⟨p0, h0, hrun⟩ := h
  exact ⟨p0, h0, hrun.tail ⟨call, hlegal, rfl⟩⟩

/-! ## The tables -/

/-- **The tables are sound.** -/
structure TablesSound (p : PosixState) : Prop where
  /-- The count of an open inode is the number of the handles and working directories for it. -/
  uRefs : ∀ o < openInodeCount, (p.gaOpenInos o).uRefs =
    ((Finset.range handleCount).filter fun h => (p.gaHandle h).pOpenIno = some o).card +
    ((Finset.range taskCount).filter fun t => (p.gaTask t).pCwd = some o).card
  /-- It is available when there are none. -/
  available : ∀ o < openInodeCount, (p.gaOpenInos o).ulInode = INODE_INVALID ↔
    (p.gaOpenInos o).uRefs = 0
  /-- No inode is open twice. -/
  unique : ∀ o < openInodeCount, ∀ o' < openInodeCount,
    (p.gaOpenInos o).ulInode ≠ INODE_INVALID →
    (p.gaOpenInos o').ulInode = (p.gaOpenInos o).ulInode →
    (p.gaOpenInos o').bVolNum = (p.gaOpenInos o).bVolNum → o = o'
  /-- A handle is for an open inode. -/
  handle : ∀ h o, (p.gaHandle h).pOpenIno = some o → h < handleCount ∧ o < openInodeCount ∧
    (p.gaOpenInos o).bVolNum < volumeCount
  /-- A working directory is an open inode. -/
  task : ∀ t o, (p.gaTask t).pCwd = some o → t < taskCount ∧ o < openInodeCount ∧
    (p.gaOpenInos o).bVolNum < volumeCount
  /-- Every task slot has a working directory. -/
  cwd : p.gfPosixInited = true → ∀ t < taskCount, (p.gaTask t).pCwd ≠ none
  /-- An open inode is found for another handle. -/
  find : ∀ h < handleCount, (p.gaHandle h).pOpenIno = none → ∀ v i, i ≠ INODE_INVALID →
    ∃ o < openInodeCount, (openInoFind v i true p).1 = .ok (some o)

lemma Settled.tablesSound (hmax : openInodeCount ≤ UINT16_MAX) (hs : Settled p) :
    TablesSound p where
  uRefs o ho := by
    have hrefs := hs.good.table.refs_eq o (Finset.mem_range.2 ho)
    rw [refSet, Refs.count_disjSum] at hrefs
    exact hrefs
  available o ho := by
    have hused := hs.good.table.used o (Finset.mem_range.2 ho)
    rw [← key_eq_none]
    exact not_iff_not.1 hused
  unique o ho o' ho' hne hi hv := by
    refine hs.good.table.unique o (Finset.mem_range.2 ho) o' (Finset.mem_range.2 ho')
      ((p.gaOpenInos o).bVolNum, (p.gaOpenInos o).ulInode) ?_ ?_
    · exact key_eq_some.2 ⟨hne, rfl, rfl⟩
    · exact key_eq_some.2 ⟨hne, hv, hi⟩
  handle h o hptr := by
    obtain ⟨hh, ho⟩ := hs.good.table.mem (.inl h) o hptr
    obtain ⟨⟨v, i⟩, hkey, hview⟩ := hs.good.table.view_some (show p.ptr (.inl h) = some o from hptr)
    refine ⟨handle_mem.1 hh, Finset.mem_range.1 ho, ?_⟩
    rw [(key_eq_some.1 hkey).2.1]
    exact hs.good.valid _ _ hview
  task t o hptr := by
    obtain ⟨ht, ho⟩ := hs.good.table.mem (.inr t) o hptr
    obtain ⟨⟨v, i⟩, hkey, hview⟩ := hs.good.table.view_some (show p.ptr (.inr t) = some o from hptr)
    refine ⟨task_mem.1 ht, Finset.mem_range.1 ho, ?_⟩
    rw [(key_eq_some.1 hkey).2.1]
    exact hs.good.valid _ _ hview
  cwd hi t ht hnone := hs.cwd hi t ht (hs.good.table.view_eq_none_iff.2 hnone)
  find h hh hnone v i hi := by
    obtain ⟨o, g, hrun, hacq⟩ := acquire (v := v) hmax hs.good.table (handle_mem.2 hh) hnone hi
    refine ⟨o, ?_, by rw [hrun]⟩
    exact Finset.mem_range.1 (hacq.table.mem (.inl h) o (Function.update_self ..)).2

/-! ## The open inodes -/

/-- **The volume of an open inode keeps it**: the inode is in use, and not on its way to be freed.
If it has no name any more, it is on the list of orphans, and its open inode says so. -/
def KeptBy (p : PosixState) (o : ℕ) (fDirectory : Bool) : Prop :=
  let oi := p.gaOpenInos o
  let vol := p.gaRedVolume oi.bVolNum
  ∃ ino l m, vol.disk.node oi.ulInode = some ino ∧ ino.data.fDirectory = fDirectory ∧
    OrphanSpace.Inv vol.geo vol.disk.toOrphanSpace l m ∧ oi.ulInode ∉ m ∧
    (ino.uNLink = 0 → oi.ulInode ∈ l ∧ oi.fOrphan = true)

/-- **The inodes that are open are kept.** -/
structure InodesKept (p : PosixState) : Prop where
  /-- A handle is for an inode of a mounted volume, which is a directory if the handle is for
  one. -/
  handle : ∀ h o, (p.gaHandle h).pOpenIno = some o →
    (p.gaRedVolume (p.gaOpenInos o).bVolNum).fMounted = true ∧
      p.KeptBy o (p.gaHandle h).fDirectory
  /-- A working directory is a directory of a mounted volume, or the root directory of another. -/
  task : ∀ t o, (p.gaTask t).pCwd = some o →
    if (p.gaRedVolume (p.gaOpenInos o).bVolNum).fMounted then p.KeptBy o true
    else (p.gaOpenInos o).ulInode = INODE_ROOTDIR

lemma Settled.keptBy (hs : Settled p) {r : Ref} (hptr : p.ptr r = some o)
    (hm : (p.gaRedVolume (p.gaOpenInos o).bVolNum).fMounted) :
    ∃ n : Info, p.Fits r n ∧ p.KeptBy o n.fDirectory := by
  obtain ⟨⟨v, i⟩, hkey, hview⟩ := hs.good.table.view_some hptr
  obtain ⟨-, rfl, rfl⟩ := key_eq_some.1 hkey
  have ho := (hs.good.table.mem r o hptr).2
  have hv := hs.good.valid r _ hview
  obtain ⟨l, m, hinv⟩ := (hs.good.sound _ hv).working hm
  obtain ⟨n, hn, hdef, hfits, hmarked⟩ := (hs.good.served r (by simp) _ hview).mounted hm
  obtain ⟨ino, hino, rfl⟩ := Space.shape_info_eq_some hn
  have hi : (p.gaOpenInos o).ulInode ∉ m := fun hmem => hdef (hinv.defunct_iff.2 hmem)
  refine ⟨ino.info, hfits, ino, l, m, hino, rfl, hinv, hi, fun h0 => ⟨?_, hmarked h0 o ho hkey⟩⟩
  exact ((hinv.lists.mem _).2 ⟨ino, hino, h0⟩).resolve_right hi

lemma Settled.inodesKept (hs : Settled p) : InodesKept p where
  handle h o hptr := by
    have hptr' : p.ptr (.inl h) = some o := hptr
    obtain ⟨⟨v, i⟩, hkey, hview⟩ := hs.good.table.view_some hptr'
    have hm := hs.good.handle_mounted (by simp) hview
    have hvol := (key_eq_some.1 hkey).2.1
    subst hvol
    obtain ⟨n, hfits, hkept⟩ := hs.keptBy hptr' hm
    exact ⟨hm, by rwa [show (p.gaHandle h).fDirectory = n.fDirectory from hfits]⟩
  task t o hptr := by
    have hptr' : p.ptr (.inr t) = some o := hptr
    split_ifs with hm
    · obtain ⟨n, hfits, hkept⟩ := hs.keptBy hptr' hm
      rwa [show n.fDirectory = true from hfits] at hkept
    · obtain ⟨⟨v, i⟩, hkey, hview⟩ := hs.good.table.view_some hptr'
      obtain ⟨-, rfl, rfl⟩ := key_eq_some.1 hkey
      exact ((hs.good.served _ (by simp) _ hview).unmounted (by simpa using hm)).1

end PosixState

open PosixState

variable {p : PosixState}

lemma powerOn_reachable {geo : FS} (hver : redDiskLayoutIsSupported geo.core.ulVersion)
    (hpos : 0 < geo.core.ulInodeCount) (hcount : geo.core.ulInodeCount ≤ UINT32_MAX) :
    (powerOn geo).Reachable := ⟨_, powerOn_start hver hpos hcount, .refl⟩

/-! ## A volume in use -/

/-- The root directory of the first volume is open; the volume has just been formatted. -/
def rootOpened : PosixState :=
  let p0 := powerOn (emptyGeometry 5 64 8)
  let p1 := (PosixCall.init (.ok ())).run p0
  let p2 := (PosixCall.mount2 1 ⟨some 0, .ok ()⟩ RED_MOUNT_DEFAULT).run p1
  (PosixCall.openat 1 NameDisk.roomy ⟨⟨some 0, .ok ()⟩, .error .EISDIR, .error .ENOENT⟩
    { rdOnly with fCreat := true }).run p2

/-- A file is created in it and opened. -/
def createFile : PosixCall :=
  .openat 1 NameDisk.roomy ⟨⟨some 0, .ok ()⟩, .ok (INODE_ROOTDIR, [97]), .error .ENOENT⟩
    { rdOnly with fRdOnly := false, fRdWr := true, fCreat := true }

/-- The root directory and the file are open. -/
def fileOpened : PosixState := createFile.run rootOpened

/-- The file has been unlinked while it is open. -/
def orphanOpened : PosixState :=
  (PosixCall.unlinkat 1 NameDisk.roomy ⟨some 0, .ok (INODE_ROOTDIR, [97])⟩ false).run fileOpened

/-- The root directory is a parent on every volume. -/
lemma nameOk_root (p : PosixState) (v : ℕ) (pszName : CString) :
    p.NameOk v (.ok (INODE_ROOTDIR, pszName)) := by
  rintro _ ⟨⟩
  exact .inl rfl

omit [PosixConf] in
lemma rootOpened_reachable : letI := smallPosixConf; rootOpened.Reachable := by
  let _ := smallPosixConf
  have hreach : (powerOn (emptyGeometry 5 64 8)).Reachable :=
    powerOn_reachable (by decide) (by decide) (by decide)
  have hinit : ((PosixCall.init (.ok ())).run (powerOn (emptyGeometry 5 64 8))).Reachable :=
    hreach.run trivial
  have hmount : ((PosixCall.mount2 1 ⟨some 0, .ok ()⟩ RED_MOUNT_DEFAULT).run _).Reachable :=
    hinit.run trivial
  exact hmount.run ⟨by simp [NameOk], by simp [InodeOk]⟩

omit [PosixConf] in
lemma fileOpened_reachable : letI := smallPosixConf; fileOpened.Reachable := by
  let _ := smallPosixConf
  exact rootOpened_reachable.run ⟨nameOk_root _ _ _, by simp [InodeOk]⟩

omit [PosixConf] in
lemma orphanOpened_reachable : letI := smallPosixConf; orphanOpened.Reachable := by
  let _ := smallPosixConf
  exact fileOpened_reachable.run (nameOk_root _ _ _)

/-! ## The results -/

/-- **The tables are sound in every state that calls lead to.** -/
theorem tables_sound (hmax : openInodeCount ≤ UINT16_MAX) (h : p.Reachable) : TablesSound p :=
  (h.settled hmax).tablesSound hmax

omit [PosixConf] in
/-- A directory and a file are open; the working directories are the root directory as well. -/
theorem tables_sound_small : letI := smallPosixConf
    TablesSound fileOpened ∧ (fileOpened.gaOpenInos 0).uRefs = 3 ∧
      (fileOpened.gaOpenInos 1).uRefs = 1 ∧ (fileOpened.gaHandle 1).pOpenIno = some 1 := by
  let _ := smallPosixConf
  refine ⟨tables_sound (by decide) fileOpened_reachable, ?_, ?_, ?_⟩
  all_goals decide +kernel

/-- **An inode that is open is kept in every state that calls lead to**, also when its names are
removed, and when its volume goes back to a transaction point. -/
theorem open_inodes_kept (hmax : openInodeCount ≤ UINT16_MAX) (h : p.Reachable) : InodesKept p :=
  (h.settled hmax).inodesKept

omit [PosixConf] in
/-- The handle of a file that has lost its name. -/
theorem open_inodes_kept_small : letI := smallPosixConf
    InodesKept orphanOpened ∧ (orphanOpened.gaHandle 1).pOpenIno = some 1 ∧
      (orphanOpened.gaOpenInos 1).ulInode = INODE_FIRST_FREE ∧
      (orphanOpened.gaRedVolume 0).disk.ulOrphanHead = INODE_FIRST_FREE := by
  let _ := smallPosixConf
  refine ⟨open_inodes_kept (by decide) orphanOpened_reachable, ?_, ?_, ?_⟩
  all_goals decide +kernel

/-- **The calls move the references as they should**, in every state that calls lead to, or fail and
leave them alone. -/
theorem calls_move (hmax : openInodeCount ≤ UINT16_MAX) (h : p.Reachable) {call : PosixCall}
    (hlegal : call.Legal p) :
    (∀ ret, (call.exec p).1 = .ok ret → call.Moves p ret (call.run p)) ∧
      ∀ e, (call.exec p).1 = .error e → (call.run p).view = p.view := by
  have hmoved := PosixCall.run_moved hmax (h.settled hmax) hlegal
  exact ⟨hmoved.ok, hmoved.error⟩

omit [PosixConf] in
/-- The file is opened, and then the volume cannot be unmounted. -/
theorem calls_move_small : letI := smallPosixConf
    createFile.Moves rootOpened 1048577 fileOpened ∧
      ((PosixCall.umount2 1 ⟨some 0, .ok ()⟩ false true).run fileOpened).view =
        fileOpened.view := by
  let _ := smallPosixConf
  have hcreate : (createFile.exec rootOpened).1 = .ok 1048577 := by decide +kernel
  have hbusy : ((PosixCall.umount2 1 ⟨some 0, .ok ()⟩ false true).exec fileOpened).1 =
      .error .EBUSY := by decide +kernel
  have hlegal : createFile.Legal rootOpened := ⟨nameOk_root _ _ _, by simp [InodeOk]⟩
  have humount : (PosixCall.umount2 1 ⟨some 0, .ok ()⟩ false true).Legal fileOpened := trivial
  exact ⟨(calls_move (by decide) rootOpened_reachable hlegal).1 1048577 hcreate,
    (calls_move (by decide) fileOpened_reachable humount).2 .EBUSY hbusy⟩

end RelianceEdge
