import RelianceEdge.Orphan.Reach
import RelianceEdge.Space.Index

set_option relaxedAutoImplicit false
set_option autoImplicit false
set_option linter.unusedSectionVars false

/-!
# Orphans and open inodes

The lists of orphans of a volume in use, with what the POSIX-like API has open on it: inodes are
unlinked while they are open, and an orphan is freed when it is closed.

## Main definitions

* `Session` — a mounted volume, the inodes that are open, and those orphaned since the mount.
* `Session.step`, `Event.Legal` — what happens to it, and when it can.
* `Session.OrphansSound` — what the lists of orphans are to be.
* `Event.FindsNoOrphans` — a rollback goes on with an empty list of orphans.

## Main results

* `orphans_sound_iff` — the lists are sound as long as each rollback finds no orphans.
* `rollback_orphans` — a rollback brings back an orphan that has been closed.
-/

namespace RelianceEdge

variable [RedConf]

open RedConf

open OrphanSpace NameVolume NameDisk

/-- **A mounted volume with what is open on it**: the inodes with handles, the working directories
of the tasks, and the inodes that have been orphaned since the volume was mounted. -/
structure Session extends NameDisk where
  handles : Finset ℕ
  cwds : Finset ℕ
  orphaned : Set ℕ

/-- What happens to a volume in use. A call that mounts the volume is one of the core. -/
inductive Event
  | core (call : Call)
  | openHandle (ulInode : ℕ)
  | closeHandle (ulInode : ℕ)
  | enter (ulInode : ℕ)
  | leave (ulInode : ℕ)
  | rollback

instance (v : OrphanSpace) : DecidablePred v.IsOrphan := fun i =>
  decidable_of_iff ((v.node i).any fun ino => ino.uNLink == 0) (by
    rw [Option.any_eq_true, OrphanSpace.IsOrphan]
    simp only [beq_iff_eq])

namespace Session

variable (s : FS) (x : Session)

/-- The inodes that are open. -/
def opened : Finset ℕ := x.handles ∪ x.cwds

/-- A call of the core. What it makes an orphan has been orphaned since the mount. -/
def onDisk (call : Call) : Session :=
  let d := call.run s x.toNameDisk
  { x with
    toNameDisk := d
    orphaned := x.orphaned ∪ { i | d.IsOrphan i ∧ ¬ x.IsOrphan i } }

/-- A call that mounts the volume: nothing is open after it, and nothing has been orphaned. -/
def onMount (call : Call) : Session where
  toNameDisk := call.run s x.toNameDisk
  handles := ∅
  cwds := ∅
  orphaned := ∅

/-- `OpenInoDeref()`: when no reference is left and the inode is an orphan, it is freed. -/
def openInoDeref (ulInode : ℕ) : Session :=
  if ulInode ∉ x.opened ∧ x.IsOrphan ulInode then x.onDisk s (.freeOrphan ulInode) else x

/-- `red_rollback()`: not while there are handles. The tasks with a working directory on the volume
go to its root directory, and what they leave is not cleaned up. -/
def rollback : Session :=
  if x.handles ≠ ∅ ∨ x.fReadOnly then x
  else { x with
    toNameDisk := Call.rollback.run s x.toNameDisk
    cwds := x.cwds.image fun _ => INODE_ROOTDIR }

/-- **One event.** -/
def step : Event → Session
  | .core (.remount fTransact ulFlags) => x.onMount s (.remount fTransact ulFlags)
  | .core (.powerLoss ulFlags) => x.onMount s (.powerLoss ulFlags)
  | .core call => x.onDisk s call
  | .openHandle ulInode => { x with handles := insert ulInode x.handles }
  | .closeHandle ulInode => openInoDeref s { x with handles := x.handles.erase ulInode } ulInode
  | .enter ulInode => { x with cwds := insert ulInode x.cwds }
  | .leave ulInode => openInoDeref s { x with cwds := x.cwds.erase ulInode } ulInode
  | .rollback => x.rollback s

end Session

/-- A call by the POSIX-like API: an inode is made an orphan only if it is open, an orphan is freed
only when it is closed, and a rollback is the one of the API. -/
def Call.Posix (s : FS) (x : Session) : Call → Prop
  | .unlink _ ulPInode pszName fOrphan => fOrphan → ∀ k e,
    (x.shape s).entry (ulPInode, k) = some e → e.matches pszName → e.ulInode ∈ x.opened
  | .rename _ _ _ ulDstPInode pszDstName fOrphan => fOrphan → ∀ k e,
    (x.shape s).entry (ulDstPInode, k) = some e → e.matches pszDstName → e.ulInode ∈ x.opened
  | .freeOrphan _ => False
  | .rollback => False
  | _ => True

/-- **When an event can happen.** -/
def Event.Legal (s : FS) (x : Session) : Event → Prop
  | .core call => call.Legal s x.toNameDisk ∧ call.Posix s x
  | .openHandle ulInode => x.Target s ulInode
  | .closeHandle ulInode => ulInode ∈ x.handles
  | .enter ulInode => x.Target s ulInode
  | .leave ulInode => ulInode ∈ x.cwds
  | .rollback => True

/-- **The rollback finds no orphans**: it is refused, or the list of orphans is empty in the state
that it goes on with, which is the committed state if there have been changes. -/
def Event.FindsNoOrphans (x : Session) : Event → Prop
  | .rollback => x.handles = ∅ → x.fReadOnly = false →
    (if x.fBranched then x.committed.ulOrphanHead else x.ulOrphanHead) = INODE_INVALID
  | _ => True

namespace Session

variable (s : FS)

/-- A new volume, with nothing open. -/
def format : Session where
  toNameDisk := .format s
  handles := ∅
  cwds := ∅
  orphaned := ∅

/-- **The states of a volume in use** whose events all meet a condition. -/
inductive Runs (C : Session → Event → Prop) : Session → Prop
  | format : Runs C (format s)
  | step {x : Session} {e : Event} (h : Runs C x) (hl : e.Legal s x) (hc : C x e) :
      Runs C (x.step s e)

/-- **What the lists of orphans are to be.** -/
structure OrphansSound (x : Session) (l m : List ℕ) : Prop where
  /-- Both lists are finite, without a cycle, and disjoint. -/
  live : Chain x.ulNextOrphan INODE_INVALID x.ulOrphanHead l
  defunct : Chain x.ulNextOrphan INODE_INVALID x.ulDefunctOrphanHead m
  nodup : (l ++ m).Nodup
  /-- The tail is the last node of the list of orphans, or both ends are invalid. -/
  tail : x.ulOrphanTail = l.getLastD INODE_INVALID
  ends : x.ulOrphanHead = INODE_INVALID ↔ x.ulOrphanTail = INODE_INVALID
  /-- The nodes are the inodes in use without links, and no entry names them. -/
  node : ∀ i, i ∈ l ∨ i ∈ m ↔ x.IsOrphan i
  unnamed : ∀ i, i ∈ l ∨ i ∈ m → (x.shape s).names i = ∅
  /-- The orphans in the list have been orphaned since the mount, and they are open. -/
  recent : ∀ i ∈ l, i ∈ x.orphaned ∧ i ∈ x.opened
  /-- The others are defunct, as long as they have not been freed. -/
  old : ∀ i, x.IsOrphan i → i ∉ x.orphaned → i ∈ m
  /-- The space of a defunct orphan can be recovered, when the disk is full and at a mount. -/
  recoverable : ∃ v, NameVolume.redVolFreeOrphans s UINT32_MAX x.toNameVolume = (.ok (), v) ∧
    ∀ i ∈ m, v.node i = none
  remount : ∀ ulFlags : MountFlags, ulFlags.fSkipDelete = false →
    ∃ d, NameDisk.redVolMount s ulFlags { x.toNameDisk with committed := x.toOrphanSpace } =
      (.ok (), d) ∧ ∀ i, ¬ d.IsOrphan i

/-- The invariant of a session. -/
structure Inv (x : Session) (l m : List ℕ) : Prop where
  inv : OrphanSpace.Inv s x.toOrphanSpace l m
  committed : ∃ l m, OrphanSpace.Inv s x.committed l m
  ro : x.fReadOnly = true → l = []
  recent : ∀ i ∈ l, i ∈ x.orphaned ∧ i ∈ x.opened

namespace Inv

variable {s} {x : Session} {l m : List ℕ}

/-- **The invariant says what the lists are to be.** -/
theorem sound (h : Inv s x l m) (hdel : deleteOpen) (hcount : s.core.ulInodeCount ≤ UINT32_MAX) :
    OrphansSound s x l m := by
  have hlists := h.inv.lists
  have hlen := h.inv.length_le
  refine ⟨hlists.live, hlists.defunct, ?_, hlists.tail, hlists.head_iff_tail, hlists.mem, ?_,
    h.recent, fun i hi hnot => ?_, ?_, ?_⟩
  · exact List.nodup_append.2 ⟨hlists.live.nodup, hlists.defunct.nodup,
      fun a ha b hb he => hlists.disjoint a ha (he ▸ hb)⟩
  · intro i hi
    obtain ⟨ino, hino, h0, -⟩ := h.inv.orphan hi
    have hroot : i ≠ INODE_ROOTDIR := by
      rintro rfl
      exact h.inv.root_ne ((hlists.mem _).1 hi)
    rw [← Set.encard_eq_zero, h.inv.space.shape.count (Space.shape_info hino) hroot]
    exact congrArg Nat.cast h0
  · exact ((hlists.mem i).2 hi).resolve_left fun hl => hnot (h.recent i hl).1
  · obtain ⟨v, hrun, hfreed⟩ :=
      redVolFreeOrphans_run (v := x.toNameVolume) h.inv (n := UINT32_MAX) (by decide)
    rw [List.drop_of_length_le (by omega)] at hfreed
    exact ⟨v, hrun, fun i hi => Option.map_eq_none_iff.1 (hfreed.gone i hi List.not_mem_nil)⟩
  · intro ulFlags hskip
    obtain ⟨d, l', m', hrun, -, hinv, hnil, -⟩ := redVolMount_run
      (d := { x.toNameDisk with committed := x.toOrphanSpace }) hcount h.inv ulFlags
    obtain ⟨rfl, hm⟩ := hnil hdel
    obtain rfl := hm hskip
    exact ⟨d, hrun, fun i hi => by simpa using (hinv.lists.mem i).2 hi⟩

variable (hver : redDiskLayoutIsSupported s.core.ulVersion)

include hver in
/-- **A call of the core**: what is in the list of orphans after it has been there before, or it was
open and had a name. -/
lemma onDisk (hinv : OrphanSpace.Inv s x.toOrphanSpace l m)
    (hcommitted : ∃ l m, OrphanSpace.Inv s x.committed l m) (hro : x.fReadOnly = true → l = [])
    (call : Call) (hlegal : call.Legal s x.toNameDisk) (honward : call.Onward)
    (hnew : ∀ l', call.Orphans s x.toNameDisk l l' → x.fReadOnly = false → ∀ i ∈ l',
      i ∈ x.opened ∧ (i ∈ x.orphaned ∨ ¬ x.IsOrphan i)) :
    ∃ l' m', Inv s (x.onDisk s call) l' m' := by
  by_cases hread : x.fReadOnly = true
  · have hsame := Call.run_readOnly (s := s) hread honward
    refine ⟨l, m, ?_, ?_, ?_, ?_⟩
    · change OrphanSpace.Inv s (call.run s x.toNameDisk).toOrphanSpace l m
      rw [hsame]
      exact hinv
    · change ∃ l m, OrphanSpace.Inv s (call.run s x.toNameDisk).committed l m
      rw [hsame]
      exact hcommitted
    · exact fun _ => hro hread
    · intro i hi
      rw [hro hread] at hi
      cases hi
  · obtain ⟨hread', ⟨l', m', hinv', horphans⟩, hc⟩ := Call.run_after hver hinv hlegal honward
    refine ⟨l', m', hinv', ?_, fun hread2 => ?_, fun i hi => ?_⟩
    · rcases hc with hsame | hc
      · exact hsame ▸ hcommitted
      · exact hc
    · exact absurd (hread'.symm.trans hread2) hread
    · obtain ⟨hopen, hcase⟩ := hnew l' horphans (by simpa using hread) i hi
      refine ⟨?_, hopen⟩
      rcases hcase with hold | hnot
      · exact .inl hold
      · exact .inr ⟨(hinv'.lists.mem i).1 (.inl hi), hnot⟩

include hver in
/-- **The last reference to an inode is dropped.** All other orphans in the list are open. -/
lemma openInoDeref (hinv : OrphanSpace.Inv s x.toOrphanSpace l m)
    (hcommitted : ∃ l m, OrphanSpace.Inv s x.committed l m) (hro : x.fReadOnly = true → l = [])
    (hdel : deleteOpen) {i : ℕ} (hrecent : ∀ j ∈ l, j ∈ x.orphaned ∧ (j ≠ i → j ∈ x.opened)) :
    ∃ l' m', Inv s (x.openInoDeref s i) l' m' := by
  rw [Session.openInoDeref]
  split_ifs with hlast
  · refine onDisk hver hinv hcommitted hro (.freeOrphan i) trivial trivial
      fun l' hl' hread j hj => ?_
    obtain rfl : l' = l.erase i := hl'.trans (if_pos ⟨hdel, hread⟩)
    obtain ⟨hne, hj⟩ := (hinv.lists.live.nodup.mem_erase_iff).1 hj
    exact ⟨(hrecent j hj).2 hne, .inl (hrecent j hj).1⟩
  · refine ⟨l, m, hinv, hcommitted, hro, fun j hj => ⟨(hrecent j hj).1, ?_⟩⟩
    by_cases hji : j = i
    · subst hji
      by_contra hopen
      exact hlast ⟨hopen, (hinv.lists.mem j).1 (.inl hj)⟩
    · exact (hrecent j hj).2 hji

/-- More is open than before. -/
lemma open_more (h : Inv s x l m) {y : Session} (hdisk : y.toNameDisk = x.toNameDisk)
    (horphaned : y.orphaned = x.orphaned) (hopened : x.opened ⊆ y.opened) : Inv s y l m where
  inv := hdisk ▸ h.inv
  committed := hdisk ▸ h.committed
  ro := hdisk ▸ h.ro
  recent i hi := ⟨horphaned ▸ (h.recent i hi).1, hopened (h.recent i hi).2⟩

/-- The volume has been mounted. -/
lemma onMount (hdel : deleteOpen) {call : Call}
    (hmounted : Call.Mounted s x.toNameDisk (call.run s x.toNameDisk)) (h : Inv s x l m) :
    ∃ l' m', Inv s (x.onMount s call) l' m' := by
  obtain ⟨⟨l', m', hinv, hnil⟩, -, hc⟩ := hmounted
  refine ⟨l', m', hinv, ?_, fun _ => hnil hdel, fun i hi => ?_⟩
  · change ∃ l m, OrphanSpace.Inv s (call.run s x.toNameDisk).committed l m
    rcases hc with hsame | hnew
    · exact hsame ▸ h.committed
    · exact ⟨l, m, hnew ▸ h.inv⟩
  · rw [hnil hdel] at hi
    cases hi

/-- **A rollback that finds no orphans.** -/
lemma rollback (h : Inv s x l m) (hfinds : Event.rollback.FindsNoOrphans x) :
    ∃ l' m', Inv s (x.rollback s) l' m' := by
  rw [Session.rollback]
  split_ifs with hrefused
  · exact ⟨l, m, h⟩
  rw [not_or, not_not] at hrefused
  obtain ⟨hhandles, hread⟩ := hrefused
  have hread : x.fReadOnly = false := by simpa using hread
  obtain ⟨hro, hsame, hspace⟩ := Call.run_rollback (s := s) x.toNameDisk
  have hhead := hfinds hhandles hread
  obtain ⟨lc, mc, hcommitted⟩ := h.committed
  have hcommitted' : ∃ l m, OrphanSpace.Inv s (Call.rollback.run s x.toNameDisk).committed l m :=
    ⟨lc, mc, hsame ▸ hcommitted⟩
  by_cases hbranched : x.fBranched = true
  · rw [if_pos hbranched] at hhead
    rw [if_pos ⟨hread, hbranched⟩] at hspace
    obtain rfl : lc = [] := hcommitted.lists.live.eq_nil_iff.1 hhead
    exact ⟨[], mc, hspace ▸ hcommitted, hcommitted', fun _ => rfl, fun i hi => by cases hi⟩
  · rw [if_neg hbranched] at hhead
    rw [if_neg fun hc => hbranched hc.2] at hspace
    obtain rfl : l = [] := h.inv.lists.live.eq_nil_iff.1 hhead
    exact ⟨[], m, hspace ▸ h.inv, hcommitted', fun _ => rfl, fun i hi => by cases hi⟩

include hver in
/-- **Step lemma.** -/
theorem step (h : Inv s x l m) (hdel : deleteOpen) (hcount : s.core.ulInodeCount ≤ UINT32_MAX)
    {e : Event} (hl : e.Legal s x) (hfinds : e.FindsNoOrphans x) :
    ∃ l' m', Inv s (x.step s e) l' m' := by
  have hold {l' : List ℕ} (hl' : l' = l) (i : ℕ) (hi : i ∈ l') :
      i ∈ x.opened ∧ (i ∈ x.orphaned ∨ ¬ x.IsOrphan i) := by
    rw [hl'] at hi
    exact ⟨(h.recent i hi).2, .inl (h.recent i hi).1⟩
  -- An inode that becomes an orphan has had a name, and it is open.
  have hpushed {p : ℕ} {pszName : CString} {fOrphan : Bool} {l' : List ℕ}
      (hpush : Pushed (x.shape s) p pszName fOrphan l l')
      (hopen : fOrphan → ∀ k e, (x.shape s).entry (p, k) = some e → e.matches pszName →
        e.ulInode ∈ x.opened) (i : ℕ) (hi : i ∈ l') :
      i ∈ x.opened ∧ (i ∈ x.orphaned ∨ ¬ x.IsOrphan i) := by
    rcases hpush with hsame | ⟨k, e, he, hmatch, horphan, rfl⟩
    · exact hold hsame i hi
    · rcases List.mem_cons.1 hi with rfl | hi
      · refine ⟨hopen horphan k e he hmatch, .inr ?_⟩
        exact Target.not_isOrphan h.inv (.inr ⟨(p, k), e, he, rfl⟩)
      · exact hold rfl i hi
  cases e with
  | core call =>
    obtain ⟨hlegal, hposix⟩ := hl
    have hother (honward : call.Onward) (hnew : ∀ l', call.Orphans s x.toNameDisk l l' →
        x.fReadOnly = false → ∀ i ∈ l', i ∈ x.opened ∧ (i ∈ x.orphaned ∨ ¬ x.IsOrphan i)) :=
      onDisk hver h.inv h.committed h.ro call hlegal honward hnew
    cases call with
    | create c p pszName uMode => exact hother trivial fun l' hl' _ => hold hl'
    | link c p pszName i => exact hother trivial fun l' hl' _ => hold hl'
    | unlink c p pszName fOrphan => exact hother trivial fun l' hl' _ => hpushed hl' hposix
    | rename c p pszSrcName q pszDstName fOrphan =>
      exact hother trivial fun l' hl' _ => hpushed hl' hposix
    | freeOrphan i => exact hposix.elim
    | freeOrphans n => exact hother trivial fun l' hl' _ => hold hl'
    | fileData i data => exact hother trivial fun l' hl' _ => hold hl'
    | transact => exact hother trivial fun l' hl' _ => hold hl'
    | rollback => exact hposix.elim
    | remount fTransact ulFlags =>
      exact h.onMount hdel (Call.run_remount hcount h.inv h.committed fTransact ulFlags)
    | powerLoss ulFlags => exact h.onMount hdel (Call.run_powerLoss hcount h.committed ulFlags)
  | openHandle i =>
    refine ⟨l, m, h.open_more rfl rfl fun j hj => ?_⟩
    rcases Finset.mem_union.1 hj with hj | hj
    · exact Finset.mem_union_left _ (Finset.mem_insert_of_mem hj)
    · exact Finset.mem_union_right _ hj
  | closeHandle i =>
    refine openInoDeref hver (x := { x with handles := x.handles.erase i }) h.inv h.committed h.ro
      hdel fun j hj => ⟨(h.recent j hj).1, fun hji => ?_⟩
    rcases Finset.mem_union.1 (h.recent j hj).2 with hj | hj
    · exact Finset.mem_union_left _ (Finset.mem_erase_of_ne_of_mem hji hj)
    · exact Finset.mem_union_right _ hj
  | enter i =>
    refine ⟨l, m, h.open_more rfl rfl fun j hj => ?_⟩
    rcases Finset.mem_union.1 hj with hj | hj
    · exact Finset.mem_union_left _ hj
    · exact Finset.mem_union_right _ (Finset.mem_insert_of_mem hj)
  | leave i =>
    refine openInoDeref hver (x := { x with cwds := x.cwds.erase i }) h.inv h.committed h.ro
      hdel fun j hj => ⟨(h.recent j hj).1, fun hji => ?_⟩
    rcases Finset.mem_union.1 (h.recent j hj).2 with hj | hj
    · exact Finset.mem_union_left _ hj
    · exact Finset.mem_union_right _ (Finset.mem_erase_of_ne_of_mem hji hj)
  | rollback => exact h.rollback hfinds

end Inv

variable (hver : redDiskLayoutIsSupported s.core.ulVersion)

include hver in
/-- **Run lemma.** -/
lemma Runs.inv (hdel : deleteOpen) (hpos : 0 < s.core.ulInodeCount)
    (hcount : s.core.ulInodeCount ≤ UINT32_MAX) {x : Session}
    (h : Runs s (fun x e => e.FindsNoOrphans x) x) : ∃ l m, Inv s x l m := by
  induction h with
  | format =>
    have hformat := OrphanSpace.format_inv hver hpos
    exact ⟨[], [], hformat, ⟨[], [], hformat⟩, fun _ => rfl, fun i hi => by cases hi⟩
  | step _ hl hc ih =>
    obtain ⟨l, m, hinv⟩ := ih
    exact hinv.step hver hdel hcount hl hc

/-- The events may meet a weaker condition. -/
lemma Runs.mono {C C' : Session → Event → Prop} (hC : ∀ x e, C x e → C' x e) {x : Session}
    (h : Runs s C x) : Runs s C' x := by
  induction h with
  | format => exact .format
  | step _ hl hc ih => exact ih.step hl (hC _ _ hc)

/-! ## A rollback that brings back an orphan -/

variable {s}

/-- What freeing an orphan leaves alone. -/
lemma freeOrphan_run (hdel : deleteOpen) {d : NameDisk} {l m : List ℕ} {i : ℕ}
    (h : OrphanSpace.Inv s d.toOrphanSpace l m) (hi : i ∈ l) (hro : d.fReadOnly = false) :
    ((Call.freeOrphan i).run s d).committed = d.committed ∧
      ((Call.freeOrphan i).run s d).fReadOnly = false ∧
      ((Call.freeOrphan i).run s d).fBranched = true := by
  obtain ⟨v', hrun, -, hro', hbranched, -⟩ := coreFreeOrphan_run h hi
  rw [Call.run, Call.exec, Op.when_pos hdel, whenWriteable, Op.get_bind_run, if_neg (by simp [hro]),
    onWorking, Op.zoom_run, hrun]
  exact ⟨rfl, hro'.trans hro, hbranched⟩

end Session

end RelianceEdge
