import RelianceEdge.Handle.Api
import RelianceEdge.Orphan.Fate

set_option relaxedAutoImplicit false
set_option autoImplicit false
set_option linter.unusedSectionVars false

/-!
# References to open inodes

Handles and working directories are references to open inodes, which are counted objects with a
volume and an inode number as their key. A reference is served when its volume keeps the inode for
it: the inode is in use, has the type that the reference wants, and cannot be freed as a defunct
orphan. In the middle of a call a reference may be on its way; the references are therefore a
parameter of the invariant.

## Main definitions

* `PosixState.ptr`, `PosixState.refs`, `PosixState.key` — the tables as counted references.
* `PosixState.Serves` — a volume keeps the inode of a reference.
* `PosixState.Good` — the invariant inside of a call.
* `PosixState.Frame` — what the functions on open inodes leave alone.

## Main results

* `Good.openInoFind_none`, `Good.acquire` — a reference is made.
* `Good.openInoDeref` — a reference is given up.
* `Good.redCore` — a call of the core.
-/

namespace RelianceEdge

variable [PosixConf]

open RedConf PosixConf OrphanSpace

/-- A reference: a handle or a working directory. -/
abbrev Ref := ℕ ⊕ ℕ

/-- The references that there can be. -/
def refSet : Finset Ref := (Finset.range handleCount).disjSum (Finset.range taskCount)

/-- The open inodes that there are. -/
def objects : Finset ℕ := Finset.range openInodeCount

lemma card_refSet : refSet.card = objects.card := by
  rw [refSet, Finset.card_disjSum, objects]
  simp [openInodeCount]

lemma handle_mem {h : ℕ} : (.inl h : Ref) ∈ refSet ↔ h < handleCount := by simp [refSet]

lemma task_mem {t : ℕ} : (.inr t : Ref) ∈ refSet ↔ t < taskCount := by simp [refSet]

/-- A defunct orphan. -/
def OrphanSpace.Defunct (s : FS) (v : OrphanSpace) (i : ℕ) : Prop := ∃ l m, Inv s v l m ∧ i ∈ m

lemma OrphanSpace.Inv.defunct_iff {s : FS} {v : OrphanSpace} {l m : List ℕ} {i : ℕ}
    (h : Inv s v l m) : v.Defunct s i ↔ i ∈ m := by
  constructor
  · rintro ⟨l', m', h', hi⟩
    rwa [h.lists.defunct.unique h'.lists.defunct]
  · intro hi
    exact ⟨l, m, h, hi⟩

/-- An inode has a name, or is the root directory; `b` says whether it is a directory. -/
def NameDisk.Linked (s : FS) (d : NameDisk) (i : ℕ) (b : Bool) : Prop :=
  ∃ n, (d.shape s).info i = some n ∧ n.uNLink ≠ 0 ∧ n.fDirectory = b ∧ ¬ d.Defunct s i

lemma NameDisk.Target.linked {s : FS} {d : NameDisk} {l m : List ℕ} {i : ℕ}
    (hi : d.Target s i) (h : Inv s d.toOrphanSpace l m) {n : Info}
    (hn : (d.shape s).info i = some n) : d.Linked s i n.fDirectory := by
  obtain ⟨n', hn', hlink⟩ := hi.exists_info h
  rw [hn] at hn'
  cases hn'
  exact ⟨n, hn, hlink, rfl, fun hd =>
    hi.not_isOrphan h ((h.lists.mem i).1 (.inr (h.defunct_iff.1 hd)))⟩

/-- A call of the core that takes no name leaves the inodes that have one. -/
lemma NameDisk.Linked.exec {s : FS} {d d' : NameDisk} {l m : List ℕ} {i : ℕ} {b : Bool}
    {call : Call} {ret : Except RedError Unit} (hi : d.Linked s i b)
    (hversion : redDiskLayoutIsSupported s.core.ulVersion) (hinv : Inv s d.toOrphanSpace l m)
    (hlegal : call.Legal s d) (honward : call.Onward) (hrun : call.exec s d = (ret, d'))
    (htakes : ∀ M f i, ¬ call.Takes M f i) : d'.Linked s i b := by
  obtain ⟨m', ⟨l', hinv'⟩, hsuffix, hfate⟩ := Call.run_fate hversion hinv hlegal honward hrun
  obtain ⟨n, hn, hlink, hdir, hdef⟩ := hi
  have hi : i ∉ m := fun hmem => hdef (hinv.defunct_iff.2 hmem)
  have hi' : ¬ d'.Defunct s i := fun hd => hi (hsuffix.subset (hinv'.defunct_iff.1 hd))
  by_cases hfree : call = .freeOrphan i
  · subst hfree
    have hsame : (d'.shape s).info i = some n := by
      rcases Call.freeOrphan_run hinv i with ⟨e, he⟩ | ⟨-, he⟩ | ⟨d1, -, hl, -⟩
      · rw [hrun] at he
        rw [(Prod.mk.inj he).2]
        exact hn
      · rw [hrun] at he
        rw [(Prod.mk.inj he).2]
        exact hn
      · obtain ⟨ino, hino, h0⟩ := (hinv.lists.mem i).1 (.inl hl)
        rw [Space.shape_info hino] at hn
        cases hn
        exact absurd h0 hlink
    exact ⟨n, hsame, hlink, hdir, hi'⟩
  · obtain ⟨n', hn', hdir', h0⟩ := hfate.kept i n hn hi hfree fun _ f hf => htakes _ f i hf
    exact ⟨n', hn', fun h0' => hlink (h0.1 h0'), hdir'.trans hdir, hi'⟩

/-- **A volume that has been formatted**; when it is mounted, its working state is well formed. -/
structure PosixVolume.Sound (vol : PosixVolume) : Prop where
  version : redDiskLayoutIsSupported vol.geo.core.ulVersion
  pos : 0 < vol.geo.core.ulInodeCount
  count : vol.geo.core.ulInodeCount ≤ UINT32_MAX
  committed : ∃ l m, Inv vol.geo vol.disk.committed l m
  working : vol.fMounted → ∃ l m, Inv vol.geo vol.disk.toOrphanSpace l m

/-- A volume that is not mounted is sound whatever its flags are. -/
lemma PosixVolume.Sound.reset {vol : PosixVolume} (hs : vol.Sound) : PosixVolume.Sound
    { vol with
      fMounted := false
      disk := { vol.disk with fBranched := false, fReadOnly := false } } :=
  ⟨hs.version, hs.pos, hs.count, hs.committed, by simp⟩

/-- **A volume keeps an open inode**, which is as `Q` says. A volume that is not mounted only keeps
its root directory, for those who are `atRoot`. -/
structure PosixVolume.Keeps (vol : PosixVolume) (i : ℕ) (Q : Info → Prop) (atRoot : Prop) :
    Prop where
  mounted : vol.fMounted → ∃ n, (vol.disk.shape vol.geo).info i = some n ∧
    ¬ vol.disk.Defunct vol.geo i ∧ Q n
  unmounted : vol.fMounted = false → i = INODE_ROOTDIR ∧ atRoot

lemma PosixVolume.Keeps.mono {vol : PosixVolume} {i : ℕ} {Q Q' : Info → Prop} {atRoot : Prop}
    (h : vol.Keeps i Q atRoot) (hQ : ∀ n, Q n → Q' n) : vol.Keeps i Q' atRoot where
  mounted hm := by
    obtain ⟨n, hn, hdef, hq⟩ := h.mounted hm
    exact ⟨n, hn, hdef, hQ n hq⟩
  unmounted := h.unmounted

/-- The volume and the inode number of an open inode in use. -/
def OpenInode.key (oi : OpenInode) : Option (ℕ × ℕ) :=
  if oi.ulInode = INODE_INVALID then none else some (oi.bVolNum, oi.ulInode)

/-- An open inode with one reference less. -/
def OpenInode.deref (oi : OpenInode) : OpenInode :=
  if oi.uRefs = 1 then { oi with ulInode := INODE_INVALID, uRefs := 0 }
  else { oi with uRefs := oi.uRefs - 1 }

namespace PosixState

/-- The open inode that a reference is to. -/
def ptr (p : PosixState) : Ref → Option ℕ
  | .inl h => (p.gaHandle h).pOpenIno
  | .inr t => (p.gaTask t).pCwd

/-- The count of an open inode. -/
def refs (p : PosixState) (o : ℕ) : ℕ := (p.gaOpenInos o).uRefs

/-- The volume and the inode number of an open inode in use. -/
def key (p : PosixState) (o : ℕ) : Option (ℕ × ℕ) := (p.gaOpenInos o).key

/-- What an inode has to be for a reference: a working directory is a directory, and a handle knows
whether it is for one. -/
def Fits (p : PosixState) : Ref → Info → Prop
  | .inl h, n => (p.gaHandle h).fDirectory = n.fDirectory
  | .inr _, n => n.fDirectory = true

/-- All open inodes for a key are marked as orphans. -/
def Marked (p : PosixState) (x : ℕ × ℕ) : Prop :=
  ∀ o ∈ objects, p.key o = some x → (p.gaOpenInos o).fOrphan

/-- **A volume keeps the inode of a reference.** -/
def Serves (p : PosixState) (r : Ref) (x : ℕ × ℕ) : Prop :=
  (p.gaRedVolume x.1).Keeps x.2 (fun n => p.Fits r n ∧ (n.uNLink = 0 → p.Marked x))
    (r.isRight = true)

/-- **The invariant inside of a call**: `ptr` are the references, of which `X` are not served. -/
structure Good (X : Set Ref) (ptr : Ref → Option ℕ) (p : PosixState) : Prop where
  table : Refs.Counted refSet objects ptr p.refs p.key
  current : p.gbRedVolNum < volumeCount
  sound : ∀ v < volumeCount, (p.gaRedVolume v).Sound
  valid : ∀ r x, Refs.view ptr p.key r = some x → x.1 < volumeCount
  served : ∀ r ∉ X, ∀ x, Refs.view ptr p.key r = some x → p.Serves r x

/-- **What the functions on open inodes leave alone.** -/
structure Frame (p p' : PosixState) : Prop where
  inited : p'.gfPosixInited = p.gfPosixInited
  handle : p'.gaHandle = p.gaHandle
  task : p'.gaTask = p.gaTask
  generation : p'.gauGeneration = p.gauGeneration
  mounted : ∀ v, (p'.gaRedVolume v).fMounted = (p.gaRedVolume v).fMounted
  geo : ∀ v, (p'.gaRedVolume v).geo = (p.gaRedVolume v).geo

lemma Frame.refl (p : PosixState) : Frame p p := ⟨rfl, rfl, rfl, rfl, fun _ => rfl, fun _ => rfl⟩

lemma Frame.trans {p p' p'' : PosixState} (h : Frame p p') (h' : Frame p' p'') : Frame p p'' where
  inited := h'.inited.trans h.inited
  handle := h'.handle.trans h.handle
  task := h'.task.trans h.task
  generation := h'.generation.trans h.generation
  mounted v := (h'.mounted v).trans (h.mounted v)
  geo v := (h'.geo v).trans (h.geo v)

variable {X : Set Ref} {ptr : Ref → Option ℕ} {p p' : PosixState} {r : Ref} {v i o : ℕ}
  {x : ℕ × ℕ}

/-! ## The tables -/

lemma key_eq_some : p.key o = some (v, i) ↔
    i ≠ INODE_INVALID ∧ (p.gaOpenInos o).bVolNum = v ∧ (p.gaOpenInos o).ulInode = i := by
  rw [key, OpenInode.key]
  split_ifs with h
  · simp only [false_iff]
    rintro ⟨hi, -, rfl⟩
    exact hi h
  · simp only [Option.some.injEq, Prod.mk.injEq]
    constructor
    · rintro ⟨rfl, rfl⟩
      exact ⟨h, rfl, rfl⟩
    · rintro ⟨-, rfl, rfl⟩
      exact ⟨rfl, rfl⟩

lemma key_eq_none : p.key o = none ↔ (p.gaOpenInos o).ulInode = INODE_INVALID := by
  rw [key, OpenInode.key]
  split_ifs with h
  · simp [h]
  · simp [h]

/-- A change of one open inode, seen as one of keys. -/
lemma key_setOpenIno (f : OpenInode → OpenInode) :
    (p.setOpenIno o f).key = Function.update p.key o (f (p.gaOpenInos o)).key := by
  funext j
  by_cases hj : j = o
  · subst hj
    simp [key, setOpenIno]
  · simp [key, setOpenIno, hj]

/-- A change of one open inode, seen as one of counts. -/
lemma refs_setOpenIno (f : OpenInode → OpenInode) :
    (p.setOpenIno o f).refs = Function.update p.refs o (f (p.gaOpenInos o)).uRefs := by
  funext j
  by_cases hj : j = o
  · subst hj
    simp [refs, setOpenIno]
  · simp [refs, setOpenIno, hj]

/-- What `OpenInoFind()` does when the inode is open. -/
lemma openInoFind_some (hi : i ≠ INODE_INVALID) (h : ∃ o ∈ objects, p.key o = some (v, i))
    (fAlloc : Bool) :
    ∃ o ∈ objects, p.key o = some (v, i) ∧ openInoFind v i fAlloc p = (.ok (some o), p) := by
  have hscan := (Refs.scan_eq
    (fun o => (p.gaOpenInos o).ulInode == i && (p.gaOpenInos o).bVolNum == v)
    (fun o => (p.gaOpenInos o).ulInode == INODE_INVALID) (List.range openInodeCount) none).1
  rw [openInoFind, Op.get_bind_run]
  rcases hfind : (List.range openInodeCount).find?
    (fun o => (p.gaOpenInos o).ulInode == i && (p.gaOpenInos o).bVolNum == v) with _ | o
  · obtain ⟨o, ho, hkey⟩ := h
    obtain ⟨-, hv, hi'⟩ := key_eq_some.1 hkey
    have hnot := List.find?_eq_none.1 hfind o (List.mem_range.2 (Finset.mem_range.1 ho))
    simp [hv, hi'] at hnot
  · have ho := List.mem_range.1 (List.mem_of_find?_eq_some hfind)
    have hhit := List.find?_some hfind
    simp only [Bool.and_eq_true, beq_iff_eq] at hhit
    refine ⟨o, Finset.mem_range.2 ho, key_eq_some.2 ⟨hi, hhit.2, hhit.1⟩, ?_⟩
    dsimp only
    rw [hscan, hfind]
    rfl

/-- What `OpenInoFind()` does when the inode is not open. -/
lemma openInoFind_none (hi : i ≠ INODE_INVALID) (h : ∀ o ∈ objects, p.key o ≠ some (v, i)) :
    openInoFind v i false p = (.ok none, p) ∧ ((∃ o ∈ objects, p.key o = none) →
      ∃ o ∈ objects, p.key o = none ∧ openInoFind v i true p =
        (.ok (some o), p.setOpenIno o fun _ => ⟨i, v, false, 0⟩)) := by
  have hscan := Refs.scan_eq
    (fun o => (p.gaOpenInos o).ulInode == i && (p.gaOpenInos o).bVolNum == v)
    (fun o => (p.gaOpenInos o).ulInode == INODE_INVALID) (List.range openInodeCount) none
  have hnone : (List.range openInodeCount).find?
      (fun o => (p.gaOpenInos o).ulInode == i && (p.gaOpenInos o).bVolNum == v) = none := by
    refine List.find?_eq_none.2 fun o ho hhit => ?_
    simp only [Bool.and_eq_true, beq_iff_eq] at hhit
    exact h o (Finset.mem_range.2 (List.mem_range.1 ho)) (key_eq_some.2 ⟨hi, hhit.2, hhit.1⟩)
  obtain ⟨hfirst, hsecond⟩ := hscan
  rw [hnone] at hfirst
  refine ⟨?_, ?_⟩
  · rw [openInoFind, Op.get_bind_run]
    dsimp only
    rw [hfirst]
    rfl
  · rintro ⟨o', ho', hfree'⟩
    rcases hfind : (List.range openInodeCount).find?
      (fun o => (p.gaOpenInos o).ulInode == INODE_INVALID) with _ | o
    · have hnot := List.find?_eq_none.1 hfind o' (List.mem_range.2 (Finset.mem_range.1 ho'))
      simp [key_eq_none.1 hfree'] at hnot
    · have ho := List.mem_range.1 (List.mem_of_find?_eq_some hfind)
      have hfree := List.find?_some hfind
      refine ⟨o, Finset.mem_range.2 ho, key_eq_none.2 (beq_iff_eq.1 hfree), ?_⟩
      rw [openInoFind, Op.get_bind_run]
      dsimp only
      rw [hfirst, hsecond hnone, hfind]
      rfl

/-- A change of the counts that leaves the other parts of the state alone. -/
structure Acquired (ptr : Ref → Option ℕ) (p : PosixState) (r : Ref) (x : ℕ × ℕ) (o : ℕ)
    (q : PosixState) : Prop where
  table : Refs.Counted refSet objects (Function.update ptr r (some o)) q.refs q.key
  view : Refs.view (Function.update ptr r (some o)) q.key =
    Function.update (Refs.view ptr p.key) r (some x)
  same : q = { p with gaOpenInos := q.gaOpenInos }
  flag : ∀ j ∈ objects, ∀ y, q.key j = some y →
    p.key j = some y ∧ (q.gaOpenInos j).fOrphan = (p.gaOpenInos j).fOrphan ∨
      y = x ∧ ∀ r', Refs.view ptr p.key r' ≠ some y

/-- **A reference is made**: `OpenInoFind()` finds an open inode for it, which is counted once
more. -/
lemma acquire (hmax : openInodeCount ≤ UINT16_MAX)
    (h : Refs.Counted refSet objects ptr p.refs p.key) (hr : r ∈ refSet) (hnone : ptr r = none)
    (hi : i ≠ INODE_INVALID) :
    ∃ o g, openInoFind v i true p = (.ok (some o), { p with gaOpenInos := g }) ∧
      Acquired ptr p r (v, i) o (({ p with gaOpenInos := g }).setOpenIno o fun oi =>
        { oi with uRefs := (oi.uRefs + 1) % 65536 }) := by
  by_cases hopen : ∃ o ∈ objects, p.key o = some (v, i)
  · obtain ⟨o, ho, hkey, hrun⟩ := openInoFind_some hi hopen true
    have hlt := h.refs_lt hr hnone ho
    rw [card_refSet, objects, Finset.card_range] at hlt
    have hmod : (p.refs o + 1) % 65536 = p.refs o + 1 := by
      have : UINT16_MAX = 65535 := rfl
      omega
    refine ⟨o, p.gaOpenInos, hrun, ?_⟩
    have hkey' : (p.setOpenIno o fun oi => { oi with uRefs := (oi.uRefs + 1) % 65536 }).key =
        p.key := by
      rw [key_setOpenIno]
      exact Function.update_eq_self o p.key
    have hrefs : (p.setOpenIno o fun oi => { oi with uRefs := (oi.uRefs + 1) % 65536 }).refs =
        Function.update p.refs o (p.refs o + 1) := by
      rw [refs_setOpenIno]
      exact congrArg (Function.update p.refs o) hmod
    refine ⟨?_, ?_, rfl, ?_⟩
    · rw [hkey', hrefs]
      exact h.attach hr hnone ho hkey
    · rw [hkey', Refs.view_attach, hkey]
    · intro j _ y hy
      rw [hkey'] at hy
      refine .inl ⟨hy, ?_⟩
      by_cases hj : j = o
      · subst hj
        simp [setOpenIno]
      · simp [setOpenIno, hj]
  · push Not at hopen
    obtain ⟨o, ho, hfree, hrun⟩ :=
      (openInoFind_none hi hopen).2 (h.exists_free hr hnone card_refSet.le)
    refine ⟨o, _, hrun, ?_⟩
    have hset : ((p.setOpenIno o fun _ => ⟨i, v, false, 0⟩).setOpenIno o fun oi =>
        { oi with uRefs := (oi.uRefs + 1) % 65536 }) =
          p.setOpenIno o fun _ => ⟨i, v, false, 1⟩ := by
      rw [setOpenIno, setOpenIno, setOpenIno]
      dsimp only
      rw [Function.update_self, Function.update_idem]
      rfl
    have hkey' : (p.setOpenIno o fun _ => ⟨i, v, false, 1⟩).key =
        Function.update p.key o (some (v, i)) := by
      rw [key_setOpenIno]
      exact congrArg (Function.update p.key o) (if_neg hi)
    change Acquired ptr p r (v, i) o ((p.setOpenIno o fun _ => ⟨i, v, false, 0⟩).setOpenIno o
      fun oi => { oi with uRefs := (oi.uRefs + 1) % 65536 })
    rw [hset]
    refine ⟨?_, ?_, rfl, ?_⟩
    · rw [hkey', refs_setOpenIno]
      exact h.attachNew hr hnone ho hfree hopen
    · rw [hkey', h.view_attachNew hfree]
    · intro j _ y hy
      rw [hkey'] at hy
      by_cases hj : j = o
      · subst hj
        rw [Function.update_self] at hy
        cases hy
        exact .inr ⟨rfl, h.fresh_iff.1 hopen⟩
      · rw [Function.update_of_ne hj] at hy
        exact .inl ⟨hy, by simp [setOpenIno, hj]⟩

/-! ## The invariant inside of a call -/

/-- A volume has an inode to offer for a new reference. -/
def Offers (p : PosixState) (r : Ref) (x : ℕ × ℕ) : Prop :=
  x.1 < volumeCount ∧
    (p.gaRedVolume x.1).Keeps x.2 (fun n => p.Fits r n ∧ n.uNLink ≠ 0) (r.isRight = true)

/-- **A reference that has been made is served.** -/
lemma Good.attach {q : PosixState} (h : Good X ptr p) (hq : Acquired ptr p r x o q)
    (hopen : p'.gaOpenInos = q.gaOpenInos) (hvol : p'.gaRedVolume = p.gaRedVolume)
    (hcur : p'.gbRedVolNum = p.gbRedVolNum)
    (hfits : ∀ r' ≠ r, ∀ n, p.Fits r' n → p'.Fits r' n) (hnew : p'.Offers r x) :
    Good (X \ {r}) (Function.update ptr r (some o)) p' ∧
      Refs.view (Function.update ptr r (some o)) p'.key =
        Function.update (Refs.view ptr p.key) r (some x) := by
  have hkey : p'.key = q.key := funext fun j => congrArg (fun g => (g j).key) hopen
  have hrefs : p'.refs = q.refs := funext fun j => congrArg (fun g => (g j).uRefs) hopen
  have hview : Refs.view (Function.update ptr r (some o)) p'.key =
      Function.update (Refs.view ptr p.key) r (some x) := by rw [hkey, hq.view]
  refine ⟨⟨?_, hcur ▸ h.current, fun v hv => hvol ▸ h.sound v hv, fun r' y hy => ?_,
    fun r' hr' y hy => ?_⟩, hview⟩
  · rw [hkey, hrefs]
    exact hq.table
  · rw [hview] at hy
    by_cases hrr : r' = r
    · subst hrr
      rw [Function.update_self] at hy
      cases hy
      exact hnew.1
    · rw [Function.update_of_ne hrr] at hy
      exact h.valid r' y hy
  · rw [hview] at hy
    by_cases hrr : r' = r
    · subst hrr
      rw [Function.update_self] at hy
      cases hy
      exact hnew.2.mono fun n hn => ⟨hn.1, fun h0 => absurd h0 hn.2⟩
    · rw [Function.update_of_ne hrr] at hy
      have hserves := h.served r' (fun hx => hr' ⟨hx, hrr⟩) y hy
      rw [Serves, hvol]
      refine hserves.mono fun n hn => ⟨hfits r' hrr n hn.1, fun h0 j hj hkj => ?_⟩
      rw [hkey] at hkj
      rw [hopen]
      rcases hq.flag j hj y hkj with ⟨hkj', hflag⟩ | ⟨-, hfresh⟩
      · rw [hflag]
        exact hn.2 h0 j hj hkj'
      · exact absurd hy (hfresh r')

/-- **The invariant where the tables stay** and only volumes change, or flags of open inodes. -/
lemma Good.congr (h : Good X ptr p) (hkey : p'.key = p.key) (hrefs : p'.refs = p.refs)
    (hcur : p'.gbRedVolNum < volumeCount) (hsound : ∀ v < volumeCount, (p'.gaRedVolume v).Sound)
    (hserves : ∀ r ∉ X, ∀ x, Refs.view ptr p.key r = some x → p.Serves r x → p'.Serves r x) :
    Good X ptr p' where
  table := by
    rw [hkey, hrefs]
    exact h.table
  current := hcur
  sound := hsound
  valid r x hx := by
    rw [hkey] at hx
    exact h.valid r x hx
  served r hr x hx := by
    rw [hkey] at hx
    exact hserves r hr x hx (h.served r hr x hx)

/-- Another volume becomes the current one. -/
lemma Good.setCurrent (h : Good X ptr p) (hv : v < volumeCount) :
    Good X ptr { p with gbRedVolNum := v } :=
  h.congr rfl rfl hv h.sound fun _ _ _ _ hs => hs

lemma redCoreVolSetCurrent_run (hv : v < volumeCount) :
    redCoreVolSetCurrent v p = (.ok (), { p with gbRedVolNum := v }) := by
  rw [redCoreVolSetCurrent, if_neg (by omega)]
  rfl

/-! ## Calls of the core -/

lemma setVolume_self (f : PosixVolume → PosixVolume) :
    (p.setVolume v f).gaRedVolume v = f (p.gaRedVolume v) := Function.update_self ..

lemma setVolume_ne {w : ℕ} (hw : w ≠ v) (f : PosixVolume → PosixVolume) :
    (p.setVolume v f).gaRedVolume w = p.gaRedVolume w := Function.update_of_ne hw ..

lemma setVolume_same :
    p.setVolume v (fun vol => { vol with disk := (p.gaRedVolume v).disk }) = p := by
  rw [setVolume, Function.update_eq_self]

lemma frame_setVolume {f : PosixVolume → PosixVolume} (hm : ∀ vol, (f vol).fMounted = vol.fMounted)
    (hg : ∀ vol, (f vol).geo = vol.geo) : Frame p (p.setVolume v f) where
  inited := rfl
  handle := rfl
  task := rfl
  generation := rfl
  mounted w := by
    by_cases hw : w = v
    · rw [hw, setVolume_self, hm]
    · rw [setVolume_ne hw]
  geo w := by
    by_cases hw : w = v
    · rw [hw, setVolume_self, hg]
    · rw [setVolume_ne hw]

/-- Run a function of the core. -/
lemma onCurrent_run {α : Type} {f : FS → DiskOp α} {ret : Except RedError α} {d : NameDisk}
    (hrun : f p.gpRedVolume.geo p.gpRedVolume.disk = (ret, d)) :
    onCurrent f p =
      (ret.mapError .red, p.setVolume p.gbRedVolNum fun vol => { vol with disk := d }) := by
  rw [onCurrent]
  dsimp only
  rw [hrun]

lemma whenMounted_run {α : Type} (hm : p.gpRedVolume.fMounted) (f : FS → DiskOp α) :
    whenMounted f p = onCurrent f p := by
  rw [whenMounted, Op.get_bind_run, hm]
  rfl

lemma whenMounted_error {α : Type} (hm : p.gpRedVolume.fMounted = false) (f : FS → DiskOp α) :
    whenMounted f p = (.error .EINVAL, p) := by
  rw [whenMounted, Op.get_bind_run, hm]
  rfl

/-- The current volume has another state, and open inodes may have been marked. -/
structure Swapped (p : PosixState) (d : NameDisk) (p' : PosixState) : Prop where
  self : p'.gaRedVolume p.gbRedVolNum = { p.gpRedVolume with disk := d }
  other : ∀ w ≠ p.gbRedVolNum, p'.gaRedVolume w = p.gaRedVolume w
  current : p'.gbRedVolNum = p.gbRedVolNum
  handle : p'.gaHandle = p.gaHandle
  key : p'.key = p.key
  refs : p'.refs = p.refs
  flag : ∀ o, (p.gaOpenInos o).fOrphan → (p'.gaOpenInos o).fOrphan

lemma swapped_setVolume (d : NameDisk) :
    Swapped p d (p.setVolume p.gbRedVolNum fun vol => { vol with disk := d }) where
  self := setVolume_self _
  other _ hw := setVolume_ne hw _
  current := rfl
  handle := rfl
  key := rfl
  refs := rfl
  flag _ h := h

lemma Swapped.fits {d : NameDisk} {n n' : Info} (hs : Swapped p d p') (hn : p.Fits r n)
    (hdir : n'.fDirectory = n.fDirectory) : p'.Fits r n' := by
  cases r with
  | inl a =>
    rw [Fits, hs.handle, hdir]
    exact hn
  | inr a => exact hdir.trans hn

/-- **A volume in another state that serves what was served.** -/
lemma Good.setDisk (h : Good X ptr p) {d : NameDisk} (hs : Swapped p d p')
    (hcommitted : ∃ l m, Inv p.gpRedVolume.geo d.committed l m)
    (hworking : p.gpRedVolume.fMounted → ∃ l m, Inv p.gpRedVolume.geo d.toOrphanSpace l m ∧
      ∀ r ∉ X, ∀ i n, Refs.view ptr p.key r = some (p.gbRedVolNum, i) →
        (p.gpRedVolume.disk.shape p.gpRedVolume.geo).info i = some n →
        ¬ p.gpRedVolume.disk.Defunct p.gpRedVolume.geo i →
        ∃ n', (d.shape p.gpRedVolume.geo).info i = some n' ∧ n'.fDirectory = n.fDirectory ∧
          i ∉ m ∧ (n'.uNLink = 0 → n.uNLink = 0 ∨ p'.Marked (p.gbRedVolNum, i))) :
    Good X ptr p' := by
  have hmark {y : ℕ × ℕ} (hy : p.Marked y) : p'.Marked y := fun o ho hk =>
    hs.flag o (hy o ho (hs.key ▸ hk))
  refine h.congr hs.key hs.refs (hs.current ▸ h.current) (fun w hw => ?_)
    fun r hr x hx hserves => ?_
  · by_cases hwv : w = p.gbRedVolNum
    · have hsound := h.sound _ h.current
      rw [hwv, hs.self]
      refine ⟨hsound.version, hsound.pos, hsound.count, hcommitted, fun hm => ?_⟩
      obtain ⟨l, m, hinv, -⟩ := hworking hm
      exact ⟨l, m, hinv⟩
    · rw [hs.other w hwv]
      exact h.sound w hw
  · obtain ⟨w, i⟩ := x
    by_cases hwv : w = p.gbRedVolNum
    · subst hwv
      change (p'.gaRedVolume p.gbRedVolNum).Keeps i _ _
      rw [hs.self]
      refine ⟨fun hm => ?_, hserves.unmounted⟩
      obtain ⟨n, hn, hdef, hfit, hmarked⟩ := hserves.mounted hm
      obtain ⟨l, m, hinv, hkept⟩ := hworking hm
      obtain ⟨n', hn', hdir, hmem, hlink⟩ := hkept r hr i n hx hn hdef
      refine ⟨n', hn', fun hd => hmem (hinv.defunct_iff.1 hd), hs.fits hfit hdir, fun h0 => ?_⟩
      exact (hlink h0).elim (fun h0' => hmark (hmarked h0')) id
    · change (p'.gaRedVolume w).Keeps i _ _
      rw [hs.other w hwv]
      exact hserves.mono fun n hn => ⟨hs.fits hn.1 rfl, fun h0 => hmark (hn.2 h0)⟩

/-- **A call of the core** keeps the inodes that are served, if it takes no name from one of them
without leaving it as an orphan. -/
lemma Good.core (h : Good X ptr p) (hm : p.gpRedVolume.fMounted) {call : Call}
    (hlegal : call.Legal p.gpRedVolume.geo p.gpRedVolume.disk) (honward : call.Onward)
    {ret : Except RedError Unit} {d : NameDisk}
    (hrun : call.exec p.gpRedVolume.geo p.gpRedVolume.disk = (ret, d)) (hs : Swapped p d p')
    (hsafe : ∀ r ∉ X, ∀ i, Refs.view ptr p.key r = some (p.gbRedVolNum, i) →
      call ≠ .freeOrphan i ∧ (ret = .ok () → ∀ f n,
        call.Takes (p.gpRedVolume.disk.names p.gpRedVolume.geo) f i →
        (p.gpRedVolume.disk.shape p.gpRedVolume.geo).info i = some n →
        ∃ n', n.dropped f = some n' ∧ (n'.uNLink = 0 → p'.Marked (p.gbRedVolNum, i)))) :
    Good X ptr p' := by
  have hsound : p.gpRedVolume.Sound := h.sound _ h.current
  obtain ⟨l, m, hinv⟩ := hsound.working hm
  have hafter := Call.run_after hsound.version hinv hlegal honward
  have hd : call.run p.gpRedVolume.geo p.gpRedVolume.disk = d := congrArg Prod.snd hrun
  rw [hd] at hafter
  obtain ⟨m', ⟨l', hinv'⟩, hsuffix, hfate⟩ := Call.run_fate hsound.version hinv hlegal honward hrun
  refine h.setDisk hs ?_ fun _ => ⟨l', m', hinv', fun r hr i n hx hn hdef => ?_⟩
  · rcases hafter.committed with hsame | hnew
    · rw [hsame]
      exact hsound.committed
    · exact hnew
  · have hi : i ∉ m := fun hmem => hdef (hinv.defunct_iff.2 hmem)
    have hi' : i ∉ m' := fun hmem => hi (hsuffix.subset hmem)
    obtain ⟨hfree, htakes⟩ := hsafe r hr i hx
    by_cases htaken :
        ret = .ok () ∧ ∃ f, call.Takes (p.gpRedVolume.disk.names p.gpRedVolume.geo) f i
    · obtain ⟨hok, f, hf⟩ := htaken
      obtain ⟨n', hn', hmarked⟩ := htakes hok f n hf hn
      refine ⟨n', (hfate.dropped hok i n f hn hi hf).trans hn', ?_, hi',
        fun h0 => .inr (hmarked h0)⟩
      exact Info.dropped_fDirectory hn'
    · obtain ⟨n', hn', hdir, hlink⟩ := hfate.kept i n hn hi hfree
        fun hok f hf => htaken ⟨hok, f, hf⟩
      exact ⟨n', hn', hdir, hi', fun h0 => .inl (hlink.1 h0)⟩

/-- A call of the core that takes no name and frees no orphan of the live list. -/
lemma Good.core_of_keeps (h : Good X ptr p) (hm : p.gpRedVolume.fMounted) {call : Call}
    (hlegal : call.Legal p.gpRedVolume.geo p.gpRedVolume.disk) (honward : call.Onward)
    {ret : Except RedError Unit} {d : NameDisk}
    (hrun : call.exec p.gpRedVolume.geo p.gpRedVolume.disk = (ret, d)) (hs : Swapped p d p')
    (hfree : ∀ i, call ≠ .freeOrphan i) (htakes : ∀ M f i, ¬ call.Takes M f i) : Good X ptr p' :=
  h.core hm hlegal honward hrun hs fun _ _ i _ =>
    ⟨hfree i, fun _ f _ hf => absurd hf (htakes _ f i)⟩

/-- A volume in another state that has what it had to offer. -/
lemma Offers.setDisk (h : p.Offers r x) {d : NameDisk} (hs : Swapped p d p')
    (hkept : ∀ i n, x = (p.gbRedVolNum, i) →
      (p.gpRedVolume.disk.shape p.gpRedVolume.geo).info i = some n → n.uNLink ≠ 0 →
      ¬ p.gpRedVolume.disk.Defunct p.gpRedVolume.geo i →
      ∃ n', (d.shape p.gpRedVolume.geo).info i = some n' ∧ n'.fDirectory = n.fDirectory ∧
        n'.uNLink ≠ 0 ∧ ¬ d.Defunct p.gpRedVolume.geo i) : p'.Offers r x := by
  obtain ⟨w, i⟩ := x
  obtain ⟨hlt, hkeeps⟩ := h
  refine ⟨hlt, ?_⟩
  by_cases hwv : w = p.gbRedVolNum
  · subst hwv
    change (p'.gaRedVolume p.gbRedVolNum).Keeps i _ _
    rw [hs.self]
    refine ⟨fun hm => ?_, hkeeps.unmounted⟩
    obtain ⟨n, hn, hdef, hfit, hlink⟩ := hkeeps.mounted hm
    obtain ⟨n', hn', hdir, hlink', hdef'⟩ := hkept i n rfl hn hlink hdef
    exact ⟨n', hn', hdef', hs.fits hfit hdir, hlink'⟩
  · change (p'.gaRedVolume w).Keeps i _ _
    rw [hs.other w hwv]
    exact hkeeps.mono fun n hn => ⟨hs.fits hn.1 rfl, hn.2⟩

/-- What a volume has to offer is still there after a call of the core that takes no name: it is no
orphan. -/
lemma Good.core_offers (h : Good X ptr p) (hm : p.gpRedVolume.fMounted) {call : Call}
    (hlegal : call.Legal p.gpRedVolume.geo p.gpRedVolume.disk) (honward : call.Onward)
    {ret : Except RedError Unit} {d : NameDisk}
    (hrun : call.exec p.gpRedVolume.geo p.gpRedVolume.disk = (ret, d)) (hs : Swapped p d p')
    (htakes : ∀ M f i, ¬ call.Takes M f i) (hoff : p.Offers r x) : p'.Offers r x := by
  have hsound : p.gpRedVolume.Sound := h.sound _ h.current
  obtain ⟨l, m, hinv⟩ := hsound.working hm
  refine hoff.setDisk hs fun i n _ hn hlink hdef => ?_
  have hlinked : p.gpRedVolume.disk.Linked p.gpRedVolume.geo i n.fDirectory :=
    ⟨n, hn, hlink, rfl, hdef⟩
  obtain ⟨n', hn', hlink', hdir, hdef'⟩ :=
    hlinked.exec hsound.version hinv hlegal honward hrun htakes
  exact ⟨n', hn', hdir, hlink', hdef'⟩

/-! ## References that are given up -/

/-- The references that are left are served as before. -/
lemma Good.detach (h : Good (insert r X) ptr p) (hptr : ptr r = some o) :
    Good X (Function.update ptr r none) (p.setOpenIno o OpenInode.deref) ∧
      Refs.view (Function.update ptr r none) (p.setOpenIno o OpenInode.deref).key =
        Function.update (Refs.view ptr p.key) r none := by
  have hkey : (p.setOpenIno o OpenInode.deref).key =
      if p.refs o = 1 then Function.update p.key o none else p.key := by
    rw [key_setOpenIno]
    split_ifs with hone
    · congr 1
      rw [OpenInode.deref, if_pos (show (p.gaOpenInos o).uRefs = 1 from hone)]
      rfl
    · have hsame : (p.gaOpenInos o).deref.key = p.key o := by
        rw [OpenInode.deref, if_neg (show ¬ (p.gaOpenInos o).uRefs = 1 from hone)]
        rfl
      rw [hsame, Function.update_eq_self]
  have hrefs : (p.setOpenIno o OpenInode.deref).refs = Function.update p.refs o (p.refs o - 1) := by
    rw [refs_setOpenIno]
    congr 1
    by_cases hone : (p.gaOpenInos o).uRefs = 1
    · rw [OpenInode.deref, if_pos hone, refs, hone]
    · rw [OpenInode.deref, if_neg hone]
      rfl
  have hview := h.table.view_detach hptr
  refine ⟨⟨?_, h.current, h.sound, fun r' x hx => ?_, fun r' hr' x hx => ?_⟩, by rw [hkey, hview]⟩
  · rw [hkey, hrefs]
    exact h.table.detach hptr
  · rw [hkey, hview] at hx
    by_cases hrr : r' = r
    · rw [hrr, Function.update_self] at hx
      cases hx
    · rw [Function.update_of_ne hrr] at hx
      exact h.valid r' x hx
  · rw [hkey, hview] at hx
    by_cases hrr : r' = r
    · rw [hrr, Function.update_self] at hx
      cases hx
    · rw [Function.update_of_ne hrr] at hx
      refine (h.served r' (by simp [hrr, hr']) x hx).mono fun n hn =>
        ⟨hn.1, fun h0 j hj hkj => ?_⟩
      have hkj' : p.key j = some x := by
        rw [hkey] at hkj
        split_ifs at hkj with hone
        · by_cases hjo : j = o
          · rw [hjo, Function.update_self] at hkj
            cases hkj
          · rwa [Function.update_of_ne hjo] at hkj
        · exact hkj
      have hflag := hn.2 h0 j hj hkj'
      by_cases hjo : j = o
      · subst hjo
        rw [setOpenIno]
        dsimp only
        rw [Function.update_self, OpenInode.deref]
        split_ifs
        · exact hflag
        · exact hflag
      · simpa [setOpenIno, hjo] using hflag

/-- A call of the core on a mounted volume. -/
lemma redCore_run {call : Call} (hm : p.gpRedVolume.fMounted) {ret : Except RedError Unit}
    {d : NameDisk} (hrun : call.exec p.gpRedVolume.geo p.gpRedVolume.disk = (ret, d)) :
    redCore call p =
      (ret.mapError .red, p.setVolume p.gbRedVolNum fun vol => { vol with disk := d }) := by
  rw [redCore, whenMounted_run hm, onCurrent_run hrun]

/-- References that are not served. -/
lemma Good.weaken (h : Good X ptr p) {Y : Set Ref} (hXY : X ⊆ Y) : Good Y ptr p where
  table := h.table
  current := h.current
  sound := h.sound
  valid := h.valid
  served r hr := h.served r fun hx => hr (hXY hx)

/-- **The cleanup of the last reference.** If it fails, the inode is still there. -/
lemma Good.cleanup (h : Good X ptr p) (hptr : ptr r = some o) (hone : p.refs o = 1) :
    ∃ ret p1, (do
        redCoreVolSetCurrent (p.gaOpenInos o).bVolNum
        .when (p.gaOpenInos o).fOrphan (redCore (.freeOrphan (p.gaOpenInos o).ulInode))) p =
        (ret, p1) ∧
      Good (insert r X) ptr p1 ∧ (ret ≠ .ok () → Good X ptr p1) ∧
      p1.gaOpenInos = p.gaOpenInos ∧ p1.gbRedVolNum = (p.gaOpenInos o).bVolNum ∧ Frame p p1 ∧
      ∀ r' x, p.Offers r' x → p1.Offers r' x := by
  obtain ⟨⟨v, i⟩, hkey, hview⟩ := h.table.view_some hptr
  obtain ⟨-, hv, hi⟩ := key_eq_some.1 hkey
  have hlt : v < volumeCount := h.valid r _ hview
  rw [hv, hi, Op.bind_ok (redCoreVolSetCurrent_run hlt)]
  have h0 := h.setCurrent hlt
  have hframe0 : Frame p { p with gbRedVolNum := v } :=
    ⟨rfl, rfl, rfl, rfl, fun _ => rfl, fun _ => rfl⟩
  have hX := Set.subset_insert r X
  by_cases hflag : (p.gaOpenInos o).fOrphan = true
  swap
  · rw [Op.when_neg hflag]
    exact ⟨.ok (), _, rfl, h0.weaken hX, fun hne => absurd rfl hne, rfl, rfl, hframe0,
      fun _ _ hoff => hoff⟩
  rw [Op.when_pos hflag]
  rcases hm : (p.gaRedVolume v).fMounted with _ | _
  · exact ⟨_, _, whenMounted_error (p := { p with gbRedVolNum := v }) hm _, h0.weaken hX,
      fun _ => h0, rfl, rfl, hframe0, fun _ _ hoff => hoff⟩
  rcases hrun : (Call.freeOrphan i).exec (p.gaRedVolume v).geo (p.gaRedVolume v).disk with ⟨ret, d⟩
  refine ⟨_, _, redCore_run (p := { p with gbRedVolNum := v }) hm hrun, ?_, fun hne => ?_, rfl, rfl,
    hframe0.trans (frame_setVolume (fun _ => rfl) fun _ => rfl), fun r' x hoff => ?_⟩
  · refine (h0.weaken hX).core hm (by simp [Call.Legal]) (by simp [Call.Onward]) hrun
      (swapped_setVolume d) fun r' hr' i' hx' => ?_
    refine ⟨?_, fun _ f n hf => absurd hf (by simp [Call.Takes])⟩
    rintro ⟨⟩
    -- No other reference is to the open inode.
    have hsame := h.table.ptr_eq_of_view hx' hview
    rw [hptr] at hsame
    exact hr' (Set.mem_insert_iff.2 (.inl (h.table.eq_of_refs_one hsame hptr hone)))
  · obtain ⟨l, m, hinv⟩ := (h.sound v hlt).working hm
    have hd : d = (p.gaRedVolume v).disk := by
      rcases Call.freeOrphan_run hinv i with ⟨e, he⟩ | ⟨-, he⟩ | ⟨d', he, -⟩
      · rw [hrun] at he
        exact congrArg Prod.snd he
      · rw [hrun] at he
        exact congrArg Prod.snd he
      · rw [hrun] at he
        cases he
        exact absurd rfl hne
    rw [hd, setVolume_same]
    exact h0
  · have hoff0 : ({ p with gbRedVolNum := v } : PosixState).Offers r' x := hoff
    exact h0.core_offers hm (by simp [Call.Legal]) (by simp [Call.Onward]) hrun
      (swapped_setVolume d) (by simp [Call.Takes]) hoff0

lemma frame_setOpenIno (f : OpenInode → OpenInode) : Frame p (p.setOpenIno o f) :=
  ⟨rfl, rfl, rfl, rfl, fun _ => rfl, fun _ => rfl⟩

/-- The end of `OpenInoDeref()`. -/
lemma deref_end (hone : p.refs o = 1) :
    ((p.setOpenIno o fun oi => { oi with ulInode := INODE_INVALID }).setOpenIno o fun oi =>
      { oi with uRefs := oi.uRefs - 1 }) = p.setOpenIno o OpenInode.deref := by
  have hone' : (p.gaOpenInos o).uRefs = 1 := hone
  simp [setOpenIno, OpenInode.deref, hone']

/-- `OpenInoDeref()` of a reference that is not the last one. -/
lemma openInoDeref_shared (ho : o < openInodeCount) (hpos : p.refs o ≠ 0) (hone : p.refs o ≠ 1)
    (fDoCleanup fPropagate : Bool) : openInoDeref o fDoCleanup fPropagate p =
      (.ok (), p.setOpenIno o OpenInode.deref) := by
  have hpos' : ¬ (p.gaOpenInos o).uRefs = 0 := hpos
  have hone' : ¬ (p.gaOpenInos o).uRefs = 1 := hone
  rw [openInoDeref, Op.get_bind_run, if_neg (by omega), if_neg hpos', Op.when_neg hone',
    Op.pure_bind_run, Op.modify_run]
  simp [setOpenIno, OpenInode.deref, hone']

/-- The cleanup of `OpenInoDeref()` is done. -/
abbrev DoesCleanup (p : PosixState) (fDoCleanup : Bool) : Prop :=
  deleteOpen = true ∧ fDoCleanup = true ∧ p.gpRedVolume.disk.fReadOnly = false

/-- `OpenInoDeref()` of the last reference, without a cleanup. -/
lemma openInoDeref_silent (ho : o < openInodeCount) (hone : p.refs o = 1) {fDoCleanup : Bool}
    (hclean : ¬ p.DoesCleanup fDoCleanup) (fPropagate : Bool) :
    openInoDeref o fDoCleanup fPropagate p = (.ok (), p.setOpenIno o OpenInode.deref) := by
  have hone' : (p.gaOpenInos o).uRefs = 1 := hone
  rw [openInoDeref, Op.get_bind_run, if_neg (by omega), if_neg (by omega), Op.when_pos hone',
    Op.when_neg hclean]
  exact congrArg (Prod.mk _) (deref_end hone)

/-- `OpenInoDeref()` of the last reference, for what the cleanup does. -/
lemma openInoDeref_last (ho : o < openInodeCount) (hone : p.refs o = 1) {fDoCleanup : Bool}
    (hclean : p.DoesCleanup fDoCleanup) {ret : Except PosixError Unit} {p1 : PosixState}
    (hrun : (do
      redCoreVolSetCurrent (p.gaOpenInos o).bVolNum
      .when (p.gaOpenInos o).fOrphan (redCore (.freeOrphan (p.gaOpenInos o).ulInode)) :
        PosixOp Unit) p = (ret, p1))
    (hopen : p1.gaOpenInos = p.gaOpenInos) (fPropagate : Bool) :
    openInoDeref o fDoCleanup fPropagate p =
      if fPropagate = true ∧ ret ≠ .ok () then (ret, p1)
      else (.ok (), p1.setOpenIno o OpenInode.deref) := by
  have hone' : (p.gaOpenInos o).uRefs = 1 := hone
  have hone1 : p1.refs o = 1 := (congrArg (fun g => (g o).uRefs) hopen).trans hone
  rw [openInoDeref, Op.get_bind_run, if_neg (by omega), if_neg (by omega), Op.when_pos hone',
    Op.when_pos hclean]
  by_cases hpass : fPropagate = true ∧ ret ≠ .ok ()
  · rw [if_pos hpass]
    obtain ⟨hprop, hne⟩ := hpass
    rcases ret with e | ⟨⟩
    · refine Op.bind_error (Op.bind_error ?_)
      rw [Op.attempt_bind_run, hrun, Op.when_pos hprop]
      rfl
    · exact absurd rfl hne
  · rw [if_neg hpass]
    have hcleaned : (Op.attempt (do
          redCoreVolSetCurrent (p.gaOpenInos o).bVolNum
          .when (p.gaOpenInos o).fOrphan (redCore (.freeOrphan (p.gaOpenInos o).ulInode))) >>=
        fun ret => .when (fPropagate = true) (.ofExcept ret) : PosixOp Unit) p = (.ok (), p1) := by
      rw [Op.attempt_bind_run, hrun]
      by_cases hprop : fPropagate = true
      · rw [Op.when_pos hprop]
        have hret : ret = .ok () := by
          by_contra hne
          exact hpass ⟨hprop, hne⟩
        rw [hret]
        rfl
      · rw [Op.when_neg hprop]
        rfl
    rw [Op.bind_run, Op.bind_ok hcleaned]
    exact congrArg (Prod.mk _) (deref_end hone1)

/-- **`OpenInoDeref()`** gives a reference up; it fails only when errors are passed on, and then the
reference is still there. -/
theorem Good.deref (h : Good X ptr p) (hptr : ptr r = some o) (fDoCleanup fPropagate : Bool) :
    (∃ p', openInoDeref o fDoCleanup fPropagate p = (.ok (), p') ∧
      Good X (Function.update ptr r none) p' ∧ Refs.view (Function.update ptr r none) p'.key =
        Function.update (Refs.view ptr p.key) r none ∧ Frame p p' ∧
      (p'.gbRedVolNum = p.gbRedVolNum ∨ p'.gbRedVolNum = (p.gaOpenInos o).bVolNum) ∧
      ∀ r' x, p.Offers r' x → p'.Offers r' x) ∨
    fPropagate = true ∧ ∃ e p', openInoDeref o fDoCleanup fPropagate p = (.error e, p') ∧
      Good X ptr p' ∧ p'.key = p.key ∧ Frame p p' := by
  have ho := Finset.mem_range.1 (h.table.mem r o hptr).2
  have hpos : p.refs o ≠ 0 := (h.table.refs_pos hptr).ne'
  have hdetach {p1 : PosixState} (h1 : Good (insert r X) ptr p1)
      (hopen : p1.gaOpenInos = p.gaOpenInos) (hframe : Frame p p1)
      (hoffers : ∀ r' x, p.Offers r' x → p1.Offers r' x) :
      Good X (Function.update ptr r none) (p1.setOpenIno o OpenInode.deref) ∧
        Refs.view (Function.update ptr r none) (p1.setOpenIno o OpenInode.deref).key =
          Function.update (Refs.view ptr p.key) r none ∧
        Frame p (p1.setOpenIno o OpenInode.deref) ∧
        ∀ r' x, p.Offers r' x → (p1.setOpenIno o OpenInode.deref).Offers r' x := by
    have hkey1 : p1.key = p.key := funext fun j => congrArg (fun g => (g j).key) hopen
    obtain ⟨hgood, hview⟩ := h1.detach hptr
    exact ⟨hgood, by rw [hview, hkey1], hframe.trans (frame_setOpenIno _),
      fun r' x hoff => hoffers r' x hoff⟩
  have hplain := hdetach (h.weaken (Set.subset_insert r X)) rfl (.refl p) fun _ _ hoff => hoff
  obtain ⟨hgood0, hview0, hframe0, hoffers0⟩ := hplain
  by_cases hone : p.refs o = 1
  swap
  · -- Other references are left.
    exact .inl ⟨_, openInoDeref_shared ho hpos hone fDoCleanup fPropagate, hgood0, hview0, hframe0,
      .inl rfl, hoffers0⟩
  by_cases hclean : p.DoesCleanup fDoCleanup
  swap
  · exact .inl ⟨_, openInoDeref_silent ho hone hclean fPropagate, hgood0, hview0, hframe0, .inl rfl,
      hoffers0⟩
  obtain ⟨ret, p1, hrun, hgood, hfail, hopen, hcur, hframe, hoffers⟩ := h.cleanup hptr hone
  have hderef := openInoDeref_last ho hone hclean hrun hopen fPropagate
  by_cases hpass : fPropagate = true ∧ ret ≠ .ok ()
  · rw [if_pos hpass] at hderef
    rcases ret with e | ⟨⟩
    · exact .inr ⟨hpass.1, e, p1, hderef, hfail hpass.2,
        funext fun j => congrArg (fun g => (g j).key) hopen, hframe⟩
    · exact absurd rfl hpass.2
  · rw [if_neg hpass] at hderef
    obtain ⟨hgood1, hview1, hframe1, hoffers1⟩ := hdetach hgood hopen hframe hoffers
    exact .inl ⟨_, hderef, hgood1, hview1, hframe1, .inr hcur, hoffers1⟩

end PosixState

end RelianceEdge
