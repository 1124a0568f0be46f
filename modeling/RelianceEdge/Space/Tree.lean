import RelianceEdge.Posix.Resolve
import RelianceEdge.Space.Reach

set_option relaxedAutoImplicit false
set_option autoImplicit false
set_option linter.unusedSectionVars false

/-!
# The tree of a volume

The inodes of a volume in use form a directory tree, which is what the path functions see of it.
Every directory that has not been removed is reached from the root directory by exactly one list of
names, and looking these up one after the other leads to it.

## Main definitions

* `Space.Inv.tree` — the directory tree of a volume.
* `Shape.PathTo` — the names on the way from the root directory to a directory.

## Main results

* `Space.Inv.lookup_entry` — the tree has the entries of the volume.
* `Shape.WellFormed.pathTo_unique` — a directory has one path.
* `Space.Inv.walk_pathTo` — the path of a directory leads to it.
-/

namespace RelianceEdge

variable [RedConf]

open RedConf

/-! ## Paths -/

/-- **The names on the way** from the root directory to a directory. -/
inductive Shape.PathTo (S : Shape) : List (List UInt8) → ℕ → Prop
  | root : PathTo S [] INODE_ROOTDIR
  | child {names : List (List UInt8)} {p k : ℕ} {e : Dirent} (h : S.entry (p, k) = some e)
      (hp : PathTo S names p) (hd : S.IsDir e.ulInode) :
      PathTo S (names ++ [e.acName]) e.ulInode

namespace Shape

variable {S : Shape}

lemma Linked.exists_pathTo {i : ℕ} (h : S.Linked i) : ∃ names, S.PathTo names i := by
  induction h with
  | root => exact ⟨[], .root⟩
  | child he _ hd ih =>
    obtain ⟨names, hp⟩ := ih
    exact ⟨_, .child he hp hd⟩

lemma PathTo.linked {names : List (List UInt8)} {i : ℕ} (h : S.PathTo names i) : S.Linked i := by
  induction h with
  | root => exact .root
  | child he _ hd ih => exact .child he ih hd

/-- The names on a path are those of entries. -/
lemma PathTo.mem {names : List (List UInt8)} {i : ℕ} (h : S.PathTo names i) {name : List UInt8}
    (hn : name ∈ names) : ∃ e : Dirent, e.acName = name := by
  induction h with
  | root => cases hn
  | child _ _ _ ih =>
    rcases List.mem_append.1 hn with hn | hn
    · exact ih hn
    · exact ⟨_, (List.mem_singleton.1 hn).symm⟩

namespace WellFormed

variable (h : S.WellFormed)
include h

/-- A directory lies in its parent, under one name. -/
lemma parent_of_entry {p k : ℕ} {e : Dirent} (he : S.entry (p, k) = some e)
    (hd : S.IsDir e.ulInode) : ∃ n, S.info e.ulInode = some n ∧ n.fDirectory ∧ n.ulPInode = p ∧
      S.names e.ulInode = {(p, k)} := by
  obtain ⟨n, hn, hdir⟩ := hd
  have hr : e.ulInode ≠ INODE_ROOTDIR := (h.target he).2
  have hmem : (p, k) ∈ S.names e.ulInode := ⟨e, he, rfl⟩
  have hl : n.uNLink ≠ 0 := by
    intro h0
    have hcount := h.count hn hr
    rw [h0, Nat.cast_zero, Set.encard_eq_zero] at hcount
    rw [hcount] at hmem
    exact hmem
  obtain ⟨k', -, -, -, hnames⟩ := h.name_of_dir hn hdir hr hl
  rw [hnames, Set.mem_singleton_iff] at hmem
  refine ⟨n, hn, hdir, h.parent he hn hdir, ?_⟩
  rw [hnames, hmem]

/-- **A directory has one path.** -/
lemma pathTo_unique {names : List (List UInt8)} {i : ℕ} (hp : S.PathTo names i) :
    ∀ {names' : List (List UInt8)}, S.PathTo names' i → names' = names := by
  induction hp with
  | root =>
    intro names' hp'
    generalize hi : INODE_ROOTDIR = i at hp'
    cases hp' with
    | root => rfl
    | child he _ _ => exact absurd hi.symm (h.target he).2
  | @child names p k e he hp hd ih =>
    intro names' hp'
    obtain ⟨-, -, -, -, hnames⟩ := h.parent_of_entry he hd
    generalize hi : e.ulInode = i at hp'
    cases hp' with
    | root => exact absurd hi (h.target he).2
    | @child names' p' k' e' he' hp' hd' =>
      have hmem : (p', k') ∈ S.names e.ulInode := ⟨e', he', hi.symm⟩
      rw [hnames, Set.mem_singleton_iff] at hmem
      obtain ⟨rfl, rfl⟩ := Prod.mk.inj hmem
      obtain rfl : e' = e := Option.some.inj (he'.symm.trans he)
      rw [ih hp']

end WellFormed

end Shape

/-! ## The tree -/

/-- An inode, as the path functions see it. -/
def FileNode.treeNode (s : FS) (ino : FileNode) : TreeNode :=
  match ino.data with
  | .dir d => .dir ⟨ino.ulPInode, d.slots s⟩
  | .reg data => .reg data
  | .lnk target => .lnk target

namespace Space

variable {s : FS} {sp : Space}

lemma treeNode_eq_dir {ino : FileNode} {d : Directory} (h : ino.treeNode s = .dir d) :
    ∃ dd, ino.data = .dir dd ∧ d = ⟨ino.ulPInode, dd.slots s⟩ := by
  unfold FileNode.treeNode at h
  rcases hd : ino.data with dd | _ | _
  · rw [hd] at h
    exact ⟨dd, rfl, (TreeNode.dir.inj h).symm⟩
  · rw [hd] at h
    cases h
  · rw [hd] at h
    cases h

lemma map_treeNode_eq_dir {i : ℕ} {d : Directory}
    (h : (sp.node i).map (FileNode.treeNode s) = some (.dir d)) :
    ∃ ino dd, sp.node i = some ino ∧ ino.data = .dir dd ∧ d = ⟨ino.ulPInode, dd.slots s⟩ := by
  obtain ⟨ino, hi, hn⟩ := Option.map_eq_some_iff.1 h
  obtain ⟨dd, hdd, rfl⟩ := treeNode_eq_dir hn
  exact ⟨ino, dd, hi, hdd, rfl⟩

lemma info_fDirectory {ino : FileNode} {dd : DirData} (h : ino.data = .dir dd) :
    ino.info.fDirectory := by
  rw [FileNode.info, h]
  rfl

/-- A directory of the shape is one of the volume. -/
lemma isDir_node {i : ℕ} (h : (sp.shape s).IsDir i) :
    ∃ ino dd, sp.node i = some ino ∧ ino.data = .dir dd := by
  obtain ⟨n, hn, hdir⟩ := h
  obtain ⟨ino, hi, rfl⟩ := shape_info_eq_some hn
  rcases hd : ino.data with dd | _ | _
  · exact ⟨ino, dd, hi, hd⟩
  · rw [FileNode.info, hd] at hdir
    cases hdir
  · rw [FileNode.info, hd] at hdir
    cases hdir

/-- **The directory tree of a volume.** -/
def Inv.tree (h : Inv s sp) : DirTree where
  node := fun i => (sp.node i).map (FileNode.treeNode s)
  root := by
    obtain ⟨ino, dd, hi, hd⟩ := isDir_node h.shape.root
    refine ⟨⟨ino.ulPInode, dd.slots s⟩, ?_⟩
    rw [hi, Option.map_some, FileNode.treeNode, hd]
  invalid := by
    rcases hi : sp.node INODE_INVALID with _ | ino
    · rfl
    · have hinv := h.shape.invalid
      rw [shape_info hi] at hinv
      cases hinv
  parent := by
    intro i d hnode hr hp
    obtain ⟨ino, dd, hi, hd, rfl⟩ := map_treeNode_eq_dir hnode
    obtain ⟨k, e, he, -⟩ := h.shape.attached_parent (shape_info hi) (info_fDirectory hd) hr hp
    obtain ⟨inoP, dP, hiP, hdP⟩ := isDir_node (h.shape.owner he)
    refine ⟨⟨inoP.ulPInode, dP.slots s⟩, ?_⟩
    change (sp.node ino.ulPInode).map _ = _
    rw [show sp.node ino.ulPInode = some inoP from hiP, Option.map_some, FileNode.treeNode, hdP]
  removed := by
    intro i d e hnode hr hp he
    obtain ⟨ino, dd, hi, hd, rfl⟩ := map_treeNode_eq_dir hnode
    have hl := (h.shape.parent_eq_invalid (shape_info hi) (info_fDirectory hd) hr).1 hp
    obtain ⟨k, hk⟩ := Slots.mem_iff.1 he
    have hempty := h.shape.removed (shape_info hi) (info_fDirectory hd) hr hl k
    rw [shape_entry hi hd, hk] at hempty
    cases hempty
  entry := by
    intro i d e hnode he
    obtain ⟨ino, dd, hi, hd, rfl⟩ := map_treeNode_eq_dir hnode
    obtain ⟨k, hk⟩ := Slots.mem_iff.1 he
    rw [← shape_entry hi hd] at hk
    obtain ⟨⟨n, hn⟩, -⟩ := h.shape.target hk
    obtain ⟨inoE, hE, -⟩ := shape_info_eq_some hn
    rw [hE]
    rfl

lemma Inv.tree_dir (h : Inv s sp) {i : ℕ} {ino : FileNode} {dd : DirData}
    (hi : sp.node i = some ino) (hd : ino.data = .dir dd) :
    h.tree.node i = some (.dir ⟨ino.ulPInode, dd.slots s⟩) := by
  change (sp.node i).map _ = _
  rw [hi, Option.map_some, FileNode.treeNode, hd]

lemma Inv.tree_mountDir (h : Inv s sp) {i : ℕ} {ino : FileNode} {dd : DirData}
    (hi : sp.node i = some ino) (hd : ino.data = .dir dd) :
    h.tree.mountDir i = .ok ⟨ino.ulPInode, dd.slots s⟩ :=
  DirTree.mountDir_eq_ok.2 (h.tree_dir hi hd)

lemma firstUsed_eq (l : List (Option Dirent)) (k : ℕ) : DirTree.firstUsed l k = Slots.next l k := by
  induction l generalizing k with
  | nil => rfl
  | cons o l ih =>
    rcases o with _ | e
    · exact ih (k + 1)
    · rfl

section

variable (hver : redDiskLayoutIsSupported s.core.ulVersion)
include hver

end

/-! ## Walking along a path -/

/-- An entry is found by its name. -/
lemma Inv.lookup_entry (h : Inv s sp) {p k : ℕ} {e : Dirent}
    (he : (sp.shape s).entry (p, k) = some e) :
    h.tree.redCoreLookup p e.acName = .ok e.ulInode := by
  obtain ⟨ino, dd, hp, hd⟩ := isDir_node (h.shape.owner he)
  have hlen : redNameLen e.acName = e.acName.length := e.redNameLen_acName
  have hpos : e.acName.length ≠ 0 := fun h0 => e.acName_ne_nil (List.length_eq_zero_iff.1 h0)
  have hmatch (e' : Dirent) : e'.matches e.acName ↔ e'.acName = e.acName := by
    rw [Dirent.matches, hlen, List.take_length, beq_iff_eq]
  simp only [DirTree.redCoreLookup, h.tree_mountDir hp hd, bind, Except.bind, hlen, if_neg hpos,
    if_neg (Nat.not_lt.2 e.length_le)]
  have hmem : e ∈ (dd.slots s).filterMap id := by
    rw [shape_entry hp hd] at he
    simpa using Slots.mem_iff.2 ⟨k, he⟩
  rcases hf : ((dd.slots s).filterMap id).find? (·.matches e.acName) with _ | e'
  · have hnone := List.find?_eq_none.1 hf e hmem
    exact absurd ((hmatch e).2 rfl) hnone
  · have hname : e'.acName = e.acName := (hmatch e').1 (by simpa using List.find?_some hf)
    have hmem' : some e' ∈ dd.slots s := by simpa using List.mem_of_find?_eq_some hf
    obtain ⟨k', hk'⟩ := Slots.mem_iff.1 hmem'
    rw [← shape_entry hp hd] at hk'
    obtain rfl : k' = k := h.shape.unique hk' he hname
    obtain rfl : e' = e := Option.some.inj (hk'.symm.trans he)
    rw [hf]

lemma Inv.symlinkTarget_dir (h : Inv s sp) {i : ℕ} (hd : (sp.shape s).IsDir i) :
    h.tree.symlinkTarget i = none := by
  obtain ⟨ino, dd, hi, hdd⟩ := isDir_node hd
  rw [DirTree.symlinkTarget, h.tree_dir hi hdd]

/-- **The path of a directory leads to it**, name by name. -/
theorem Inv.walk_pathTo (h : Inv s sp) (k : ℕ) {names : List (List UInt8)} {i : ℕ}
    (hp : (sp.shape s).PathTo names i) :
    ∃ q, names.foldlM (h.tree.stepFollow k) Place.rootDir = .ok ⟨i, q⟩ := by
  induction hp with
  | root => exact ⟨INODE_INVALID, rfl⟩
  | @child names p j e he _ hd ih =>
    obtain ⟨q, hq⟩ := ih
    refine ⟨p, ?_⟩
    have hstep : h.tree.stepName ⟨p, q⟩ e.acName = .ok ⟨e.ulInode, p⟩ := by
      simp only [DirTree.stepName, if_neg e.not_dot.1, if_neg e.not_dot.2, h.lookup_entry he, bind,
        Except.bind, pure, Except.pure]
    have hfollow : h.tree.follow k ⟨e.ulInode, p⟩ = .ok ⟨e.ulInode, p⟩ :=
      DirTree.follow_of_not_link (h.symlinkTarget_dir hd)
    rw [List.foldlM_append, hq]
    change h.tree.stepFollow k ⟨p, q⟩ e.acName >>= pure = _
    simp only [DirTree.stepFollow, hstep, bind, Except.bind, hfollow, pure, Except.pure]

/-- `RedPathLookup()` from the root directory, on the path of a directory. -/
theorem Inv.resolveLookup_pathTo (h : Inv s sp) {names : List (List UInt8)} {i : ℕ}
    (hp : (sp.shape s).PathTo names i) :
    h.tree.resolveLookup INODE_ROOTDIR names 0 = .ok i := by
  obtain ⟨q, hq⟩ := h.walk_pathTo RED_SYMLOOP_MAX hp
  have hparam : ¬ (INODE_ROOTDIR = INODE_INVALID ∨ ¬ (0 = 0 ∨ 0 = RED_AT_SYMLINK_NOFOLLOW)) := by
    decide
  have hlast : h.tree.lastLookup 0 = h.tree.stepFollow RED_SYMLOOP_MAX := by
    funext pos name
    exact if_neg (by decide)
  have hparent : h.tree.redCoreDirParent INODE_ROOTDIR = .ok INODE_INVALID := if_pos rfl
  rw [DirTree.resolveLookup, if_neg hparam, hparent, hlast]
  change (h.tree.resolvePath _ names Place.rootDir >>= fun pos => pure pos.ulInode) = _
  rw [DirTree.resolvePath_stepFollow, hq]
  rfl

end Space

end RelianceEdge
