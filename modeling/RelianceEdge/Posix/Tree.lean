import RelianceEdge.Posix.Names

set_option relaxedAutoImplicit false
set_option autoImplicit false
set_option linter.unusedSectionVars false

/-!
# The directory tree under a path

What the path functions see of a mounted volume: inodes that are directories, regular files or
symbolic links, and the five functions of `core.c` through which they are read. A directory is
the slots of its data blocks, in order, the free ones included.

## Main definitions

* `Dirent`, `Directory`, `TreeNode`, `DirTree` — entries, directories, inodes and trees.
* `DirTree.redCoreLookup`, `DirTree.redCoreStat`, `DirTree.redCoreDirParent`,
  `DirTree.redCoreFileRead`, `DirTree.redCoreDirRead` — the functions of `core.c`.

## Main results

* `DirTree.redCoreLookup_node` — what is looked up is an inode of the tree.
-/

namespace RelianceEdge

variable [RedConf]

open RedConf

/-! ## Trees -/

/-- A used slot of a directory: `DIRENT`, with the names `RedDirEntryCreate()` accepts. -/
structure Dirent where
  /-- `DIRENT::acName`, up to its terminator. -/
  acName : List UInt8
  /-- `DIRENT::ulInode`. -/
  ulInode : ℕ
  /-- A name is not empty. -/
  acName_ne_nil : acName ≠ []
  /-- `REDCONF_NAME_MAX` bounds a name. -/
  length_le : acName.length ≤ nameMax
  /-- A name ends at a terminator or a separator. -/
  clean : ∀ c ∈ acName, c ≠ 0 ∧ c ≠ pathSeparator
  /-- Dot and dot-dot are refused. -/
  not_dot : acName ≠ nameDot ∧ acName ≠ nameDotDot

/-- The comparison of `RedDirEntryLookup()`: the entry has the name that `pszName` starts with. -/
def Dirent.matches (e : Dirent) (pszName : CString) : Bool :=
  e.acName == pszName.take (redNameLen pszName)

lemma Dirent.redNameLen_acName (e : Dirent) : redNameLen e.acName = e.acName.length := by
  have h := redNameLen_append (s := []) e.clean (Or.inl (CString.at_nil 0))
  rwa [List.append_nil] at h

/-- A directory inode with its data. -/
structure Directory where
  /-- `INODE::ulPInode`; invalid in a directory that has been removed while it is open. -/
  ulPInode : ℕ
  /-- The entries, in the order of their indexes. -/
  slots : List (Option Dirent)

/-- An inode by its type, with its data. -/
inductive TreeNode
  | dir (d : Directory)
  | reg (data : List UInt8)
  | lnk (target : List UInt8)

/-- **A directory tree**: the inodes in use, with what holds of them on every mounted volume. -/
structure DirTree where
  /-- The inode of a number; the numbers that are not in use have none. -/
  node : ℕ → Option TreeNode
  /-- The root directory exists. -/
  root : ∃ d, node INODE_ROOTDIR = some (.dir d)
  /-- The invalid number is not an inode. -/
  invalid : node INODE_INVALID = none
  /-- The parent of a directory that has not been removed is a directory. -/
  parent : ∀ {i d}, node i = some (.dir d) → i ≠ INODE_ROOTDIR → d.ulPInode ≠ INODE_INVALID →
    ∃ d', node d.ulPInode = some (.dir d')
  /-- Only an empty directory is removed. -/
  removed : ∀ {i d e}, node i = some (.dir d) → i ≠ INODE_ROOTDIR →
    d.ulPInode = INODE_INVALID → some e ∉ d.slots
  /-- Entries name inodes in use. -/
  entry : ∀ {i d e}, node i = some (.dir d) → some e ∈ d.slots → (node e.ulInode).isSome

namespace DirTree

variable (t : DirTree)

/-! ## The functions of `core.c` -/

/-- `RedInodeMount()` with `FTYPE_DIR`, followed by `RedModeTypeCheck()`. -/
def mountDir (ulInode : ℕ) : Except RedError Directory :=
  match t.node ulInode with
  | none => .error .EBADF
  | some (.dir d) => .ok d
  | some (.reg _) => .error .ENOTDIR
  | some (.lnk _) => .error .ENOLINK

/-- `RedCoreLookup()`, with `RedDirEntryLookup()`. -/
def redCoreLookup (ulPInode : ℕ) (pszName : CString) : Except RedError ℕ := do
  let d ← t.mountDir ulPInode
  if redNameLen pszName = 0 then .error .EINVAL
  else if nameMax < redNameLen pszName then .error .ENAMETOOLONG
  else
    match (d.slots.filterMap id).find? (·.matches pszName) with
    | some e => .ok e.ulInode
    | none => .error .ENOENT

/-- `RedCoreStat()`, for `st_mode`. -/
def redCoreStat (ulInode : ℕ) : Except RedError Mode :=
  match t.node ulInode with
  | none => .error .EBADF
  | some (.dir _) => .ok .dir
  | some (.reg _) => .ok .reg
  | some (.lnk _) => .ok .lnk

/-- `RedCoreDirParent()`. -/
def redCoreDirParent (ulInode : ℕ) : Except RedError ℕ := do
  if ulInode = INODE_ROOTDIR then .ok INODE_INVALID
  else
    let d ← t.mountDir ulInode
    if d.ulPInode = INODE_INVALID then .error .ENOENT else .ok d.ulPInode

/-- `RedCoreFileRead()`: at most `ulLen` bytes from `ullStart` on. -/
def redCoreFileRead (ulInode ullStart ulLen : ℕ) : Except RedError (List UInt8) :=
  match t.node ulInode with
  | none => .error .EBADF
  | some (.dir _) => .error .EISDIR
  | some (.reg data) => .ok ((data.drop ullStart).take ulLen)
  | some (.lnk target) => .ok ((target.drop ullStart).take ulLen)

/-- The entry loop of `RedDirEntryRead()`: the first used slot of a list, and the index after
it. -/
def firstUsed : List (Option Dirent) → ℕ → Option (Dirent × ℕ)
  | [], _ => none
  | some e :: _, ulIdx => some (e, ulIdx + 1)
  | none :: rest, ulIdx => firstUsed rest (ulIdx + 1)

/-- `RedCoreDirRead()`, with `RedDirEntryRead()`: the entry at or after a position, and the
position after it. -/
def redCoreDirRead (ulInode ulPos : ℕ) : Except RedError (Dirent × ℕ) := do
  let d ← t.mountDir ulInode
  match firstUsed (d.slots.drop ulPos) ulPos with
  | some r => .ok r
  | none => .error .ENOENT

/-! ## What the functions find -/

/-- What a symbolic link points at. -/
def symlinkTarget (ulInode : ℕ) : Option (List UInt8) :=
  match t.node ulInode with
  | some (.lnk target) => some target
  | _ => none

variable {t}

lemma mountDir_eq_ok {i : ℕ} {d : Directory} :
    t.mountDir i = .ok d ↔ t.node i = some (.dir d) := by
  unfold mountDir
  rcases h : t.node i with _ | (_ | _ | _) <;> simp

lemma symlinkTarget_eq_some {i : ℕ} {target : List UInt8} :
    t.symlinkTarget i = some target ↔ t.node i = some (.lnk target) := by
  unfold symlinkTarget
  rcases h : t.node i with _ | (_ | _ | _) <;> simp

lemma symlinkTarget_root : t.symlinkTarget INODE_ROOTDIR = none := by
  obtain ⟨d, hd⟩ := t.root
  simp [symlinkTarget, hd]

/-- `RedCoreStat()` tells a symbolic link from every other inode. -/
lemma redCoreStat_lnk {i : ℕ} {m : Mode} (h : t.redCoreStat i = .ok m) :
    m = .lnk ↔ (t.symlinkTarget i).isSome := by
  revert h
  unfold redCoreStat symlinkTarget
  rcases t.node i with _ | (_ | _ | _) <;> simp <;> rintro rfl <;> simp

lemma redCoreStat_isSome {i : ℕ} (h : (t.node i).isSome) : ∃ m, t.redCoreStat i = .ok m := by
  unfold redCoreStat
  rcases hn : t.node i with _ | (_ | _ | _)
  · simp [hn] at h
  · exact ⟨_, rfl⟩
  · exact ⟨_, rfl⟩
  · exact ⟨_, rfl⟩

/-- **A lookup succeeds** at an entry of a directory. -/
lemma redCoreLookup_eq_ok {i j : ℕ} {psz : CString} (h : t.redCoreLookup i psz = .ok j) :
    ∃ d e, t.node i = some (.dir d) ∧ some e ∈ d.slots ∧ e.matches psz ∧ e.ulInode = j := by
  unfold redCoreLookup at h
  rcases hd : t.mountDir i with e | d
  · rw [hd] at h
    cases h
  · rw [hd] at h
    simp only [bind, Except.bind] at h
    split_ifs at h
    rcases hf : (d.slots.filterMap id).find? (·.matches psz) with _ | e
    · rw [hf] at h
      cases h
    · rw [hf] at h
      refine ⟨d, e, mountDir_eq_ok.1 hd, ?_, ?_, ?_⟩
      · have := List.mem_of_find?_eq_some hf
        simpa using this
      · simpa using List.find?_some hf
      · exact Except.ok.inj h

/-- What is looked up is an inode of the tree, and its directory has not been removed. -/
theorem redCoreLookup_node {i j : ℕ} {psz : CString} (h : t.redCoreLookup i psz = .ok j) :
    (t.node j).isSome ∧ ∃ q, t.redCoreDirParent i = .ok q := by
  obtain ⟨d, e, hd, he, -, rfl⟩ := redCoreLookup_eq_ok h
  refine ⟨t.entry hd he, ?_⟩
  unfold redCoreDirParent
  by_cases hi : i = INODE_ROOTDIR
  · exact ⟨INODE_INVALID, by rw [if_pos hi]⟩
  · have hp : d.ulPInode ≠ INODE_INVALID := fun hp => t.removed hd hi hp he
    refine ⟨d.ulPInode, ?_⟩
    rw [if_neg hi, mountDir_eq_ok.2 hd]
    simp only [bind, Except.bind, if_neg hp]

/-- The parent of a directory is a directory, the root directory apart. -/
lemma redCoreDirParent_node {i q : ℕ} (h : t.redCoreDirParent i = .ok q) :
    (∃ d, t.node i = some (.dir d)) ∧
      (i = INODE_ROOTDIR ∧ q = INODE_INVALID ∨ ∃ d, t.node q = some (.dir d)) := by
  unfold redCoreDirParent at h
  by_cases hi : i = INODE_ROOTDIR
  · rw [if_pos hi] at h
    exact ⟨hi ▸ t.root, Or.inl ⟨hi, (Except.ok.inj h).symm⟩⟩
  · rw [if_neg hi] at h
    rcases hd : t.mountDir i with e | d
    · rw [hd] at h
      cases h
    · rw [hd] at h
      simp only [bind, Except.bind] at h
      split_ifs at h with hp
      obtain rfl := Except.ok.inj h
      have hd' := mountDir_eq_ok.1 hd
      exact ⟨⟨d, hd'⟩, Or.inr (t.parent hd' hi hp)⟩

end DirTree

end RelianceEdge
