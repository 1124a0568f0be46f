import RelianceEdge.Lib.Op
import RelianceEdge.Lib.TextBuffer
import RelianceEdge.Posix.Path

set_option relaxedAutoImplicit false
set_option autoImplicit false
set_option linter.unusedSectionVars false

/-!
# The path of a directory

`DirInodeToPath()` of `posix.c`, which is what `red_getcwd()` and `red_getdirpath()` do: it goes up
from a directory to the root directory, looks for the name of each directory in its parent, and
builds the path from its end. `RedPathVolumePrefixLookup()` of `path.c` takes such a path apart.

## Main definitions

* `PathPrefix` — `VOLCONF::pszPathPrefix`.
* `redPathVolumePrefixLookup`, `pathStartingPoint` — the volume of a path, and the rest of it.
* `dirInodeToPath` — the path of a directory, in a buffer.
* `joinNames`, `dirPath` — what the path of a directory is.

## Main results

* `dirInodeToPath_frame` — the buffer does not change behind the last byte that is written.
* `pathNames_joinNames` — the components of a path that is put together.
-/

namespace RelianceEdge

variable [RedConf]

open RedConf

/-- `RED_GETDIRPATH_NOVOLUME`. -/
def RED_GETDIRPATH_NOVOLUME : ℕ := 1

/-- `VOLCONF::pszPathPrefix`, without its terminator; `RedStrLen()` counts in `uint32_t`. -/
structure PathPrefix where
  psz : List UInt8
  clean : ∀ c ∈ psz, c ≠ 0
  length_le : psz.length ≤ UINT32_MAX

/-! ## Volumes of paths -/

/-- What `RedPathVolumePrefixLookup()` has found so far; `UINT8_MAX` is no volume. -/
structure PrefixMatch where
  bMatchVol : Option ℕ
  ulMatchLen : ℕ
  bDefaultVolNum : Option ℕ

/-- One round of the loop of `RedPathVolumePrefixLookup()`, for the volume `bVolNum`. -/
def prefixMatchStep (pszPath : CString) (r : PrefixMatch) (vol : PathPrefix × ℕ) : PrefixMatch :=
  let pszPrefix := vol.1.psz
  let bVolNum := vol.2
  let ulPrefixLen := pszPrefix.length
  if ulPrefixLen = 0 then { r with bDefaultVolNum := some bVolNum }
  else if redStrNCmpIsZero pszPath.at (CString.at pszPrefix) ulPrefixLen 0 ∧
      (pszPath.at ulPrefixLen = 0 ∨ pszPath.at ulPrefixLen = pathSeparator) then
    if r.ulMatchLen < ulPrefixLen then
      { r with bMatchVol := some bVolNum, ulMatchLen := ulPrefixLen }
    else r
  else r

/-- `RedPathVolumePrefixLookup()`, for the volumes of `gaRedVolConf`. -/
def redPathVolumePrefixLookup (gaRedVolConf : List PathPrefix) (pszPath : CString) :
    Except RedError ℕ :=
  let r := gaRedVolConf.zipIdx.foldl (prefixMatchStep pszPath) ⟨none, 0, none⟩
  match r.bMatchVol, r.bDefaultVolNum with
  | some bVolNum, _ => .ok bVolNum
  | none, some bVolNum => .ok bVolNum
  | none, none => .error .ENOENT

/-- `PathStartingPoint()` with `RED_AT_FDABS`: the volume of a path, and the path on it. -/
def pathStartingPoint (gaRedVolConf : List PathPrefix) (pszPath : CString) :
    Except RedError (ℕ × CString) := do
  let bVolNum ← redPathVolumePrefixLookup gaRedVolConf pszPath
  match gaRedVolConf[bVolNum]? with
  | none => .error .EINVAL
  | some vol => .ok (bVolNum, pszPath.drop vol.psz.length)

/-! ## The path of a directory -/

section

variable (t : DirTree)

/-- The loop of `DirInodeToPath()` over a parent directory, from an entry on: the name of the
inode. -/
def dirFindInode (ulPInode ulInode : ℕ) : ℕ → ℕ → Except RedError CString
  | 0, _ => .error .outOfFuel
  | fuel + 1, ulDirPos =>
    match t.redCoreDirRead ulPInode ulDirPos with
    | .ok (de, ulDirPos) =>
      if de.ulInode = ulInode then .ok de.acName
      else dirFindInode ulPInode ulInode fuel ulDirPos
    | .error .ENOENT => .error .EFUBAR
    | .error e => .error e

/-- The part of `DirInodeToPath()` that puts a name in front of the path: the new length. -/
def pathPrepend (ulBufferSize ulPathLen : ℕ) (szName : CString) (fPathSeparator : Bool) :
    Op TextBuffer RedError ℕ :=
  let ulNameLen := redNameLen szName
  let ulNewLen := ulNameLen + if fPathSeparator then 1 else 0
  if ulBufferSize < u32 (ulPathLen + ulNewLen) then Op.fail .ERANGE
  else do
    Op.modify fun pszBuffer => pszBuffer.move ulNewLen 0 ulPathLen
    Op.modify fun pszBuffer => pszBuffer.put 0 (szName.take ulNameLen)
    Op.when fPathSeparator (Op.modify fun pszBuffer => pszBuffer.put ulNameLen [pathSeparator])
    pure (u32 (ulPathLen + ulNewLen))

/-- The loop of `DirInodeToPath()` up to the root directory, with `n` rounds for the loop over a
parent directory: the length of the path with its terminator. -/
def dirInodeToPathLoop (n ulDirInode ulBufferSize : ℕ) : ℕ → ℕ → ℕ → Op TextBuffer RedError ℕ
  | fuel, ulInode, ulPathLen =>
    if ulInode = INODE_ROOTDIR then pure ulPathLen
    else
      match fuel with
      | 0 => Op.fail .outOfFuel
      | fuel + 1 => do
        let ulPInode ← Op.ofExcept (t.redCoreDirParent ulInode)
        let szName ← Op.ofExcept (dirFindInode t ulPInode ulInode n 0)
        let ulPathLen ← pathPrepend ulBufferSize ulPathLen szName (ulInode != ulDirInode)
        dirInodeToPathLoop n ulDirInode ulBufferSize fuel ulPInode ulPathLen

/-- The end of `DirInodeToPath()`: the volume prefix and the leading separator. -/
def pathPrependVolume (ulBufferSize ulPathLen : ℕ) (pszVolume : CString) :
    Op TextBuffer RedError Unit :=
  let ulVolPrefixLen := pszVolume.length
  if ulBufferSize < u32 (ulPathLen + ulVolPrefixLen + 1) then Op.fail .ERANGE
  else do
    Op.modify fun pszBuffer => pszBuffer.move (u32 (ulVolPrefixLen + 1)) 0 ulPathLen
    Op.modify fun pszBuffer => pszBuffer.put 0 pszVolume
    Op.modify fun pszBuffer => pszBuffer.put ulVolPrefixLen [pathSeparator]

/-- The prefix of the volume, unless the flags leave it out. -/
def flagsPrefix (vol : PathPrefix) (ulFlags : ℕ) : CString :=
  if ulFlags &&& RED_GETDIRPATH_NOVOLUME ≠ 0 then [] else vol.psz

/-- `DirInodeToPath()`, for a directory of the volume with the prefix `vol`. -/
def dirInodeToPath (vol : PathPrefix) (fuel ulDirInode ulBufferSize ulFlags : ℕ) :
    Op TextBuffer RedError Unit :=
  if ulBufferSize = 0 ∨ ulFlags &&& RED_GETDIRPATH_NOVOLUME ≠ ulFlags then Op.fail .EINVAL
  else do
    Op.modify fun pszBuffer => pszBuffer.put 0 [0]
    let ulPathLen ← dirInodeToPathLoop t fuel ulDirInode ulBufferSize fuel ulDirInode 1
    pathPrependVolume ulBufferSize ulPathLen (flagsPrefix vol ulFlags)

end

/-- Names put together to a path, with separators between them. -/
def joinNames : List (List UInt8) → List UInt8
  | [] => []
  | [name] => name
  | name :: names => name ++ pathSeparator :: joinNames names

/-- **The path of a directory**: the prefix of the volume, a separator, and the names. -/
def dirPath (pszVolume : CString) (names : List (List UInt8)) : CString :=
  pszVolume ++ pathSeparator :: joinNames names

/-! ## What is not written -/

/-- **Written in front of its end**: what has been written only grows, and the bytes behind its end
are the old ones. -/
def WrittenBelow (b b' : TextBuffer) : Prop :=
  b.extent ≤ b'.extent ∧ ∀ x, b'.extent ≤ x → b'.byte x = b.byte x

instance : IsPreorder TextBuffer WrittenBelow where
  refl _ := ⟨le_rfl, fun _ _ => rfl⟩
  trans _ _ _ h h' := ⟨h.1.trans h'.1, fun x hx =>
    (h'.2 x hx).trans (h.2 x (h'.1.trans hx))⟩

lemma move_respects (dst src n : ℕ) :
    (Op.modify fun b => b.move dst src n : Op TextBuffer RedError Unit).Respects WrittenBelow :=
  .modify fun _ => ⟨TextBuffer.extent_le_move, fun _ hx => TextBuffer.byte_move hx⟩

lemma put_respects (a : ℕ) (l : List UInt8) :
    (Op.modify fun b => b.put a l : Op TextBuffer RedError Unit).Respects WrittenBelow :=
  .modify fun _ => ⟨TextBuffer.extent_le_put, fun _ hx => TextBuffer.byte_put hx⟩

lemma pathPrepend_respects (ulBufferSize ulPathLen : ℕ) (szName : CString)
    (fPathSeparator : Bool) :
    (pathPrepend ulBufferSize ulPathLen szName fPathSeparator).Respects WrittenBelow := by
  refine .ite (.fail _) (.bind (move_respects _ _ _) fun _ => .bind (put_respects _ _) fun _ => ?_)
  exact .bind (.when (put_respects _ _)) fun _ => .pure _

lemma pathPrependVolume_respects (ulBufferSize ulPathLen : ℕ) (pszVolume : CString) :
    (pathPrependVolume ulBufferSize ulPathLen pszVolume).Respects WrittenBelow := by
  refine .ite (.fail _) (.bind (move_respects _ _ _) fun _ => .bind (put_respects _ _) fun _ => ?_)
  exact put_respects _ _

variable {t : DirTree}

lemma dirInodeToPathLoop_respects (n ulDirInode ulBufferSize : ℕ) :
    ∀ fuel ulInode ulPathLen, (dirInodeToPathLoop t n ulDirInode ulBufferSize fuel ulInode
      ulPathLen).Respects WrittenBelow := by
  intro fuel
  induction fuel with
  | zero =>
    intro ulInode ulPathLen
    unfold dirInodeToPathLoop
    exact .ite (.pure _) (.fail _)
  | succ fuel ih =>
    intro ulInode ulPathLen
    unfold dirInodeToPathLoop
    refine .ite (.pure _) (.bind (.ofExcept _) fun _ => .bind (.ofExcept _) fun _ => ?_)
    exact .bind (pathPrepend_respects _ _ _ _) fun _ => ih _ _

/-- **Behind the last byte that is written** the buffer does not change. -/
theorem dirInodeToPath_frame (vol : PathPrefix) (fuel ulDirInode ulBufferSize ulFlags : ℕ) :
    (dirInodeToPath t vol fuel ulDirInode ulBufferSize ulFlags).Respects WrittenBelow := by
  refine .ite (.fail _) (.bind (put_respects _ _) fun _ => ?_)
  exact .bind (dirInodeToPathLoop_respects _ _ _ _ _ _) fun _ => pathPrependVolume_respects _ _ _

/-! ## Names put together -/

lemma joinNames_cons {name : List UInt8} {names : List (List UInt8)} (h : names ≠ []) :
    joinNames (name :: names) = name ++ pathSeparator :: joinNames names := by
  cases names with
  | nil => exact absurd rfl h
  | cons => rfl

lemma length_joinNames_cons (name : List UInt8) (names : List (List UInt8)) :
    (joinNames (name :: names)).length =
      name.length + (if names = [] then 0 else 1) + (joinNames names).length := by
  by_cases h : names = []
  · subst h
    simp [joinNames]
  · rw [joinNames_cons h, List.length_append, List.length_cons, if_neg h]
    omega

/-- A path is as long as the part of it that is already put together, or longer. -/
lemma length_joinNames_append (front back : List (List UInt8)) :
    (joinNames back).length ≤ (joinNames (front ++ back)).length := by
  induction front with
  | nil => exact le_rfl
  | cons name front ih =>
    rw [List.cons_append, length_joinNames_cons]
    omega

/-- **The components** of names that are put together. -/
theorem pathNames_joinNames {names : List (List UInt8)}
    (h : ∀ name ∈ names, ∃ e : Dirent, e.acName = name) : pathNames (joinNames names) = names := by
  induction names with
  | nil => rfl
  | cons name names ih =>
    obtain ⟨e, rfl⟩ := h name List.mem_cons_self
    -- what comes behind the first name
    have hrest : ∃ s : CString, joinNames (e.acName :: names) = e.acName ++ s ∧
        (s.at 0 = 0 ∨ s.at 0 = pathSeparator) ∧ pathNames s = names := by
      by_cases hnil : names = []
      · subst hnil
        exact ⟨[], (List.append_nil _).symm, Or.inl (CString.at_nil 0), rfl⟩
      · refine ⟨pathSeparator :: joinNames names, joinNames_cons hnil, Or.inr rfl, ?_⟩
        rw [pathNames_of_separator rfl]
        exact ih fun name hn => h name (List.mem_cons_of_mem _ hn)
    obtain ⟨s, hjoin, hs, hnames⟩ := hrest
    have hlen : redNameLen (e.acName ++ s) = e.acName.length := redNameLen_append e.clean hs
    have hpos : 0 < e.acName.length := List.length_pos_of_ne_nil e.acName_ne_nil
    have hfirst := redNameLen_lt (s := e.acName ++ s) (k := 0) (by omega)
    rw [hjoin, pathNames_cons hfirst.1 hfirst.2, hlen, List.take_left, List.drop_left, hnames]

end RelianceEdge
