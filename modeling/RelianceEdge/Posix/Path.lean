import RelianceEdge.Posix.Tree

set_option relaxedAutoImplicit false
set_option autoImplicit false
set_option linter.unusedSectionVars false

/-!
# Walking a path

`path.c`, with `REDCONF_API_POSIX_CWD`, `REDCONF_API_POSIX_SYMLINK` and
`REDOSCONF_SYMLINK_FOLLOW`: the walk over the components of a path that goes down into the
symbolic links it meets. A pointer into a string is the rest of the string from there on; the
indexes into the path are `uint32_t`. The loops of the source run on fuel.

## Main definitions

* `symlinkNext` — the next name out of the symbolic links that are being read.
* `pathWalkNext`, `pathWalkFollow` — one round of the walk.
* `redPathLookup`, `redPathToName` — the two callers of `pathWalk`.
-/

namespace RelianceEdge

variable [RedConf]

open RedConf

/-- `RED_SYMLOOP_MAX`. -/
def RED_SYMLOOP_MAX : ℕ := 8

/-- `RED_AT_SYMLINK_NOFOLLOW`. -/
def RED_AT_SYMLINK_NOFOLLOW : ℕ := 2

/-- `PW_LOOKUP_LAST`. -/
def PW_LOOKUP_LAST : ℕ := 0x80000000

/-- `SYMLINKLEVEL`. -/
structure SymlinkLevel where
  ulInode : ℕ
  ullPos : ℕ

/-- `PATHWALKCTX`. -/
structure PathWalkCtx where
  pszPath : CString
  pszLastName : CString
  pszName : Option CString
  ulPathIdx : ℕ
  ulPInode : ℕ
  ulInode : ℕ
  ulFlags : ℕ
  /-- `SYMLINKCTX::aStack` up to `bIdx`, the innermost level first; empty for
  `SYMLINK_IDX_NONE`. -/
  aStack : List SymlinkLevel

/-! ## Strings -/

/-- The loops that step over path separators, from an index on. -/
def skipSeparators (psz : CString) : ℕ → ℕ → Except RedError ℕ
  | fuel, ulIdx =>
    if psz.at ulIdx = pathSeparator then
      match fuel with
      | 0 => .error .outOfFuel
      | fuel + 1 => skipSeparators psz fuel (u32 (ulIdx + 1))
    else .ok ulIdx

/-- `PathHasMoreComponents()`. -/
def pathHasMoreComponents (fuel : ℕ) (pszPathIdx : CString) : Except RedError Bool := do
  let ulIdx ← skipSeparators pszPathIdx fuel 0
  pure (pszPathIdx.at ulIdx != 0)

/-- `IsDot()`. -/
def isDot (psz : CString) : Bool :=
  psz.at 0 == 46 && (psz.at 1 == 0 || psz.at 1 == pathSeparator)

/-- `IsDotDot()`. -/
def isDotDot (psz : CString) : Bool :=
  psz.at 0 == 46 && psz.at 1 == 46 && (psz.at 2 == 0 || psz.at 2 == pathSeparator)

/-- `IsDotOrDotDot()`. -/
def pathIsDotOrDotDot (psz : CString) : Bool := isDot psz || isDotDot psz

section Walk

variable (t : DirTree)

/-- `InodeMustBeSearchableDir()`, without owner permissions. -/
def inodeMustBeSearchableDir (ulInode : ℕ) : Except RedError Unit := do
  if ulInode = INODE_ROOTDIR then pure ()
  else
    match ← t.redCoreStat ulInode with
    | .dir => pure ()
    | .lnk => .error .ENOLINK
    | _ => .error .ENOTDIR

/-! ## Symbolic links -/

/-- The part of `SymlinkNext()` that finds out whether the name that was resolved last is a
symbolic link to be followed, and opens a level for it. -/
def symlinkEnter (fuel : ℕ) (pCtx : PathWalkCtx) : Except RedError PathWalkCtx := do
  if pCtx.ulInode = INODE_ROOTDIR then pure pCtx
  else
    match ← t.redCoreStat pCtx.ulInode with
    | .lnk =>
      let fFollow ←
        if pCtx.ulFlags &&& RED_AT_SYMLINK_NOFOLLOW ≠ 0 then
          pathHasMoreComponents fuel (pCtx.pszPath.drop pCtx.ulPathIdx)
        else pure true
      if fFollow then
        if RED_SYMLOOP_MAX ≤ pCtx.aStack.length then .error .ELOOP
        else
          let ulPInode ← t.redCoreDirParent pCtx.ulPInode
          pure { pCtx with
            aStack := ⟨pCtx.ulInode, 0⟩ :: pCtx.aStack
            ulInode := pCtx.ulPInode
            ulPInode := ulPInode }
      else pure pCtx
    | _ => pure pCtx

/-- The retry loop of `SymlinkNext()`: the walk and the level after it, the bytes that were read,
and the index of the name among them. -/
def symlinkRead : ℕ → PathWalkCtx → SymlinkLevel →
    Except RedError (PathWalkCtx × SymlinkLevel × CString × ℕ)
  | 0, _, _ => .error .outOfFuel
  | fuel + 1, pCtx, pLvl => do
    let ulReadMax := nameMax + 1
    let szName : CString ← t.redCoreFileRead pLvl.ulInode pLvl.ullPos ulReadMax
    if 0 < szName.length ∧ szName.at 0 = pathSeparator then
      let pCtx :=
        if pLvl.ullPos = 0 then { pCtx with ulPInode := INODE_INVALID, ulInode := INODE_ROOTDIR }
        else pCtx
      let ulNameIdx := (szName.takeWhile isSeparator).length
      let pLvl := { pLvl with ullPos := pLvl.ullPos + ulNameIdx }
      -- the separators may have pushed the end of the name out of the buffer
      if szName.length = ulReadMax ∧ ulNameIdx + redNameLen (szName.drop ulNameIdx) = szName.length
      then symlinkRead fuel pCtx pLvl
      else pure (pCtx, pLvl, szName, ulNameIdx)
    else pure (pCtx, pLvl, szName, 0)

/-- The loop of `SymlinkNext()` over the levels: exhausted links are left until one has a name. -/
def symlinkNames (fuel : ℕ) : List SymlinkLevel → PathWalkCtx → Except RedError PathWalkCtx
  | [], pCtx => pure pCtx
  | pLvl :: rest, pCtx => do
    let (pCtx, pLvl, szName, ulNameIdx) ← symlinkRead t fuel pCtx pLvl
    if szName.length = 0 ∨ szName.at ulNameIdx = 0 then
      if pLvl.ullPos = 0 then .error .ENOENT
      else symlinkNames fuel rest { pCtx with aStack := rest }
    else
      let pszName : CString := szName.drop ulNameIdx
      let ulNameLen := redNameLen pszName
      if nameMax < ulNameLen then .error .ENAMETOOLONG
      else
        let ullPos := pLvl.ullPos + ulNameLen +
          if pszName.at ulNameLen = pathSeparator then 1 else 0
        pure { pCtx with pszName := some pszName, aStack := { pLvl with ullPos } :: rest }

/-- `SymlinkNext()`. -/
def symlinkNext (fuel : ℕ) (pCtx : PathWalkCtx) : Except RedError PathWalkCtx := do
  let pCtx ← symlinkEnter t fuel pCtx
  symlinkNames t fuel pCtx.aStack pCtx

/-! ## The walk -/

/-- The part of `PathWalkNext()` that takes the next name from the path itself. -/
def topNext (fuel : ℕ) (pCtx : PathWalkCtx) : Except RedError PathWalkCtx := do
  let ulPathIdx ← skipSeparators pCtx.pszPath fuel pCtx.ulPathIdx
  if pCtx.pszPath.at ulPathIdx ≠ 0 then
    let pszName := pCtx.pszPath.drop ulPathIdx
    pure { pCtx with
      pszName := some pszName
      pszLastName := pszName
      ulPathIdx := u32 (ulPathIdx + redNameLen pszName) }
  else pure { pCtx with ulPathIdx := ulPathIdx }

/-- `PathWalkNext()`. -/
def pathWalkNext (fuel : ℕ) (pCtx : PathWalkCtx) : Except RedError PathWalkCtx := do
  let pCtx := { pCtx with pszName := none }
  if pCtx.ulInode ≠ INODE_INVALID then
    let pCtx ← symlinkNext t fuel pCtx
    match pCtx.pszName with
    | none => topNext fuel pCtx
    | some _ => pure pCtx
  else pure pCtx

/-- `PathWalkFollow()`, for the name `pszName`. -/
def pathWalkFollow (fuel : ℕ) (pszName : CString) (pCtx : PathWalkCtx) :
    Except RedError PathWalkCtx := do
  if isDot pszName then
    inodeMustBeSearchableDir t pCtx.ulInode
    pure pCtx
  else if isDotDot pszName then
    inodeMustBeSearchableDir t pCtx.ulInode
    let ulInode := if pCtx.ulInode ≠ INODE_ROOTDIR then pCtx.ulPInode else pCtx.ulInode
    let ulPInode ← t.redCoreDirParent ulInode
    pure { pCtx with ulInode, ulPInode }
  else
    let fLookup ←
      if pCtx.ulFlags &&& PW_LOOKUP_LAST ≠ 0 then pure true
      else pathHasMoreComponents fuel (pCtx.pszPath.drop pCtx.ulPathIdx)
    if fLookup then
      let ulInode ← t.redCoreLookup pCtx.ulInode pszName
      pure { pCtx with ulPInode := pCtx.ulInode, ulInode }
    else pure { pCtx with ulPInode := pCtx.ulInode, ulInode := INODE_INVALID }

/-- The loop of `PathWalk()`. -/
def pathWalkLoop : ℕ → PathWalkCtx → Except RedError PathWalkCtx
  | 0, _ => .error .outOfFuel
  | fuel + 1, pCtx => do
    let pCtx ← pathWalkNext t fuel pCtx
    match pCtx.pszName with
    | none => pure pCtx
    | some pszName =>
      let pCtx ← pathWalkFollow t fuel pszName pCtx
      pathWalkLoop fuel pCtx

/-- What `PathWalk()` stores for its callers. -/
structure PathWalkResult where
  ulPInode : ℕ
  pszName : CString
  ulInode : ℕ

/-- The end of `PathWalk()`: the root directory has no parent to store. -/
def pathWalkStore (rootDirError : Option RedError) (r : PathWalkResult) :
    Except RedError PathWalkResult :=
  match rootDirError with
  | some e => if r.ulPInode = INODE_INVALID then .error e else .ok r
  | none => .ok r

/-- `PathWalk()`. `fLookupLast` is that `pulInode` is not null, and `rootDirError` is given when
`pulPInode` is not. -/
def pathWalk (fuel ulDirInode : ℕ) (pszLocalPath : CString) (ulFlags : ℕ)
    (rootDirError : Option RedError) (fLookupLast : Bool) : Except RedError PathWalkResult := do
  if ulDirInode = INODE_INVALID ∨ ulFlags &&& RED_AT_SYMLINK_NOFOLLOW ≠ ulFlags then
    .error .EINVAL
  else
    let ulPInode ← t.redCoreDirParent ulDirInode
    let pCtx ← pathWalkLoop t fuel {
      pszPath := pszLocalPath
      pszLastName := pszLocalPath
      pszName := none
      ulPathIdx := 0
      ulPInode
      ulInode := ulDirInode
      ulFlags := ulFlags ||| if fLookupLast then PW_LOOKUP_LAST else 0
      aStack := [] }
    pathWalkStore rootDirError ⟨pCtx.ulPInode, pCtx.pszLastName, pCtx.ulInode⟩

/-- `RedPathLookup()`. -/
def redPathLookup (fuel ulDirInode : ℕ) (pszLocalPath : CString) (ulFlags : ℕ) :
    Except RedError ℕ := do
  let r ← pathWalk t fuel ulDirInode pszLocalPath ulFlags none true
  pure r.ulInode

/-- `RedPathToName()`. -/
def redPathToName (fuel ulDirInode : ℕ) (pszLocalPath : CString) (rootDirError : RedError) :
    Except RedError (ℕ × CString) := do
  let r ← pathWalk t fuel ulDirInode pszLocalPath 0 (some rootDirError) false
  if pathIsDotOrDotDot r.pszName then .error .EINVAL
  else pure (r.ulPInode, r.pszName)

end Walk

end RelianceEdge
