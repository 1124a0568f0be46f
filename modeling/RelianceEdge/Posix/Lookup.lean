import RelianceEdge.Posix.Walk

set_option relaxedAutoImplicit false
set_option autoImplicit false
set_option linter.unusedSectionVars false

/-!
# Path lookups

The components of the path itself, and with them the two functions on paths: what they return is
what the recursive definition says, for every path whose length fits an index.

## Main definitions

* `OnPath` — a walk whose index is inside its path.
* `LastMode` — what becomes of the last component.

## Main results

* `namesTo_path` — the components of a path are resolved one after the other.
* `redPath_resolves` — lookups, names and loops of every path.
-/

namespace RelianceEdge

variable [RedConf] {t : DirTree}

open RedConf

/-! ## The next component of the path -/

/-- The index of a walk is inside its path, whose length fits the index. -/
structure OnPath (pCtx : PathWalkCtx) : Prop where
  strlen_le : pCtx.pszPath.strlen ≤ UINT32_MAX
  idx_le : pCtx.ulPathIdx ≤ pCtx.pszPath.strlen

lemma OnPath.moved {pCtx : PathWalkCtx} (h : OnPath pCtx) (pos : Place)
    (aStack : List SymlinkLevel) : OnPath (pCtx.moved pos aStack) :=
  ⟨h.strlen_le, h.idx_le⟩

/-- Nothing is left of the path. -/
lemma topNext_end {pCtx : PathWalkCtx} (h : OnPath pCtx)
    (hnames : pathNames (pCtx.pszPath.drop pCtx.ulPathIdx) = []) :
    ∃ ulPathIdx, ∀ fuel ≥ pCtx.pszPath.strlen,
      topNext fuel pCtx = .ok { pCtx with ulPathIdx } := by
  obtain ⟨ulIdx, hrun, -, -, hdrop⟩ := skipSeparators_run h.strlen_le h.idx_le (Nat.sub_le _ _)
  refine ⟨ulIdx, fun fuel hfuel => ?_⟩
  have h0 : pCtx.pszPath.at ulIdx = 0 := by
    have := pathNames_eq_nil_iff.1 hnames
    rwa [← hdrop, CString.at_drop, Nat.add_zero] at this
  unfold topNext
  rw [hrun fuel hfuel]
  simp only [bind, Except.bind]
  rw [if_neg (not_not.2 h0)]
  rfl

/-- The next component is taken from the path. -/
lemma topNext_name {pCtx : PathWalkCtx} (h : OnPath pCtx) {name : List UInt8}
    {names : List (List UInt8)}
    (hnames : pathNames (pCtx.pszPath.drop pCtx.ulPathIdx) = name :: names) :
    ∃ z ulPathIdx, z.take (redNameLen z) = name ∧ z <:+ pCtx.pszPath ∧
      ulPathIdx ≤ pCtx.pszPath.strlen ∧ pathNames (pCtx.pszPath.drop ulPathIdx) = names ∧
      ∀ (pos : Place), ∀ fuel ≥ pCtx.pszPath.strlen, topNext fuel (pCtx.moved pos []) =
        .ok { ({ pCtx with pszLastName := z, ulPathIdx } : PathWalkCtx).moved pos [] with
          pszName := some z } := by
  obtain ⟨ulIdx, hrun, -, hle, hdrop⟩ := skipSeparators_run h.strlen_le h.idx_le (Nat.sub_le _ _)
  obtain ⟨h0, hname, hrest⟩ := pathNames_eq_cons hnames
  rw [← hdrop] at h0 hname hrest
  have hbound : ulIdx + redNameLen (pCtx.pszPath.drop ulIdx) ≤ pCtx.pszPath.strlen := by
    have h1 := redNameLen_le_strlen (pCtx.pszPath.drop ulIdx)
    rw [CString.strlen_drop hle] at h1
    omega
  have hlen := h.strlen_le
  refine ⟨pCtx.pszPath.drop ulIdx, ulIdx + redNameLen (pCtx.pszPath.drop ulIdx), hname,
    List.drop_suffix _ _, hbound, ?_, fun pos fuel hfuel => ?_⟩
  · rwa [← List.drop_drop]
  · have hne : (pCtx.moved pos []).pszPath.at ulIdx ≠ 0 := by
      rwa [CString.at_drop, Nat.add_zero] at h0
    have hskip : skipSeparators (pCtx.moved pos []).pszPath fuel (pCtx.moved pos []).ulPathIdx =
        .ok ulIdx := hrun fuel hfuel
    have hnext : u32 (ulIdx + redNameLen ((pCtx.moved pos []).pszPath.drop ulIdx)) =
        ulIdx + redNameLen (pCtx.pszPath.drop ulIdx) := u32_of_le (hbound.trans hlen)
    unfold topNext
    rw [hskip]
    simp only [bind, Except.bind]
    rw [if_pos hne, hnext]
    rfl

/-- Whether the path has more components, seen from a walk. -/
lemma hasMore_run {pCtx : PathWalkCtx} (h : OnPath pCtx) {fuel : ℕ}
    (hfuel : pCtx.pszPath.strlen ≤ fuel) :
    pathHasMoreComponents fuel (pCtx.pszPath.drop pCtx.ulPathIdx) =
      .ok (decide (pathNames (pCtx.pszPath.drop pCtx.ulPathIdx) ≠ [])) := by
  have hlen := h.strlen_le
  have hdrop := CString.strlen_drop h.idx_le
  apply pathHasMoreComponents_run
  · omega
  · omega

/-- Outside of all links the path has the next name. -/
lemma namesFrom_path {fuel : ℕ} {pCtx : PathWalkCtx} {pos : Place} :
    namesFrom t fuel (pCtx.moved pos []) =
      topNext fuel (pCtx.moved pos []) >>= followFrom t fuel := rfl

/-- At the end of the path the walk is over. -/
lemma namesTo_end {pCtx : PathWalkCtx} {pos : Place} (h : OnPath pCtx)
    (hnames : pathNames (pCtx.pszPath.drop pCtx.ulPathIdx) = []) :
    NamesTo t (pCtx.moved pos []) (.ok ⟨pos.ulPInode, pCtx.pszLastName, pos.ulInode⟩) := by
  obtain ⟨ulPathIdx, hrun⟩ := topNext_end (h.moved pos []) hnames
  refine ⟨pCtx.pszPath.strlen, fun fuel hfuel => ?_⟩
  rw [namesFrom_path, hrun fuel hfuel]
  rfl

/-! ## The last component -/

/-- **What becomes of the last component**: it is looked up and not followed, looked up and
followed, or left alone. -/
inductive LastMode (t : DirTree) : ℕ → (Place → List UInt8 → Except RedError Place) → Prop
  | nofollow {ulFlags : ℕ} (hlookup : ulFlags &&& PW_LOOKUP_LAST ≠ 0)
      (hfollow : ulFlags &&& RED_AT_SYMLINK_NOFOLLOW ≠ 0) : LastMode t ulFlags t.stepName
  | follow {ulFlags : ℕ} (hlookup : ulFlags &&& PW_LOOKUP_LAST ≠ 0)
      (hfollow : ulFlags &&& RED_AT_SYMLINK_NOFOLLOW = 0) :
      LastMode t ulFlags (t.stepFollow RED_SYMLOOP_MAX)
  | toName {ulFlags : ℕ} (hlookup : ulFlags &&& PW_LOOKUP_LAST = 0)
      (hfollow : ulFlags &&& RED_AT_SYMLINK_NOFOLLOW = 0) : LastMode t ulFlags t.lastToName

/-- A component that is looked up, and the rest of the walk. -/
lemma follow_loop (pCtx : PathWalkCtx) (pos : Place)
    (next : Place → Except RedError PathWalkResult) {z : CString} {name : List UInt8} {M : ℕ}
    (hz : z.take (redNameLen z) = name) (hne : name ≠ [])
    (hlookup : ∀ fuel ≥ M, pCtx.ulFlags &&& PW_LOOKUP_LAST ≠ 0 ∨
      pathHasMoreComponents fuel (pCtx.pszPath.drop pCtx.ulPathIdx) = .ok true ∨
      name = nameDot ∨ name = nameDotDot)
    (hloop : ∀ q, t.stepName pos name = .ok q → LoopTo t (pCtx.moved q []) (next q)) :
    ∃ N, ∀ fuel ≥ N,
      (pathWalkFollow t fuel z { pCtx.moved pos [] with pszName := some z } >>=
        pathWalkLoop t fuel).map PathWalkCtx.result = t.stepName pos name >>= next := by
  have hrun : ∀ fuel ≥ M,
      (pathWalkFollow t fuel z { pCtx.moved pos [] with pszName := some z } >>=
        pathWalkLoop t fuel) =
      t.stepName pos name >>= fun q => pathWalkLoop t fuel (pCtx.moved q []) := by
    intro fuel hfuel
    rw [pathWalkFollow_run hz hne]
    · show ((t.stepName pos name).map _) >>= _ = _
      rcases t.stepName pos name with e | q
      · rfl
      · exact pathWalkLoop_name _ (pCtx.moved q []) _
    · exact hlookup fuel hfuel
  rcases hq : t.stepName pos name with e | q
  · refine ⟨M, fun fuel hfuel => ?_⟩
    rw [hrun fuel hfuel, hq]
    rfl
  · obtain ⟨N, hN⟩ := hloop q hq
    refine ⟨M + N, fun fuel hfuel => ?_⟩
    rw [hrun fuel (by omega), hq]
    exact hN fuel (by omega)

/-- Dot and dot-dot lead to directories. -/
lemma stepName_dots {pos q : Place} {name : List UInt8} (h : t.stepName pos name = .ok q)
    (hname : name = nameDot ∨ name = nameDotDot) : t.symlinkTarget q.ulInode = none := by
  have hdir : ∀ {i : ℕ} {d : Directory}, t.node i = some (.dir d) → t.symlinkTarget i = none := by
    intro i d hd
    unfold DirTree.symlinkTarget
    rw [hd]
  unfold DirTree.stepName at h
  rcases hd : t.mountDir pos.ulInode with e | d
  · rw [hd] at h
    rcases hname with rfl | rfl
    · rw [if_pos rfl] at h
      cases h
    · rw [if_neg (by decide), if_pos rfl] at h
      cases h
  · rw [hd] at h
    rcases hname with rfl | rfl
    · rw [if_pos rfl] at h
      obtain rfl := Except.ok.inj h
      exact hdir (DirTree.mountDir_eq_ok.1 hd)
    · rw [if_neg (by decide), if_pos rfl] at h
      simp only [bind, Except.bind] at h
      split_ifs at h with hr
      · obtain rfl := Except.ok.inj h
        exact DirTree.symlinkTarget_root
      · rcases hp : t.redCoreDirParent pos.ulPInode with e | p
        · rw [hp] at h
          cases h
        · rw [hp] at h
          obtain rfl := Except.ok.inj h
          obtain ⟨⟨d, hd⟩, -⟩ := DirTree.redCoreDirParent_node hp
          exact hdir hd

/-- **The last component.** -/
lemma follow_last {pCtx : PathWalkCtx} {pos : Place} {z : CString} {name : List UInt8}
    {last : Place → List UInt8 → Except RedError Place} (hmode : LastMode t pCtx.ulFlags last)
    (h : OnPath pCtx) (hnames : pathNames (pCtx.pszPath.drop pCtx.ulPathIdx) = [])
    (hz : z.take (redNameLen z) = name) (hne : name ≠ []) (hpos : pos.Sound t) :
    ∃ N, ∀ fuel ≥ N,
      (pathWalkFollow t fuel z { pCtx.moved pos [] with pszName := some z } >>=
        pathWalkLoop t fuel).map PathWalkCtx.result =
      last pos name >>= fun p => .ok ⟨p.ulPInode, pCtx.pszLastName, p.ulInode⟩ := by
  have hmore : ∀ fuel ≥ pCtx.pszPath.strlen,
      pathHasMoreComponents fuel (pCtx.pszPath.drop pCtx.ulPathIdx) = .ok false := by
    intro fuel hfuel
    rw [hasMore_run h hfuel]
    simp [hnames]
  cases hmode with
  | nofollow hlookup hfollow =>
    apply follow_loop _ _ _ (M := 0) hz hne (fun _ _ => Or.inl hlookup)
    intro q hq
    exact loopTo_stay (hpos.stepName hq) (Or.inr ⟨hfollow, _, hmore⟩) (namesTo_end h hnames)
  | follow hlookup hfollow =>
    have hloop := follow_loop (t := t) (M := 0) pCtx pos
      (fun q => t.follow RED_SYMLOOP_MAX q >>= fun p =>
        .ok ⟨p.ulPInode, pCtx.pszLastName, p.ulInode⟩) hz hne (fun _ _ => Or.inl hlookup)
      fun q hq => loopTo_follow rfl ⟨0, fun _ _ => ⟨Or.inl hlookup, Or.inl hfollow⟩⟩
        (hpos.stepName hq) fun p _ => namesTo_end h hnames
    unfold DirTree.stepFollow
    simpa only [bind_assoc] using hloop
  | toName hlookup hfollow =>
    unfold DirTree.lastToName
    by_cases hdots : name = nameDot ∨ name = nameDotDot
    · rw [if_pos hdots]
      apply follow_loop _ _ _ (M := 0) hz hne (fun _ _ => Or.inr (Or.inr hdots))
      intro q hq
      exact loopTo_stay (hpos.stepName hq) (Or.inl (stepName_dots hq hdots)) (namesTo_end h hnames)
    · rw [if_neg hdots]
      refine ⟨pCtx.pszPath.strlen + 1, fun fuel hfuel => ?_⟩
      have hpos' : 0 < redNameLen z := by
        by_contra h0
        rw [show redNameLen z = 0 by omega] at hz
        exact hne hz.symm
      have hfalse := hmore fuel (by omega)
      have hrun : pathWalkFollow t fuel z { pCtx.moved pos [] with pszName := some z } =
          .ok { pCtx.moved ⟨INODE_INVALID, pos.ulInode⟩ [] with pszName := some z } := by
        unfold pathWalkFollow
        simp only [isDot_iff hpos', isDotDot_iff hpos', hz]
        rw [if_neg fun hc => hdots (Or.inl hc), if_neg fun hc => hdots (Or.inr hc)]
        have hno : ¬ (pCtx.moved pos []).ulFlags &&& PW_LOOKUP_LAST ≠ 0 := not_not.2 hlookup
        rw [if_neg hno]
        show (pathHasMoreComponents fuel (pCtx.pszPath.drop pCtx.ulPathIdx) >>= _) = _
        rw [hfalse]
        rfl
      obtain ⟨fuel, rfl⟩ : ∃ f, fuel = f + 1 := ⟨fuel - 1, by omega⟩
      rw [hrun]
      change (pathWalkLoop t (fuel + 1)
        { pCtx.moved ⟨INODE_INVALID, pos.ulInode⟩ [] with pszName := some z }).map _ = _
      rw [pathWalkLoop_invalid rfl]
      rfl

/-! ## The components of the path -/

/-- The name the walk leaves behind: that of the last component, as it stands in the path. -/
def LastName (psz : CString) (names : List (List UInt8)) (pszFirst z : CString) : Prop :=
  (names = [] → z = pszFirst) ∧
    ∀ name ∈ names.getLast?, z.take (redNameLen z) = name ∧ z <:+ psz

/-- **The components of a path** are resolved one after the other. -/
theorem namesTo_path {ulFlags : ℕ} {last : Place → List UInt8 → Except RedError Place}
    (hmode : LastMode t ulFlags last) :
    ∀ {names : List (List UInt8)} {pCtx : PathWalkCtx}, pCtx.ulFlags = ulFlags → OnPath pCtx →
      pathNames (pCtx.pszPath.drop pCtx.ulPathIdx) = names →
      ∃ z, LastName pCtx.pszPath names pCtx.pszLastName z ∧ ∀ pos : Place, pos.Sound t →
        NamesTo t (pCtx.moved pos []) (t.resolvePath last names pos >>= fun p =>
          .ok ⟨p.ulPInode, z, p.ulInode⟩) := by
  intro names
  induction names with
  | nil =>
    intro pCtx hflags h hnames
    refine ⟨pCtx.pszLastName, ⟨fun _ => rfl, by simp⟩, fun pos _ => ?_⟩
    exact namesTo_end h hnames
  | cons name names ih =>
    intro pCtx hflags h hnames
    have hne : name ≠ [] := ne_nil_of_mem_pathNames (hnames ▸ List.mem_cons_self)
    obtain ⟨z, ulPathIdx, hz, hsuffix, hle, hrest, hnext⟩ := topNext_name h hnames
    set pCtx' : PathWalkCtx := { pCtx with pszLastName := z, ulPathIdx } with hctx
    have h' : OnPath pCtx' := ⟨h.strlen_le, hle⟩
    -- what the walk does with the component decides about the rest of it
    have hrun : ∀ {pos : Place} {r : Except RedError PathWalkResult},
        (∃ N, ∀ fuel ≥ N, (pathWalkFollow t fuel z { pCtx'.moved pos [] with pszName := some z } >>=
          pathWalkLoop t fuel).map PathWalkCtx.result = r) → NamesTo t (pCtx.moved pos []) r := by
      rintro pos r ⟨N, hN⟩
      refine ⟨N + pCtx.pszPath.strlen, fun fuel hfuel => ?_⟩
      rw [namesFrom_path, hnext pos fuel (by omega)]
      exact hN fuel (by omega)
    cases names with
    | nil =>
      refine ⟨z, ⟨by simp, ?_⟩, fun pos hpos => hrun ?_⟩
      · intro name' hname'
        obtain rfl : name = name' := by simpa using hname'
        exact ⟨hz, hsuffix⟩
      · exact follow_last (hflags ▸ hmode) h' hrest hz hne hpos
    | cons name' names =>
      obtain ⟨z', hz', hloop⟩ := ih (show pCtx'.ulFlags = ulFlags from hflags) h' hrest
      refine ⟨z', ⟨by simp, ?_⟩, fun pos hpos => hrun ?_⟩
      · intro n hn
        exact hz'.2 n (by simpa using hn)
      · have hmore : ∀ fuel ≥ pCtx.pszPath.strlen,
            pathHasMoreComponents fuel (pCtx'.pszPath.drop pCtx'.ulPathIdx) = .ok true := by
          intro fuel hfuel
          rw [hasMore_run h' hfuel, hrest]
          rfl
        have hfollow := follow_loop (t := t) pCtx' pos
          (fun q => t.follow RED_SYMLOOP_MAX q >>= fun q =>
            t.resolvePath last (name' :: names) q >>= fun p => .ok ⟨p.ulPInode, z', p.ulInode⟩)
          hz hne (fun fuel hfuel => Or.inr (Or.inl (hmore fuel hfuel)))
          fun q hq => loopTo_follow rfl
            ⟨_, fun fuel hfuel => ⟨Or.inr (hmore fuel hfuel), Or.inr (hmore fuel hfuel)⟩⟩
            (hpos.stepName hq) fun p hp => hloop p hp
        rw [DirTree.resolvePath_cons_cons]
        unfold DirTree.stepFollow
        simpa only [bind_assoc] using hfollow

/-! ## The two functions -/

/-- The flags that `PathWalk()` accepts. -/
lemma and_nofollow_eq {ulFlags : ℕ} :
    ulFlags &&& RED_AT_SYMLINK_NOFOLLOW = ulFlags ↔
      ulFlags = 0 ∨ ulFlags = RED_AT_SYMLINK_NOFOLLOW := by
  constructor
  · intro h
    have hle : ulFlags ≤ 2 := by
      rw [← h]
      exact Nat.and_le_right
    obtain rfl | rfl | rfl : ulFlags = 0 ∨ ulFlags = 1 ∨ ulFlags = 2 := by omega
    · exact Or.inl rfl
    · exact absurd h (by decide)
    · exact Or.inr rfl
  · rintro (rfl | rfl) <;> rfl

/-- The walk of a path from a directory, with what it stores. -/
lemma pathWalk_run {ulDirInode ulFlags : ℕ} {psz : CString} (rootDirError : Option RedError)
    (fLookupLast : Bool) {last : Place → List UInt8 → Except RedError Place}
    (hlen : psz.strlen ≤ UINT32_MAX) (hdir : ulDirInode ≠ INODE_INVALID)
    (hflags : ulFlags &&& RED_AT_SYMLINK_NOFOLLOW = ulFlags)
    (hmode : LastMode t (ulFlags ||| if fLookupLast then PW_LOOKUP_LAST else 0) last) :
    ∃ z, LastName psz (pathNames psz) psz z ∧ ∃ N, ∀ fuel ≥ N,
      pathWalk t fuel ulDirInode psz ulFlags rootDirError fLookupLast =
        t.redCoreDirParent ulDirInode >>= fun q =>
          t.resolvePath last (pathNames psz) ⟨ulDirInode, q⟩ >>= fun p =>
            pathWalkStore rootDirError ⟨p.ulPInode, z, p.ulInode⟩ := by
  set pCtx : PathWalkCtx := {
    pszPath := psz
    pszLastName := psz
    pszName := none
    ulPathIdx := 0
    ulPInode := 0
    ulInode := 0
    ulFlags := ulFlags ||| if fLookupLast then PW_LOOKUP_LAST else 0
    aStack := [] } with hctx
  obtain ⟨z, hz, hpath⟩ := namesTo_path hmode (show pCtx.ulFlags = _ from rfl)
    (show OnPath pCtx from ⟨hlen, Nat.zero_le _⟩) (show pathNames _ = pathNames psz from rfl)
  refine ⟨z, hz, ?_⟩
  have hstart : ¬ (ulDirInode = INODE_INVALID ∨ ulFlags &&& RED_AT_SYMLINK_NOFOLLOW ≠ ulFlags) := by
    rintro (h | h)
    · exact hdir h
    · exact h hflags
  rcases hq : t.redCoreDirParent ulDirInode with e | q
  · refine ⟨0, fun fuel _ => ?_⟩
    unfold pathWalk
    rw [if_neg hstart, hq]
    rfl
  · obtain ⟨⟨d, hd⟩, -⟩ := DirTree.redCoreDirParent_node hq
    have hlink : t.symlinkTarget ulDirInode = none := by
      unfold DirTree.symlinkTarget
      rw [hd]
    have hsound : Place.Sound t ⟨ulDirInode, q⟩ := Place.Sound.of_dir hd
    obtain ⟨N, hN⟩ := loopTo_stay hsound (Or.inl hlink) (hpath ⟨ulDirInode, q⟩ hsound)
    refine ⟨N, fun fuel hfuel => ?_⟩
    have hloop := hN fuel hfuel
    unfold pathWalk
    rw [if_neg hstart, hq]
    change (pathWalkLoop t fuel (pCtx.moved ⟨ulDirInode, q⟩ []) >>= _) =
      (t.resolvePath last (pathNames psz) ⟨ulDirInode, q⟩ >>= _)
    rcases hp : t.resolvePath last (pathNames psz) ⟨ulDirInode, q⟩ with e | p
    · rw [hp] at hloop
      rcases hc : pathWalkLoop t fuel (pCtx.moved ⟨ulDirInode, q⟩ []) with e' | c
      · rw [hc] at hloop
        obtain rfl := Except.error.inj hloop
        rfl
      · rw [hc] at hloop
        cases hloop
    · rw [hp] at hloop
      rcases hc : pathWalkLoop t fuel (pCtx.moved ⟨ulDirInode, q⟩ []) with e' | c
      · rw [hc] at hloop
        cases hloop
      · rw [hc] at hloop
        have hres : c.result = ⟨p.ulPInode, z, p.ulInode⟩ := Except.ok.inj hloop
        obtain ⟨h1, h2, h3⟩ : c.ulPInode = p.ulPInode ∧ c.pszLastName = z ∧
            c.ulInode = p.ulInode := by
          unfold PathWalkCtx.result at hres
          injection hres with h1 h2 h3
          exact ⟨h1, h2, h3⟩
        simp only [bind, Except.bind, h1, h2, h3]

/-- **`RedPathLookup()`** returns the inode that the path names. -/
theorem redPathLookup_run {ulDirInode ulFlags : ℕ} {psz : CString}
    (hlen : psz.strlen ≤ UINT32_MAX) :
    ∃ N, ∀ fuel ≥ N, redPathLookup t fuel ulDirInode psz ulFlags =
      t.resolveLookup ulDirInode (pathNames psz) ulFlags := by
  by_cases hbad : ulDirInode = INODE_INVALID ∨ ulFlags &&& RED_AT_SYMLINK_NOFOLLOW ≠ ulFlags
  · refine ⟨0, fun fuel _ => ?_⟩
    unfold redPathLookup pathWalk DirTree.resolveLookup
    rw [if_pos hbad, if_pos (hbad.imp_right fun h hc => h (and_nofollow_eq.2 hc))]
    rfl
  · obtain ⟨hdir, hflags⟩ := not_or.1 hbad
    have hflags := not_not.1 hflags
    have hval := and_nofollow_eq.1 hflags
    have hmode : LastMode t (ulFlags ||| if true then PW_LOOKUP_LAST else 0)
        (t.lastLookup ulFlags) := by
      rcases hval with rfl | rfl
      · exact LastMode.follow (by decide) (by decide)
      · exact LastMode.nofollow (by decide) (by decide)
    obtain ⟨z, -, N, hN⟩ := pathWalk_run none true hlen hdir hflags hmode
    refine ⟨N, fun fuel hfuel => ?_⟩
    unfold redPathLookup DirTree.resolveLookup
    rw [hN fuel hfuel, if_neg (by rintro (h | h); exacts [hdir h, h hval])]
    rcases t.redCoreDirParent ulDirInode with e | q
    · rfl
    · show ((t.resolvePath _ _ _ >>= _) >>= _) = (t.resolvePath _ _ _ >>= _)
      rcases t.resolvePath (t.lastLookup ulFlags) (pathNames psz) ⟨ulDirInode, q⟩ with e | p <;> rfl

/-- A string without components does not start with a name. -/
lemma redNameLen_of_pathNames_eq_nil {psz : CString} (h : pathNames psz = []) :
    redNameLen psz = 0 := by
  apply redNameLen_eq
  · intro k hk
    omega
  · by_contra hc
    obtain ⟨h0, hs⟩ := not_or.1 hc
    rw [pathNames_cons h0 hs] at h
    cases h

lemma LastName.take {psz z : CString} (h : LastName psz (pathNames psz) psz z) :
    z.take (redNameLen z) = (pathNames psz).getLastD [] ∧ z <:+ psz := by
  rcases hn : pathNames psz with _ | ⟨name, names⟩
  · obtain rfl := h.1 hn
    rw [redNameLen_of_pathNames_eq_nil hn]
    exact ⟨rfl, List.suffix_refl _⟩
  · rw [hn] at h
    have hmem : (name :: names).getLast (List.cons_ne_nil _ _) ∈ (name :: names).getLast? := by
      rw [List.getLast?_eq_some_getLast (List.cons_ne_nil _ _)]
      rfl
    obtain ⟨htake, hsuffix⟩ := h.2 _ hmem
    refine ⟨?_, hsuffix⟩
    rw [htake, List.getLastD_eq_getLast?, List.getLast?_eq_some_getLast (List.cons_ne_nil _ _)]
    rfl

/-- Dot and dot-dot, seen from the string that ends a path. -/
lemma pathIsDotOrDotDot_iff {z : CString} :
    pathIsDotOrDotDot z ↔
      z.take (redNameLen z) = nameDot ∨ z.take (redNameLen z) = nameDotDot := by
  unfold pathIsDotOrDotDot
  rw [Bool.or_eq_true]
  by_cases hpos : 0 < redNameLen z
  · rw [isDot_iff hpos, isDotDot_iff hpos]
  · have hz : redNameLen z = 0 := by omega
    -- a string without a name starts with a terminator or a separator, which are not dots
    have hdot : z.at 0 ≠ 46 := by
      have hend := redNameLen_at z
      rw [hz] at hend
      rcases hend with h | h
      · rw [h]
        decide
      · rw [h]
        exact pathSeparator_ne_dot
    rw [hz]
    constructor
    · rintro (h | h)
      · simp [isDot, hdot] at h
      · simp [isDotDot, hdot] at h
    · rintro (h | h) <;> cases h

/-- **`RedPathToName()`** returns the parent directory and the last component of the path, where
it stands in the path. -/
theorem redPathToName_run {ulDirInode : ℕ} {psz : CString} {rootDirError : RedError}
    (hlen : psz.strlen ≤ UINT32_MAX) :
    ∃ z, z <:+ psz ∧ z.take (redNameLen z) = (pathNames psz).getLastD [] ∧ ∃ N, ∀ fuel ≥ N,
      redPathToName t fuel ulDirInode psz rootDirError =
        (t.resolveToName ulDirInode (pathNames psz) rootDirError).map fun r => (r.1, z) := by
  by_cases hdir : ulDirInode = INODE_INVALID
  · obtain ⟨z, hz, -⟩ := pathWalk_run (t := t) none false hlen
      (show INODE_ROOTDIR ≠ INODE_INVALID by decide) (show 0 &&& _ = 0 from rfl)
      (LastMode.toName (by decide) (by decide))
    obtain ⟨htake, hsuffix⟩ := hz.take
    refine ⟨z, hsuffix, htake, 0, fun fuel _ => ?_⟩
    unfold redPathToName pathWalk DirTree.resolveToName
    rw [if_pos (Or.inl hdir), if_pos hdir]
    rfl
  · obtain ⟨z, hz, N, hN⟩ := pathWalk_run (t := t) (some rootDirError) false hlen hdir
      (show 0 &&& _ = 0 from rfl) (LastMode.toName (by decide) (by decide))
    obtain ⟨htake, hsuffix⟩ := hz.take
    refine ⟨z, hsuffix, htake, N, fun fuel hfuel => ?_⟩
    unfold redPathToName DirTree.resolveToName
    rw [hN fuel hfuel, if_neg hdir]
    rcases t.redCoreDirParent ulDirInode with e | q
    · rfl
    · show ((t.resolvePath _ _ _ >>= _) >>= _) = Except.map _ (t.resolvePath _ _ _ >>= _)
      rcases t.resolvePath t.lastToName (pathNames psz) ⟨ulDirInode, q⟩ with e | p
      · rfl
      · simp only [bind, Except.bind, pathWalkStore]
        by_cases hp : p.ulPInode = INODE_INVALID
        · rw [if_pos hp, if_pos hp]
          rfl
        · rw [if_neg hp, if_neg hp]
          simp only [pathIsDotOrDotDot_iff, htake]
          split_ifs <;> rfl

/-- **Path resolution.** For every directory tree, starting inode and path whose length fits an
index: the walk ends, a lookup returns the inode that the path names, and a name the parent
directory with the last component where it stands in the path; and either reports a loop exactly
when a component that is to be followed would open more than `RED_SYMLOOP_MAX` expansions inside
one another. -/
theorem redPath_resolves (t : DirTree) {psz : CString} (hlen : psz.strlen ≤ UINT32_MAX)
    (ulDirInode : ℕ) :
    (∀ ulFlags,
      (∃ N, ∀ fuel ≥ N, redPathLookup t fuel ulDirInode psz ulFlags =
        t.resolveLookup ulDirInode (pathNames psz) ulFlags) ∧
      t.resolveLookup ulDirInode (pathNames psz) ulFlags ≠ .error .outOfFuel ∧
      (t.resolveLookup ulDirInode (pathNames psz) ulFlags = .error .ELOOP ↔
        ulDirInode ≠ INODE_INVALID ∧ (ulFlags = 0 ∨ ulFlags = RED_AT_SYMLINK_NOFOLLOW) ∧
        ∃ q, t.redCoreDirParent ulDirInode = .ok q ∧
          t.PathOpens (RED_SYMLOOP_MAX + 1) (decide (ulFlags ≠ RED_AT_SYMLINK_NOFOLLOW))
            (pathNames psz) ⟨ulDirInode, q⟩)) ∧
    ∀ rootDirError, rootDirError ≠ .outOfFuel → rootDirError ≠ .ELOOP →
      (∃ z, z <:+ psz ∧ z.take (redNameLen z) = (pathNames psz).getLastD [] ∧
        ∃ N, ∀ fuel ≥ N, redPathToName t fuel ulDirInode psz rootDirError =
          (t.resolveToName ulDirInode (pathNames psz) rootDirError).map fun r => (r.1, z)) ∧
      t.resolveToName ulDirInode (pathNames psz) rootDirError ≠ .error .outOfFuel ∧
      (t.resolveToName ulDirInode (pathNames psz) rootDirError = .error .ELOOP ↔
        ulDirInode ≠ INODE_INVALID ∧ ∃ q, t.redCoreDirParent ulDirInode = .ok q ∧
          t.PathOpens (RED_SYMLOOP_MAX + 1) false (pathNames psz) ⟨ulDirInode, q⟩) := by
  refine ⟨fun ulFlags => ⟨redPathLookup_run hlen, ?_, DirTree.resolveLookup_eq_eloop⟩,
    fun rootDirError hfuel hloop => ⟨redPathToName_run hlen, ?_,
      DirTree.resolveToName_eq_eloop hloop⟩⟩
  · exact DirTree.resolveLookup_fuel _ _ _
  · exact DirTree.resolveToName_fuel hfuel _ _

/-! ## A link to itself -/

/-- An entry `l`. -/
def smallDirent : letI := smallConf; Dirent :=
  letI := smallConf
  { acName := [108]
    ulInode := 3
    acName_ne_nil := List.cons_ne_nil _ _
    length_le := by decide
    clean := by
      intro c hc
      obtain rfl := List.mem_singleton.1 hc
      exact ⟨by decide, by decide⟩
    not_dot := ⟨by decide, by decide⟩ }

/-- A root directory with one entry `l`, a symbolic link to `l`. -/
def smallTree : letI := smallConf; DirTree :=
  letI := smallConf
  { node := fun i =>
      if i = 2 then some (.dir ⟨0, [none, some smallDirent]⟩)
      else if i = 3 then some (.lnk [108]) else none
    root := ⟨_, rfl⟩
    invalid := rfl
    parent := by
      intro i d h hi hp
      split_ifs at h with h1
      · exact absurd h1 hi
      · cases h
    removed := by
      intro i d e h hi
      split_ifs at h with h1
      · exact absurd h1 hi
      · cases h
    entry := by
      intro i d e h he
      split_ifs at h
      · obtain rfl := TreeNode.dir.inj (Option.some.inj h)
        obtain rfl : e = _ := by simpa using he
        rfl
      · cases h }

omit [RedConf] in
/-- In it every path of a name fits an index: looking `l` up is a loop, unless the link is not to be
followed. -/
theorem redPath_resolves_small : letI := smallConf
    (∃ N, ∀ fuel ≥ N, redPathLookup smallTree fuel 2 [47, 108] 0 = .error .ELOOP) ∧
    (∃ N, ∀ fuel ≥ N, redPathLookup smallTree fuel 2 [47, 108] 2 = .ok 3) ∧
    ∃ z, z <:+ [47, 108] ∧ z.take (redNameLen z) = [108] ∧
      ∃ N, ∀ fuel ≥ N, redPathToName smallTree fuel 2 [47, 108] .EISDIR = .ok (2, z) := by
  let _ := smallConf
  have hlen : CString.strlen [47, 108] ≤ UINT32_MAX := by decide
  obtain ⟨hlookup, hname⟩ := redPath_resolves smallTree hlen 2
  exact ⟨(hlookup 0).1, (hlookup 2).1, (hname .EISDIR (by decide) (by decide)).1⟩

/-! ## Paths whose length does not fit an index -/

/-- Nothing but separators, as far as the index reaches: it comes back to the start. -/
lemma skipSeparators_wraps {psz : CString} (h : ∀ k ≤ UINT32_MAX, psz.at k = pathSeparator) :
    ∀ fuel {ulIdx : ℕ}, ulIdx ≤ UINT32_MAX → skipSeparators psz fuel ulIdx = .error .outOfFuel := by
  intro fuel
  induction fuel with
  | zero =>
    intro ulIdx hle
    unfold skipSeparators
    rw [if_pos (h ulIdx hle)]
  | succ fuel ih =>
    intro ulIdx hle
    unfold skipSeparators
    rw [if_pos (h ulIdx hle)]
    apply ih
    unfold u32 UINT32_MAX
    omega

/-- A walk over such a path does not end. -/
lemma redPathLookup_endless {psz : CString} (h : ∀ k ≤ UINT32_MAX, psz.at k = pathSeparator) :
    ∀ fuel, redPathLookup t fuel INODE_ROOTDIR psz 0 = .error .outOfFuel := by
  intro fuel
  have hloop : ∀ pCtx : PathWalkCtx, pCtx.pszPath = psz → pCtx.ulPathIdx = 0 →
      pathWalkLoop t fuel (pCtx.moved .rootDir []) = .error .outOfFuel := by
    intro pCtx hpath hidx
    cases fuel with
    | zero => rfl
    | succ fuel =>
      have henter : symlinkEnter t fuel (pCtx.moved .rootDir []) =
          .ok (pCtx.moved .rootDir []) :=
        symlinkEnter_stay Place.Sound.rootDir.isSome (Or.inl DirTree.symlinkTarget_root)
      have hskip : skipSeparators (pCtx.moved .rootDir []).pszPath fuel
          (pCtx.moved .rootDir []).ulPathIdx = .error .outOfFuel := by
        show skipSeparators pCtx.pszPath fuel pCtx.ulPathIdx = _
        rw [hpath, hidx]
        exact skipSeparators_wraps h fuel (Nat.zero_le _)
      have hne : (pCtx.moved .rootDir []).ulInode ≠ INODE_INVALID := by
        show INODE_ROOTDIR ≠ INODE_INVALID
        decide
      rw [pathWalkLoop_succ hne]
      change symlinkEnter t fuel (pCtx.moved .rootDir []) >>= namesFrom t fuel = _
      rw [henter]
      show namesFrom t fuel (pCtx.moved .rootDir []) = _
      rw [namesFrom_path]
      unfold topNext
      rw [hskip]
      rfl
  unfold redPathLookup pathWalk
  rw [if_neg (by decide)]
  have hroot : t.redCoreDirParent INODE_ROOTDIR = .ok INODE_INVALID := by
    unfold DirTree.redCoreDirParent
    rw [if_pos rfl]
  rw [hroot]
  set pCtx : PathWalkCtx := ⟨psz, psz, none, 0, 0, 0, 0 ||| PW_LOOKUP_LAST, []⟩ with hctx
  change ((pathWalkLoop t fuel (pCtx.moved .rootDir []) >>= _) >>= _) = _
  rw [hloop pCtx rfl rfl]
  rfl

lemma at_replicate {n k : ℕ} {c : UInt8} (h : k < n) : CString.at (List.replicate n c) k = c := by
  simp [CString.at, h]

omit [RedConf] in
/-- **A path of `2 ^ 32` separators** is walked without end: no amount of fuel is enough. -/
theorem redPathLookup_wraps : letI := smallConf
    ¬ ∃ fuel, redPathLookup smallTree fuel 2 (List.replicate 4294967296 47) 0 ≠
      .error .outOfFuel := by
  let _ := smallConf
  rintro ⟨fuel, hfuel⟩
  apply hfuel
  apply redPathLookup_endless
  intro k hk
  apply at_replicate
  unfold UINT32_MAX at hk
  omega

end RelianceEdge
