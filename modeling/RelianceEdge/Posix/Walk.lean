import RelianceEdge.Posix.Target

set_option relaxedAutoImplicit false
set_option autoImplicit false
set_option linter.unusedSectionVars false

/-!
# The walk resolves the path

`PathWalk()` with its stack of links against the recursive definition of what a path names. The
walk is put together from two continuations: the rest of it before the last name is looked at for
being a link, and the rest of it once the levels are read on. The induction is on how many
expansions may still be opened, and inside it on the components of a target.

## Main definitions

* `LoopTo`, `NamesTo` — with enough fuel the rest of a walk ends with a result.
* `Place.Sound` — a place a walk can be at.

## Main results

* `loopTo_follow` — a place that may be a link is resolved before the walk goes on.
* `namesTo_target` — the components of the target of a link are resolved.
-/

namespace RelianceEdge

variable [RedConf] {t : DirTree}

open RedConf

/-! ## One name -/

/-- Two ways to see that a name is dot. -/
lemma isDot_iff {z : CString} (hpos : 0 < redNameLen z) :
    isDot z ↔ z.take (redNameLen z) = nameDot := by
  unfold isDot nameDot
  constructor
  · intro h
    simp only [Bool.and_eq_true, Bool.or_eq_true, beq_iff_eq] at h
    have hlen : redNameLen z = 1 := by
      apply redNameLen_eq ?_ h.2
      intro k hk
      obtain rfl : k = 0 := by omega
      exact redNameLen_lt hpos
    rw [hlen]
    cases z with
    | nil => simp at h
    | cons c z => simpa using h.1
  · intro h
    have hle := redNameLen_le_length z
    have hlen : redNameLen z = 1 := by
      have := congrArg List.length h
      rw [List.length_take] at this
      simp at this
      omega
    have hend := redNameLen_at z
    rw [hlen] at h hend
    cases z with
    | nil => simp at h
    | cons c z =>
      have hc : c = 46 := by simpa using h
      simp only [Bool.and_eq_true, Bool.or_eq_true, beq_iff_eq]
      exact ⟨hc, hend⟩

/-- Two ways to see that a name is dot-dot. -/
lemma isDotDot_iff {z : CString} (hpos : 0 < redNameLen z) :
    isDotDot z ↔ z.take (redNameLen z) = nameDotDot := by
  unfold isDotDot nameDotDot
  constructor
  · intro h
    simp only [Bool.and_eq_true, Bool.or_eq_true, beq_iff_eq] at h
    obtain ⟨⟨h0, h1⟩, h2⟩ := h
    have hfirst := redNameLen_lt hpos
    have hlen : redNameLen z = 2 := by
      apply redNameLen_eq ?_ h2
      intro k hk
      obtain rfl | rfl : k = 0 ∨ k = 1 := by omega
      · exact hfirst
      · rw [h1, ← h0]
        exact hfirst
    rw [hlen]
    cases z with
    | nil => simp at h0
    | cons c z =>
      cases z with
      | nil => simp at h1
      | cons d z =>
        have hc : c = 46 := h0
        have hd : d = 46 := h1
        simp [hc, hd]
  · intro h
    have hle := redNameLen_le_length z
    have hlen : redNameLen z = 2 := by
      have := congrArg List.length h
      rw [List.length_take] at this
      simp at this
      omega
    have hend := redNameLen_at z
    rw [hlen] at h hend
    cases z with
    | nil => simp at h
    | cons c z =>
      cases z with
      | nil => simp at h
      | cons d z =>
        have hcd : c = 46 ∧ d = 46 := by simpa using h
        simp only [Bool.and_eq_true, Bool.or_eq_true, beq_iff_eq]
        exact ⟨hcd, hend⟩

/-- A lookup depends on the name a string starts with. -/
lemma redCoreLookup_take (i : ℕ) (z : CString) :
    t.redCoreLookup i (z.take (redNameLen z)) = t.redCoreLookup i z := by
  have hlen : redNameLen (z.take (redNameLen z)) = redNameLen z := by
    rw [redNameLen_take, Nat.min_self]
  have hmatch : ∀ e : Dirent, e.matches (z.take (redNameLen z)) = e.matches z := by
    intro e
    unfold Dirent.matches
    rw [hlen, List.take_take, Nat.min_self]
  unfold DirTree.redCoreLookup
  simp only [hlen, hmatch]

lemma inodeMustBeSearchableDir_run (i : ℕ) :
    inodeMustBeSearchableDir t i = t.mountDir i >>= fun _ => .ok () := by
  unfold inodeMustBeSearchableDir
  by_cases hi : i = INODE_ROOTDIR
  · obtain ⟨d, hd⟩ := t.root
    rw [if_pos hi, hi, DirTree.mountDir_eq_ok.2 hd]
    rfl
  · rw [if_neg hi]
    unfold DirTree.redCoreStat DirTree.mountDir
    rcases t.node i with _ | (_ | _ | _) <;> rfl

/-- A walk put at a place, whatever it was doing. -/
def PathWalkCtx.at' (pCtx : PathWalkCtx) (pos : Place) : PathWalkCtx :=
  { pCtx with ulInode := pos.ulInode, ulPInode := pos.ulPInode }

/-- **`PathWalkFollow()`** goes one component further, when it looks the component up. -/
lemma pathWalkFollow_run {fuel : ℕ} {z : CString} {name : List UInt8} {pCtx : PathWalkCtx}
    (hz : z.take (redNameLen z) = name) (hne : name ≠ [])
    (hlookup : pCtx.ulFlags &&& PW_LOOKUP_LAST ≠ 0 ∨
      pathHasMoreComponents fuel (pCtx.pszPath.drop pCtx.ulPathIdx) = .ok true ∨
      name = nameDot ∨ name = nameDotDot) :
    pathWalkFollow t fuel z pCtx =
      (t.stepName ⟨pCtx.ulInode, pCtx.ulPInode⟩ name).map fun q => pCtx.at' q := by
  have hpos : 0 < redNameLen z := by
    by_contra h0
    rw [show redNameLen z = 0 by omega] at hz
    exact hne hz.symm
  unfold pathWalkFollow DirTree.stepName
  simp only [isDot_iff hpos, isDotDot_iff hpos, hz, inodeMustBeSearchableDir_run]
  by_cases h1 : name = nameDot
  · rw [if_pos h1, if_pos h1]
    rcases t.mountDir pCtx.ulInode with e | d <;> rfl
  · rw [if_neg h1, if_neg h1]
    by_cases h2 : name = nameDotDot
    · rw [if_pos h2, if_pos h2]
      rcases t.mountDir pCtx.ulInode with e | d
      · rfl
      · simp only [bind, Except.bind]
        by_cases hr : pCtx.ulInode = INODE_ROOTDIR
        · rw [if_neg (not_not.2 hr), if_pos hr, hr]
          unfold DirTree.redCoreDirParent
          rw [if_pos rfl]
          rfl
        · rw [if_pos hr, if_neg hr]
          rcases t.redCoreDirParent pCtx.ulPInode with e | q <;> rfl
    · rw [if_neg h2, if_neg h2]
      rw [← hz, redCoreLookup_take]
      by_cases hflag : pCtx.ulFlags &&& PW_LOOKUP_LAST ≠ 0
      · rw [if_pos hflag]
        rcases t.redCoreLookup pCtx.ulInode z with e | j <;> rfl
      · have hmore : pathHasMoreComponents fuel (pCtx.pszPath.drop pCtx.ulPathIdx) = .ok true := by
          rcases hlookup with h | h | h | h
          · exact absurd h hflag
          · exact h
          · exact absurd h h1
          · exact absurd h h2
        rw [if_neg hflag, hmore]
        rcases t.redCoreLookup pCtx.ulInode z with e | j <;> rfl

/-! ## Continuations -/

/-- What a walk leaves for its caller. -/
def PathWalkCtx.result (pCtx : PathWalkCtx) : PathWalkResult :=
  ⟨pCtx.ulPInode, pCtx.pszLastName, pCtx.ulInode⟩

/-- The rest of a walk once it has its next name, or has none. -/
def followFrom (t : DirTree) (fuel : ℕ) (pCtx : PathWalkCtx) : Except RedError PathWalkCtx :=
  match pCtx.pszName with
  | none => pure pCtx
  | some pszName => pathWalkFollow t fuel pszName pCtx >>= pathWalkLoop t fuel

/-- The rest of a walk from the reading of the levels on. -/
def namesFrom (t : DirTree) (fuel : ℕ) (pCtx : PathWalkCtx) : Except RedError PathWalkCtx := do
  let pCtx ← symlinkNames t fuel pCtx.aStack pCtx
  let pCtx ← if pCtx.pszName.isNone then topNext fuel pCtx else pure pCtx
  followFrom t fuel pCtx

/-- A name out of the levels is gone to. -/
lemma namesFrom_some {fuel : ℕ} {pCtx pCtx' : PathWalkCtx} {z : CString}
    (h : symlinkNames t fuel pCtx.aStack pCtx = .ok pCtx') (hz : pCtx'.pszName = some z) :
    namesFrom t fuel pCtx = pathWalkFollow t fuel z pCtx' >>= pathWalkLoop t fuel := by
  unfold namesFrom
  rw [h]
  simp only [bind, Except.bind, hz, Option.isNone_some, pure, Except.pure, followFrom]
  rfl

/-- With enough fuel the rest of a walk ends with a result. -/
def LoopTo (t : DirTree) (pCtx : PathWalkCtx) (r : Except RedError PathWalkResult) : Prop :=
  ∃ N, ∀ fuel ≥ N, (pathWalkLoop t fuel pCtx).map PathWalkCtx.result = r

/-- The same from the reading of the levels on. -/
def NamesTo (t : DirTree) (pCtx : PathWalkCtx) (r : Except RedError PathWalkResult) : Prop :=
  ∃ N, ∀ fuel ≥ N, (namesFrom t fuel pCtx).map PathWalkCtx.result = r

/-- The name of the step before does not matter. -/
lemma pathWalkLoop_name (fuel : ℕ) (pCtx : PathWalkCtx) (z : Option CString) :
    pathWalkLoop t fuel { pCtx with pszName := z } = pathWalkLoop t fuel pCtx := by
  cases fuel <;> rfl

/-- One round of the walk: a link is entered, and the levels are read. -/
lemma pathWalkLoop_succ {fuel : ℕ} {pCtx : PathWalkCtx} (h : pCtx.ulInode ≠ INODE_INVALID) :
    pathWalkLoop t (fuel + 1) pCtx =
      symlinkEnter t fuel { pCtx with pszName := none } >>= namesFrom t fuel := by
  have hne : ({ pCtx with pszName := none } : PathWalkCtx).ulInode ≠ INODE_INVALID := h
  conv_lhs => unfold pathWalkLoop pathWalkNext
  simp only [if_pos hne, symlinkNext, bind_assoc]
  congr 1
  funext c
  unfold namesFrom
  rcases symlinkNames t fuel c.aStack c with e | c'
  · rfl
  · rcases hz : c'.pszName with _ | z
    · simp only [bind, Except.bind, hz, Option.isNone_none, if_true]
      rfl
    · simp only [bind, Except.bind, hz, Option.isNone_some, pure, Except.pure, followFrom]
      rfl

/-- A walk whose last name was not looked up is over. -/
lemma pathWalkLoop_invalid {fuel : ℕ} {pCtx : PathWalkCtx} (h : pCtx.ulInode = INODE_INVALID) :
    pathWalkLoop t (fuel + 1) pCtx = .ok { pCtx with pszName := none } := by
  have hne : ¬ ({ pCtx with pszName := none } : PathWalkCtx).ulInode ≠ INODE_INVALID := not_not.2 h
  unfold pathWalkLoop pathWalkNext
  simp only [if_neg hne]
  rfl

/-! ## Places -/

/-- **Where a walk can be**: at an inode of the tree; and at a link only by way of a directory that
has not been removed. -/
structure Place.Sound (t : DirTree) (pos : Place) : Prop where
  isSome : (t.node pos.ulInode).isSome
  parent : (t.symlinkTarget pos.ulInode).isSome → ∃ q, t.redCoreDirParent pos.ulPInode = .ok q

namespace Place.Sound

/-- A directory. -/
lemma of_dir {i q : ℕ} {d : Directory} (h : t.node i = some (.dir d)) : Sound t ⟨i, q⟩ := by
  refine ⟨by simp [h], fun hl => ?_⟩
  simp [DirTree.symlinkTarget, h] at hl

lemma rootDir : Sound t .rootDir := by
  obtain ⟨d, hd⟩ := t.root
  exact of_dir hd

lemma ne_invalid {pos : Place} (h : pos.Sound t) : pos.ulInode ≠ INODE_INVALID := by
  intro hc
  have := h.isSome
  rw [hc, t.invalid] at this
  cases this

/-- One component further. -/
lemma stepName {pos q : Place} (h : pos.Sound t) {name : List UInt8}
    (hq : t.stepName pos name = .ok q) : q.Sound t := by
  unfold DirTree.stepName at hq
  split_ifs at hq with h1 h2 h3
  · rcases hd : t.mountDir pos.ulInode with e | d
    · rw [hd] at hq
      cases hq
    · rw [hd] at hq
      obtain rfl := Except.ok.inj hq
      exact h
  · rcases hd : t.mountDir pos.ulInode with e | d
    · rw [hd] at hq
      cases hq
    · rw [hd] at hq
      obtain rfl := Except.ok.inj hq
      exact rootDir
  · rcases hd : t.mountDir pos.ulInode with e | d
    · rw [hd] at hq
      cases hq
    · rw [hd] at hq
      rcases hp : t.redCoreDirParent pos.ulPInode with e | p
      · rw [hp] at hq
        cases hq
      · rw [hp] at hq
        obtain rfl := Except.ok.inj hq
        obtain ⟨⟨d, hd⟩, -⟩ := DirTree.redCoreDirParent_node hp
        exact of_dir hd
  · rcases hj : t.redCoreLookup pos.ulInode name with e | j
    · rw [hj] at hq
      cases hq
    · rw [hj] at hq
      obtain rfl := Except.ok.inj hq
      obtain ⟨hnode, hparent⟩ := DirTree.redCoreLookup_node hj
      exact ⟨hnode, fun _ => hparent⟩

/-- The directory of a link. -/
lemma link {pos : Place} (h : pos.Sound t) {target : List UInt8}
    (hl : t.symlinkTarget pos.ulInode = some target) :
    ∃ q, t.redCoreDirParent pos.ulPInode = .ok q ∧ Sound t ⟨pos.ulPInode, q⟩ := by
  obtain ⟨q, hq⟩ := h.parent (by simp [hl])
  obtain ⟨⟨d, hd⟩, -⟩ := DirTree.redCoreDirParent_node hq
  exact ⟨q, hq, of_dir hd⟩

end Place.Sound

lemma sound_targetStart (target : List UInt8) (p : ℕ) {pos : Place} (h : pos.Sound t) :
    (targetStart target p pos).Sound t := by
  unfold targetStart
  split_ifs
  · exact Place.Sound.rootDir
  · exact h

/-! ## Links -/

/-- A component further up is still to come, as far as the flags ask for it: the place is not that
of a last component which is not looked up or not followed. -/
def Passing (pCtx : PathWalkCtx) : Prop :=
  ∃ N, ∀ fuel ≥ N,
    (pCtx.ulFlags &&& PW_LOOKUP_LAST ≠ 0 ∨
      pathHasMoreComponents fuel (pCtx.pszPath.drop pCtx.ulPathIdx) = .ok true) ∧
    (pCtx.ulFlags &&& RED_AT_SYMLINK_NOFOLLOW = 0 ∨
      pathHasMoreComponents fuel (pCtx.pszPath.drop pCtx.ulPathIdx) = .ok true)

/-- What is not a link, or is a link that is not followed, is left alone. -/
lemma symlinkEnter_stay {fuel : ℕ} {pCtx : PathWalkCtx} (hnode : (t.node pCtx.ulInode).isSome)
    (h : t.symlinkTarget pCtx.ulInode = none ∨
      pCtx.ulFlags &&& RED_AT_SYMLINK_NOFOLLOW ≠ 0 ∧
        pathHasMoreComponents fuel (pCtx.pszPath.drop pCtx.ulPathIdx) = .ok false) :
    symlinkEnter t fuel pCtx = .ok pCtx := by
  unfold symlinkEnter
  by_cases hr : pCtx.ulInode = INODE_ROOTDIR
  · rw [if_pos hr]
    rfl
  · rw [if_neg hr]
    obtain ⟨m, hm⟩ := DirTree.redCoreStat_isSome hnode
    rw [hm]
    cases m with
    | lnk =>
      have hl := (DirTree.redCoreStat_lnk hm).1 rfl
      rcases h with h | ⟨hflag, hmore⟩
      · rw [h] at hl
        cases hl
      · simp only [bind, Except.bind]
        rw [if_pos hflag, hmore]
        rfl
    | invalid => rfl
    | reg => rfl
    | dir => rfl

/-- A link that is followed opens a level, if there is room for one. -/
lemma symlinkEnter_link {fuel : ℕ} {pCtx : PathWalkCtx} {target : List UInt8}
    (hl : t.symlinkTarget pCtx.ulInode = some target)
    (h : pCtx.ulFlags &&& RED_AT_SYMLINK_NOFOLLOW = 0 ∨
      pathHasMoreComponents fuel (pCtx.pszPath.drop pCtx.ulPathIdx) = .ok true) :
    symlinkEnter t fuel pCtx =
      if RED_SYMLOOP_MAX ≤ pCtx.aStack.length then .error .ELOOP
      else t.redCoreDirParent pCtx.ulPInode >>= fun ulPInode => .ok { pCtx with
        aStack := ⟨pCtx.ulInode, 0⟩ :: pCtx.aStack, ulInode := pCtx.ulPInode, ulPInode } := by
  have hr : pCtx.ulInode ≠ INODE_ROOTDIR := by
    intro hr
    rw [hr, DirTree.symlinkTarget_root] at hl
    cases hl
  have hm : t.redCoreStat pCtx.ulInode = .ok .lnk := by
    unfold DirTree.redCoreStat
    rw [DirTree.symlinkTarget_eq_some.1 hl]
  unfold symlinkEnter
  rw [if_neg hr, hm]
  by_cases hflag : pCtx.ulFlags &&& RED_AT_SYMLINK_NOFOLLOW ≠ 0
  · have hmore := h.resolve_left hflag
    simp only [bind, Except.bind]
    rw [if_pos hflag, hmore]
    rfl
  · simp only [bind, Except.bind]
    rw [if_neg hflag]
    rfl

/-- A place that is not a link: the walk goes on with the levels. -/
lemma loopTo_stay {pCtx : PathWalkCtx} {pos : Place} {aStack : List SymlinkLevel}
    (hpos : pos.Sound t)
    (h : t.symlinkTarget pos.ulInode = none ∨
      pCtx.ulFlags &&& RED_AT_SYMLINK_NOFOLLOW ≠ 0 ∧
        ∃ N, ∀ fuel ≥ N,
          pathHasMoreComponents fuel (pCtx.pszPath.drop pCtx.ulPathIdx) = .ok false)
    {r : Except RedError PathWalkResult} (hr : NamesTo t (pCtx.moved pos aStack) r) :
    LoopTo t (pCtx.moved pos aStack) r := by
  obtain ⟨N, hN⟩ := hr
  obtain ⟨M, hM⟩ : ∃ M, ∀ fuel ≥ M, t.symlinkTarget pos.ulInode = none ∨
      pCtx.ulFlags &&& RED_AT_SYMLINK_NOFOLLOW ≠ 0 ∧
        pathHasMoreComponents fuel (pCtx.pszPath.drop pCtx.ulPathIdx) = .ok false := by
    rcases h with h | ⟨hflag, M, hM⟩
    · exact ⟨0, fun _ _ => Or.inl h⟩
    · exact ⟨M, fun fuel hf => Or.inr ⟨hflag, hM fuel hf⟩⟩
  refine ⟨N + M + 1, fun fuel hfuel => ?_⟩
  obtain ⟨fuel, rfl⟩ : ∃ f, fuel = f + 1 := ⟨fuel - 1, by omega⟩
  have henter : symlinkEnter t fuel (pCtx.moved pos aStack) = .ok (pCtx.moved pos aStack) :=
    symlinkEnter_stay hpos.isSome (hM fuel (by omega))
  rw [pathWalkLoop_succ hpos.ne_invalid]
  change (symlinkEnter t fuel (pCtx.moved pos aStack) >>= namesFrom t fuel).map _ = r
  rw [henter]
  exact hN fuel (by omega)

/-- **The levels of a link**: its components are resolved, as far as links may be followed inside
it, and then the walk goes on with the level around it. -/
lemma namesTo_target {k : ℕ}
    (hfollow : ∀ {pCtx : PathWalkCtx} {pos : Place} {aStack : List SymlinkLevel}
      {next : Place → Except RedError PathWalkResult}, aStack.length + k = RED_SYMLOOP_MAX →
      Passing pCtx → pos.Sound t →
      (∀ q : Place, q.Sound t → NamesTo t (pCtx.moved q aStack) (next q)) →
      LoopTo t (pCtx.moved pos aStack) (t.follow k pos >>= next))
    {pCtx : PathWalkCtx} {aStack : List SymlinkLevel}
    {next : Place → Except RedError PathWalkResult} {i : ℕ} {target : List UInt8}
    (hstack : aStack.length + (k + 1) = RED_SYMLOOP_MAX) (hpass : Passing pCtx)
    (hl : t.symlinkTarget i = some target) (hne : CString.at target 0 ≠ 0)
    (hnext : ∀ q : Place, q.Sound t → NamesTo t (pCtx.moved q aStack) (next q)) :
    ∀ {names : List (List UInt8)} {p : ℕ} {pos : Place}, pos.Sound t →
      pathNames (target.drop p) = names →
      NamesTo t (pCtx.moved pos (⟨i, p⟩ :: aStack))
        (t.walkTarget k names (targetStart target p pos) >>= next) := by
  intro names
  induction names with
  | nil =>
    intro p pos hpos hnames
    obtain ⟨N, hN⟩ := hnext _ (sound_targetStart target p hpos)
    refine ⟨N + target.length + 1, fun fuel hfuel => ?_⟩
    have hlt : target.length < fuel := by omega
    have hpop := symlinkNames_pop hl hne hlt hnames pCtx pos aStack
    have hrun := hN fuel (by omega)
    unfold namesFrom at hrun ⊢
    change ((symlinkNames t fuel (⟨i, p⟩ :: aStack) (pCtx.moved pos (⟨i, p⟩ :: aStack)) >>=
      _).map _) = _
    rw [hpop]
    exact hrun
  | cons name names ih =>
    intro p pos hpos hnames
    obtain ⟨p'', z, hp'', hrest, hz, hcons⟩ := symlinkNames_cons hl hnames pCtx pos aStack
    have hstart := sound_targetStart target p hpos
    set start := targetStart target p pos with hs
    by_cases hlong : nameMax < name.length
    · refine ⟨target.length + 1, fun fuel hfuel => ?_⟩
      have hrun := hcons fuel (by omega)
      rw [if_pos hlong] at hrun
      unfold namesFrom
      change ((symlinkNames t fuel (⟨i, p⟩ :: aStack) (pCtx.moved pos (⟨i, p⟩ :: aStack)) >>=
        _).map _) = _
      rw [hrun, DirTree.walkTarget_cons]
      unfold DirTree.stepLinkName
      rw [if_pos hlong]
      rfl
    · have hname : name ≠ [] := ne_nil_of_mem_pathNames (hnames ▸ List.mem_cons_self)
      obtain ⟨M, hM⟩ := hpass
      have hloop : ∀ q : Place, q.Sound t → LoopTo t (pCtx.moved q (⟨i, p''⟩ :: aStack))
          (t.follow k q >>= fun q => t.walkTarget k names q >>= next) := by
        intro q hq
        apply hfollow (by simp only [List.length_cons]; omega) ⟨M, hM⟩ hq
        intro q hq
        have hih := ih hq hrest
        have : targetStart target p'' q = q := by
          unfold targetStart
          rw [if_neg fun hc => hp'' hc.1]
        rwa [this] at hih
      have hstep : t.walkTarget k (name :: names) start >>= next =
          t.stepName start name >>= fun q =>
            t.follow k q >>= fun q => t.walkTarget k names q >>= next := by
        rw [DirTree.walkTarget_cons]
        unfold DirTree.stepLinkName
        rw [if_neg hlong]
        simp only [bind_assoc]
      have hrun : ∀ fuel ≥ target.length + M + 1,
          namesFrom t fuel (pCtx.moved pos (⟨i, p⟩ :: aStack)) =
            t.stepName start name >>= fun q =>
              pathWalkLoop t fuel (pCtx.moved q (⟨i, p''⟩ :: aStack)) := by
        intro fuel hfuel
        have hsym := hcons fuel (by omega)
        rw [if_neg hlong] at hsym
        rw [namesFrom_some hsym rfl, pathWalkFollow_run (hz (by omega)) hname]
        · show ((t.stepName start name).map _) >>= _ = _
          rcases t.stepName start name with e | q
          · rfl
          · exact pathWalkLoop_name _ (pCtx.moved q (⟨i, p''⟩ :: aStack)) _
        · rcases (hM fuel (by omega)).1 with h | h
          · exact Or.inl h
          · exact Or.inr (Or.inl h)
      rw [hstep]
      rcases hq : t.stepName start name with e | q
      · refine ⟨target.length + M + 1, fun fuel hfuel => ?_⟩
        rw [hrun fuel hfuel, hq]
        rfl
      · obtain ⟨N, hN⟩ := hloop q (hstart.stepName hq)
        refine ⟨target.length + M + 1 + N, fun fuel hfuel => ?_⟩
        rw [hrun fuel (by omega), hq]
        exact hN fuel (by omega)

/-- **A place that may be a link** is resolved before the walk goes on. -/
theorem loopTo_follow : ∀ {k : ℕ} {pCtx : PathWalkCtx} {pos : Place} {aStack : List SymlinkLevel}
    {next : Place → Except RedError PathWalkResult}, aStack.length + k = RED_SYMLOOP_MAX →
    Passing pCtx → pos.Sound t →
    (∀ q : Place, q.Sound t → NamesTo t (pCtx.moved q aStack) (next q)) →
    LoopTo t (pCtx.moved pos aStack) (t.follow k pos >>= next) := by
  intro k
  induction k with
  | zero =>
    intro pCtx pos aStack next hstack hpass hpos hnext
    rcases hl : t.symlinkTarget pos.ulInode with _ | target
    · rw [DirTree.follow_of_not_link hl]
      exact loopTo_stay hpos (Or.inl hl) (hnext pos hpos)
    · obtain ⟨M, hM⟩ := hpass
      refine ⟨M + 1, fun fuel hfuel => ?_⟩
      obtain ⟨fuel, rfl⟩ : ∃ f, fuel = f + 1 := ⟨fuel - 1, by omega⟩
      have henter : symlinkEnter t fuel (pCtx.moved pos aStack) = _ :=
        symlinkEnter_link hl (hM fuel (by omega)).2
      have hfull : RED_SYMLOOP_MAX ≤ (pCtx.moved pos aStack).aStack.length := by
        show RED_SYMLOOP_MAX ≤ aStack.length
        omega
      rw [if_pos hfull] at henter
      rw [pathWalkLoop_succ hpos.ne_invalid]
      change (symlinkEnter t fuel (pCtx.moved pos aStack) >>= namesFrom t fuel).map _ = _
      rw [henter, DirTree.follow_zero hl]
      rfl
  | succ k ih =>
    intro pCtx pos aStack next hstack hpass hpos hnext
    rcases hl : t.symlinkTarget pos.ulInode with _ | target
    · rw [DirTree.follow_of_not_link hl]
      exact loopTo_stay hpos (Or.inl hl) (hnext pos hpos)
    · obtain ⟨q, hq, hsound⟩ := hpos.link hl
      have hroom : ¬ RED_SYMLOOP_MAX ≤ (pCtx.moved pos aStack).aStack.length := by
        show ¬ RED_SYMLOOP_MAX ≤ aStack.length
        omega
      obtain ⟨M, hM⟩ := id hpass
      have hrun : ∀ fuel ≥ M, pathWalkLoop t (fuel + 1) (pCtx.moved pos aStack) =
          namesFrom t fuel (pCtx.moved ⟨pos.ulPInode, q⟩ (⟨pos.ulInode, 0⟩ :: aStack)) := by
        intro fuel hfuel
        have henter : symlinkEnter t fuel (pCtx.moved pos aStack) = _ :=
          symlinkEnter_link hl (hM fuel hfuel).2
        rw [if_neg hroom] at henter
        rw [pathWalkLoop_succ hpos.ne_invalid]
        change symlinkEnter t fuel (pCtx.moved pos aStack) >>= namesFrom t fuel = _
        rw [henter]
        show (t.redCoreDirParent pos.ulPInode >>= _) >>= _ = _
        rw [hq]
        rfl
      have hnames : NamesTo t (pCtx.moved ⟨pos.ulPInode, q⟩ (⟨pos.ulInode, 0⟩ :: aStack))
          (t.follow (k + 1) pos >>= next) := by
        by_cases he : CString.at target 0 = 0
        · refine ⟨target.length + 1, fun fuel hfuel => ?_⟩
          have hlt : target.length < fuel := by omega
          have hempty := symlinkNames_empty hl he hlt pCtx ⟨pos.ulPInode, q⟩ aStack
          unfold namesFrom
          change ((symlinkNames t fuel (⟨pos.ulInode, 0⟩ :: aStack) (pCtx.moved ⟨pos.ulPInode, q⟩
            (⟨pos.ulInode, 0⟩ :: aStack)) >>= _).map _) = _
          rw [hempty, DirTree.follow_empty hl he]
          rfl
        · have hstart : t.linkStart pos target = .ok (targetStart target 0 ⟨pos.ulPInode, q⟩) := by
            unfold DirTree.linkStart targetStart
            by_cases hs : CString.at target 0 = pathSeparator
            · rw [if_pos hs, if_pos ⟨rfl, hs⟩]
              rfl
            · rw [if_neg hs, if_neg fun hc => hs hc.2, hq]
              rfl
          rw [DirTree.follow_succ hl he, hstart]
          exact namesTo_target ih hstack hpass hl he hnext hsound rfl
      obtain ⟨N, hN⟩ := hnames
      refine ⟨M + N + 1, fun fuel hfuel => ?_⟩
      obtain ⟨fuel, rfl⟩ : ∃ f, fuel = f + 1 := ⟨fuel - 1, by omega⟩
      rw [hrun fuel (by omega)]
      exact hN fuel (by omega)

end RelianceEdge
