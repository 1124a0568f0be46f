import RelianceEdge.Posix.Path
import RelianceEdge.Lib.Fold

set_option relaxedAutoImplicit false
set_option autoImplicit false
set_option linter.unusedSectionVars false

/-!
# What a path names

The meaning of a path in a directory tree, by recursion: the components are resolved left to
right, and a component that names a symbolic link is resolved to what its target names before the
next one is looked at. The bound on expansions inside one another is a parameter.

## Main definitions

* `DirTree.stepName` — one component, from a place.
* `DirTree.follow` — a symbolic link, resolved.
* `DirTree.resolvePath` — the components of a path, the last one treated apart.
* `DirTree.resolveLookup`, `DirTree.resolveToName` — what the two functions on paths return.
* `DirTree.Opens` — a link whose resolution opens a number of expansions inside one another.

## Main results

* `DirTree.follow_eq_eloop` — the bound is hit exactly when one more expansion would be opened.
* `DirTree.follow_mono` — a bound that is not hit makes no difference.
-/

namespace RelianceEdge

variable [RedConf]

open RedConf

/-- Where a walk is: an inode, and the directory it was reached from. -/
structure Place where
  ulInode : ℕ
  ulPInode : ℕ

/-- The root directory has no parent. -/
def Place.rootDir : Place := ⟨INODE_ROOTDIR, INODE_INVALID⟩

namespace DirTree

variable (t : DirTree)

/-! ## The recursive definition -/

/-- **One component**: dot is the directory itself, dot-dot its parent, or the root directory in
the root directory, and every other name is an entry of the directory. -/
def stepName (pos : Place) (name : List UInt8) : Except RedError Place :=
  if name = nameDot then do
    let _ ← t.mountDir pos.ulInode
    pure pos
  else if name = nameDotDot then do
    let _ ← t.mountDir pos.ulInode
    if pos.ulInode = INODE_ROOTDIR then pure .rootDir
    else
      let ulPInode ← t.redCoreDirParent pos.ulPInode
      pure ⟨pos.ulPInode, ulPInode⟩
  else do
    let ulInode ← t.redCoreLookup pos.ulInode name
    pure ⟨ulInode, pos.ulInode⟩

/-- Where the target of a link starts: at the root directory if it starts with a separator, else
at the directory of the link. -/
def linkStart (pos : Place) (target : List UInt8) : Except RedError Place :=
  if CString.at target 0 = pathSeparator then pure .rootDir
  else do
    let ulPInode ← t.redCoreDirParent pos.ulPInode
    pure ⟨pos.ulPInode, ulPInode⟩

/-- A component of a target, whose length nobody has checked. -/
def stepLinkName (pos : Place) (name : List UInt8) : Except RedError Place :=
  if nameMax < name.length then .error .ENAMETOOLONG else t.stepName pos name

/-- **A symbolic link, resolved**, with at most `k` expansions inside one another. What is not a
link stays where it is. -/
def follow : ℕ → Place → Except RedError Place
  | 0, pos =>
    match t.symlinkTarget pos.ulInode with
    | none => pure pos
    | some _ => .error .ELOOP
  | k + 1, pos =>
    match t.symlinkTarget pos.ulInode with
    | none => pure pos
    | some target =>
      if CString.at target 0 = 0 then .error .ENOENT
      else do
        let start ← t.linkStart pos target
        (pathNames target).foldlM (fun pos name => do
          let pos ← t.stepLinkName pos name
          follow k pos) start

/-- A component that is not the last one, with what it leads to. -/
def stepFollow (k : ℕ) (pos : Place) (name : List UInt8) : Except RedError Place := do
  let pos ← t.stepName pos name
  t.follow k pos

/-- **The components of a path**, the last one resolved by `last`. -/
def resolvePath (last : Place → List UInt8 → Except RedError Place) :
    List (List UInt8) → Place → Except RedError Place
  | [], pos => pure pos
  | [name], pos => last pos name
  | name :: names, pos => do
    let pos ← t.stepFollow RED_SYMLOOP_MAX pos name
    resolvePath last names pos

/-- The last component of a path that is looked up. -/
def lastLookup (ulFlags : ℕ) (pos : Place) (name : List UInt8) : Except RedError Place :=
  if ulFlags = RED_AT_SYMLINK_NOFOLLOW then t.stepName pos name
  else t.stepFollow RED_SYMLOOP_MAX pos name

/-- The last component of a path of which only the name is wanted: nothing is looked up. -/
def lastToName (pos : Place) (name : List UInt8) : Except RedError Place :=
  if name = nameDot ∨ name = nameDotDot then t.stepName pos name
  else pure ⟨INODE_INVALID, pos.ulInode⟩

/-- **The inode of a path.** -/
def resolveLookup (ulDirInode : ℕ) (names : List (List UInt8)) (ulFlags : ℕ) :
    Except RedError ℕ :=
  if ulDirInode = INODE_INVALID ∨ ¬ (ulFlags = 0 ∨ ulFlags = RED_AT_SYMLINK_NOFOLLOW) then
    .error .EINVAL
  else do
    let ulPInode ← t.redCoreDirParent ulDirInode
    let pos ← t.resolvePath (t.lastLookup ulFlags) names ⟨ulDirInode, ulPInode⟩
    pure pos.ulInode

/-- **The parent directory and the last component of a path.** -/
def resolveToName (ulDirInode : ℕ) (names : List (List UInt8)) (rootDirError : RedError) :
    Except RedError (ℕ × List UInt8) :=
  if ulDirInode = INODE_INVALID then .error .EINVAL
  else do
    let ulPInode ← t.redCoreDirParent ulDirInode
    let pos ← t.resolvePath t.lastToName names ⟨ulDirInode, ulPInode⟩
    let name := names.getLastD []
    if pos.ulPInode = INODE_INVALID then .error rootDirError
    else if name = nameDot ∨ name = nameDotDot then .error .EINVAL
    else pure (pos.ulPInode, name)

/-! ## Expansions inside one another -/

/-- The components of a target, resolved from a place. -/
def walkTarget (k : ℕ) (names : List (List UInt8)) (pos : Place) : Except RedError Place :=
  names.foldlM (fun pos name => do
    let pos ← t.stepLinkName pos name
    t.follow k pos) pos

/-- **Resolving the link at a place opens `n` expansions inside one another**: it is a link, and
for the further ones a component of its target, reached from the ones before it, is such a
link. -/
inductive Opens : ℕ → Place → Prop
  | link {pos : Place} {target : List UInt8} (h : t.symlinkTarget pos.ulInode = some target) :
      Opens 1 pos
  | inner {n k : ℕ} {pos start p q : Place} {target name : List UInt8}
      {front back : List (List UInt8)} (h : t.symlinkTarget pos.ulInode = some target)
      (hne : CString.at target 0 ≠ 0) (hstart : t.linkStart pos target = .ok start)
      (hnames : pathNames target = front ++ name :: back)
      (hfront : t.walkTarget k front start = .ok p) (hname : t.stepLinkName p name = .ok q)
      (hq : Opens n q) : Opens (n + 1) pos

/-- A component of a path, other than a last one that is not followed, is a link whose resolution
opens `n` expansions inside one another. -/
def PathOpens (n : ℕ) (fFollowLast : Bool) (names : List (List UInt8)) (pos : Place) : Prop :=
  ∃ (k : ℕ) (front back : List (List UInt8)) (name : List UInt8) (p q : Place),
    names = front ++ name :: back ∧ (back = [] → fFollowLast) ∧
    front.foldlM (t.stepFollow k) pos = .ok p ∧ t.stepName p name = .ok q ∧ t.Opens n q

variable {t}

lemma follow_of_not_link {k : ℕ} {pos : Place} (h : t.symlinkTarget pos.ulInode = none) :
    t.follow k pos = .ok pos := by
  cases k <;> simp only [follow, h] <;> rfl

lemma follow_zero {pos : Place} {target : List UInt8}
    (h : t.symlinkTarget pos.ulInode = some target) : t.follow 0 pos = .error .ELOOP := by
  simp only [follow, h]

lemma follow_succ {k : ℕ} {pos : Place} {target : List UInt8}
    (h : t.symlinkTarget pos.ulInode = some target) (hne : CString.at target 0 ≠ 0) :
    t.follow (k + 1) pos = t.linkStart pos target >>= t.walkTarget k (pathNames target) := by
  simp only [follow, h, if_neg hne]
  rfl

lemma follow_empty {k : ℕ} {pos : Place} {target : List UInt8}
    (h : t.symlinkTarget pos.ulInode = some target) (he : CString.at target 0 = 0) :
    t.follow (k + 1) pos = .error .ENOENT := by
  simp only [follow, h, if_pos he]

lemma walkTarget_cons {k : ℕ} {pos : Place} {name : List UInt8} {names : List (List UInt8)} :
    t.walkTarget k (name :: names) pos =
      t.stepLinkName pos name >>= fun q => t.follow k q >>= t.walkTarget k names := by
  simp only [walkTarget, List.foldlM_cons, bind_assoc]
  rfl

/-! ## Errors -/

/-- An outcome that is neither a loop nor the end of the fuel. -/
def Plain {α : Type} (x : Except RedError α) : Prop :=
  ∀ e, x = .error e → e ≠ .ELOOP ∧ e ≠ .outOfFuel

omit [RedConf] in
lemma Plain.pure {α : Type} (a : α) : Plain (Except.ok a : Except RedError α) := by
  intro e h
  cases h

omit [RedConf] in
lemma Plain.error {α : Type} {e : RedError} (h : e ≠ .ELOOP ∧ e ≠ .outOfFuel) :
    Plain (.error e : Except RedError α) := by
  intro e' he
  cases he
  exact h

omit [RedConf] in
lemma Plain.bind {α β : Type} {x : Except RedError α} {f : α → Except RedError β}
    (hx : Plain x) (hf : ∀ a, Plain (f a)) : Plain (x >>= f) := by
  intro e h
  rcases x with e' | a
  · obtain rfl := Except.error.inj h
    exact hx e' rfl
  · exact hf a e h

/-- The functions of the core neither report loops nor run out of fuel. -/
lemma mountDir_plain (i : ℕ) : Plain (t.mountDir i) := by
  unfold mountDir
  rcases t.node i with _ | (_ | _ | _)
  · exact Plain.error (by decide)
  · exact Plain.pure _
  · exact Plain.error (by decide)
  · exact Plain.error (by decide)

lemma redCoreDirParent_plain (i : ℕ) : Plain (t.redCoreDirParent i) := by
  unfold redCoreDirParent
  split_ifs
  · exact Plain.pure _
  · apply Plain.bind (mountDir_plain i)
    intro d
    split_ifs
    · exact Plain.error (by decide)
    · exact Plain.pure _

lemma redCoreLookup_plain (i : ℕ) (psz : CString) : Plain (t.redCoreLookup i psz) := by
  unfold redCoreLookup
  apply Plain.bind (mountDir_plain i)
  intro d
  split_ifs
  · exact Plain.error (by decide)
  · exact Plain.error (by decide)
  · split
    · exact Plain.pure _
    · exact Plain.error (by decide)

lemma stepName_plain (pos : Place) (name : List UInt8) : Plain (t.stepName pos name) := by
  unfold stepName
  split_ifs
  · exact Plain.bind (mountDir_plain _) fun _ => Plain.pure _
  · exact Plain.bind (mountDir_plain _) fun _ => Plain.pure _
  · apply Plain.bind (mountDir_plain _)
    intro _
    exact Plain.bind (redCoreDirParent_plain _) fun _ => Plain.pure _
  · exact Plain.bind (redCoreLookup_plain _ _) fun _ => Plain.pure _

lemma stepLinkName_plain (pos : Place) (name : List UInt8) : Plain (t.stepLinkName pos name) := by
  unfold stepLinkName
  split_ifs
  · exact Plain.error (by decide)
  · exact stepName_plain pos name

lemma linkStart_plain (pos : Place) (target : List UInt8) : Plain (t.linkStart pos target) := by
  unfold linkStart
  split_ifs
  · exact Plain.pure _
  · exact Plain.bind (redCoreDirParent_plain _) fun _ => Plain.pure _

/-- Following links does not run out of fuel. -/
lemma follow_fuel (k : ℕ) (pos : Place) : t.follow k pos ≠ .error .outOfFuel := by
  induction k generalizing pos with
  | zero =>
    rcases h : t.symlinkTarget pos.ulInode with _ | target
    · rw [follow_of_not_link h]
      intro hc
      cases hc
    · rw [follow_zero h]
      intro hc
      cases hc
  | succ k ih =>
    rcases h : t.symlinkTarget pos.ulInode with _ | target
    · rw [follow_of_not_link h]
      intro hc
      cases hc
    · by_cases he : CString.at target 0 = 0
      · rw [follow_empty h he]
        intro hc
        cases hc
      · rw [follow_succ h he]
        rcases hs : t.linkStart pos target with e | start
        · intro hc
          obtain rfl := Except.error.inj hc
          exact (linkStart_plain pos target _ hs).2 rfl
        · intro hc
          obtain ⟨_, name, _, q, -, -, hq⟩ := Fold.foldlM_eq_error_iff.1 hc
          rcases hn : t.stepLinkName q name with e | q'
          · rw [hn] at hq
            obtain rfl := Except.error.inj hq
            exact (stepLinkName_plain q name _ hn).2 rfl
          · rw [hn] at hq
            exact ih q' hq

lemma stepFollow_fuel (k : ℕ) (pos : Place) (name : List UInt8) :
    t.stepFollow k pos name ≠ .error .outOfFuel := by
  unfold stepFollow
  rcases hn : t.stepName pos name with e | q
  · intro hc
    obtain rfl := Except.error.inj hc
    exact (stepName_plain pos name _ hn).2 rfl
  · exact follow_fuel k q

/-! ## The bound -/

/-- **A bound that is not hit** makes no difference. -/
theorem follow_mono {k j : ℕ} (hkj : k ≤ j) {pos : Place} (h : t.follow k pos ≠ .error .ELOOP) :
    t.follow j pos = t.follow k pos := by
  induction k generalizing j pos with
  | zero =>
    rcases hl : t.symlinkTarget pos.ulInode with _ | target
    · rw [follow_of_not_link hl, follow_of_not_link hl]
    · exact absurd (follow_zero hl) h
  | succ k ih =>
    obtain ⟨j, rfl⟩ : ∃ j', j = j' + 1 := ⟨j - 1, by omega⟩
    rcases hl : t.symlinkTarget pos.ulInode with _ | target
    · rw [follow_of_not_link hl, follow_of_not_link hl]
    · by_cases he : CString.at target 0 = 0
      · rw [follow_empty hl he, follow_empty hl he]
      · rw [follow_succ hl he] at h ⊢
        rw [follow_succ hl he]
        rcases hs : t.linkStart pos target with e | start
        · rfl
        · rw [hs] at h
          apply Fold.foldlM_congr (h := ?_) h
          intro q name hq
          rcases hn : t.stepLinkName q name with e | q'
          · rfl
          · rw [hn] at hq
            exact ih (by omega) hq

/-- Steps whose bound makes no difference unless it is hit: what resolves under one bound resolves
under every other bound that is not hit, and to the same place. -/
lemma foldlM_of_ok {step : ℕ → Place → List UInt8 → Except RedError Place}
    (hstep : ∀ {k j : ℕ}, k ≤ j → ∀ q name, step k q name ≠ .error .ELOOP →
      step j q name = step k q name)
    {k j : ℕ} {names : List (List UInt8)} {pos p : Place}
    (h : names.foldlM (step j) pos = .ok p) (hk : names.foldlM (step k) pos ≠ .error .ELOOP) :
    names.foldlM (step k) pos = .ok p := by
  rcases Nat.le_total j k with hjk | hjk
  · rw [Fold.foldlM_congr (hstep hjk) (by rw [h]; exact fun hc => by cases hc), h]
  · rw [← Fold.foldlM_congr (hstep hjk) hk, h]

lemma walkTarget_of_ok {k j : ℕ} {names : List (List UInt8)} {pos p : Place}
    (h : t.walkTarget j names pos = .ok p) (hk : t.walkTarget k names pos ≠ .error .ELOOP) :
    t.walkTarget k names pos = .ok p := by
  have hstep : ∀ {k j : ℕ}, k ≤ j → ∀ q name,
      (t.stepLinkName q name >>= t.follow k) ≠ .error .ELOOP →
      (t.stepLinkName q name >>= t.follow j) = (t.stepLinkName q name >>= t.follow k) := by
    intro k j hkj q name hq
    rcases hn : t.stepLinkName q name with e | q'
    · rfl
    · rw [hn] at hq
      exact follow_mono hkj hq
  exact foldlM_of_ok hstep h hk

lemma stepFollow_mono {k j : ℕ} (hkj : k ≤ j) {pos : Place} {name : List UInt8}
    (h : t.stepFollow k pos name ≠ .error .ELOOP) :
    t.stepFollow j pos name = t.stepFollow k pos name := by
  unfold stepFollow at h ⊢
  rcases hn : t.stepName pos name with e | q
  · rfl
  · rw [hn] at h
    exact follow_mono hkj h

/-- **The bound is hit** exactly at a link whose resolution would open one more expansion. -/
theorem follow_eq_eloop {k : ℕ} {pos : Place} :
    t.follow k pos = .error .ELOOP ↔ t.Opens (k + 1) pos := by
  induction k generalizing pos with
  | zero =>
    constructor
    · intro h
      rcases hl : t.symlinkTarget pos.ulInode with _ | target
      · rw [follow_of_not_link hl] at h
        cases h
      · exact .link hl
    · intro h
      cases h with
      | link h => exact follow_zero h
      | inner h => exact follow_zero h
  | succ k ih =>
    constructor
    · intro h
      rcases hl : t.symlinkTarget pos.ulInode with _ | target
      · rw [follow_of_not_link hl] at h
        cases h
      · by_cases he : CString.at target 0 = 0
        · rw [follow_empty hl he] at h
          cases h
        · rw [follow_succ hl he] at h
          rcases hs : t.linkStart pos target with e | start
          · rw [hs] at h
            obtain rfl := Except.error.inj h
            exact absurd rfl (linkStart_plain pos target _ hs).1
          · rw [hs] at h
            obtain ⟨front, name, back, p, hsplit, hp, hname⟩ := Fold.foldlM_eq_error_iff.1 h
            rcases hn : t.stepLinkName p name with e | q
            · rw [hn] at hname
              obtain rfl := Except.error.inj hname
              exact absurd rfl (stepLinkName_plain p name _ hn).1
            · rw [hn] at hname
              exact .inner hl he hs hsplit hp hn (ih.1 hname)
    · intro h
      cases h with
      | @inner _ j _ start p q target name front back hl he hs hsplit hp hn hq =>
        rw [follow_succ hl he, hs]
        show t.walkTarget k (pathNames target) start = _
        rw [hsplit]
        apply Fold.foldlM_eq_error_iff.2
        by_cases hfront : t.walkTarget k front start = .error .ELOOP
        · obtain ⟨front', name', back', p', rfl, hp', hname⟩ := Fold.foldlM_eq_error_iff.1 hfront
          exact ⟨front', name', back' ++ name :: back, p', by simp, hp', hname⟩
        · refine ⟨front, name, back, p, rfl, walkTarget_of_ok hp hfront, ?_⟩
          rw [hn]
          exact ih.2 hq

lemma stepFollow_eq_eloop {k : ℕ} {pos : Place} {name : List UInt8} :
    t.stepFollow k pos name = .error .ELOOP ↔
      ∃ q, t.stepName pos name = .ok q ∧ t.Opens (k + 1) q := by
  unfold stepFollow
  rcases hn : t.stepName pos name with e | q
  · constructor
    · intro h
      obtain rfl := Except.error.inj h
      exact absurd rfl (stepName_plain pos name _ hn).1
    · rintro ⟨q, hq, -⟩
      cases hq
  · constructor
    · intro h
      exact ⟨q, rfl, follow_eq_eloop.1 h⟩
    · rintro ⟨q', hq', ho⟩
      obtain rfl := Except.ok.inj hq'
      exact follow_eq_eloop.2 ho

/-! ## Whole paths -/

variable {last : Place → List UInt8 → Except RedError Place}

lemma resolvePath_cons_cons {name name' : List UInt8} {names : List (List UInt8)} {pos : Place} :
    t.resolvePath last (name :: name' :: names) pos =
      t.stepFollow RED_SYMLOOP_MAX pos name >>= t.resolvePath last (name' :: names) := rfl

/-- A path is its components but the last, resolved one after the other, and then the last. -/
lemma resolvePath_concat {front : List (List UInt8)} {name : List UInt8} {pos : Place} :
    t.resolvePath last (front ++ [name]) pos =
      front.foldlM (t.stepFollow RED_SYMLOOP_MAX) pos >>= fun p => last p name := by
  induction front generalizing pos with
  | nil => rfl
  | cons a front ih =>
    have hcons : t.resolvePath last (a :: front ++ [name]) pos =
        t.stepFollow RED_SYMLOOP_MAX pos a >>= t.resolvePath last (front ++ [name]) := by
      cases front <;> rfl
    rw [hcons, List.foldlM_cons]
    rcases t.stepFollow RED_SYMLOOP_MAX pos a with e | q
    · rfl
    · exact ih

/-- A path whose last component is followed, too, is resolved by a walk over its components. -/
lemma resolvePath_stepFollow {names : List (List UInt8)} {pos : Place} :
    t.resolvePath (t.stepFollow RED_SYMLOOP_MAX) names pos =
      names.foldlM (t.stepFollow RED_SYMLOOP_MAX) pos := by
  rcases List.eq_nil_or_concat names with rfl | ⟨front, name, rfl⟩
  · rfl
  · rw [List.concat_eq_append, resolvePath_concat, List.foldlM_append]
    congr 1
    funext p
    exact (bind_pure _).symm

/-- **A path hits the bound** exactly at a component whose resolution would open more expansions
inside one another than it allows. -/
theorem resolvePath_eq_eloop {fFollowLast : Bool}
    (hlast : ∀ pos name, last pos name = .error .ELOOP ↔ fFollowLast = true ∧
      ∃ q, t.stepName pos name = .ok q ∧ t.Opens (RED_SYMLOOP_MAX + 1) q)
    (names : List (List UInt8)) (pos : Place) :
    t.resolvePath last names pos = .error .ELOOP ↔
      t.PathOpens (RED_SYMLOOP_MAX + 1) fFollowLast names pos := by
  rcases List.eq_nil_or_concat names with rfl | ⟨front, name, rfl⟩
  · constructor
    · intro h
      cases h
    · rintro ⟨k, front, back, name, p, q, hsplit, -⟩
      simp at hsplit
  · rw [List.concat_eq_append, resolvePath_concat]
    constructor
    · intro h
      rcases hf : front.foldlM (t.stepFollow RED_SYMLOOP_MAX) pos with e | p
      · rw [hf] at h
        obtain rfl := Except.error.inj h
        obtain ⟨front', name', back', p, rfl, hp, hname⟩ := Fold.foldlM_eq_error_iff.1 hf
        obtain ⟨q, hq, ho⟩ := stepFollow_eq_eloop.1 hname
        exact ⟨_, front', back' ++ [name], name', p, q, by simp, by simp, hp, hq, ho⟩
      · rw [hf] at h
        obtain ⟨hfollow, q, hq, ho⟩ := (hlast p name).1 h
        exact ⟨_, front, [], name, p, q, rfl, fun _ => hfollow, hf, hq, ho⟩
    · rintro ⟨k, front', back, name', p, q, hsplit, hback, hp, hq, ho⟩
      by_cases hf : front.foldlM (t.stepFollow RED_SYMLOOP_MAX) pos = .error .ELOOP
      · rw [hf]
        rfl
      · rcases List.eq_nil_or_concat back with rfl | ⟨back, last', rfl⟩
        · obtain ⟨rfl, hname⟩ := List.append_inj' hsplit rfl
          obtain rfl := List.cons.inj hname |>.1
          rw [foldlM_of_ok stepFollow_mono hp hf]
          exact (hlast p name).2 ⟨hback rfl, q, hq, ho⟩
        · rw [List.concat_eq_append, ← List.cons_append, ← List.append_assoc] at hsplit
          obtain ⟨rfl, -⟩ := List.append_inj' hsplit rfl
          exfalso
          apply hf
          apply Fold.foldlM_eq_error_iff.2
          by_cases hf' : front'.foldlM (t.stepFollow RED_SYMLOOP_MAX) pos = .error .ELOOP
          · obtain ⟨f, a, b, p', rfl, hp', ha⟩ := Fold.foldlM_eq_error_iff.1 hf'
            exact ⟨f, a, b ++ name' :: back, p', by simp, hp', ha⟩
          · exact ⟨front', name', back, p, rfl, foldlM_of_ok stepFollow_mono hp hf',
              stepFollow_eq_eloop.2 ⟨q, hq, ho⟩⟩

lemma lastLookup_eq_eloop (ulFlags : ℕ) (pos : Place) (name : List UInt8) :
    t.lastLookup ulFlags pos name = .error .ELOOP ↔
      decide (ulFlags ≠ RED_AT_SYMLINK_NOFOLLOW) = true ∧
        ∃ q, t.stepName pos name = .ok q ∧ t.Opens (RED_SYMLOOP_MAX + 1) q := by
  unfold lastLookup
  by_cases hf : ulFlags = RED_AT_SYMLINK_NOFOLLOW
  · rw [if_pos hf]
    constructor
    · intro h
      exact absurd rfl (stepName_plain pos name _ h).1
    · rintro ⟨h, -⟩
      simp [hf] at h
  · rw [if_neg hf, stepFollow_eq_eloop]
    simp [hf]

lemma lastToName_eq_eloop (pos : Place) (name : List UInt8) :
    t.lastToName pos name = .error .ELOOP ↔
      false = true ∧ ∃ q, t.stepName pos name = .ok q ∧ t.Opens (RED_SYMLOOP_MAX + 1) q := by
  have h : t.lastToName pos name ≠ .error .ELOOP := by
    unfold lastToName
    split_ifs
    · intro h
      exact absurd rfl (stepName_plain pos name _ h).1
    · intro h
      cases h
  simp [h]

/-- No path runs out of fuel. -/
lemma resolvePath_fuel (hlast : ∀ pos name, last pos name ≠ .error .outOfFuel)
    {names : List (List UInt8)} {pos : Place} :
    t.resolvePath last names pos ≠ .error .outOfFuel := by
  intro h
  rcases List.eq_nil_or_concat names with rfl | ⟨front, name, rfl⟩
  · cases h
  · rw [List.concat_eq_append, resolvePath_concat] at h
    rcases hf : front.foldlM (t.stepFollow RED_SYMLOOP_MAX) pos with e | p
    · rw [hf] at h
      obtain rfl := Except.error.inj h
      obtain ⟨_, name', _, q, -, -, hq⟩ := Fold.foldlM_eq_error_iff.1 hf
      exact stepFollow_fuel _ q name' hq
    · rw [hf] at h
      exact hlast p name h

lemma lastLookup_fuel (ulFlags : ℕ) (pos : Place) (name : List UInt8) :
    t.lastLookup ulFlags pos name ≠ .error .outOfFuel := by
  unfold lastLookup
  split_ifs
  · exact fun h => (stepName_plain pos name _ h).2 rfl
  · exact stepFollow_fuel _ pos name

lemma lastToName_fuel (pos : Place) (name : List UInt8) :
    t.lastToName pos name ≠ .error .outOfFuel := by
  unfold lastToName
  split_ifs
  · exact fun h => (stepName_plain pos name _ h).2 rfl
  · intro h
    cases h

/-- **A lookup ends.** -/
theorem resolveLookup_fuel (ulDirInode : ℕ) (names : List (List UInt8)) (ulFlags : ℕ) :
    t.resolveLookup ulDirInode names ulFlags ≠ .error .outOfFuel := by
  intro h
  unfold resolveLookup at h
  split_ifs at h
  · cases h
  rcases hq : t.redCoreDirParent ulDirInode with e | q
  · rw [hq] at h
    obtain rfl := Except.error.inj h
    exact (redCoreDirParent_plain ulDirInode _ hq).2 rfl
  · rw [hq] at h
    rcases hp : t.resolvePath (t.lastLookup ulFlags) names ⟨ulDirInode, q⟩ with e | p
    · simp only [bind, Except.bind, hp] at h
      obtain rfl := Except.error.inj h
      exact resolvePath_fuel (lastLookup_fuel ulFlags) hp
    · simp only [bind, Except.bind, hp] at h
      cases h

/-- **A lookup reports a loop** exactly when a component that it follows would open more expansions
inside one another than `RED_SYMLOOP_MAX`. -/
theorem resolveLookup_eq_eloop {ulDirInode : ℕ} {names : List (List UInt8)} {ulFlags : ℕ} :
    t.resolveLookup ulDirInode names ulFlags = .error .ELOOP ↔
      ulDirInode ≠ INODE_INVALID ∧ (ulFlags = 0 ∨ ulFlags = RED_AT_SYMLINK_NOFOLLOW) ∧
      ∃ q, t.redCoreDirParent ulDirInode = .ok q ∧
        t.PathOpens (RED_SYMLOOP_MAX + 1) (decide (ulFlags ≠ RED_AT_SYMLINK_NOFOLLOW)) names
          ⟨ulDirInode, q⟩ := by
  unfold resolveLookup
  by_cases hbad : ulDirInode = INODE_INVALID ∨ ¬ (ulFlags = 0 ∨ ulFlags = RED_AT_SYMLINK_NOFOLLOW)
  · rw [if_pos hbad]
    constructor
    · intro h
      cases h
    · rintro ⟨h1, h2, -⟩
      rcases hbad with h | h
      · exact absurd h h1
      · exact absurd h2 h
  · rw [if_neg hbad]
    obtain ⟨h1, h2⟩ := not_or.1 hbad
    rcases hq : t.redCoreDirParent ulDirInode with e | q
    · constructor
      · intro h
        obtain rfl := Except.error.inj h
        exact absurd rfl (redCoreDirParent_plain ulDirInode _ hq).1
      · rintro ⟨-, -, q, hc, -⟩
        cases hc
    · have hiff := resolvePath_eq_eloop (t := t) (lastLookup_eq_eloop ulFlags) names ⟨ulDirInode, q⟩
      constructor
      · intro h
        refine ⟨h1, not_not.1 h2, q, rfl, hiff.1 ?_⟩
        rcases hp : t.resolvePath (t.lastLookup ulFlags) names ⟨ulDirInode, q⟩ with e | p
        · simp only [bind, Except.bind, hp] at h
          rw [Except.error.inj h]
        · simp only [bind, Except.bind, hp] at h
          cases h
      · rintro ⟨-, -, q', hq', ho⟩
        obtain rfl := Except.ok.inj hq'
        simp only [bind, Except.bind, hiff.2 ho]

/-- **A name is found without end** of the fuel. -/
theorem resolveToName_fuel {rootDirError : RedError} (he : rootDirError ≠ .outOfFuel)
    (ulDirInode : ℕ) (names : List (List UInt8)) :
    t.resolveToName ulDirInode names rootDirError ≠ .error .outOfFuel := by
  intro h
  unfold resolveToName at h
  split_ifs at h
  · cases h
  rcases hq : t.redCoreDirParent ulDirInode with e | q
  · rw [hq] at h
    obtain rfl := Except.error.inj h
    exact (redCoreDirParent_plain ulDirInode _ hq).2 rfl
  · rw [hq] at h
    rcases hp : t.resolvePath t.lastToName names ⟨ulDirInode, q⟩ with e | p
    · simp only [bind, Except.bind, hp] at h
      obtain rfl := Except.error.inj h
      exact resolvePath_fuel lastToName_fuel hp
    · simp only [bind, Except.bind, hp] at h
      split_ifs at h
      · exact he (Except.error.inj h)
      · cases h
      · cases h

/-- **A name reports a loop** exactly when a component before the last one would open too many
expansions inside one another. -/
theorem resolveToName_eq_eloop {rootDirError : RedError} (he : rootDirError ≠ .ELOOP)
    {ulDirInode : ℕ} {names : List (List UInt8)} :
    t.resolveToName ulDirInode names rootDirError = .error .ELOOP ↔
      ulDirInode ≠ INODE_INVALID ∧ ∃ q, t.redCoreDirParent ulDirInode = .ok q ∧
        t.PathOpens (RED_SYMLOOP_MAX + 1) false names ⟨ulDirInode, q⟩ := by
  unfold resolveToName
  by_cases hdir : ulDirInode = INODE_INVALID
  · rw [if_pos hdir]
    constructor
    · intro h
      cases h
    · rintro ⟨h, -⟩
      exact absurd hdir h
  · rw [if_neg hdir]
    rcases hq : t.redCoreDirParent ulDirInode with e | q
    · constructor
      · intro h
        obtain rfl := Except.error.inj h
        exact absurd rfl (redCoreDirParent_plain ulDirInode _ hq).1
      · rintro ⟨-, q, hc, -⟩
        cases hc
    · have hiff := resolvePath_eq_eloop (t := t) lastToName_eq_eloop names ⟨ulDirInode, q⟩
      constructor
      · intro h
        refine ⟨hdir, q, rfl, hiff.1 ?_⟩
        rcases hp : t.resolvePath t.lastToName names ⟨ulDirInode, q⟩ with e | p
        · simp only [bind, Except.bind, hp] at h
          rw [Except.error.inj h]
        · simp only [bind, Except.bind, hp] at h
          split_ifs at h
          · exact absurd (Except.error.inj h) he
          · cases h
          · cases h
      · rintro ⟨-, q', hq', ho⟩
        obtain rfl := Except.ok.inj hq'
        simp only [bind, Except.bind, hiff.2 ho]

end DirTree

end RelianceEdge
