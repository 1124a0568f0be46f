import RelianceEdge.Posix.Resolve

set_option relaxedAutoImplicit false
set_option autoImplicit false
set_option linter.unusedSectionVars false

/-!
# Reading names out of symbolic links

The target of a symbolic link is read through a buffer that holds one name. This file shows that
the reader meets the components of the target one after the other, however names and separators
lie across the reads, and what the loop over the levels of links does with them.

## Main results

* `symlinkRead_run` — the reader stops at the next component, or at the end of the target.
* `skipSeparators_run` — the same for the path itself.
-/

namespace RelianceEdge

variable [RedConf] {t : DirTree}

open RedConf

/-! ## The path -/

/-- **Stepping over separators** in a string whose length fits an index. -/
lemma skipSeparators_run {psz : CString} (hlen : psz.strlen ≤ UINT32_MAX) :
    ∀ {n ulIdx : ℕ}, ulIdx ≤ psz.strlen → psz.strlen - ulIdx ≤ n →
      ∃ ulIdx', (∀ fuel ≥ n, skipSeparators psz fuel ulIdx = .ok ulIdx') ∧ ulIdx ≤ ulIdx' ∧
        ulIdx' ≤ psz.strlen ∧ psz.drop ulIdx' = (psz.drop ulIdx).dropWhile isSeparator := by
  have hstay : ∀ {ulIdx : ℕ}, psz.at ulIdx ≠ pathSeparator →
      (∀ fuel, skipSeparators psz fuel ulIdx = .ok ulIdx) ∧
        psz.drop ulIdx = (psz.drop ulIdx).dropWhile isSeparator := by
    intro ulIdx hsep
    constructor
    · intro fuel
      unfold skipSeparators
      rw [if_neg hsep]
    · rw [dropWhile_of_at_zero]
      rwa [CString.at_drop]
  intro n
  induction n with
  | zero =>
    intro ulIdx hle hn
    obtain rfl : ulIdx = psz.strlen := by omega
    have hsep : psz.at psz.strlen ≠ pathSeparator := by
      rw [CString.at_strlen]
      exact pathSeparator_ne_zero.symm
    exact ⟨psz.strlen, fun fuel _ => (hstay hsep).1 fuel, le_rfl, le_rfl, (hstay hsep).2⟩
  | succ n ih =>
    intro ulIdx hle hn
    by_cases hsep : psz.at ulIdx = pathSeparator
    · have hlt : ulIdx + 1 ≤ psz.strlen := by
        rcases Nat.lt_or_eq_of_le hle with h | rfl
        · exact h
        · rw [CString.at_strlen] at hsep
          exact absurd hsep.symm pathSeparator_ne_zero
      have hn' : psz.strlen - (ulIdx + 1) ≤ n := by omega
      obtain ⟨ulIdx', hrun, h1, h2, hdrop⟩ := ih hlt hn'
      refine ⟨ulIdx', ?_, by omega, h2, ?_⟩
      · intro fuel hfuel
        obtain ⟨fuel, rfl⟩ : ∃ f, fuel = f + 1 := ⟨fuel - 1, by omega⟩
        unfold skipSeparators
        rw [if_pos hsep, u32_of_le (by omega)]
        exact hrun fuel (by omega)
      · rw [hdrop, ← List.drop_drop]
        apply dropWhile_drop
        intro k hk
        obtain rfl : k = 0 := by omega
        rwa [CString.at_drop]
    · exact ⟨ulIdx, fun fuel _ => (hstay hsep).1 fuel, le_rfl, hle, (hstay hsep).2⟩

/-- Whether the rest of a path has a component. -/
lemma pathHasMoreComponents_run {psz : CString} (hlen : psz.strlen ≤ UINT32_MAX) {fuel : ℕ}
    (hfuel : psz.strlen ≤ fuel) :
    pathHasMoreComponents fuel psz = .ok (decide (pathNames psz ≠ [])) := by
  obtain ⟨ulIdx, hrun, -, -, hdrop⟩ := skipSeparators_run hlen (Nat.zero_le _) le_rfl
  have hiff : psz.at ulIdx = 0 ↔ pathNames psz = [] := by
    rw [pathNames_eq_nil_iff]
    have h := CString.at_drop psz ulIdx 0
    rw [hdrop] at h
    rw [List.drop_zero, Nat.add_zero] at h
    rw [h]
  unfold pathHasMoreComponents
  rw [hrun fuel (by omega)]
  simp only [bind, Except.bind, pure, Except.pure]
  by_cases h : psz.at ulIdx = 0
  · simp [h, hiff.1 h]
  · simp [h, mt hiff.2 h]

/-! ## Targets -/

/-- The separators at the start of what a buffer holds. -/
lemma leading_at {s : CString} {k : ℕ} (hk : k < (s.takeWhile isSeparator).length) :
    s.at k = pathSeparator := by
  induction s generalizing k with
  | nil => simp at hk
  | cons c s ih =>
    by_cases hc : isSeparator c
    · rw [List.takeWhile_cons_of_pos hc] at hk
      cases k with
      | zero => simpa [isSeparator] using hc
      | succ k => exact ih (by simpa using hk)
    · rw [List.takeWhile_cons_of_neg hc] at hk
      simp at hk

/-- They end at another byte. -/
lemma at_leading (s : CString) : s.at (s.takeWhile isSeparator).length ≠ pathSeparator := by
  induction s with
  | nil => exact fun h => pathSeparator_ne_zero h.symm
  | cons c s ih =>
    by_cases hc : isSeparator c
    · rw [List.takeWhile_cons_of_pos hc]
      exact ih
    · rw [List.takeWhile_cons_of_neg hc]
      simpa [isSeparator] using hc

lemma leading_le (s : CString) : (s.takeWhile isSeparator).length ≤ s.length :=
  (List.takeWhile_prefix _).length_le

/-- The walk once it knows that a target starts with a separator. -/
def PathWalkCtx.enter (pCtx : PathWalkCtx) (fAbsolute : Prop) [Decidable fAbsolute] : PathWalkCtx :=
  if fAbsolute then { pCtx with ulPInode := INODE_INVALID, ulInode := INODE_ROOTDIR } else pCtx

/-- What the buffer holds of a component: `m` bytes from its start on, which is all of it, all of
the target, or more than a name may have. -/
def Buffered (r pszName : CString) : Prop :=
  ∃ m, 0 < m ∧ pszName = r.take m ∧ (nameMax < m ∨ redNameLen r < m ∨ r.length ≤ m)

lemma Buffered.at_zero {r z : CString} (h : Buffered r z) : z.at 0 = r.at 0 := by
  obtain ⟨m, hm, rfl, -⟩ := h
  exact CString.at_take hm

/-- The buffer tells whether the component is too long. -/
lemma Buffered.nameMax_lt {r z : CString} (h : Buffered r z) :
    nameMax < redNameLen z ↔ nameMax < redNameLen r := by
  obtain ⟨m, hm, rfl, hcut⟩ := h
  have := redNameLen_le_length r
  rw [redNameLen_take]
  omega

/-- A component that is not too long is in the buffer, with the byte after it. -/
lemma Buffered.name {r z : CString} (h : Buffered r z) (hle : redNameLen r ≤ nameMax) :
    redNameLen z = redNameLen r ∧ z.take (redNameLen r) = r.take (redNameLen r) ∧
      z.at (redNameLen r) = r.at (redNameLen r) := by
  obtain ⟨m, hm, rfl, hcut⟩ := h
  have := redNameLen_le_length r
  refine ⟨?_, ?_, ?_⟩
  · rw [redNameLen_take]
    omega
  · rw [List.take_take]
    congr 1
    omega
  · by_cases hlt : redNameLen r < m
    · exact CString.at_take hlt
    · rw [List.take_of_length_le (by omega)]

variable {i : ℕ} {target : List UInt8}

lemma redCoreFileRead_target (h : t.symlinkTarget i = some target) (ullStart ulLen : ℕ) :
    t.redCoreFileRead i ullStart ulLen = .ok ((target.drop ullStart).take ulLen) := by
  unfold DirTree.redCoreFileRead
  rw [DirTree.symlinkTarget_eq_some.1 h]

/-- One read of the retry loop. -/
lemma symlinkRead_succ (h : t.symlinkTarget i = some target) {fuel p n : ℕ} {pCtx : PathWalkCtx}
    {szName : CString} (hsz : szName = (target.drop p).take (nameMax + 1))
    (hn : n = (szName.takeWhile isSeparator).length) :
    symlinkRead t (fuel + 1) pCtx ⟨i, p⟩ =
      if 0 < szName.length ∧ szName.at 0 = pathSeparator then
        if szName.length = nameMax + 1 ∧ n + redNameLen (szName.drop n) = szName.length then
          symlinkRead t fuel (pCtx.enter (p = 0)) ⟨i, p + n⟩
        else .ok (pCtx.enter (p = 0), ⟨i, p + n⟩, szName, n)
      else .ok (pCtx, ⟨i, p⟩, szName, 0) := by
  subst hn
  simp only [symlinkRead, redCoreFileRead_target h, ← hsz, bind, Except.bind, pure, Except.pure,
    PathWalkCtx.enter]

/-- **One component of a target**: from a position on, the reader stops at what the separators
there lead to. -/
lemma symlinkRead_run (h : t.symlinkTarget i = some target) :
    ∀ {n p : ℕ} (pCtx : PathWalkCtx), (target.drop p).length < n →
      ∃ p' szName ulNameIdx,
        (∀ fuel ≥ n, symlinkRead t fuel pCtx ⟨i, p⟩ =
          .ok (pCtx.enter (p = 0 ∧ CString.at target 0 = pathSeparator), ⟨i, p'⟩, szName,
            ulNameIdx)) ∧
        target.drop p' = (target.drop p).dropWhile isSeparator ∧
        (p' = 0 ↔ p = 0 ∧ CString.at target 0 ≠ pathSeparator) ∧
        (szName = [] → target.drop p' = []) ∧
        Buffered (target.drop p') (szName.drop ulNameIdx) := by
  intro b
  induction b with
  | zero =>
    intro p pCtx hlen
    omega
  | succ b ih =>
    intro p pCtx hlen
    set s := target.drop p with hs
    have hat : CString.at s 0 = CString.at target p := by
      rw [hs, CString.at_drop, Nat.add_zero]
    set szName := s.take (nameMax + 1) with hsz
    have hsz0 : CString.at szName 0 = CString.at target p := by
      rw [hsz, CString.at_take (by omega), hat]
    by_cases hsep : CString.at target p = pathSeparator
    · have hpos : 0 < szName.length := by
        by_contra hn
        have : szName = [] := List.length_eq_zero_iff.1 (by omega)
        rw [this] at hsz0
        rw [← hsz0] at hsep
        exact pathSeparator_ne_zero hsep.symm
      set n := (szName.takeWhile isSeparator).length with hn
      have hnlen : n ≤ szName.length := leading_le szName
      have hszlen : szName.length = min (nameMax + 1) s.length := by rw [hsz, List.length_take]
      have hn0 : 0 < n := by
        by_contra h0
        have := at_leading szName
        rw [← hn, show n = 0 by omega, hsz0] at this
        exact this hsep
      have hlead : ∀ k < n, CString.at s k = pathSeparator := by
        intro k hk
        have := leading_at (hn ▸ hk)
        rwa [hsz, CString.at_take (by omega)] at this
      have hdropn : target.drop (p + n) = s.drop n := by rw [hs, List.drop_drop]
      have hctx : pCtx.enter (p = 0) =
          pCtx.enter (p = 0 ∧ CString.at target 0 = pathSeparator) := by
        unfold PathWalkCtx.enter
        by_cases hp : p = 0
        · subst hp
          rw [if_pos rfl, if_pos ⟨rfl, hsep⟩]
        · rw [if_neg hp, if_neg fun hc => hp hc.1]
      have hp0 : p = 0 → CString.at target 0 = pathSeparator := by
        rintro rfl
        exact hsep
      have hfirst : 0 < szName.length ∧ CString.at szName 0 = pathSeparator :=
        ⟨hpos, by rw [hsz0, hsep]⟩
      by_cases hretry : szName.length = nameMax + 1 ∧
          n + redNameLen (szName.drop n) = szName.length
      · have hlt : (target.drop (p + n)).length < b := by
          rw [hdropn, List.length_drop]
          omega
        obtain ⟨p', szName', ulNameIdx, hrun, hdrop, hp', hnil, hbuf⟩ :=
          ih (pCtx.enter (p = 0 ∧ CString.at target 0 = pathSeparator)) hlt
        refine ⟨p', szName', ulNameIdx, ?_, ?_, ?_, hnil, hbuf⟩
        · intro fuel hfuel
          obtain ⟨fuel, rfl⟩ : ∃ f, fuel = f + 1 := ⟨fuel - 1, by omega⟩
          rw [symlinkRead_succ h (hs ▸ hsz) rfl, if_pos hfirst, if_pos hretry, hctx,
            hrun fuel (by omega)]
          congr 2
          unfold PathWalkCtx.enter
          rw [if_neg (c := p + n = 0 ∧ _) fun hc => by omega]
        · rw [hdrop, hdropn]
          exact dropWhile_drop hlead
        · rw [hp']
          constructor
          · intro hc
            omega
          · rintro ⟨hc, hne⟩
            exact absurd (hp0 hc) hne
      · have hnlt : n < nameMax + 1 := by
          by_contra hge
          apply hretry
          have hfull : szName.length = nameMax + 1 := by omega
          refine ⟨hfull, ?_⟩
          rw [List.drop_of_length_le (by omega)]
          show n + 0 = szName.length
          omega
        have hcut : szName.drop n = (s.drop n).take (nameMax + 1 - n) := by
          rw [hsz, List.drop_take]
        refine ⟨p + n, szName, n, ?_, ?_, ?_, ?_, nameMax + 1 - n, by omega, ?_, ?_⟩
        · intro fuel hfuel
          obtain ⟨fuel, rfl⟩ : ∃ f, fuel = f + 1 := ⟨fuel - 1, by omega⟩
          rw [symlinkRead_succ h (hs ▸ hsz) rfl, if_pos hfirst, if_neg hretry, hctx]
        · rw [hdropn, ← dropWhile_drop hlead, dropWhile_of_at_zero]
          rw [CString.at_drop, Nat.add_zero]
          have := at_leading szName
          rwa [← hn, hsz, CString.at_take hnlt] at this
        · constructor
          · intro hc
            omega
          · rintro ⟨hc, hne⟩
            exact absurd (hp0 hc) hne
        · intro hc
          rw [hc] at hpos
          simp at hpos
        · rw [hdropn, hcut]
        · rw [hdropn]
          by_cases hfull : szName.length = nameMax + 1
          · right
            left
            have hne : n + redNameLen (szName.drop n) ≠ szName.length :=
              fun hc => hretry ⟨hfull, hc⟩
            rw [hcut, redNameLen_take] at hne
            omega
          · right
            right
            rw [List.length_drop]
            omega
    · have hctx : pCtx.enter (p = 0 ∧ CString.at target 0 = pathSeparator) = pCtx := by
        unfold PathWalkCtx.enter
        rw [if_neg]
        rintro ⟨rfl, hc⟩
        exact hsep hc
      refine ⟨p, szName, 0, ?_, ?_, ?_, ?_, nameMax + 1, by omega, ?_, Or.inl (by omega)⟩
      · intro fuel hfuel
        obtain ⟨fuel, rfl⟩ : ∃ f, fuel = f + 1 := ⟨fuel - 1, by omega⟩
        rw [symlinkRead_succ h (hs ▸ hsz) rfl, if_neg fun hc => hsep (hsz0 ▸ hc.2), hctx]
      · rw [dropWhile_of_at_zero (by rwa [hat])]
      · constructor
        · rintro rfl
          exact ⟨rfl, hsep⟩
        · exact fun hc => hc.1
      · intro hc
        have hl := congrArg List.length hc
        rw [hsz, List.length_take, List.length_nil] at hl
        show s = []
        exact List.length_eq_zero_iff.1 (by omega)
      · rw [List.drop_zero]

/-! ## Levels -/

/-- A walk at a place, inside some levels of links. -/
def PathWalkCtx.moved (pCtx : PathWalkCtx) (pos : Place) (aStack : List SymlinkLevel) :
    PathWalkCtx :=
  { pCtx with pszName := none, ulInode := pos.ulInode, ulPInode := pos.ulPInode, aStack }

/-- Where the next component of a target is looked up. -/
def targetStart (target : List UInt8) (p : ℕ) (pos : Place) : Place :=
  if p = 0 ∧ CString.at target 0 = pathSeparator then .rootDir else pos

lemma enter_moved {pCtx : PathWalkCtx} {pos : Place} {aStack : List SymlinkLevel} {p : ℕ} :
    (pCtx.moved pos aStack).enter (p = 0 ∧ CString.at target 0 = pathSeparator) =
      pCtx.moved (targetStart target p pos) aStack := by
  unfold PathWalkCtx.enter targetStart
  split_ifs <;> rfl

/-- A link with nothing in it. -/
lemma symlinkNames_empty (h : t.symlinkTarget i = some target) (he : CString.at target 0 = 0)
    {fuel : ℕ} (hfuel : target.length < fuel) (pCtx : PathWalkCtx) (pos : Place)
    (rest : List SymlinkLevel) :
    symlinkNames t fuel (⟨i, 0⟩ :: rest) (pCtx.moved pos (⟨i, 0⟩ :: rest)) =
      .error .ENOENT := by
  obtain ⟨p', szName, ulNameIdx, hrun, hdrop, hp', -, hbuf⟩ :=
    symlinkRead_run h (pCtx.moved pos (⟨i, 0⟩ :: rest)) (p := 0) (n := fuel) (by simpa using hfuel)
  have hne : CString.at target 0 ≠ pathSeparator := by
    rw [he]
    exact pathSeparator_ne_zero.symm
  obtain rfl := hp'.2 ⟨rfl, hne⟩
  have hat : szName.at ulNameIdx = 0 := by
    have := hbuf.at_zero
    rw [CString.at_drop, Nat.add_zero] at this
    rw [this]
    exact he
  unfold symlinkNames
  rw [hrun fuel le_rfl]
  simp only [bind, Except.bind]
  rw [if_pos (Or.inr hat), if_pos trivial]

/-- **An exhausted link** is left. -/
lemma symlinkNames_pop (h : t.symlinkTarget i = some target) (hne : CString.at target 0 ≠ 0)
    {p fuel : ℕ} (hfuel : target.length < fuel) (hnames : pathNames (target.drop p) = [])
    (pCtx : PathWalkCtx) (pos : Place) (rest : List SymlinkLevel) :
    symlinkNames t fuel (⟨i, p⟩ :: rest) (pCtx.moved pos (⟨i, p⟩ :: rest)) =
      symlinkNames t fuel rest (pCtx.moved (targetStart target p pos) rest) := by
  have hlen : (target.drop p).length < fuel := by
    rw [List.length_drop]
    omega
  obtain ⟨p', szName, ulNameIdx, hrun, hdrop, hp', -, hbuf⟩ :=
    symlinkRead_run h (pCtx.moved pos (⟨i, p⟩ :: rest)) hlen
  have h0 := pathNames_eq_nil_iff.1 hnames
  have hat : szName.at ulNameIdx = 0 := by
    have := hbuf.at_zero
    rw [CString.at_drop, Nat.add_zero] at this
    rw [this, hdrop, h0]
  have hp0 : p' ≠ 0 := by
    intro hp
    obtain ⟨rfl, hsep⟩ := hp'.1 hp
    rw [List.drop_zero, pathNames_cons hne hsep] at hnames
    cases hnames
  have hrun := hrun fuel le_rfl
  rw [enter_moved] at hrun
  conv_lhs => unfold symlinkNames
  rw [hrun]
  simp only [bind, Except.bind]
  rw [if_pos (Or.inr hat), if_neg hp0]
  rfl

/-- **The next component** of the innermost link. -/
lemma symlinkNames_cons (h : t.symlinkTarget i = some target)
    {p : ℕ} {name : List UInt8} {names : List (List UInt8)}
    (hnames : pathNames (target.drop p) = name :: names)
    (pCtx : PathWalkCtx) (pos : Place) (rest : List SymlinkLevel) :
    ∃ p'' pszName, p'' ≠ 0 ∧ pathNames (target.drop p'') = names ∧
      (name.length ≤ nameMax → pszName.take (redNameLen pszName) = name) ∧
      ∀ fuel > target.length,
        symlinkNames t fuel (⟨i, p⟩ :: rest) (pCtx.moved pos (⟨i, p⟩ :: rest)) =
          if nameMax < name.length then .error .ENAMETOOLONG
          else .ok { pCtx.moved (targetStart target p pos) (⟨i, p''⟩ :: rest) with
            pszName := some pszName } := by
  have hlt : (target.drop p).length < target.length + 1 := by
    rw [List.length_drop]
    omega
  obtain ⟨p', szName, ulNameIdx, hrun, hdrop, hp', hnil, hbuf⟩ :=
    symlinkRead_run h (pCtx.moved pos (⟨i, p⟩ :: rest)) hlt
  obtain ⟨h0, hname, hrest⟩ := pathNames_eq_cons hnames
  rw [← hdrop] at h0 hname hrest
  set r := target.drop p' with hr
  have hsep : CString.at r 0 ≠ pathSeparator := by
    rw [hdrop]
    exact dropWhile_at_zero _
  have hlen : name.length = redNameLen r := by
    have := redNameLen_le_length r
    rw [← hname, List.length_take]
    omega
  have hpos := redNameLen_pos h0 hsep
  have hat : ¬ (szName.length = 0 ∨ szName.at ulNameIdx = 0) := by
    rintro (hc | hc)
    · rw [hnil (List.length_eq_zero_iff.1 hc)] at h0
      exact h0 rfl
    · have := hbuf.at_zero
      rw [CString.at_drop, Nat.add_zero] at this
      exact h0 (this ▸ hc)
  rw [enter_moved] at hrun
  refine ⟨p' + redNameLen r + if CString.at r (redNameLen r) = pathSeparator then 1 else 0,
    szName.drop ulNameIdx, by omega, ?_, ?_, ?_⟩
  · rw [← hrest, ← List.drop_drop, ← List.drop_drop, ← hr]
    split_ifs with hs
    · rw [← pathNames_of_separator (by rwa [CString.at_drop, Nat.add_zero])]
    · rw [List.drop_zero]
  · intro hle
    obtain ⟨h1, h2, -⟩ := hbuf.name (by omega)
    rw [h1, h2, hname]
  · intro fuel hfuel
    unfold symlinkNames
    rw [hrun fuel hfuel]
    simp only [bind, Except.bind]
    rw [if_neg hat]
    by_cases hlong : nameMax < name.length
    · rw [if_pos hlong, if_pos (hbuf.nameMax_lt.2 (by omega))]
    · obtain ⟨h1, -, h3⟩ := hbuf.name (by omega)
      rw [if_neg hlong, if_neg fun hc => hlong (by rw [hlen]; exact hbuf.nameMax_lt.1 hc), h1, h3]
      rfl

end RelianceEdge
