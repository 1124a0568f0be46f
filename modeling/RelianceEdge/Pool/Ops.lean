import RelianceEdge.Pool.Inv

set_option relaxedAutoImplicit false
set_option autoImplicit false
set_option linter.unusedSectionVars false

/-!
# Buffers of the pool, one operation at a time

What each function of `buffer.c` does to the arrays its callers see, in every outcome.

## Main definitions

* `Pool.KeepsHeads` — the referenced buffers are neither evicted nor renumbered.
* `Arrays.afterGet` — the arrays after a block was acquired.

## Main results

* `PoolInv.redBufferGet_post`, `PoolInv.redBufferPut`, `PoolInv.redBufferDirty`,
  `PoolInv.redBufferBranch`, `PoolInv.redBufferDiscard` — the functions on one buffer.
-/

namespace RelianceEdge

variable [RedConf] [PoolConf]

open RedConf PoolConf

/-- From `s` to `s'` the buffers in `P` keep their block and their type, and the current volume and
the size of each volume stay. -/
structure Pool.KeepsHeads (P : ℕ → Prop) (s s' : Pool) : Prop where
  cur : s'.gbRedVolNum = s.gbRedVolNum
  count : ∀ v, (s'.gaRedVolume v).ulBlockCount = (s.gaRedVolume v).ulBlockCount
  head : ∀ j, P j → (s'.aHead j).bVolNum = (s.aHead j).bVolNum ∧
    (s'.aHead j).ulBlock = (s.aHead j).ulBlock ∧ (s'.aHead j).type = (s.aHead j).type

section

variable {s s' s'' : Pool} {a a' : Arrays} {i v b : ℕ} {P : ℕ → Prop}

namespace Pool

namespace KeepsHeads

lemma refl (P : ℕ → Prop) (s : Pool) : s.KeepsHeads P s :=
  ⟨rfl, fun _ => rfl, fun _ _ => ⟨rfl, rfl, rfl⟩⟩

lemma trans (h : KeepsHeads P s s') (h' : KeepsHeads P s' s'') : KeepsHeads P s s'' :=
  ⟨h'.cur.trans h.cur, fun v => (h'.count v).trans (h.count v), fun j hj =>
    ⟨(h'.head j hj).1.trans (h.head j hj).1, (h'.head j hj).2.1.trans (h.head j hj).2.1,
      (h'.head j hj).2.2.trans (h.head j hj).2.2⟩⟩

end KeepsHeads

lemma Quiet.keeps (h : s.Quiet s') : s.KeepsHeads P s' :=
  ⟨h.cur, h.count, fun j _ => by rw [h.aHead]; exact ⟨rfl, rfl, rfl⟩⟩

lemma WroteOut.keeps {ok : Prop} (h : s.WroteOut s' i v b ok) : s.KeepsHeads P s' :=
  ⟨by rw [h.rest], h.count, fun j _ => by rw [h.rest]; exact ⟨rfl, rfl, rfl⟩⟩

@[simp] lemma setHead_same (s : Pool) (i : ℕ) (f : PoolHead → PoolHead) :
    (s.setHead i f).aHead i = f (s.aHead i) := Function.update_self ..

@[simp] lemma setBuf_same (s : Pool) (i : ℕ) (block : RawBlock) :
    (s.setBuf i block).pbBlkBuf i = block := Function.update_self ..

lemma setHead_ne (s : Pool) {i j : ℕ} (f : PoolHead → PoolHead) (h : j ≠ i) :
    (s.setHead i f).aHead j = s.aHead j := Function.update_of_ne h ..

/-- Two changes of one head are one change. -/
lemma setHead_setHead (s : Pool) (i : ℕ) (f g : PoolHead → PoolHead) :
    (s.setHead i f).setHead i g = s.setHead i fun h => g (f h) := by
  unfold setHead
  dsimp only
  rw [Function.update_self, Function.update_idem]

lemma setHead_keeps (f : PoolHead → PoolHead) (h : ¬ P i) : s.KeepsHeads P (s.setHead i f) :=
  ⟨rfl, fun _ => rfl, fun j hj => by
    rw [setHead_ne s f (by rintro rfl; exact h hj)]
    exact ⟨rfl, rfl, rfl⟩⟩

lemma stored_setHead_ne {j : ℕ} (f : PoolHead → PoolHead) (h : j ≠ i) :
    (s.setHead i f).stored j = s.stored j := by
  rw [stored, setHead_ne s f h]
  rfl

lemma holds_setHead_ne {j : ℕ} (f : PoolHead → PoolHead) (h : j ≠ i) :
    (s.setHead i f).Holds j v b ↔ s.Holds j v b := by
  rw [Holds, setHead_ne s f h, Holds]

/-- A change that keeps the reference count of a buffer keeps the set of those referenced. -/
lemma referenced_setHead (f : PoolHead → PoolHead)
    (h : (f (s.aHead i)).bRefCount = (s.aHead i).bRefCount) :
    (s.setHead i f).referenced = s.referenced := by
  refine Finset.filter_congr fun j _ => ?_
  by_cases hj : j = i
  · rw [hj, setHead_same, h]
  · rw [setHead_ne s f hj]

end Pool

/-! ## Heads that change their block -/

namespace PoolMatch

/-- A head that is no longer in use. -/
def detachHead (h : PoolHead) : PoolHead := { h with ulBlock := BBLK_INVALID }

/-- A buffer leaves its block, whose contents are on the device. -/
lemma detach (hm : PoolMatch s a) {f : PoolHead → PoolHead}
    (hf : (f (s.aHead i)).ulBlock = BBLK_INVALID)
    (hdev : ∀ w x c, s.Holds i w x → a w x = some c → c.Agrees (s.disk w x)) :
    PoolMatch (s.setHead i f) a := by
  have hne {j w x : ℕ} (h : (s.setHead i f).Holds j w x) : j ≠ i := by
    rintro rfl
    obtain ⟨-, -, h1, h2⟩ := h
    rw [Pool.setHead_same, hf] at h1
    exact h2 h1.symm
  have hold {j w x : ℕ} (h : (s.setHead i f).Holds j w x) : s.Holds j w x :=
    (Pool.holds_setHead_ne f (hne h)).1 h
  refine ⟨fun j k w x hj hk => hm.unique j k w x (hold hj) (hold hk),
    fun j w x hj => hm.lt j w x (hold hj), fun j w x c hj hc => ?_, fun j w x c hj hd hc => ?_,
    fun j w x c hj hd ht hc => ?_, fun w x c hn hc => ?_⟩
  · rw [Pool.stored_setHead_ne f (hne hj)]
    exact hm.agrees j w x c (hold hj) hc
  · rw [Pool.setHead_ne s f (hne hj)] at hd
    exact hm.clean j w x c (hold hj) hd hc
  · rw [Pool.setHead_ne s f (hne hj)] at hd ht
    exact hm.node j w x c (hold hj) hd ht hc
  · by_cases hh : s.Holds i w x
    · exact hdev w x c hh hc
    · refine hm.device w x c (fun j hj => ?_) hc
      by_cases hji : j = i
      · exact hh (hji ▸ hj)
      · exact hn j ((Pool.holds_setHead_ne f hji).2 hj)

/-- What a cell has to say of a buffer with the given head. -/
def Fits (s : Pool) (i v b : ℕ) (c₀ : Option Cell) : Prop := ∀ c, c₀ = some c →
  c.Agrees (s.stored i) ∧ ((s.aHead i).fDirty = false → c.Agrees (s.disk v b)) ∧
    ((s.aHead i).fDirty = true → (s.aHead i).type ≠ .data → c.hdr = none)

/-- A buffer that is not in use takes up a block. -/
lemma attach (hm : PoolMatch s a) {f : PoolHead → PoolHead} {c₀ : Option Cell}
    (hi : i < bufferCount) (hbv : b ≠ BBLK_INVALID) (hfree : ∀ w x, ¬ s.Holds i w x)
    (hnone : ∀ j, ¬ s.Holds j v b)
    (hv : (f (s.aHead i)).bVolNum = v) (hb : (f (s.aHead i)).ulBlock = b)
    (hlt : v < volumeCount ∧ b < (s.gaRedVolume v).ulBlockCount)
    (hc₀ : Fits (s.setHead i f) i v b c₀) : PoolMatch (s.setHead i f) (a.set v b c₀) := by
  have hself {w x : ℕ} (h : (s.setHead i f).Holds i w x) : w = v ∧ x = b := by
    obtain ⟨-, h1, h2, -⟩ := h
    rw [Pool.setHead_same] at h1 h2
    exact ⟨h1.symm.trans hv, h2.symm.trans hb⟩
  have hold {j w x : ℕ} (hj : j ≠ i) (h : (s.setHead i f).Holds j w x) : s.Holds j w x :=
    (Pool.holds_setHead_ne f hj).1 h
  have hcell {j w x : ℕ} (h : s.Holds j w x) : a.set v b c₀ w x = a w x :=
    Arrays.set_ne a c₀ fun he => hnone j (he.1 ▸ he.2 ▸ h)
  refine ⟨fun j k w x hj hk => ?_, fun j w x hj => ?_, fun j w x c hj hc => ?_,
    fun j w x c hj hd hc => ?_, fun j w x c hj hd ht hc => ?_, fun w x c hn hc => ?_⟩
  · by_cases hji : j = i <;> by_cases hki : k = i
    · rw [hji, hki]
    · rw [hji] at hj
      obtain ⟨rfl, rfl⟩ := hself hj
      exact absurd (hold hki hk) (hnone k)
    · rw [hki] at hk
      obtain ⟨rfl, rfl⟩ := hself hk
      exact absurd (hold hji hj) (hnone j)
    · exact hm.unique j k w x (hold hji hj) (hold hki hk)
  · by_cases hji : j = i
    · rw [hji] at hj
      obtain ⟨rfl, rfl⟩ := hself hj
      exact hlt
    · exact hm.lt j w x (hold hji hj)
  · by_cases hji : j = i
    · subst hji
      obtain ⟨rfl, rfl⟩ := hself hj
      rw [Arrays.set_same] at hc
      exact (hc₀ c hc).1
    · rw [hcell (hold hji hj)] at hc
      rw [Pool.stored_setHead_ne f hji]
      exact hm.agrees j w x c (hold hji hj) hc
  · by_cases hji : j = i
    · subst hji
      obtain ⟨rfl, rfl⟩ := hself hj
      rw [Arrays.set_same] at hc
      exact (hc₀ c hc).2.1 hd
    · rw [hcell (hold hji hj)] at hc
      rw [Pool.setHead_ne s f hji] at hd
      exact hm.clean j w x c (hold hji hj) hd hc
  · by_cases hji : j = i
    · subst hji
      obtain ⟨rfl, rfl⟩ := hself hj
      rw [Arrays.set_same] at hc
      exact (hc₀ c hc).2.2 hd ht
    · rw [hcell (hold hji hj)] at hc
      rw [Pool.setHead_ne s f hji] at hd ht
      exact hm.node j w x c (hold hji hj) hd ht hc
  · by_cases hwx : w = v ∧ x = b
    · obtain ⟨rfl, rfl⟩ := hwx
      rw [Arrays.set_same] at hc
      refine absurd ⟨hi, ?_, ?_, hbv⟩ (hn i)
      · rw [Pool.setHead_same, hv]
      · rw [Pool.setHead_same, hb]
    · rw [Arrays.set_ne a c₀ hwx] at hc
      refine hm.device w x c (fun j hj => ?_) hc
      by_cases hji : j = i
      · exact hfree w x (hji ▸ hj)
      · exact hn j ((Pool.holds_setHead_ne f hji).2 hj)

/-- The contents of a buffer that is not in use do not matter. -/
lemma setBuf (hm : PoolMatch s a) (block : RawBlock) (hfree : ∀ w x, ¬ s.Holds i w x) :
    PoolMatch (s.setBuf i block) a :=
  { hm with
    agrees := fun j w x c hj hc => by
      have hji : j ≠ i := by
        rintro rfl
        exact hfree w x hj
      have hst : (s.setBuf i block).stored j = s.stored j :=
        congrArg (RawBlock.swap · (s.aHead j).type) (Function.update_of_ne hji ..)
      rw [hst]
      exact hm.agrees j w x c hj hc }

/-- The head and the contents of a buffer change, but not its block. -/
lemma renew (hm : PoolMatch s a) (hh : s.Holds i v b) {f : PoolHead → PoolHead}
    (block : RawBlock) (c₀ : Option Cell) (hv : (f (s.aHead i)).bVolNum = v)
    (hb : (f (s.aHead i)).ulBlock = b)
    (hc₀ : Fits ((s.setBuf i block).setHead i f) i v b c₀) :
    PoolMatch ((s.setBuf i block).setHead i f) (a.set v b c₀) := by
  -- Forget the cell, take the buffer off the block, and put it back as it is to be.
  let s1 := s.setHead i detachHead
  have hw : PoolMatch s (a.set v b none) := hm.mono fun w x c hc => by
    by_cases hwx : w = v ∧ x = b
    · rw [hwx.1, hwx.2, Arrays.set_same] at hc
      cases hc
    · rwa [Arrays.set_ne a none hwx] at hc
  have h1 : PoolMatch s1 (a.set v b none) := hw.detach rfl fun w x c hx hc => by
    obtain ⟨rfl, rfl⟩ := hh.fun hx
    rw [Arrays.set_same] at hc
    cases hc
  have hfree (w x : ℕ) : ¬ s1.Holds i w x := by
    rintro ⟨-, -, h3, h4⟩
    rw [Pool.setHead_same] at h3
    exact h4 h3.symm
  have heq : (s1.setBuf i block).setHead i (fun _ => f (s.aHead i)) =
      (s.setBuf i block).setHead i f :=
    (Pool.setHead_setHead (s.setBuf i block) i detachHead
      fun _ => f (s.aHead i)).trans rfl
  have hset : (a.set v b none).set v b c₀ = a.set v b c₀ := by
    funext w x
    unfold Arrays.set
    split_ifs <;> rfl
  rw [← heq, ← hset]
  refine (h1.setBuf block hfree).attach hh.1 hh.2.2.2 hfree (fun j hj => ?_) hv hb
    (hm.lt i v b hh) (heq ▸ hc₀)
  have hji : j ≠ i := by
    rintro rfl
    exact hfree v b hj
  have hj1 : s1.Holds j v b := hj
  exact hm.not_holds hh hji ((Pool.holds_setHead_ne _ hji).1 hj1)

/-- The head of a buffer changes, but neither its block nor its contents. -/
lemma rehead (hm : PoolMatch s a) (hh : s.Holds i v b) {f : PoolHead → PoolHead}
    (c₀ : Option Cell) (hv : (f (s.aHead i)).bVolNum = v) (hb : (f (s.aHead i)).ulBlock = b)
    (hc₀ : Fits (s.setHead i f) i v b c₀) : PoolMatch (s.setHead i f) (a.set v b c₀) := by
  have hbuf : s.setBuf i (s.pbBlkBuf i) = s := by
    unfold Pool.setBuf
    rw [Function.update_eq_self]
  have h := hm.renew hh (s.pbBlkBuf i) c₀ hv hb
  rw [hbuf] at h
  exact h hc₀

/-- A clean buffer moves to a block that is in no buffer. -/
lemma move (hm : PoolMatch s a) {b' : ℕ} (hh : s.Holds i v b) (hd : (s.aHead i).fDirty = false)
    {f : PoolHead → PoolHead} (c₀ : Option Cell) (hv : (f (s.aHead i)).bVolNum = v)
    (hb : (f (s.aHead i)).ulBlock = b') (hbv : b' ≠ BBLK_INVALID)
    (hlt : b' < (s.gaRedVolume v).ulBlockCount) (hnone : ∀ j, ¬ s.Holds j v b')
    (hc₀ : Fits (s.setHead i f) i v b' c₀) : PoolMatch (s.setHead i f) (a.set v b' c₀) := by
  let s1 := s.setHead i detachHead
  have h1 : PoolMatch s1 a := hm.detach rfl fun w x c hx hc => hm.clean i w x c hx hd hc
  have hfree (w x : ℕ) : ¬ s1.Holds i w x := by
    rintro ⟨-, -, h3, h4⟩
    rw [Pool.setHead_same] at h3
    exact h4 h3.symm
  have heq : s1.setHead i (fun _ => f (s.aHead i)) = s.setHead i f :=
    (Pool.setHead_setHead s i detachHead
      fun _ => f (s.aHead i)).trans rfl
  rw [← heq]
  refine h1.attach hh.1 hbv hfree (fun j hj => ?_) hv hb ⟨(hm.lt i v b hh).1, hlt⟩ (heq ▸ hc₀)
  have hji : j ≠ i := by
    rintro rfl
    exact hfree v b' hj
  exact hnone j ((Pool.holds_setHead_ne _ hji).1 hj)

/-- Only the bookkeeping changes. -/
lemma books (hm : PoolMatch s a) (hrest : s' = { s with
    uNumUsed := s'.uNumUsed, abMRU := s'.abMRU, aHead := s'.aHead })
    (hhead : ∀ j, s'.aHead j = { s.aHead j with bRefCount := (s'.aHead j).bRefCount }) :
    PoolMatch s' a := by
  have hvol (j : ℕ) : (s'.aHead j).bVolNum = (s.aHead j).bVolNum := by rw [hhead]
  have hblk (j : ℕ) : (s'.aHead j).ulBlock = (s.aHead j).ulBlock := by rw [hhead]
  have hd (j : ℕ) : (s'.aHead j).fDirty = (s.aHead j).fDirty := by rw [hhead]
  have ht (j : ℕ) : (s'.aHead j).type = (s.aHead j).type := by rw [hhead]
  have hdisk : s'.disk = s.disk := by rw [hrest]
  have hcount : s'.gaRedVolume = s.gaRedVolume := by rw [hrest]
  have hst (j : ℕ) : s'.stored j = s.stored j := by
    rw [Pool.stored, ht, show s'.pbBlkBuf = s.pbBlkBuf by rw [hrest], Pool.stored]
  have hold {j w x : ℕ} : s'.Holds j w x ↔ s.Holds j w x := by
    rw [Pool.Holds, hvol, hblk, Pool.Holds]
  refine ⟨fun j k w x hj hk => hm.unique j k w x (hold.1 hj) (hold.1 hk), fun j w x hj => ?_,
    fun j w x c hj hc => ?_, fun j w x c hj hcl hc => ?_, fun j w x c hj hdj htj hc => ?_,
    fun w x c hn hc => ?_⟩
  · rw [hcount]
    exact hm.lt j w x (hold.1 hj)
  · rw [hst]
    exact hm.agrees j w x c (hold.1 hj) hc
  · rw [hd] at hcl
    rw [hdisk]
    exact hm.clean j w x c (hold.1 hj) hcl hc
  · rw [hd] at hdj
    rw [ht] at htj
    exact hm.node j w x c (hold.1 hj) hdj htj hc
  · rw [hdisk]
    exact hm.device w x c (fun j hj => hn j (hold.2 hj)) hc

end PoolMatch

namespace PoolInv

/-- A change of one head that keeps its reference count. -/
lemma setHead (hi : PoolInv s a) {f : PoolHead → PoolHead} (hm : PoolMatch (s.setHead i f) a')
    (hrefs : (f (s.aHead i)).bRefCount = (s.aHead i).bRefCount)
    (hheld : (s.aHead i).bRefCount ≠ 0 → (f (s.aHead i)).ulBlock ≠ BBLK_INVALID) :
    PoolInv (s.setHead i f) a' := by
  refine ⟨hm, hi.count_le, hi.cur, hi.perm, ?_, fun j => ?_, fun j hj hr => ?_⟩
  · rw [Pool.referenced_setHead f hrefs]
    exact hi.used
  · by_cases hj : j = i
    · rw [hj, Pool.setHead_same, hrefs]
      exact hi.refs_lt i
    · rw [Pool.setHead_ne s f hj]
      exact hi.refs_lt j
  · by_cases hji : j = i
    · subst hji
      rw [Pool.setHead_same] at hr ⊢
      rw [hrefs] at hr
      exact hheld hr
    · rw [Pool.setHead_ne s f hji] at hr ⊢
      exact hi.held j hj hr

end PoolInv

/-! ## References -/

namespace Pool

lemma perm_makeMRU (l : List ℕ) (i : ℕ) : (if i ∈ l then i :: l.erase i else l).Perm l := by
  split_ifs with h
  · exact (List.perm_cons_erase h).symm
  · exact .refl l

lemma perm_makeLRU (l : List ℕ) (i : ℕ) : (if i ∈ l then l.erase i ++ [i] else l).Perm l := by
  split_ifs with h
  · exact (List.perm_append_singleton i _).trans (List.perm_cons_erase h).symm
  · exact .refl l

lemma mem_referenced : i ∈ s.referenced ↔ i < bufferCount ∧ (s.aHead i).bRefCount ≠ 0 := by
  rw [referenced, Finset.mem_filter, Finset.mem_range]

lemma referenced_insert {f : PoolHead → PoolHead} (hi : i < bufferCount)
    (h : (f (s.aHead i)).bRefCount ≠ 0) : (s.setHead i f).referenced = insert i s.referenced := by
  ext j
  rw [Finset.mem_insert, mem_referenced, mem_referenced]
  by_cases hj : j = i
  · subst hj
    rw [setHead_same]
    exact ⟨fun _ => .inl rfl, fun _ => ⟨hi, h⟩⟩
  · rw [setHead_ne s f hj]
    exact ⟨.inr, fun h => h.resolve_left hj⟩

lemma referenced_erase {f : PoolHead → PoolHead} (h : (f (s.aHead i)).bRefCount = 0) :
    (s.setHead i f).referenced = s.referenced.erase i := by
  ext j
  rw [Finset.mem_erase, mem_referenced, mem_referenced]
  by_cases hj : j = i
  · subst hj
    rw [setHead_same]
    exact ⟨fun hc => absurd h hc.2, fun hc => absurd rfl hc.1⟩
  · rw [setHead_ne s f hj]
    exact ⟨fun hc => ⟨hj, hc⟩, fun hc => hc.2⟩

/-- A head with the type it is asked for, dirty if it is asked to be. -/
def touchHead (t : BufType) (d : Bool) (h : PoolHead) : PoolHead :=
  { h with type := t, fDirty := h.fDirty || d }

/-- What `RedBufferGet()` makes of the head of the buffer it returns. -/
def referenceHead (t : BufType) (d : Bool) (h : PoolHead) : PoolHead :=
  { h with bRefCount := (h.bRefCount + 1) % 256, fDirty := h.fDirty || d, type := t }

lemma bufferReference_run (s : Pool) (i : ℕ) (t : BufType) (d : Bool) :
    bufferReference i t d s = (.ok (), { s.setHead i (referenceHead t d) with
      uNumUsed := if (referenceHead t d (s.aHead i)).bRefCount = 1 then s.uNumUsed + 1
        else s.uNumUsed
      abMRU := if i ∈ s.abMRU then i :: s.abMRU.erase i else s.abMRU }) := by
  have hu (s1 : Pool) (c : Prop) [Decidable c] :
      (if c then { s1 with uNumUsed := s1.uNumUsed + 1 } else s1) =
        { s1 with uNumUsed := if c then s1.uNumUsed + 1 else s1.uNumUsed } := by
    split_ifs <;> rfl
  unfold bufferReference bufferMakeMRU
  rw [Op.modify_bind_run, Op.modify_bind_run, hu, setHead_same]
  rfl

/-- Only the type and the dirty flag that `RedBufferGet()` leaves matter to its last part. -/
lemma bufferReference_absorb (s : Pool) (i : ℕ) (t : BufType) (d : Bool) :
    bufferReference i t d s =
      bufferReference i t d (s.setHead i (touchHead t d)) := by
  have h : (s.setHead i (touchHead t d)).setHead i (referenceHead t d) =
      s.setHead i (referenceHead t d) := by
    rw [setHead_setHead]
    simp only [referenceHead, touchHead, Bool.or_assoc, Bool.or_self]
    rfl
  rw [bufferReference_run, bufferReference_run, h, setHead_same]
  rfl

end Pool

namespace PoolInv

/-- Taking one more reference to a buffer that has its type and its dirty flag already. -/
lemma bufferReference (hi : PoolInv s a) {t : BufType} {d : Bool} (hh : s.Holds i v b)
    (hr : (s.aHead i).bRefCount + 1 < 256) (ht : (s.aHead i).type = t)
    (hd : ((s.aHead i).fDirty || d) = (s.aHead i).fDirty) :
    (Pool.bufferReference i t d).Ok s fun _ s' => PoolInv s' a ∧ s'.Holds i v b ∧
      (s'.aHead i).type = t ∧ (s'.aHead i).bRefCount = (s.aHead i).bRefCount + 1 ∧
      (∀ j, j ≠ i → s'.aHead j = s.aHead j) ∧ s.KeepsHeads P s' := by
  have hmod : ((s.aHead i).bRefCount + 1) % 256 = (s.aHead i).bRefCount + 1 := Nat.mod_eq_of_lt hr
  have hf : Pool.referenceHead t d (s.aHead i) =
      { s.aHead i with bRefCount := (s.aHead i).bRefCount + 1 } := by
    rw [Pool.referenceHead, hmod, hd, ← ht]
  have hrun := Pool.bufferReference_run s i t d
  obtain ⟨s', hs⟩ : ∃ s', (Pool.bufferReference i t d s).2 = s' := ⟨_, rfl⟩
  rw [hrun] at hs
  have hs' := hs.symm
  have hhead : s'.aHead = (s.setHead i (Pool.referenceHead t d)).aHead := by rw [hs']
  have hrest : s' = { s with uNumUsed := s'.uNumUsed, abMRU := s'.abMRU, aHead := s'.aHead } := by
    rw [hs']
    rfl
  have hmru : s'.abMRU.Perm s.abMRU := by
    rw [hs']
    exact Pool.perm_makeMRU _ _
  have hused : s'.uNumUsed = if (s.aHead i).bRefCount = 0 then s.uNumUsed + 1 else s.uNumUsed := by
    rw [hs']
    change (if (Pool.referenceHead t d (s.aHead i)).bRefCount = 1 then _ else _) = _
    rw [hf]
    simp only [Nat.add_eq_right]
  have hsame (j : ℕ) : s'.aHead j = { s.aHead j with bRefCount := (s'.aHead j).bRefCount } := by
    rw [hhead]
    by_cases hj : j = i
    · rw [hj, Pool.setHead_same, hf]
    · rw [Pool.setHead_ne s _ hj]
  have hfi : (Pool.referenceHead t d (s.aHead i)).bRefCount ≠ 0 := by
    rw [hf]
    exact Nat.succ_ne_zero _
  refine Op.Ok.intro (hrun.trans (congrArg (Prod.mk _) hs))
    ⟨⟨hi.toPoolMatch.books hrest hsame, ?_, ?_, ?_, ?_,
    fun j => ?_, fun j hj hrj => ?_⟩, ?_, ?_, ?_, fun j hj => ?_, ?_, fun v => ?_, fun j _ => ?_⟩
  · rw [hrest]; exact hi.count_le
  · rw [hrest]; exact hi.cur
  · exact hmru.trans hi.perm
  · have href : s'.referenced = insert i s.referenced := by
      rw [← Pool.referenced_insert hh.1 hfi, Pool.referenced, hhead, Pool.referenced]
    rw [hused, href]
    split_ifs with h0
    · rw [Finset.card_insert_of_notMem fun hm => (Pool.mem_referenced.1 hm).2 h0, hi.used]
    · rw [Finset.insert_eq_of_mem (Pool.mem_referenced.2 ⟨hh.1, h0⟩), hi.used]
  · rw [hhead]
    by_cases hj : j = i
    · rw [hj, Pool.setHead_same, hf]
      exact hr
    · rw [Pool.setHead_ne s _ hj]
      exact hi.refs_lt j
  · by_cases hji : j = i
    · rw [hsame, hji, hh.2.2.1]
      exact hh.2.2.2
    · rw [hhead, Pool.setHead_ne s _ hji] at hrj ⊢
      exact hi.held j hj hrj
  · refine ⟨hh.1, ?_, ?_, hh.2.2.2⟩
    · rw [hsame]; exact hh.2.1
    · rw [hsame]; exact hh.2.2.1
  · rw [hsame]; exact ht
  · rw [hhead, Pool.setHead_same, hf]
  · rw [hhead, Pool.setHead_ne s _ hj]
  · rw [hrest]
  · rw [hrest]
  · rw [hsame]
    exact ⟨rfl, rfl, rfl⟩

end PoolInv

/-! ## Acquiring a buffer -/

/-- The arrays after a block was acquired: a new block is zeroed, and the header of a node that is
marked dirty will be filled in. -/
def Arrays.afterGet (a : Arrays) (v b : ℕ) (t : BufType) (fDirty fNew : Bool) : Arrays :=
  a.set v b <|
    if fNew then some ((RawBlock.zero.swap t).cell t)
    else if fDirty then (a v b).map (·.touch t)
    else a v b

/-- The outcome of obtaining the buffer `i`: the invariant holds once its head has the type and the
dirty flag that were asked for. -/
structure Pool.Obtained (s s' : Pool) (a : Arrays) (i b : ℕ) (t : BufType) (d n : Bool) : Prop where
  inv : PoolInv (s'.setHead i (Pool.touchHead t d))
    (a.afterGet s.gbRedVolNum b t d n)
  holds : s'.Holds i s.gbRedVolNum b
  refs : (s'.aHead i).bRefCount = (s.aHead i).bRefCount
  typed : (s.aHead i).bRefCount ≠ 0 → (s'.aHead i).type = t
  found : ∀ j, s.Holds j s.gbRedVolNum b → n = false ∧ (s.aHead j).type = t
  keeps : s.KeepsHeads (fun j => (s.aHead j).bRefCount ≠ 0) s'

namespace PoolInv

/-- The cell of a buffer after it was marked dirty, or was not. -/
lemma fits_touch (hi : PoolInv s a) {t : BufType} {d : Bool} (hh : s.Holds i v b)
    (ht : (s.aHead i).type = t) :
    PoolMatch.Fits (s.setHead i (Pool.touchHead t d)) i v b
      (if d then (a v b).map (·.touch t) else a v b) := by
  intro c hc
  have hst : (s.setHead i (Pool.touchHead t d)).stored i =
      s.stored i := by
    rw [Pool.stored, Pool.setHead_same, Pool.stored, ht]
    rfl
  rw [hst, Pool.setHead_same]
  cases d with
  | true =>
    obtain ⟨c1, hc1, rfl⟩ := Option.map_eq_some_iff.1 hc
    refine ⟨(hi.agrees i v b c1 hh hc1).touch t, fun hd => ?_, fun _ hn => c1.touch_hdr hn⟩
    rw [Pool.touchHead, Bool.or_true] at hd
    cases hd
  | false =>
    rw [Pool.touchHead, Bool.or_false]
    exact ⟨hi.agrees i v b c hh hc, fun hd => hi.clean i v b c hh hd hc,
      fun hd hn => hi.node i v b c hh hd (ht ▸ hn) hc⟩

/-- The buffer of a block that has one. -/
lemma obtained_found (hi : PoolInv s a) {t : BufType} {d : Bool}
    (hh : s.Holds i s.gbRedVolNum b) (ht : (s.aHead i).type = t) :
    s.Obtained s a i b t d false := by
  refine ⟨hi.setHead ?_ rfl fun _ => ?_, hh, rfl, fun _ => ht, fun j hj => ⟨rfl, ?_⟩, .refl _ s⟩
  · exact hi.toPoolMatch.rehead hh _ hh.2.1 hh.2.2.1 (hi.fits_touch hh ht)
  · rw [Pool.touchHead, hh.2.2.1]
    exact hh.2.2.2
  · rw [hi.unique j i _ _ hj hh, ht]

/-- The buffer to be repurposed is written out if it is dirty. -/
lemma evict_post (hi : PoolInv s a) (hlt : i < bufferCount) :
    (Op.when ((s.aHead i).fDirty && (s.aHead i).ulBlock != BBLK_INVALID)
      (Pool.bufferWrite i)).Post s fun r s' => PoolInv s' a ∧ s'.aHead = s.aHead ∧
        s.KeepsHeads P s' ∧
        (r = .ok () → ∀ w x c, s'.Holds i w x → a w x = some c → c.Agrees (s'.disk w x)) := by
  refine Op.Post.when (fun hc => ?_) fun hc => ⟨hi, rfl, .refl P s, fun _ w x c hh ha => ?_⟩
  · rw [Bool.and_eq_true, bne_iff_ne] at hc
    have hh : s.Holds i (s.aHead i).bVolNum (s.aHead i).ulBlock := ⟨hlt, rfl, rfl, hc.2⟩
    refine (hi.bufferWrite_post hh).mono fun r s' hw => ?_
    obtain ⟨hi', hdev⟩ := hi.wroteOut hh hc.1 hw
    have hhead : s'.aHead = s.aHead := by rw [hw.rest]
    refine ⟨hi', hhead, hw.keeps, fun hr w x c hx ha => ?_⟩
    rw [Pool.Holds, hhead] at hx
    obtain ⟨rfl, rfl⟩ := hh.fun hx
    exact hdev hr c ha
  · refine hi.clean i w x c hh ?_ ha
    rw [Bool.and_eq_true, bne_iff_ne, not_and_not_right, hh.2.2.1] at hc
    by_contra hd
    exact hh.2.2.2 (hc (by simpa using hd))

end PoolInv

/-- From `s` to `s'` nothing but the buffer `i` has changed, which no one references and which may
leave its block. -/
structure Pool.Cleared (s s' : Pool) (a : Arrays) (i : ℕ) : Prop where
  head : ∀ j, j ≠ i → s'.aHead j = s.aHead j
  free : (s.aHead i).bRefCount = 0
  refs : (s'.aHead i).bRefCount = 0
  keeps : s.KeepsHeads (fun j => (s.aHead j).bRefCount ≠ 0) s'
  disk : s'.disk = s.disk
  inv : PoolInv (s'.setHead i PoolMatch.detachHead) a

namespace Pool.Cleared

lemma refl (hi : PoolInv (s.setHead i PoolMatch.detachHead) a) (hr : (s.aHead i).bRefCount = 0) :
    s.Cleared s a i :=
  ⟨fun _ _ => rfl, hr, hr, .refl _ s, rfl, hi⟩

/-- Taking a buffer off its block twice changes nothing. -/
lemma detach_detach (s : Pool) (i : ℕ) :
    (s.setHead i PoolMatch.detachHead).setHead i PoolMatch.detachHead =
      s.setHead i PoolMatch.detachHead := setHead_setHead s i _ _

lemma not_holds_detach (s : Pool) (i w x : ℕ) :
    ¬ (s.setHead i PoolMatch.detachHead).Holds i w x := by
  rintro ⟨-, -, h3, h4⟩
  rw [Pool.setHead_same] at h3
  exact h4 h3.symm

lemma detach (h : s.Cleared s' a i) : s.Cleared (s'.setHead i PoolMatch.detachHead) a i where
  head j hj := (setHead_ne s' _ hj).trans (h.head j hj)
  free := h.free
  refs := by
    rw [setHead_same]
    exact h.refs
  keeps := h.keeps.trans <| ⟨rfl, fun _ => rfl, fun j hj => by
    have hji : j ≠ i := by
      rintro rfl
      exact hj h.free
    rw [setHead_ne s' _ hji]
    exact ⟨rfl, rfl, rfl⟩⟩
  disk := h.disk
  inv := by
    rw [detach_detach]
    exact h.inv

lemma setBuf (h : s.Cleared s' a i) (block : RawBlock) : s.Cleared (s'.setBuf i block) a i where
  head := h.head
  free := h.free
  refs := h.refs
  keeps := h.keeps.trans ⟨rfl, fun _ => rfl, fun _ _ => ⟨rfl, rfl, rfl⟩⟩
  disk := h.disk
  inv := { h.inv with toPoolMatch := h.inv.toPoolMatch.setBuf block (not_holds_detach s' i) }

lemma quiet (h : s.Cleared s' a i) (hq : s'.Quiet s'') : s.Cleared s'' a i where
  head j hj := by rw [hq.aHead]; exact h.head j hj
  free := h.free
  refs := by rw [hq.aHead]; exact h.refs
  keeps := h.keeps.trans hq.keeps
  disk := hq.disk.trans h.disk
  inv := h.inv.quiet ⟨by
    unfold Pool.setHead
    rw [hq.aHead]
    conv_lhs => rw [hq.rest], hq.count, hq.mounted⟩

/-- A buffer that is off its block. -/
lemma inv_of_invalid (h : s.Cleared s' a i) (hb : (s'.aHead i).ulBlock = BBLK_INVALID) :
    PoolInv s' a := by
  have he : s'.setHead i PoolMatch.detachHead = s' := by
    unfold Pool.setHead
    rw [show PoolMatch.detachHead (s'.aHead i) = s'.aHead i by rw [PoolMatch.detachHead, ← hb],
      Function.update_eq_self]
  rw [← he]
  exact h.inv

/-- The buffer is filled for the block `b`. -/
lemma bufferFill_post {t : BufType} {n : Bool} (h : s.Cleared s a i)
    (hb : b < s.gpRedVolume.ulBlockCount) : (Pool.bufferFill i b t n).Post s fun r s' =>
      s.Cleared s' a i ∧ (∀ e, r = .error e → PoolInv s' a) ∧
        (r = .ok () → if n then s'.pbBlkBuf i = .zero
          else (s'.pbBlkBuf i).swap t = s.disk s.gbRedVolNum b) := by
  unfold Pool.bufferFill
  cases n with
  | true => exact ⟨h.setBuf .zero, (by simp), fun _ => Pool.setBuf_same ..⟩
  | false =>
    rw [if_neg Bool.false_ne_true]
    refine Op.Post.modify_bind (Op.Post.get_bind ?_)
    have h0 : s.Cleared (s.setHead i PoolMatch.detachHead) a i := h.detach
    have hvalid :
        (s.setHead i PoolMatch.detachHead).blockRangeIsValid s.gbRedVolNum b 1 = true := by
      rw [Pool.blockRangeIsValid_iff]
      exact ⟨hb, one_ne_zero⟩
    refine Op.Ok.bind_post (Pool.redIoRead_ok h.inv.cur hvalid) ?_
    rintro ⟨ret, blocks⟩ s1 ⟨hq, hread⟩
    have hoff1 : (s1.aHead i).ulBlock = BBLK_INVALID := by
      rw [hq.aHead, Pool.setHead_same]
    rcases hread with ⟨hret, hblocks⟩ | ⟨garbage, hret⟩
    · dsimp only at hret hblocks ⊢
      subst hret hblocks
      have h2 := (h0.quiet hq).setBuf (s.disk s.gbRedVolNum b)
      have hoff (m : RawBlock) : ((s1.setBuf i m).aHead i).ulBlock = BBLK_INVALID := hoff1
      refine Op.Post.modify_bind (Op.Ok.bind_post
        (Q := fun _ s' => s1.setBuf i (s.disk s.gbRedVolNum b) = s') (Op.Ok.intro rfl rfl) ?_)
      rintro _ _ rfl
      refine Op.Post.get_bind (Op.Post.bind (Q := fun _ s' => s.Cleared s' a i ∧
        (s'.aHead i).ulBlock = BBLK_INVALID ∧ s'.pbBlkBuf i = s.disk s.gbRedVolNum b)
        (Op.Post.when (fun _ => ?_) fun _ => ⟨h2, hoff _, Pool.setBuf_same ..⟩) ?_ ?_)
      · refine Op.Ok.bind_post (Pool.criticalAssert_ok _ _) fun _ s3 hq3 => ⟨h2.quiet hq3, ?_, ?_⟩
        · change (s3.aHead i).ulBlock = _
          rw [hq3.aHead]
          exact hoff _
        · change s3.pbBlkBuf i = _
          rw [hq3.pbBlkBuf]
          exact Pool.setBuf_same ..
      · rintro _ s3 ⟨h3, -, hbuf⟩
        refine ⟨h3.setBuf _, (by simp), fun _ => ?_⟩
        change ((s3.setBuf i ((s3.pbBlkBuf i).swap t)).pbBlkBuf i).swap t = _
        rw [Pool.setBuf_same, hbuf, RawBlock.swap_swap]
      · rintro _ s3 ⟨h3, hoff3, -⟩
        exact ⟨h3, fun _ _ => h3.inv_of_invalid hoff3, (by simp)⟩
    · cases hret
      have h2 := (h0.quiet hq).setBuf (garbage 0)
      exact ⟨h2, fun _ _ => h2.inv_of_invalid hoff1, fun h => by cases h⟩

/-- A buffer filled for the block `b`, which is in no buffer, takes it up. -/
lemma attach {s₁ : Pool} {t : BufType} {d n : Bool} (h : s.Cleared s₁ a i)
    (hlt : i < bufferCount) (hb : b < s.gpRedVolume.ulBlockCount)
    (hnone : ∀ j, ¬ s.Holds j s.gbRedVolNum b) (hnd : n = true → d = true)
    (hfill : if n then s₁.pbBlkBuf i = .zero
      else (s₁.pbBlkBuf i).swap t = s.disk s.gbRedVolNum b) :
    s.Obtained (s₁.setHead i fun h => { h with
      bVolNum := s.gbRedVolNum, ulBlock := b, fDirty := false, type := .data }) a i b t d n := by
  have hb1 : b < (s₁.gaRedVolume s.gbRedVolNum).ulBlockCount := by
    rw [h.keeps.count]
    exact hb
  have hbv : b ≠ BBLK_INVALID := h.inv.lt_invalid hb1
  have hnone1 (j : ℕ) : ¬ (s₁.setHead i PoolMatch.detachHead).Holds j s.gbRedVolNum b := by
    intro hj
    have hji : j ≠ i := by
      rintro rfl
      exact Pool.Cleared.not_holds_detach s₁ j _ _ hj
    have hj1 := (Pool.holds_setHead_ne _ hji).1 hj
    rw [Pool.Holds, h.head j hji] at hj1
    exact hnone j hj1
  -- The head the buffer ends up with, whatever it was before.
  let f : PoolHead → PoolHead := fun h => ⟨b, s.gbRedVolNum, h.bRefCount, d, t⟩
  have heq : (s₁.setHead i PoolMatch.detachHead).setHead i f =
      (s₁.setHead i fun h => { h with
        bVolNum := s.gbRedVolNum, ulBlock := b, fDirty := false, type := .data }).setHead i
          (Pool.touchHead t d) := by
    rw [Pool.setHead_setHead, Pool.setHead_setHead]
    refine congrArg (s₁.setHead i) (funext fun h => ?_)
    change _ = PoolHead.mk _ _ _ (false || d) _
    rw [Bool.false_or]
    rfl
  have hst :
      ((s₁.setHead i PoolMatch.detachHead).setHead i f).stored i = (s₁.pbBlkBuf i).swap t := by
    rw [Pool.stored, Pool.setHead_same]
    rfl
  have hdirty : (((s₁.setHead i PoolMatch.detachHead).setHead i f).aHead i).fDirty = d := by
    rw [Pool.setHead_same]
  have htype : (((s₁.setHead i PoolMatch.detachHead).setHead i f).aHead i).type = t := by
    rw [Pool.setHead_same]
  have hfits : PoolMatch.Fits ((s₁.setHead i PoolMatch.detachHead).setHead i f) i s.gbRedVolNum b
      (if n then some ((RawBlock.zero.swap t).cell t)
        else if d then (a s.gbRedVolNum b).map (·.touch t) else a s.gbRedVolNum b) := by
    intro c hc
    rw [hst, hdirty, htype]
    cases n with
    | true =>
      cases hc
      rw [if_pos rfl] at hfill
      rw [hfill, hnd rfl]
      exact ⟨RawBlock.cell_agrees _ _, (by simp), fun _ ht => RawBlock.cell_hdr _ ht⟩
    | false =>
      rw [if_neg Bool.false_ne_true] at hfill hc
      have hdev (c : Cell) (hc : a s.gbRedVolNum b = some c) :
        c.Agrees (s.disk s.gbRedVolNum b) := by
        rw [← h.disk]
        exact h.inv.device _ b c hnone1 hc
      rw [hfill, show ((s₁.setHead i PoolMatch.detachHead).setHead i f).disk = s.disk from h.disk]
      cases d with
      | true =>
        obtain ⟨c1, hc1, rfl⟩ := Option.map_eq_some_iff.1 hc
        exact ⟨(hdev c1 hc1).touch t, (by simp), fun _ ht => c1.touch_hdr ht⟩
      | false => exact ⟨hdev c hc, fun _ => hdev c hc, (by simp)⟩
  have hm := h.inv.toPoolMatch.attach (f := f) hlt hbv (Pool.Cleared.not_holds_detach s₁ i) hnone1
    rfl rfl ⟨by rw [← h.keeps.cur]; exact h.inv.cur, hb1⟩ hfits
  refine ⟨?_, ⟨hlt, ?_, ?_, hbv⟩, ?_, fun hr => absurd h.free hr, fun j hj => absurd hj (hnone j),
    h.keeps.trans ?_⟩
  · rw [← heq]
    exact h.inv.setHead hm rfl fun _ => hbv
  · rw [Pool.setHead_same]
  · rw [Pool.setHead_same]
  · rw [Pool.setHead_same, h.free]
    exact h.refs
  · exact Pool.setHead_keeps _ (not_not.2 h.free)

end Pool.Cleared

/-- What was obtained after a change that no head shows. -/
lemma Pool.Obtained.of_heads {s₁ : Pool} {t : BufType} {d n : Bool}
    (h : s₁.Obtained s' a i b t d n) (hhead : s₁.aHead = s.aHead)
    (hk : s.KeepsHeads (fun j => (s.aHead j).bRefCount ≠ 0) s₁) : s.Obtained s' a i b t d n := by
  obtain ⟨h1, h2, h3, h4, h5, h6⟩ := h
  simp only [Pool.Holds, hhead, hk.cur] at h1 h2 h3 h4 h5 h6
  exact ⟨h1, h2, h3, h4, h5, hk.trans h6⟩

/-- Giving the obtained buffer its type and its dirty flag keeps the buffers that were
referenced. -/
lemma Pool.Obtained.touch_keeps {t : BufType} {d' n : Bool} (h : s.Obtained s' a i b t d' n)
    (d : Bool) : s'.KeepsHeads (fun j => (s.aHead j).bRefCount ≠ 0)
      (s'.setHead i (Pool.touchHead t d)) :=
  ⟨rfl, fun _ => rfl, fun j hj => by
    by_cases hji : j = i
    · subst hji
      rw [Pool.setHead_same]
      exact ⟨rfl, rfl, (h.typed hj).symm⟩
    · rw [Pool.setHead_ne s' _ hji]
      exact ⟨rfl, rfl, rfl⟩⟩

lemma Pool.bufferFind_ok (hb : b < s.gpRedVolume.ulBlockCount) :
    (Pool.bufferFind b).Ok s fun r s' => r = s.find s.gbRedVolNum b ∧ s = s' := by
  unfold Pool.bufferFind
  refine Op.Ok.get_bind ?_
  rw [if_neg (not_le.2 hb)]
  exact Op.Ok.pure ⟨rfl, rfl⟩

namespace PoolInv

/-- Repurposing an unreferenced buffer for a block that is in no buffer. -/
lemma bufferRepurpose_post (hi : PoolInv s a) {t : BufType} {d n : Bool}
    (hb : b < s.gpRedVolume.ulBlockCount) (hnone : ∀ j, ¬ s.Holds j s.gbRedVolNum b)
    (hnd : n = true → d = true) : (Pool.bufferRepurpose b t n).Post s fun r s' =>
      (∀ e, r = .error e → PoolInv s' a ∧ s.KeepsHeads (fun j => (s.aHead j).bRefCount ≠ 0) s') ∧
      (∀ i, r = .ok i → s.Obtained s' a i b t d n ∧ (s.aHead i).bRefCount < 255) := by
  unfold Pool.bufferRepurpose
  refine Op.Post.get_bind ?_
  split
  · exact Pool.criticalError_fail ⟨fun _ _ => ⟨hi.quiet (Pool.criticalError_quiet s),
      (Pool.criticalError_quiet s).keeps⟩, (by simp)⟩
  · rename_i i hfind
    have hlt : i < bufferCount := List.mem_range.1 <|
      hi.perm.mem_iff.1 (List.mem_reverse.1 (List.mem_of_find?_eq_some hfind))
    have hfree : (s.aHead i).bRefCount = 0 := by simpa using List.find?_some hfind
    refine Op.Post.bind (hi.evict_post hlt) (fun _ s1 h1 => ?_) fun e s1 h1 =>
      ⟨fun _ _ => ⟨h1.1, h1.2.2.1⟩, (by simp)⟩
    obtain ⟨hi1, hhead, hk, hdev⟩ := h1
    have hfree1 : (s1.aHead i).bRefCount = 0 := by rw [hhead, hfree]
    have hc1 : s1.Cleared s1 a i := .refl
      (hi1.setHead (hi1.toPoolMatch.detach rfl (hdev rfl)) rfl fun h => absurd hfree1 h) hfree1
    have hb1 : b < s1.gpRedVolume.ulBlockCount := by
      rw [Pool.gpRedVolume, hk.cur, hk.count]
      exact hb
    have hnone1 (j : ℕ) : ¬ s1.Holds j s1.gbRedVolNum b := by
      rw [Pool.Holds, hhead, hk.cur]
      exact hnone j
    have hP : (fun j => (s1.aHead j).bRefCount ≠ 0) = fun j => (s.aHead j).bRefCount ≠ 0 := by
      rw [hhead]
    refine Op.Post.bind (hc1.bufferFill_post hb1) (fun _ s2 h2 => ?_) fun e s2 h2 =>
      ⟨fun _ _ => ⟨h2.2.1 e rfl, hk.trans (hP ▸ h2.1.keeps)⟩, (by simp)⟩
    obtain ⟨h2, -, hfill⟩ := h2
    refine ⟨(by simp), fun j hj => ?_⟩
    cases hj
    have hcur : s2.gbRedVolNum = s1.gbRedVolNum := h2.keeps.cur
    refine ⟨?_, by omega⟩
    change Pool.Obtained s (s2.setHead i fun h => { h with
      bVolNum := s2.gbRedVolNum, ulBlock := b, fDirty := false, type := .data }) a i b t d n
    rw [hcur]
    exact (h2.attach hlt hb1 hnone1 hnd (hfill rfl)).of_heads hhead hk

/-- `RedBufferGet()`: whatever the outcome, the arrays are as expected. -/
lemma redBufferGet_post (hi : PoolInv s a) {t : BufType} {d n : Bool}
    (hrefs : ∀ i, s.Holds i s.gbRedVolNum b → (s.aHead i).bRefCount < 255) :
    (Pool.redBufferGet b t d n).Post s fun r s' =>
      s.KeepsHeads (fun j => (s.aHead j).bRefCount ≠ 0) s' ∧
      (∀ e, r = .error e → PoolInv s' a) ∧
      (∀ i, r = .ok i → PoolInv s' (a.afterGet s.gbRedVolNum b t d n) ∧
        s'.Holds i s.gbRedVolNum b ∧ (s'.aHead i).type = t ∧
          (s'.aHead i).bRefCount = (s.aHead i).bRefCount + 1 ∧
          ∀ j, s.Holds j s.gbRedVolNum b → n = false ∧ (s.aHead j).type = t) := by
  unfold Pool.redBufferGet
  refine Op.Post.get_bind ?_
  split_ifs with hbad
  · exact ⟨.refl _ s, fun _ _ => hi, (by simp)⟩
  obtain ⟨hb, hnd⟩ := not_or.1 hbad
  have hb : b < s.gpRedVolume.ulBlockCount := not_le.1 hb
  have hbv : b ≠ BBLK_INVALID := hi.lt_invalid hb
  let Q : Except RedError ℕ → Pool → Prop := fun r s' =>
    (∀ e, r = .error e → PoolInv s' a ∧ s.KeepsHeads (fun j => (s.aHead j).bRefCount ≠ 0) s') ∧
    (∀ i, r = .ok i → s.Obtained s' a i b t d n ∧ (s.aHead i).bRefCount < 255)
  have hcrit (e : RedError) :
      (Pool.criticalError >>= fun _ => (Op.fail e : PoolOp ℕ)).Post s Q :=
    Pool.criticalError_fail ⟨fun _ _ => ⟨hi.quiet (Pool.criticalError_quiet s),
      (Pool.criticalError_quiet s).keeps⟩, (by simp)⟩
  have hobtain : (Pool.bufferObtain b t n).Post s Q := by
    unfold Pool.bufferObtain
    refine Op.Post.get_bind (Op.Ok.bind_post (Pool.bufferFind_ok hb) ?_)
    rintro r _ ⟨rfl, rfl⟩
    rcases hf : s.find s.gbRedVolNum b with _ | i
    · dsimp only
      split_ifs
      · exact hcrit _
      · refine hi.bufferRepurpose_post hb (Pool.find_none hf) fun hn => ?_
        by_contra hd
        exact hnd ⟨hn, hd⟩
    · dsimp only
      have hh : s.Holds i s.gbRedVolNum b := Pool.find_some hf hbv
      split_ifs with hbad
      · exact hcrit _
      · obtain ⟨hn, ht⟩ := not_or.1 hbad
        rw [Bool.not_eq_true] at hn
        subst hn
        refine ⟨(by simp), fun j hj => ?_⟩
        cases hj
        exact ⟨hi.obtained_found hh (not_not.1 ht).symm, hrefs i hh⟩
  refine Op.Post.bind hobtain (fun i s1 h1 => ?_) fun e s1 h1 =>
    ⟨(h1.1 e rfl).2, fun _ _ => (h1.1 e rfl).1, (by simp)⟩
  obtain ⟨h1, hlt⟩ := h1.2 i rfl
  have hh2 : (s1.setHead i (Pool.touchHead t d)).Holds i s.gbRedVolNum b := by
    refine ⟨h1.holds.1, ?_, ?_, h1.holds.2.2.2⟩
    · rw [Pool.setHead_same]
      exact h1.holds.2.1
    · rw [Pool.setHead_same]
      exact h1.holds.2.2.1
  have hr2 : ((s1.setHead i (Pool.touchHead t d)).aHead i).bRefCount = (s.aHead i).bRefCount := by
    rw [Pool.setHead_same]
    exact h1.refs
  have ht2 : ((s1.setHead i (Pool.touchHead t d)).aHead i).type = t := by
    rw [Pool.setHead_same, Pool.touchHead]
  have hd2 : (((s1.setHead i (Pool.touchHead t d)).aHead i).fDirty || d) =
      ((s1.setHead i (Pool.touchHead t d)).aHead i).fDirty := by
    rw [Pool.setHead_same, Pool.touchHead, Bool.or_assoc, Bool.or_self]
  have href := h1.inv.bufferReference (P := fun j => (s.aHead j).bRefCount ≠ 0) hh2
    (by omega) ht2 hd2
  unfold Op.Ok at href
  rw [← Pool.bufferReference_absorb] at href
  refine Op.Ok.bind_post href fun _ s3 h3 => ?_
  obtain ⟨hi3, hh3, ht3, hr3, -, hk3⟩ := h3
  refine ⟨h1.keeps.trans ((h1.touch_keeps d).trans hk3), (by simp), fun j hj => ?_⟩
  cases hj
  exact ⟨hi3, hh3, ht3, hr3.trans (congrArg (· + 1) hr2), h1.found⟩

end PoolInv

end

end RelianceEdge
