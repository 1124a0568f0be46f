import RelianceEdge.Cache.Get

set_option relaxedAutoImplicit false
set_option autoImplicit false
set_option linter.unusedSectionVars false

/-!
# Operations on referenced buffers

Releasing, changing and renumbering a buffer that is referenced.

## Main results

* `redBufferPut_ok`, `redBufferBranch_ok` — releasing a buffer, and giving it another block.
* `BufInv.setBuf` — changing the contents of a dirty buffer.
-/

namespace RelianceEdge

variable [RedConf]

open RedConf

section

variable {s s' : FS} {prot own : ℕ → Prop} {R R' : List ℕ} {X : ℕ → Prop} {i b : ℕ} {nd : Node}

/-- More blocks may be buffered. -/
lemma BufInv.own_mono {own' : ℕ → Prop} (hi : BufInv s prot own R X) (h : ∀ b, own b → own' b) :
    BufInv s prot own' R X :=
  { hi with owned := fun i hlt hv => h _ (hi.owned i hlt hv) }

/-- A block that is not buffered need not be owned. -/
lemma BufInv.disown {own' : ℕ → Prop} (hi : BufInv s prot own R X) (hf : s.buf.find b = none)
    (h : ∀ b', b' ≠ b → own b' → own' b') : BufInv s prot own' R X :=
  { hi with
    owned := fun i hlt hv => h _
      (fun hb => (BufCtx.find_eq_none_iff (hb ▸ hv)).1 hf i hlt hb) (hi.owned i hlt hv) }

/-- A block that is not owned is not buffered. -/
lemma BufInv.find_of_not_own (hi : BufInv s prot own R X) (h : ¬ own b) :
    s.buf.find b = none := by
  rcases hf : s.buf.find b with _ | i
  · rfl
  · obtain ⟨hlt, rfl, hv⟩ := BufCtx.find_some hf
    exact absurd (hi.owned i hlt hv) h

lemma BufInv.find_held (hi : BufInv s prot own R X) (hm : i ∈ R) :
    s.buf.find (s.buf.blk i) = some i :=
  (BufCtx.find_eq_some_iff hi.unique).2 ⟨hi.refs_lt i hm, rfl, hi.held i hm⟩

lemma BufInv.peek_held (hi : BufInv s prot own R X) (hm : i ∈ R) :
    s.peek (s.buf.blk i) = s.buf.pbBlkBuf i := FS.peek_some (hi.find_held hm)

lemma BufInv.readable_held (hi : BufInv s prot own R X) (hm : i ∈ R) {t : BufType} :
    s.Readable (s.buf.blk i) t ↔ (s.buf.aHead i).type = t := FS.readable_some (hi.find_held hm)

/-! ## Releasing -/

/-- **Releasing a buffer** drops one reference. -/
theorem redBufferPut_ok (hi : BufInv s prot own R X) (hm : i ∈ R) (hX : ∀ j, X j → j ∈ R.erase i) :
    (redBufferPut i).Ok s fun _ s' => Steady s s' prot R ∧ BufInv s' prot own (R.erase i) X ∧
      SameBlocks s s' := by
  unfold redBufferPut
  refine Op.Ok.modify ?_
  rw [if_pos (hi.bufferToIdx hm)]
  have hlt := hi.refs_lt i hm
  set s1 := s.setHead i fun h => { h with bRefCount := h.bRefCount - 1 } with hs1
  have hhead : ∀ j, s1.buf.aHead j =
      if j = i then { s.buf.aHead i with bRefCount := (s.buf.aHead i).bRefCount - 1 }
      else s.buf.aHead j := fun j => by
    by_cases h : j = i
    · subst h; simp [hs1, FS.setHead]
    · simp [hs1, FS.setHead, h]
  have key : ∀ u, (∀ h : u = (R.erase i).toFinset.card, ∀ s2 : FS,
      s2 = { s1 with buf := { s1.buf with uNumUsed := u } } →
      Steady s s2 prot R ∧ BufInv s2 prot own (R.erase i) X ∧ SameBlocks s s2) := by
    rintro u hu s2 rfl
    have hsame : SameBlocks s { s1 with buf := { s1.buf with uNumUsed := u } } := by
      refine ⟨⟨rfl, rfl, rfl, rfl, rfl, rfl, rfl⟩, fun j => ?_, fun j => ?_, fun j => rfl⟩
      all_goals
        by_cases h : j = i
        · subst h; simp [BufCtx.blk, hhead]
        · simp [BufCtx.blk, hhead, h]
    have hdirty : ∀ j, (s1.buf.aHead j).fDirty = (s.buf.aHead j).fDirty := fun j => by
      by_cases h : j = i
      · subst h; simp [hhead]
      · simp [hhead, h]
    refine ⟨hsame.steady fun j _ hd => (hdirty j).trans hd, hi.of_same hsame (.refl _)
      (fun j hj => ?_) (fun j hj => hi.refs_lt j (List.mem_of_mem_erase hj))
      (fun j hj => hi.held j (List.mem_of_mem_erase hj)) hu (fun j _ _ => .inl (hdirty j)) hX
      (fun j _ _ hx _ => hx), hsame⟩
    by_cases h : j = i
    · subst h; simp [hhead, hi.refs j hj]
    · simp [hhead, h, hi.refs j hj, List.count_erase_of_ne h]
  have hcount : (s1.buf.aHead i).bRefCount = R.count i - 1 := by
    simp [hhead, hi.refs i hlt]
  by_cases h1 : R.count i = 1
  · rw [if_pos (by rw [hcount, h1])]
    have hni : i ∉ R.erase i := by
      rw [← List.count_eq_zero, List.count_erase_self, h1]
    refine key _ ?_ _ rfl
    have hu : R.toFinset.card = (R.erase i).toFinset.card + 1 := by
      rw [← List.toFinset_eq_of_perm _ _ (List.perm_cons_erase hm).symm, List.toFinset_cons,
        Finset.card_insert_of_notMem (by simpa using hni)]
    change s.buf.uNumUsed - 1 = _
    rw [hi.used, hu, Nat.add_sub_cancel]
  · have hpos := List.count_pos_iff.2 hm
    rw [if_neg (by rw [hcount]; omega)]
    have hmi : i ∈ R.erase i := by
      rw [← List.count_pos_iff, List.count_erase_self]; omega
    refine key s.buf.uNumUsed ?_ _ rfl
    rw [hi.used, ← List.toFinset_eq_of_perm _ _ (List.perm_cons_erase hm).symm, List.toFinset_cons,
      Finset.insert_eq_of_mem (by simpa using hmi)]

/-- Releasing the buffer acquired last. -/
lemma redBufferPut_cons (hi : BufInv s prot own (i :: R) X) (hX : ∀ j, X j → j ∈ R) :
    (redBufferPut i).Ok s fun _ s' => Steady s s' prot (i :: R) ∧ BufInv s' prot own R X ∧
      SameBlocks s s' := by
  simpa using redBufferPut_ok hi List.mem_cons_self (by simpa using hX)

/-! ## Dirtying and changing -/

@[simp] lemma FS.setBuf_head (s : FS) (i : ℕ) (nd : Node) :
    (s.setBuf i nd).buf.aHead = s.buf.aHead :=
  rfl

lemma FS.setBuf_find (s : FS) (i : ℕ) (nd : Node) (b : ℕ) :
    (s.setBuf i nd).buf.find b = s.buf.find b := rfl

/-- **Changing the contents** of a buffer that is dirty, or exempt from agreeing with the
device. -/
theorem BufInv.setBuf {X' : ℕ → Prop} (hi : BufInv s prot own R X) (hm : i ∈ R)
    (hbytes : (s.buf.aHead i).type = .data → nd.isBytes = true)
    (hX : ∀ j, X j → X' j) (hX' : ∀ j, X' j → j ∈ R)
    (hd : (s.buf.aHead i).fDirty = true ∨ X' i) : BufInv (s.setBuf i nd) prot own R X' where
  count_le := hi.count_le
  perm := hi.perm
  unique := hi.unique
  refs := hi.refs
  refs_lt := hi.refs_lt
  held := hi.held
  used := hi.used
  lt := hi.lt
  bytes j hj hv ht := by
    by_cases h : j = i
    · subst h; simpa [FS.setBuf] using hbytes ht
    · simpa [FS.setBuf, h] using hi.bytes j hj hv ht
  clean j hj hv hc hx := by
    have h : j ≠ i := by
      rintro rfl
      rcases hd with hd | hd
      · rw [FS.setBuf_head] at hc; rw [hd] at hc; cases hc
      · exact hx hd
    have := hi.clean j hj hv hc fun hx' => hx (hX j hx')
    exact ⟨this.1, by simpa [FS.setBuf, h] using this.2⟩
  dirty := hi.dirty
  exempt := hX'
  owned := hi.owned

lemma BufInv.setBuf_peek (hi : BufInv s prot own R X) (hm : i ∈ R) (b : ℕ) :
    (s.setBuf i nd).peek b = if b = s.buf.blk i then nd else s.peek b := by
  split_ifs with h
  · subst h
    rw [FS.peek_some (i := i) (by rw [FS.setBuf_find]; exact hi.find_held hm)]
    simp [FS.setBuf]
  · rcases hf : s.buf.find b with _ | j
    · rw [FS.peek_none hf, FS.peek_none (by rw [FS.setBuf_find]; exact hf)]; rfl
    · have hji : j ≠ i := by
        rintro rfl
        exact h (BufCtx.find_some hf).2.1.symm
      rw [FS.peek_some hf, FS.peek_some (by rw [FS.setBuf_find]; exact hf)]
      simp [FS.setBuf, hji]

lemma BufInv.setBuf_touched (hi : BufInv s prot own R X) (hm : i ∈ R) :
    Touched s (s.setBuf i nd) (R.filter (· ≠ i)) (· = s.buf.blk i) where
  rest := ⟨rfl, rfl, rfl, rfl, rfl, rfl, rfl⟩
  peek b hb := by rw [hi.setBuf_peek hm, if_neg hb]
  readable b t _ hr := hr
  held j hj := by
    have h : j ≠ i := by simpa using (List.mem_filter.1 hj).2
    exact ⟨rfl, rfl, id, by simp [FS.setBuf, h]⟩

/-! ## Renumbering and discarding -/

/-- The state `s'` differs from `s` in the head of the buffer `i`, which now says block `v`, and in
the order of use. -/
structure Renumbered (s s' : FS) (i v : ℕ) : Prop where
  rest : s'.core = s.core ∧ s'.vol = s.vol ∧ s'.now = s.now ∧ s'.disk = s.disk ∧
    s'.history = s.history ∧ s'.ulDevBlocks = s.ulDevBlocks ∧ s'.bSectorSizeP2 = s.bSectorSizeP2
  head : ∀ j, j ≠ i → s'.buf.aHead j = s.buf.aHead j
  blk : s'.buf.blk i = v
  content : s'.buf.pbBlkBuf = s.buf.pbBlkBuf
  perm : s'.buf.abMRU.Perm s.buf.abMRU

lemma Renumbered.blk_of_ne {v j : ℕ} (h : Renumbered s s' i v) (hj : j ≠ i) :
    s'.buf.blk j = s.buf.blk j := by simp only [BufCtx.blk, h.head j hj]

lemma Renumbered.okFor {v : ℕ} (h : Renumbered s s' i v) (t : BufType) (d : DiskBlock) :
    s'.okFor t d = s.okFor t d := by
  simp only [FS.okFor, h.rest.2.1]

lemma Renumbered.find_of_ne {v : ℕ} (h : Renumbered s s' i v)
    (hb : b ≠ s.buf.blk i) (hv : b ≠ v) : s'.buf.find b = s.buf.find b :=
  BufCtx.find_congr fun j _ => by
    by_cases hj : j = i
    · subst hj
      rw [h.blk]
      exact ⟨fun h' => absurd h'.symm hv, fun h' => absurd h'.symm hb⟩
    · rw [h.blk_of_ne hj]

lemma Renumbered.find_old {v : ℕ} (h : Renumbered s s' i v) (hu : s.buf.Unique)
    (hlt : i < bufferCount) (hv : v ≠ s.buf.blk i) : s'.buf.find (s.buf.blk i) = none := by
  by_cases hb : s.buf.blk i = BBLK_INVALID
  · rw [hb, BufCtx.find_invalid]
  · rw [BufCtx.find_eq_none_iff hb]
    intro j hj
    by_cases hji : j = i
    · rw [hji, h.blk]; exact hv
    · rw [h.blk_of_ne hji]
      exact fun h' => hji (hu j i hj hlt h' (h' ▸ hb))

lemma Renumbered.unique {v : ℕ} (h : Renumbered s s' i v) (hu : s.buf.Unique)
    (hv : v = BBLK_INVALID ∨ s.buf.find v = none) : s'.buf.Unique := by
  intro j k hj hk hjk hne
  by_cases h1 : j = i <;> by_cases h2 : k = i
  · rw [h1, h2]
  · rw [h1, h.blk, h.blk_of_ne h2] at hjk
    rw [h1, h.blk] at hne
    exact absurd hjk.symm ((BufCtx.find_eq_none_iff hne).1 (hv.resolve_left hne) k hk)
  · rw [h2, h.blk, h.blk_of_ne h1] at hjk
    rw [h.blk_of_ne h1, hjk] at hne
    exact absurd hjk ((BufCtx.find_eq_none_iff hne).1 (hv.resolve_left hne) j hj)
  · rw [h.blk_of_ne h1, h.blk_of_ne h2] at hjk
    rw [h.blk_of_ne h1] at hne
    exact hu j k hj hk hjk hne

lemma Renumbered.touched {v : ℕ} (h : Renumbered s s' i v) (hi : BufInv s prot own R X)
    (hlt : i < bufferCount) (hv : v ≠ s.buf.blk i) {D : ℕ → Prop} (hDv : v ≠ BBLK_INVALID → D v)
    (hD : D (s.buf.blk i) ∨ (s.buf.blk i ≠ BBLK_INVALID → (s.buf.aHead i).fDirty = false ∧ ¬ X i)) :
    Touched s s' (R.filter (· ≠ i)) D where
  rest := h.rest
  peek b hb := by
    by_cases h1 : b = s.buf.blk i
    · subst h1
      by_cases hbv : s.buf.blk i = BBLK_INVALID
      · rw [hbv, FS.peek_none (by simp), FS.peek_none (by simp), h.rest.2.2.2.1]
      · have := (hD.resolve_left hb) hbv
        rw [FS.peek_none (h.find_old hi.unique hlt hv), h.rest.2.2.2.1,
          FS.peek_some ((BufCtx.find_eq_some_iff hi.unique).2 ⟨hlt, rfl, hbv⟩),
          (hi.clean i hlt hbv this.1 this.2).2]
    · by_cases h2 : b = v
      · subst h2
        by_cases hbv : b = BBLK_INVALID
        · rw [hbv, FS.peek_none (by simp), FS.peek_none (by simp), h.rest.2.2.2.1]
        · exact absurd (hDv hbv) hb
      · have hf := h.find_of_ne h1 h2
        rcases hf' : s.buf.find b with _ | j
        · rw [FS.peek_none hf', FS.peek_none (hf.trans hf'), h.rest.2.2.2.1]
        · rw [FS.peek_some hf', FS.peek_some (hf.trans hf'), h.content]
  readable b t hb hr := by
    by_cases h1 : b = s.buf.blk i
    · subst h1
      by_cases hbv : s.buf.blk i = BBLK_INVALID
      · rw [hbv, FS.readable_none (by simp)] at hr ⊢
        rw [h.okFor, h.rest.2.2.2.1]
        exact hr
      · have := (hD.resolve_left hb) hbv
        rw [FS.readable_some ((BufCtx.find_eq_some_iff hi.unique).2 ⟨hlt, rfl, hbv⟩)] at hr
        rw [FS.readable_none (h.find_old hi.unique hlt hv), h.okFor, h.rest.2.2.2.1, ← hr]
        exact (hi.clean i hlt hbv this.1 this.2).1
    · by_cases h2 : b = v
      · subst h2
        by_cases hbv : b = BBLK_INVALID
        · rw [hbv, FS.readable_none (by simp)] at hr ⊢
          rw [h.okFor, h.rest.2.2.2.1]
          exact hr
        · exact absurd (hDv hbv) hb
      · have hf := h.find_of_ne h1 h2
        rcases hf' : s.buf.find b with _ | j
        · rw [FS.readable_none hf'] at hr
          rw [FS.readable_none (hf.trans hf'), h.okFor, h.rest.2.2.2.1]
          exact hr
        · have hji : j ≠ i := by
            rintro rfl
            exact h1 (BufCtx.find_some hf').2.1.symm
          rw [FS.readable_some hf'] at hr
          rw [FS.readable_some (hf.trans hf'), h.head j hji]
          exact hr
  held j hj := by
    have hji : j ≠ i := by simpa using (List.mem_filter.1 hj).2
    exact ⟨h.blk_of_ne hji, by rw [h.head j hji], fun hd => by rw [h.head j hji, hd], by
      rw [h.content]⟩

/-- The invariant after renumbering a buffer, when the references and the new head are right. -/
lemma Renumbered.inv {v : ℕ} {X' : ℕ → Prop} (h : Renumbered s s' i v) (hi : BufInv s prot own R X)
    (hlt : i < bufferCount) (hv : v = BBLK_INVALID ∨ s.buf.find v = none)
    (hrefs : (s'.buf.aHead i).bRefCount = R'.count i)
    (hcount : ∀ j, j ≠ i → R'.count j = R.count j)
    (hheld : i ∈ R' → v ≠ BBLK_INVALID) (hused : s'.buf.uNumUsed = R'.toFinset.card)
    (hhead : v ≠ BBLK_INVALID → v < s.vol.ulBlockCount ∧ ¬ prot v ∧ (s'.buf.aHead i).fDirty = true ∧
      ((s'.buf.aHead i).type = .data → (s.buf.pbBlkBuf i).isBytes = true) ∧ own v)
    (hX : ∀ j, j ≠ i → (X j ↔ X' j)) (hXi : X' i → i ∈ R') : BufInv s' prot own R' X' := by
  have hmem : ∀ j, j ≠ i → (j ∈ R' ↔ j ∈ R) := fun j hj => by
    rw [← List.count_pos_iff, ← List.count_pos_iff, hcount j hj]
  refine ⟨by rw [h.rest.2.1]; exact hi.count_le, h.perm.trans hi.perm, h.unique hi.unique hv,
    fun j hj => ?_, fun j hj => ?_, fun j hj => ?_, hused, fun j hj hvj => ?_,
      fun j hj hvj ht => ?_,
    fun j hj hvj hc hx => ?_, fun j hj hvj hc => ?_, fun j hx => ?_, fun j hj hvj => ?_⟩
  all_goals by_cases hji : j = i
  · rw [hji, hrefs]
  · rw [h.head j hji, hcount j hji, hi.refs j hj]
  · rw [hji]; exact hlt
  · exact hi.refs_lt j ((hmem j hji).1 hj)
  · rw [hji, h.blk]; exact hheld (hji ▸ hj)
  · rw [h.blk_of_ne hji]; exact hi.held j ((hmem j hji).1 hj)
  · subst hji
    rw [h.blk] at hvj ⊢
    rw [h.rest.2.1]; exact (hhead hvj).1
  · rw [h.blk_of_ne hji] at hvj ⊢
    rw [h.rest.2.1]; exact hi.lt j hj hvj
  · subst hji
    rw [h.blk] at hvj
    rw [h.content]
    exact (hhead hvj).2.2.2.1 ht
  · rw [h.blk_of_ne hji] at hvj
    rw [h.head j hji] at ht
    rw [h.content]
    exact hi.bytes j hj hvj ht
  · subst hji
    rw [h.blk] at hvj
    rw [(hhead hvj).2.2.1] at hc
    cases hc
  · rw [h.blk_of_ne hji] at hvj ⊢
    rw [h.head j hji] at hc ⊢
    rw [h.okFor, h.content, h.rest.2.2.2.1]
    exact hi.clean j hj hvj hc fun hx' => hx ((hX j hji).1 hx')
  · subst hji
    rw [h.blk] at hvj ⊢
    exact (hhead hvj).2.1
  · rw [h.blk_of_ne hji] at hvj ⊢
    rw [h.head j hji] at hc
    exact hi.dirty j hj hvj hc
  · subst hji; exact hXi hx
  · exact (hmem j hji).2 (hi.exempt j ((hX j hji).2 hx))
  · subst hji
    rw [h.blk] at hvj ⊢
    exact (hhead hvj).2.2.2.2
  · rw [h.blk_of_ne hji] at hvj ⊢
    exact hi.owned j hj hvj

/-- **Branching a clean buffer** gives its contents to a block that is not buffered, and leaves the
old block as the device has it. -/
theorem redBufferBranch_ok (hi : BufInv s prot own R X) (hm : i ∈ R) (hb : b < s.vol.ulBlockCount)
    (hf : s.buf.find b = none) (hp : ¬ prot b) (hc : (s.buf.aHead i).fDirty = false)
    (hx : ¬ X i) (hown : own b) :
    (redBufferBranch i b).Ok s fun _ s' => Touched s s' (R.filter (· ≠ i)) (· = b) ∧
      BufInv s' prot own R X ∧ s'.buf.blk i = b ∧ (s'.buf.aHead i).type = (s.buf.aHead i).type ∧
      s'.buf.pbBlkBuf i = s.buf.pbBlkBuf i ∧ (s'.buf.aHead i).fDirty = true := by
  unfold redBufferBranch
  refine Op.Ok.modify ?_
  rw [if_pos ⟨hi.bufferToIdx hm, hb⟩]
  obtain ⟨hlt, hv, -⟩ := hi.mem_lt hm
  have hbv := hi.valid_ne hb
  have hne : b ≠ s.buf.blk i := fun h => (BufCtx.find_eq_none_iff hbv).1 hf i hlt h.symm
  have hr : Renumbered s (s.setHead i fun h => { h with fDirty := true, ulBlock := b }) i b :=
    ⟨⟨rfl, rfl, rfl, rfl, rfl, rfl, rfl⟩, fun j hj => by simp [FS.setHead, hj],
      by simp [FS.setHead, BufCtx.blk], rfl, .refl _⟩
  refine ⟨hr.touched hi hlt hne (fun _ => rfl) (.inr fun _ => ⟨hc, hx⟩),
    hr.inv hi hlt (.inr hf) ?_ (fun _ _ => rfl) (fun _ => hbv) hi.used
    (fun _ => ⟨hb, hp, ?_, ?_, hown⟩)
      (fun _ _ => Iff.rfl) fun h => absurd h hx, hr.blk, ?_, rfl, ?_⟩
  · simp [FS.setHead, hi.refs i hlt]
  · simp [FS.setHead]
  · intro ht
    exact hi.bytes i hlt hv (by simpa [FS.setHead] using ht)
  · simp [FS.setHead]
  · simp [FS.setHead]

end

end RelianceEdge
