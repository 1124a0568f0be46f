import RelianceEdge.Pool.Release

set_option relaxedAutoImplicit false
set_option autoImplicit false
set_option linter.unusedSectionVars false

/-!
# Ranges of blocks in the pool

Flushing, discarding, reading and writing a range of blocks of the current volume.

## Main results

* `PoolInv.redBufferFlushRange_post` — after a flush that succeeds the device has the arrays.
* `PoolInv.redBufferDiscardRange_post`, `PoolInv.redBufferReadRange_post`,
  `PoolInv.redBufferWriteRange_post`.
-/

namespace RelianceEdge

variable [RedConf] [PoolConf]

open RedConf PoolConf

/-- The block `b` of the volume `v` is in a range of the volume `v'`. -/
def OnRange (v' m n v b : ℕ) : Prop := v = v' ∧ m ≤ b ∧ b < m + n

lemma Arrays.setRange_in {v' m n v b : ℕ} (a : Arrays) (c : ℕ → Option Cell)
    (h : OnRange v' m n v b) : a.setRange v' m n c v b = c (b - m) := if_pos h

lemma Arrays.setRange_out {v' m n v b : ℕ} (a : Arrays) (c : ℕ → Option Cell)
    (h : ¬ OnRange v' m n v b) : a.setRange v' m n c v b = a v b := if_neg h

section

variable {s s' : Pool} {a : Arrays} {i v b m n : ℕ} {P : ℕ → Prop}

lemma Pool.headIsIn_iff : Pool.headIsIn (s.aHead i) v m n = true ↔
    (s.aHead i).ulBlock ≠ BBLK_INVALID ∧
      OnRange v m n (s.aHead i).bVolNum (s.aHead i).ulBlock := by
  unfold Pool.headIsIn OnRange
  rw [Bool.and_eq_true, Bool.and_eq_true, Bool.and_eq_true, beq_iff_eq, bne_iff_ne,
    decide_eq_true_eq, decide_eq_true_eq]
  tauto

lemma Pool.Holds.headIsIn (h : s.Holds i v b) (hr : OnRange v m n v b) :
    Pool.headIsIn (s.aHead i) v m n = true := by
  rw [Pool.headIsIn_iff, h.2.1, h.2.2.1]
  exact ⟨h.2.2.2, hr⟩

lemma Pool.setDisk_keeps (s : Pool) (blocks : ℕ → RawBlock) :
    s.KeepsHeads P (s.setDisk v m n blocks) := ⟨rfl, fun _ => rfl, fun _ _ => ⟨rfl, rfl, rfl⟩⟩

/-! ## Flushing -/

/-- From `s` to `s'` the heads have become clean at most. -/
structure Pool.Flushing (s s' : Pool) : Prop where
  cur : s'.gbRedVolNum = s.gbRedVolNum
  count : ∀ v, (s'.gaRedVolume v).ulBlockCount = (s.gaRedVolume v).ulBlockCount
  head : ∀ j, s'.aHead j = { s.aHead j with fDirty := (s'.aHead j).fDirty }
  dirty : ∀ j, (s.aHead j).fDirty = false → (s'.aHead j).fDirty = false

namespace Pool.Flushing

lemma refl (s : Pool) : s.Flushing s := ⟨rfl, fun _ => rfl, fun _ => rfl, fun _ h => h⟩

lemma trans {s'' : Pool} (h : s.Flushing s') (h' : s'.Flushing s'') : s.Flushing s'' :=
  ⟨h'.cur.trans h.cur, fun v => (h'.count v).trans (h.count v), fun j => by
    rw [h'.head j, h.head j], fun j hj => h'.dirty j (h.dirty j hj)⟩

lemma keeps (h : s.Flushing s') : s.KeepsHeads P s' :=
  ⟨h.cur, h.count, fun j _ => by rw [h.head j]; exact ⟨rfl, rfl, rfl⟩⟩

lemma holds (h : s.Flushing s') : s'.Holds i v b ↔ s.Holds i v b := by
  rw [Pool.Holds, h.head i, Pool.Holds]

end Pool.Flushing

/-- A head that is no longer dirty. -/
def Pool.cleanHead (h : PoolHead) : PoolHead := { h with fDirty := false }

namespace PoolInv

/-- A buffer that was written out becomes clean. -/
lemma clean_head (hi : PoolInv s a) (hh : s.Holds i v b)
    (hdev : ∀ c, a v b = some c → c.Agrees (s.disk v b)) :
    PoolInv (s.setHead i Pool.cleanHead) a := by
  have hst : (s.setHead i Pool.cleanHead).stored i = s.stored i := by
    rw [Pool.stored, Pool.setHead_same]
    rfl
  have hset : a.set v b (a v b) = a := by
    funext w x
    unfold Arrays.set
    split_ifs with h
    · rw [h.1, h.2]
    · rfl
  have hm := hi.toPoolMatch.rehead hh (f := Pool.cleanHead) (a v b)
    hh.2.1 hh.2.2.1 fun c hc => by
      rw [hst, Pool.setHead_same]
      exact ⟨hi.agrees i v b c hh hc, fun _ => hdev c hc, fun h => by cases h⟩
  rw [hset] at hm
  exact hi.setHead hm rfl fun _ => by
    rw [Pool.cleanHead, hh.2.2.1]
    exact hh.2.2.2

/-- The loop of a flush: the invariant is that the buffers of the range it has passed are clean. -/
lemma bufferFlushLoop_post (hi : PoolInv s a) (l : List ℕ) (hl : ∀ i ∈ l, i < bufferCount) :
    (Pool.bufferFlushLoop m n l).Post s fun r s' => PoolInv s' a ∧ s.Flushing s' ∧
      (r = .ok () → ∀ i ∈ l, Pool.headIsIn (s.aHead i) s.gbRedVolNum m n = true →
        (s'.aHead i).fDirty = false) := by
  induction l generalizing s with
  | nil => exact ⟨hi, .refl s, fun _ i hm => by cases hm⟩
  | cons i l ih =>
    have hlt : i < bufferCount := hl i (List.mem_cons_self ..)
    have hl' : ∀ j ∈ l, j < bufferCount := fun j hj => hl j (List.mem_cons_of_mem i hj)
    unfold Pool.bufferFlushLoop
    refine Op.Post.get_bind (Op.Post.bind (Q := fun r s' => PoolInv s' a ∧ s.Flushing s' ∧
      (r = .ok () → Pool.headIsIn (s.aHead i) s.gbRedVolNum m n = true →
        (s'.aHead i).fDirty = false)) (Op.Post.when (fun hc => ?_) fun hc => ?_) ?_ ?_)
    · rw [Bool.and_eq_true] at hc
      have hh : s.Holds i (s.aHead i).bVolNum (s.aHead i).ulBlock :=
        ⟨hlt, rfl, rfl, (Pool.headIsIn_iff.1 hc.1).1⟩
      refine Op.Post.bind (hi.bufferWrite_post hh) (fun _ s1 hw => ?_) fun e s1 hw => ?_
      · obtain ⟨hi1, hdev⟩ := hi.wroteOut hh hc.2 hw
        have hhead : s1.aHead = s.aHead := by rw [hw.rest]
        have hh1 : s1.Holds i (s.aHead i).bVolNum (s.aHead i).ulBlock := by
          rw [Pool.Holds, hhead]
          exact hh
        refine ⟨hi1.clean_head hh1 (hdev rfl), ⟨hw.keeps (P := fun _ => True) |>.cur, hw.count,
          fun j => ?_, fun j hj => ?_⟩, fun _ _ => ?_⟩
        · change (s1.setHead i Pool.cleanHead).aHead j =
            { s.aHead j with fDirty := ((s1.setHead i Pool.cleanHead).aHead j).fDirty }
          by_cases hj : j = i
          · rw [hj, Pool.setHead_same, Pool.cleanHead, hhead]
          · rw [Pool.setHead_ne s1 _ hj, hhead]
        · change ((s1.setHead i Pool.cleanHead).aHead j).fDirty = _
          by_cases hji : j = i
          · rw [hji, Pool.setHead_same, Pool.cleanHead]
          · rw [Pool.setHead_ne s1 _ hji, hhead]
            exact hj
        · change ((s1.setHead i Pool.cleanHead).aHead i).fDirty = _
          rw [Pool.setHead_same, Pool.cleanHead]
      · have hhead : s1.aHead = s.aHead := by rw [hw.rest]
        exact ⟨(hi.wroteOut hh hc.2 hw).1, ⟨hw.keeps (P := fun _ => True) |>.cur, hw.count,
          fun j => by rw [hhead], fun j hj => by rwa [hhead]⟩, (by simp)⟩
    · refine ⟨hi, .refl s, fun _ hin => ?_⟩
      rw [hin, Bool.true_and] at hc
      simpa using hc
    · rintro _ s1 ⟨hi1, hf1, hd1⟩
      refine Op.Post.mono (ih hi1 hl') fun r s2 h2 => ?_
      obtain ⟨hi2, hf2, hd2⟩ := h2
      refine ⟨hi2, hf1.trans hf2, fun hr j hj hin => ?_⟩
      rcases List.mem_cons.1 hj with rfl | hj
      · exact hf2.dirty j (hd1 rfl hin)
      · refine hd2 hr j hj ?_
        rw [hf1.cur, hf1.head j]
        exact hin
    · rintro e s1 ⟨hi1, hf1, -⟩
      exact ⟨hi1, hf1, (by simp)⟩

/-- `RedBufferFlushRange()`: after a flush that succeeds the device has the blocks of the range. -/
lemma redBufferFlushRange_post (hi : PoolInv s a) :
    (Pool.redBufferFlushRange m n).Post s fun r s' => PoolInv s' a ∧ s.Flushing s' ∧
      (r = .ok () → ∀ b c, m ≤ b → b < m + n → a s.gbRedVolNum b = some c →
        c.Agrees (s'.disk s.gbRedVolNum b)) := by
  unfold Pool.redBufferFlushRange
  refine Op.Post.get_bind ?_
  split_ifs with hr
  · refine Op.Post.mono (hi.bufferFlushLoop_post (List.range bufferCount)
      fun i hm => List.mem_range.1 hm) fun r s' h => ?_
    obtain ⟨hi', hf, hd⟩ := h
    refine ⟨hi', hf, fun hok b c h1 h2 hc => ?_⟩
    by_cases hh : ∃ i, s'.Holds i s.gbRedVolNum b
    · obtain ⟨i, hh⟩ := hh
      have hs := hf.holds.1 hh
      exact hi'.clean i _ b c hh (hd hok i (List.mem_range.2 hh.1)
        (hs.headIsIn ⟨rfl, h1, h2⟩)) hc
    · exact hi'.device _ b c (fun i hi => hh ⟨i, hi⟩) hc
  · exact ⟨hi, .refl s, (by simp)⟩

end PoolInv

/-! ## Discarding -/

/-- From `s` to `s'` unreferenced buffers have left their blocks at most. -/
structure Pool.Discarding (s s' : Pool) : Prop where
  cur : s'.gbRedVolNum = s.gbRedVolNum
  count : ∀ v, (s'.gaRedVolume v).ulBlockCount = (s.gaRedVolume v).ulBlockCount
  disk : s'.disk = s.disk
  head : ∀ j, s'.aHead j = s.aHead j ∨
    ((s.aHead j).bRefCount = 0 ∧ s'.aHead j = PoolMatch.detachHead (s.aHead j))

namespace Pool.Discarding

lemma refl (s : Pool) : s.Discarding s := ⟨rfl, fun _ => rfl, rfl, fun _ => .inl rfl⟩

lemma trans {s'' : Pool} (h : s.Discarding s') (h' : s'.Discarding s'') : s.Discarding s'' := by
  refine ⟨h'.cur.trans h.cur, fun v => (h'.count v).trans (h.count v), h'.disk.trans h.disk,
    fun j => ?_⟩
  rcases h.head j with h1 | ⟨h1, h2⟩ <;> rcases h'.head j with h3 | ⟨h3, h4⟩
  · exact .inl (h3.trans h1)
  · rw [h1] at h3 h4
    exact .inr ⟨h3, h4⟩
  · exact .inr ⟨h1, h3.trans h2⟩
  · exact .inr ⟨h1, by rw [h4, h2]; rfl⟩

lemma keeps (h : s.Discarding s') : s.KeepsHeads (fun j => (s.aHead j).bRefCount ≠ 0) s' :=
  ⟨h.cur, h.count, fun j hj => by
    rcases h.head j with h1 | ⟨h1, -⟩
    · rw [h1]
      exact ⟨rfl, rfl, rfl⟩
    · exact absurd h1 hj⟩

lemma refs (h : s.Discarding s') (j : ℕ) : (s'.aHead j).bRefCount = (s.aHead j).bRefCount := by
  rcases h.head j with h1 | ⟨-, h1⟩ <;> rw [h1]
  rfl

/-- A buffer that still holds a block has the head it had. -/
lemma holds (h : s.Discarding s') {j : ℕ} (hh : s'.Holds j v b) :
    s.Holds j v b ∧ s'.aHead j = s.aHead j := by
  rcases h.head j with h1 | ⟨-, h1⟩
  · rw [Pool.Holds, h1] at hh
    exact ⟨hh, h1⟩
  · obtain ⟨-, -, h2, h3⟩ := hh
    rw [h1] at h2
    exact absurd h2.symm h3

end Pool.Discarding

/-- Nothing is known of the blocks of the range whose contents a discard may lose. -/
def Arrays.Forgets (a : Arrays) (s : Pool) (m n : ℕ) : Prop :=
  ∀ i v b, s.Holds i v b → OnRange s.gbRedVolNum m n v b → (s.aHead i).bRefCount = 0 →
    (s.aHead i).fDirty = true → a v b = none

/-- The arrays after a discard: the blocks of the range with a dirty unreferenced buffer are
lost. -/
noncomputable def Arrays.forget (a : Arrays) (s : Pool) (m n : ℕ) : Arrays := fun v b =>
  open Classical in
  if OnRange s.gbRedVolNum m n v b ∧
      ∃ i, s.Holds i v b ∧ (s.aHead i).bRefCount = 0 ∧ (s.aHead i).fDirty = true then none
  else a v b

lemma Arrays.forget_forgets (a : Arrays) (s : Pool) (m n : ℕ) : (a.forget s m n).Forgets s m n :=
  fun i v b hh hr h0 hd => by
    unfold forget
    rw [if_pos ⟨hr, i, hh, h0, hd⟩]

lemma Arrays.forget_le {c : Cell} (h : a.forget s m n v b = some c) : a v b = some c := by
  unfold forget at h
  split_ifs at h
  exact h

namespace PoolInv

/-- The loop of a discard. -/
lemma bufferDiscardLoop_post (hi : PoolInv s a) (ha : a.Forgets s m n) (l : List ℕ) :
    (Pool.bufferDiscardLoop m n l).Post s fun r s' => PoolInv s' a ∧ s.Discarding s' ∧
      (r = .ok () → ∀ i ∈ l, Pool.headIsIn (s.aHead i) s.gbRedVolNum m n = true →
        (s'.aHead i).ulBlock = BBLK_INVALID) ∧
      ((∀ i ∈ l, Pool.headIsIn (s.aHead i) s.gbRedVolNum m n = true →
        (s.aHead i).bRefCount = 0) → r = .ok ()) := by
  induction l generalizing s with
  | nil => exact ⟨hi, .refl s, fun _ i hm => (by cases hm), fun _ => rfl⟩
  | cons i l ih =>
    unfold Pool.bufferDiscardLoop
    refine Op.Post.get_bind (Op.Post.bind (Q := fun r s' => PoolInv s' a ∧ s.Discarding s' ∧
      (r = .ok () → Pool.headIsIn (s.aHead i) s.gbRedVolNum m n = true →
        (s'.aHead i).ulBlock = BBLK_INVALID) ∧
      ((Pool.headIsIn (s.aHead i) s.gbRedVolNum m n = true → (s.aHead i).bRefCount = 0) →
        r = .ok ())) (Op.Post.when (fun hin => ?_) fun hin => ?_) ?_ ?_)
    · split_ifs with h0
      · have hm : PoolMatch (s.setHead i PoolMatch.detachHead) a :=
          hi.toPoolMatch.detach rfl fun w x c hh hc => by
            by_cases hd : (s.aHead i).fDirty = true
            · obtain ⟨-, hr⟩ := Pool.headIsIn_iff.1 hin
              rw [hh.2.1, hh.2.2.1] at hr
              rw [ha i w x hh hr h0 hd] at hc
              cases hc
            · exact hi.clean i w x c hh (by simpa using hd) hc
        have hi1 := hi.setHead hm rfl fun h => absurd h0 h
        refine ⟨?_, ⟨rfl, fun _ => rfl, rfl, fun j => ?_⟩, fun _ _ => ?_, fun _ => rfl⟩
        · exact ⟨hi1.toPoolMatch.books rfl fun _ => rfl, hi1.count_le, hi1.cur,
            (Pool.perm_makeLRU _ _).trans hi1.perm, hi1.used, hi1.refs_lt, hi1.held⟩
        · change (s.setHead i PoolMatch.detachHead).aHead j = _ ∨
            _ ∧ (s.setHead i PoolMatch.detachHead).aHead j = _
          by_cases hj : j = i
          · rw [hj, Pool.setHead_same]
            exact .inr ⟨h0, rfl⟩
          · rw [Pool.setHead_ne s _ hj]
            exact .inl rfl
        · change ((s.setHead i PoolMatch.detachHead).aHead i).ulBlock = _
          rw [Pool.setHead_same]
          rfl
      · have hq := Pool.criticalError_quiet s
        refine Pool.criticalError_fail ⟨hi.quiet hq, ⟨hq.cur, hq.count, hq.disk, fun j => ?_⟩,
          (by simp),
          fun h => absurd (h hin) h0⟩
        rw [hq.aHead]
        exact .inl rfl
    · exact ⟨hi, .refl s, fun _ h => absurd h hin, fun _ => rfl⟩
    · rintro _ s1 ⟨hi1, hd1, hoff1, -⟩
      have ha1 : a.Forgets s1 m n := fun j w x hh hr h0 hd => by
        obtain ⟨hs, heq⟩ := hd1.holds hh
        rw [heq] at h0 hd
        rw [hd1.cur] at hr
        exact ha j w x hs hr h0 hd
      refine Op.Post.mono (ih hi1 ha1) fun r s2 h2 => ?_
      obtain ⟨hi2, hd2, hoff2, hok2⟩ := h2
      refine ⟨hi2, hd1.trans hd2, fun hr j hj hin => ?_, fun hall => hok2 fun j hj hin => ?_⟩
      · have hoff : (s1.aHead j).ulBlock = BBLK_INVALID → (s2.aHead j).ulBlock = BBLK_INVALID :=
          fun h => by
            rcases hd2.head j with h3 | ⟨-, h3⟩
            · rw [h3, h]
            · rw [h3]
              rfl
        rcases hd1.head j with h1 | ⟨-, h1⟩
        · rcases List.mem_cons.1 hj with rfl | hj
          · exact hoff (hoff1 rfl hin)
          · refine hoff2 hr j hj ?_
            rw [h1, hd1.cur]
            exact hin
        · exact hoff (by rw [h1]; rfl)
      · rw [hd1.refs]
        rcases hd1.head j with h1 | ⟨h0, -⟩
        · rw [h1, hd1.cur] at hin
          exact hall j (List.mem_cons_of_mem i hj) hin
        · exact h0
    · rintro e s1 ⟨hi1, hd1, -, hok1⟩
      refine ⟨hi1, hd1, (by simp), fun hall => ?_⟩
      cases hok1 (hall i (List.mem_cons_self ..))

/-- `RedBufferDiscardRange()`. -/
lemma redBufferDiscardRange_post (hi : PoolInv s a) (ha : a.Forgets s m n) :
    (Pool.redBufferDiscardRange m n).Post s fun r s' => PoolInv s' a ∧ s.Discarding s' ∧
      (r = .ok () → ∀ i b, m ≤ b → b < m + n → ¬ s'.Holds i s.gbRedVolNum b) ∧
      (s.blockRangeIsValid s.gbRedVolNum m n = true → (∀ i b, s.Holds i s.gbRedVolNum b →
        m ≤ b → b < m + n → (s.aHead i).bRefCount = 0) → r = .ok ()) := by
  unfold Pool.redBufferDiscardRange
  refine Op.Post.get_bind ?_
  split_ifs with hr
  · refine Op.Post.mono (hi.bufferDiscardLoop_post ha (List.range bufferCount)) fun r s' h => ?_
    obtain ⟨hi', hd, hoff, hok⟩ := h
    refine ⟨hi', hd, fun hr i b h1 h2 hh => ?_, fun _ hall => hok fun i hm hin => ?_⟩
    · obtain ⟨hs, -⟩ := hd.holds hh
      exact hh.2.2.2 (hh.2.2.1.symm.trans
        (hoff hr i (List.mem_range.2 hh.1) (hs.headIsIn ⟨rfl, h1, h2⟩)))
    · obtain ⟨hv, hw, h1, h2⟩ := Pool.headIsIn_iff.1 hin
      exact hall i _ ⟨List.mem_range.1 hm, hw, rfl, hv⟩ h1 h2
  · exact ⟨hi, .refl s, (by simp), fun h => absurd h hr⟩

/-- `RedBufferReadRange()`: the caller gets the blocks of the array. -/
lemma redBufferReadRange_post (hi : PoolInv s a) :
    (Pool.redBufferReadRange m n).Post s fun r s' => PoolInv s' a ∧ s.KeepsHeads P s' ∧
      ∀ blocks, r = .ok blocks → ∀ k c, k < n → a s.gbRedVolNum (m + k) = some c →
        c.Agrees (blocks k) := by
  unfold Pool.redBufferReadRange
  refine Op.Post.get_bind ?_
  split_ifs with hr
  · refine Op.Post.bind hi.redBufferFlushRange_post (fun _ s1 h1 => ?_) fun e s1 h1 =>
      ⟨h1.1, h1.2.1.keeps, (by simp)⟩
    obtain ⟨hi1, hf1, hdev⟩ := h1
    have hr1 : s1.blockRangeIsValid s.gbRedVolNum m n = true := by
      rw [Pool.blockRangeIsValid_iff, hf1.count] at *
      exact hr
    refine Op.Ok.bind_post (Pool.redIoRead_ok hi.cur hr1) ?_
    rintro ⟨ret, blocks⟩ s2 ⟨hq, hread⟩
    have hi2 := hi1.quiet hq
    have hk2 : s.KeepsHeads P s2 := hf1.keeps.trans hq.keeps
    rcases hread with ⟨hret, hblocks⟩ | ⟨garbage, hret⟩
    · dsimp only at hret hblocks ⊢
      subst hret hblocks
      refine ⟨hi2, hk2, fun blocks hb k c hk hc => ?_⟩
      cases hb
      exact hdev rfl (m + k) c (Nat.le_add_right m k) (Nat.add_lt_add_left hk m) hc
    · cases hret
      exact ⟨hi2, hk2, fun blocks h => by cases h⟩
  · exact ⟨hi, .refl P s, (by simp)⟩

/-- New contents of the blocks of a range of which nothing is known. -/
lemma setDisk (hi : PoolInv s a) (blocks : ℕ → RawBlock)
    (ha : ∀ b, OnRange v m n v b → a v b = none) : PoolInv (s.setDisk v m n blocks) a := by
  have hdisk {w x : ℕ} {c : Cell} (hc : a w x = some c) :
      (s.setDisk v m n blocks).disk w x = s.disk w x := by
    refine if_neg fun h => ?_
    obtain ⟨rfl, h1⟩ := h
    rw [ha x ⟨rfl, h1⟩] at hc
    cases hc
  exact { hi with
    clean := fun j w x c hh hd hc => by
      rw [hdisk hc]
      exact hi.clean j w x c hh hd hc
    device := fun w x c hn hc => by
      rw [hdisk hc]
      exact hi.device w x c hn hc }

/-- `RedBufferWriteRange()` to blocks that are not referenced: after a write that fails on the
device, nothing is known of the blocks. -/
lemma redBufferWriteRange_post (hi : PoolInv s a) {blocks : ℕ → RawBlock}
    (hrefs : ∀ i b, s.Holds i s.gbRedVolNum b → m ≤ b → b < m + n → (s.aHead i).bRefCount = 0) :
    (Pool.redBufferWriteRange m n blocks).Post s fun r s' =>
      s.KeepsHeads (fun j => (s.aHead j).bRefCount ≠ 0) s' ∧
      (r = .ok () → PoolInv s'
        (a.setRange s.gbRedVolNum m n fun k => some ((blocks k).cell .data))) ∧
      (∀ e, r = .error e → PoolInv s' (a.setRange s.gbRedVolNum m n fun _ => none) ∧
        (s.blockRangeIsValid s.gbRedVolNum m n = false → PoolInv s' a)) := by
  have hle {w x : ℕ} {c : Cell} (hc : a.setRange s.gbRedVolNum m n (fun _ => none) w x = some c) :
      a w x = some c := by
    unfold Arrays.setRange at hc
    split_ifs at hc
    exact hc
  have hnone (b : ℕ) (h : OnRange s.gbRedVolNum m n s.gbRedVolNum b) :
      a.setRange s.gbRedVolNum m n (fun _ => none) s.gbRedVolNum b = none := a.setRange_in _ h
  have hi0 := hi.mono fun w x c hc => hle hc
  unfold Pool.redBufferWriteRange
  refine Op.Post.get_bind ?_
  split_ifs with hr
  · refine Op.Post.bind (Pool.redIoWrite_post hi.cur hr) ?_ ?_
    · rintro _ s1 (⟨-, hq⟩ | ⟨he, -⟩)
      · have hi1 := (hi0.setDisk blocks hnone).quiet hq
        have hk1 : s.KeepsHeads (fun j => (s.aHead j).bRefCount ≠ 0) s1 :=
          (s.setDisk_keeps blocks).trans hq.keeps
        have hhead : s1.aHead = s.aHead := hq.aHead
        have hholds {j w x : ℕ} (h : s1.Holds j w x) : s.Holds j w x := by
          rw [Pool.Holds, hhead] at h
          exact h
        have hf : (a.setRange s.gbRedVolNum m n fun _ => none).Forgets s1 m n :=
          fun j w x _ hin _ _ => by
            rw [hk1.cur] at hin
            obtain ⟨rfl, -⟩ := id hin
            exact hnone x hin
        refine Op.Post.mono (hi1.redBufferDiscardRange_post hf) fun r s2 h2 => ?_
        obtain ⟨hi2, hd2, hoff, hok⟩ := h2
        rw [hk1.cur] at hoff hok
        have hr1 : s1.blockRangeIsValid s.gbRedVolNum m n = true := by
          rw [Pool.blockRangeIsValid_iff, hk1.count, ← Pool.blockRangeIsValid_iff]
          exact hr
        have hrok : r = .ok () := hok hr1 fun j b hj h1 h2 => by
          rw [hhead]
          exact hrefs j b (hholds hj) h1 h2
        subst hrok
        refine ⟨hk1.trans ⟨hd2.cur, hd2.count, fun j hj => ?_⟩, fun _ => ?_, (by simp)⟩
        · exact hd2.keeps.head j (by rw [hhead]; exact hj)
        · have hcell {j w x : ℕ} {c : Cell} (hh : s2.Holds j w x)
              (hc : a.setRange s.gbRedVolNum m n (fun k => some ((blocks k).cell .data)) w x =
                some c) : a.setRange s.gbRedVolNum m n (fun _ => none) w x = some c := by
            have hin : ¬ OnRange s.gbRedVolNum m n w x := by
              rintro ⟨rfl, h1, h2⟩
              exact hoff rfl j x h1 h2 hh
            rw [a.setRange_out _ hin] at hc ⊢
            exact hc
          exact { hi2 with
            agrees := fun j w x c hh hc => hi2.agrees j w x c hh (hcell hh hc)
            clean := fun j w x c hh hd hc => hi2.clean j w x c hh hd (hcell hh hc)
            node := fun j w x c hh hd ht hc => hi2.node j w x c hh hd ht (hcell hh hc)
            device := fun w x c hn hc => by
              by_cases hin : OnRange s.gbRedVolNum m n w x
              · have hdisk : s2.disk w x = blocks (x - m) := by
                  rw [hd2.disk, hq.disk]
                  exact if_pos hin
                rw [a.setRange_in _ hin] at hc
                cases hc
                rw [hdisk]
                exact RawBlock.cell_agrees _ _
              · refine hi2.device w x c hn ?_
                rw [a.setRange_out _ hin] at hc ⊢
                exact hc }
      · cases he
    · rintro e s1 (⟨he, -⟩ | ⟨-, garbage, hq⟩)
      · cases he
      · refine ⟨(s.setDisk_keeps garbage).trans hq.keeps, (by simp), fun _ _ =>
          ⟨(hi0.setDisk garbage hnone).quiet hq, fun h => ?_⟩⟩
        rw [hr] at h
        cases h
  · exact ⟨.refl _ s, (by simp), fun _ _ => ⟨hi0, fun _ => hi⟩⟩

end PoolInv

end

end RelianceEdge
