import RelianceEdge.Pool.Ops

set_option relaxedAutoImplicit false
set_option autoImplicit false
set_option linter.unusedSectionVars false

/-!
# Buffers of the pool that are held

Releasing a buffer, marking it dirty, changing its contents, branching it to another block, and
discarding it.

## Main results

* `PoolInv.redBufferPut`, `PoolInv.redBufferDirty`, `PoolInv.redBufferBranch`,
  `PoolInv.redBufferDiscard` — the functions on a buffer that is held.
* `PoolInv.store` — its holder changes the contents of a dirty buffer.
-/

namespace RelianceEdge

variable [RedConf] [PoolConf]

open RedConf PoolConf

/-- The buffer `i` is referenced and belongs to the current volume. -/
def Pool.Held (s : Pool) (i : ℕ) : Prop :=
  s.bufferToIdx i = true ∧ (s.aHead i).bRefCount ≠ 0

section

variable {s : Pool} {a : Arrays} {i : ℕ} {P : ℕ → Prop}

namespace Pool.Held

lemma holds (h : s.Held i) : s.Holds i s.gbRedVolNum (s.aHead i).ulBlock := by
  have := h.1
  unfold bufferToIdx at this
  rw [Bool.and_eq_true, Bool.and_eq_true, decide_eq_true_eq, bne_iff_ne, beq_iff_eq] at this
  exact ⟨this.1.1, this.2, rfl, this.1.2⟩

end Pool.Held

namespace PoolInv

/-- `RedBufferPut()`. -/
lemma redBufferPut (hi : PoolInv s a) (hh : s.Held i) :
    (Pool.redBufferPut i).Ok s fun _ s' => PoolInv s' a ∧ s.KeepsHeads P s' := by
  have hlt := hh.holds.1
  have hr := hh.2
  have hr256 := hi.refs_lt i
  have hmod : ((s.aHead i).bRefCount + 255) % 256 = (s.aHead i).bRefCount - 1 := by omega
  let f : PoolHead → PoolHead := fun h => { h with bRefCount := (h.bRefCount + 255) % 256 }
  have hf : f (s.aHead i) = { s.aHead i with bRefCount := (s.aHead i).bRefCount - 1 } := by
    change PoolHead.mk _ _ _ _ _ = _
    rw [hmod]
  have hsame (s' : Pool) (hs' : s'.aHead = (s.setHead i f).aHead) (j : ℕ) :
      s'.aHead j = { s.aHead j with bRefCount := (s'.aHead j).bRefCount } := by
    rw [hs']
    by_cases hj : j = i
    · rw [hj, Pool.setHead_same, hf]
    · rw [Pool.setHead_ne s f hj]
  have hrefs (j : ℕ) : ((s.setHead i f).aHead j).bRefCount ≤ (s.aHead j).bRefCount := by
    by_cases hj : j = i
    · rw [hj, Pool.setHead_same, hf]
      exact Nat.sub_le _ 1
    · rw [Pool.setHead_ne s f hj]
  have hfin (s' : Pool) (hrest : s' = { s with uNumUsed := s'.uNumUsed, aHead := s'.aHead })
      (hs' : s'.aHead = (s.setHead i f).aHead) (hused : s'.uNumUsed = s'.referenced.card) :
      PoolInv s' a ∧ s.KeepsHeads P s' := by
    refine ⟨⟨hi.toPoolMatch.books (by rw [hrest]) (hsame s' hs'), by rw [hrest]; exact hi.count_le,
      by rw [hrest]; exact hi.cur, by rw [hrest]; exact hi.perm, hused, fun j => ?_,
      fun j hj hrj => ?_⟩, by rw [hrest], fun v => by rw [hrest], fun j _ => ?_⟩
    · rw [hs']
      exact (hrefs j).trans_lt (hi.refs_lt j)
    · rw [hs'] at hrj
      rw [hsame s' hs']
      exact hi.held j hj fun h0 => hrj (Nat.le_zero.1 (h0 ▸ hrefs j))
    · rw [hsame s' hs']
      exact ⟨rfl, rfl, rfl⟩
  by_cases h1 : (s.aHead i).bRefCount = 1
  · have h0 : ((s.setHead i f).aHead i).bRefCount = 0 := by
      rw [Pool.setHead_same, hf, h1]
    have hrun : Pool.redBufferPut i s =
        (.ok (), { s.setHead i f with uNumUsed := (s.setHead i f).uNumUsed - 1 }) := by
      change (Except.ok (), if _ then (if _ then _ else _) else s) = _
      rw [if_pos hh.1, if_pos h0]
    refine Op.Ok.intro hrun (hfin _ rfl rfl ?_)
    have hmem : i ∈ s.referenced := Pool.mem_referenced.2 ⟨hlt, hr⟩
    change s.uNumUsed - 1 = (s.setHead i f).referenced.card
    rw [Pool.referenced_erase (f := f) (by rw [hf, h1]), Finset.card_erase_of_mem hmem, ← hi.used]
  · have h0 : ((s.setHead i f).aHead i).bRefCount ≠ 0 := by
      rw [Pool.setHead_same, hf]
      change (s.aHead i).bRefCount - 1 ≠ 0
      omega
    have hrun : Pool.redBufferPut i s = (.ok (), s.setHead i f) := by
      change (Except.ok (), if _ then (if _ then _ else _) else s) = _
      rw [if_pos hh.1, if_neg h0]
    refine Op.Ok.intro hrun (hfin _ rfl rfl ?_)
    have hmem : i ∈ s.referenced := Pool.mem_referenced.2 ⟨hlt, hr⟩
    change s.uNumUsed = (s.setHead i f).referenced.card
    have hf0 : (f (s.aHead i)).bRefCount ≠ 0 := by
      rwa [Pool.setHead_same] at h0
    rw [Pool.referenced_insert hlt hf0, Finset.insert_eq_of_mem hmem, ← hi.used]

/-- `RedBufferDirty()`. -/
lemma redBufferDirty (hi : PoolInv s a) (hh : s.Held i) :
    (Pool.redBufferDirty i).Ok s fun _ s' => PoolInv s' (a.set s.gbRedVolNum (s.aHead i).ulBlock
      ((a s.gbRedVolNum (s.aHead i).ulBlock).map (·.touch (s.aHead i).type))) ∧
        s.KeepsHeads P s' := by
  have hrun : Pool.redBufferDirty i s =
      (.ok (), s.setHead i (Pool.touchHead (s.aHead i).type true)) := by
    change (Except.ok (), if _ then s.setHead i (fun h => { h with fDirty := true }) else s) = _
    rw [if_pos hh.1]
    refine congrArg (Prod.mk _) ?_
    unfold Pool.setHead Pool.touchHead
    rw [Bool.or_true]
  have hm := hi.toPoolMatch.rehead hh.holds (f := Pool.touchHead (s.aHead i).type true) _
    hh.holds.2.1 rfl (hi.fits_touch hh.holds rfl)
  refine Op.Ok.intro hrun ⟨hi.setHead hm rfl fun _ => hh.holds.2.2.2, rfl, fun _ => rfl,
    fun j _ => ?_⟩
  by_cases hj : j = i
  · rw [hj, Pool.setHead_same]
    exact ⟨rfl, rfl, rfl⟩
  · rw [Pool.setHead_ne s _ hj]
    exact ⟨rfl, rfl, rfl⟩

/-- The holder of a dirty buffer changes its contents. -/
lemma store (hi : PoolInv s a) (hh : s.Held i) (hd : (s.aHead i).fDirty = true)
    (block : RawBlock) : PoolInv (s.setBuf i block) (a.set s.gbRedVolNum (s.aHead i).ulBlock
      (some ((block.swap (s.aHead i).type).cell (s.aHead i).type))) ∧
        s.KeepsHeads P (s.setBuf i block) := by
  have heq : (s.setBuf i block).setHead i id = s.setBuf i block := by
    unfold Pool.setHead
    rw [id, Function.update_eq_self]
  have hst : (s.setBuf i block).stored i = block.swap (s.aHead i).type := by
    rw [Pool.stored, Pool.setBuf_same]
    rfl
  have hm := hi.toPoolMatch.renew hh.holds (f := id) block
    (some ((block.swap (s.aHead i).type).cell (s.aHead i).type)) hh.holds.2.1 rfl fun c hc => by
      cases hc
      rw [heq, hst]
      refine ⟨RawBlock.cell_agrees _ _, fun hc => ?_, fun _ ht => RawBlock.cell_hdr _ ht⟩
      exact absurd (hd.symm.trans hc) (by decide)
  rw [heq] at hm
  exact ⟨⟨hm, hi.count_le, hi.cur, hi.perm, hi.used, hi.refs_lt, hi.held⟩, rfl, fun _ => rfl,
    fun _ _ => ⟨rfl, rfl, rfl⟩⟩

/-- `RedBufferBranch()` of a clean buffer to a block that is in no buffer. -/
lemma redBufferBranch (hi : PoolInv s a) {ulBlockNew : ℕ} (hh : s.Held i)
    (hd : (s.aHead i).fDirty = false) (hnone : ∀ j, ¬ s.Holds j s.gbRedVolNum ulBlockNew)
    (hlt : ulBlockNew < s.gpRedVolume.ulBlockCount) (hP : ¬ P i) :
    (Pool.redBufferBranch i ulBlockNew).Ok s fun _ s' => PoolInv s' (a.set s.gbRedVolNum ulBlockNew
      ((a s.gbRedVolNum (s.aHead i).ulBlock).map (·.touch (s.aHead i).type))) ∧
        s.KeepsHeads P s' ∧ s'.Holds i s.gbRedVolNum ulBlockNew := by
  let f : PoolHead → PoolHead := fun h => { h with fDirty := true, ulBlock := ulBlockNew }
  have hrun : Pool.redBufferBranch i ulBlockNew s = (.ok (), s.setHead i f) := by
    change (Except.ok (), if _ then s.setHead i f else s) = _
    rw [if_pos ⟨hh.1, hlt⟩]
  have hbv : ulBlockNew ≠ BBLK_INVALID := hi.lt_invalid hlt
  have hst : (s.setHead i f).stored i = s.stored i := by
    rw [Pool.stored, Pool.setHead_same]
    rfl
  have hm := hi.toPoolMatch.move hh.holds hd (f := f)
    ((a s.gbRedVolNum (s.aHead i).ulBlock).map (·.touch (s.aHead i).type)) hh.holds.2.1 rfl hbv
    hlt hnone fun c hc => by
      obtain ⟨c1, hc1, rfl⟩ := Option.map_eq_some_iff.1 hc
      rw [hst, Pool.setHead_same]
      exact ⟨(hi.agrees i _ _ c1 hh.holds hc1).touch _, (by simp), fun _ ht => c1.touch_hdr ht⟩
  refine Op.Ok.intro hrun ⟨hi.setHead hm rfl fun _ => hbv, Pool.setHead_keeps f hP, hh.holds.1, ?_,
    ?_, hbv⟩
  · rw [Pool.setHead_same]
    exact hh.holds.2.1
  · rw [Pool.setHead_same]

/-- A branch to a block beyond the volume does nothing. -/
lemma redBufferBranch_ge (s : Pool) (i : ℕ) {ulBlockNew : ℕ}
    (h : ¬ ulBlockNew < s.gpRedVolume.ulBlockCount) :
    Pool.redBufferBranch i ulBlockNew s = (.ok (), s) := by
  change (Except.ok (), if _ then _ else s) = _
  rw [if_neg fun hc => h hc.2]

/-- `RedBufferDiscard()`: what was not written is lost. -/
lemma redBufferDiscard (hi : PoolInv s a) (hh : s.Held i) (hP : ¬ P i) :
    (Pool.redBufferDiscard i).Ok s fun _ s' => PoolInv s'
      (if (s.aHead i).fDirty then a.set s.gbRedVolNum (s.aHead i).ulBlock none else a) ∧
        s.KeepsHeads P s' := by
  let f : PoolHead → PoolHead := fun h => { h with bRefCount := 0, ulBlock := BBLK_INVALID }
  have hrun : Pool.redBufferDiscard i s = (.ok (), { s.setHead i f with
      uNumUsed := s.uNumUsed - 1
      abMRU := if i ∈ s.abMRU then s.abMRU.erase i ++ [i] else s.abMRU }) := by
    unfold Pool.redBufferDiscard
    rw [Op.get_bind_run, Op.when_pos hh.1]
    rfl
  have hmem : i ∈ s.referenced := Pool.mem_referenced.2 ⟨hh.holds.1, hh.2⟩
  have hm : PoolMatch (s.setHead i f)
      (if (s.aHead i).fDirty then a.set s.gbRedVolNum (s.aHead i).ulBlock none else a) := by
    split_ifs with hd
    · refine (hi.toPoolMatch.mono fun w x c hc => ?_).detach rfl fun w x c hx hc => ?_
      · by_cases hwx : w = s.gbRedVolNum ∧ x = (s.aHead i).ulBlock
        · rw [hwx.1, hwx.2, Arrays.set_same] at hc
          cases hc
        · rwa [Arrays.set_ne a none hwx] at hc
      · obtain ⟨rfl, rfl⟩ := hh.holds.fun hx
        rw [Arrays.set_same] at hc
        cases hc
    · exact hi.toPoolMatch.detach rfl fun w x c hx hc =>
        hi.clean i w x c hx (by simpa using hd) hc
  refine Op.Ok.intro hrun ⟨⟨hm.books rfl fun _ => rfl, hi.count_le, hi.cur,
    (Pool.perm_makeLRU _ _).trans hi.perm, ?_, fun j => ?_, fun j hj hrj => ?_⟩, rfl, fun _ => rfl,
    (Pool.setHead_keeps f hP).head⟩
  · change s.uNumUsed - 1 = (s.setHead i f).referenced.card
    rw [Pool.referenced_erase (f := f) rfl, Finset.card_erase_of_mem hmem, ← hi.used]
  · change ((s.setHead i f).aHead j).bRefCount < 256
    by_cases hj : j = i
    · rw [hj, Pool.setHead_same]
      exact Nat.succ_pos 255
    · rw [Pool.setHead_ne s f hj]
      exact hi.refs_lt j
  · change ((s.setHead i f).aHead j).ulBlock ≠ _
    change ((s.setHead i f).aHead j).bRefCount ≠ 0 at hrj
    by_cases hji : j = i
    · rw [hji, Pool.setHead_same] at hrj
      exact absurd rfl hrj
    · rw [Pool.setHead_ne s f hji] at hrj ⊢
      exact hi.held j hj hrj

end PoolInv

end

end RelianceEdge
