import Mathlib.Data.Finset.Card
import Mathlib.Data.List.Perm.Basic
import RelianceEdge.Pool.Model

set_option relaxedAutoImplicit false
set_option autoImplicit false
set_option linter.unusedSectionVars false

/-!
# The pool as arrays of blocks

What a caller of the cache may know of the volumes: one array of blocks for each. A cell of the
array has the bytes of the block as they are stored; the node header of a metadata block that was
changed is left open, since the cache fills it in when it writes the block. Nothing is known of a
block whose last change was discarded before it reached the device, or whose last write failed.

## Main definitions

* `Cell`, `Arrays` — the arrays.
* `PoolInv` — the invariant of the pool, with the arrays its callers see.

## Main results

* `PoolInv.wroteOut` — writing out a dirty buffer brings its device in line with the arrays.
-/

namespace RelianceEdge

variable [RedConf] [PoolConf]

open RedConf PoolConf

/-! ## Arrays of blocks -/

/-- **A block as its callers know it**: the bytes after the node header, and the header unless the
cache is to fill it in. -/
structure Cell where
  hdr : Option NodeHeader
  rest : List UInt8

/-- A stored block is one that the cell describes. -/
def Cell.Agrees (c : Cell) (block : RawBlock) : Prop :=
  block.rest = c.rest ∧ ∀ hdr, c.hdr = some hdr → block.hdr = hdr

/-- The cell of a stored block of the given type: the header of a node is left open. -/
def RawBlock.cell (block : RawBlock) (type : BufType) : Cell :=
  ⟨if type = .data then some block.hdr else none, block.rest⟩

/-- A cell after a change under the given type. -/
def Cell.touch (c : Cell) (type : BufType) : Cell :=
  if type = .data then c else { c with hdr := none }

lemma RawBlock.cell_agrees (block : RawBlock) (type : BufType) :
    (block.cell type).Agrees block := by
  refine ⟨rfl, fun hdr h => ?_⟩
  unfold RawBlock.cell at h
  split_ifs at h
  exact Option.some.inj h

lemma Cell.Agrees.touch {c : Cell} {block : RawBlock} (h : c.Agrees block) (type : BufType) :
    (c.touch type).Agrees block := by
  unfold Cell.touch
  split_ifs
  · exact h
  · exact ⟨h.1, fun hdr he => by cases he⟩

lemma Cell.touch_hdr (c : Cell) {type : BufType} (h : type ≠ .data) :
    (c.touch type).hdr = none := by
  rw [Cell.touch, if_neg h]

lemma RawBlock.cell_hdr (block : RawBlock) {type : BufType} (h : type ≠ .data) :
    (block.cell type).hdr = none := by
  rw [RawBlock.cell, if_neg h]

/-- A cell with an open header also describes the block once its header was filled in. -/
lemma Cell.Agrees.of_cell {c : Cell} {block block' : RawBlock} {type : BufType}
    (h : c.Agrees block) (hn : type ≠ .data → c.hdr = none)
    (h' : (block.cell type).Agrees block') : c.Agrees block' := by
  refine ⟨h'.1.trans h.1, fun hdr he => ?_⟩
  by_cases ht : type = .data
  · exact (h'.2 block.hdr (if_pos ht)).trans (h.2 hdr he)
  · rw [hn ht] at he
    cases he

/-- **Arrays of blocks**, one for each volume; `none` is a block of which nothing is known. -/
abbrev Arrays := ℕ → ℕ → Option Cell

namespace Arrays

/-- Replace one cell. -/
def set (a : Arrays) (v b : ℕ) (c : Option Cell) : Arrays := fun v' b' =>
  if v' = v ∧ b' = b then c else a v' b'

@[simp] lemma set_same (a : Arrays) (v b : ℕ) (c : Option Cell) : a.set v b c v b = c :=
  if_pos ⟨rfl, rfl⟩

lemma set_ne (a : Arrays) {v b v' b' : ℕ} (c : Option Cell) (h : ¬ (v' = v ∧ b' = b)) :
    a.set v b c v' b' = a v' b' := if_neg h

/-- Replace the cells of a range. -/
def setRange (a : Arrays) (v ulBlockStart ulBlockCount : ℕ) (c : ℕ → Option Cell) : Arrays :=
  fun v' b => if v' = v ∧ ulBlockStart ≤ b ∧ b < ulBlockStart + ulBlockCount then
    c (b - ulBlockStart) else a v' b

end Arrays

/-! ## The invariant -/

namespace Pool

/-- The buffer `i` holds the block `b` of the volume `v`. -/
def Holds (s : Pool) (i v b : ℕ) : Prop :=
  i < bufferCount ∧ (s.aHead i).bVolNum = v ∧ (s.aHead i).ulBlock = b ∧ b ≠ BBLK_INVALID

/-- The contents of a buffer as the device would have them. -/
def stored (s : Pool) (i : ℕ) : RawBlock := (s.pbBlkBuf i).swap (s.aHead i).type

/-- The buffers that are referenced. -/
def referenced (s : Pool) : Finset ℕ :=
  (Finset.range bufferCount).filter fun i => (s.aHead i).bRefCount ≠ 0

lemma Holds.fun {s : Pool} {i v b v' b' : ℕ} (h : s.Holds i v b) (h' : s.Holds i v' b') :
    v' = v ∧ b' = b := ⟨h'.2.1.symm.trans h.2.1, h'.2.2.1.symm.trans h.2.2.1⟩

end Pool

/-- **The buffers agree with the arrays**: a block is in one buffer at most, a buffer has what its
cell says, and so has the device where there is no dirty buffer. -/
structure PoolMatch (s : Pool) (a : Arrays) : Prop where
  unique : ∀ i j v b, s.Holds i v b → s.Holds j v b → i = j
  lt : ∀ i v b, s.Holds i v b → v < volumeCount ∧ b < (s.gaRedVolume v).ulBlockCount
  agrees : ∀ i v b c, s.Holds i v b → a v b = some c → c.Agrees (s.stored i)
  clean : ∀ i v b c, s.Holds i v b → (s.aHead i).fDirty = false → a v b = some c →
    c.Agrees (s.disk v b)
  node : ∀ i v b c, s.Holds i v b → (s.aHead i).fDirty = true → (s.aHead i).type ≠ .data →
    a v b = some c → c.hdr = none
  device : ∀ v b c, (∀ i, ¬ s.Holds i v b) → a v b = some c → c.Agrees (s.disk v b)

/-- **Invariant of the pool**, for callers that know the arrays `a`. -/
structure PoolInv (s : Pool) (a : Arrays) : Prop extends PoolMatch s a where
  count_le : ∀ v, (s.gaRedVolume v).ulBlockCount ≤ UINT32_MAX
  cur : s.gbRedVolNum < volumeCount
  perm : s.abMRU.Perm (List.range bufferCount)
  used : s.uNumUsed = s.referenced.card
  refs_lt : ∀ i, (s.aHead i).bRefCount < 256
  held : ∀ i, i < bufferCount → (s.aHead i).bRefCount ≠ 0 → (s.aHead i).ulBlock ≠ BBLK_INVALID

/-- The part of a state that the invariant does not look at has changed. -/
structure Pool.Quiet (s s' : Pool) : Prop where
  rest : s' = { s with gaRedVolume := s'.gaRedVolume, outcomes := s'.outcomes }
  count : ∀ v, (s'.gaRedVolume v).ulBlockCount = (s.gaRedVolume v).ulBlockCount
  mounted : ∀ v, (s'.gaRedVolume v).fMounted = (s.gaRedVolume v).fMounted

section

variable {s s' s'' : Pool} {a a' : Arrays} {i v b : ℕ}

namespace Pool.Quiet

lemma refl (s : Pool) : s.Quiet s := ⟨rfl, fun _ => rfl, fun _ => rfl⟩

lemma trans (h : s.Quiet s') (h' : s'.Quiet s'') : s.Quiet s'' :=
  ⟨by rw [h'.rest, h.rest], fun v => (h'.count v).trans (h.count v),
    fun v => (h'.mounted v).trans (h.mounted v)⟩

lemma aHead (h : s.Quiet s') : s'.aHead = s.aHead := by rw [h.rest]

lemma pbBlkBuf (h : s.Quiet s') : s'.pbBlkBuf = s.pbBlkBuf := by rw [h.rest]

lemma disk (h : s.Quiet s') : s'.disk = s.disk := by rw [h.rest]

lemma cur (h : s.Quiet s') : s'.gbRedVolNum = s.gbRedVolNum := by rw [h.rest]

lemma abMRU (h : s.Quiet s') : s'.abMRU = s.abMRU := by rw [h.rest]

lemma used (h : s.Quiet s') : s'.uNumUsed = s.uNumUsed := by rw [h.rest]

lemma stored (h : s.Quiet s') (i : ℕ) : s'.stored i = s.stored i := by
  rw [Pool.stored, h.aHead, h.pbBlkBuf, Pool.stored]

lemma holds (h : s.Quiet s') : s'.Holds i v b ↔ s.Holds i v b := by
  rw [Pool.Holds, h.aHead, Pool.Holds]

lemma referenced (h : s.Quiet s') : s'.referenced = s.referenced := by
  rw [Pool.referenced, h.aHead, Pool.referenced]

end Pool.Quiet

/-- Callers that know less see the same pool. -/
lemma PoolMatch.mono (hi : PoolMatch s a) (h : ∀ v b c, a' v b = some c → a v b = some c) :
    PoolMatch s a' :=
  { hi with
    agrees := fun i v b c hh hc => hi.agrees i v b c hh (h v b c hc)
    clean := fun i v b c hh hd hc => hi.clean i v b c hh hd (h v b c hc)
    node := fun i v b c hh hd ht hc => hi.node i v b c hh hd ht (h v b c hc)
    device := fun v b c hn hc => hi.device v b c hn (h v b c hc) }

/-- The block of a buffer is in no other buffer. -/
lemma PoolMatch.not_holds (hi : PoolMatch s a) (h : s.Holds i v b) {j : ℕ} (hj : j ≠ i) :
    ¬ s.Holds j v b :=
  fun h' => hj (hi.unique j i v b h' h)

namespace PoolInv

lemma mono (hi : PoolInv s a) (h : ∀ v b c, a' v b = some c → a v b = some c) : PoolInv s a' :=
  { hi with toPoolMatch := hi.toPoolMatch.mono h }

lemma quiet (hi : PoolInv s a) (h : s.Quiet s') : PoolInv s' a where
  count_le v := by rw [h.count]; exact hi.count_le v
  cur := by rw [h.cur]; exact hi.cur
  perm := by rw [h.abMRU]; exact hi.perm
  used := by rw [h.used, h.referenced]; exact hi.used
  refs_lt := by rw [h.aHead]; exact hi.refs_lt
  held := by rw [h.aHead]; exact hi.held
  unique i j v b hh hh' := hi.unique i j v b (h.holds.1 hh) (h.holds.1 hh')
  lt i v b hh := by rw [h.count]; exact hi.lt i v b (h.holds.1 hh)
  agrees i v b c hh hc := by rw [h.stored]; exact hi.agrees i v b c (h.holds.1 hh) hc
  clean i v b c hh hd hc := by
    rw [h.aHead] at hd
    rw [h.disk]
    exact hi.clean i v b c (h.holds.1 hh) hd hc
  node i v b c hh hd ht hc := by
    rw [h.aHead] at hd ht
    exact hi.node i v b c (h.holds.1 hh) hd ht hc
  device v b c hn hc := by
    rw [h.disk]
    exact hi.device v b c (fun i hh => hn i (h.holds.2 hh)) hc

lemma lt_invalid (hi : PoolInv s a) (hb : b < (s.gaRedVolume v).ulBlockCount) :
    b ≠ BBLK_INVALID := by
  have := hi.count_le v
  unfold BBLK_INVALID
  omega

end PoolInv

/-! ## Finding a buffer -/

namespace Pool

lemma find_some (h : s.find v b = some i) (hb : b ≠ BBLK_INVALID) : s.Holds i v b := by
  have hm := List.mem_of_find?_eq_some h
  have hp := List.find?_some h
  rw [Bool.and_eq_true, beq_iff_eq, beq_iff_eq] at hp
  exact ⟨List.mem_range.1 hm, hp.1, hp.2, hb⟩

lemma find_none (h : s.find v b = none) (i : ℕ) : ¬ s.Holds i v b := by
  intro hh
  have hp := List.find?_eq_none.1 h i (List.mem_range.2 hh.1)
  rw [Bool.and_eq_true, beq_iff_eq, beq_iff_eq] at hp
  exact hp ⟨hh.2.1, hh.2.2.1⟩

end Pool

/-! ## Writing out a buffer -/

/-- The state `s'` differs from `s` in that the buffer `i`, which holds the block `b` of `v`, was
written to the device; if `ok`, the device has it. -/
structure Pool.WroteOut (s s' : Pool) (i v b : ℕ) (ok : Prop) : Prop where
  rest : s' = { s with
    gaRedVolume := s'.gaRedVolume
    outcomes := s'.outcomes
    disk := s'.disk
    pbBlkBuf := s'.pbBlkBuf }
  count : ∀ v, (s'.gaRedVolume v).ulBlockCount = (s.gaRedVolume v).ulBlockCount
  buf_ne : ∀ j, j ≠ i → s'.pbBlkBuf j = s.pbBlkBuf j
  buf : ((s.stored i).cell (s.aHead i).type).Agrees (s'.stored i)
  disk_ne : ∀ v' b', ¬ (v' = v ∧ b' = b) → s'.disk v' b' = s.disk v' b'
  disk : ok → s'.disk v b = s'.stored i

namespace Pool

lemma criticalError_quiet (s : Pool) : s.Quiet (criticalError s).2 where
  rest := rfl
  count w := by
    change (Function.update s.gaRedVolume _ _ w).ulBlockCount = _
    rw [Function.update_apply]
    split_ifs with h
    · rw [h]; rfl
    · rfl
  mounted w := by
    change (Function.update s.gaRedVolume _ _ w).fMounted = _
    rw [Function.update_apply]
    split_ifs with h
    · rw [h]; rfl
    · rfl

lemma criticalAssert_ok (s : Pool) (exp : Bool) :
    (criticalAssert exp).Ok s fun _ s' => s.Quiet s' := by
  unfold criticalAssert
  split_ifs
  · exact Op.Ok.pure (.refl s)
  · exact Op.Ok.intro rfl (criticalError_quiet s)

/-- The rule for an operation that reports a critical error and fails. -/
lemma criticalError_fail {α : Type} {e : RedError} {Q : Except RedError α → Pool → Prop}
    (h : Q (.error e) (criticalError s).2) :
    (criticalError >>= fun _ => (Op.fail e : PoolOp α)).Post s Q := h

lemma blockRangeIsValid_iff {m n : ℕ} : s.blockRangeIsValid v m n = true ↔
    m + n ≤ (s.gaRedVolume v).ulBlockCount ∧ n ≠ 0 := by
  simp only [blockRangeIsValid, Bool.and_eq_true, decide_eq_true_eq]
  omega

/-- `RedIoRead()` of blocks on the volume. -/
lemma redIoRead_ok {m n : ℕ} (hv : v < volumeCount)
    (hr : s.blockRangeIsValid v m n = true) : (redIoRead v m n).Ok s fun r s' => s.Quiet s' ∧
      ((r.1 = .ok () ∧ r.2 = some fun ulIdx => s.disk v (m + ulIdx)) ∨
        ∃ garbage, r = (.error RedError.EIO, some garbage)) := by
  have hn : ¬ (volumeCount ≤ v ∨ ¬ s.blockRangeIsValid v m n = true) := by
    rintro (h | h)
    · omega
    · exact h hr
  unfold redIoRead
  refine Op.Ok.get_bind ?_
  rw [if_neg hn]
  have hq : s.Quiet { s with outcomes := s.outcomes.tail } := ⟨rfl, fun _ => rfl, fun _ => rfl⟩
  refine Op.Ok.run_bind (x := request) rfl ?_
  rcases s.outcomes.headD none with _ | garbage
  · exact Op.Ok.pure ⟨hq, .inl ⟨rfl, rfl⟩⟩
  · refine Op.Ok.bind (criticalAssert_ok _ _) fun _ s' hs' => Op.Ok.pure ?_
    exact ⟨hq.trans hs', .inr ⟨garbage, rfl⟩⟩

/-- `RedIoWrite()` of blocks on the volume. -/
lemma redIoWrite_post {m n : ℕ} {blocks : ℕ → RawBlock} (hv : v < volumeCount)
    (hr : s.blockRangeIsValid v m n = true) : (redIoWrite v m n blocks).Post s fun r s' =>
      (r = .ok () ∧ (s.setDisk v m n blocks).Quiet s') ∨
        (r = .error RedError.EIO ∧ ∃ garbage, (s.setDisk v m n garbage).Quiet s') := by
  have hn : ¬ (volumeCount ≤ v ∨ ¬ s.blockRangeIsValid v m n = true) := by
    rintro (h | h)
    · omega
    · exact h hr
  unfold redIoWrite
  refine Op.Post.get_bind ?_
  rw [if_neg hn]
  have hq (blocks : ℕ → RawBlock) : (s.setDisk v m n blocks).Quiet
      (({ s with outcomes := s.outcomes.tail } : Pool).setDisk v m n blocks) :=
    ⟨rfl, fun _ => rfl, fun _ => rfl⟩
  refine Op.Ok.bind_post (x := request) (Q := fun r s' => r = s.outcomes.headD none ∧
    { s with outcomes := s.outcomes.tail } = s') ⟨_, _, rfl, rfl, rfl⟩ ?_
  rintro r _ ⟨-, rfl⟩
  rcases r with _ | garbage
  · exact .inl ⟨rfl, hq blocks⟩
  · refine Op.Post.modify_bind (criticalError_fail (.inr ⟨rfl, garbage, ?_⟩))
    exact (hq garbage).trans (criticalError_quiet _)

lemma redVolSeqNumIncrement_post (hv : v < volumeCount) :
    (redVolSeqNumIncrement v).Post s fun _ s' => s.Quiet s' := by
  unfold redVolSeqNumIncrement
  refine Op.Post.get_bind ?_
  rw [if_neg (by omega)]
  split_ifs
  · exact criticalError_fail (criticalError_quiet s)
  · refine ⟨rfl, fun w => ?_, fun w => ?_⟩
    · change (Function.update s.gaRedVolume _ _ w).ulBlockCount = _
      rw [Function.update_apply]
      split_ifs with h
      · rw [h]
      · rfl
    · change (Function.update s.gaRedVolume _ _ w).fMounted = _
      rw [Function.update_apply]
      split_ifs with h
      · rw [h]
      · rfl

/-- Filling in the header keeps what follows it. -/
lemma finalized_rest (node : RawBlock) (type : BufType) (ullSeqNum : UInt64) :
    (finalized node type ullSeqNum).rest = (node.swap type).rest := by
  unfold finalized RawBlock.swap RawBlock.redBufferEndianSwap
  dsimp only
  split_ifs <;> rfl

/-- `RedBufferFinalize()`: only the buffer changes. -/
lemma redBufferFinalize_post {t : BufType} (hv : v < volumeCount) :
    (redBufferFinalize i v t).Post s fun r s' => (∃ e, r = .error e ∧ s.Quiet s') ∨
      (r = .ok () ∧ ∃ n, (s.setBuf i (finalized (s.pbBlkBuf i) t n)).Quiet s') := by
  unfold redBufferFinalize
  refine Op.Post.get_bind ?_
  rw [if_neg (by omega)]
  refine Op.Post.bind (redVolSeqNumIncrement_post hv) (fun _ s' hs' => ?_) fun e s' hs' =>
    .inl ⟨e, rfl, hs'⟩
  refine .inr ⟨rfl, (s.gaRedVolume v).ullSequence, ?_, hs'.count, hs'.mounted⟩
  change s'.setBuf i (finalized (s'.pbBlkBuf i) t _) = _
  rw [hs'.pbBlkBuf]
  conv_lhs => rw [hs'.rest]
  rfl

/-- The end of `BufferWrite()`: the buffer, in the byte order of the disk, goes to the device and
is swapped back. -/
lemma bufferWriteBack_post {t : BufType} (hv : v < volumeCount)
    (hr : s.blockRangeIsValid v b 1 = true) :
    (Op.attempt (redIoWrite v b 1 fun _ => s.pbBlkBuf i) >>= fun ret =>
      (Op.modify fun s => s.setBuf i ((s.pbBlkBuf i).swap t)) >>= fun _ =>
        (Op.ofExcept ret : PoolOp Unit)).Post s fun r s' =>
      s' = { s with
        gaRedVolume := s'.gaRedVolume
        outcomes := s'.outcomes
        disk := s'.disk
        pbBlkBuf := Function.update s.pbBlkBuf i ((s.pbBlkBuf i).swap t) } ∧
      (∀ w, (s'.gaRedVolume w).ulBlockCount = (s.gaRedVolume w).ulBlockCount) ∧
      (∀ v' b', ¬ (v' = v ∧ b' = b) → s'.disk v' b' = s.disk v' b') ∧
      (r = .ok () → s'.disk v b = s.pbBlkBuf i) := by
  have hdisk (blocks : ℕ → RawBlock) {v' b' : ℕ} (h : ¬ (v' = v ∧ b' = b)) :
      (s.setDisk v b 1 blocks).disk v' b' = s.disk v' b' := by
    refine if_neg fun hc => h ⟨hc.1, ?_⟩
    omega
  have hsame (blocks : ℕ → RawBlock) : (s.setDisk v b 1 blocks).disk v b = blocks 0 := by
    refine (if_pos ⟨rfl, le_rfl, Nat.lt_succ_self b⟩).trans ?_
    rw [Nat.sub_self]
  refine Op.Post.attempt_bind (Op.Post.mono (redIoWrite_post hv hr) ?_)
  rintro r s' (⟨rfl, hq⟩ | ⟨rfl, garbage, hq⟩)
  · refine ⟨?_, hq.count, fun v' b' h => ?_, fun _ => ?_⟩
    · change s'.setBuf i ((s'.pbBlkBuf i).swap t) = _
      rw [hq.rest]
      rfl
    · exact (congrFun (congrFun hq.disk v') b').trans (hdisk _ h)
    · exact (congrFun (congrFun hq.disk v) b).trans (hsame _)
  · refine ⟨?_, hq.count, fun v' b' h => ?_, fun h => by cases h⟩
    · change s'.setBuf i ((s'.pbBlkBuf i).swap t) = _
      rw [hq.rest]
      rfl
    · exact (congrFun (congrFun hq.disk v') b').trans (hdisk _ h)

end Pool

/-- `BufferWrite()` of a buffer in use. -/
lemma PoolInv.bufferWrite_post (hi : PoolInv s a) (hh : s.Holds i v b) :
    (Pool.bufferWrite i).Post s fun r s' => s.WroteOut s' i v b (r = .ok ()) := by
  obtain ⟨hv, hb⟩ := hi.lt i v b hh
  have hr (s' : Pool) (hc : (s'.gaRedVolume v).ulBlockCount = (s.gaRedVolume v).ulBlockCount) :
      s'.blockRangeIsValid v b 1 = true := by
    rw [Pool.blockRangeIsValid_iff, hc]
    omega
  obtain ⟨-, rfl, rfl, -⟩ := hh
  unfold Pool.bufferWrite
  refine Op.Post.get_bind ?_
  dsimp only
  by_cases ht : (s.aHead i).type = .data
  · rw [Op.when_neg (not_not.2 ht)]
    refine Op.Post.pure_bind (Op.Post.get_bind ?_)
    refine Op.Post.mono (Pool.bufferWriteBack_post hv (hr s rfl)) fun r s' h => ?_
    obtain ⟨hs, hc, hne, hok⟩ := h
    have hbuf : s'.pbBlkBuf = s.pbBlkBuf := by
      rw [hs, ht, RawBlock.swap_data, Function.update_eq_self]
    have hst : s'.stored i = s.stored i := by
      rw [Pool.stored, hbuf, show s'.aHead = s.aHead by rw [hs], Pool.stored]
    refine ⟨?_, hc, fun j _ => by rw [hbuf], ?_, hne, fun h => ?_⟩
    · rw [hs]
    · rw [hst]
      exact RawBlock.cell_agrees _ _
    · rw [hok h, hst, Pool.stored, ht, RawBlock.swap_data]
  · rw [Op.when_pos ht]
    refine Op.Post.bind (Pool.redBufferFinalize_post hv) ?_ ?_
    · rintro _ s1 (⟨e, he, -⟩ | ⟨-, n, hq⟩)
      · cases he
      refine Op.Post.get_bind ?_
      refine Op.Post.mono (Pool.bufferWriteBack_post hv (hr s1 (hq.count _))) fun r s' h => ?_
      obtain ⟨hs, hc, hne, hok⟩ := h
      have hbuf : s1.pbBlkBuf i = Pool.finalized (s.pbBlkBuf i) (s.aHead i).type n := by
        rw [hq.pbBlkBuf]
        exact Function.update_self ..
      have hhead : s'.aHead = s.aHead := by
        rw [hs]
        exact hq.aHead
      have hself : s'.pbBlkBuf i = (s1.pbBlkBuf i).swap (s.aHead i).type := by
        rw [hs]
        exact Function.update_self ..
      have hother (j : ℕ) (hj : j ≠ i) : s'.pbBlkBuf j = s1.pbBlkBuf j := by
        rw [hs]
        exact Function.update_of_ne hj ..
      have hst : s'.stored i = s1.pbBlkBuf i := by
        rw [Pool.stored, hhead, hself, RawBlock.swap_swap]
      refine ⟨?_, fun w => (hc w).trans (hq.count w), fun j hj => ?_, ?_, fun v' b' h => ?_,
        fun h => (hok h).trans hst.symm⟩
      · rw [hs, hq.rest]
        rfl
      · rw [hother j hj, hq.pbBlkBuf]
        exact Function.update_of_ne hj ..
      · rw [hst, hbuf]
        refine ⟨Pool.finalized_rest _ _ _, fun hdr he => ?_⟩
        rw [RawBlock.cell_hdr _ ht] at he
        cases he
      · rw [hne v' b' h, hq.disk]
        rfl
    · rintro e s' (⟨e', -, hq⟩ | ⟨he, -⟩)
      · refine ⟨?_, hq.count, fun j _ => by rw [hq.pbBlkBuf], ?_, fun v' b' _ => by rw [hq.disk],
          fun h => by cases h⟩
        · rw [hq.rest]
        · rw [hq.stored]
          exact RawBlock.cell_agrees _ _
      · cases he

/-- Writing out a dirty buffer keeps the invariant; if the write succeeds, the device is in line
with the arrays. -/
lemma PoolInv.wroteOut {ok : Prop} (hi : PoolInv s a) (hh : s.Holds i v b)
    (hd : (s.aHead i).fDirty = true) (h : s.WroteOut s' i v b ok) :
    PoolInv s' a ∧ (ok → ∀ c, a v b = some c → c.Agrees (s'.disk v b)) := by
  have hhead : s'.aHead = s.aHead := by rw [h.rest]
  have hholds {j w k : ℕ} : s'.Holds j w k ↔ s.Holds j w k := by rw [Pool.Holds, hhead, Pool.Holds]
  have hbuf {c : Cell} (hc : a v b = some c) : c.Agrees (s'.stored i) :=
    (hi.agrees i v b c hh hc).of_cell (fun ht => hi.node i v b c hh hd ht hc) h.buf
  have hst {j : ℕ} (hj : j ≠ i) : s'.stored j = s.stored j := by
    rw [Pool.stored, hhead, h.buf_ne j hj, Pool.stored]
  refine ⟨⟨⟨fun j k w x hj hk => hi.unique j k w x (hholds.1 hj) (hholds.1 hk),
    fun j w x hj => by rw [h.count]; exact hi.lt j w x (hholds.1 hj), ?_, ?_, ?_, ?_⟩,
    fun w => by rw [h.count]; exact hi.count_le w, by rw [h.rest]; exact hi.cur,
    by rw [h.rest]; exact hi.perm, ?_, by rw [hhead]; exact hi.refs_lt,
    by rw [hhead]; exact hi.held⟩, fun ho c hc => by rw [h.disk ho]; exact hbuf hc⟩
  · intro j w x c hj hc
    by_cases hji : j = i
    · subst hji
      obtain ⟨rfl, rfl⟩ := hh.fun (hholds.1 hj)
      exact hbuf hc
    · rw [hst hji]
      exact hi.agrees j w x c (hholds.1 hj) hc
  · intro j w x c hj hcl hc
    rw [hhead] at hcl
    have hji : j ≠ i := by
      rintro rfl
      rw [hd] at hcl
      cases hcl
    rw [h.disk_ne w x]
    · exact hi.clean j w x c (hholds.1 hj) hcl hc
    · rintro ⟨rfl, rfl⟩
      exact hi.not_holds hh hji (hholds.1 hj)
  · intro j w x c hj hdj ht hc
    rw [hhead] at hdj ht
    exact hi.node j w x c (hholds.1 hj) hdj ht hc
  · intro w x c hn hc
    rw [h.disk_ne w x]
    · exact hi.device w x c (fun j hj => hn j (hholds.2 hj)) hc
    · rintro ⟨rfl, rfl⟩
      exact hn i (hholds.2 hh)
  · rw [Pool.referenced, hhead, show s'.uNumUsed = s.uNumUsed by rw [h.rest]]
    exact hi.used

end

end RelianceEdge
