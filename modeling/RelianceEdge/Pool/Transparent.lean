import RelianceEdge.Pool.Range

set_option relaxedAutoImplicit false
set_option autoImplicit false
set_option linter.unusedSectionVars false

/-!
# The cache is transparent

A run of calls that keep the rules for references sees, for each volume, a plain array of blocks,
whichever buffers are evicted in between and whichever requests the devices fail.

## Main definitions

* `PoolCall`, `PoolCall.Allowed` — the calls, and the rules their callers keep.
* `Arrays.after` — what a call does to the arrays.
* `PoolRun` — a run from a freshly initialized cache.
* `Pool.Transparent`, `PoolCall.Faithful` — what the callers can rely on.

## Main results

* `PoolCall.exec_post` — one call keeps the invariant of the pool.
* `cache_transparent` — so does a run, and every call is faithful to the arrays.
-/

namespace RelianceEdge

variable [RedConf] [PoolConf]

open RedConf PoolConf

/-! ## Calls -/

/-- A call of the cache, a change of the contents of a buffer by its holder, or a change of the
current volume. -/
inductive PoolCall
  | get (ulBlock : ℕ) (type : BufType) (fDirty fNew : Bool)
  | put (pBuffer : ℕ)
  | dirty (pBuffer : ℕ)
  | store (pBuffer : ℕ) (block : RawBlock)
  | branch (pBuffer ulBlockNew : ℕ)
  | discard (pBuffer : ℕ)
  | discardRange (ulBlockStart ulBlockCount : ℕ)
  | flushRange (ulBlockStart ulBlockCount : ℕ)
  | readRange (ulBlockStart ulBlockCount : ℕ)
  | writeRange (ulBlockStart ulBlockCount : ℕ) (pbDataBuffer : ℕ → RawBlock)
  | setCurrent (bVolNum : ℕ)

/-- What a call returns besides its status. -/
inductive PoolValue
  | none
  | buffer (pBuffer : ℕ)
  | blocks (pbDataBuffer : ℕ → RawBlock)

namespace PoolCall

/-- Run a call. -/
def exec : PoolCall → PoolOp PoolValue
  | get b t d n => do pure (.buffer (← Pool.redBufferGet b t d n))
  | put i => do Pool.redBufferPut i; pure .none
  | dirty i => do Pool.redBufferDirty i; pure .none
  | store i block => do Op.modify fun s => s.setBuf i block; pure .none
  | branch i b => do Pool.redBufferBranch i b; pure .none
  | discard i => do Pool.redBufferDiscard i; pure .none
  | discardRange m n => do Pool.redBufferDiscardRange m n; pure .none
  | flushRange m n => do Pool.redBufferFlushRange m n; pure .none
  | readRange m n => do pure (.blocks (← Pool.redBufferReadRange m n))
  | writeRange m n blocks => do Pool.redBufferWriteRange m n blocks; pure .none
  | setCurrent v => do Pool.redCoreVolSetCurrent v; pure .none

/-- **The rules for references**: a buffer that is released, changed, branched or discarded is
held; it is dirty when it is changed, clean when it is branched, and held once when it is
discarded; a block that a buffer is branched to is in no buffer; blocks that are written around
the cache are not referenced; and a buffer has fewer references than its counter can count. -/
def Allowed (call : PoolCall) (s : Pool) : Prop :=
  match call with
  | get b _ _ _ => ∀ i, s.Holds i s.gbRedVolNum b → (s.aHead i).bRefCount < 255
  | put i => s.Held i
  | dirty i => s.Held i
  | store i _ => s.Held i ∧ (s.aHead i).fDirty = true
  | branch i b => s.Held i ∧ (s.aHead i).fDirty = false ∧ ∀ j, ¬ s.Holds j s.gbRedVolNum b
  | discard i => s.Held i ∧ (s.aHead i).bRefCount = 1
  | writeRange m n _ => ∀ i b, s.Holds i s.gbRedVolNum b → m ≤ b → b < m + n →
      (s.aHead i).bRefCount = 0
  | discardRange _ _ | flushRange _ _ | readRange _ _ | setCurrent _ => True

/-- The call gives the buffer `j` another block or takes its block away, as its caller asks. -/
def Moves (call : PoolCall) (j : ℕ) : Prop :=
  match call with
  | branch i _ => i = j
  | discard i => i = j
  | _ => False

/-- The call overwrites or discards the block `b` of the volume `v`, which the buffer `i` holds. -/
def Replaces (call : PoolCall) (s : Pool) (i v b : ℕ) : Prop :=
  match call with
  | store j _ => j = i
  | discard j => j = i
  | discardRange m n => OnRange s.gbRedVolNum m n v b
  | writeRange m n _ => OnRange s.gbRedVolNum m n v b
  | _ => False

end PoolCall

/-- **The arrays after a call** that found the pool in the state `s` and returned `r`. -/
noncomputable def Arrays.after (a : Arrays) (s : Pool) (call : PoolCall)
    (r : Except RedError PoolValue) : Arrays :=
  match call with
  | .get b t d n => if r.isOk then a.afterGet s.gbRedVolNum b t d n else a
  | .dirty i => a.set s.gbRedVolNum (s.aHead i).ulBlock
      ((a s.gbRedVolNum (s.aHead i).ulBlock).map (·.touch (s.aHead i).type))
  | .store i block => a.set s.gbRedVolNum (s.aHead i).ulBlock
      (some ((block.swap (s.aHead i).type).cell (s.aHead i).type))
  | .branch i b =>
      if b < s.gpRedVolume.ulBlockCount then a.set s.gbRedVolNum b
        ((a s.gbRedVolNum (s.aHead i).ulBlock).map (·.touch (s.aHead i).type))
      else a
  | .discard i =>
      if (s.aHead i).fDirty then a.set s.gbRedVolNum (s.aHead i).ulBlock none else a
  | .discardRange m n => a.forget s m n
  | .writeRange m n blocks =>
      if r.isOk then a.setRange s.gbRedVolNum m n fun k => some ((blocks k).cell .data)
      else if s.blockRangeIsValid s.gbRedVolNum m n then a.setRange s.gbRedVolNum m n fun _ => none
      else a
  | .put _ | .flushRange _ _ | .readRange _ _ | .setCurrent _ => a

/-! ## One call -/

section

variable {s s' : Pool} {a : Arrays} {i v b : ℕ}

/-- The rule for an operation whose value is only renamed. -/
lemma Op.Post.pure_value {α β : Type} {x : PoolOp α} {g : α → β}
    {Q : Except RedError β → Pool → Prop} (h : x.Post s fun r s' => Q (r.map g) s') :
    (x >>= fun v => (Pure.pure (g v) : PoolOp β)).Post s Q := by
  unfold Op.Post
  rw [Op.bind_pure_run]
  exact h

/-- **Step lemma**: a call that keeps the rules keeps the invariant, and does not move the buffers
that are referenced. -/
lemma PoolCall.exec_post (hi : PoolInv s a) (call : PoolCall) (hc : call.Allowed s) :
    call.exec.Post s fun r s' => PoolInv s' (a.after s call r) ∧
      ∀ j, (s.aHead j).bRefCount ≠ 0 → ¬ call.Moves j →
        (s'.aHead j).bVolNum = (s.aHead j).bVolNum ∧
          (s'.aHead j).ulBlock = (s.aHead j).ulBlock := by
  have hkeep {s' : Pool} {call : PoolCall} {P : ℕ → Prop} (hP : ∀ j, (s.aHead j).bRefCount ≠ 0 →
      ¬ call.Moves j → P j) (h : s.KeepsHeads P s') : ∀ j, (s.aHead j).bRefCount ≠ 0 →
        ¬ call.Moves j → (s'.aHead j).bVolNum = (s.aHead j).bVolNum ∧
          (s'.aHead j).ulBlock = (s.aHead j).ulBlock := fun j hr hm =>
    ⟨(h.head j (hP j hr hm)).1, (h.head j (hP j hr hm)).2.1⟩
  cases call with
  | get b t d n =>
    refine Op.Post.pure_value (Op.Post.mono (hi.redBufferGet_post hc) fun r s' h => ?_)
    refine ⟨?_, hkeep (fun j hr _ => hr) h.1⟩
    cases r with
    | error e => exact h.2.1 e rfl
    | ok i => exact (h.2.2 i rfl).1
  | put i =>
    refine Op.Post.pure_value ((hi.redBufferPut hc (P := fun _ => True)).post fun _ s' h => ?_)
    exact ⟨h.1, hkeep (fun _ _ _ => trivial) h.2⟩
  | dirty i =>
    refine Op.Post.pure_value ((hi.redBufferDirty hc (P := fun _ => True)).post fun _ s' h => ?_)
    exact ⟨h.1, hkeep (fun _ _ _ => trivial) h.2⟩
  | store i block =>
    have h := hi.store hc.1 hc.2 block (P := fun _ => True)
    exact ⟨h.1, hkeep (fun _ _ _ => trivial) h.2⟩
  | branch i b =>
    obtain ⟨hh, hd, hnone⟩ := hc
    by_cases hlt : b < s.gpRedVolume.ulBlockCount
    · refine Op.Post.pure_value ((hi.redBufferBranch hh hd hnone hlt (P := fun j => i ≠ j)
        (not_not.2 rfl)).post fun _ s' h => ⟨?_, hkeep (fun _ _ hm => hm) h.2.1⟩)
      change PoolInv s' (if _ then _ else _)
      rw [if_pos hlt]
      exact h.1
    · refine Op.Post.pure_value ?_
      unfold Op.Post
      rw [PoolInv.redBufferBranch_ge s i hlt]
      refine ⟨?_, fun _ _ _ => ⟨rfl, rfl⟩⟩
      change PoolInv s (if _ then _ else _)
      rw [if_neg hlt]
      exact hi
  | discard i =>
    refine Op.Post.pure_value ((hi.redBufferDiscard hc.1 (P := fun j => i ≠ j)
      (not_not.2 rfl)).post fun _ s' h => ?_)
    exact ⟨h.1, hkeep (fun _ _ hm => hm) h.2⟩
  | discardRange m n =>
    refine Op.Post.pure_value (Op.Post.mono ((hi.mono fun v b c => Arrays.forget_le)
      |>.redBufferDiscardRange_post (a.forget_forgets s m n)) fun r s' h => ?_)
    exact ⟨h.1, hkeep (fun j hr _ => hr) h.2.1.keeps⟩
  | flushRange m n =>
    refine Op.Post.pure_value (Op.Post.mono hi.redBufferFlushRange_post fun r s' h => ?_)
    exact ⟨h.1, hkeep (fun _ _ _ => trivial) (h.2.1.keeps (P := fun _ => True))⟩
  | readRange m n =>
    refine Op.Post.pure_value (Op.Post.mono (hi.redBufferReadRange_post (P := fun _ => True))
      fun r s' h => ?_)
    exact ⟨h.1, hkeep (fun _ _ _ => trivial) h.2.1⟩
  | writeRange m n blocks =>
    refine Op.Post.pure_value (Op.Post.mono (hi.redBufferWriteRange_post hc) fun r s' h => ?_)
    refine ⟨?_, hkeep (fun j hr _ => hr) h.1⟩
    cases r with
    | error e =>
      change PoolInv s' (if s.blockRangeIsValid s.gbRedVolNum m n then _ else _)
      split_ifs with hr
      · exact (h.2.2 e rfl).1
      · exact (h.2.2 e rfl).2 (by simpa using hr)
    | ok _ => exact h.2.1 rfl
  | setCurrent v =>
    refine Op.Post.pure_value ?_
    unfold Pool.redCoreVolSetCurrent
    split_ifs with hv
    · exact ⟨hi, fun _ _ _ => ⟨rfl, rfl⟩⟩
    · exact ⟨{ hi with cur := not_le.1 hv }, fun _ _ _ => ⟨rfl, rfl⟩⟩

/-! ## Dirty buffers -/

namespace PoolInv

/-- Of the blocks, a caller may choose to know only the contents of one dirty buffer. -/
lemma known (hi : PoolInv s a) (hh : s.Holds i v b) (hd : (s.aHead i).fDirty = true) :
    PoolInv s (Arrays.set (fun _ _ => none) v b (some ((s.stored i).cell (s.aHead i).type))) := by
  have hid : s.setHead i id = s := by
    unfold Pool.setHead
    rw [id, Function.update_eq_self]
  have h0 : PoolInv s (fun _ _ => none) := hi.mono (by simp)
  have hm := h0.toPoolMatch.rehead hh (f := id) (some ((s.stored i).cell (s.aHead i).type))
    hh.2.1 hh.2.2.1 fun c hc => by
      cases hc
      rw [hid]
      refine ⟨RawBlock.cell_agrees _ _, fun hcl => ?_, fun _ ht => RawBlock.cell_hdr _ ht⟩
      exact absurd (hd.symm.trans hcl) (by decide)
  rw [hid] at hm
  exact { h0 with toPoolMatch := hm }

end PoolInv

lemma RawBlock.touch_cell (block : RawBlock) (type : BufType) :
    (block.cell type).touch type = block.cell type := by
  unfold Cell.touch RawBlock.cell
  split_ifs <;> rfl

/-- A call that does not replace the contents of a dirty buffer leaves their cell alone. -/
lemma PoolCall.after_known (hi : PoolInv s a) (call : PoolCall) (hc : call.Allowed s)
    (hh : s.Holds i v b) (hr : ¬ call.Replaces s i v b) :
    Arrays.after (Arrays.set (fun _ _ => none) v b (some ((s.stored i).cell (s.aHead i).type))) s
      call (call.exec s).1 v b = some ((s.stored i).cell (s.aHead i).type) := by
  set c := (s.stored i).cell (s.aHead i).type with hcell
  have hself : Arrays.set (fun _ _ => none) v b (some c) v b = some c := Arrays.set_same ..
  have hkeep {w x : ℕ} {c' : Option Cell} (h : ¬ (w = v ∧ x = b)) :
      Arrays.set (Arrays.set (fun _ _ => none) v b (some c)) w x c' v b = some c := by
    rw [Arrays.set_ne _ _ fun h' => h ⟨h'.1.symm, h'.2.symm⟩, hself]
  -- Another buffer that is held has another block.
  have hother {j : ℕ} (hj : s.Held j) (hne : j ≠ i) :
      ¬ (s.gbRedVolNum = v ∧ (s.aHead j).ulBlock = b) := by
    rintro ⟨rfl, rfl⟩
    exact hne (hi.unique j i _ _ hj.holds hh)
  -- The same block is the same buffer, whose type it keeps.
  have hdirty {w x : ℕ} {t : BufType} (ht : w = v ∧ x = b → t = (s.aHead i).type) :
      Arrays.set (Arrays.set (fun _ _ => none) v b (some c)) w x
        ((Arrays.set (fun _ _ => none) v b (some c) w x).map (·.touch t)) v b = some c := by
    by_cases hwx : w = v ∧ x = b
    · obtain ⟨rfl, rfl⟩ := id hwx
      rw [Arrays.set_same, hself, Option.map_some, ht hwx, hcell, RawBlock.touch_cell]
    · exact hkeep hwx
  cases call with
  | get b' t d n =>
    have hpost := hi.redBufferGet_post hc (t := t) (d := d) (n := n)
    unfold Op.Post at hpost
    change (if ((Pool.redBufferGet b' t d n >>= fun v => Pure.pure (PoolValue.buffer v)) s).1.isOk
      then _ else _ : Arrays) v b = _
    rw [Op.bind_pure_run]
    rcases hx : (Pool.redBufferGet b' t d n s).1 with e | j
    · exact hself
    · rw [hx] at hpost
      obtain ⟨-, -, -, -, hfound⟩ := hpost.2.2 j rfl
      change Arrays.set _ _ _ (if n then _ else if d then _ else _) v b = _
      by_cases hwx : s.gbRedVolNum = v ∧ b' = b
      · obtain ⟨hw, rfl⟩ := hwx
        obtain ⟨rfl, ht⟩ := hfound i (hw ▸ hh)
        rw [if_neg Bool.false_ne_true]
        split_ifs
        · exact hdirty fun _ => ht.symm
        · subst hw
          rw [Arrays.set_same, hself]
      · exact hkeep hwx
  | put j => exact hself
  | dirty j =>
    refine hdirty fun hwx => ?_
    by_contra ht
    exact hother hc (fun hj => ht (by rw [hj])) hwx
  | store j block => exact hkeep (hother hc.1 hr)
  | branch j b' =>
    change (if _ then _ else _ : Arrays) v b = _
    split_ifs
    · refine hkeep ?_
      rintro ⟨rfl, rfl⟩
      exact hc.2.2 i hh
    · exact hself
  | discard j =>
    change (if _ then _ else _ : Arrays) v b = _
    split_ifs
    · exact hkeep (hother hc.1 hr)
    · exact hself
  | discardRange m n =>
    change Arrays.forget _ s m n v b = _
    unfold Arrays.forget
    rw [if_neg fun h => hr h.1, hself]
  | flushRange m n => exact hself
  | readRange m n => exact hself
  | writeRange m n blocks =>
    change (if _ then _ else if _ then _ else _ : Arrays) v b = _
    split_ifs
    · rw [Arrays.setRange_out _ _ hr, hself]
    · rw [Arrays.setRange_out _ _ hr, hself]
    · exact hself
  | setCurrent v' => exact hself

/-! ## Runs -/

/-- A run of calls that keep the rules, from the state `s₀` in which callers know the arrays
`a₀`. -/
inductive PoolRun (s₀ : Pool) (a₀ : Arrays) : Pool → Arrays → Prop
  | start : PoolRun s₀ a₀ s₀ a₀
  | step {s : Pool} {a : Arrays} (call : PoolCall) (hrun : PoolRun s₀ a₀ s a)
      (hc : call.Allowed s) : PoolRun s₀ a₀ (call.exec s).2 (a.after s call (call.exec s).1)

/-- The arrays of the blocks as the devices have them. -/
def Pool.arrays (s : Pool) : Arrays := fun v b => some ((s.disk v b).cell .data)

/-- **What callers can rely on in a state**: a buffer in use has the contents of the array, a block
is in one buffer at most, `abMRU` is a permutation of the indexes, and `uNumUsed` counts the heads
with references. -/
structure Pool.Transparent (s : Pool) (a : Arrays) : Prop where
  buffer : ∀ i v b c, s.Holds i v b → a v b = some c → c.Agrees (s.stored i)
  once : ∀ i j v b, s.Holds i v b → s.Holds j v b → i = j
  mru : s.abMRU.Perm (List.range bufferCount)
  used : s.uNumUsed =
    ((Finset.range bufferCount).filter fun i => (s.aHead i).bRefCount ≠ 0).card

/-- **What callers can rely on when they make a call**: a buffer they acquire is the buffer of the
block and has the contents of the array; a range they read has the contents of the array; a
referenced buffer keeps its block; the contents of a dirty buffer stay in a dirty buffer of that
block or are on the device; and after a flush the device has the array. -/
structure PoolCall.Faithful (call : PoolCall) (s : Pool) (a : Arrays) : Prop where
  acquired : ∀ b t d n i, call = .get b t d n → (call.exec s).1 = .ok (.buffer i) →
    (call.exec s).2.Holds i s.gbRedVolNum b ∧
      ∀ c, a.after s call (call.exec s).1 s.gbRedVolNum b = some c →
        c.Agrees ((call.exec s).2.stored i)
  read : ∀ m n blocks, call = .readRange m n → (call.exec s).1 = .ok (.blocks blocks) →
    ∀ k c, k < n → a s.gbRedVolNum (m + k) = some c → c.Agrees (blocks k)
  referenced : ∀ j, (s.aHead j).bRefCount ≠ 0 → ¬ call.Moves j →
    ((call.exec s).2.aHead j).bVolNum = (s.aHead j).bVolNum ∧
      ((call.exec s).2.aHead j).ulBlock = (s.aHead j).ulBlock
  dirty : ∀ i v b, s.Holds i v b → (s.aHead i).fDirty = true → ¬ call.Replaces s i v b →
    (∃ j, (call.exec s).2.Holds j v b ∧ ((call.exec s).2.aHead j).fDirty = true ∧
      ((s.stored i).cell (s.aHead i).type).Agrees ((call.exec s).2.stored j)) ∨
    ((s.stored i).cell (s.aHead i).type).Agrees ((call.exec s).2.disk v b)
  flushed : ∀ m n, call = .flushRange m n → (call.exec s).1 = .ok .none →
    ∀ b c, m ≤ b → b < m + n → a s.gbRedVolNum b = some c →
      c.Agrees ((call.exec s).2.disk s.gbRedVolNum b)

lemma PoolInv.transparent (hi : PoolInv s a) : s.Transparent a :=
  ⟨hi.agrees, hi.unique, hi.perm, hi.used⟩

/-- **A call that keeps the rules is faithful to the arrays.** -/
lemma PoolInv.faithful (hi : PoolInv s a) (call : PoolCall) (hc : call.Allowed s) :
    call.Faithful s a where
  acquired b t d n i he hr := by
    subst he
    have hpost := hi.redBufferGet_post hc (t := t) (d := d) (n := n)
    unfold Op.Post at hpost
    have hholds : ((PoolCall.get b t d n).exec s).2.Holds i s.gbRedVolNum b := by
      have hrun : (PoolCall.get b t d n).exec s = _ := Op.bind_pure_run _ _ _
      rw [hrun] at hr ⊢
      rcases hx : (Pool.redBufferGet b t d n s).1 with e | j
      · rw [hx] at hr
        cases hr
      · rw [hx] at hr
        cases hr
        exact (hpost.2.2 _ hx).2.1
    exact ⟨hholds, fun c hcell =>
      ((PoolCall.get b t d n).exec_post hi hc).1.agrees i _ b c hholds hcell⟩
  read m n blocks he hr k c hk hcell := by
    subst he
    have hpost := hi.redBufferReadRange_post (m := m) (n := n) (P := fun _ => True)
    unfold Op.Post at hpost
    have hrun : (PoolCall.readRange m n).exec s = _ := Op.bind_pure_run _ _ _
    rw [hrun] at hr
    rcases hx : (Pool.redBufferReadRange m n s).1 with e | bs
    · rw [hx] at hr
      cases hr
    · rw [hx] at hr
      cases hr
      exact hpost.2.2 _ hx k c hk hcell
  referenced := (call.exec_post hi hc).2
  dirty i v b hh hd hr := by
    have hi' := (call.exec_post (hi.known hh hd) hc).1
    have ha := call.after_known hi hc hh hr
    by_cases hn : ∃ j, (call.exec s).2.Holds j v b
    · obtain ⟨j, hj⟩ := hn
      cases hdj : ((call.exec s).2.aHead j).fDirty with
      | true => exact .inl ⟨j, hj, hdj, hi'.agrees j v b _ hj ha⟩
      | false => exact .inr (hi'.clean j v b _ hj hdj ha)
    · exact .inr (hi'.device v b _ (fun j hj => hn ⟨j, hj⟩) ha)
  flushed m n he hr b c h1 h2 hcell := by
    subst he
    have hpost := hi.redBufferFlushRange_post (m := m) (n := n)
    unfold Op.Post at hpost
    have hrun : (PoolCall.flushRange m n).exec s = _ := Op.bind_pure_run _ _ _
    rw [hrun] at hr ⊢
    rcases hx : (Pool.redBufferFlushRange m n s).1 with e | u
    · rw [hx] at hr
      cases hr
    · exact hpost.2.2 hx b c h1 h2 hcell

/-- **Run lemma**: a run keeps the invariant. -/
lemma PoolRun.inv {s₀ : Pool} {a₀ : Arrays} (hi : PoolInv s₀ a₀) (h : PoolRun s₀ a₀ s a) :
    PoolInv s a := by
  induction h with
  | start => exact hi
  | step call _ hc ih => exact (call.exec_post ih hc).1

/-- A freshly initialized cache, whatever is on the devices. -/
lemma PoolInv.init {s₀ : Pool} (hcur : s₀.gbRedVolNum < volumeCount)
    (hcount : ∀ v, (s₀.gaRedVolume v).ulBlockCount ≤ UINT32_MAX) :
    PoolInv (Pool.redBufferInit s₀).2 s₀.arrays := by
  have hnone (i v b : ℕ) : ¬ (Pool.redBufferInit s₀).2.Holds i v b := fun h =>
    h.2.2.2 h.2.2.1.symm
  refine ⟨⟨fun i j v b h => absurd h (hnone i v b), fun i v b h => absurd h (hnone i v b),
    fun i v b c h => absurd h (hnone i v b), fun i v b c h => absurd h (hnone i v b),
    fun i v b c h => absurd h (hnone i v b), fun v b c _ hc => ?_⟩, hcount, hcur,
    List.reverse_perm _, ?_, fun i => Nat.succ_pos 255, fun i _ h => absurd rfl h⟩
  · cases hc
    exact RawBlock.cell_agrees _ _
  · refine (Finset.card_eq_zero.2 (Finset.filter_eq_empty_iff.2 fun i _ h => h rfl)).symm

end

/-- **The buffer cache is transparent.** From a freshly initialized cache over any number of
volumes, whatever is on their devices and whichever requests the devices fail, every run of calls
that keep the rules for references sees the arrays of blocks. -/
theorem cache_transparent (s₀ s : Pool) (a : Arrays) (hcur : s₀.gbRedVolNum < volumeCount)
    (hcount : ∀ v, (s₀.gaRedVolume v).ulBlockCount ≤ UINT32_MAX)
    (hrun : PoolRun (Pool.redBufferInit s₀).2 s₀.arrays s a) :
    s.Transparent a ∧ ∀ call : PoolCall, call.Allowed s → call.Faithful s a :=
  have hi := hrun.inv (.init hcur hcount)
  ⟨hi.transparent, hi.faithful⟩

/-- Two volumes of sixteen blocks on a machine whose byte order is not that of the disk. -/
abbrev smallPoolConf : PoolConf where
  volumeCount := 2
  endianSwap := true
  redCrcNode _ _ := 0

omit [PoolConf] in
/-- A pool over devices full of zeroes; the third request to them will fail. -/
def smallPool : Pool where
  uNumUsed := 0
  abMRU := []
  aHead _ := ⟨0, 0, 0, false, .data⟩
  pbBlkBuf _ := .zero
  gbRedVolNum := 0
  gaRedVolume _ := ⟨16, 0, true, false⟩
  disk _ _ := .zero
  outcomes := [none, none, some fun _ => .zero]

omit [RedConf] [PoolConf] in
/-- A block of the first volume is created; then the second volume becomes current, and a range of
it can be read. -/
theorem cache_transparent_small : letI := smallConf; letI := smallPoolConf
    ∃ s a, PoolRun (Pool.redBufferInit smallPool).2 smallPool.arrays s a ∧ s.Transparent a ∧
      (PoolCall.readRange 0 2).Faithful s a := by
  let _ := smallConf
  let _ := smallPoolConf
  have hrun := PoolRun.step (.setCurrent 1) (PoolRun.step (.get 5 .data true true)
    (PoolRun.start : PoolRun (Pool.redBufferInit smallPool).2 smallPool.arrays _ _)
    fun _ _ => Nat.succ_pos 254) trivial
  have h16 : 16 ≤ UINT32_MAX := by decide
  have h := cache_transparent smallPool _ _ (by decide) (fun _ => h16) hrun
  exact ⟨_, _, hrun, h.1, h.2 _ trivial⟩

end RelianceEdge
