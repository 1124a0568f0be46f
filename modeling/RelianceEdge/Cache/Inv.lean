import Mathlib.Data.Finset.Card
import Mathlib.Data.List.Count
import Mathlib.Data.List.Perm.Basic
import RelianceEdge.Buffer

set_option relaxedAutoImplicit false
set_option autoImplicit false
set_option linter.unusedSectionVars false

/-!
# The buffer cache as a store

What the rest of the driver relies on: the current contents of a block (`FS.peek`), whether a
reader of a given type may have them (`FS.Readable`), and which buffers are referenced. A run of
the cache never changes the contents; it only moves dirty buffers to the device, and only to
blocks outside a protected set.

## Main definitions

* `BufInv` — the invariant of the cache, with the list of the references that are held.
* `Steady` — the state differs only in what is buffered and what has been written out.

## Main results

* `bufferWrite_ok` — writing out a dirty buffer moves its contents to the device.
* `evict_ok` — the buffer that is taken for another block leaves its block as it was.
-/

namespace RelianceEdge

variable [RedConf]

open RedConf

/-! ## Contents of blocks -/

/-- Whether the contents are plain bytes. -/
def Node.isBytes : Node → Bool
  | bytes _ => true
  | _ => false

/-- Whether the stored block was stored as the given type; a reader of that type may have it, before
the volume is mounted and after. -/
def FS.okFor (s : FS) (type : BufType) (block : DiskBlock) : Bool :=
  if type = .data then block.ulSignature == .none && block.node.isBytes
  else block.ulSignature == .node type && block.fCRCIsValid &&
    decide (block.ullSequence < s.vol.ullSequence)

lemma FS.okFor_inj {s : FS} {t t' : BufType} {block : DiskBlock} (h : s.okFor t block = true)
    (h' : s.okFor t' block = true) : t = t' := by
  unfold FS.okFor at h h'
  split_ifs at h h' with h1 h2 h2
  · rw [h1, h2]
  all_goals simp only [Bool.and_eq_true, beq_iff_eq] at h h'
  · rw [h.1] at h'; simp at h'
  · rw [h'.1] at h; simp at h
  · rw [h.1.1] at h'; simpa using h'.1.1

/-- **Readable blocks**: a buffer of the type, or a stored block that passes the checks. -/
def FS.Readable (s : FS) (ulBlock : ℕ) (type : BufType) : Prop :=
  match s.buf.find ulBlock with
  | some bIdx => (s.buf.aHead bIdx).type = type
  | none => s.okFor type (s.disk ulBlock) = true

/-- The block number of a buffer. -/
abbrev BufCtx.blk (bc : BufCtx) (bIdx : ℕ) : ℕ := (bc.aHead bIdx).ulBlock

/-- No two buffers hold the same block. -/
def BufCtx.Unique (bc : BufCtx) : Prop :=
  ∀ i j, i < bufferCount → j < bufferCount → bc.blk i = bc.blk j → bc.blk i ≠ BBLK_INVALID → i = j

lemma BufCtx.find_eq_none_iff {bc : BufCtx} {b : ℕ} (hb : b ≠ BBLK_INVALID) :
    bc.find b = none ↔ ∀ i, i < bufferCount → bc.blk i ≠ b := by
  simp [BufCtx.find, List.find?_eq_none, hb]

lemma BufCtx.find_some {bc : BufCtx} {b i : ℕ} (h : bc.find b = some i) :
    i < bufferCount ∧ bc.blk i = b ∧ b ≠ BBLK_INVALID := by
  unfold BufCtx.find at h
  split_ifs at h with hb
  have hp := List.find?_some h
  have hm := List.mem_of_find?_eq_some h
  exact ⟨by simpa using hm, by simpa using hp, hb⟩

lemma BufCtx.find_eq_some_iff {bc : BufCtx} (hu : bc.Unique) {b i : ℕ} :
    bc.find b = some i ↔ i < bufferCount ∧ bc.blk i = b ∧ b ≠ BBLK_INVALID := by
  refine ⟨BufCtx.find_some, fun ⟨hi, hblk, hb⟩ => ?_⟩
  rcases hf : bc.find b with _ | j
  · exact absurd hblk ((BufCtx.find_eq_none_iff hb).1 hf i hi)
  · obtain ⟨hj, hjb, -⟩ := BufCtx.find_some hf
    rw [hu i j hi hj (hblk.trans hjb.symm) (hblk ▸ hb)]

@[simp] lemma BufCtx.find_invalid (bc : BufCtx) : bc.find BBLK_INVALID = none := by
  simp [BufCtx.find]

lemma BufCtx.find_congr {bc bc' : BufCtx} {b : ℕ}
    (h : ∀ i, i < bufferCount → (bc'.blk i = b ↔ bc.blk i = b)) : bc'.find b = bc.find b := by
  unfold BufCtx.find
  split_ifs with hb
  · rfl
  · rw [← List.head?_filter, ← List.head?_filter]
    refine congrArg List.head? (List.filter_congr fun i hi => ?_)
    have := h i (by simpa using hi)
    simpa using this

section

variable {s : FS} {b i : ℕ} {t : BufType}

lemma FS.peek_some (h : s.buf.find b = some i) : s.peek b = s.buf.pbBlkBuf i := by
  simp [FS.peek, h]

lemma FS.peek_none (h : s.buf.find b = none) : s.peek b = (s.disk b).node := by
  simp [FS.peek, h]

lemma FS.readable_some (h : s.buf.find b = some i) :
    s.Readable b t ↔ (s.buf.aHead i).type = t := by
  simp [FS.Readable, h]

lemma FS.readable_none (h : s.buf.find b = none) :
    s.Readable b t ↔ s.okFor t (s.disk b) = true := by
  simp [FS.Readable, h]

end

/-! ## The invariant -/

/-- **Invariant of the cache**: `prot` are the blocks that must not be overwritten, `own` the blocks
that may be buffered, `R` the references that are held, `X` the clean buffers whose contents were
changed in place. -/
structure BufInv (s : FS) (prot own : ℕ → Prop) (R : List ℕ) (X : ℕ → Prop) : Prop where
  count_le : s.vol.ulBlockCount ≤ UINT32_MAX
  perm : s.buf.abMRU.Perm (List.range bufferCount)
  unique : s.buf.Unique
  refs : ∀ i, i < bufferCount → (s.buf.aHead i).bRefCount = R.count i
  refs_lt : ∀ i ∈ R, i < bufferCount
  held : ∀ i ∈ R, s.buf.blk i ≠ BBLK_INVALID
  used : s.buf.uNumUsed = R.toFinset.card
  lt : ∀ i, i < bufferCount → s.buf.blk i ≠ BBLK_INVALID → s.buf.blk i < s.vol.ulBlockCount
  bytes : ∀ i, i < bufferCount → s.buf.blk i ≠ BBLK_INVALID → (s.buf.aHead i).type = .data →
    (s.buf.pbBlkBuf i).isBytes = true
  clean : ∀ i, i < bufferCount → s.buf.blk i ≠ BBLK_INVALID → (s.buf.aHead i).fDirty = false →
    ¬ X i → s.okFor (s.buf.aHead i).type (s.disk (s.buf.blk i)) = true ∧
      (s.disk (s.buf.blk i)).node = s.buf.pbBlkBuf i
  dirty : ∀ i, i < bufferCount → s.buf.blk i ≠ BBLK_INVALID → (s.buf.aHead i).fDirty = true →
    ¬ prot (s.buf.blk i)
  exempt : ∀ i, X i → i ∈ R
  owned : ∀ i, i < bufferCount → s.buf.blk i ≠ BBLK_INVALID → own (s.buf.blk i)

/-- The events of a run of the cache: writes to blocks outside the protected set, with the target
that the state `s` gives them. -/
def IoEvent.IsFrom (s : FS) (prot : ℕ → Prop) (e : IoEvent) : Prop :=
  ∃ b block, e = .write b block (s.writeTarget b) ∧ ¬ prot b

/-- The targets that leave the committed state alone. -/
def WriteTarget.IsCow : WriteTarget → Prop
  | .master => False
  | .metaroot fCurrent => fCurrent = true
  | .imapNode fCommitted => fCommitted = false
  | .block state => state = .new ∨ state = .free

/-- A write that leaves the committed state alone. -/
def IoEvent.Cow (prot : ℕ → Prop) (e : IoEvent) : Prop :=
  ∃ b block target, e = .write b block target ∧ ¬ prot b ∧ target.IsCow

/-- The buffer `i` has the same block, type and contents in both states, and is still dirty if it
was, unless it holds file data, which may have been flushed. -/
structure FS.KeepsBuf (s s' : FS) (i : ℕ) : Prop where
  blk : s'.buf.blk i = s.buf.blk i
  type : (s'.buf.aHead i).type = (s.buf.aHead i).type
  dirty : (s.buf.aHead i).fDirty = true → (s'.buf.aHead i).fDirty = true
  content : s'.buf.pbBlkBuf i = s.buf.pbBlkBuf i

lemma FS.KeepsBuf.refl (s : FS) (i : ℕ) : s.KeepsBuf s i := ⟨rfl, rfl, id, rfl⟩

lemma FS.KeepsBuf.trans {s s' s'' : FS} {i : ℕ} (h : s.KeepsBuf s' i) (h' : s'.KeepsBuf s'' i) :
    s.KeepsBuf s'' i :=
  ⟨h'.blk.trans h.blk, h'.type.trans h.type, fun hd => h'.dirty (h.dirty hd),
    h'.content.trans h.content⟩

/-- **Steady states**: a run of the cache that leads from `s` to `s'` changes neither the contents
of a block nor a buffer that is referenced in `R`, and keeps what was readable readable. -/
structure Steady (s s' : FS) (prot : ℕ → Prop) (R : List ℕ) : Prop where
  core : s'.core = s.core
  now : s'.now = s.now
  dev : s'.ulDevBlocks = s.ulDevBlocks ∧ s'.bSectorSizeP2 = s.bSectorSizeP2
  vol : s'.vol = { s.vol with ullSequence := s'.vol.ullSequence }
  seq : s.vol.ullSequence ≤ s'.vol.ullSequence
  peek : ∀ b, s'.peek b = s.peek b
  readable : ∀ b t, s.Readable b t → s'.Readable b t
  held : ∀ i ∈ R, s.KeepsBuf s' i
  disk : ∀ b, prot b → s'.disk b = s.disk b
  hist : ∃ evs, s'.history = evs ++ s.history ∧ ∀ e ∈ evs, e.IsFrom s prot

section

variable {s s' s'' : FS} {prot own : ℕ → Prop} {R : List ℕ} {X : ℕ → Prop}

lemma FS.writeTarget_congr (hc : s'.core = s.core) (hp : ∀ b, s'.peek b = s.peek b) (b : ℕ) :
    s'.writeTarget b = s.writeTarget b := by
  simp only [FS.writeTarget, FS.allocState, FS.imapBit, hc, hp]

lemma Steady.refl (s : FS) (prot : ℕ → Prop) (R : List ℕ) : Steady s s prot R where
  core := rfl
  now := rfl
  dev := ⟨rfl, rfl⟩
  vol := rfl
  seq := le_rfl
  peek _ := rfl
  readable _ _ h := h
  held i _ := .refl s i
  disk _ _ := rfl
  hist := ⟨[], rfl, by simp⟩

lemma Steady.trans (h : Steady s s' prot R) (h' : Steady s' s'' prot R) :
    Steady s s'' prot R where
  core := h'.core.trans h.core
  now := h'.now.trans h.now
  dev := ⟨h'.dev.1.trans h.dev.1, h'.dev.2.trans h.dev.2⟩
  vol := by rw [h'.vol, h.vol]
  seq := h.seq.trans h'.seq
  peek b := (h'.peek b).trans (h.peek b)
  readable b t hr := h'.readable b t (h.readable b t hr)
  held i hi := (h.held i hi).trans (h'.held i hi)
  disk b hb := (h'.disk b hb).trans (h.disk b hb)
  hist := by
    obtain ⟨evs, he, hf⟩ := h.hist
    obtain ⟨evs', he', hf'⟩ := h'.hist
    refine ⟨evs' ++ evs, by rw [he', he, List.append_assoc], fun e hm => ?_⟩
    rcases List.mem_append.1 hm with hm | hm
    · obtain ⟨b, block, rfl, hb⟩ := hf' e hm
      exact ⟨b, block, by rw [FS.writeTarget_congr h.core h.peek], hb⟩
    · exact hf e hm

lemma FS.okFor_mono {t : BufType} {block : DiskBlock}
    (hs : s.vol.ullSequence ≤ s'.vol.ullSequence) (ho : s.okFor t block = true) :
    s'.okFor t block = true := by
  unfold FS.okFor at ho ⊢
  split_ifs at ho ⊢
  · exact ho
  · simp only [Bool.and_eq_true, decide_eq_true_eq] at ho ⊢
    exact ⟨ho.1, ho.2.trans_le hs⟩

/-- What was stored as a type other than file data passes the checks of a reader. -/
lemma FS.okFor_isValid {t : BufType} {block : DiskBlock} (ht : t ≠ .data)
    (ho : s.okFor t block = true) : s.redBufferIsValid block t = true := by
  unfold FS.okFor at ho
  rw [if_neg ht] at ho
  simp only [Bool.and_eq_true, decide_eq_true_eq] at ho
  simp only [FS.redBufferIsValid, ho.1.1, ho.1.2, Bool.true_and, Bool.not_eq_true',
    Bool.and_eq_false_iff, decide_eq_false_iff_not, not_le]
  exact .inr ho.2

lemma Steady.count (h : Steady s s' prot R) : s'.vol.ulBlockCount = s.vol.ulBlockCount := by
  rw [h.vol]

/-- Fewer references are asked to stay the same. -/
lemma Steady.weaken {R' : List ℕ} (h : Steady s s' prot R) (hR : ∀ i ∈ R', i ∈ R) :
    Steady s s' prot R' :=
  { h with held := fun i hi => h.held i (hR i hi) }

end

/-- **Frames**: from `s` to `s'` only the blocks `D` may have changed their contents, the buffers
referenced in `R` are kept, and what was written leaves the committed state alone. -/
structure Frame (s s' : FS) (prot : ℕ → Prop) (R : List ℕ) (D : ℕ → Prop) : Prop where
  now : s'.now = s.now
  dev : s'.ulDevBlocks = s.ulDevBlocks ∧ s'.bSectorSizeP2 = s.bSectorSizeP2
  vol : s'.vol = { s.vol with ullSequence := s'.vol.ullSequence }
  seq : s.vol.ullSequence ≤ s'.vol.ullSequence
  peek : ∀ b, ¬ D b → s'.peek b = s.peek b
  readable : ∀ b t, ¬ D b → s.Readable b t → s'.Readable b t
  held : ∀ i ∈ R, s.KeepsBuf s' i
  disk : ∀ b, prot b → s'.disk b = s.disk b
  hist : ∃ evs, s'.history = evs ++ s.history ∧ ∀ e ∈ evs, e.Cow prot

section

variable {s s' s'' : FS} {prot own : ℕ → Prop} {R : List ℕ} {D D' : ℕ → Prop}

lemma Frame.refl (s : FS) (prot : ℕ → Prop) (R : List ℕ) (D : ℕ → Prop) : Frame s s prot R D where
  now := rfl
  dev := ⟨rfl, rfl⟩
  vol := rfl
  seq := le_rfl
  peek _ _ := rfl
  readable _ _ _ h := h
  held i _ := .refl s i
  disk _ _ := rfl
  hist := ⟨[], rfl, by simp⟩

lemma Frame.trans (h : Frame s s' prot R D) (h' : Frame s' s'' prot R D) :
    Frame s s'' prot R D where
  now := h'.now.trans h.now
  dev := ⟨h'.dev.1.trans h.dev.1, h'.dev.2.trans h.dev.2⟩
  vol := by rw [h'.vol, h.vol]
  seq := h.seq.trans h'.seq
  peek b hb := (h'.peek b hb).trans (h.peek b hb)
  readable b t hb hr := h'.readable b t hb (h.readable b t hb hr)
  held i hi := (h.held i hi).trans (h'.held i hi)
  disk b hb := (h'.disk b hb).trans (h.disk b hb)
  hist := by
    obtain ⟨evs, he, hf⟩ := h.hist
    obtain ⟨evs', he', hf'⟩ := h'.hist
    refine ⟨evs' ++ evs, by rw [he', he, List.append_assoc], fun e hm => ?_⟩
    rcases List.mem_append.1 hm with hm | hm
    · exact hf' e hm
    · exact hf e hm

lemma Frame.count (h : Frame s s' prot R D) : s'.vol.ulBlockCount = s.vol.ulBlockCount := by
  rw [h.vol]

/-- More blocks may have changed, fewer references are asked to stay. -/
lemma Frame.mono {R' : List ℕ} (h : Frame s s' prot R D) (hR : ∀ i ∈ R', i ∈ R)
    (hD : ∀ b, D b → D' b) : Frame s s' prot R' D' :=
  { h with
    peek := fun b hb => h.peek b fun h' => hb (hD b h')
    readable := fun b t hb => h.readable b t fun h' => hb (hD b h')
    held := fun i hi => h.held i (hR i hi) }

lemma Steady.frame (h : Steady s s' prot R) (hT : ∀ b, ¬ prot b → (s.writeTarget b).IsCow) :
    Frame s s' prot R D :=
  { h with
    peek := fun b _ => h.peek b
    readable := fun b t _ => h.readable b t
    hist := by
      obtain ⟨evs, he, hf⟩ := h.hist
      refine ⟨evs, he, fun e hm => ?_⟩
      obtain ⟨b, block, rfl, hb⟩ := hf e hm
      exact ⟨b, block, _, rfl, hb, hT b hb⟩ }

end

/-! ## Changes of the bookkeeping -/

/-- Two states with the same blocks in the same buffers, which differ in reference counts, dirty
flags and the order of use at most. -/
structure SameBlocks (s s' : FS) : Prop where
  rest : s'.core = s.core ∧ s'.vol = s.vol ∧ s'.now = s.now ∧ s'.disk = s.disk ∧
    s'.history = s.history ∧ s'.ulDevBlocks = s.ulDevBlocks ∧ s'.bSectorSizeP2 = s.bSectorSizeP2
  blk : ∀ i, s'.buf.blk i = s.buf.blk i
  type : ∀ i, (s'.buf.aHead i).type = (s.buf.aHead i).type
  content : ∀ i, s'.buf.pbBlkBuf i = s.buf.pbBlkBuf i

section

variable {s s' : FS} {prot own : ℕ → Prop} {R : List ℕ} {X : ℕ → Prop}

lemma SameBlocks.find (h : SameBlocks s s') (b : ℕ) : s'.buf.find b = s.buf.find b :=
  BufCtx.find_congr fun i _ => by rw [h.blk]

lemma SameBlocks.steady (h : SameBlocks s s')
    (hd : ∀ i ∈ R, (s.buf.aHead i).fDirty = true → (s'.buf.aHead i).fDirty = true) :
    Steady s s' prot R where
  core := h.rest.1
  now := h.rest.2.2.1
  dev := h.rest.2.2.2.2.2
  vol := by rw [h.rest.2.1]
  seq := by rw [h.rest.2.1]
  peek b := by simp only [FS.peek, h.find, h.content, h.rest.2.2.2.1]
  readable b t hr := by
    simpa only [FS.Readable, h.find, h.type, FS.okFor, h.rest.2.1,
      h.rest.2.2.2.1] using hr
  held i hi := ⟨h.blk i, h.type i, hd i hi, h.content i⟩
  disk _ _ := by rw [h.rest.2.2.2.1]
  hist := ⟨[], by simp [h.rest.2.2.2.2.1], by simp⟩

lemma SameBlocks.okFor (h : SameBlocks s s') (t : BufType) (block : DiskBlock) :
    s'.okFor t block = s.okFor t block := by
  simp only [FS.okFor, h.rest.2.1]

/-- The bookkeeping may change as long as it describes the new references. -/
lemma BufInv.of_same {R' : List ℕ} {X' : ℕ → Prop} (hi : BufInv s prot own R X)
    (h : SameBlocks s s') (hperm : s'.buf.abMRU.Perm s.buf.abMRU)
    (hrefs : ∀ i, i < bufferCount → (s'.buf.aHead i).bRefCount = R'.count i)
    (hlt : ∀ i ∈ R', i < bufferCount) (hheld : ∀ i ∈ R', s.buf.blk i ≠ BBLK_INVALID)
    (hused : s'.buf.uNumUsed = R'.toFinset.card)
    (hdirty : ∀ i, i < bufferCount → s.buf.blk i ≠ BBLK_INVALID →
      (s'.buf.aHead i).fDirty = (s.buf.aHead i).fDirty ∨
        ((s'.buf.aHead i).fDirty = true ∧ ¬ prot (s.buf.blk i)))
    (hX : ∀ i, X' i → i ∈ R')
    (hX' : ∀ i, i < bufferCount → s.buf.blk i ≠ BBLK_INVALID → X i →
      (s'.buf.aHead i).fDirty = false → X' i) : BufInv s' prot own R' X' where
  count_le := by rw [h.rest.2.1]; exact hi.count_le
  perm := hperm.trans hi.perm
  unique i j hi' hj hb hv := by
    rw [h.blk, h.blk] at hb
    rw [h.blk] at hv
    exact hi.unique i j hi' hj hb hv
  refs := hrefs
  refs_lt := hlt
  held i hm := by rw [h.blk]; exact hheld i hm
  used := hused
  lt i hi' hv := by
    rw [h.blk] at hv ⊢
    rw [h.rest.2.1]
    exact hi.lt i hi' hv
  bytes i hi' hv ht := by
    rw [h.blk] at hv
    rw [h.type] at ht
    rw [h.content]
    exact hi.bytes i hi' hv ht
  clean i hi' hv hc hx := by
    rw [h.blk] at hv ⊢
    rw [h.type, h.content, h.okFor, h.rest.2.2.2.1]
    rcases hdirty i hi' hv with hd | ⟨hd, -⟩
    · exact hi.clean i hi' hv (hd ▸ hc) fun hx' => hx (hX' i hi' hv hx' hc)
    · rw [hd] at hc; cases hc
  dirty i hi' hv hc := by
    rw [h.blk] at hv ⊢
    rcases hdirty i hi' hv with hd | ⟨-, hp⟩
    · exact hi.dirty i hi' hv (hd ▸ hc)
    · exact hp
  exempt := hX
  owned i hi' hv := by
    rw [h.blk] at hv ⊢
    exact hi.owned i hi' hv

/-- Fewer references held than there are buffers leave one free. -/
lemma BufInv.exists_free (_ : BufInv s prot own R X) (hR : R.length < bufferCount) :
    ∃ i, i < bufferCount ∧ i ∉ R := by
  by_contra! hall
  have hsub : Finset.range bufferCount ⊆ R.toFinset := fun i hm => by
    simpa using hall i (Finset.mem_range.1 hm)
  have := (Finset.card_le_card hsub).trans (List.toFinset_card_le R)
  rw [Finset.card_range] at this
  omega

lemma BufInv.used_lt (hi : BufInv s prot own R X) (hR : R.length < bufferCount) :
    s.buf.uNumUsed ≠ bufferCount := by
  have := List.toFinset_card_le R
  rw [hi.used]
  omega

lemma BufInv.notMem_iff (hi : BufInv s prot own R X) {i : ℕ} (hlt : i < bufferCount) :
    (s.buf.aHead i).bRefCount = 0 ↔ i ∉ R := by
  rw [hi.refs i hlt, List.count_eq_zero]

lemma BufInv.mem_lt (hi : BufInv s prot own R X) {i : ℕ} (hm : i ∈ R) :
    i < bufferCount ∧ s.buf.blk i ≠ BBLK_INVALID ∧ s.buf.blk i < s.vol.ulBlockCount :=
  ⟨hi.refs_lt i hm, hi.held i hm, hi.lt i (hi.refs_lt i hm) (hi.held i hm)⟩

lemma BufInv.bufferToIdx (hi : BufInv s prot own R X) {i : ℕ} (hm : i ∈ R) :
    s.buf.bufferToIdx i = true := by
  have := hi.mem_lt hm
  simp [BufCtx.bufferToIdx, this.1, this.2.1]

lemma BufInv.valid_ne (hi : BufInv s prot own R X) {b : ℕ} (hb : b < s.vol.ulBlockCount) :
    b ≠ BBLK_INVALID := by
  have := hi.count_le
  unfold BBLK_INVALID
  omega

end

/-! ## Writing out a buffer -/

/-- The state `s'` differs from `s` in that the buffer `i` has been written to the device. -/
structure WroteOut (s s' : FS) (i : ℕ) : Prop where
  buf : s'.buf = s.buf
  core : s'.core = s.core
  now : s'.now = s.now
  dev : s'.ulDevBlocks = s.ulDevBlocks ∧ s'.bSectorSizeP2 = s.bSectorSizeP2
  vol : s'.vol = { s.vol with ullSequence := s'.vol.ullSequence }
  seq : s.vol.ullSequence ≤ s'.vol.ullSequence
  block : ∃ block, s'.disk = Function.update s.disk (s.buf.blk i) block ∧
    block.node = s.buf.pbBlkBuf i ∧ s'.okFor (s.buf.aHead i).type block = true ∧
    s'.history = .write (s.buf.blk i) block (s.writeTarget (s.buf.blk i)) :: s.history

section

variable {s s' : FS} {prot own : ℕ → Prop} {R : List ℕ} {X : ℕ → Prop}

lemma FS.blockRangeIsValid_one {b : ℕ} (hb : b < s.vol.ulBlockCount) :
    s.blockRangeIsValid b 1 = true := by
  simp only [FS.blockRangeIsValid, Bool.and_eq_true, decide_eq_true_eq]
  omega

lemma redIoWrite_one {b : ℕ} {block : DiskBlock} (h : s.blockRangeIsValid b 1 = true) :
    redIoWrite b 1 (fun _ => block) s = (.ok (), s.writeBlock b block) := by
  simp [redIoWrite, h]

lemma redBufferFinalize_run (nd : Node) (t : BufType) :
    redBufferFinalize nd t s = (.ok ⟨.node t, s.vol.ullSequence, true, true, nd⟩,
      { s with vol := { s.vol with ullSequence := s.vol.ullSequence + 1 } }) := rfl

lemma bufferWrite_ok (hi : BufInv s prot own R X) {i : ℕ} (hlt : i < bufferCount)
    (hv : s.buf.blk i ≠ BBLK_INVALID) : (bufferWrite i).Ok s fun _ s' => WroteOut s s' i := by
  have hr := FS.blockRangeIsValid_one (hi.lt i hlt hv)
  unfold bufferWrite
  refine Op.Ok.get_bind ?_
  by_cases ht : (s.buf.aHead i).type = .data
  · simp only [ht, if_true]
    refine Op.Ok.pure_bind (Op.Ok.intro (redIoWrite_one hr) ?_)
    refine ⟨rfl, rfl, rfl, ⟨rfl, rfl⟩, rfl, le_rfl, _, rfl, rfl, ?_, rfl⟩
    simp [FS.okFor, ht, hi.bytes i hlt hv ht]
  · simp only [ht, if_false]
    refine Op.Ok.bind (Op.Ok.intro (Q := fun block t => block = _ ∧ t = _)
      (redBufferFinalize_run _ _) ⟨rfl, rfl⟩) ?_
    rintro _ _ ⟨rfl, rfl⟩
    refine Op.Ok.intro (redIoWrite_one hr) ?_
    refine ⟨rfl, rfl, rfl, ⟨rfl, rfl⟩, rfl, Nat.le_succ _, _, rfl, rfl, ?_, rfl⟩
    simp only [FS.okFor, ht, if_false, FS.writeBlock, beq_self_eq_true, Bool.true_and]
    exact decide_eq_true (Nat.lt_succ_self _)

lemma WroteOut.steady {i : ℕ} (h : WroteOut s s' i) (hlt : i < bufferCount)
    (hv : s.buf.blk i ≠ BBLK_INVALID) (hu : s.buf.Unique) (hp : ¬ prot (s.buf.blk i)) :
    Steady s s' prot R := by
  obtain ⟨block, hd, -, -, hh⟩ := h.block
  have hf : s'.buf.find (s.buf.blk i) = some i := by
    rw [h.buf]; exact (BufCtx.find_eq_some_iff hu).2 ⟨hlt, rfl, hv⟩
  have hdisk : ∀ b, s'.buf.find b = none → s'.disk b = s.disk b := fun b hb => by
    rw [hd, Function.update_of_ne]
    rintro rfl
    rw [hf] at hb; cases hb
  refine ⟨h.core, h.now, h.dev, h.vol, h.seq, fun b => ?_, fun b t hr => ?_, fun j _ => ?_,
    fun b hb => ?_, [_], by rw [hh]; rfl, ?_⟩
  · rcases hb : s'.buf.find b with _ | j
    · rw [FS.peek_none hb, FS.peek_none (by rw [← h.buf]; exact hb), hdisk b hb]
    · rw [FS.peek_some hb, FS.peek_some (by rw [← h.buf]; exact hb), h.buf]
  · rcases hb : s'.buf.find b with _ | j
    · rw [FS.readable_none (by rw [← h.buf]; exact hb)] at hr
      rw [FS.readable_none hb, hdisk b hb]
      exact FS.okFor_mono h.seq hr
    · rw [FS.readable_some (by rw [← h.buf]; exact hb)] at hr
      rw [FS.readable_some hb, h.buf]
      exact hr
  · have : s.KeepsBuf { s with buf := s'.buf } j := by rw [h.buf]; exact .refl s j
    exact ⟨this.1, this.2, this.3, this.4⟩
  · rw [hd, Function.update_of_ne]
    rintro rfl
    exact hp hb
  · intro e he
    rw [List.mem_singleton.1 he]
    exact ⟨_, _, rfl, hp⟩

/-- Writing out a dirty buffer keeps the invariant, and afterwards the device has its contents. -/
lemma WroteOut.inv {i : ℕ} (h : WroteOut s s' i) (hi : BufInv s prot own R X)
    (hlt : i < bufferCount) (hv : s.buf.blk i ≠ BBLK_INVALID) :
    BufInv s' prot own R X ∧ s'.okFor (s.buf.aHead i).type (s'.disk (s.buf.blk i)) = true ∧
      (s'.disk (s.buf.blk i)).node = s.buf.pbBlkBuf i := by
  obtain ⟨block, hd, hn, ho, -⟩ := h.block
  have hc : s'.vol.ulBlockCount = s.vol.ulBlockCount := by rw [h.vol]
  refine ⟨⟨by rw [hc]; exact hi.count_le, by rw [h.buf]; exact hi.perm, by
    rw [h.buf]; exact hi.unique, by rw [h.buf]; exact hi.refs, hi.refs_lt, by
    rw [h.buf]; exact hi.held, by rw [h.buf]; exact hi.used, by
    rw [h.buf, hc]; exact hi.lt, by rw [h.buf]; exact hi.bytes, ?_, by
    rw [h.buf]; exact hi.dirty, hi.exempt, by rw [h.buf]; exact hi.owned⟩,
    by simp [hd, ho], by simp [hd, hn]⟩
  intro j hj hvj hcj hxj
  rw [h.buf] at hvj hcj ⊢
  by_cases hij : s.buf.blk j = s.buf.blk i
  · have hji := hi.unique j i hj hlt hij hvj
    subst hji
    simp [hd, ho, hn]
  · rw [hd, Function.update_of_ne hij]
    obtain ⟨h1, h2⟩ := hi.clean j hj hvj hcj hxj
    exact ⟨FS.okFor_mono h.seq h1, h2⟩

/-- The first half of repurposing an unreferenced buffer: afterwards the device has its
contents. -/
lemma evict_ok (hi : BufInv s prot own R X) {i : ℕ} (hlt : i < bufferCount) (hn : i ∉ R) :
    (Op.when ((s.buf.aHead i).fDirty && (s.buf.aHead i).ulBlock != BBLK_INVALID)
      (bufferWrite i)).Ok s fun _ s' => Steady s s' prot R ∧ BufInv s' prot own R X ∧
      s'.buf = s.buf ∧
        (s.buf.blk i ≠ BBLK_INVALID →
          s'.okFor (s.buf.aHead i).type (s'.disk (s.buf.blk i)) = true ∧
            (s'.disk (s.buf.blk i)).node = s.buf.pbBlkBuf i) := by
  by_cases hv : s.buf.blk i = BBLK_INVALID
  · refine Op.Ok.when (fun h => ?_) fun _ => ⟨Steady.refl _ _ _, hi, rfl, fun h => absurd hv h⟩
    simp only [Bool.and_eq_true, bne_iff_ne] at h
    exact absurd hv h.2
  · refine Op.Ok.when (fun h => ?_) fun h => ⟨Steady.refl _ _ _, hi, rfl, fun _ => ?_⟩
    · simp only [Bool.and_eq_true] at h
      refine (bufferWrite_ok hi hlt hv).mono fun _ s' hw => ?_
      have := hw.inv hi hlt hv
      exact ⟨hw.steady hlt hv hi.unique (hi.dirty i hlt hv h.1), this.1, hw.buf, fun _ => this.2⟩
    · have hd : (s.buf.aHead i).fDirty = false := by
        simpa [show (s.buf.aHead i).ulBlock ≠ BBLK_INVALID from hv] using h
      exact hi.clean i hlt hv hd fun hx => hn (hi.exempt i hx)

end

end RelianceEdge
