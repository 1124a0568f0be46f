import Mathlib.Data.Nat.Prime.Basic
import RelianceEdge.Alloc.Agree
import RelianceEdge.Lib.Checked
import RelianceEdge.Tree.Path

set_option relaxedAutoImplicit false
set_option autoImplicit false
set_option linter.unusedSectionVars false

/-!
# The geometry of a volume

`RedVolInitBlockGeometry()` on the sectors of the device, and the division of the blocks of a volume
into regions by `RedVolInitBlockLayout()`.

## Main definitions

* `BdevInfo.initBlockGeometry` — the number of blocks of a device.
* `FS.regionBlocks` — the blocks of a region of the volume.
* `initBlockLayoutChecked` — the layout, with a value only where nothing wraps around.
* `FS.SoundLayout` — the regions make up the volume, and the imap covers it.

## Main results

* `volumeLayout_sound_iff` — an accepted layout is sound exactly if the sum behind the number of
  imap nodes does not wrap around.
-/

namespace RelianceEdge

variable [RedConf]

open RedConf

/-! ## The device -/

/-- `UINT64_MAX`. -/
def UINT64_MAX : ℕ := 18446744073709551615

/-- `BDEVINFO`. -/
structure BdevInfo where
  ulSectorSize : ℕ
  ullSectorCount : ℕ

/-- The loop of `RedVolInitBlockGeometry()`, for at most `fuel` rounds: `bBlockSectorShift`. -/
def blockSectorShiftLoop (ulSectorSize : ℕ) : ℕ → ℕ → Except RedError ℕ
  | fuel, bBlockSectorShift =>
    if u32 (ulSectorSize * 2 ^ bBlockSectorShift) < blockSize then
      match fuel with
      | 0 => .error .outOfFuel
      | fuel + 1 => blockSectorShiftLoop ulSectorSize fuel (bBlockSectorShift + 1)
    else .ok bBlockSectorShift

/-- `RedVolInitBlockGeometry()` on the sectors of the device, behind `ullSectorOffset` of them: the
block sector shift and the number of blocks, which is the `ulDevBlocks` of the rest of the model. -/
def BdevInfo.initBlockGeometry (info : BdevInfo) (ullSectorOffset : ℕ) : Except RedError (ℕ × ℕ) :=
  if info.ulSectorSize < SECTOR_SIZE_MIN ∨ blockSize % info.ulSectorSize ≠ 0 ∨
      UINT64_MAX - ullSectorOffset < info.ullSectorCount then .error .EINVAL
  else do
    let bBlockSectorShift ← blockSectorShiftLoop info.ulSectorSize blockSizeP2 0
    .ok (bBlockSectorShift, u32 (info.ullSectorCount / 2 ^ bBlockSectorShift))

section

variable {info : BdevInfo} {off bShift ulDevBlocks : ℕ}

/-- The loop ends where a block has as many bytes as its sectors. -/
lemma blockSectorShiftLoop_eq {ulSectorSize k : ℕ} (h : ulSectorSize * 2 ^ k = blockSize) :
    ∀ fuel i, i ≤ k → k ≤ i + fuel →
      blockSectorShiftLoop ulSectorSize fuel i = .ok k := by
  have hle := blockSize_le
  have hpos := blockSize_ge
  have hpow : ∀ i ≤ k, u32 (ulSectorSize * 2 ^ i) = ulSectorSize * 2 ^ i := by
    intro i hi
    have : ulSectorSize * 2 ^ i ≤ blockSize :=
      h ▸ Nat.mul_le_mul_left _ (Nat.pow_le_pow_right (by decide) hi)
    exact u32_of_le (by unfold UINT32_MAX; omega)
  have hsize : 0 < ulSectorSize := by
    rcases Nat.eq_zero_or_pos ulSectorSize with h0 | h0
    · rw [h0, Nat.zero_mul] at h
      omega
    · exact h0
  have hlast : ∀ fuel, blockSectorShiftLoop ulSectorSize fuel k = .ok k := by
    intro fuel
    unfold blockSectorShiftLoop
    rw [hpow k le_rfl, h, if_neg (by omega)]
  intro fuel
  induction fuel with
  | zero =>
    intro i hi hk
    obtain rfl : i = k := by omega
    exact hlast 0
  | succ fuel ih =>
    intro i hi hk
    rcases hi.eq_or_lt with rfl | hlt
    · exact hlast (fuel + 1)
    · have hless : ulSectorSize * 2 ^ i < blockSize :=
        h ▸ Nat.mul_lt_mul_of_pos_left (Nat.pow_lt_pow_right (by decide) hlt) hsize
      unfold blockSectorShiftLoop
      rw [hpow i hi, if_pos hless]
      exact ih (i + 1) hlt (by omega)

/-- A size that divides the block size is one of its powers of two. -/
lemma exists_shift {ulSectorSize : ℕ} (h : blockSize % ulSectorSize = 0) :
    ∃ k ≤ blockSizeP2, ulSectorSize * 2 ^ k = blockSize := by
  have hdvd : ulSectorSize ∣ 2 ^ blockSizeP2 := Nat.dvd_of_mod_eq_zero h
  obtain ⟨j, hj, rfl⟩ := (Nat.dvd_prime_pow Nat.prime_two).1 hdvd
  refine ⟨blockSizeP2 - j, by omega, ?_⟩
  rw [← Nat.pow_add]
  unfold blockSize
  congr 1
  omega

/-- **What an accepted geometry is.** -/
lemma BdevInfo.initBlockGeometry_ok (hoff : off ≤ UINT64_MAX)
    (h : info.initBlockGeometry off = .ok (bShift, ulDevBlocks)) :
    SECTOR_SIZE_MIN ≤ info.ulSectorSize ∧ off + info.ullSectorCount ≤ UINT64_MAX ∧
      info.ulSectorSize * 2 ^ bShift = blockSize ∧
      ulDevBlocks = u32 (info.ullSectorCount / 2 ^ bShift) := by
  unfold BdevInfo.initBlockGeometry at h
  split_ifs at h with hc
  push Not at hc
  obtain ⟨hmin, hmod, hcount⟩ := hc
  obtain ⟨k, hk, hsize⟩ := exists_shift hmod
  rw [blockSectorShiftLoop_eq hsize _ 0 (by omega) (by omega)] at h
  have heq := Except.ok.inj h
  rw [Prod.mk.injEq] at heq
  obtain ⟨rfl, rfl⟩ := heq
  exact ⟨hmin, by omega, hsize, rfl⟩

end

/-! ## Regions -/

/-- What a block of a volume is for. -/
inductive Region
  | master
  | metaroot (bMR : Bool)
  | imapNode (ulImapNode : ℕ) (bWhich : Bool)
  | inodeSlot (ulInode : ℕ) (bWhich : Bool)
  | allocable

/-- The blocks of a region: one block for each copy of a node, and all allocable blocks together. -/
def FS.regionBlocks (s : FS) : Region → Set ℕ
  | .master => {BLOCK_NUM_MASTER}
  | .metaroot bMR => {BLOCK_NUM_FIRST_METAROOT + bMR.toNat}
  | .imapNode ulImapNode bWhich => {b | s.core.fImapInline = false ∧
      ulImapNode < s.core.ulImapNodeCount ∧
      b = s.core.ulImapStartBN + ulImapNode * 2 + bWhich.toNat}
  | .inodeSlot ulInode bWhich =>
    {b | s.inodeIsValid ulInode = true ∧ b = s.inodeBlock ulInode bWhich}
  | .allocable => {b | s.isAllocable b = true}

/-- The region of a block. -/
def FS.regionOf (s : FS) (ulBlock : ℕ) : Region :=
  if ulBlock = 0 then .master
  else if ulBlock < 3 then .metaroot (decide (ulBlock = 2))
  else if ulBlock < s.core.ulInodeTableStartBN then
    .imapNode ((ulBlock - 3) / 2) (decide ((ulBlock - 3) % 2 = 1))
  else if ulBlock < s.core.ulFirstAllocableBN then
    .inodeSlot ((ulBlock - s.core.ulInodeTableStartBN) / 2 + INODE_FIRST_VALID)
      (decide ((ulBlock - s.core.ulInodeTableStartBN) % 2 = 1))
  else .allocable

section

variable {s : FS} {b : ℕ}

/-- **Every block of the volume is in one region, and no other block is in any.** -/
lemma FS.Layout.mem_regionBlocks (h : s.Layout) (r : Region) :
    b ∈ s.regionBlocks r ↔ b < s.vol.ulBlockCount ∧ r = s.regionOf b := by
  have hstart := h.start_ge
  have hfirst := h.first
  have hle := h.first_le
  -- The imap nodes, none with an inline imap.
  obtain ⟨nodes, hnodes, hend⟩ : ∃ nodes, (∀ k w, (s.core.fImapInline = false ∧
      k < s.core.ulImapNodeCount ∧ b = s.core.ulImapStartBN + k * 2 + w) ↔
        k < nodes ∧ b = 3 + k * 2 + w) ∧ s.core.ulInodeTableStartBN = 3 + nodes * 2 := by
    cases hi : s.core.fImapInline with
    | true => exact ⟨0, fun k w => by simp, (h.inline hi).1⟩
    | false =>
      obtain ⟨himap, htable, -⟩ := h.external hi
      exact ⟨s.core.ulImapNodeCount, fun k w => by rw [himap]; simp, htable⟩
  have hvalid : ∀ n, s.inodeIsValid n = true ↔
      INODE_FIRST_VALID ≤ n ∧ n < INODE_FIRST_VALID + s.core.ulInodeCount := by
    simp [FS.inodeIsValid]
  unfold FS.regionOf FS.regionBlocks
  unfold INODE_FIRST_VALID at *
  cases r with
  | master =>
    simp only [Set.mem_singleton_iff, BLOCK_NUM_MASTER]
    split_ifs <;> simp <;> omega
  | metaroot bMR =>
    simp only [Set.mem_singleton_iff, BLOCK_NUM_FIRST_METAROOT]
    cases bMR <;> split_ifs <;> simp <;> omega
  | imapNode k w =>
    rw [Set.mem_ofPred_eq, hnodes]
    cases w <;> split_ifs <;> simp <;> omega
  | inodeSlot n w =>
    simp only [Set.mem_ofPred_eq, hvalid, FS.inodeBlock, INODE_FIRST_VALID]
    cases w <;> split_ifs <;> simp <;> omega
  | allocable =>
    simp only [Set.mem_ofPred_eq, FS.isAllocable, Bool.and_eq_true, decide_eq_true_eq]
    split_ifs <;> simp <;> omega

end

/-! ## Arithmetic -/

/-- `METAROOT_ENTRIES`. -/
def metarootEntriesChecked : Option ℕ := do
  Checked.mul 32 (← Checked.sub blockSize (32 + if deleteOpen then 12 else 0)) 8

/-- `IMAPNODE_ENTRIES`. -/
def imapnodeEntriesChecked : Option ℕ := do
  Checked.mul 32 (← Checked.sub blockSize NODEHEADER_SIZE) 8

/-- What `RedVolInitBlockLayout()` stores, with a value only where nothing wraps around. -/
structure BlockLayout where
  fImapInline : Bool
  ulInodeTableStartBN : ℕ
  ulFirstAllocableBN : ℕ
  ulBlocksAllocable : ℕ

/-- `ulInodeTableStartBN` with an external imap, for the blocks behind the metaroots. -/
def externalTableStartChecked (ulBlocks : ℕ) : Option ℕ := do
  let ulPerNode ← Checked.add 32 (← imapnodeEntriesChecked) 2
  let ulSum ← Checked.add 32 ulBlocks (← Checked.sub ulPerNode 1)
  Checked.add 32 3 (← Checked.mul 32 (ulSum / ulPerNode) 2)

/-- The arithmetic of `RedVolInitBlockLayout()` on a geometry that it accepts. -/
def initBlockLayoutChecked (ulBlockCount ulInodeCount : ℕ) : Option BlockLayout := do
  let ulBlocks ← Checked.sub ulBlockCount 3
  let fImapInline := decide (ulBlocks ≤ (← metarootEntriesChecked))
  let ulInodeTableStartBN ← (if fImapInline then some 3 else externalTableStartChecked ulBlocks)
  let _ullEnd ← Checked.add 64 (← Checked.mul 64 ulInodeCount 2) ulInodeTableStartBN
  let ulFirstAllocableBN ← Checked.add 32 ulInodeTableStartBN (← Checked.mul 32 ulInodeCount 2)
  let ulBlocksAllocable ← Checked.sub ulBlockCount ulFirstAllocableBN
  some ⟨fImapInline, ulInodeTableStartBN, ulFirstAllocableBN, ulBlocksAllocable⟩

section

variable {s : FS} {n inodes : ℕ}

lemma metarootEntriesChecked_eq : metarootEntriesChecked = some metarootEntries := by
  have h1 := blockSize_ge
  have h2 := blockSize_le
  unfold metarootEntriesChecked metarootEntries
  rw [Checked.sub_of_le (by split_ifs <;> omega)]
  exact Checked.mul_of_lt (by omega)

lemma imapnodeEntriesChecked_eq : imapnodeEntriesChecked = some imapnodeEntries := by
  have h1 := blockSize_ge
  have h2 := blockSize_le
  unfold imapnodeEntriesChecked imapnodeEntries NODEHEADER_SIZE
  rw [Checked.sub_of_le (by omega)]
  exact Checked.mul_of_lt (by omega)

lemma imapnodeEntries_le : imapnodeEntries ≤ 524288 := by
  have h2 := blockSize_le
  unfold imapnodeEntries
  omega

lemma externalTableStartChecked_eq (h : n - 3 + (imapnodeEntries + 2 - 1) ≤ UINT32_MAX)
    (hfit : 3 + layoutNodes n * 2 ≤ UINT32_MAX) :
    externalTableStartChecked (n - 3) = some (3 + layoutNodes n * 2) := by
  have he := imapnodeEntries_le
  unfold layoutNodes at hfit ⊢
  rw [u32_of_le h] at hfit ⊢
  unfold UINT32_MAX at h hfit
  unfold externalTableStartChecked
  rw [imapnodeEntriesChecked_eq]
  simp only [Option.bind_eq_bind, Option.bind_some]
  rw [Checked.add_of_lt (by omega), Option.bind_some, Checked.sub_of_le (by omega),
    Option.bind_some, Checked.add_of_lt (by omega), Option.bind_some,
    Checked.mul_of_lt (by omega), Option.bind_some]
  exact Checked.add_of_lt (by omega)

/-- Nothing wraps around where the layout of a geometry that has one is computed. -/
lemma initBlockLayoutChecked_eq (h : LayoutFits n inodes) :
    initBlockLayoutChecked n inodes = some ⟨layoutInline n, layoutStart n,
      layoutStart n + inodes * 2, n - (layoutStart n + inodes * 2)⟩ := by
  obtain ⟨hle, hge, hnodes, hfit, hsum⟩ := h
  have hstart : (if layoutInline n = true then some 3 else externalTableStartChecked (n - 3)) =
      some (layoutStart n) := by
    unfold layoutStart at hfit ⊢
    cases hi : layoutInline n with
    | true => rfl
    | false =>
      rw [hi, if_neg Bool.false_ne_true] at hfit
      rw [if_neg Bool.false_ne_true, if_neg Bool.false_ne_true,
        externalTableStartChecked_eq (hsum hi) (by omega)]
  unfold UINT32_MAX at hle
  unfold MINIMUM_METADATA_BLOCKS at hge
  unfold initBlockLayoutChecked
  rw [Checked.sub_of_le (by omega), metarootEntriesChecked_eq]
  simp only [Option.bind_eq_bind, Option.bind_some, ← layoutInline.eq_def]
  rw [hstart, Option.bind_some, Checked.mul_of_lt (by omega), Option.bind_some,
    Checked.add_of_lt (by omega), Option.bind_some, Checked.mul_of_lt (by omega),
    Option.bind_some, Checked.add_of_lt (by omega), Option.bind_some,
    Checked.sub_of_le hfit, Option.bind_some]

end

/-! ## Soundness -/

/-- The number of bits of the imap. -/
def FS.imapBitCount (s : FS) : ℕ :=
  if s.core.fImapInline then metarootEntries else s.core.ulImapNodeCount * imapnodeEntries

/-- **The regions make up the volume, and the imap covers the inodes and the allocable blocks.** -/
structure FS.SoundLayout (s : FS) : Prop where
  disjoint : ∀ r r', r ≠ r' → s.regionBlocks r ∩ s.regionBlocks r' = ∅
  cover : (⋃ r, s.regionBlocks r) = Set.Iio s.vol.ulBlockCount
  inodeBits : ∀ ulInode bWhich, s.inodeIsValid ulInode = true →
    s.hasImapBit (s.inodeBlock ulInode bWhich) = true
  allocableBits : ∀ b, s.isAllocable b = true → s.hasImapBit b = true
  bits : ∀ b, s.hasImapBit b = true → b - s.core.ulInodeTableStartBN < s.imapBitCount
  /-- The node that `RedImapEBlockGet()` reads is one, in the area of the imap. -/
  node : s.core.fImapInline = false → ∀ bMR b, s.hasImapBit b = true →
    s.core.imapNodeIdxIsValid ((b - s.core.ulInodeTableStartBN) / imapnodeEntries) = true ∧
      s.core.redImapNodeBlock bMR ((b - s.core.ulInodeTableStartBN) / imapnodeEntries) ∈
        Set.Ico s.core.ulImapStartBN s.core.ulInodeTableStartBN
  nodeArea : s.core.fImapInline = false → ∀ bMR k, s.core.imapNodeIdxIsValid k = true →
    s.core.redImapNodeBlock bMR k ∈ Set.Ico s.core.ulImapStartBN s.core.ulInodeTableStartBN
  /-- Nothing wraps around where the layout is computed. -/
  checked : initBlockLayoutChecked s.vol.ulBlockCount s.core.ulInodeCount =
    some ⟨s.core.fImapInline, s.core.ulInodeTableStartBN, s.core.ulFirstAllocableBN,
      s.vol.ulBlocksAllocable⟩

/-- **The volume fits the device, and its layout is sound.** -/
structure VolumeSound (info : BdevInfo) (ullSectorOffset bBlockSectorShift : ℕ)
    (s : FS) : Prop where
  bytes : s.vol.ulBlockCount * blockSize ≤ info.ullSectorCount * info.ulSectorSize
  sectors : s.vol.ulBlockCount * 2 ^ bBlockSectorShift ≤ info.ullSectorCount ∧
    ullSectorOffset + info.ullSectorCount ≤ UINT64_MAX
  shift : ∀ k ≤ bBlockSectorShift, info.ulSectorSize * 2 ^ k ≤ UINT32_MAX
  /-- The conversion to 32 bits keeps the number of blocks of the device. -/
  count : Checked.cast 32 (info.ullSectorCount / 2 ^ bBlockSectorShift) = some s.ulDevBlocks
  layout : s.SoundLayout

section

variable {s s' : FS} {info : BdevInfo} {off bShift : ℕ}

/-- A layout that has room for everything is sound. -/
lemma FS.HasLayout.sound (h : s.HasLayout) : s.SoundLayout := by
  have hl := h.layout
  have hstart := hl.start_ge
  have hfirst := hl.first
  have hle := hl.first_le
  have hallocable : ∀ b, s.isAllocable b = true ↔
      s.core.ulFirstAllocableBN ≤ b ∧ b < s.vol.ulBlockCount := by simp [FS.isAllocable]
  have harea : s.core.fImapInline = false → ∀ bMR k, s.core.imapNodeIdxIsValid k = true →
      s.core.redImapNodeBlock bMR k ∈ Set.Ico s.core.ulImapStartBN s.core.ulInodeTableStartBN := by
    intro hi bMR k hk
    rw [hl.idxIsValid hi] at hk
    obtain ⟨h1, h2, -⟩ := hl.external hi
    rcases s.core.redImapNodeBlock_mem bMR k with hb | hb <;> rw [hb, Set.mem_Ico] <;> omega
  refine ⟨fun r r' hne => ?_, ?_, fun n w hn => ?_, fun b hb => ?_, fun b hb => ?_,
    fun hi bMR b hb => ?_, harea, ?_⟩
  · rw [Set.eq_empty_iff_forall_notMem]
    rintro b ⟨hb, hb'⟩
    exact hne (((hl.mem_regionBlocks r).1 hb).2.trans ((hl.mem_regionBlocks r').1 hb').2.symm)
  · ext b
    rw [Set.mem_iUnion, Set.mem_Iio]
    constructor
    · rintro ⟨r, hr⟩
      exact ((hl.mem_regionBlocks r).1 hr).1
    · exact fun hb => ⟨s.regionOf b, (hl.mem_regionBlocks _).2 ⟨hb, rfl⟩⟩
  · simp only [FS.inodeIsValid, Bool.and_eq_true, decide_eq_true_eq] at hn
    rw [FS.hasImapBit_iff]
    unfold FS.inodeBlock
    cases w <;> simp <;> omega
  · rw [hallocable] at hb
    rw [FS.hasImapBit_iff]
    omega
  · have hb' := FS.hasImapBit_iff.1 hb
    unfold FS.imapBitCount
    cases hi : s.core.fImapInline with
    | true =>
      have := hl.inline hi
      rw [if_pos rfl]
      omega
    | false =>
      have hn := hl.node_lt hi hb
      rw [Nat.div_lt_iff_lt_mul imapnodeEntries_pos] at hn
      rwa [if_neg Bool.false_ne_true]
  · have hn := (hl.idxIsValid hi).2 (hl.node_lt hi hb)
    exact ⟨hn, harea hi bMR _ hn⟩
  · rw [initBlockLayoutChecked_eq h.fits, h.inline, h.start, h.first, hl.allocable, h.first]

/-- **An accepted layout is sound exactly if the imap is inline or the sum behind the number of its
nodes does not wrap around.** -/
lemma soundLayout_iff (hle : s.vol.ulBlockCount ≤ UINT32_MAX)
    (hrun : redVolInitBlockLayout s = (.ok (), s')) :
    s'.SoundLayout ↔ s.vol.ulBlockCount - 3 ≤ metarootEntries ∨
      s.vol.ulBlockCount - 3 + (imapnodeEntries + 2 - 1) ≤ UINT32_MAX := by
  obtain ⟨hge, hnodes, hfit⟩ := redVolInitBlockLayout_accepts hrun
  rw [redVolInitBlockLayout_run hge hnodes hle hfit] at hrun
  obtain rfl : s.withLayout = s' := congrArg Prod.snd hrun
  have hinline : s.vol.ulBlockCount - 3 ≤ metarootEntries ↔
      layoutInline s.vol.ulBlockCount = true := by simp [layoutInline]
  constructor
  · intro h
    by_contra hc
    push Not at hc
    obtain ⟨hext, hwrap⟩ := hc
    have hi : layoutInline s.vol.ulBlockCount = false := by
      rw [← Bool.not_eq_true, ← hinline]
      omega
    -- The sum wraps around to less than one node takes.
    have he := imapnodeEntries_le
    have hzero : layoutNodes s.vol.ulBlockCount = 0 := by
      unfold layoutNodes u32
      unfold UINT32_MAX at hle hwrap
      rw [Nat.div_eq_zero_iff]
      right
      omega
    have hbit : s.withLayout.hasImapBit 3 = true := by
      rw [FS.hasImapBit_iff]
      change layoutStart s.vol.ulBlockCount ≤ 3 ∧ 3 < s.vol.ulBlockCount
      unfold MINIMUM_METADATA_BLOCKS at hge
      unfold layoutStart
      rw [hi, hzero]
      simp
      omega
    have hlt := h.bits 3 hbit
    unfold FS.imapBitCount at hlt
    have hnode : s.withLayout.core.ulImapNodeCount = 0 := by
      change (if layoutInline s.vol.ulBlockCount then _ else layoutNodes s.vol.ulBlockCount) = 0
      rw [hi, if_neg Bool.false_ne_true, hzero]
    have hext' : s.withLayout.core.fImapInline = false := hi
    rw [hext', if_neg Bool.false_ne_true, hnode, Nat.zero_mul] at hlt
    exact Nat.not_lt_zero _ hlt
  · intro hc
    refine FS.HasLayout.sound (FS.withLayout_hasLayout ⟨hle, hge, hnodes, hfit, fun hi => ?_⟩)
    rcases hc with hc | hc
    · rw [hinline, hi] at hc
      cases hc
    · exact hc

/-- **A geometry that both functions accept is sound exactly if** the device has at most
`UINT32_MAX` blocks, and the imap is inline or the sum behind the number of its nodes fits in 32
bits. The second condition alone decides the soundness of the layout. -/
theorem volumeLayout_sound_iff (hoff : off ≤ UINT64_MAX)
    (hgeometry : info.initBlockGeometry off = .ok (bShift, s.ulDevBlocks))
    (hcount : s.vol.ulBlockCount ≤ s.ulDevBlocks)
    (hlayout : redVolInitBlockLayout s = (.ok (), s')) :
    (VolumeSound info off bShift s' ↔
      info.ullSectorCount * info.ulSectorSize / blockSize ≤ UINT32_MAX ∧
        (s.vol.ulBlockCount - 3 ≤ metarootEntries ∨
          s.vol.ulBlockCount - 3 + (imapnodeEntries + 2 - 1) ≤ UINT32_MAX)) ∧
    (s'.SoundLayout ↔ s.vol.ulBlockCount - 3 ≤ metarootEntries ∨
      s.vol.ulBlockCount - 3 + (imapnodeEntries + 2 - 1) ≤ UINT32_MAX) := by
  obtain ⟨hmin, hoffset, hsize, hdev⟩ := BdevInfo.initBlockGeometry_ok hoff hgeometry
  have hdevle : s.ulDevBlocks ≤ UINT32_MAX := by
    rw [hdev]
    unfold u32 UINT32_MAX
    omega
  have hiff := soundLayout_iff (hcount.trans hdevle) hlayout
  refine ⟨?_, hiff⟩
  obtain ⟨hge, hnodes, hfit⟩ := redVolInitBlockLayout_accepts hlayout
  rw [redVolInitBlockLayout_run hge hnodes (hcount.trans hdevle) hfit] at hlayout
  obtain rfl : s.withLayout = s' := congrArg Prod.snd hlayout
  have hblocks : info.ullSectorCount * info.ulSectorSize / blockSize =
      info.ullSectorCount / 2 ^ bShift := by
    unfold SECTOR_SIZE_MIN at hmin
    rw [← hsize, Nat.mul_comm info.ulSectorSize, Nat.mul_div_mul_right _ _ (by omega)]
  have hcast : Checked.cast 32 (info.ullSectorCount / 2 ^ bShift) = some s.ulDevBlocks ↔
      info.ullSectorCount / 2 ^ bShift ≤ UINT32_MAX := by
    rw [Checked.cast_eq_some, hdev]
    generalize info.ullSectorCount / 2 ^ bShift = ulBlocks
    unfold u32 UINT32_MAX
    omega
  rw [hblocks]
  constructor
  · intro h
    exact ⟨hcast.1 h.count, hiff.1 h.layout⟩
  · rintro ⟨hfits, hc⟩
    have hsectors : s.vol.ulBlockCount * 2 ^ bShift ≤ info.ullSectorCount := by
      have hle : s.vol.ulBlockCount ≤ info.ullSectorCount / 2 ^ bShift :=
        hcount.trans (hdev.le.trans (Nat.mod_le _ _))
      exact (Nat.mul_le_mul_right _ hle).trans (Nat.div_mul_le_self _ _)
    refine ⟨?_, ⟨hsectors, hoffset⟩, fun k hk => ?_, hcast.2 hfits, hiff.2 hc⟩
    · calc s.vol.ulBlockCount * blockSize
          = s.vol.ulBlockCount * 2 ^ bShift * info.ulSectorSize := by
            rw [← hsize, Nat.mul_comm info.ulSectorSize, Nat.mul_assoc]
        _ ≤ info.ullSectorCount * info.ulSectorSize := Nat.mul_le_mul_right _ hsectors
    · have hpow : info.ulSectorSize * 2 ^ k ≤ blockSize :=
        hsize ▸ Nat.mul_le_mul_left _ (Nat.pow_le_pow_right (by decide) hk)
      have := blockSize_le
      unfold UINT32_MAX
      omega

end

omit [RedConf] in
/-- A volume of 16 blocks on a device of 16 sectors is sound. -/
theorem volumeLayout_sound_small : letI := smallConf
    VolumeSound ⟨512, 16⟩ 0 0 (emptyGeometry 5 16 4).withLayout := by
  let _ := smallConf
  have hgeo : BdevInfo.initBlockGeometry ⟨512, 16⟩ 0 =
      .ok (0, (emptyGeometry 5 16 4).ulDevBlocks) := by decide
  have hrun : redVolInitBlockLayout (emptyGeometry 5 16 4) =
      (.ok (), (emptyGeometry 5 16 4).withLayout) :=
    redVolInitBlockLayout_run (by decide) (by decide) (by decide) (by decide)
  exact ((volumeLayout_sound_iff (by decide) hgeo (by decide) hrun).1).2 ⟨by decide, by decide⟩

omit [RedConf] in
/-- A device of `UINT32_MAX` blocks is accepted with an external imap that has no node. -/
theorem redVolInitBlockLayout_wraps : letI := smallConf
    BdevInfo.initBlockGeometry ⟨512, UINT32_MAX⟩ 0 = .ok (0, UINT32_MAX) ∧
      (emptyGeometry 5 UINT32_MAX 4).vol.ulBlockCount = UINT32_MAX ∧
      redVolInitBlockLayout (emptyGeometry 5 UINT32_MAX 4) =
        (.ok (), (emptyGeometry 5 UINT32_MAX 4).withLayout) ∧
      (emptyGeometry 5 UINT32_MAX 4).withLayout.core.fImapInline = false ∧
      (emptyGeometry 5 UINT32_MAX 4).withLayout.core.ulImapNodeCount = 0 ∧
      ¬ VolumeSound ⟨512, UINT32_MAX⟩ 0 0 (emptyGeometry 5 UINT32_MAX 4).withLayout := by
  let _ := smallConf
  have hrun : redVolInitBlockLayout (emptyGeometry 5 UINT32_MAX 4) =
      (.ok (), (emptyGeometry 5 UINT32_MAX 4).withLayout) :=
    redVolInitBlockLayout_run (by decide) (by decide) (by decide) (by decide)
  refine ⟨by decide, by decide, hrun, by decide, by decide, fun h => ?_⟩
  have hbad := (soundLayout_iff (by decide) hrun).1 h.layout
  revert hbad
  decide

end RelianceEdge
