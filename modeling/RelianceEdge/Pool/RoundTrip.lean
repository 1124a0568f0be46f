import RelianceEdge.Pool.Metaroot
import RelianceEdge.Pool.Transparent

set_option relaxedAutoImplicit false
set_option autoImplicit false
set_option linter.unusedSectionVars false

/-!
# What is written to the disk is read back

The image of a metaroot is written by `RedVolTransact()`, that of a node by `BufferWrite()`. Both
are prepared in place, in the byte order of the disk, and swapped back once they are written; the
checksums are taken over the swapped bytes and stored swapped themselves.

## Main definitions

* `RawMetaroot.SameContent` — metaroots that differ in their headers and checksums alone.
* `Volumes.Committed` — what a transaction point leaves on the disk and in memory.
* `RawBlock.IsImage` — a block is the image of a node; `Pool.NodeWritten` — it was written.

## Main results

* `RawMetaroot.metaroot_block` — the fields of a metaroot are read from its bytes.
* `RawMetaroot.metarootIsValid_finalized` — the image of a metaroot is valid.
* `Pool.redBufferIsValid_finalized` — the image of a node is valid for its type alone.
* `image_roundTrip` — the round trip, for metaroots and nodes.
-/

namespace RelianceEdge

variable [RedConf] [PoolConf] [MetarootConf]

open RedConf PoolConf MetarootConf

/-! ## The bytes of a metaroot -/

@[simp] lemma length_bytes32 (n : UInt32) : (bytes32 n).length = 4 := Bytes.length_field ..

/-- The number at the front of a list. -/
lemma number32_bytes32 (n : UInt32) (bytes : List UInt8) : number32 (bytes32 n ++ bytes) 0 = n := by
  have hl : (bytes32 n ++ bytes).take 4 = bytes32 n := List.take_left' (length_bytes32 n)
  have hn : n.toNat < 256 ^ 4 := n.toNat_lt
  rw [number32, List.drop_zero, hl, bytes32, Bytes.number_field, Nat.mod_eq_of_lt hn]
  exact UInt32.ofNat_toNat

/-- A number behind the one at the front. -/
lemma number32_skip (n : UInt32) (bytes : List UInt8) (offset : ℕ) :
    number32 (bytes32 n ++ bytes) (offset + 4) = number32 bytes offset := by
  have hd : (bytes32 n ++ bytes).drop (offset + 4) = bytes.drop offset := by
    rw [Nat.add_comm, ← List.drop_drop, List.drop_left' (length_bytes32 n)]
  rw [number32, hd, number32]

namespace RawMetaroot

@[ext] lemma ext' {a b : RawMetaroot} (hh : a.hdr = b.hdr) (hc : a.ulSectorCRC = b.ulSectorCRC)
    (hf : a.ulFreeBlocks = b.ulFreeBlocks) (hi : a.ulFreeInodes = b.ulFreeInodes)
    (hn : a.ulAllocNextBlock = b.ulAllocNextBlock) (ho : a.orphans = b.orphans)
    (he : a.abEntries = b.abEntries) : a = b := by
  cases a
  cases b
  simp_all

/-- The first field is at the front of the bytes, the second behind it, and so on. -/
lemma block_rest (pMR : RawMetaroot) : pMR.block.rest =
    bytes32 pMR.ulSectorCRC ++ (bytes32 pMR.ulFreeBlocks ++ (bytes32 pMR.ulFreeInodes ++
      (bytes32 pMR.ulAllocNextBlock ++
        (pMR.orphans.elim [] OrphanLists.bytes ++ pMR.abEntries.toList)))) := by
  simp only [block, List.append_assoc]

/-- The orphan lists are read from their bytes. -/
lemma orphans_block (pMR : RawMetaroot) : pMR.block.metaroot.orphans = pMR.orphans := by
  have hsome := pMR.orphans_isSome
  rcases ho : pMR.orphans with _ | orphans
  · rw [ho] at hsome
    exact if_neg (by rw [← hsome]; exact Bool.false_ne_true)
  · rw [ho] at hsome
    refine (if_pos hsome.symm).trans ?_
    rw [block_rest, ho]
    simp only [Option.elim_some, OrphanLists.bytes, List.append_assoc]
    simp only [number32_skip, number32_bytes32]

/-- The allocation bits are read from their bytes. -/
lemma abEntries_block (pMR : RawMetaroot) : pMR.block.metaroot.abEntries = pMR.abEntries := by
  have hlen : (pMR.orphans.elim [] OrphanLists.bytes).length = if deleteOpen then 12 else 0 := by
    rw [← pMR.orphans_isSome]
    cases pMR.orphans
    · rfl
    · simp [OrphanLists.bytes]
  apply Vector.ext
  intro i hi
  have hl : i < pMR.abEntries.toList.length := by
    rw [Vector.length_toList]
    exact hi
  refine (Vector.getElem_ofFn hi).trans ?_
  have hle : 4 + 4 + 4 + 4 + (if deleteOpen then 12 else 0) ≤
      16 + (if deleteOpen then 12 else 0) + i := Nat.le_add_right ..
  rw [block, List.getD_append_right]
  · simp only [List.length_append, length_bytes32, hlen]
    rw [Nat.add_sub_cancel_left, List.getD_eq_getElem _ _ hl, Vector.getElem_toList]
  · simp only [List.length_append, length_bytes32, hlen]
    exact hle

/-- **Round trip**: the fields of a metaroot are read from its bytes. -/
theorem metaroot_block (pMR : RawMetaroot) : pMR.block.metaroot = pMR := by
  apply ext'
  · rfl
  · exact (congrArg (number32 · 0) (block_rest pMR)).trans (number32_bytes32 ..)
  · refine (congrArg (number32 · 4) (block_rest pMR)).trans ?_
    simp only [number32_skip, number32_bytes32]
  · refine (congrArg (number32 · 8) (block_rest pMR)).trans ?_
    simp only [number32_skip, number32_bytes32]
  · refine (congrArg (number32 · 12) (block_rest pMR)).trans ?_
    simp only [number32_skip, number32_bytes32]
  · exact orphans_block pMR
  · exact abEntries_block pMR

/-! ## The image of a metaroot -/

@[simp] lemma metaRootEndianSwap_swap (pMR : RawMetaroot) :
    pMR.metaRootEndianSwap.metaRootEndianSwap = pMR := by
  apply ext'
  · simp [metaRootEndianSwap]
  · simp [metaRootEndianSwap]
  · simp [metaRootEndianSwap]
  · simp [metaRootEndianSwap]
  · simp [metaRootEndianSwap]
  · cases h : pMR.orphans
    · simp [metaRootEndianSwap, h]
    · simp [metaRootEndianSwap, h, OrphanLists.swap]
  · rfl

@[simp] lemma swap_swap (pMR : RawMetaroot) : pMR.swap.swap = pMR := by
  unfold swap
  split_ifs
  · exact metaRootEndianSwap_swap pMR
  · rfl

/-- **What the file system keeps in a metaroot**: the counters, the heads of the orphan lists and
the allocation bits. -/
structure SameContent (a b : RawMetaroot) : Prop where
  ulFreeBlocks : a.ulFreeBlocks = b.ulFreeBlocks
  ulFreeInodes : a.ulFreeInodes = b.ulFreeInodes
  ulAllocNextBlock : a.ulAllocNextBlock = b.ulAllocNextBlock
  orphans : a.orphans = b.orphans
  abEntries : a.abEntries = b.abEntries

/-- Metaroots that differ in their checksums alone. -/
structure Agrees (a b : RawMetaroot) : Prop extends SameContent a b where
  ulSignature : a.hdr.ulSignature = b.hdr.ulSignature
  ullSequence : a.hdr.ullSequence = b.hdr.ullSequence

lemma SameContent.symm {a b : RawMetaroot} (h : a.SameContent b) : b.SameContent a :=
  ⟨h.ulFreeBlocks.symm, h.ulFreeInodes.symm, h.ulAllocNextBlock.symm, h.orphans.symm,
    h.abEntries.symm⟩

lemma SameContent.trans {a b c : RawMetaroot} (h : a.SameContent b) (h' : b.SameContent c) :
    a.SameContent c :=
  ⟨h.ulFreeBlocks.trans h'.ulFreeBlocks, h.ulFreeInodes.trans h'.ulFreeInodes,
    h.ulAllocNextBlock.trans h'.ulAllocNextBlock, h.orphans.trans h'.orphans,
    h.abEntries.trans h'.abEntries⟩

lemma Agrees.symm {a b : RawMetaroot} (h : a.Agrees b) : b.Agrees a :=
  ⟨h.toSameContent.symm, h.ulSignature.symm, h.ullSequence.symm⟩

lemma Agrees.trans {a b c : RawMetaroot} (h : a.Agrees b) (h' : b.Agrees c) : a.Agrees c :=
  ⟨h.toSameContent.trans h'.toSameContent, h.ulSignature.trans h'.ulSignature,
    h.ullSequence.trans h'.ullSequence⟩

lemma Agrees.swap {a b : RawMetaroot} (h : a.Agrees b) : a.swap.Agrees b.swap := by
  unfold RawMetaroot.swap
  split_ifs
  · exact ⟨⟨congrArg redRev32 h.ulFreeBlocks, congrArg redRev32 h.ulFreeInodes,
      congrArg redRev32 h.ulAllocNextBlock, congrArg (Option.map OrphanLists.swap) h.orphans,
      h.abEntries⟩, congrArg redRev32 h.ulSignature, congrArg redRev64 h.ullSequence⟩
  · exact h

/-- Preparing a metaroot sets its checksums and swaps the rest. -/
lemma finalized_agrees (pMR : RawMetaroot) (bVolNum : ℕ) :
    (pMR.finalized bVolNum).Agrees pMR.swap := ⟨⟨rfl, rfl, rfl, rfl, rfl⟩, rfl, rfl⟩

/-- The metaroot in memory is what it was, once it is swapped back. -/
lemma finalized_swap_agrees (pMR : RawMetaroot) (bVolNum : ℕ) :
    (pMR.finalized bVolNum).swap.Agrees pMR := by
  have h := (pMR.finalized_agrees bVolNum).swap
  rwa [swap_swap] at h

@[simp] lemma toDisk32_toDisk32 (n : UInt32) : toDisk32 (toDisk32 n) = n := by
  unfold toDisk32
  split_ifs
  · exact redRev32_redRev32 n
  · rfl

lemma swap_ulSignature (pMR : RawMetaroot) :
    pMR.swap.hdr.ulSignature = toDisk32 pMR.hdr.ulSignature := by
  unfold swap toDisk32
  split_ifs <;> rfl

/-- The checksum of what follows the first sector, which is empty when the sector is the block. -/
lemma crc_rest (pMR : RawMetaroot) (bVolNum : ℕ) (ulSectorCRC : UInt32) :
    redCrc32Update ulSectorCRC
        ((pMR.bytesFrom (ulSectorSize bVolNum)).take (blockSize - ulSectorSize bVolNum)) =
      if ulSectorSize bVolNum < blockSize then
        redCrc32Update ulSectorCRC
          ((pMR.bytesFrom (ulSectorSize bVolNum)).take (blockSize - ulSectorSize bVolNum))
      else ulSectorCRC := by
  split_ifs with h
  · rfl
  · rw [Nat.sub_eq_zero_of_le (Nat.le_of_not_lt h), List.take_zero, redCrc32Update_nil]

/-- **The image of a metaroot is valid**, and the metaroot that was written but for the checksums
once it is swapped. -/
theorem metarootIsValid_finalized (pMR : RawMetaroot) (bVolNum : ℕ)
    (hsig : pMR.hdr.ulSignature = META_SIG_METAROOT) :
    ∃ image, (pMR.finalized bVolNum).metarootIsValid bVolNum = (true, true, image) ∧
      image.swap.Agrees pMR := by
  set image : RawMetaroot := { pMR.finalized bVolNum with ulSectorCRC := 0 } with himage
  have hagrees : image.Agrees pMR.swap := ⟨⟨rfl, rfl, rfl, rfl, rfl⟩, rfl, rfl⟩
  have hdisk : toDisk32 (pMR.finalized bVolNum).hdr.ulSignature = META_SIG_METAROOT := by
    rw [(pMR.finalized_agrees bVolNum).ulSignature, swap_ulSignature, toDisk32_toDisk32, hsig]
  -- The checksums were taken with the first one zero and the second left out, as they are here.
  have hsector : redCrc32Update 0 ((image.bytesFrom 8).take (ulSectorSize bVolNum - 8)) =
      toDisk32 (pMR.finalized bVolNum).ulSectorCRC := (toDisk32_toDisk32 _).symm
  refine ⟨image, ?_, by simpa using hagrees.swap⟩
  rw [metarootIsValid, if_neg (not_not.2 hdisk)]
  dsimp only
  rw [← himage, hsector, if_pos rfl, crc_rest, ← hsector]
  have hcrc : (toDisk32 (if ulSectorSize bVolNum < blockSize then
      redCrc32Update (redCrc32Update 0 ((image.bytesFrom 8).take (ulSectorSize bVolNum - 8)))
        ((image.bytesFrom (ulSectorSize bVolNum)).take (blockSize - ulSectorSize bVolNum))
      else redCrc32Update 0 ((image.bytesFrom 8).take (ulSectorSize bVolNum - 8)))) =
      (pMR.finalized bVolNum).hdr.ulCRC := rfl
  rw [hcrc, beq_self_eq_true]

end RawMetaroot

/-! ## The requests of a write that succeeds -/

namespace Pool

variable {s s' : Pool} {v b n i : ℕ} {type : BufType}

lemma redVolSeqNumIncrement_eq_ok (h : redVolSeqNumIncrement v s = (.ok (), s')) :
    s' = s.setVolume v { s.gaRedVolume v with
      ullSequence := (s.gaRedVolume v).ullSequence + 1 } := by
  rw [redVolSeqNumIncrement, Op.get_bind_run] at h
  split_ifs at h
  · cases h
  · cases h
  · exact (congrArg Prod.snd h).symm

lemma redIoWrite_eq_ok {blocks : ℕ → RawBlock} (h : redIoWrite v b n blocks s = (.ok (), s')) :
    s' = { s with outcomes := s.outcomes.tail }.setDisk v b n blocks := by
  rw [redIoWrite, Op.get_bind_run] at h
  split_ifs at h
  · cases h
  · rw [Op.bind_ok (x := request) rfl] at h
    rcases hout : s.outcomes.headD none with _ | garbage
    · rw [hout] at h
      exact (congrArg Prod.snd h).symm
    · rw [hout] at h
      cases h

lemma redIoFlush_eq_ok (h : redIoFlush v s = (.ok (), s')) :
    s' = { s with outcomes := s.outcomes.tail } := by
  rw [redIoFlush, Op.attempt_bind_run] at h
  split_ifs at h with hv
  · cases h
  · rw [Op.bind_ok (x := request) rfl] at h
    rcases hout : s.outcomes.headD none with _ | garbage
    · rw [hout] at h
      exact (congrArg Prod.snd h).symm
    · rw [hout] at h
      cases h

/-! ## Nodes -/

/-- The image of a node, once it is swapped back: the node with a new header. -/
lemma finalized_swap (node : RawBlock) (ht : type ≠ .data) (ullSeqNum : UInt64) :
    ((finalized node type ullSeqNum).swap type).rest = node.rest ∧
      ((finalized node type ullSeqNum).swap type).hdr.ulSignature = metaSig type ∧
      ((finalized node type ullSeqNum).swap type).hdr.ullSequence = ullSeqNum := by
  unfold finalized RawBlock.swap RawBlock.redBufferEndianSwap
  dsimp only
  split_ifs
  · simp [NodeHeader.swap]
  · exact ⟨rfl, rfl, rfl⟩

/-- The header of the image of a node, in the byte order of the machine. -/
lemma finalized_fromDisk (node : RawBlock) (ht : type ≠ .data) (ullSeqNum : UInt64) :
    (finalized node type ullSeqNum).hdr.fromDisk = ⟨metaSig type,
      redCrcNode (finalized node type ullSeqNum).hdr.ullSequence
        (finalized node type ullSeqNum).rest, ullSeqNum⟩ := by
  unfold finalized RawBlock.swap RawBlock.redBufferEndianSwap NodeHeader.fromDisk
  dsimp only
  split_ifs
  · simp [NodeHeader.swap]
  · rfl

/-- Each type of node has its own signature. -/
lemma metaSig_injective {type' : BufType} (h : metaSig type = metaSig type') : type = type' := by
  cases type <;> cases type' <;> first | rfl | exact absurd h (by decide)

/-- **The image of a node is valid for its type alone**, and while its sequence number is below
that of the volume. -/
theorem redBufferIsValid_finalized (s : Pool) (node : RawBlock) (ht : type ≠ .data)
    (ullSeqNum : UInt64) (type' : BufType) :
    s.redBufferIsValid (finalized node type ullSeqNum) type' = true ↔
      type' = type ∧ (s.gpRedVolume.fMounted = true → ullSeqNum < s.gpRedVolume.ullSequence) := by
  rw [redBufferIsValid, finalized_fromDisk node ht]
  simp only [Bool.and_eq_true, beq_iff_eq, Bool.not_eq_true', Bool.and_eq_false_iff,
    decide_eq_false_iff_not]
  constructor
  · rintro ⟨⟨hsig, -⟩, hseq⟩
    refine ⟨(metaSig_injective hsig).symm, fun hm => ?_⟩
    rcases hseq with hf | hlt
    · rw [hm] at hf
      cases hf
    · exact UInt64.not_le.1 hlt
  · rintro ⟨rfl, hseq⟩
    refine ⟨⟨rfl, trivial⟩, ?_⟩
    cases hm : s.gpRedVolume.fMounted
    · exact .inl rfl
    · exact .inr (UInt64.not_le.2 (hseq hm))

/-- `BufferWrite()` of a node: its image goes to the disk, and is swapped back in the buffer. -/
lemma bufferWrite_eq_ok (ht : (s.aHead i).type ≠ .data) (h : bufferWrite i s = (.ok (), s')) :
    s'.disk (s.aHead i).bVolNum (s.aHead i).ulBlock = finalized (s.pbBlkBuf i) (s.aHead i).type
        (s.gaRedVolume (s.aHead i).bVolNum).ullSequence ∧
      s'.pbBlkBuf = Function.update s.pbBlkBuf i ((finalized (s.pbBlkBuf i) (s.aHead i).type
        (s.gaRedVolume (s.aHead i).bVolNum).ullSequence).swap (s.aHead i).type) ∧
      s'.aHead = s.aHead ∧ s'.gbRedVolNum = s.gbRedVolNum ∧
      ∀ w x, (w, x) ≠ ((s.aHead i).bVolNum, (s.aHead i).ulBlock) → s'.disk w x = s.disk w x := by
  rw [bufferWrite, Op.get_bind_run] at h
  rw [Op.when_pos ht] at h
  obtain ⟨⟨⟩, s1, hfin, h⟩ := Op.bind_eq_ok h
  rw [redBufferFinalize, Op.get_bind_run] at hfin
  split_ifs at hfin with hv
  · cases hfin
  obtain ⟨⟨⟩, s0, hinc, hfin⟩ := Op.bind_eq_ok hfin
  have hs0 := redVolSeqNumIncrement_eq_ok hinc
  have hs1 : s1 = s0.setBuf i (finalized (s0.pbBlkBuf i) (s.aHead i).type
      (s.gaRedVolume (s.aHead i).bVolNum).ullSequence) := (congrArg Prod.snd hfin).symm
  rw [Op.get_bind_run] at h
  obtain ⟨s2, ⟨⟩, hwrite, hswap⟩ := Op.attempt_bind_eq_ok h
  have hs2 := redIoWrite_eq_ok hwrite
  have hs' : s' = s2.setBuf i ((s2.pbBlkBuf i).swap (s.aHead i).type) :=
    (congrArg Prod.snd hswap).symm
  subst hs0 hs1 hs2 hs'
  refine ⟨(if_pos ⟨rfl, le_rfl, Nat.lt_succ_self _⟩).trans (Function.update_self ..), ?_, rfl, rfl,
    fun w x hne => if_neg ?_⟩
  · refine (Function.update_idem ..).trans ?_
    refine congrArg (fun block : RawBlock => Function.update s.pbBlkBuf i (block.swap _)) ?_
    exact Function.update_self ..
  · rintro ⟨rfl, hle, hlt⟩
    exact hne (congrArg _ (by omega))

/-- `BufferWrite()` of file data. -/
lemma bufferWrite_data_eq_ok (ht : (s.aHead i).type = .data) (h : bufferWrite i s = (.ok (), s')) :
    s'.gbRedVolNum = s.gbRedVolNum ∧
      ∀ w x, (w, x) ≠ ((s.aHead i).bVolNum, (s.aHead i).ulBlock) → s'.disk w x = s.disk w x := by
  rw [bufferWrite, Op.get_bind_run] at h
  rw [Op.when_neg (not_not.2 ht), Op.pure_bind_run, Op.get_bind_run] at h
  obtain ⟨s2, ⟨⟩, hwrite, hswap⟩ := Op.attempt_bind_eq_ok h
  have hs2 := redIoWrite_eq_ok hwrite
  have hs' : s' = s2.setBuf i ((s2.pbBlkBuf i).swap (s.aHead i).type) :=
    (congrArg Prod.snd hswap).symm
  subst hs2 hs'
  refine ⟨rfl, fun w x hne => if_neg ?_⟩
  rintro ⟨rfl, hle, hlt⟩
  exact hne (congrArg _ (by omega))

/-- Writing a buffer leaves the other blocks alone. -/
lemma bufferWrite_other (h : bufferWrite i s = (.ok (), s')) {w x : ℕ}
    (hne : (w, x) ≠ ((s.aHead i).bVolNum, (s.aHead i).ulBlock)) :
    s'.gbRedVolNum = s.gbRedVolNum ∧ s'.disk w x = s.disk w x := by
  by_cases ht : (s.aHead i).type = .data
  · obtain ⟨hcur, hdisk⟩ := bufferWrite_data_eq_ok ht h
    exact ⟨hcur, hdisk w x hne⟩
  · obtain ⟨-, -, -, hcur, hdisk⟩ := bufferWrite_eq_ok ht h
    exact ⟨hcur, hdisk w x hne⟩

/-- `RedIoRead()` that succeeds. -/
lemma redIoRead_eq_ok {r : Except RedError Unit × Option (ℕ → RawBlock)}
    (h : redIoRead v b n s = (.ok r, s')) (hr : r.1 = .ok ()) :
    s' = { s with outcomes := s.outcomes.tail } ∧
      r.2 = some fun ulIdx => s.disk v (b + ulIdx) := by
  rw [redIoRead, Op.get_bind_run] at h
  split_ifs at h
  · obtain ⟨_, s1, -, h⟩ := Op.bind_eq_ok h
    cases h
    cases hr
  · rw [Op.bind_ok (x := request) rfl] at h
    rcases hout : s.outcomes.headD none with _ | garbage
    · rw [hout] at h
      cases h
      exact ⟨rfl, rfl⟩
    · rw [hout] at h
      obtain ⟨_, s1, -, h⟩ := Op.bind_eq_ok h
      cases h
      cases hr

/-- A block that is read for a buffer is swapped from the byte order of the disk. -/
lemma bufferFill_eq_ok (h : bufferFill i b type false s = (.ok (), s')) :
    s'.pbBlkBuf i = (s.disk s.gbRedVolNum b).swap type ∧
      s'.gbRedVolNum = s.gbRedVolNum := by
  rw [bufferFill, if_neg Bool.false_ne_true, Op.modify_bind_run, Op.get_bind_run] at h
  obtain ⟨⟨ret, blocks⟩, s1, hread, h⟩ := Op.bind_eq_ok h
  dsimp only at h
  rw [Op.modify_bind_run] at h
  obtain ⟨⟨⟩, s2, hret, h⟩ := Op.bind_eq_ok h
  have hs2 := (congrArg Prod.snd hret).symm
  obtain ⟨rfl, hblocks⟩ := redIoRead_eq_ok hread (congrArg Prod.fst hret)
  dsimp only at hblocks
  subst hblocks hs2
  rw [Op.get_bind_run] at h
  -- A block that is not valid fails the call.
  obtain ⟨⟨⟩, s3, hvalid, h⟩ := Op.bind_eq_ok h
  have hs' : s' = s3.setBuf i ((s3.pbBlkBuf i).swap type) := (congrArg Prod.snd h).symm
  rw [Op.when] at hvalid
  split_ifs at hvalid with hbad
  · obtain ⟨⟨⟩, s4, -, hfail⟩ := Op.bind_eq_ok hvalid
    cases hfail
  · obtain ⟨-, rfl⟩ := Prod.mk.inj hvalid
    subst hs'
    refine ⟨(Function.update_self ..).trans ?_, rfl⟩
    exact congrArg (RawBlock.swap · type) (Function.update_self ..)

/-- `RedBufferGet()` of a block that is not in the cache, when it reads the block. -/
lemma redBufferGet_eq_ok (hmru : ∀ j ∈ s.abMRU, j < bufferCount)
    (hfind : s.find s.gbRedVolNum b = none) {fDirty : Bool}
    (h : redBufferGet b type fDirty false s = (.ok i, s')) :
    s'.pbBlkBuf i = (s.disk s.gbRedVolNum b).swap type := by
  rw [redBufferGet, Op.get_bind_run] at h
  by_cases hb : s.gpRedVolume.ulBlockCount ≤ b
  · rw [if_pos (.inl hb)] at h
    cases h
  rw [if_neg (by simp [hb])] at h
  obtain ⟨bIdx, s1, hobtain, h⟩ := Op.bind_eq_ok h
  rw [Op.bind_ok (bufferReference_run ..)] at h
  cases h
  change s1.pbBlkBuf i = _
  rw [bufferObtain, Op.get_bind_run] at hobtain
  obtain ⟨found, _, hget, rfl, rfl⟩ := bufferFind_ok (not_le.1 hb)
  rw [Op.bind_ok hget, hfind] at hobtain
  dsimp only at hobtain
  split_ifs at hobtain
  · cases hobtain
  rw [bufferRepurpose, Op.get_bind_run] at hobtain
  rcases hlru : s.abMRU.reverse.find? fun j => (s.aHead j).bRefCount == 0 with _ | j
  · rw [hlru] at hobtain
    cases hobtain
  have hj : j < bufferCount := hmru j (List.mem_reverse.1 (List.mem_of_find?_eq_some hlru))
  have hne : (s.gbRedVolNum, b) ≠ ((s.aHead j).bVolNum, (s.aHead j).ulBlock) := by
    intro hc
    have hfound := List.find?_eq_none.1 hfind j (List.mem_range.2 hj)
    simp [← (Prod.mk.inj hc).1, ← (Prod.mk.inj hc).2] at hfound
  rw [hlru] at hobtain
  dsimp only at hobtain
  obtain ⟨⟨⟩, s2, hevict, hobtain⟩ := Op.bind_eq_ok hobtain
  have hs2 : s2.gbRedVolNum = s.gbRedVolNum ∧
      s2.disk s.gbRedVolNum b = s.disk s.gbRedVolNum b := by
    rw [Op.when] at hevict
    split_ifs at hevict
    · exact bufferWrite_other hevict hne
    · obtain ⟨-, rfl⟩ := Prod.mk.inj hevict
      exact ⟨rfl, rfl⟩
  obtain ⟨⟨⟩, s3, hfill, hobtain⟩ := Op.bind_eq_ok hobtain
  rw [Op.modify_bind_run] at hobtain
  cases hobtain
  refine (bufferFill_eq_ok hfill).1.trans ?_
  rw [hs2.1, hs2.2]

lemma bufferWrite_cur (h : bufferWrite i s = (.ok (), s')) : s'.gbRedVolNum = s.gbRedVolNum :=
  (bufferWrite_other h (w := (s.aHead i).bVolNum + 1) (x := 0) fun hc => by
    have := (Prod.mk.inj hc).1
    omega).1

/-- Flushing does not change the current volume. -/
lemma bufferFlushLoop_cur {m n : ℕ} (l : List ℕ) (h : bufferFlushLoop m n l s = (.ok (), s')) :
    s'.gbRedVolNum = s.gbRedVolNum := by
  induction l generalizing s with
  | nil => exact congrArg gbRedVolNum (congrArg Prod.snd h).symm
  | cons j rest ih =>
    rw [bufferFlushLoop, Op.get_bind_run] at h
    obtain ⟨⟨⟩, s1, hwhen, h⟩ := Op.bind_eq_ok h
    rw [ih h]
    rw [Op.when] at hwhen
    split_ifs at hwhen
    · obtain ⟨⟨⟩, s2, hwrite, hclean⟩ := Op.bind_eq_ok hwhen
      have hs1 : s1 = s2.setHead j fun h => { h with fDirty := false } :=
        (congrArg Prod.snd hclean).symm
      rw [hs1, ← bufferWrite_cur hwrite]
      rfl
    · exact congrArg gbRedVolNum (congrArg Prod.snd hwhen).symm

/-- There is nothing to flush when no buffer is dirty. -/
lemma bufferFlushLoop_clean {m n : ℕ} (l : List ℕ) (h : ∀ j, (s.aHead j).fDirty = false) :
    bufferFlushLoop m n l s = (.ok (), s) := by
  induction l with
  | nil => rfl
  | cons j rest ih =>
    have hj : ¬ (headIsIn (s.aHead j) s.gbRedVolNum m n && (s.aHead j).fDirty) = true := by
      rw [h, Bool.and_false]
      exact Bool.false_ne_true
    rw [bufferFlushLoop, Op.get_bind_run, Op.when_neg hj, Op.pure_bind_run, ih]

lemma redBufferFlushRange_cur {m n : ℕ} (h : redBufferFlushRange m n s = (.ok (), s')) :
    s'.gbRedVolNum = s.gbRedVolNum := by
  rw [redBufferFlushRange, Op.get_bind_run] at h
  split_ifs at h
  · exact bufferFlushLoop_cur _ h
  · cases h

end Pool

/-! ## Committing a transaction point -/

namespace Volumes

variable {s s' : Volumes}

lemma cache_eq_ok {α : Type} {x : PoolOp α} {a : α} (h : cache x s = (.ok a, s')) :
    x s.pool = (.ok a, s'.pool) ∧ s'.gaRedCoreVol = s.gaRedCoreVol := by
  obtain ⟨hr, rfl⟩ := Prod.mk.inj h
  exact ⟨Prod.ext hr rfl, rfl⟩

lemma gpRedCoreVol_congr (hv : s'.pool.gbRedVolNum = s.pool.gbRedVolNum)
    (hc : s'.gaRedCoreVol = s.gaRedCoreVol) : s'.gpRedCoreVol = s.gpRedCoreVol := by
  rw [gpRedCoreVol, hv, hc, gpRedCoreVol]

lemma gpRedMR_congr (h : s'.gpRedCoreVol = s.gpRedCoreVol) : s'.gpRedMR = s.gpRedMR := by
  rw [gpRedMR, h, gpRedMR]

@[simp] lemma setCoreVol_same (s : Volumes) (f : RawCoreVolume → RawCoreVolume) :
    (s.setCoreVol f).gpRedCoreVol = f s.gpRedCoreVol := Function.update_self ..

@[simp] lemma setMR_gpRedMR (s : Volumes) (f : RawMetaroot → RawMetaroot) :
    (s.setMR f).gpRedMR = f s.gpRedMR := by
  rw [gpRedMR, setMR, setCoreVol_same]
  exact Function.update_self ..

@[simp] lemma setMR_bCurMR (s : Volumes) (f : RawMetaroot → RawMetaroot) :
    (s.setMR f).gpRedCoreVol.bCurMR = s.gpRedCoreVol.bCurMR := by
  rw [setMR, setCoreVol_same]

/-- **A transaction point was committed**: the metaroot on the disk is valid, and both it and the
one in memory are the metaroot from before the call with the blocks that became free counted. -/
structure Committed (s s' : Volumes) : Prop where
  /-- What `RedVolMountMetaroot()` makes of the block is the metaroot in memory. -/
  stored : ∃ image, (s'.pool.disk s.pool.gbRedVolNum
      (BLOCK_NUM_FIRST_METAROOT + s.gpRedCoreVol.bCurMR.toNat)).metaroot.metarootIsValid
        s.pool.gbRedVolNum = (true, true, image) ∧ image.swap.Agrees s'.gpRedMR
  content : s'.gpRedMR.SameContent { s.gpRedMR with
    ulFreeBlocks := s.gpRedMR.ulFreeBlocks + s.gpRedCoreVol.ulAlmostFreeBlocks }
  sequence : s'.gpRedMR.hdr.ullSequence + 1 = s'.pool.gpRedVolume.ullSequence
  /-- The working metaroot and the committed one are the same. -/
  copies : ∀ cur, s'.gpRedCoreVol.aMR cur = s'.gpRedMR

/-- The part of `RedVolTransact()` that writes the metaroot: its image goes to the disk, and is
swapped back in memory. -/
lemma transactMetaroot_eq_ok (h : transactMetaroot s = (.ok (), s')) :
    ∃ mr : RawMetaroot, mr.SameContent s.gpRedMR ∧ mr.hdr.ulSignature = META_SIG_METAROOT ∧
      mr.hdr.ullSequence + 1 = s'.pool.gpRedVolume.ullSequence ∧
      s'.pool.gbRedVolNum = s.pool.gbRedVolNum ∧
      s'.pool.disk s.pool.gbRedVolNum (BLOCK_NUM_FIRST_METAROOT + s.gpRedCoreVol.bCurMR.toNat) =
        (mr.finalized s.pool.gbRedVolNum).block ∧
      s'.gpRedCoreVol.bCurMR = s.gpRedCoreVol.bCurMR ∧
      s'.gpRedMR = (mr.finalized s.pool.gbRedVolNum).swap := by
  refine ⟨s.gpRedMR.stamped s.pool.gpRedVolume.ullSequence, ⟨rfl, rfl, rfl, rfl, rfl⟩, rfl, ?_⟩
  rw [transactMetaroot, Op.get_bind_run, Op.modify_bind_run] at h
  obtain ⟨⟨⟩, s1, hinc, h⟩ := Op.bind_eq_ok h
  obtain ⟨hinc, hc1⟩ := cache_eq_ok hinc
  have hp1 := Pool.redVolSeqNumIncrement_eq_ok hinc
  rw [Op.modify_bind_run] at h
  obtain ⟨⟨⟩, s2, hflush, h⟩ := Op.bind_eq_ok h
  obtain ⟨hflush, hc2⟩ := cache_eq_ok hflush
  have hp2 := Pool.redIoFlush_eq_ok hflush
  rw [Op.get_bind_run, Op.attempt_bind_run, Op.modify_bind_run] at h
  obtain ⟨⟨⟩, s3, hret, h⟩ := Op.bind_eq_ok h
  obtain ⟨hflush', hc4⟩ := cache_eq_ok h
  have hp4 := Pool.redIoFlush_eq_ok hflush'
  rcases hwrite : cache (Pool.redIoWrite s.pool.gbRedVolNum
    (BLOCK_NUM_FIRST_METAROOT + s2.gpRedCoreVol.bCurMR.toNat) 1 fun _ => s2.gpRedMR.block) s2 with
    ⟨r, sw⟩
  rw [hwrite] at hret
  obtain ⟨hr, hs3⟩ : r = .ok () ∧ sw.setMR RawMetaroot.swap = s3 := Prod.mk.inj hret
  subst hr hs3
  obtain ⟨hwrite, hcw⟩ := cache_eq_ok hwrite
  have hpw := Pool.redIoWrite_eq_ok hwrite
  -- The current volume and its metaroot after each step.
  have hv1 : s1.pool.gbRedVolNum = s.pool.gbRedVolNum := by rw [hp1]; rfl
  have hv2 : s2.pool.gbRedVolNum = s1.pool.gbRedVolNum := by rw [hp2]; rfl
  have hvw : sw.pool.gbRedVolNum = s2.pool.gbRedVolNum := by rw [hpw]; rfl
  have hv4 : s'.pool.gbRedVolNum = sw.pool.gbRedVolNum := by rw [hp4]; rfl
  have h1 := gpRedCoreVol_congr (s := s.setMR _) hv1 hc1
  have h2 := gpRedCoreVol_congr (s := s1.setMR _) hv2 hc2
  have hw := gpRedCoreVol_congr hvw hcw
  have h4 := gpRedCoreVol_congr (s := sw.setMR _) hv4 hc4
  have hm2 : s2.gpRedMR = (s.gpRedMR.stamped s.pool.gpRedVolume.ullSequence).finalized
      s.pool.gbRedVolNum := by
    rw [gpRedMR_congr h2, setMR_gpRedMR, gpRedMR_congr h1, setMR_gpRedMR]
  have hb2 : s2.gpRedCoreVol.bCurMR = s.gpRedCoreVol.bCurMR := by
    rw [h2, setMR_bCurMR, h1, setMR_bCurMR]
  have hg : s'.pool.gaRedVolume = s1.pool.gaRedVolume := by
    rw [hp4]
    change sw.pool.gaRedVolume = _
    rw [hpw]
    change s2.pool.gaRedVolume = _
    rw [hp2]
    rfl
  refine ⟨?_, ?_, ?_, ?_, ?_⟩
  · change s.pool.gpRedVolume.ullSequence + 1 =
      (s'.pool.gaRedVolume s'.pool.gbRedVolNum).ullSequence
    rw [hg, hv4, hvw, hv2, hv1, hp1]
    change _ = (Function.update s.pool.gaRedVolume s.pool.gbRedVolNum _
      s.pool.gbRedVolNum).ullSequence
    rw [Function.update_self]
    rfl
  · rw [hv4, hvw, hv2, hv1]
  · rw [hp4]
    change sw.pool.disk _ _ = _
    rw [hpw, ← hb2]
    exact (if_pos ⟨rfl, le_rfl, Nat.lt_succ_self _⟩).trans (congrArg _ hm2)
  · rw [h4, setMR_bCurMR, hw, hb2]
  · rw [gpRedMR_congr h4, setMR_gpRedMR, gpRedMR_congr hw, hm2]

@[simp] lemma countAlmostFree_gpRedMR (s : Volumes) : s.countAlmostFree.gpRedMR =
    { s.gpRedMR with
      ulFreeBlocks := s.gpRedMR.ulFreeBlocks + s.gpRedCoreVol.ulAlmostFreeBlocks } := by
  rw [gpRedMR, countAlmostFree, setCoreVol_same]
  exact setMR_gpRedMR ..

@[simp] lemma countAlmostFree_bCurMR (s : Volumes) :
    s.countAlmostFree.gpRedCoreVol.bCurMR = s.gpRedCoreVol.bCurMR := by
  rw [countAlmostFree, setCoreVol_same]
  exact setMR_bCurMR ..

/-- After they exchange places, both metaroots are the one that was written. -/
lemma toggleMetaroots_aMR (s : Volumes) (cur : Bool) :
    s.toggleMetaroots.gpRedCoreVol.aMR cur = s.gpRedMR := by
  rw [toggleMetaroots, setCoreVol_same]
  by_cases hc : cur = !s.gpRedCoreVol.bCurMR
  · rw [hc]
    exact Function.update_self ..
  · refine (Function.update_of_ne hc ..).trans ?_
    rw [Bool.not_eq_not.1 hc]
    rfl

/-- **`RedVolTransact()`** of a branched volume. -/
lemma redVolTransact_eq_ok (hbr : s.gpRedCoreVol.fBranched = true)
    (h : redVolTransact s = (.ok (), s')) : s.Committed s' := by
  rw [redVolTransact, Op.get_bind_run, Op.when_pos hbr, Op.attempt_bind_run] at h
  rcases hbody : transactBranched s with ⟨r, s4⟩
  rw [hbody] at h
  obtain ⟨⟨⟩, s5, hassert, h⟩ := Op.bind_eq_ok h
  obtain ⟨hr, rfl⟩ : r = .ok () ∧ s5 = s' := Prod.mk.inj h
  subst hr
  obtain rfl : s4 = s5 := (Prod.mk.inj hassert).2
  rw [transactBranched, Op.modify_bind_run, Op.get_bind_run] at hbody
  obtain ⟨⟨⟩, s1, hflush, hbody⟩ := Op.bind_eq_ok hbody
  obtain ⟨hflush, hc1⟩ := cache_eq_ok hflush
  have hv1 := Pool.redBufferFlushRange_cur hflush
  have h1 := gpRedCoreVol_congr hv1 hc1
  obtain ⟨⟨⟩, s2, hwrite, hbody⟩ := Op.bind_eq_ok hbody
  obtain ⟨mr, hmr, hsig, hseq, hv2, hdisk, hb2, hmem⟩ := transactMetaroot_eq_ok hwrite
  obtain rfl : s2.toggleMetaroots = s4 := congrArg Prod.snd hbody
  have hmr' : s2.toggleMetaroots.gpRedMR = s2.gpRedMR := toggleMetaroots_aMR ..
  have hv : s1.pool.gbRedVolNum = s.pool.gbRedVolNum := hv1
  have hagrees := mr.finalized_swap_agrees s1.pool.gbRedVolNum
  obtain ⟨image, hvalid, himage⟩ := mr.metarootIsValid_finalized s1.pool.gbRedVolNum hsig
  refine ⟨⟨image, ?_, ?_⟩, ?_, ?_, fun cur => ?_⟩
  · change (s2.pool.disk _ _).metaroot.metarootIsValid _ = _
    rw [← countAlmostFree_bCurMR, ← h1, ← hv, hdisk, RawMetaroot.metaroot_block, hvalid]
  · rw [hmr', hmem]
    exact himage.trans hagrees.symm
  · rw [hmr', hmem, ← countAlmostFree_gpRedMR, ← gpRedMR_congr h1]
    exact hagrees.toSameContent.trans hmr
  · rw [hmr', hmem, hagrees.ullSequence, hseq]
    rfl
  · rw [toggleMetaroots_aMR, hmr']

end Volumes

/-! ## The round trip -/

/-- A block holds the fields of a node, with the signature of its type and a sequence number. -/
structure RawBlock.IsNode (block node : RawBlock) (type : BufType) (ullSeqNum : UInt64) :
    Prop where
  rest : block.rest = node.rest
  ulSignature : block.hdr.ulSignature = metaSig type
  ullSequence : block.hdr.ullSequence = ullSeqNum

/-- **The image of a node** of a type: it is valid for that type alone, on every volume whose
sequence number is higher, and what `RedBufferGet()` makes of it are the fields of the node. -/
structure RawBlock.IsImage (image node : RawBlock) (type : BufType) (ullSeqNum : UInt64) :
    Prop where
  valid : ∀ (s : Pool) (type' : BufType), s.redBufferIsValid image type' = true ↔
    type' = type ∧ (s.gpRedVolume.fMounted = true → ullSeqNum < s.gpRedVolume.ullSequence)
  /-- The block may be on any volume, as long as it is not in the cache. -/
  decoded : ∀ (s s' : Pool) (ulBlock bIdx : ℕ) (fDirty : Bool), (∀ i ∈ s.abMRU, i < bufferCount) →
    s.find s.gbRedVolNum ulBlock = none → s.disk s.gbRedVolNum ulBlock = image →
    Pool.redBufferGet ulBlock type fDirty false s = (.ok bIdx, s') →
    (s'.pbBlkBuf bIdx).IsNode node type ullSeqNum

lemma Pool.finalized_isNode (node : RawBlock) {type : BufType} (ht : type ≠ .data)
    (ullSeqNum : UInt64) :
    ((finalized node type ullSeqNum).swap type).IsNode node type ullSeqNum :=
  have h := finalized_swap node ht ullSeqNum
  ⟨h.1, h.2.1, h.2.2⟩

lemma Pool.finalized_isImage {node node' : RawBlock} (hnode : node.rest = node'.rest)
    {type : BufType} (ht : type ≠ .data) (ullSeqNum : UInt64) :
    (finalized node type ullSeqNum).IsImage node' type ullSeqNum where
  valid s := redBufferIsValid_finalized s node ht ullSeqNum
  decoded s s' ulBlock bIdx fDirty hmru hfind hdisk h := by
    have hnode' := finalized_isNode node ht ullSeqNum
    rw [redBufferGet_eq_ok hmru hfind h, hdisk]
    exact ⟨hnode'.rest.trans hnode, hnode'.ulSignature, hnode'.ullSequence⟩

/-- The node of a buffer was written: its image is on the disk, and the fields in memory are what
they were. -/
structure Pool.NodeWritten (s s' : Pool) (bIdx : ℕ) : Prop where
  image : (s'.disk (s.aHead bIdx).bVolNum (s.aHead bIdx).ulBlock).IsImage (s.pbBlkBuf bIdx)
    (s.aHead bIdx).type (s.gaRedVolume (s.aHead bIdx).bVolNum).ullSequence
  memory : (s'.pbBlkBuf bIdx).IsNode (s.pbBlkBuf bIdx) (s.aHead bIdx).type
    (s.gaRedVolume (s.aHead bIdx).bVolNum).ullSequence
  others : ∀ i, i ≠ bIdx → s'.pbBlkBuf i = s.pbBlkBuf i

lemma Pool.bufferWrite_written {s s' : Pool} {bIdx : ℕ} (ht : (s.aHead bIdx).type ≠ .data)
    (h : bufferWrite bIdx s = (.ok (), s')) : s.NodeWritten s' bIdx := by
  obtain ⟨hdisk, hbuf, -, -, -⟩ := bufferWrite_eq_ok ht h
  refine ⟨?_, ?_, fun i hi => ?_⟩
  · rw [hdisk]
    exact finalized_isImage rfl ht _
  · rw [hbuf, Function.update_self]
    exact finalized_isNode _ ht _
  · rw [hbuf, Function.update_of_ne hi]

/-- **Round trip of the encoding on the disk**, with and without `REDCONF_ENDIAN_SWAP`, for every
size of a sector and every content. The metaroot that `RedVolTransact()` writes is accepted by
`MetarootIsValid()` and holds what the one in memory does; the node that `BufferWrite()` writes is
accepted by `RedBufferIsValid()` for its own type and no other, and `RedBufferGet()` finds its
fields. Both leave in memory what was there, so that writing it again without modification gives a
valid image with the same content. -/
theorem image_roundTrip :
    (∀ s s' : Volumes, s.gpRedCoreVol.fBranched = true → Volumes.redVolTransact s = (.ok (), s') →
      s.Committed s' ∧ ∀ t t' : Volumes, t.gpRedMR = s'.gpRedMR →
        t.gpRedCoreVol.ulAlmostFreeBlocks = 0 → t.gpRedCoreVol.fBranched = true →
        Volumes.redVolTransact t = (.ok (), t') →
        t.Committed t' ∧ t'.gpRedMR.SameContent s'.gpRedMR) ∧
    ∀ (s s' : Pool) (bIdx : ℕ), (s.aHead bIdx).type ≠ .data →
      Pool.bufferWrite bIdx s = (.ok (), s') →
      s.NodeWritten s' bIdx ∧ ∀ t t' : Pool, t.pbBlkBuf bIdx = s'.pbBlkBuf bIdx →
        t.aHead bIdx = s.aHead bIdx → Pool.bufferWrite bIdx t = (.ok (), t') →
        t.NodeWritten t' bIdx ∧
        (t'.disk (t.aHead bIdx).bVolNum (t.aHead bIdx).ulBlock).IsImage (s.pbBlkBuf bIdx)
          (s.aHead bIdx).type (t.gaRedVolume (t.aHead bIdx).bVolNum).ullSequence := by
  refine ⟨fun s s' hbr h => ⟨Volumes.redVolTransact_eq_ok hbr h, fun t t' hmr hfree htbr ht => ?_⟩,
    fun s s' bIdx htype h => ⟨Pool.bufferWrite_written htype h, fun t t' hbuf hhead ht => ?_⟩⟩
  · have hagain := Volumes.redVolTransact_eq_ok htbr ht
    refine ⟨hagain, hagain.content.trans ?_⟩
    rw [hmr, hfree]
    exact ⟨UInt32.add_zero _, rfl, rfl, rfl, rfl⟩
  · have htype' : (t.aHead bIdx).type ≠ .data := by rwa [hhead]
    refine ⟨Pool.bufferWrite_written htype' ht, ?_⟩
    obtain ⟨hdisk, -⟩ := Pool.bufferWrite_eq_ok htype' ht
    rw [hdisk, ← hhead]
    refine Pool.finalized_isImage ?_ htype' _
    rw [hbuf]
    exact (Pool.bufferWrite_written htype h).memory.rest

/-- Sectors of 128 bytes on a little-endian machine. -/
abbrev smallMetarootConf : letI := smallConf; MetarootConf :=
  let _ := smallConf
  { bigEndian := false
    redCrc32Update := redCrc32Bitwise
    ulSectorSize := fun _ => 128
    redCrc32Update_nil := redCrc32Bitwise_nil
    ulSectorSize_ge := fun _ => le_rfl
    ulSectorSize_dvd := fun _ => ⟨4, rfl⟩ }

/-- A block whose bytes count up. -/
def countingBlock : RawBlock := ⟨⟨0, 0, 0⟩, (List.range 496).map UInt8.ofNat⟩

/-- Branched volumes whose metaroots hold this block. -/
def countingVolumes : letI := smallConf; Volumes :=
  letI := smallConf
  letI := smallPoolConf
  letI := smallMetarootConf
  ⟨{ smallPool with outcomes := [] }, fun _ => ⟨fun _ => countingBlock.metaroot, false, true, 7⟩⟩

/-- A pool whose buffers hold this block as an inode. -/
def countingPool : Pool :=
  { smallPool with
    aHead := fun _ => ⟨5, 0, 0, true, .inode⟩
    pbBlkBuf := fun _ => countingBlock }

omit [RedConf] [PoolConf] [MetarootConf] in
/-- The metaroot of the counting volumes is written. -/
lemma countingVolumes_transact : letI := smallConf; letI := smallPoolConf
    letI := smallMetarootConf
    (Volumes.redVolTransact countingVolumes).1 = .ok () := by
  let _ := smallConf
  let _ := smallPoolConf
  let _ := smallMetarootConf
  have hclean : Pool.redBufferFlushRange 0 countingVolumes.pool.gpRedVolume.ulBlockCount
      countingVolumes.pool = (.ok (), countingVolumes.pool) :=
    Pool.bufferFlushLoop_clean _ fun _ => rfl
  have hpool : countingVolumes.countAlmostFree.pool = countingVolumes.pool := rfl
  have hflush : Volumes.cache (Pool.redBufferFlushRange 0
      countingVolumes.pool.gpRedVolume.ulBlockCount) countingVolumes.countAlmostFree =
      (.ok (), countingVolumes.countAlmostFree) := by
    rw [Volumes.cache, Op.zoom_run, hpool, hclean]
    exact Prod.ext rfl
      (congrArg (Volumes.mk · countingVolumes.countAlmostFree.gaRedCoreVol) hpool.symm)
  have hwritten : (Volumes.transactMetaroot countingVolumes.countAlmostFree).1 = .ok () := rfl
  have hbody : (Volumes.transactBranched countingVolumes).1 = .ok () := by
    rw [Volumes.transactBranched, Op.modify_bind_run, Op.get_bind_run]
    rw [hpool, Op.bind_ok hflush, Op.bind_ok (Prod.ext hwritten rfl)]
    rfl
  have hbr : countingVolumes.gpRedCoreVol.fBranched = true := rfl
  rw [Volumes.redVolTransact, Op.get_bind_run, Op.when_pos hbr, Op.attempt_bind_run, hbody]
  rfl

omit [RedConf] [PoolConf] [MetarootConf] in
/-- The inode of the counting pool is written. -/
lemma countingPool_write : letI := smallConf; letI := smallPoolConf
    Pool.bufferWrite 0 countingPool = (.ok (), (Pool.bufferWrite 0 countingPool).2) := by
  refine Prod.ext ?_ rfl
  rfl

omit [RedConf] [PoolConf] [MetarootConf] in
/-- A metaroot and an inode whose bytes count up. -/
theorem image_roundTrip_small : letI := smallConf; letI := smallPoolConf; letI := smallMetarootConf
    countingVolumes.Committed (Volumes.redVolTransact countingVolumes).2 ∧
      countingPool.NodeWritten (Pool.bufferWrite 0 countingPool).2 0 := by
  have hround := @image_roundTrip smallConf smallPoolConf smallMetarootConf
  exact ⟨(hround.1 _ _ rfl (Prod.ext countingVolumes_transact rfl)).1,
    (hround.2 _ _ 0 BufType.noConfusion countingPool_write).1⟩

end RelianceEdge
