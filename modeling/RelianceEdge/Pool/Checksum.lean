import RelianceEdge.Pool.RoundTrip
import RelianceEdge.Util.Checksum

set_option relaxedAutoImplicit false
set_option autoImplicit false
set_option linter.unusedSectionVars false

/-!
# Media of different builds

A build chooses one version of the checksum of `crc.c` for the metaroots and the nodes that it
writes and for those that it reads. The versions are one function, so that each build accepts what
another has written.

## Main definitions

* `MetarootConf.withCrc`, `PoolConf.withCrc` — a configuration with the checksum of a build.
* `CrcBuild.finalizedMetaroot`, `CrcBuild.metarootIsValid` — a metaroot written and read by a build.
* `CrcBuild.finalizedNode`, `CrcBuild.redBufferIsValid` — a node written and read by a build.

## Main results

* `RawMetaroot.ulCRC_finalized` — the checksum of the first sector goes on to that of the block.
* `redCrc32Update_unique` — the three versions are one function.
-/

namespace RelianceEdge

variable [RedConf]

open RedConf

/-- No bytes leave a checksum as it is. -/
lemma CrcBuild.redCrc32Update_nil (build : CrcBuild) (ulAddr : ℕ) (ulInitCrc32 : UInt32) :
    build.redCrc32Update ulAddr ulInitCrc32 (some []) = ulInitCrc32 := by
  apply UInt32.toBitVec_inj.1
  rw [build.redCrc32Update_eq]
  exact BitVec.not_not

/-! ## Configurations -/

/-- A configuration with the checksum of a build. The buffer of a call lies at any address. -/
@[reducible] def MetarootConf.withCrc (conf : MetarootConf) (build : CrcBuild)
    (ulAddr : UInt32 → List UInt8 → ℕ) : MetarootConf :=
  { conf with
    redCrc32Update := fun ulInitCrc32 bytes =>
      build.redCrc32Update (ulAddr ulInitCrc32 bytes) ulInitCrc32 (some bytes)
    redCrc32Update_nil := fun ulInitCrc32 => build.redCrc32Update_nil _ ulInitCrc32 }

/-- A configuration with the `RedCrcNode()` of a build: the checksum of a node from its ninth byte
on, which is the first one of the sequence number. -/
@[reducible] def PoolConf.withCrc (conf : PoolConf) (bigEndian : Bool) (build : CrcBuild)
    (ulAddr : UInt32 → List UInt8 → ℕ) : PoolConf :=
  { conf with
    redCrcNode := fun ullSequence rest =>
      let bytes := (Bytes.field bigEndian 8 ullSequence.toNat ++ rest).take (blockSize - 8)
      build.redCrc32Update (ulAddr 0 bytes) 0 (some bytes) }

variable [P : PoolConf] [M : MetarootConf]

open PoolConf MetarootConf Polynomial

namespace CrcBuild

variable (build : CrcBuild) (ulAddr : UInt32 → List UInt8 → ℕ)

/-- The image of a metaroot that a build writes. -/
def finalizedMetaroot (pMR : RawMetaroot) (bVolNum : ℕ) : RawMetaroot :=
  letI := M.withCrc build ulAddr
  pMR.finalized bVolNum

/-- `MetarootIsValid()` of a build. -/
def metarootIsValid (pMR : RawMetaroot) (bVolNum : ℕ) : Bool × Bool × RawMetaroot :=
  letI := M.withCrc build ulAddr
  pMR.metarootIsValid bVolNum

/-- The image of a node that a build writes. -/
def finalizedNode (node : RawBlock) (type : BufType) (ullSeqNum : UInt64) : RawBlock :=
  letI := P.withCrc M.bigEndian build ulAddr
  Pool.finalized node type ullSeqNum

/-- `RedBufferIsValid()` of a build. -/
def redBufferIsValid (s : Pool) (pbBuffer : RawBlock) (type : BufType) : Bool :=
  letI := P.withCrc M.bigEndian build ulAddr
  s.redBufferIsValid pbBuffer type

end CrcBuild

/-! ## The configurations agree -/

/-- The configurations of two builds do not differ. -/
lemma MetarootConf.withCrc_congr (a b : CrcBuild) (p q : UInt32 → List UInt8 → ℕ) :
    M.withCrc a p = M.withCrc b q := by
  have hcrc : (M.withCrc a p).redCrc32Update = (M.withCrc b q).redCrc32Update := by
    funext ulInitCrc32 bytes
    exact a.redCrc32Update_congr b _ _ ulInitCrc32 (some bytes)
  unfold MetarootConf.withCrc at hcrc ⊢
  dsimp only at hcrc
  congr

lemma PoolConf.withCrc_congr (bigEndian : Bool) (a b : CrcBuild) (p q : UInt32 → List UInt8 → ℕ) :
    P.withCrc bigEndian a p = P.withCrc bigEndian b q := by
  have hcrc : (P.withCrc bigEndian a p).redCrcNode = (P.withCrc bigEndian b q).redCrcNode := by
    funext ullSequence rest
    exact a.redCrc32Update_congr b _ _ 0 _
  unfold PoolConf.withCrc at hcrc ⊢
  dsimp only at hcrc
  rw [hcrc]

namespace RawMetaroot

/-- The first sector and the others are the block. -/
lemma take_bytesFrom (pMR : RawMetaroot) (bVolNum : ℕ) :
    (pMR.bytesFrom 8).take (ulSectorSize bVolNum - 8) ++
        (pMR.bytesFrom (ulSectorSize bVolNum)).take (blockSize - ulSectorSize bVolNum) =
      (pMR.bytesFrom 8).take (blockSize - 8) := by
  have hmin := ulSectorSize_ge bVolNum
  have hle : ulSectorSize bVolNum ≤ blockSize :=
    Nat.le_of_dvd (Nat.two_pow_pos _) (ulSectorSize_dvd bVolNum)
  have hsum : blockSize - 8 = (ulSectorSize bVolNum - 8) + (blockSize - ulSectorSize bVolNum) := by
    unfold SECTOR_SIZE_MIN at hmin
    omega
  rw [hsum, List.take_add]
  rfl

/-- **The checksum of the first sector goes on** to that of the block, if checksums do: the latter
is the checksum of the whole block, with the field of the former zero. -/
theorem ulCRC_finalized (happend : ∀ ulInitCrc32 x y, redCrc32Update ulInitCrc32 (x ++ y) =
      redCrc32Update (redCrc32Update ulInitCrc32 x) y) (pMR : RawMetaroot) (bVolNum : ℕ) :
    (pMR.finalized bVolNum).hdr.ulCRC = toDisk32 (redCrc32Update 0
      ((bytesFrom { pMR.finalized bVolNum with ulSectorCRC := 0 } 8).take (blockSize - 8))) := by
  have hcrc : (pMR.finalized bVolNum).hdr.ulCRC = toDisk32 (if ulSectorSize bVolNum < blockSize then
      redCrc32Update (redCrc32Update 0 ((bytesFrom { pMR.finalized bVolNum with ulSectorCRC := 0 }
          8).take (ulSectorSize bVolNum - 8)))
        ((bytesFrom { pMR.finalized bVolNum with ulSectorCRC := 0 }
          (ulSectorSize bVolNum)).take (blockSize - ulSectorSize bVolNum))
      else redCrc32Update 0 ((bytesFrom { pMR.finalized bVolNum with ulSectorCRC := 0 }
          8).take (ulSectorSize bVolNum - 8))) := rfl
  rw [hcrc, ← crc_rest, ← happend, take_bytesFrom]

end RawMetaroot

/-! ## The versions are one function -/

/-- **The three versions of `RedCrc32Update()` are one function**, for every build, address, initial
value and buffer: the remainder of the division by the polynomial `0xEDB88320`, with the register
inverted before and after it. It goes on from any point of a buffer. What a build writes is accepted
by every other build, a metaroot as well as a node, and the checksum of the first sector of a
metaroot goes on to that of its block. -/
theorem redCrc32Update_unique :
    (∀ (a b : CrcBuild) (p q : ℕ) (ulInitCrc32 : UInt32) (pBuffer : Option (List UInt8)),
      a.redCrc32Update p ulInitCrc32 pBuffer = b.redCrc32Update q ulInitCrc32 pBuffer) ∧
    (∀ (a : CrcBuild) (p : ℕ) (ulInitCrc32 : UInt32) (pBuffer : List UInt8),
      Crc.poly (~~~(a.redCrc32Update p ulInitCrc32 (some pBuffer)).toBitVec) =
        (X ^ (8 * pBuffer.length) * Crc.poly (~~~ulInitCrc32.toBitVec) +
          X ^ 32 * Crc.message (bufferBits pBuffer)) %ₘ Crc.generator 0xEDB88320#32) ∧
    (∀ (a : CrcBuild) (p q r : ℕ) (ulInitCrc32 : UInt32) (x y : List UInt8),
      a.redCrc32Update p ulInitCrc32 (some (x ++ y)) =
        a.redCrc32Update r (a.redCrc32Update q ulInitCrc32 (some x)) (some y)) ∧
    (∀ (a b : CrcBuild) (p q : UInt32 → List UInt8 → ℕ) (pMR : RawMetaroot) (bVolNum : ℕ),
      a.metarootIsValid p pMR bVolNum = b.metarootIsValid q pMR bVolNum ∧
      ∀ ullSequence, (b.metarootIsValid q
          (a.finalizedMetaroot p (pMR.stamped ullSequence) bVolNum) bVolNum).1 = true) ∧
    (∀ (a b : CrcBuild) (p q : UInt32 → List UInt8 → ℕ) (s : Pool) (block : RawBlock)
      (type : BufType), a.redBufferIsValid p s block type = b.redBufferIsValid q s block type ∧
      ∀ ullSeqNum, type ≠ .data →
        (s.gpRedVolume.fMounted = true → ullSeqNum < s.gpRedVolume.ullSequence) →
        b.redBufferIsValid q s (a.finalizedNode p block type ullSeqNum) type = true) ∧
    ∀ (a : CrcBuild) (p : UInt32 → List UInt8 → ℕ) (r : ℕ) (pMR : RawMetaroot) (bVolNum : ℕ),
      (a.finalizedMetaroot p pMR bVolNum).hdr.ulCRC = toDisk32 (a.redCrc32Update r 0
        (some ((RawMetaroot.bytesFrom
          { a.finalizedMetaroot p pMR bVolNum with ulSectorCRC := 0 } 8).take
            (blockSize - 8)))) := by
  refine ⟨CrcBuild.redCrc32Update_congr, fun a p ulInitCrc32 pBuffer => ?_,
    CrcBuild.redCrc32Update_append, fun a b p q pMR bVolNum => ⟨?_, fun ullSequence => ?_⟩,
    fun a b p q s block type => ⟨?_, fun ullSeqNum htype hseq => ?_⟩, fun a p r pMR bVolNum => ?_⟩
  · rw [a.redCrc32Update_eq, BitVec.not_not, Crc.poly_update _ (by decide)]
    simp only [bufferBits, List.length_map]
    rfl
  · unfold CrcBuild.metarootIsValid
    rw [M.withCrc_congr a b p q]
  · unfold CrcBuild.metarootIsValid CrcBuild.finalizedMetaroot
    rw [M.withCrc_congr a b p q]
    obtain ⟨image, himage, -⟩ := @RawMetaroot.metarootIsValid_finalized _ P (M.withCrc b q)
      (pMR.stamped ullSequence) bVolNum rfl
    rw [himage]
  · unfold CrcBuild.redBufferIsValid
    rw [P.withCrc_congr M.bigEndian a b p q]
  · unfold CrcBuild.redBufferIsValid CrcBuild.finalizedNode
    rw [P.withCrc_congr M.bigEndian a b p q]
    exact (@Pool.redBufferIsValid_finalized _ (P.withCrc M.bigEndian b q) M type s block htype
      ullSeqNum type).2 ⟨rfl, hseq⟩
  · have happend := fun ulInitCrc32 x y => a.redCrc32Update_append (p ulInitCrc32 (x ++ y))
      (p ulInitCrc32 x) (p (a.redCrc32Update (p ulInitCrc32 x) ulInitCrc32 (some x)) y)
      ulInitCrc32 x y
    have hcrc := @RawMetaroot.ulCRC_finalized _ P (M.withCrc a p) happend pMR bVolNum
    rw [CrcBuild.redCrc32Update_congr a a r (p 0 _)]
    exact hcrc

omit [RedConf] P M in
/-- The theorem for an inode that a build with slices writes, from an odd address, and a build that
goes bit by bit reads. -/
theorem redCrc32Update_unique_small :
    letI := smallConf; letI := smallPoolConf; letI := smallMetarootConf
    ∃ a b : CrcBuild, a.algorithm = .CRC_SLICEBY8 ∧ b.algorithm = .CRC_BITWISE ∧
      b.redBufferIsValid (fun _ _ => 0)
        { smallPool with gaRedVolume := fun _ => ⟨16, 2, true, false⟩ }
        (a.finalizedNode (fun _ _ => 3) .zero .inode 1) .inode = true := by
  let _ := smallConf
  let _ := smallPoolConf
  let _ := smallMetarootConf
  obtain ⟨a, ha⟩ : ∃ a : CrcBuild, a = ⟨.CRC_SLICEBY8, false, 4, by decide⟩ := ⟨_, rfl⟩
  obtain ⟨b, hb⟩ : ∃ b : CrcBuild, b = ⟨.CRC_BITWISE, false, 8, by decide⟩ := ⟨_, rfl⟩
  refine ⟨a, b, by rw [ha], by rw [hb], ?_⟩
  exact (redCrc32Update_unique.2.2.2.2.1 a b (fun _ _ => 3) (fun _ _ => 0) _ .zero .inode).2 1
    BufType.noConfusion fun _ => (by decide : (1 : UInt64) < 2)

end RelianceEdge
