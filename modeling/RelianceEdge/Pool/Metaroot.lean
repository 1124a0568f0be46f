import RelianceEdge.Lib.Bytes
import RelianceEdge.Pool.Model
import RelianceEdge.Util.Crc

set_option relaxedAutoImplicit false
set_option autoImplicit false

/-!
# The metaroot as bytes

The parts of `volume.c` that write and read a metaroot, over the cache of several volumes: a
metaroot has the bytes of its fields, its checksums are taken over these bytes, and on a machine
whose byte order is not that of the disk it is swapped before it is written and after it is read.

`RedCrc32Update()` is a parameter, since `crc.c` has three variants of it; all the driver needs
here is that no bytes leave a checksum as it is.

## Main definitions

* `RawMetaroot` — the metaroot in memory, and `RawMetaroot.block`, its bytes.
* `Volumes` — the cache with the metaroots of each volume.
* `Volumes.redVolTransact` — commit a transaction point.
* `RawMetaroot.metarootIsValid` — the check at mount.
-/

namespace RelianceEdge

/-- `META_SIG_METAROOT`. -/
def META_SIG_METAROOT : UInt32 := 0x4154454D

variable [RedConf]

open RedConf

/-- The part of the configuration that only the metaroots need. The two bounds on the size of a
sector are those that `RedVolInitBlockGeometry()` checks. -/
class MetarootConf where
  /-- Whether the machine stores the most significant byte of a number first. -/
  bigEndian : Bool
  /-- `RedCrc32Update()`. -/
  redCrc32Update : UInt32 → List UInt8 → UInt32
  /-- `BDEVINFO::ulSectorSize`. -/
  ulSectorSize : ℕ → ℕ
  /-- No bytes leave a checksum as it is. -/
  redCrc32Update_nil : ∀ ulInitCrc32, redCrc32Update ulInitCrc32 [] = ulInitCrc32
  /-- A sector has at least `SECTOR_SIZE_MIN` bytes. -/
  ulSectorSize_ge : ∀ bVolNum, SECTOR_SIZE_MIN ≤ ulSectorSize bVolNum
  /-- A block is a number of sectors. -/
  ulSectorSize_dvd : ∀ bVolNum, ulSectorSize bVolNum ∣ blockSize

variable [PoolConf] [MetarootConf]

open PoolConf MetarootConf

/-! ## The metaroot -/

/-- `METAROOT_ENTRY_BYTES`. -/
def metarootEntryBytes : ℕ := blockSize - (32 + if deleteOpen then 12 else 0)

/-- The fields of `METAROOT` that exist with `REDCONF_DELETE_OPEN`. -/
structure OrphanLists where
  ulDefunctOrphanHead : UInt32
  ulOrphanHead : UInt32
  ulOrphanTail : UInt32
  deriving DecidableEq

/-- `METAROOT`. -/
structure RawMetaroot where
  hdr : NodeHeader
  ulSectorCRC : UInt32
  ulFreeBlocks : UInt32
  ulFreeInodes : UInt32
  ulAllocNextBlock : UInt32
  orphans : Option OrphanLists
  abEntries : Vector UInt8 metarootEntryBytes
  /-- The orphan lists are there with `REDCONF_DELETE_OPEN`. -/
  orphans_isSome : orphans.isSome = deleteOpen

/-- The bytes of a `uint32_t` in memory. -/
def bytes32 (n : UInt32) : List UInt8 := Bytes.field bigEndian 4 n.toNat

/-- The `uint32_t` at an offset. -/
def number32 (bytes : List UInt8) (offset : ℕ) : UInt32 :=
  UInt32.ofNat (Bytes.number bigEndian ((bytes.drop offset).take 4))

/-- A `uint32_t` in the byte order of the disk, if it is in that of the machine, and back. -/
def toDisk32 (n : UInt32) : UInt32 := if endianSwap then redRev32 n else n

namespace OrphanLists

/-- The bytes of the orphan lists. -/
def bytes (orphans : OrphanLists) : List UInt8 :=
  bytes32 orphans.ulDefunctOrphanHead ++ bytes32 orphans.ulOrphanHead ++
    bytes32 orphans.ulOrphanTail

/-- The part of `MetaRootEndianSwap()` about the orphan lists. -/
def swap (orphans : OrphanLists) : OrphanLists :=
  ⟨redRev32 orphans.ulDefunctOrphanHead, redRev32 orphans.ulOrphanHead,
    redRev32 orphans.ulOrphanTail⟩

end OrphanLists

namespace RawMetaroot

/-- The block of a metaroot: its header, and the bytes of the fields after it. -/
def block (pMR : RawMetaroot) : RawBlock :=
  ⟨pMR.hdr, bytes32 pMR.ulSectorCRC ++ bytes32 pMR.ulFreeBlocks ++ bytes32 pMR.ulFreeInodes ++
    bytes32 pMR.ulAllocNextBlock ++ pMR.orphans.elim [] OrphanLists.bytes ++ pMR.abEntries.toList⟩

/-- The bytes of a block from an offset past the signature and the checksum on. -/
def bytesFrom (pMR : RawMetaroot) (offset : ℕ) : List UInt8 :=
  (Bytes.field bigEndian 8 pMR.hdr.ullSequence.toNat ++ pMR.block.rest).drop (offset - 8)

/-- `MetaRootEndianSwap()`. -/
def metaRootEndianSwap (pMetaRoot : RawMetaroot) : RawMetaroot where
  hdr := { pMetaRoot.hdr with
    ulSignature := redRev32 pMetaRoot.hdr.ulSignature
    ullSequence := redRev64 pMetaRoot.hdr.ullSequence }
  ulSectorCRC := redRev32 pMetaRoot.ulSectorCRC
  ulFreeBlocks := redRev32 pMetaRoot.ulFreeBlocks
  ulFreeInodes := redRev32 pMetaRoot.ulFreeInodes
  ulAllocNextBlock := redRev32 pMetaRoot.ulAllocNextBlock
  orphans := pMetaRoot.orphans.map OrphanLists.swap
  abEntries := pMetaRoot.abEntries
  orphans_isSome := Option.isSome_map.trans pMetaRoot.orphans_isSome

/-- Swap a metaroot if the machine and the disk differ in byte order. -/
def swap (pMR : RawMetaroot) : RawMetaroot := if endianSwap then pMR.metaRootEndianSwap else pMR

/-- The part of `RedVolTransact()` that sets the header of a metaroot. -/
def stamped (pMR : RawMetaroot) (ullSequence : UInt64) : RawMetaroot :=
  { pMR with hdr := { pMR.hdr with ulSignature := META_SIG_METAROOT, ullSequence } }

/-- The part of `RedVolTransact()` that prepares a metaroot for the disk of a volume. -/
def finalized (pMR : RawMetaroot) (bVolNum : ℕ) : RawMetaroot :=
  let pMR := { pMR.swap with ulSectorCRC := 0 }
  let ulSectorCRC := redCrc32Update 0 ((pMR.bytesFrom 8).take (ulSectorSize bVolNum - 8))
  let ulCRC :=
    if ulSectorSize bVolNum < blockSize then
      redCrc32Update ulSectorCRC
        ((pMR.bytesFrom (ulSectorSize bVolNum)).take (blockSize - ulSectorSize bVolNum))
    else ulSectorCRC
  { pMR with
    hdr := { pMR.hdr with ulCRC := toDisk32 ulCRC }
    ulSectorCRC := toDisk32 ulSectorCRC }

/-- `MetarootIsValid()`: whether the metaroot is valid, whether its first sector is, and the
metaroot as it is then in memory. -/
def metarootIsValid (pMR : RawMetaroot) (bVolNum : ℕ) : Bool × Bool × RawMetaroot :=
  if toDisk32 pMR.hdr.ulSignature ≠ META_SIG_METAROOT then (false, false, pMR)
  else
    let ulSectorCRC := toDisk32 pMR.ulSectorCRC
    let pMR := { pMR with ulSectorCRC := 0 }
    let ulCRC := redCrc32Update 0 ((pMR.bytesFrom 8).take (ulSectorSize bVolNum - 8))
    if ulCRC = ulSectorCRC then
      let ulCRC := redCrc32Update ulCRC
        ((pMR.bytesFrom (ulSectorSize bVolNum)).take (blockSize - ulSectorSize bVolNum))
      (toDisk32 ulCRC == pMR.hdr.ulCRC, true, pMR)
    else (false, false, pMR)

end RawMetaroot

/-- The bytes of a block as a metaroot. -/
def RawBlock.metaroot (block : RawBlock) : RawMetaroot where
  hdr := block.hdr
  ulSectorCRC := number32 block.rest 0
  ulFreeBlocks := number32 block.rest 4
  ulFreeInodes := number32 block.rest 8
  ulAllocNextBlock := number32 block.rest 12
  orphans := if deleteOpen then
      some ⟨number32 block.rest 16, number32 block.rest 20, number32 block.rest 24⟩
    else none
  abEntries := Vector.ofFn fun i =>
    block.rest.getD (16 + (if deleteOpen then 12 else 0) + i.val) 0
  orphans_isSome := by cases deleteOpen <;> rfl

/-! ## Volumes -/

/-- The fields of `COREVOLUME` that a transaction point is about. -/
structure RawCoreVolume where
  /-- The metaroots, of which `bCurMR` is the working one. -/
  aMR : Bool → RawMetaroot
  bCurMR : Bool
  fBranched : Bool
  ulAlmostFreeBlocks : UInt32

/-- The cache and `gaRedCoreVol`. -/
structure Volumes where
  pool : Pool
  gaRedCoreVol : ℕ → RawCoreVolume

/-- Operations on the volumes. -/
abbrev VolumesOp (α : Type) := Op Volumes RedError α

/-- `RedIoFlush()`. -/
def Pool.redIoFlush (bVolNum : ℕ) : PoolOp Unit := do
  let ret ← .attempt <|
    if volumeCount ≤ bVolNum then .fail .EINVAL
    else do
      match ← request with
      | none => pure ()
      | some _ => .fail RedError.EIO
  criticalAssert ret.isOk
  .ofExcept ret

namespace Volumes

/-- An operation of the cache. -/
def cache {α : Type} (x : PoolOp α) : VolumesOp α := x.zoom pool fun s pool => { s with pool }

/-- `gpRedCoreVol`. -/
def gpRedCoreVol (s : Volumes) : RawCoreVolume := s.gaRedCoreVol s.pool.gbRedVolNum

/-- `gpRedMR`. -/
def gpRedMR (s : Volumes) : RawMetaroot := s.gpRedCoreVol.aMR s.gpRedCoreVol.bCurMR

/-- Change the current volume. -/
def setCoreVol (s : Volumes) (f : RawCoreVolume → RawCoreVolume) : Volumes :=
  { s with gaRedCoreVol := Function.update s.gaRedCoreVol s.pool.gbRedVolNum (f s.gpRedCoreVol) }

/-- Change the working metaroot. -/
def setMR (s : Volumes) (f : RawMetaroot → RawMetaroot) : Volumes :=
  s.setCoreVol fun vol => { vol with
    aMR := Function.update vol.aMR vol.bCurMR (f (vol.aMR vol.bCurMR)) }

/-- The part of `RedVolTransact()` that writes the metaroot. -/
def transactMetaroot : VolumesOp Unit := do
  let s ← .get
  let gbRedVolNum := s.pool.gbRedVolNum
  .modify fun s => s.setMR (RawMetaroot.stamped · s.pool.gpRedVolume.ullSequence)
  cache (Pool.redVolSeqNumIncrement gbRedVolNum)
  .modify fun s => s.setMR (RawMetaroot.finalized · gbRedVolNum)
  cache (Pool.redIoFlush gbRedVolNum)
  let s ← .get
  let ret ← .attempt <| cache <|
    Pool.redIoWrite gbRedVolNum (BLOCK_NUM_FIRST_METAROOT + s.gpRedCoreVol.bCurMR.toNat) 1 fun _ =>
      s.gpRedMR.block
  -- The metaroot is swapped back whether or not the write succeeded.
  .modify fun s => s.setMR RawMetaroot.swap
  .ofExcept ret
  cache (Pool.redIoFlush gbRedVolNum)

/-- The part of `RedVolTransact()` that counts the blocks which the transaction point frees. -/
def countAlmostFree (s : Volumes) : Volumes :=
  (s.setMR fun mr => { mr with
    ulFreeBlocks := mr.ulFreeBlocks + s.gpRedCoreVol.ulAlmostFreeBlocks }).setCoreVol
      fun vol => { vol with ulAlmostFreeBlocks := 0 }

/-- The part of `RedVolTransact()` in which the working and the committed metaroot exchange
places. -/
def toggleMetaroots (s : Volumes) : Volumes :=
  s.setCoreVol fun vol =>
    { vol with
      aMR := Function.update vol.aMR (!vol.bCurMR) (vol.aMR vol.bCurMR)
      bCurMR := !vol.bCurMR
      fBranched := false }

/-- The part of `RedVolTransact()` for a branched volume. -/
def transactBranched : VolumesOp Unit := do
  .modify countAlmostFree
  let s ← .get
  cache (Pool.redBufferFlushRange 0 s.pool.gpRedVolume.ulBlockCount)
  transactMetaroot
  .modify toggleMetaroots

/-- `RedVolTransact()`. -/
def redVolTransact : VolumesOp Unit := do
  let s ← .get
  .when s.gpRedCoreVol.fBranched do
    let ret ← .attempt transactBranched
    cache (Pool.criticalAssert ret.isOk)
    .ofExcept ret

end Volumes

end RelianceEdge
