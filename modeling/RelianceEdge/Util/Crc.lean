import RelianceEdge.Lib.Bytes
import RelianceEdge.Util.CrcTable

set_option relaxedAutoImplicit false
set_option autoImplicit false

/-!
# Checksums

`crc.c`: the three versions of `RedCrc32Update()`, of which `REDCONF_CRC_ALGORITHM` chooses one.
A pointer into a buffer is its address with the bytes from there on; a null pointer has none.

## Main definitions

* `redCrc32Bitwise`, `redCrc32Sarwate`, `redCrc32SliceBy8` — the three versions.
* `CrcBuild`, `CrcBuild.redCrc32Update` — the configuration, and the version that it chooses.
-/

namespace RelianceEdge

/-- `SUSPICIOUS_CRC_VALUE`. -/
def SUSPICIOUS_CRC_VALUE : UInt32 := 0xBAADC0DE

/-- `REDCONF_CRC_ALGORITHM`. -/
inductive CrcAlgorithm
  | CRC_BITWISE
  | CRC_SARWATE
  | CRC_SLICEBY8
  deriving DecidableEq

/-- The part of the configuration that `crc.c` depends on. -/
structure CrcBuild where
  /-- `REDCONF_CRC_ALGORITHM`. -/
  algorithm : CrcAlgorithm
  /-- `REDCONF_ENDIAN_BIG`. -/
  endianBig : Bool
  /-- `REDCONF_ALIGNMENT_SIZE`. -/
  alignmentSize : ℕ
  /-- The sizes that `redconfigchk.h` accepts. -/
  alignmentSize_mem : alignmentSize ∈ [1, 2, 4, 8]

/-- `IS_ALIGNED_PTR()`. -/
def isAlignedPtr (ptr alignment : ℕ) : Bool := ptr &&& (alignment - 1) == 0

/-! ## Bit by bit -/

/-- `RedCrc32Update()` with `CRC_BITWISE`. -/
def redCrc32Bitwise (ulInitCrc32 : UInt32) (pBuffer : List UInt8) : UInt32 :=
  ~~~(pBuffer.foldl (fun ulCrc32 b => crc32Bit^[8] (ulCrc32 ^^^ b.toUInt32)) (~~~ulInitCrc32))

lemma redCrc32Bitwise_nil (ulInitCrc32 : UInt32) : redCrc32Bitwise ulInitCrc32 [] = ulInitCrc32 :=
  UInt32.not_not

/-! ## Byte by byte -/

/-- One byte of `RedCrc32Update()` with `CRC_SARWATE`. -/
def crcSarwateByte (ulCrc32 : UInt32) (b : UInt8) : UInt32 :=
  (ulCrc32 >>> (8 : UInt32)) ^^^
    aulCrc32TableSarwate.getD ((ulCrc32 ^^^ b.toUInt32) &&& (0xFF : UInt32)).toNat 0

/-- `RedCrc32Update()` with `CRC_SARWATE`. -/
def redCrc32Sarwate (ulInitCrc32 : UInt32) (pBuffer : List UInt8) : UInt32 :=
  ~~~(pBuffer.foldl crcSarwateByte (~~~ulInitCrc32))

/-! ## Eight bytes at a time -/

/-- One byte of `RedCrc32Update()` with `CRC_SLICEBY8`, outside the slices. -/
def crcSliceByte (ulCrc32 : UInt32) (b : UInt8) : UInt32 :=
  (ulCrc32 >>> (8 : UInt32)) ^^^ aulCrc32TableSliceBy8.getD
    (((ulCrc32 ^^^ b.toUInt32) &&& (0xFF : UInt32)) <<< (3 : UInt32)).toNat 0

/-- The pointers into the table: `pulXorData7` for the column 0, …, `pulXorCrc0` for 7. -/
def crcSliceColumn (column : ℕ) (ulIdx : UInt32) : UInt32 :=
  aulCrc32TableSliceBy8.getD (column + ulIdx.toNat) 0

/-- The loop over the bytes before an aligned one: the checksum, and what is left. -/
def crcSliceAlign (alignmentSize : ℕ) : ℕ → UInt32 → List UInt8 → UInt32 × List UInt8
  | _, ulCrc32, [] => (ulCrc32, [])
  | ulAddr, ulCrc32, b :: rest =>
    if isAlignedPtr ulAddr alignmentSize then (ulCrc32, b :: rest)
    else crcSliceAlign alignmentSize (ulAddr + 1) (crcSliceByte ulCrc32 b) rest

/-- The first four bytes of a slice: put together one by one on a machine with
`REDCONF_ENDIAN_BIG`, and loaded as a number of a little-endian machine otherwise. -/
def crcSliceWord (endianBig : Bool) (pbBuffer : List UInt8) : UInt32 :=
  if endianBig then
    (pbBuffer.getD 0 0).toUInt32 ||| ((pbBuffer.getD 1 0).toUInt32 <<< (8 : UInt32)) |||
      ((pbBuffer.getD 2 0).toUInt32 <<< (16 : UInt32)) |||
      ((pbBuffer.getD 3 0).toUInt32 <<< (24 : UInt32))
  else UInt32.ofNat (Bytes.value (pbBuffer.take 4))

/-- One slice. -/
def crcSlice (endianBig : Bool) (ulCrc32 : UInt32) (pbBuffer : List UInt8) : UInt32 :=
  let ulCrc32 := ulCrc32 ^^^ crcSliceWord endianBig pbBuffer
  crcSliceColumn 4 (((ulCrc32 >>> (24 : UInt32)) &&& (0xFF : UInt32)) <<< (3 : UInt32)) ^^^
    crcSliceColumn 5 (((ulCrc32 >>> (16 : UInt32)) &&& (0xFF : UInt32)) <<< (3 : UInt32)) ^^^
    crcSliceColumn 6 (((ulCrc32 >>> (8 : UInt32)) &&& (0xFF : UInt32)) <<< (3 : UInt32)) ^^^
    crcSliceColumn 7 ((ulCrc32 &&& (0xFF : UInt32)) <<< (3 : UInt32)) ^^^
    crcSliceColumn 0 ((pbBuffer.getD 7 0).toUInt32 <<< (3 : UInt32)) ^^^
    crcSliceColumn 1 ((pbBuffer.getD 6 0).toUInt32 <<< (3 : UInt32)) ^^^
    crcSliceColumn 2 ((pbBuffer.getD 5 0).toUInt32 <<< (3 : UInt32)) ^^^
    crcSliceColumn 3 ((pbBuffer.getD 4 0).toUInt32 <<< (3 : UInt32))

/-- The loop over the slices, for the number of them: the checksum, and what is left. -/
def crcSlices (endianBig : Bool) : ℕ → UInt32 → List UInt8 → UInt32 × List UInt8
  | 0, ulCrc32, pbBuffer => (ulCrc32, pbBuffer)
  | n + 1, ulCrc32, pbBuffer =>
    crcSlices endianBig n (crcSlice endianBig ulCrc32 pbBuffer) (pbBuffer.drop 8)

/-- `RedCrc32Update()` with `CRC_SLICEBY8`, for a buffer at an address. -/
def redCrc32SliceBy8 (endianBig : Bool) (alignmentSize ulAddr : ℕ) (ulInitCrc32 : UInt32)
    (pBuffer : List UInt8) : UInt32 :=
  let (ulCrc32, pbBuffer) := crcSliceAlign alignmentSize ulAddr (~~~ulInitCrc32) pBuffer
  let (ulCrc32, pbBuffer) := crcSlices endianBig (pbBuffer.length >>> 3) ulCrc32 pbBuffer
  ~~~(pbBuffer.foldl crcSliceByte ulCrc32)

/-! ## The configured version -/

/-- **`RedCrc32Update()`** for a buffer at an address. -/
def CrcBuild.redCrc32Update (build : CrcBuild) (ulAddr : ℕ) (ulInitCrc32 : UInt32) :
    Option (List UInt8) → UInt32
  | none => SUSPICIOUS_CRC_VALUE
  | some pBuffer =>
    match build.algorithm with
    | .CRC_BITWISE => redCrc32Bitwise ulInitCrc32 pBuffer
    | .CRC_SARWATE => redCrc32Sarwate ulInitCrc32 pBuffer
    | .CRC_SLICEBY8 =>
      redCrc32SliceBy8 build.endianBig build.alignmentSize ulAddr ulInitCrc32 pBuffer

end RelianceEdge
