import Mathlib.Tactic.IntervalCases
import RelianceEdge.State

set_option relaxedAutoImplicit false
set_option autoImplicit false
set_option linter.unusedSectionVars false

/-!
# Byte order

`endian.c`, and the part of `buffercmn.c` that swaps a node in place for a machine whose byte
order is not that of the disk. A block is its node header and the bytes after it; swapping
reverses the bytes of each field.

## Main definitions

* `redRev32`, `redRev64` — reverse the bytes of a number.
* `swapFields` — reverse the bytes of consecutive fields of the given sizes.
* `RawBlock.redBufferEndianSwap` — swap a node of the given type.

## Main results

* `RawBlock.redBufferEndianSwap_swap` — swapping twice changes nothing.
-/

namespace RelianceEdge

/-! ## Numbers -/

/-- `RedRev32()`. -/
def redRev32 (ulToRev : UInt32) : UInt32 :=
  ((ulToRev &&& 0x000000FF) <<< 24) ||| ((ulToRev &&& 0x0000FF00) <<< 8) |||
    ((ulToRev &&& 0x00FF0000) >>> 8) ||| ((ulToRev &&& 0xFF000000) >>> 24)

/-- One step of `RedRev64()`: exchange the halves that the two masks select. -/
def exchange64 (ulMaskLow ulMaskHigh bits ullRet : UInt64) : UInt64 :=
  ((ullRet &&& ulMaskLow) <<< bits) ||| ((ullRet &&& ulMaskHigh) >>> bits)

/-- `RedRev64()`. -/
def redRev64 (ullToRev : UInt64) : UInt64 :=
  let ullRet := exchange64 0x00000000FFFFFFFF 0xFFFFFFFF00000000 32 ullToRev
  let ullRet := exchange64 0x0000FFFF0000FFFF 0xFFFF0000FFFF0000 16 ullRet
  exchange64 0x00FF00FF00FF00FF 0xFF00FF00FF00FF00 8 ullRet

/-- The bits of a literal mask. -/
lemma testBit_lit (n i : ℕ) : Nat.testBit n i = decide (n / 2 ^ i % 2 = 1) :=
  Nat.testBit_eq_decide_div_mod_eq

/-- Bit `i` of the reversed number comes from the byte on the other side. -/
lemma redRev32_bit (x : UInt32) {i : ℕ} (hi : i < 32) :
    (redRev32 x).toBitVec.getLsbD i = x.toBitVec.getLsbD (i ^^^ 24) := by
  have h24 : ((24 : UInt32).toBitVec % 32).toNat = 24 := by decide
  have h8 : ((8 : UInt32).toBitVec % 32).toNat = 8 := by decide
  simp only [redRev32, UInt32.toBitVec_or, UInt32.toBitVec_and, UInt32.toBitVec_shiftLeft,
    UInt32.toBitVec_shiftRight, BitVec.getLsbD_or, BitVec.shiftLeft_eq', BitVec.ushiftRight_eq',
    BitVec.getLsbD_shiftLeft, BitVec.getLsbD_ushiftRight, BitVec.getLsbD_and, h24, h8]
  interval_cases i <;> simp [BitVec.getLsbD, testBit_lit]

@[simp] lemma redRev32_redRev32 (x : UInt32) : redRev32 (redRev32 x) = x := by
  rw [← UInt32.toBitVec_inj]
  refine BitVec.eq_of_getLsbD_eq fun i hi => ?_
  have hx : i ^^^ 24 < 2 ^ 5 := Nat.xor_lt_two_pow hi (by decide)
  rw [redRev32_bit _ hi, redRev32_bit _ hx, Nat.xor_assoc, Nat.xor_self, Nat.xor_zero]

lemma exchange64_bit_32 (x : UInt64) {i : ℕ} (hi : i < 64) :
    (exchange64 0x00000000FFFFFFFF 0xFFFFFFFF00000000 32 x).toBitVec.getLsbD i =
      x.toBitVec.getLsbD (i ^^^ 32) := by
  have h : ((32 : UInt64).toBitVec % 64).toNat = 32 := by decide
  simp only [exchange64, UInt64.toBitVec_or, UInt64.toBitVec_and, UInt64.toBitVec_shiftLeft,
    UInt64.toBitVec_shiftRight, BitVec.getLsbD_or, BitVec.shiftLeft_eq', BitVec.ushiftRight_eq',
    BitVec.getLsbD_shiftLeft, BitVec.getLsbD_ushiftRight, BitVec.getLsbD_and, h]
  interval_cases i <;> simp [BitVec.getLsbD, testBit_lit]

lemma exchange64_bit_16 (x : UInt64) {i : ℕ} (hi : i < 64) :
    (exchange64 0x0000FFFF0000FFFF 0xFFFF0000FFFF0000 16 x).toBitVec.getLsbD i =
      x.toBitVec.getLsbD (i ^^^ 16) := by
  have h : ((16 : UInt64).toBitVec % 64).toNat = 16 := by decide
  simp only [exchange64, UInt64.toBitVec_or, UInt64.toBitVec_and, UInt64.toBitVec_shiftLeft,
    UInt64.toBitVec_shiftRight, BitVec.getLsbD_or, BitVec.shiftLeft_eq', BitVec.ushiftRight_eq',
    BitVec.getLsbD_shiftLeft, BitVec.getLsbD_ushiftRight, BitVec.getLsbD_and, h]
  interval_cases i <;> simp [BitVec.getLsbD, testBit_lit]

lemma exchange64_bit_8 (x : UInt64) {i : ℕ} (hi : i < 64) :
    (exchange64 0x00FF00FF00FF00FF 0xFF00FF00FF00FF00 8 x).toBitVec.getLsbD i =
      x.toBitVec.getLsbD (i ^^^ 8) := by
  have h : ((8 : UInt64).toBitVec % 64).toNat = 8 := by decide
  simp only [exchange64, UInt64.toBitVec_or, UInt64.toBitVec_and, UInt64.toBitVec_shiftLeft,
    UInt64.toBitVec_shiftRight, BitVec.getLsbD_or, BitVec.shiftLeft_eq', BitVec.ushiftRight_eq',
    BitVec.getLsbD_shiftLeft, BitVec.getLsbD_ushiftRight, BitVec.getLsbD_and, h]
  interval_cases i <;> simp [BitVec.getLsbD, testBit_lit]

/-- Bit `i` of the reversed number comes from the byte on the other side. -/
lemma redRev64_bit (x : UInt64) {i : ℕ} (hi : i < 64) :
    (redRev64 x).toBitVec.getLsbD i = x.toBitVec.getLsbD (i ^^^ 56) := by
  have h8 : i ^^^ 8 < 2 ^ 6 := Nat.xor_lt_two_pow hi (by decide)
  have h16 : i ^^^ 8 ^^^ 16 < 2 ^ 6 := Nat.xor_lt_two_pow h8 (by decide)
  rw [redRev64, exchange64_bit_8 _ hi, exchange64_bit_16 _ h8, exchange64_bit_32 _ h16,
    Nat.xor_assoc, Nat.xor_assoc]
  rfl

@[simp] lemma redRev64_redRev64 (x : UInt64) : redRev64 (redRev64 x) = x := by
  rw [← UInt64.toBitVec_inj]
  refine BitVec.eq_of_getLsbD_eq fun i hi => ?_
  have hx : i ^^^ 56 < 2 ^ 6 := Nat.xor_lt_two_pow hi (by decide)
  rw [redRev64_bit _ hi, redRev64_bit _ hx, Nat.xor_assoc, Nat.xor_self, Nat.xor_zero]

/-! ## Blocks -/

/-- `NODEHEADER`; a block of file data has data in its place. -/
structure NodeHeader where
  ulSignature : UInt32
  ulCRC : UInt32
  ullSequence : UInt64
  deriving DecidableEq

/-- A block of bytes: the first sixteen as a node header, and the rest. -/
structure RawBlock where
  hdr : NodeHeader
  rest : List UInt8
  deriving DecidableEq

/-- Reverse the bytes of consecutive fields of the given sizes; what follows is left alone. -/
def swapFields : List ℕ → List UInt8 → List UInt8
  | [], bytes => bytes
  | size :: sizes, bytes => (bytes.take size).reverse ++ swapFields sizes (bytes.drop size)

@[simp] lemma swapFields_nil (sizes : List ℕ) : swapFields sizes [] = [] := by
  induction sizes with
  | nil => rfl
  | cons size sizes ih => simp [swapFields, ih]

@[simp] lemma swapFields_swapFields (sizes : List ℕ) (bytes : List UInt8) :
    swapFields sizes (swapFields sizes bytes) = bytes := by
  induction sizes generalizing bytes with
  | nil => rfl
  | cons size sizes ih =>
    rcases le_total size bytes.length with hs | hs
    · have hl : (bytes.take size).reverse.length = size := by simp [hs]
      rw [swapFields, swapFields, List.take_left' hl, List.drop_left' hl, ih, List.reverse_reverse,
        List.take_append_drop]
    · have hd : bytes.drop size = [] := List.drop_eq_nil_iff.2 hs
      have ht : bytes.take size = bytes := List.take_of_length_le hs
      have hr : bytes.reverse.length ≤ size := by simpa using hs
      rw [swapFields, swapFields, hd, ht, swapFields_nil, List.append_nil,
        List.take_of_length_le hr, List.drop_eq_nil_iff.2 hr, swapFields_nil, List.append_nil,
        List.reverse_reverse]

variable [RedConf]

open RedConf

/-- The sizes of the fields after the node header that `BufferEndianSwapMaster()`,
`BufferEndianSwapInode()` and `BufferEndianSwapIndir()` swap. In a master block the build number,
the block size and the flags have no byte order. -/
def fieldSizes : BufType → List ℕ
  | .master => [4] ++ List.replicate 8 1 ++ [4, 4, 4, 2, 2, 2, 1, 1, 2, 2]
  | .inode => [8, 4, 4, 4, 4, 2, 2, 4] ++ (if deleteOpen then [4] else []) ++
      List.replicate inodeEntries 4
  | .indir | .dindir => [4] ++ List.replicate indirEntries 4
  | .data | .imap | .directory => []

/-- `BufferEndianSwapHeader()`. -/
def NodeHeader.swap (hdr : NodeHeader) : NodeHeader :=
  ⟨redRev32 hdr.ulSignature, redRev32 hdr.ulCRC, redRev64 hdr.ullSequence⟩

@[simp] lemma NodeHeader.swap_swap (hdr : NodeHeader) : hdr.swap.swap = hdr := by
  simp [NodeHeader.swap]

/-- `RedBufferEndianSwap()`: file data is not swapped. -/
def RawBlock.redBufferEndianSwap (block : RawBlock) (type : BufType) : RawBlock :=
  if type = .data then block
  else ⟨block.hdr.swap, swapFields (fieldSizes type) block.rest⟩

@[simp] lemma RawBlock.redBufferEndianSwap_swap (block : RawBlock) (type : BufType) :
    (block.redBufferEndianSwap type).redBufferEndianSwap type = block := by
  unfold RawBlock.redBufferEndianSwap
  split_ifs with h
  · rfl
  · simp

end RelianceEdge
