import RelianceEdge.Lib.Crc
import RelianceEdge.Util.Crc

set_option relaxedAutoImplicit false
set_option autoImplicit false

/-!
# The three versions of the checksum agree

Each version of `RedCrc32Update()` divides by the generator `0xEDB88320`: one steps over the bits,
one looks a byte up in a table, and one looks eight bytes up in eight tables.

## Main results

* `aulCrc32TableSliceBy8_getD` — the constants by row and column.
* `crcSlice_toBitVec` — a slice takes in eight bytes.
* `CrcBuild.redCrc32Update_eq` — every version is the division.
-/

namespace RelianceEdge

/-- `CCITT_32_POLYNOMIAL`, without its highest power. -/
def CCITT_32_POLYNOMIAL : BitVec 32 := 0xEDB88320#32

/-- The bytes of a buffer. -/
def bufferBits (pBuffer : List UInt8) : List (BitVec 8) := pBuffer.map UInt8.toBitVec

/-! ## Steps -/

/-- **One bit** is one step of the division. -/
lemma crc32Bit_toBitVec (ulCrc32 : UInt32) :
    (crc32Bit ulCrc32).toBitVec = Crc.shift CCITT_32_POLYNOMIAL ulCrc32.toBitVec := by
  have hlow : ulCrc32.toBitVec &&& 1#32 = if ulCrc32.toBitVec.getLsbD 0 then 1#32 else 0#32 := by
    rw [BitVec.and_one_eq_setWidth_ofBool_getLsbD]
    cases ulCrc32.toBitVec.getLsbD 0 <;> rfl
  change (ulCrc32.toBitVec &&& 1#32) * 0xEDB88320#32 ^^^ ulCrc32.toBitVec >>> 1 = _
  rw [hlow, Crc.shift]
  cases ulCrc32.toBitVec.getLsbD 0 <;> rfl

lemma iterate_toBitVec (n : ℕ) (ulCrc32 : UInt32) :
    (crc32Bit^[n] ulCrc32).toBitVec =
      (Crc.shift CCITT_32_POLYNOMIAL)^[n] ulCrc32.toBitVec := by
  induction n generalizing ulCrc32 with
  | zero => rfl
  | succ n ih =>
    rw [Function.iterate_succ_apply, ih, crc32Bit_toBitVec, Function.iterate_succ_apply]

/-! ## Constants -/

/-- The elements of rows of one length that stand behind one another. -/
lemma getElem?_flatMap_range {α : Type} (f : ℕ → List α) {m : ℕ} (hf : ∀ i, (f i).length = m)
    {n i k : ℕ} (hi : i < n) (hk : k < m) :
    ((List.range n).flatMap f)[k + m * i]? = (f i)[k]? := by
  have hlen (n : ℕ) : ((List.range n).flatMap f).length = m * n := by
    induction n with
    | zero => rfl
    | succ n ih =>
      rw [List.range_succ, List.flatMap_append, List.length_append, ih, List.flatMap_singleton, hf,
        Nat.mul_add_one]
  induction n with
  | zero => omega
  | succ n ih =>
    rw [List.range_succ, List.flatMap_append, List.flatMap_singleton]
    by_cases hin : i < n
    · have hmul : m * (i + 1) ≤ m * n := Nat.mul_le_mul_left m hin
      rw [Nat.mul_add_one] at hmul
      rw [List.getElem?_append_left (by rw [hlen]; omega), ih hin]
    · obtain rfl : i = n := by omega
      rw [List.getElem?_append_right (by rw [hlen]; omega), hlen, Nat.add_sub_cancel]

/-- A byte as an index. -/
lemma ofNat_toBitVec (b : BitVec 8) : (UInt32.ofNat b.toNat).toBitVec = b.setWidth 32 :=
  BitVec.ofNat_toNat 32 b

lemma aulCrc32TableSarwate_getD (b : BitVec 8) :
    (aulCrc32TableSarwate.getD b.toNat 0).toBitVec =
      (Crc.shift CCITT_32_POLYNOMIAL)^[8] (b.setWidth 32) := by
  have hb : b.toNat < 256 := b.isLt
  have hentry : aulCrc32TableSarwate.getD b.toNat 0 = crc32Bit^[8] (UInt32.ofNat b.toNat) := by
    rw [aulCrc32TableSarwate_eq, List.getD_eq_getElem?_getD, List.getElem?_map,
      List.getElem?_range hb]
    rfl
  rw [hentry, iterate_toBitVec, ofNat_toBitVec]

/-- **The constants** of the second table, by row and column. -/
lemma aulCrc32TableSliceBy8_getD (column : ℕ) (hcolumn : column < 8) (b : BitVec 8) :
    (aulCrc32TableSliceBy8.getD (column + 8 * b.toNat) 0).toBitVec =
      (Crc.shift CCITT_32_POLYNOMIAL)^[8 * column + 8] (b.setWidth 32) := by
  have hb : b.toNat < 256 := b.isLt
  have hentry : aulCrc32TableSliceBy8.getD (column + 8 * b.toNat) 0 =
      crc32Bit^[8 * column + 8] (UInt32.ofNat b.toNat) := by
    rw [aulCrc32TableSliceBy8_eq, List.getD_eq_getElem?_getD,
      getElem?_flatMap_range _ (fun i => List.length_iterate _ _ 8) hb hcolumn,
      List.getElem?_iterate _ _ _ _ hcolumn, Option.getD_some, ← Function.iterate_mul,
      ← Function.iterate_add_apply]
  rw [hentry, iterate_toBitVec, ofNat_toBitVec]

/-! ## Bytes -/

/-- `& 0xFF`. -/
lemma toNat_and_ff (x : UInt32) :
    (x &&& (0xFF : UInt32)).toNat = (x.toBitVec.setWidth 8).toNat := by
  rw [UInt32.toNat_and, BitVec.toNat_setWidth]
  exact Nat.and_two_pow_sub_one_eq_mod x.toNat 8

/-- `<< 3`, of a byte. -/
lemma toNat_shiftLeft_three {x : UInt32} {b : BitVec 8} (hx : x.toNat = b.toNat) :
    (x <<< (3 : UInt32)).toNat = 8 * b.toNat := by
  have hb : b.toNat < 256 := b.isLt
  rw [UInt32.toNat_shiftLeft, hx, show (3 : UInt32).toNat % 32 = 3 from rfl, Nat.shiftLeft_eq,
    Nat.mod_eq_of_lt (by omega), Nat.mul_comm]

/-- A version that goes byte by byte divides, if each of its bytes does. -/
lemma foldl_toBitVec {f : UInt32 → UInt8 → UInt32}
    (hf : ∀ c b, (f c b).toBitVec = Crc.byte CCITT_32_POLYNOMIAL c.toBitVec b.toBitVec)
    (pBuffer : List UInt8) (ulCrc32 : UInt32) : (pBuffer.foldl f ulCrc32).toBitVec =
      Crc.update CCITT_32_POLYNOMIAL ulCrc32.toBitVec (bufferBits pBuffer) := by
  induction pBuffer generalizing ulCrc32 with
  | nil => rfl
  | cons b pBuffer ih =>
    rw [List.foldl_cons, ih, hf]
    rfl

/-- Eight bits at a time. -/
lemma crcBits_toBitVec (ulCrc32 : UInt32) (b : UInt8) :
    (crc32Bit^[8] (ulCrc32 ^^^ b.toUInt32)).toBitVec =
      Crc.byte CCITT_32_POLYNOMIAL ulCrc32.toBitVec b.toBitVec := by
  rw [iterate_toBitVec]
  rfl

/-- One look into the first table. -/
lemma crcSarwateByte_toBitVec (ulCrc32 : UInt32) (b : UInt8) :
    (crcSarwateByte ulCrc32 b).toBitVec =
      Crc.byte CCITT_32_POLYNOMIAL ulCrc32.toBitVec b.toBitVec := by
  rw [Crc.byte_eq, crcSarwateByte, toNat_and_ff, UInt32.toBitVec_xor, aulCrc32TableSarwate_getD]
  rfl

/-- One look into the second table. -/
lemma crcSliceByte_toBitVec (ulCrc32 : UInt32) (b : UInt8) :
    (crcSliceByte ulCrc32 b).toBitVec =
      Crc.byte CCITT_32_POLYNOMIAL ulCrc32.toBitVec b.toBitVec := by
  have hentry := aulCrc32TableSliceBy8_getD 0 (by decide)
    ((ulCrc32 ^^^ b.toUInt32).toBitVec.setWidth 8)
  rw [Nat.zero_add, Nat.mul_zero, Nat.zero_add] at hentry
  rw [Crc.byte_eq, crcSliceByte, toNat_shiftLeft_three (toNat_and_ff _),
    UInt32.toBitVec_xor, hentry]
  rfl

/-! ## Slices -/

lemma crcSliceColumn_toBitVec (column : ℕ) (hcolumn : column < 8) {x : UInt32} {b : BitVec 8}
    (hx : x.toNat = b.toNat) : (crcSliceColumn column (x <<< (3 : UInt32))).toBitVec =
      (Crc.shift CCITT_32_POLYNOMIAL)^[8 * column + 8] (b.setWidth 32) := by
  rw [crcSliceColumn, toNat_shiftLeft_three hx, aulCrc32TableSliceBy8_getD column hcolumn]

/-- The number that bytes spell. -/
lemma ofNat_value {w : ℕ} (pBuffer : List UInt8) :
    BitVec.ofNat w (Bytes.value pBuffer) = Crc.word (bufferBits pBuffer) := by
  induction pBuffer with
  | nil => rfl
  | cons b pBuffer ih =>
    apply BitVec.eq_of_getLsbD_eq
    intro i hi
    have hb : b.toNat < 2 ^ 8 := b.toNat_lt
    have hbit : b.toBitVec.getLsbD i = b.toNat.testBit i := rfl
    change _ = (b.toBitVec.setWidth w ^^^ Crc.word (bufferBits pBuffer) <<< 8).getLsbD i
    rw [← ih, BitVec.getLsbD_xor, Crc.getLsbD_byte, BitVec.getLsbD_shiftLeft, BitVec.getLsbD_ofNat,
      BitVec.getLsbD_ofNat, hbit, Bytes.value, Nat.add_comm, show 256 = 2 ^ 8 from rfl,
      Nat.testBit_two_pow_mul_add _ hb]
    by_cases h8 : i < 8
    · simp [h8, hi]
    · have hlt : i - 8 < w := by omega
      have hzero : b.toNat.testBit i = false :=
        Nat.testBit_lt_two_pow (hb.trans_le (Nat.pow_le_pow_right (by decide) (by omega)))
      simp [h8, hi, hlt, hzero]

/-- The lowest byte and the others do not overlap. -/
lemma xor_shiftLeft_eight {w : ℕ} (b : BitVec 8) (x : BitVec w) :
    b.setWidth w ^^^ x <<< 8 = b.setWidth w ||| x <<< 8 := by
  apply BitVec.eq_of_getLsbD_eq
  intro i hi
  rw [BitVec.getLsbD_xor, BitVec.getLsbD_or, Crc.getLsbD_byte, BitVec.getLsbD_shiftLeft]
  by_cases h8 : i < 8
  · simp [h8, hi]
  · simp [BitVec.getLsbD_of_ge b i (by omega)]

/-- **Both ways to load** the first four bytes of a slice agree. -/
lemma crcSliceWord_toBitVec (endianBig : Bool) (b0 b1 b2 b3 : UInt8) (rest : List UInt8) :
    (crcSliceWord endianBig (b0 :: b1 :: b2 :: b3 :: rest)).toBitVec =
      Crc.word (bufferBits [b0, b1, b2, b3]) := by
  cases endianBig with
  | false => exact ofNat_value [b0, b1, b2, b3]
  | true =>
    change b0.toBitVec.setWidth 32 ||| b1.toBitVec.setWidth 32 <<< 8 |||
      b2.toBitVec.setWidth 32 <<< 16 ||| b3.toBitVec.setWidth 32 <<< 24 = _
    simp only [bufferBits, List.map_cons, List.map_nil, Crc.word, xor_shiftLeft_eight]
    simp only [BitVec.shiftLeft_or_distrib, ← BitVec.shiftLeft_add, BitVec.or_assoc,
      BitVec.zero_shiftLeft, BitVec.or_zero, Nat.reduceAdd]

/-- Four bytes are taken in by four tables. -/
lemma iterate_word_four (n : ℕ) (a b c d : BitVec 8) :
    (Crc.shift CCITT_32_POLYNOMIAL)^[n + 32] (Crc.word [a, b, c, d]) =
      (Crc.shift CCITT_32_POLYNOMIAL)^[n + 32] (a.setWidth 32) ^^^
        ((Crc.shift CCITT_32_POLYNOMIAL)^[n + 24] (b.setWidth 32) ^^^
          ((Crc.shift CCITT_32_POLYNOMIAL)^[n + 16] (c.setWidth 32) ^^^
            (Crc.shift CCITT_32_POLYNOMIAL)^[n + 8] (d.setWidth 32))) := by
  rw [Crc.iterate_word_cons _ (n + 24) a (show 8 * ([b, c, d].length + 1) ≤ 32 from Nat.le_refl 32),
    Crc.iterate_word_cons _ (n + 16) b (show 8 * ([c, d].length + 1) ≤ 32 by simp),
    Crc.iterate_word_cons _ (n + 8) c (show 8 * ([d].length + 1) ≤ 32 by simp),
    Crc.iterate_word_cons _ n d (show 8 * (List.length [] + 1) ≤ 32 by simp), Crc.iterate_word_nil,
    BitVec.xor_zero]

/-- The eight bytes of a slice, in two words. -/
lemma update_slice (x : BitVec 32) (b0 b1 b2 b3 b4 b5 b6 b7 : UInt8) :
    Crc.update CCITT_32_POLYNOMIAL x (bufferBits [b0, b1, b2, b3, b4, b5, b6, b7]) =
      (Crc.shift CCITT_32_POLYNOMIAL)^[64] (x ^^^ Crc.word (bufferBits [b0, b1, b2, b3])) ^^^
        (Crc.shift CCITT_32_POLYNOMIAL)^[32] (Crc.word (bufferBits [b4, b5, b6, b7])) := by
  change Crc.update _ _ (bufferBits [b0, b1, b2, b3] ++ bufferBits [b4, b5, b6, b7]) = _
  rw [Crc.update_append, Crc.update_word _ (show 8 * 4 ≤ 32 from Nat.le_refl 32),
    Crc.update_word _ (show 8 * 4 ≤ 32 from Nat.le_refl 32), Crc.iterate_xor,
    ← Function.iterate_add_apply]
  rfl

/-- **A slice** takes in eight bytes. -/
theorem crcSlice_toBitVec (endianBig : Bool) (ulCrc32 : UInt32) (b0 b1 b2 b3 b4 b5 b6 b7 : UInt8)
    (rest : List UInt8) :
    (crcSlice endianBig ulCrc32 (b0 :: b1 :: b2 :: b3 :: b4 :: b5 :: b6 :: b7 :: rest)).toBitVec =
      Crc.update CCITT_32_POLYNOMIAL ulCrc32.toBitVec
        (bufferBits [b0, b1, b2, b3, b4, b5, b6, b7]) := by
  obtain ⟨x, hx⟩ : ∃ x, x = ulCrc32 ^^^
    crcSliceWord endianBig (b0 :: b1 :: b2 :: b3 :: b4 :: b5 :: b6 :: b7 :: rest) := ⟨_, rfl⟩
  -- the register is the word of its four bytes
  have hword : ulCrc32.toBitVec ^^^ Crc.word (bufferBits [b0, b1, b2, b3]) =
      Crc.word [x.toBitVec.setWidth 8, (x >>> (8 : UInt32)).toBitVec.setWidth 8,
        (x >>> (16 : UInt32)).toBitVec.setWidth 8, (x >>> (24 : UInt32)).toBitVec.setWidth 8] := by
    have hbytes := Crc.word_bytesOf (n := 4) (x := x.toBitVec) fun i hi =>
      BitVec.getLsbD_of_ge _ i hi
    simp only [Crc.bytesOf, ← BitVec.shiftRight_add] at hbytes
    rw [← crcSliceWord_toBitVec endianBig b0 b1 b2 b3 (b4 :: b5 :: b6 :: b7 :: rest),
      ← UInt32.toBitVec_xor, ← hx]
    exact hbytes.symm
  have hslice : crcSlice endianBig ulCrc32
      (b0 :: b1 :: b2 :: b3 :: b4 :: b5 :: b6 :: b7 :: rest) =
      crcSliceColumn 4 (((x >>> (24 : UInt32)) &&& (0xFF : UInt32)) <<< (3 : UInt32)) ^^^
        crcSliceColumn 5 (((x >>> (16 : UInt32)) &&& (0xFF : UInt32)) <<< (3 : UInt32)) ^^^
        crcSliceColumn 6 (((x >>> (8 : UInt32)) &&& (0xFF : UInt32)) <<< (3 : UInt32)) ^^^
        crcSliceColumn 7 ((x &&& (0xFF : UInt32)) <<< (3 : UInt32)) ^^^
        crcSliceColumn 0 (b7.toUInt32 <<< (3 : UInt32)) ^^^
        crcSliceColumn 1 (b6.toUInt32 <<< (3 : UInt32)) ^^^
        crcSliceColumn 2 (b5.toUInt32 <<< (3 : UInt32)) ^^^
        crcSliceColumn 3 (b4.toUInt32 <<< (3 : UInt32)) := by
    rw [hx]
    rfl
  have hb (b : UInt8) : b.toUInt32.toNat = b.toBitVec.toNat := rfl
  rw [update_slice, hword, iterate_word_four 32, hslice]
  change _ = _ ^^^ (Crc.shift CCITT_32_POLYNOMIAL)^[0 + 32] (Crc.word [_, _, _, _])
  rw [iterate_word_four 0]
  simp only [UInt32.toBitVec_xor, crcSliceColumn_toBitVec 4 (by decide) (toNat_and_ff _),
    crcSliceColumn_toBitVec 5 (by decide) (toNat_and_ff _),
    crcSliceColumn_toBitVec 6 (by decide) (toNat_and_ff _),
    crcSliceColumn_toBitVec 7 (by decide) (toNat_and_ff _),
    crcSliceColumn_toBitVec 0 (by decide) (hb _),
    crcSliceColumn_toBitVec 1 (by decide) (hb _),
    crcSliceColumn_toBitVec 2 (by decide) (hb _),
    crcSliceColumn_toBitVec 3 (by decide) (hb _)]
  ac_rfl

/-! ## Loops -/

/-- The bytes before an aligned one. -/
lemma crcSliceAlign_update (alignmentSize : ℕ) (pBuffer : List UInt8) (ulAddr : ℕ)
    (ulCrc32 : UInt32) :
    Crc.update CCITT_32_POLYNOMIAL
        (crcSliceAlign alignmentSize ulAddr ulCrc32 pBuffer).1.toBitVec
        (bufferBits (crcSliceAlign alignmentSize ulAddr ulCrc32 pBuffer).2) =
      Crc.update CCITT_32_POLYNOMIAL ulCrc32.toBitVec (bufferBits pBuffer) := by
  induction pBuffer generalizing ulAddr ulCrc32 with
  | nil => rfl
  | cons b pBuffer ih =>
    unfold crcSliceAlign
    by_cases haligned : isAlignedPtr ulAddr alignmentSize
    · rw [if_pos haligned]
    · rw [if_neg haligned, ih, crcSliceByte_toBitVec]
      rfl

/-- The slices. -/
lemma crcSlices_update (endianBig : Bool) (n : ℕ) {pbBuffer : List UInt8}
    (hlen : 8 * n ≤ pbBuffer.length) (ulCrc32 : UInt32) :
    Crc.update CCITT_32_POLYNOMIAL (crcSlices endianBig n ulCrc32 pbBuffer).1.toBitVec
        (bufferBits (crcSlices endianBig n ulCrc32 pbBuffer).2) =
      Crc.update CCITT_32_POLYNOMIAL ulCrc32.toBitVec (bufferBits pbBuffer) := by
  induction n generalizing pbBuffer ulCrc32 with
  | zero => rfl
  | succ n ih =>
    obtain ⟨b0, b1, b2, b3, b4, b5, b6, b7, rest, rfl⟩ : ∃ b0 b1 b2 b3 b4 b5 b6 b7 rest,
        pbBuffer = b0 :: b1 :: b2 :: b3 :: b4 :: b5 :: b6 :: b7 :: rest := by
      rcases pbBuffer with _ | ⟨b0, _ | ⟨b1, _ | ⟨b2, _ | ⟨b3, _ | ⟨b4, _ | ⟨b5, _ | ⟨b6,
        _ | ⟨b7, rest⟩⟩⟩⟩⟩⟩⟩⟩
      case cons.cons.cons.cons.cons.cons.cons.cons =>
        exact ⟨b0, b1, b2, b3, b4, b5, b6, b7, rest, rfl⟩
      all_goals
        simp only [List.length_cons, List.length_nil] at hlen
        omega
    have hrest : 8 * n ≤ rest.length := by
      simp only [List.length_cons] at hlen
      omega
    change Crc.update _ (crcSlices endianBig n (crcSlice endianBig ulCrc32 _) rest).1.toBitVec
      (bufferBits (crcSlices endianBig n (crcSlice endianBig ulCrc32 _) rest).2) = _
    rw [ih hrest, crcSlice_toBitVec, ← Crc.update_append]
    rfl

/-! ## The versions -/

lemma redCrc32Bitwise_toBitVec (ulInitCrc32 : UInt32) (pBuffer : List UInt8) :
    (redCrc32Bitwise ulInitCrc32 pBuffer).toBitVec =
      ~~~Crc.update CCITT_32_POLYNOMIAL (~~~ulInitCrc32.toBitVec) (bufferBits pBuffer) := by
  rw [redCrc32Bitwise, UInt32.toBitVec_not, foldl_toBitVec crcBits_toBitVec, UInt32.toBitVec_not]

lemma redCrc32Sarwate_toBitVec (ulInitCrc32 : UInt32) (pBuffer : List UInt8) :
    (redCrc32Sarwate ulInitCrc32 pBuffer).toBitVec =
      ~~~Crc.update CCITT_32_POLYNOMIAL (~~~ulInitCrc32.toBitVec) (bufferBits pBuffer) := by
  rw [redCrc32Sarwate, UInt32.toBitVec_not, foldl_toBitVec crcSarwateByte_toBitVec,
    UInt32.toBitVec_not]

lemma redCrc32SliceBy8_toBitVec (endianBig : Bool) (alignmentSize ulAddr : ℕ)
    (ulInitCrc32 : UInt32) (pBuffer : List UInt8) :
    (redCrc32SliceBy8 endianBig alignmentSize ulAddr ulInitCrc32 pBuffer).toBitVec =
      ~~~Crc.update CCITT_32_POLYNOMIAL (~~~ulInitCrc32.toBitVec) (bufferBits pBuffer) := by
  have halign := crcSliceAlign_update alignmentSize pBuffer ulAddr (~~~ulInitCrc32)
  unfold redCrc32SliceBy8
  rcases hrest : crcSliceAlign alignmentSize ulAddr (~~~ulInitCrc32) pBuffer with
    ⟨ulCrc32, pbBuffer⟩
  rw [hrest] at halign
  dsimp only at halign ⊢
  have hlen : 8 * (pbBuffer.length >>> 3) ≤ pbBuffer.length := by
    rw [Nat.shiftRight_eq_div_pow]
    exact Nat.mul_div_le _ 8
  have hslices := crcSlices_update endianBig (pbBuffer.length >>> 3) hlen ulCrc32
  rw [UInt32.toBitVec_not, foldl_toBitVec crcSliceByte_toBitVec, hslices, halign,
    UInt32.toBitVec_not]

/-- **Every version** of `RedCrc32Update()` is the division, with the register inverted before and
after it. -/
theorem CrcBuild.redCrc32Update_eq (build : CrcBuild) (ulAddr : ℕ) (ulInitCrc32 : UInt32)
    (pBuffer : List UInt8) : (build.redCrc32Update ulAddr ulInitCrc32 (some pBuffer)).toBitVec =
      ~~~Crc.update CCITT_32_POLYNOMIAL (~~~ulInitCrc32.toBitVec) (bufferBits pBuffer) := by
  unfold CrcBuild.redCrc32Update
  rcases build.algorithm with _ | _ | _
  · exact redCrc32Bitwise_toBitVec ulInitCrc32 pBuffer
  · exact redCrc32Sarwate_toBitVec ulInitCrc32 pBuffer
  · exact redCrc32SliceBy8_toBitVec _ _ _ ulInitCrc32 pBuffer

/-- **The three versions are one function**, whatever the build and the address of the buffer. -/
theorem CrcBuild.redCrc32Update_congr (a b : CrcBuild) (p q : ℕ) (ulInitCrc32 : UInt32)
    (pBuffer : Option (List UInt8)) :
    a.redCrc32Update p ulInitCrc32 pBuffer = b.redCrc32Update q ulInitCrc32 pBuffer := by
  rcases pBuffer with _ | pBuffer
  · rfl
  · apply UInt32.toBitVec_inj.1
    rw [a.redCrc32Update_eq, b.redCrc32Update_eq]

/-- The check value of this checksum: that of the nine digits. -/
example : redCrc32Bitwise 0 [49, 50, 51, 52, 53, 54, 55, 56, 57] = 0xCBF43926 := by decide +kernel

/-- **A checksum goes on** from any point of a buffer. -/
theorem CrcBuild.redCrc32Update_append (a : CrcBuild) (p q r : ℕ) (ulInitCrc32 : UInt32)
    (x y : List UInt8) : a.redCrc32Update p ulInitCrc32 (some (x ++ y)) =
      a.redCrc32Update r (a.redCrc32Update q ulInitCrc32 (some x)) (some y) := by
  apply UInt32.toBitVec_inj.1
  rw [a.redCrc32Update_eq, a.redCrc32Update_eq, a.redCrc32Update_eq, BitVec.not_not,
    ← Crc.update_append, bufferBits, List.map_append]
  rfl

end RelianceEdge
