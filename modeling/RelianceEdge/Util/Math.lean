import RelianceEdge.Conf

set_option relaxedAutoImplicit false
set_option autoImplicit false

/-!
# 64-bit arithmetic without a divide instruction

`math.c` of the test utilities: division of 64-bit numbers out of 32-bit divisions, and scaling
by a fraction. A loop takes the number of rounds it may make and has no result when they do not
suffice; a pointer to a remainder is always given.

## Main definitions

* `redUint64DivMod32`, `redUint64DivMod64` — quotient and remainder.
* `nlz64` — the leading zeroes of a number.
* `redMulDiv64` — multiply and divide.
-/

namespace RelianceEdge

/-- `UINT64_MAX` of the arithmetic functions. -/
def MATH_UINT64_MAX : ℕ := 18446744073709551615

/-- Reduction of a sum, a product or a shift to `uint64_t`. -/
def u64 (n : ℕ) : ℕ := n % 18446744073709551616

/-- Subtraction of `uint64_t`. -/
def sub64 (a b : ℕ) : ℕ := u64 (a + 18446744073709551616 - b)

/-! ## Division by 32 bits -/

/-- The inner loop of `RedUint64DivMod32()`: subtracts the divisor while the high half of the
interim value is not zero. It returns the low half and the number of subtractions. -/
def divMod32Subtract (ulDivisor : ℕ) : ℕ → ℕ → ℕ → ℕ → Option (ℕ × ℕ)
  | 0, _, _, _ => none
  | rounds + 1, ulInterimHi, ulInterimLo, ulThisDivision =>
    if ulInterimHi ≠ 0 then
      let ullInterim := sub64 (u64 (ulInterimHi <<< 32 + ulInterimLo)) ulDivisor
      divMod32Subtract ulDivisor rounds (u32 (ullInterim >>> 32)) (u32 ullInterim)
        (u32 (ulThisDivision + 1))
    else some (ulInterimLo, ulThisDivision)

/-- The variables that the outer loop of `RedUint64DivMod32()` carries. -/
structure DivMod32 where
  ulMask : ℕ
  ulRemainder : ℕ
  ulResultLo : ℕ

/-- One round of the outer loop of `RedUint64DivMod32()`, on byte `bIndex` of the low half. -/
def divMod32Round (rounds ulLowDword ulDivisor : ℕ) (c : DivMod32) (bIndex : ℕ) :
    Option DivMod32 := do
  let ucNextValue := ((ulLowDword &&& c.ulMask) >>> ((4 - 1 - bIndex) * 8)) % 256
  let ulInterimHi := c.ulRemainder >>> 24
  let ulInterimLo := u32 (c.ulRemainder <<< 8) ||| ucNextValue
  let r ← divMod32Subtract ulDivisor rounds ulInterimHi ulInterimLo 0
  let ulThisDivision := u32 (r.2 + r.1 / ulDivisor)
  return {
    ulMask := c.ulMask >>> 8
    ulRemainder := r.1 % ulDivisor
    ulResultLo := u32 (u32 (c.ulResultLo <<< 8) + ulThisDivision) }

/-- `RedUint64DivMod32()`. -/
def redUint64DivMod32 (rounds ullDividend ulDivisor : ℕ) : Option (ℕ × ℕ) :=
  if ulDivisor = 0 then some (0xFFFFFFFFFFFFFBAD, 0xFFFFFBAD)
  else if ullDividend ≤ UINT32_MAX then
    some (ullDividend / ulDivisor, ullDividend % ulDivisor)
  else do
    let ulLowDword := u32 ullDividend
    let ulHighDword := ullDividend >>> 32
    let c ← [0, 1, 2, 3].foldlM (divMod32Round rounds ulLowDword ulDivisor)
      ⟨0xFF000000, ulHighDword % ulDivisor, 0⟩
    let ullQuotient := u64 ((ulHighDword / ulDivisor) <<< 32 + c.ulResultLo)
    return (ullQuotient, u32 (sub64 ullDividend (u64 (ullQuotient * ulDivisor))))

/-! ## Division by 64 bits -/

/-- One step of `nlz64()`, on the count and the shifted value. -/
def nlzStep (bits : ℕ) (c : ℕ × ℕ) : ℕ × ℕ :=
  if c.2 ≤ 2 ^ (64 - bits) - 1 then (c.1 + bits, u64 (c.2 <<< bits)) else c

/-- `nlz64()`. -/
def nlz64 (ullValue : ℕ) : ℕ :=
  if ullValue = 0 then 64 else ([32, 16, 8, 4, 2, 1].foldl (fun c k => nlzStep k c) (0, ullValue)).1

/-- The quotient of `RedUint64DivMod64()` for a divisor of more than 32 bits: an estimate from
the normalized divisor, too large by one at most, and its correction. -/
def divMod64Wide (rounds ullDividend ullDivisor : ℕ) : Option ℕ := do
  let n := nlz64 ullDivisor
  let v1 := u64 (ullDivisor <<< n) >>> 32
  let u1 := ullDividend >>> 1
  let q1 ← redUint64DivMod32 rounds u1 v1
  let q0 := u64 (q1.1 <<< n) >>> 31
  let q0 := if q0 ≠ 0 then q0 - 1 else q0
  return if sub64 ullDividend (u64 (q0 * ullDivisor)) ≥ ullDivisor then u64 (q0 + 1) else q0

/-- The quotient of `RedUint64DivMod64()` for a divisor of 32 bits: one division, or two by the
grade school method. -/
def divMod64Narrow (rounds ullDividend ullDivisor : ℕ) : Option ℕ :=
  if ullDividend >>> 32 < ullDivisor then do
    let q ← redUint64DivMod32 rounds ullDividend ullDivisor
    return q.1
  else do
    let u1 := ullDividend >>> 32
    let u0 := ullDividend &&& 0xFFFFFFFF
    let q1 ← redUint64DivMod32 rounds u1 ullDivisor
    let q0 ← redUint64DivMod32 rounds (u64 (q1.2 <<< 32 + u0)) ullDivisor
    return u64 (u64 (q1.1 <<< 32) + q0.1)

/-- `RedUint64DivMod64()`. -/
def redUint64DivMod64 (rounds ullDividend ullDivisor : ℕ) : Option (ℕ × ℕ) := do
  let ullQuotient ←
    if ullDivisor >>> 32 = 0 then divMod64Narrow rounds ullDividend ullDivisor
    else divMod64Wide rounds ullDividend ullDivisor
  return (ullQuotient, sub64 ullDividend (u64 (ullQuotient * ullDivisor)))

/-! ## Scaling -/

/-- What `RedMulDiv64()` returns once a factor is divided: the product, unless it overflows. -/
def mulDivProduct (ullFactor ullLimit ulMultiplier : ℕ) : ℕ :=
  if ullFactor > ullLimit then MATH_UINT64_MAX else u64 (ullFactor * ulMultiplier)

/-- Code paths 2 to 4 of `RedMulDiv64()`: divide one of the factors first. -/
def mulDivFirst (rounds ullBase ulMultiplier ullDivisor ullTemp : ℕ) : Option ℕ := do
  let base ← redUint64DivMod64 rounds ullBase ullDivisor
  if base.2 = 0 then
    return mulDivProduct base.1 ullTemp ulMultiplier
  let multiplier ← redUint64DivMod64 rounds ulMultiplier ullDivisor
  if multiplier.2 = 0 then
    -- the limit is computed again, for the other factor
    let limit ← redUint64DivMod64 rounds MATH_UINT64_MAX ullBase
    if multiplier.1 > limit.1 then
      return MATH_UINT64_MAX
    else
      return u64 (ullBase * u32 multiplier.1)
  -- neither divides: the larger one loses precision
  let larger := if ullBase < ulMultiplier then ulMultiplier else ullBase
  let smaller := if ullBase < ulMultiplier then u32 ullBase else ulMultiplier
  let quotient ← redUint64DivMod64 rounds larger ullDivisor
  let limit ← redUint64DivMod32 rounds MATH_UINT64_MAX smaller
  return mulDivProduct quotient.1 limit.1 smaller

/-- The loop of `RedMulDiv64()`, with what stands behind it. -/
def mulDivLoop (rounds : ℕ) : ℕ → ℕ → ℕ → ℕ → ℕ → Option ℕ
  | 0, _, _, _, _ => none
  | n + 1, ullBase, ulMultiplier, ullDivisor, ullTemp =>
    if ullBase > ullTemp then
      if ullDivisor &&& 1 = 0 ∧ ullBase &&& 1 = 0 then
        mulDivLoop rounds n (ullBase >>> 1) ulMultiplier (ullDivisor >>> 1) ullTemp
      else if ullDivisor &&& 1 = 0 ∧ ulMultiplier &&& 1 = 0 ∧ ullTemp &&& 0x8000000000000000 = 0
      then
        -- the limit is doubled, not computed for the halved multiplier
        mulDivLoop rounds n ullBase (ulMultiplier >>> 1) (ullDivisor >>> 1) (u64 (ullTemp <<< 1))
      else mulDivFirst rounds ullBase ulMultiplier ullDivisor ullTemp
    else do
      let q ← redUint64DivMod64 rounds (u64 (ullBase * ulMultiplier)) ullDivisor
      return q.1

/-- `RedMulDiv64()`. -/
def redMulDiv64 (rounds ullBase ulMultiplier ullDivisor : ℕ) : Option ℕ :=
  if ullBase = 0 ∨ ulMultiplier = 0 then some 0
  else if ullDivisor = 0 then some MATH_UINT64_MAX
  else do
    let limit ← redUint64DivMod32 rounds MATH_UINT64_MAX ulMultiplier
    mulDivLoop rounds rounds ullBase ulMultiplier ullDivisor limit.1

end RelianceEdge
