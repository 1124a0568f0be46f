import Mathlib.Data.Nat.Bitwise
import Mathlib.Tactic.IntervalCases
import Mathlib.Tactic.LinearCombination
import Mathlib.Tactic.Ring
import RelianceEdge.Util.Math

set_option relaxedAutoImplicit false
set_option autoImplicit false

/-!
# The divisions are exact

`RedUint64DivMod32()` is a long division in bytes whose digits are found by subtraction, and
`RedUint64DivMod64()` estimates the quotient from the normalized divisor. Both give quotient and
remainder for every dividend and divisor, in at most 256 rounds of a loop.

## Main results

* `redUint64DivMod32_eq`, `redUint64DivMod64_eq` — the quotient and the remainder.
-/

namespace RelianceEdge

/-! ## Words -/

lemma u32_eq {n : ℕ} (h : n < 2 ^ 32) : u32 n = n := Nat.mod_eq_of_lt h

lemma u64_eq {n : ℕ} (h : n < 2 ^ 64) : u64 n = n := Nat.mod_eq_of_lt h

lemma u32_lt (n : ℕ) : u32 n < 2 ^ 32 := Nat.mod_lt _ (by decide)

lemma sub64_eq {a b : ℕ} (ha : a < 2 ^ 64) (hb : b ≤ a) : sub64 a b = a - b := by
  unfold sub64 u64
  omega

lemma split32 (n : ℕ) : n / 2 ^ 32 * 2 ^ 32 + u32 n = n := Nat.div_add_mod' n (2 ^ 32)

/-- Quotient and remainder from a division with a small remainder. -/
lemma div_mod_eq {a b q r : ℕ} (hr : r < b) (h : q * b + r = a) : q = a / b ∧ r = a % b := by
  subst h
  constructor
  · rw [Nat.mul_comm, Nat.mul_add_div (Nat.zero_lt_of_lt hr), Nat.div_eq_of_lt hr, Nat.add_zero]
  · rw [Nat.mul_comm, Nat.mul_add_mod, Nat.mod_eq_of_lt hr]

/-! ## Subtraction -/

/-- **The inner loop ends**, after as many rounds as the divisor goes into the interim value
until it has 32 bits. -/
lemma divMod32Subtract_eq {ulDivisor : ℕ} (hpos : 0 < ulDivisor) (hd : ulDivisor < 2 ^ 32)
    (rounds x n : ℕ) (hx : x < 2 ^ 64) (hrounds : x / ulDivisor < rounds)
    (hn : n + x / ulDivisor < 2 ^ 32) :
    ∃ k low, divMod32Subtract ulDivisor rounds (x / 2 ^ 32) (u32 x) n = some (low, n + k) ∧
      k * ulDivisor + low = x := by
  induction rounds generalizing x n with
  | zero => exact absurd hrounds (Nat.not_lt_zero _)
  | succ rounds ih =>
    unfold divMod32Subtract
    by_cases h0 : x / 2 ^ 32 = 0
    · rw [if_neg (by omega)]
      exact ⟨0, u32 x, rfl, by rw [u32_eq (by omega)]; omega⟩
    · -- one subtraction takes one off the quotient
      have hge : ulDivisor ≤ x := by omega
      have hinterim : sub64 (u64 ((x / 2 ^ 32) <<< 32 + u32 x)) ulDivisor = x - ulDivisor := by
        rw [Nat.shiftLeft_eq, split32, u64_eq hx]
        exact sub64_eq hx hge
      have hquot : (x - ulDivisor) / ulDivisor + 1 = x / ulDivisor := by
        rw [Nat.div_eq_sub_div hpos hge]
      have hzero := Nat.zero_le ((x - ulDivisor) / ulDivisor)
      obtain ⟨k, low, hrun, heq⟩ := ih (x - ulDivisor) (n + 1) (by omega) (by omega) (by omega)
      refine ⟨k + 1, low, ?_, ?_⟩
      · rw [if_pos h0]
        dsimp only
        rw [hinterim, Nat.shiftRight_eq_div_pow, u32_eq (n := (x - ulDivisor) / 2 ^ 32) (by omega),
          u32_eq (n := n + 1) (by omega), hrun, Nat.add_assoc, Nat.add_comm 1 k]
      · rw [Nat.succ_mul]
        omega

/-! ## Long division in bytes -/

/-- The byte that a round takes from the low half. -/
lemma byte_eq (low s : ℕ) :
    ((low &&& (0xFF <<< s)) >>> s) % 256 = low / 2 ^ s % 256 := by
  rw [Nat.shiftRight_and_distrib, Nat.shiftLeft_shiftRight, Nat.shiftRight_eq_div_pow,
    show (0xFF : ℕ) = 2 ^ 8 - 1 from rfl, Nat.and_two_pow_sub_one_eq_mod, Nat.mod_mod]

/-- **One round divides**: the next digit is the quotient of the remainder and the next byte. -/
lemma divMod32Round_eq {rounds low ulDivisor : ℕ} (hpos : 0 < ulDivisor)
    (hd : ulDivisor < 2 ^ 32) (hrounds : 256 ≤ rounds) {i : ℕ} (hi : i < 4) {R : ℕ} (lo b : ℕ)
    (hR : R < ulDivisor) (hlo : lo < 2 ^ (8 * i)) (hb : b = low / 2 ^ (8 * (3 - i)) % 256) :
    ∃ q R', divMod32Round rounds low ulDivisor ⟨0xFF000000 >>> (8 * i), R, lo⟩ i =
        some ⟨0xFF000000 >>> (8 * (i + 1)), R', lo * 256 + q⟩ ∧
      q < 256 ∧ R' < ulDivisor ∧
      q * ulDivisor + R' = R * 256 + b := by
  have hb256 : b < 256 := hb ▸ Nat.mod_lt _ (by decide)
  have hbyte : ((low &&& (0xFF000000 >>> (8 * i))) >>> ((4 - 1 - i) * 8)) % 256 = b := by
    have hmask : (0xFF000000 : ℕ) >>> (8 * i) = 0xFF <<< (8 * (3 - i)) := by
      interval_cases i <;> rfl
    rw [hmask, show (4 - 1 - i) * 8 = 8 * (3 - i) by omega, byte_eq, hb]
  have hhigh : R >>> 24 = (R * 256 + b) / 2 ^ 32 := by
    rw [Nat.shiftRight_eq_div_pow]
    omega
  have hlow : u32 (R <<< 8) ||| b = u32 (R * 256 + b) := by
    have hshift : u32 (R <<< 8) = (R % 2 ^ 24) <<< 8 := by
      rw [Nat.shiftLeft_eq, Nat.shiftLeft_eq]
      unfold u32
      omega
    rw [hshift, ← Nat.shiftLeft_add_eq_or_of_lt hb256, Nat.shiftLeft_eq]
    unfold u32
    omega
  have hq : (R * 256 + b) / ulDivisor < 256 := by
    rw [Nat.div_lt_iff_lt_mul hpos]
    omega
  obtain ⟨k, l, hrun, heq⟩ := divMod32Subtract_eq hpos hd rounds (R * 256 + b) 0 (by omega)
    (by omega) (by omega)
  have hdiv : (k + l / ulDivisor) * ulDivisor + l % ulDivisor = R * 256 + b := by
    have := Nat.div_add_mod' l ulDivisor
    rw [Nat.add_mul]
    omega
  obtain ⟨hquot, -⟩ := div_mod_eq (Nat.mod_lt l hpos) hdiv
  refine ⟨k + l / ulDivisor, l % ulDivisor, ?_, by omega, Nat.mod_lt _ hpos, hdiv⟩
  have hres : u32 (u32 (lo <<< 8) + u32 (k + l / ulDivisor)) = lo * 256 + (k + l / ulDivisor) := by
    have hlo24 : lo < 2 ^ 24 := lt_of_lt_of_le hlo (Nat.pow_le_pow_right (by decide) (by omega))
    rw [Nat.shiftLeft_eq, u32_eq (n := lo * 2 ^ 8) (by omega),
      u32_eq (n := k + l / ulDivisor) (by omega), u32_eq (by omega)]
  unfold divMod32Round
  dsimp only
  rw [hbyte, hhigh, hlow, hrun, Nat.zero_add]
  simp only [bind, Option.bind, pure]
  rw [hres, ← Nat.shiftRight_add]
  rfl

lemma bytes_eq {low : ℕ} (h : low < 2 ^ 32) : ((low / 2 ^ 24 % 256 * 256 +
    low / 2 ^ 16 % 256) * 256 + low / 2 ^ 8 % 256) * 256 + low / 2 ^ 0 % 256 = low := by
  omega

/-- The digits and the last remainder of a long division make up the dividend. -/
lemma long_division {u d hi low Q R b0 b1 b2 b3 q0 q1 q2 q3 R0 R1 R2 R3 : ℕ}
    (hQ : Q * d + R = hi) (e0 : q0 * d + R0 = R * 256 + b0) (e1 : q1 * d + R1 = R0 * 256 + b1)
    (e2 : q2 * d + R2 = R1 * 256 + b2) (e3 : q3 * d + R3 = R2 * 256 + b3)
    (hlow : ((b0 * 256 + b1) * 256 + b2) * 256 + b3 = low) (hu : hi * 2 ^ 32 + low = u) :
    (Q * 2 ^ 32 + ((((0 * 256 + q0) * 256 + q1) * 256 + q2) * 256 + q3)) * d + R3 = u := by
  linear_combination hu + hlow + 2 ^ 32 * hQ + 2 ^ 24 * e0 + 2 ^ 16 * e1 + 2 ^ 8 * e2 + e3

/-- **`RedUint64DivMod32()` is exact.** -/
theorem redUint64DivMod32_eq {rounds ullDividend ulDivisor : ℕ} (hrounds : 256 ≤ rounds)
    (hu : ullDividend < 2 ^ 64) (hpos : 0 < ulDivisor) (hd : ulDivisor < 2 ^ 32) :
    redUint64DivMod32 rounds ullDividend ulDivisor =
      some (ullDividend / ulDivisor, ullDividend % ulDivisor) := by
  unfold redUint64DivMod32
  rw [if_neg (by omega)]
  split
  · rfl
  · obtain ⟨low, hlow⟩ : ∃ low, low = u32 ullDividend := ⟨_, rfl⟩
    obtain ⟨hi, hhi⟩ : ∃ hi, hi = ullDividend >>> 32 := ⟨_, rfl⟩
    have hhi32 : hi < 2 ^ 32 := by
      rw [hhi, Nat.shiftRight_eq_div_pow]
      omega
    have hsplit : hi * 2 ^ 32 + low = ullDividend := by
      rw [hhi, hlow, Nat.shiftRight_eq_div_pow]
      exact split32 _
    have hlow32 : low < 2 ^ 32 := by
      rw [hlow]
      exact u32_lt _
    obtain ⟨q0, R0, h0, hq0, hR0, e0⟩ := divMod32Round_eq hpos hd hrounds (i := 0) (by decide)
      0 (low / 2 ^ 24 % 256) (Nat.mod_lt hi hpos) (by decide) rfl
    obtain ⟨q1, R1, h1, hq1, hR1, e1⟩ := divMod32Round_eq hpos hd hrounds (i := 1) (by decide)
      (0 * 256 + q0) (low / 2 ^ 16 % 256) hR0 (by omega) rfl
    obtain ⟨q2, R2, h2, hq2, hR2, e2⟩ := divMod32Round_eq hpos hd hrounds (i := 2) (by decide)
      ((0 * 256 + q0) * 256 + q1) (low / 2 ^ 8 % 256) hR1 (by omega) rfl
    obtain ⟨q3, R3, h3, hq3, hR3, e3⟩ := divMod32Round_eq hpos hd hrounds (i := 3) (by decide)
      (((0 * 256 + q0) * 256 + q1) * 256 + q2) (low / 2 ^ 0 % 256) hR2 (by omega) rfl
    have hloop : [0, 1, 2, 3].foldlM (divMod32Round rounds low ulDivisor)
        ⟨0xFF000000, hi % ulDivisor, 0⟩ =
        some ⟨0xFF000000 >>> (8 * (3 + 1)), R3,
          (((0 * 256 + q0) * 256 + q1) * 256 + q2) * 256 + q3⟩ := by
      simp only [List.foldlM_cons, List.foldlM_nil]
      rw [show (⟨0xFF000000, hi % ulDivisor, 0⟩ : DivMod32) =
        ⟨0xFF000000 >>> (8 * 0), hi % ulDivisor, 0⟩ from rfl, h0]
      simp only [bind, Option.bind]
      rw [h1]
      dsimp only
      rw [h2]
      dsimp only
      rw [h3]
      rfl
    obtain ⟨lo, hlo⟩ : ∃ lo, lo = (((0 * 256 + q0) * 256 + q1) * 256 + q2) * 256 + q3 :=
      ⟨_, rfl⟩
    rw [← hlo] at hloop
    -- the digits and the last remainder make up the dividend
    have hwhole : (hi / ulDivisor * 2 ^ 32 + lo) * ulDivisor + R3 = ullDividend := by
      rw [hlo]
      exact long_division (Nat.div_add_mod' hi ulDivisor) e0 e1 e2 e3 (bytes_eq hlow32) hsplit
    obtain ⟨hquot, hrem⟩ := div_mod_eq hR3 hwhole
    have hlt : ullDividend / ulDivisor < 2 ^ 64 := lt_of_le_of_lt (Nat.div_le_self _ _) hu
    have hmul : ullDividend / ulDivisor * ulDivisor ≤ ullDividend := Nat.div_mul_le_self _ _
    dsimp only
    rw [← hlow, ← hhi, hloop]
    simp only [bind, Option.bind, pure]
    rw [Nat.shiftLeft_eq, hquot, u64_eq hlt, u64_eq (by omega), sub64_eq hu hmul]
    have hmod := Nat.div_add_mod' ullDividend ulDivisor
    rw [u32_eq (by omega), Option.some.injEq, Prod.mk.injEq]
    omega

/-! ## Leading zeroes -/

/-- What `nlz64()` keeps: the value shifted by the count, without a loss. -/
structure NlzInv (v : ℕ) (c : ℕ × ℕ) : Prop where
  /-- The second component is the shifted value. -/
  shifted : c.2 = v * 2 ^ c.1
  /-- It has 64 bits. -/
  lt : c.2 < 2 ^ 64

/-- A step doubles the number of bits known to be in front, and keeps the rest. -/
lemma NlzInv.step {v k : ℕ} {c : ℕ × ℕ} (h : NlzInv v c) (hk : k ≤ 64) :
    NlzInv v (nlzStep k c) ∧
      (2 ^ (64 - 2 * k) ≤ c.2 → 2 * k ≤ 64 → 2 ^ (64 - k) ≤ (nlzStep k c).2) := by
  obtain ⟨n, x⟩ := c
  have hx := h.shifted
  have hlt := h.lt
  unfold nlzStep
  dsimp only at hx hlt ⊢
  have hpow : 2 ^ (64 - k) * 2 ^ k = 2 ^ 64 := by rw [← Nat.pow_add, Nat.sub_add_cancel hk]
  have hpos : 0 < 2 ^ (64 - k) := Nat.two_pow_pos _
  by_cases hle : x ≤ 2 ^ (64 - k) - 1
  · have hfits : x * 2 ^ k < 2 ^ 64 := by
      rw [← hpow]
      exact (Nat.mul_lt_mul_right (Nat.two_pow_pos k)).2 (by omega)
    rw [if_pos hle, Nat.shiftLeft_eq, u64_eq hfits]
    refine ⟨⟨?_, hfits⟩, ?_⟩
    · show x * 2 ^ k = v * 2 ^ (n + k)
      rw [hx, Nat.mul_assoc, ← Nat.pow_add]
    · intro hge h2k
      show 2 ^ (64 - k) ≤ x * 2 ^ k
      calc 2 ^ (64 - k) = 2 ^ (64 - 2 * k) * 2 ^ k := by
            rw [← Nat.pow_add]
            congr 1
            omega
        _ ≤ x * 2 ^ k := Nat.mul_le_mul_right _ hge
  · rw [if_neg hle]
    exact ⟨h, fun _ _ => by show 2 ^ (64 - k) ≤ x; omega⟩

/-- **`nlz64()` normalizes** a number of more than 32 bits. -/
lemma nlz64_spec {v : ℕ} (hv : 2 ^ 32 ≤ v) (hlt : v < 2 ^ 64) :
    nlz64 v ≤ 31 ∧ 2 ^ 63 ≤ v * 2 ^ nlz64 v ∧ v * 2 ^ nlz64 v < 2 ^ 64 := by
  have h0 : NlzInv v (0, v) := ⟨by simp, hlt⟩
  obtain ⟨h32, g32⟩ := h0.step (k := 32) (by decide)
  obtain ⟨h16, g16⟩ := h32.step (k := 16) (by decide)
  obtain ⟨h8, g8⟩ := h16.step (k := 8) (by decide)
  obtain ⟨h4, g4⟩ := h8.step (k := 4) (by decide)
  obtain ⟨h2, g2⟩ := h4.step (k := 2) (by decide)
  obtain ⟨h1, g1⟩ := h2.step (k := 1) (by decide)
  have hfront := g1 (g2 (g4 (g8 (g16 (g32 (by simp; omega) (by decide)) (by decide))
    (by decide)) (by decide)) (by decide)) (by decide)
  have hn : nlz64 v = (nlzStep 1 (nlzStep 2 (nlzStep 4 (nlzStep 8 (nlzStep 16
      (nlzStep 32 (0, v))))))).1 := by
    unfold nlz64
    rw [if_neg (by omega)]
    rfl
  rw [h1.shifted, ← hn] at hfront
  have hlast := h1.lt
  rw [h1.shifted, ← hn] at hlast
  refine ⟨?_, hfront, hlast⟩
  by_contra hbig
  have : 2 ^ 32 * 2 ^ 32 ≤ v * 2 ^ nlz64 v :=
    Nat.mul_le_mul hv (Nat.pow_le_pow_right (by decide) (by omega))
  omega

/-! ## Division by 64 bits -/

/-- **The estimate from the normalized divisor** is the quotient or one more: what the divisor
loses of its low bits changes the quotient only where the quotient is small. -/
lemma estimate_spec {u v m : ℕ} (hu : u < 2 ^ 64) (hm : 1 ≤ m) (hv : 2 ^ 31 ≤ v / 2 ^ m) :
    u / v ≤ u / (v / 2 ^ m * 2 ^ m) ∧ u / (v / 2 ^ m * 2 ^ m) ≤ u / v + 1 := by
  obtain ⟨w, hw⟩ : ∃ w, w = v / 2 ^ m * 2 ^ m := ⟨_, rfl⟩
  obtain ⟨r, hr⟩ : ∃ r, r = v % 2 ^ m := ⟨_, rfl⟩
  obtain ⟨q, hq⟩ : ∃ q, q = u / v := ⟨_, rfl⟩
  have hpos : 0 < 2 ^ m := Nat.two_pow_pos m
  have hsplit : w + r = v := by rw [hw, hr, Nat.div_add_mod']
  have hrlt : r < 2 ^ m := hr ▸ Nat.mod_lt _ hpos
  have hwge : 2 ^ 31 * 2 ^ m ≤ w := hw ▸ Nat.mul_le_mul_right _ hv
  have hw0 : 0 < w := by
    have := Nat.mul_pos (show 0 < 2 ^ 31 by decide) hpos
    omega
  rw [← hw, ← hq]
  refine ⟨hq ▸ Nat.div_le_div_left (by omega) hw0, ?_⟩
  have hqv : q * v ≤ u := hq ▸ Nat.div_mul_le_self u v
  have hlost : (q + 1) * r ≤ w := by
    by_contra hbig
    rw [not_le] at hbig
    have hq31 : 2 ^ 31 ≤ q := by
      have : 2 ^ 31 * 2 ^ m < (q + 1) * 2 ^ m :=
        calc 2 ^ 31 * 2 ^ m ≤ w := hwge
          _ < (q + 1) * r := hbig
          _ ≤ (q + 1) * 2 ^ m := Nat.mul_le_mul_left _ (by omega)
      have := Nat.lt_of_mul_lt_mul_right this
      omega
    -- a quotient of that size leaves a divisor of 33 bits, which loses one bit
    have hv33 : v < 2 ^ 33 := by
      by_contra h33
      have := Nat.mul_le_mul hq31 (not_lt.1 h33)
      omega
    have hm1 : m = 1 := by
      by_contra h1
      have : 2 ^ 2 ≤ 2 ^ m := Nat.pow_le_pow_right (by decide) (by omega)
      have := Nat.mul_le_mul_left (2 ^ 31) this
      omega
    subst hm1
    have hr1 : r = 1 := by
      rcases Nat.eq_zero_or_pos r with h0 | h1
      · rw [h0, Nat.mul_zero] at hbig
        omega
      · omega
    rw [hr1, Nat.mul_one] at hbig
    have := Nat.mul_le_mul (show 2 ^ 32 ≤ q by omega) (show 2 ^ 32 ≤ v by omega)
    omega
  have hlt : u < (q + 1) * v := by
    have := Nat.lt_div_mul_add (a := u) (show 0 < v by omega)
    rw [← hq] at this
    rw [Nat.add_mul, Nat.one_mul]
    exact this
  have : u < (q + 2) * w := by
    calc u < (q + 1) * v := hlt
      _ = (q + 1) * w + (q + 1) * r := by rw [← hsplit, Nat.mul_add]
      _ ≤ (q + 2) * w := by
        have : (q + 2) * w = (q + 1) * w + w := by rw [← Nat.succ_mul]
        omega
  have := (Nat.div_lt_iff_lt_mul hw0).2 this
  omega

/-- The estimate that `RedUint64DivMod64()` computes is that of the divisor without the bits
that normalizing pushes out. -/
lemma estimate_eq {u v n : ℕ} (hn : n ≤ 31) :
    u / 2 / (v * 2 ^ n / 2 ^ 32) * 2 ^ n / 2 ^ 31 = u / (v / 2 ^ (32 - n) * 2 ^ (32 - n)) := by
  have h32 : (2 : ℕ) ^ 32 = 2 ^ (32 - n) * 2 ^ n := by
    rw [← Nat.pow_add]
    congr 1
    omega
  have h31 : (2 : ℕ) ^ 31 = 2 ^ (31 - n) * 2 ^ n := by
    rw [← Nat.pow_add]
    congr 1
    omega
  have hlast : (2 : ℕ) ^ (32 - n) = 2 * 2 ^ (31 - n) := by
    rw [show 32 - n = 31 - n + 1 by omega, Nat.pow_succ, Nat.mul_comm]
  have hpos : 0 < 2 ^ n := Nat.two_pow_pos n
  rw [h32, h31, Nat.mul_div_mul_right _ _ hpos, Nat.mul_div_mul_right _ _ hpos,
    Nat.div_div_eq_div_mul, Nat.div_div_eq_div_mul]
  congr 1
  rw [hlast]
  ring

/-- **The wide division**: the corrected estimate is the quotient. -/
lemma divMod64Wide_eq {rounds ullDividend ullDivisor : ℕ} (hrounds : 256 ≤ rounds)
    (hu : ullDividend < 2 ^ 64) (hwide : 2 ^ 32 ≤ ullDivisor) (hd : ullDivisor < 2 ^ 64) :
    divMod64Wide rounds ullDividend ullDivisor = some (ullDividend / ullDivisor) := by
  obtain ⟨hn, hnorm, hfits⟩ := nlz64_spec hwide hd
  obtain ⟨n, hnn⟩ : ∃ n, n = nlz64 ullDivisor := ⟨_, rfl⟩
  rw [← hnn] at hn hnorm hfits
  obtain ⟨v1, hv1⟩ : ∃ v1, v1 = ullDivisor * 2 ^ n / 2 ^ 32 := ⟨_, rfl⟩
  have hv1ge : 2 ^ 31 ≤ v1 := by omega
  have hv1lt : v1 < 2 ^ 32 := by omega
  have hv1eq : v1 = ullDivisor / 2 ^ (32 - n) := by
    have h32 : (2 : ℕ) ^ 32 = 2 ^ (32 - n) * 2 ^ n := by
      rw [← Nat.pow_add]
      congr 1
      omega
    rw [hv1, h32, Nat.mul_div_mul_right _ _ (Nat.two_pow_pos n)]
  have hq1 : ullDividend / 2 / v1 * 2 ^ n < 2 ^ 64 := by
    have hlt : ullDividend / 2 / v1 < 2 ^ 32 := by
      rw [Nat.div_lt_iff_lt_mul (by omega)]
      have := Nat.mul_le_mul_left (2 ^ 32) hv1ge
      omega
    have := Nat.mul_lt_mul_of_lt_of_le hlt (Nat.pow_le_pow_right (show 0 < 2 by decide) hn)
      (Nat.two_pow_pos 31)
    omega
  obtain ⟨hlow, hhigh⟩ := estimate_spec hu (show 1 ≤ 32 - n by omega) (hv1eq ▸ hv1ge)
  obtain ⟨q0, hq0⟩ : ∃ q0, q0 = ullDividend / (ullDivisor / 2 ^ (32 - n) * 2 ^ (32 - n)) :=
    ⟨_, rfl⟩
  rw [← hq0] at hlow hhigh
  obtain ⟨q, hq⟩ : ∃ q, q = ullDividend / ullDivisor := ⟨_, rfl⟩
  rw [← hq] at hlow hhigh
  have hmod := Nat.mod_lt ullDividend (show 0 < ullDivisor by omega)
  have hdiv := Nat.div_add_mod' ullDividend ullDivisor
  rw [← hq] at hdiv
  unfold divMod64Wide
  dsimp only
  rw [← hnn, Nat.shiftLeft_eq, u64_eq hfits, Nat.shiftRight_eq_div_pow _ 32, ← hv1,
    Nat.shiftRight_eq_div_pow, Nat.pow_one,
    redUint64DivMod32_eq hrounds (by omega) (by omega) hv1lt]
  simp only [bind, Option.bind, pure]
  rw [Nat.shiftLeft_eq, u64_eq hq1, Nat.shiftRight_eq_div_pow, hv1, estimate_eq hn, ← hq0]
  -- one less than the estimate is the quotient or one too small
  obtain ⟨p, hp⟩ : ∃ p, p = if q0 ≠ 0 then q0 - 1 else q0 := ⟨_, rfl⟩
  have hpq : p = q ∨ p + 1 = q := by
    split at hp <;> omega
  have hpv : p * ullDivisor ≤ ullDividend := by
    have := Nat.mul_le_mul_right ullDivisor (show p ≤ q by omega)
    omega
  rw [← hp, u64_eq (n := p * ullDivisor) (by omega), sub64_eq hu hpv, Option.some.injEq]
  have hqlt : q < 2 ^ 64 := hq ▸ lt_of_le_of_lt (Nat.div_le_self _ _) hu
  rcases hpq with rfl | hpq
  · rw [if_neg (by omega), hq]
  · rw [← hpq, Nat.succ_mul] at hdiv
    rw [if_pos (by omega), u64_eq (by omega), hpq, hq]

/-- **The narrow division**: one division, or the grade school method with two digits. -/
lemma divMod64Narrow_eq {rounds ullDividend ullDivisor : ℕ} (hrounds : 256 ≤ rounds)
    (hu : ullDividend < 2 ^ 64) (hpos : 0 < ullDivisor) (hd : ullDivisor < 2 ^ 32) :
    divMod64Narrow rounds ullDividend ullDivisor = some (ullDividend / ullDivisor) := by
  unfold divMod64Narrow
  split
  · rw [redUint64DivMod32_eq hrounds hu hpos hd]
    rfl
  · have hlow : ullDividend &&& 0xFFFFFFFF = ullDividend % 2 ^ 32 :=
      Nat.and_two_pow_sub_one_eq_mod ullDividend 32
    obtain ⟨u1, hu1⟩ : ∃ u1, u1 = ullDividend / 2 ^ 32 := ⟨_, rfl⟩
    obtain ⟨u0, hu0⟩ : ∃ u0, u0 = ullDividend % 2 ^ 32 := ⟨_, rfl⟩
    have hsplit : u1 * 2 ^ 32 + u0 = ullDividend := by
      rw [hu1, hu0, Nat.div_add_mod']
    have hu0lt : u0 < 2 ^ 32 := hu0 ▸ Nat.mod_lt _ (by decide)
    have hu1lt : u1 < 2 ^ 32 := by omega
    have hk := Nat.mod_lt u1 hpos
    have hk64 : u1 % ullDivisor * 2 ^ 32 + u0 < 2 ^ 64 := by omega
    dsimp only
    rw [hlow, Nat.shiftRight_eq_div_pow, ← hu1, ← hu0,
      redUint64DivMod32_eq hrounds (by omega) hpos hd]
    simp only [bind, Option.bind, pure]
    rw [Nat.shiftLeft_eq, u64_eq hk64, redUint64DivMod32_eq hrounds hk64 hpos hd]
    dsimp only
    have hq1 : u1 / ullDivisor * 2 ^ 32 < 2 ^ 64 :=
      (Nat.mul_lt_mul_right (by decide)).2 (lt_of_le_of_lt (Nat.div_le_self _ _) hu1lt)
    have hwhole : (u1 / ullDivisor * 2 ^ 32 + (u1 % ullDivisor * 2 ^ 32 + u0) / ullDivisor) *
        ullDivisor + (u1 % ullDivisor * 2 ^ 32 + u0) % ullDivisor = ullDividend := by
      have h1 := Nat.div_add_mod' u1 ullDivisor
      have h0 := Nat.div_add_mod' (u1 % ullDivisor * 2 ^ 32 + u0) ullDivisor
      linear_combination hsplit + h0 + 2 ^ 32 * h1
    obtain ⟨hquot, -⟩ := div_mod_eq (Nat.mod_lt _ hpos) hwhole
    rw [Nat.shiftLeft_eq, u64_eq hq1, hquot,
      u64_eq (lt_of_le_of_lt (Nat.div_le_self _ _) hu)]

/-- **`RedUint64DivMod64()` is exact.** -/
theorem redUint64DivMod64_eq {rounds ullDividend ullDivisor : ℕ} (hrounds : 256 ≤ rounds)
    (hu : ullDividend < 2 ^ 64) (hpos : 0 < ullDivisor) (hd : ullDivisor < 2 ^ 64) :
    redUint64DivMod64 rounds ullDividend ullDivisor =
      some (ullDividend / ullDivisor, ullDividend % ullDivisor) := by
  have hmul : ullDividend / ullDivisor * ullDivisor ≤ ullDividend := Nat.div_mul_le_self _ _
  have hmod := Nat.div_add_mod' ullDividend ullDivisor
  have hrem : sub64 ullDividend (u64 (ullDividend / ullDivisor * ullDivisor)) =
      ullDividend % ullDivisor := by
    rw [u64_eq (by omega), sub64_eq hu hmul]
    omega
  unfold redUint64DivMod64
  dsimp only
  rw [Nat.shiftRight_eq_div_pow]
  split
  · rw [divMod64Narrow_eq hrounds hu hpos (by omega)]
    simp only [bind, Option.bind, pure, hrem]
  · rw [divMod64Wide_eq hrounds hu (by omega) hd]
    simp only [bind, Option.bind, pure, hrem]

end RelianceEdge
