import Mathlib.Data.Nat.Factorization.Basic
import RelianceEdge.Util.Division

set_option relaxedAutoImplicit false
set_option autoImplicit false

/-!
# Scaling by a fraction

What `RedMulDiv64()` promises, and when it keeps the promise: the limit that it doubles each time
it halves the multiplier falls behind the limit of the halved multiplier, so that an exact
division of the base is reported as an overflow although the product fits.

## Main definitions

* `MulDivLaw` — what a result must satisfy.
* `MulDivSlip` — the operands at which the doubled limit is too small.

## Main results

* `division_exact_iff` — the divisions are exact, and scaling keeps its law exactly away from the
  slip.
-/

namespace RelianceEdge

/-- A divisor divides one of the factors, after common factors of two are taken out of it and of
the factors. -/
def DividesHalved (ullBase ulMultiplier ullDivisor : ℕ) : Prop :=
  ∃ j k b m d, ullBase = 2 ^ j * b ∧ ulMultiplier = 2 ^ k * m ∧ ullDivisor = 2 ^ (j + k) * d ∧
    (d ∣ b ∨ d ∣ m)

/-- **The law of scaling**: the result is the quotient when the product fits in 64 bits, or when
the quotient does and the divisor divides a factor; it is never larger than the quotient, so
that the overflow value stands for a quotient that does not fit. -/
structure MulDivLaw (ullBase ulMultiplier ullDivisor r : ℕ) : Prop where
  /-- Exact when the product fits. -/
  exact_of_product : ullBase * ulMultiplier < 2 ^ 64 → r = ullBase * ulMultiplier / ullDivisor
  /-- Exact when the divisor divides a factor and the quotient fits. -/
  exact_of_divides : DividesHalved ullBase ulMultiplier ullDivisor →
    ullBase * ulMultiplier / ullDivisor < 2 ^ 64 → r = ullBase * ulMultiplier / ullDivisor
  /-- Never more than the quotient. -/
  le_quotient : r ≤ ullBase * ulMultiplier / ullDivisor

/-- `RedMulDiv64()` ends and keeps the law. -/
def MulDivMeets (ullBase ulMultiplier ullDivisor : ℕ) : Prop :=
  ∀ rounds, 256 ≤ rounds → ∃ r, redMulDiv64 rounds ullBase ulMultiplier ullDivisor = some r ∧
    MulDivLaw ullBase ulMultiplier ullDivisor r

/-- The odd rest of the divisor divides the odd rest of the base, the quotient is above the
limit, doubled with each halving of the multiplier, and yet its product with the halved
multiplier is below `UINT64_MAX`. -/
def LimitSlip (ullTemp ullBase ulMultiplier ullDivisor : ℕ) : Prop :=
  ∃ j k b m d, ullBase = 2 ^ j * b ∧ ulMultiplier = 2 ^ k * m ∧ ullDivisor = 2 ^ (j + k) * d ∧
    b % 2 = 1 ∧ d % 2 = 1 ∧ d ∣ b ∧ 2 ^ k * ullTemp < b / d ∧ b / d * m < MATH_UINT64_MAX

/-- **The slip**: the limit for the whole multiplier, doubled with each halving, is below the
limit for the halved one, and the quotient of the base is between them. -/
def MulDivSlip (ullBase ulMultiplier ullDivisor : ℕ) : Prop :=
  0 < ulMultiplier ∧
    LimitSlip (MATH_UINT64_MAX / ulMultiplier) ullBase ulMultiplier ullDivisor

/-! ## Factors of two -/

section Halving

variable {t b m d : ℕ}

/-- The divisor is a power of two that divides the product, times an odd divisor of a factor. -/
def OddDivides (b m d : ℕ) : Prop :=
  ∃ e o, o % 2 = 1 ∧ d = 2 ^ e * o ∧ 2 ^ e ∣ b * m ∧ (o ∣ b ∨ o ∣ m)

lemma odd_coprime_two {o : ℕ} (h : o % 2 = 1) : Nat.Coprime o 2 :=
  Nat.coprime_two_right.2 (Nat.odd_iff.2 h)

lemma OddDivides.symm (h : OddDivides b m d) : OddDivides m b d := by
  obtain ⟨e, o, ho, hd, hdvd, hor⟩ := h
  exact ⟨e, o, ho, hd, Nat.mul_comm b m ▸ hdvd, hor.symm⟩

lemma DividesHalved.oddDivides (h : DividesHalved b m d) (hd0 : 0 < d) : OddDivides b m d := by
  obtain ⟨j, k, b', m', d', rfl, rfl, rfl, hor⟩ := h
  have hd' : d' ≠ 0 := by
    rintro rfl
    simp at hd0
  obtain ⟨f, o, ho, rfl⟩ := Nat.exists_eq_two_pow_mul_odd hd'
  refine ⟨j + k + f, o, Nat.odd_iff.1 ho, by ring, ?_, ?_⟩
  · rcases hor with h | h
    · have := (Dvd.intro _ rfl : 2 ^ f ∣ 2 ^ f * o).trans h
      calc 2 ^ (j + k + f) = 2 ^ j * 2 ^ f * 2 ^ k := by ring
        _ ∣ 2 ^ j * b' * (2 ^ k * m') :=
          Nat.mul_dvd_mul (Nat.mul_dvd_mul_left _ this) (Dvd.intro _ rfl)
    · have := (Dvd.intro _ rfl : 2 ^ f ∣ 2 ^ f * o).trans h
      calc 2 ^ (j + k + f) = 2 ^ j * (2 ^ k * 2 ^ f) := by ring
        _ ∣ 2 ^ j * b' * (2 ^ k * m') :=
          Nat.mul_dvd_mul (Dvd.intro _ rfl) (Nat.mul_dvd_mul_left _ this)
  · rcases hor with h | h
    · exact Or.inl (((Dvd.intro_left _ rfl).trans h).trans (Dvd.intro_left _ rfl))
    · exact Or.inr (((Dvd.intro_left _ rfl).trans h).trans (Dvd.intro_left _ rfl))

/-- Halving the base and the divisor. -/
lemma OddDivides.half_base (h : OddDivides (2 * b) m (2 * d)) : OddDivides b m d := by
  obtain ⟨e, o, ho, hd, hdvd, hor⟩ := h
  cases e with
  | zero =>
    rw [Nat.pow_zero, Nat.one_mul] at hd
    omega
  | succ e =>
    refine ⟨e, o, ho, ?_, ?_, hor.imp_left (odd_coprime_two ho).dvd_of_dvd_mul_left⟩
    · rw [Nat.pow_succ, Nat.mul_comm (2 ^ e) 2, Nat.mul_assoc] at hd
      exact Nat.eq_of_mul_eq_mul_left (by decide) hd
    · rw [Nat.pow_succ, Nat.mul_comm (2 ^ e) 2, Nat.mul_assoc 2 b m] at hdvd
      exact Nat.dvd_of_mul_dvd_mul_left (by decide) hdvd

/-- No factor of two is left in common. -/
def Halved (b m d : ℕ) : Prop := d % 2 = 1 ∨ b % 2 = 1 ∧ m % 2 = 1

lemma OddDivides.of_halved (h : OddDivides b m d) (hhalf : Halved b m d) : d ∣ b ∨ d ∣ m := by
  obtain ⟨e, o, ho, rfl, hdvd, hor⟩ := h
  cases e with
  | zero => simpa using hor
  | succ e =>
    have h2 : 2 ∣ 2 ^ (e + 1) := ⟨2 ^ e, by rw [Nat.pow_succ, Nat.mul_comm]⟩
    rcases hhalf with hd | ⟨hb, hm⟩
    · have : 2 ∣ 2 ^ (e + 1) * o := h2.trans (Dvd.intro _ rfl)
      omega
    · have : 2 ∣ b * m := h2.trans hdvd
      rcases Nat.prime_two.dvd_mul.1 this with h | h <;> omega

lemma limitSlip_half_base : LimitSlip t (2 * b) m (2 * d) ↔ LimitSlip t b m d := by
  constructor
  · rintro ⟨j, k, b', m', d', hb, hm, hd, hodd, hrest⟩
    cases j with
    | zero =>
      rw [Nat.pow_zero, Nat.one_mul] at hb
      omega
    | succ j =>
      refine ⟨j, k, b', m', d', ?_, hm, ?_, hodd, hrest⟩
      · apply Nat.eq_of_mul_eq_mul_left (show 0 < 2 by decide)
        rw [hb]
        ring
      · apply Nat.eq_of_mul_eq_mul_left (show 0 < 2 by decide)
        rw [hd]
        ring
  · rintro ⟨j, k, b', m', d', rfl, hm, rfl, hodd, hrest⟩
    exact ⟨j + 1, k, b', m', d', by ring, hm, by ring, hodd, hrest⟩

lemma limitSlip_half_multiplier (hb : b % 2 = 1) :
    LimitSlip t b (2 * m) (2 * d) ↔ LimitSlip (t * 2) b m d := by
  constructor
  · rintro ⟨j, k, b', m', d', hb', hm, hd, hodd, hdodd, hdvd, hlimit, hfits⟩
    have hj : j = 0 := by
      by_contra hj
      obtain ⟨i, rfl⟩ := Nat.exists_eq_succ_of_ne_zero hj
      rw [Nat.pow_succ, Nat.mul_comm (2 ^ i) 2, Nat.mul_assoc] at hb'
      omega
    subst hj
    cases k with
    | zero =>
      rw [Nat.pow_zero, Nat.one_mul] at hd
      omega
    | succ k =>
      refine ⟨0, k, b', m', d', hb', ?_, ?_, hodd, hdodd, hdvd, ?_, hfits⟩
      · apply Nat.eq_of_mul_eq_mul_left (show 0 < 2 by decide)
        rw [hm]
        ring
      · apply Nat.eq_of_mul_eq_mul_left (show 0 < 2 by decide)
        rw [hd]
        ring
      · calc 2 ^ k * (t * 2) = 2 ^ (k + 1) * t := by ring
          _ < b' / d' := hlimit
  · rintro ⟨j, k, b', m', d', hb', rfl, rfl, hodd, hdodd, hdvd, hlimit, hfits⟩
    refine ⟨j, k + 1, b', m', d', hb', by ring, by ring, hodd, hdodd, hdvd, ?_, hfits⟩
    calc 2 ^ (k + 1) * t = 2 ^ k * (t * 2) := by ring
      _ < b' / d' := hlimit

lemma not_limitSlip_of_le (h : b ≤ t) : ¬LimitSlip t b m d := by
  rintro ⟨j, k, b', m', d', rfl, -, -, -, -, -, hlimit, -⟩
  have h1 : b' / d' ≤ b' := Nat.div_le_self _ _
  have h2 : b' ≤ 2 ^ j * b' := Nat.le_mul_of_pos_left _ (Nat.two_pow_pos j)
  have h3 : t ≤ 2 ^ k * t := Nat.le_mul_of_pos_left _ (Nat.two_pow_pos k)
  omega

lemma LimitSlip.of_halved (h : LimitSlip t b m d) (hhalf : Halved b m d) :
    d ∣ b ∧ t < b / d ∧ b / d * m < MATH_UINT64_MAX := by
  obtain ⟨j, k, b', m', d', hb, hm, hd, hodd, hdodd, hdvd, hlimit, hfits⟩ := h
  have heven : ∀ {n i x : ℕ}, n = 2 ^ i * x → n % 2 = 1 → i = 0 := by
    intro n i x hn h1
    by_contra hi
    obtain ⟨i, rfl⟩ := Nat.exists_eq_succ_of_ne_zero hi
    rw [Nat.pow_succ, Nat.mul_comm (2 ^ i) 2, Nat.mul_assoc] at hn
    omega
  obtain ⟨rfl, rfl⟩ : j = 0 ∧ k = 0 := by
    rcases hhalf with h1 | ⟨h1, h2⟩
    · have := heven hd h1
      omega
    · exact ⟨heven hb h1, heven hm h2⟩
  simp only [Nat.pow_zero, Nat.one_mul, Nat.add_zero] at hb hm hd hlimit
  subst hb hm hd
  exact ⟨hdvd, hlimit, hfits⟩

end Halving

/-! ## The results of the code paths -/

section Paths

variable {rounds b m d t : ℕ}

/-- **Code paths 2 to 4.** -/
lemma mulDivFirst_eq (hrounds : 256 ≤ rounds) (hb0 : 0 < b) (hb : b < 2 ^ 64) (hm0 : 0 < m)
    (hm : m < 2 ^ 32) (hd0 : 0 < d) (hd : d < 2 ^ 64) :
    mulDivFirst rounds b m d t = some (
      if d ∣ b then mulDivProduct (b / d) t m
      else if d ∣ m then
        if m / d > MATH_UINT64_MAX / b then MATH_UINT64_MAX else u64 (b * (m / d))
      else mulDivProduct (max b m / d) (MATH_UINT64_MAX / min b m) (min b m)) := by
  have hmax : MATH_UINT64_MAX < 2 ^ 64 := by decide
  unfold mulDivFirst
  rw [redUint64DivMod64_eq hrounds hb hd0 hd]
  simp only [bind, Option.bind, pure]
  by_cases h1 : d ∣ b
  · rw [if_pos h1, if_pos (Nat.mod_eq_zero_of_dvd h1)]
  rw [if_neg h1, if_neg (fun h => h1 (Nat.dvd_of_mod_eq_zero h)),
    redUint64DivMod64_eq hrounds (by omega) hd0 hd]
  dsimp only
  by_cases h2 : d ∣ m
  · have hnarrow : u32 (m / d) = m / d := u32_eq (lt_of_le_of_lt (Nat.div_le_self _ _) hm)
    rw [if_pos h2, if_pos (Nat.mod_eq_zero_of_dvd h2), redUint64DivMod64_eq hrounds hmax hb0 hb,
      hnarrow]
    dsimp only
    split <;> rfl
  rw [if_neg h2, if_neg (fun h => h2 (Nat.dvd_of_mod_eq_zero h))]
  have hlarger : (if b < m then m else b) = max b m := by
    split <;> omega
  have hsmaller : (if b < m then u32 b else m) = min b m := by
    split
    · rw [u32_eq (by omega)]
      omega
    · omega
  rw [hlarger, hsmaller, redUint64DivMod64_eq hrounds (by omega) hd0 hd]
  dsimp only
  rw [redUint64DivMod32_eq hrounds hmax (by omega) (by omega)]

/-- What the loop makes of operands whose limit `t` is not above that of the multiplier. -/
structure PathLaw (t b m d r : ℕ) : Prop where
  /-- At the slip the result is the overflow value. -/
  slip : LimitSlip t b m d → r = MATH_UINT64_MAX
  /-- Elsewhere it is not above the quotient. -/
  le_quotient : ¬LimitSlip t b m d → r ≤ b * m / d
  /-- And it is the quotient when the divisor divides a factor. -/
  exact : ¬LimitSlip t b m d → OddDivides b m d → b * m / d < 2 ^ 64 → r = b * m / d

lemma mulDivProduct_eq {q l n : ℕ} (hl : l * n ≤ MATH_UINT64_MAX) :
    mulDivProduct q l n = if l < q then MATH_UINT64_MAX else q * n := by
  unfold mulDivProduct
  by_cases h : l < q
  · rw [if_pos h, if_pos h]
  · have := Nat.mul_le_mul_right n (not_lt.1 h)
    rw [if_neg h, if_neg h, u64_eq (lt_of_le_of_lt (this.trans hl) (by decide))]

/-- The product with the quotient of a factor is not above the quotient of the product. -/
lemma div_mul_le (x y : ℕ) (hd0 : 0 < d) : x / d * y ≤ x * y / d := by
  rw [Nat.le_div_iff_mul_le hd0, Nat.mul_right_comm]
  exact Nat.mul_le_mul_right y (Nat.div_mul_le_self x d)

/-- Code path 2: the divisor divides the base. -/
lemma PathLaw.of_dvd_base (hm0 : 0 < m) (hd0 : 0 < d) (ht : t * m ≤ MATH_UINT64_MAX)
    (hexact : t = MATH_UINT64_MAX / m ∨ b % 2 = 1) (hhalf : Halved b m d) (hdvd : d ∣ b) :
    PathLaw t b m d (mulDivProduct (b / d) t m) := by
  obtain ⟨q, rfl⟩ := hdvd
  have hquot : d * q * m / d = q * m := by rw [Nat.mul_assoc, Nat.mul_div_cancel_left _ hd0]
  -- away from the slip, what is above the limit does not fit
  have hover : ¬LimitSlip t (d * q) m d → t < q → MATH_UINT64_MAX ≤ q * m := by
    intro hslip hlt
    by_contra hfits
    rcases hexact with rfl | hodd
    · have := (Nat.le_div_iff_mul_le hm0).2 (not_le.1 hfits).le
      omega
    · refine hslip ⟨0, 0, d * q, m, d, by simp, by simp, by simp, hodd, ?_, Dvd.intro _ rfl, ?_,
        ?_⟩
      · exact (Nat.odd_mul.1 (Nat.odd_iff.2 hodd)).1 |> Nat.odd_iff.1
      · rw [Nat.mul_div_cancel_left _ hd0, Nat.pow_zero, Nat.one_mul]
        exact hlt
      · rw [Nat.mul_div_cancel_left _ hd0]
        exact not_le.1 hfits
  rw [Nat.mul_div_cancel_left _ hd0, mulDivProduct_eq ht]
  constructor
  · intro h
    have := (h.of_halved hhalf).2.1
    rw [Nat.mul_div_cancel_left _ hd0] at this
    rw [if_pos this]
  · intro hslip
    rw [hquot]
    by_cases hlt : t < q
    · rw [if_pos hlt]
      exact hover hslip hlt
    · rw [if_neg hlt]
  · intro hslip _ hfits
    rw [hquot] at hfits ⊢
    by_cases hlt : t < q
    · have := hover hslip hlt
      unfold MATH_UINT64_MAX at this ⊢
      rw [if_pos hlt]
      omega
    · rw [if_neg hlt]

/-- Code path 3: the divisor divides the multiplier. -/
lemma PathLaw.of_dvd_multiplier (hb0 : 0 < b) (hd0 : 0 < d) (hslip : ¬LimitSlip t b m d)
    (hdvd : d ∣ m) : PathLaw t b m d
      (if m / d > MATH_UINT64_MAX / b then MATH_UINT64_MAX else u64 (b * (m / d))) := by
  obtain ⟨q, rfl⟩ := hdvd
  have hquot : b * (d * q) / d = b * q := by
    rw [Nat.mul_left_comm, Nat.mul_div_cancel_left _ hd0]
  rw [Nat.mul_div_cancel_left _ hd0]
  by_cases hlt : q > MATH_UINT64_MAX / b
  · have hover : MATH_UINT64_MAX < b * q := by
      rw [Nat.mul_comm]
      exact (Nat.div_lt_iff_lt_mul hb0).1 hlt
    rw [if_pos hlt]
    refine ⟨fun _ => rfl, fun _ => by rw [hquot]; exact hover.le, fun _ _ hfits => ?_⟩
    rw [hquot] at hfits
    unfold MATH_UINT64_MAX at hover
    omega
  · have hfits : b * q ≤ MATH_UINT64_MAX := by
      rw [Nat.mul_comm]
      exact (Nat.le_div_iff_mul_le hb0).1 (not_lt.1 hlt)
    rw [if_neg hlt, u64_eq (lt_of_le_of_lt hfits (by decide))]
    exact ⟨fun h => absurd h hslip, fun _ => hquot.ge, fun _ _ _ => hquot.symm⟩

/-- Code path 4: the larger factor loses precision. -/
lemma PathLaw.of_not_dvd (hb0 : 0 < b) (hm0 : 0 < m) (hd0 : 0 < d) (hslip : ¬LimitSlip t b m d)
    (hno : ¬OddDivides b m d) :
    PathLaw t b m d (mulDivProduct (max b m / d) (MATH_UINT64_MAX / min b m) (min b m)) := by
  have hmin : 0 < min b m := by omega
  have hprod : max b m * min b m = b * m := max_mul_min b m
  have hle := div_mul_le (max b m) (min b m) hd0
  rw [hprod] at hle
  rw [mulDivProduct_eq (Nat.div_mul_le_self _ _)]
  refine ⟨fun h => absurd h hslip, fun _ => ?_, fun _ h => absurd h hno⟩
  by_cases hlt : MATH_UINT64_MAX / min b m < max b m / d
  · rw [if_pos hlt]
    have := (Nat.div_lt_iff_lt_mul hmin).1 hlt
    omega
  · rw [if_neg hlt]
    exact hle

/-- **Dividing a factor first**, once no common factor of two is left. -/
lemma mulDivFirst_law (hrounds : 256 ≤ rounds) (hb0 : 0 < b) (hb : b < 2 ^ 64) (hm0 : 0 < m)
    (hm : m < 2 ^ 32) (hd0 : 0 < d) (hd : d < 2 ^ 64) (ht : t * m ≤ MATH_UINT64_MAX)
    (hexact : t = MATH_UINT64_MAX / m ∨ b % 2 = 1) (hhalf : Halved b m d) :
    ∃ r, mulDivFirst rounds b m d t = some r ∧ PathLaw t b m d r := by
  refine ⟨_, mulDivFirst_eq hrounds hb0 hb hm0 hm hd0 hd, ?_⟩
  by_cases h1 : d ∣ b
  · rw [if_pos h1]
    exact .of_dvd_base hm0 hd0 ht hexact hhalf h1
  have hslip : ¬LimitSlip t b m d := fun h => h1 (h.of_halved hhalf).1
  rw [if_neg h1]
  by_cases h2 : d ∣ m
  · rw [if_pos h2]
    exact .of_dvd_multiplier hb0 hd0 hslip h2
  · rw [if_neg h2]
    exact .of_not_dvd hb0 hm0 hd0 hslip (fun h => (h.of_halved hhalf).elim h1 h2)

/-! ## The loop -/

lemma and_one_eq (n : ℕ) : n &&& 1 = n % 2 := Nat.and_two_pow_sub_one_eq_mod n 1

/-- The top bit of a limit is clear below half of the range. -/
lemma and_top_eq_zero (h : t < 2 ^ 63) : t &&& 0x8000000000000000 = 0 := by
  rw [show (0x8000000000000000 : ℕ) = 2 ^ 63 from rfl, Nat.and_two_pow, Nat.testBit_lt_two_pow h]
  rfl

lemma two_mul_shiftRight (n : ℕ) : (2 * n) >>> 1 = n := by
  rw [Nat.shiftRight_eq_div_pow, Nat.pow_one, Nat.mul_div_cancel_left _ (by decide)]

/-- Halving the base and the divisor keeps the law. -/
lemma PathLaw.of_half_base {r : ℕ} (h : PathLaw t b m d r) : PathLaw t (2 * b) m (2 * d) r := by
  have hquot : 2 * b * m / (2 * d) = b * m / d := by
    rw [Nat.mul_assoc, Nat.mul_div_mul_left _ _ (by decide)]
  constructor
  · exact fun hslip => h.slip (limitSlip_half_base.1 hslip)
  · rw [hquot]
    exact fun hslip => h.le_quotient (fun h => hslip (limitSlip_half_base.2 h))
  · rw [hquot]
    exact fun hslip hdvd => h.exact (fun h => hslip (limitSlip_half_base.2 h)) hdvd.half_base

/-- Halving the multiplier and the divisor, with the limit doubled, keeps the law. -/
lemma PathLaw.of_half_multiplier {r : ℕ} (hb : b % 2 = 1) (h : PathLaw (t * 2) b m d r) :
    PathLaw t b (2 * m) (2 * d) r := by
  have hquot : b * (2 * m) / (2 * d) = b * m / d := by
    rw [Nat.mul_left_comm, Nat.mul_div_mul_left _ _ (by decide)]
  have hiff := limitSlip_half_multiplier (t := t) (m := m) (d := d) hb
  constructor
  · exact fun hslip => h.slip (hiff.1 hslip)
  · rw [hquot]
    exact fun hslip => h.le_quotient (fun h => hslip (hiff.2 h))
  · rw [hquot]
    exact fun hslip hdvd => h.exact (fun h => hslip (hiff.2 h)) hdvd.symm.half_base.symm

/-- **The loop of `RedMulDiv64()`**, by induction on the rounds it may make: each one halves the
divisor. -/
lemma mulDivLoop_law (hrounds : 256 ≤ rounds) {n : ℕ} (hb0 : 0 < b) (hb : b < 2 ^ 64)
    (hm0 : 0 < m) (hm : m < 2 ^ 32) (hd0 : 0 < d) (hd : d < 2 ^ 64) (hn : d < 2 ^ n)
    (ht : t * m ≤ MATH_UINT64_MAX) (hexact : t = MATH_UINT64_MAX / m ∨ b % 2 = 1) :
    ∃ r, mulDivLoop rounds (n + 1) b m d t = some r ∧ PathLaw t b m d r ∧
      (b ≤ t → r = b * m / d) := by
  induction n generalizing b m d t with
  | zero => omega
  | succ n ih =>
    unfold mulDivLoop
    by_cases hle : b ≤ t
    · -- the product fits
      have hfits := (Nat.mul_le_mul_right m hle).trans ht
      have hfits64 : b * m < 2 ^ 64 := lt_of_le_of_lt hfits (by decide)
      refine ⟨b * m / d, ?_, ⟨?_, fun _ => le_rfl, fun _ _ _ => rfl⟩, fun _ => rfl⟩
      · rw [if_neg (by omega), u64_eq hfits64, redUint64DivMod64_eq hrounds hfits64 hd0 hd]
        rfl
      · exact fun hslip => absurd hslip (not_limitSlip_of_le hle)
    · rw [if_pos (by omega)]
      simp only [and_one_eq]
      have hpow : 2 ^ (n + 1) = 2 * 2 ^ n := by rw [Nat.pow_succ, Nat.mul_comm]
      by_cases h1a : d % 2 = 0 ∧ b % 2 = 0
      · -- code path 1a
        obtain ⟨d, rfl⟩ := Nat.dvd_of_mod_eq_zero h1a.1
        obtain ⟨b, rfl⟩ := Nat.dvd_of_mod_eq_zero h1a.2
        rw [if_pos h1a, two_mul_shiftRight, two_mul_shiftRight]
        obtain ⟨r, hrun, hlaw, -⟩ := ih (b := b) (m := m) (d := d) (t := t) (by omega) (by omega)
          hm0 hm (by omega) (by omega) (by omega) ht (Or.inl (hexact.resolve_right (by omega)))
        exact ⟨r, hrun, hlaw.of_half_base, fun h => absurd h hle⟩
      rw [if_neg h1a]
      by_cases h1b : d % 2 = 0 ∧ m % 2 = 0
      · -- code path 1b: an even multiplier leaves the top bit of the limit clear
        obtain ⟨d, rfl⟩ := Nat.dvd_of_mod_eq_zero h1b.1
        obtain ⟨m, rfl⟩ := Nat.dvd_of_mod_eq_zero h1b.2
        have hodd : b % 2 = 1 := by omega
        have hdouble : t * 2 * m ≤ MATH_UINT64_MAX := by
          rw [Nat.mul_assoc]
          exact ht
        have ht63 : t < 2 ^ 63 := by
          have := Nat.le_mul_of_pos_right (t * 2) (show 0 < m by omega)
          unfold MATH_UINT64_MAX at hdouble
          omega
        rw [if_pos ⟨h1b.1, h1b.2, and_top_eq_zero ht63⟩, two_mul_shiftRight, two_mul_shiftRight,
          Nat.shiftLeft_eq, Nat.pow_one, u64_eq (by omega)]
        obtain ⟨r, hrun, hlaw, -⟩ := ih (b := b) (m := m) (d := d) (t := t * 2) hb0 hb (by omega)
          (by omega) (by omega) (by omega) (by omega) hdouble (Or.inr hodd)
        exact ⟨r, hrun, hlaw.of_half_multiplier hodd, fun h => absurd h hle⟩
      · have hhalf : Halved b m d := by
          unfold Halved
          omega
        rw [if_neg (fun h => h1b ⟨h.1, h.2.1⟩)]
        obtain ⟨r, hrun, hlaw⟩ := mulDivFirst_law hrounds hb0 hb hm0 hm hd0 hd ht hexact hhalf
        exact ⟨r, hrun, hlaw, fun h => absurd h hle⟩

/-- **`RedMulDiv64()` of factors that are not zero.** -/
lemma redMulDiv64_law (hrounds : 256 ≤ rounds) (hb0 : 0 < b) (hb : b < 2 ^ 64) (hm0 : 0 < m)
    (hm : m < 2 ^ 32) (hd0 : 0 < d) (hd : d < 2 ^ 64) :
    ∃ r, redMulDiv64 rounds b m d = some r ∧ PathLaw (MATH_UINT64_MAX / m) b m d r ∧
      (b ≤ MATH_UINT64_MAX / m → r = b * m / d) := by
  obtain ⟨n, rfl⟩ : ∃ n, rounds = n + 1 := ⟨rounds - 1, by omega⟩
  have hn : d < 2 ^ n := lt_of_lt_of_le hd (Nat.pow_le_pow_right (by decide) (by omega))
  have hmax : MATH_UINT64_MAX < 2 ^ 64 := by decide
  unfold redMulDiv64
  rw [if_neg (by omega), if_neg (by omega), redUint64DivMod32_eq hrounds hmax hm0 hm]
  exact mulDivLoop_law hrounds hb0 hb hm0 hm hd0 hd hn (Nat.div_mul_le_self _ _) (Or.inl rfl)

end Paths

/-! ## When scaling keeps its law -/

/-- At the slip the quotient is below the overflow value. -/
lemma LimitSlip.quotient_lt {t b m d : ℕ} (h : LimitSlip t b m d) :
    b * m / d < MATH_UINT64_MAX := by
  obtain ⟨j, k, b, m, d, rfl, rfl, rfl, -, hodd, ⟨q, rfl⟩, -, hfits⟩ := h
  have hd0 : 0 < d := by omega
  rw [Nat.mul_div_cancel_left _ hd0] at hfits
  calc 2 ^ j * (d * q) * (2 ^ k * m) / (2 ^ (j + k) * d)
      = 2 ^ (j + k) * d * (q * m) / (2 ^ (j + k) * d) := by
        congr 1
        ring
    _ = q * m := Nat.mul_div_cancel_left _ (Nat.mul_pos (Nat.two_pow_pos _) hd0)
    _ < MATH_UINT64_MAX := hfits

/-- Scaling keeps its law exactly away from the slip. -/
lemma mulDivMeets_iff {b m d : ℕ} (hb : b < 2 ^ 64) (hm : m < 2 ^ 32) (hd0 : 0 < d)
    (hd : d < 2 ^ 64) : MulDivMeets b m d ↔ ¬MulDivSlip b m d := by
  by_cases hzero : b = 0 ∨ m = 0
  · have hrun : ∀ rounds, redMulDiv64 rounds b m d = some 0 := by
      intro rounds
      unfold redMulDiv64
      rw [if_pos hzero]
    have hquot : b * m / d = 0 := by
      rcases hzero with rfl | rfl <;> simp
    refine iff_of_true ?_ ?_
    · intro rounds _
      exact ⟨0, hrun rounds, fun _ => hquot.symm, fun _ _ => hquot.symm, Nat.zero_le _⟩
    · rintro ⟨hm0, j, k, b', m', d', rfl, -, -, hodd, -⟩
      rcases hzero with h | h
      · have := (Nat.mul_eq_zero.1 h).resolve_left (Nat.two_pow_pos j).ne'
        omega
      · omega
  · rw [not_or] at hzero
    have hm0 : 0 < m := Nat.pos_of_ne_zero hzero.2
    constructor
    · rintro hmeets ⟨-, hslip⟩
      obtain ⟨r, hrun, hlaw, -⟩ :=
        redMulDiv64_law (le_refl 256) (Nat.pos_of_ne_zero hzero.1) hb hm0 hm hd0 hd
      obtain ⟨r', hrun', hmeet⟩ := hmeets 256 le_rfl
      obtain rfl := Option.some.inj (hrun.symm.trans hrun')
      have := hmeet.le_quotient
      rw [hlaw.slip hslip] at this
      have := hslip.quotient_lt
      omega
    · intro hslip rounds hrounds
      have hslip' : ¬LimitSlip (MATH_UINT64_MAX / m) b m d := fun h => hslip ⟨hm0, h⟩
      obtain ⟨r, hrun, hlaw, hfits⟩ :=
        redMulDiv64_law hrounds (Nat.pos_of_ne_zero hzero.1) hb hm0 hm hd0 hd
      refine ⟨r, hrun, fun hprod => hfits ?_, fun hdvd => ?_, hlaw.le_quotient hslip'⟩
      · rw [Nat.le_div_iff_mul_le hm0]
        unfold MATH_UINT64_MAX
        omega
      · exact hlaw.exact hslip' (hdvd.oddDivides hd0)

/-- **Division without a divide instruction is exact, and scaling never lies but at the slip.**
The divisions give quotient and remainder of every dividend, with at most 256 rounds of a loop;
scaling keeps its law for exactly the operands that the doubled limit does not cut off. -/
theorem division_exact_iff {ullDividend ulNarrow ullWide ullBase ulMultiplier ullDivisor : ℕ}
    (hdividend : ullDividend < 2 ^ 64) (hnarrow : 0 < ulNarrow) (hnarrow32 : ulNarrow < 2 ^ 32)
    (hwide : 0 < ullWide) (hwide64 : ullWide < 2 ^ 64) (hbase : ullBase < 2 ^ 64)
    (hmultiplier : ulMultiplier < 2 ^ 32) (hdivisor : 0 < ullDivisor)
    (hdivisor64 : ullDivisor < 2 ^ 64) :
    (∀ rounds, 256 ≤ rounds → redUint64DivMod32 rounds ullDividend ulNarrow =
        some (ullDividend / ulNarrow, ullDividend % ulNarrow)) ∧
      (∀ rounds, 256 ≤ rounds → redUint64DivMod64 rounds ullDividend ullWide =
        some (ullDividend / ullWide, ullDividend % ullWide)) ∧
      (MulDivMeets ullBase ulMultiplier ullDivisor ↔
        ¬MulDivSlip ullBase ulMultiplier ullDivisor) := by
  refine ⟨?_, ?_, ?_⟩
  · intro rounds hrounds
    exact redUint64DivMod32_eq hrounds hdividend hnarrow hnarrow32
  · intro rounds hrounds
    exact redUint64DivMod64_eq hrounds hdividend hwide hwide64
  · exact mulDivMeets_iff hbase hmultiplier hdivisor hdivisor64

/-- Dividing 100 by 7, and scaling 6 by 4 / 3. -/
theorem division_exact_iff_small :
    (∀ rounds, 256 ≤ rounds → redUint64DivMod32 rounds 100 7 = some (14, 2)) ∧
      (∀ rounds, 256 ≤ rounds → redUint64DivMod64 rounds 100 7 = some (14, 2)) ∧
      (MulDivMeets 6 4 3 ↔ ¬MulDivSlip 6 4 3) :=
  division_exact_iff (show 100 < 2 ^ 64 by decide) (by decide) (by decide) (by decide)
    (by decide) (by decide) (by decide) (by decide) (by decide)

/-- **A false overflow**: four times 2⁶³ - 1, over two, is 2⁶⁴ - 2, and two divides four. -/
theorem redMulDiv64_false_overflow :
    redMulDiv64 256 (2 ^ 63 - 1) 4 2 = some MATH_UINT64_MAX ∧
      (2 ^ 63 - 1) * 4 / 2 < MATH_UINT64_MAX ∧ DividesHalved (2 ^ 63 - 1) 4 2 ∧
      ¬MulDivMeets (2 ^ 63 - 1) 4 2 := by
  have hslip : LimitSlip (MATH_UINT64_MAX / 4) (2 ^ 63 - 1) 4 2 :=
    ⟨0, 1, 2 ^ 63 - 1, 2, 1, by decide, by decide, by decide, by decide, by decide,
      by decide, by decide, by decide⟩
  obtain ⟨r, hrun, hlaw, -⟩ := redMulDiv64_law (le_refl 256) (b := 2 ^ 63 - 1) (m := 4) (d := 2)
    (by decide) (by decide) (by decide) (by decide) (by decide) (by decide)
  rw [hlaw.slip hslip] at hrun
  refine ⟨hrun, by decide, ⟨0, 0, 2 ^ 63 - 1, 4, 2, by decide, by decide, by decide,
    Or.inr (by decide)⟩, ?_⟩
  intro h
  exact (mulDivMeets_iff (by decide) (by decide) (by decide) (by decide)).1 h ⟨by decide, hslip⟩

end RelianceEdge
