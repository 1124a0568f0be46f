import Mathlib.Algebra.CharP.Two
import Mathlib.Algebra.Field.ZMod
import Mathlib.Algebra.Polynomial.Div
import Mathlib.Data.ZMod.Basic
import Mathlib.Tactic.Ring

set_option relaxedAutoImplicit false
set_option autoImplicit false

/-!
# Reflected cyclic redundancy checks

A register of `w` bits holds the remainder of a division of polynomials over the field of two
elements, with the coefficient of the highest power in its lowest bit. A bit of the message is
taken in by a shift to the right, and the generator is added when a one leaves the register.

## Main definitions

* `Crc.shift` — one step of the division, and `Crc.update`, the division of a message of bytes.
* `Crc.poly`, `Crc.generator`, `Crc.message` — the polynomials of a register, of the division and
  of a message.

## Main results

* `Crc.poly_update` — the register is the remainder.
* `Crc.byte_eq` — a byte is taken in by one look into a table.
* `Crc.update_append` — a message is taken in piece by piece.
-/

namespace Crc

variable {w : ℕ} (g : BitVec w)

/-! ## The register -/

/-- **One step** of the division. -/
def shift (x : BitVec w) : BitVec w := (if x.getLsbD 0 then g else 0) ^^^ (x >>> 1)

/-- A byte is taken in, its lowest bit first. -/
def byte (x : BitVec w) (b : BitVec 8) : BitVec w := (shift g)^[8] (x ^^^ b.setWidth w)

/-- **A message** is taken in. -/
def update (x : BitVec w) (bytes : List (BitVec 8)) : BitVec w := bytes.foldl (byte g) x

lemma update_append (x : BitVec w) (l l' : List (BitVec 8)) :
    update g x (l ++ l') = update g (update g x l) l' := List.foldl_append

/-! ## Linearity -/

lemma shift_xor (x y : BitVec w) : shift g (x ^^^ y) = shift g x ^^^ shift g y := by
  have hg : (if (x ^^^ y).getLsbD 0 then g else 0) =
      (if x.getLsbD 0 then g else 0) ^^^ (if y.getLsbD 0 then g else 0) := by
    rw [BitVec.getLsbD_xor]
    cases x.getLsbD 0 <;> cases y.getLsbD 0 <;> simp
  unfold shift
  rw [hg, BitVec.ushiftRight_xor_distrib]
  ac_rfl

/-- **The steps are linear.** -/
lemma iterate_xor (n : ℕ) (x y : BitVec w) :
    (shift g)^[n] (x ^^^ y) = (shift g)^[n] x ^^^ (shift g)^[n] y := by
  induction n generalizing x y with
  | zero => rfl
  | succ n ih => rw [Function.iterate_succ_apply, shift_xor, ih, Function.iterate_succ_apply,
      Function.iterate_succ_apply]

/-- Low bits that are zero leave the register without a trace. -/
lemma iterate_of_low {n : ℕ} {x : BitVec w} (hx : ∀ i < n, x.getLsbD i = false) :
    (shift g)^[n] x = x >>> n := by
  induction n generalizing x with
  | zero => rfl
  | succ n ih =>
    have hstep : shift g x = x >>> 1 := by
      rw [shift, hx 0 (Nat.zero_lt_succ n)]
      simp
    rw [Function.iterate_succ_apply, hstep, ih, Nat.add_comm n 1, BitVec.shiftRight_add]
    intro i hi
    rw [BitVec.getLsbD_ushiftRight]
    exact hx (1 + i) (by omega)

/-- Bits that stand `n` places up come down in `n` steps. -/
lemma iterate_shiftLeft (m n : ℕ) {x : BitVec w} (hx : ∀ i, w ≤ i + n → x.getLsbD i = false) :
    (shift g)^[m + n] (x <<< n) = (shift g)^[m] x := by
  rw [Function.iterate_add_apply, iterate_of_low g (n := n) (x := x <<< n)]
  · congr 1
    apply BitVec.eq_of_getLsbD_eq
    intro i hi
    rw [BitVec.getLsbD_ushiftRight, BitVec.getLsbD_shiftLeft]
    by_cases hn : n + i < w
    · simp [hn]
    · simp [hn, hx i (by omega)]
  · intro i hi
    rw [BitVec.getLsbD_shiftLeft]
    simp [hi]

/-! ## A byte from a table -/

lemma getLsbD_byte (b : BitVec 8) (i : ℕ) :
    (b.setWidth w).getLsbD i = (decide (i < w) && b.getLsbD i) := BitVec.getLsbD_setWidth ..

/-- The lowest byte of a register, and the rest. -/
lemma eq_low_xor (x : BitVec w) : x = (x >>> 8) <<< 8 ^^^ (x.setWidth 8).setWidth w := by
  apply BitVec.eq_of_getLsbD_eq
  intro i hi
  rw [BitVec.getLsbD_xor, BitVec.getLsbD_shiftLeft, BitVec.getLsbD_ushiftRight, getLsbD_byte,
    BitVec.getLsbD_setWidth]
  by_cases h8 : i < 8
  · simp [h8, hi]
  · simp [h8, hi, Nat.add_sub_cancel' (Nat.le_of_not_lt h8)]

/-- Eight steps move a register down, and the lowest byte decides what is added. -/
lemma iterate_eight (x : BitVec w) :
    (shift g)^[8] x = (x >>> 8) ^^^ (shift g)^[8] ((x.setWidth 8).setWidth w) := by
  have hlow : (shift g)^[8] ((x >>> 8) <<< 8) = x >>> 8 := by
    rw [show 8 = 0 + 8 from rfl, iterate_shiftLeft g 0 8]
    · rfl
    · intro i hi
      rw [BitVec.getLsbD_ushiftRight]
      exact BitVec.getLsbD_of_ge x (8 + i) (by omega)
  conv_lhs => rw [eq_low_xor x, iterate_xor, hlow]

/-- **A byte is taken in** by one look into the table of eight steps. -/
theorem byte_eq (x : BitVec w) (b : BitVec 8) : byte g x b =
    (x >>> 8) ^^^ (shift g)^[8] (((x ^^^ b.setWidth w).setWidth 8).setWidth w) := by
  have hb : (b.setWidth w) >>> 8 = 0#w := by
    apply BitVec.eq_of_getLsbD_eq
    intro i _
    rw [BitVec.getLsbD_ushiftRight, getLsbD_byte, BitVec.getLsbD_of_ge b (8 + i) (by omega)]
    simp
  rw [byte, iterate_eight, BitVec.ushiftRight_xor_distrib, hb, BitVec.xor_zero]

/-! ## Several bytes from tables -/

/-- The number that bytes spell, the lowest first. -/
def word : List (BitVec 8) → BitVec w
  | [] => 0#w
  | b :: bytes => b.setWidth w ^^^ word bytes <<< 8

lemma getLsbD_word {bytes : List (BitVec 8)} {i : ℕ} (hi : 8 * bytes.length ≤ i) :
    (word bytes : BitVec w).getLsbD i = false := by
  induction bytes generalizing i with
  | nil => exact BitVec.getLsbD_zero
  | cons b bytes ih =>
    rw [List.length_cons] at hi
    rw [word, BitVec.getLsbD_xor, getLsbD_byte, BitVec.getLsbD_shiftLeft, ih (by omega),
      BitVec.getLsbD_of_ge b i (by omega)]
    simp

/-- The steps for the first byte of a word, and those for the others. -/
lemma iterate_word_cons (n : ℕ) (b : BitVec 8) {bytes : List (BitVec 8)}
    (hw : 8 * (bytes.length + 1) ≤ w) : (shift g)^[n + 8] (word (b :: bytes)) =
      (shift g)^[n + 8] (b.setWidth w) ^^^ (shift g)^[n] (word bytes) := by
  rw [word, iterate_xor, iterate_shiftLeft g n 8]
  exact fun i hi => getLsbD_word (by omega)

lemma iterate_word_nil (n : ℕ) : (shift g)^[n] (word []) = 0#w := by
  rw [word, iterate_of_low g fun i _ => BitVec.getLsbD_zero]
  exact BitVec.zero_ushiftRight

/-- **Bytes that fit the register** are taken in together. -/
theorem update_word {bytes : List (BitVec 8)} (hw : 8 * bytes.length ≤ w) (x : BitVec w) :
    update g x bytes = (shift g)^[8 * bytes.length] (x ^^^ word bytes) := by
  induction bytes generalizing x with
  | nil => exact (BitVec.xor_zero).symm
  | cons b bytes ih =>
    rw [List.length_cons] at hw
    have hword : word bytes = (shift g)^[8] (word bytes <<< 8) :=
      (iterate_shiftLeft g 0 8 fun i hi => getLsbD_word (by omega)).symm
    calc update g x (b :: bytes)
        = (shift g)^[8 * bytes.length] (byte g x b ^^^ word bytes) := ih (by omega) _
      _ = (shift g)^[8 * bytes.length]
            ((shift g)^[8] (x ^^^ b.setWidth w ^^^ word bytes <<< 8)) := by
          rw [iterate_xor g 8, ← hword, byte]
      _ = _ := by
          rw [← Function.iterate_add_apply, word, BitVec.xor_assoc, List.length_cons,
            Nat.mul_add_one]

/-- The lowest bytes of a register. -/
def bytesOf : ℕ → BitVec w → List (BitVec 8)
  | 0, _ => []
  | n + 1, x => x.setWidth 8 :: bytesOf n (x >>> 8)

/-- A register is the word of its bytes. -/
lemma word_bytesOf {n : ℕ} {x : BitVec w} (hx : ∀ i, 8 * n ≤ i → x.getLsbD i = false) :
    word (bytesOf n x) = x := by
  induction n generalizing x with
  | zero =>
    apply BitVec.eq_of_getLsbD_eq
    intro i _
    rw [hx i (by omega)]
    exact BitVec.getLsbD_zero
  | succ n ih =>
    rw [bytesOf, word, ih, BitVec.xor_comm, ← eq_low_xor]
    intro i hi
    rw [BitVec.getLsbD_ushiftRight]
    exact hx (8 + i) (by omega)

/-! ## Polynomials -/

open Polynomial

/-- The polynomial of a register: its lowest bit is the coefficient of the highest power. -/
noncomputable def poly (x : BitVec w) : (ZMod 2)[X] :=
  ∑ i ∈ Finset.range w, if x.getLsbD i then X ^ (w - 1 - i) else 0

/-- The polynomial that a register of `w` bits divides by. -/
noncomputable def generator : (ZMod 2)[X] := X ^ w + poly g

/-- The polynomial of a message: its first bit is the coefficient of the highest power. -/
noncomputable def message : List (BitVec 8) → (ZMod 2)[X]
  | [] => 0
  | b :: bytes => X ^ (8 * bytes.length) * poly b + message bytes

lemma coeff_poly (x : BitVec w) (j : ℕ) :
    (poly x).coeff j = if j < w ∧ x.getLsbD (w - 1 - j) then 1 else 0 := by
  have hterm (i : ℕ) : (if x.getLsbD i then X ^ (w - 1 - i) else 0 : (ZMod 2)[X]).coeff j =
      if w - 1 - i = j ∧ x.getLsbD i then 1 else 0 := by
    by_cases hx : x.getLsbD i
    · simp [hx, coeff_X_pow, eq_comm]
    · simp [hx]
  rw [poly, finsetSum_coeff]
  simp only [hterm]
  by_cases hj : j < w
  · rw [Finset.sum_eq_single (w - 1 - j)]
    · have hself : w - 1 - (w - 1 - j) = j := by omega
      simp [hself, hj]
    · intro i hi hne
      rw [Finset.mem_range] at hi
      rw [if_neg (by omega)]
    · intro hnot
      rw [Finset.mem_range] at hnot
      omega
  · rw [if_neg (by omega)]
    apply Finset.sum_eq_zero
    intro i hi
    rw [Finset.mem_range] at hi
    rw [if_neg (by omega)]

lemma degree_poly_lt (x : BitVec w) : (poly x).degree < w := by
  rw [degree_lt_iff_coeff_zero]
  intro j hj
  rw [coeff_poly, if_neg (by omega)]

lemma poly_zero : poly (0#w) = 0 := by
  ext j
  simp [coeff_poly]

lemma poly_xor (x y : BitVec w) : poly (x ^^^ y) = poly x + poly y := by
  ext j
  rw [coeff_add, coeff_poly, coeff_poly, coeff_poly, BitVec.getLsbD_xor]
  by_cases hj : j < w
  · cases x.getLsbD (w - 1 - j) <;> cases y.getLsbD (w - 1 - j) <;>
      simp [hj, CharTwo.add_self_eq_zero]
  · simp [hj]

lemma monic_generator : (generator g).Monic := monic_X_pow_add (degree_poly_lt g)

lemma degree_generator : (generator g).degree = w := by
  rw [generator, degree_add_eq_left_of_degree_lt, degree_X_pow]
  rw [degree_X_pow]
  exact degree_poly_lt g

/-- Without the lowest bit, a shift is a product. -/
lemma poly_shiftRight (x : BitVec w) :
    X * poly x = (if x.getLsbD 0 then X ^ w else 0) + poly (x >>> 1) := by
  have hcoeff (j : ℕ) : (if x.getLsbD 0 then X ^ w else 0 : (ZMod 2)[X]).coeff j =
      if j = w ∧ x.getLsbD 0 then 1 else 0 := by
    by_cases hx : x.getLsbD 0
    · simp [hx, coeff_X_pow]
    · simp [hx]
  ext j
  rw [coeff_add, hcoeff, coeff_poly, BitVec.getLsbD_ushiftRight]
  cases j with
  | zero =>
    have hlast : x.getLsbD (1 + (w - 1 - 0)) = false := BitVec.getLsbD_of_ge x _ (by omega)
    rw [coeff_X_mul_zero, hlast, if_neg, if_neg (by simp), add_zero]
    rintro ⟨rfl, hx⟩
    rw [BitVec.getLsbD_of_ge x 0 (Nat.le_refl 0)] at hx
    cases hx
  | succ j =>
    rw [coeff_X_mul, coeff_poly]
    rcases Nat.lt_trichotomy (j + 1) w with h | h | h
    · have hsame : 1 + (w - 1 - (j + 1)) = w - 1 - j := by omega
      simp [h, Nat.ne_of_lt h, Nat.lt_of_succ_lt h, hsame]
    · have hsame : w - 1 - j = 0 := by omega
      simp [h, hsame, Nat.lt_of_succ_le (Nat.le_of_eq h)]
    · simp [show ¬ j < w by omega, show ¬ j + 1 < w by omega, show j + 1 ≠ w by omega]

/-- One step multiplies by `X`, up to a multiple of the generator. -/
lemma poly_shift (x : BitVec w) :
    X * poly x = (if x.getLsbD 0 then generator g else 0) + poly (shift g x) := by
  rw [poly_shiftRight, shift, poly_xor]
  by_cases hx : x.getLsbD 0
  · rw [if_pos hx, if_pos hx, if_pos hx, generator, add_assoc, ← add_assoc (poly g),
      CharTwo.add_self_eq_zero, zero_add]
  · rw [if_neg hx, if_neg hx, if_neg hx, zero_add, zero_add, show (0 : BitVec w) = 0#w from rfl,
      poly_zero, zero_add]

/-- `n` steps multiply by the `n`-th power of `X`. -/
lemma dvd_iterate (n : ℕ) (x : BitVec w) :
    generator g ∣ X ^ n * poly x - poly ((shift g)^[n] x) := by
  induction n generalizing x with
  | zero => simp
  | succ n ih =>
    have hstep : X ^ (n + 1) * poly x =
        X ^ n * (if x.getLsbD 0 then generator g else 0) + X ^ n * poly (shift g x) := by
      rw [pow_succ, mul_assoc, poly_shift g x, mul_add]
    rw [hstep, Function.iterate_succ_apply, add_sub_assoc]
    refine dvd_add ?_ (ih _)
    by_cases hx : x.getLsbD 0
    · rw [if_pos hx]
      exact Dvd.intro_left _ rfl
    · rw [if_neg hx, mul_zero]
      exact dvd_zero _

/-- A byte in the register has its bits at the highest powers. -/
lemma poly_setWidth (hw : 8 ≤ w) (b : BitVec 8) : poly (b.setWidth w) = X ^ (w - 8) * poly b := by
  ext j
  rw [coeff_poly, getLsbD_byte, coeff_X_pow_mul', coeff_poly]
  by_cases hj : j < w
  · by_cases h8 : w - 8 ≤ j
    · have hsame : 8 - 1 - (j - (w - 8)) = w - 1 - j := by omega
      have hlt : j - (w - 8) < 8 := by omega
      have hlt' : w - 1 - j < w := by omega
      simp [hj, h8, hsame, hlt, hlt']
    · rw [if_neg h8, BitVec.getLsbD_of_ge b (w - 1 - j) (by omega)]
      simp
  · have hge : ¬ j - (w - 8) < 8 := by omega
    simp [hj, hge]

lemma dvd_byte (hw : 8 ≤ w) (x : BitVec w) (b : BitVec 8) :
    generator g ∣ X ^ 8 * poly x + X ^ w * poly b - poly (byte g x b) := by
  have hpoly : X ^ 8 * poly (x ^^^ b.setWidth w) = X ^ 8 * poly x + X ^ w * poly b := by
    rw [poly_xor, mul_add, poly_setWidth hw, ← mul_assoc, ← pow_add, Nat.add_sub_cancel' hw]
  rw [← hpoly]
  exact dvd_iterate g 8 _

lemma dvd_update (hw : 8 ≤ w) (x : BitVec w) (bytes : List (BitVec 8)) :
    generator g ∣ X ^ (8 * bytes.length) * poly x + X ^ w * message bytes -
      poly (update g x bytes) := by
  induction bytes generalizing x with
  | nil => simp [message, update]
  | cons b bytes ih =>
    have hsplit : X ^ (8 * (bytes.length + 1)) * poly x +
          X ^ w * (X ^ (8 * bytes.length) * poly b + message bytes) -
            poly (update g x (b :: bytes)) =
        X ^ (8 * bytes.length) * (X ^ 8 * poly x + X ^ w * poly b - poly (byte g x b)) +
          (X ^ (8 * bytes.length) * poly (byte g x b) + X ^ w * message bytes -
            poly (update g (byte g x b) bytes)) := by
      rw [Nat.mul_add_one, pow_add]
      change _ - poly (update g (byte g x b) bytes) = _
      ring
    rw [List.length_cons, message, hsplit]
    exact dvd_add (dvd_mul_of_dvd_right (dvd_byte g hw x b) _) (ih _)

/-- **The register is the remainder** of the message behind what the register held before, divided
by the generator. -/
theorem poly_update (hw : 8 ≤ w) (x : BitVec w) (bytes : List (BitVec 8)) :
    poly (update g x bytes) =
      (X ^ (8 * bytes.length) * poly x + X ^ w * message bytes) %ₘ generator g := by
  obtain ⟨q, hq⟩ := dvd_update g hw x bytes
  refine (div_modByMonic_unique q _ (monic_generator g) ⟨?_, ?_⟩).2.symm
  · rw [← hq]
    ring
  · rw [degree_generator]
    exact degree_poly_lt _

end Crc
