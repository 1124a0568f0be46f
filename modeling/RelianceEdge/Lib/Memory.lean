import Mathlib.Data.Nat.Log
import Mathlib.Data.UInt
import Mathlib.Tactic.Common
import Mathlib.Tactic.Ring

set_option relaxedAutoImplicit false
set_option autoImplicit false

/-!
# Memory

Memory as a function from addresses to bytes, with numbers stored in it byte by byte, the least
significant one first.

## Main definitions

* `Memory.load`, `Memory.store` — a number of `n` bytes at an address.
* `Memory.move`, `Memory.fill` — what `memmove()` and `memset()` leave.

## Main results

* `Memory.load_store` — a number that fits is read back.
* `Memory.load_congr` — reading a number depends on its own bytes only.
-/

/-- A byte for every address. -/
abbrev Memory : Type := ℕ → UInt8

namespace Memory

/-- The number of `n` bytes at the address `a`. -/
def load (m : Memory) : ℕ → ℕ → ℕ
  | _, 0 => 0
  | a, n + 1 => (m a).toNat + 256 * load m (a + 1) n

/-- Write the low `n` bytes of `v` at the address `a`. -/
def store (m : Memory) (a n v : ℕ) : Memory := fun x =>
  if a ≤ x ∧ x < a + n then UInt8.ofNat (v / 256 ^ (x - a)) else m x

/-- Copy `n` bytes from `src` to `dst`, which may overlap. -/
def move (m : Memory) (dst src n : ℕ) : Memory := fun x =>
  if dst ≤ x ∧ x < dst + n then m (src + (x - dst)) else m x

/-- Set `n` bytes at `a` to `v`. -/
def fill (m : Memory) (a : ℕ) (v : UInt8) (n : ℕ) : Memory := fun x =>
  if a ≤ x ∧ x < a + n then v else m x

section

variable {m m' : Memory} {a b n k v x : ℕ}

lemma store_of_notMem (h : x < a ∨ a + n ≤ x) : m.store a n v x = m x := if_neg (by omega)

lemma move_of_notMem (h : x < a ∨ a + n ≤ x) : m.move a b n x = m x := if_neg (by omega)

lemma move_add (h : k < n) : m.move a b n (a + k) = m (b + k) := by
  unfold move
  rw [if_pos (by omega), Nat.add_sub_cancel_left]

lemma fill_of_notMem {c : UInt8} (h : x < a ∨ a + n ≤ x) : m.fill a c n x = m x :=
  if_neg (by omega)

lemma fill_of_mem {c : UInt8} (h1 : a ≤ x) (h2 : x < a + n) : m.fill a c n x = c := if_pos ⟨h1, h2⟩

/-- Reading a number depends on its bytes only. -/
lemma load_congr (h : ∀ x, a ≤ x → x < a + n → m' x = m x) : m'.load a n = m.load a n := by
  induction n generalizing a with
  | zero => rfl
  | succ n ih =>
    unfold load
    rw [h a le_rfl (by omega), ih fun x h1 h2 => h x (by omega) (by omega)]

/-- A number is not changed by writing another one apart from it. -/
lemma load_store_of_apart (h : a + n ≤ b ∨ b + k ≤ a) : (m.store b k v).load a n = m.load a n := by
  apply load_congr
  intro x h1 h2
  exact store_of_notMem (by omega)

/-- The bytes of a number are its digits. -/
lemma load_digits (h : ∀ k, k < n → (m (a + k)).toNat = v / 256 ^ k % 256) :
    m.load a n = v % 256 ^ n := by
  induction n generalizing a v with
  | zero => rw [Nat.pow_zero, Nat.mod_one, load]
  | succ n ih =>
    have h0 := h 0 (by omega)
    rw [Nat.add_zero, Nat.pow_zero, Nat.div_one] at h0
    have hrest : m.load (a + 1) n = v / 256 % 256 ^ n := by
      apply ih
      intro k hk
      rw [Nat.add_assoc, Nat.add_comm 1 k, h (k + 1) (by omega), Nat.div_div_eq_div_mul,
        Nat.pow_succ, Nat.mul_comm 256]
    unfold load
    rw [h0, hrest, Nat.pow_succ, Nat.mul_comm (256 ^ n), Nat.mod_mul]

/-- **A number that fits is read back.** -/
lemma load_store (h : v < 256 ^ n) : (m.store a n v).load a n = v := by
  rw [load_digits (v := v), Nat.mod_eq_of_lt h]
  intro k hk
  unfold store
  rw [if_pos (by omega), Nat.add_sub_cancel_left]
  simp

end

end Memory
