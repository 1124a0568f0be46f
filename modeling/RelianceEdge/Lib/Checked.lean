import Mathlib.Data.Nat.Bitwise
import Mathlib.Tactic.Common

set_option relaxedAutoImplicit false
set_option autoImplicit false

/-!
# Arithmetic that has to fit

Unsigned arithmetic on `w` bits wraps around. The operations here have a value only where the exact
result fits in `w` bits: a computation that is made of them and has a value is one in which nothing
wraps around, and its value is the exact one.

## Main definitions

* `Checked.cast` — conversion to `w` bits.
* `Checked.add`, `Checked.sub`, `Checked.mul` — sum, difference and product.

## Main results

* `Checked.cast_eq_some` — a conversion has a value exactly if the number fits.
-/

namespace Checked

variable {w a b c : ℕ}

/-- Conversion to `w` bits. -/
def cast (w a : ℕ) : Option ℕ := if a < 2 ^ w then some a else none

/-- The sum, if it fits in `w` bits. -/
def add (w a b : ℕ) : Option ℕ := cast w (a + b)

/-- The difference, if it is not negative. -/
def sub (a b : ℕ) : Option ℕ := if b ≤ a then some (a - b) else none

/-- The product, if it fits in `w` bits. -/
def mul (w a b : ℕ) : Option ℕ := cast w (a * b)

lemma cast_of_lt (h : a < 2 ^ w) : cast w a = some a := if_pos h

lemma add_of_lt (h : a + b < 2 ^ w) : add w a b = some (a + b) := cast_of_lt h

lemma sub_of_le (h : b ≤ a) : sub a b = some (a - b) := if_pos h

lemma mul_of_lt (h : a * b < 2 ^ w) : mul w a b = some (a * b) := cast_of_lt h

/-- A conversion has a value exactly if the number fits. -/
lemma cast_eq_some : cast w a = some c ↔ a < 2 ^ w ∧ a = c := by
  unfold cast
  split_ifs with h
  · simp [h]
  · simp [h]

end Checked
