import Mathlib.Data.Nat.Bitwise
import Mathlib.Tactic.Common

set_option relaxedAutoImplicit false
set_option autoImplicit false

/-!
# Numbers as bytes

A number of a fixed number of bytes, laid out with the least significant byte first or last.

## Main definitions

* `Bytes.little` — the bytes of a number, the least significant first.
* `Bytes.field` — the bytes of a number in either order, and `Bytes.number`, the number they spell.

## Main results

* `Bytes.number_field` — a number that fits its field is read back.
-/

namespace Bytes

/-- The `size` lowest bytes of a number, the least significant first. -/
def little : ℕ → ℕ → List UInt8
  | 0, _ => []
  | size + 1, n => UInt8.ofNat n :: little size (n / 256)

/-- The number spelt by bytes of which the least significant is the first. -/
def value : List UInt8 → ℕ
  | [] => 0
  | b :: bytes => b.toNat + 256 * value bytes

@[simp] lemma length_little (size n : ℕ) : (little size n).length = size := by
  induction size generalizing n with
  | zero => rfl
  | succ size ih => simp [little, ih]

lemma value_little (size n : ℕ) : value (little size n) = n % 256 ^ size := by
  induction size generalizing n with
  | zero => rw [pow_zero, Nat.mod_one, little, value]
  | succ size ih =>
    have hb : (UInt8.ofNat n).toNat = n % 256 := UInt8.toNat_ofNat'
    rw [little, value, ih, hb, pow_succ, Nat.mul_comm (256 ^ size), Nat.mod_mul]

/-! ## Byte order -/

/-- Bytes of which the least significant is the first, or the last on a big-endian machine. -/
def ordered (big : Bool) (bytes : List UInt8) : List UInt8 := if big then bytes.reverse else bytes

@[simp] lemma length_ordered (big : Bool) (bytes : List UInt8) :
    (ordered big bytes).length = bytes.length := by
  cases big
  · rfl
  · exact List.length_reverse

@[simp] lemma ordered_ordered (big : Bool) (bytes : List UInt8) :
    ordered big (ordered big bytes) = bytes := by
  cases big
  · rfl
  · exact List.reverse_reverse bytes

/-- A number of `size` bytes in memory. -/
def field (big : Bool) (size n : ℕ) : List UInt8 := ordered big (little size n)

/-- The number that the bytes of a field spell. -/
def number (big : Bool) (bytes : List UInt8) : ℕ := value (ordered big bytes)

@[simp] lemma length_field (big : Bool) (size n : ℕ) : (field big size n).length = size := by
  rw [field, length_ordered, length_little]

/-- **Round trip**: what is read back is the number cut to its field. -/
@[simp] theorem number_field (big : Bool) (size n : ℕ) :
    number big (field big size n) = n % 256 ^ size := by
  rw [number, field, ordered_ordered, value_little]

end Bytes
