import Mathlib.Data.List.GetD
import RelianceEdge.Lib.Memory

set_option relaxedAutoImplicit false
set_option autoImplicit false

/-!
# Memory that is written

Memory from an address on, with the end of what has been written to it. A text that is built from
its end is shifted to the right, and what comes before it is put in front.

## Main definitions

* `TextBuffer` — memory with the end of what has been written.
* `TextBuffer.move`, `TextBuffer.put` — what `memmove()` and `memcpy()` leave.
* `TextBuffer.Holds` — the memory starts with the bytes of a list.

## Main results

* `TextBuffer.Holds.prepend` — shifting a text and putting another one in front.
* `TextBuffer.byte_move`, `TextBuffer.byte_put` — nothing changes behind the end.
-/

/-- Memory, with the end of what has been written. -/
structure TextBuffer where
  byte : Memory
  /-- The address behind the last byte that has been written. -/
  extent : ℕ

namespace TextBuffer

/-- Copy `n` bytes from `src` to `dst`, which may overlap. -/
def move (b : TextBuffer) (dst src n : ℕ) : TextBuffer where
  byte := b.byte.move dst src n
  extent := if n = 0 then b.extent else max b.extent (dst + n)

/-- Write the bytes of a list at an address. -/
def put (b : TextBuffer) (a : ℕ) (l : List UInt8) : TextBuffer where
  byte := fun x => if a ≤ x ∧ x < a + l.length then l.getD (x - a) 0 else b.byte x
  extent := if l = [] then b.extent else max b.extent (a + l.length)

/-- The memory starts with the bytes of a list. -/
def Holds (b : TextBuffer) (l : List UInt8) : Prop := ∀ k < l.length, b.byte k = l.getD k 0

section

variable {b : TextBuffer} {a dst src n x : ℕ} {l l' : List UInt8}

lemma extent_le_move : b.extent ≤ (b.move dst src n).extent := by
  change b.extent ≤ if n = 0 then b.extent else max b.extent (dst + n)
  split_ifs
  · exact le_rfl
  · exact le_max_left _ _

lemma extent_le_put : b.extent ≤ (b.put a l).extent := by
  change b.extent ≤ if l = [] then b.extent else max b.extent (a + l.length)
  split_ifs
  · exact le_rfl
  · exact le_max_left _ _

lemma extent_move_le {N : ℕ} (hb : b.extent ≤ N) (h : dst + n ≤ N) :
    (b.move dst src n).extent ≤ N := by
  change (if n = 0 then b.extent else max b.extent (dst + n)) ≤ N
  split_ifs
  · exact hb
  · exact max_le hb h

lemma extent_put_le {N : ℕ} (hb : b.extent ≤ N) (h : a + l.length ≤ N) :
    (b.put a l).extent ≤ N := by
  change (if l = [] then b.extent else max b.extent (a + l.length)) ≤ N
  split_ifs
  · exact hb
  · exact max_le hb h

lemma le_extent_move (hn : 0 < n) : dst + n ≤ (b.move dst src n).extent := by
  change dst + n ≤ if n = 0 then b.extent else max b.extent (dst + n)
  rw [if_neg (by omega)]
  exact le_max_right _ _

lemma le_extent_put (hl : l ≠ []) : a + l.length ≤ (b.put a l).extent := by
  change a + l.length ≤ if l = [] then b.extent else max b.extent (a + l.length)
  rw [if_neg hl]
  exact le_max_right _ _

/-- A copy leaves what is behind the end of what has been written. -/
lemma byte_move (hx : (b.move dst src n).extent ≤ x) : (b.move dst src n).byte x = b.byte x := by
  apply Memory.move_of_notMem
  rcases Nat.eq_zero_or_pos n with rfl | hn
  · omega
  · exact Or.inr ((le_extent_move hn).trans hx)

lemma byte_put (hx : (b.put a l).extent ≤ x) : (b.put a l).byte x = b.byte x := by
  refine if_neg fun h => ?_
  rcases eq_or_ne l [] with rfl | hl
  · rw [List.length_nil] at h
    omega
  · have := (le_extent_put hl).trans hx
    omega

/-- Two lists put one behind the other. -/
lemma put_put (b : TextBuffer) (a : ℕ) (l l' : List UInt8) :
    (b.put a l).put (a + l.length) l' = b.put a (l ++ l') := by
  rw [put, put, put, TextBuffer.mk.injEq]
  constructor
  · funext x
    dsimp only
    rw [List.length_append]
    by_cases h1 : a ≤ x ∧ x < a + l.length
    · rw [if_neg (by omega), if_pos h1, if_pos (by omega), List.getD_append _ _ _ _ (by omega)]
    · by_cases h2 : a + l.length ≤ x ∧ x < a + l.length + l'.length
      · rw [if_pos h2, if_pos (by omega), List.getD_append_right _ _ _ _ (by omega)]
        congr 1
        omega
      · rw [if_neg h2, if_neg h1, if_neg (by omega)]
  · rcases eq_or_ne l [] with rfl | hl
    · simp
    · rcases eq_or_ne l' [] with rfl | hl'
      · simp
      · dsimp only
        rw [if_neg hl', if_neg hl, if_neg (by simp [hl]), List.length_append]
        omega

/-- **A text in front of another one**: the old one is shifted, and the new one is put at the
start. -/
lemma Holds.prepend (h : b.Holds l) (l' : List UInt8) :
    ((b.move l'.length 0 l.length).put 0 l').Holds (l' ++ l) := by
  intro k hk
  rw [List.length_append] at hk
  change (if 0 ≤ k ∧ k < 0 + l'.length then l'.getD (k - 0) 0
    else b.byte.move l'.length 0 l.length k) = _
  by_cases hk' : k < l'.length
  · rw [if_pos (by omega), List.getD_append _ _ _ _ hk', Nat.sub_zero]
  · obtain ⟨j, rfl⟩ := Nat.exists_eq_add_of_le (Nat.not_lt.1 hk')
    rw [if_neg (by omega), Memory.move_add (by omega), Nat.zero_add, h j (by omega),
      List.getD_append_right _ _ _ _ (by omega), Nat.add_sub_cancel_left]

end

end TextBuffer
