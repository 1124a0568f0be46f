import Mathlib.Data.List.Basic
import Mathlib.Tactic.Common

set_option relaxedAutoImplicit false
set_option autoImplicit false

/-!
# Folds that can fail

Monadic folds over a list in `Except`: where they fail, and when two of them agree.

## Main results

* `Fold.foldlM_eq_error_iff` — a fold fails at the first element whose step fails.
* `Fold.foldlM_congr` — steps that agree except where one fails with a given error make folds that
  agree except where that one fails with it.
-/

namespace Fold

variable {α β ε : Type*} {f g : β → α → Except ε β}

/-- A fold over two lists, one after the other. -/
lemma foldlM_append_ok {front back : List α} {b b' : β} (h : front.foldlM f b = .ok b') :
    (front ++ back).foldlM f b = back.foldlM f b' := by
  rw [List.foldlM_append, h]
  rfl

/-- **A fold fails** at the first element whose step fails. -/
theorem foldlM_eq_error_iff {e : ε} {l : List α} {b : β} :
    l.foldlM f b = .error e ↔ ∃ front a back b', l = front ++ a :: back ∧
      front.foldlM f b = .ok b' ∧ f b' a = .error e := by
  constructor
  · intro h
    induction l generalizing b with
    | nil => cases h
    | cons a l ih =>
      rw [List.foldlM_cons] at h
      rcases hb : f b a with e' | b'
      · rw [hb] at h
        obtain rfl := Except.error.inj h
        exact ⟨[], a, l, b, rfl, rfl, hb⟩
      · rw [hb] at h
        obtain ⟨front, c, back, q, rfl, hq, hc⟩ := ih h
        refine ⟨a :: front, c, back, q, rfl, ?_, hc⟩
        rw [List.foldlM_cons, hb]
        exact hq
  · rintro ⟨front, a, back, b', rfl, hb, ha⟩
    rw [foldlM_append_ok hb, List.foldlM_cons, ha]
    rfl

/-- Folds whose steps agree unless the first fails with `e`, agree unless the first fails with
`e`. -/
theorem foldlM_congr {e : ε} (h : ∀ b a, f b a ≠ .error e → g b a = f b a) {l : List α} {b : β}
    (hl : l.foldlM f b ≠ .error e) : l.foldlM g b = l.foldlM f b := by
  induction l generalizing b with
  | nil => rfl
  | cons a l ih =>
    rw [List.foldlM_cons] at hl
    rw [List.foldlM_cons, List.foldlM_cons]
    rcases hb : f b a with e' | b'
    · have hne : f b a ≠ .error e := by
        intro he
        rw [he] at hl
        exact hl rfl
      rw [h b a hne, hb]
      rfl
    · rw [hb] at hl
      rw [h b a (by rw [hb]; exact fun hc => by cases hc), hb]
      exact ih hl

end Fold
