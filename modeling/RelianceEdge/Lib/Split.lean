import Mathlib.Data.List.Basic
import Mathlib.Tactic.Common

set_option relaxedAutoImplicit false
set_option autoImplicit false

/-!
# Components of a delimited list

A list cut at its delimiters, with the empty pieces left out: runs of delimiters count once and
delimiters at either end count for nothing.

## Main definitions

* `Split.components` — the nonempty pieces between delimiters.

## Main results

* `Split.components_append` — a piece that is followed by a delimiter, or by nothing, is the first
  component.
-/

namespace Split

open List

variable {α : Type*} (p : α → Bool)

/-- The nonempty pieces of a list between the delimiters `p`. -/
def components (l : List α) : List (List α) := (l.splitOnP p).filter fun c => !c.isEmpty

@[simp] lemma components_nil : components p [] = [] := rfl

variable {p}

/-- A delimiter in front changes nothing. -/
lemma components_cons {x : α} (hx : p x) (l : List α) : components p (x :: l) = components p l := by
  unfold components
  rw [splitOnP_cons_eq_if_modifyHead, if_pos hx]
  rfl

/-- A piece that ends the list is its only component. -/
lemma components_single {c : List α} (hc : ∀ x ∈ c, p x = false) (hne : c ≠ []) :
    components p c = [c] := by
  have h : c.splitOnP p = [c] := by
    apply splitOnP_eq_singleton
    intro x hx
    simp [hc x hx]
  unfold components
  rw [h]
  simp [hne]

/-- **The first component**: a piece that is followed by a delimiter or by nothing. -/
theorem components_append {c l : List α} (hc : ∀ x ∈ c, p x = false) (hne : c ≠ [])
    (hl : l = [] ∨ ∃ x l', l = x :: l' ∧ p x) : components p (c ++ l) = c :: components p l := by
  rcases hl with rfl | ⟨x, l', rfl, hx⟩
  · rw [append_nil, components_single hc hne, components_nil]
  · have h : (c ++ x :: l').splitOnP p = c :: l'.splitOnP p :=
      splitOnP_append_cons_of_forall_mem hc x hx l'
    rw [components_cons hx]
    unfold components
    rw [h]
    simp [hne]

/-- Components are not empty. -/
lemma ne_nil_of_mem_components {l c : List α} (h : c ∈ components p l) : c ≠ [] := by
  unfold components at h
  have := (mem_filter.1 h).2
  rintro rfl
  simp at this

end Split
