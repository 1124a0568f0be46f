import Mathlib.Algebra.BigOperators.Group.Finset.Piecewise
import Mathlib.Data.Finset.Sum
import Mathlib.Tactic.Common

set_option relaxedAutoImplicit false
set_option autoImplicit false
set_option linter.unusedSectionVars false

/-!
# Counted references

A table of objects that are shared: each object has a key and a count of the references to it, and
it is in use as long as the count is positive. Seen from the references, such a table is a map from
references to keys.

## Main definitions

* `Refs.count` — the number of references to an object.
* `Refs.Counted` — the counts are exact, and the objects in use have different keys.
* `Refs.view` — the key that a reference is for.
* `Refs.scan` — a search for an object, or else for one that is not in use.

## Main results

* `Refs.Counted.attach`, `Refs.Counted.attachNew`, `Refs.Counted.detach` — a reference is made or
  given up.
* `Refs.Counted.exists_free` — more objects than references leave one that is not in use.
* `Refs.Counted.view_detach`, `Refs.view_attach` — what this does to the map.
* `Refs.scan_eq` — what the search finds.
-/

namespace Refs

variable {ρ ι κ : Type} [DecidableEq ρ] [DecidableEq ι]

/-- **The number of references to an object.** -/
def count (R : Finset ρ) (ptr : ρ → Option ι) (i : ι) : ℕ := (R.filter fun r => ptr r = some i).card

/-- **A table of counted objects**: `R` are the references and `O` the objects. -/
structure Counted (R : Finset ρ) (O : Finset ι) (ptr : ρ → Option ι) (refs : ι → ℕ)
    (key : ι → Option κ) : Prop where
  mem : ∀ r i, ptr r = some i → r ∈ R ∧ i ∈ O
  refs_eq : ∀ i ∈ O, refs i = count R ptr i
  used : ∀ i ∈ O, key i ≠ none ↔ refs i ≠ 0
  unique : ∀ i ∈ O, ∀ j ∈ O, ∀ k, key i = some k → key j = some k → i = j

/-- **The key that a reference is for.** -/
def view (ptr : ρ → Option ι) (key : ι → Option κ) (r : ρ) : Option κ := (ptr r).bind key

variable {R : Finset ρ} {O : Finset ι} {ptr : ρ → Option ι} {refs : ι → ℕ} {key : ι → Option κ}
  {r : ρ} {i j : ι} {k : κ}

/-! ## Counts -/

lemma count_pos_iff : 0 < count R ptr i ↔ ∃ r ∈ R, ptr r = some i := by
  rw [count, Finset.card_pos]
  constructor
  · rintro ⟨r, hr⟩
    exact ⟨r, Finset.mem_filter.1 hr⟩
  · rintro ⟨r, hr⟩
    exact ⟨r, Finset.mem_filter.2 hr⟩

/-- The references of two kinds to an object. -/
lemma count_disjSum {ρ' : Type} [DecidableEq ρ'] {S : Finset ρ} {T : Finset ρ'}
    {f : ρ ⊕ ρ' → Option ι} : count (S.disjSum T) f i =
      (S.filter fun r => f (.inl r) = some i).card +
        (T.filter fun r => f (.inr r) = some i).card := by
  rw [count, Finset.card_filter, Finset.sum_disjSum, ← Finset.card_filter, ← Finset.card_filter]

/-- A reference that is made adds one to the count of its object. -/
lemma count_attach (hr : r ∈ R) (hnone : ptr r = none) :
    count R (Function.update ptr r (some i)) j = count R ptr j + if j = i then 1 else 0 := by
  have hne (x : ρ) (hx : ptr x = some j) : x ≠ r := by
    rintro rfl
    rw [hnone] at hx
    cases hx
  by_cases hji : j = i
  · subst hji
    have hfilter : (R.filter fun x => Function.update ptr r (some j) x = some j) =
        insert r (R.filter fun x => ptr x = some j) := by
      ext x
      simp only [Finset.mem_filter, Finset.mem_insert]
      by_cases hx : x = r
      · subst hx
        simp [hr]
      · simp [hx]
    rw [count, hfilter, Finset.card_insert_of_notMem, if_pos rfl, count]
    simp [hnone]
  · have hfilter : (R.filter fun x => Function.update ptr r (some i) x = some j) =
        R.filter fun x => ptr x = some j := by
      apply Finset.filter_congr
      intro x _
      by_cases hx : x = r
      · subst hx
        simp [hnone, Ne.symm hji]
      · simp [hx]
    rw [count, hfilter, if_neg hji, Nat.add_zero, count]

/-- A reference that is given up takes one from the count of its object. -/
lemma count_detach (hr : r ∈ R) (hptr : ptr r = some i) :
    count R (Function.update ptr r none) j = count R ptr j - if j = i then 1 else 0 := by
  have hback : Function.update (Function.update ptr r none) r (some i) = ptr := by
    rw [Function.update_idem, ← hptr, Function.update_eq_self]
  have hattach : count R (Function.update (Function.update ptr r none) r (some i)) j =
      count R (Function.update ptr r none) j + if j = i then 1 else 0 :=
    count_attach hr (Function.update_self ..)
  rw [hback] at hattach
  omega

/-! ## References that are made and given up -/

namespace Counted

/-- The object of a reference is in use. -/
lemma refs_pos (h : Counted R O ptr refs key) (hptr : ptr r = some i) : 0 < refs i := by
  obtain ⟨hr, hi⟩ := h.mem r i hptr
  rw [h.refs_eq i hi, count_pos_iff]
  exact ⟨r, hr, hptr⟩

/-- Every reference is for a key. -/
lemma view_some (h : Counted R O ptr refs key) (hptr : ptr r = some i) :
    ∃ k, key i = some k ∧ view ptr key r = some k := by
  obtain ⟨k, hk⟩ := Option.ne_none_iff_exists'.1
    ((h.used i (h.mem r i hptr).2).2 (h.refs_pos hptr).ne')
  exact ⟨k, hk, by rw [view, hptr, Option.bind_some, hk]⟩

/-- A reference is for a key when it is to an object. -/
lemma view_eq_none_iff (h : Counted R O ptr refs key) : view ptr key r = none ↔ ptr r = none := by
  constructor
  · intro hview
    by_contra hptr
    obtain ⟨i, hi⟩ := Option.ne_none_iff_exists'.1 hptr
    obtain ⟨k, -, hk⟩ := h.view_some hi
    rw [hview] at hk
    cases hk
  · intro hptr
    rw [view, hptr]
    rfl

/-- The object of a reference. -/
lemma of_view (h : Counted R O ptr refs key) (hview : view ptr key r = some k) :
    r ∈ R ∧ ∃ i ∈ O, ptr r = some i ∧ key i = some k := by
  rw [view, Option.bind_eq_some_iff] at hview
  obtain ⟨i, hptr, hk⟩ := hview
  exact ⟨(h.mem r i hptr).1, i, (h.mem r i hptr).2, hptr, hk⟩

/-- A key is in use exactly when a reference is for it. -/
lemma exists_view_iff (h : Counted R O ptr refs key) :
    (∃ i ∈ O, key i = some k) ↔ ∃ r, view ptr key r = some k := by
  constructor
  · rintro ⟨i, hi, hk⟩
    have hpos : 0 < refs i := Nat.pos_of_ne_zero ((h.used i hi).1 (by simp [hk]))
    rw [h.refs_eq i hi, count_pos_iff] at hpos
    obtain ⟨r, -, hptr⟩ := hpos
    exact ⟨r, by rw [view, hptr, Option.bind_some, hk]⟩
  · rintro ⟨r, hview⟩
    obtain ⟨-, i, hi, -, hk⟩ := h.of_view hview
    exact ⟨i, hi, hk⟩

/-- A key that no reference is for is new to the objects. -/
lemma fresh_iff (h : Counted R O ptr refs key) :
    (∀ i ∈ O, key i ≠ some k) ↔ ∀ r, view ptr key r ≠ some k := by
  have hiff := (h.exists_view_iff (k := k)).not
  push Not at hiff
  exact hiff

/-- References for one key share one object. -/
lemma ptr_eq_of_view (h : Counted R O ptr refs key) {r' : ρ} (hview : view ptr key r = some k)
    (hview' : view ptr key r' = some k) : ptr r = ptr r' := by
  obtain ⟨-, i, hi, hptr, hk⟩ := h.of_view hview
  obtain ⟨-, j, hj, hptr', hk'⟩ := h.of_view hview'
  rw [hptr, hptr', h.unique i hi j hj k hk hk']

/-- There are no more references than there can be. -/
lemma refs_lt (h : Counted R O ptr refs key) (hr : r ∈ R) (hnone : ptr r = none) (hi : i ∈ O) :
    refs i < R.card := by
  rw [h.refs_eq i hi, count]
  refine Finset.card_lt_card (Finset.filter_ssubset.2 ⟨r, hr, ?_⟩)
  simp [hnone]

/-- The only reference to an object. -/
lemma eq_of_refs_one (h : Counted R O ptr refs key) {r' : ρ} (hptr : ptr r = some i)
    (hptr' : ptr r' = some i) (hone : refs i = 1) : r = r' := by
  rw [h.refs_eq i (h.mem r i hptr).2, count, Finset.card_eq_one] at hone
  obtain ⟨a, ha⟩ := hone
  have hmem (x : ρ) (hxi : ptr x = some i) : x = a := by
    have hx : x ∈ R.filter fun x => ptr x = some i :=
      Finset.mem_filter.2 ⟨(h.mem x i hxi).1, hxi⟩
    rw [ha] at hx
    exact Finset.mem_singleton.1 hx
  rw [hmem r hptr, hmem r' hptr']

/-- **A reference to an object in use.** -/
theorem attach (h : Counted R O ptr refs key) (hr : r ∈ R) (hnone : ptr r = none) (hi : i ∈ O)
    (hk : key i = some k) : Counted R O (Function.update ptr r (some i))
      (Function.update refs i (refs i + 1)) key where
  mem x j hj := by
    by_cases hxr : x = r
    · subst hxr
      rw [Function.update_self] at hj
      cases hj
      exact ⟨hr, hi⟩
    · rw [Function.update_of_ne hxr] at hj
      exact h.mem x j hj
  refs_eq j hj := by
    rw [count_attach hr hnone]
    by_cases hji : j = i
    · subst hji
      rw [Function.update_self, if_pos rfl, h.refs_eq j hj]
    · rw [Function.update_of_ne hji, if_neg hji, Nat.add_zero, h.refs_eq j hj]
  used j hj := by
    by_cases hji : j = i
    · subst hji
      simp [hk]
    · rw [Function.update_of_ne hji, h.used j hj]
  unique := h.unique

/-- **A reference to an object that was not in use**, for a key that no object had. -/
theorem attachNew (h : Counted R O ptr refs key) (hr : r ∈ R) (hnone : ptr r = none) (hi : i ∈ O)
    (hfree : key i = none) (hfresh : ∀ j ∈ O, key j ≠ some k) :
    Counted R O (Function.update ptr r (some i)) (Function.update refs i 1)
      (Function.update key i (some k)) where
  mem x j hj := by
    by_cases hxr : x = r
    · subst hxr
      rw [Function.update_self] at hj
      cases hj
      exact ⟨hr, hi⟩
    · rw [Function.update_of_ne hxr] at hj
      exact h.mem x j hj
  refs_eq j hj := by
    rw [count_attach hr hnone]
    by_cases hji : j = i
    · subst hji
      have hzero : refs j = 0 := by
        have := (h.used j hj).not
        simpa [hfree] using this
      rw [Function.update_self, if_pos rfl, ← h.refs_eq j hj, hzero]
    · rw [Function.update_of_ne hji, if_neg hji, Nat.add_zero, h.refs_eq j hj]
  used j hj := by
    by_cases hji : j = i
    · subst hji
      simp
    · rw [Function.update_of_ne hji, Function.update_of_ne hji, h.used j hj]
  unique a ha b hb k' hka hkb := by
    by_cases hai : a = i <;> by_cases hbi : b = i
    · rw [hai, hbi]
    · subst hai
      rw [Function.update_self] at hka
      rw [Function.update_of_ne hbi] at hkb
      cases hka
      exact absurd hkb (hfresh b hb)
    · subst hbi
      rw [Function.update_self] at hkb
      rw [Function.update_of_ne hai] at hka
      cases hkb
      exact absurd hka (hfresh a ha)
    · rw [Function.update_of_ne hai] at hka
      rw [Function.update_of_ne hbi] at hkb
      exact h.unique a ha b hb k' hka hkb

/-- **A reference that is given up**: its object is still in use when there are others. -/
theorem detach (h : Counted R O ptr refs key) (hptr : ptr r = some i) :
    Counted R O (Function.update ptr r none) (Function.update refs i (refs i - 1))
      (if refs i = 1 then Function.update key i none else key) where
  mem x j hj := by
    by_cases hxr : x = r
    · subst hxr
      rw [Function.update_self] at hj
      cases hj
    · rw [Function.update_of_ne hxr] at hj
      exact h.mem x j hj
  refs_eq j hj := by
    rw [count_detach (h.mem r i hptr).1 hptr]
    by_cases hji : j = i
    · subst hji
      rw [Function.update_self, if_pos rfl, h.refs_eq j hj]
    · rw [Function.update_of_ne hji, if_neg hji, Nat.sub_zero, h.refs_eq j hj]
  used j hj := by
    have hpos := h.refs_pos hptr
    by_cases hji : j = i
    · subst hji
      rw [Function.update_self]
      split_ifs with h1
      · simp [h1]
      · rw [h.used j hj]
        omega
    · rw [Function.update_of_ne hji, ← h.used j hj]
      split_ifs
      · rw [Function.update_of_ne hji]
      · rfl
  unique a ha b hb k' hka hkb := by
    split_ifs at hka hkb
    · by_cases hai : a = i
      · subst hai
        rw [Function.update_self] at hka
        cases hka
      by_cases hbi : b = i
      · subst hbi
        rw [Function.update_self] at hkb
        cases hkb
      rw [Function.update_of_ne hai] at hka
      rw [Function.update_of_ne hbi] at hkb
      exact h.unique a ha b hb k' hka hkb
    · exact h.unique a ha b hb k' hka hkb

/-- **An object that is not in use**, when there are more objects than references. -/
theorem exists_free (h : Counted R O ptr refs key) (hr : r ∈ R) (hnone : ptr r = none)
    (hle : R.card ≤ O.card) : ∃ i ∈ O, key i = none := by
  by_contra hall
  push Not at hall
  have hsub : O.image some ⊆ (R.erase r).image ptr := by
    intro x hx
    obtain ⟨i, hi, rfl⟩ := Finset.mem_image.1 hx
    have hpos : 0 < count R ptr i := by
      rw [← h.refs_eq i hi]
      exact Nat.pos_of_ne_zero ((h.used i hi).1 (hall i hi))
    obtain ⟨x, hx, hptr⟩ := count_pos_iff.1 hpos
    refine Finset.mem_image.2 ⟨x, Finset.mem_erase.2 ⟨?_, hx⟩, hptr⟩
    rintro rfl
    rw [hnone] at hptr
    cases hptr
  have hcard := (Finset.card_le_card hsub).trans Finset.card_image_le
  rw [Finset.card_image_of_injective _ (Option.some_injective _)] at hcard
  have hlt := Finset.card_erase_lt_of_mem hr
  omega

/-- What the references are for, after one has been given up. -/
lemma view_detach (h : Counted R O ptr refs key) (hptr : ptr r = some i) :
    view (Function.update ptr r none) (if refs i = 1 then Function.update key i none else key) =
      Function.update (view ptr key) r none := by
  funext x
  by_cases hxr : x = r
  · subst hxr
    simp [view]
  · rw [Function.update_of_ne hxr, view, view, Function.update_of_ne hxr]
    split_ifs with hone
    · rcases hxi : ptr x with _ | j
      · rfl
      · have hji : j ≠ i := fun heq => hxr (h.eq_of_refs_one (heq ▸ hxi) hptr hone)
        rw [Option.bind_some, Option.bind_some, Function.update_of_ne hji]
    · rfl

/-- What the references are for, after one has been made to an object that was not in use. -/
lemma view_attachNew (h : Counted R O ptr refs key) (hfree : key i = none) :
    view (Function.update ptr r (some i)) (Function.update key i (some k)) =
      Function.update (view ptr key) r (some k) := by
  funext x
  by_cases hxr : x = r
  · subst hxr
    simp [view]
  · rw [Function.update_of_ne hxr, view, view, Function.update_of_ne hxr]
    rcases hxi : ptr x with _ | j
    · rfl
    · obtain ⟨k', hk', -⟩ := h.view_some hxi
      have hji : j ≠ i := by
        rintro rfl
        rw [hfree] at hk'
        cases hk'
      rw [Option.bind_some, Option.bind_some, Function.update_of_ne hji]

end Counted

/-! ## Views -/

/-- What the references are for, after one has been made. -/
lemma view_attach : view (Function.update ptr r (some i)) key =
    Function.update (view ptr key) r (key i) := by
  funext x
  by_cases hx : x = r
  · subst hx
    simp [view]
  · simp [view, hx]

/-! ## Searches -/

/-- **A search for an object**, with the first one that is not in use. -/
def scan (hit free : ι → Bool) : List ι → Option ι → Option ι × Option ι
  | [], first => (none, first)
  | i :: rest, first =>
    if hit i then (some i, first)
    else scan hit free rest (if first.isNone && free i then some i else first)

/-- What the search finds: the first hit; and if there is none, the first that is not in use. -/
lemma scan_eq (hit free : ι → Bool) (l : List ι) (first : Option ι) :
    (scan hit free l first).1 = l.find? hit ∧
      (l.find? hit = none → (scan hit free l first).2 = first.or (l.find? free)) := by
  induction l generalizing first with
  | nil => simp [scan]
  | cons i rest ih =>
    rw [scan]
    by_cases hi : hit i
    · rw [if_pos hi, List.find?_cons_of_pos hi]
      exact ⟨rfl, nofun⟩
    · rw [if_neg hi, List.find?_cons_of_neg hi]
      refine ⟨(ih _).1, fun hnone => ?_⟩
      rw [(ih _).2 hnone]
      rcases first with _ | a
      · by_cases hf : free i
        · simp [hf]
        · simp [hf]
      · simp

end Refs
