import Mathlib.Logic.Function.Basic
import Mathlib.Tactic.Common

set_option relaxedAutoImplicit false
set_option autoImplicit false

/-!
# Tables as maps

A table whose elements have different keys is a map from the keys. The key of an element may
depend on the place where it stands.

## Main definitions

* `Keyed.Distinct` — the elements in use have different keys.
* `Keyed.Keeps` — a change of the table takes no key to another place.
* `Keyed.Maps` — a table holds a map.

## Main results

* `Keyed.Maps.insert`, `Keyed.Maps.replace`, `Keyed.Maps.erase` — a change of one place is a change
  of one key.
* `Keyed.Maps.unique` — a table holds one map.
-/

namespace Keyed

variable {ι α κ ν : Type} (key : ι → α → κ) (val : α → ν)

/-- **The elements in use have different keys.** -/
def Distinct (t : ι → Option α) : Prop :=
  ∀ i j a b, t i = some a → t j = some b → key i a = key j b → i = j

/-- **A change takes no key to another place.** -/
def Keeps (t t' : ι → Option α) : Prop :=
  ∀ i j a b, t i = some a → t' j = some b → key i a = key j b → i = j

/-- **A table holds a map**: a key has the value of the element with that key. -/
def Maps (t : ι → Option α) (M : κ → Option ν) : Prop :=
  ∀ k v, M k = some v ↔ ∃ i a, t i = some a ∧ key i a = k ∧ val a = v

variable {key val} {t : ι → Option α} {M M' : κ → Option ν} {i : ι} {a b : α}

/-- A key has no value when no element has the key. -/
lemma Maps.eq_none_iff (h : Maps key val t M) {k : κ} :
    M k = none ↔ ∀ i a, t i = some a → key i a ≠ k := by
  rw [Option.eq_none_iff_forall_ne_some]
  constructor
  · intro hk i a hi hkey
    exact hk (val a) ((h k (val a)).2 ⟨i, a, hi, hkey, rfl⟩)
  · intro hk v hv
    obtain ⟨i, a, hi, hkey, -⟩ := (h k v).1 hv
    exact hk i a hi hkey

lemma Maps.eq_some (h : Maps key val t M) (hi : t i = some a) : M (key i a) = some (val a) :=
  (h _ _).2 ⟨i, a, hi, rfl, rfl⟩

/-- A table holds one map. -/
theorem Maps.unique (h : Maps key val t M) (h' : Maps key val t M') : M = M' := by
  funext k
  apply Option.ext
  intro v
  rw [h k v, h' k v]

variable [DecidableEq ι] [DecidableEq κ]

/-- **A new element** in a free place adds its key. -/
theorem Maps.insert (h : Maps key val t M) (hfree : t i = none)
    (hfresh : ∀ j b, t j = some b → key j b ≠ key i a) :
    Maps key val (Function.update t i (some a))
      (Function.update M (key i a) (some (val a))) := by
  intro k v
  by_cases hk : k = key i a
  · subst hk
    rw [Function.update_self]
    constructor
    · intro hv
      exact ⟨i, a, Function.update_self .., rfl, Option.some.inj hv⟩
    · rintro ⟨j, b, hj, hkey, hv⟩
      by_cases hji : j = i
      · subst hji
        rw [Function.update_self] at hj
        cases hj
        rw [hv]
      · rw [Function.update_of_ne hji] at hj
        exact absurd hkey (hfresh j b hj)
  · rw [Function.update_of_ne hk, h k v]
    constructor
    · rintro ⟨j, b, hj, hkey, hv⟩
      have hji : j ≠ i := by
        rintro rfl
        rw [hfree] at hj
        cases hj
      exact ⟨j, b, by rw [Function.update_of_ne hji, hj], hkey, hv⟩
    · rintro ⟨j, b, hj, hkey, hv⟩
      have hji : j ≠ i := by
        rintro rfl
        rw [Function.update_self] at hj
        cases hj
        exact hk hkey.symm
      rw [Function.update_of_ne hji] at hj
      exact ⟨j, b, hj, hkey, hv⟩

omit [DecidableEq κ] in
lemma Distinct.erase (hd : Distinct key t) (i : ι) :
    Distinct key (Function.update t i none) := by
  have hof {j : ι} {b : α} (hj : Function.update t i none j = some b) : t j = some b := by
    by_cases hji : j = i
    · subst hji
      rw [Function.update_self] at hj
      cases hj
    · rwa [Function.update_of_ne hji] at hj
  exact fun j k b c hj hk hkey => hd j k b c (hof hj) (hof hk) hkey

/-- **An element taken out** removes its key. -/
theorem Maps.erase (h : Maps key val t M) (hd : Distinct key t) (hi : t i = some a) :
    Maps key val (Function.update t i none) (Function.update M (key i a) none) := by
  intro k v
  by_cases hk : k = key i a
  · subst hk
    rw [Function.update_self]
    constructor
    · nofun
    · rintro ⟨j, b, hj, hkey, -⟩
      by_cases hji : j = i
      · subst hji
        rw [Function.update_self] at hj
        cases hj
      · rw [Function.update_of_ne hji] at hj
        exact absurd (hd j i b a hj hi hkey) hji
  · rw [Function.update_of_ne hk, h k v]
    constructor
    · rintro ⟨j, b, hj, hkey, hv⟩
      have hji : j ≠ i := by
        rintro rfl
        rw [hi] at hj
        cases hj
        exact hk hkey.symm
      exact ⟨j, b, by rw [Function.update_of_ne hji, hj], hkey, hv⟩
    · rintro ⟨j, b, hj, hkey, hv⟩
      have hji : j ≠ i := by
        rintro rfl
        rw [Function.update_self] at hj
        cases hj
      rw [Function.update_of_ne hji] at hj
      exact ⟨j, b, hj, hkey, hv⟩

/-- **An element in place of another** with the same key changes the value of the key. -/
theorem Maps.replace (h : Maps key val t M) (hd : Distinct key t) (hi : t i = some b)
    (hkey : key i b = key i a) :
    Maps key val (Function.update t i (some a))
      (Function.update M (key i a) (some (val a))) := by
  have herase := h.erase hd hi
  have hins := herase.insert (a := a) (Function.update_self ..) fun j c hj => ?_
  · rwa [hkey, Function.update_idem, Function.update_idem] at hins
  · by_cases hji : j = i
    · subst hji
      rw [Function.update_self] at hj
      cases hj
    · rw [Function.update_of_ne hji] at hj
      exact fun hc => hji (hd j i c b hj hi (hc.trans hkey.symm))

end Keyed
