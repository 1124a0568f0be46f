import Mathlib.Data.List.DropRight
import Mathlib.Tactic.Common

set_option relaxedAutoImplicit false
set_option autoImplicit false

/-!
# Arrays with free slots

A list of slots, each free or in use. Values are put into free slots or behind the last one, and
slots that become free at the end are cut off.

## Main definitions

* `Slots.at` — the value of a slot; slots past the end are free.
* `Slots.put`, `Slots.free` — fill a slot, and free one.
* `Slots.Trimmed` — the last slot is in use.
* `Slots.search` — look for a value, and remember the first free slot on the way.
* `Slots.next` — the first slot in use from an index on.

## Main results

* `Slots.at_put`, `Slots.at_free` — the other slots keep their values.
* `Slots.search_found`, `Slots.search_none` — what a search has found.
* `Slots.next_eq_some`, `Slots.next_eq_none` — which slot comes next.
* `Slots.firstFree_le` — the first free slot is not behind as many slots as are in use.
-/

namespace Slots

variable {α : Type}

/-! ## Slots -/

/-- The value of a slot; slots past the end are free. -/
def «at» (l : List (Option α)) (k : ℕ) : Option α := (l[k]?).getD none

/-- Fill a slot, which may be the one behind the last. -/
def put (l : List (Option α)) (k : ℕ) (a : α) : List (Option α) :=
  if k < l.length then l.set k (some a) else l ++ [some a]

/-- Cut off the free slots at the end. -/
def trim (l : List (Option α)) : List (Option α) := l.rdropWhile Option.isNone

/-- Free a slot; with the last one, the free slots before it are cut off. -/
def free (l : List (Option α)) (k : ℕ) : List (Option α) :=
  if k + 1 = l.length then trim (l.take k) else l.set k none

/-- **The last slot is in use.** -/
def Trimmed (l : List (Option α)) : Prop := ∀ h : l ≠ [], (l.getLast h).isSome

variable {l : List (Option α)} {j k : ℕ} {a : α}

lemma at_eq_some : Slots.at l k = some a ↔ l[k]? = some (some a) := by
  unfold Slots.at
  rcases l[k]? with _ | _ | b <;> simp

lemma at_of_length_le (h : l.length ≤ k) : Slots.at l k = none := by
  unfold Slots.at
  rw [List.getElem?_eq_none h, Option.getD_none]

lemma lt_of_at (h : Slots.at l k = some a) : k < l.length := by
  by_contra hk
  rw [at_of_length_le (by omega)] at h
  cases h

lemma mem_iff : some a ∈ l ↔ ∃ k, Slots.at l k = some a := by
  simp only [at_eq_some, List.mem_iff_getElem?]

lemma at_drop (n : ℕ) : Slots.at (l.drop n) k = Slots.at l (n + k) := by
  unfold Slots.at
  rw [List.getElem?_drop]

lemma at_take (h : k < j) : Slots.at (l.take j) k = Slots.at l k := by
  unfold Slots.at
  rw [List.getElem?_take, if_pos h]

/-- **Filling a slot** keeps the others. -/
lemma at_put (h : k ≤ l.length) :
    Slots.at (put l k a) = Function.update (Slots.at l) k (some a) := by
  funext j
  unfold put
  by_cases hk : k < l.length
  · rw [if_pos hk]
    unfold Slots.at
    rw [List.getElem?_set]
    by_cases hj : k = j
    · subst hj
      simp [hk]
    · rw [if_neg hj, Function.update_of_ne (Ne.symm hj)]
  · rw [if_neg hk]
    obtain rfl : k = l.length := by omega
    by_cases hj : j = l.length
    · subst hj
      simp [Slots.at]
    · rw [Function.update_of_ne hj]
      unfold Slots.at
      by_cases hlt : j < l.length
      · rw [List.getElem?_append_left hlt]
      · have hlen : (l ++ [some a]).length ≤ j := by
          rw [List.length_append, List.length_singleton]
          omega
        rw [List.getElem?_eq_none hlen, List.getElem?_eq_none (by omega)]

lemma length_put (h : k ≤ l.length) : (put l k a).length = max l.length (k + 1) := by
  unfold put
  split_ifs with hk
  · rw [List.length_set]
    omega
  · rw [List.length_append]
    simp
    omega

/-! ## Free slots at the end -/

lemma trimmed_trim : Trimmed (trim l) := by
  intro h
  have hlast : ¬ ((trim l).getLast h).isNone := List.rdropWhile_last_not Option.isNone l h
  rw [Option.isNone_iff_eq_none] at hlast
  exact Option.isSome_iff_ne_none.2 hlast

lemma length_trim_le : (trim l).length ≤ l.length :=
  (List.rdropWhile_prefix Option.isNone l).length_le

lemma at_trim : Slots.at (trim l) = Slots.at l := by
  induction l using List.reverseRecOn with
  | nil => rfl
  | append_singleton l o ih =>
    unfold trim
    rcases o with _ | b
    · rw [List.rdropWhile_concat_pos _ _ _ rfl]
      refine Eq.trans ih ?_
      funext j
      unfold Slots.at
      rcases lt_trichotomy j l.length with hj | rfl | hj
      · rw [List.getElem?_append_left hj]
      · simp
      · rw [List.getElem?_eq_none hj.le, List.getElem?_eq_none (by simp; omega)]
    · rw [List.rdropWhile_concat_neg _ _ _ (by simp)]

/-- A list that ends with a free slot is trimmed as the list before it. -/
lemma trim_take_succ (h : Slots.at l k = none) : trim (l.take (k + 1)) = trim (l.take k) := by
  unfold trim
  rw [List.take_add_one]
  unfold Slots.at at h
  rcases hl : l[k]? with _ | o
  · simp
  · rw [hl] at h
    obtain rfl : o = none := h
    rw [Option.toList_some, List.rdropWhile_concat_pos _ _ _ rfl]

/-- A list that ends with a slot in use is trimmed. -/
lemma trim_take_of_at (h : Slots.at l k = some a) : trim (l.take (k + 1)) = l.take (k + 1) := by
  unfold trim
  rw [List.take_add_one, at_eq_some.1 h, Option.toList_some,
    List.rdropWhile_concat_neg _ _ _ (by simp)]

/-- **Freeing a slot** keeps the others. -/
lemma at_free : Slots.at (free l k) = Function.update (Slots.at l) k none := by
  funext j
  unfold free
  split_ifs with hk
  · rw [at_trim]
    by_cases hj : j = k
    · subst hj
      rw [Function.update_self, at_of_length_le (by rw [List.length_take]; omega)]
    · rw [Function.update_of_ne hj]
      by_cases hlt : j < k
      · rw [at_take hlt]
      · rw [at_of_length_le (by simp; omega), at_of_length_le (by omega)]
  · unfold Slots.at
    rw [List.getElem?_set]
    by_cases hj : k = j
    · subst hj
      by_cases hlt : k < l.length <;> simp [hlt]
    · rw [if_neg hj, Function.update_of_ne (Ne.symm hj)]

lemma trimmed_iff : Trimmed l ↔ l = [] ∨ (Slots.at l (l.length - 1)).isSome := by
  unfold Trimmed
  by_cases h : l = []
  · simp [h]
  · have hlen : l.length - 1 < l.length := by
      have := List.length_pos_iff.2 h
      omega
    simp only [h, ne_eq, not_false_eq_true, forall_true_left, false_or]
    unfold Slots.at
    rw [List.getElem?_eq_getElem hlen, Option.getD_some, List.getLast_eq_getElem]

lemma Trimmed.put (h : Trimmed l) (hk : k ≤ l.length) : Trimmed (put l k a) := by
  rw [trimmed_iff] at h ⊢
  right
  rw [length_put hk, at_put hk]
  by_cases hkl : k + 1 = max l.length (k + 1)
  · rw [← hkl, Nat.add_sub_cancel, Function.update_self]
    rfl
  · rcases h with rfl | h
    · simp at hkl
    · have hmax : max l.length (k + 1) = l.length := by omega
      rw [hmax, Function.update_of_ne (by omega)]
      exact h

lemma Trimmed.free (h : Trimmed l) : Trimmed (free l k) := by
  unfold Slots.free
  split_ifs with hk
  · exact trimmed_trim
  · rw [trimmed_iff] at h ⊢
    rcases h with rfl | h
    · left
      rfl
    · right
      unfold Slots.at at h ⊢
      have hne : k ≠ l.length - 1 := by
        intro hkl
        subst hkl
        have hpos : 0 < l.length := by
          by_contra h0
          rw [List.getElem?_eq_none (by omega)] at h
          cases h
        omega
      rw [List.length_set, List.getElem?_set, if_neg hne]
      exact h

lemma Trimmed.eq_nil_iff (h : Trimmed l) : l = [] ↔ ∀ k, Slots.at l k = none := by
  constructor
  · rintro rfl k
    rfl
  · intro hfree
    rcases trimmed_iff.1 h with rfl | hlast
    · rfl
    · rw [hfree] at hlast
      cases hlast

/-! ## Searching -/

/-- Look for a value, and remember the first free slot on the way. `inv` stands for no slot, `i`
is the index of the first slot of the list. -/
def search (p : α → Bool) (inv : ℕ) : List (Option α) → ℕ → ℕ → Option (ℕ × α) × ℕ
  | [], _, f => (none, f)
  | some a :: l, i, f => if p a then (some (i, a), f) else search p inv l (i + 1) f
  | none :: l, i, f => search p inv l (i + 1) (if f = inv then i else f)

variable {p : α → Bool} {inv i f f' : ℕ}

/-- A search goes on behind a part without the value. -/
lemma search_append (p : α → Bool) (inv i f : ℕ) (l1 l2 : List (Option α)) :
    search p inv (l1 ++ l2) i f =
      if (search p inv l1 i f).1.isSome then search p inv l1 i f
      else search p inv l2 (i + l1.length) (search p inv l1 i f).2 := by
  induction l1 generalizing i f with
  | nil => simp [search]
  | cons o l1 ih =>
    rcases o with _ | b
    · simp only [List.cons_append, search]
      rw [ih, List.length_cons]
      congr 2
      omega
    · simp only [List.cons_append, search]
      by_cases hb : p b
      · simp [hb]
      · simp only [hb, Bool.false_eq_true, if_false]
        rw [ih, List.length_cons]
        congr 2
        omega

/-- **The value found** is the first one. -/
lemma search_found (h : search p inv l i f = (some (j, a), f')) :
    ∃ k, j = i + k ∧ Slots.at l k = some a ∧ p a ∧ ∀ m < k, ∀ b, Slots.at l m = some b → ¬ p b := by
  induction l generalizing i f with
  | nil => simp [search] at h
  | cons o l ih =>
    rcases o with _ | b
    · obtain ⟨k, rfl, hk, ha, hmin⟩ := ih h
      refine ⟨k + 1, by omega, hk, ha, ?_⟩
      intro m hm c hc
      cases m with
      | zero => cases hc
      | succ m => exact hmin m (by omega) c hc
    · unfold search at h
      split_ifs at h with hb
      · simp only [Prod.mk.injEq, Option.some.injEq] at h
        obtain ⟨⟨rfl, rfl⟩, -⟩ := h
        exact ⟨0, rfl, rfl, hb, by simp⟩
      · obtain ⟨k, rfl, hk, ha, hmin⟩ := ih h
        refine ⟨k + 1, by omega, hk, ha, ?_⟩
        intro m hm c hc
        cases m with
        | zero =>
          obtain rfl : b = c := Option.some.inj hc
          exact hb
        | succ m => exact hmin m (by omega) c hc

/-- **Without the value**, the search has passed the first free slot. -/
lemma search_none (h : search p inv l i f = (none, f')) (hinv : i + l.length ≤ inv) :
    (∀ a, some a ∈ l → ¬ p a) ∧
      ((f ≠ inv ∧ f' = f) ∨
        (f = inv ∧ ∃ k < l.length, f' = i + k ∧ l[k]? = some none ∧
          ∀ m < k, (Slots.at l m).isSome) ∨
        (f = inv ∧ f' = inv ∧ ∀ k < l.length, (Slots.at l k).isSome)) := by
  induction l generalizing i f with
  | nil =>
    obtain rfl : f = f' := by simpa [search] using h
    by_cases hf : f = inv
    · simp [hf]
    · simp [hf]
  | cons o l ih =>
    rw [List.length_cons] at hinv
    rcases o with _ | b
    · obtain ⟨hp, hf'⟩ := ih h (by omega)
      refine ⟨fun a ha => hp a (by simpa using ha), ?_⟩
      by_cases hf : f = inv
      · rw [if_pos hf] at hf'
        right; left
        rcases hf' with ⟨-, rfl⟩ | ⟨hi, -⟩ | ⟨hi, -⟩
        · exact ⟨hf, 0, by simp, rfl, rfl, by simp⟩
        · omega
        · omega
      · rw [if_neg hf] at hf'
        left
        rcases hf' with hf' | ⟨hi, -⟩ | ⟨hi, -⟩
        · exact hf'
        · exact absurd hi hf
        · exact absurd hi hf
    · unfold search at h
      have hb : ¬ p b := by
        intro hb
        rw [if_pos hb] at h
        cases h
      rw [if_neg hb] at h
      obtain ⟨hp, hf'⟩ := ih h (by omega)
      refine ⟨?_, ?_⟩
      · intro a ha
        rcases List.mem_cons.1 ha with ha | ha
        · obtain rfl := Option.some.inj ha
          exact hb
        · exact hp a ha
      · rcases hf' with hf' | ⟨hf, k, hk, rfl, hnone, hmin⟩ | ⟨hf, rfl, hall⟩
        · exact Or.inl hf'
        · refine Or.inr (Or.inl ⟨hf, k + 1, by simp; omega, by omega, hnone, ?_⟩)
          intro m hm
          cases m with
          | zero => rfl
          | succ m => exact hmin m (by omega)
        · refine Or.inr (Or.inr ⟨hf, rfl, ?_⟩)
          intro k hk
          cases k with
          | zero => rfl
          | succ k => exact hall k (by simpa using hk)

/-! ## Enumerating -/

/-- The first slot in use: its value, and the index behind it. -/
def next : List (Option α) → ℕ → Option (α × ℕ)
  | [], _ => none
  | some a :: _, i => some (a, i + 1)
  | none :: l, i => next l (i + 1)

lemma next_append (i : ℕ) (l1 l2 : List (Option α)) :
    next (l1 ++ l2) i = (next l1 i).or (next l2 (i + l1.length)) := by
  induction l1 generalizing i with
  | nil => simp [next]
  | cons o l1 ih =>
    rcases o with _ | b
    · simp only [List.cons_append, next, ih, List.length_cons]
      congr 2
      omega
    · simp [next]

/-- **The next slot in use.** -/
lemma next_eq_some {n : ℕ} : next l i = some (a, n) ↔
    ∃ k, n = i + k + 1 ∧ Slots.at l k = some a ∧ ∀ m < k, Slots.at l m = none := by
  induction l generalizing i with
  | nil => simp [next, Slots.at]
  | cons o l ih =>
    rcases o with _ | b
    · unfold next
      rw [ih]
      constructor
      · rintro ⟨k, rfl, hk, hmin⟩
        refine ⟨k + 1, by omega, hk, ?_⟩
        intro m hm
        cases m with
        | zero => rfl
        | succ m => exact hmin m (by omega)
      · rintro ⟨k, rfl, hk, hmin⟩
        cases k with
        | zero => cases hk
        | succ k => exact ⟨k, by omega, hk, fun m hm => hmin (m + 1) (by omega)⟩
    · unfold next
      constructor
      · intro h
        simp only [Option.some.injEq, Prod.mk.injEq] at h
        obtain ⟨rfl, rfl⟩ := h
        exact ⟨0, rfl, rfl, by simp⟩
      · rintro ⟨k, rfl, hk, hmin⟩
        cases k with
        | zero =>
          obtain rfl : b = a := Option.some.inj hk
          rfl
        | succ k =>
          have := hmin 0 (by omega)
          cases this

/-- **No slot is in use any more.** -/
lemma next_eq_none : next l i = none ↔ ∀ k, Slots.at l k = none := by
  induction l generalizing i with
  | nil => simp [next, Slots.at]
  | cons o l ih =>
    rcases o with _ | b
    · unfold next
      rw [ih]
      constructor
      · intro h k
        cases k with
        | zero => rfl
        | succ k => exact h k
      · intro h k
        exact h (k + 1)
    · unfold next
      constructor
      · intro h
        cases h
      · intro h
        have := h 0
        cases this

/-! ## Counting -/

/-- The number of slots in use. -/
def used (l : List (Option α)) : ℕ := l.countP Option.isSome

/-- **The first free slot** is not behind as many slots as are in use. -/
lemma firstFree_le (h : ∀ m < k, (Slots.at l m).isSome) : k ≤ used l := by
  induction k generalizing l with
  | zero => exact Nat.zero_le _
  | succ k ih =>
    cases l with
    | nil =>
      have := h 0 (by omega)
      cases this
    | cons o l =>
      have ho : o.isSome := h 0 (by omega)
      have := ih (l := l) fun m hm => h (m + 1) (by omega)
      unfold used at this ⊢
      rw [List.countP_cons_of_pos ho]
      omega

end Slots
