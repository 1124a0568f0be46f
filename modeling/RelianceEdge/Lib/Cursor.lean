import Mathlib.Data.Finset.Card
import Mathlib.Order.Interval.Finset.Nat

set_option relaxedAutoImplicit false
set_option autoImplicit false
set_option linter.unusedSectionVars false

/-!
# Cursors over changing slots

A cursor is an index into an array of slots that other operations change between its moves. A
move goes to the next slot in use and past it. The elements have keys, and a change never takes a
key to another slot, except by removing the element first.

## Main definitions

* `KeepsPlaces` — a change of the slots that takes no key to another slot.
* `Cursor` — the moves of a cursor between changes.

## Main results

* `Cursor.absent_between` — a key is found again only after it has been absent.
* `Cursor.existsUnique_found` — a key that is present throughout is found exactly once.
* `Cursor.card_found_le` — the number of moves is bounded where the slots are.
-/

namespace RelianceEdge

variable {α κ : Type} (key : α → κ)

/-- No key is in different slots before and after a change. -/
def KeepsPlaces (f g : ℕ → Option α) : Prop :=
  ∀ k k' a a', f k = some a → g k' = some a' → key a = key a' → k = k'

/-- A key is in use. -/
def HasKey (f : ℕ → Option α) (x : κ) : Prop := ∃ k a, f k = some a ∧ key a = x

/-- **A cursor**, over `n` moves and changes: the slots and the position at each moment, and what a
move found. -/
structure Cursor (n : ℕ) where
  slots : ℕ → ℕ → Option α
  pos : ℕ → ℕ
  /-- The element found; a change finds none. -/
  found : ℕ → Option α
  start : pos 0 = 0
  /-- The keys in use differ. -/
  keyed : ∀ i ≤ n, KeepsPlaces key (slots i) (slots i)
  change : ∀ i < n, found i = none →
    KeepsPlaces key (slots i) (slots (i + 1)) ∧ pos (i + 1) = pos i
  move : ∀ i < n, ∀ a, found i = some a → slots (i + 1) = slots i ∧
    ∃ k, pos (i + 1) = k + 1 ∧ pos i ≤ k ∧ slots i k = some a ∧
      ∀ m, pos i ≤ m → m < k → slots i m = none

namespace Cursor

variable {key} {n : ℕ} (c : Cursor key n)

lemma keepsPlaces {i : ℕ} (hi : i < n) : KeepsPlaces key (c.slots i) (c.slots (i + 1)) := by
  rcases hf : c.found i with _ | a
  · exact (c.change i hi hf).1
  · rw [(c.move i hi a hf).1]
    exact c.keyed i (Nat.le_of_lt hi)

lemma pos_le_succ {i : ℕ} (hi : i < n) : c.pos i ≤ c.pos (i + 1) := by
  rcases hf : c.found i with _ | a
  · exact Nat.le_of_eq (c.change i hi hf).2.symm
  · obtain ⟨-, k, hk, hle, -⟩ := c.move i hi a hf
    omega

lemma pos_mono {i : ℕ} : ∀ {j : ℕ}, i ≤ j → j ≤ n → c.pos i ≤ c.pos j := by
  intro j hij
  induction j, hij using Nat.le_induction with
  | base => exact fun _ => Nat.le_refl _
  | succ j hij ih => exact fun hj => (ih (by omega)).trans (c.pos_le_succ hj)

/-- What a move finds lies right behind the position. -/
lemma found_at {i : ℕ} (hi : i < n) {a : α} (hf : c.found i = some a) :
    ∃ k, c.pos (i + 1) = k + 1 ∧ c.pos i ≤ k ∧ c.slots i k = some a := by
  obtain ⟨-, k, hk, hle, ha, -⟩ := c.move i hi a hf
  exact ⟨k, hk, hle, ha⟩

/-- **A key that stays** in use stays in its slot. -/
lemma place_stays {i k : ℕ} {a : α} (ha : c.slots i k = some a) :
    ∀ {j : ℕ}, i ≤ j → j ≤ n → (∀ m, i < m → m ≤ j → HasKey key (c.slots m) (key a)) →
      ∃ b, c.slots j k = some b ∧ key b = key a := by
  intro j hij
  induction j, hij using Nat.le_induction with
  | base => exact fun _ _ => ⟨a, ha, rfl⟩
  | succ j hij ih =>
    intro hj hkey
    obtain ⟨b, hb, hba⟩ := ih (by omega) fun m hm hmj => hkey m hm (by omega)
    obtain ⟨k', b', hb', hba'⟩ := hkey (j + 1) (by omega) (Nat.le_refl _)
    obtain rfl := c.keepsPlaces hj k k' b b' hb hb' (hba.trans hba'.symm)
    exact ⟨b', hb', hba'⟩

/-- **A key is found again** only after it has been absent. -/
theorem absent_between {i j : ℕ} {a b : α} (hij : i < j) (hj : j < n) (ha : c.found i = some a)
    (hb : c.found j = some b) (hab : key a = key b) :
    ∃ m, i < m ∧ m ≤ j ∧ ¬ HasKey key (c.slots m) (key a) := by
  by_contra hnot
  push Not at hnot
  obtain ⟨k, hk, -, hka⟩ := c.found_at (by omega) ha
  obtain ⟨k', hk', hle, hkb⟩ := c.found_at hj hb
  obtain ⟨b', hb', hba'⟩ := c.place_stays hka (Nat.le_of_lt hij) (Nat.le_of_lt hj) hnot
  have hsame : k = k' := c.keyed j (Nat.le_of_lt hj) k k' b' b hb' hkb (hba'.trans hab)
  have hmono : c.pos (i + 1) ≤ c.pos j := c.pos_mono hij (Nat.le_of_lt hj)
  omega

/-- The move on which the position passes a slot. -/
lemma exists_pass {k : ℕ} :
    ∀ {j : ℕ}, j ≤ n → k < c.pos j → ∃ i < j, c.pos i ≤ k ∧ k < c.pos (i + 1) := by
  intro j
  induction j with
  | zero =>
    intro _ hk
    rw [c.start] at hk
    omega
  | succ j ih =>
    intro hj hk
    by_cases hpos : c.pos j ≤ k
    · exact ⟨j, Nat.lt_succ_self j, hpos, hk⟩
    · obtain ⟨i, hi, h⟩ := ih (by omega) (by omega)
      exact ⟨i, by omega, h⟩

/-- **A key that is present throughout** is found exactly once, when the position has passed every
slot in use. -/
theorem existsUnique_found {x : κ} (hx : ∀ i ≤ n, HasKey key (c.slots i) x)
    (hend : ∀ k, c.pos n ≤ k → c.slots n k = none) :
    ∃! i, i < n ∧ ∃ a, c.found i = some a ∧ key a = x := by
  obtain ⟨k, a, ha, rfl⟩ := hx 0 (Nat.zero_le n)
  have hstay (j : ℕ) (hj : j ≤ n) : ∃ b, c.slots j k = some b ∧ key b = key a :=
    c.place_stays ha (Nat.zero_le j) hj fun m _ hm => hx m (by omega)
  have hpast : k < c.pos n := by
    by_contra hle
    obtain ⟨b, hb, -⟩ := hstay n (Nat.le_refl n)
    rw [hend k (by omega)] at hb
    cases hb
  obtain ⟨i, hi, hle, hlt⟩ := c.exists_pass (Nat.le_refl n) hpast
  obtain ⟨b, hb, hba⟩ := hstay i (Nat.le_of_lt hi)
  refine ⟨i, ⟨hi, ?_⟩, ?_⟩
  · rcases hf : c.found i with _ | e
    · have := (c.change i hi hf).2
      omega
    · obtain ⟨-, k', hk', -, he, hnone⟩ := c.move i hi e hf
      have hsame : k = k' := by
        by_contra hne
        rw [hnone k hle (by omega)] at hb
        cases hb
      subst hsame
      rw [hb] at he
      exact ⟨e, rfl, Option.some.inj he ▸ hba⟩
  · rintro j ⟨hj, e, he, hea⟩
    obtain ⟨k', hk', hle', hke⟩ := c.found_at hj he
    obtain ⟨b', hb', hba'⟩ := hstay j (Nat.le_of_lt hj)
    obtain rfl : k = k' := c.keyed j (Nat.le_of_lt hj) k k' b' e hb' hke (hba'.trans hea.symm)
    rcases Nat.lt_trichotomy j i with h | h | h
    · have := c.pos_mono (show j + 1 ≤ i from h) (Nat.le_of_lt hi)
      omega
    · exact h
    · have := c.pos_mono (show i + 1 ≤ j from h) (Nat.le_of_lt hj)
      omega

/-- **The number of moves** from a moment on is bounded by the slots in use from there on. -/
theorem card_found_le {m B : ℕ} (hm : m ≤ n)
    (hB : ∀ i, m ≤ i → i < n → ∀ k, B ≤ k → c.slots i k = none) :
    ((Finset.Ico m n).filter fun i => (c.found i).isSome).card ≤ B - c.pos m := by
  have hrun (j : ℕ) (hmj : m ≤ j) (hj : j ≤ n) :
      ((Finset.Ico m j).filter fun i => (c.found i).isSome).card = 0 ∨
      ((Finset.Ico m j).filter fun i => (c.found i).isSome).card + c.pos m ≤ c.pos j ∧
        c.pos j ≤ B := by
    induction j, hmj using Nat.le_induction with
    | base => exact Or.inl (by simp)
    | succ j hmj ih =>
      have hprev := ih (by omega)
      have hmono := c.pos_mono hmj (show j ≤ n by omega)
      rw [Nat.Ico_succ_right_eq_insert_Ico hmj, Finset.filter_insert]
      rcases hf : c.found j with _ | a
      · rw [if_neg (by simp), (c.change j hj hf).2]
        exact hprev
      · obtain ⟨k, hk, hle, ha⟩ := c.found_at hj hf
        have hlt : k < B := by
          by_contra hge
          rw [hB j hmj hj k (by omega)] at ha
          cases ha
        rw [if_pos (by simp), Finset.card_insert_of_notMem (by simp), hk]
        right
        rcases hprev with h | h <;> omega
  rcases hrun n hm (Nat.le_refl n) with h | h <;> omega

end Cursor

end RelianceEdge
