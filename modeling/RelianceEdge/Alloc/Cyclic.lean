import RelianceEdge.Alloc.Search
import RelianceEdge.Alloc.Machine

set_option relaxedAutoImplicit false
set_option autoImplicit false

/-!
# The search in cyclic order

A search for a free position should give the first one in cyclic order, or report that there is
none. It does, unless a full byte is skipped that has the start in its middle: then the search is
never back where it began.

## Main definitions

* `Bitmaps.found` — what a search from a position should give.
* `Bitmaps.PassesOver` — the search passes over its start, again and again.
* `Bitmaps.Counted` — the counts are the sizes of the sets.

## Main results

* `Bitmaps.search_found_iff` — a search gives what it should exactly if it does not pass over its
  start.
* `Bitmaps.Counted.call` — every call keeps the counts right.
-/

namespace RelianceEdge

namespace Bitmaps

/-- The positions in the order of a search: from the start to the end, then from the first one. -/
def cyclic (a : Bitmaps) (start : ℕ) : List ℕ :=
  List.range' start (a.count - start) ++ List.range' a.first (start - a.first)

/-- The first free position in cyclic order. -/
def firstFree (a : Bitmaps) (start : ℕ) : Option ℕ := (a.cyclic start).find? a.isFree

/-- **What a search should give.** -/
def found (a : Bitmaps) (start : ℕ) : Except RedError ℕ :=
  (a.firstFree start).elim (.error .ENOSPC) .ok

/-- **The search passes over its start**: no position is free, and the byte that has the start in
its middle is full. -/
def PassesOver (a : Bitmaps) (start : ℕ) : Prop :=
  (∀ p, a.first ≤ p → p < a.count → a.isFree p = false) ∧ start % 8 ≠ 0 ∧
    a.first ≤ start / 8 * 8 ∧ byteIsFull a.working (start / 8 * 8) = true

section

variable {a : Bitmaps} {start p q n : ℕ}

/-! ## What a search should give -/

lemma found_ahead (hq : start ≤ q) (hq' : q < a.count) (hf : a.isFree q = true)
    (hno : ∀ x, start ≤ x → x < q → a.isFree x = false) : a.found start = .ok q := by
  have h : (List.range' start (a.count - start)).find? a.isFree = some q := by
    rw [List.find?_range'_eq_some]
    refine ⟨hf, ?_, fun j h1 h2 => by simp [hno j h1 h2]⟩
    rw [List.mem_range'_1]
    omega
  unfold found firstFree cyclic
  rw [List.find?_append, h]
  rfl

lemma found_behind (hq : a.first ≤ q) (hq' : q < start) (hf : a.isFree q = true)
    (hno : ∀ x, start ≤ x → x < a.count → a.isFree x = false)
    (hno' : ∀ x, a.first ≤ x → x < q → a.isFree x = false) : a.found start = .ok q := by
  have h : (List.range' start (a.count - start)).find? a.isFree = none := by
    rw [List.find?_range'_eq_none]
    exact fun i h1 h2 => by simp [hno i h1 (by omega)]
  have h' : (List.range' a.first (start - a.first)).find? a.isFree = some q := by
    rw [List.find?_range'_eq_some]
    refine ⟨hf, ?_, fun j h1 h2 => by simp [hno' j h1 h2]⟩
    rw [List.mem_range'_1]
    omega
  unfold found firstFree cyclic
  rw [List.find?_append, h, h']
  rfl

lemma found_none (hstart : start < a.count)
    (hno : ∀ x, a.first ≤ x → x < a.count → a.isFree x = false) (h1 : a.first ≤ start) :
    a.found start = .error .ENOSPC := by
  have h : (a.cyclic start).find? a.isFree = none := by
    rw [List.find?_eq_none]
    intro x hx
    rcases List.mem_append.1 hx with hx | hx
    · rw [List.mem_range'_1] at hx
      simp [hno x (by omega) (by omega)]
    · rw [List.mem_range'_1] at hx
      simp [hno x (by omega) (by omega)]
  unfold found firstFree
  rw [h]
  rfl

/-- A search gives nothing only if nothing is free. -/
lemma found_error_iff (h1 : a.first ≤ start) (h2 : start < a.count) :
    a.found start = .error .ENOSPC ↔ ∀ x, a.first ≤ x → x < a.count → a.isFree x = false := by
  refine ⟨fun h x hx hx' => ?_, fun h => found_none h2 h h1⟩
  unfold found firstFree at h
  rcases hf : (a.cyclic start).find? a.isFree with _ | q
  · rw [List.find?_eq_none] at hf
    have hmem : x ∈ a.cyclic start := by
      rw [cyclic, List.mem_append, List.mem_range'_1, List.mem_range'_1]
      omega
    simpa using hf x hmem
  · rw [hf] at h
    cases h

/-! ## One pass -/

/-- A position that is skipped in a full byte is not free. -/
lemma not_free_of_full (hfull : byteIsFull a.working p = true) (hq : p ≤ q) (hq' : q < p + 8) :
    a.isFree q = false := by
  have := (byteIsFull_iff.1 hfull).2 (q - p) (by omega)
  rw [Nat.add_sub_cancel' hq] at this
  exact isFree_of_working this

/-- One step of a search: the next position, or the first one after the last, with nothing free in
between. -/
lemma after_spec (hp : p < a.count) (hf : a.isFree p = false) : ∃ e, p < e ∧ e ≤ a.count ∧
    a.after p = a.wrap e ∧ (∀ x, p ≤ x → x < e → a.isFree x = false) ∧
    (e = p + 1 ∧ byteIsFull a.working p = false ∨
      p % 8 = 0 ∧ e = p + min 8 (a.count - p) ∧ byteIsFull a.working p = true) := by
  unfold after
  rcases hfull : byteIsFull a.working p with _ | _
  · refine ⟨p + 1, by omega, by omega, by simp, fun x h1 h2 => ?_, .inl ⟨rfl, rfl⟩⟩
    rwa [show x = p by omega]
  · refine ⟨p + min 8 (a.count - p), by omega, by omega, by simp, fun x h1 h2 => ?_,
      .inr ⟨(byteIsFull_iff.1 hfull).1, rfl, rfl⟩⟩
    exact not_free_of_full hfull h1 (by omega)

lemma wrap_of_lt {e : ℕ} (h : e < a.count) : a.wrap e = e := if_neg (by omega)

lemma wrap_count : a.wrap a.count = a.first := if_pos rfl

/-- **The first pass**: from the start to the end. -/
lemma search_ahead (start : ℕ) : ∀ m p, p < a.count → a.count - p ≤ m → start ≤ p →
    (∃ q, p ≤ q ∧ q < a.count ∧ a.isFree q = true ∧ (∀ x, p ≤ x → x < q → a.isFree x = false) ∧
      ∀ n, a.count - p ≤ n → a.search start n p = .ok q) ∨
    ((∀ x, p ≤ x → x < a.count → a.isFree x = false) ∧ ∃ k, 0 < k ∧ k ≤ a.count - p ∧ ∀ n,
      a.search start (n + k) p =
        if a.first = start then .error .ENOSPC else a.search start n a.first)
  | 0, p, hp, hm, _ => by omega
  | m + 1, p, hp, hm, hs => by
    rcases hfree : a.isFree p with _ | _
    swap
    · refine .inl ⟨p, le_rfl, hp, hfree, fun x h1 h2 => by omega, fun n hn => ?_⟩
      obtain ⟨n, rfl⟩ := Nat.exists_eq_succ_of_ne_zero (show n ≠ 0 by omega)
      exact search_free hfree
    obtain ⟨e, he, hle, hafter, hno, -⟩ := after_spec hp hfree
    by_cases hend : e = a.count
    · -- The end is reached.
      rw [hend, wrap_count] at hafter
      refine .inr ⟨fun x h1 h2 => hno x h1 (by omega), 1, Nat.one_pos, by omega, fun n => ?_⟩
      split_ifs with hstart
      · exact search_end hfree (hafter.trans hstart)
      · rw [search_next hfree (by rw [hafter]; exact hstart), hafter]
    · rw [wrap_of_lt (by omega)] at hafter
      have hstep : ∀ n, a.search start (n + 1) p = a.search start n e := fun n => by
        rw [search_next hfree (by rw [hafter]; omega), hafter]
      rcases search_ahead start m e (by omega) (by omega) (by omega) with
        ⟨q, h1, h2, h3, h4, h5⟩ | ⟨h1, k, hk, hk', h2⟩
      · refine .inl ⟨q, by omega, h2, h3, fun x hx hx' => ?_, fun n hn => ?_⟩
        · by_cases hxe : x < e
          · exact hno x hx hxe
          · exact h4 x (by omega) hx'
        · obtain ⟨n, rfl⟩ := Nat.exists_eq_succ_of_ne_zero (show n ≠ 0 by omega)
          rw [Nat.succ_eq_add_one, hstep]
          exact h5 n (by omega)
      · refine .inr ⟨fun x hx hx' => ?_, k + 1, by omega, by omega, fun n => ?_⟩
        · by_cases hxe : x < e
          · exact hno x hx hxe
          · exact h1 x (by omega) hx'
        · rw [← Nat.add_assoc, hstep]
          exact h2 n

/-- Whether a search that comes to `p` skips the start. -/
def Skips (a : Bitmaps) (start p : ℕ) : Prop :=
  start % 8 ≠ 0 ∧ p ≤ start / 8 * 8 ∧ byteIsFull a.working (start / 8 * 8) = true

/-- **The second pass**: from the first position to the start. -/
lemma search_behind (hstart : start < a.count) : ∀ m p, p < start → start - p ≤ m →
    (∃ q, p ≤ q ∧ q < start ∧ a.isFree q = true ∧ (∀ x, p ≤ x → x < q → a.isFree x = false) ∧
      ∀ n, start - p ≤ n → a.search start n p = .ok q) ∨
    ((∀ x, p ≤ x → x < start → a.isFree x = false) ∧ (¬ a.Skips start p →
      ∀ n, start - p ≤ n → a.search start n p = .error .ENOSPC))
  | 0, p, hp, hm => by omega
  | m + 1, p, hp, hm => by
    rcases hfree : a.isFree p with _ | _
    swap
    · refine .inl ⟨p, le_rfl, hp, hfree, fun x h1 h2 => by omega, fun n hn => ?_⟩
      obtain ⟨n, rfl⟩ := Nat.exists_eq_succ_of_ne_zero (show n ≠ 0 by omega)
      exact search_free hfree
    obtain ⟨e, he, hle, hafter, hno, hcase⟩ := after_spec (by omega) hfree
    by_cases hover : start < e
    · -- The byte of `p` is skipped, and the start with it.
      refine .inr ⟨fun x h1 h2 => hno x h1 (by omega), fun hskip => absurd ?_ hskip⟩
      rcases hcase with ⟨h1, -⟩ | ⟨h8, h1, hfull⟩
      · omega
      · have hbyte : start / 8 * 8 = p := by omega
        exact ⟨by omega, hbyte.ge, by rw [hbyte]; exact hfull⟩
    rw [wrap_of_lt (by omega)] at hafter
    rcases Nat.lt_or_ge e start with hlt | hge
    · have hstep : ∀ n, a.search start (n + 1) p = a.search start n e := fun n => by
        rw [search_next hfree (by rw [hafter]; omega), hafter]
      rcases search_behind hstart m e hlt (by omega) with
        ⟨q, h1, h2, h3, h4, h5⟩ | ⟨h1, h2⟩
      · refine .inl ⟨q, by omega, h2, h3, fun x hx hx' => ?_, fun n hn => ?_⟩
        · by_cases hxe : x < e
          · exact hno x hx hxe
          · exact h4 x (by omega) hx'
        · obtain ⟨n, rfl⟩ := Nat.exists_eq_succ_of_ne_zero (show n ≠ 0 by omega)
          rw [Nat.succ_eq_add_one, hstep]
          exact h5 n (by omega)
      · refine .inr ⟨fun x hx hx' => ?_, fun hskip n hn => ?_⟩
        · by_cases hxe : x < e
          · exact hno x hx hxe
          · exact h1 x (by omega) hx'
        · obtain ⟨n, rfl⟩ := Nat.exists_eq_succ_of_ne_zero (show n ≠ 0 by omega)
          rw [Nat.succ_eq_add_one, hstep]
          exact h2 (fun h => hskip ⟨h.1, by have := h.2.1; omega, h.2.2⟩) n (by omega)
    · obtain rfl : e = start := by omega
      refine .inr ⟨hno, fun _ n hn => ?_⟩
      obtain ⟨n, rfl⟩ := Nat.exists_eq_succ_of_ne_zero (show n ≠ 0 by omega)
      exact search_end hfree hafter

/-! ## Both passes -/

/-- Unless it passes over its start, a search gives what it should within two passes. -/
lemma search_found (h1 : a.first ≤ start) (h2 : start < a.count) (h : ¬ a.PassesOver start) :
    a.search start (2 * a.count) start = a.found start := by
  rcases search_ahead start (a.count - start) start h2 le_rfl le_rfl with
    ⟨q, hq, hq', hf, hno, hrun⟩ | ⟨hno, k, -, hk, hrun⟩
  · rw [hrun _ (by omega), found_ahead hq hq' hf hno]
  · obtain ⟨n, hn⟩ := Nat.exists_eq_add_of_le' (show k ≤ 2 * a.count by omega)
    rw [hn, hrun]
    split_ifs with hfirst
    · exact (found_none h2 (fun x hx => hno x (by omega)) h1).symm
    rcases search_behind h2 (start - a.first) a.first (by omega) le_rfl with
      ⟨q, hq, hq', hf, hno', hrun'⟩ | ⟨hno', hrun'⟩
    · rw [hrun' n (by omega), found_behind hq hq' hf hno hno']
    · have hall : ∀ x, a.first ≤ x → x < a.count → a.isFree x = false := fun x hx hx' => by
        by_cases hxs : x < start
        · exact hno' x hx hxs
        · exact hno x (by omega) hx'
      rw [found_none h2 hall h1]
      exact hrun' (fun hskip => h ⟨hall, hskip⟩) n (by omega)

/-- A search that passes over its start never ends. -/
lemma search_never (h : a.PassesOver start) (h2 : start < a.count) : ∀ n p, a.first ≤ p →
    p < a.count → (p ≤ start / 8 * 8 ∨ start ≤ p) → a.search start n p = .error .outOfFuel
  | 0, p, _, _, _ => rfl
  | n + 1, p, hp, hlt, hpos => by
    obtain ⟨hno, h8, hfirst, hfull⟩ := h
    have hfree := hno p hp hlt
    obtain ⟨e, he, hle, hafter, -, hcase⟩ := after_spec hlt hfree
    have hnext : a.after p ≠ start ∧ a.first ≤ a.after p ∧ a.after p < a.count ∧
        (a.after p ≤ start / 8 * 8 ∨ start ≤ a.after p) := by
      by_cases hend : e = a.count
      · rw [hafter, hend, wrap_count]
        omega
      · rw [hafter, wrap_of_lt (by omega)]
        rcases hcase with ⟨h1, hpart⟩ | ⟨h1, h3, -⟩
        · have : p ≠ start / 8 * 8 := fun hp => by
            rw [hp, hfull] at hpart
            cases hpart
          omega
        · omega
    rw [search_next hfree hnext.1]
    exact search_never ⟨hno, h8, hfirst, hfull⟩ h2 n _ hnext.2.1 hnext.2.2.1 hnext.2.2.2

/-- **The search in cyclic order**: it gives what it should exactly if it does not pass over its
start; if it does, it never ends. -/
theorem search_found_iff (h1 : a.first ≤ start) (h2 : start < a.count) :
    a.search start (2 * a.count) start = a.found start ↔ ¬ a.PassesOver start := by
  refine ⟨fun h hpass => ?_, search_found h1 h2⟩
  rw [search_never hpass h2 _ _ h1 h2 (.inr le_rfl), found_none h2 hpass.1 h1] at h
  cases h

/-- What a search should give is free and can be allocated. -/
lemma found_ok (h1 : a.first ≤ start) (h2 : start < a.count) (h : a.found start = .ok q) :
    a.isFree q = true ∧ a.first ≤ q ∧ q < a.count := by
  unfold found firstFree at h
  rcases hf : (a.cyclic start).find? a.isFree with _ | x
  · rw [hf] at h
    cases h
  · rw [hf] at h
    cases h
    refine ⟨List.find?_some hf, ?_⟩
    have hmem := List.mem_of_find?_eq_some hf
    rw [cyclic, List.mem_append, List.mem_range'_1, List.mem_range'_1] at hmem
    omega

end

/-! ## The counts -/

/-- The positions that can be allocated. -/
def allocables (a : Bitmaps) : Finset ℕ := Finset.Ico a.first a.count

/-- **The counts are the sizes of the sets**, and the searches start in range. -/
structure Counted (a : Bitmaps) : Prop where
  small : a.count ≤ UINT32_MAX
  free : a.free = (a.allocables.filter fun p => a.isFree p = true).card
  almost : a.almost =
    (a.allocables.filter fun p => a.working p = false ∧ a.committed p = true).card
  freeCommitted : a.freeCommitted = (a.allocables.filter fun p => a.committed p = false).card
  next : a.first < a.count → a.first ≤ a.next ∧ a.next < a.count
  nextCommitted : a.first < a.count → a.first ≤ a.nextCommitted ∧ a.nextCommitted < a.count

section

variable {a : Bitmaps} {p q : ℕ}

lemma card_filter_insert {S : Finset ℕ} {P Q : ℕ → Prop} [DecidablePred P] [DecidablePred Q]
    (hp : p ∈ S) (hP : ¬ P p) (h : ∀ x ∈ S, Q x ↔ P x ∨ x = p) :
    (S.filter Q).card = (S.filter P).card + 1 := by
  have hset : S.filter Q = insert p (S.filter P) := by
    ext x
    rw [Finset.mem_insert, Finset.mem_filter, Finset.mem_filter]
    constructor
    · rintro ⟨hx, hQ⟩
      exact ((h x hx).1 hQ).symm.imp id fun hP => ⟨hx, hP⟩
    · rintro (rfl | ⟨hx, hP⟩)
      · exact ⟨hp, (h x hp).2 (.inr rfl)⟩
      · exact ⟨hx, (h x hx).2 (.inl hP)⟩
  rw [hset, Finset.card_insert_of_notMem fun hm => hP (Finset.mem_filter.1 hm).2]

lemma mem_allocables : p ∈ a.allocables ↔ a.first ≤ p ∧ p < a.count := Finset.mem_Ico

lemma isFree_iff : a.isFree p = true ↔ a.working p = false ∧ a.committed p = false := by
  simp [isFree]

lemma Counted.card_le (h : a.Counted) (P : ℕ → Prop) [DecidablePred P] :
    (a.allocables.filter P).card ≤ UINT32_MAX := by
  have h1 : (a.allocables.filter P).card ≤ a.allocables.card := Finset.card_filter_le _ _
  rw [allocables, Nat.card_Ico] at h1
  have := h.small
  unfold allocables
  omega

/-- Something is free when the count says so. -/
lemma Counted.exists_free (h : a.Counted) (hf : a.free ≠ 0) :
    ∃ p, a.first ≤ p ∧ p < a.count ∧ a.isFree p = true := by
  rw [h.free, ← Nat.pos_iff_ne_zero, Finset.card_pos] at hf
  obtain ⟨p, hp⟩ := hf
  rw [Finset.mem_filter, mem_allocables] at hp
  exact ⟨p, hp.1.1, hp.1.2, hp.2⟩

/-! ## Changing a bit -/

/-- Changing the bit of a slot of an inode does not concern the counts. -/
lemma Counted.setBit_slot (h : a.Counted) (hp : p < a.first) (f : Bool) :
    (a.setBit p f).Counted := by
  have hne : ∀ x ∈ a.allocables, Function.update a.working p f x = a.working x := fun x hx =>
    Function.update_of_ne (by have := mem_allocables.1 hx; omega) _ _
  have hset : a.setBit p f =
      { a with working := Function.update a.working p f, branched := true } := by
    unfold setBit adjust
    rw [if_neg (by dsimp only; omega)]
  rw [hset]
  refine ⟨h.small, h.free.trans ?_, h.almost.trans ?_, h.freeCommitted, h.next, h.nextCommitted⟩
  · refine congrArg Finset.card (Finset.filter_congr fun x hx => ?_)
    rw [isFree_iff, isFree_iff]
    simp only [hne x hx]
  · refine congrArg Finset.card (Finset.filter_congr fun x hx => ?_)
    simp only [hne x hx]

/-- Taking a free position. -/
lemma Counted.setBit_take (h : a.Counted) (hp : a.first ≤ p) (hp' : p < a.count)
    (hf : a.isFree p = true) : (a.setBit p true).Counted := by
  have hmem := mem_allocables.2 ⟨hp, hp'⟩
  have hset : a.setBit p true = { a with
      working := Function.update a.working p true, branched := true,
      free := u32 (a.free - 1) } := by
    unfold setBit adjust
    rw [if_pos hp, if_pos rfl]
  have hw := isFree_iff.1 hf
  have hcard : (a.allocables.filter fun x => a.isFree x = true).card = (a.allocables.filter fun x =>
      Function.update a.working p true x = false ∧ a.committed x = false).card + 1 := by
    refine card_filter_insert hmem (by simp) fun x hx => ?_
    rw [isFree_iff]
    by_cases hxp : x = p
    · subst hxp
      simp [hw]
    · simp [hxp]
  have hle := h.card_le fun x => a.isFree x = true
  rw [hset]
  refine ⟨h.small, ?_, h.almost.trans ?_, h.freeCommitted, h.next, h.nextCommitted⟩
  · change u32 (a.free - 1) = _
    rw [h.free, u32_of_le (by omega), hcard, Nat.add_sub_cancel]
    refine congrArg Finset.card (Finset.filter_congr fun x hx => ?_)
    rw [isFree_iff]
  · refine congrArg Finset.card (Finset.filter_congr fun x hx => ?_)
    by_cases hxp : x = p
    · subst hxp
      simp [hw]
    · simp only [Function.update_of_ne hxp]

/-- Giving a position back. -/
lemma Counted.setBit_free (h : a.Counted) (hp : a.first ≤ p) (hp' : p < a.count)
    (hw : a.working p = true) : (a.setBit p false).Counted := by
  have hmem := mem_allocables.2 ⟨hp, hp'⟩
  have hother : ∀ x, x ≠ p → Function.update a.working p false x = a.working x := fun x hx =>
    Function.update_of_ne hx _ _
  rcases hc : a.committed p with _ | _
  · have hset : a.setBit p false = { a with
        working := Function.update a.working p false, branched := true,
        free := u32 (a.free + 1) } := by
      unfold setBit adjust
      rw [if_pos hp, if_neg (by simp), if_neg (by simp [hc])]
    have hcard : (a.allocables.filter fun x =>
        Function.update a.working p false x = false ∧ a.committed x = false).card =
        (a.allocables.filter fun x => a.isFree x = true).card + 1 := by
      refine card_filter_insert hmem (by simp [isFree, hw]) fun x hx => ?_
      rw [isFree_iff]
      by_cases hxp : x = p
      · subst hxp
        simp [hc]
      · simp [hxp]
    have hle := h.card_le fun x =>
      Function.update a.working p false x = false ∧ a.committed x = false
    rw [hset]
    refine ⟨h.small, ?_, h.almost.trans ?_, h.freeCommitted, h.next, h.nextCommitted⟩
    · change u32 (a.free + 1) = _
      rw [h.free, ← hcard, u32_of_le hle]
      refine congrArg Finset.card (Finset.filter_congr fun x hx => ?_)
      rw [isFree_iff]
    · refine congrArg Finset.card (Finset.filter_congr fun x hx => ?_)
      by_cases hxp : x = p
      · subst hxp
        simp [hc]
      · simp only [hother x hxp]
  · have hset : a.setBit p false = { a with
        working := Function.update a.working p false, branched := true,
        almost := u32 (a.almost + 1) } := by
      unfold setBit adjust
      rw [if_pos hp, if_neg (by simp), if_pos hc]
    have hcard : (a.allocables.filter fun x =>
        Function.update a.working p false x = false ∧ a.committed x = true).card =
        (a.allocables.filter fun x => a.working x = false ∧ a.committed x = true).card + 1 := by
      refine card_filter_insert hmem (by simp [hw]) fun x hx => ?_
      by_cases hxp : x = p
      · subst hxp
        simp [hc]
      · simp [hxp]
    have hle := h.card_le fun x =>
      Function.update a.working p false x = false ∧ a.committed x = true
    rw [hset]
    refine ⟨h.small, h.free.trans ?_, ?_, h.freeCommitted, h.next, h.nextCommitted⟩
    · refine congrArg Finset.card (Finset.filter_congr fun x hx => ?_)
      rw [isFree_iff, isFree_iff]
      by_cases hxp : x = p
      · subst hxp
        simp [hc]
      · simp only [hother x hxp]
    · change u32 (a.almost + 1) = _
      rw [h.almost, ← hcard, u32_of_le hle]
      rfl

/-! ## Calls -/

lemma Counted.noted (h : a.Counted) : Counted { a with branched := true } :=
  ⟨h.small, h.free, h.almost, h.freeCommitted, h.next, h.nextCommitted⟩

/-- Setting a bit, where only the slots of inodes are set to allocated this way. -/
lemma Counted.set (h : a.Counted) (x : ℤ) (f : Bool) (hx : f = true → x < a.first) :
    (bitSet x f a).2.Counted := by
  unfold bitSet
  rw [Op.get_bind_run]
  split_ifs with h1 h2 h3
  · exact h
  · exact h
  · exact h.noted
  · change (a.setBit x.toNat f).Counted
    simp only [has, Bool.not_eq_true', Bool.and_eq_false_iff, decide_eq_false_iff_not, not_or,
      not_not] at h1
    by_cases hp : x.toNat < a.first
    · exact h.setBit_slot hp f
    · have hf : f = false := by
        by_contra hf
        have := hx (by simpa using hf)
        omega
      subst hf
      exact h.setBit_free (by omega) (by omega) (by simpa using h3)

/-- **Allocating succeeds** when the count is not zero. -/
lemma Counted.alloc_run (h : a.Counted) (hf : a.free ≠ 0) : ∃ q, a.first ≤ q ∧ q < a.count ∧
    a.isFree q = true ∧ bitAlloc a = (.ok q, setBit { a with next := a.wrap (q + 1) } q true) := by
  obtain ⟨p, hp, hp', hfree⟩ := h.exists_free hf
  obtain ⟨h1, h2⟩ := h.next (by omega)
  have hfound : ∃ q, a.found a.next = .ok q := by
    rcases hq : a.found a.next with e | q
    · have hno : a.found a.next = .error .ENOSPC := by
        unfold found at hq ⊢
        rcases hx : a.firstFree a.next with _ | x
        · rfl
        · rw [hx] at hq
          cases hq
      have := (found_error_iff h1 h2).1 hno p hp hp'
      rw [hfree] at this
      cases this
    · exact ⟨q, rfl⟩
  obtain ⟨q, hq⟩ := hfound
  obtain ⟨hqf, hq1, hq2⟩ := found_ok h1 h2 hq
  have hsearch : a.findFree = .ok q := by
    unfold findFree
    rw [if_pos ⟨h1, h2⟩, search_found h1 h2 fun hpass => ?_, hq]
    have := hpass.1 p hp hp'
    rw [hfree] at this
    cases this
  have hset : bitSet q true { a with next := a.wrap (q + 1) } =
      (.ok (), setBit { a with next := a.wrap (q + 1) } q true) := by
    unfold bitSet
    rw [Op.get_bind_run, if_neg (by simp [has, hq2]), if_neg (by simp [forbids, hf]),
      if_neg (by simp [(isFree_iff.1 hqf).1])]
    rfl
  refine ⟨q, hq1, hq2, hqf, ?_⟩
  unfold bitAlloc
  rw [Op.get_bind_run, if_neg hf, hsearch]
  simp only [Op.modify_bind_run]
  exact Op.bind_ok hset

lemma Counted.wrap_next (h : a.Counted) (hq : p < a.count) (hq' : a.first ≤ p) :
    Counted { a with next := a.wrap (p + 1) } := by
  refine ⟨h.small, h.free, h.almost, h.freeCommitted, fun hlt => ?_, h.nextCommitted⟩
  simp only [wrap]
  split_ifs <;> omega

lemma Counted.alloc (h : a.Counted) :
    (bitAlloc a).2.Counted ∧ hangs (bitAlloc a).1 = false ∧ (bitAlloc a).2.first = a.first := by
  by_cases hf : a.free = 0
  · have : bitAlloc a = (.error .ENOSPC, a) := by
      unfold bitAlloc
      rw [Op.get_bind_run, if_pos hf]
      rfl
    rw [this]
    exact ⟨h, rfl, rfl⟩
  · obtain ⟨q, h1, h2, h3, hrun⟩ := h.alloc_run hf
    rw [hrun]
    refine ⟨(h.wrap_next h2 h1).setBit_take h1 h2 h3, rfl, ?_⟩
    unfold setBit adjust
    split_ifs <;> rfl

lemma Counted.get_snd (bMR : Bool) (x : ℤ) :
    hangs (bitGet bMR x a).1 = false ∧ (bitGet bMR x a).2 = a := by
  refine ⟨?_, bitGet_snd a bMR x⟩
  unfold bitGet
  rw [Op.get_bind_run]
  split_ifs <;> rfl

lemma bitSet_fst (x : ℤ) (f : Bool) :
    hangs (bitSet x f a).1 = false ∧ (bitSet x f a).2.first = a.first := by
  unfold bitSet
  rw [Op.get_bind_run]
  split_ifs
  · exact ⟨rfl, rfl⟩
  · exact ⟨rfl, rfl⟩
  · exact ⟨rfl, rfl⟩
  · refine ⟨rfl, ?_⟩
    change (a.setBit x.toNat f).first = a.first
    unfold setBit adjust
    split_ifs <;> rfl

/-- A transaction point makes free what was almost free. -/
lemma Counted.commit (h : a.Counted) : a.commit.Counted := by
  have hsum : a.free + a.almost = (a.allocables.filter fun p => a.working p = false).card := by
    rw [h.free, h.almost, ← Finset.card_filter_add_card_filter_not
      (s := a.allocables.filter fun p => a.working p = false) fun p => a.committed p = false,
      Finset.filter_filter, Finset.filter_filter]
    congr 1
    · refine congrArg Finset.card (Finset.filter_congr fun x _ => ?_)
      exact isFree_iff
    · refine congrArg Finset.card (Finset.filter_congr fun x _ => ?_)
      simp
  have hle := h.card_le fun p => a.working p = false
  have hfree : u32 (a.free + a.almost) =
      (a.allocables.filter fun p => a.working p = false).card := by
    rw [hsum, u32_of_le hle]
  refine ⟨h.small, hfree.trans ?_, ?_, hfree, h.next, h.next⟩
  · refine congrArg Finset.card (Finset.filter_congr fun x _ => ?_)
    rw [isFree_iff]
    exact (and_self_iff).symm
  · refine (Finset.card_eq_zero.2 (Finset.filter_eq_empty_iff.2 fun x _ hx => ?_)).symm
    have h1 : a.working x = false := hx.1
    have h2 : a.working x = true := hx.2
    rw [h1] at h2
    cases h2

lemma Counted.revert (h : a.Counted) : a.revert.Counted := by
  refine ⟨h.small, h.freeCommitted.trans ?_, ?_, h.freeCommitted, h.nextCommitted, h.nextCommitted⟩
  · refine congrArg Finset.card (Finset.filter_congr fun x _ => ?_)
    rw [isFree_iff]
    exact (and_self_iff).symm
  · refine (Finset.card_eq_zero.2 (Finset.filter_eq_empty_iff.2 fun x _ hx => ?_)).symm
    have h1 : a.committed x = false := hx.1
    have h2 : a.committed x = true := hx.2
    rw [h1] at h2
    cases h2

end

end Bitmaps

/-- **The calls that the file system makes**: blocks are taken with `RedImapAllocBlock()` only, and
nothing but the slots of inodes is set to allocated directly. -/
def ImapCall.Fair (first : ℕ) : ImapCall → Prop
  | set p fAllocated => fAllocated = true → p < first
  | _ => True

section

variable {a : Bitmaps}

/-- **Every call keeps the counts right**, and returns. -/
theorem Bitmaps.Counted.call (h : a.Counted) (c : ImapCall) (hc : c.Fair a.first) :
    (c.onBits a).2.Counted ∧ hangs (c.onBits a).1 = false ∧ (c.onBits a).2.first = a.first := by
  cases c with
  | get bMR p =>
    obtain ⟨h1, h2⟩ := Bitmaps.Counted.get_snd (a := a) bMR p
    change ((bitGet bMR p >>= fun f => pure (ImapResult.bit f)) a).2.Counted ∧
      hangs ((bitGet bMR p >>= fun f => pure (ImapResult.bit f)) a).1 = false ∧
      ((bitGet bMR p >>= fun f => pure (ImapResult.bit f)) a).2.first = a.first
    rw [Op.bind_pure_run, hangs_map, h2]
    exact ⟨h, h1, rfl⟩
  | set p f =>
    obtain ⟨h1, h2⟩ := Bitmaps.bitSet_fst (a := a) p f
    change ((bitSet p f >>= fun _ => pure ImapResult.done) a).2.Counted ∧
      hangs ((bitSet p f >>= fun _ => pure ImapResult.done) a).1 = false ∧
      ((bitSet p f >>= fun _ => pure ImapResult.done) a).2.first = a.first
    rw [Op.bind_pure_run, hangs_map]
    exact ⟨h.set p f hc, h1, h2⟩
  | alloc =>
    change ((bitAlloc >>= fun p => pure (ImapResult.block p)) a).2.Counted ∧
      hangs ((bitAlloc >>= fun p => pure (ImapResult.block p)) a).1 = false ∧
      ((bitAlloc >>= fun p => pure (ImapResult.block p)) a).2.first = a.first
    rw [Op.bind_pure_run, hangs_map]
    exact h.alloc
  | state p =>
    have h1 : hangs (bitState p a).1 = false := by
      unfold bitState
      rw [Op.get_bind_run]
      split_ifs <;> rfl
    change ((bitState p >>= fun st => pure (ImapResult.state st)) a).2.Counted ∧
      hangs ((bitState p >>= fun st => pure (ImapResult.state st)) a).1 = false ∧
      ((bitState p >>= fun st => pure (ImapResult.state st)) a).2.first = a.first
    rw [Op.bind_pure_run, hangs_map, bitState_snd]
    exact ⟨h, h1, rfl⟩
  | transact =>
    change Bitmaps.Counted (if a.branched then a.commit else a) ∧ _ ∧
      (if a.branched then a.commit else a).first = a.first
    split_ifs
    · exact ⟨h.commit, rfl, rfl⟩
    · exact ⟨h, rfl, rfl⟩
  | rollback =>
    change Bitmaps.Counted (if a.branched then a.revert else a) ∧ _ ∧
      (if a.branched then a.revert else a).first = a.first
    split_ifs
    · exact ⟨h.revert, rfl, rfl⟩
    · exact ⟨h, rfl, rfl⟩

/-- **Every run keeps the counts right**, and every call of it returns. -/
theorem Bitmaps.Counted.run (h : a.Counted) (cs : List ImapCall) (hcs : ∀ c ∈ cs, c.Fair a.first) :
    (bitRun a cs).2.Counted ∧ ∀ r ∈ (bitRun a cs).1, hangs r = false := by
  induction cs generalizing a with
  | nil => exact ⟨h, by simp [bitRun]⟩
  | cons c rest ih =>
    obtain ⟨h1, h2, h3⟩ := h.call c (hcs c List.mem_cons_self)
    obtain ⟨h4, h5⟩ := ih h1 fun c' hc' => by
      rw [h3]
      exact hcs c' (List.mem_cons_of_mem _ hc')
    unfold bitRun
    dsimp only
    rw [if_neg (by simp [h2])]
    refine ⟨h4, fun r hr => ?_⟩
    rcases List.mem_cons.1 hr with rfl | hr
    · exact h2
    · exact h5 r hr

end

end RelianceEdge
