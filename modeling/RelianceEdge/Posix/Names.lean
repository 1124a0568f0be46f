import RelianceEdge.Dir
import RelianceEdge.Lib.Split

set_option relaxedAutoImplicit false
set_option autoImplicit false
set_option linter.unusedSectionVars false

/-!
# Names in a path

What the components of a path string are, and how a reader that steps over separators and names
meets them one after the other.

## Main definitions

* `CString.strlen` — the bytes before the terminator.
* `pathNames` — the components of a path.

## Main results

* `pathNames_cons` — the name a string starts with is its first component.
* `pathNames_eq_nil_iff` — a path of separators has no component.
-/

namespace RelianceEdge

variable [RedConf]

open RedConf Split

/-- The bytes of a string before its terminator. -/
def CString.strlen (psz : CString) : ℕ := (psz.takeWhile fun c => c != 0).length

/-- The byte is a path separator. -/
def isSeparator (c : UInt8) : Bool := c == pathSeparator

/-- **The components of a path**: the nonempty pieces between separators. -/
def pathNames (psz : CString) : List (List UInt8) :=
  components isSeparator (psz.takeWhile fun c => c != 0)

/-- Dot. -/
def nameDot : List UInt8 := [46]

/-- Dot-dot. -/
def nameDotDot : List UInt8 := [46, 46]

/-- Components are not empty. -/
lemma ne_nil_of_mem_pathNames {psz : CString} {name : List UInt8} (h : name ∈ pathNames psz) :
    name ≠ [] :=
  ne_nil_of_mem_components h

/-! ## Bytes -/

lemma pathSeparator_ne_zero : (pathSeparator : UInt8) ≠ 0 := by
  intro h
  have := pathSeparator_mem.1
  rw [h] at this
  simp at this

@[simp] lemma CString.at_nil (k : ℕ) : CString.at [] k = 0 := by
  simp [CString.at]

@[simp] lemma CString.at_cons_zero (c : UInt8) (s : CString) : CString.at (c :: s) 0 = c := rfl

@[simp] lemma CString.at_cons_succ (c : UInt8) (s : CString) (k : ℕ) :
    CString.at (c :: s) (k + 1) = CString.at s k := rfl

lemma CString.at_drop (s : CString) (n k : ℕ) : CString.at (s.drop n) k = s.at (n + k) := by
  simp [CString.at, List.getElem?_drop]

lemma CString.at_take {s : CString} {n k : ℕ} (h : k < n) : CString.at (s.take n) k = s.at k := by
  simp [CString.at, h]

/-- The byte at the string's length is its terminator. -/
lemma CString.at_strlen (s : CString) : s.at s.strlen = 0 := by
  induction s with
  | nil => simp
  | cons c s ih =>
    unfold CString.strlen
    by_cases hc : c = 0
    · simp [hc]
    · rw [List.takeWhile_cons_of_pos (by simpa using hc)]
      simpa [CString.strlen] using ih

/-! ## Steps of a reader -/

/-- A terminator comes before every component. -/
lemma pathNames_of_at_zero {s : CString} (h : s.at 0 = 0) : pathNames s = [] := by
  cases s with
  | nil => rfl
  | cons c s =>
    have hc : c = 0 := h
    simp [pathNames, hc]

/-- A separator in front is stepped over. -/
lemma pathNames_of_separator {s : CString} (h : s.at 0 = pathSeparator) :
    pathNames s = pathNames (s.drop 1) := by
  cases s with
  | nil =>
    rw [CString.at_nil] at h
    exact absurd h.symm pathSeparator_ne_zero
  | cons c s =>
    have hc : c = pathSeparator := h
    unfold pathNames
    rw [List.takeWhile_cons_of_pos (by simpa [hc] using pathSeparator_ne_zero),
      components_cons (by simp [isSeparator, hc])]
    rfl

/-- Leading separators are stepped over. -/
lemma pathNames_dropWhile (s : CString) : pathNames (s.dropWhile isSeparator) = pathNames s := by
  induction s with
  | nil => rfl
  | cons c s ih =>
    by_cases hc : isSeparator c
    · rw [List.dropWhile_cons_of_pos hc, ih,
        pathNames_of_separator (s := c :: s) (by simpa [isSeparator] using hc)]
      rfl
    · rw [List.dropWhile_cons_of_neg hc]

lemma redNameLen_cons (c : UInt8) (s : CString) :
    redNameLen (c :: s) = if c = 0 ∨ c = pathSeparator then 0 else redNameLen s + 1 := by
  unfold redNameLen
  rw [List.takeWhile_cons]
  by_cases h : c = 0 ∨ c = pathSeparator
  · rw [if_pos h, if_neg]
    · rfl
    · intro hc
      simp only [Bool.and_eq_true, bne_iff_ne] at hc
      exact h.elim hc.1 hc.2
  · rw [if_neg h, if_pos]
    · rfl
    · simpa using h

/-- A name ends at a terminator or at a separator. -/
lemma redNameLen_at (s : CString) :
    s.at (redNameLen s) = 0 ∨ s.at (redNameLen s) = pathSeparator := by
  induction s with
  | nil => simp
  | cons c s ih =>
    rw [redNameLen_cons]
    by_cases hc : c = 0 ∨ c = pathSeparator
    · rw [if_pos hc]
      exact hc
    · rw [if_neg hc]
      exact ih

/-- The bytes of a name are neither terminators nor separators. -/
lemma redNameLen_lt {s : CString} {k : ℕ} (hk : k < redNameLen s) :
    s.at k ≠ 0 ∧ s.at k ≠ pathSeparator := by
  induction s generalizing k with
  | nil => simp [redNameLen] at hk
  | cons c s ih =>
    rw [redNameLen_cons] at hk
    by_cases hc : c = 0 ∨ c = pathSeparator
    · rw [if_pos hc] at hk
      omega
    · rw [if_neg hc] at hk
      cases k with
      | zero => exact not_or.1 hc
      | succ k => exact ih (by omega)

/-- A length with these two properties is the length of the name. -/
lemma redNameLen_eq {s : CString} {n : ℕ}
    (hlt : ∀ k < n, s.at k ≠ 0 ∧ s.at k ≠ pathSeparator)
    (hn : s.at n = 0 ∨ s.at n = pathSeparator) : redNameLen s = n := by
  rcases Nat.lt_trichotomy (redNameLen s) n with h | h | h
  · rcases redNameLen_at s with h' | h'
    · exact absurd h' (hlt _ h).1
    · exact absurd h' (hlt _ h).2
  · exact h
  · rcases hn with h' | h'
    · exact absurd h' (redNameLen_lt h).1
    · exact absurd h' (redNameLen_lt h).2

/-- A name, with what comes behind it. -/
lemma redNameLen_append {name : List UInt8} {s : CString}
    (hname : ∀ c ∈ name, c ≠ 0 ∧ c ≠ pathSeparator) (hs : s.at 0 = 0 ∨ s.at 0 = pathSeparator) :
    redNameLen (name ++ s) = name.length := by
  induction name with
  | nil => exact redNameLen_eq (fun _ hk => absurd hk (Nat.not_lt_zero _)) hs
  | cons c name ih =>
    have hc := hname c List.mem_cons_self
    rw [List.cons_append, redNameLen_cons, if_neg (not_or.2 hc),
      ih fun c hc => hname c (List.mem_cons_of_mem _ hc), List.length_cons]

lemma redNameLen_le_length (s : CString) : redNameLen s ≤ s.length :=
  (List.takeWhile_prefix _).length_le

lemma redNameLen_le_strlen (s : CString) : redNameLen s ≤ s.strlen := by
  by_contra h
  exact (redNameLen_lt (Nat.lt_of_not_le h)).1 s.at_strlen

/-- A string that does not start with a terminator or a separator starts with a name. -/
lemma redNameLen_pos {s : CString} (h0 : s.at 0 ≠ 0) (hs : s.at 0 ≠ pathSeparator) :
    0 < redNameLen s := by
  by_contra h
  have h' : redNameLen s = 0 := by omega
  rcases redNameLen_at s with ha | ha
  · rw [h'] at ha
    exact h0 ha
  · rw [h'] at ha
    exact hs ha

/-- **The first component** is the name the string starts with. -/
theorem pathNames_cons {s : CString} (h0 : s.at 0 ≠ 0) (hs : s.at 0 ≠ pathSeparator) :
    pathNames s = s.take (redNameLen s) :: pathNames (s.drop (redNameLen s)) := by
  set n := redNameLen s with hn
  have hlen : n ≤ s.length := redNameLen_le_length s
  have hmem : ∀ c ∈ s.take n, c ≠ 0 ∧ c ≠ pathSeparator := by
    intro c hc
    obtain ⟨k, hk, rfl⟩ := List.mem_iff_getElem.1 hc
    have hk' : k < n := by
      rw [List.length_take] at hk
      omega
    have := redNameLen_lt (hn ▸ hk')
    rw [List.getElem_take]
    rw [List.length_take] at hk
    simpa [CString.at, List.getElem?_eq_getElem (show k < s.length by omega)] using this
  have hsplit : s.takeWhile (fun c => c != 0) =
      s.take n ++ (s.drop n).takeWhile fun c => c != 0 := by
    conv_lhs => rw [← List.take_append_drop n s]
    rw [List.takeWhile_append_of_pos]
    intro c hc
    simpa using (hmem c hc).1
  unfold pathNames
  rw [hsplit, components_append]
  · intro c hc
    simpa [isSeparator] using (hmem c hc).2
  · intro h
    have := redNameLen_pos h0 hs
    have hl := congrArg List.length h
    rw [List.length_take, List.length_nil] at hl
    omega
  · rcases hr : s.drop n with _ | ⟨c, r⟩
    · exact Or.inl rfl
    · have hat : c = 0 ∨ c = pathSeparator := by
        have h1 : CString.at (s.drop n) 0 = c := by rw [hr]; rfl
        rw [CString.at_drop, Nat.add_zero] at h1
        rw [← h1]
        exact redNameLen_at s
      rcases hat with rfl | rfl
      · left
        rfl
      · right
        refine ⟨pathSeparator, r.takeWhile fun c => c != 0, ?_, by simp [isSeparator]⟩
        rw [List.takeWhile_cons_of_pos (by simpa using pathSeparator_ne_zero)]

/-- A path of separators has no component. -/
lemma pathNames_eq_nil_iff {s : CString} :
    pathNames s = [] ↔ CString.at (s.dropWhile isSeparator) 0 = 0 := by
  rw [← pathNames_dropWhile]
  constructor
  · intro h
    by_contra h0
    have hs : CString.at (s.dropWhile isSeparator) 0 ≠ pathSeparator := by
      intro hs
      rcases hd : s.dropWhile isSeparator with _ | ⟨c, r⟩
      · rw [hd] at h0
        exact h0 rfl
      · have hc := List.head_dropWhile_not isSeparator (l := s) (by simp [hd])
        rw [hd] at hs
        simp only [CString.at_cons_zero] at hs
        simp [hd, isSeparator, hs] at hc
    rw [pathNames_cons h0 hs] at h
    cases h
  · exact pathNames_of_at_zero

/-- What the separators lead to does not start with one. -/
lemma dropWhile_at_zero (s : CString) :
    CString.at (s.dropWhile isSeparator) 0 ≠ pathSeparator := by
  induction s with
  | nil => exact fun h => pathSeparator_ne_zero h.symm
  | cons c s ih =>
    by_cases hc : isSeparator c
    · rw [List.dropWhile_cons_of_pos hc]
      exact ih
    · rw [List.dropWhile_cons_of_neg hc]
      simpa [isSeparator] using hc

lemma dropWhile_of_at_zero {s : CString} (h : s.at 0 ≠ pathSeparator) :
    s.dropWhile isSeparator = s := by
  cases s with
  | nil => rfl
  | cons c s =>
    rw [List.dropWhile_cons_of_neg]
    simpa [isSeparator] using h

/-- Stepping over some of the leading separators does not change where they lead. -/
lemma dropWhile_drop {s : CString} {n : ℕ} (h : ∀ k < n, s.at k = pathSeparator) :
    (s.drop n).dropWhile isSeparator = s.dropWhile isSeparator := by
  induction n generalizing s with
  | zero => rfl
  | succ n ih =>
    cases s with
    | nil => rfl
    | cons c s =>
      have hc : isSeparator c := by simpa [isSeparator] using h 0 (by omega)
      rw [List.dropWhile_cons_of_pos hc]
      exact ih fun k hk => h (k + 1) (by omega)

/-- The next component, and the rest of a path behind it. -/
lemma pathNames_eq_cons {s : CString} {name : List UInt8} {names : List (List UInt8)}
    (h : pathNames s = name :: names) :
    let r : CString := s.dropWhile isSeparator
    r.at 0 ≠ 0 ∧ r.take (redNameLen r) = name ∧ pathNames (r.drop (redNameLen r)) = names := by
  intro r
  have h0 : r.at 0 ≠ 0 := by
    intro h0
    rw [pathNames_eq_nil_iff.2 h0] at h
    cases h
  rw [← pathNames_dropWhile, pathNames_cons h0 (dropWhile_at_zero s)] at h
  exact ⟨h0, (List.cons.inj h).1, (List.cons.inj h).2⟩

/-- A name that a buffer cuts off. -/
lemma redNameLen_take (s : CString) (m : ℕ) : redNameLen (s.take m) = min (redNameLen s) m := by
  induction s generalizing m with
  | nil => simp [redNameLen]
  | cons c s ih =>
    cases m with
    | zero => simp [redNameLen]
    | succ m =>
      rw [List.take_succ_cons, redNameLen_cons, redNameLen_cons, ih]
      split_ifs <;> omega

/-- A string is as long as its rest and what was stepped over. -/
lemma CString.strlen_drop {s : CString} {n : ℕ} (h : n ≤ s.strlen) :
    CString.strlen (s.drop n) = s.strlen - n := by
  induction n generalizing s with
  | zero => simp
  | succ n ih =>
    cases s with
    | nil => simp [CString.strlen] at h
    | cons c s =>
      unfold CString.strlen at h
      by_cases hc : c = 0
      · simp [hc] at h
      · have hlen : CString.strlen (c :: s) = CString.strlen s + 1 := by
          unfold CString.strlen
          rw [List.takeWhile_cons_of_pos (by simpa using hc)]
          rfl
        have h' : n ≤ CString.strlen s := by
          change n + 1 ≤ CString.strlen (c :: s) at h
          omega
        rw [List.drop_succ_cons, ih h', hlen]
        omega

end RelianceEdge
