import Mathlib.Order.Monotone.Basic
import RelianceEdge.Dir

set_option relaxedAutoImplicit false
set_option autoImplicit false
set_option linter.unusedSectionVars false

/-!
# Where the entries of a directory lie

The arithmetic of `dir.c`: entries never cross a block boundary, so that a directory of a number
of entries has one size, from which the number is computed back.

## Main definitions

* `FS.direntsSize` — the size of a directory of a number of entries.

## Main results

* `FS.dirOffsetToEntryIndex_direntsSize` — the number of entries is computed from the size.
* `FS.dirTruncSize_eq` — a directory is cut off at the size of the entries it keeps.
* `FS.offset_lt_iff`, `FS.offset_add_eq_iff` — the entries before the size, and the last of them.
-/

namespace RelianceEdge

variable [RedConf]

open RedConf

namespace FS

/-- The size of a directory of a number of entries: it ends with the last of them. -/
def direntsSize (s : FS) (n : ℕ) : ℕ :=
  if n = 0 then 0 else s.dirEntryIndexToOffset (n - 1) + direntSize

variable {s : FS}

lemma blockSize_pos : 0 < blockSize := Nat.two_pow_pos _

lemma direntSize_pos : 0 < direntSize := by
  unfold direntSize
  omega

/-- An entry fits a block. -/
lemma direntSize_le (h : redDiskLayoutIsSupported s.core.ulVersion) :
    s.direntsOffset + direntSize ≤ blockSize := by
  have hp := RedConf.blockSizeP2_mem.1
  have hn := RedConf.nameMax_mem.2
  have hdvd : 4 ∣ blockSize := by
    unfold blockSize
    exact Nat.pow_dvd_pow 2 (show 2 ≤ blockSizeP2 by omega)
  have hlt : 128 ≤ blockSize := by
    unfold blockSize
    exact Nat.pow_le_pow_right (show 0 < 2 by decide) hp
  have hn' : nameMax ≤ blockSize - 4 := hn
  simp only [redDiskLayoutIsSupported, Bool.and_eq_true, decide_eq_true_eq] at h
  have hmax := h.2
  unfold RED_DISK_LAYOUT_MAXIMUM at hmax
  unfold direntsOffset direntSize NODEHEADER_SIZE
  unfold RED_DISK_LAYOUT_ORIGINAL RED_DISK_LAYOUT_POSIXIER at hmax
  unfold RED_DISK_LAYOUT_DIRCRC
  by_cases hbig : blockSize - 4 - 16 < nameMax
  · rw [if_pos hbig] at hmax
    rw [if_neg (by omega)]
    split_ifs <;> omega
  · split_ifs <;> omega

lemma direntsPerBlock_pos (h : redDiskLayoutIsSupported s.core.ulVersion) :
    0 < s.direntsPerBlock := by
  have := direntSize_le h
  exact Nat.div_pos (by omega) direntSize_pos

/-- The entries of a block fit it. -/
lemma direntsPerBlock_mul_le (h : redDiskLayoutIsSupported s.core.ulVersion) :
    s.direntsOffset + s.direntsPerBlock * direntSize ≤ blockSize := by
  have h1 := direntSize_le h
  have h2 := Nat.div_mul_le_self (blockSize - s.direntsOffset) direntSize
  unfold direntsPerBlock
  omega

/-- The entries up to one in a block fit the block. -/
lemma entry_end_le (h : redDiskLayoutIsSupported s.core.ulVersion) {r : ℕ}
    (hr : r < s.direntsPerBlock) : s.direntsOffset + (r * direntSize + direntSize) ≤ blockSize := by
  have h1 : (r + 1) * direntSize ≤ s.direntsPerBlock * direntSize := Nat.mul_le_mul_right _ hr
  have h2 := direntsPerBlock_mul_le h
  rw [Nat.succ_mul] at h1
  omega

/-- An entry is found in its block. -/
lemma offset_div (h : redDiskLayoutIsSupported s.core.ulVersion) (k : ℕ) :
    s.dirEntryIndexToOffset k / blockSize = k / s.direntsPerBlock ∧
      (s.dirEntryIndexToOffset k % blockSize - s.direntsOffset) / direntSize =
        k % s.direntsPerBlock := by
  have hr := Nat.mod_lt k (direntsPerBlock_pos h)
  have hle := entry_end_le h hr
  have hpos := direntSize_pos
  unfold dirEntryIndexToOffset
  rw [Nat.add_assoc]
  have hlt : s.direntsOffset + k % s.direntsPerBlock * direntSize < blockSize := by omega
  refine ⟨?_, ?_⟩
  · rw [Nat.mul_comm, Nat.mul_add_div blockSize_pos, Nat.div_eq_of_lt hlt, Nat.add_zero]
  · rw [Nat.mul_comm (k / s.direntsPerBlock), Nat.mul_add_mod, Nat.mod_eq_of_lt hlt,
      Nat.add_sub_cancel_left, Nat.mul_div_cancel _ hpos]

/-- **The number of entries** is computed from the size. -/
theorem dirOffsetToEntryIndex_direntsSize (h : redDiskLayoutIsSupported s.core.ulVersion) (n : ℕ) :
    s.dirOffsetToEntryIndex (s.direntsSize n) = n := by
  cases n with
  | zero => simp [direntsSize, dirOffsetToEntryIndex]
  | succ k =>
    have hpos := direntSize_pos
    have hr := Nat.mod_lt k (direntsPerBlock_pos h)
    have hle := entry_end_le h hr
    have hk := Nat.div_add_mod' k s.direntsPerBlock
    have hfit := direntsPerBlock_mul_le h
    unfold direntsSize dirEntryIndexToOffset dirOffsetToEntryIndex
    rw [if_neg (Nat.succ_ne_zero k), Nat.add_sub_cancel,
      show k / s.direntsPerBlock * blockSize + s.direntsOffset +
          k % s.direntsPerBlock * direntSize + direntSize =
        blockSize * (k / s.direntsPerBlock) +
          (s.direntsOffset + (k % s.direntsPerBlock * direntSize + direntSize)) by
        rw [Nat.mul_comm blockSize]; omega]
    rcases Nat.lt_or_ge (s.direntsOffset + (k % s.direntsPerBlock * direntSize + direntSize))
      blockSize with hlt | hge
    · rw [Nat.mul_add_div blockSize_pos, Nat.mul_add_mod, Nat.div_eq_of_lt hlt,
        Nat.mod_eq_of_lt hlt, if_pos (by omega), Nat.add_sub_cancel_left,
        show k % s.direntsPerBlock * direntSize + direntSize =
          (k % s.direntsPerBlock + 1) * direntSize by rw [Nat.succ_mul],
        Nat.mul_div_cancel _ hpos, Nat.add_zero]
      omega
    · have heq : s.direntsOffset + (k % s.direntsPerBlock * direntSize + direntSize) =
          blockSize := by omega
      -- the entry fills its block, so it is the last of the block
      have hlast : k % s.direntsPerBlock + 1 = s.direntsPerBlock := by
        by_contra hne
        have h1 : (k % s.direntsPerBlock + 1 + 1) * direntSize ≤
            s.direntsPerBlock * direntSize := Nat.mul_le_mul_right _ (by omega)
        rw [Nat.succ_mul, Nat.succ_mul] at h1
        omega
      rw [heq, Nat.mul_add_div blockSize_pos, Nat.mul_add_mod, Nat.div_self blockSize_pos,
        Nat.mod_self, if_neg (by simp), Nat.succ_mul]
      omega

lemma succ_div_mod {k b : ℕ} (h : k % b + 1 < b) :
    (k + 1) / b = k / b ∧ (k + 1) % b = k % b + 1 := by
  refine (Nat.div_mod_unique (by omega)).2 ⟨?_, h⟩
  have := Nat.mod_add_div k b
  omega

lemma offset_add_eq (k : ℕ) : s.dirEntryIndexToOffset k + direntSize = s.direntsSize (k + 1) := by
  simp [direntsSize]

/-- An entry ends before the next one starts. -/
lemma offset_add_le (h : redDiskLayoutIsSupported s.core.ulVersion) (k : ℕ) :
    s.dirEntryIndexToOffset k + direntSize ≤ s.dirEntryIndexToOffset (k + 1) := by
  have hdpb := direntsPerBlock_pos h
  have hr := Nat.mod_lt k hdpb
  have hle := entry_end_le h hr
  have hk := Nat.div_add_mod' k s.direntsPerBlock
  unfold dirEntryIndexToOffset
  by_cases hlast : k % s.direntsPerBlock + 1 = s.direntsPerBlock
  · have hk1 : k + 1 = (k / s.direntsPerBlock + 1) * s.direntsPerBlock := by
      rw [Nat.succ_mul]
      omega
    rw [hk1, Nat.mul_div_cancel _ hdpb, Nat.mul_mod_left, Nat.succ_mul]
    omega
  · obtain ⟨hdiv, hmod⟩ := succ_div_mod (show k % s.direntsPerBlock + 1 < _ by omega)
    rw [hdiv, hmod, Nat.succ_mul]
    omega

lemma direntsSize_mono (h : redDiskLayoutIsSupported s.core.ulVersion) :
    Monotone s.direntsSize := by
  apply monotone_nat_of_le_succ
  intro n
  cases n with
  | zero => simp [direntsSize]
  | succ k =>
    rw [← offset_add_eq, ← offset_add_eq]
    have := offset_add_le h k
    omega

/-- **The entries before the size.** -/
lemma offset_lt_iff (h : redDiskLayoutIsSupported s.core.ulVersion) {k n : ℕ} :
    s.dirEntryIndexToOffset k < s.direntsSize n ↔ k < n := by
  have hpos := direntSize_pos
  have hk := offset_add_eq (s := s) k
  constructor
  · intro hlt
    by_contra hnk
    cases n with
    | zero => simp [direntsSize] at hlt
    | succ m =>
      have h1 := direntsSize_mono h (show m + 1 ≤ k by omega)
      cases k with
      | zero => omega
      | succ j =>
        have h2 := offset_add_le h j
        have h3 := offset_add_eq (s := s) j
        omega
  · intro hkn
    have := direntsSize_mono h (show k + 1 ≤ n by omega)
    omega

/-- **The last entry** ends with the size. -/
lemma offset_add_eq_iff (h : redDiskLayoutIsSupported s.core.ulVersion) {k n : ℕ} :
    s.dirEntryIndexToOffset k + direntSize = s.direntsSize n ↔ k + 1 = n := by
  rw [offset_add_eq]
  constructor
  · intro he
    have := congrArg s.dirOffsetToEntryIndex he
    rwa [dirOffsetToEntryIndex_direntsSize h, dirOffsetToEntryIndex_direntsSize h] at this
  · rintro rfl
    rfl

/-- **A directory is cut off** at the size of the entries it keeps. -/
theorem dirTruncSize_eq (h : redDiskLayoutIsSupported s.core.ulVersion) (n : ℕ) :
    s.dirTruncSize n = s.direntsSize n := by
  have hdpb := direntsPerBlock_pos h
  have hfit := direntsPerBlock_mul_le h
  have hsz := direntSize_pos
  have hbs := blockSize_pos
  have hhdr : RED_DISK_LAYOUT_DIRCRC ≤ s.core.ulVersion ∨ s.direntsOffset = 0 := by
    by_cases hv : RED_DISK_LAYOUT_DIRCRC ≤ s.core.ulVersion
    · exact Or.inl hv
    · exact Or.inr (if_neg hv)
  have hoff : RED_DISK_LAYOUT_DIRCRC ≤ s.core.ulVersion → s.direntsOffset = NODEHEADER_SIZE :=
    fun hv => if_pos hv
  -- without its header the first entry of a block starts with the block
  have hnew : (if RED_DISK_LAYOUT_DIRCRC ≤ s.core.ulVersion ∧ n % s.direntsPerBlock = 0 then
      s.dirEntryIndexToOffset n - NODEHEADER_SIZE else s.dirEntryIndexToOffset n) =
      if n % s.direntsPerBlock = 0 then n / s.direntsPerBlock * blockSize
      else s.dirEntryIndexToOffset n := by
    unfold dirEntryIndexToOffset
    by_cases hmod : n % s.direntsPerBlock = 0
    · rw [if_pos hmod, hmod]
      rcases hhdr with hv | h0
      · rw [if_pos ⟨hv, rfl⟩, hoff hv]
        omega
      · split_ifs with hv
        · rw [hoff hv.1] at h0
          cases h0
        · rw [h0]
          omega
    · rw [if_neg hmod, if_neg (by simp [hmod])]
  unfold dirTruncSize
  dsimp only
  rw [hnew]
  cases n with
  | zero =>
    rw [Nat.zero_mod, Nat.zero_div, if_pos rfl, Nat.zero_mul, if_neg (by omega)]
    rfl
  | succ k =>
    rw [← offset_add_eq]
    have hk := Nat.div_add_mod' k s.direntsPerBlock
    have hr := Nat.mod_lt k hdpb
    have hle := entry_end_le h hr
    by_cases hlast : k % s.direntsPerBlock + 1 = s.direntsPerBlock
    · have hk1 : k + 1 = (k / s.direntsPerBlock + 1) * s.direntsPerBlock := by
        rw [Nat.succ_mul]
        omega
      have hmul : s.direntsPerBlock * direntSize =
          k % s.direntsPerBlock * direntSize + direntSize := by
        conv_lhs => rw [← hlast]
        rw [Nat.succ_mul]
      rw [hk1, Nat.mul_mod_left, Nat.mul_div_cancel _ hdpb, if_pos rfl]
      unfold dirBlockUnusedSpace dirEntryIndexToOffset
      rw [Nat.mul_comm direntSize, hmul, Nat.mul_mod_left, Nat.succ_mul]
      split_ifs with hu
      · omega
      · omega
    · obtain ⟨hdiv, hmod⟩ := succ_div_mod (show k % s.direntsPerBlock + 1 < _ by omega)
      rw [hmod, if_neg (Nat.succ_ne_zero _)]
      have hle' := entry_end_le h (show k % s.direntsPerBlock + 1 < s.direntsPerBlock by omega)
      unfold dirEntryIndexToOffset
      rw [hdiv, hmod, Nat.succ_mul]
      rw [Nat.succ_mul] at hle'
      rw [if_neg]
      · omega
      · rintro ⟨-, -, hmod0⟩
        rw [Nat.add_assoc, Nat.mul_comm (k / s.direntsPerBlock), Nat.mul_add_mod,
          Nat.mod_eq_of_lt (by omega)] at hmod0
        omega

end FS

end RelianceEdge
