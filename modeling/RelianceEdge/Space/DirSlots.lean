import RelianceEdge.Space.DirData

set_option relaxedAutoImplicit false
set_option autoImplicit false
set_option linter.unusedSectionVars false

/-!
# A directory as an array of slots

Block by block, the functions of `dir.c` work on one array of slots: the entries of all blocks up
to the size of the directory. The array has no free slots at its end, and no block of it is
sparse.

## Main definitions

* `DirData.Holds` — the data of a directory holds an array of slots.

## Main results

* `DirData.Holds.lookup_found`, `DirData.Holds.lookup_free` — what `RedDirEntryLookup()` finds.
* `DirData.Holds.read` — `RedDirEntryRead()` returns the next slot in use.
* `DirData.Holds.write`, `DirData.Holds.clear` — what `DirEntryWrite()` leaves.
* `DirData.Holds.delete` — what `RedDirEntryDelete()` leaves.
-/

namespace RelianceEdge

variable [RedConf]

open RedConf

namespace DirData

/-- **The data of a directory holds an array of slots.** -/
structure Holds (s : FS) (d : DirData) (l : List (Option Dirent)) : Prop where
  size : d.ullSize = s.direntsSize l.length
  block : ∀ k < l.length, ∃ b, d.block (k / s.direntsPerBlock) = some b ∧
    b (k % s.direntsPerBlock) = Slots.at l k
  length_le : l.length ≤ s.direntsMax
  trimmed : Slots.Trimmed l

variable {s : FS} {d : DirData} {l : List (Option Dirent)}
  (hver : redDiskLayoutIsSupported s.core.ulVersion)

/-- A new directory has no slots. -/
lemma empty_holds : Holds s empty [] where
  size := by simp [empty, FS.direntsSize]
  block := by simp
  length_le := Nat.zero_le _
  trimmed := by simp [Slots.Trimmed]

include hver

lemma Holds.direntCount_eq (h : Holds s d l) : d.direntCount s = l.length := by
  unfold direntCount
  rw [h.size, FS.dirOffsetToEntryIndex_direntsSize hver]

omit hver in
/-- The slots of a part of one block. -/
lemma Holds.chunk (h : Holds s d l) {q m n : ℕ} {b : ℕ → Option Dirent}
    (hb : d.block q = some b) (hn : m + n ≤ s.direntsPerBlock)
    (hlen : q * s.direntsPerBlock + m + n ≤ l.length) :
    (l.drop (q * s.direntsPerBlock + m)).take n = (List.range' m n).map b := by
  apply List.ext_getElem?
  intro i
  rw [List.getElem?_take, List.getElem?_map]
  by_cases hi : i < n
  · obtain ⟨b', hb', hat⟩ := h.block (q * s.direntsPerBlock + m + i) (by omega)
    have hdiv : (q * s.direntsPerBlock + m + i) / s.direntsPerBlock = q ∧
        (q * s.direntsPerBlock + m + i) % s.direntsPerBlock = m + i := by
      refine (Nat.div_mod_unique (by omega)).2 ⟨?_, by omega⟩
      rw [Nat.mul_comm]
      omega
    rw [hdiv.1, hb] at hb'
    obtain rfl := Option.some.inj hb'
    rw [hdiv.2] at hat
    have hlt : q * s.direntsPerBlock + m + i < l.length := by omega
    rw [if_pos hi, List.getElem?_drop, List.getElem?_range' (by omega)]
    unfold Slots.at at hat
    rw [List.getElem?_eq_getElem hlt, Option.getD_some] at hat
    rw [List.getElem?_eq_getElem hlt, ← hat, Option.map_some, Nat.one_mul]
  · rw [if_neg hi, List.getElem?_eq_none (by rw [List.length_range']; omega)]
    rfl

/-! ## Lookup -/

/-- The entry has the name. -/
abbrev hasName (pszName : CString) (de : Dirent) : Bool := de.matches pszName

omit hver in
lemma lookupInBlock_eq (pDirents : ℕ → Option Dirent) (pszName : CString) (ulIdx m n f : ℕ) :
    lookupInBlock pDirents pszName ulIdx (List.range' m n) f =
      ((Slots.search (hasName pszName) DIR_INDEX_INVALID ((List.range' m n).map pDirents)
          (ulIdx + m) f).1.map (Prod.map (· - ulIdx) id),
        (Slots.search (hasName pszName) DIR_INDEX_INVALID ((List.range' m n).map pDirents)
          (ulIdx + m) f).2) := by
  induction n generalizing m f with
  | zero => rfl
  | succ n ih =>
    rw [List.range'_succ, List.map_cons]
    unfold lookupInBlock
    rcases hd : pDirents m with _ | de
    · dsimp only
      rw [ih]
      rfl
    · dsimp only
      unfold Slots.search
      by_cases hm : de.matches pszName
      · rw [if_pos hm, if_pos hm]
        simp
      · rw [if_neg hm, if_neg hm, ih]
        rfl

/-- The result of a search, as the block loop returns it. -/
def lookupResult (n : ℕ) (r : Option (ℕ × Dirent) × ℕ) : ℕ × Option Dirent × ℕ :=
  (r.1.elim n Prod.fst, r.1.map Prod.snd, r.2)

/-- **The block loop** of `RedDirEntryLookup()` searches the array. -/
lemma Holds.dirLookupLoop_eq (h : Holds s d l) (pszName : CString) :
    ∀ (fuel q f : ℕ), q * s.direntsPerBlock ≤ l.length → l.length - q * s.direntsPerBlock ≤ fuel →
    dirLookupLoop s d pszName l.length fuel (q * s.direntsPerBlock) f =
      .ok (lookupResult l.length (Slots.search (hasName pszName) DIR_INDEX_INVALID
        (l.drop (q * s.direntsPerBlock)) (q * s.direntsPerBlock) f)) := by
  have hdpb := FS.direntsPerBlock_pos hver
  intro fuel
  induction fuel with
  | zero =>
    intro q f hq hfuel
    obtain heq : q * s.direntsPerBlock = l.length := by omega
    unfold dirLookupLoop
    rw [heq, if_pos le_rfl, List.drop_length]
    rfl
  | succ fuel ih =>
    intro q f hq hfuel
    unfold dirLookupLoop
    by_cases hend : l.length ≤ q * s.direntsPerBlock
    · obtain heq : q * s.direntsPerBlock = l.length := by omega
      rw [heq, if_pos le_rfl, List.drop_length]
      rfl
    · rw [if_neg hend]
      obtain ⟨b, hb, -⟩ := h.block (q * s.direntsPerBlock) (by omega)
      rw [Nat.mul_div_cancel _ hdpb] at hb
      have hseek :
          d.redInodeDataSeekAndRead (q * s.direntsPerBlock / s.direntsPerBlock) = .ok b := by
        unfold redInodeDataSeekAndRead
        rw [Nat.mul_div_cancel _ hdpb, hb]
      set n := min s.direntsPerBlock (l.length - q * s.direntsPerBlock) with hn
      have hchunk := h.chunk (m := 0) (n := n) hb (by omega) (by omega)
      rw [Nat.add_zero, ← List.range_eq_range'] at hchunk
      have hblock := lookupInBlock_eq b pszName (q * s.direntsPerBlock) 0 n f
      rw [← List.range_eq_range', ← hchunk, Nat.add_zero] at hblock
      have hsplit : l.drop (q * s.direntsPerBlock) =
          (l.drop (q * s.direntsPerBlock)).take n ++ l.drop (q * s.direntsPerBlock + n) := by
        rw [← List.drop_drop, List.take_append_drop]
      have hlen : ((l.drop (q * s.direntsPerBlock)).take n).length = n := by
        rw [List.length_take, List.length_drop]
        omega
      have happ := Slots.search_append (hasName pszName) DIR_INDEX_INVALID (q * s.direntsPerBlock)
        f ((l.drop (q * s.direntsPerBlock)).take n) (l.drop (q * s.direntsPerBlock + n))
      rw [← hsplit, hlen] at happ
      rw [happ]
      simp only [hseek, hblock]
      rcases hr : Slots.search (hasName pszName) DIR_INDEX_INVALID
        ((l.drop (q * s.direntsPerBlock)).take n) (q * s.direntsPerBlock) f with ⟨_ | ⟨j, e⟩, f'⟩
      · simp only [Option.map_none, Option.isSome_none, Bool.false_eq_true, if_false]
        -- the next round starts with the next block, or ends
        by_cases hfull : n = s.direntsPerBlock
        · have hq1 : q * s.direntsPerBlock + n = (q + 1) * s.direntsPerBlock := by
            rw [hfull, Nat.succ_mul]
          rw [hq1]
          apply ih
          · omega
          · omega
        · have hq1 : q * s.direntsPerBlock + n = l.length := by omega
          rw [hq1, List.drop_length]
          unfold dirLookupLoop
          rw [if_pos le_rfl]
          rfl
      · obtain ⟨k, rfl, -⟩ := Slots.search_found hr
        simp [lookupResult]

/-- The entry and the index that `RedDirEntryLookup()` returns for a search of `n` slots. -/
def lookupEnd (n ulMax : ℕ) (r : Option (ℕ × Dirent) × ℕ) : Option Dirent × ℕ :=
  r.1.elim (none, if r.2 = DIR_INDEX_INVALID ∧ n < ulMax then n else r.2)
    fun found => (some found.2, found.1)

/-- **`RedDirEntryLookup()`** searches the array for the name. -/
theorem Holds.lookup_eq (h : Holds s d l) (pszName : CString) :
    redDirEntryLookup s d pszName =
      if redNameLen pszName = 0 then .error .EINVAL
      else if nameMax < redNameLen pszName then .error .ENAMETOOLONG
      else .ok (lookupEnd l.length s.direntsMax
        (Slots.search (hasName pszName) DIR_INDEX_INVALID l 0 DIR_INDEX_INVALID)) := by
  have hloop := h.dirLookupLoop_eq hver pszName l.length 0 DIR_INDEX_INVALID
    (by rw [Nat.zero_mul]; exact Nat.zero_le _) (by omega)
  rw [Nat.zero_mul, List.drop_zero] at hloop
  unfold redDirEntryLookup
  rcases hr : Slots.search (hasName pszName) DIR_INDEX_INVALID l 0 DIR_INDEX_INVALID with
    ⟨_ | ⟨j, e⟩, f⟩
  · rw [hr] at hloop
    have hloop' : dirLookupLoop s d pszName l.length l.length 0 DIR_INDEX_INVALID =
        .ok (l.length, none, f) := hloop
    simp only [h.direntCount_eq hver, hloop', bind, Except.bind, if_true]
    rfl
  · obtain ⟨k, hj, hat, -⟩ := Slots.search_found hr
    have hlt := Slots.lt_of_at hat
    rw [hr] at hloop
    have hloop' : dirLookupLoop s d pszName l.length l.length 0 DIR_INDEX_INVALID =
        .ok (j, some e, f) := hloop
    simp only [h.direntCount_eq hver, hloop', bind, Except.bind,
      if_neg (show j ≠ l.length by omega)]
    rfl

lemma direntsMax_le : s.direntsMax ≤ DIR_INDEX_INVALID := Nat.min_le_left _ _

/-- **The entry found** is in the slot returned, and has the name. -/
lemma Holds.lookup_found (h : Holds s d l) {pszName : CString} {de : Dirent} {k : ℕ}
    (hl : redDirEntryLookup s d pszName = .ok (some de, k)) :
    Slots.at l k = some de ∧ de.matches pszName := by
  rw [h.lookup_eq hver] at hl
  split_ifs at hl
  have hl' := Except.ok.inj hl
  rcases hr : Slots.search (hasName pszName) DIR_INDEX_INVALID l 0 DIR_INDEX_INVALID with
    ⟨_ | ⟨j, e⟩, f⟩
  · rw [hr] at hl'
    simp [lookupEnd] at hl'
  · rw [hr] at hl'
    obtain ⟨i, hj, hat, hp, -⟩ := Slots.search_found hr
    simp only [lookupEnd, Option.elim_some, Prod.mk.injEq, Option.some.injEq] at hl'
    obtain ⟨rfl, rfl⟩ := hl'
    obtain rfl : j = i := by omega
    exact ⟨hat, hp⟩

/-- **Without an entry of the name** the slot returned is the first free one, if the directory is
not full. -/
lemma Holds.lookup_free (h : Holds s d l) {pszName : CString} {k : ℕ}
    (hl : redDirEntryLookup s d pszName = .ok (none, k)) :
    (∀ de, some de ∈ l → ¬ de.matches pszName) ∧ (k ≠ DIR_INDEX_INVALID →
      k ≤ l.length ∧ k < s.direntsMax ∧ Slots.at l k = none ∧
        ∀ m < k, (Slots.at l m).isSome) := by
  have hle := h.length_le
  have hinv := direntsMax_le hver
  rw [h.lookup_eq hver] at hl
  split_ifs at hl
  have hl' := Except.ok.inj hl
  rcases hr : Slots.search (hasName pszName) DIR_INDEX_INVALID l 0 DIR_INDEX_INVALID with
    ⟨_ | ⟨j, e⟩, f⟩
  · rw [hr] at hl'
    simp only [lookupEnd, Option.elim_none, Prod.mk.injEq, true_and] at hl'
    obtain ⟨hnone, hfree⟩ := Slots.search_none hr (by omega)
    refine ⟨hnone, ?_⟩
    intro hk
    rcases hfree with ⟨hne, -⟩ | ⟨-, i, hi, rfl, hat, hmin⟩ | ⟨-, rfl, hall⟩
    · exact absurd rfl hne
    · rw [Nat.zero_add, if_neg (by omega)] at hl'
      subst hl'
      refine ⟨hi.le, by omega, ?_, hmin⟩
      unfold Slots.at
      rw [hat]
      rfl
    · by_cases hfull : l.length < s.direntsMax
      · rw [if_pos ⟨rfl, hfull⟩] at hl'
        subst hl'
        exact ⟨le_rfl, hfull, Slots.at_of_length_le le_rfl, hall⟩
      · rw [if_neg (by omega)] at hl'
        exact absurd hl'.symm hk
  · rw [hr] at hl'
    simp [lookupEnd] at hl'

/-! ## Reading -/

omit hver in
lemma readInBlock_eq (pDirents : ℕ → Option Dirent) (i m n : ℕ) :
    (readInBlock pDirents (List.range' m n)).map (fun r => (r.2, i + r.1 + 1)) =
      Slots.next ((List.range' m n).map pDirents) (i + m) := by
  induction n generalizing m with
  | zero => rfl
  | succ n ih =>
    rw [List.range'_succ, List.map_cons]
    unfold readInBlock
    rcases pDirents m with _ | de
    · exact ih (m + 1)
    · rfl

/-- The result of `RedDirEntryRead()` in an array of `n` slots. -/
def readResult (n : ℕ) (r : Option (Dirent × ℕ)) : ℕ × Option Dirent :=
  (r.elim n Prod.snd, r.map Prod.fst)

/-- **The block loop** of `RedDirEntryRead()` goes to the next slot in use. -/
lemma Holds.dirReadLoop_eq (h : Holds s d l) :
    ∀ (fuel i : ℕ), l.length - i ≤ fuel →
    dirReadLoop s d l.length fuel i =
      .ok (readResult l.length (Slots.next (l.drop i) i)) := by
  have hdpb := FS.direntsPerBlock_pos hver
  intro fuel
  induction fuel with
  | zero =>
    intro i hfuel
    unfold dirReadLoop
    rw [if_pos (by omega), List.drop_of_length_le (by omega)]
    rfl
  | succ fuel ih =>
    intro i hfuel
    unfold dirReadLoop
    by_cases hend : l.length ≤ i
    · rw [if_pos hend, List.drop_of_length_le hend]
      rfl
    · rw [if_neg hend]
      have hi := Nat.div_add_mod' i s.direntsPerBlock
      have hmod := Nat.mod_lt i hdpb
      obtain ⟨b, hb, -⟩ := h.block i (by omega)
      have hseek : d.redInodeDataSeekAndRead (i / s.direntsPerBlock) = .ok b := by
        unfold redInodeDataSeekAndRead
        rw [hb]
      set m := i % s.direntsPerBlock with hm
      set q := i / s.direntsPerBlock with hq
      set n := min s.direntsPerBlock (l.length - q * s.direntsPerBlock) - m with hn
      have hchunk := h.chunk (m := m) (n := n) hb (by omega) (by omega)
      have hblock := readInBlock_eq b (q * s.direntsPerBlock) m n
      rw [← hchunk, hi] at hblock
      have hsplit : l.drop i = (l.drop i).take n ++ l.drop (i + n) := by
        rw [← List.drop_drop, List.take_append_drop]
      have hlen : ((l.drop i).take n).length = n := by
        rw [List.length_take, List.length_drop]
        omega
      have happ := Slots.next_append i ((l.drop i).take n) (l.drop (i + n))
      rw [← hsplit, hlen, ← hblock] at happ
      rw [happ]
      simp only [hseek, ← hn]
      rcases readInBlock b (List.range' m n) with _ | ⟨k, de⟩
      · simp only [Option.map_none, Option.none_or]
        apply ih
        omega
      · rfl

/-- **`RedDirEntryRead()`** returns the next slot in use. -/
theorem Holds.read (h : Holds s d l) (i : ℕ) :
    redDirEntryRead s d i = .ok (readResult l.length (Slots.next (l.drop i) i)) := by
  unfold redDirEntryRead
  rw [h.direntCount_eq hver]
  exact h.dirReadLoop_eq hver _ _ (by omega)

/-! ## Writing -/

/-- What a write of one entry changes. -/
lemma write_block (k j : ℕ) (de : Option Dirent) {b : ℕ → Option Dirent}
    (hb : j ≠ k → d.block (j / s.direntsPerBlock) = some b) :
    ∃ b', (redInodeDataWrite s d (s.dirEntryIndexToOffset k) de).block (j / s.direntsPerBlock) =
      some b' ∧ b' (j % s.direntsPerBlock) =
        if j = k then de else b (j % s.direntsPerBlock) := by
  obtain ⟨hdiv, hmod⟩ := FS.offset_div hver k
  unfold redInodeDataWrite
  dsimp only
  rw [hdiv, hmod]
  by_cases hj : j = k
  · subst hj
    rw [Function.update_self]
    exact ⟨_, rfl, by rw [Function.update_self, if_pos rfl]⟩
  · by_cases hq : j / s.direntsPerBlock = k / s.direntsPerBlock
    · rw [← hq, Function.update_self, hb hj]
      refine ⟨_, rfl, ?_⟩
      have hne : j % s.direntsPerBlock ≠ k % s.direntsPerBlock := by
        intro he
        apply hj
        rw [← Nat.div_add_mod j s.direntsPerBlock, hq, he, Nat.div_add_mod]
      rw [Function.update_of_ne hne, if_neg hj]
      rfl
    · rw [Function.update_of_ne hq, hb hj]
      exact ⟨b, rfl, by rw [if_neg hj]⟩

lemma write_size (h : Holds s d l) {k : ℕ} {de : Option Dirent} :
    (redInodeDataWrite s d (s.dirEntryIndexToOffset k) de).ullSize =
      s.direntsSize (max l.length (k + 1)) := by
  have hmono := FS.direntsSize_mono hver
  unfold redInodeDataWrite
  rw [FS.offset_add_eq, h.size]
  rcases Nat.le_total l.length (k + 1) with hle | hle
  · rw [max_eq_right hle, max_eq_right (hmono hle)]
  · rw [max_eq_left hle, max_eq_left (hmono hle)]

/-- **An entry is written** to a slot of the array, or behind it. -/
lemma Holds.write (h : Holds s d l) {k : ℕ} {de : Dirent} {d' : DirData} (hk : k ≤ l.length)
    (hw : dirEntryWrite s d k (some de) = .ok d') : Holds s d' (Slots.put l k de) := by
  unfold dirEntryWrite at hw
  split_ifs at hw with hmax
  obtain rfl := Except.ok.inj hw
  have hle := h.length_le
  constructor
  · rw [write_size hver h, Slots.length_put hk]
  · intro j hj
    rw [Slots.length_put hk] at hj
    rw [Slots.at_put hk]
    by_cases hjk : j = k
    · obtain ⟨b', hb', hat⟩ := write_block hver (d := d) k j (some de)
        (b := fun _ => none) fun hne => absurd hjk hne
      refine ⟨b', hb', ?_⟩
      rw [hat, if_pos hjk, hjk, Function.update_self]
    · obtain ⟨b, hb, hat⟩ := h.block j (by omega)
      obtain ⟨b', hb', hat'⟩ := write_block hver (d := d) k j (some de)
        fun _ => hb
      refine ⟨b', hb', ?_⟩
      rw [hat', if_neg hjk, Function.update_of_ne hjk, hat]
  · rw [Slots.length_put hk]
    omega
  · exact h.trimmed.put hk

/-- **An entry is cleared**, which is not the last one. -/
lemma Holds.clear (h : Holds s d l) {k : ℕ} {d' : DirData} (hk : k + 1 < l.length)
    (hw : dirEntryWrite s d k none = .ok d') : Holds s d' (Slots.free l k) := by
  unfold dirEntryWrite at hw
  split_ifs at hw with hmax
  obtain rfl := Except.ok.inj hw
  have hlen : (Slots.free l k).length = l.length := by
    unfold Slots.free
    rw [if_neg (by omega), List.length_set]
  constructor
  · rw [write_size hver h, hlen, max_eq_left (by omega)]
  · intro j hj
    rw [hlen] at hj
    rw [Slots.at_free]
    obtain ⟨b, hb, hat⟩ := h.block j hj
    obtain ⟨b', hb', hat'⟩ := write_block hver (d := d) k j none
      fun _ => hb
    refine ⟨b', hb', ?_⟩
    by_cases hjk : j = k
    · rw [hat', if_pos hjk, hjk, Function.update_self]
    · rw [hat', if_neg hjk, Function.update_of_ne hjk, hat]
  · rw [hlen]
    exact h.length_le
  · exact h.trimmed.free

/-! ## Creating -/

omit hver in
/-- The entry for a name has the name that the string starts with. -/
lemma newDirent_eq_ok {pszName : CString} {ulInode : ℕ} {de : Dirent}
    (h : newDirent pszName ulInode = .ok de) :
    de.acName = pszName.take (redNameLen pszName) ∧ de.ulInode = ulInode := by
  unfold newDirent at h
  dsimp only at h
  split_ifs at h
  obtain rfl := Except.ok.inj h
  exact ⟨rfl, rfl⟩

omit hver in
/-- A name without terminators and separators that does not start with a dot is accepted. -/
lemma newDirent_name {name : List UInt8} (ulInode : ℕ) (hne : name ≠ [])
    (hlen : name.length ≤ nameMax) (hclean : ∀ c ∈ name, c ≠ 0 ∧ c ≠ pathSeparator)
    (hdot : CString.at name 0 ≠ 46) :
    ∃ de, newDirent name ulInode = .ok de ∧ de.acName = name := by
  have hname : redNameLen name = name.length := by
    have h := redNameLen_append (s := []) hclean (Or.inl (CString.at_nil 0))
    rwa [List.append_nil] at h
  have hpos : name.length ≠ 0 := fun h0 => hne (List.length_eq_zero_iff.1 h0)
  have hok : ∃ de, newDirent name ulInode = .ok de := by
    unfold newDirent
    dsimp only
    rw [dif_neg (by omega), dif_neg (by omega), dif_neg (by simp [isDotOrDotDot, hdot])]
    exact ⟨_, rfl⟩
  obtain ⟨de, hde⟩ := hok
  refine ⟨de, hde, ?_⟩
  rw [(newDirent_eq_ok hde).1, hname, List.take_length]

/-- **`RedDirEntryCreate()`** puts a new entry into the first free slot. -/
theorem Holds.create (h : Holds s d l) {pszName : CString} {ulInode : ℕ} {d' : DirData}
    (hd : redDirEntryCreate s d pszName ulInode = .ok d') :
    ∃ k de, newDirent pszName ulInode = .ok de ∧ Holds s d' (Slots.put l k de) ∧
      k ≤ l.length ∧ Slots.at l k = none ∧ (∀ m < k, (Slots.at l m).isSome) ∧
      ∀ e, some e ∈ l → e.acName ≠ de.acName := by
  unfold redDirEntryCreate at hd
  rcases hde : newDirent pszName ulInode with e | de
  · rw [hde] at hd
    cases hd
  rcases hl : redDirEntryLookup s d pszName with e | ⟨found, k⟩
  · rw [hde, hl] at hd
    cases hd
  rw [hde, hl] at hd
  simp only [bind, Except.bind] at hd
  split_ifs at hd with hfound hfull
  obtain rfl : found = none := by simpa using hfound
  obtain ⟨hnone, hfree⟩ := h.lookup_free hver hl
  obtain ⟨hk, -, hat, hfirst⟩ := hfree hfull
  refine ⟨k, de, rfl, h.write hver hk hd, hk, hat, hfirst, ?_⟩
  intro e he hname
  apply hnone e he
  unfold Dirent.matches
  rw [hname, (newDirent_eq_ok hde).1]
  simp

/-- An entry of a new name is created behind the last one when no slot is free. -/
lemma Holds.append_ok (h : Holds s d l) {pszName : CString} {ulInode : ℕ} {de : Dirent}
    (hde : newDirent pszName ulInode = .ok de) (hused : ∀ o ∈ l, o.isSome)
    (hlen : l.length < s.direntsMax) (hfresh : ∀ e, some e ∈ l → e.acName ≠ de.acName) :
    ∃ d', redDirEntryCreate s d pszName ulInode = .ok d' ∧ Holds s d' (l ++ [some de]) := by
  have hinv := direntsMax_le (s := s) hver
  have hname := (newDirent_eq_ok hde).1
  have hlookup : redDirEntryLookup s d pszName = .ok (none, l.length) := by
    rw [h.lookup_eq hver]
    unfold newDirent at hde
    dsimp only at hde
    split_ifs at hde with h0 hmax hdot
    rw [if_neg h0, if_neg hmax]
    rcases hr : Slots.search (hasName pszName) DIR_INDEX_INVALID l 0 DIR_INDEX_INVALID with
      ⟨_ | ⟨j, e⟩, f⟩
    · obtain ⟨-, hfree⟩ := Slots.search_none hr (by omega)
      rcases hfree with ⟨hne, -⟩ | ⟨-, k, hk, -, hat, -⟩ | ⟨-, rfl, -⟩
      · exact absurd rfl hne
      · have := hused none (List.mem_of_getElem? hat)
        cases this
      · simp [lookupEnd, hlen]
    · obtain ⟨k, -, hat, hp, -⟩ := Slots.search_found hr
      have hmatch : e.acName = pszName.take (redNameLen pszName) := by
        simpa [hasName, Dirent.matches] using hp
      exact absurd (hmatch.trans hname.symm) (hfresh e (Slots.mem_iff.2 ⟨k, hat⟩))
  have hput : Slots.put l l.length de = l ++ [some de] := by
    simp [Slots.put]
  obtain ⟨d', hd'⟩ : ∃ d', dirEntryWrite s d l.length (some de) = .ok d' := by
    unfold dirEntryWrite
    rw [if_neg (by omega)]
    exact ⟨_, rfl⟩
  refine ⟨d', ?_, ?_⟩
  · unfold redDirEntryCreate
    rw [hde, hlookup]
    simp only [bind, Except.bind]
    rw [if_neg (by simp), if_neg (by omega), hd']
  · rw [← hput]
    exact h.write hver le_rfl hd'

/-! ## Deleting -/

omit hver in
/-- The backward search in a block cuts free slots off. -/
lemma lastInBlock_trim {b : ℕ → Option Dirent} {i n : ℕ}
    (hb : ∀ j < n, b j = Slots.at l (i + j)) :
    (∃ k < n, lastInBlock b n = some k ∧
      Slots.trim (l.take (i + n)) = l.take (i + k + 1)) ∨
    (lastInBlock b n = none ∧ Slots.trim (l.take (i + n)) = Slots.trim (l.take i)) := by
  induction n with
  | zero => exact Or.inr ⟨rfl, rfl⟩
  | succ n ih =>
    have hat := hb n (by omega)
    unfold lastInBlock
    rcases hn : b n with _ | de
    · rw [if_neg (by simp), ← Nat.add_assoc, Slots.trim_take_succ (by rw [← hat, hn])]
      rcases ih fun j hj => hb j (by omega) with ⟨k, hk, hlast, htrim⟩ | ⟨hlast, htrim⟩
      · exact Or.inl ⟨k, by omega, hlast, htrim⟩
      · exact Or.inr ⟨hlast, htrim⟩
    · rw [if_pos (show (some de).isSome = true from rfl)]
      refine Or.inl ⟨n, by omega, rfl, ?_⟩
      rw [← Nat.add_assoc, Slots.trim_take_of_at (a := de) (by rw [← hat, hn])]

/-- The successor of the index where the backward search stops. -/
lemma Holds.dirTruncLoop_eq (h : Holds s d l) :
    ∀ (fuel n : ℕ), n ≤ fuel → n ≤ l.length →
    ∃ t m, dirTruncLoop s d fuel (sub32 n 1) = .ok t ∧ u32 (t + 1) = m ∧ m ≤ n ∧
      Slots.trim (l.take n) = l.take m := by
  have hdpb := FS.direntsPerBlock_pos hver
  have hle := h.length_le
  have hinv := direntsMax_le (s := s) hver
  have hmaxeq : DIR_INDEX_INVALID = UINT32_MAX := rfl
  intro fuel
  induction fuel with
  | zero =>
    intro n hn hlen
    obtain rfl : n = 0 := by omega
    refine ⟨UINT32_MAX, 0, ?_, rfl, le_rfl, rfl⟩
    rfl
  | succ fuel ih =>
    intro n hn hlen
    cases n with
    | zero => exact ⟨UINT32_MAX, 0, rfl, rfl, le_rfl, rfl⟩
    | succ j =>
      have hj : sub32 (j + 1) 1 = j := by
        unfold sub32 u32
        unfold UINT32_MAX at hmaxeq
        omega
      have hjlt : j < UINT32_MAX := by omega
      rw [hj]
      unfold dirTruncLoop
      rw [if_neg (by omega)]
      obtain ⟨b, hb, -⟩ := h.block j (by omega)
      have hseek : d.redInodeDataSeekAndRead (j / s.direntsPerBlock) = .ok b := by
        unfold redInodeDataSeekAndRead
        rw [hb]
      have hdm := Nat.div_add_mod' j s.direntsPerBlock
      have hmod := Nat.mod_lt j hdpb
      have hblock : ∀ k < j % s.direntsPerBlock + 1,
          b k = Slots.at l (j / s.direntsPerBlock * s.direntsPerBlock + k) := by
        intro k hk
        obtain ⟨b', hb', hat⟩ := h.block (j / s.direntsPerBlock * s.direntsPerBlock + k)
          (by omega)
        have hdiv : (j / s.direntsPerBlock * s.direntsPerBlock + k) / s.direntsPerBlock =
            j / s.direntsPerBlock ∧
            (j / s.direntsPerBlock * s.direntsPerBlock + k) % s.direntsPerBlock = k := by
          refine (Nat.div_mod_unique hdpb).2 ⟨?_, by omega⟩
          rw [Nat.mul_comm]
          omega
        rw [hdiv.1, hb] at hb'
        obtain rfl := Option.some.inj hb'
        rw [hdiv.2] at hat
        exact hat
      simp only [hseek]
      have hend : j / s.direntsPerBlock * s.direntsPerBlock + (j % s.direntsPerBlock + 1) =
          j + 1 := by omega
      rcases lastInBlock_trim hblock with ⟨k, hk, hlast, htrim⟩ | ⟨hlast, htrim⟩
      · rw [hend] at htrim
        simp only [hlast]
        have hkeep : j - j % s.direntsPerBlock + k + 1 =
            j / s.direntsPerBlock * s.direntsPerBlock + k + 1 := by omega
        have hfit : u32 (j - j % s.direntsPerBlock + k + 1) =
            j - j % s.direntsPerBlock + k + 1 := by
          apply u32_of_le
          omega
        refine ⟨j - j % s.direntsPerBlock + k, j - j % s.direntsPerBlock + k + 1, rfl, hfit, ?_, ?_⟩
        · omega
        · rw [htrim, hkeep]
      · rw [hend] at htrim
        simp only [hlast]
        have hnext : sub32 j (j % s.direntsPerBlock + 1) =
            sub32 (j / s.direntsPerBlock * s.direntsPerBlock) 1 := by
          have hdiff : j + 4294967296 - (j % s.direntsPerBlock + 1) =
              j / s.direntsPerBlock * s.direntsPerBlock + 4294967296 - 1 := by omega
          unfold sub32
          rw [hdiff]
        rw [hnext, htrim]
        obtain ⟨t, m, ht, hm, hmn, htrim'⟩ := ih (j / s.direntsPerBlock * s.direntsPerBlock)
          (by omega) (by omega)
        exact ⟨t, m, ht, hm, by omega, htrim'⟩

/-- **`RedDirEntryDelete()`** frees the slot. -/
theorem Holds.delete (h : Holds s d l) {k : ℕ} {d' : DirData}
    (hd : redDirEntryDelete s d k = .ok d') : k < l.length ∧ Holds s d' (Slots.free l k) := by
  have hle := h.length_le
  unfold redDirEntryDelete at hd
  dsimp only at hd
  rw [h.size] at hd
  split_ifs at hd with hbad hlast
  · -- the last slot: the free slots before it go with it
    rw [FS.offset_add_eq_iff hver] at hlast
    refine ⟨by omega, ?_⟩
    obtain ⟨t, m, ht, hm, hmk, htrim⟩ := h.dirTruncLoop_eq hver k k le_rfl (by omega)
    rw [ht] at hd
    simp only [bind, Except.bind, hm, FS.dirTruncSize_eq hver] at hd
    obtain rfl := Except.ok.inj hd
    unfold Slots.free
    rw [if_pos hlast]
    have hlen : (Slots.trim (l.take k)).length = m := by
      rw [htrim, List.length_take]
      omega
    constructor
    · rw [hlen]
      rfl
    · intro j hj
      rw [hlen] at hj
      obtain ⟨b, hb, hat⟩ := h.block j (by omega)
      refine ⟨b, ?_, ?_⟩
      · unfold redInodeDataTruncate
        dsimp only
        rw [if_pos, hb]
        have h1 := (FS.offset_lt_iff (s := s) hver).2 hj
        unfold FS.dirEntryIndexToOffset at h1
        omega
      · rw [hat, Slots.at_trim, Slots.at_take (by omega)]
    · omega
    · exact Slots.trimmed_trim
  · rw [FS.offset_add_eq_iff hver] at hlast
    have hlt : k < l.length := by
      by_contra hk
      apply hbad
      right
      by_contra hoff
      exact hk ((FS.offset_lt_iff hver).1 (by omega))
    exact ⟨hlt, h.clear hver (by omega) hd⟩

/-- A slot of the array can be freed. -/
lemma Holds.delete_ok (h : Holds s d l) {k : ℕ} (hk : k < l.length) :
    ∃ d', redDirEntryDelete s d k = .ok d' := by
  have hle := h.length_le
  unfold redDirEntryDelete
  dsimp only
  rw [h.size]
  have hoff := (FS.offset_lt_iff (s := s) hver).2 hk
  rw [if_neg (by omega)]
  split_ifs with hlast
  · obtain ⟨t, m, ht, -⟩ := h.dirTruncLoop_eq hver k k le_rfl hk.le
    rw [ht]
    exact ⟨_, rfl⟩
  · unfold dirEntryWrite
    rw [if_neg (by omega)]
    exact ⟨_, rfl⟩

end DirData

end RelianceEdge
