import RelianceEdge.Alloc.Agree
import RelianceEdge.Space.DirSlots
import RelianceEdge.Tree.Path

set_option relaxedAutoImplicit false
set_option autoImplicit false
set_option linter.unusedSectionVars false

/-!
# The number of entries of a directory

`DirOffsetToEntryIndex()` as it is compiled, with its assertions and its 32-bit arithmetic, on
every size that creating and deleting entries can give a directory.

## Main definitions

* `FS.dirOffsetToEntryIndex32` — the function, without a result when an assertion fails.
* `DirReach` — the directories that creations and deletions lead to.
* `SizeExact` — the size stands for the number of entries.
* `DirFull` — every entry that the inode can address is there, and fills its block.

## Main results

* `dirIndex_exact_iff` — the size is understood unless the directory is full.
* `dirOffset_rejects_full` — a full directory fails an assertion.
-/

namespace RelianceEdge

variable [RedConf]

open RedConf

/-! ## The function -/

/-- `DirOffsetToEntryIndex()`, in `uint32_t`; `none` is a failed `REDASSERT()`. -/
def FS.dirOffsetToEntryIndex32 (s : FS) (ullOffset : ℕ) : Option ℕ :=
  let ulOffsetIntoBlock := u32 (ullOffset % blockSize)
  if inodeSizeMax ≤ ullOffset then none
  else
    let ulIdx := u32 (u32 (ullOffset / blockSize) * s.direntsPerBlock)
    if ulOffsetIntoBlock = 0 then some ulIdx
    else if RED_DISK_LAYOUT_DIRCRC ≤ s.core.ulVersion then
      if ulOffsetIntoBlock < NODEHEADER_SIZE then none
      else if (ulOffsetIntoBlock - NODEHEADER_SIZE) % direntSize ≠ 0 then none
      else some (u32 (ulIdx + (ulOffsetIntoBlock - NODEHEADER_SIZE) / direntSize))
    else if ulOffsetIntoBlock % direntSize ≠ 0 then none
    else some (u32 (ulIdx + ulOffsetIntoBlock / direntSize))

variable {s : FS} (hver : redDiskLayoutIsSupported s.core.ulVersion)

include hver

/-- An entry that an inode can address lies inside one of its blocks, behind the header. -/
lemma entry_in_block {k : ℕ} (hk : k < s.direntsMax) :
    k / s.direntsPerBlock < inodeDataBlocks ∧
      k / s.direntsPerBlock * blockSize + s.direntsOffset ≤ s.dirEntryIndexToOffset k ∧
      s.dirEntryIndexToOffset k + direntSize ≤ (k / s.direntsPerBlock + 1) * blockSize ∧
      s.dirEntryIndexToOffset k + direntSize ≤ inodeSizeMax := by
  have hdpb := FS.direntsPerBlock_pos hver
  have hend := FS.entry_end_le hver (Nat.mod_lt k hdpb)
  have hlt : k / s.direntsPerBlock < inodeDataBlocks := by
    apply (Nat.div_lt_iff_lt_mul hdpb).2
    exact hk.trans_le (Nat.min_le_right _ _)
  have hblock : (k / s.direntsPerBlock + 1) * blockSize ≤ inodeSizeMax := by
    unfold inodeSizeMax
    rw [Nat.mul_comm blockSize]
    exact Nat.mul_le_mul_right _ hlt
  have hinto :
      s.dirEntryIndexToOffset k + direntSize ≤ (k / s.direntsPerBlock + 1) * blockSize := by
    unfold FS.dirEntryIndexToOffset
    rw [Nat.succ_mul]
    omega
  refine ⟨hlt, ?_, hinto, hinto.trans hblock⟩
  unfold FS.dirEntryIndexToOffset
  omega

/-- **The number of entries is computed** from the size of a directory, as long as the size is
below `INODE_SIZE_MAX`. -/
theorem dirOffsetToEntryIndex32_eq {n : ℕ} (hn : n ≤ s.direntsMax) :
    s.dirOffsetToEntryIndex32 (s.direntsSize n) =
      if inodeSizeMax ≤ s.direntsSize n then none else some n := by
  have hbs : blockSize ≤ 65536 := blockSize_le
  have hbpos := FS.blockSize_pos
  have hcount := FS.dirOffsetToEntryIndex_direntsSize hver n
  have hmax : s.direntsMax ≤ UINT32_MAX := Nat.min_le_left _ _
  have hblocks := inodeDataBlocks_le
  have hsz := FS.direntSize_pos
  have hmod := Nat.mod_lt (s.direntsSize n) hbpos
  have hu : u32 (s.direntsSize n % blockSize) = s.direntsSize n % blockSize := by
    apply u32_of_le
    unfold UINT32_MAX
    omega
  unfold FS.dirOffsetToEntryIndex32
  dsimp only
  rw [hu]
  by_cases hbig : inodeSizeMax ≤ s.direntsSize n
  · rw [if_pos hbig, if_pos hbig]
  rw [if_neg hbig, if_neg hbig]
  have hdiv : s.direntsSize n / blockSize < inodeDataBlocks := by
    apply (Nat.div_lt_iff_lt_mul hbpos).2
    unfold inodeSizeMax at hbig
    rw [Nat.mul_comm]
    omega
  have hu1 : u32 (s.direntsSize n / blockSize) = s.direntsSize n / blockSize :=
    u32_of_le (by omega)
  rw [hu1]
  unfold FS.dirOffsetToEntryIndex at hcount
  have hle : s.direntsSize n / blockSize * s.direntsPerBlock ≤ n := by
    exact (Nat.le_add_right _ _).trans hcount.le
  rw [u32_of_le (show s.direntsSize n / blockSize * s.direntsPerBlock ≤ UINT32_MAX by omega)]
  by_cases hzero : s.direntsSize n % blockSize = 0
  · rw [if_pos hzero]
    rw [if_neg (by omega)] at hcount
    rw [Nat.add_zero] at hcount
    rw [hcount]
  rw [if_neg hzero]
  rw [if_pos hzero] at hcount
  -- the size ends with an entry
  obtain ⟨r, hr⟩ : ∃ r, s.direntsSize n % blockSize = s.direntsOffset + r * direntSize := by
    cases n with
    | zero =>
      rw [FS.direntsSize, if_pos rfl, Nat.zero_mod] at hzero
      exact absurd rfl hzero
    | succ k =>
      have hdpb := FS.direntsPerBlock_pos hver
      have hend := FS.entry_end_le hver (Nat.mod_lt k hdpb)
      refine ⟨k % s.direntsPerBlock + 1, ?_⟩
      have hsize : s.direntsSize (k + 1) = blockSize * (k / s.direntsPerBlock) +
          (s.direntsOffset + (k % s.direntsPerBlock * direntSize + direntSize)) := by
        rw [← FS.offset_add_eq, FS.dirEntryIndexToOffset, Nat.mul_comm blockSize]
        omega
      rw [hsize, Nat.mul_add_mod] at hzero ⊢
      rw [Nat.succ_mul]
      apply Nat.mod_eq_of_lt
      by_contra hge
      have heq : s.direntsOffset + (k % s.direntsPerBlock * direntSize + direntSize) =
          blockSize := by omega
      rw [heq, Nat.mod_self] at hzero
      exact hzero rfl
  rw [hr, Nat.add_sub_cancel_left, Nat.mul_div_cancel _ hsz] at hcount
  rw [hr]
  by_cases hv : RED_DISK_LAYOUT_DIRCRC ≤ s.core.ulVersion
  · have hoff : s.direntsOffset = NODEHEADER_SIZE := if_pos hv
    rw [if_pos hv, hoff, if_neg (by omega), Nat.add_sub_cancel_left, Nat.mul_mod_left,
      if_neg (by simp), Nat.mul_div_cancel _ hsz, hcount, u32_of_le (by omega)]
  · have hoff : s.direntsOffset = 0 := if_neg hv
    rw [if_neg hv, hoff, Nat.zero_add, Nat.mul_mod_left, if_neg (by simp),
      Nat.mul_div_cancel _ hsz, hcount, u32_of_le (by omega)]

omit hver

/-! ## Directories that are reached -/

/-- **The directories** that creations and deletions of entries lead to. -/
inductive DirReach (s : FS) : DirData → Prop
  | empty : DirReach s .empty
  | create {d d' : DirData} {pszName : CString} {ulInode : ℕ} (h : DirReach s d)
      (hd : d.redDirEntryCreate s pszName ulInode = .ok d') : DirReach s d'
  | delete {d d' : DirData} {ulDeleteIdx : ℕ} (h : DirReach s d)
      (hd : d.redDirEntryDelete s ulDeleteIdx = .ok d') : DirReach s d'

/-- **The size of a directory stands for the number of its entries**: it is understood, no product
on the way leaves 32 bits, an entry written at that index gives the next size, and deleting the
last entry gives the size of a shorter directory, which ends with an entry in use. -/
def SizeExact (s : FS) (d : DirData) : Prop :=
  ∃ n, s.dirOffsetToEntryIndex32 d.ullSize = some n ∧
    (∀ k, s.dirEntryIndexToOffset k < d.ullSize ↔ k < n) ∧
    d.ullSize / blockSize * s.direntsPerBlock ≤ UINT32_MAX ∧
    (∀ de, n < s.direntsMax → ∃ d', d.dirEntryWrite s n de = .ok d' ∧
      d'.ullSize = s.direntsSize (n + 1)) ∧
    (0 < n → ∃ d' m, d.redDirEntryDelete s (n - 1) = .ok d' ∧ d'.ullSize = s.direntsSize m ∧
      m < n ∧ (0 < m → ∃ b, d'.block ((m - 1) / s.direntsPerBlock) = some b ∧
        (b ((m - 1) % s.direntsPerBlock)).isSome))

/-- **The directory is full**: every entry that the inode can address lies below the size, and the
last one ends its block. -/
def DirFull (s : FS) (d : DirData) : Prop :=
  s.dirBlockUnusedSpace = 0 ∧ s.direntsMax = inodeDataBlocks * s.direntsPerBlock ∧
    ∀ k < s.direntsMax, s.dirEntryIndexToOffset k < d.ullSize

include hver

/-- Every directory reached holds an array of slots. -/
theorem DirReach.holds {d : DirData} (h : DirReach s d) : ∃ l, DirData.Holds s d l := by
  induction h with
  | empty => exact ⟨[], DirData.empty_holds⟩
  | create _ hd ih =>
    obtain ⟨l, hl⟩ := ih
    obtain ⟨k, de, -, hput, -⟩ := hl.create hver hd
    exact ⟨_, hput⟩
  | delete _ hd ih =>
    obtain ⟨l, hl⟩ := ih
    exact ⟨_, (hl.delete hver hd).2⟩

/-- A directory takes up all that the inode can address when it is full. -/
lemma direntsSize_max_iff {n : ℕ} (hn : n ≤ s.direntsMax) (hpos : 0 < inodeDataBlocks) :
    inodeSizeMax ≤ s.direntsSize n ↔
      s.dirBlockUnusedSpace = 0 ∧ s.direntsMax = inodeDataBlocks * s.direntsPerBlock ∧
        n = s.direntsMax := by
  have hdpb := FS.direntsPerBlock_pos hver
  have hfit := FS.direntsPerBlock_mul_le hver
  have hsz := FS.direntSize_pos
  have hbs := FS.blockSize_pos
  have hlast : s.direntsSize (inodeDataBlocks * s.direntsPerBlock) =
      (inodeDataBlocks - 1) * blockSize + (s.direntsOffset + s.direntsPerBlock * direntSize) := by
    obtain ⟨b, hb⟩ : ∃ b, inodeDataBlocks = b + 1 := ⟨inodeDataBlocks - 1, by omega⟩
    obtain ⟨r, hr⟩ : ∃ r, s.direntsPerBlock = r + 1 := ⟨s.direntsPerBlock - 1, by omega⟩
    have hidx : inodeDataBlocks * s.direntsPerBlock = s.direntsPerBlock * b + r + 1 := by
      rw [hb, Nat.succ_mul, Nat.mul_comm b]
      omega
    have hdm : (s.direntsPerBlock * b + r) / s.direntsPerBlock = b ∧
        (s.direntsPerBlock * b + r) % s.direntsPerBlock = r := by
      refine (Nat.div_mod_unique hdpb).2 ⟨?_, by omega⟩
      omega
    rw [hidx, ← FS.offset_add_eq, FS.dirEntryIndexToOffset, hdm.1, hdm.2, hb, Nat.add_sub_cancel]
    conv_rhs => rw [hr, Nat.succ_mul]
    omega
  have hmax : inodeSizeMax = (inodeDataBlocks - 1) * blockSize + blockSize := by
    rw [← Nat.succ_mul, Nat.succ_eq_add_one, Nat.sub_add_cancel hpos, inodeSizeMax, Nat.mul_comm]
  have hle : s.direntsMax ≤ inodeDataBlocks * s.direntsPerBlock := Nat.min_le_right _ _
  have hunused : s.dirBlockUnusedSpace =
      blockSize - (s.direntsOffset + s.direntsPerBlock * direntSize) := by
    rw [FS.dirBlockUnusedSpace, Nat.mul_comm direntSize]
  constructor
  · intro hbig
    have hall : n = inodeDataBlocks * s.direntsPerBlock := by
      by_contra hne
      -- one more entry would still fit
      have hlt : n < inodeDataBlocks * s.direntsPerBlock := by omega
      have h1 := (FS.offset_lt_iff (s := s) hver).2 hlt
      cases n with
      | zero =>
        simp only [FS.direntsSize, if_true] at hbig
        omega
      | succ k =>
        have h2 := FS.offset_add_le hver k
        have h3 := FS.offset_add_eq (s := s) k
        omega
    rw [hall, hlast, hmax] at hbig
    refine ⟨by omega, by omega, by omega⟩
  · rintro ⟨h0, heq, rfl⟩
    rw [heq, hlast, hmax]
    omega

/-- **The size of a directory stands for the number of its entries** unless the directory is
full. -/
theorem sizeExact_iff {d : DirData} (h : DirReach s d) : SizeExact s d ↔ ¬ DirFull s d := by
  obtain ⟨l, hl⟩ := h.holds hver
  have hdpb := FS.direntsPerBlock_pos hver
  have hsize := hl.size
  have hlen := hl.length_le
  have hmax : s.direntsMax ≤ UINT32_MAX := Nat.min_le_left _ _
  have hindex := dirOffsetToEntryIndex32_eq hver hlen
  have hbelow : ∀ k, s.dirEntryIndexToOffset k < d.ullSize ↔ k < l.length := by
    intro k
    rw [hsize]
    exact FS.offset_lt_iff hver
  have hfull : DirFull s d ↔ inodeSizeMax ≤ s.direntsSize l.length := by
    by_cases hpos : 0 < inodeDataBlocks
    · rw [direntsSize_max_iff hver hlen hpos]
      unfold DirFull
      constructor
      · rintro ⟨h1, h2, h3⟩
        refine ⟨h1, h2, ?_⟩
        by_contra hne
        have := (hbelow l.length).1 (h3 _ (by omega))
        omega
      · rintro ⟨h1, h2, h3⟩
        exact ⟨h1, h2, fun k hk => (hbelow k).2 (by omega)⟩
    · -- an inode that addresses no block is not configured
      exfalso
      have hb : blockSizeP2 ≤ 16 := blockSizeP2_mem.2
      have hdd := dindirDataBlocks_pos
      have hentries : 0 < inodeEntries := by
        have h128 : 128 ≤ blockSize := blockSize_ge
        unfold blockSize at h128
        unfold inodeEntries inodeEntriesOf inodeHeaderSizeOf
        split_ifs <;> omega
      have hind := indirEntries_pos
      have hpl := pointers_le_entries
      have h1 := inodeEntries_lt
      unfold COORD_ENTRY_INVALID UINT16_MAX at h1
      unfold inodeDataBlocks at hpos
      have hd0 : directPointers = 0 := by omega
      have hi0 : indirectPointers = 0 := by
        by_contra hne
        have : 0 < inodeIndirBlocks := Nat.mul_pos (by omega) hind
        omega
      have hdp : dindirPointers = inodeEntries := by
        unfold dindirPointers
        omega
      have hdmax : inodeDindirBlocksMax = UINT32_MAX := by
        unfold inodeDindirBlocksMax inodeIndirBlocks
        rw [hd0, hi0, Nat.zero_mul, Nat.add_zero, Nat.sub_zero]
      have hdb : 0 < inodeDindirBlocks := by
        unfold inodeDindirBlocks
        split_ifs
        · rw [hdmax]
          decide
        · rw [hdp]
          exact Nat.mul_pos hentries hdd
      omega
  have hdivle : s.direntsSize l.length / blockSize * s.direntsPerBlock ≤ l.length := by
    have hcount := FS.dirOffsetToEntryIndex_direntsSize hver l.length
    unfold FS.dirOffsetToEntryIndex at hcount
    exact (Nat.le_add_right _ _).trans hcount.le
  rw [hfull]
  constructor
  · rintro ⟨n, hn, -⟩ hbig
    rw [hsize, hindex, if_pos hbig] at hn
    cases hn
  · intro hsmall
    refine ⟨l.length, by rw [hsize, hindex, if_neg hsmall], hbelow, by rw [hsize]; omega, ?_, ?_⟩
    · intro de hlt
      refine ⟨_, if_neg (by omega), ?_⟩
      rw [DirData.write_size hver hl, max_eq_right (by omega)]
    · intro hpos
      obtain ⟨d', hd'⟩ := hl.delete_ok hver (show l.length - 1 < l.length by omega)
      obtain ⟨-, hl'⟩ := hl.delete hver hd'
      refine ⟨d', (Slots.free l (l.length - 1)).length, hd', hl'.size, ?_, ?_⟩
      · have := Slots.length_trim_le (l := l.take (l.length - 1))
        unfold Slots.free
        rw [if_pos (by omega)]
        rw [List.length_take] at this
        omega
      · intro hm
        obtain ⟨b, hb, hat⟩ := hl'.block ((Slots.free l (l.length - 1)).length - 1) (by omega)
        refine ⟨b, hb, ?_⟩
        rw [hat]
        rcases Slots.trimmed_iff.1 hl'.trimmed with hnil | hlast
        · rw [hnil] at hm
          cases hm
        · exact hlast

omit hver

/-- **Entries do not overlap**, in every layout, and the size of a directory stands for the number
of its entries unless the directory is full. -/
theorem dirIndex_exact_iff (s : FS) (hver : redDiskLayoutIsSupported s.core.ulVersion) :
    (∀ j k, j < k → s.dirEntryIndexToOffset j + direntSize ≤ s.dirEntryIndexToOffset k) ∧
    (∀ k < s.direntsMax, ∃ b < inodeDataBlocks,
      b * blockSize + s.direntsOffset ≤ s.dirEntryIndexToOffset k ∧
      s.dirEntryIndexToOffset k + direntSize ≤ (b + 1) * blockSize ∧
      s.dirEntryIndexToOffset k + direntSize ≤ inodeSizeMax) ∧
    ∀ d, DirReach s d → (SizeExact s d ↔ ¬ DirFull s d) := by
  refine ⟨?_, ?_, fun d hd => sizeExact_iff hver hd⟩
  · intro j k hjk
    rw [FS.offset_add_eq]
    cases k with
    | zero => omega
    | succ i =>
      have h1 := FS.direntsSize_mono hver (show j + 1 ≤ i + 1 by omega)
      have h2 := FS.offset_add_le hver i
      rw [FS.offset_add_eq] at h2
      exact h1.trans h2
  · intro k hk
    exact ⟨_, entry_in_block hver hk⟩

set_option maxRecDepth 4000 in
omit [RedConf] in
/-- Two entries are created, and the first one is deleted: the size is that of two entries. -/
lemma dirReach_small : letI := smallConf
    ∃ d d' d'', DirData.empty.redDirEntryCreate (emptyVolume 5 64 8) [97] 3 = .ok d ∧
      d.redDirEntryCreate (emptyVolume 5 64 8) [98] 4 = .ok d' ∧
      d'.redDirEntryDelete (emptyVolume 5 64 8) 0 = .ok d'' ∧
      d''.ullSize = (emptyVolume 5 64 8).direntsSize 2 ∧
      ¬ (emptyVolume 5 64 8).dirEntryIndexToOffset 2 < d''.ullSize := by
  exact ⟨_, _, _, rfl, rfl, rfl, by decide, by decide⟩

omit [RedConf] in
/-- The theorem on a directory whose first entry has been deleted. -/
theorem dirIndex_exact_iff_small : letI := smallConf
    let s := emptyVolume 5 64 8
    (∀ j k, j < k → s.dirEntryIndexToOffset j + direntSize ≤ s.dirEntryIndexToOffset k) ∧
    ∃ d d' d'', DirData.empty.redDirEntryCreate s [97] 3 = .ok d ∧
      d.redDirEntryCreate s [98] 4 = .ok d' ∧ d'.redDirEntryDelete s 0 = .ok d'' ∧
      d''.ullSize = s.direntsSize 2 ∧ SizeExact s d'' := by
  let _ := smallConf
  have h := dirIndex_exact_iff (emptyVolume 5 64 8) (by decide)
  obtain ⟨d, d', d'', h1, h2, h3, hsize, hnot⟩ := dirReach_small
  have hreach : DirReach (emptyVolume 5 64 8) d'' :=
    ((DirReach.empty.create h1).create h2).delete h3
  exact ⟨h.1, d, d', d'', h1, h2, h3, hsize,
    (h.2.2 d'' hreach).2 fun hfull => hnot (hfull.2.2 2 (by decide))⟩

/-! ## A full directory -/

/-- A configuration in which an inode addresses 19 blocks, and an entry fills a block. -/
abbrev fullDirConf : RedConf where
  blockSizeP2 := 7
  deleteOpen := true
  directPointers := 19
  indirectPointers := 0
  nameMax := 108
  pathSeparator := 47
  bufferCount := 8
  fAtomicSectorWrite := false
  blockSizeP2_mem := by decide
  pointers_le := by decide
  nameMax_mem := by decide
  pathSeparator_mem := smallConf.pathSeparator_mem
  pathSeparator_ne_dot := smallConf.pathSeparator_ne_dot
  bufferCount_le := by decide
  bufferCount_ge := by decide

/-- A name of one byte. -/
lemma newDirent_byte {c : UInt8} (ulInode : ℕ) (h0 : c ≠ 0) (hsep : c ≠ pathSeparator)
    (hdot : c ≠ 46) : ∃ de, DirData.newDirent [c] ulInode = .ok de ∧ de.acName = [c] := by
  exact DirData.newDirent_name ulInode (List.cons_ne_nil _ _) nameMax_mem.1
    (fun b hb => by
      rw [List.mem_singleton.1 hb]
      exact ⟨h0, hsep⟩) hdot

/-- Directories of up to `n` entries are reached, as long as there is room. -/
lemma dirReach_of_names (hver : redDiskLayoutIsSupported s.core.ulVersion) (name : ℕ → CString)
    (hname : ∀ k < s.direntsMax, ∃ de, DirData.newDirent (name k) INODE_FIRST_FREE = .ok de ∧
      de.acName = name k) (hinj : ∀ j k, j < k → k < s.direntsMax → name j ≠ name k)
    {n : ℕ} (hn : n ≤ s.direntsMax) :
    ∃ d l, DirReach s d ∧ DirData.Holds s d l ∧ l.length = n ∧
      ∀ o ∈ l, ∃ e, o = some e ∧ ∃ k < n, e.acName = name k := by
  induction n with
  | zero => exact ⟨.empty, [], .empty, DirData.empty_holds, rfl, by simp⟩
  | succ n ih =>
    obtain ⟨d, l, hd, hl, hlen, hused⟩ := ih (by omega)
    obtain ⟨de, hde, hdename⟩ := hname n (by omega)
    have hfresh : ∀ e, some e ∈ l → e.acName ≠ de.acName := by
      intro e he hee
      obtain ⟨e', he', k, hk, hk'⟩ := hused _ he
      obtain rfl := Option.some.inj he'
      exact hinj k n hk (by omega) (by rw [← hk', hee, hdename])
    obtain ⟨d', hd', hl'⟩ := hl.append_ok hver hde
      (fun o ho => by obtain ⟨e, rfl, -⟩ := hused o ho; rfl) (by omega) hfresh
    refine ⟨d', _, .create hd hd', hl', by simp [hlen], ?_⟩
    intro o ho
    rcases List.mem_append.1 ho with ho | ho
    · obtain ⟨e, rfl, k, hk, he⟩ := hused o ho
      exact ⟨e, rfl, k, by omega, he⟩
    · exact ⟨de, List.mem_singleton.1 ho, n, by omega, hdename⟩

omit [RedConf] in
/-- **A full directory fails an assertion**: with 19 entries in its 19 blocks, the size of a
directory is not below `INODE_SIZE_MAX`. -/
theorem dirOffset_rejects_full : letI := fullDirConf
    ∃ d, DirReach (emptyVolume 5 64 8) d ∧
      (emptyVolume 5 64 8).dirOffsetToEntryIndex32 d.ullSize = none := by
  let _ := fullDirConf
  have hver : redDiskLayoutIsSupported (emptyVolume 5 64 8).core.ulVersion := by decide
  have hbyte : ∀ k < 19, (UInt8.ofNat (65 + k)).toNat = 65 + k := by
    intro k hk
    rw [UInt8.toNat_ofNat']
    omega
  have hmax : (emptyVolume 5 64 8).direntsMax = 19 := by decide
  have hname : ∀ k < (emptyVolume 5 64 8).direntsMax, ∃ de,
      DirData.newDirent [UInt8.ofNat (65 + k)] INODE_FIRST_FREE = .ok de ∧
        de.acName = [UInt8.ofNat (65 + k)] := by
    intro k hk
    have h8 := hbyte k (by omega)
    apply newDirent_byte
    · intro h0
      rw [h0, UInt8.toNat_zero] at h8
      omega
    · intro hsep
      rw [hsep, show (pathSeparator : UInt8).toNat = 47 from rfl] at h8
      omega
    · intro hdot
      rw [hdot, show (46 : UInt8).toNat = 46 from rfl] at h8
      omega
  have hinj : ∀ j k, j < k → k < (emptyVolume 5 64 8).direntsMax →
      [UInt8.ofNat (65 + j)] ≠ [UInt8.ofNat (65 + k)] := by
    intro j k hjk hk he
    have hk19 : k < 19 := by omega
    have h8 := congrArg UInt8.toNat (List.singleton_injective he)
    rw [hbyte j (by omega), hbyte k hk19] at h8
    omega
  obtain ⟨d, l, hd, hl, hlen, -⟩ := dirReach_of_names hver
    (fun k => [UInt8.ofNat (65 + k)]) hname hinj (n := 19) (by decide)
  refine ⟨d, hd, ?_⟩
  rw [hl.size, hlen, dirOffsetToEntryIndex32_eq hver (by decide)]
  decide

end RelianceEdge
