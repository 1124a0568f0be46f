import RelianceEdge.InodeData

set_option relaxedAutoImplicit false
set_option autoImplicit false
set_option linter.unusedSectionVars false

/-!
# Paths to the nodes of an inode

A node of an inode is named by the entries that lead to it, the last one first: `[]` is the inode,
`[e]` what its entry `e` points to, `[j, e]` what entry `j` of that points to.

## Main definitions

* `kindOf` — the kind of node at a path.
* `firstBlock` — the first logical block that a node covers.
* `dataPath`, `indirPath`, `dindirPath` — the nodes on the way to a logical block.

## Main results

* `kindOf_dataPath`, `firstBlock_dataPath` — the data node of a logical block.
-/

namespace RelianceEdge

variable [RedConf]

open RedConf

/-! ## Sizes -/

lemma blockSize_ge : 128 ≤ blockSize := by
  have : 2 ^ 7 ≤ blockSize := Nat.pow_le_pow_right (by decide) blockSizeP2_mem.1
  omega

lemma blockSize_le : blockSize ≤ 65536 := by
  have : blockSize ≤ 2 ^ 16 := Nat.pow_le_pow_right (by decide) blockSizeP2_mem.2
  omega

lemma indirEntries_pos : 0 < indirEntries := by
  have := blockSize_ge
  unfold indirEntries
  omega

lemma indirEntries_lt : indirEntries < COORD_ENTRY_INVALID := by
  have := blockSize_le
  unfold indirEntries COORD_ENTRY_INVALID UINT16_MAX
  omega

lemma dindirDataBlocks_pos : 0 < dindirDataBlocks :=
  Nat.mul_pos indirEntries_pos indirEntries_pos

lemma inodeEntries_lt : inodeEntries < COORD_ENTRY_INVALID := by
  have h : blockSize ≤ 65536 := blockSize_le
  unfold blockSize at h
  unfold inodeEntries inodeEntriesOf COORD_ENTRY_INVALID UINT16_MAX
  omega

lemma pointers_le_entries : directPointers + indirectPointers ≤ inodeEntries := pointers_le

lemma inodeDindirBlocks_le : inodeDindirBlocks ≤ dindirPointers * dindirDataBlocks := by
  unfold inodeDindirBlocks
  split_ifs with h
  · have hpos := dindirDataBlocks_pos
    have h1 : inodeDindirBlocksMax ≤ dindirPointersMax * dindirDataBlocks := by
      have h2 := Nat.div_add_mod inodeDindirBlocksMax dindirDataBlocks
      have h3 := Nat.mod_lt inodeDindirBlocksMax hpos
      unfold dindirPointersMax
      rw [Nat.add_mul, Nat.mul_comm _ dindirDataBlocks]
      split_ifs with h4 <;> omega
    exact h1.trans (Nat.mul_le_mul_right _ h)
  · exact le_rfl

lemma inodeIndirBlocks_le : directPointers + inodeIndirBlocks ≤ UINT32_MAX := by
  have h1 : directPointers + indirectPointers ≤ 16384 := by
    have h2 : blockSize ≤ 65536 := blockSize_le
    have h3 := pointers_le
    unfold blockSize at h2
    unfold inodeEntriesOf at h3
    omega
  have h2 : indirEntries ≤ 16384 := by
    have := blockSize_le
    unfold indirEntries
    omega
  have h3 : inodeIndirBlocks ≤ 16384 * 16384 := Nat.mul_le_mul (by omega) h2
  unfold UINT32_MAX
  omega

lemma inodeDindirBlocks_le_max : inodeDindirBlocks ≤ inodeDindirBlocksMax := by
  unfold inodeDindirBlocks
  by_cases hle : dindirPointersMax ≤ dindirPointers
  · rw [if_pos hle]
  · rw [if_neg hle]
    have hlt : dindirPointers ≤ inodeDindirBlocksMax / dindirDataBlocks := by
      unfold dindirPointersMax at hle
      split_ifs at hle <;> omega
    exact (Nat.mul_le_mul_right _ hlt).trans (Nat.div_mul_le_self _ _)

lemma inodeDataBlocks_le : inodeDataBlocks ≤ UINT32_MAX := by
  have h1 := inodeIndirBlocks_le
  have h2 := inodeDindirBlocks_le_max
  unfold inodeDindirBlocksMax at h2
  unfold inodeDataBlocks
  omega

/-! ## Kinds -/

/-- The kind of node that a path leads to, if there is one. -/
def kindOf : List ℕ → Option BranchDepth
  | [] => none
  | [e] =>
    if e < directPointers then some .fileData
    else if e < directPointers + indirectPointers then some .indir
    else if e < inodeEntries then some .dindir
    else none
  | j :: p =>
    match kindOf p with
    | some .indir => if j < indirEntries then some .fileData else none
    | some .dindir => if j < indirEntries then some .indir else none
    | _ => none

/-- The number of logical blocks that a node of a kind covers. -/
def BranchDepth.span : BranchDepth → ℕ
  | .fileData => 1
  | .indir => indirEntries
  | .dindir => dindirDataBlocks

/-- The number of logical blocks that a node covers. -/
def spanOf (p : List ℕ) : ℕ := ((kindOf p).map BranchDepth.span).getD 0

/-- The first logical block that a node covers. -/
def firstBlock : List ℕ → ℕ
  | [] => 0
  | [e] =>
    if e < directPointers then e
    else if e < directPointers + indirectPointers then
      directPointers + (e - directPointers) * indirEntries
    else directPointers + inodeIndirBlocks +
      (e - directPointers - indirectPointers) * dindirDataBlocks
  | j :: p => firstBlock p + j * spanOf (j :: p)

lemma kindOf_cons_of_indir {p : List ℕ} (h : kindOf p = some .indir) (j : ℕ) :
    kindOf (j :: p) = if j < indirEntries then some .fileData else none := by
  cases p with
  | nil => cases h
  | cons e p => simp [kindOf, h]

lemma kindOf_cons_of_dindir {p : List ℕ} (h : kindOf p = some .dindir) (j : ℕ) :
    kindOf (j :: p) = if j < indirEntries then some .indir else none := by
  cases p with
  | nil => cases h
  | cons e p => simp [kindOf, h]

lemma firstBlock_cons {p : List ℕ} (h : p ≠ []) (j : ℕ) :
    firstBlock (j :: p) = firstBlock p + j * spanOf (j :: p) := by
  cases p with
  | nil => exact absurd rfl h
  | cons e p => rfl

lemma spanOf_of_kind {p : List ℕ} {d : BranchDepth} (h : kindOf p = some d) :
    spanOf p = d.span := by
  simp [spanOf, h]

/-! ## The way to a logical block -/

/-- `uInodeEntry` of a logical block. -/
def inodeEntryOf (ulBlock : ℕ) : ℕ :=
  if ulBlock < directPointers then ulBlock
  else if ulBlock < inodeIndirBlocks + directPointers then
    (ulBlock - directPointers) / indirEntries + directPointers
  else (ulBlock - directPointers - inodeIndirBlocks) / dindirDataBlocks + directPointers +
    indirectPointers

/-- `uDindirEntry` of a logical block. -/
def dindirEntryOf (ulBlock : ℕ) : ℕ :=
  if ulBlock < inodeIndirBlocks + directPointers then COORD_ENTRY_INVALID
  else (ulBlock - directPointers - inodeIndirBlocks) % dindirDataBlocks / indirEntries

/-- `uIndirEntry` of a logical block. -/
def indirEntryOf (ulBlock : ℕ) : ℕ :=
  if ulBlock < directPointers then COORD_ENTRY_INVALID
  else if ulBlock < inodeIndirBlocks + directPointers then
    (ulBlock - directPointers) % indirEntries
  else (ulBlock - directPointers - inodeIndirBlocks) % dindirDataBlocks % indirEntries

/-- The double indirect node on the way to a logical block. -/
def dindirPath (ulBlock : ℕ) : List ℕ := [inodeEntryOf ulBlock]

/-- The indirect node on the way to a logical block. -/
def indirPath (ulBlock : ℕ) : List ℕ :=
  if ulBlock < inodeIndirBlocks + directPointers then [inodeEntryOf ulBlock]
  else [dindirEntryOf ulBlock, inodeEntryOf ulBlock]

/-- The data node of a logical block. -/
def dataPath (ulBlock : ℕ) : List ℕ :=
  if ulBlock < directPointers then [inodeEntryOf ulBlock]
  else indirEntryOf ulBlock :: indirPath ulBlock

section

variable {lb : ℕ}

lemma dindirEntryOf_ne : dindirEntryOf lb ≠ COORD_ENTRY_INVALID ↔
    inodeIndirBlocks + directPointers ≤ lb := by
  unfold dindirEntryOf
  split_ifs with h
  · simp; omega
  · refine ⟨fun _ => by omega, fun _ => ?_⟩
    have h1 : (lb - directPointers - inodeIndirBlocks) % dindirDataBlocks / indirEntries
        < indirEntries :=
      Nat.div_lt_of_lt_mul (Nat.mod_lt _ dindirDataBlocks_pos)
    have := indirEntries_lt
    omega

lemma indirEntryOf_ne : indirEntryOf lb ≠ COORD_ENTRY_INVALID ↔ directPointers ≤ lb := by
  unfold indirEntryOf
  have := indirEntries_lt
  split_ifs with h1 h2
  · simp; omega
  · have := Nat.mod_lt (lb - directPointers) indirEntries_pos
    exact ⟨fun _ => by omega, fun _ => by omega⟩
  · have := Nat.mod_lt ((lb - directPointers - inodeIndirBlocks) % dindirDataBlocks)
      indirEntries_pos
    exact ⟨fun _ => by omega, fun _ => by omega⟩

lemma indirEntryOf_lt (h : directPointers ≤ lb) : indirEntryOf lb < indirEntries := by
  unfold indirEntryOf
  rw [if_neg (by omega)]
  split_ifs
  · exact Nat.mod_lt _ indirEntries_pos
  · exact Nat.mod_lt _ indirEntries_pos

lemma dindirEntryOf_lt (h : inodeIndirBlocks + directPointers ≤ lb) :
    dindirEntryOf lb < indirEntries := by
  unfold dindirEntryOf
  rw [if_neg (by omega)]
  exact Nat.div_lt_of_lt_mul (Nat.mod_lt _ dindirDataBlocks_pos)

lemma inodeEntryOf_direct (h : lb < directPointers) : inodeEntryOf lb = lb := if_pos h

lemma inodeEntryOf_indir (h : directPointers ≤ lb) (h' : lb < inodeIndirBlocks + directPointers) :
    directPointers ≤ inodeEntryOf lb ∧ inodeEntryOf lb < directPointers + indirectPointers := by
  unfold inodeEntryOf
  rw [if_neg (by omega), if_pos h']
  have : (lb - directPointers) / indirEntries < indirectPointers := by
    refine Nat.div_lt_of_lt_mul ?_
    rw [Nat.mul_comm]
    unfold inodeIndirBlocks at h'
    omega
  generalize (lb - directPointers) / indirEntries = q at *
  omega

lemma inodeEntryOf_dindir (h : inodeIndirBlocks + directPointers ≤ lb) (hl : lb < inodeDataBlocks) :
    directPointers + indirectPointers ≤ inodeEntryOf lb ∧ inodeEntryOf lb < inodeEntries := by
  unfold inodeEntryOf
  rw [if_neg (by omega), if_neg (by omega)]
  have h1 := inodeDindirBlocks_le
  have h2 := pointers_le_entries
  have : (lb - directPointers - inodeIndirBlocks) / dindirDataBlocks < dindirPointers := by
    refine Nat.div_lt_of_lt_mul ?_
    rw [Nat.mul_comm]
    unfold inodeDataBlocks at hl
    omega
  unfold dindirPointers at this
  generalize (lb - directPointers - inodeIndirBlocks) / dindirDataBlocks = q at *
  omega

lemma inodeEntryOf_lt (hl : lb < inodeDataBlocks) : inodeEntryOf lb < inodeEntries := by
  have := pointers_le_entries
  by_cases h1 : lb < directPointers
  · rw [inodeEntryOf_direct h1]; omega
  · by_cases h2 : lb < inodeIndirBlocks + directPointers
    · have := inodeEntryOf_indir (by omega) h2; omega
    · exact (inodeEntryOf_dindir (by omega) hl).2

lemma kindOf_direct (h : lb < directPointers) : kindOf [inodeEntryOf lb] = some .fileData := by
  rw [inodeEntryOf_direct h]
  simp [kindOf, h]

lemma kindOf_indir_entry (h : directPointers ≤ lb) (h' : lb < inodeIndirBlocks + directPointers) :
    kindOf [inodeEntryOf lb] = some .indir := by
  have := inodeEntryOf_indir h h'
  unfold kindOf
  rw [if_neg (by omega), if_pos this.2]

lemma kindOf_dindirPath (h : inodeIndirBlocks + directPointers ≤ lb) (hl : lb < inodeDataBlocks) :
    kindOf (dindirPath lb) = some .dindir := by
  have := inodeEntryOf_dindir h hl
  unfold dindirPath kindOf
  rw [if_neg (by omega), if_neg (by omega), if_pos this.2]

lemma kindOf_indirPath (h : directPointers ≤ lb) (hl : lb < inodeDataBlocks) :
    kindOf (indirPath lb) = some .indir := by
  unfold indirPath
  split_ifs with h'
  · exact kindOf_indir_entry h h'
  · have hk : kindOf (dindirPath lb) = some .dindir := kindOf_dindirPath (by omega) hl
    unfold dindirPath at hk
    rw [kindOf_cons_of_dindir hk, if_pos (dindirEntryOf_lt (by omega))]

lemma kindOf_dataPath (hl : lb < inodeDataBlocks) : kindOf (dataPath lb) = some .fileData := by
  unfold dataPath
  split_ifs with h
  · exact kindOf_direct h
  · rw [kindOf_cons_of_indir (kindOf_indirPath (by omega) hl), if_pos (indirEntryOf_lt (by omega))]

lemma indirPath_ne_nil : indirPath lb ≠ [] := by
  unfold indirPath
  split_ifs <;> simp

lemma dataPath_direct (h : lb < directPointers) : dataPath lb = [inodeEntryOf lb] := if_pos h

lemma dataPath_indir (h : directPointers ≤ lb) : dataPath lb = indirEntryOf lb :: indirPath lb :=
  if_neg (by omega)

lemma indirPath_indir (h : lb < inodeIndirBlocks + directPointers) :
    indirPath lb = [inodeEntryOf lb] := if_pos h

lemma indirPath_dindir (h : inodeIndirBlocks + directPointers ≤ lb) :
    indirPath lb = dindirEntryOf lb :: dindirPath lb := if_neg (by omega)

lemma firstBlock_dindirPath (h : inodeIndirBlocks + directPointers ≤ lb)
    (hl : lb < inodeDataBlocks) :
    firstBlock (dindirPath lb) + (dindirEntryOf lb * indirEntries + indirEntryOf lb) = lb := by
  have he := inodeEntryOf_dindir h hl
  unfold dindirPath firstBlock
  rw [if_neg (by omega), if_neg (by omega)]
  unfold inodeEntryOf dindirEntryOf indirEntryOf
  rw [if_neg (by omega), if_neg (by omega), if_neg (by omega), if_neg (by omega), if_neg (by omega)]
  set o := lb - directPointers - inodeIndirBlocks with ho
  have h1 := Nat.div_add_mod o dindirDataBlocks
  have h2 := Nat.div_add_mod (o % dindirDataBlocks) indirEntries
  have h3 : o / dindirDataBlocks + directPointers + indirectPointers - directPointers -
      indirectPointers = o / dindirDataBlocks := by
    rw [Nat.sub_sub, Nat.add_assoc, Nat.add_sub_cancel]
  rw [h3, Nat.mul_comm _ dindirDataBlocks, Nat.mul_comm _ indirEntries]
  omega

lemma firstBlock_indirPath (h : directPointers ≤ lb) (hl : lb < inodeDataBlocks) :
    firstBlock (indirPath lb) + indirEntryOf lb = lb := by
  have hk := kindOf_indirPath h hl
  by_cases h' : lb < inodeIndirBlocks + directPointers
  · rw [indirPath_indir h']
    have he := inodeEntryOf_indir h h'
    unfold firstBlock
    rw [if_neg (by omega), if_pos he.2]
    unfold inodeEntryOf indirEntryOf
    rw [if_neg (by omega), if_pos h', if_neg (by omega), if_pos h']
    have h1 := Nat.div_add_mod (lb - directPointers) indirEntries
    rw [Nat.add_sub_cancel, Nat.mul_comm _ indirEntries]
    omega
  · have h1 := firstBlock_dindirPath (by omega) hl
    rw [indirPath_dindir (by omega)] at hk ⊢
    rw [firstBlock_cons (by simp [dindirPath]), spanOf_of_kind hk]
    unfold BranchDepth.span
    dsimp only
    omega

lemma firstBlock_dataPath (hl : lb < inodeDataBlocks) : firstBlock (dataPath lb) = lb := by
  by_cases h : lb < directPointers
  · rw [dataPath_direct h, inodeEntryOf_direct h]
    simp [firstBlock, h]
  · have hk := kindOf_dataPath hl
    have h1 := firstBlock_indirPath (by omega) hl
    rw [dataPath_indir (by omega)] at hk ⊢
    rw [firstBlock_cons indirPath_ne_nil, spanOf_of_kind hk]
    unfold BranchDepth.span
    dsimp only
    omega

end

end RelianceEdge
