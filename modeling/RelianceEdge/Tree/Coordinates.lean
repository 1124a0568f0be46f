import RelianceEdge.Alloc.Agree
import RelianceEdge.Lib.Checked
import RelianceEdge.Mount.Elementary

set_option relaxedAutoImplicit false
set_option autoImplicit false
set_option linter.unusedSectionVars false

/-!
# The addressing of an inode

The entries that `SeekCoord()` computes for the logical blocks of an inode: inside the arrays,
different for different blocks, computed without a wrap around, and the same however the cached
inode was used before.

## Main definitions

* `DataCall` — what is done with a cached inode between mounting and putting it.
* `CInode.Used` — a cached inode after any number of such calls.
* `seekCoordChecked`, `inodeDataBlocksChecked`, `inodeSizeMaxChecked` — the arithmetic of the source
  with a value only where nothing wraps around.

## Main results

* `seekCoord_addressing` — the addressing is one to one and in bounds.
-/

namespace RelianceEdge

variable [RedConf]

open RedConf

/-! ## Calls on a cached inode -/

/-- Cached entries that are right stay right. -/
def Settles (t t' : FS × CInode) : Prop := t.2.Settled → t'.2.Settled

section

variable {α : Type}

instance : IsPreorder (FS × CInode) Settles where
  refl _ := id
  trans _ _ _ h h' hs := h' (h hs)

instance : ElementaryCInode Settles where
  elementary :=
    { refl := fun _ _ => id
      trans := fun _ _ _ h h' ci hs => h' ci (h ci hs)
      critical := fun _ _ => id
      buffers := fun _ _ _ => id
      bufferWrite := fun _ _ _ => id
      metaroot := fun _ _ _ _ => id
      almostFree := fun _ _ _ => id
      branched := fun _ _ => id
      reserved := fun _ _ _ _ => id }
  place _ _ _ h := h.settled

lemma settles_seekCoord (ulBlock : ℕ) : (seekCoord ulBlock).Respects Settles := by
  intro t hs
  by_cases hc : t.1.cinodeIsMounted t.2 = true ∧ ulBlock < inodeDataBlocks
  · obtain ⟨_, t', hrun, hcoord, hlog, -⟩ := seekCoord_coordinates hc.1 hc.2 hs
    rw [hrun]
    intro _
    rw [hcoord, hlog]
  · have hrun : seekCoord ulBlock t = (.ok (), t) := by
      unfold seekCoord
      rw [getCInode_bind_run, getFS_bind_run, if_pos]
      · rfl
      · by_contra hn
        push Not at hn
        exact hc ⟨by simpa using hn.1, hn.2⟩
    rw [hrun]
    exact hs

instance : ElementarySeek Settles where
  seekCoord := settles_seekCoord

/-- The rest of the state does not matter. -/
lemma settles_liftFS (x : Red α) : (liftFS x).Respects Settles := fun _ hs => hs

/-! ### Reading -/

lemma settles_redInodeDataSeekAndRead (b : ℕ) : (redInodeDataSeekAndRead b).Respects Settles :=
  .bind (respects_seekInode b) fun _ => .bind respects_getCInode fun _ => .bind respects_getFS
    fun _ => respects_bufferNode _ _

lemma settles_getExtent (b n : ℕ) : (getExtent b n).Respects Settles := by
  have hloop : ∀ (first n len : ℕ), (getExtentLoop b first n len).Respects Settles := by
    intro first n
    induction n with
    | zero => exact fun len => .pure _
    | succ n ih =>
      exact fun len => .bind (respects_seekInodeSparse _) fun _ =>
        .ite (.bind respects_getCInode fun _ => .ite (.pure _) (ih _)) (.pure _)
  exact .bind (respects_seekInode b) fun _ => .bind respects_getCInode fun _ =>
    .bind (hloop _ _ _) fun _ => .pure _

lemma settles_readUnaligned (a n : ℕ) : (readUnaligned a n).Respects Settles := by
  refine .ite (.fail _) <| .bind (.attempt (settles_redInodeDataSeekAndRead _)) fun r => ?_
  rcases r with e | _
  · cases e <;> first | exact .pure _ | exact .fail _
  · exact .bind respects_getCInode fun _ => .bind respects_getFS fun _ => .pure _

lemma settles_readAligned (b n : ℕ) : (readAligned b n).Respects Settles := by
  have hloop : ∀ (fuel k : ℕ) (pb : ℕ → UInt8),
      (readAlignedLoop b n fuel k pb).Respects Settles := by
    intro fuel
    induction fuel with
    | zero => exact fun k pb => .ite (.pure _) (.fail _)
    | succ fuel ih =>
      refine fun k pb => .ite (.pure _) <| .bind (.attempt (settles_getExtent _ _)) fun r => ?_
      rcases r with e | ⟨x, m⟩
      · cases e <;> first | exact ih _ _ | exact .fail _
      · exact .bind (settles_liftFS _) fun _ => ih _ _
  exact hloop _ _ _

/-- A part of a call that is there or not. -/
lemma settles_part {β γ : Type} {c : Prop} [Decidable c] {x : RedI β} {y : RedI β} {k : β → RedI γ}
    (hx : x.Respects Settles) (hy : y.Respects Settles) (hk : ∀ b, (k b).Respects Settles) :
    (if c then x >>= k else y >>= k).Respects Settles :=
  .ite (.bind hx hk) (.bind hy hk)

lemma settles_redInodeDataRead (a n : ℕ) : (redInodeDataRead a n).Respects Settles := by
  refine .bind respects_getCInode fun _ => .bind respects_getFS fun _ => .ite (.fail _) <|
    .bind respects_inodeBuf fun _ => .ite (.pure _) <| .ite (.pure _) <| ?_
  refine .ite (.bind (settles_readUnaligned _ _) fun _ => .bind (.pure _) fun _ => ?_)
    (.bind (.pure _) fun _ => ?_)
  all_goals
    refine .ite (.bind (settles_readAligned _ _) fun _ => .bind (.pure _) fun _ => ?_)
      (.bind (.pure _) fun _ => ?_)
    all_goals
      exact .ite (.bind (settles_readUnaligned _ _) fun _ => .bind (.pure _) fun _ => .pure _)
        (.bind (.pure _) fun _ => .pure _)

/-! ### Writing -/

lemma settles_writeUnaligned (a n : ℕ) (pb : ℕ → UInt8) :
    (writeUnaligned a n pb).Respects Settles :=
  .ite (.fail _) <| .bind (respects_seekInodeSparse _) fun _ =>
    .bind (respects_branchBlock _ _) fun _ => respects_modifyData _

lemma settles_branchExtent (b n i : ℕ) (ext : Extent) :
    (branchExtent b n i ext).Respects Settles := by
  induction n generalizing i ext with
  | zero => exact .pure _
  | succ n ih =>
    refine .ite (.bind (.attempt (.bind (respects_seekInodeSparse _) fun _ =>
      respects_branchBlock _ _)) fun r => ?_) (.bind (.pure _) fun r => ?_)
    all_goals
      rcases r with e | _
      · exact .pure _
      · exact .bind respects_getCInode fun _ => .ite (ih _ _) (.ite (ih _ _) (.pure _))

lemma settles_writeAligned (b n : ℕ) (pb : ℕ → UInt8) : (writeAligned b n pb).Respects Settles := by
  have hloop : ∀ (fuel k next : ℕ), (writeAlignedLoop b n pb fuel k next).Respects Settles := by
    intro fuel
    induction fuel with
    | zero => exact fun k next => .ite (.pure _) (.fail _)
    | succ fuel ih =>
      exact fun k next => .ite (.pure _) <| .bind (settles_branchExtent _ _ _ _) fun _ =>
        .ite (.bind (settles_liftFS _) fun _ => .ite (.pure _) (ih _ _)) (.pure _)
  refine .bind (respects_redInodePutBuf _) fun _ => .bind (hloop _ _ _) fun r => ?_
  rcases r with ⟨e | _, k⟩
  · exact .ite (.pure _) (.fail _)
  · exact .pure _

lemma settles_writeWhole (b n k : ℕ) (pb : ℕ → UInt8) : (writeWhole b n k pb).Respects Settles := by
  refine .bind (.attempt (settles_writeAligned _ _ _)) fun r => ?_
  cases r
  · exact .ite (.pure _) (.fail _)
  · exact .pure _

lemma settles_writeTail (a k n : ℕ) (pb : ℕ → UInt8) : (writeTail a k n pb).Respects Settles := by
  refine .bind (.attempt (settles_writeUnaligned _ _ _)) fun r => ?_
  rcases r with e | _
  · cases e <;> first | exact .pure _ | exact .fail _
  · exact .pure _

lemma settles_redInodeDataWrite (a n : ℕ) (pb : ℕ → UInt8) :
    (redInodeDataWrite a n pb).Respects Settles := by
  refine .bind respects_getCInode fun _ => .bind respects_getFS fun _ => .ite (.fail _) <|
    .ite (.fail _) <| .ite (.pure _) <| .bind respects_inodeBuf fun _ =>
      .bind (.when respects_expandPrepare) fun _ =>
        .bind (.when (settles_writeUnaligned _ _ _)) fun _ => ?_
  refine settles_part (settles_writeWhole _ _ _ _) (.pure _) fun _ => ?_
  exact settles_part (settles_writeTail _ _ _ _) (.pure _) fun _ =>
    .bind (respects_modifyInodeBuf _) fun _ => .pure _

/-! ### Reserving -/

lemma settles_countSparseBlocks (a n : ℕ) : (countSparseBlocks a n).Respects Settles := by
  have hloop : ∀ (start n b : ℕ) (prev : PrevEntries) (k : ℕ),
      (countSparseLoop start n b prev k).Respects Settles := by
    intro start n
    induction n with
    | zero => exact fun b prev k => .pure _
    | succ n ih =>
      exact fun b prev k => .bind (respects_seekInodeSparse _) fun _ =>
        .ite (respects_critical _) (.bind respects_getCInode fun _ => ih _ _ _)
  exact .bind (respects_seekInodeSparse _) fun _ => .bind respects_getCInode fun _ =>
    .bind respects_getFS fun _ => hloop _ _ _ _ _

lemma settles_redInodeDataReserve (a n : ℕ) : (redInodeDataReserve a n).Respects Settles :=
  .bind respects_getCInode fun _ => .bind respects_getFS fun _ => .bind respects_inodeBuf fun _ =>
    .ite (.fail _) <| .ite (.fail _) <| .bind respects_expandPrepare fun _ =>
      .bind (settles_countSparseBlocks _ _) fun _ => .bind respects_getFS fun _ =>
        .ite (.fail _) <| .bind (settles_liftFS _) fun _ => respects_modifyInodeBuf _

lemma settles_redInodeDataUnreserve (a : ℕ) : (redInodeDataUnreserve a).Respects Settles :=
  .bind respects_getCInode fun _ => .bind respects_getFS fun _ => .bind respects_inodeBuf fun _ =>
    .ite (.fail _) <| .ite (respects_critical _) <| .bind (settles_countSparseBlocks _ _) fun _ =>
      .bind respects_getFS fun _ => .ite (respects_critical _) (settles_liftFS _)

end

/-- What is done with a cached inode between mounting and putting it: the calls of `inodedata.c`,
releasing the buffers of the coordinates, and everything that leaves the cached inode at its
place. -/
inductive DataCall
  | read (ullStart ulLen : ℕ)
  | write (ullStart ulLen : ℕ) (pbBuffer : ℕ → UInt8)
  | truncate (ullSize : ℕ)
  | seekAndRead (ulBlock : ℕ)
  | seek (ulBlock : ℕ)
  | branch (depth : BranchDepth) (fBuffer : Bool)
  | reserve (ullOffset ullLen : ℕ)
  | unreserve (ullOffset : ℕ)
  | putCoord
  | other (s' : FS) (ci' : CInode)

/-- The state that a call leaves, whatever its status. -/
def DataCall.after (t : FS × CInode) : DataCall → FS × CInode
  | read ullStart ulLen => (redInodeDataRead ullStart ulLen t).2
  | write ullStart ulLen pbBuffer => (redInodeDataWrite ullStart ulLen pbBuffer t).2
  | truncate ullSize => (redInodeDataTruncate ullSize t).2
  | seekAndRead ulBlock => (redInodeDataSeekAndRead ulBlock t).2
  | seek ulBlock => (seekInode ulBlock t).2
  | branch depth fBuffer => (branchBlock depth fBuffer t).2
  | reserve ullOffset ullLen => (redInodeDataReserve ullOffset ullLen t).2
  | unreserve ullOffset => (redInodeDataUnreserve ullOffset t).2
  | putCoord => (redInodePutCoord t).2
  | other s' ci' => (s', ci')

/-- What a call may be: other operations leave the cached inode at its place. -/
def DataCall.Allowed (ci : CInode) : DataCall → Prop
  | other _ ci' => ci.SamePlace ci'
  | _ => True

/-- **A cached inode after any number of calls**, from one that was just mounted or created. -/
inductive CInode.Used : FS × CInode → Prop
  | fresh (s : FS) (ci : CInode) (h : ci.fCoordInited = false) : Used (s, ci)
  | step (t : FS × CInode) (call : DataCall) (h : Used t) (hc : call.Allowed t.2) :
      Used (call.after t)

section

variable {t : FS × CInode}

/-- **Every call keeps the cached entries right.** -/
lemma DataCall.settled (call : DataCall) (hc : call.Allowed t.2) (hs : t.2.Settled) :
    (call.after t).2.Settled := by
  cases call with
  | read a n => exact settles_redInodeDataRead a n t hs
  | write a n pb => exact settles_redInodeDataWrite a n pb t hs
  | truncate n => exact respects_redInodeDataTruncate (K := Settles) n t hs
  | seekAndRead b => exact settles_redInodeDataSeekAndRead b t hs
  | seek b => exact respects_seekInode (K := Settles) b t hs
  | branch d f => exact respects_branchBlock (K := Settles) d f t hs
  | reserve a n => exact settles_redInodeDataReserve a n t hs
  | unreserve a => exact settles_redInodeDataUnreserve a t hs
  | putCoord => exact respects_redInodePutCoord (K := Settles) t hs
  | other s' ci' => exact hc.settled hs

lemma CInode.Used.settled (h : CInode.Used t) : t.2.Settled := by
  induction h with
  | fresh s ci h => exact fun hi => absurd (h ▸ hi) Bool.false_ne_true
  | step t call _ hc ih => exact call.settled hc ih

end

/-! ## Arithmetic -/

/-- `INODE_ENTRIES`. -/
def inodeEntriesChecked : Option ℕ := do
  let ulBytes ← Checked.sub blockSize (inodeHeaderSizeOf deleteOpen)
  some (ulBytes / 4)

/-- `INDIR_ENTRIES`. -/
def indirEntriesChecked : Option ℕ := do
  let ulBytes ← Checked.sub blockSize (NODEHEADER_SIZE + 4)
  some (ulBytes / 4)

/-- `DINDIR_POINTERS`. -/
def dindirPointersChecked : Option ℕ := do
  let ulPointers ← Checked.sub (← inodeEntriesChecked) directPointers
  Checked.sub ulPointers indirectPointers

/-- `DINDIR_DATA_BLOCKS`. -/
def dindirDataBlocksChecked : Option ℕ := do
  Checked.mul 32 (← indirEntriesChecked) (← indirEntriesChecked)

/-- `INODE_INDIR_BLOCKS`. -/
def inodeIndirBlocksChecked : Option ℕ := do
  Checked.mul 32 indirectPointers (← indirEntriesChecked)

/-- `INODE_DINDIR_BLOCKS`. The preprocessor compares the two numbers of pointers, in 64 bits. -/
def inodeDindirBlocksChecked : Option ℕ := do
  if dindirPointersMax ≤ dindirPointers then
    Checked.sub UINT32_MAX (← Checked.add 32 directPointers (← inodeIndirBlocksChecked))
  else Checked.mul 32 (← dindirPointersChecked) (← dindirDataBlocksChecked)

/-- `INODE_DATA_BLOCKS`. -/
def inodeDataBlocksChecked : Option ℕ := do
  let ulBlocks ← Checked.add 32 directPointers (← inodeIndirBlocksChecked)
  Checked.add 32 ulBlocks (← inodeDindirBlocksChecked)

/-- `INODE_SIZE_MAX`. -/
def inodeSizeMaxChecked : Option ℕ := do
  let ullSize ← Checked.mul 64 1 blockSize
  Checked.mul 64 ullSize (← inodeDataBlocksChecked)

/-- The entries that `SeekCoord()` computes for a logical block. -/
def seekCoordChecked (ulBlock : ℕ) : Option Coordinates := do
  if ulBlock < directPointers then
    let uInodeEntry ← Checked.cast 16 ulBlock
    some ⟨uInodeEntry, COORD_ENTRY_INVALID, COORD_ENTRY_INVALID⟩
  else
    let ulIndirEnd ← Checked.add 32 (← inodeIndirBlocksChecked) directPointers
    if ulBlock < ulIndirEnd then
      let ulIndirRangeOffset ← Checked.sub ulBlock directPointers
      let ulInodeEntry ←
        Checked.add 32 (ulIndirRangeOffset / (← indirEntriesChecked)) directPointers
      let uInodeEntry ← Checked.cast 16 ulInodeEntry
      let uIndirEntry ← Checked.cast 16 (ulIndirRangeOffset % (← indirEntriesChecked))
      some ⟨uInodeEntry, COORD_ENTRY_INVALID, uIndirEntry⟩
    else
      let ulRangeOffset ← Checked.sub ulBlock directPointers
      let ulDindirRangeOffset ← Checked.sub ulRangeOffset (← inodeIndirBlocksChecked)
      let ulInodeEntry ←
        Checked.add 32 (ulDindirRangeOffset / (← dindirDataBlocksChecked)) directPointers
      let ulInodeEntry ← Checked.add 32 ulInodeEntry indirectPointers
      let uInodeEntry ← Checked.cast 16 ulInodeEntry
      let ulDindirNodeOffset := ulDindirRangeOffset % (← dindirDataBlocksChecked)
      let uDindirEntry ← Checked.cast 16 (ulDindirNodeOffset / (← indirEntriesChecked))
      let uIndirEntry ← Checked.cast 16 (ulDindirNodeOffset % (← indirEntriesChecked))
      some ⟨uInodeEntry, uDindirEntry, uIndirEntry⟩

lemma indirEntriesChecked_eq : indirEntriesChecked = some indirEntries := by
  have h := blockSize_ge
  unfold indirEntriesChecked NODEHEADER_SIZE
  rw [Checked.sub_of_le (by omega)]
  rfl

lemma dindirPointersChecked_eq : dindirPointersChecked = some dindirPointers := by
  have h1 : 128 ≤ 2 ^ blockSizeP2 := blockSize_ge
  have h2 := pointers_le_entries
  have h3 : inodeEntriesChecked = some inodeEntries := by
    unfold inodeEntriesChecked inodeHeaderSizeOf blockSize
    rw [Checked.sub_of_le (by split_ifs <;> omega)]
    rfl
  unfold dindirPointersChecked
  rw [h3]
  change (Checked.sub inodeEntries directPointers >>= fun n => Checked.sub n indirectPointers) = _
  rw [Checked.sub_of_le (by omega)]
  exact Checked.sub_of_le (by omega)

lemma dindirDataBlocksChecked_eq : dindirDataBlocksChecked = some dindirDataBlocks := by
  have h : indirEntries ≤ 65535 := indirEntries_lt.le
  have h2 : indirEntries * indirEntries ≤ 65535 * 65535 := Nat.mul_le_mul h h
  unfold dindirDataBlocksChecked
  rw [indirEntriesChecked_eq]
  exact Checked.mul_of_lt (by omega)

lemma inodeIndirBlocksChecked_eq : inodeIndirBlocksChecked = some inodeIndirBlocks := by
  have h := inodeIndirBlocks_le
  unfold inodeIndirBlocks UINT32_MAX at h
  unfold inodeIndirBlocksChecked
  rw [indirEntriesChecked_eq]
  exact Checked.mul_of_lt (by omega)

lemma inodeDindirBlocksChecked_eq : inodeDindirBlocksChecked = some inodeDindirBlocks := by
  have h1 := inodeIndirBlocks_le
  unfold inodeDindirBlocksChecked inodeDindirBlocks
  by_cases hle : dindirPointersMax ≤ dindirPointers
  · rw [if_pos hle, if_pos hle, inodeIndirBlocksChecked_eq]
    change (Checked.add 32 directPointers inodeIndirBlocks >>=
      fun n => Checked.sub UINT32_MAX n) = _
    rw [Checked.add_of_lt (by unfold UINT32_MAX at h1; omega)]
    exact Checked.sub_of_le h1
  · have h2 := inodeDindirBlocks_le_max
    unfold inodeDindirBlocks at h2
    rw [if_neg hle] at h2 ⊢
    rw [if_neg hle, dindirPointersChecked_eq, dindirDataBlocksChecked_eq]
    refine Checked.mul_of_lt ?_
    unfold inodeDindirBlocksMax UINT32_MAX at h2
    omega

lemma inodeDataBlocksChecked_eq : inodeDataBlocksChecked = some inodeDataBlocks := by
  have h1 := inodeIndirBlocks_le
  have h2 := inodeDataBlocks_le
  unfold inodeDataBlocks at h2
  unfold UINT32_MAX at h1 h2
  unfold inodeDataBlocksChecked
  rw [inodeIndirBlocksChecked_eq, inodeDindirBlocksChecked_eq]
  change (Checked.add 32 directPointers inodeIndirBlocks >>= fun n =>
    Checked.add 32 n inodeDindirBlocks) = _
  rw [Checked.add_of_lt (by omega)]
  exact Checked.add_of_lt (by omega)

lemma inodeSizeMaxChecked_eq : inodeSizeMaxChecked = some inodeSizeMax := by
  have h1 := blockSize_le
  have h2 : inodeDataBlocks ≤ 4294967295 := inodeDataBlocks_le
  have h3 : blockSize * inodeDataBlocks ≤ 65536 * 4294967295 := Nat.mul_le_mul h1 h2
  unfold inodeSizeMaxChecked
  rw [inodeDataBlocksChecked_eq, Checked.mul_of_lt (by omega)]
  change Checked.mul 64 (1 * blockSize) inodeDataBlocks = _
  rw [Nat.one_mul]
  exact Checked.mul_of_lt (by omega)

section

variable {lb lb' : ℕ}

/-- Nothing wraps around where a seek computes the entries of a block. -/
lemma seekCoordChecked_eq (hlb : lb < inodeDataBlocks) :
    seekCoordChecked lb = some (coordinatesOf lb) := by
  have hin := inodeEntryOf_lt hlb
  have he := inodeEntries_lt
  have hi := indirEntries_lt
  have hle := inodeIndirBlocks_le
  unfold COORD_ENTRY_INVALID UINT16_MAX at he hi
  unfold UINT32_MAX at hle
  unfold seekCoordChecked
  by_cases h1 : lb < directPointers
  · rw [if_pos h1, Checked.cast_of_lt (by rw [inodeEntryOf_direct h1] at hin; omega)]
    unfold coordinatesOf inodeEntryOf dindirEntryOf indirEntryOf
    rw [if_pos h1, if_pos (by omega), if_pos h1]
    rfl
  rw [if_neg h1, inodeIndirBlocksChecked_eq, indirEntriesChecked_eq, dindirDataBlocksChecked_eq]
  simp only [Option.bind_eq_bind, Option.bind_some]
  rw [Checked.add_of_lt (by omega), Option.bind_some, Checked.sub_of_le (by omega)]
  by_cases h2 : lb < inodeIndirBlocks + directPointers
  · have hr := indirEntryOf_lt (not_lt.1 h1)
    unfold inodeEntryOf at hin
    unfold indirEntryOf at hr
    rw [if_neg h1, if_pos h2] at hin hr
    rw [if_pos h2, Option.bind_some, Checked.add_of_lt (by omega), Option.bind_some,
      Checked.cast_of_lt (by omega), Option.bind_some, Checked.cast_of_lt (by omega),
      Option.bind_some]
    unfold coordinatesOf inodeEntryOf dindirEntryOf indirEntryOf
    rw [if_neg h1, if_pos h2, if_pos h2, if_neg h1, if_pos h2]
  · have hr := indirEntryOf_lt (not_lt.1 h1)
    have hd := dindirEntryOf_lt (not_lt.1 h2)
    unfold inodeEntryOf at hin
    unfold indirEntryOf at hr
    unfold dindirEntryOf at hd
    rw [if_neg h1, if_neg h2] at hin hr
    rw [if_neg h2] at hd
    rw [if_neg h2, Option.bind_some, Checked.sub_of_le (by omega), Option.bind_some,
      Checked.add_of_lt (by omega), Option.bind_some, Checked.add_of_lt (by omega),
      Option.bind_some, Checked.cast_of_lt (by omega), Option.bind_some,
      Checked.cast_of_lt (by omega), Option.bind_some, Checked.cast_of_lt (by omega),
      Option.bind_some]
    unfold coordinatesOf inodeEntryOf dindirEntryOf indirEntryOf
    rw [if_neg h1, if_neg h2, if_neg h2, if_neg h1, if_neg h2]

/-! ## Addressing -/

/-- Entries inside their arrays, with `COORD_ENTRY_INVALID` for exactly the levels that a logical
block does not use. -/
structure Coordinates.InBounds (c : Coordinates) (ulBlock : ℕ) : Prop where
  inode : c.uInodeEntry < inodeEntries
  dindir : inodeIndirBlocks + directPointers ≤ ulBlock → c.uDindirEntry < indirEntries
  indir : directPointers ≤ ulBlock → c.uIndirEntry < indirEntries
  dindir_unused : c.uDindirEntry = COORD_ENTRY_INVALID ↔ ulBlock < inodeIndirBlocks + directPointers
  indir_unused : c.uIndirEntry = COORD_ENTRY_INVALID ↔ ulBlock < directPointers

lemma coordinatesOf_inBounds (hlb : lb < inodeDataBlocks) : (coordinatesOf lb).InBounds lb where
  inode := inodeEntryOf_lt hlb
  dindir := dindirEntryOf_lt
  indir := indirEntryOf_lt
  dindir_unused := by
    rw [← not_iff_not, not_lt]
    exact dindirEntryOf_ne
  indir_unused := by
    rw [← not_iff_not, not_lt]
    exact indirEntryOf_ne

/-- Different logical blocks have different coordinates. -/
lemma coordinatesOf_injOn : Set.InjOn coordinatesOf (Set.Iio inodeDataBlocks) := by
  intro lb hlb lb' hlb' h
  have hd : lb < directPointers ↔ lb' < directPointers := by
    rw [← (coordinatesOf_inBounds hlb).indir_unused, h, (coordinatesOf_inBounds hlb').indir_unused]
  have hi : lb < inodeIndirBlocks + directPointers ↔ lb' < inodeIndirBlocks + directPointers := by
    rw [← (coordinatesOf_inBounds hlb).dindir_unused, h,
      (coordinatesOf_inBounds hlb').dindir_unused]
  have h1 : inodeEntryOf lb = inodeEntryOf lb' := congrArg Coordinates.uInodeEntry h
  have h2 : dindirEntryOf lb = dindirEntryOf lb' := congrArg Coordinates.uDindirEntry h
  have h3 : indirEntryOf lb = indirEntryOf lb' := congrArg Coordinates.uIndirEntry h
  have hpath : dataPath lb = dataPath lb' := by
    unfold dataPath indirPath
    simp only [h1, h2, h3, hd, hi]
  calc lb = firstBlock (dataPath lb) := (firstBlock_dataPath hlb).symm
    _ = firstBlock (dataPath lb') := by rw [hpath]
    _ = lb' := firstBlock_dataPath hlb'

/-- A size is supported exactly if its last byte lies in a logical block. -/
lemma inodeSizeMax_iff {ullSize : ℕ} (h : 0 < ullSize) :
    ullSize ≤ inodeSizeMax ↔ (ullSize - 1) / blockSize < inodeDataBlocks := by
  have hb := blockSize_ge
  rw [Nat.div_lt_iff_lt_mul (by omega), Nat.mul_comm]
  unfold inodeSizeMax
  omega

end

/-- **The addressing of an inode is one to one and in bounds.** `SeekCoord()` takes every logical
block below `INODE_DATA_BLOCKS` to its own coordinates, however the cached inode was used before;
they are in bounds, `COORD_ENTRY_INVALID` stands for the unused levels, and nothing wraps around
where they and the capacity are computed. A block behind the last is refused, and
`INODE_SIZE_MAX` is the largest size whose last byte lies in a block. -/
theorem seekCoord_addressing :
    (∀ (t : FS × CInode) (ulBlock : ℕ), CInode.Used t → t.1.cinodeIsMounted t.2 = true →
      ulBlock < inodeDataBlocks →
      (seekCoord ulBlock).Ok t fun _ t' => t'.2.coordinates = coordinatesOf ulBlock) ∧
    (∀ (t : FS × CInode) (ulBlock : ℕ), inodeDataBlocks ≤ ulBlock →
      seekInode ulBlock t = (.error .EINVAL, t)) ∧
    Set.InjOn coordinatesOf (Set.Iio inodeDataBlocks) ∧
    (∀ ulBlock < inodeDataBlocks, (coordinatesOf ulBlock).InBounds ulBlock) ∧
    (∀ ulBlock < inodeDataBlocks, seekCoordChecked ulBlock = some (coordinatesOf ulBlock)) ∧
    inodeDataBlocksChecked = some inodeDataBlocks ∧
    inodeSizeMaxChecked = some (inodeDataBlocks * blockSize) ∧
    inodeSizeMax = inodeDataBlocks * blockSize ∧
    ∀ ullSize, 0 < ullSize →
      (ullSize ≤ inodeSizeMax ↔ (ullSize - 1) / blockSize < inodeDataBlocks) := by
  have hsize : inodeSizeMax = inodeDataBlocks * blockSize := Nat.mul_comm _ _
  refine ⟨fun t lb ht hm hlb => ?_, fun t lb hlb => ?_, coordinatesOf_injOn,
    fun lb hlb => coordinatesOf_inBounds hlb, fun lb hlb => seekCoordChecked_eq hlb,
    inodeDataBlocksChecked_eq, hsize ▸ inodeSizeMaxChecked_eq, hsize,
    fun n hn => inodeSizeMax_iff hn⟩
  · exact (seekCoord_coordinates hm hlb ht.settled).mono fun _ t' h => h.1
  · unfold seekInode
    rw [getCInode_bind_run, getFS_bind_run, if_pos (Or.inr hlb)]
    rfl

omit [RedConf] in
/-- Block 6 of a file with 4 direct and 4 indirect pointers is the third one of the first indirect,
also behind a seek to block 7. -/
theorem seekCoord_addressing_small : letI := smallConf
    6 < inodeDataBlocks ∧ coordinatesOf 6 = ⟨4, COORD_ENTRY_INVALID, 2⟩ ∧
      (seekCoord 6 (seekInode 7 (emptyVolume 5 16 4,
        { CInode.zero with ulInode := 2, pInodeBuf := some 0 })).2).2.2.coordinates =
          coordinatesOf 6 := by
  let _ := smallConf
  have hfresh : CInode.Used (emptyVolume 5 16 4,
      { CInode.zero with ulInode := 2, pInodeBuf := some 0 }) := .fresh _ _ rfl
  obtain ⟨t, ht⟩ : ∃ t, t = (seekInode 7 (emptyVolume 5 16 4,
    { CInode.zero with ulInode := 2, pInodeBuf := some 0 })).2 := ⟨_, rfl⟩
  have hused : CInode.Used t := ht ▸ hfresh.step _ (.seek 7) trivial
  have hm : t.1.cinodeIsMounted t.2 = true := by
    rw [ht]
    decide
  rw [← ht]
  refine ⟨by decide, by decide, ?_⟩
  obtain ⟨_, t', hrun, h⟩ := seekCoord_addressing.1 t 6 hused hm (by decide)
  rw [hrun]
  exact h

end RelianceEdge
