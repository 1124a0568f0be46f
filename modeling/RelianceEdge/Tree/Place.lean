import RelianceEdge.InodeRW
import RelianceEdge.Tree.Path

set_option relaxedAutoImplicit false
set_option autoImplicit false
set_option linter.unusedSectionVars false

/-!
# The cached coordinates

`SeekCoord()` computes the entries of a logical block unless the cached inode is at that block
already; then it trusts the entries it finds. They are right because no operation on the cached
inode leaves entries behind that are not those of its logical block.

## Main definitions

* `Coordinates` — the three entries that lead to a logical block.
* `CInode.Settled` — the cached entries are those of the cached logical block.
* `CInode.SamePlace` — two cached inodes are at the same logical block.

## Main results

* `seekCoord_coordinates` — the entries after `SeekCoord()` are those of the block.
-/

namespace RelianceEdge

variable [RedConf]

open RedConf

/-! ## Coordinates -/

/-- `uInodeEntry`, `uDindirEntry` and `uIndirEntry`. -/
@[ext]
structure Coordinates where
  uInodeEntry : ℕ
  uDindirEntry : ℕ
  uIndirEntry : ℕ
  deriving DecidableEq

/-- The entries on the way to a logical block. -/
def coordinatesOf (ulBlock : ℕ) : Coordinates :=
  ⟨inodeEntryOf ulBlock, dindirEntryOf ulBlock, indirEntryOf ulBlock⟩

/-- The cached entries. -/
def CInode.coordinates (ci : CInode) : Coordinates :=
  ⟨ci.uInodeEntry, ci.uDindirEntry, ci.uIndirEntry⟩

/-- **The cached entries are those of the cached logical block.** -/
def CInode.Settled (ci : CInode) : Prop :=
  ci.fCoordInited = true → ci.coordinates = coordinatesOf ci.ulLogicalBlock

/-- The cached inode is at the same place: entries, logical block, and whether they are valid. -/
structure CInode.SamePlace (ci ci' : CInode) : Prop where
  coordinates : ci'.coordinates = ci.coordinates
  logical : ci'.ulLogicalBlock = ci.ulLogicalBlock
  inited : ci'.fCoordInited = ci.fCoordInited

section

variable {ci ci' ci'' : CInode} {t : FS × CInode} {lb : ℕ}

lemma CInode.SamePlace.refl (ci : CInode) : ci.SamePlace ci := ⟨rfl, rfl, rfl⟩

lemma CInode.SamePlace.trans (h : ci.SamePlace ci') (h' : ci'.SamePlace ci'') :
    ci.SamePlace ci'' :=
  ⟨h'.coordinates.trans h.coordinates, h'.logical.trans h.logical, h'.inited.trans h.inited⟩

lemma CInode.SamePlace.setBuf (ci : CInode) (d : BranchDepth) (p : Option ℕ) :
    ci.SamePlace (ci.setBuf d p) := by
  cases d <;> exact ⟨rfl, rfl, rfl⟩

lemma CInode.SamePlace.setBlock (ci : CInode) (d : BranchDepth) (b : ℕ) :
    ci.SamePlace (ci.setBlock d b) := by
  cases d <;> exact ⟨rfl, rfl, rfl⟩

lemma CInode.SamePlace.settled (h : ci.SamePlace ci') (hs : ci.Settled) : ci'.Settled := by
  intro hi
  rw [h.coordinates, h.logical]
  exact hs (h.inited ▸ hi)

/-! ## Seeking -/

lemma redInodePutBuf_place (d : BranchDepth) :
    (redInodePutBuf d).Ok t fun _ t' => t.2.SamePlace t'.2 := by
  obtain ⟨s, ci⟩ := t
  unfold redInodePutBuf
  cases hb : ci.buf d with
  | none => exact ⟨(), (s, ci), by rw [getCInode_bind_run]; simp only [hb]; rfl, .refl ci⟩
  | some i =>
    refine ⟨(), ((redBufferPut i s).2, ci.setBuf d none), ?_, .setBuf ci d none⟩
    rw [getCInode_bind_run]
    simp only [hb]
    rfl

lemma redInodePutCoord_place : redInodePutCoord.Ok t fun _ t' => t.2.SamePlace t'.2 := by
  refine (redInodePutBuf_place .fileData).bind fun _ t1 h1 => ?_
  refine (redInodePutBuf_place .indir).bind fun _ t2 h2 => ?_
  exact (redInodePutBuf_place .dindir).mono fun _ t3 h3 => (h1.trans h2).trans h3

/-- The entries are those of the block, the rest of the place is as before. -/
structure CInode.Moved (ci : CInode) (ulBlock : ℕ) (ci' : CInode) : Prop where
  coordinates : ci'.coordinates = coordinatesOf ulBlock
  logical : ci'.ulLogicalBlock = ci.ulLogicalBlock
  inited : ci'.fCoordInited = ci.fCoordInited

lemma seekCoordDirect_moved (h : lb < directPointers) :
    (seekCoordDirect lb).Ok t fun _ t' => t.2.Moved lb t'.2 := by
  refine redInodePutCoord_place.bind fun _ t1 h1 => ?_
  refine ⟨(), _, rfl, ?_, h1.logical, h1.inited⟩
  have h2 : lb < inodeIndirBlocks + directPointers := by omega
  unfold CInode.coordinates coordinatesOf inodeEntryOf dindirEntryOf indirEntryOf
  rw [if_pos h, if_pos h2, if_pos h]

lemma seekCoordIndir_moved (h : directPointers ≤ lb) (h' : lb < inodeIndirBlocks + directPointers) :
    (seekCoordIndir lb).Ok t fun _ t' => t.2.Moved lb t'.2 := by
  have hof : coordinatesOf lb = ⟨(lb - directPointers) / indirEntries + directPointers,
      COORD_ENTRY_INVALID, (lb - directPointers) % indirEntries⟩ := by
    unfold coordinatesOf inodeEntryOf dindirEntryOf indirEntryOf
    rw [if_neg (by omega), if_pos h', if_pos h', if_neg (by omega), if_pos h']
  unfold seekCoordIndir
  refine Op.Ok.run_bind (rfl : getCInode t = (.ok t.2, t)) ?_
  refine (redInodePutBuf_place .dindir).bind fun _ t1 h1 => ?_
  -- The entry of the inode is stored only where it changes.
  have hentry : (Op.when (t.2.uInodeEntry ≠ (lb - directPointers) / indirEntries + directPointers ∨
      !t.2.fCoordInited) (do
        redInodePutIndir
        let ulIndirBlock ← getEntry (.inode ((lb - directPointers) / indirEntries + directPointers))
        modifyCInode fun ci => { ci with
          uInodeEntry := (lb - directPointers) / indirEntries + directPointers
          ulIndirBlock := ulIndirBlock }) : RedI Unit).Ok t1 fun _ t2 =>
      t2.2.uInodeEntry = (lb - directPointers) / indirEntries + directPointers ∧
        t2.2.ulLogicalBlock = t.2.ulLogicalBlock ∧ t2.2.fCoordInited = t.2.fCoordInited := by
    refine .when (fun _ => ?_) fun hc => ?_
    · refine (redInodePutBuf_place .indir).bind fun _ t2 h2 => ?_
      exact ⟨(), _, rfl, rfl, h2.logical.trans h1.logical, h2.inited.trans h1.inited⟩
    · push Not at hc
      have he : t1.2.uInodeEntry = t.2.uInodeEntry :=
        congrArg Coordinates.uInodeEntry h1.coordinates
      exact ⟨he.trans hc.1, h1.logical, h1.inited⟩
  refine hentry.bind fun _ t2 h2 => ?_
  refine ⟨(), _, rfl, ?_, h2.2.1, h2.2.2⟩
  rw [hof]
  exact Coordinates.ext h2.1 rfl rfl

lemma seekCoordDindir_moved (h : inodeIndirBlocks + directPointers ≤ lb) :
    (seekCoordDindir lb).Ok t fun _ t' => t.2.Moved lb t'.2 := by
  have hof : coordinatesOf lb =
      ⟨(lb - directPointers - inodeIndirBlocks) / dindirDataBlocks + directPointers +
          indirectPointers,
        (lb - directPointers - inodeIndirBlocks) % dindirDataBlocks / indirEntries,
        (lb - directPointers - inodeIndirBlocks) % dindirDataBlocks % indirEntries⟩ := by
    unfold coordinatesOf inodeEntryOf dindirEntryOf indirEntryOf
    rw [if_neg (by omega), if_neg (by omega), if_neg (by omega), if_neg (by omega),
      if_neg (by omega)]
  generalize hE : (lb - directPointers - inodeIndirBlocks) / dindirDataBlocks + directPointers +
    indirectPointers = uEntry at hof
  have hlast : ∀ t2 : FS × CInode, t2.2.uInodeEntry = uEntry →
      t2.2.ulLogicalBlock = t.2.ulLogicalBlock → t2.2.fCoordInited = t.2.fCoordInited →
      (modifyCInode fun ci => { ci with
        uDindirEntry := (lb - directPointers - inodeIndirBlocks) % dindirDataBlocks / indirEntries
        uIndirEntry :=
          (lb - directPointers - inodeIndirBlocks) % dindirDataBlocks % indirEntries }).Ok t2
        fun _ t' => t.2.Moved lb t'.2 := by
    intro t2 he hl hi
    refine ⟨(), _, rfl, ?_, hl, hi⟩
    rw [hof]
    exact Coordinates.ext he rfl rfl
  unfold seekCoordDindir
  refine Op.Ok.run_bind (rfl : getCInode t = (.ok t.2, t)) ?_
  simp only [hE]
  by_cases hc : t.2.uInodeEntry ≠ uEntry ∨ !t.2.fCoordInited
  · rw [if_pos hc]
    refine (redInodePutBuf_place .indir).bind fun _ t1 h1 => ?_
    refine (redInodePutBuf_place .dindir).bind fun _ t2 h2 => ?_
    have h := h1.trans h2
    exact hlast (t2.1, { t2.2 with uInodeEntry := uEntry, ulDindirBlock := _ }) rfl h.logical
      h.inited
  · rw [if_neg hc]
    push Not at hc
    by_cases hd : t.2.uDindirEntry ≠
        (lb - directPointers - inodeIndirBlocks) % dindirDataBlocks / indirEntries
    · rw [if_pos hd]
      refine (redInodePutBuf_place .indir).bind fun _ t1 h1 => ?_
      have he : t1.2.uInodeEntry = t.2.uInodeEntry :=
        congrArg Coordinates.uInodeEntry h1.coordinates
      exact hlast t1 (he.trans hc.1) h1.logical h1.inited
    · rw [if_neg hd]
      exact hlast t hc.1 rfl rfl

/-- **The entries after `SeekCoord()` are those of the block**, whatever was cached before, if it
was right. -/
theorem seekCoord_coordinates (hm : t.1.cinodeIsMounted t.2 = true) (hlb : lb < inodeDataBlocks)
    (hs : t.2.Settled) : (seekCoord lb).Ok t fun _ t' =>
      t'.2.coordinates = coordinatesOf lb ∧ t'.2.ulLogicalBlock = lb ∧
        t'.2.fCoordInited = true := by
  unfold seekCoord
  refine Op.Ok.run_bind (rfl : getCInode t = (.ok t.2, t)) ?_
  refine Op.Ok.run_bind (rfl : (liftFS .get : RedI FS) t = (.ok t.1, t)) ?_
  rw [if_neg (by simp [hm, hlb])]
  by_cases hc : t.2.ulLogicalBlock ≠ lb ∨ !t.2.fCoordInited
  · rw [if_pos hc]
    refine (redInodePutBuf_place .fileData).bind fun _ t1 _ => ?_
    refine Op.Ok.run_bind (rfl : modifyCInode _ t1 =
      (.ok (), (t1.1, { t1.2 with ulLogicalBlock := lb }))) ?_
    have hfin : ∀ t2 : FS × CInode, CInode.Moved { t1.2 with ulLogicalBlock := lb } lb t2.2 →
        (modifyCInode fun ci => { ci with fCoordInited := true }).Ok t2 fun _ t' =>
          t'.2.coordinates = coordinatesOf lb ∧ t'.2.ulLogicalBlock = lb ∧
            t'.2.fCoordInited = true :=
      fun t2 h2 => ⟨(), _, rfl, h2.coordinates, h2.logical, rfl⟩
    by_cases h1 : lb < directPointers
    · rw [if_pos h1]
      exact (seekCoordDirect_moved h1).bind fun _ t2 h2 => hfin t2 h2
    · rw [if_neg h1]
      by_cases h2 : lb < inodeIndirBlocks + directPointers
      · rw [if_pos h2]
        exact (seekCoordIndir_moved (not_lt.1 h1) h2).bind fun _ t2 h3 => hfin t2 h3
      · rw [if_neg h2]
        exact (seekCoordDindir_moved (not_lt.1 h2)).bind fun _ t2 h3 => hfin t2 h3
  · rw [if_neg hc]
    push Not at hc
    have hinit : t.2.fCoordInited = true := by simpa using hc.2
    exact .pure ⟨hc.1 ▸ hs hinit, hc.1, hinit⟩

end

end RelianceEdge
