import RelianceEdge.Alloc.Node
import RelianceEdge.Tree.Place
import RelianceEdge.Volume

set_option relaxedAutoImplicit false
set_option autoImplicit false
set_option linter.unusedSectionVars false

/-!
# Relations that every operation respects

An operation of a mounted volume is put together from a few elementary changes of the state: the
buffers, the counts of the metaroot, the marks of the volume, and the writes of buffers. A relation
between states that holds of each elementary change holds of every run, whatever its outcome and
whatever is stored on the device.

## Main definitions

* `Elementary` — relations that hold of the elementary changes.
* `ElementaryLists` — those that the lists of orphans do not matter to either.
* `ElementaryCInode`, `ElementarySeek` — relations for the operations on a cached inode.

## Main results

* `respects_redBufferGet`, `respects_redImapBlockSet`, … — every operation respects them.
* `respects_redVolFreeOrphans` — freeing the defunct orphans does.
-/

namespace RelianceEdge

variable [RedConf]

open RedConf

/-- The lists of orphans of two metaroots have the same ends. -/
structure Metaroot.SameOrphans (mr mr' : Metaroot) : Prop where
  defunct : mr.ulDefunctOrphanHead = mr'.ulDefunctOrphanHead
  head : mr.ulOrphanHead = mr'.ulOrphanHead
  tail : mr.ulOrphanTail = mr'.ulOrphanTail

/-- **A relation that holds of the elementary changes** that an operation of a mounted volume is put
together from, those of the lists of orphans apart. -/
class Elementary (I : FS → FS → Prop) : Prop extends IsPreorder FS I where
  critical : ∀ s : FS, I s { s with vol := { s.vol with fReadOnly := true } }
  buffers : ∀ (s : FS) (bc : BufCtx), I s { s with buf := bc }
  bufferWrite : ∀ i, (bufferWrite i).Respects I
  metaroot : ∀ (s : FS) {f : Metaroot → Metaroot}, (∀ mr, (f mr).SameOrphans mr) → I s (s.setMR f)
  almostFree : ∀ (s : FS) (n : ℕ), I s { s with core := { s.core with ulAlmostFreeBlocks := n } }
  branched : ∀ s : FS, I s { s with core := { s.core with fBranched := true } }
  reserved : ∀ (s : FS) (n m : ℕ), I s { s with core := { s.core with
    ulReservedInodes := n
    ulReservedInodeBlocks := m } }

/-- An elementary relation that holds of every change of the metaroot. -/
class ElementaryLists (I : FS → FS → Prop) : Prop extends Elementary I where
  lists : ∀ (s : FS) (f : Metaroot → Metaroot), I s (s.setMR f)

/-- What a relation for operations on a cached inode says where the cached inode stays as it is. -/
def AtCInode (K : FS × CInode → FS × CInode → Prop) (s s' : FS) : Prop :=
  ∀ ci, K (s, ci) (s', ci)

/-- A relation for operations on a cached inode that holds of the elementary changes, and of every
change of the cached inode that leaves it at its place. -/
class ElementaryCInode (K : FS × CInode → FS × CInode → Prop) : Prop
    extends IsPreorder (FS × CInode) K where
  elementary : Elementary (AtCInode K)
  place : ∀ (s : FS) (ci ci' : CInode), ci.SamePlace ci' → K (s, ci) (s, ci')

attribute [instance] ElementaryCInode.elementary

/-- Such a relation that also holds where the cached inode is moved to another block. -/
class ElementarySeek (K : FS × CInode → FS × CInode → Prop) : Prop extends ElementaryCInode K where
  seekCoord : ∀ ulBlock, (seekCoord ulBlock).Respects K

section

variable {I : FS → FS → Prop} [Elementary I] {α : Type}

/-! ## The buffer cache -/

lemma respects_criticalError : criticalError.Respects I := fun s => Elementary.critical s

lemma respects_criticalAssert (exp : Bool) : (criticalAssert exp).Respects I :=
  .ite (.pure ()) respects_criticalError

lemma respects_redIoRead (a n : ℕ) : (redIoRead a n).Respects I :=
  .get_bind fun _ => .ite (.pure _) (.bind (respects_criticalAssert _) fun _ => .fail _)

/-- A change of the buffers alone. -/
lemma respects_modifyBuf (f : FS → BufCtx) :
    (Op.modify fun s => { s with buf := f s } : Red Unit).Respects I :=
  .modify fun s => Elementary.buffers s (f s)

lemma respects_setHead (i : ℕ) (f : BufferHead → BufferHead) :
    (Op.modify fun s => s.setHead i f : Red Unit).Respects I := respects_modifyBuf _

lemma respects_setBuf (i : ℕ) (f : FS → Node) :
    (Op.modify fun s => s.setBuf i (f s) : Red Unit).Respects I := respects_modifyBuf _

lemma respects_bufferWrite (i : ℕ) : (bufferWrite i).Respects I := Elementary.bufferWrite i

lemma respects_bufferFill (i b : ℕ) (t : BufType) (f : Bool) :
    (bufferFill i b t f).Respects I :=
  .ite (respects_setBuf _ _) <| .bind (respects_setHead _ _) fun _ =>
    .bind (respects_redIoRead _ _) fun _ => .get_bind fun _ => .bind (respects_setBuf _ _) fun _ =>
      .when (.bind (respects_criticalAssert _) fun _ => .fail _)

lemma respects_bufferRepurpose (b : ℕ) (t : BufType) (f : Bool) :
    (bufferRepurpose b t f).Respects I := by
  refine .get_bind fun s => ?_
  cases s.buf.abMRU.reverse.find? fun bIdx => (s.buf.aHead bIdx).bRefCount == 0
  · exact .bind respects_criticalError fun _ => .fail _
  · exact .bind (.when (respects_bufferWrite _)) fun _ => .bind (respects_bufferFill _ _ _ _)
      fun _ => .bind (respects_setHead _ _) fun _ => .pure _

lemma respects_bufferFind (b : ℕ) : (bufferFind b).Respects I :=
  .get_bind fun _ => .ite (.pure _) (.pure _)

lemma respects_bufferObtain (b : ℕ) (t : BufType) (f : Bool) :
    (bufferObtain b t f).Respects I := by
  refine .get_bind fun s => .bind (respects_bufferFind b) fun r => ?_
  cases r
  · exact .ite (.bind respects_criticalError fun _ => .fail _) (respects_bufferRepurpose _ _ _)
  · exact .ite (.bind respects_criticalError fun _ => .fail _) (.pure _)

lemma respects_bufferReference (i : ℕ) (t : BufType) (f : Bool) :
    (bufferReference i t f).Respects I := by
  refine .bind (respects_setHead _ _) fun _ => .bind (.modify fun s => ?_) fun _ =>
    respects_modifyBuf _
  split_ifs
  · exact Elementary.buffers s _
  · exact refl_of I s

lemma respects_redBufferGet (b : ℕ) (t : BufType) (f f' : Bool) :
    (redBufferGet b t f f').Respects I :=
  .get_bind fun _ => .ite (.fail _) <| .bind (respects_bufferObtain _ _ _) fun _ =>
    .bind (respects_bufferReference _ _ _) fun _ => .pure _

lemma respects_redBufferPut (i : ℕ) : (redBufferPut i).Respects I := by
  refine .modify fun s => ?_
  split_ifs
  · dsimp only
    split_ifs
    · exact Elementary.buffers s _
    · exact Elementary.buffers s _
  · exact refl_of I s

lemma respects_redBufferDirty (i : ℕ) : (redBufferDirty i).Respects I := by
  refine .modify fun s => ?_
  split_ifs
  · exact Elementary.buffers s _
  · exact refl_of I s

lemma respects_redBufferBranch (i b : ℕ) : (redBufferBranch i b).Respects I := by
  refine .modify fun s => ?_
  split_ifs
  · exact Elementary.buffers s _
  · exact refl_of I s

lemma respects_redBufferDiscard (i : ℕ) : (redBufferDiscard i).Respects I :=
  .get_bind fun _ => .when <| .bind (respects_setHead _ _) fun _ =>
    .bind (respects_modifyBuf _) fun _ => respects_modifyBuf _

lemma respects_bufferDiscardLoop (a n : ℕ) (l : List ℕ) :
    (bufferDiscardLoop a n l).Respects I := by
  induction l with
  | nil => exact .pure ()
  | cons i l ih =>
    exact .get_bind fun _ => .bind (.when (.ite
      (.bind (respects_setHead _ _) fun _ => respects_modifyBuf _)
      (.bind respects_criticalError fun _ => .fail _))) fun _ => ih

lemma respects_redBufferDiscardRange (a n : ℕ) : (redBufferDiscardRange a n).Respects I :=
  .get_bind fun _ => .ite (respects_bufferDiscardLoop _ _ _) (.fail _)

/-! ## The imap -/

lemma respects_redImapIBlockGet (f : Bool) (b : ℕ) : (redImapIBlockGet f b).Respects I :=
  .get_bind fun _ => .ite (.fail _) (.pure _)

/-- A change of the metaroot that spares the lists of orphans. -/
lemma respects_setMR {f : FS → Metaroot → Metaroot}
    (h : ∀ s mr, (f s mr).SameOrphans mr) :
    (Op.modify fun s => s.setMR (f s) : Red Unit).Respects I :=
  .modify fun s => Elementary.metaroot s (h s)

lemma respects_redImapIBlockSet (b : ℕ) (f : Bool) : (redImapIBlockSet b f).Respects I :=
  .get_bind fun _ => .ite (.fail _) <| .ite (.bind respects_criticalError fun _ => .fail _)
    (respects_setMR fun _ _ => ⟨rfl, rfl, rfl⟩)

lemma respects_redImapIBlockFindFree (b : ℕ) : (redImapIBlockFindFree b).Respects I :=
  .get_bind fun _ => .ite (.fail _) (.ofExcept _)

lemma respects_redImapEBlockGet (f : Bool) (b : ℕ) : (redImapEBlockGet f b).Respects I :=
  .get_bind fun _ => .ite (.fail _) <| .bind (respects_redBufferGet _ _ _ _) fun _ =>
    .get_bind fun _ => .bind (respects_redBufferPut _) fun _ => .pure _

lemma respects_imapNodeBranch (n : ℕ) : (imapNodeBranch n).Respects I :=
  .get_bind fun _ => .ite (.fail _) <| .ite (respects_redBufferGet _ _ _ _) <|
    .bind (respects_setMR fun _ _ => ⟨rfl, rfl, rfl⟩) fun _ => .get_bind fun _ =>
      .bind (respects_redBufferDiscardRange _ _) fun _ => .bind (respects_redBufferGet _ _ _ _)
        fun _ => .bind (respects_redBufferBranch _ _) fun _ => .pure _

lemma respects_redImapEBlockSet (b : ℕ) (f : Bool) : (redImapEBlockSet b f).Respects I :=
  .get_bind fun _ => .ite (.fail _) <| .bind (respects_imapNodeBranch _) fun _ =>
    .get_bind fun _ => .ite
      (.bind respects_criticalError fun _ => .bind (respects_redBufferPut _) fun _ => .fail _)
      (.bind (respects_setBuf _ _) fun _ => respects_redBufferPut _)

lemma respects_imapEFindFreeNode (n n' : ℕ) (p : Option ℕ) :
    (imapEFindFreeNode n n' p).Respects I := by
  refine .get_bind fun _ => ?_
  cases p
  · exact respects_redBufferGet _ _ _ _
  · exact .ite (.pure _) (.bind (respects_redBufferPut _) fun _ => respects_redBufferGet _ _ _ _)

lemma respects_imapEFindFreeLoop (b fuel x n : ℕ) (p : Option ℕ) :
    (imapEFindFreeLoop b fuel x n p).Respects I := by
  induction fuel generalizing x n p with
  | zero => exact .fail _
  | succ fuel ih =>
    have hput : ∀ i, (do redBufferPut i; .fail .ENOSPC : Red ℕ).Respects I := fun i =>
      .bind (respects_redBufferPut i) fun _ => .fail _
    exact .get_bind fun _ => .bind (respects_imapEFindFreeNode _ _ _) fun _ => .get_bind fun _ =>
      .ite (.ite (hput _) (ih _ _ _)) <| .ite (.ite (hput _) (ih _ _ _)) <|
        .bind (respects_redBufferPut _) fun _ => .bind (respects_redBufferGet _ _ _ _) fun _ =>
          .get_bind fun _ => .bind (respects_redBufferPut _) fun _ =>
            .ite (.pure _) (.ite (.fail _) (ih _ _ _))

lemma respects_redImapEBlockFindFree (b : ℕ) : (redImapEBlockFindFree b).Respects I :=
  .get_bind fun _ => .ite (.fail _) (respects_imapEFindFreeLoop _ _ _ _ _)

lemma respects_redImapBlockGet (f : Bool) (b : ℕ) : (redImapBlockGet f b).Respects I :=
  .get_bind fun _ => .ite (.fail _) <|
    .ite (respects_redImapIBlockGet _ _) (respects_redImapEBlockGet _ _)

lemma respects_almostFree (f : FS → ℕ) :
    (Op.modify fun s => { s with core := { s.core with ulAlmostFreeBlocks := f s } } :
      Red Unit).Respects I :=
  .modify fun s => Elementary.almostFree s (f s)

lemma respects_imapAdjustFreeCount (b : ℕ) (f : Bool) :
    (imapAdjustFreeCount b f).Respects I := by
  refine .get_bind fun _ => .when (.ite (respects_setMR fun _ _ => ⟨rfl, rfl, rfl⟩) ?_)
  refine .bind (.attempt (respects_redImapBlockGet _ _)) fun r => ?_
  rcases r with e | _ | _
  · exact .bind respects_criticalError fun _ => .fail _
  · exact respects_setMR fun _ _ => ⟨rfl, rfl, rfl⟩
  · exact respects_almostFree _

/-- Marking the volume as branched. -/
lemma respects_branched :
    (Op.modify fun s => { s with core := { s.core with fBranched := true } } :
      Red Unit).Respects I :=
  .modify fun s => Elementary.branched s

/-- The part of `RedImapBlockSet()` after the volume was marked as branched. -/
lemma respects_redImapBlockSet_tail (b : ℕ) (f : Bool) (ret : Except RedError Unit) :
    (do
      .ofExcept ret
      .when (!f) do
        match ← .attempt (redBufferDiscardRange b 1) with
        | .error e =>
          criticalError
          .fail e
        | .ok () => pure ()
      imapAdjustFreeCount b f : Red Unit).Respects I := by
  refine .bind (.ofExcept _) fun _ => .bind (.when (.bind
    (.attempt (respects_redBufferDiscardRange b 1)) fun r => ?_)) fun _ =>
      respects_imapAdjustFreeCount b f
  cases r
  · exact .bind respects_criticalError fun _ => .fail _
  · exact .pure _

lemma respects_redImapBlockSet (b : ℕ) (f : Bool) : (redImapBlockSet b f).Respects I :=
  .get_bind fun _ => .ite (.fail _) <| .ite (.bind respects_criticalError fun _ => .fail _) <|
    .bind (.attempt (.ite (respects_redImapIBlockSet b f) (respects_redImapEBlockSet b f))) fun _ =>
      .bind respects_branched fun _ => respects_redImapBlockSet_tail b f _

lemma respects_redImapAllocBlock : redImapAllocBlock.Respects I := by
  refine .get_bind fun s => .ite (.fail _) <| .bind (.attempt
    (.ite (respects_redImapIBlockFindFree _) (respects_redImapEBlockFindFree _))) fun r => ?_
  rcases r with e | b
  · cases e <;> first
      | exact .fail _
      | exact .bind respects_criticalError fun _ => .fail _
  · refine .bind (respects_setMR fun _ _ => ⟨rfl, rfl, rfl⟩) fun _ =>
      .bind (.attempt (respects_redImapBlockSet b true)) fun r => ?_
    cases r
    · exact .bind respects_criticalError fun _ => .fail _
    · exact .pure _

lemma respects_redImapBlockState (b : ℕ) : (redImapBlockState b).Respects I :=
  .get_bind fun _ => .ite (.fail _) <| .bind (respects_redImapBlockGet _ _) fun _ =>
    .bind (respects_redImapBlockGet _ _) fun _ => .pure _

/-! ## Cached inodes -/

instance : ElementaryCInode (Op.OnFst I) where
  elementary :=
    { refl := fun s _ => refl_of I s
      trans := fun _ _ _ h h' ci => trans_of I (h ci) (h' ci)
      critical := fun s _ => Elementary.critical s
      buffers := fun s bc _ => Elementary.buffers s bc
      bufferWrite := fun i s _ => Elementary.bufferWrite i s
      metaroot := fun s _ hf _ => Elementary.metaroot s hf
      almostFree := fun s n _ => Elementary.almostFree s n
      branched := fun s _ => Elementary.branched s
      reserved := fun s n m _ => Elementary.reserved s n m }
  place s _ _ _ := refl_of I s

variable {K : FS × CInode → FS × CInode → Prop} [ElementaryCInode K]

lemma respects_liftFS {x : Red α} (h : x.Respects (AtCInode K)) : (liftFS x).Respects K :=
  .zoom h fun t _ hu => hu t.2

lemma respects_getFS : (liftFS .get : RedI FS).Respects K := respects_liftFS .get

lemma respects_getCInode : getCInode.Respects K := fun t => refl_of K t

/-- A change of the cached inode that leaves it at its place. -/
lemma respects_place {f : CInode → CInode} (h : ∀ ci : CInode, ci.SamePlace (f ci)) :
    (modifyCInode f).Respects K := fun t => ElementaryCInode.place t.1 t.2 _ (h t.2)

lemma respects_modifyCInode (f : CInode → CInode) :
    (modifyCInode f).Respects (Op.OnFst I) := fun t => refl_of I t.1

lemma respects_inodeBuf : inodeBuf.Respects K := fun t => refl_of K t

lemma respects_getEntry (ref : EntryRef) : (getEntry ref).Respects K := fun t => refl_of K t

lemma respects_critical (e : RedError) :
    (do liftFS criticalError; .fail e : RedI α).Respects K :=
  .bind (respects_liftFS respects_criticalError) fun _ => .fail e

lemma respects_redInodeBitGet (f : Bool) (n : ℕ) (w : Bool) :
    (redInodeBitGet f n w).Respects I :=
  .get_bind fun _ => .ite (.fail _) (respects_redImapBlockGet _ _)

lemma respects_inodeBitSet (n : ℕ) (w f : Bool) : (inodeBitSet n w f).Respects I :=
  .get_bind fun _ => .ite (.fail _) (respects_redImapBlockSet _ _)

lemma respects_inodeGetCurrentCopy (n : ℕ) : (inodeGetCurrentCopy n).Respects I :=
  .get_bind fun _ => .bind (respects_redInodeBitGet _ _ _) fun _ => .ite (.pure _) <|
    .bind (respects_redInodeBitGet _ _ _) fun _ => .ite (.pure _) (.fail _)

lemma respects_inodeGetWriteableCopy (n : ℕ) : (inodeGetWriteableCopy n).Respects I :=
  .get_bind fun _ => .bind (respects_redInodeBitGet _ _ _) fun _ => .ite (.pure _) <|
    .bind (respects_redInodeBitGet _ _ _) fun _ => .ite (.pure _)
      (.bind respects_criticalError fun _ => .fail _)

lemma respects_inodeIsBranched (n : ℕ) : (inodeIsBranched n).Respects I :=
  .get_bind fun _ => .ite (.fail _) <| .bind (respects_redImapBlockState _) fun _ =>
    .ite (.pure _) (.bind (respects_redImapBlockState _) fun _ => .pure _)

lemma respects_redInodePutBuf (d : BranchDepth) :
    (redInodePutBuf d).Respects K := by
  refine .bind respects_getCInode fun ci => ?_
  cases ci.buf d
  · exact .pure _
  · exact .bind (respects_liftFS (respects_redBufferPut _)) fun _ =>
      respects_place fun ci => .setBuf ci d none

lemma respects_redInodePutCoord : redInodePutCoord.Respects K :=
  .bind (respects_redInodePutBuf _) fun _ => .bind (respects_redInodePutBuf _) fun _ =>
    respects_redInodePutBuf _

lemma respects_modifyInodeBuf (f : Inode → Inode) :
    (modifyInodeBuf f).Respects K := by
  refine .bind respects_getCInode fun ci => ?_
  cases ci.pInodeBuf
  · exact .pure _
  · exact respects_liftFS (respects_setBuf _ _)

lemma respects_redInodePut (f : IPut) : (redInodePut f).Respects (Op.OnFst I) := by
  refine .bind respects_redInodePutCoord fun _ => .bind respects_getCInode fun ci => ?_
  cases ci.pInodeBuf
  · exact .pure _
  · exact .bind (.when (.bind respects_getFS fun _ => respects_modifyInodeBuf _)) fun _ =>
      .bind (respects_liftFS (respects_redBufferPut _)) fun _ => respects_modifyCInode _

lemma respects_redInodeBranch : redInodeBranch.Respects (Op.OnFst I) := by
  refine .bind respects_getCInode fun ci => .bind respects_getFS fun s => ?_
  cases ci.pInodeBuf
  · exact .fail _
  · refine .ite (.fail _) <| .ite (.bind (.attempt ?_) fun r => ?_)
      (.bind (respects_liftFS (respects_redBufferDirty _)) fun _ => respects_modifyCInode _)
    · exact .bind (respects_liftFS (respects_inodeGetWriteableCopy _)) fun _ =>
        .bind (respects_liftFS (respects_redBufferBranch _ _)) fun _ =>
          .bind (respects_modifyCInode _) fun _ =>
            .bind (respects_liftFS (respects_inodeBitSet _ _ _)) fun _ =>
              respects_liftFS (respects_inodeBitSet _ _ _)
    · cases r
      · exact respects_critical _
      · exact .pure _

lemma respects_redInodeMount (t : FType) (f : Bool) :
    (redInodeMount t f).Respects (Op.OnFst I) := by
  refine .bind respects_getCInode fun ci => .bind respects_getFS fun s => .ite (.fail _) <|
    .bind (respects_modifyCInode _) fun _ => .bind (.attempt ?_) fun r => ?_
  · exact .bind (respects_liftFS (respects_inodeGetCurrentCopy _)) fun _ =>
      .bind (respects_liftFS (respects_redBufferGet _ _ _ _)) fun _ =>
        .bind (respects_modifyCInode _) fun _ =>
          .bind (respects_liftFS (respects_inodeIsBranched _)) fun _ =>
            .bind (respects_modifyCInode _) fun _ => .bind respects_inodeBuf fun _ =>
              .bind (respects_modifyCInode _) fun _ => .bind (.ofExcept _) fun _ =>
                .when respects_redInodeBranch
  · cases r
    · exact .bind (respects_redInodePut _) fun _ => .fail _
    · exact .pure _

lemma respects_inodeFreeSlot (n : ℕ) : (inodeFreeSlot n).Respects I :=
  .get_bind fun _ => .bind (respects_redInodeBitGet _ _ _) fun _ =>
    .bind (respects_redInodeBitGet _ _ _) fun _ =>
      .ite (.ite (.bind respects_criticalError fun _ => .fail _) (respects_inodeBitSet _ _ _)) <|
        .ite (.bind respects_criticalError fun _ => .fail _) (respects_inodeBitSet _ _ _)

lemma respects_redInodeFree : redInodeFree.Respects (Op.OnFst I) := by
  refine .bind respects_getCInode fun ci => .bind respects_getFS fun s => ?_
  cases ci.pInodeBuf
  · exact .fail _
  · exact .ite (.fail _) <| .bind (respects_liftFS (respects_redBufferDiscard _)) fun _ =>
      .bind (respects_modifyCInode _) fun _ =>
        .bind (.attempt (respects_liftFS (respects_inodeFreeSlot _))) fun _ =>
          .bind (respects_modifyCInode _) fun _ => .bind (.ofExcept _) fun _ =>
            .bind respects_getFS fun _ =>
              .ite (respects_critical _)
                (respects_liftFS (respects_setMR fun _ _ => ⟨rfl, rfl, rfl⟩))

end

/-! ## Seeking and branching -/

section

variable {I : FS → FS → Prop} [Elementary I]

lemma respects_consumeReservation : consumeReservation.Respects I :=
  .get_bind fun _ => .when <| .ite (.bind respects_criticalError fun _ => .fail _) <|
    .modify fun s => Elementary.reserved s _ _

lemma respects_seekCoordDirect (b : ℕ) : (seekCoordDirect b).Respects (Op.OnFst I) :=
  .bind respects_redInodePutCoord fun _ => .bind (respects_getEntry _) fun _ =>
    respects_modifyCInode _

lemma respects_seekCoordIndir (b : ℕ) : (seekCoordIndir b).Respects (Op.OnFst I) :=
  .bind respects_getCInode fun _ => .bind (respects_redInodePutBuf _) fun _ =>
    .bind (.when (.bind (respects_redInodePutBuf _) fun _ => .bind (respects_getEntry _) fun _ =>
      respects_modifyCInode _)) fun _ => respects_modifyCInode _

lemma respects_seekCoordDindir (b : ℕ) : (seekCoordDindir b).Respects (Op.OnFst I) :=
  .bind respects_getCInode fun _ =>
    .ite (.bind (respects_redInodePutBuf _) fun _ => .bind (respects_redInodePutBuf _) fun _ =>
      .bind (respects_getEntry _) fun _ => .bind (respects_modifyCInode _) fun _ =>
        respects_modifyCInode _) <|
      .ite (.bind (respects_redInodePutBuf _) fun _ => respects_modifyCInode _)
        (respects_modifyCInode _)

lemma respects_seekCoord (b : ℕ) : (seekCoord b).Respects (Op.OnFst I) :=
  .bind respects_getCInode fun _ => .bind respects_getFS fun _ => .ite (.pure _) <|
    .ite (.bind (respects_redInodePutBuf _) fun _ => .bind (respects_modifyCInode _) fun _ =>
      .ite (.bind (respects_seekCoordDirect b) fun _ => respects_modifyCInode _) <|
        .ite (.bind (respects_seekCoordIndir b) fun _ => respects_modifyCInode _)
          (.bind (respects_seekCoordDindir b) fun _ => respects_modifyCInode _)) (.pure _)

instance : ElementarySeek (Op.OnFst I) where
  seekCoord := respects_seekCoord

end

section

variable {K : FS × CInode → FS × CInode → Prop} [ElementarySeek K]

lemma respects_bufferNode (d : BranchDepth) (t : BufType) :
    (bufferNode d t).Respects K :=
  .bind respects_getCInode fun _ => .when <|
    .bind (respects_liftFS (respects_redBufferGet _ _ _ _)) fun _ =>
      respects_place fun ci => .setBuf ci d _

lemma respects_seekDindir : seekDindir.Respects K :=
  .bind respects_getCInode fun _ => .when <| .ite (respects_place fun _ => ⟨rfl, rfl, rfl⟩) <|
    .bind (respects_bufferNode _ _) fun _ => .bind (respects_getEntry _) fun _ =>
      respects_place fun _ => ⟨rfl, rfl, rfl⟩

lemma respects_seekIndir : seekIndir.Respects K :=
  .bind respects_getCInode fun _ => .when <| .ite (respects_place fun _ => ⟨rfl, rfl, rfl⟩) <|
    .bind (respects_bufferNode _ _) fun _ => .bind (respects_getEntry _) fun _ =>
      respects_place fun _ => ⟨rfl, rfl, rfl⟩

lemma respects_seekInode (b : ℕ) : (seekInode b).Respects K :=
  .bind respects_getCInode fun _ => .bind respects_getFS fun _ => .ite (.fail _) <|
    .bind (ElementarySeek.seekCoord b) fun _ => .bind respects_seekDindir fun _ =>
      .bind respects_seekIndir fun _ => .bind respects_getCInode fun _ => .when (.fail _)

lemma respects_seekInodeSparse (b : ℕ) : (seekInodeSparse b).Respects K := by
  refine .bind (.attempt (respects_seekInode b)) fun r => ?_
  rcases r with e | _
  · cases e <;> first | exact .pure _ | exact .fail _
  · exact .pure _

lemma respects_branchNodeCost (b : ℕ) : (branchNodeCost b).Respects K :=
  .ite (.pure _) (.bind (respects_liftFS (respects_redImapBlockState _)) fun _ => .pure _)

lemma respects_branchBlockCost (d : BranchDepth) :
    (branchBlockCost d).Respects K := by
  have hcost : ∀ (c : Prop) [Decidable c] (b : ℕ) (f : ℕ → RedI ℕ),
      (∀ k, (f k).Respects K) →
      (if c then branchNodeCost b >>= f else pure 0 >>= f).Respects K :=
    fun c _ b f hf => .ite (.bind (respects_branchNodeCost b) hf) (.bind (.pure _) hf)
  exact .bind respects_getCInode fun _ => .bind respects_getFS fun _ => .ite (.fail _) <|
    hcost _ _ _ fun _ => hcost _ _ _ fun _ => hcost _ _ _ fun _ => .pure _

lemma respects_obtainNode (d : BranchDepth) (b : ℕ) (t : BufType) :
    (obtainNode d b t).Respects K := by
  refine .bind respects_getCInode fun ci => ?_
  cases ci.buf d
  · exact .bind (respects_liftFS (respects_redBufferGet _ _ _ _)) fun _ =>
      .bind (respects_place fun ci => .setBuf ci d _) fun _ => .pure _
  · exact .pure _

lemma respects_branchOneBlock (d : BranchDepth) (f : Bool) (t : BufType) :
    (branchOneBlock d f t).Respects K := by
  refine .bind respects_getCInode fun ci => ?_
  refine .ite (.bind (respects_liftFS (respects_redImapBlockState _)) fun state => ?_)
    (.bind (.pure _) fun state => ?_)
  all_goals
    refine .ite (.when ?_) <| .bind (respects_liftFS respects_redImapAllocBlock)
      fun _ => .bind (respects_place fun ci => .setBlock ci d _) fun _ => .ite ?_ ?_
    · cases ci.buf d
      · exact .bind (respects_liftFS (respects_redBufferGet _ _ _ _)) fun _ =>
          respects_place fun ci => .setBuf ci d _
      · exact respects_liftFS (respects_redBufferDirty _)
    · exact .bind (respects_liftFS respects_consumeReservation) fun _ => .when <| .ite (.fail _) <|
        .bind (respects_liftFS (respects_redBufferGet _ _ _ _)) fun _ =>
          respects_place fun ci => .setBuf ci d _
    · exact .bind (.when (.bind (respects_obtainNode _ _ _) fun _ =>
        respects_liftFS (respects_redBufferBranch _ _))) fun _ =>
          respects_liftFS (respects_redImapBlockSet _ _)

lemma respects_modifyIndirBuf (d : BranchDepth) (f : Indir → Indir) :
    (modifyIndirBuf d f).Respects K := by
  refine .bind respects_getCInode fun ci => ?_
  cases ci.buf d
  · exact .pure _
  · exact respects_liftFS (respects_setBuf _ _)

lemma respects_setEntry (ref : EntryRef) (b : ℕ) :
    (setEntry ref b).Respects K := by
  cases ref
  · exact respects_modifyInodeBuf _
  · exact respects_modifyIndirBuf _ _
  · exact respects_modifyIndirBuf _ _

lemma respects_branchPath (d : BranchDepth) (f : Bool) :
    (branchPath d f).Respects K := by
  have hblocks : ∀ c : Prop, ∀ [Decidable c], (Op.when c (do
      let ino ← inodeBuf
      if ino.ulBlocks < inodeDataBlocks then
        modifyInodeBuf fun ino => { ino with ulBlocks := ino.ulBlocks + 1 }
      else
        liftFS criticalError
        .fail .EFUBAR : RedI Unit)).Respects K := fun c _ =>
    .when (.bind respects_inodeBuf fun _ => .ite (respects_modifyInodeBuf _) (respects_critical _))
  refine .bind respects_getCInode fun _ => .bind (.when ?_) fun _ => .bind (.when ?_) fun _ =>
    .when ?_
  · exact .bind (respects_branchOneBlock _ _ _) fun _ => .bind (respects_modifyIndirBuf _ _)
      fun _ => .bind respects_getCInode fun _ => respects_setEntry _ _
  · exact .bind (respects_branchOneBlock _ _ _) fun _ => .bind (respects_modifyIndirBuf _ _)
      fun _ => .bind respects_getCInode fun _ =>
        .ite (respects_setEntry _ _) (respects_setEntry _ _)
  · exact .bind respects_getFS fun _ => .bind (respects_branchOneBlock _ _ _) fun _ =>
      .bind respects_getCInode fun _ => .ite (.bind (respects_setEntry _ _) fun _ => hblocks _)
        (.bind (respects_setEntry _ _) fun _ => hblocks _)

lemma respects_branchBlock (d : BranchDepth) (f : Bool) :
    (branchBlock d f).Respects K := by
  refine .bind (respects_branchBlockCost d) fun _ => .bind respects_getFS fun _ =>
    .ite (.fail _) <| .bind (.attempt (respects_branchPath d f)) fun r => ?_
  cases r
  · exact respects_critical _
  · exact .pure _

/-! ## Truncating -/

lemma respects_truncDataBlock (ref : EntryRef) (f : Bool) :
    (truncDataBlock ref f).Respects K :=
  .bind respects_getCInode fun _ => .bind respects_getFS fun _ => .ite (.fail _) <|
    .bind (respects_getEntry _) fun _ => .when <|
      .bind (respects_liftFS (respects_redImapBlockSet _ _)) fun _ => .bind respects_inodeBuf
        fun _ => .ite (.bind (respects_liftFS respects_criticalError) fun _ => .bind (.fail _)
          fun _ => .when (respects_setEntry _ _)) <|
            .bind (respects_modifyInodeBuf _) fun _ => .when (respects_setEntry _ _)

lemma respects_truncDataBlocks (ref : ℕ → EntryRef) (f : Bool) (l : List ℕ) :
    (truncDataBlocks ref f l).Respects K := by
  induction l with
  | nil => exact .pure _
  | cons k l ih => exact .bind (respects_truncDataBlock _ _) fun _ => ih

lemma respects_truncIndir : truncIndir.Respects K :=
  .bind respects_getCInode fun _ => .bind respects_getFS fun _ => .ite (.fail _) <|
    .ite (.pure _) <| .bind (.when (respects_branchBlock _ _)) fun _ =>
      .bind (respects_truncDataBlocks _ _ _) fun _ => .bind (.when (.bind
        (respects_redInodePutBuf _) fun _ => .bind respects_getCInode fun _ =>
          respects_liftFS (respects_redImapBlockSet _ _))) fun _ => .pure _

lemma respects_truncDindirLoop (f : Bool) (l : List ℕ) (b : ℕ) :
    (truncDindirLoop f l b).Respects K := by
  induction l generalizing b with
  | nil => exact .pure _
  | cons k l ih =>
    exact .bind (respects_seekInodeSparse b) fun _ => .bind respects_getCInode fun _ =>
      .bind (.when (.bind respects_truncIndir fun _ => .when (respects_setEntry _ _))) fun _ =>
        .bind respects_getCInode fun _ => ih _

lemma respects_truncDindir : truncDindir.Respects K :=
  .bind respects_getCInode fun _ => .bind respects_getFS fun _ => .ite (.fail _) <|
    .ite (.pure _) <| .bind (.when (respects_branchBlock _ _)) fun _ =>
      .bind (respects_truncDindirLoop _ _ _) fun _ => .bind (.when (.bind
        (respects_redInodePutBuf _) fun _ => .bind respects_getCInode fun _ =>
          respects_liftFS (respects_redImapBlockSet _ _))) fun _ => .pure _

lemma respects_shrinkIndirs (fuel b : ℕ) : (shrinkIndirs fuel b).Respects K := by
  induction fuel generalizing b with
  | zero => exact .ite (.pure _) (.fail _)
  | succ fuel ih =>
    exact .ite (.pure _) <| .bind (respects_seekInodeSparse b) fun _ =>
      .bind respects_truncIndir fun _ => .bind respects_getCInode fun _ =>
        .bind (.when (respects_setEntry _ _)) fun _ => ih _

lemma respects_shrinkDindirs (fuel b : ℕ) :
    (shrinkDindirs fuel b).Respects K := by
  induction fuel generalizing b with
  | zero => exact .ite (.pure _) (.fail _)
  | succ fuel ih =>
    exact .ite (.pure _) <| .bind (respects_seekInodeSparse b) fun _ =>
      .bind respects_getCInode fun _ => .bind respects_truncDindir fun _ =>
        .bind (.when (respects_setEntry _ _)) fun _ => ih _

lemma respects_shrink (n : ℕ) : (shrink n).Respects K :=
  .bind respects_getCInode fun _ => .bind respects_getFS fun _ => .ite (.fail _) <|
    .bind (respects_redInodePutBuf _) fun _ => .bind (respects_truncDataBlocks _ _ _) fun _ =>
      .bind (respects_shrinkIndirs _ _) fun _ => .when (respects_shrinkDindirs _ _)

lemma respects_modifyData (f : (ℕ → UInt8) → ℕ → UInt8) :
    (modifyData f).Respects K := by
  refine .bind respects_getCInode fun ci => ?_
  cases ci.pbData
  · exact .pure _
  · exact respects_liftFS (respects_setBuf _ _)

lemma respects_expandPrepare : expandPrepare.Respects K :=
  .bind respects_getCInode fun _ => .bind respects_getFS fun _ => .ite (.fail _) <|
    .bind respects_inodeBuf fun _ => .when <| .bind (respects_seekInodeSparse _) fun _ => .when <|
      .bind (respects_branchBlock _ _) fun _ => respects_modifyData _

lemma respects_redInodeDataTruncate (n : ℕ) :
    (redInodeDataTruncate n).Respects K :=
  .bind respects_getCInode fun _ => .bind respects_getFS fun _ => .ite (.fail _) <|
    .ite (.fail _) <| .bind respects_inodeBuf fun _ =>
      .ite (.bind respects_expandPrepare fun _ => respects_modifyInodeBuf _) <|
        .ite (.bind (respects_shrink n) fun _ => respects_modifyInodeBuf _)
          (respects_modifyInodeBuf _)

end

/-! ## Orphans -/

section

variable {I : FS → FS → Prop} [Elementary I] {α : Type}

lemma respects_inodeDelete : inodeDelete.Respects (Op.OnFst I) :=
  .bind respects_getCInode fun _ => .bind respects_getFS fun _ => .ite (.fail _) <|
    .bind respects_inodeBuf fun _ => .bind (.when (respects_redInodeDataTruncate 0)) fun _ =>
      respects_redInodeFree

lemma respects_redInodeFreeOrphan : redInodeFreeOrphan.Respects (Op.OnFst I) :=
  .bind respects_getCInode fun _ => .bind respects_getFS fun _ => .bind respects_inodeBuf fun _ =>
    .ite (.fail _) <| .ite (respects_critical _) respects_inodeDelete

lemma respects_withCInode (n : ℕ) {x : RedI α} (h : x.Respects (Op.OnFst I)) :
    (withCInode n x).Respects I := fun s => h (s, { CInode.zero with ulInode := n })

/-- Freeing the inode at the head of the defunct list, before the head is moved on. -/
lemma respects_freeDefunctHead (n : ℕ) :
    (withCInode n do
      redInodeMount FTYPE_ANY false
      let ulNextInode := (← inodeBuf).ulNextOrphan
      redInodeFreeOrphan
      pure ulNextInode).Respects I :=
  respects_withCInode _ <| .bind (respects_redInodeMount _ _) fun _ =>
    .bind respects_inodeBuf fun _ => .bind respects_redInodeFreeOrphan fun _ => .pure _

end

/-! ## The lists of orphans -/

section

variable {I : FS → FS → Prop} [ElementaryLists I]

lemma respects_setLists (f : FS → Metaroot → Metaroot) :
    (Op.modify fun s => s.setMR (f s) : Red Unit).Respects I :=
  .modify fun s => ElementaryLists.lists s (f s)

lemma respects_freeFirstOrphan : freeFirstOrphan.Respects I :=
  .get_bind fun _ => .bind (respects_freeDefunctHead _) fun _ =>
    respects_setLists _

lemma respects_freeOrphansLoop (n : ℕ) : (freeOrphansLoop n).Respects I := by
  induction n with
  | zero => exact .pure _
  | succ n ih => exact .bind respects_freeFirstOrphan fun _ => ih

lemma respects_redVolFreeOrphans (n : ℕ) : (redVolFreeOrphans n).Respects I := by
  refine .ite (.fail _) <| .bind (.attempt (respects_freeOrphansLoop n)) fun r => ?_
  cases r
  · exact .get_bind fun _ => .ite (.fail _) <|
      .ite (.bind respects_criticalError fun _ => .fail _) (.pure _)
  · exact .pure _

lemma respects_concatOrphanLists : concatOrphanLists.Respects I := by
  refine .get_bind fun s => fun t => ?_
  have hbody : (do
      redInodeMount FTYPE_ANY true
      let ret ← .attempt do
        if (← inodeBuf).ulNextOrphan ≠ INODE_INVALID then
          liftFS criticalError
          .fail .EFUBAR
        else
          let mr := (← liftFS .get).mr
          modifyInodeBuf fun ino => { ino with ulNextOrphan := mr.ulDefunctOrphanHead }
          liftFS (.modify fun s => s.setMR fun mr => { mr with
            ulDefunctOrphanHead := mr.ulOrphanHead
            ulOrphanHead := INODE_INVALID
            ulOrphanTail := INODE_INVALID })
      redInodePut ⟨false, false⟩
      .ofExcept ret : RedI Unit).Respects (Op.OnFst I) := by
    refine .bind (respects_redInodeMount _ _) fun _ => .bind (.attempt ?_)
      fun _ => .bind (respects_redInodePut _) fun _ => .ofExcept _
    exact .bind respects_inodeBuf fun _ =>
      .ite (respects_critical _) <|
        .bind respects_getFS fun _ =>
          .bind (respects_modifyInodeBuf _) fun _ =>
            .zoom (respects_setLists _) fun _ _ hu => hu
  exact hbody (t, { CInode.zero with ulInode := s.mr.ulOrphanTail })

lemma respects_mountOrphans (ulFlags : MountFlags) : (mountOrphans ulFlags).Respects I :=
  .get_bind fun _ => .ite (.bind (respects_redVolFreeOrphans _) fun _ =>
    .bind (respects_setLists _) fun _ => respects_redVolFreeOrphans _) <|
      .ite (respects_setLists _) <| .ite respects_concatOrphanLists (.pure _)

end

end RelianceEdge
