import RelianceEdge.Mount.Ambient
import RelianceEdge.System

set_option relaxedAutoImplicit false
set_option autoImplicit false
set_option linter.unusedSectionVars false

/-!
# Operations that only read

Without a dirty buffer in the cache, an operation that only reads leaves the device and both
metaroots alone, and dirties nothing, whatever the volume holds.

## Main definitions

* `FS.Clean` — no buffer is dirty.
* `Idle` — what a run that only reads leaves.

## Main results

* `reads_redInodeDataRead`, `reads_redDirEntryLookup`, … — the operations that only read.
* `CoreOp.idle` — on a read-only volume every call only reads.
-/

namespace RelianceEdge

variable [RedConf]

open RedConf

/-- No buffer that holds a block is dirty. -/
def FS.Clean (s : FS) : Prop :=
  ∀ i, (s.buf.aHead i).ulBlock ≠ BBLK_INVALID → (s.buf.aHead i).fDirty = false

/-- **What a run that only reads leaves.** -/
structure Idle (s s' : FS) : Prop where
  clean : s'.Clean
  cur : s'.core.bCurMR = s.core.bCurMR
  metaroots : s'.core.aMR = s.core.aMR
  branched : s'.core.fBranched = s.core.fBranched
  mounted : s'.vol.fMounted = s.vol.fMounted
  readOnly : s.vol.fReadOnly = true → s'.vol.fReadOnly = true
  disk : s'.disk = s.disk
  history : s'.history = s.history

/-- From a clean cache, the run only reads. -/
def Reads (s s' : FS) : Prop := s.Clean → Idle s s'

section

variable {s s' s'' : FS} {α : Type}

lemma Idle.refl (h : s.Clean) : Idle s s := ⟨h, rfl, rfl, rfl, rfl, id, rfl, rfl⟩

lemma Idle.trans (h : Idle s s') (h' : Idle s' s'') : Idle s s'' :=
  ⟨h'.clean, h'.cur.trans h.cur, h'.metaroots.trans h.metaroots, h'.branched.trans h.branched,
    h'.mounted.trans h.mounted, fun hr => h'.readOnly (h.readOnly hr), h'.disk.trans h.disk,
    h'.history.trans h.history⟩

instance : IsPreorder FS Reads where
  refl _ := .refl
  trans _ _ _ h h' hc := (h hc).trans (h' (h hc).clean)

/-- Only the buffers and what mount does not look at changed. -/
lemma Reads.of_buf (hc : s.Clean → s'.Clean) (h1 : s'.core = s.core) (h2 : s'.vol = s.vol)
    (h3 : s'.disk = s.disk) (h4 : s'.history = s.history) : Reads s s' := fun h =>
  ⟨hc h, by rw [h1], by rw [h1], by rw [h1], by rw [h2], by rw [h2]; exact id, h3, h4⟩

/-! ## The buffer cache -/

/-- A head may change as long as it does not become dirty. -/
lemma FS.Clean.setHead {i : ℕ} {f : BufferHead → BufferHead} (h : s.Clean)
    (hf : ∀ hd : BufferHead, (hd.ulBlock ≠ BBLK_INVALID → hd.fDirty = false) →
      (f hd).ulBlock ≠ BBLK_INVALID → (f hd).fDirty = false) : (s.setHead i f).Clean := by
  intro j hj
  by_cases hji : j = i
  · subst hji
    simp only [FS.setHead, Function.update_self] at hj ⊢
    exact hf _ (h j) hj
  · simp only [FS.setHead, Function.update_of_ne hji] at hj ⊢
    exact h j hj

lemma reads_setHead {i : ℕ} {f : BufferHead → BufferHead}
    (hf : ∀ hd : BufferHead, (hd.ulBlock ≠ BBLK_INVALID → hd.fDirty = false) →
      (f hd).ulBlock ≠ BBLK_INVALID → (f hd).fDirty = false) :
    (Op.modify fun s => s.setHead i f : Red Unit).Respects Reads :=
  .modify fun _ => .of_buf (fun h => h.setHead hf) rfl rfl rfl rfl

lemma reads_setBuf (i : ℕ) (f : FS → Node) :
    (Op.modify fun s => s.setBuf i (f s) : Red Unit).Respects Reads :=
  .modify fun _ => .of_buf id rfl rfl rfl rfl

lemma reads_criticalError : criticalError.Respects Reads :=
  .modify fun _ h => ⟨h, rfl, rfl, rfl, rfl, fun _ => rfl, rfl, rfl⟩

lemma reads_critical (e : RedError) : (do criticalError; .fail e : Red α).Respects Reads :=
  .bind reads_criticalError fun _ => .fail e

lemma reads_criticalAssert (exp : Bool) : (criticalAssert exp).Respects Reads :=
  .ite (.pure ()) reads_criticalError

lemma reads_redIoRead (a n : ℕ) : (redIoRead a n).Respects Reads :=
  .get_bind fun _ => .ite (.pure _) (.bind (reads_criticalAssert _) fun _ => .fail _)

lemma reads_bufferFill (i b : ℕ) (t : BufType) (f : Bool) : (bufferFill i b t f).Respects Reads :=
  .ite (reads_setBuf _ _) <| .bind (reads_setHead fun _ _ h => absurd rfl h) fun _ =>
    .bind (reads_redIoRead _ _) fun _ => .get_bind fun _ => .bind (reads_setBuf _ _) fun _ =>
      .when (.bind (reads_criticalAssert _) fun _ => .fail _)

/-- The buffer that is repurposed is clean, so it is not written out. -/
lemma reads_bufferRepurpose (b : ℕ) (t : BufType) (f : Bool) :
    (bufferRepurpose b t f).Respects Reads := by
  intro s hc
  unfold bufferRepurpose
  rw [Op.get_bind_run]
  cases s.buf.abMRU.reverse.find? fun bIdx => (s.buf.aHead bIdx).bRefCount == 0 with
  | none => exact reads_critical (α := ℕ) .EBUSY s hc
  | some i =>
    have hw : ¬ ((s.buf.aHead i).fDirty && (s.buf.aHead i).ulBlock != BBLK_INVALID) = true := by
      intro h
      rw [Bool.and_eq_true, bne_iff_ne] at h
      rw [hc i h.2] at h
      exact Bool.false_ne_true h.1
    simp only
    rw [Op.when_neg hw]
    have key : (do
        bufferFill i b t f
        .modify fun s => s.setHead i fun h =>
          { h with ulBlock := b, fDirty := false, type := .data }
        pure i : Red ℕ).Respects Reads :=
      .bind (reads_bufferFill _ _ _ _) fun _ => .bind (reads_setHead fun _ _ _ => rfl) fun _ =>
        .pure _
    exact key s hc

lemma reads_bufferObtain (b : ℕ) (t : BufType) (f : Bool) :
    (bufferObtain b t f).Respects Reads := by
  refine .get_bind fun s => .bind (.get_bind fun _ => .ite (.pure _) (.pure _)) fun r => ?_
  cases r
  · exact .ite (reads_critical _) (reads_bufferRepurpose _ _ _)
  · exact .ite (reads_critical _) (.pure _)

lemma reads_bufferReference (i : ℕ) (t : BufType) : (bufferReference i t false).Respects Reads := by
  refine .bind (reads_setHead fun hd h hb => by simpa using h hb) fun _ =>
    .bind (.modify fun s => ?_)
    fun _ => .modify fun _ => .of_buf id rfl rfl rfl rfl
  split_ifs
  · exact .of_buf id rfl rfl rfl rfl
  · exact refl_of Reads s

lemma reads_redBufferGet (b : ℕ) (t : BufType) (f : Bool) :
    (redBufferGet b t false f).Respects Reads :=
  .get_bind fun _ => .ite (.fail _) <| .bind (reads_bufferObtain _ _ _) fun _ =>
    .bind (reads_bufferReference _ _) fun _ => .pure _

lemma reads_redBufferPut (i : ℕ) : (redBufferPut i).Respects Reads := by
  refine .modify fun s => ?_
  have key : s.Clean → (s.setHead i fun h => { h with bRefCount := h.bRefCount - 1 }).Clean :=
    fun h => h.setHead fun _ h => h
  split_ifs
  · dsimp only
    split_ifs
    · exact .of_buf key rfl rfl rfl rfl
    · exact .of_buf key rfl rfl rfl rfl
  · exact refl_of Reads s

lemma reads_redBufferDiscard (i : ℕ) : (redBufferDiscard i).Respects Reads :=
  .get_bind fun _ => .when <| .bind (reads_setHead fun _ _ h => absurd rfl h) fun _ =>
    .bind (.modify fun _ => .of_buf id rfl rfl rfl rfl) fun _ =>
      .modify fun _ => .of_buf id rfl rfl rfl rfl

/-- No buffer is dirty, so none is flushed. -/
lemma reads_bufferFlushLoop (a n : ℕ) (l : List ℕ) : (bufferFlushLoop a n l).Respects Reads := by
  induction l with
  | nil => exact .pure ()
  | cons i l ih =>
    intro s hc
    unfold bufferFlushLoop
    rw [Op.get_bind_run, Op.when_neg]
    · exact ih s hc
    · intro h
      rw [Bool.and_eq_true, BufferHead.isIn, Bool.and_eq_true, Bool.and_eq_true, bne_iff_ne] at h
      rw [hc i h.1.1.1] at h
      exact Bool.false_ne_true h.2

lemma reads_redBufferFlushRange (a n : ℕ) : (redBufferFlushRange a n).Respects Reads :=
  .get_bind fun _ => .ite (reads_bufferFlushLoop _ _ _) (.fail _)

lemma reads_bufferDiscardLoop (a n : ℕ) (l : List ℕ) :
    (bufferDiscardLoop a n l).Respects Reads := by
  induction l with
  | nil => exact .pure ()
  | cons i l ih =>
    exact .get_bind fun _ => .bind (.when (.ite
      (.bind (reads_setHead fun _ _ h => absurd rfl h) fun _ =>
        .modify fun _ => .of_buf id rfl rfl rfl rfl) (reads_critical _))) fun _ => ih

lemma reads_redBufferDiscardRange (a n : ℕ) : (redBufferDiscardRange a n).Respects Reads :=
  .get_bind fun _ => .ite (reads_bufferDiscardLoop _ _ _) (.fail _)

lemma reads_redBufferReadRange (a n : ℕ) : (redBufferReadRange a n).Respects Reads :=
  .get_bind fun _ => .ite (.bind (reads_redBufferFlushRange _ _) fun _ =>
    .bind (reads_redIoRead _ _) fun _ => .pure _) (.fail _)

/-! ## The imap and the inodes -/

lemma reads_redImapBlockGet (f : Bool) (b : ℕ) : (redImapBlockGet f b).Respects Reads :=
  .get_bind fun _ => .ite (.fail _) <| .ite (.get_bind fun _ => .ite (.fail _) (.pure _)) <|
    .get_bind fun _ => .ite (.fail _) <| .bind (reads_redBufferGet _ _ _) fun _ =>
      .get_bind fun _ =>
      .bind (reads_redBufferPut _) fun _ => .pure _

lemma reads_redImapBlockState (b : ℕ) : (redImapBlockState b).Respects Reads :=
  .get_bind fun _ => .ite (.fail _) <| .bind (reads_redImapBlockGet _ _) fun _ =>
    .bind (reads_redImapBlockGet _ _) fun _ => .pure _

lemma reads_redInodeBitGet (f : Bool) (n : ℕ) (w : Bool) : (redInodeBitGet f n w).Respects Reads :=
  .get_bind fun _ => .ite (.fail _) (reads_redImapBlockGet _ _)

lemma reads_inodeGetCurrentCopy (n : ℕ) : (inodeGetCurrentCopy n).Respects Reads :=
  .get_bind fun _ => .bind (reads_redInodeBitGet _ _ _) fun _ => .ite (.pure _) <|
    .bind (reads_redInodeBitGet _ _ _) fun _ => .ite (.pure _) (.fail _)

lemma reads_inodeIsBranched (n : ℕ) : (inodeIsBranched n).Respects Reads :=
  .get_bind fun _ => .ite (.fail _) <| .bind (reads_redImapBlockState _) fun _ =>
    .ite (.pure _) (.bind (reads_redImapBlockState _) fun _ => .pure _)

lemma reads_liftFS {x : Red α} (h : x.Respects Reads) : (liftFS x).Respects (Op.OnFst Reads) :=
  .zoom h fun _ _ hu => hu

lemma reads_getFS : (liftFS .get : RedI FS).Respects (Op.OnFst Reads) := reads_liftFS .get

lemma reads_getCInode : getCInode.Respects (Op.OnFst Reads) := fun t => refl_of Reads t.1

lemma reads_modifyCInode (f : CInode → CInode) : (modifyCInode f).Respects (Op.OnFst Reads) :=
  fun t => refl_of Reads t.1

lemma reads_inodeBuf : inodeBuf.Respects (Op.OnFst Reads) := fun t => refl_of Reads t.1

lemma reads_getEntry (ref : EntryRef) : (getEntry ref).Respects (Op.OnFst Reads) :=
  fun t => refl_of Reads t.1

lemma reads_redInodePutBuf (d : BranchDepth) : (redInodePutBuf d).Respects (Op.OnFst Reads) := by
  refine .bind reads_getCInode fun ci => ?_
  cases ci.buf d
  · exact .pure _
  · exact .bind (reads_liftFS (reads_redBufferPut _)) fun _ => reads_modifyCInode _

lemma reads_redInodePutCoord : redInodePutCoord.Respects (Op.OnFst Reads) :=
  .bind (reads_redInodePutBuf _) fun _ => .bind (reads_redInodePutBuf _) fun _ =>
    reads_redInodePutBuf _

lemma reads_redInodePut : (redInodePut ⟨false, false⟩).Respects (Op.OnFst Reads) := by
  refine .bind reads_redInodePutCoord fun _ => .bind reads_getCInode fun ci => ?_
  cases ci.pInodeBuf
  · exact .pure _
  · simp only
    rw [Op.when_neg (by simp)]
    exact .bind (.pure _) fun _ => .bind (reads_liftFS (reads_redBufferPut _)) fun _ =>
      reads_modifyCInode _

lemma reads_redInodeMount (t : FType) : (redInodeMount t false).Respects (Op.OnFst Reads) := by
  refine .bind reads_getCInode fun ci => .bind reads_getFS fun s => .ite (.fail _) <|
    .bind (reads_modifyCInode _) fun _ => .bind (.attempt ?_) fun r => ?_
  · rw [Op.when_neg Bool.false_ne_true]
    exact .bind (reads_liftFS (reads_inodeGetCurrentCopy _)) fun _ =>
      .bind (reads_liftFS (reads_redBufferGet _ _ _)) fun _ => .bind (reads_modifyCInode _) fun _ =>
        .bind (reads_liftFS (reads_inodeIsBranched _)) fun _ => .bind (reads_modifyCInode _)
          fun _ => .bind reads_inodeBuf fun _ => .bind (reads_modifyCInode _) fun _ =>
            .bind (.ofExcept _) fun _ => .pure _
  · cases r
    · exact .bind reads_redInodePut fun _ => .fail _
    · exact .pure _

lemma reads_withInode {n : ℕ} {t : FType} {x : RedI α} (h : x.Respects (Op.OnFst Reads)) :
    (withInode n t false iputNone x).Respects Reads := by
  have : (do
      redInodeMount t false
      let ret ← .attempt x
      redInodePut ⟨false, false⟩
      .ofExcept ret : RedI α).Respects (Op.OnFst Reads) :=
    .bind (reads_redInodeMount t) fun _ => .bind (.attempt h) fun _ => .bind reads_redInodePut
      fun _ => .ofExcept _
  exact fun s => this (s, { CInode.zero with ulInode := n })

/-! ## File data and directories -/

lemma reads_seekCoordDirect (b : ℕ) : (seekCoordDirect b).Respects (Op.OnFst Reads) :=
  .bind reads_redInodePutCoord fun _ => .bind (reads_getEntry _) fun _ => reads_modifyCInode _

lemma reads_seekCoordIndir (b : ℕ) : (seekCoordIndir b).Respects (Op.OnFst Reads) :=
  .bind reads_getCInode fun _ => .bind (reads_redInodePutBuf _) fun _ =>
    .bind (.when (.bind (reads_redInodePutBuf _) fun _ => .bind (reads_getEntry _) fun _ =>
      reads_modifyCInode _)) fun _ => reads_modifyCInode _

lemma reads_seekCoordDindir (b : ℕ) : (seekCoordDindir b).Respects (Op.OnFst Reads) :=
  .bind reads_getCInode fun _ =>
    .ite (.bind (reads_redInodePutBuf _) fun _ => .bind (reads_redInodePutBuf _) fun _ =>
      .bind (reads_getEntry _) fun _ => .bind (reads_modifyCInode _) fun _ =>
        reads_modifyCInode _) <|
      .ite (.bind (reads_redInodePutBuf _) fun _ => reads_modifyCInode _) (reads_modifyCInode _)

lemma reads_seekCoord (b : ℕ) : (seekCoord b).Respects (Op.OnFst Reads) :=
  .bind reads_getCInode fun _ => .bind reads_getFS fun _ => .ite (.pure _) <|
    .ite (.bind (reads_redInodePutBuf _) fun _ => .bind (reads_modifyCInode _) fun _ =>
      .ite (.bind (reads_seekCoordDirect b) fun _ => reads_modifyCInode _) <|
        .ite (.bind (reads_seekCoordIndir b) fun _ => reads_modifyCInode _)
          (.bind (reads_seekCoordDindir b) fun _ => reads_modifyCInode _)) (.pure _)

lemma reads_bufferNode (d : BranchDepth) (t : BufType) :
    (bufferNode d t).Respects (Op.OnFst Reads) :=
  .bind reads_getCInode fun _ => .when <| .bind (reads_liftFS (reads_redBufferGet _ _ _)) fun _ =>
    reads_modifyCInode _

lemma reads_seekDindir : seekDindir.Respects (Op.OnFst Reads) :=
  .bind reads_getCInode fun _ => .when <| .ite (reads_modifyCInode _) <|
    .bind (reads_bufferNode _ _) fun _ => .bind (reads_getEntry _) fun _ => reads_modifyCInode _

lemma reads_seekIndir : seekIndir.Respects (Op.OnFst Reads) :=
  .bind reads_getCInode fun _ => .when <| .ite (reads_modifyCInode _) <|
    .bind (reads_bufferNode _ _) fun _ => .bind (reads_getEntry _) fun _ => reads_modifyCInode _

lemma reads_seekInode (b : ℕ) : (seekInode b).Respects (Op.OnFst Reads) :=
  .bind reads_getCInode fun _ => .bind reads_getFS fun _ => .ite (.fail _) <|
    .bind (reads_seekCoord b) fun _ => .bind reads_seekDindir fun _ => .bind reads_seekIndir
      fun _ => .bind reads_getCInode fun _ => .when (.fail _)

lemma reads_seekInodeSparse (b : ℕ) : (seekInodeSparse b).Respects (Op.OnFst Reads) := by
  refine .bind (.attempt (reads_seekInode b)) fun r => ?_
  rcases r with e | _
  · cases e <;> first | exact .pure _ | exact .fail _
  · exact .pure _

lemma reads_redInodeDataSeekAndRead (b : ℕ) :
    (redInodeDataSeekAndRead b).Respects (Op.OnFst Reads) :=
  .bind (reads_seekInode b) fun _ => .bind reads_getCInode fun _ => .bind reads_getFS fun _ =>
    reads_bufferNode _ _

lemma reads_getExtent (b n : ℕ) : (getExtent b n).Respects (Op.OnFst Reads) := by
  have hloop : ∀ (b k n m : ℕ), (getExtentLoop b k n m).Respects (Op.OnFst Reads) := by
    intro b k n
    induction n with
    | zero => exact fun m => .pure _
    | succ n ih =>
      exact fun m => .bind (reads_seekInodeSparse _) fun _ =>
        .ite (.bind reads_getCInode fun _ => .ite (.pure _) (ih _)) (.pure _)
  exact .bind (reads_seekInode b) fun _ => .bind reads_getCInode fun _ =>
    .bind (hloop _ _ _ _) fun _ => .pure _

lemma reads_readUnaligned (a n : ℕ) : (readUnaligned a n).Respects (Op.OnFst Reads) := by
  refine .ite (.fail _) <| .bind (.attempt (reads_redInodeDataSeekAndRead _)) fun r => ?_
  rcases r with e | _
  · cases e <;> first | exact .pure _ | exact .fail _
  · exact .bind reads_getCInode fun _ => .bind reads_getFS fun _ => .pure _

lemma reads_readAligned (b n : ℕ) : (readAligned b n).Respects (Op.OnFst Reads) := by
  have hloop : ∀ (fuel k : ℕ) (pb : ℕ → UInt8),
      (readAlignedLoop b n fuel k pb).Respects (Op.OnFst Reads) := by
    intro fuel
    induction fuel with
    | zero => exact fun k pb => .ite (.pure _) (.fail _)
    | succ fuel ih =>
      refine fun k pb => .ite (.pure _) <| .bind (.attempt (reads_getExtent _ _)) fun r => ?_
      rcases r with e | ⟨x, m⟩
      · cases e <;> first | exact ih _ _ | exact .fail _
      · exact .bind (reads_liftFS (reads_redBufferReadRange _ _)) fun _ => ih _ _
  exact hloop _ _ _

/-- A part of a read that is there or not. -/
lemma reads_part {β γ : Type} {c : Prop} [Decidable c] {x : RedI α} {g : α → β} {b : β}
    {k : β → RedI γ} (hx : x.Respects (Op.OnFst Reads))
    (hk : ∀ b, (k b).Respects (Op.OnFst Reads)) :
    (if c then (do let a ← x; let b ← pure (g a); k b) else (do let b ← pure b; k b)).Respects
      (Op.OnFst Reads) :=
  .ite (.bind hx fun _ => .bind (.pure _) fun _ => hk _) (.bind (.pure _) fun _ => hk _)

lemma reads_redInodeDataRead (a n : ℕ) : (redInodeDataRead a n).Respects (Op.OnFst Reads) :=
  .bind reads_getCInode fun _ => .bind reads_getFS fun _ => .ite (.fail _) <|
    .bind reads_inodeBuf fun _ => .ite (.pure _) <| .ite (.pure _) <|
      reads_part (reads_readUnaligned _ _) fun _ => reads_part (reads_readAligned _ _) fun _ =>
        reads_part (reads_readUnaligned _ _) fun _ => .pure _

lemma reads_dirLookupLoop (nm : CString) (len cnt fuel idx free : ℕ) :
    (dirLookupLoop nm len cnt fuel idx free).Respects (Op.OnFst Reads) := by
  induction fuel generalizing idx free with
  | zero => exact .ite (.pure _) (.fail _)
  | succ fuel ih =>
    refine .ite (.pure _) <| .bind reads_getFS fun _ =>
      .bind (.attempt (reads_redInodeDataSeekAndRead _)) fun r => ?_
    rcases r with e | _
    · cases e <;> first | exact ih _ _ | exact .fail _
    · refine .bind reads_getCInode fun ci => .bind reads_getFS fun s => ?_
      rcases h : s.lookupInBlock (s.deref ci.pbData).asBytes nm len idx
        (List.range (min s.direntsPerBlock (cnt - idx))) free with ⟨_ | k, f⟩
      · simp only [h]
        exact ih _ _
      · simp only [h]
        exact .pure _

lemma reads_redDirEntryLookup (nm : CString) : (redDirEntryLookup nm).Respects (Op.OnFst Reads) :=
  .bind reads_getCInode fun _ => .bind reads_getFS fun _ => .ite (.fail _) <| .ite (.fail _) <|
    .ite (.fail _) <| .ite (.fail _) <| .bind reads_inodeBuf fun _ =>
      .bind (reads_dirLookupLoop _ _ _ _ _ _) fun _ => .ite (.pure _) (.pure _)

lemma reads_redDirEntryRead (idx : ℕ) : (redDirEntryRead idx).Respects (Op.OnFst Reads) := by
  have hloop : ∀ (cnt fuel idx : ℕ), (dirReadLoop cnt fuel idx).Respects (Op.OnFst Reads) := by
    intro cnt fuel
    induction fuel with
    | zero => exact fun idx => .ite (.pure _) (.fail _)
    | succ fuel ih =>
      refine fun idx => .ite (.pure _) <| .bind reads_getFS fun s =>
        .bind (.attempt (reads_redInodeDataSeekAndRead _)) fun r => ?_
      rcases r with e | _
      · cases e <;> first | exact ih _ | exact .fail _
      · refine .bind reads_getCInode fun ci => .bind reads_getFS fun s => ?_
        dsimp only
        split
        · exact .pure _
        · exact ih _
  exact .bind reads_getCInode fun _ => .bind reads_getFS fun _ => .ite (.fail _) <|
    .ite (.fail _) <|
    .bind reads_inodeBuf fun _ => hloop _ _ _

/-! ## Calls on a read-only volume -/

/-- A call that a mounted volume can receive: all but mounting it once more and unmounting it. -/
def CoreOp.whileMounted : CoreOp → Bool
  | .mount _ | .unmount => false
  | _ => true

lemma whenWriteable_readOnly {x : Red α} (h : s.vol.fReadOnly = true) :
    ∃ e, whenWriteable x s = (.error e, s) := by
  unfold whenWriteable
  rw [Op.get_bind_run]
  by_cases hm : s.vol.fMounted
  · exact ⟨.EROFS, by simp [hm, h]⟩
  · exact ⟨.EINVAL, by simp [hm]⟩

lemma coreRetry_readOnly {x : Red α} {m : ℕ} (h : s.vol.fReadOnly = true) :
    ∃ e, coreRetry m x s = (.error e, s) := by
  unfold coreRetry
  rw [Op.get_bind_run]
  by_cases hm : s.vol.fMounted
  · exact ⟨.EROFS, by simp [hm, h]⟩
  · exact ⟨.EINVAL, by simp [hm]⟩

lemma reads_whenMounted {x : Red α} (h : x.Respects Reads) : (whenMounted x).Respects Reads :=
  .get_bind fun _ => .ite (.fail _) h

/-- The result of a call does not matter for the state it leaves. -/
lemma ignoreResult_run (x : Red α) (s : FS) : ((do let _ ← x : Red Unit) s).2 = (x s).2 := by
  change (Op.bind x _ s).2 = _
  unfold Op.bind
  rcases hx : x s with ⟨_ | _, _⟩ <;> rfl

/-- A run that fails at once. -/
lemma Idle.of_error {x : Red α} (hc : s.Clean) (h : ∃ e, x s = (.error e, s)) : Idle s (x s).2 := by
  obtain ⟨e, he⟩ := h
  rw [he]
  exact .refl hc

/-- A reserved write only clears the flag that it set. -/
lemma idle_fileWriteReserved (n a len : ℕ) (pb : ℕ → UInt8) (hc : s.Clean)
    (hro : s.vol.fReadOnly = true) : Idle s (redCoreFileWriteReserved n a len pb s).2 := by
  unfold redCoreFileWriteReserved setUseReservedInodeBlocks redCoreFileWrite
  rw [Op.modify_bind_run, Op.attempt_bind_run, Op.modify_bind_run]
  obtain ⟨e, he⟩ := coreRetry_readOnly (s := { s with core := { s.core with
    fUseReservedInodeBlocks := true } }) hro
  rw [he]
  exact ⟨hc, rfl, rfl, rfl, rfl, id, rfl, rfl⟩

/-- **On a read-only volume every call only reads.** -/
theorem CoreOp.idle {op : CoreOp} (hop : op.whileMounted = true) (hc : s.Clean)
    (hm : s.vol.fMounted = true) (hro : s.vol.fReadOnly = true) : Idle s (op.run s) := by
  have hread : ∀ {β : Type} {x : Red β}, x.Respects Reads → Idle s (whenMounted x s).2 :=
    fun h => reads_whenMounted h s hc
  unfold CoreOp.run CoreOp.exec
  cases op with
  | format opts =>
    refine .of_error hc ?_
    simp only [redVolFormat]
    by_cases hv : opts.ulVersion ≠ 0 ∧ (!redDiskLayoutIsSupported opts.ulVersion) = true
    · rw [if_pos hv]
      exact ⟨.EINVAL, rfl⟩
    · rw [if_neg hv, Op.get_bind_run, if_pos hm]
      exact ⟨.EBUSY, rfl⟩
  | mount => cases hop
  | unmount => cases hop
  | transact => exact .of_error hc (whenWriteable_readOnly hro)
  | rollback => exact .of_error hc (whenWriteable_readOnly hro)
  | transMaskSet m =>
    refine .of_error hc ?_
    simp only [redCoreTransMaskSet]
    rw [Op.get_bind_run]
    split_ifs
    · exact ⟨.EINVAL, rfl⟩
    · exact ⟨.EROFS, rfl⟩
  | freeOrphans n =>
    by_cases hd : deleteOpen = true
    · refine .of_error hc ?_
      simp only [hd, if_true, redCoreVolFreeOrphans]
      rw [Op.get_bind_run]
      split_ifs
      · exact ⟨.EINVAL, rfl⟩
      · exact ⟨.EROFS, rfl⟩
    · simp only [if_neg hd]
      exact .refl hc
  | freeOrphan n =>
    by_cases hd : deleteOpen = true
    · simp only [if_pos hd]
      exact .of_error hc (whenWriteable_readOnly hro)
    · simp only [if_neg hd]
      exact .refl hc
  | create => simp only [ignoreResult_run]; exact .of_error hc (coreRetry_readOnly hro)
  | link => exact .of_error hc (coreRetry_readOnly hro)
  | unlink => exact .of_error hc (coreRetry_readOnly hro)
  | rename => exact .of_error hc (coreRetry_readOnly hro)
  | lookup n nm =>
    simp only [ignoreResult_run]
    exact hread (reads_withInode (.bind (reads_redDirEntryLookup nm) fun _ =>
      .ite (.pure _) (.fail _)))
  | stat n =>
    simp only [ignoreResult_run]
    exact hread (reads_withInode (.bind reads_inodeBuf fun _ => .pure _))
  | uTimes => exact .of_error hc (whenWriteable_readOnly hro)
  | fileRead n a len =>
    simp only [ignoreResult_run]
    exact hread (reads_withInode (reads_redInodeDataRead a len))
  | fileWrite => simp only [ignoreResult_run]; exact .of_error hc (coreRetry_readOnly hro)
  | fileWriteReserved n a len pb =>
    simp only [ignoreResult_run]
    exact idle_fileWriteReserved n a len pb hc hro
  | fileTruncate => exact .of_error hc (coreRetry_readOnly hro)
  | fileReserve => exact .of_error hc (coreRetry_readOnly hro)
  | fileUnreserve => exact .of_error hc (whenWriteable_readOnly hro)
  | dirRead n pos =>
    simp only [ignoreResult_run]
    exact hread (reads_withInode (reads_redDirEntryRead pos))
  | dirParent n =>
    simp only [ignoreResult_run]
    exact hread (.ite (.pure _) (reads_withInode (.bind reads_inodeBuf fun _ =>
      .ite (.fail _) (.pure _))))
  | clock => exact ⟨hc, rfl, rfl, rfl, rfl, id, rfl, rfl⟩

/-- A run of calls on a read-only volume only reads. -/
theorem Idle.run {ops : List CoreOp} (hops : ∀ op ∈ ops, op.whileMounted = true) (hc : s.Clean)
    (hm : s.vol.fMounted = true) (hro : s.vol.fReadOnly = true) : Idle s (Run ops s) := by
  induction ops generalizing s with
  | nil => exact .refl hc
  | cons op ops ih =>
    have h := CoreOp.idle (hops op List.mem_cons_self) hc hm hro
    exact h.trans (ih (fun o ho => hops o (List.mem_cons_of_mem _ ho)) h.clean
      (h.mounted.trans hm) (h.readOnly hro))

end

end RelianceEdge
