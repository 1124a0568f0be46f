import RelianceEdge.Mount.Elementary

set_option relaxedAutoImplicit false
set_option autoImplicit false
set_option linter.unusedSectionVars false

/-!
# What only a transaction point changes

Between a mount and the next transaction point, rollback or unmount, the committed metaroot and
the layout of the volume stay what they are, and once the working state differs from the committed
one the volume stays marked as branched. This holds of every run, failing runs on a corrupt volume
included.

## Main definitions

* `Ambient` — the relation between the states before and after.
* `SameLists` — the same, with the ends of the lists of orphans.
-/

namespace RelianceEdge

variable [RedConf]

open RedConf

/-- **What only a transaction point, a rollback or a mount changes**; the marks of a branched and of
a read-only volume are only ever set. -/
structure Ambient (s s' : FS) : Prop where
  keeps : s.core.Keeps s'.core
  branched : s.core.fBranched = true → s'.core.fBranched = true
  dev : s'.ulDevBlocks = s.ulDevBlocks
  sector : s'.bSectorSizeP2 = s.bSectorSizeP2
  count : s'.vol.ulBlockCount = s.vol.ulBlockCount
  allocable : s'.vol.ulBlocksAllocable = s.vol.ulBlocksAllocable
  mounted : s'.vol.fMounted = s.vol.fMounted
  mask : s'.vol.ulTransMask = s.vol.ulTransMask
  readOnly : s.vol.fReadOnly = true → s'.vol.fReadOnly = true
  seq : s.vol.ullSequence ≤ s'.vol.ullSequence

/-- What an operation changes that does not work on the lists of orphans either. -/
structure SameLists (s s' : FS) : Prop extends Ambient s s' where
  defunct : s'.mr.ulDefunctOrphanHead = s.mr.ulDefunctOrphanHead
  head : s'.mr.ulOrphanHead = s.mr.ulOrphanHead
  tail : s'.mr.ulOrphanTail = s.mr.ulOrphanTail

section

variable {s s' s'' : FS}

lemma Ambient.refl (s : FS) : Ambient s s :=
  ⟨.refl _, id, rfl, rfl, rfl, rfl, rfl, rfl, id, le_rfl⟩

lemma Ambient.trans (h : Ambient s s') (h' : Ambient s' s'') : Ambient s s'' :=
  ⟨h.keeps.trans h'.keeps, fun hb => h'.branched (h.branched hb), h'.dev.trans h.dev,
    h'.sector.trans h.sector, h'.count.trans h.count, h'.allocable.trans h.allocable,
    h'.mounted.trans h.mounted, h'.mask.trans h.mask, fun hr => h'.readOnly (h.readOnly hr),
    h.seq.trans h'.seq⟩

instance : IsPreorder FS Ambient where
  refl := .refl
  trans _ _ _ := .trans

lemma SameLists.refl (s : FS) : SameLists s s := ⟨.refl s, rfl, rfl, rfl⟩

lemma SameLists.trans (h : SameLists s s') (h' : SameLists s' s'') : SameLists s s'' :=
  ⟨h.toAmbient.trans h'.toAmbient, h'.defunct.trans h.defunct, h'.head.trans h.head,
    h'.tail.trans h.tail⟩

instance : IsPreorder FS SameLists where
  refl := .refl
  trans _ _ _ := .trans

/-- The state of the driver that is neither layout nor metaroot may change. -/
lemma SameLists.of_eq (hc : s'.core = s.core) (hv : s'.vol = s.vol)
    (hd : s'.ulDevBlocks = s.ulDevBlocks) (hs : s'.bSectorSizeP2 = s.bSectorSizeP2) :
    SameLists s s' := by
  have hmr : s'.mr = s.mr := by rw [FS.mr, FS.mr, hc]
  exact ⟨⟨.of_eq hc, by rw [hc]; exact id, hd, hs, by rw [hv], by rw [hv], by rw [hv], by rw [hv],
    by rw [hv]; exact id, by rw [hv]⟩, by rw [hmr], by rw [hmr], by rw [hmr]⟩

lemma SameLists.writeBlock (s : FS) (b : ℕ) (c : DiskBlock) : SameLists s (s.writeBlock b c) :=
  .of_eq rfl rfl rfl rfl

lemma Ambient.setMR (s : FS) (f : Metaroot → Metaroot) : Ambient s (s.setMR f) :=
  ⟨FS.setMR_keeps s f, id, rfl, rfl, rfl, rfl, rfl, rfl, id, le_rfl⟩

lemma SameLists.setMR (s : FS) {f : Metaroot → Metaroot}
    (h1 : (f s.mr).ulDefunctOrphanHead = s.mr.ulDefunctOrphanHead)
    (h2 : (f s.mr).ulOrphanHead = s.mr.ulOrphanHead)
    (h3 : (f s.mr).ulOrphanTail = s.mr.ulOrphanTail) : SameLists s (s.setMR f) :=
  ⟨.setMR s f, by rw [FS.setMR_mr, h1], by rw [FS.setMR_mr, h2], by rw [FS.setMR_mr, h3]⟩

lemma respects_redIoWrite (a n : ℕ) (p : ℕ → DiskBlock) :
    (redIoWrite a n p).Respects SameLists := by
  refine .get_bind fun _ => .ite (.modify fun s => ?_) (.bind ?_ fun _ => .fail _)
  · have key : ∀ l : List ℕ, ∀ s : FS,
        SameLists s (l.foldl (fun s ulIdx => s.writeBlock (a + ulIdx) (p ulIdx)) s) := by
      intro l
      induction l with
      | nil => exact .refl
      | cons k l ih => exact fun s => (SameLists.writeBlock s _ _).trans (ih _)
    exact key _ s
  · exact fun _ => ⟨⟨.refl _, id, rfl, rfl, rfl, rfl, rfl, rfl, fun _ => rfl, le_rfl⟩,
      rfl, rfl, rfl⟩

lemma respects_redBufferFinalize (nd : Node) (t : BufType) :
    (redBufferFinalize nd t).Respects SameLists :=
  .get_bind fun _ => .bind (fun s => ⟨⟨.refl _, id, rfl, rfl, rfl, rfl, rfl, rfl, id,
    Nat.le_succ s.vol.ullSequence⟩, rfl, rfl, rfl⟩) fun _ => .pure _

instance SameLists.elementary : Elementary SameLists where
  critical _ := ⟨⟨.refl _, id, rfl, rfl, rfl, rfl, rfl, rfl, fun _ => rfl, le_rfl⟩, rfl, rfl, rfl⟩
  buffers _ _ := .of_eq rfl rfl rfl rfl
  bufferWrite _ := .get_bind fun _ => .ite (respects_redIoWrite _ _ _) <|
    .bind (respects_redBufferFinalize _ _) fun _ => respects_redIoWrite _ _ _
  metaroot s _ h := .setMR s (h _).defunct (h _).head (h _).tail
  almostFree _ _ := ⟨⟨⟨rfl, rfl, rfl, rfl, rfl, rfl, rfl, rfl, rfl⟩, id, rfl, rfl, rfl, rfl, rfl,
    rfl, id, le_rfl⟩, rfl, rfl, rfl⟩
  branched _ := ⟨⟨⟨rfl, rfl, rfl, rfl, rfl, rfl, rfl, rfl, rfl⟩, fun _ => rfl, rfl, rfl, rfl,
    rfl, rfl, rfl, id, le_rfl⟩, rfl, rfl, rfl⟩
  reserved _ _ _ := ⟨⟨⟨rfl, rfl, rfl, rfl, rfl, rfl, rfl, rfl, rfl⟩, id, rfl, rfl, rfl, rfl, rfl,
    rfl, id, le_rfl⟩, rfl, rfl, rfl⟩

lemma SameLists.respects {α : Type} {x : Red α} (h : x.Respects SameLists) : x.Respects Ambient :=
  h.mono fun _ _ => SameLists.toAmbient

instance : ElementaryLists Ambient where
  critical s := (SameLists.elementary.critical s).toAmbient
  buffers s bc := (SameLists.elementary.buffers s bc).toAmbient
  bufferWrite i := SameLists.respects (Elementary.bufferWrite i)
  metaroot s f _ := .setMR s f
  almostFree s n := (SameLists.elementary.almostFree s n).toAmbient
  branched s := (SameLists.elementary.branched s).toAmbient
  reserved s n m := (SameLists.elementary.reserved s n m).toAmbient
  lists := .setMR

end

end RelianceEdge
