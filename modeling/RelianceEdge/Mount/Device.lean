import RelianceEdge.Cache.Empty
import RelianceEdge.Mount.Layout

set_option relaxedAutoImplicit false
set_option autoImplicit false
set_option linter.unusedSectionVars false

/-!
# What a mount reads

A mount reads the master block through the cache and the two metaroots past it. From an empty
cache, with a good master block and a metaroot to choose, both steps succeed, and what they leave
is a function of the device.

## Main definitions

* `FS.selected` — the state right after a metaroot was selected.
* `FS.HasMaster` — the device holds a master block that can be mounted.
* `FS.masterMounted` — what the master block says, in memory.

## Main results

* `redVolMountMaster_ok`, `redVolMountMetaroot_run` — the two steps succeed.
-/

namespace RelianceEdge

variable [RedConf]

open RedConf

section

variable {s s' : FS} {ulFlags : MountFlags}

/-! ## The master block -/

/-- **The device holds a master block that can be mounted.** -/
structure FS.HasMaster (s : FS) : Prop where
  valid : s.redBufferIsValid (s.disk BLOCK_NUM_MASTER) .master = true
  supported : s.masterIsUnsupported (s.disk BLOCK_NUM_MASTER).node.asMaster = false
  features : (s.disk BLOCK_NUM_MASTER).node.asMaster.uFeaturesReadOnly &&&
    MBFEATURE_MASK_WRITEABLE =
    (s.disk BLOCK_NUM_MASTER).node.asMaster.uFeaturesReadOnly
  fits : LayoutFits (s.disk BLOCK_NUM_MASTER).node.asMaster.ulBlockCount
    (s.disk BLOCK_NUM_MASTER).node.asMaster.ulInodeCount

/-- What the master block says, in memory. -/
def FS.masterMounted (s : FS) (ulFlags : MountFlags) : FS :=
  let pMB := (s.disk BLOCK_NUM_MASTER).node.asMaster
  let s : FS := FS.withLayout { s with
    vol := { s.vol with
      ullSequence := (s.disk BLOCK_NUM_MASTER).ullSequence
      ulBlockCount := pMB.ulBlockCount }
    core := { s.core with
      ulVersion := pMB.ulVersion
      ulInodeCount := pMB.ulInodeCount } }
  { s with vol := { s.vol with fReadOnly := ulFlags.fReadOnly } }

/-- **Mounting a good master block succeeds**, and leaves the cache empty. -/
theorem redVolMountMaster_ok (h : s.NoBuffers) (hm : s.HasMaster) (hpos : 0 < s.vol.ulBlockCount) :
    (redVolMountMaster ulFlags).Ok s fun _ s' => s'.NoBuffers ∧
      s' = { s.masterMounted ulFlags with buf := s'.buf } := by
  refine (redBufferGet_empty (b := BLOCK_NUM_MASTER) h hpos (by simp)
    (by unfold FS.obtainable; rw [hm.valid]; rfl)).bind ?_
  rintro i s1 ⟨hlt, hr⟩
  have hsole := hr.sole h hlt
  have hs1 := FS.eq_of_rest hr.rest
  refine .get_bind ?_
  dsimp only
  rw [hsole.content]
  refine Op.Ok.attempt_bind_ok (Q := fun _ s2 =>
    s2 = { s.masterMounted ulFlags with buf := s1.buf }) ?_ ?_
  · rw [hs1]
    change (if FS.masterIsUnsupported _ (s.disk BLOCK_NUM_MASTER).node.asMaster = true then _
      else _ : Red Unit).Ok _ _
    rw [if_neg]
    swap
    · exact Bool.eq_false_iff.1 hm.supported
    refine .modify_bind (.run_bind hm.fits.run (.modify_bind ?_))
    rw [if_neg]
    · exact .pure rfl
    · exact fun hc => hc.2 hm.features
  · rintro - s2 rfl
    refine (redBufferDiscard_sole (s := { s.masterMounted ulFlags with buf := s1.buf }) hsole
      (by decide) hm.fits.count_le).bind ?_
    rintro - s3 ⟨hs3, h3⟩
    refine .pure ⟨h3, ?_⟩
    rw [hs3]

/-! ## The metaroots -/

/-- The state right after the metaroot of the slot `bMR` was selected. -/
def FS.selected (s : FS) (bMR : Bool) : FS :=
  let mr := (s.disk (BLOCK_NUM_FIRST_METAROOT + bMR.toNat)).metaroot
  { s with
    vol := { s.vol with ullSequence := max s.vol.ullSequence mr.ullSequence + 1, fMounted := true }
    core := { s.core with
      aMR := fun _ => mr
      bCurMR := !bMR
      fUseReservedBlocks := false
      ulAlmostFreeBlocks := 0 } }

/-- **Selecting a metaroot succeeds** when there is one to choose. -/
theorem redVolMountMetaroot_run {bMR : Bool} (hcount : 3 ≤ s.vol.ulBlockCount)
    (h : chooseMetaroot (s.disk BLOCK_NUM_FIRST_METAROOT) (s.disk (BLOCK_NUM_FIRST_METAROOT + 1)) =
      .ok bMR) : redVolMountMetaroot s = (.ok (), s.selected bMR) := by
  have hread : ∀ a, a < 3 → redIoRead a 1 s = (.ok fun ulIdx => s.disk (a + ulIdx), s) :=
    fun a ha => redIoRead_run (FS.blockRangeIsValid_one (by omega))
  unfold redVolMountMetaroot
  rw [Op.attempt_bind_run, hread _ (by decide), Op.attempt_bind_run, hread _ (by decide)]
  simp only [Nat.add_zero]
  rw [Op.modify_bind_run, h, Op.bind_ok (Op.ofExcept_run _ _)]
  simp only [Op.modify_bind_run, redVolSeqNumIncrement, Op.modify_run]
  have hmr : ∀ f : Bool → Metaroot, Function.update f (!bMR) (f bMR) = fun _ => f bMR := by
    intro f
    funext b
    cases b <;> cases bMR <;> rfl
  unfold FS.selected
  simp only [FS.mr, hmr]
  cases bMR <;> rfl

lemma redIoRead_eq_ok {a n : ℕ} {blocks : ℕ → DiskBlock} (h : redIoRead a n s = (.ok blocks, s')) :
    s.blockRangeIsValid a n = true ∧ s' = s ∧ ∀ k, blocks k = s.disk (a + k) := by
  by_cases hv : s.blockRangeIsValid a n = true
  · rw [redIoRead_run hv] at h
    cases h
    exact ⟨hv, rfl, fun _ => rfl⟩
  · unfold redIoRead at h
    rw [Op.get_bind_run, if_neg hv] at h
    obtain ⟨_, s1, -, h⟩ := Op.bind_eq_ok h
    cases h

lemma redVolMountMetaroot_eq_ok (h : redVolMountMetaroot s = (.ok (), s')) :
    ∃ bMR,
      chooseMetaroot (s.disk BLOCK_NUM_FIRST_METAROOT) (s.disk (BLOCK_NUM_FIRST_METAROOT + 1)) =
      .ok bMR ∧ s' = s.selected bMR := by
  have hx := h
  unfold redVolMountMetaroot at h
  rw [Op.attempt_bind_run] at h
  rcases h0 : redIoRead BLOCK_NUM_FIRST_METAROOT 1 s with ⟨e | pMR0, s0⟩
  · rw [h0, Op.attempt_bind_run] at h
    cases h
  · obtain ⟨-, rfl, hb0⟩ := redIoRead_eq_ok h0
    rw [h0, Op.attempt_bind_run] at h
    rcases h1 : redIoRead (BLOCK_NUM_FIRST_METAROOT + 1) 1 s0 with ⟨e | pMR1, s1⟩
    · rw [h1] at h
      cases h
    · obtain ⟨hv, rfl, hb1⟩ := redIoRead_eq_ok h1
      rw [h1] at h
      simp only [hb0, hb1, Nat.add_zero] at h
      rw [Op.modify_bind_run] at h
      obtain ⟨bMR, s2, hc, -⟩ := Op.bind_eq_ok h
      rw [Op.ofExcept_run, Prod.mk.injEq] at hc
      have hcount : 3 ≤ s1.vol.ulBlockCount := (FS.blockRangeIsValid_iff.1 hv).2
      rw [redVolMountMetaroot_run hcount hc.1] at hx
      exact ⟨bMR, hc.1, (Prod.mk.inj hx).2.symm⟩

end

end RelianceEdge
