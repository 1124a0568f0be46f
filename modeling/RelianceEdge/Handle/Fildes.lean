import RelianceEdge.Handle.Mount

set_option relaxedAutoImplicit false
set_option autoImplicit false
set_option linter.unusedSectionVars false

/-!
# File descriptors

A file descriptor has the mount generation of its volume, the number of the volume and the index of
its handle in its bits. What has been packed is unpacked again; since a generation is never zero
while the volume is mounted, no file descriptor is below `FD_MIN`. `FildesToHandle()` only finds
handles that are open on the volume of the descriptor, in the generation of the descriptor.

## Main definitions

* `PosixState.Resolves` — what `FildesToHandle()` has found.

## Main results

* `fildesUnpack_fildesPack` — the round trip.
* `fildesToHandle_ok` — a descriptor that is resolved is that of an open handle.
* `redClose_moved`, `redClosedir_moved` — closing.
-/

namespace RelianceEdge

variable [PosixConf]

open RedConf PosixConf OrphanSpace

namespace PosixState

variable {p p' : PosixState} {r : Ref} {v i o h t : ℕ} {x : ℕ × ℕ} {α : Type}

/-! ## Packing -/

/-- The fields of a file descriptor do not overlap. -/
lemma packed_eq {g v h : ℕ} (hv : v < 2 ^ FD_VOL_BITS) (hh : h < 2 ^ FD_IDX_BITS) :
    (g <<< FD_VOL_BITS ||| v) <<< FD_IDX_BITS ||| h = (g * 256 + v) * 4096 + h := by
  rw [← Nat.shiftLeft_add_eq_or_of_lt hv, ← Nat.shiftLeft_add_eq_or_of_lt hh, Nat.shiftLeft_eq,
    Nat.shiftLeft_eq]
  rfl

lemma fildesUnpack_packed {g v h : ℕ} (hg : g ≤ FD_GEN_MAX) (hv : v < 256) (hh : h < 4096) :
    fildesUnpack (((g * 256 + v) * 4096 + h : ℕ) : ℤ) = (h, v, g) := by
  have hgen : g < 2048 := Nat.lt_succ_of_le hg
  rw [fildesUnpack, Int.toNat_natCast, FD_IDX_MAX, FD_VOL_MAX, FD_GEN_MAX,
    Nat.and_two_pow_sub_one_eq_mod, Nat.and_two_pow_sub_one_eq_mod,
    Nat.and_two_pow_sub_one_eq_mod, Nat.shiftRight_eq_div_pow, Nat.shiftRight_eq_div_pow]
  change (_ % 4096, _ / 4096 % 256, _ / 4096 / 256 % 2048) = _
  refine Prod.ext ?_ (Prod.ext ?_ ?_)
  · dsimp only
    omega
  · dsimp only
    omega
  · dsimp only
    omega

/-- **What `FildesPack()` makes**, in a generation that has begun. -/
lemma fildesPack_eq (hh : h < handleCount) (hv : v < volumeCount) (hgen : p.gauGeneration v ≠ 0) :
    p.fildesPack h v = (((p.gauGeneration v * 256 + v) * 4096 + h : ℕ) : ℤ) := by
  have hhandles : handleCount ≤ 4096 := handleCount_mem.2
  have hvolumes : volumeCount ≤ 255 := volumeCount_mem.2
  have hv' : v < 2 ^ FD_VOL_BITS := lt_of_lt_of_le hv (hvolumes.trans (by decide))
  have hh' : h < 2 ^ FD_IDX_BITS := lt_of_lt_of_le hh (hhandles.trans (by decide))
  have hpos : 1 ≤ p.gauGeneration v := Nat.one_le_iff_ne_zero.2 hgen
  rw [fildesPack, if_neg (by omega)]
  dsimp only
  rw [packed_eq hv' hh', if_neg]
  rw [FD_MIN]
  omega

/-- **Packing and unpacking.** -/
theorem fildesUnpack_fildesPack (hh : h < handleCount) (hv : v < volumeCount)
    (hgen : p.gauGeneration v ≠ 0) (hmax : p.gauGeneration v ≤ FD_GEN_MAX) :
    fildesUnpack (p.fildesPack h v) = (h, v, p.gauGeneration v) := by
  have hhandles : handleCount ≤ 4096 := handleCount_mem.2
  have hvolumes : volumeCount ≤ 255 := volumeCount_mem.2
  rw [fildesPack_eq hh hv hgen, fildesUnpack_packed hmax (by omega) (by omega)]

/-! ## Closing -/

/-- **What `FildesToHandle()` has found.** -/
structure Resolves (p : PosixState) (iFildes : ℤ) (h : ℕ) : Prop where
  idx : (fildesUnpack iFildes).1 = h
  lt : h < handleCount
  used : ∃ i, p.view (.inl h) = some ((fildesUnpack iFildes).2.1, i)
  generation : p.gauGeneration (fildesUnpack iFildes).2.1 = (fildesUnpack iFildes).2.2

lemma fildesToHandle_ok {X : Set Ref} (hg : Good X p.ptr p) {iFildes : ℤ} {expectedType : FType}
    (hh : p.fildesToHandle iFildes expectedType = .ok h) : p.Resolves iFildes h := by
  rw [fildesToHandle] at hh
  split_ifs at hh with hmin
  dsimp only at hh
  split_ifs at hh with hrange
  rcases hptr : (p.gaHandle (fildesUnpack iFildes).1).pOpenIno with _ | o
  · rw [hptr] at hh
    cases hh
  rw [hptr] at hh
  dsimp only at hh
  split_ifs at hh with hkey
  obtain ⟨_, -, hh⟩ := Except.bind_eq_ok hh
  obtain rfl := Except.ok.inj hh
  rw [not_or, not_not, not_not] at hkey
  have hptr' : p.ptr (.inl (fildesUnpack iFildes).1) = some o := hptr
  obtain ⟨⟨v, i⟩, hk, hview⟩ := hg.table.view_some hptr'
  refine ⟨rfl, by omega, ⟨i, ?_⟩, hkey.2⟩
  rw [← hkey.1, (key_eq_some.1 hk).2.1]
  exact hview

/-- `HandleClose()`, between two calls. -/
lemma Settled.handleClose_moved (hs : Settled p) (hptr : p.ptr (.inl h) = some o)
    (fTransFlag : Bool) : (handleClose h fTransFlag).Post p
      (Moved (fun _ q => q.view = Function.update p.view (.inl h) none) p) := by
  rcases hs.good.handleClose_run hptr fTransFlag with
    ⟨p', hrun, hgood, hview, hframe, -⟩ | ⟨-, e, p', hrun, hgood, hview, hframe⟩
  · rw [Op.Post, hrun]
    refine ⟨hs.of_frame hgood hframe fun t _ ht => ?_, fun _ _ => hview, by simp⟩
    rwa [hview, Function.update_of_ne (by simp)]
  · rw [Op.Post, hrun]
    exact (hs.of_frame hgood hframe fun t _ ht => by rwa [hview]).moved_error hview

/-- `red_close()`. -/
lemma redClose_moved (hs : Settled p) (iFildes : ℤ) (fTransact : Bool) :
    (redClose iFildes fTransact).Post p
      (Moved (fun _ q => ∃ h, p.fildesToHandle iFildes FTYPE_ANY = .ok h ∧
        q.view = Function.update p.view (.inl h) none) p) := by
  refine .get_bind (hs.moved_bind ofRed_entered fun h p' _ hp' hs' _ => ?_)
  obtain ⟨rfl, hh⟩ := hp'
  obtain ⟨i, hview⟩ := (fildesToHandle_ok hs'.good hh).used
  obtain ⟨-, o, -, hptr, -⟩ := hs'.good.table.of_view hview
  exact (hs'.handleClose_moved hptr fTransact).mono fun _ _ hq =>
    ⟨hq.settled, fun a ha => ⟨h, hh, hq.ok a ha⟩, hq.error⟩

/-- `red_closedir()`. -/
lemma redClosedir_moved (hs : Settled p) (pDirStream : ℕ) : (redClosedir pDirStream).Post p
    (Moved (fun _ q => p.dirStreamIsValid pDirStream = true ∧
      q.view = Function.update p.view (.inl pDirStream) none) p) := by
  refine .get_bind ?_
  rcases hvalid : p.dirStreamIsValid pDirStream with _ | _
  · exact hs.moved_error rfl
  rw [if_pos rfl]
  rcases hptr : (p.gaHandle pDirStream).pOpenIno with _ | o
  · rw [dirStreamIsValid, hptr] at hvalid
    simp at hvalid
  have hptr' : p.ptr (.inl pDirStream) = some o := hptr
  exact (hs.handleClose_moved hptr' false).mono fun _ _ hq =>
    ⟨hq.settled, fun a ha => ⟨rfl, hq.ok a ha⟩, hq.error⟩

end PosixState

end RelianceEdge
