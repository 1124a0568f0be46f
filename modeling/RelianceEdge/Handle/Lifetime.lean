import RelianceEdge.Handle.Generation

set_option relaxedAutoImplicit false
set_option autoImplicit false
set_option linter.unusedSectionVars false

/-!
# The life of a file descriptor

A file descriptor leads to its handle from `red_openat()` on until a call ends it: a close of the
handle, a forced unmount of its volume, or a loss of power. All other calls, of this and of other
tasks, leave it and its inode alone. A descriptor that was there before its volume was mounted again
leads nowhere, until the generations have gone round.

## Main definitions

* `PosixCall.Ends` — a call ends a handle.
* `PosixState.Spares` — one call that does not.
* `PosixState.Remounted` — a run that mounts a volume a number of times.

## Main results

* `PosixState.Settled.fildesToHandle_iff` — what `FildesToHandle()` finds.
* `descriptor_lives` — a descriptor is kept by all calls that do not end it.
* `descriptor_stale` — a descriptor of an earlier mount is refused.
-/

namespace RelianceEdge

variable [PosixConf]

open RedConf PosixConf OrphanSpace PosixState

/-- **A call ends a handle** of a volume, if it succeeds. -/
def PosixCall.Ends (p : PosixState) (v h : ℕ) : PosixCall → Prop
  | .close _ iFildes _ => p.fildesToHandle iFildes FTYPE_ANY = .ok h
  | .closedir _ pDirStream => pDirStream = h
  | .umount2 _ volume fForce _ => fForce = true ∧ p.pathVolume volume = v
  | .powerLoss => True
  | _ => False

namespace PosixState

variable {p q : PosixState} {v i h n : ℕ} {iFildes : ℤ}

/-! ## Resolving -/

lemma redFileTypeCheck_any (handle : RedHandle) :
    redFileTypeCheck handle.htype FTYPE_ANY = .ok () := by
  rw [RedHandle.htype]
  split_ifs with hdir hlnk
  · rfl
  · have hsym : deleteOpen = true := by
      rw [Bool.and_eq_true, Bool.and_eq_true] at hlnk
      exact hlnk.1.1
    rw [redFileTypeCheck, FTYPE_ANY, hsym]
    rfl
  · rfl

/-- A descriptor of a generation that has begun is not among the first ones. -/
lemma fd_min_le (hgen : (fildesUnpack iFildes).2.2 ≠ 0) : FD_MIN ≤ iFildes := by
  by_contra hlt
  rw [FD_MIN, not_le] at hlt
  refine hgen ?_
  have hsmall : iFildes.toNat < 2 ^ (FD_IDX_BITS + FD_VOL_BITS) :=
    lt_of_lt_of_le (by omega : iFildes.toNat < 3) (by decide)
  change iFildes.toNat >>> FD_IDX_BITS >>> FD_VOL_BITS &&& FD_GEN_MAX = 0
  rw [← Nat.shiftRight_add, Nat.shiftRight_eq_zero _ _ hsmall, Nat.zero_and]

/-- A handle that is open is for a mounted volume. -/
lemma Settled.handle_volume (hs : Settled p) (hview : p.view (.inl h) = some (v, i)) :
    v < volumeCount ∧ (p.gaRedVolume v).fMounted :=
  ⟨hs.good.valid _ _ hview, hs.good.handle_mounted (by simp) hview⟩

/-- **What `FildesToHandle()` finds**, between two calls. -/
lemma Settled.fildesToHandle_iff (hs : Settled p) :
    p.fildesToHandle iFildes FTYPE_ANY = .ok h ↔ p.Resolves iFildes h := by
  refine ⟨fildesToHandle_ok hs.good, fun hr => ?_⟩
  obtain ⟨rfl, hlt, ⟨i, hview⟩, hgen⟩ := hr
  obtain ⟨-, o, -, hptr, hkey⟩ := hs.good.table.of_view hview
  have hptr' : (p.gaHandle (fildesUnpack iFildes).1).pOpenIno = some o := hptr
  obtain ⟨hvol, hm⟩ := hs.handle_volume hview
  have hmin : FD_MIN ≤ iFildes := fd_min_le (hgen ▸ (hs.generation _).2 hm)
  rw [fildesToHandle, if_neg (not_lt.2 hmin)]
  dsimp only
  rw [if_neg (not_or.2 ⟨not_le.2 hlt, not_le.2 hvol⟩), hptr']
  dsimp only
  rw [if_neg (by simp [(key_eq_some.1 hkey).2.1, hgen]), redFileTypeCheck_any]
  rfl

/-- A descriptor of a handle that is closed is refused. -/
lemma Settled.fildesToHandle_closed (hs : Settled p)
    (hview : p.view (.inl (fildesUnpack iFildes).1) = none)
    (expectedType : FType) : p.fildesToHandle iFildes expectedType = .error .EBADF := by
  have hptr : (p.gaHandle (fildesUnpack iFildes).1).pOpenIno = none :=
    hs.good.table.view_eq_none_iff.1 hview
  rw [fildesToHandle]
  split_ifs with hmin
  · rfl
  dsimp only
  split_ifs with hrange
  · rfl
  rw [hptr]

/-- A descriptor of another generation is refused. -/
lemma fildesToHandle_stale
    (hgen : p.gauGeneration (fildesUnpack iFildes).2.1 ≠ (fildesUnpack iFildes).2.2)
    (expectedType : FType) : p.fildesToHandle iFildes expectedType = .error .EBADF := by
  rw [fildesToHandle]
  split_ifs with hmin
  · rfl
  dsimp only
  split_ifs with hrange
  · rfl
  rcases (p.gaHandle (fildesUnpack iFildes).1).pOpenIno with _ | o
  · rfl
  · exact if_pos (.inr hgen)

/-! ## One call -/

lemma unmounted_handle {w : ℕ} {V : View} (hw : (V (.inl h)).map Prod.fst ≠ some w) :
    unmounted w V (.inl h) = V (.inl h) := by
  rw [unmounted, rooted, closed, if_neg fun hc => hw hc.2]

/-- **A call that does not end a handle** leaves it for the inode it is for. -/
lemma Settled.moves_handle (hs : Settled p) (hview : p.view (.inl h) = some (v, i))
    {call : PosixCall} (hends : ¬ call.Ends p v h) {ret : ℤ} (hmoves : call.Moves p ret q) :
    q.view (.inl h) = some (v, i) := by
  obtain ⟨hv, hm⟩ := hs.handle_volume hview
  have hother {h' : ℕ} {y : Option (ℕ × ℕ)} (hne : h ≠ h')
      (hq : q.view = Function.update p.view (.inl h') y) : q.view (.inl h) = some (v, i) := by
    rwa [hq, Function.update_of_ne (by simpa using hne)]
  have htask {t : ℕ} {y : Option (ℕ × ℕ)} (hq : q.view = Function.update p.view (.inr t) y) :
      q.view (.inl h) = some (v, i) := by
    rwa [hq, Function.update_of_ne (by simp)]
  have hfree {w : ℕ} {fd : ℤ} (hopens : Opens p w fd q) : q.view (.inl h) = some (v, i) := by
    obtain ⟨h', i', -, hnone, hq, -⟩ := hopens
    refine hother (fun heq => ?_) hq
    subst heq
    rw [hview] at hnone
    cases hnone
  cases call with
  | init os =>
    have hq : q.view = if p.gfPosixInited then p.view else atRoot (List.range taskCount)
      fun _ => none :=
      hmoves
    rcases hi : p.gfPosixInited with _ | _
    · rw [hs.uninited hi v hv] at hm
      cases hm
    · rwa [hq, if_pos hi]
  | powerLoss => exact absurd trivial hends
  | taskunregister id =>
    obtain ⟨t, -, hq⟩ := hmoves
    exact htask hq
  | umount2 id volume fForce fTransact =>
    obtain ⟨hq, hplain⟩ := hmoves
    have hne : (p.view (.inl h)).map Prod.fst ≠ some (p.pathVolume volume) := by
      rcases fForce with _ | _
      · obtain ⟨hh, -⟩ := hs.good.table.of_view hview
        exact hplain rfl h (handle_mem.1 hh)
      · rw [hview]
        exact fun heq => hends ⟨rfl, (Option.some.inj heq).symm⟩
    rw [hq, unmounted_handle hne, hview]
  | rollback id volume => rwa [hmoves.1]
  | openat id c path ulOpenFlags => exact hfree hmoves
  | opendir id c path =>
    obtain ⟨fd, hopens, -⟩ := hmoves
    exact hfree hopens
  | close id fd fTransact =>
    obtain ⟨h', hh', hq⟩ := hmoves
    exact hother (fun heq => hends (heq ▸ hh')) hq
  | closedir id pDirStream => exact hother (fun heq => hends heq.symm) hmoves.2
  | chdir id start inode =>
    obtain ⟨t, i', -, -, hq⟩ := hmoves
    exact htask hq
  | _ =>
    have hq : q.view = p.view := hmoves
    rwa [hq]

/-- One call that does not end a handle, with arguments that have been found by their paths; it may
succeed or fail. -/
def Spares (h v : ℕ) (p q : PosixState) : Prop :=
  ∃ call : PosixCall, call.Legal p ∧ ¬ call.Ends p v h ∧ q = call.run p

/-- **A file descriptor is for an inode.** -/
structure LeadsTo (p : PosixState) (iFildes : ℤ) (h v i : ℕ) : Prop where
  found : p.fildesToHandle iFildes FTYPE_ANY = .ok h
  view : p.view (.inl h) = some (v, i)

/-- **The step lemma.** -/
lemma LeadsTo.spared (hmax : openInodeCount ≤ UINT16_MAX) (hs : Settled p)
    (hp : p.LeadsTo iFildes h v i) (hstep : Spares h v p q) :
    Settled q ∧ q.LeadsTo iFildes h v i := by
  obtain ⟨call, hlegal, hends, rfl⟩ := hstep
  have hmoved : Moved (call.Moves p) p (call.exec p).1 (call.run p) :=
    PosixCall.run_moved hmax hs hlegal
  have hview : (call.run p).view (.inl h) = some (v, i) := by
    rcases hret : (call.exec p).1 with e | ret
    · rw [hmoved.error e hret, hp.view]
    · exact hs.moves_handle hp.view hends (hmoved.ok ret hret)
  refine ⟨hmoved.settled, hmoved.settled.fildesToHandle_iff.2 ?_, hview⟩
  obtain ⟨hidx, hlt, ⟨i', hused⟩, hgen⟩ := hs.fildesToHandle_iff.1 hp.found
  have hvol : (fildesUnpack iFildes).2.1 = v := by
    rw [hp.view] at hused
    exact (congrArg Prod.fst (Option.some.inj hused)).symm
  refine ⟨hidx, hlt, ⟨i, hvol ▸ hview⟩, ?_⟩
  rw [hvol] at hgen ⊢
  -- The volume is mounted, so that this call does not mount it.
  obtain ⟨-, hm⟩ := hs.handle_volume hp.view
  rw [PosixCall.run_generation, hgen]
  · rintro rfl
    exact hends trivial
  · intro hmounts
    rw [hmounts.generation.1] at hm
    cases hm

/-- **The run lemma.** -/
lemma LeadsTo.lives (hmax : openInodeCount ≤ UINT16_MAX) (hs : Settled p)
    (hp : p.LeadsTo iFildes h v i) (hrun : Relation.ReflTransGen (Spares h v) p q) :
    q.LeadsTo iFildes h v i := by
  have hboth : Settled q ∧ q.LeadsTo iFildes h v i := by
    induction hrun with
    | refl => exact ⟨hs, hp⟩
    | tail _ hstep ih => exact ih.2.spared hmax ih.1 hstep
  exact hboth.2

/-! ## The generations -/

/-- **A run that mounts a volume** a number of times, without a loss of power. -/
inductive Remounted (v : ℕ) (p : PosixState) : ℕ → PosixState → Prop
  | refl : Remounted v p 0 p
  | mount {n : ℕ} {q : PosixState} (call : PosixCall) :
    Remounted v p n q → call.Mounts q v → Remounted v p (n + 1) (call.run q)
  | other {n : ℕ} {q : PosixState} (call : PosixCall) :
    Remounted v p n q → call ≠ .powerLoss → ¬ call.Mounts q v → Remounted v p n (call.run q)

/-- The generations go round. -/
lemma nextMount_eq {g : ℕ} (hg : g < FD_GEN_MAX) :
    nextMount (g + 1) = (g + 1) % FD_GEN_MAX + 1 := by
  rw [nextMount]
  split_ifs with hmax
  · have heq : g + 1 = FD_GEN_MAX := by omega
    rw [heq, Nat.mod_self]
  · rw [Nat.mod_eq_of_lt (by omega)]

lemma Remounted.generation {g : ℕ} (hg : g < FD_GEN_MAX) (hp : p.gauGeneration v = g + 1)
    (hrun : Remounted v p n q) : q.gauGeneration v = (g + n) % FD_GEN_MAX + 1 := by
  induction hrun with
  | refl =>
    change p.gauGeneration v = g % FD_GEN_MAX + 1
    rw [hp, Nat.mod_eq_of_lt hg]
  | mount call _ hmounts ih =>
    rw [hmounts.generation.2, ih, nextMount_eq (Nat.mod_lt _ (by decide)), Nat.mod_add_mod,
      Nat.add_assoc]
  | other call _ hpower hmounts ih => rw [PosixCall.run_generation hpower hmounts, ih]

/-- **A generation is there again** after as many mounts as there are generations. -/
lemma Remounted.again (hp : p.gauGeneration v ≠ 0) (hmax : p.gauGeneration v ≤ FD_GEN_MAX)
    (hrun : Remounted v p n q) : q.gauGeneration v = p.gauGeneration v ↔ FD_GEN_MAX ∣ n := by
  obtain ⟨g, hg⟩ := Nat.exists_eq_succ_of_ne_zero hp
  have hlt : g < FD_GEN_MAX := by omega
  rw [hrun.generation hlt hg, hg, Nat.succ_inj, ← Nat.modEq_zero_iff_dvd]
  have hself : g = g % FD_GEN_MAX := (Nat.mod_eq_of_lt hlt).symm
  constructor
  · intro heq
    exact Nat.ModEq.add_left_cancel' g (heq.trans hself)
  · intro heq
    have hround : (g + n) % FD_GEN_MAX = g % FD_GEN_MAX := Nat.ModEq.add_left g heq
    exact hround.trans hself.symm

end PosixState

variable {p q : PosixState}

/-- **A descriptor is kept by all calls that do not end it**: what `red_openat()` returns has been
refused before, and leads to one handle for one inode of the volume from then on. -/
theorem descriptor_lives (hmax : openInodeCount ≤ UINT16_MAX) (hreach : p.Reachable)
    {id : ℕ} {c : Circumstances} {path : OpenPath} {ulOpenFlags : OpenFlags}
    (hlegal : (PosixCall.openat id c path ulOpenFlags).Legal p) {iFildes : ℤ}
    (hret : ((PosixCall.openat id c path ulOpenFlags).exec p).1 = .ok iFildes) :
    p.fildesToHandle iFildes FTYPE_ANY = .error .EBADF ∧ ∃ h i,
      ∀ q, Relation.ReflTransGen (Spares h (p.pathVolume path.start))
        ((PosixCall.openat id c path ulOpenFlags).run p) q →
          q.LeadsTo iFildes h (p.pathVolume path.start) i := by
  have hs := hreach.settled hmax
  have hmoved := PosixCall.run_moved hmax hs hlegal
  obtain ⟨h, i, hh, hnone, hview, rfl, hgen⟩ := hmoved.ok iFildes hret
  have hview' : ((PosixCall.openat id c path ulOpenFlags).run p).view (.inl h) =
      some (p.pathVolume path.start, i) := by
    rw [PosixCall.run, hview, Function.update_self]
  have hs' := (hreach.run hlegal).settled hmax
  obtain ⟨hv, -⟩ := hs'.handle_volume hview'
  have hunpack := fildesUnpack_fildesPack hh hv hgen (hs.generation _).1
  have hsame : ((PosixCall.openat id c path ulOpenFlags).run p).gauGeneration
      (p.pathVolume path.start) = p.gauGeneration (p.pathVolume path.start) :=
    PosixCall.run_generation (by simp) fun hmounts => by
      obtain ⟨⟨_, _, _, heq, -⟩, -⟩ := hmounts
      cases heq
  refine ⟨hs.fildesToHandle_closed (by rw [hunpack]; exact hnone) FTYPE_ANY, h, i, fun q hrun =>
    LeadsTo.lives hmax hs' ⟨hs'.fildesToHandle_iff.2 ?_, hview'⟩ hrun⟩
  exact ⟨by rw [hunpack], hh, ⟨i, by rw [hunpack]; exact hview'⟩, by rw [hunpack]; exact hsame⟩

omit [PosixConf] in
/-- The root directory is opened once more. -/
theorem descriptor_lives_small : letI := smallPosixConf
    let call : PosixCall := .openat 1 ⟨⟨true, true⟩, ⟨true, true⟩, false, false, false, false⟩
      ⟨⟨some 0, .ok ()⟩, .error .EISDIR, .error .ENOENT⟩ { rdOnly with fCreat := true }
    rootOpened.fildesToHandle 1048577 FTYPE_ANY = .error .EBADF ∧ ∃ h i,
      ∀ q, Relation.ReflTransGen (Spares h 0) (call.run rootOpened) q →
        q.LeadsTo 1048577 h 0 i := by
  let _ := smallPosixConf
  have hlegal : (PosixCall.openat 1 ⟨⟨true, true⟩, ⟨true, true⟩, false, false, false, false⟩
      ⟨⟨some 0, .ok ()⟩, .error .EISDIR, .error .ENOENT⟩
      { rdOnly with fCreat := true }).Legal rootOpened := ⟨by simp [NameOk], by simp [InodeOk]⟩
  have hret : ((PosixCall.openat 1 ⟨⟨true, true⟩, ⟨true, true⟩, false, false, false, false⟩
      ⟨⟨some 0, .ok ()⟩, .error .EISDIR, .error .ENOENT⟩
      { rdOnly with fCreat := true }).exec rootOpened).1 = .ok 1048577 := by decide +kernel
  exact descriptor_lives (by decide) rootOpened_reachable hlegal hret

/-- **A descriptor of an earlier mount is refused**, until the generations have gone round. -/
theorem descriptor_stale (hmax : openInodeCount ≤ UINT16_MAX) (hreach : p.Reachable) {iFildes : ℤ}
    {h n : ℕ} (hh : p.fildesToHandle iFildes FTYPE_ANY = .ok h)
    (hrun : Remounted (fildesUnpack iFildes).2.1 p n q) (hn : ¬ FD_GEN_MAX ∣ n)
    (expectedType : FType) :
    q.fildesToHandle iFildes expectedType = .error .EBADF := by
  have hs := hreach.settled hmax
  obtain ⟨-, -, ⟨i, hview⟩, hgen⟩ := hs.fildesToHandle_iff.1 hh
  obtain ⟨hle, hpos⟩ := hs.generation (fildesUnpack iFildes).2.1
  refine fildesToHandle_stale (fun heq => hn ?_) expectedType
  rw [← hrun.again (hpos (hs.handle_volume hview).2) hle, heq, hgen]

omit [PosixConf] in
/-- The volume is mounted again. -/
theorem descriptor_stale_small : letI := smallPosixConf
    ((PosixCall.mount2 1 ⟨some 0, .ok ()⟩ RED_MOUNT_DEFAULT).run
      ((PosixCall.umount2 1 ⟨some 0, .ok ()⟩ true false).run rootOpened)).fildesToHandle 1048576
        FTYPE_ANY = .error .EBADF := by
  let _ := smallPosixConf
  have hh : rootOpened.fildesToHandle 1048576 FTYPE_ANY = .ok 0 := by decide +kernel
  have humount : Remounted 0 rootOpened 0
      ((PosixCall.umount2 1 ⟨some 0, .ok ()⟩ true false).run rootOpened) :=
    .other _ .refl (by simp) fun hmounts => by
      obtain ⟨⟨_, _, _, heq, -⟩, -⟩ := hmounts
      cases heq
  have hmount : ((PosixCall.mount2 1 ⟨some 0, .ok ()⟩ RED_MOUNT_DEFAULT).exec
      ((PosixCall.umount2 1 ⟨some 0, .ok ()⟩ true false).run rootOpened)).1 = .ok 0 := by
    decide +kernel
  have hrun : Remounted (fildesUnpack 1048576).2.1 rootOpened 1
      ((PosixCall.mount2 1 ⟨some 0, .ok ()⟩ RED_MOUNT_DEFAULT).run
        ((PosixCall.umount2 1 ⟨some 0, .ok ()⟩ true false).run rootOpened)) :=
    .mount _ humount ⟨⟨1, ⟨some 0, .ok ()⟩, RED_MOUNT_DEFAULT, rfl, rfl⟩, 0, hmount⟩
  exact descriptor_stale (by decide) rootOpened_reachable hh hrun (by decide) FTYPE_ANY

end RelianceEdge
