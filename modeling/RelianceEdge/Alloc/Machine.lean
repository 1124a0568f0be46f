import RelianceEdge.Imap

set_option relaxedAutoImplicit false
set_option autoImplicit false

/-!
# The imap as two sets

What an imap is for, whichever way it is stored: two sets of positions, the working one and the
committed one, with the counts that go with them. A position is the distance of a block from the
first one that has a bit.

The search for a free position follows the order of the source, in which a full byte is skipped at
once. It may pass over the place where it began, and then it goes on for ever.

## Main definitions

* `Bitmaps` — the two sets and the counts.
* `Bitmaps.search` — the search for a position that is free in both.
* `bitGet`, `bitSet`, `bitAlloc`, `bitState`, `bitTransact`, `bitRollback` — the operations.

## Main results

* `Bitmaps.search_stable` — a search that does not end within two passes never ends.
* `Bitmaps.Idle` is kept by every operation: an imap without changes is the committed one.
-/

namespace RelianceEdge

/-- The two bitmaps of an imap, with the counts. -/
structure Bitmaps where
  /-- The number of positions. -/
  count : ℕ
  /-- The first position that can be allocated. -/
  first : ℕ
  /-- Which metaroot is the working one. -/
  cur : Bool
  working : ℕ → Bool
  committed : ℕ → Bool
  /-- `ulFreeBlocks` of the working metaroot. -/
  free : ℕ
  /-- `ulFreeBlocks` of the committed metaroot. -/
  freeCommitted : ℕ
  /-- `ulAllocNextBlock` of the working metaroot, as a position. -/
  next : ℕ
  /-- `ulAllocNextBlock` of the committed metaroot, as a position. -/
  nextCommitted : ℕ
  /-- `ulAlmostFreeBlocks`. -/
  almost : ℕ
  /-- Whether there are changes since the last transaction point. -/
  branched : Bool

namespace Bitmaps

/-! ## The search -/

/-- Past the end the search goes on at the first position that can be allocated. -/
def wrap (a : Bitmaps) (p : ℕ) : ℕ := if p = a.count then a.first else p

/-- The position after a full byte, or after a position that is not free. -/
def after (a : Bitmaps) (p : ℕ) : ℕ :=
  if byteIsFull a.working p then a.wrap (p + min 8 (a.count - p)) else a.wrap (p + 1)

/-- Whether the position is free in both bitmaps. -/
def isFree (a : Bitmaps) (p : ℕ) : Bool := !a.working p && !a.committed p

/-- The search for a free position from `p` on, which gives up when it is back at `start`. -/
def search (a : Bitmaps) (start : ℕ) : ℕ → ℕ → Except RedError ℕ
  | 0, _ => .error .outOfFuel
  | n + 1, p =>
    if a.isFree p then .ok p
    else if a.after p = start then .error .ENOSPC
    else a.search start n (a.after p)

/-- The search for a free position, from where the last one ended. -/
def findFree (a : Bitmaps) : Except RedError ℕ :=
  if a.first ≤ a.next ∧ a.next < a.count then a.search a.next (2 * a.count) a.next
  else .error .EINVAL

section

variable {a : Bitmaps} {start p n : ℕ}

lemma isFree_of_working (h : a.working p = true) : a.isFree p = false := by
  rw [isFree, h]
  rfl

lemma search_free (hf : a.isFree p = true) : a.search start (n + 1) p = .ok p := by
  rw [search, if_pos hf]

lemma search_end (hf : a.isFree p = false) (h : a.after p = start) :
    a.search start (n + 1) p = .error .ENOSPC := by
  rw [search, if_neg (by simp [hf]), if_pos h]

lemma search_next (hf : a.isFree p = false) (h : a.after p ≠ start) :
    a.search start (n + 1) p = a.search start n (a.after p) := by
  rw [search, if_neg (by simp [hf]), if_neg h]

/-- A search goes forward, or back to the first position. -/
lemma after_cases (h : p < a.count) :
    a.after p = a.first ∨ (p < a.after p ∧ a.after p < a.count) := by
  unfold after wrap
  have := min_le_right 8 (a.count - p)
  have : 0 < min 8 (a.count - p) := by omega
  split_ifs <;> first | exact .inl rfl | exact .inr (by omega)

/-- From every position the search ends within one pass, or comes to the first position. -/
lemma search_pass (start : ℕ) : ∀ m p, p < a.count → a.count - p ≤ m →
    (∃ r, r ≠ .error .outOfFuel ∧ ∀ n, a.count - p ≤ n → a.search start n p = r) ∨
      ∃ k, 0 < k ∧ k ≤ a.count - p ∧ ∀ n, a.search start (n + k) p = a.search start n a.first
  | 0, p, hp, hm => by omega
  | m + 1, p, hp, hm => by
    rcases hfree : a.isFree p with _ | _
    swap
    · refine .inl ⟨.ok p, by simp, fun n hn => ?_⟩
      obtain ⟨n, rfl⟩ := Nat.exists_eq_succ_of_ne_zero (show n ≠ 0 by omega)
      exact search_free hfree
    by_cases hend : a.after p = start
    · refine .inl ⟨.error .ENOSPC, by simp, fun n hn => ?_⟩
      obtain ⟨n, rfl⟩ := Nat.exists_eq_succ_of_ne_zero (show n ≠ 0 by omega)
      exact search_end hfree hend
    have hstep : ∀ n, a.search start (n + 1) p = a.search start n (a.after p) := fun n =>
      search_next hfree hend
    rcases after_cases hp with hq | ⟨hq, hq'⟩
    · refine .inr ⟨1, Nat.one_pos, by omega, fun n => ?_⟩
      rw [hstep, hq]
    · rcases search_pass start m (a.after p) hq' (by omega) with ⟨r, hr, h⟩ | ⟨k, hk, hk', h⟩
      · refine .inl ⟨r, hr, fun n hn => ?_⟩
        obtain ⟨n, rfl⟩ := Nat.exists_eq_succ_of_ne_zero (show n ≠ 0 by omega)
        rw [hstep, h n (by omega)]
      · refine .inr ⟨k + 1, by omega, by omega, fun n => ?_⟩
        rw [← Nat.add_assoc, hstep, h]

/-- A search that has ended stays as it is when it is given more time. -/
lemma search_mono : ∀ {n p : ℕ} (k : ℕ), a.search start n p ≠ .error .outOfFuel →
    a.search start (n + k) p = a.search start n p
  | 0, p, k, h => absurd rfl h
  | n + 1, p, k, h => by
    rw [show n + 1 + k = n + k + 1 by omega]
    unfold search at h ⊢
    split_ifs at h ⊢ with h1 h2
    · rfl
    · rfl
    · exact search_mono k h

/-- **Two passes decide the search**: one that has not ended by then never ends. -/
theorem search_stable (hf : a.first < a.count) (hp : p < a.count) (hn : 2 * a.count ≤ n) :
    a.search start n p = a.search start (2 * a.count) p := by
  have hfirst : ∀ m m', a.count ≤ m → a.count ≤ m' →
      a.search start m a.first = a.search start m' a.first := by
    intro m m' hm hm'
    rcases search_pass start (a.count - a.first) a.first hf le_rfl with ⟨r, -, h⟩ | ⟨k, hk, -, h⟩
    · rw [h m (by omega), h m' (by omega)]
    · -- The search comes back to where it is, again and again.
      have hnever : ∀ m, a.search start m a.first = .error .outOfFuel := by
        intro m
        induction m using Nat.strong_induction_on with
        | _ m ih =>
          by_cases hkm : k ≤ m
          · obtain ⟨j, rfl⟩ := Nat.exists_eq_add_of_le' hkm
            rw [h j]
            exact ih j (by omega)
          · by_contra hne
            have hmono := search_mono (k - m) hne
            have h0 : a.search start k a.first = .error .outOfFuel := by
              have := h 0
              rwa [Nat.zero_add] at this
            rw [show m + (k - m) = k by omega, h0] at hmono
            exact hne hmono.symm
      rw [hnever, hnever]
  rcases search_pass start (a.count - p) p hp le_rfl with ⟨r, -, h⟩ | ⟨k, hk, hk', h⟩
  · rw [h n (by omega), h _ (by omega)]
  · obtain ⟨m, rfl⟩ := Nat.exists_eq_add_of_le' (show k ≤ n by omega)
    obtain ⟨m', hm'⟩ := Nat.exists_eq_add_of_le' (show k ≤ 2 * a.count by omega)
    rw [hm', h, h]
    exact hfirst _ _ (by omega) (by omega)

/-- What a search finds is free, and lies in the range of the imap. -/
theorem search_sound {q : ℕ} (hf : a.first < a.count) :
    ∀ n p, p < a.count → a.search start n p = .ok q → a.isFree q = true ∧ q < a.count
  | 0, p, _, h => by cases h
  | n + 1, p, hp, h => by
    rcases hfree : a.isFree p with _ | _
    · by_cases hend : a.after p = start
      · rw [search_end hfree hend] at h
        cases h
      · rw [search_next hfree hend] at h
        refine search_sound hf n _ ?_ h
        rcases after_cases hp with hq | ⟨-, hq⟩
        · rw [hq]; exact hf
        · exact hq
    · rw [search_free hfree] at h
      cases h
      exact ⟨hfree, hp⟩

end

/-! ## The operations -/

/-- Whether the position has a bit. -/
def has (a : Bitmaps) (p : ℤ) : Bool := decide (0 ≤ p) && decide (p < a.count)

/-- The count forbids to allocate when nothing is free, and to free when everything is. -/
def forbids (a : Bitmaps) (p : ℕ) (f : Bool) : Bool :=
  decide (a.first ≤ p) && ((f && a.free == 0) || (!f && decide (a.count - a.first ≤ a.free)))

/-- The counts after the bit of a position has changed. -/
def adjust (a : Bitmaps) (p : ℕ) (f : Bool) : Bitmaps :=
  if a.first ≤ p then
    if f then { a with free := u32 (a.free - 1) }
    else if a.committed p then { a with almost := u32 (a.almost + 1) }
    else { a with free := u32 (a.free + 1) }
  else a

/-- The bitmaps and counts after the bit of a position has changed. -/
def setBit (a : Bitmaps) (p : ℕ) (f : Bool) : Bitmaps :=
  adjust { a with working := Function.update a.working p f, branched := true } p f

/-- The committed state becomes the working one. -/
def commit (a : Bitmaps) : Bitmaps :=
  let free := u32 (a.free + a.almost)
  { a with
    cur := !a.cur
    committed := a.working
    free := free
    freeCommitted := free
    nextCommitted := a.next
    almost := 0
    branched := false }

/-- The working state becomes the committed one. -/
def revert (a : Bitmaps) : Bitmaps :=
  { a with
    working := a.committed
    free := a.freeCommitted
    next := a.nextCommitted
    almost := 0
    branched := false }

end Bitmaps

/-- Operations on an imap as two sets. -/
abbrev Bit (α : Type) := Op Bitmaps RedError α

/-- Read a bit of one of the two bitmaps. -/
def bitGet (bMR : Bool) (p : ℤ) : Bit Bool := do
  let a ← .get
  if !a.has p then .fail .EINVAL
  else pure (if bMR = a.cur then a.working p.toNat else a.committed p.toNat)

/-- The allocation state of a position. -/
def bitState (p : ℤ) : Bit AllocState := do
  let a ← .get
  if !a.has p then .fail .EINVAL
  else pure (allocStateOf (a.working p.toNat) (a.committed p.toNat))

/-- Change a bit of the working bitmap. It is an error to change it to what it is. -/
def bitSet (p : ℤ) (f : Bool) : Bit Unit := do
  let a ← .get
  if !a.has p then .fail .EINVAL
  else if a.forbids p.toNat f then .fail .EFUBAR
  else if a.working p.toNat = f then
    .modify fun a => { a with branched := true }
    .fail .EFUBAR
  else .modify fun a => a.setBit p.toNat f

/-- Take a position that is free in both bitmaps. -/
def bitAlloc : Bit ℕ := do
  let a ← .get
  if a.free = 0 then .fail .ENOSPC
  else
    match a.findFree with
    | .ok p =>
      .modify fun a => { a with next := a.wrap (p + 1) }
      bitSet p true
      pure p
    | .error .ENOSPC => .fail RedError.EIO
    | .error e => .fail e

/-- A transaction point. -/
def bitTransact : Bit Unit := .modify fun a => if a.branched then a.commit else a

/-- A rollback. -/
def bitRollback : Bit Unit := .modify fun a => if a.branched then a.revert else a

/-- The calls of an imap, with positions for blocks. -/
inductive ImapCall where
  | get (bMR : Bool) (p : ℤ)
  | set (p : ℤ) (fAllocated : Bool)
  | alloc
  | state (p : ℤ)
  | transact
  | rollback

/-- What a call returns besides its status. -/
inductive ImapResult where
  | done
  | bit (fAllocated : Bool)
  | block (p : ℕ)
  | state (state : AllocState)

/-- A call, on the two sets. -/
def ImapCall.onBits : ImapCall → Bit ImapResult
  | get bMR p => do
    let f ← bitGet bMR p
    pure (.bit f)
  | set p f => do
    bitSet p f
    pure .done
  | alloc => do
    let p ← bitAlloc
    pure (.block p)
  | state p => do
    let st ← bitState p
    pure (.state st)
  | transact => do
    bitTransact
    pure .done
  | rollback => do
    bitRollback
    pure .done

/-- Whether a call never returns. -/
def hangs {α : Type} : Except RedError α → Bool
  | .error .outOfFuel => true
  | _ => false

lemma hangs_map {α β : Type} (r : Except RedError α) (g : α → β) : hangs (r.map g) = hangs r := by
  rcases r with e | _
  · cases e <;> rfl
  · rfl

lemma hangs_ne {α : Type} {r : Except RedError α} (h : hangs r = false) :
    r ≠ .error .outOfFuel := by
  rintro rfl
  cases h

/-- What the calls of a run return, and the sets it leaves. A call that never returns is the
last. -/
def bitRun (a : Bitmaps) : List ImapCall → List (Except RedError ImapResult) × Bitmaps
  | [] => ([], a)
  | c :: rest =>
    let r := c.onBits a
    if hangs r.1 then ([r.1], r.2) else (r.1 :: (bitRun r.2 rest).1, (bitRun r.2 rest).2)

/-! ## Without changes the two are the same -/

/-- Without changes the working sets and counts are the committed ones. -/
def Bitmaps.Idle (a : Bitmaps) : Prop :=
  a.branched = false → a.working = a.committed ∧ a.free = a.freeCommitted ∧
    a.next = a.nextCommitted ∧ a.almost = 0

section

variable {a : Bitmaps}

lemma Bitmaps.Idle.of_branched (h : a.branched = true) : a.Idle := fun hb => by
  rw [h] at hb
  cases hb

lemma Bitmaps.setBit_branched (a : Bitmaps) (p : ℕ) (f : Bool) :
    (a.setBit p f).branched = true := by
  unfold setBit adjust
  split_ifs <;> rfl

/-- Setting a bit fails and leaves the sets alone, or notes that there is a change. -/
lemma bitSet_cases (a : Bitmaps) (p : ℤ) (f : Bool) :
    ((a.has p = false ∨ a.forbids p.toNat f = true) ∧ ∃ e, bitSet p f a = (.error e, a)) ∨
      (bitSet p f a).2.branched = true := by
  unfold bitSet
  rw [Op.get_bind_run]
  rcases hp : a.has p with _ | _
  · exact .inl ⟨.inl rfl, .EINVAL, by rw [if_pos (by simp)]; rfl⟩
  rcases hforbid : a.forbids p.toNat f with _ | _
  · refine .inr ?_
    rw [if_neg (by simp), if_neg (by simp)]
    by_cases hsame : a.working p.toNat = f
    · rw [if_pos hsame]
      rfl
    · rw [if_neg hsame]
      exact a.setBit_branched _ _
  · exact .inl ⟨.inr rfl, .EFUBAR, by rw [if_neg (by simp), if_pos rfl]; rfl⟩

lemma Bitmaps.Idle.set (h : a.Idle) (p : ℤ) (f : Bool) : (bitSet p f a).2.Idle := by
  rcases bitSet_cases a p f with ⟨-, e, he⟩ | hb
  · rw [he]
    exact h
  · exact .of_branched hb

lemma Bitmaps.Idle.alloc (h : a.Idle) : (bitAlloc a).2.Idle := by
  unfold bitAlloc
  rw [Op.get_bind_run]
  by_cases hfree : a.free = 0
  · rw [if_pos hfree]
    exact h
  rw [if_neg hfree]
  rcases hfind : a.findFree with e | p
  · cases e <;> exact h
  · have hrange : a.first ≤ a.next ∧ a.next < a.count := by
      by_contra hn
      rw [findFree, if_neg hn] at hfind
      cases hfind
    have hfind : a.search a.next (2 * a.count) a.next = .ok p := by
      rwa [findFree, if_pos hrange] at hfind
    have hlt := (search_sound (by omega) _ _ hrange.2 hfind).2
    -- The position can be set, so there is a change.
    rcases bitSet_cases { a with next := a.wrap (p + 1) } p true with ⟨hno, -⟩ | hb
    · refine absurd hno ?_
      simp [has, forbids, hlt, hfree]
    · refine .of_branched ?_
      simp only [Op.modify_bind_run]
      rcases hset : bitSet p true { a with next := a.wrap (p + 1) } with ⟨e | _, a'⟩ <;>
        rw [hset] at hb
      · rw [Op.bind_error hset]
        exact hb
      · rw [Op.bind_ok hset]
        exact hb

lemma bitGet_snd (a : Bitmaps) (bMR : Bool) (p : ℤ) : (bitGet bMR p a).2 = a := by
  unfold bitGet
  rw [Op.get_bind_run]
  split_ifs <;> rfl

lemma bitState_snd (a : Bitmaps) (p : ℤ) : (bitState p a).2 = a := by
  unfold bitState
  rw [Op.get_bind_run]
  split_ifs <;> rfl

lemma bitTransact_working (a : Bitmaps) : (bitTransact a).2.working = a.working := by
  change (if a.branched then a.commit else a).working = a.working
  split_ifs <;> rfl

lemma bitRollback_committed (a : Bitmaps) : (bitRollback a).2.committed = a.committed := by
  change (if a.branched then a.revert else a).committed = a.committed
  split_ifs <;> rfl

/-- **A transaction point makes the committed set the working one.** -/
theorem Bitmaps.Idle.transact_committed (h : a.Idle) : (bitTransact a).2.committed = a.working := by
  change (if a.branched then a.commit else a).committed = a.working
  split_ifs with hb
  · rfl
  · exact (h (by simpa using hb)).1.symm

/-- **A rollback makes the working set the committed one.** -/
theorem Bitmaps.Idle.rollback_working (h : a.Idle) : (bitRollback a).2.working = a.committed := by
  change (if a.branched then a.revert else a).working = a.committed
  split_ifs with hb
  · rfl
  · exact (h (by simpa using hb)).1

lemma Bitmaps.commit_idle (a : Bitmaps) : a.commit.Idle := fun _ => ⟨rfl, rfl, rfl, rfl⟩

lemma Bitmaps.revert_idle (a : Bitmaps) : a.revert.Idle := fun _ => ⟨rfl, rfl, rfl, rfl⟩

/-- **An imap without changes is the committed one**, after every call. -/
theorem Bitmaps.Idle.call (h : a.Idle) (c : ImapCall) : (c.onBits a).2.Idle := by
  cases c with
  | get bMR p =>
    change ((bitGet bMR p >>= fun f => pure (ImapResult.bit f)) a).2.Idle
    rw [Op.bind_pure_run, bitGet_snd]
    exact h
  | set p f =>
    change ((bitSet p f >>= fun _ => pure ImapResult.done) a).2.Idle
    rw [Op.bind_pure_run]
    exact h.set p f
  | alloc =>
    change ((bitAlloc >>= fun p => pure (ImapResult.block p)) a).2.Idle
    rw [Op.bind_pure_run]
    exact h.alloc
  | state p =>
    change ((bitState p >>= fun st => pure (ImapResult.state st)) a).2.Idle
    rw [Op.bind_pure_run, bitState_snd]
    exact h
  | transact =>
    change Bitmaps.Idle (if a.branched then a.commit else a)
    split_ifs
    · exact a.commit_idle
    · exact h
  | rollback =>
    change Bitmaps.Idle (if a.branched then a.revert else a)
    split_ifs
    · exact a.revert_idle
    · exact h

theorem Bitmaps.Idle.run (h : a.Idle) (cs : List ImapCall) : (bitRun a cs).2.Idle := by
  induction cs generalizing a with
  | nil => exact h
  | cons c rest ih =>
    unfold bitRun
    dsimp only
    split_ifs
    · exact h.call c
    · exact ih (h.call c)

end

end RelianceEdge
