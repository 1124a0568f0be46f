import RelianceEdge.Lib.Cursor
import RelianceEdge.Space.Index
import RelianceEdge.Space.Reach

set_option relaxedAutoImplicit false
set_option autoImplicit false
set_option linter.unusedSectionVars false

/-!
# Directory streams

A stream carries a position from one call of `RedCoreDirRead()` to the next, while other calls
change the directory. The position is the index of an entry, and an entry keeps its index for as
long as its name is there: the stream is a cursor over the entries of the directory.

## Main definitions

* `DirStream` — the calls on one stream, with the operations between them.

## Main results

* `Shape.Step.keepsPlaces` — a name that stays keeps its index.
* `dirStream_exact` — the entries that a stream returns.
-/

namespace RelianceEdge

variable [RedConf]

open RedConf

/-! ## Indexes -/

/-- **The entries after an operation**: an entry was there before, or it is new at the first free
index of its directory, or it has replaced an entry of its name. -/
lemma Shape.Step.entry_cases {S S' : Shape} (hs : Shape.Step S S') {p k : ℕ} {a : Dirent}
    (ha : S'.entry (p, k) = some a) :
    S.entry (p, k) = some a ∨ S.Vacant p k a.acName ∧ S.First p k ∨
      ∃ b, S.entry (p, k) = some b ∧ b.acName = a.acName := by
  cases hs with
  | create _ hk hfirst =>
    rcases WellFormed.entry_update ha with ⟨hx, he⟩ | ⟨-, hb⟩
    · obtain ⟨rfl, rfl⟩ := Prod.mk.inj hx
      exact Or.inr (Or.inl ⟨Option.some.inj he ▸ hk, hfirst⟩)
    · exact Or.inl hb
  | link _ hk hfirst =>
    rcases WellFormed.entry_update ha with ⟨hx, he⟩ | ⟨-, hb⟩
    · obtain ⟨rfl, rfl⟩ := Prod.mk.inj hx
      exact Or.inr (Or.inl ⟨Option.some.inj he ▸ hk, hfirst⟩)
    · exact Or.inl hb
  | unlink =>
    rcases WellFormed.entry_update ha with ⟨-, he⟩ | ⟨-, hb⟩
    · cases he
    · exact Or.inl hb
  | move _ _ _ _ hk hfirst =>
    rcases WellFormed.entry_update ha with ⟨-, he⟩ | ⟨-, hb⟩
    · cases he
    · rcases WellFormed.entry_update hb with ⟨hx, he⟩ | ⟨-, hb⟩
      · obtain ⟨rfl, rfl⟩ := Prod.mk.inj hx
        exact Or.inr (Or.inl ⟨Option.some.inj he ▸ hk, hfirst⟩)
      · exact Or.inl hb
  | replace _ _ _ hd hname =>
    rcases WellFormed.entry_update ha with ⟨-, he⟩ | ⟨-, hb⟩
    · cases he
    · rcases WellFormed.entry_update hb with ⟨hx, he⟩ | ⟨-, hb⟩
      · obtain ⟨rfl, rfl⟩ := Prod.mk.inj hx
        exact Or.inr (Or.inr ⟨_, hd, Option.some.inj he ▸ hname⟩)
      · exact Or.inl hb
  | freeOrphan => exact Or.inl ha

/-- **A name keeps its index** while it is in the directory. -/
lemma Shape.Step.keepsPlaces {S S' : Shape} (hw : S.WellFormed) (hs : Shape.Step S S') (p : ℕ) :
    KeepsPlaces Dirent.acName (fun k => S.entry (p, k)) (fun k => S'.entry (p, k)) := by
  intro k k' a a' ha ha' hname
  rcases hs.entry_cases ha' with hold | ⟨hvacant, -⟩ | ⟨b, hb, hba⟩
  · exact hw.unique ha hold hname
  · exact absurd hname (hvacant.2 k a ha)
  · exact hw.unique ha hb (hname.trans hba.symm)

namespace Space

variable (s : FS) (sp : Space)

/-! ## Streams -/

/-- The directory has an entry of the name. -/
def HasName (p : ℕ) (acName : List UInt8) : Prop :=
  ∃ de, some de ∈ sp.slots s p ∧ de.acName = acName

/-- The number of entries of a directory. -/
def nameCount (p : ℕ) : ℕ := Slots.used (sp.slots s p)

/-- **A stream** of a directory from its start on: `n` moments, each of which is an operation on
names or a call of `RedCoreDirRead()` that returns an entry and the next position. -/
structure DirStream (p n : ℕ) where
  space : ℕ → Space
  ulPos : ℕ → ℕ
  /-- The entry that a call returns; none at an operation. -/
  found : ℕ → Option Dirent
  start : ulPos 0 = 0
  change : ∀ i < n, found i = none → Step s (space i) (space (i + 1)) ∧ ulPos (i + 1) = ulPos i
  read : ∀ i < n, ∀ de, found i = some de → space (i + 1) = space i ∧
    (space i).redCoreDirRead s p (ulPos i) = .ok (ulPos (i + 1), some de)

variable {s sp} {p n : ℕ}

lemma hasName_iff {acName : List UInt8} : sp.HasName s p acName ↔
    HasKey Dirent.acName (fun k => (sp.shape s).entry (p, k)) acName := by
  constructor
  · rintro ⟨de, hde, hname⟩
    obtain ⟨k, hk⟩ := Slots.mem_iff.1 hde
    exact ⟨k, de, hk, hname⟩
  · rintro ⟨k, de, hk, hname⟩
    exact ⟨de, Slots.mem_iff.2 ⟨k, hk⟩, hname⟩

variable (hver : redDiskLayoutIsSupported s.core.ulVersion)
include hver

/-- **`RedCoreDirRead()`** finds the next entry in use. -/
lemma redCoreDirRead_eq (h : sp.Sound s) {ino : FileNode} {d : DirData} (hp : sp.node p = some ino)
    (hd : ino.data = .dir d) (ulPos : ℕ) : sp.redCoreDirRead s p ulPos =
      .ok (DirData.readResult (sp.slots s p).length
        (Slots.next ((sp.slots s p).drop ulPos) ulPos)) := by
  have hmount : sp.mountDir p = .ok (ino, d) := by
    simp only [mountDir, mount, hp, bind, Except.bind, hd]
  rw [slots_dir hp hd, ← (h.holds hp hd).read hver ulPos]
  simp only [redCoreDirRead, hmount, bind, Except.bind]

lemma redCoreDirRead_slots (h : sp.Sound s) {ulPos : ℕ} {r : ℕ × Option Dirent}
    (hr : sp.redCoreDirRead s p ulPos = .ok r) :
    r = DirData.readResult (sp.slots s p).length
      (Slots.next ((sp.slots s p).drop ulPos) ulPos) := by
  obtain ⟨⟨ino, d⟩, hmount, -⟩ := Except.bind_eq_ok hr
  obtain ⟨hp, hd⟩ := mountDir_eq_ok hmount
  rw [redCoreDirRead_eq hver h hp hd] at hr
  exact (Except.ok.inj hr).symm

/-- A call that returns an entry. -/
lemma redCoreDirRead_found (h : sp.Sound s) {ulPos pos : ℕ} {de : Dirent}
    (hr : sp.redCoreDirRead s p ulPos = .ok (pos, some de)) :
    ∃ k, pos = k + 1 ∧ ulPos ≤ k ∧ (sp.shape s).entry (p, k) = some de ∧
      ∀ m, ulPos ≤ m → m < k → (sp.shape s).entry (p, m) = none := by
  have hres := redCoreDirRead_slots hver h hr
  rcases hn : Slots.next ((sp.slots s p).drop ulPos) ulPos with _ | ⟨a, j⟩
  · rw [hn] at hres
    cases hres
  · rw [hn] at hres
    obtain ⟨rfl, ha⟩ := Prod.mk.inj hres
    obtain rfl : de = a := Option.some.inj ha
    obtain ⟨k, hk, hat, hfree⟩ := Slots.next_eq_some.1 hn
    rw [Slots.at_drop] at hat
    refine ⟨ulPos + k, hk, Nat.le_add_right _ _, hat, fun m hm hmk => ?_⟩
    have := hfree (m - ulPos) (by omega)
    rwa [Slots.at_drop, Nat.add_sub_cancel' hm] at this

/-- A call at the end. -/
lemma redCoreDirRead_end (h : sp.Sound s) {ulPos pos : ℕ}
    (hr : sp.redCoreDirRead s p ulPos = .ok (pos, none)) :
    ∀ k, ulPos ≤ k → (sp.shape s).entry (p, k) = none := by
  have hres := redCoreDirRead_slots hver h hr
  rcases hn : Slots.next ((sp.slots s p).drop ulPos) ulPos with _ | ⟨a, j⟩
  · intro k hk
    have := Slots.next_eq_none.1 hn (k - ulPos)
    rwa [Slots.at_drop, Nat.add_sub_cancel' hk] at this
  · rw [hn] at hres
    cases hres

namespace DirStream

variable (r : DirStream s p n)

lemma inv (h : Inv s (r.space 0)) : ∀ {i : ℕ}, i ≤ n → Inv s (r.space i) := by
  intro i
  induction i with
  | zero => exact fun _ => h
  | succ i ih =>
    intro hi
    have hprev := ih (by omega)
    rcases hf : r.found i with _ | de
    · exact (hprev.step hver (r.change i hi hf).1).1
    · rw [(r.read i hi de hf).1]
      exact hprev

/-- What one moment does to the shape. -/
lemma shape_step (h : Inv s (r.space 0)) {i : ℕ} (hi : i < n) :
    (r.space (i + 1)).shape s = (r.space i).shape s ∨
      Shape.Step ((r.space i).shape s) ((r.space (i + 1)).shape s) := by
  rcases hf : r.found i with _ | de
  · exact ((r.inv hver h (Nat.le_of_lt hi)).step hver (r.change i hi hf).1).2
  · rw [(r.read i hi de hf).1]
    exact Or.inl rfl

/-- **The stream is a cursor** over the entries of the directory. -/
def cursor (h : Inv s (r.space 0)) : Cursor Dirent.acName n where
  slots := fun i k => ((r.space i).shape s).entry (p, k)
  pos := r.ulPos
  found := r.found
  start := r.start
  keyed := fun i hi k k' a a' ha ha' hname => (r.inv hver h hi).shape.unique ha ha' hname
  change := by
    intro i hi hf
    refine ⟨?_, (r.change i hi hf).2⟩
    have hinv := r.inv hver h (Nat.le_of_lt hi)
    rcases r.shape_step hver h hi with heq | hstep
    · rw [heq]
      exact fun k k' a a' ha ha' hname => hinv.shape.unique ha ha' hname
    · exact hstep.keepsPlaces hinv.shape p
  move := by
    intro i hi de hf
    obtain ⟨heq, hread⟩ := r.read i hi de hf
    refine ⟨by rw [heq], redCoreDirRead_found hver (r.inv hver h (Nat.le_of_lt hi)).sound hread⟩

/-- Where no more names are made, the indexes in use stay below a bound. -/
lemma entry_bound (h : Inv s (r.space 0)) {m : ℕ}
    (hstop : ∀ i, m ≤ i → i < n → (r.space (i + 1)).nameCount s p ≤ (r.space i).nameCount s p) :
    ∀ {i : ℕ}, m ≤ i → i ≤ n → (r.space i).nameCount s p ≤ (r.space m).nameCount s p ∧
      ∀ k, ((r.space m).slots s p).length < k → ((r.space i).shape s).entry (p, k) = none := by
  intro i hmi
  induction i, hmi using Nat.le_induction with
  | base =>
    intro _
    exact ⟨Nat.le_refl _, fun k hk => Slots.at_of_length_le (Nat.le_of_lt hk)⟩
  | succ i hmi ih =>
    intro hi
    obtain ⟨hcount, hnone⟩ := ih (by omega)
    refine ⟨(hstop i hmi hi).trans hcount, fun k hk => ?_⟩
    rcases r.shape_step hver h hi with heq | hstep
    · rw [heq]
      exact hnone k hk
    · rcases ha : ((r.space (i + 1)).shape s).entry (p, k) with _ | a
      · rfl
      · exfalso
        have hfree := hnone k hk
        rcases hstep.entry_cases ha with hold | ⟨-, hfirst⟩ | ⟨b, hb, -⟩
        · rw [hfree] at hold
          cases hold
        · -- a new name would be at an index below the number of names
          have hk' : k ≤ (r.space i).nameCount s p := Slots.firstFree_le hfirst
          have hlen : (r.space m).nameCount s p ≤ ((r.space m).slots s p).length :=
            List.countP_le_length
          omega
        · rw [hfree] at hb
          cases hb

end DirStream

/-- A rename leaves its destination in the directory. -/
lemma coreRename_hasName (h : Inv s sp) {q : ℕ} {pszSrcName pszDstName : CString} {fOrphan : Bool}
    (hdst : sp.HasParent q) {sp' : Space}
    (hc : sp.coreRename s p pszSrcName q pszDstName fOrphan = .ok sp') :
    sp'.HasName s q (pszDstName.take (redNameLen pszDstName)) := by
  obtain ⟨-, -, k, e, he, hname⟩ := coreRename_step hver h.sound h.shape hdst hc
  exact hasName_iff.2 ⟨k, e, he, hname⟩

omit hver

/-- **A stream survives changes.** A call returns an entry that is there; a name is returned again
only after it has been absent; a name that is there throughout is returned exactly once by the
calls up to the end, and one that a rename overwrites is still there; no call fails; and when the
directory gains no more names, the number of calls that return an entry is bounded. -/
theorem dirStream_exact (s : FS) (hver : redDiskLayoutIsSupported s.core.ulVersion) {p n : ℕ}
    (r : DirStream s p n) {committed : Space} (h : Reachable s (r.space 0) committed) :
    (∀ i < n, ∀ de, r.found i = some de → some de ∈ (r.space i).slots s p) ∧
    (∀ i j, i < j → j < n → ∀ de de', r.found i = some de → r.found j = some de' →
      de.acName = de'.acName → ∃ m, i < m ∧ m ≤ j ∧ ¬ (r.space m).HasName s p de.acName) ∧
    (∀ acName pos, (∀ i ≤ n, (r.space i).HasName s p acName) →
      (r.space n).redCoreDirRead s p (r.ulPos n) = .ok (pos, none) →
      ∃! i, i < n ∧ ∃ de, r.found i = some de ∧ de.acName = acName) ∧
    (∀ i < n, ∀ ulSrcPInode pszSrcName pszDstName fOrphan, (r.space i).HasParent p →
      (r.space i).coreRename s ulSrcPInode pszSrcName p pszDstName fOrphan =
        .ok (r.space (i + 1)) →
      (r.space (i + 1)).HasName s p (pszDstName.take (redNameLen pszDstName))) ∧
    (∀ i ≤ n, ∀ ino d, (r.space i).node p = some ino → ino.data = .dir d →
      ∃ e, (r.space i).redCoreDirRead s p (r.ulPos i) = .ok e) ∧
    ∀ m ≤ n, (∀ i, m ≤ i → i < n → (r.space (i + 1)).nameCount s p ≤ (r.space i).nameCount s p) →
      ((Finset.Ico m n).filter fun i => (r.found i).isSome).card ≤
        ((r.space m).slots s p).length + 1 := by
  have hinv : Inv s (r.space 0) := (h.inv hver).1
  have hkey (i : ℕ) (x : List UInt8) :
      (r.space i).HasName s p x ↔ HasKey Dirent.acName ((r.cursor hver hinv).slots i) x :=
    hasName_iff
  refine ⟨?_, ?_, ?_, ?_, ?_, ?_⟩
  · intro i hi de hf
    obtain ⟨k, -, -, hk⟩ := (r.cursor hver hinv).found_at hi hf
    exact Slots.mem_iff.2 ⟨k, hk⟩
  · intro i j hij hj de de' hf hf' hname
    obtain ⟨m, him, hmj, hm⟩ := (r.cursor hver hinv).absent_between hij hj hf hf' hname
    exact ⟨m, him, hmj, fun hc => hm ((hkey m _).1 hc)⟩
  · intro acName pos hall hend
    exact (r.cursor hver hinv).existsUnique_found (fun i hi => (hkey i _).1 (hall i hi))
      (redCoreDirRead_end hver (r.inv hver hinv (Nat.le_refl n)).sound hend)
  · intro i hi ulSrcPInode pszSrcName pszDstName fOrphan hdst hc
    exact coreRename_hasName hver (r.inv hver hinv (Nat.le_of_lt hi)) hdst hc
  · intro i hi ino d hp hd
    exact ⟨_, redCoreDirRead_eq hver (r.inv hver hinv hi).sound hp hd _⟩
  · intro m hm hstop
    have hbound := (r.cursor hver hinv).card_found_le hm
      (B := ((r.space m).slots s p).length + 1) fun i hmi hi k hk =>
        (r.entry_bound hver hinv hstop hmi (Nat.le_of_lt hi)).2 k hk
    exact hbound.trans (Nat.sub_le _ _)

/-! ## A stream of the root directory -/

omit [RedConf] in
/-- The theorem on a new volume with a file `a`: a stream during which a file `b` is created returns
`a` exactly once. -/
theorem dirStream_exact_small : letI := smallConf
    ∃ r : DirStream (emptyGeometry 5 64 8) INODE_ROOTDIR 3, (r.found 0).isNone ∧
      (r.found 1).isSome ∧ (r.found 2).isSome ∧
      ∃! i, i < 3 ∧ ∃ de, r.found i = some de ∧ de.acName = [97] := by
  let _ := smallConf
  have hver : redDiskLayoutIsSupported (emptyGeometry 5 64 8).core.ulVersion := by decide
  have hmax : 1 < (emptyGeometry 5 64 8).direntsMax := by decide
  obtain ⟨a, ha, hname⟩ := newDirent_byte (c := 97) 3 (by decide) (by decide) (by decide)
  obtain ⟨b, hb, hname'⟩ := newDirent_byte (c := 98) 4 (by decide) (by decide) (by decide)
  have hroot : format.node 2 = some ⟨1, INODE_INVALID, .dir .empty⟩ := rfl
  obtain ⟨sp1, d1, h1, hp1, hl1, -, hn1⟩ := coreCreate_append hver hroot rfl
    DirData.empty_holds (by simp) (by simp; omega) ha (by simp) (by decide) .reg
  obtain ⟨sp2, d2, h2, hp2, hl2, -, -⟩ := coreCreate_append hver hp1 rfl hl1 (by simp) (by simpa)
    hb (by simp [hname, hname']) (by decide) .reg
  have hstep1 : Step (emptyGeometry 5 64 8) format sp1 := .create (Or.inl rfl) rfl (by decide) h1
  have hstep2 : Step (emptyGeometry 5 64 8) sp1 sp2 := by
    refine .create (Or.inl rfl) ?_ (by decide) h2
    rw [hn1 4 (by decide) (by decide)]
    rfl
  have hreach1 : Reachable (emptyGeometry 5 64 8) sp1 format := .step .format hstep1
  have hsound2 := ((hreach1.step hstep2).inv hver).1.sound
  have hs1 : sp1.slots (emptyGeometry 5 64 8) 2 = [some a] := by
    rw [slots_dir hp1 rfl, hl1.slots_eq hver, List.nil_append]
  have hs2 : sp2.slots (emptyGeometry 5 64 8) 2 = [some a, some b] := by
    rw [slots_dir hp2 rfl, hl2.slots_eq hver]
    rfl
  have hread (i : ℕ) : sp2.redCoreDirRead (emptyGeometry 5 64 8) 2 i =
      .ok (DirData.readResult 2 (Slots.next ([some a, some b].drop i) i)) := by
    rw [redCoreDirRead_eq hver hsound2 hp2 rfl, hs2]
    rfl
  let r : DirStream (emptyGeometry 5 64 8) INODE_ROOTDIR 3 := {
    space := fun i => if i = 0 then sp1 else sp2
    ulPos := fun i => i - 1
    found := fun i => if i = 0 then none else if i = 1 then some a else some b
    start := rfl
    change := by
      intro i hi hf
      obtain rfl | rfl | rfl : i = 0 ∨ i = 1 ∨ i = 2 := by omega
      · exact ⟨hstep2, rfl⟩
      · cases hf
      · cases hf
    read := by
      intro i hi de hf
      obtain rfl | rfl | rfl : i = 0 ∨ i = 1 ∨ i = 2 := by omega
      · cases hf
      · cases hf
        exact ⟨rfl, hread 0⟩
      · cases hf
        exact ⟨rfl, hread 1⟩ }
  refine ⟨r, rfl, rfl, rfl, ?_⟩
  refine (dirStream_exact (emptyGeometry 5 64 8) hver r hreach1).2.2.1 [97] 2 ?_ (hread 2)
  intro i _
  by_cases hi : i = 0
  · subst hi
    refine ⟨a, ?_, hname⟩
    rw [show r.space 0 = sp1 from rfl, show INODE_ROOTDIR = 2 from rfl, hs1]
    simp
  · refine ⟨a, ?_, hname⟩
    rw [show r.space i = sp2 from if_neg hi, show INODE_ROOTDIR = 2 from rfl, hs2]
    simp

end Space

end RelianceEdge
