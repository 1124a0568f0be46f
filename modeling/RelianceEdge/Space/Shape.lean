import Mathlib.Data.Set.Card
import RelianceEdge.Posix.Tree

set_option relaxedAutoImplicit false
set_option autoImplicit false
set_option linter.unusedSectionVars false

/-!
# The shape of a file system

What the operations on names are for: inodes with link counts and parents, and directory entries
at places. The link count of an inode is the number of its names, a directory has one name at
most, and from every directory with an entry a chain of entries leads up to the root directory.

## Main definitions

* `Shape` — inodes and entries.
* `Shape.Linked`, `Shape.Avoids` — a chain of entries from the root directory.
* `Shape.WellFormed` — the invariant.
* `Shape.Step` — what one operation changes.

## Main results

* `Shape.WellFormed.step` — every operation keeps the invariant.
-/

namespace RelianceEdge

variable [RedConf]

/-- An inode, as far as names go. -/
structure Info where
  fDirectory : Bool
  uNLink : ℕ
  ulPInode : ℕ

/-- **The shape of a file system**: the inodes in use, and the entry at an index of a directory. -/
structure Shape where
  info : ℕ → Option Info
  entry : ℕ × ℕ → Option Dirent

namespace Shape

variable (S : Shape)

/-- The inode is a directory. -/
def IsDir (i : ℕ) : Prop := ∃ n, S.info i = some n ∧ n.fDirectory

/-- The places of the names of an inode. -/
def names (i : ℕ) : Set (ℕ × ℕ) := { x | ∃ e, S.entry x = some e ∧ e.ulInode = i }

/-- The directory has no entries. -/
def IsEmpty (i : ℕ) : Prop := ∀ k, S.entry (i, k) = none

/-- **A chain of entries** leads from the root directory to a directory. -/
inductive Linked : ℕ → Prop
  | root : Linked INODE_ROOTDIR
  | child {p k : ℕ} {e : Dirent} (h : S.entry (p, k) = some e) (hp : Linked p)
      (hd : S.IsDir e.ulInode) : Linked e.ulInode

/-- A chain of entries leads from the root directory to a directory, past an inode. -/
inductive Avoids (i : ℕ) : ℕ → Prop
  | root (h : i ≠ INODE_ROOTDIR) : Avoids i INODE_ROOTDIR
  | child {p k : ℕ} {e : Dirent} (h : S.entry (p, k) = some e) (hp : Avoids i p)
      (hd : S.IsDir e.ulInode) (hne : i ≠ e.ulInode) : Avoids i e.ulInode

/-- **The invariant** of the shape. -/
structure WellFormed : Prop where
  /-- The invalid number is not an inode. -/
  invalid : S.info INODE_INVALID = none
  /-- The root directory has no name and no parent. -/
  root : ∃ n, S.info INODE_ROOTDIR = some n ∧ n.fDirectory
  /-- Entries lie in directories. -/
  owner : ∀ {p k e}, S.entry (p, k) = some e → S.IsDir p
  /-- Entries name inodes, and never the root directory. -/
  target : ∀ {x e}, S.entry x = some e → (∃ n, S.info e.ulInode = some n) ∧
    e.ulInode ≠ INODE_ROOTDIR
  /-- The link count is the number of names. -/
  count : ∀ {i n}, S.info i = some n → i ≠ INODE_ROOTDIR → (S.names i).encard = n.uNLink
  /-- A directory lies in its parent. -/
  parent : ∀ {p k e n}, S.entry (p, k) = some e → S.info e.ulInode = some n → n.fDirectory →
    n.ulPInode = p
  /-- The names of a directory differ. -/
  unique : ∀ {p k k' e e'}, S.entry (p, k) = some e → S.entry (p, k') = some e' →
    e.acName = e'.acName → k = k'
  /-- A directory has one name, or it has been removed. -/
  dir : ∀ {i n}, S.info i = some n → n.fDirectory → i ≠ INODE_ROOTDIR →
    n.uNLink = 1 ∨ n.uNLink = 0 ∧ n.ulPInode = INODE_INVALID
  /-- A directory that has been removed is empty. -/
  removed : ∀ {i n}, S.info i = some n → n.fDirectory → i ≠ INODE_ROOTDIR →
    n.uNLink = 0 → S.IsEmpty i
  /-- From a directory with an entry a chain leads to the root directory. -/
  linked : ∀ {p k e}, S.entry (p, k) = some e → S.Linked p

variable {S}

/-! ## Names -/

/-- The names after an entry has changed. -/
lemma names_update {x : ℕ × ℕ} {v : Option Dirent} {info : ℕ → Option Info} (i : ℕ) :
    names ⟨info, Function.update S.entry x v⟩ i =
      { y | y = x ∧ ∃ e, v = some e ∧ e.ulInode = i } ∪ (S.names i \ {x}) := by
  ext y
  simp only [names, Set.mem_ofPred_eq, Set.mem_union, Set.mem_sdiff, Set.mem_singleton_iff]
  by_cases hy : y = x
  · subst hy
    simp
  · simp [hy]

lemma names_update_of_ne {x : ℕ × ℕ} {v : Option Dirent} {info : ℕ → Option Info} {i : ℕ}
    (hv : ∀ e, v = some e → e.ulInode ≠ i) (hx : x ∉ S.names i) :
    names ⟨info, Function.update S.entry x v⟩ i = S.names i := by
  rw [names_update]
  have hempty : { y | y = x ∧ ∃ e, v = some e ∧ e.ulInode = i } = ∅ := by
    ext y
    simp only [Set.mem_ofPred_eq, Set.mem_empty_iff_false, iff_false]
    rintro ⟨-, e, he, hi⟩
    exact hv e he hi
  rw [hempty, Set.empty_union, Set.sdiff_singleton_eq_self hx]

lemma names_insert {x : ℕ × ℕ} {e : Dirent} {info : ℕ → Option Info} (hx : S.entry x = none) :
    names ⟨info, Function.update S.entry x (some e)⟩ e.ulInode = insert x (S.names e.ulInode) := by
  have hnot : x ∉ S.names e.ulInode := by
    rintro ⟨e', he', -⟩
    rw [hx] at he'
    cases he'
  rw [names_update, Set.sdiff_singleton_eq_self hnot]
  ext y
  simp

lemma names_remove {x : ℕ × ℕ} {info : ℕ → Option Info} (i : ℕ) :
    names ⟨info, Function.update S.entry x none⟩ i = S.names i \ {x} := by
  rw [names_update]
  ext y
  simp

namespace WellFormed

variable (h : S.WellFormed)

include h

lemma isDir_info {i : ℕ} {n : Info} (hi : S.IsDir i) (hn : S.info i = some n) : n.fDirectory := by
  obtain ⟨n', hn', hd⟩ := hi
  rw [hn] at hn'
  obtain rfl := Option.some.inj hn'
  exact hd

/-- A directory that has not been removed has its one name in its parent. -/
lemma name_of_dir {i : ℕ} {n : Info} (hi : S.info i = some n) (hd : n.fDirectory)
    (hr : i ≠ INODE_ROOTDIR) (hl : n.uNLink ≠ 0) :
    ∃ k e, S.entry (n.ulPInode, k) = some e ∧ e.ulInode = i ∧ S.names i = {(n.ulPInode, k)} := by
  have h1 : n.uNLink = 1 := (h.dir hi hd hr).resolve_right fun h0 => hl h0.1
  have hc := h.count hi hr
  rw [h1, Nat.cast_one, Set.encard_eq_one] at hc
  obtain ⟨⟨p, k⟩, hx⟩ := hc
  have hmem : (p, k) ∈ S.names i := by
    rw [hx]
    rfl
  obtain ⟨e, he, rfl⟩ := hmem
  have hp := h.parent he hi hd
  subst hp
  exact ⟨k, e, he, rfl, hx⟩

/-- The parent of a directory is invalid when the directory has been removed, and only then. -/
lemma parent_eq_invalid {i : ℕ} {n : Info} (hi : S.info i = some n) (hd : n.fDirectory)
    (hr : i ≠ INODE_ROOTDIR) : n.ulPInode = INODE_INVALID ↔ n.uNLink = 0 := by
  constructor
  · intro hp
    by_contra hl
    obtain ⟨k, e, he, -, -⟩ := h.name_of_dir hi hd hr hl
    obtain ⟨m, hm, -⟩ := h.owner he
    rw [hp, h.invalid] at hm
    cases hm
  · intro hl
    rcases h.dir hi hd hr with h1 | h0
    · omega
    · exact h0.2

/-- A directory that has not been removed is linked. -/
lemma linked_of_dir {i : ℕ} {n : Info} (hi : S.info i = some n) (hd : n.fDirectory)
    (hl : i = INODE_ROOTDIR ∨ n.ulPInode ≠ INODE_INVALID) : S.Linked i := by
  by_cases hr : i = INODE_ROOTDIR
  · subst hr
    exact .root
  · have hp := hl.resolve_left hr
    have hl' : n.uNLink ≠ 0 := fun h0 => hp ((h.parent_eq_invalid hi hd hr).2 h0)
    obtain ⟨k, e, he, rfl, -⟩ := h.name_of_dir hi hd hr hl'
    exact .child he (h.linked he) ⟨n, hi, hd⟩

end WellFormed

/-! ## What operations change -/

variable (S) in
/-- A directory that has not been removed. -/
def Attached (p : ℕ) : Prop :=
  ∃ n, S.info p = some n ∧ n.fDirectory ∧ (p = INODE_ROOTDIR ∨ n.ulPInode ≠ INODE_INVALID)

variable (S) in
/-- A place for a name: it is free, and the directory does not have the name. -/
def Vacant (p k : ℕ) (acName : List UInt8) : Prop :=
  S.entry (p, k) = none ∧ ∀ j e, S.entry (p, j) = some e → e.acName ≠ acName

variable (S) in
/-- The places before one in a directory are taken. -/
def First (p k : ℕ) : Prop := ∀ m < k, (S.entry (p, m)).isSome

/-- What becomes of an inode that loses a name: the count goes down, the inode is kept without a
name, or it is deleted. -/
inductive Dropped (n : Info) : Option Info → Prop
  | dec (h : 1 < n.uNLink) : Dropped n (some { n with uNLink := n.uNLink - 1 })
  | orphan (h : n.uNLink ≤ 1) :
      Dropped n (some { n with uNLink := 0, ulPInode := INODE_INVALID })
  | delete (h : n.uNLink ≤ 1) : Dropped n none

/-- **What one operation changes.** A new name goes to the first free place of its directory, and
a rename to a name in use goes to the place of that name. -/
inductive Step : Shape → Shape → Prop
  | create {S : Shape} {p k : ℕ} {e : Dirent} {n : Info} (hp : S.Attached p)
      (hk : S.Vacant p k e.acName) (hfirst : S.First p k) (hnew : S.info e.ulInode = none)
      (hvalid : e.ulInode ≠ INODE_INVALID) (hl : n.uNLink = 1) (hpar : n.ulPInode = p) :
      Step S ⟨Function.update S.info e.ulInode (some n),
        Function.update S.entry (p, k) (some e)⟩
  | link {S : Shape} {p k : ℕ} {e : Dirent} {n : Info} (hp : S.Attached p)
      (hk : S.Vacant p k e.acName) (hfirst : S.First p k) (hn : S.info e.ulInode = some n)
      (hd : ¬ n.fDirectory) :
      Step S ⟨Function.update S.info e.ulInode (some { n with uNLink := n.uNLink + 1 }),
        Function.update S.entry (p, k) (some e)⟩
  | unlink {S : Shape} {p k : ℕ} {e : Dirent} {n : Info} {v : Option Info}
      (he : S.entry (p, k) = some e) (hn : S.info e.ulInode = some n)
      (hempty : n.fDirectory → S.IsEmpty e.ulInode) (hv : Dropped n v) :
      Step S ⟨Function.update S.info e.ulInode v, Function.update S.entry (p, k) none⟩
  | move {S : Shape} {p j q k : ℕ} {e e' : Dirent} {n : Info}
      (he : S.entry (p, j) = some e) (hn : S.info e.ulInode = some n)
      (hino : e'.ulInode = e.ulInode) (hq : S.Attached q) (hk : S.Vacant q k e'.acName)
      (hfirst : S.First q k) (hcyc : n.fDirectory → S.Avoids e.ulInode q) :
      Step S ⟨Function.update S.info e.ulInode (some { n with ulPInode := q }),
        Function.update (Function.update S.entry (q, k) (some e')) (p, j) none⟩
  | replace {S : Shape} {p j q k : ℕ} {e e' d : Dirent} {n m : Info} {v : Option Info}
      (he : S.entry (p, j) = some e) (hn : S.info e.ulInode = some n)
      (hino : e'.ulInode = e.ulInode) (hd : S.entry (q, k) = some d)
      (hname : d.acName = e'.acName) (hne : d.ulInode ≠ e.ulInode)
      (hm : S.info d.ulInode = some m) (hempty : m.fDirectory → S.IsEmpty d.ulInode)
      (hv : Dropped m v) (hcyc : n.fDirectory → S.Avoids e.ulInode q) :
      Step S ⟨Function.update (Function.update S.info e.ulInode (some { n with ulPInode := q }))
          d.ulInode v,
        Function.update (Function.update S.entry (q, k) (some e')) (p, j) none⟩
  | freeOrphan {S : Shape} {i : ℕ} {n : Info} (hn : S.info i = some n) (hl : n.uNLink = 0)
      (hroot : i ≠ INODE_ROOTDIR) :
      Step S ⟨Function.update S.info i none, S.entry⟩

/-! ## Every operation keeps the invariant -/

/-- A chain of entries stays when entries are added. -/
lemma Linked.mono {S' : Shape} (hentry : ∀ {x e}, S.entry x = some e → S'.entry x = some e)
    (hdir : ∀ {i}, S.IsDir i → S'.IsDir i) {i : ℕ} (h : S.Linked i) : S'.Linked i := by
  induction h with
  | root => exact .root
  | child he _ hd ih => exact .child (hentry he) ih (hdir hd)

lemma isDir_update {i j : ℕ} {n : Info} {entry : ℕ × ℕ → Option Dirent}
    (hn : j = i → n.fDirectory) (h : j ≠ i → S.IsDir j) :
    IsDir ⟨Function.update S.info i (some n), entry⟩ j := by
  by_cases hj : j = i
  · subst hj
    exact ⟨n, Function.update_self .., hn rfl⟩
  · obtain ⟨m, hm, hd⟩ := h hj
    exact ⟨m, by rw [← hm]; exact Function.update_of_ne hj .., hd⟩

namespace WellFormed

/-- Names of a directory stay different when a vacant place gets a name. -/
lemma unique_update (h : S.WellFormed) {p k : ℕ} {e : Dirent} (hk : S.Vacant p k e.acName)
    {p' j j' : ℕ} {e1 e2 : Dirent}
    (h1 : Function.update S.entry (p, k) (some e) (p', j) = some e1)
    (h2 : Function.update S.entry (p, k) (some e) (p', j') = some e2)
    (hname : e1.acName = e2.acName) : j = j' := by
  by_cases hj : (p', j) = (p, k)
  · by_cases hj' : (p', j') = (p, k)
    · rw [Prod.mk.injEq] at hj hj'
      omega
    · rw [Function.update_of_ne hj'] at h2
      rw [hj, Function.update_self] at h1
      obtain rfl := Option.some.inj h1
      obtain ⟨rfl, rfl⟩ := Prod.mk.inj hj
      exact absurd hname.symm (hk.2 j' e2 h2)
  · rw [Function.update_of_ne hj] at h1
    by_cases hj' : (p', j') = (p, k)
    · rw [hj', Function.update_self] at h2
      obtain rfl := Option.some.inj h2
      obtain ⟨rfl, rfl⟩ := Prod.mk.inj hj'
      exact absurd hname (hk.2 j e1 h1)
    · rw [Function.update_of_ne hj'] at h2
      exact h.unique h1 h2 hname

/-- An entry after a change of one place. -/
lemma entry_update {entry : ℕ × ℕ → Option Dirent} {x y : ℕ × ℕ} {v : Option Dirent} {e : Dirent}
    (h : Function.update entry x v y = some e) : y = x ∧ v = some e ∨ y ≠ x ∧ entry y = some e := by
  by_cases hy : y = x
  · rw [hy, Function.update_self] at h
    exact Or.inl ⟨hy, h⟩
  · rw [Function.update_of_ne hy] at h
    exact Or.inr ⟨hy, h⟩

/-- The other inodes are as before. -/
lemma info_of_update {i j : ℕ} {v : Option Info} {m : Info} (hj : j ≠ i)
    (h : Function.update S.info i v j = some m) : S.info j = some m := by
  rwa [Function.update_of_ne hj] at h

/-- **A name is added**: a new inode gets its first name, or a file another one. -/
lemma addName (h : S.WellFormed) {p k : ℕ} {e : Dirent} {n : Info} (hp : S.Attached p)
    (hk : S.Vacant p k e.acName) (hvalid : e.ulInode ≠ INODE_INVALID)
    (hroot : e.ulInode ≠ INODE_ROOTDIR) (hcount : (S.names e.ulInode).encard + 1 = n.uNLink)
    (hsame : ∀ m, S.info e.ulInode = some m → m.fDirectory = n.fDirectory)
    (hdir : n.fDirectory → S.info e.ulInode = none ∧ n.ulPInode = p) :
    WellFormed ⟨Function.update S.info e.ulInode (some n),
      Function.update S.entry (p, k) (some e)⟩ := by
  obtain ⟨np, hnp, hdp, hatt⟩ := hp
  have hisdir : ∀ {i}, S.IsDir i → IsDir ⟨Function.update S.info e.ulInode (some n),
      Function.update S.entry (p, k) (some e)⟩ i := by
    intro i hi
    apply isDir_update
    · rintro rfl
      obtain ⟨m, hm, hd⟩ := hi
      rw [← hsame m hm]
      exact hd
    · exact fun _ => hi
  have hentry : ∀ {x e1}, S.entry x = some e1 →
      Function.update S.entry (p, k) (some e) x = some e1 := by
    intro x e1 h1
    rw [Function.update_of_ne, h1]
    rintro rfl
    rw [hk.1] at h1
    cases h1
  constructor
  · rw [← h.invalid]
    exact Function.update_of_ne (Ne.symm hvalid) ..
  · obtain ⟨m, hm, hd⟩ := h.root
    exact ⟨m, by rw [← hm]; exact Function.update_of_ne (Ne.symm hroot) .., hd⟩
  · intro p' k' e1 h1
    rcases entry_update h1 with ⟨hx, -⟩ | ⟨-, h1⟩
    · obtain ⟨rfl, rfl⟩ := Prod.mk.inj hx
      exact hisdir ⟨np, hnp, hdp⟩
    · exact hisdir (h.owner h1)
  · intro x e1 h1
    rcases entry_update h1 with ⟨-, he⟩ | ⟨-, h1⟩
    · obtain rfl := Option.some.inj he
      exact ⟨⟨n, Function.update_self ..⟩, hroot⟩
    · obtain ⟨⟨m, hm⟩, hr⟩ := h.target h1
      refine ⟨?_, hr⟩
      by_cases he : e1.ulInode = e.ulInode
      · rw [he]
        exact ⟨n, Function.update_self ..⟩
      · exact ⟨m, by rw [← hm]; exact Function.update_of_ne he ..⟩
  · intro i m hm hi
    by_cases hie : i = e.ulInode
    · subst hie
      obtain rfl : n = m := by simpa using hm
      rw [names_insert hk.1, Set.encard_insert_of_notMem, hcount]
      rintro ⟨e1, h1, -⟩
      rw [hk.1] at h1
      cases h1
    · rw [names_update_of_ne]
      · exact h.count (info_of_update hie hm) hi
      · intro e1 h1
        obtain rfl := Option.some.inj h1
        exact Ne.symm hie
      · rintro ⟨e1, h1, -⟩
        rw [hk.1] at h1
        cases h1
  · intro p' k' e1 m h1 hm hd
    by_cases he : e1.ulInode = e.ulInode
    · rw [he] at hm
      obtain rfl : n = m := by simpa using hm
      obtain ⟨hnew, hpar⟩ := hdir hd
      rcases entry_update h1 with ⟨hx, -⟩ | ⟨-, h1⟩
      · obtain ⟨rfl, rfl⟩ := Prod.mk.inj hx
        exact hpar
      · obtain ⟨⟨m', hm'⟩, -⟩ := h.target h1
        rw [he, hnew] at hm'
        cases hm'
    · rcases entry_update h1 with ⟨-, he'⟩ | ⟨-, h1⟩
      · obtain rfl := Option.some.inj he'
        exact absurd rfl he
      · exact h.parent h1 (info_of_update he hm) hd
  · exact h.unique_update hk
  · intro i m hm hd hi
    by_cases hie : i = e.ulInode
    · subst hie
      obtain rfl : n = m := by simpa using hm
      obtain ⟨hnew, -⟩ := hdir hd
      left
      have hnone : S.names e.ulInode = ∅ := by
        ext x
        simp only [Set.mem_empty_iff_false, iff_false]
        rintro ⟨e1, h1, he⟩
        obtain ⟨⟨m', hm'⟩, -⟩ := h.target h1
        rw [he, hnew] at hm'
        cases hm'
      rw [hnone, Set.encard_empty, zero_add] at hcount
      exact_mod_cast hcount.symm
    · exact h.dir (info_of_update hie hm) hd hi
  · intro i m hm hd hi h0
    by_cases hie : i = e.ulInode
    · subst hie
      obtain rfl : n = m := by simpa using hm
      rw [h0, Nat.cast_zero] at hcount
      simp at hcount
    · have hm' := info_of_update hie hm
      intro k'
      have hx : (i, k') ≠ (p, k) := by
        intro hx
        obtain ⟨rfl, rfl⟩ := Prod.mk.inj hx
        rw [hm'] at hnp
        obtain rfl := Option.some.inj hnp
        exact (hatt.resolve_left hi) ((h.parent_eq_invalid hm' hd hi).2 h0)
      change Function.update S.entry (p, k) (some e) (i, k') = none
      rw [Function.update_of_ne hx]
      exact h.removed hm' hd hi h0 k'
  · intro p' k' e1 h1
    apply Linked.mono (S := S) hentry hisdir
    rcases entry_update h1 with ⟨hx, -⟩ | ⟨-, h1⟩
    · obtain ⟨rfl, rfl⟩ := Prod.mk.inj hx
      exact h.linked_of_dir hnp hdp hatt
    · exact h.linked h1

/-- An inode that is not in use has no names. -/
lemma names_of_free (h : S.WellFormed) {i : ℕ} (hi : S.info i = none) : S.names i = ∅ := by
  ext x
  simp only [Set.mem_empty_iff_false, iff_false]
  rintro ⟨e, he, rfl⟩
  obtain ⟨⟨m, hm⟩, -⟩ := h.target he
  rw [hi] at hm
  cases hm

lemma create (h : S.WellFormed) {p k : ℕ} {e : Dirent} {n : Info} (hp : S.Attached p)
    (hk : S.Vacant p k e.acName) (hnew : S.info e.ulInode = none)
    (hvalid : e.ulInode ≠ INODE_INVALID) (hl : n.uNLink = 1) (hpar : n.ulPInode = p) :
    WellFormed ⟨Function.update S.info e.ulInode (some n),
      Function.update S.entry (p, k) (some e)⟩ := by
  apply h.addName hp hk hvalid
  · intro hr
    obtain ⟨m, hm, -⟩ := h.root
    rw [← hr, hnew] at hm
    cases hm
  · rw [h.names_of_free hnew, hl]
    simp
  · intro m hm
    rw [hnew] at hm
    cases hm
  · exact fun _ => ⟨hnew, hpar⟩

lemma ne_root_of_file (h : S.WellFormed) {i : ℕ} {n : Info} (hn : S.info i = some n)
    (hd : ¬ n.fDirectory) : i ≠ INODE_ROOTDIR := by
  rintro rfl
  obtain ⟨m, hm, hdm⟩ := h.root
  rw [hn] at hm
  obtain rfl := Option.some.inj hm
  exact hd hdm

lemma link (h : S.WellFormed) {p k : ℕ} {e : Dirent} {n : Info} (hp : S.Attached p)
    (hk : S.Vacant p k e.acName) (hn : S.info e.ulInode = some n) (hd : ¬ n.fDirectory) :
    WellFormed ⟨Function.update S.info e.ulInode (some { n with uNLink := n.uNLink + 1 }),
      Function.update S.entry (p, k) (some e)⟩ := by
  have hroot := h.ne_root_of_file hn hd
  apply h.addName hp hk
  · intro hi
    rw [hi, h.invalid] at hn
    cases hn
  · exact hroot
  · rw [h.count hn hroot]
    push_cast
    rfl
  · intro m hm
    rw [hn] at hm
    rw [← Option.some.inj hm]
  · exact fun hd' => absurd hd' hd

/-! ### Names that go -/

/-- A chain of entries stays, down to every directory with an entry, when the entries of an empty
directory or of a file go. -/
lemma linked_of_remove {S' : Shape} {i : ℕ} (hempty : S.IsEmpty i)
    (hentry : ∀ {x e}, S.entry x = some e → e.ulInode ≠ i → S'.entry x = some e)
    (hdir : ∀ {j}, j ≠ i → S.IsDir j → S'.IsDir j) {j : ℕ} (hj : S.Linked j) (hne : j ≠ i) :
    S'.Linked j := by
  induction hj with
  | root => exact .root
  | child he _ hd ih =>
    refine .child (hentry he hne) (ih ?_) (hdir hne hd)
    rintro rfl
    rw [hempty] at he
    cases he

/-- Only directories have entries. -/
lemma isEmpty_of_file (h : S.WellFormed) {i : ℕ} {n : Info} (hn : S.info i = some n)
    (hd : ¬ n.fDirectory) : S.IsEmpty i := by
  intro k
  by_contra he
  obtain ⟨e, he⟩ := Option.ne_none_iff_exists'.1 he
  exact hd (h.isDir_info (h.owner he) hn)

lemma unlink (h : S.WellFormed) {p k : ℕ} {e : Dirent} {n : Info} {v : Option Info}
    (he : S.entry (p, k) = some e) (hn : S.info e.ulInode = some n)
    (hempty : n.fDirectory → S.IsEmpty e.ulInode) (hv : Dropped n v) :
    WellFormed ⟨Function.update S.info e.ulInode v, Function.update S.entry (p, k) none⟩ := by
  have hroot := (h.target he).2
  have hnone : S.IsEmpty e.ulInode := by
    by_cases hd : n.fDirectory
    · exact hempty hd
    · exact h.isEmpty_of_file hn hd
  have hcount := h.count hn hroot
  have hmem : (p, k) ∈ S.names e.ulInode := ⟨e, he, rfl⟩
  have hpos : n.uNLink ≠ 0 := by
    intro h0
    rw [h0, Nat.cast_zero, Set.encard_eq_zero] at hcount
    rw [hcount] at hmem
    exact hmem
  have hpe : ∀ {p' k' e1}, S.entry (p', k') = some e1 → p' ≠ e.ulInode := by
    rintro p' k' e1 h1 rfl
    rw [hnone] at h1
    cases h1
  -- what is left of the inode keeps its type
  have hkept : ∀ m, v = some m → m.fDirectory = n.fDirectory := by
    intro m hm
    cases hv with
    | dec => rw [← Option.some.inj hm]
    | orphan => rw [← Option.some.inj hm]
    | delete => cases hm
  have hisdir : ∀ {i}, i ≠ e.ulInode → S.IsDir i → IsDir ⟨Function.update S.info e.ulInode v,
      Function.update S.entry (p, k) none⟩ i := by
    rintro i hi ⟨m, hm, hd⟩
    exact ⟨m, by rw [← hm]; exact Function.update_of_ne hi .., hd⟩
  have hleft : ∀ {x e1}, Function.update S.entry (p, k) none x = some e1 →
      x ≠ (p, k) ∧ S.entry x = some e1 := by
    intro x e1 h1
    rcases entry_update h1 with ⟨-, hx⟩ | h1
    · cases hx
    · exact h1
  -- an inode without names left is not named by any other entry
  have hlast : ∀ {x e1}, n.uNLink ≤ 1 → Function.update S.entry (p, k) none x = some e1 →
      e1.ulInode ≠ e.ulInode := by
    intro x e1 hle h1 hee
    obtain ⟨hx, h1⟩ := hleft h1
    have h1' : n.uNLink = 1 := by omega
    rw [h1', Nat.cast_one, Set.encard_eq_one] at hcount
    obtain ⟨y, hy⟩ := hcount
    have hx' : x ∈ S.names e.ulInode := ⟨e1, h1, hee⟩
    rw [hy, Set.mem_singleton_iff] at hx' hmem
    exact hx (hx'.trans hmem.symm)
  have hdirlink : n.fDirectory → n.uNLink = 1 := by
    intro hd
    exact (h.dir hn hd hroot).resolve_right fun h0 => hpos h0.1
  constructor
  · rw [← h.invalid]
    apply Function.update_of_ne
    intro hi
    rw [← hi, h.invalid] at hn
    cases hn
  · obtain ⟨m, hm, hd⟩ := h.root
    exact ⟨m, by rw [← hm]; exact Function.update_of_ne (Ne.symm hroot) .., hd⟩
  · intro p' k' e1 h1
    obtain ⟨-, h1⟩ := hleft h1
    exact hisdir (hpe h1) (h.owner h1)
  · intro x e1 h1
    obtain ⟨⟨m, hm⟩, hr⟩ := h.target (hleft h1).2
    refine ⟨?_, hr⟩
    by_cases hee : e1.ulInode = e.ulInode
    · cases hv with
      | dec => rw [hee]; exact ⟨_, Function.update_self ..⟩
      | orphan hle => exact absurd hee (hlast hle h1)
      | delete hle => exact absurd hee (hlast hle h1)
    · exact ⟨m, by rw [← hm]; exact Function.update_of_ne hee ..⟩
  · intro i m hm hi
    rw [names_remove]
    by_cases hie : i = e.ulInode
    · subst hie
      have hm' : v = some m := by simpa using hm
      have hsub := Set.encard_sdiff_singleton_add_one hmem
      rw [hcount] at hsub
      cases hv with
      | dec hgt =>
        obtain rfl := Option.some.inj hm'
        have hcast : ((n.uNLink - 1 : ℕ) : ℕ∞) + 1 = n.uNLink := by
          exact_mod_cast (by omega : n.uNLink - 1 + 1 = n.uNLink)
        rw [← hcast] at hsub
        exact ENat.add_left_injective_of_ne_top (by simp) hsub
      | orphan hle =>
        obtain rfl := Option.some.inj hm'
        have h1 : n.uNLink = 1 := by omega
        rw [h1, Nat.cast_one] at hsub
        have hz : ((0 : ℕ) : ℕ∞) + 1 = 1 := by simp
        rw [← hz] at hsub
        exact ENat.add_left_injective_of_ne_top (by simp) hsub
      | delete => cases hm'
    · have hm' := info_of_update hie hm
      rw [Set.sdiff_singleton_eq_self]
      · exact h.count hm' hi
      · rintro ⟨e1, h1, he1⟩
        rw [he] at h1
        obtain rfl := Option.some.inj h1
        exact hie he1.symm
  · intro p' k' e1 m h1 hm hd
    by_cases hee : e1.ulInode = e.ulInode
    · rw [hee] at hm
      have hm' : v = some m := by simpa using hm
      have hnd : n.fDirectory := by rw [← hkept m hm']; exact hd
      exact absurd hee (hlast (by rw [hdirlink hnd]) h1)
    · exact h.parent (hleft h1).2 (info_of_update hee hm) hd
  · intro p' j j' e1 e2 h1 h2 hname
    exact h.unique (hleft h1).2 (hleft h2).2 hname
  · intro i m hm hd hi
    by_cases hie : i = e.ulInode
    · subst hie
      have hm' : v = some m := by simpa using hm
      have hnd : n.fDirectory := by rw [← hkept m hm']; exact hd
      cases hv with
      | dec hgt => rw [hdirlink hnd] at hgt; omega
      | orphan =>
        obtain rfl := Option.some.inj hm'
        exact Or.inr ⟨rfl, rfl⟩
      | delete => cases hm'
    · exact h.dir (info_of_update hie hm) hd hi
  · intro i m hm hd hi h0 k'
    change Function.update S.entry (p, k) none (i, k') = none
    by_contra hsome
    obtain ⟨e1, h1⟩ := Option.ne_none_iff_exists'.1 hsome
    obtain ⟨-, h1⟩ := hleft h1
    have hie := hpe h1
    have := h.removed (info_of_update hie hm) hd hi h0 k'
    rw [h1] at this
    cases this
  · intro p' k' e1 h1
    obtain ⟨-, h1⟩ := hleft h1
    refine linked_of_remove hnone ?_ hisdir (h.linked h1) (hpe h1)
    intro x e2 h2 hne
    change Function.update S.entry (p, k) none x = some e2
    rw [Function.update_of_ne, h2]
    rintro rfl
    rw [he] at h2
    exact hne (congrArg Dirent.ulInode (Option.some.inj h2)).symm

/-! ### Names that move -/

/-- A chain that avoids a directory stays when that directory moves. -/
lemma linked_of_avoids {S' : Shape} {i : ℕ}
    (hentry : ∀ {x e}, S.entry x = some e → e.ulInode ≠ i → S'.entry x = some e)
    (hdir : ∀ {j}, S.IsDir j → S'.IsDir j) {j : ℕ} (hj : S.Avoids i j) : S'.Linked j := by
  induction hj with
  | root => exact .root
  | child he _ hd hne ih => exact .child (hentry he (Ne.symm hne)) ih (hdir hd)

lemma move (h : S.WellFormed) {p j q k : ℕ} {e e' : Dirent} {n : Info}
    (he : S.entry (p, j) = some e) (hn : S.info e.ulInode = some n)
    (hino : e'.ulInode = e.ulInode) (hq : S.Attached q) (hk : S.Vacant q k e'.acName)
    (hcyc : n.fDirectory → S.Avoids e.ulInode q) :
    WellFormed ⟨Function.update S.info e.ulInode (some { n with ulPInode := q }),
      Function.update (Function.update S.entry (q, k) (some e')) (p, j) none⟩ := by
  obtain ⟨nq, hnq, hdq, hatt⟩ := hq
  have hroot := (h.target he).2
  have hx : (p, j) ≠ (q, k) := by
    intro hx
    rw [hx, hk.1] at he
    cases he
  have hmem : (p, j) ∈ S.names e.ulInode := ⟨e, he, rfl⟩
  have hpos : n.uNLink ≠ 0 := by
    intro h0
    have hcount := h.count hn hroot
    rw [h0, Nat.cast_zero, Set.encard_eq_zero] at hcount
    rw [hcount] at hmem
    exact hmem
  set S1 : Shape := ⟨S.info, Function.update S.entry (q, k) (some e')⟩ with hS1
  have hleft : ∀ {x e1}, Function.update S1.entry (p, j) none x = some e1 →
      x ≠ (p, j) ∧ (x = (q, k) ∧ e1 = e' ∨ x ≠ (q, k) ∧ S.entry x = some e1) := by
    intro x e1 h1
    rcases entry_update h1 with ⟨-, hv⟩ | ⟨hne, h1⟩
    · cases hv
    · refine ⟨hne, ?_⟩
      rcases entry_update h1 with ⟨hx, hv⟩ | h1
      · exact Or.inl ⟨hx, (Option.some.inj hv).symm⟩
      · exact Or.inr h1
  have hstay : ∀ {x e1}, S.entry x = some e1 → x ≠ (p, j) →
      Function.update S1.entry (p, j) none x = some e1 := by
    intro x e1 h1 hne
    rw [Function.update_of_ne hne]
    change Function.update S.entry (q, k) (some e') x = some e1
    rw [Function.update_of_ne, h1]
    rintro rfl
    rw [hk.1] at h1
    cases h1
  have hisdir : ∀ {i}, S.IsDir i → IsDir ⟨Function.update S.info e.ulInode
      (some { n with ulPInode := q }), Function.update S1.entry (p, j) none⟩ i := by
    intro i hi
    apply isDir_update
    · rintro rfl
      have hdn : n.fDirectory := h.isDir_info hi hn
      exact hdn
    · exact fun _ => hi
  -- the one entry of a directory is the one that moves
  have hsole : n.fDirectory → ∀ {x e1}, S.entry x = some e1 → e1.ulInode = e.ulInode →
      x = (p, j) := by
    intro hd x e1 h1 hee
    obtain ⟨k', e2, -, -, hnames⟩ := h.name_of_dir hn hd hroot hpos
    have hx' : x ∈ S.names e.ulInode := ⟨e1, h1, hee⟩
    rw [hnames, Set.mem_singleton_iff] at hx' hmem
    rw [hx', hmem]
  constructor
  · rw [← h.invalid]
    apply Function.update_of_ne
    intro hi
    rw [← hi, h.invalid] at hn
    cases hn
  · obtain ⟨m, hm, hd⟩ := h.root
    exact ⟨m, by rw [← hm]; exact Function.update_of_ne (Ne.symm hroot) .., hd⟩
  · intro p' k' e1 h1
    rcases hleft h1 with ⟨-, ⟨hx', -⟩ | ⟨-, h1⟩⟩
    · obtain ⟨rfl, rfl⟩ := Prod.mk.inj hx'
      exact hisdir ⟨nq, hnq, hdq⟩
    · exact hisdir (h.owner h1)
  · intro x e1 h1
    by_cases hee : e1.ulInode = e.ulInode
    · rw [hee]
      exact ⟨⟨_, Function.update_self ..⟩, hroot⟩
    · rcases hleft h1 with ⟨-, ⟨-, rfl⟩ | ⟨-, h1⟩⟩
      · exact absurd hino hee
      · obtain ⟨⟨m, hm⟩, hr⟩ := h.target h1
        exact ⟨⟨m, by rw [← hm]; exact Function.update_of_ne hee ..⟩, hr⟩
  · intro i m hm hi
    have hnames1 : names ⟨Function.update S.info e.ulInode (some { n with ulPInode := q }),
        Function.update S1.entry (p, j) none⟩ i = S1.names i \ {(p, j)} := names_remove i
    rw [hnames1]
    by_cases hie : i = e.ulInode
    · subst hie
      obtain rfl : { n with ulPInode := q } = m := by simpa using hm
      have hins : S1.names e.ulInode = insert (q, k) (S.names e.ulInode) := by
        rw [← hino]
        exact names_insert hk.1
      have hnot : (q, k) ∉ S.names e.ulInode := by
        rintro ⟨e1, h1, -⟩
        rw [hk.1] at h1
        cases h1
      have hsub := Set.encard_sdiff_singleton_add_one (s := insert (q, k) (S.names e.ulInode))
        (a := (p, j)) (Set.mem_insert_of_mem _ hmem)
      rw [Set.encard_insert_of_notMem hnot] at hsub
      have hcount := h.count hn hroot
      rw [hins, ENat.add_left_injective_of_ne_top (by simp) hsub]
      exact hcount
    · have hsame : S1.names i = S.names i := by
        apply names_update_of_ne
        · intro e1 h1
          obtain rfl := Option.some.inj h1
          rw [hino]
          exact Ne.symm hie
        · rintro ⟨e1, h1, -⟩
          rw [hk.1] at h1
          cases h1
      rw [hsame, Set.sdiff_singleton_eq_self]
      · exact h.count (info_of_update hie hm) hi
      · rintro ⟨e1, h1, he1⟩
        rw [he] at h1
        obtain rfl := Option.some.inj h1
        exact hie he1.symm
  · intro p' k' e1 m h1 hm hd
    by_cases hee : e1.ulInode = e.ulInode
    · rw [hee] at hm
      obtain rfl : { n with ulPInode := q } = m := by simpa using hm
      obtain ⟨hne, ⟨hx', -⟩ | ⟨-, h1⟩⟩ := hleft h1
      · obtain ⟨rfl, rfl⟩ := Prod.mk.inj hx'
        rfl
      · exact absurd (hsole hd h1 hee) hne
    · rcases hleft h1 with ⟨-, ⟨-, rfl⟩ | ⟨-, h1⟩⟩
      · exact absurd hino hee
      · exact h.parent h1 (info_of_update hee hm) hd
  · intro p' i i' e1 e2 h1 h2 hname
    rcases entry_update h1 with ⟨-, hv⟩ | ⟨-, h1⟩
    · cases hv
    · rcases entry_update h2 with ⟨-, hv⟩ | ⟨-, h2⟩
      · cases hv
      · exact h.unique_update hk h1 h2 hname
  · intro i m hm hd hi
    by_cases hie : i = e.ulInode
    · subst hie
      obtain rfl : { n with ulPInode := q } = m := by simpa using hm
      exact Or.inl ((h.dir hn hd hi).resolve_right fun h0 => hpos h0.1)
    · exact h.dir (info_of_update hie hm) hd hi
  · intro i m hm hd hi h0 k'
    have hie : i ≠ e.ulInode := by
      rintro rfl
      obtain rfl : { n with ulPInode := q } = m := by simpa using hm
      exact hpos h0
    have hm' := info_of_update hie hm
    change Function.update S1.entry (p, j) none (i, k') = none
    by_contra hsome
    obtain ⟨e1, h1⟩ := Option.ne_none_iff_exists'.1 hsome
    rcases hleft h1 with ⟨-, ⟨hx', -⟩ | ⟨-, h1⟩⟩
    · obtain ⟨rfl, rfl⟩ := Prod.mk.inj hx'
      rw [hm'] at hnq
      obtain rfl := Option.some.inj hnq
      exact (hatt.resolve_left hi) ((h.parent_eq_invalid hm' hd hi).2 h0)
    · have := h.removed hm' hd hi h0 k'
      rw [h1] at this
      cases this
  · -- the chains go through the new place of the directory
    set S' : Shape := ⟨Function.update S.info e.ulInode (some { n with ulPInode := q }),
      Function.update S1.entry (p, j) none⟩ with hS'
    have hkeep : ∀ {x e1}, S.entry x = some e1 → e1.ulInode ≠ e.ulInode →
        S'.entry x = some e1 := by
      intro x e1 h1 hne
      apply hstay h1
      rintro rfl
      rw [he] at h1
      exact hne (congrArg Dirent.ulInode (Option.some.inj h1)).symm
    have hnew : S'.entry (q, k) = some e' := by
      change Function.update S1.entry (p, j) none (q, k) = some e'
      rw [Function.update_of_ne (Ne.symm hx)]
      exact Function.update_self ..
    have hlinked : ∀ {i}, S.Linked i → S'.Linked i := by
      intro i hi
      induction hi with
      | root => exact .root
      | @child p' k' e1 h1 hp' hd ih =>
        by_cases hee : e1.ulInode = e.ulInode
        · have hdn : n.fDirectory := by
            rw [hee] at hd
            exact h.isDir_info hd hn
          have hq' : S'.Linked q := linked_of_avoids hkeep hisdir (hcyc hdn)
          rw [hee, ← hino]
          apply Linked.child hnew hq'
          rw [hino, ← hee]
          exact hisdir hd
        · exact .child (hkeep h1 hee) ih (hisdir hd)
    intro p' k' e1 h1
    apply hlinked
    rcases hleft h1 with ⟨-, ⟨hx', -⟩ | ⟨-, h1⟩⟩
    · obtain ⟨rfl, rfl⟩ := Prod.mk.inj hx'
      exact h.linked_of_dir hnq hdq hatt
    · exact h.linked h1

/-- A chain that avoids an inode stays when the names of an empty directory or of a file go. -/
lemma avoids_of_remove {S' : Shape} {i o : ℕ} (hempty : S.IsEmpty o)
    (hentry : ∀ {x e}, S.entry x = some e → e.ulInode ≠ o → S'.entry x = some e)
    (hdir : ∀ {j}, j ≠ o → S.IsDir j → S'.IsDir j) {j : ℕ} (hj : S.Avoids i j) (hne : j ≠ o) :
    S'.Avoids i j := by
  induction hj with
  | root h => exact .root h
  | child he _ hd hne' ih =>
    refine .child (hentry he hne) (ih ?_) (hdir hne hd) hne'
    rintro rfl
    rw [hempty] at he
    cases he

/-- A directory with an entry has not been removed. -/
lemma attached_of_entry (h : S.WellFormed) {p k : ℕ} {e : Dirent} (he : S.entry (p, k) = some e) :
    S.Attached p := by
  obtain ⟨n, hn, hd⟩ := h.owner he
  refine ⟨n, hn, hd, ?_⟩
  by_cases hr : p = INODE_ROOTDIR
  · exact Or.inl hr
  · right
    intro hp
    have := h.removed hn hd hr ((h.parent_eq_invalid hn hd hr).1 hp) k
    rw [he] at this
    cases this

/-- The name in the way is removed first. -/
lemma replace (h : S.WellFormed) {p j q k : ℕ} {e e' d : Dirent} {n m : Info} {v : Option Info}
    (he : S.entry (p, j) = some e) (hn : S.info e.ulInode = some n)
    (hino : e'.ulInode = e.ulInode) (hd : S.entry (q, k) = some d)
    (hname : d.acName = e'.acName) (hne : d.ulInode ≠ e.ulInode)
    (hm : S.info d.ulInode = some m) (hempty : m.fDirectory → S.IsEmpty d.ulInode)
    (hv : Dropped m v) (hcyc : n.fDirectory → S.Avoids e.ulInode q) :
    WellFormed ⟨Function.update (Function.update S.info e.ulInode (some { n with ulPInode := q }))
        d.ulInode v,
      Function.update (Function.update S.entry (q, k) (some e')) (p, j) none⟩ := by
  have h1 := h.unlink hd hm hempty hv
  have hx : (p, j) ≠ (q, k) := by
    intro hx
    rw [hx, hd] at he
    exact hne (congrArg Dirent.ulInode (Option.some.inj he))
  have hnone : S.IsEmpty d.ulInode := by
    by_cases hdir : m.fDirectory
    · exact hempty hdir
    · exact h.isEmpty_of_file hm hdir
  have hq : q ≠ d.ulInode := by
    rintro rfl
    rw [hnone] at hd
    cases hd
  have he1 : Function.update S.entry (q, k) none (p, j) = some e := by
    rw [Function.update_of_ne hx, he]
  have hn1 : Function.update S.info d.ulInode v e.ulInode = some n := by
    rw [Function.update_of_ne (Ne.symm hne), hn]
  have hmove := h1.move he1 hn1 hino (q := q) (k := k) ?_ ?_ ?_
  · have hinfo : Function.update (Function.update S.info d.ulInode v) e.ulInode
        (some { n with ulPInode := q }) =
        Function.update (Function.update S.info e.ulInode (some { n with ulPInode := q }))
          d.ulInode v := Function.update_comm hne ..
    have hentry : Function.update (Function.update S.entry (q, k) none) (q, k) (some e') =
        Function.update S.entry (q, k) (some e') := Function.update_idem ..
    dsimp only at hmove
    rwa [hinfo, hentry] at hmove
  · obtain ⟨nq, hnq, hdq, hatt⟩ := h.attached_of_entry hd
    exact ⟨nq, by rw [← hnq]; exact Function.update_of_ne hq .., hdq, hatt⟩
  · refine ⟨Function.update_self .., ?_⟩
    intro i e1 hi hi'
    rcases entry_update hi with ⟨-, hv'⟩ | ⟨hne', hi⟩
    · cases hv'
    · exact hne' (by rw [h.unique hi hd (hi'.trans hname.symm)])
  · intro hdn
    refine avoids_of_remove hnone ?_ ?_ (hcyc hdn) hq
    · intro x e1 hx1 hne1
      change Function.update S.entry (q, k) none x = some e1
      rw [Function.update_of_ne, hx1]
      rintro rfl
      rw [hd] at hx1
      exact hne1 (congrArg Dirent.ulInode (Option.some.inj hx1)).symm
    · rintro i hi ⟨mi, hmi, hdi⟩
      exact ⟨mi, by rw [← hmi]; exact Function.update_of_ne hi .., hdi⟩

/-- An inode without names is deleted. -/
lemma freeOrphan (h : S.WellFormed) {i : ℕ} {n : Info} (hn : S.info i = some n)
    (hl : n.uNLink = 0) (hroot : i ≠ INODE_ROOTDIR) :
    WellFormed ⟨Function.update S.info i none, S.entry⟩ := by
  have hnames : S.names i = ∅ := by
    have hcount := h.count hn hroot
    rwa [hl, Nat.cast_zero, Set.encard_eq_zero] at hcount
  have htarget : ∀ {x e}, S.entry x = some e → e.ulInode ≠ i := by
    intro x e he hi
    have hx : x ∈ S.names i := ⟨e, he, hi⟩
    rw [hnames] at hx
    exact hx
  have hempty : S.IsEmpty i := by
    by_cases hd : n.fDirectory
    · exact h.removed hn hd hroot hl
    · exact h.isEmpty_of_file hn hd
  have howner : ∀ {p k e}, S.entry (p, k) = some e → p ≠ i := by
    rintro p k e he rfl
    rw [hempty] at he
    cases he
  have hisdir : ∀ {j}, j ≠ i → S.IsDir j → IsDir ⟨Function.update S.info i none, S.entry⟩ j := by
    rintro j hj ⟨m, hm, hd⟩
    exact ⟨m, by rw [← hm]; exact Function.update_of_ne hj .., hd⟩
  have hinfo : ∀ {j m}, Function.update S.info i none j = some m → S.info j = some m := by
    intro j m hm
    by_cases hj : j = i
    · rw [hj, Function.update_self] at hm
      cases hm
    · exact info_of_update hj hm
  constructor
  · rw [← h.invalid]
    apply Function.update_of_ne
    rintro rfl
    rw [h.invalid] at hn
    cases hn
  · obtain ⟨m, hm, hd⟩ := h.root
    exact ⟨m, by rw [← hm]; exact Function.update_of_ne (Ne.symm hroot) .., hd⟩
  · exact fun he => hisdir (howner he) (h.owner he)
  · intro x e he
    obtain ⟨⟨m, hm⟩, hr⟩ := h.target he
    exact ⟨⟨m, by rw [← hm]; exact Function.update_of_ne (htarget he) ..⟩, hr⟩
  · exact fun hm hi => h.count (hinfo hm) hi
  · exact fun he hm hd => h.parent he (hinfo hm) hd
  · exact h.unique
  · exact fun hm hd hi => h.dir (hinfo hm) hd hi
  · exact fun hm hd hi h0 => h.removed (hinfo hm) hd hi h0
  · intro p k e he
    have hkeep : ∀ {x e1}, S.entry x = some e1 → e1.ulInode ≠ i →
        (⟨Function.update S.info i none, S.entry⟩ : Shape).entry x = some e1 := fun h1 _ => h1
    exact linked_of_remove hempty hkeep hisdir (h.linked he) (howner he)

/-- **Every operation keeps the invariant.** -/
theorem step (h : S.WellFormed) {S' : Shape} (hs : Step S S') : S'.WellFormed := by
  cases hs with
  | create hp hk _ hnew hvalid hl hpar => exact h.create hp hk hnew hvalid hl hpar
  | link hp hk _ hn hd => exact h.link hp hk hn hd
  | unlink he hn hempty hv => exact h.unlink he hn hempty hv
  | move he hn hino hq hk _ hcyc => exact h.move he hn hino hq hk hcyc
  | replace he hn hino hd hname hne hm hempty hv hcyc =>
    exact h.replace he hn hino hd hname hne hm hempty hv hcyc
  | freeOrphan hn hl hroot => exact h.freeOrphan hn hl hroot

end WellFormed

end Shape

end RelianceEdge
