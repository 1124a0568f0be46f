import RelianceEdge.Orphan.NameStep
import RelianceEdge.Space.Index
import RelianceEdge.Space.Stream

set_option relaxedAutoImplicit false
set_option autoImplicit false
set_option linter.unusedSectionVars false

/-!
# Directories through calls

Each directory of a volume in use is a finite map from names to inode numbers, at the places where
`dir.c` looks for it: a lookup finds exactly the names in the map, the free place it reports is
free, the size says whether the map is empty, and a name stays where it is while it is in use.

## Main definitions

* `NameVolume.redCoreLookup` — the inode of a name.
* `DirData.IsMap` — a directory is a finite map.

## Main results

* `DirData.Holds.isMap` — a directory that holds its entries is a finite map.
* `redCoreLookup_eq` — a lookup reads the map.
* `directory_isMap` — every directory of every reachable state is one, before and after a
  transaction point, and no call moves a name that stays.
-/

namespace RelianceEdge

variable [RedConf]

open RedConf

/-- `RedCoreLookup()`. -/
def NameVolume.redCoreLookup (s : FS) (ulPInode : ℕ) (pszName : CString) : NameOp ℕ := do
  let (_, d) ← redInodeMountDir ulPInode
  let (found, _) ← .ofExcept (d.redDirEntryLookup s pszName)
  match found with
  | some de => pure de.ulInode
  | none => .fail .ENOENT

namespace DirData

/-- **A directory is a finite map** from names to inode numbers, with `slot` its places. -/
structure IsMap (s : FS) (d : DirData) (slot : ℕ → Option Dirent) (M : List UInt8 → Option ℕ) :
    Prop where
  /-- A name that is in the map is found, at its place. -/
  found : ∀ psz i, redNameLen psz ≠ 0 → redNameLen psz ≤ nameMax → M psz.name = some i →
    ∃ e k, d.redDirEntryLookup s psz = .ok (some e, k) ∧ slot k = some e ∧ e.acName = psz.name ∧
      e.ulInode = i
  /-- Another name is not found. The place reported is the first free one, if there is any. -/
  missing : ∀ psz, redNameLen psz ≠ 0 → redNameLen psz ≤ nameMax → M psz.name = none →
    ∃ k, d.redDirEntryLookup s psz = .ok (none, k) ∧ (∀ m < k, m < s.direntsMax → slot m ≠ none) ∧
      (k = DIR_INDEX_INVALID ∨ k < s.direntsMax ∧ slot k = none)
  /-- A name stands at one place. -/
  distinct : ∀ j k a b, slot j = some a → slot k = some b → a.acName = b.acName → j = k
  /-- The size is zero exactly when the map is empty. -/
  empty : d.ullSize = 0 ↔ ∀ name, M name = none
  /-- The size ends with an entry in use, and there are none behind it. -/
  last : d.ullSize ≠ 0 → ∃ n, n < s.direntsMax ∧ d.ullSize = s.direntsSize (n + 1) ∧
    slot n ≠ none ∧ ∀ k, n < k → slot k = none

variable {s : FS} {d : DirData} {l : List (Option Dirent)} {M : List UInt8 → Option ℕ}

/-- When no free place is reported, the directory is full. -/
lemma Holds.lookup_full (hver : redDiskLayoutIsSupported s.core.ulVersion) (h : Holds s d l)
    {pszName : CString} (hl : redDirEntryLookup s d pszName = .ok (none, DIR_INDEX_INVALID)) :
    ∀ m < s.direntsMax, Slots.at l m ≠ none := by
  have hle := h.length_le
  have hinv := direntsMax_le (s := s) hver
  rw [h.lookup_eq hver] at hl
  split_ifs at hl
  have hl' := Except.ok.inj hl
  rcases hr : Slots.search (hasName pszName) DIR_INDEX_INVALID l 0 DIR_INDEX_INVALID with
    ⟨_ | ⟨j, e⟩, f⟩
  · rw [hr] at hl'
    simp only [lookupEnd, Option.elim_none, Prod.mk.injEq, true_and] at hl'
    obtain ⟨-, hfree⟩ := Slots.search_none hr (by omega)
    rcases hfree with ⟨hne, -⟩ | ⟨-, i, hi, rfl, -, -⟩ | ⟨-, rfl, hall⟩
    · exact absurd rfl hne
    · rw [Nat.zero_add, if_neg (by omega)] at hl'
      omega
    · split_ifs at hl' with hfull
      · omega
      · intro m hm
        have hlen : m < l.length := by
          have := fun hlt => hfull ⟨rfl, hlt⟩
          omega
        exact Option.isSome_iff_ne_none.1 (hall m hlen)
  · rw [hr] at hl'
    simp [lookupEnd] at hl'

/-- **A directory that holds its entries is a finite map.** -/
theorem Holds.isMap (hver : redDiskLayoutIsSupported s.core.ulVersion) (h : Holds s d l)
    (hM : Keyed.Maps (fun _ e => e.acName) Dirent.ulInode (Slots.at l) M)
    (hd : Keyed.Distinct (fun _ e => e.acName) (Slots.at l)) : IsMap s d (Slots.at l) M where
  found psz i h0 hmax hi := by
    obtain ⟨k, e, hk, hname, rfl⟩ := (hM _ _).1 hi
    have hok := h.lookup_eq hver psz
    rw [if_neg h0, if_neg (by omega)] at hok
    rcases hr : lookupEnd l.length s.direntsMax
      (Slots.search (hasName psz) DIR_INDEX_INVALID l 0 DIR_INDEX_INVALID) with ⟨_ | e', k'⟩
    · rw [hr] at hok
      exact absurd (Dirent.matches_iff.2 hname)
        ((h.lookup_free hver hok).1 e (Slots.mem_iff.2 ⟨k, hk⟩))
    · rw [hr] at hok
      obtain ⟨hk', hmatch⟩ := h.lookup_found hver hok
      have hname' := Dirent.matches_iff.1 hmatch
      have heq : k' = k := hd k' k e' e hk' hk (hname'.trans hname.symm)
      subst heq
      obtain rfl : e' = e := Option.some.inj (hk'.symm.trans hk)
      exact ⟨e', k', hok, hk', hname', rfl⟩
  missing psz h0 hmax hnone := by
    have hnot := hM.eq_none_iff.1 hnone
    have hok := h.lookup_eq hver psz
    rw [if_neg h0, if_neg (by omega)] at hok
    rcases hr : lookupEnd l.length s.direntsMax
      (Slots.search (hasName psz) DIR_INDEX_INVALID l 0 DIR_INDEX_INVALID) with ⟨_ | e, k⟩
    · rw [hr] at hok
      refine ⟨k, hok, ?_⟩
      by_cases hk : k = DIR_INDEX_INVALID
      · subst hk
        exact ⟨fun m _ hm => h.lookup_full hver hok m hm, .inl rfl⟩
      · obtain ⟨-, hlt, hat, hfirst⟩ := (h.lookup_free hver hok).2 hk
        exact ⟨fun m hm _ => Option.isSome_iff_ne_none.1 (hfirst m hm), .inr ⟨hlt, hat⟩⟩
    · rw [hr] at hok
      obtain ⟨hk, hmatch⟩ := h.lookup_found hver hok
      exact absurd (Dirent.matches_iff.1 hmatch) (hnot k e hk)
  distinct j k a b ha hb hname := hd j k a b ha hb hname
  empty := by
    rw [h.size, FS.direntsSize]
    have hpos := FS.direntSize_pos
    have hnil := h.trimmed.eq_nil_iff
    constructor
    · intro hsize name
      have hl : l = [] := by
        split_ifs at hsize with h0
        · exact List.length_eq_zero_iff.1 h0
        · omega
      rw [hM.eq_none_iff]
      intro k a ha
      rw [hnil.1 hl k] at ha
      cases ha
    · intro hnone
      have hl : l = [] := by
        rw [hnil]
        intro k
        rcases hk : Slots.at l k with _ | a
        · rfl
        · have := hM.eq_some hk
          rw [hnone] at this
          cases this
      rw [hl, List.length_nil, if_pos rfl]
  last hsize := by
    rw [h.size] at hsize
    have hne : l.length ≠ 0 := fun h0 => hsize (by rw [h0, FS.direntsSize, if_pos rfl])
    have hlen : l.length - 1 + 1 = l.length := by omega
    refine ⟨l.length - 1, by have := h.length_le; omega, by rw [hlen, h.size], ?_,
      fun k hk => Slots.at_of_length_le (by omega)⟩
    rcases (Slots.trimmed_iff.1 h.trimmed) with hnil | hsome
    · exact absurd (congrArg List.length hnil) hne
    · exact Option.isSome_iff_ne_none.1 hsome

end DirData

namespace Space

variable {s : FS} {sp : Space} {p : ℕ} {ino : FileNode} {d : DirData}

/-- **A directory of a sound volume is a finite map.** -/
theorem Inv.isMap (hver : redDiskLayoutIsSupported s.core.ulVersion) (h : Inv s sp)
    (hp : sp.node p = some ino) (hd : ino.data = .dir d) :
    d.IsMap s (fun k => (sp.shape s).entry (p, k)) fun name => sp.names s (p, name) := by
  have hslots (k : ℕ) : (sp.shape s).entry (p, k) = Slots.at (d.slots s) k := shape_entry hp hd
  rw [show (fun k => (sp.shape s).entry (p, k)) = Slots.at (d.slots s) from funext hslots]
  refine (h.sound.holds hp hd).isMap hver (fun name i => ?_) fun j k a b ha hb hname => ?_
  · rw [names_maps h.shape (p, name) i]
    constructor
    · rintro ⟨⟨q, k⟩, e, hk, hkey, rfl⟩
      obtain ⟨rfl, hname⟩ := Prod.mk.inj hkey
      exact ⟨k, e, by rw [← hslots]; exact hk, hname, rfl⟩
    · rintro ⟨k, e, hk, hname, rfl⟩
      exact ⟨(p, k), e, by rw [hslots]; exact hk, Prod.ext rfl hname, rfl⟩
  · rw [← hslots] at ha hb
    exact h.shape.unique ha hb hname

end Space

open OrphanSpace NameVolume NameDisk

variable {s : FS} {d : NameDisk} {l m : List ℕ}

/-- **A lookup reads the map.** -/
theorem redCoreLookup_eq (hver : redDiskLayoutIsSupported s.core.ulVersion) {v : NameVolume}
    (h : Inv s v.toOrphanSpace l m) {p : ℕ} {ino : FileNode} {dd : DirData}
    (hp : v.node p = some ino) (hd : ino.data = .dir dd) (psz : CString) :
    NameVolume.redCoreLookup s p psz v =
      (if redNameLen psz = 0 then .error .EINVAL
      else if nameMax < redNameLen psz then .error .ENAMETOOLONG
      else (v.names s (p, psz.name)).elim (.error .ENOENT) .ok, v) := by
  have hmap := h.space.isMap hver hp hd
  rw [NameVolume.redCoreLookup, Op.bind_ok (redInodeMountDir_ok hp hd)]
  dsimp only
  by_cases h0 : redNameLen psz = 0
  · rw [if_pos h0, Op.ofExcept_bind_error (by rw [DirData.redDirEntryLookup, if_pos h0])]
  by_cases hmax : nameMax < redNameLen psz
  · rw [if_neg h0, if_pos hmax,
      Op.ofExcept_bind_error (by rw [DirData.redDirEntryLookup, if_neg h0, if_pos hmax])]
  rw [if_neg h0, if_neg hmax]
  rcases hM : v.names s (p, psz.name) with _ | i
  · obtain ⟨k, hlookup, -⟩ := hmap.missing psz h0 (by omega) hM
    rw [Op.ofExcept_bind_ok hlookup]
    rfl
  · obtain ⟨e, k, hlookup, -, -, rfl⟩ := hmap.found psz i h0 (by omega) hM
    rw [Op.ofExcept_bind_ok hlookup]
    rfl

/-! ## Places -/

/-- One step on names takes no name to another place. -/
lemma Shape.Step.keeps {S S' : Shape} (hw : S.WellFormed) (hs : Shape.Step S S') :
    Keyed.Keeps entryKey S.entry S'.entry := by
  rintro ⟨p, k⟩ ⟨q, k'⟩ a b ha hb hkey
  obtain ⟨hpq, hname⟩ := Prod.mk.inj hkey
  obtain rfl : p = q := hpq
  rw [hs.keepsPlaces hw p k k' a b ha hb hname]

/-- What a call leaves that fails takes no name to another place. -/
lemma NameVolume.Freed.keeps {v v' : NameVolume} {m' : List ℕ} (hf : Freed s v l m v' m')
    (h : Inv s v.toOrphanSpace l m) :
    Keyed.Keeps entryKey (v.shape s).entry (v'.shape s).entry := by
  rw [hf.entry]
  exact h.space.shape.distinct

/-- A call that is tried twice takes no name to another place. -/
lemma keeps_of_ends {α : Type} {c : Circumstances} {op : DirRoom → NameOp α}
    (h : Inv s d.toOrphanSpace l m)
    (hop : ∀ (v : NameVolume) m1, Freed s d.toNameVolume l m v m1 → ∀ room,
      (op room).Ends v (fun _ v' => v'.fReadOnly = v.fReadOnly ∧
        Keyed.Keeps entryKey (v.shape s).entry (v'.shape s).entry)
        fun v' => Undone s v l m1 v') :
    Keyed.Keeps entryKey (d.shape s).entry ((NameDisk.coreRetry s c op d).2.shape s).entry := by
  have hends := coreRetry_ends (W := fun _ w =>
    Keyed.Keeps entryKey (d.shape s).entry (w.shape s).entry) c h fun v m1 hf room =>
      (hop v m1 hf room).mono (fun _ v' hv' => ⟨hv'.1, by rw [← hf.entry]; exact hv'.2⟩)
        fun _ hv' => hv'
  rcases hends with ⟨a, d', hrun, -, hkeeps, -⟩ | ⟨e, d', hrun, ⟨m', hf⟩, -⟩
  · rw [hrun]
    exact hkeeps
  · rw [hrun]
    exact hf.keeps h

/-- **No call takes a name to another place.** -/
theorem Call.keeps (hver : redDiskLayoutIsSupported s.core.ulVersion)
    (h : Inv s d.toOrphanSpace l m) {call : Call} (hlegal : call.Legal s d)
    (honward : call.Onward) :
    Keyed.Keeps entryKey (d.shape s).entry ((call.run s d).shape s).entry := by
  have hsame {d' : NameDisk} (hentry : (d'.shape s).entry = (d.shape s).entry) :
      Keyed.Keeps entryKey (d.shape s).entry (d'.shape s).entry := by
    rw [hentry]
    exact h.space.shape.distinct
  have hworking {x : NameOp Unit} (hx : ((x d.toNameVolume).2.shape s).entry = (d.shape s).entry) :
      ((whenWriteable (onWorking x) d).2.shape s).entry = (d.shape s).entry := by
    rw [whenWriteable, Op.get_bind_run]
    split_ifs
    · rfl
    · exact hx
  cases call with
  | create c p pszName uMode =>
    change Keyed.Keeps entryKey _ ((((NameDisk.coreRetry s c fun room =>
      NameVolume.coreCreate s room p pszName uMode) >>= fun _ => pure ()) d).2.shape s).entry
    rw [Op.bind_pure_run]
    refine keeps_of_ends h fun v m1 hf room => ?_
    refine (coreCreate_ends hver hf.inv (hf.hasParent h hlegal) uMode).mono (fun i v' hv' => ?_)
      fun _ hv' => hv'
    obtain ⟨hro, v1, m2, hf1, -, hshape, -⟩ := hv'
    refine ⟨hro, ?_⟩
    rw [← hf1.entry]
    exact hshape.keeps hf1.inv.space.shape
  | link c p pszName i =>
    refine keeps_of_ends h fun v m1 hf room => ?_
    refine (coreLink_ends hver hf.inv (hf.hasParent h hlegal.1)
      (hf.not_isOrphan h (hlegal.2.not_isOrphan h))).mono (fun _ v' hv' => ?_) fun _ hv' => hv'
    exact ⟨hv'.1, hv'.2.2.1.keeps hf.inv.space.shape⟩
  | unlink c p pszName fOrphan =>
    refine keeps_of_ends h fun v m1 hf room => ?_
    refine (coreUnlink_ends hver hf.inv fOrphan).mono (fun _ v' hv' => ?_) fun _ hv' => hv'
    exact ⟨hv'.1, hv'.2.1.keeps hf.inv.space.shape⟩
  | rename c p pszSrcName q pszDstName fOrphan =>
    refine keeps_of_ends h fun v m1 hf room => ?_
    refine (coreRename_ends hver hf.inv (hf.hasParent h hlegal.2) fOrphan).mono
      (fun _ v' hv' => ?_) fun _ hv' => hv'
    refine ⟨hv'.1, ?_⟩
    rcases hv'.2.1 with heq | hshape
    · rw [heq]
      exact hf.inv.space.shape.distinct
    · exact hshape.keeps hf.inv.space.shape
  | freeOrphan i =>
    apply hsame
    change ((Op.when (deleteOpen = true)
      (whenWriteable (onWorking (coreFreeOrphan s i))) d).2.shape s).entry = _
    by_cases hdel : deleteOpen = true
    · rw [Op.when_pos hdel]
      exact hworking (coreFreeOrphan_entry h i)
    · rw [Op.when_neg hdel]
      rfl
  | freeOrphans n =>
    apply hsame
    change ((Op.when (deleteOpen = true) (onWorking (redCoreVolFreeOrphans s n)) d).2.shape s).entry
      = _
    by_cases hdel : deleteOpen = true
    · rw [Op.when_pos hdel]
      exact redCoreVolFreeOrphans_entry h n
    · rw [Op.when_neg hdel]
      rfl
  | fileData i data => exact hsame (hworking (congrArg Shape.entry (coreFileData_shape _ i data)))
  | transact =>
    apply hsame
    change ((whenWriteable NameDisk.redVolTransact d).2.shape s).entry = _
    rw [whenWriteable, Op.get_bind_run]
    split_ifs
    · rfl
    · change ((if d.fBranched = true then _ else _ : NameDisk).shape s).entry = _
      split_ifs <;> rfl
  | rollback => exact honward.elim
  | remount fTransact ulFlags => exact honward.elim
  | powerLoss ulFlags => exact honward.elim

/-- **Every directory of every reachable state is a finite map**, in the working and in the
committed state. A lookup reads the map of the working state, and a call takes no name to another
place. -/
theorem directory_isMap (hver : redDiskLayoutIsSupported s.core.ulVersion)
    (hpos : 0 < s.core.ulInodeCount) (hcount : s.core.ulInodeCount ≤ UINT32_MAX)
    (h : NameDisk.Reachable s d) :
    (∀ sp : Space, sp = d.toSpace ∨ sp = d.committed.toSpace → ∀ p ino dd, sp.node p = some ino →
      ino.data = .dir dd → dd.IsMap s (fun k => (sp.shape s).entry (p, k)) fun name =>
        sp.names s (p, name)) ∧
    (∀ p ino dd psz, d.node p = some ino → ino.data = .dir dd →
      NameVolume.redCoreLookup s p psz d.toNameVolume =
        (if redNameLen psz = 0 then .error .EINVAL
        else if nameMax < redNameLen psz then .error .ENAMETOOLONG
        else (d.names s (p, psz.name)).elim (.error .ENOENT) .ok, d.toNameVolume)) ∧
    ∀ call : Call, call.Legal s d → call.Onward →
      Keyed.Keeps entryKey (d.shape s).entry ((call.run s d).shape s).entry := by
  obtain ⟨⟨l, m, hinv⟩, ⟨lc, mc, hinvC⟩⟩ := h.inv hver hpos hcount
  refine ⟨?_, fun p ino dd psz hp hd => redCoreLookup_eq hver hinv hp hd psz,
    fun call hlegal honward => Call.keeps hver hinv hlegal honward⟩
  rintro sp (rfl | rfl) p ino dd hp hd
  · exact hinv.space.isMap hver hp hd
  · exact hinvC.space.isMap hver hp hd

omit [RedConf] in
lemma inUse_root : letI := smallConf
    ∃ q dd, inUse.node INODE_ROOTDIR = some ⟨1, q, .dir dd⟩ := ⟨_, _, rfl⟩

omit [RedConf] in
/-- The root directory of a volume in use has a directory, a free place where a file was, and
another file. Both files are found in the committed state; creating a name takes the free place. -/
theorem directory_isMap_small : letI := smallConf
    let s := emptyGeometry 5 64 8
    let call : Call := .create roomy INODE_ROOTDIR [101] .reg
    (∃ ino dd, inUse.node INODE_ROOTDIR = some ino ∧ ino.data = .dir dd ∧
      dd.IsMap s (fun k => (inUse.shape s).entry (INODE_ROOTDIR, k))
        fun name => inUse.names s (INODE_ROOTDIR, name)) ∧
    ((inUse.shape s).entry (INODE_ROOTDIR, 1) = none ∧
      inUse.names s (INODE_ROOTDIR, [97]) = some 3 ∧ inUse.names s (INODE_ROOTDIR, [98]) = none ∧
      inUse.names s (INODE_ROOTDIR, [99]) = some 5 ∧
      inUse.committed.names s (INODE_ROOTDIR, [98]) = some 4) ∧
    NameVolume.redCoreLookup s INODE_ROOTDIR [99] inUse.toNameVolume =
      (.ok 5, inUse.toNameVolume) ∧
    Keyed.Keeps entryKey (inUse.shape s).entry ((call.run s inUse).shape s).entry ∧
    (((call.run s inUse).shape s).entry (INODE_ROOTDIR, 1)).isSome := by
  obtain ⟨hmap, hlookup, hkeeps⟩ := @directory_isMap smallConf _ _ (by decide) (by decide)
    (by decide) inUse_reachable
  obtain ⟨q, dd, hroot⟩ := inUse_root
  refine ⟨⟨_, dd, hroot, rfl, hmap _ (.inl rfl) _ _ dd hroot rfl⟩, ?_, ?_, ?_, ?_⟩
  · exact ⟨by decide +kernel, by decide +kernel, by decide +kernel, by decide +kernel,
      by decide +kernel⟩
  · rw [hlookup INODE_ROOTDIR _ dd [99] hroot rfl]
    refine Prod.ext ?_ rfl
    decide +kernel
  · exact hkeeps _ (.inl rfl) trivial
  · decide +kernel

end RelianceEdge
