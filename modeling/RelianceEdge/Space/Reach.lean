import RelianceEdge.Space.Core
import RelianceEdge.Space.DirSlots
import RelianceEdge.Space.Shape

set_option relaxedAutoImplicit false
set_option autoImplicit false
set_option linter.unusedSectionVars false

/-!
# Operations on names refine their shape

The directories of a reachable volume hold lists of entries, and each operation of `core.c`
changes the shape of the volume as `Shape.Step` says.

## Main definitions

* `Space.shape` — the shape of a volume.
* `Space.Inv` — the invariant of a volume.

## Main results

* `Space.coreCreate_step`, `Space.coreLink_step`, `Space.coreUnlink_step`,
  `Space.coreRename_step` — each operation on names is a step of the shape.
* `Space.Inv.step`, `Space.Reachable.inv` — the invariant holds in every reachable state.
-/

namespace RelianceEdge

variable [RedConf]

open RedConf

/-- A sequence that succeeds is made of two steps that do. -/
lemma Except.bind_eq_ok {ε α β : Type} {x : Except ε α} {f : α → Except ε β} {b : β}
    (h : x >>= f = .ok b) : ∃ a, x = .ok a ∧ f a = .ok b := by
  rcases x with e | a
  · cases h
  · exact ⟨a, rfl, h⟩

variable (s : FS)

/-! ## The shape of a volume -/

/-- The entries of a directory, in the order of their indexes. -/
def DirData.slots (d : DirData) : List (Option Dirent) :=
  (List.range (d.direntCount s)).map fun k =>
    (d.block (k / s.direntsPerBlock)).bind (· (k % s.direntsPerBlock))

namespace FileData

/-- The entries of the data of an inode; only a directory has some. -/
def slots : FileData → List (Option Dirent)
  | .dir d => d.slots s
  | _ => []

/-- The data of a directory hold its entries. -/
def Sound (data : FileData) : Prop := ∀ d, data = .dir d → DirData.Holds s d (d.slots s)

end FileData

/-- The data of an inode, as far as names go. -/
def FileNode.info (ino : FileNode) : Info := ⟨ino.data.fDirectory, ino.uNLink, ino.ulPInode⟩

namespace Space

variable (sp : Space)

/-- The entries of an inode. -/
def slots (i : ℕ) : List (Option Dirent) := (sp.node i).elim [] fun ino => ino.data.slots s

/-- **The shape of a volume.** -/
def shape : Shape where
  info := fun i => (sp.node i).map FileNode.info
  entry := fun x => Slots.at (sp.slots s x.1) x.2

/-- **The directories hold their entries.** -/
def Sound : Prop := ∀ i ino, sp.node i = some ino → ino.data.Sound s

end Space

variable {s} (hver : redDiskLayoutIsSupported s.core.ulVersion)

include hver in
lemma DirData.Holds.slots_eq {d : DirData} {l : List (Option Dirent)} (h : Holds s d l) :
    d.slots s = l := by
  unfold slots
  rw [h.direntCount_eq hver]
  apply List.ext_getElem
  · simp
  · intro k hk hk'
    obtain ⟨b, hb, hat⟩ := h.block k hk'
    rw [List.getElem_map, List.getElem_range, hb, Option.bind_some, hat, Slots.at,
      List.getElem?_eq_getElem hk', Option.getD_some]

/-- A directory that has not been removed lies in one. -/
lemma Shape.WellFormed.attached_parent {S : Shape} (hw : S.WellFormed) {y : ℕ} {n : Info}
    (hn : S.info y = some n) (hd : n.fDirectory) (hr : y ≠ INODE_ROOTDIR)
    (hp : n.ulPInode ≠ INODE_INVALID) :
    ∃ k e, S.entry (n.ulPInode, k) = some e ∧ e.ulInode = y ∧ S.Attached n.ulPInode := by
  obtain ⟨k, e, he, hy, -⟩ := hw.name_of_dir hn hd hr fun h0 =>
    hp ((hw.parent_eq_invalid hn hd hr).2 h0)
  exact ⟨k, e, he, hy, hw.attached_of_entry he⟩

namespace Space

variable {sp : Space} {i p k : ℕ} {ino : FileNode} {d d' : DirData} {de : Dirent}

@[simp] lemma set_same (v : Option FileNode) : (sp.set i v).node i = v := Function.update_self ..

lemma set_ne {j : ℕ} (v : Option FileNode) (hj : j ≠ i) : (sp.set i v).node j = sp.node j :=
  Function.update_of_ne hj ..

lemma modify_same (f : FileNode → FileNode) (hi : sp.node i = some ino) :
    (sp.modify i f).node i = some (f ino) := by
  rw [modify, set_same, hi, Option.map_some]

lemma modify_ne {j : ℕ} (f : FileNode → FileNode) (hj : j ≠ i) :
    (sp.modify i f).node j = sp.node j := set_ne _ hj

lemma setDir_same (hp : sp.node p = some ino) :
    (sp.setDir p d').node p = some { ino with data := .dir d' } := modify_same _ hp

lemma setDir_ne {j : ℕ} (hj : j ≠ p) : (sp.setDir p d').node j = sp.node j := modify_ne _ hj

lemma shape_info (hi : sp.node i = some ino) : (sp.shape s).info i = some ino.info :=
  congrArg (Option.map FileNode.info) hi

lemma shape_info_eq_some {n : Info} (h : (sp.shape s).info i = some n) :
    ∃ ino, sp.node i = some ino ∧ ino.info = n := Option.map_eq_some_iff.1 h

lemma slots_dir (hp : sp.node p = some ino) (hd : ino.data = .dir d) :
    sp.slots s p = d.slots s := by
  rw [slots, hp, Option.elim_some, hd, FileData.slots]

lemma shape_entry (hp : sp.node p = some ino) (hd : ino.data = .dir d) :
    (sp.shape s).entry (p, k) = Slots.at (d.slots s) k :=
  congrArg (Slots.at · k) (slots_dir hp hd)

/-- Replacing an inode by one with the same entries. -/
lemma shape_set {v : Option FileNode}
    (hv : (v.elim [] fun ino => ino.data.slots s) = sp.slots s i) : (sp.set i v).shape s =
      ⟨Function.update (sp.shape s).info i (v.map FileNode.info), (sp.shape s).entry⟩ := by
  rw [shape, Shape.mk.injEq]
  constructor
  · funext j
    by_cases hj : j = i
    · rw [hj, set_same, Function.update_self]
    · rw [set_ne _ hj, Function.update_of_ne hj]
      rfl
  · funext x
    by_cases hx : x.1 = i
    · rw [slots, hx, set_same, hv, ← hx]
      rfl
    · rw [slots, set_ne _ hx]
      rfl

/-- Changing an inode but not its data. -/
lemma shape_modify {f : FileNode → FileNode} (hi : sp.node i = some ino)
    (hf : (f ino).data = ino.data) : (sp.modify i f).shape s =
      ⟨Function.update (sp.shape s).info i (some (f ino).info), (sp.shape s).entry⟩ := by
  rw [modify, hi, Option.map_some, shape_set, Option.map_some]
  rw [Option.elim_some, hf, slots, hi, Option.elim_some]

/-- Changing the entries of a directory. -/
lemma shape_setDir (hp : sp.node p = some ino) (hd : ino.data = .dir d) :
    (sp.setDir p d').shape s = ⟨(sp.shape s).info,
      fun x => if x.1 = p then Slots.at (d'.slots s) x.2 else (sp.shape s).entry x⟩ := by
  rw [shape, Shape.mk.injEq]
  constructor
  · funext j
    by_cases hj : j = p
    · rw [hj, setDir_same hp, shape_info hp, Option.map_some, FileNode.info, FileNode.info, hd]
      rfl
    · rw [setDir_ne hj]
      rfl
  · funext x
    by_cases hx : x.1 = p
    · rw [if_pos hx, slots, hx, setDir_same hp]
      rfl
    · rw [if_neg hx, slots, setDir_ne hx]
      rfl

/-- One entry of a directory is changed. -/
lemma entry_update {v : Option Dirent} (hp : sp.node p = some ino) (hd : ino.data = .dir d) :
    (fun x : ℕ × ℕ => if x.1 = p then Function.update (Slots.at (d.slots s)) k v x.2
      else (sp.shape s).entry x) = Function.update (sp.shape s).entry (p, k) v := by
  funext x
  obtain ⟨q, j⟩ := x
  by_cases hq : q = p
  · subst hq
    rw [if_pos rfl]
    by_cases hj : j = k
    · subst hj
      rw [Function.update_self, Function.update_self]
    · rw [Function.update_of_ne hj, Function.update_of_ne (by simp [hj]), shape_entry hp hd]
  · rw [if_neg hq, Function.update_of_ne (by simp [hq])]

/-- An entry is put into a directory. -/
lemma shape_put (hp : sp.node p = some ino) (hd : ino.data = .dir d)
    (hd' : d'.slots s = Slots.put (d.slots s) k de) (hk : k ≤ (d.slots s).length) :
    (sp.setDir p d').shape s =
      ⟨(sp.shape s).info, Function.update (sp.shape s).entry (p, k) (some de)⟩ := by
  rw [shape_setDir hp hd, hd', Slots.at_put hk, ← entry_update hp hd]

/-- An entry of a directory is deleted. -/
lemma shape_free (hp : sp.node p = some ino) (hd : ino.data = .dir d)
    (hd' : d'.slots s = Slots.free (d.slots s) k) :
    (sp.setDir p d').shape s =
      ⟨(sp.shape s).info, Function.update (sp.shape s).entry (p, k) none⟩ := by
  rw [shape_setDir hp hd, hd', Slots.at_free, ← entry_update hp hd]

/-! ## Directories hold their entries -/

lemma Sound.set (h : sp.Sound s) {v : Option FileNode}
    (hv : ∀ ino, v = some ino → ino.data.Sound s) : (sp.set i v).Sound s := by
  intro j ino hj
  by_cases hji : j = i
  · rw [hji, set_same] at hj
    exact hv ino hj
  · rw [set_ne _ hji] at hj
    exact h j ino hj

lemma Sound.modify (h : sp.Sound s) {f : FileNode → FileNode}
    (hf : ∀ ino, (f ino).data = ino.data) :
    (sp.modify i f).Sound s := by
  refine h.set fun ino hino => ?_
  obtain ⟨ino', hino', rfl⟩ := Option.map_eq_some_iff.1 hino
  rw [hf]
  exact h i ino' hino'

include hver in
lemma Sound.setDir (h : sp.Sound s) {l : List (Option Dirent)} (hl : DirData.Holds s d' l) :
    (sp.setDir p d').Sound s := by
  refine h.set fun ino hino => ?_
  obtain ⟨ino', -, rfl⟩ := Option.map_eq_some_iff.1 hino
  rintro _ ⟨⟩
  rwa [hl.slots_eq hver]

lemma Sound.holds (h : sp.Sound s) (hp : sp.node p = some ino) (hd : ino.data = .dir d) :
    DirData.Holds s d (d.slots s) := h p ino hp d hd

lemma mountDir_eq_ok (h : sp.mountDir p = .ok (ino, d)) :
    sp.node p = some ino ∧ ino.data = .dir d := by
  unfold mountDir mount at h
  rcases hp : sp.node p with _ | ino'
  · rw [hp] at h
    cases h
  · rw [hp] at h
    simp only [bind, Except.bind] at h
    rcases hd : ino'.data with d' | _ | _
    · rw [hd] at h
      cases h
      exact ⟨rfl, hd⟩
    · rw [hd] at h
      cases h
    · rw [hd] at h
      cases h

lemma mountDir_of_node (hp : sp.node p = some ino) (hd : ino.data = .dir d) :
    sp.mountDir p = .ok (ino, d) := by
  simp only [mountDir, mount, hp, bind, Except.bind, hd]

lemma mount_eq_ok (h : sp.mount i = .ok ino) : sp.node i = some ino := by
  unfold mount at h
  rcases hi : sp.node i with _ | ino'
  · rw [hi] at h
    cases h
  · rw [hi] at h
    cases h
    rfl

/-- A directory through which names are looked up has not been removed. -/
lemma HasParent.attached (h : sp.HasParent p) (hp : sp.node p = some ino) (hd : ino.data = .dir d) :
    (sp.shape s).Attached p := by
  refine ⟨ino.info, shape_info hp, by rw [FileNode.info, hd]; rfl, ?_⟩
  rcases h with h | ⟨ino', hino', hne⟩
  · exact .inl h
  · rw [hp] at hino'
    cases hino'
    exact .inr hne

include hver in
/-- Where `RedDirEntryCreate()` puts an entry there was none, and no entry had its name. -/
lemma Sound.create_place (h : sp.Sound s) (hp : sp.node p = some ino) (hd : ino.data = .dir d)
    {pszName : CString} (hc : d.redDirEntryCreate s pszName i = .ok d') :
    ∃ k de, de.ulInode = i ∧ DirData.Holds s d' (Slots.put (d.slots s) k de) ∧
      (sp.setDir p d').shape s =
        ⟨(sp.shape s).info, Function.update (sp.shape s).entry (p, k) (some de)⟩ ∧
      (sp.shape s).Vacant p k de.acName ∧ (sp.shape s).First p k := by
  obtain ⟨k, de, hde, hput, hk, hfree, hfirst, hfresh⟩ := (h.holds hp hd).create hver hc
  refine ⟨k, de, (DirData.newDirent_eq_ok hde).2, hput,
    shape_put hp hd (hput.slots_eq hver) hk, ⟨?_, fun j e hj => ?_⟩, fun m hm => ?_⟩
  · rw [shape_entry hp hd, hfree]
  · rw [shape_entry hp hd] at hj
    exact hfresh e (Slots.mem_iff.2 ⟨j, hj⟩)
  · rw [shape_entry hp hd]
    exact hfirst m hm

/-! ## The operations -/

variable {sp' : Space} {pszName : CString}

include hver in
/-- A new inode has no entries. -/
lemma new_slots (uMode : Mode) : (FileData.new uMode).slots s = [] := by
  cases uMode with
  | dir => exact DirData.empty_holds.slots_eq hver
  | _ => rfl

include hver in
lemma new_sound (uMode : Mode) : (FileData.new uMode).Sound s := by
  intro d hd
  have hempty : d = .empty := by
    cases uMode <;> cases hd
    rfl
  rw [hempty, DirData.empty_holds.slots_eq hver]
  exact DirData.empty_holds

include hver in
/-- `CoreCreate()` adds an inode and its name. -/
lemma coreCreate_step (h : sp.Sound s) {uMode : Mode} (hpar : sp.HasParent p)
    (hfree : sp.node i = none) (hvalid : i ≠ INODE_INVALID)
    (hc : sp.coreCreate s i p pszName uMode = .ok sp') :
    sp'.Sound s ∧ Shape.Step (sp.shape s) (sp'.shape s) := by
  obtain ⟨⟨ino, d⟩, hmount, hc⟩ := Except.bind_eq_ok hc
  obtain ⟨hp, hd⟩ := mountDir_eq_ok hmount
  obtain ⟨d', hcreate, hc⟩ := Except.bind_eq_ok hc
  cases hc
  obtain ⟨k, de, rfl, hput, hshape, hvacant, hfirst⟩ := h.create_place hver hp hd hcreate
  have hne : de.ulInode ≠ p := by
    rintro rfl
    rw [hp] at hfree
    cases hfree
  refine ⟨(h.setDir hver hput).set fun ino hino => ?_, ?_⟩
  · cases hino
    exact new_sound hver uMode
  · rw [shape_set, hshape]
    · exact .create (hpar.attached hp hd) hvacant hfirst (congrArg (Option.map FileNode.info) hfree)
        hvalid rfl rfl
    · rw [Option.elim_some, new_slots hver, slots, setDir_ne hne, hfree, Option.elim_none]

include hver in
/-- A file is created behind the entries of a directory without holes. -/
lemma coreCreate_append {l : List (Option Dirent)} (hp : sp.node p = some ino)
    (hd : ino.data = .dir d) (hl : DirData.Holds s d l) (hused : ∀ o ∈ l, o.isSome)
    (hlen : l.length < s.direntsMax) (hde : DirData.newDirent pszName i = .ok de)
    (hfresh : ∀ e, some e ∈ l → e.acName ≠ de.acName) (hne : p ≠ i) (uMode : Mode) :
    ∃ sp' d', sp.coreCreate s i p pszName uMode = .ok sp' ∧
      sp'.node p = some { ino with data := .dir d' } ∧
      DirData.Holds s d' (l ++ [some de]) ∧ sp'.node i = some ⟨1, p, .new uMode⟩ ∧
      ∀ j, j ≠ p → j ≠ i → sp'.node j = sp.node j := by
  obtain ⟨d', hd', hl'⟩ := hl.append_ok hver hde hused hlen hfresh
  refine ⟨(sp.setDir p d').set i (some ⟨1, p, .new uMode⟩), d', ?_, ?_, hl', ?_, ?_⟩
  · simp only [coreCreate, mountDir, mount, hp, bind, Except.bind, hd, hd']
  · rw [set_ne _ hne, setDir_same hp]
  · exact set_same _
  · intro j hjp hji
    rw [set_ne _ hji, setDir_ne hjp]

include hver in
/-- `CoreLink()` adds a name of a file. -/
lemma coreLink_step (h : sp.Sound s) (hpar : sp.HasParent p)
    (hc : sp.coreLink s p pszName i = .ok sp') :
    sp'.Sound s ∧ Shape.Step (sp.shape s) (sp'.shape s) := by
  obtain ⟨⟨inoP, d⟩, hmount, hc⟩ := Except.bind_eq_ok hc
  obtain ⟨hp, hd⟩ := mountDir_eq_ok hmount
  obtain ⟨ino, hmount, hc⟩ := Except.bind_eq_ok hc
  have hi := mount_eq_ok hmount
  split_ifs at hc with hdir hmax
  obtain ⟨d', hcreate, hc⟩ := Except.bind_eq_ok hc
  cases hc
  obtain ⟨k, de, rfl, hput, hshape, hvacant, hfirst⟩ := h.create_place hver hp hd hcreate
  have hne : de.ulInode ≠ p := by
    rintro rfl
    rw [hp] at hi
    cases hi
    exact hdir (by rw [hd]; rfl)
  have hi' : (sp.setDir p d').node de.ulInode = some ino := by rw [setDir_ne hne, hi]
  refine ⟨(h.setDir hver hput).modify fun _ => rfl, ?_⟩
  rw [shape_modify hi' rfl, hshape]
  exact .link (hpar.attached hp hd) hvacant hfirst (shape_info hi) hdir

/-- `RedInodeLinkDec()` drops a name of an inode without entries. -/
lemma redInodeLinkDec_shape (h : sp.Sound s) {fOrphan : Bool} (hi : sp.node i = some ino)
    (hempty : ino.data.slots s = []) (hc : sp.redInodeLinkDec i fOrphan = .ok sp') :
    sp'.Sound s ∧ ∃ v, Shape.Dropped ino.info v ∧ sp'.shape s =
      ⟨Function.update (sp.shape s).info i v, (sp.shape s).entry⟩ := by
  obtain ⟨ino', hmount, hc⟩ := Except.bind_eq_ok hc
  have hi' := mount_eq_ok hmount
  rw [hi] at hi'
  cases hi'
  split_ifs at hc with hlink horphan
  · cases hc
    exact ⟨h.modify fun _ => rfl, _, .dec hlink, shape_modify hi rfl⟩
  · cases hc
    exact ⟨h.modify fun _ => rfl, _, .orphan (Nat.le_of_not_lt hlink), shape_modify hi rfl⟩
  · cases hc
    refine ⟨h.set (fun _ hv => by cases hv), _, .delete (Nat.le_of_not_lt hlink), ?_⟩
    rw [shape_set, Option.map_none]
    rw [Option.elim_none, slots, hi, Option.elim_some, hempty]

include hver in
/-- A directory of size zero has no entries. -/
lemma slots_of_size (hd : DirData.Holds s d (d.slots s)) (hsize : d.ullSize = 0) :
    d.slots s = [] := by
  have h := hd.size
  rw [hsize, FS.direntsSize] at h
  split_ifs at h with h0
  · exact List.length_eq_zero_iff.1 h0
  · have hpos : 0 < direntSize := FS.direntSize_pos
    omega

include hver in
/-- What may be removed has no entries. -/
lemma slots_of_mayRemove (h : sp.Sound s) (hi : sp.node i = some ino) (hm : mayRemove ino = true) :
    ino.data.slots s = [] := by
  rcases hd : ino.data with d | _ | _
  · rw [mayRemove, hd] at hm
    exact slots_of_size hver (h.holds hi hd) (beq_iff_eq.1 hm)
  · rfl
  · rfl

/-- An inode without entries, as its shape has it. -/
lemma isEmpty_of_slots (hi : sp.node i = some ino) (hs : ino.data.slots s = []) :
    (sp.shape s).IsEmpty i := by
  intro k
  change Slots.at (sp.slots s i) k = none
  rw [slots, hi, Option.elim_some, hs, Slots.at_of_length_le (Nat.zero_le k)]

include hver in
/-- `CoreUnlink()` removes a name. -/
lemma coreUnlink_step (h : sp.Sound s) {fOrphan : Bool}
    (hc : sp.coreUnlink s p pszName fOrphan = .ok sp') :
    sp'.Sound s ∧ Shape.Step (sp.shape s) (sp'.shape s) := by
  unfold coreUnlink at hc
  split_ifs at hc with hparam
  obtain ⟨⟨inoP, d⟩, hmount, hc⟩ := Except.bind_eq_ok hc
  obtain ⟨hp, hd⟩ := mountDir_eq_ok hmount
  obtain ⟨⟨found, k⟩, hlookup, hc⟩ := Except.bind_eq_ok hc
  rcases found with _ | de
  · cases hc
  obtain ⟨ino, hmount, hc⟩ := Except.bind_eq_ok hc
  have hi := mount_eq_ok hmount
  split_ifs at hc with hremove
  obtain ⟨d', hdelete, hc⟩ := Except.bind_eq_ok hc
  have hholds := h.holds hp hd
  obtain ⟨hentry, -⟩ := hholds.lookup_found hver hlookup
  obtain ⟨-, hfree⟩ := hholds.delete hver hdelete
  have hempty := slots_of_mayRemove hver h hi (by simpa using hremove)
  have hne : de.ulInode ≠ p := by
    rintro rfl
    rw [hp] at hi
    cases hi
    rw [hd, FileData.slots] at hempty
    rw [hempty] at hentry
    cases hentry
  have hi' : (sp.setDir p d').node de.ulInode = some ino := by rw [setDir_ne hne, hi]
  obtain ⟨hsound, v, hv, hshape⟩ := redInodeLinkDec_shape (h.setDir hver hfree) hi' hempty hc
  refine ⟨hsound, ?_⟩
  rw [hshape, shape_free hp hd (hfree.slots_eq hver)]
  refine .unlink ?_ (shape_info hi) (fun _ => isEmpty_of_slots hi hempty) hv
  rw [shape_entry hp hd, hentry]

/-! ## Renaming -/

/-- The walk up from a directory meets the inode, or the directory is not below it. -/
lemma dirCyclicLoop_avoids (hw : (sp.shape s).WellFormed) (hsrc : i ≠ INODE_ROOTDIR) :
    ∀ (n y ulLeft ulStop : ℕ), (sp.shape s).Attached y →
      sp.dirCyclicLoop i n y = .ok (ulLeft, ulStop) → ulLeft ≠ 0 → i ≠ ulStop →
      (sp.shape s).Avoids i y
  | 0, y, ulLeft, ulStop, _, h, hleft, _ => by
    cases h
    exact absurd rfl hleft
  | n + 1, y, ulLeft, ulStop, hy, h, hleft, hstop => by
    obtain ⟨m, hm, hdir, hpar⟩ := hy
    rw [dirCyclicLoop] at h
    split_ifs at h with hend
    · cases h
      have hroot : y = INODE_ROOTDIR := by
        rcases hend with rfl | hr | hinv
        · exact absurd rfl hstop
        · exact hr
        · rw [hinv, hw.invalid] at hm
          cases hm
      rw [hroot]
      exact .root hsrc
    · rw [not_or, not_or] at hend
      obtain ⟨⟨ino, d⟩, hmount, hloop⟩ := Except.bind_eq_ok h
      obtain ⟨hino, -⟩ := mountDir_eq_ok hmount
      rw [shape_info hino] at hm
      cases hm
      obtain ⟨k, e, he, rfl, hatt⟩ := hw.attached_parent (shape_info hino) hdir hend.2.1
        (hpar.resolve_left hend.2.1)
      have hrest := dirCyclicLoop_avoids hw hsrc n _ _ _ hatt hloop hleft hstop
      exact .child he hrest ⟨_, shape_info hino, hdir⟩ (Ne.symm hend.1)

/-- `DirCyclicRenameCheck()` refuses to move a directory below itself. -/
lemma dirCyclicRenameCheck_avoids (hw : (sp.shape s).WellFormed) (hsrc : i ≠ INODE_ROOTDIR)
    (hp : (sp.shape s).Attached p) (h : sp.dirCyclicRenameCheck s i p = .ok ()) :
    (sp.shape s).Avoids i p := by
  obtain ⟨m, hm, hdir, hpar⟩ := hp
  unfold dirCyclicRenameCheck at h
  split_ifs at h with hsame
  obtain ⟨⟨ino, d⟩, hmount, h⟩ := Except.bind_eq_ok h
  obtain ⟨hino, -⟩ := mountDir_eq_ok hmount
  obtain ⟨⟨ulLeft, ulStop⟩, hloop, h⟩ := Except.bind_eq_ok h
  dsimp only at h
  split_ifs at h with hleft hstop
  by_cases hroot : p = INODE_ROOTDIR
  · rw [hroot]
    exact .root hsrc
  · rw [shape_info hino] at hm
    cases hm
    obtain ⟨k, e, he, rfl, hatt⟩ := hw.attached_parent (shape_info hino) hdir hroot
      (hpar.resolve_left hroot)
    exact .child he (dirCyclicLoop_avoids hw hsrc _ _ _ _ hatt hloop hleft hstop)
      ⟨_, shape_info hino, hdir⟩ hsame

include hver in
/-- The destination entry is written and the source entry deleted. -/
lemma dirEntryMove_shape (h : sp.Sound s) {q j : ℕ} {inoQ : FileNode} {dQ : DirData}
    (hq : sp.node q = some inoQ) (hdQ : inoQ.data = .dir dQ) (hk : k ≤ (dQ.slots s).length)
    (hi : sp.node de.ulInode = some ino)
    (hc : sp.dirEntryMove s p j q k de = .ok sp') :
    sp'.Sound s ∧ (∀ x, x ≠ p → x ≠ q → x ≠ de.ulInode → sp'.node x = sp.node x) ∧
      sp'.shape s = ⟨Function.update (sp.shape s).info de.ulInode
          (some { ino.info with ulPInode := q }),
        Function.update (Function.update (sp.shape s).entry (q, k) (some de)) (p, j) none⟩ := by
  obtain ⟨⟨inoQ', dQ0⟩, hmount, hc⟩ := Except.bind_eq_ok hc
  obtain ⟨hq', hdQ'⟩ := mountDir_eq_ok hmount
  rw [hq] at hq'
  cases hq'
  rw [hdQ] at hdQ'
  cases hdQ'
  obtain ⟨dQ', hwrite, hc⟩ := Except.bind_eq_ok hc
  have hput := (h.holds hq hdQ).write hver hk hwrite
  have h1 : (sp.setDir q dQ').Sound s := h.setDir hver hput
  have hshape1 := shape_put hq hdQ (hput.slots_eq hver) hk
  obtain ⟨⟨inoP, dP⟩, hmount, hc⟩ := Except.bind_eq_ok hc
  obtain ⟨hp, hdP⟩ := mountDir_eq_ok hmount
  obtain ⟨dP', hdelete, hc⟩ := Except.bind_eq_ok hc
  obtain ⟨-, hfree⟩ := (h1.holds hp hdP).delete hver hdelete
  have h2 : ((sp.setDir q dQ').setDir p dP').Sound s := h1.setDir hver hfree
  have hshape2 := shape_free hp hdP (hfree.slots_eq hver)
  cases hc
  -- The inode that is renamed may be one of the two directories.
  have hinfo : (((sp.setDir q dQ').setDir p dP').shape s).info de.ulInode = some ino.info := by
    rw [hshape2, hshape1, shape_info hi]
  obtain ⟨ino2, hi2, heq⟩ := shape_info_eq_some hinfo
  refine ⟨h2.modify fun _ => rfl, fun x hxp hxq hxi => ?_, ?_⟩
  · rw [modify_ne _ hxi, setDir_ne hxp, setDir_ne hxq]
  · rw [shape_modify hi2 rfl, hshape2, hshape1, ← heq]
    rfl

/-- What is replaced by a rename has no entries. -/
lemma mountReplaced_slots (hver : redDiskLayoutIsSupported s.core.ulVersion) (h : sp.Sound s)
    {fSrcDirectory : Bool} (hc : sp.mountReplaced fSrcDirectory i = .ok ()) :
    ∃ ino, sp.node i = some ino ∧ ino.data.slots s = [] := by
  unfold mountReplaced at hc
  split_ifs at hc
  · obtain ⟨⟨ino, d⟩, hmount, hc⟩ := Except.bind_eq_ok hc
    obtain ⟨hi, hd⟩ := mountDir_eq_ok hmount
    dsimp only at hc
    split_ifs at hc with hsize
    refine ⟨ino, hi, ?_⟩
    rw [hd]
    exact slots_of_size hver (h.holds hi hd) hsize
  · obtain ⟨ino, hmount, hc⟩ := Except.bind_eq_ok hc
    split_ifs at hc with hdir
    refine ⟨ino, mount_eq_ok hmount, ?_⟩
    rcases hd : ino.data with d | _ | _
    · rw [hd] at hdir
      exact absurd rfl hdir
    · rfl
    · rfl

/-- The checks that a rename has passed when it moves the entry. -/
lemma dirEntryRename_eq_ok {j x q : ℕ} {dst : Option Dirent}
    (h : sp.dirEntryRename s p j x q k dst pszName = .ok sp') :
    ∃ ino de, sp.node x = some ino ∧
      (∀ d, dst = some d → sp.mountReplaced ino.data.fDirectory d.ulInode = .ok ()) ∧
      (ino.data.fDirectory → sp.dirCyclicRenameCheck s x q = .ok ()) ∧
      DirData.newDirent pszName x = .ok de ∧ sp.dirEntryMove s p j q k de = .ok sp' := by
  obtain ⟨ino, hmount, h⟩ := Except.bind_eq_ok h
  -- What follows the check of the inode that is replaced.
  have hrest (h : (if ino.data.fDirectory then sp.dirCyclicRenameCheck s x q >>= fun _ =>
        DirData.newDirent pszName x >>= sp.dirEntryMove s p j q k
      else DirData.newDirent pszName x >>= sp.dirEntryMove s p j q k) = .ok sp') :
      ∃ de, (ino.data.fDirectory → sp.dirCyclicRenameCheck s x q = .ok ()) ∧
        DirData.newDirent pszName x = .ok de ∧ sp.dirEntryMove s p j q k de = .ok sp' := by
    split_ifs at h with hdir
    · obtain ⟨⟨⟩, hcyc, h⟩ := Except.bind_eq_ok h
      obtain ⟨de, hde, h⟩ := Except.bind_eq_ok h
      exact ⟨de, fun _ => hcyc, hde, h⟩
    · obtain ⟨de, hde, h⟩ := Except.bind_eq_ok h
      exact ⟨de, fun hd => absurd hd hdir, hde, h⟩
  rcases dst with _ | d
  · obtain ⟨de, hcyc, hde, hmove⟩ := hrest h
    exact ⟨ino, de, mount_eq_ok hmount, fun d hd => (by cases hd), hcyc, hde, hmove⟩
  · obtain ⟨⟨⟩, hrep, h⟩ := Except.bind_eq_ok h
    obtain ⟨de, hcyc, hde, hmove⟩ := hrest h
    exact ⟨ino, de, mount_eq_ok hmount, fun d' hd => (by cases hd; exact hrep), hcyc, hde, hmove⟩

include hver in
/-- `CoreRename()` moves a name, in place of another one if there is one. -/
lemma coreRename_step (h : sp.Sound s) (hw : (sp.shape s).WellFormed) {q : ℕ}
    {pszSrcName pszDstName : CString} {fOrphan : Bool} (hdst : sp.HasParent q)
    (hc : sp.coreRename s p pszSrcName q pszDstName fOrphan = .ok sp') :
    sp'.Sound s ∧ (sp' = sp ∨ Shape.Step (sp.shape s) (sp'.shape s)) ∧
      ∃ k e, (sp'.shape s).entry (q, k) = some e ∧
        e.acName = pszDstName.take (redNameLen pszDstName) := by
  unfold coreRename at hc
  by_cases hparam : (!deleteOpen && fOrphan) = true
  · rw [if_pos hparam] at hc
    cases hc
  rw [if_neg hparam] at hc
  obtain ⟨⟨inoP, dP⟩, hmount, hc⟩ := Except.bind_eq_ok hc
  obtain ⟨hp, hdP⟩ := mountDir_eq_ok hmount
  obtain ⟨⟨inoQ, dQ⟩, hmount, hc⟩ := Except.bind_eq_ok hc
  obtain ⟨hq, hdQ⟩ := mountDir_eq_ok hmount
  dsimp only at hc
  by_cases hdot : isDotOrDotDot pszDstName (redNameLen pszDstName) = true
  · rw [if_pos hdot] at hc
    cases hc
  rw [if_neg hdot] at hc
  obtain ⟨⟨src, j⟩, hsrc, hc⟩ := Except.bind_eq_ok hc
  rcases src with _ | e
  · cases hc
  obtain ⟨⟨dst, k⟩, hlookup, hc⟩ := Except.bind_eq_ok hc
  obtain ⟨hej, -⟩ := (h.holds hp hdP).lookup_found hver hsrc
  have he : (sp.shape s).entry (p, j) = some e := by rw [shape_entry hp hdP, hej]
  have hroot := (hw.target he).2
  have hqatt : (sp.shape s).Attached q := hdst.attached hq hdQ
  have hholds := h.holds hq hdQ
  rcases dst with _ | d
  · dsimp only at hc
    split_ifs at hc with hfull
    obtain ⟨ino, de, hi, -, hcyc, hde, hmove⟩ := dirEntryRename_eq_ok hc
    obtain ⟨hname, hdei⟩ := DirData.newDirent_eq_ok hde
    obtain ⟨hfresh, hfree⟩ := hholds.lookup_free hver hlookup
    obtain ⟨hk, -, hnone, hfirst⟩ := hfree hfull
    have hmatch (e' : Dirent) (h' : e'.acName = de.acName) : e'.matches pszDstName := by
      rw [Dirent.matches, h', hname, beq_self_eq_true]
    obtain ⟨hsound, -, hshape⟩ := dirEntryMove_shape hver h hq hdQ hk (hdei ▸ hi) hmove
    have hvacant : (sp.shape s).entry (q, k) = none := by rw [shape_entry hq hdQ, hnone]
    have hne : (q, k) ≠ (p, j) := by
      intro heq
      rw [heq, he] at hvacant
      cases hvacant
    rw [hshape, hdei]
    refine ⟨hsound, .inr ?_, k, de, ?_, hname⟩
    swap
    · simp only [Function.update_of_ne hne, Function.update_self]
    refine .move he (shape_info hi) hdei hqatt ⟨hvacant, fun m e' hm h' => ?_⟩ (fun m hm => ?_)
      fun hdir => ?_
    · rw [shape_entry hq hdQ] at hm
      exact hfresh e' (Slots.mem_iff.2 ⟨m, hm⟩) (hmatch e' h')
    · rw [shape_entry hq hdQ]
      exact hfirst m hm
    · exact dirCyclicRenameCheck_avoids hw hroot hqatt (hcyc hdir)
  · dsimp only at hc
    split_ifs at hc with hsame
    · cases hc
      obtain ⟨hdk, hmatch⟩ := hholds.lookup_found hver hlookup
      exact ⟨h, .inl rfl, k, d, by rw [shape_entry hq hdQ, hdk], beq_iff_eq.1 hmatch⟩
    · obtain ⟨sp1, hrename, hdec⟩ := Except.bind_eq_ok hc
      obtain ⟨ino, de, hi, hrep, hcyc, hde, hmove⟩ := dirEntryRename_eq_ok hrename
      obtain ⟨hname, hdei⟩ := DirData.newDirent_eq_ok hde
      obtain ⟨hdk, hmatch⟩ := hholds.lookup_found hver hlookup
      obtain ⟨inoD, hD, hempty⟩ := mountReplaced_slots hver h (hrep d rfl)
      have hdentry : (sp.shape s).entry (q, k) = some d := by rw [shape_entry hq hdQ, hdk]
      have hnot (x : ℕ) (y : ℕ) (e' : Dirent) (hx : (sp.shape s).entry (x, y) = some e') :
          d.ulInode ≠ x := by
        rintro rfl
        rw [isEmpty_of_slots hD hempty y] at hx
        cases hx
      obtain ⟨hsound, hother, hshape⟩ := dirEntryMove_shape hver h hq hdQ
        (Nat.le_of_lt (Slots.lt_of_at hdk)) (hdei ▸ hi) hmove
      have hD1 : sp1.node d.ulInode = some inoD := by
        rw [hother _ (hnot p j e he) (hnot q k d hdentry) (hdei ▸ Ne.symm hsame), hD]
      obtain ⟨hsound', v, hv, hshape'⟩ := redInodeLinkDec_shape hsound hD1 hempty hdec
      have hne : (q, k) ≠ (p, j) := by
        intro heq
        rw [heq, he] at hdentry
        exact hsame (congrArg Dirent.ulInode (Option.some.inj hdentry))
      rw [hshape', hshape, hdei]
      refine ⟨hsound', .inr ?_, k, de, ?_, hname⟩
      swap
      · simp only [Function.update_of_ne hne, Function.update_self]
      refine .replace he (shape_info hi) hdei hdentry ?_ (Ne.symm hsame) (shape_info hD)
        (fun _ => isEmpty_of_slots hD hempty) hv fun hdir => ?_
      · rw [hname]
        exact beq_iff_eq.1 hmatch
      · exact dirCyclicRenameCheck_avoids hw hroot hqatt (hcyc hdir)

/-! ## Runs -/

/-- No operation changes the inode of the root directory. -/
lemma Shape.Step.root_info {S S' : Shape} (hw : S.WellFormed) (h : Shape.Step S S') :
    S'.info INODE_ROOTDIR = S.info INODE_ROOTDIR := by
  cases h with
  | create hp hk hfirst hnew hvalid hl hpar =>
    refine Function.update_of_ne ?_ ..
    intro hr
    obtain ⟨n, hn, -⟩ := hw.root
    rw [hr, hnew] at hn
    cases hn
  | link hp hk hfirst hn hd => exact Function.update_of_ne (hw.ne_root_of_file hn hd).symm ..
  | unlink he hn hempty hv => exact Function.update_of_ne (hw.target he).2.symm ..
  | move he hn hino hq hk hfirst hcyc => exact Function.update_of_ne (hw.target he).2.symm ..
  | replace he hn hino hd hname hne hm hempty hv hcyc =>
    refine (Function.update_of_ne (hw.target hd).2.symm ..).trans ?_
    exact Function.update_of_ne (hw.target he).2.symm ..
  | freeOrphan hn hl hroot => exact Function.update_of_ne hroot.symm ..

variable (s) in
/-- **Invariant of a volume**: the directories hold their entries, the shape is well formed, and
the root directory is not an orphan. -/
structure Inv (sp : Space) : Prop where
  sound : sp.Sound s
  shape : (sp.shape s).WellFormed
  root : ∃ n, (sp.shape s).info INODE_ROOTDIR = some n ∧ n.uNLink ≠ 0

/-- An operation that changes the shape as it may keeps the invariant. -/
lemma Inv.of_step (h : Inv s sp) (hsound : sp'.Sound s)
    (hstep : Shape.Step (sp.shape s) (sp'.shape s)) : Inv s sp' where
  sound := hsound
  shape := h.shape.step hstep
  root := by
    rw [Shape.Step.root_info h.shape hstep]
    exact h.root

/-- Changing the data of a file does not change the shape. -/
lemma shape_write (hi : sp.node i = some ino) (data : FileData)
    (hdir : data.fDirectory = ino.data.fDirectory) (hslots : data.slots s = ino.data.slots s) :
    (sp.set i (some { ino with data })).shape s = sp.shape s := by
  have hinfo : FileNode.info { ino with data } = ino.info := by
    rw [FileNode.info, FileNode.info, hdir]
  rw [shape_set, Option.map_some, hinfo, ← shape_info hi, Function.update_eq_self]
  rw [Option.elim_some, hslots, slots, hi, Option.elim_some]

lemma Inv.write (h : Inv s sp) {data : FileData} (hsound : data.Sound s)
    (hshape : (sp.set i (some { ino with data })).shape s = sp.shape s) :
    Inv s (sp.set i (some { ino with data })) := by
  refine ⟨h.sound.set fun ino' hino' => ?_, ?_, ?_⟩
  · cases hino'
    exact hsound
  · rw [hshape]
    exact h.shape
  · rw [hshape]
    exact h.root

/-- An orphan has no entries: a directory is empty when it is removed. -/
lemma Inv.orphan_slots (h : Inv s sp) (hi : sp.node i = some ino) (hlink : ino.uNLink = 0)
    (hroot : i ≠ INODE_ROOTDIR) : ino.data.slots s = [] := by
  rcases hd : ino.data with d | _ | _
  · have hinfo : ino.info.fDirectory := by
      rw [FileNode.info, hd]
      rfl
    have hempty := h.shape.removed (shape_info hi) hinfo hroot hlink
    refine (h.sound.holds hi hd).trimmed.eq_nil_iff.2 fun k => ?_
    rw [← shape_entry hi hd, hempty k]
  · rfl
  · rfl

/-- `RedCoreFreeOrphan()` removes an inode without names. -/
lemma redCoreFreeOrphan_step (h : Inv s sp) (hc : sp.redCoreFreeOrphan i = .ok sp') :
    sp'.Sound s ∧ Shape.Step (sp.shape s) (sp'.shape s) := by
  obtain ⟨ino, hmount, hc⟩ := Except.bind_eq_ok hc
  have hi := mount_eq_ok hmount
  split_ifs at hc with horphan
  cases hc
  rw [not_or, not_not] at horphan
  have hroot : i ≠ INODE_ROOTDIR := by
    rintro rfl
    obtain ⟨n, hn, hne⟩ := h.root
    rw [shape_info hi] at hn
    cases hn
    exact hne horphan.1
  refine ⟨h.sound.set fun _ hv => (by cases hv), ?_⟩
  rw [shape_set]
  · exact .freeOrphan (shape_info hi) horphan.1 hroot
  · rw [Option.elim_none, slots, hi, Option.elim_some, h.orphan_slots hi horphan.1 hroot]

include hver in
/-- **Step lemma**: every operation keeps the invariant, and changes the shape as it may or not at
all. -/
lemma Inv.step (h : Inv s sp) (hs : Step s sp sp') :
    Inv s sp' ∧ (sp'.shape s = sp.shape s ∨ Shape.Step (sp.shape s) (sp'.shape s)) := by
  cases hs with
  | create hp hfree hvalid hc =>
    obtain ⟨hsound, hstep⟩ := coreCreate_step hver h.sound hp hfree hvalid hc
    exact ⟨h.of_step hsound hstep, .inr hstep⟩
  | link hp hc =>
    obtain ⟨hsound, hstep⟩ := coreLink_step hver h.sound hp hc
    exact ⟨h.of_step hsound hstep, .inr hstep⟩
  | unlink hp hc =>
    obtain ⟨hsound, hstep⟩ := coreUnlink_step hver h.sound hc
    exact ⟨h.of_step hsound hstep, .inr hstep⟩
  | rename hsrc hdst hc =>
    obtain ⟨hsound, rfl | hstep, -⟩ := coreRename_step hver h.sound h.shape hdst hc
    · exact ⟨h, .inl rfl⟩
    · exact ⟨h.of_step hsound hstep, .inr hstep⟩
  | freeOrphan hc =>
    obtain ⟨hsound, hstep⟩ := redCoreFreeOrphan_step h hc
    exact ⟨h.of_step hsound hstep, .inr hstep⟩
  | @writeFile _ _ data' _ _ hi =>
    have hshape := shape_write (s := s) hi (.reg data') rfl rfl
    exact ⟨h.write (fun _ hd => by cases hd) hshape, .inl hshape⟩
  | @writeLink _ _ data' _ _ hi =>
    have hshape := shape_write (s := s) hi (.lnk data') rfl rfl
    exact ⟨h.write (fun _ hd => by cases hd) hshape, .inl hshape⟩

include hver in
/-- A new volume has an empty root directory. -/
lemma format_inv : Inv s format := by
  have hnode (j : ℕ) (ino : FileNode) (hj : format.node j = some ino) :
      j = INODE_ROOTDIR ∧ ino = ⟨1, INODE_INVALID, .dir .empty⟩ := by
    rw [format] at hj
    dsimp only at hj
    split_ifs at hj with hr
    exact ⟨hr, (Option.some.inj hj).symm⟩
  have hroot : format.node INODE_ROOTDIR = some ⟨1, INODE_INVALID, .dir .empty⟩ := by
    rw [format, ite_eq_left_iff]
    exact fun h => absurd rfl h
  have hempty : DirData.slots s .empty = [] := DirData.empty_holds.slots_eq hver
  have hentry (x : ℕ × ℕ) : (format.shape s).entry x = none := by
    change Slots.at (format.slots s x.1) x.2 = none
    rcases hx : format.node x.1 with _ | ino
    · rw [slots, hx, Option.elim_none, Slots.at_of_length_le (Nat.zero_le _)]
    · obtain ⟨-, rfl⟩ := hnode x.1 ino hx
      rw [slots, hx, Option.elim_some, FileData.slots, hempty,
        Slots.at_of_length_le (Nat.zero_le _)]
  have hnone {x : ℕ × ℕ} {e : Dirent} (h : (format.shape s).entry x = some e) : False := by
    rw [hentry] at h
    cases h
  have hinfo {j : ℕ} {n : Info} (hj : (format.shape s).info j = some n) : j = INODE_ROOTDIR := by
    obtain ⟨ino, hino, -⟩ := shape_info_eq_some hj
    exact (hnode j ino hino).1
  refine ⟨fun j ino hj => ?_, ?_, _, shape_info hroot, Nat.one_ne_zero⟩
  · obtain ⟨-, rfl⟩ := hnode j ino hj
    rintro d ⟨⟩
    rw [hempty]
    exact DirData.empty_holds
  · exact
      { invalid := rfl
        root := ⟨_, shape_info hroot, rfl⟩
        owner := fun h => (hnone h).elim
        target := fun h => (hnone h).elim
        count := fun hn hr => absurd (hinfo hn) hr
        parent := fun h _ _ => (hnone h).elim
        unique := fun h _ _ => (hnone h).elim
        dir := fun hn _ hr => absurd (hinfo hn) hr
        removed := fun _ _ _ _ k => hentry _
        linked := fun h => (hnone h).elim }

include hver in
/-- **Run lemma**: the volume and its committed state satisfy the invariant. -/
theorem Reachable.inv {committed : Space} (h : Reachable s sp committed) :
    Inv s sp ∧ Inv s committed := by
  induction h with
  | format => exact ⟨format_inv hver, format_inv hver⟩
  | step _ hs ih => exact ⟨(ih.1.step hver hs).1, ih.2⟩
  | transact _ ih => exact ⟨ih.1, ih.1⟩
  | revert _ ih => exact ⟨ih.2, ih.2⟩

end Space

end RelianceEdge
