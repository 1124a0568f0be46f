import RelianceEdge.Lib.Keyed
import RelianceEdge.Orphan.Reach

set_option relaxedAutoImplicit false
set_option autoImplicit false
set_option linter.unusedSectionVars false

/-!
# Names as a map

The directories of a volume are one map, from a directory and a name to an inode number. An
operation that succeeds changes the map as its name says.

## Main definitions

* `NameMap`, `Space.names` — the map of the names, and the one that the directories hold.
* `entryKey` — the key of an entry: its directory and its name.

## Main results

* `Space.names_maps` — the entries of the directories hold the map.
* `Space.coreCreate_names`, `Space.coreLink_names`, `Space.coreUnlink_names`,
  `Space.coreRename_names` — what the operations do to it.
-/

namespace RelianceEdge

variable [RedConf]

open RedConf

/-- **Names**: the inode number that a name has in a directory. -/
abbrev NameMap := ℕ × List UInt8 → Option ℕ

/-- The name that a string starts with. -/
def CString.name (psz : CString) : List UInt8 := psz.take (redNameLen psz)

/-- The key of an entry: the directory it lies in, and its name. -/
def entryKey (x : ℕ × ℕ) (de : Dirent) : ℕ × List UInt8 := (x.1, de.acName)

/-- **The map that the directories hold.** -/
def Space.names (s : FS) (sp : Space) : NameMap := fun x =>
  (((sp.slots s x.1).filterMap id).find? fun de => de.acName == x.2).map Dirent.ulInode

lemma Dirent.matches_iff {e : Dirent} {psz : CString} : e.matches psz ↔ e.acName = psz.name :=
  beq_iff_eq

lemma Shape.WellFormed.distinct {S : Shape} (h : S.WellFormed) :
    Keyed.Distinct entryKey S.entry := by
  rintro ⟨p, k⟩ ⟨p', k'⟩ a b ha hb hkey
  obtain ⟨rfl, hname⟩ := Prod.mk.inj hkey
  rw [h.unique ha hb hname]

namespace Space

variable {s : FS} {sp sp' : Space} {i p q : ℕ} {psz : CString}

/-- **The entries of the directories hold the map.** -/
theorem names_maps (h : (sp.shape s).WellFormed) :
    Keyed.Maps entryKey Dirent.ulInode (sp.shape s).entry (sp.names s) := by
  rintro ⟨p, name⟩ j
  change Option.map Dirent.ulInode
    (((sp.slots s p).filterMap id).find? fun de => de.acName == name) = some j ↔ _
  rw [Option.map_eq_some_iff]
  constructor
  · rintro ⟨e, hfind, rfl⟩
    have hmem := List.mem_filterMap.1 (List.mem_of_find?_eq_some hfind)
    obtain ⟨o, ho, rfl⟩ := hmem
    obtain ⟨k, hk⟩ := Slots.mem_iff.1 ho
    have hname := List.find?_some hfind
    exact ⟨(p, k), e, hk, Prod.ext rfl (beq_iff_eq.1 hname), rfl⟩
  · rintro ⟨⟨p', k⟩, e, hk, hkey, rfl⟩
    obtain ⟨rfl, hname⟩ := Prod.mk.inj hkey
    replace hname : e.acName = name := hname
    have hmem : e ∈ (sp.slots s p').filterMap id :=
      List.mem_filterMap.2 ⟨some e, Slots.mem_iff.2 ⟨k, hk⟩, rfl⟩
    rcases hfind : ((sp.slots s p').filterMap id).find? fun de => de.acName == name with _ | e'
    · have hnone := List.find?_eq_none.1 hfind e hmem
      exact absurd (beq_iff_eq.2 hname) hnone
    · refine ⟨e', hfind, ?_⟩
      obtain ⟨o, ho, rfl⟩ := List.mem_filterMap.1 (List.mem_of_find?_eq_some hfind)
      obtain ⟨k', hk'⟩ := Slots.mem_iff.1 ho
      have hname' := List.find?_some hfind
      have heq : k' = k := h.unique (show (sp.shape s).entry (p', k') = some e' from hk') hk
        ((beq_iff_eq.1 hname').trans hname.symm)
      rw [heq] at hk'
      exact congrArg Dirent.ulInode (Option.some.inj (hk'.symm.trans hk))

/-- Two states whose entries agree have the same names. -/
lemma names_congr (h : (sp.shape s).WellFormed) (h' : (sp'.shape s).WellFormed)
    (hentry : (sp'.shape s).entry = (sp.shape s).entry) : sp'.names s = sp.names s :=
  (names_maps h').unique (hentry ▸ names_maps h)

/-- The entries say what the names are. -/
lemma names_eq (h' : (sp'.shape s).WellFormed) {M : NameMap}
    (h : Keyed.Maps entryKey Dirent.ulInode (sp'.shape s).entry M) : sp'.names s = M :=
  (names_maps h').unique h

variable (hver : redDiskLayoutIsSupported s.core.ulVersion)

include hver in
/-- Where `RedDirEntryCreate()` puts an entry, and under which name. -/
lemma Sound.create_named (h : sp.Sound s) {ino : FileNode} {d d' : DirData}
    (hp : sp.node p = some ino) (hd : ino.data = .dir d)
    (hc : d.redDirEntryCreate s psz i = .ok d') :
    ∃ k de, de.acName = psz.name ∧ de.ulInode = i ∧
      ((sp.setDir p d').shape s).entry = Function.update (sp.shape s).entry (p, k) (some de) ∧
      (sp.shape s).Vacant p k de.acName := by
  obtain ⟨k, de, hde, hput, hk, hfree, -, hfresh⟩ := (h.holds hp hd).create hver hc
  obtain ⟨hname, hi⟩ := DirData.newDirent_eq_ok hde
  refine ⟨k, de, hname, hi, ?_, ?_, fun j e hj => ?_⟩
  · rw [shape_put hp hd (hput.slots_eq hver) hk]
  · rw [shape_entry hp hd, hfree]
  · rw [shape_entry hp hd] at hj
    exact hfresh e (Slots.mem_iff.2 ⟨j, hj⟩)

/-- A name at a vacant place is one more name. -/
lemma names_insert (h : (sp.shape s).WellFormed) (h' : (sp'.shape s).WellFormed) {k : ℕ}
    {de : Dirent} (hk : (sp.shape s).Vacant p k de.acName)
    (hentry : (sp'.shape s).entry = Function.update (sp.shape s).entry (p, k) (some de)) :
    sp.names s (p, de.acName) = none ∧
      sp'.names s = Function.update (sp.names s) (p, de.acName) (some de.ulInode) := by
  have hmaps := names_maps h
  have hfresh (x : ℕ × ℕ) (e : Dirent) (hx : (sp.shape s).entry x = some e) :
      entryKey x e ≠ entryKey (p, k) de := by
    intro hkey
    obtain ⟨hxp, hname⟩ := Prod.mk.inj hkey
    obtain ⟨x1, x2⟩ := x
    obtain rfl : x1 = p := hxp
    exact hk.2 x2 e hx hname
  refine ⟨hmaps.eq_none_iff.2 hfresh, names_eq h' ?_⟩
  rw [hentry]
  exact hmaps.insert hk.1 hfresh

include hver in
/-- **`CoreCreate()`** adds a name. -/
theorem coreCreate_names (h : Inv s sp) (h' : Inv s sp') (hfree : sp.node i = none) {uMode : Mode}
    (hc : sp.coreCreate s i p psz uMode = .ok sp') : sp.names s (p, psz.name) = none ∧
      sp'.names s = Function.update (sp.names s) (p, psz.name) (some i) := by
  obtain ⟨⟨ino, d⟩, hmount, hc⟩ := Except.bind_eq_ok hc
  obtain ⟨hp, hd⟩ := mountDir_eq_ok hmount
  obtain ⟨d', hcreate, hc⟩ := Except.bind_eq_ok hc
  cases hc
  obtain ⟨k, de, hname, rfl, hentry, hvacant⟩ := h.sound.create_named hver hp hd hcreate
  have hne : de.ulInode ≠ p := by
    rintro rfl
    rw [hp] at hfree
    cases hfree
  rw [← hname]
  refine names_insert h.shape h'.shape hvacant ?_
  rw [shape_set, hentry]
  rw [Option.elim_some, new_slots hver, slots, setDir_ne hne, hfree, Option.elim_none]

include hver in
/-- **`CoreLink()`** adds a name. -/
theorem coreLink_names (h : Inv s sp) (h' : Inv s sp') (hc : sp.coreLink s p psz i = .ok sp') :
    sp.names s (p, psz.name) = none ∧
      sp'.names s = Function.update (sp.names s) (p, psz.name) (some i) := by
  obtain ⟨⟨inoP, d⟩, hmount, hc⟩ := Except.bind_eq_ok hc
  obtain ⟨hp, hd⟩ := mountDir_eq_ok hmount
  obtain ⟨ino, hmount, hc⟩ := Except.bind_eq_ok hc
  have hi := mount_eq_ok hmount
  split_ifs at hc with hdir hmax
  obtain ⟨d', hcreate, hc⟩ := Except.bind_eq_ok hc
  cases hc
  obtain ⟨k, de, hname, rfl, hentry, hvacant⟩ := h.sound.create_named hver hp hd hcreate
  have hne : de.ulInode ≠ p := by
    rintro rfl
    rw [hp] at hi
    cases hi
    exact hdir (by rw [hd]; rfl)
  have hi' : (sp.setDir p d').node de.ulInode = some ino := by rw [setDir_ne hne, hi]
  rw [← hname]
  refine names_insert h.shape h'.shape hvacant ?_
  rw [shape_modify hi' rfl, hentry]

/-- `RedInodeLinkDec()` of an inode without entries leaves the entries alone. -/
lemma redInodeLinkDec_entry (h : sp.Sound s) {fOrphan : Bool} {ino : FileNode}
    (hi : sp.node i = some ino) (hempty : ino.data.slots s = [])
    (hc : sp.redInodeLinkDec i fOrphan = .ok sp') :
    (sp'.shape s).entry = (sp.shape s).entry := by
  obtain ⟨-, v, -, hshape⟩ := redInodeLinkDec_shape h hi hempty hc
  rw [hshape]

include hver in
/-- **`CoreUnlink()`** removes a name. -/
theorem coreUnlink_names (h : Inv s sp) (h' : Inv s sp') {fOrphan : Bool}
    (hc : sp.coreUnlink s p psz fOrphan = .ok sp') : (∃ i, sp.names s (p, psz.name) = some i) ∧
      sp'.names s = Function.update (sp.names s) (p, psz.name) none := by
  unfold coreUnlink at hc
  split_ifs at hc with hparam
  obtain ⟨⟨inoP, d⟩, hmount, hc⟩ := Except.bind_eq_ok hc
  obtain ⟨hp, hd⟩ := mountDir_eq_ok hmount
  obtain ⟨⟨found, k⟩, hlookup, hc⟩ := Except.bind_eq_ok hc
  rcases found with _ | de
  · cases hc
  obtain ⟨ino, hmount, hc⟩ := Except.bind_eq_ok hc
  have hi := mount_eq_ok hmount
  split_ifs at hc with hremove
  obtain ⟨d', hdelete, hc⟩ := Except.bind_eq_ok hc
  have hholds := h.sound.holds hp hd
  obtain ⟨hat, hmatch⟩ := hholds.lookup_found hver hlookup
  obtain ⟨-, hfree⟩ := hholds.delete hver hdelete
  have hempty := slots_of_mayRemove hver h.sound hi (by simpa using hremove)
  have hne : de.ulInode ≠ p := by
    rintro rfl
    rw [hp] at hi
    cases hi
    rw [hd, FileData.slots] at hempty
    rw [hempty] at hat
    cases hat
  have hi' : (sp.setDir p d').node de.ulInode = some ino := by rw [setDir_ne hne, hi]
  have hentry := redInodeLinkDec_entry (h.sound.setDir hver hfree) hi' hempty hc
  rw [shape_free hp hd (hfree.slots_eq hver)] at hentry
  have hde : (sp.shape s).entry (p, k) = some de := by rw [shape_entry hp hd, hat]
  have hmaps := names_maps h.shape
  rw [← Dirent.matches_iff.1 hmatch]
  refine ⟨⟨de.ulInode, hmaps.eq_some hde⟩, names_eq h'.shape ?_⟩
  rw [hentry]
  exact hmaps.erase h.shape.distinct hde

/-- What `RedDirEntryRename()` does to the names that it moves. -/
lemma names_move (h : (sp.shape s).WellFormed) (h' : (sp'.shape s).WellFormed) {j k : ℕ}
    {e de : Dirent} (he : (sp.shape s).entry (p, j) = some e) (hino : de.ulInode = e.ulInode)
    (hne : (q, k) ≠ (p, j))
    (hk : (sp.shape s).Vacant q k de.acName ∨
      ∃ d, (sp.shape s).entry (q, k) = some d ∧ d.acName = de.acName)
    (hentry : (sp'.shape s).entry =
      Function.update (Function.update (sp.shape s).entry (q, k) (some de)) (p, j) none) :
    sp'.names s = Function.update (Function.update (sp.names s) (p, e.acName) none)
      (q, de.acName) (some e.ulInode) := by
  have hmaps := names_maps h
  have herase := hmaps.erase h.distinct he
  rw [Function.update_comm hne] at hentry
  refine names_eq h' ?_
  rw [hentry, ← hino]
  rcases hk with hvacant | ⟨d, hd, hname⟩
  · refine herase.insert (a := de) (i := (q, k)) ?_ fun x b hx hkey => ?_
    · rw [Function.update_of_ne hne, hvacant.1]
    · obtain ⟨hxq, hname⟩ := Prod.mk.inj hkey
      obtain ⟨x1, x2⟩ := x
      obtain rfl : x1 = q := hxq
      rcases Shape.WellFormed.entry_update hx with ⟨-, hb⟩ | ⟨-, hb⟩
      · cases hb
      · exact hvacant.2 x2 b hb hname
  · refine herase.replace (a := de) (i := (q, k)) (b := d) (h.distinct.erase _) ?_ ?_
    · rw [Function.update_of_ne hne, hd]
    · exact Prod.ext rfl hname

include hver in
/-- **`CoreRename()`** moves a name, and keeps both names when they are names of one inode. -/
theorem coreRename_names (h : Inv s sp) (h' : Inv s sp') {pszSrc pszDst : CString}
    {fOrphan : Bool} (hc : sp.coreRename s p pszSrc q pszDst fOrphan = .ok sp') :
    ∃ i, sp.names s (p, pszSrc.name) = some i ∧ sp'.names s =
      if sp.names s (q, pszDst.name) = some i then sp.names s
      else Function.update (Function.update (sp.names s) (p, pszSrc.name) none)
        (q, pszDst.name) (some i) := by
  unfold coreRename at hc
  by_cases hparam : (!deleteOpen && fOrphan) = true
  · rw [if_pos hparam] at hc
    cases hc
  rw [if_neg hparam] at hc
  obtain ⟨⟨inoP, dP⟩, hmount, hc⟩ := Except.bind_eq_ok hc
  obtain ⟨hp, hdP⟩ := mountDir_eq_ok hmount
  obtain ⟨⟨inoQ, dQ⟩, hmount, hc⟩ := Except.bind_eq_ok hc
  obtain ⟨hq, hdQ⟩ := mountDir_eq_ok hmount
  dsimp only at hc
  by_cases hdot : isDotOrDotDot pszDst (redNameLen pszDst) = true
  · rw [if_pos hdot] at hc
    cases hc
  rw [if_neg hdot] at hc
  obtain ⟨⟨src, j⟩, hsrc, hc⟩ := Except.bind_eq_ok hc
  rcases src with _ | e
  · cases hc
  obtain ⟨⟨dst, k⟩, hlookup, hc⟩ := Except.bind_eq_ok hc
  obtain ⟨hej, hmatchE⟩ := (h.sound.holds hp hdP).lookup_found hver hsrc
  have he : (sp.shape s).entry (p, j) = some e := by rw [shape_entry hp hdP, hej]
  have hmaps := names_maps h.shape
  have hholds := h.sound.holds hq hdQ
  rw [← Dirent.matches_iff.1 hmatchE]
  refine ⟨e.ulInode, hmaps.eq_some he, ?_⟩
  rcases dst with _ | d
  · dsimp only at hc
    split_ifs at hc with hfull
    obtain ⟨ino, de, hi, -, -, hde, hmove⟩ := dirEntryRename_eq_ok hc
    obtain ⟨hname, hdei⟩ := DirData.newDirent_eq_ok hde
    obtain ⟨hfresh, hfree⟩ := hholds.lookup_free hver hlookup
    obtain ⟨hk, -, hnone, -⟩ := hfree hfull
    obtain ⟨-, -, hshape⟩ := dirEntryMove_shape hver h.sound hq hdQ hk (hdei ▸ hi) hmove
    have hvacant : (sp.shape s).Vacant q k de.acName := by
      refine ⟨by rw [shape_entry hq hdQ, hnone], fun m e' hm hname' => ?_⟩
      rw [shape_entry hq hdQ] at hm
      exact hfresh e' (Slots.mem_iff.2 ⟨m, hm⟩) (Dirent.matches_iff.2 (hname'.trans hname))
    have hne : (q, k) ≠ (p, j) := by
      intro heq
      have := hvacant.1
      rw [heq, he] at this
      cases this
    have hnew : sp.names s (q, de.acName) = none := by
      refine hmaps.eq_none_iff.2 fun x e' hx hkey => ?_
      obtain ⟨hxq, hname'⟩ := Prod.mk.inj hkey
      obtain ⟨x1, x2⟩ := x
      obtain rfl : x1 = q := hxq
      exact hvacant.2 x2 e' hx hname'
    rw [show pszDst.name = de.acName from hname.symm, hnew, if_neg (by nofun)]
    exact names_move h.shape h'.shape he hdei hne (.inl hvacant) (by rw [hshape])
  · obtain ⟨hdk, hmatch⟩ := hholds.lookup_found hver hlookup
    have hdentry : (sp.shape s).entry (q, k) = some d := by rw [shape_entry hq hdQ, hdk]
    have hold : sp.names s (q, d.acName) = some d.ulInode := hmaps.eq_some hdentry
    have hdname : d.acName = pszDst.name := Dirent.matches_iff.1 hmatch
    dsimp only at hc
    split_ifs at hc with hsame
    · cases hc
      rw [hsame, ← hdname, if_pos hold]
    · obtain ⟨sp1, hrename, hdec⟩ := Except.bind_eq_ok hc
      obtain ⟨ino, de, hi, hrep, -, hde, hmove⟩ := dirEntryRename_eq_ok hrename
      obtain ⟨hname, hdei⟩ := DirData.newDirent_eq_ok hde
      obtain ⟨inoD, hD, hempty⟩ := mountReplaced_slots hver h.sound (hrep d rfl)
      have hnot (x : ℕ) (y : ℕ) (e' : Dirent) (hx : (sp.shape s).entry (x, y) = some e') :
          d.ulInode ≠ x := by
        rintro rfl
        rw [isEmpty_of_slots hD hempty y] at hx
        cases hx
      obtain ⟨hsound, hother, hshape⟩ := dirEntryMove_shape hver h.sound hq hdQ
        (Nat.le_of_lt (Slots.lt_of_at hdk)) (hdei ▸ hi) hmove
      have hD1 : sp1.node d.ulInode = some inoD := by
        rw [hother _ (hnot p j e he) (hnot q k d hdentry) (hdei ▸ Ne.symm hsame), hD]
      have hentry := redInodeLinkDec_entry hsound hD1 hempty hdec
      have hne : (q, k) ≠ (p, j) := by
        intro heq
        rw [heq, he] at hdentry
        exact hsame (congrArg Dirent.ulInode (Option.some.inj hdentry))
      have hdif : sp.names s (q, pszDst.name) ≠ some e.ulInode := by
        rw [← hdname]
        intro hc
        exact hsame (Option.some.inj (hold.symm.trans hc)).symm
      rw [if_neg hdif, show pszDst.name = de.acName from hname.symm]
      exact names_move h.shape h'.shape he hdei hne (.inr ⟨d, hdentry, hdname.trans hname.symm⟩)
        (by rw [hentry, hshape])

end Space

end RelianceEdge
