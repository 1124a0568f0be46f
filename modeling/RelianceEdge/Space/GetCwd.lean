import RelianceEdge.Posix.DirPath
import RelianceEdge.Posix.Lookup
import RelianceEdge.Space.Index
import RelianceEdge.Space.Tree

set_option relaxedAutoImplicit false
set_option autoImplicit false
set_option linter.unusedSectionVars false

/-!
# The path of a directory is the inverse of lookup

`DirInodeToPath()` puts the names on the way to a directory together, from the last one to the
first, in a buffer whose size it checks before each name. It compares sums of `uint32_t` with the
size, and does what it is for exactly when none of these sums overflows.

## Main definitions

* `SumsFit` — the sums of lengths that are compared fit 32 bits.
* `PathExact` — what `DirInodeToPath()` is for.

## Main results

* `dirInodeToPath_exact_iff` — when it does that.
* `dirInodeToPath_overruns` — an overflow writes behind the end of the buffer.
-/

namespace RelianceEdge

variable [RedConf]

open RedConf

namespace Space

variable {s : FS} {sp : Space}

/-! ## The name of a directory -/

lemma redCoreDirRead_next {t : DirTree} {p : ℕ} {d : Directory} (hp : t.node p = some (.dir d))
    (ulPos : ℕ) : t.redCoreDirRead p ulPos =
      (Slots.next (d.slots.drop ulPos) ulPos).elim (.error .ENOENT) .ok := by
  simp only [DirTree.redCoreDirRead, DirTree.mountDir_eq_ok.2 hp, bind, Except.bind, firstUsed_eq]
  rcases Slots.next (d.slots.drop ulPos) ulPos with _ | r
  · rfl
  · rfl

/-- **The loop over the parent directory** finds the name of a directory: it has no other one. -/
lemma dirFindInode_run (h : Inv s sp) {p k : ℕ} {e : Dirent}
    (he : (sp.shape s).entry (p, k) = some e) (hd : (sp.shape s).IsDir e.ulInode) :
    ∀ {fuel ulDirPos : ℕ}, ulDirPos ≤ k → k - ulDirPos < fuel →
      dirFindInode h.tree p e.ulInode fuel ulDirPos = .ok e.acName := by
  obtain ⟨ino, dd, hp, hdd⟩ := isDir_node (h.shape.owner he)
  obtain ⟨-, -, -, -, hnames⟩ := h.shape.parent_of_entry he hd
  have hat (j : ℕ) : (sp.shape s).entry (p, j) = Slots.at (dd.slots s) j := shape_entry hp hdd
  intro fuel
  induction fuel with
  | zero => exact fun _ hf => absurd hf (Nat.not_lt_zero _)
  | succ fuel ih =>
    intro ulDirPos hk hf
    unfold dirFindInode
    rw [redCoreDirRead_next (h.tree_dir hp hdd)]
    rcases hn : Slots.next ((dd.slots s).drop ulDirPos) ulDirPos with _ | ⟨e', n⟩
    · have hnone := Slots.next_eq_none.1 hn (k - ulDirPos)
      rw [Slots.at_drop, Nat.add_sub_cancel' hk, ← hat, he] at hnone
      cases hnone
    · obtain ⟨j, rfl, hj, hfree⟩ := Slots.next_eq_some.1 hn
      rw [Slots.at_drop, ← hat] at hj
      -- the loop does not pass the entry
      have hjk : ulDirPos + j ≤ k := by
        by_contra hlt
        have hnone := hfree (k - ulDirPos) (by omega)
        rw [Slots.at_drop, Nat.add_sub_cancel' hk, ← hat, he] at hnone
        cases hnone
      simp only [Option.elim_some]
      by_cases hi : e'.ulInode = e.ulInode
      · have hmem : (p, ulDirPos + j) ∈ (sp.shape s).names e.ulInode := ⟨e', hj, hi⟩
        rw [hnames, Set.mem_singleton_iff, Prod.mk.injEq] at hmem
        rw [hmem.2, he] at hj
        rw [if_pos hi, Option.some.inj hj]
      · have hne : ulDirPos + j ≠ k := by
          intro heq
          rw [heq, he] at hj
          exact hi (congrArg Dirent.ulInode (Option.some.inj hj).symm)
        rw [if_neg hi]
        exact ih (by omega) (by omega)

/-- `RedCoreDirParent()` of a directory with a name. -/
lemma redCoreDirParent_entry (h : Inv s sp) {p k : ℕ} {e : Dirent}
    (he : (sp.shape s).entry (p, k) = some e) (hd : (sp.shape s).IsDir e.ulInode) :
    h.tree.redCoreDirParent e.ulInode = .ok p := by
  obtain ⟨ino, dd, hi, hdd⟩ := isDir_node hd
  obtain ⟨n, hn, -, hp, -⟩ := h.shape.parent_of_entry he hd
  rw [shape_info hi] at hn
  obtain rfl := Option.some.inj hn
  have hpne : ino.ulPInode ≠ INODE_INVALID := by
    intro h0
    obtain ⟨m, hm, -⟩ := h.shape.owner he
    rw [← hp, show ino.info.ulPInode = INODE_INVALID from h0, h.shape.invalid] at hm
    cases hm
  have hpar : ino.ulPInode = p := hp
  simp only [DirTree.redCoreDirParent, if_neg (h.shape.target he).2, h.tree_mountDir hi hdd, bind,
    Except.bind, if_neg hpne]
  rw [hpar]

/-! ## One name -/

/-- The length of a part of the path, with its terminator. -/
def pathLen (names : List (List UInt8)) : ℕ := (joinNames names).length + 1

/-- What is put in front of a part of the path for one name. -/
def frontText (name : List UInt8) (fPathSeparator : Bool) : List UInt8 :=
  name ++ if fPathSeparator then [pathSeparator] else []

lemma joinNames_eq_frontText (name : List UInt8) (names : List (List UInt8)) :
    joinNames (name :: names) = frontText name (decide (names ≠ [])) ++ joinNames names := by
  unfold frontText
  by_cases h : names = []
  · subst h
    simp [joinNames]
  · rw [joinNames_cons h, if_pos (by simpa using h), List.append_assoc, List.singleton_append]

lemma pathLen_cons (name : List UInt8) (names : List (List UInt8)) : pathLen (name :: names) =
    pathLen names + (frontText name (decide (names ≠ []))).length := by
  rw [pathLen, pathLen, joinNames_eq_frontText, List.length_append]
  omega

/-- The name and its separator are copied in front of the path. -/
lemma pathPrepend_run (ulBufferSize len : ℕ) (e : Dirent) (fPathSeparator : Bool) (b : TextBuffer) :
    pathPrepend ulBufferSize len e.acName fPathSeparator b =
      if ulBufferSize < u32 (len + (frontText e.acName fPathSeparator).length) then
        (.error .ERANGE, b)
      else (.ok (u32 (len + (frontText e.acName fPathSeparator).length)),
        (b.move (frontText e.acName fPathSeparator).length 0 len).put 0
          (frontText e.acName fPathSeparator)) := by
  simp only [pathPrepend, e.redNameLen_acName, List.take_length]
  cases fPathSeparator with
  | false =>
    have htext : frontText e.acName false = e.acName := List.append_nil _
    simp only [htext, Bool.false_eq_true, if_false, Nat.add_zero]
    split_ifs <;> rfl
  | true =>
    have htext : frontText e.acName true = e.acName ++ [pathSeparator] := rfl
    have hlen : (e.acName ++ [pathSeparator]).length = e.acName.length + 1 := List.length_append
    have hput := TextBuffer.put_put (b.move (e.acName.length + 1) 0 len) 0 e.acName [pathSeparator]
    rw [Nat.zero_add] at hput
    simp only [htext, hlen, if_true, ← hput]
    split_ifs <;> rfl

/-- What the buffer holds: a part of the path, and nothing is written behind the buffer. -/
structure PathHeld (ulBufferSize : ℕ) (b : TextBuffer) (names : List (List UInt8)) : Prop where
  holds : b.Holds (joinNames names ++ [0])
  extent_le : b.extent ≤ ulBufferSize
  fits : pathLen names ≤ ulBufferSize

variable {ulBufferSize : ℕ} {b : TextBuffer} {back : List (List UInt8)} (e : Dirent)

/-- **A name that fits** is put in front of the path. -/
lemma pathPrepend_fits (hb : PathHeld ulBufferSize b back) (hB : ulBufferSize ≤ UINT32_MAX)
    (hfit : pathLen (e.acName :: back) ≤ ulBufferSize) :
    ∃ b', pathPrepend ulBufferSize (pathLen back) e.acName (decide (back ≠ [])) b =
      (.ok (pathLen (e.acName :: back)), b') ∧ PathHeld ulBufferSize b' (e.acName :: back) := by
  have hrun := pathPrepend_run ulBufferSize (pathLen back) e (decide (back ≠ [])) b
  rw [← pathLen_cons, u32_of_le (hfit.trans hB), if_neg (Nat.not_lt.2 hfit)] at hrun
  refine ⟨_, hrun, ?_, ?_, hfit⟩
  · rw [joinNames_eq_frontText, List.append_assoc]
    have hheld := hb.holds.prepend (frontText e.acName (decide (back ≠ [])))
    rwa [List.length_append, List.length_singleton] at hheld
  · rw [pathLen_cons] at hfit
    exact TextBuffer.extent_put_le (TextBuffer.extent_move_le hb.extent_le (by omega)) (by omega)

/-- A name that does not fit is refused. -/
lemma pathPrepend_refuses (hfit : ulBufferSize < pathLen (e.acName :: back))
    (hsum : pathLen (e.acName :: back) ≤ UINT32_MAX) :
    pathPrepend ulBufferSize (pathLen back) e.acName (decide (back ≠ [])) b =
      (.error .ERANGE, b) := by
  rw [pathPrepend_run, ← pathLen_cons, u32_of_le hsum, if_pos hfit]

/-- A name is far shorter than a sum that overflows. -/
lemma length_frontText_le (fPathSeparator : Bool) :
    (frontText e.acName fPathSeparator).length ≤ 65536 := by
  have hname := e.length_le
  have hmax := nameMax_mem.2
  have hblock : 2 ^ blockSizeP2 ≤ 2 ^ 16 := Nat.pow_le_pow_right (by decide) blockSizeP2_mem.2
  rw [frontText, List.length_append]
  split_ifs <;> simp only [List.length_singleton, List.length_nil] <;> omega

/-- **A sum that overflows** passes for a small one: the copy runs over the end of the buffer. -/
lemma pathPrepend_overruns (hfit : pathLen back ≤ ulBufferSize) (hB : ulBufferSize ≤ UINT32_MAX)
    (hsum : UINT32_MAX < pathLen (e.acName :: back)) :
    ulBufferSize < (pathPrepend ulBufferSize (pathLen back) e.acName (decide (back ≠ []))
      b).2.extent := by
  have hname := length_frontText_le e (decide (back ≠ []))
  rw [pathLen_cons] at hsum
  rw [pathPrepend_run, if_neg]
  · refine lt_of_lt_of_le ?_ TextBuffer.extent_le_put
    refine lt_of_lt_of_le ?_ (TextBuffer.le_extent_move (Nat.succ_pos _))
    omega
  · unfold u32
    unfold UINT32_MAX at hsum hB
    omega

/-! ## The loop up to the root directory -/

/-- No name takes the path from a length that fits the buffer to one that exceeds 32 bits. -/
def NamesFit (ulBufferSize : ℕ) (names back : List (List UInt8)) : Prop :=
  ∀ front name mid, names = front ++ name :: mid → pathLen (mid ++ back) ≤ ulBufferSize →
    pathLen (name :: mid ++ back) ≤ UINT32_MAX

lemma namesFit_concat {names : List (List UInt8)} {name : List UInt8} :
    NamesFit ulBufferSize (names ++ [name]) back ↔
      (pathLen back ≤ ulBufferSize → pathLen (name :: back) ≤ UINT32_MAX) ∧
        NamesFit ulBufferSize names (name :: back) := by
  constructor
  · intro h
    refine ⟨h names name [] rfl, fun front name' mid hnames hlen => ?_⟩
    have := h front name' (mid ++ [name]) (by rw [hnames]; simp)
    simpa using this (by simpa using hlen)
  · rintro ⟨h1, h2⟩ front name' mid hnames hlen
    rcases List.eq_nil_or_concat mid with rfl | ⟨mid, last, rfl⟩
    · obtain ⟨-, hlast⟩ := List.append_inj' hnames rfl
      obtain rfl : name = name' := (List.cons.inj hlast).1
      exact h1 hlen
    · rw [List.concat_eq_append] at hnames hlen ⊢
      have hsplit : front ++ name' :: (mid ++ [last]) = (front ++ name' :: mid) ++ [last] := by simp
      rw [hsplit] at hnames
      obtain ⟨hfront, hlast⟩ := List.append_inj' hnames rfl
      obtain rfl : name = last := (List.cons.inj hlast).1
      have := h2 front name' mid hfront (by simpa using hlen)
      simpa using this

variable {path : List (List UInt8)} {ulDirInode : ℕ}

/-- One round of the loop, for a directory with a name. -/
lemma dirInodeToPathLoop_round (h : Inv s sp) {p k : ℕ}
    (he : (sp.shape s).entry (p, k) = some e) (hd : (sp.shape s).IsDir e.ulInode) {n : ℕ}
    (hn : k < n) (fuel len : ℕ) (b : TextBuffer) :
    dirInodeToPathLoop h.tree n ulDirInode ulBufferSize (fuel + 1) e.ulInode len b =
      (pathPrepend ulBufferSize len e.acName (e.ulInode != ulDirInode) >>= fun len' =>
        dirInodeToPathLoop h.tree n ulDirInode ulBufferSize fuel p len') b := by
  rw [dirInodeToPathLoop, if_neg (h.shape.target he).2, redCoreDirParent_entry h he hd]
  change (Op.ofExcept (dirFindInode h.tree p e.ulInode n 0) >>= fun szName =>
    pathPrepend ulBufferSize len szName (e.ulInode != ulDirInode) >>= fun len' =>
      dirInodeToPathLoop h.tree n ulDirInode ulBufferSize fuel p len') b = _
  rw [dirFindInode_run h he hd (Nat.zero_le k) (by omega)]
  rfl

/-- A directory on the way is not the one whose path is wanted, once a name has been passed. -/
lemma bne_dirInode (h : Inv s sp) (hd : (sp.shape s).PathTo path ulDirInode)
    {names : List (List UInt8)} {i : ℕ} (hp : (sp.shape s).PathTo names i)
    (hpath : names ++ back = path) (hfirst : back = [] → i = ulDirInode) :
    (i != ulDirInode) = decide (back ≠ []) := by
  by_cases hback : back = []
  · simp [hback, hfirst hback]
  · have hne : i ≠ ulDirInode := by
      rintro rfl
      rw [h.shape.pathTo_unique hp hd] at hpath
      exact hback (by simpa using hpath)
    simp [hback, hne]

/-- **The loop without overflow**: it returns the path, or it refuses because of its length. -/
lemma dirInodeToPathLoop_run (h : Inv s sp) (hd : (sp.shape s).PathTo path ulDirInode)
    (hB : ulBufferSize ≤ UINT32_MAX) {names : List (List UInt8)} {i : ℕ}
    (hp : (sp.shape s).PathTo names i) :
    ∃ N, ∀ {b : TextBuffer} {back : List (List UInt8)}, PathHeld ulBufferSize b back →
      names ++ back = path → (back = [] → i = ulDirInode) → NamesFit ulBufferSize names back →
      ∃ r b', (∀ n ≥ N, ∀ fuel ≥ N, dirInodeToPathLoop h.tree n ulDirInode ulBufferSize fuel i
          (pathLen back) b = (r, b')) ∧
        (r = .ok (pathLen path) ∧ PathHeld ulBufferSize b' path ∨
          r = .error .ERANGE ∧ ulBufferSize < pathLen path ∧ b'.extent ≤ ulBufferSize) := by
  induction hp with
  | root =>
    refine ⟨0, fun {b back} hb hpath _ _ => ⟨.ok (pathLen back), b, fun n _ fuel _ => ?_, ?_⟩⟩
    · unfold dirInodeToPathLoop
      rw [if_pos rfl]
      rfl
    · rw [List.nil_append] at hpath
      subst hpath
      exact Or.inl ⟨rfl, hb⟩
  | @child names p k e he hp hdir ih =>
    obtain ⟨N, ih⟩ := ih
    refine ⟨max (k + 1) (N + 1), fun {b back} hb hpath hfirst hfit => ?_⟩
    have hbne := bne_dirInode h hd (.child he hp hdir) hpath hfirst
    obtain ⟨hsum, hrest⟩ := namesFit_concat.1 hfit
    have hpath' : names ++ e.acName :: back = path := by
      rw [← hpath, List.append_assoc, List.singleton_append]
    have hsum := hsum hb.fits
    by_cases hlen : pathLen (e.acName :: back) ≤ ulBufferSize
    · obtain ⟨b1, hrun, hb1⟩ := pathPrepend_fits e hb hB hlen
      obtain ⟨r, b', hloop, hr⟩ := ih hb1 hpath' (fun hnil => by cases hnil) hrest
      refine ⟨r, b', fun n hn fuel hfuel => ?_, hr⟩
      obtain ⟨fuel, rfl⟩ : ∃ f, fuel = f + 1 := ⟨fuel - 1, by omega⟩
      rw [dirInodeToPathLoop_round e h he hdir (by omega), hbne, Op.bind_ok hrun]
      exact hloop n (by omega) fuel (by omega)
    · refine ⟨.error .ERANGE, b, fun n hn fuel hfuel => ?_, Or.inr ⟨rfl, ?_, hb.extent_le⟩⟩
      · obtain ⟨fuel, rfl⟩ : ∃ f, fuel = f + 1 := ⟨fuel - 1, by omega⟩
        rw [dirInodeToPathLoop_round e h he hdir (by omega), hbne,
          Op.bind_error (pathPrepend_refuses e (Nat.lt_of_not_le hlen) hsum)]
      · have hle := length_joinNames_append names (e.acName :: back)
        rw [hpath'] at hle
        unfold pathLen at hlen ⊢
        omega

/-- **The loop with an overflow** runs over the end of the buffer. -/
lemma dirInodeToPathLoop_overruns (h : Inv s sp) (hd : (sp.shape s).PathTo path ulDirInode)
    (hB : ulBufferSize ≤ UINT32_MAX) {names : List (List UInt8)} {i : ℕ}
    (hp : (sp.shape s).PathTo names i) :
    ∃ N, ∀ {b : TextBuffer} {back : List (List UInt8)}, PathHeld ulBufferSize b back →
      names ++ back = path → (back = [] → i = ulDirInode) → ¬ NamesFit ulBufferSize names back →
      ∀ n ≥ N, ∀ fuel ≥ N, ulBufferSize < (dirInodeToPathLoop h.tree n ulDirInode ulBufferSize
        fuel i (pathLen back) b).2.extent := by
  induction hp with
  | root =>
    refine ⟨0, fun {b back} _ _ _ hfit => absurd (fun front name mid hnames => ?_) hfit⟩
    exact absurd hnames (by simp)
  | @child names p k e he hp hdir ih =>
    obtain ⟨N, ih⟩ := ih
    refine ⟨max (k + 1) (N + 1), fun {b back} hb hpath hfirst hfit n hn fuel hfuel => ?_⟩
    obtain ⟨fuel, rfl⟩ : ∃ f, fuel = f + 1 := ⟨fuel - 1, by omega⟩
    have hbne := bne_dirInode h hd (.child he hp hdir) hpath hfirst
    have hpath' : names ++ e.acName :: back = path := by
      rw [← hpath, List.append_assoc, List.singleton_append]
    rw [dirInodeToPathLoop_round e h he hdir (by omega), hbne]
    rw [namesFit_concat, not_and] at hfit
    by_cases hsum : pathLen (e.acName :: back) ≤ UINT32_MAX
    · have hrest := hfit fun _ => hsum
      have hlen : pathLen (e.acName :: back) ≤ ulBufferSize := by
        by_contra hlen
        refine hrest fun front name mid _ hmid => absurd hmid ?_
        have hle := length_joinNames_append mid (e.acName :: back)
        unfold pathLen at hlen ⊢
        omega
      obtain ⟨b1, hrun, hb1⟩ := pathPrepend_fits e hb hB hlen
      rw [Op.bind_ok hrun]
      exact ih hb1 hpath' (fun hnil => by cases hnil) hrest n (by omega) fuel (by omega)
    · -- what comes after the overflow only writes more
      have hover := pathPrepend_overruns e (b := b) hb.fits hB (Nat.lt_of_not_le hsum)
      rcases hrun : pathPrepend ulBufferSize (pathLen back) e.acName (decide (back ≠ [])) b with
        ⟨err | len', b1⟩
      · rw [hrun] at hover
        rw [Op.bind_error hrun]
        exact hover
      · rw [hrun] at hover
        rw [Op.bind_ok hrun]
        exact lt_of_lt_of_le hover (dirInodeToPathLoop_respects n ulDirInode ulBufferSize fuel p
          len' b1).1

/-! ## The volume prefix -/

lemma length_dirPath (pszVolume : CString) (names : List (List UInt8)) :
    (dirPath pszVolume names).length + 1 = pathLen names + pszVolume.length + 1 := by
  rw [dirPath, List.length_append, List.length_cons, pathLen]
  omega

lemma pathPrependVolume_fits {pszVolume : CString} (hb : PathHeld ulBufferSize b path)
    (hB : ulBufferSize ≤ UINT32_MAX) (hfit : (dirPath pszVolume path).length + 1 ≤ ulBufferSize) :
    ∃ b', pathPrependVolume ulBufferSize (pathLen path) pszVolume b = (.ok (), b') ∧
      b'.Holds (dirPath pszVolume path ++ [0]) ∧ b'.extent ≤ ulBufferSize := by
  have hlen := length_dirPath pszVolume path
  have hput := TextBuffer.put_put (b.move (pszVolume.length + 1) 0 (pathLen path)) 0 pszVolume
    [pathSeparator]
  rw [Nat.zero_add] at hput
  have hrun : pathPrependVolume ulBufferSize (pathLen path) pszVolume b =
      (.ok (), (b.move (pszVolume.length + 1) 0 (pathLen path)).put 0
        (pszVolume ++ [pathSeparator])) := by
    unfold pathPrependVolume
    rw [u32_of_le (n := pathLen path + pszVolume.length + 1) (by omega),
      u32_of_le (n := pszVolume.length + 1) (by omega), if_neg (by omega), ← hput]
    rfl
  refine ⟨_, hrun, ?_, ?_⟩
  · have hheld := hb.holds.prepend (pszVolume ++ [pathSeparator])
    rw [List.length_append, List.length_append, List.length_singleton, List.length_singleton]
      at hheld
    have htext : dirPath pszVolume path ++ [0] =
        pszVolume ++ [pathSeparator] ++ (joinNames path ++ [0]) := by
      simp [dirPath]
    rwa [htext]
  · refine TextBuffer.extent_put_le (TextBuffer.extent_move_le hb.extent_le (by omega)) ?_
    rw [List.length_append, List.length_singleton]
    omega

lemma pathPrependVolume_refuses {pszVolume : CString}
    (hfit : ulBufferSize < (dirPath pszVolume path).length + 1)
    (hsum : (dirPath pszVolume path).length + 1 ≤ UINT32_MAX) :
    pathPrependVolume ulBufferSize (pathLen path) pszVolume b = (.error .ERANGE, b) := by
  have hlen := length_dirPath pszVolume path
  unfold pathPrependVolume
  rw [u32_of_le (by omega), if_pos (by omega)]
  rfl

lemma pathPrependVolume_overruns {pszVolume : CString} (hvol : pszVolume.length ≤ UINT32_MAX)
    (hfit : pathLen path ≤ ulBufferSize) (hB : ulBufferSize ≤ UINT32_MAX)
    (hsum : UINT32_MAX < (dirPath pszVolume path).length + 1) :
    ulBufferSize < (pathPrependVolume ulBufferSize (pathLen path) pszVolume b).2.extent := by
  have hlen := length_dirPath pszVolume path
  have hu : u32 (pathLen path + pszVolume.length + 1) ≤ ulBufferSize := by
    unfold u32
    unfold UINT32_MAX at hvol hB hsum
    omega
  unfold pathPrependVolume
  rw [if_neg (Nat.not_lt.2 hu)]
  change ulBufferSize < (((b.move (u32 (pszVolume.length + 1)) 0 (pathLen path)).put 0
    pszVolume).put pszVolume.length [pathSeparator]).extent
  by_cases hmax : pszVolume.length + 1 ≤ UINT32_MAX
  · refine lt_of_lt_of_le ?_ TextBuffer.extent_le_put
    refine lt_of_lt_of_le ?_ TextBuffer.extent_le_put
    refine lt_of_lt_of_le ?_ (TextBuffer.le_extent_move (show 0 < pathLen path from Nat.succ_pos _))
    rw [u32_of_le hmax]
    omega
  · refine lt_of_lt_of_le ?_ (TextBuffer.le_extent_put (List.cons_ne_nil _ _))
    rw [List.length_singleton]
    omega

/-! ## The whole path -/

/-- **The sums of lengths fit 32 bits**: neither a name nor the prefix takes the path from a length
that fits the buffer to one that exceeds `UINT32_MAX`. -/
def SumsFit (ulBufferSize : ℕ) (pszVolume : CString) (names : List (List UInt8)) : Prop :=
  NamesFit ulBufferSize names [] ∧
    (pathLen names ≤ ulBufferSize → (dirPath pszVolume names).length + 1 ≤ UINT32_MAX)

/-- **What `DirInodeToPath()` is for**, on a directory with the given names: it returns, writes
inside the buffer only, fails with `-RED_ERANGE` exactly when the path with its terminator is longer
than the buffer, and otherwise leaves the path, of which `RedPathLookup()` finds the directory
when the path selects its volume. -/
def PathExact (t : DirTree) (gaRedVolConf : List PathPrefix) (bVolNum : Fin gaRedVolConf.length)
    (ulDirInode ulBufferSize ulFlags : ℕ) (names : List (List UInt8)) (m : Memory) : Prop :=
  let vol := gaRedVolConf.get bVolNum
  let path := dirPath (flagsPrefix vol ulFlags) names
  ∃ r b, (∃ N, ∀ fuel ≥ N,
      dirInodeToPath t vol fuel ulDirInode ulBufferSize ulFlags ⟨m, 0⟩ = (r, b)) ∧
    b.extent ≤ ulBufferSize ∧ (∀ x, ulBufferSize ≤ x → b.byte x = m x) ∧
    (r = .error .ERANGE ↔ ulBufferSize < path.length + 1) ∧
    (path.length + 1 ≤ ulBufferSize → r = .ok () ∧ b.Holds (path ++ [0]) ∧
      (ulFlags = 0 → ∀ rest, pathStartingPoint gaRedVolConf path = .ok (bVolNum.val, rest) →
        ∃ N, ∀ fuel ≥ N, redPathLookup t fuel INODE_ROOTDIR rest 0 = .ok ulDirInode))

lemma length_flagsPrefix (vol : PathPrefix) (ulFlags : ℕ) :
    (flagsPrefix vol ulFlags).length ≤ UINT32_MAX := by
  unfold flagsPrefix
  split_ifs
  · exact Nat.zero_le _
  · exact vol.length_le

/-- The rest of a path behind the prefix of its volume. -/
lemma pathStartingPoint_dirPath {gaRedVolConf : List PathPrefix}
    {bVolNum : Fin gaRedVolConf.length} {names : List (List UInt8)} {rest : CString}
    (h : pathStartingPoint gaRedVolConf (dirPath (gaRedVolConf.get bVolNum).psz names) =
      .ok (bVolNum.val, rest)) : rest = pathSeparator :: joinNames names := by
  obtain ⟨v, -, h⟩ := Except.bind_eq_ok h
  rcases hv : gaRedVolConf[v]? with _ | vol
  · rw [hv] at h
    cases h
  · rw [hv] at h
    obtain ⟨rfl, rfl⟩ := Prod.mk.inj (Except.ok.inj h)
    obtain ⟨hlt, rfl⟩ := List.getElem?_eq_some_iff.1 hv
    exact List.drop_left

/-- The lookup of the rest of the path. -/
lemma redPathLookup_pathTo (h : Inv s sp) (hd : (sp.shape s).PathTo path ulDirInode)
    (hlen : pathLen path ≤ UINT32_MAX) :
    ∃ N, ∀ fuel ≥ N, redPathLookup h.tree fuel INODE_ROOTDIR (pathSeparator :: joinNames path) 0 =
      .ok ulDirInode := by
  have hstrlen : CString.strlen (pathSeparator :: joinNames path) ≤ UINT32_MAX := by
    refine le_trans (List.takeWhile_prefix _).length_le ?_
    rw [List.length_cons]
    exact hlen
  have hnames : pathNames (pathSeparator :: joinNames path) = path := by
    rw [pathNames_of_separator rfl]
    exact pathNames_joinNames fun _ hn => hd.mem hn
  obtain ⟨N, hN⟩ : ∃ N, ∀ fuel ≥ N,
      redPathLookup h.tree fuel INODE_ROOTDIR (pathSeparator :: joinNames path) 0 =
        h.tree.resolveLookup INODE_ROOTDIR (pathNames (pathSeparator :: joinNames path)) 0 :=
    redPathLookup_run hstrlen
  refine ⟨N, fun fuel hfuel => ?_⟩
  rw [hN fuel hfuel, hnames, h.resolveLookup_pathTo hd]

/-- The start of `DirInodeToPath()`: an empty path. -/
lemma pathHeld_start (hB : 0 < ulBufferSize) (m : Memory) :
    PathHeld ulBufferSize ((⟨m, 0⟩ : TextBuffer).put 0 [0]) [] where
  holds := by
    intro k hk
    obtain rfl : k = 0 := Nat.lt_one_iff.1 hk
    rfl
  extent_le := TextBuffer.extent_put_le (Nat.zero_le _) hB
  fits := hB

lemma dirInodeToPath_eq {t : DirTree} {ulFlags : ℕ} (vol : PathPrefix) (fuel : ℕ) (b : TextBuffer)
    (hB : 0 < ulBufferSize) (hflags : ulFlags = 0 ∨ ulFlags = RED_GETDIRPATH_NOVOLUME) :
    dirInodeToPath t vol fuel ulDirInode ulBufferSize ulFlags b =
      (dirInodeToPathLoop t fuel ulDirInode ulBufferSize fuel ulDirInode (pathLen []) >>= fun len =>
        pathPrependVolume ulBufferSize len (flagsPrefix vol ulFlags)) (b.put 0 [0]) := by
  have hand : ulFlags &&& RED_GETDIRPATH_NOVOLUME = ulFlags := by
    rcases hflags with rfl | rfl <;> rfl
  rw [dirInodeToPath, if_neg (by simp only [hand]; omega)]
  rfl

/-- **Without overflow** the path is what it should be. -/
lemma pathExact_of_sumsFit (h : Inv s sp) (gaRedVolConf : List PathPrefix)
    (bVolNum : Fin gaRedVolConf.length) {ulFlags : ℕ} (m : Memory)
    (hd : (sp.shape s).PathTo path ulDirInode) (hpos : 0 < ulBufferSize)
    (hB : ulBufferSize ≤ UINT32_MAX) (hflags : ulFlags = 0 ∨ ulFlags = RED_GETDIRPATH_NOVOLUME)
    (hfit : SumsFit ulBufferSize (flagsPrefix (gaRedVolConf.get bVolNum) ulFlags) path) :
    PathExact h.tree gaRedVolConf bVolNum ulDirInode ulBufferSize ulFlags path m := by
  set vol := gaRedVolConf.get bVolNum with hvol
  set pszVolume := flagsPrefix vol ulFlags with hpsz
  have hlen := length_dirPath pszVolume path
  obtain ⟨N, hloop⟩ := dirInodeToPathLoop_run h hd hB hd
  obtain ⟨r, b', hrun, hr⟩ := hloop (pathHeld_start hpos m) (List.append_nil _) (fun _ => rfl)
    hfit.1
  -- the outcome, once the loop has its rounds
  have hsuffices : ∃ r b, (∀ fuel ≥ N,
        dirInodeToPath h.tree vol fuel ulDirInode ulBufferSize ulFlags ⟨m, 0⟩ = (r, b)) ∧
      b.extent ≤ ulBufferSize ∧
      (r = .error .ERANGE ∧ ulBufferSize < (dirPath pszVolume path).length + 1 ∨
        r = .ok () ∧ (dirPath pszVolume path).length + 1 ≤ ulBufferSize ∧
          b.Holds (dirPath pszVolume path ++ [0])) := by
    rcases hr with ⟨rfl, hheld⟩ | ⟨rfl, hlong, hext⟩
    · by_cases hwhole : (dirPath pszVolume path).length + 1 ≤ ulBufferSize
      · obtain ⟨b'', hend, hholds, hext⟩ := pathPrependVolume_fits hheld hB hwhole
        refine ⟨.ok (), b'', fun fuel hfuel => ?_, hext, Or.inr ⟨rfl, hwhole, hholds⟩⟩
        rw [dirInodeToPath_eq vol fuel _ hpos hflags, Op.bind_ok (hrun fuel hfuel fuel hfuel), hend]
      · refine ⟨.error .ERANGE, b', fun fuel hfuel => ?_, hheld.extent_le,
          Or.inl ⟨rfl, Nat.lt_of_not_le hwhole⟩⟩
        rw [dirInodeToPath_eq vol fuel _ hpos hflags, Op.bind_ok (hrun fuel hfuel fuel hfuel)]
        exact pathPrependVolume_refuses (Nat.lt_of_not_le hwhole) (hfit.2 hheld.fits)
    · refine ⟨.error .ERANGE, b', fun fuel hfuel => ?_, hext, Or.inl ⟨rfl, by omega⟩⟩
      rw [dirInodeToPath_eq vol fuel _ hpos hflags, Op.bind_error (hrun fuel hfuel fuel hfuel)]
  obtain ⟨r, b, hresult, hext, hcases⟩ := hsuffices
  have hframe := (dirInodeToPath_frame (t := h.tree) vol N ulDirInode ulBufferSize ulFlags) ⟨m, 0⟩
  rw [hresult N le_rfl] at hframe
  refine ⟨r, b, ⟨N, hresult⟩, hext, fun x hx => hframe.2 x (hext.trans hx), ?_, fun hwhole => ?_⟩
  · rcases hcases with ⟨rfl, hlong⟩ | ⟨rfl, hshort, -⟩
    · exact ⟨fun _ => hlong, fun _ => rfl⟩
    · exact ⟨fun hc => (by cases hc), fun hlong => absurd hshort (Nat.not_le.2 hlong)⟩
  · rcases hcases with ⟨-, hlong⟩ | ⟨rfl, -, hholds⟩
    · exact absurd hwhole (Nat.not_le.2 hlong)
    · refine ⟨rfl, hholds, ?_⟩
      rintro rfl rest hrest
      rw [show flagsPrefix vol 0 = vol.psz from if_neg (by decide)] at hrest
      rw [pathStartingPoint_dirPath hrest]
      have hwhole' : (dirPath pszVolume path).length + 1 ≤ ulBufferSize := hwhole
      exact redPathLookup_pathTo h hd (by omega)

/-- **With an overflow** something is written behind the end of the buffer. -/
lemma dirInodeToPath_overruns (h : Inv s sp) (vol : PathPrefix) {ulFlags : ℕ} (m : Memory)
    (hd : (sp.shape s).PathTo path ulDirInode) (hpos : 0 < ulBufferSize)
    (hB : ulBufferSize ≤ UINT32_MAX) (hflags : ulFlags = 0 ∨ ulFlags = RED_GETDIRPATH_NOVOLUME)
    (hfit : ¬ SumsFit ulBufferSize (flagsPrefix vol ulFlags) path) :
    ∃ N, ∀ fuel ≥ N, ulBufferSize <
      (dirInodeToPath h.tree vol fuel ulDirInode ulBufferSize ulFlags ⟨m, 0⟩).2.extent := by
  by_cases hnames : NamesFit ulBufferSize path []
  · rw [SumsFit, not_and, Classical.not_imp] at hfit
    obtain ⟨hlen, hsum⟩ := hfit hnames
    obtain ⟨N, hloop⟩ := dirInodeToPathLoop_run h hd hB hd
    obtain ⟨r, b', hrun, hr⟩ := hloop (pathHeld_start hpos m) (List.append_nil _) (fun _ => rfl)
      hnames
    refine ⟨N, fun fuel hfuel => ?_⟩
    rw [dirInodeToPath_eq vol fuel _ hpos hflags]
    rcases hr with ⟨rfl, hheld⟩ | ⟨-, hlong, -⟩
    · rw [Op.bind_ok (hrun fuel hfuel fuel hfuel)]
      exact pathPrependVolume_overruns (length_flagsPrefix vol ulFlags) hlen hB
        (Nat.lt_of_not_le hsum)
    · exact absurd hlen (Nat.not_le.2 hlong)
  · obtain ⟨N, hloop⟩ := dirInodeToPathLoop_overruns h hd hB hd
    have hover := hloop (pathHeld_start hpos m) (List.append_nil _) (fun _ => rfl) hnames
    refine ⟨N, fun fuel hfuel => ?_⟩
    rw [dirInodeToPath_eq vol fuel _ hpos hflags]
    have hlt := hover fuel hfuel fuel hfuel
    rcases hrun : dirInodeToPathLoop h.tree fuel ulDirInode ulBufferSize fuel ulDirInode
      (pathLen []) ((⟨m, 0⟩ : TextBuffer).put 0 [0]) with ⟨err | len, b⟩
    · rw [hrun] at hlt
      rw [Op.bind_error hrun]
      exact hlt
    · rw [hrun] at hlt
      rw [Op.bind_ok hrun]
      exact lt_of_lt_of_le hlt (pathPrependVolume_respects ulBufferSize len _ b).1

/-- What is written behind the end of the buffer is not what `DirInodeToPath()` is for. -/
lemma not_pathExact (h : Inv s sp) (gaRedVolConf : List PathPrefix)
    (bVolNum : Fin gaRedVolConf.length) {ulFlags : ℕ} (m : Memory)
    (hd : (sp.shape s).PathTo path ulDirInode) (hpos : 0 < ulBufferSize)
    (hB : ulBufferSize ≤ UINT32_MAX) (hflags : ulFlags = 0 ∨ ulFlags = RED_GETDIRPATH_NOVOLUME)
    (hfit : ¬ SumsFit ulBufferSize (flagsPrefix (gaRedVolConf.get bVolNum) ulFlags) path) :
    ¬ PathExact h.tree gaRedVolConf bVolNum ulDirInode ulBufferSize ulFlags path m := by
  rintro ⟨r, b, ⟨N, hrun⟩, hext, -⟩
  obtain ⟨M, hover⟩ := dirInodeToPath_overruns h (gaRedVolConf.get bVolNum) m hd hpos hB hflags hfit
  have hlt := hover (max N M) (le_max_right N M)
  rw [hrun (max N M) (le_max_left N M)] at hlt
  exact Nat.not_lt.2 hext hlt

/-- **The working-directory path is the inverse of lookup** exactly when no sum of lengths
overflows: on every directory of a reachable volume that has a name, which has one list of names. -/
theorem dirInodeToPath_exact_iff (s : FS) (hver : redDiskLayoutIsSupported s.core.ulVersion)
    {sp committed : Space} (h : Reachable s sp committed) (gaRedVolConf : List PathPrefix)
    (bVolNum : Fin gaRedVolConf.length) {ulDirInode ulBufferSize ulFlags : ℕ} (m : Memory)
    (hd : (sp.shape s).Linked ulDirInode) (hpos : 0 < ulBufferSize)
    (hB : ulBufferSize ≤ UINT32_MAX) (hflags : ulFlags = 0 ∨ ulFlags = RED_GETDIRPATH_NOVOLUME) :
    ∃! names, (sp.shape s).PathTo names ulDirInode ∧
      (PathExact (h.inv hver).1.tree gaRedVolConf bVolNum ulDirInode ulBufferSize ulFlags names m ↔
        SumsFit ulBufferSize (flagsPrefix (gaRedVolConf.get bVolNum) ulFlags) names) := by
  have hinv := (h.inv hver).1
  obtain ⟨names, hp⟩ := hd.exists_pathTo
  refine ⟨names, ⟨hp, fun hexact => ?_, ?_⟩, fun names' hp' => hinv.shape.pathTo_unique hp hp'.1⟩
  · by_contra hfit
    exact not_pathExact hinv gaRedVolConf bVolNum m hp hpos hB hflags hfit hexact
  · exact pathExact_of_sumsFit hinv gaRedVolConf bVolNum m hp hpos hB hflags

/-! ## A path that is too long -/

/-- A chain of names stays when entries are added. -/
lemma pathTo_mono {S S' : Shape} (hentry : ∀ {x e}, S.entry x = some e → S'.entry x = some e)
    (hdir : ∀ {i}, S.IsDir i → S'.IsDir i) {names : List (List UInt8)} {i : ℕ}
    (h : S.PathTo names i) : S'.PathTo names i := by
  induction h with
  | root => exact .root
  | child he _ hd ih => exact .child (hentry he) ih (hdir hd)

/-- **A directory in an empty directory**: its path is one name longer. -/
lemma reachable_mkdir (hver : redDiskLayoutIsSupported s.core.ulVersion)
    (hmax : 0 < s.direntsMax) {committed : Space} (h : Reachable s sp committed) {p q i : ℕ}
    {names : List (List UInt8)} (hp : (sp.shape s).PathTo names p) (hpar : sp.HasParent p)
    (hnode : sp.node p = some ⟨1, q, .dir .empty⟩) (hfree : sp.node i = none)
    (hvalid : i ≠ INODE_INVALID) {name : CString} {de : Dirent}
    (hde : DirData.newDirent name i = .ok de) :
    ∃ sp', Reachable s sp' committed ∧ (sp'.shape s).PathTo (names ++ [de.acName]) i ∧
      sp'.node i = some ⟨1, p, .dir .empty⟩ ∧ ∀ j, j ≠ p → j ≠ i → sp'.node j = sp.node j := by
  have hne : p ≠ i := by
    rintro rfl
    rw [hnode] at hfree
    cases hfree
  obtain ⟨sp', d', hc, hp', hl', hi', hother⟩ := coreCreate_append hver hnode rfl
    DirData.empty_holds (fun o ho => by cases ho) hmax hde (fun e he => by cases he) hne .dir
  have hslots : d'.slots s = [some de] := hl'.slots_eq hver
  have hentry {x : ℕ × ℕ} {e : Dirent} (he : (sp.shape s).entry x = some e) :
      (sp'.shape s).entry x = some e := by
    obtain ⟨x, k⟩ := x
    change Slots.at (sp.slots s x) k = some e at he
    change Slots.at (sp'.slots s x) k = some e
    have hxp : x ≠ p := by
      rintro rfl
      rw [slots_dir hnode rfl, DirData.empty_holds.slots_eq hver] at he
      cases he
    have hxi : x ≠ i := by
      rintro rfl
      rw [slots, hfree] at he
      cases he
    rwa [slots, hother x hxp hxi]
  have hdir {j : ℕ} (hj : (sp.shape s).IsDir j) : (sp'.shape s).IsDir j := by
    obtain ⟨ino, dd, hino, hdd⟩ := isDir_node hj
    by_cases hjp : j = p
    · subst hjp
      exact ⟨_, shape_info hp', rfl⟩
    · have hji : j ≠ i := by
        rintro rfl
        rw [hfree] at hino
        cases hino
      exact ⟨_, shape_info (by rw [hother j hjp hji, hino]), info_fDirectory hdd⟩
  obtain ⟨-, rfl⟩ := DirData.newDirent_eq_ok hde
  have hnew : (sp'.shape s).entry (p, 0) = some de := by
    rw [shape_entry hp' rfl, hslots]
    rfl
  exact ⟨sp', h.step (.create hpar hfree hvalid hc),
    .child hnew (pathTo_mono hentry hdir hp) ⟨_, shape_info hi', rfl⟩, hi', hother⟩

/-- **Directories inside one another**, to any depth. -/
lemma reachable_nested (hver : redDiskLayoutIsSupported s.core.ulVersion)
    (hmax : 0 < s.direntsMax) {name : List UInt8}
    (hname : ∀ i, ∃ de, DirData.newDirent name i = .ok de ∧ de.acName = name) (n : ℕ) :
    ∃ sp, Reachable s sp format ∧ (sp.shape s).PathTo (List.replicate n name) (n + 2) ∧
      sp.HasParent (n + 2) ∧ (∃ q, sp.node (n + 2) = some ⟨1, q, .dir .empty⟩) ∧
      ∀ j, n + 2 < j → sp.node j = none := by
  induction n with
  | zero =>
    refine ⟨format, .format, .root, Or.inl rfl, ⟨INODE_INVALID, rfl⟩, fun j hj => if_neg ?_⟩
    exact Nat.ne_of_gt hj
  | succ n ih =>
    obtain ⟨sp, hreach, hp, hpar, ⟨q, hnode⟩, hfree⟩ := ih
    obtain ⟨de, hde, hdename⟩ := hname (n + 3)
    obtain ⟨sp', hreach', hp', hi', hother⟩ := reachable_mkdir hver hmax hreach hp hpar hnode
      (hfree (n + 3) (by omega)) (Nat.succ_ne_zero _) hde
    refine ⟨sp', hreach', ?_, Or.inr ⟨_, hi', Nat.succ_ne_zero _⟩, ⟨n + 2, hi'⟩, fun j hj => ?_⟩
    · rw [hdename, ← List.replicate_succ'] at hp'
      exact hp'
    · rw [hother j (by omega) (by omega), hfree j (by omega)]

lemma pathLen_replicate (name : List UInt8) (n : ℕ) :
    pathLen (List.replicate (n + 1) name) = (n + 1) * (name.length + 1) := by
  induction n with
  | zero => simp [pathLen, joinNames]
  | succ n ih =>
    rw [List.replicate_succ, pathLen_cons, ih, frontText, List.replicate_succ]
    simp
    ring

/-- Blocks of 65536 bytes, and names of up to 65000 bytes. -/
abbrev wideConf : RedConf where
  blockSizeP2 := 16
  deleteOpen := true
  directPointers := 4
  indirectPointers := 32
  nameMax := 65000
  pathSeparator := 47
  bufferCount := 12
  fAtomicSectorWrite := false
  blockSizeP2_mem := by decide
  pointers_le := by decide
  nameMax_mem := by decide
  pathSeparator_mem := smallConf.pathSeparator_mem
  pathSeparator_ne_dot := smallConf.pathSeparator_ne_dot
  bufferCount_le := smallConf.bufferCount_le
  bufferCount_ge := by decide

omit [RedConf] in
/-- A directory 66076 levels deep, with names of 65000 bytes, on a volume of 16 GiB, and a buffer of
`UINT32_MAX` bytes. The sum of the length of 66075 names, which fit the buffer, and of one more is
above `UINT32_MAX`; it passes for a small one, and the path is shifted over the end of the
buffer. -/
theorem dirInodeToPath_deep : letI := wideConf
    ∃ (sp : Space) (h : Inv (emptyGeometry 5 262144 70000) sp),
      Reachable (emptyGeometry 5 262144 70000) sp format ∧
      (sp.shape (emptyGeometry 5 262144 70000)).PathTo
        (List.replicate 66076 (List.replicate 65000 97)) 66078 ∧
      ∀ (vol : PathPrefix) (m : Memory), ¬ PathExact h.tree [vol] 0 66078 UINT32_MAX 0
        (List.replicate 66076 (List.replicate 65000 97)) m := by
  let _ := wideConf
  have hver : redDiskLayoutIsSupported (emptyGeometry 5 262144 70000).core.ulVersion := by decide
  have hmax : 0 < (emptyGeometry 5 262144 70000).direntsMax := by decide
  have hlen : (List.replicate 65000 (97 : UInt8)).length = 65000 := List.length_replicate
  have hname (i : ℕ) : ∃ de, DirData.newDirent (List.replicate 65000 97) i = .ok de ∧
      de.acName = List.replicate 65000 97 := by
    refine DirData.newDirent_name i ?_ hlen.le ?_ ?_
    · intro hnil
      rw [hnil] at hlen
      cases hlen
    · intro c hc
      rw [List.eq_of_mem_replicate hc]
      exact ⟨by decide, by decide⟩
    · rw [at_replicate (by decide)]
      decide
  obtain ⟨sp, hreach, hp, -⟩ := reachable_nested hver hmax hname 66076
  have hinv := (hreach.inv hver).1
  refine ⟨sp, hinv, hreach, hp, fun vol m => ?_⟩
  refine not_pathExact hinv [vol] 0 m hp (by decide) le_rfl (Or.inl rfl) fun hfit => ?_
  have hsum := hfit.1 [] (List.replicate 65000 97) (List.replicate 66075 (List.replicate 65000 97))
    List.replicate_succ
  rw [List.append_nil, List.cons_append, List.append_nil, ← List.replicate_succ, pathLen_replicate,
    pathLen_replicate, hlen] at hsum
  exact absurd (hsum (by decide)) (by decide)

omit [RedConf] in
/-- The theorem on the directory `a/a` of a volume with the prefix `V`, with a buffer of eight bytes
and with one that is too small. -/
theorem dirInodeToPath_exact_small : letI := smallConf
    ∃ (sp : Space) (h : Inv (emptyGeometry 5 64 8) sp),
      (sp.shape (emptyGeometry 5 64 8)).PathTo [[97], [97]] 4 ∧
      ∀ (vol : PathPrefix) (m : Memory), vol.psz = [86] →
        PathExact h.tree [vol] 0 4 8 0 [[97], [97]] m ∧
        PathExact h.tree [vol] 0 4 3 0 [[97], [97]] m := by
  let _ := smallConf
  have hver : redDiskLayoutIsSupported (emptyGeometry 5 64 8).core.ulVersion := by decide
  have hname (i : ℕ) : ∃ de, DirData.newDirent [97] i = .ok de ∧ de.acName = [97] :=
    newDirent_byte i (by decide) (by decide) (by decide)
  obtain ⟨sp, hreach, hp, -⟩ := reachable_nested hver (by decide) hname 2
  refine ⟨sp, (hreach.inv hver).1, hp, fun vol m hvol => ?_⟩
  have hexact {ulBufferSize : ℕ} (hpos : 0 < ulBufferSize) (hB : ulBufferSize ≤ 8) :
      PathExact (hreach.inv hver).1.tree [vol] 0 4 ulBufferSize 0 [[97], [97]] m := by
    obtain ⟨names, ⟨hp', hiff⟩, -⟩ := dirInodeToPath_exact_iff (emptyGeometry 5 64 8) hver hreach
      [vol] 0 m hp.linked hpos (hB.trans (by decide)) (show 0 = 0 ∨ _ from Or.inl rfl)
    obtain rfl : names = [[97], [97]] := (hreach.inv hver).1.shape.pathTo_unique hp hp'
    refine hiff.2 ⟨fun front name mid hsplit _ => ?_, fun _ => ?_⟩
    · rcases front with _ | ⟨x, _ | ⟨y, front⟩⟩
      · obtain ⟨rfl, rfl⟩ : [97] = name ∧ [[97]] = mid := by simpa using hsplit
        decide
      · obtain ⟨-, rfl, rfl⟩ : [97] = x ∧ [97] = name ∧ [] = mid := by simpa using hsplit
        decide
      · simp at hsplit
    · rw [length_dirPath, show flagsPrefix ([vol].get 0) 0 = vol.psz from rfl, hvol]
      decide
  exact ⟨hexact (by decide) le_rfl, hexact (by decide) (by decide)⟩

end Space

end RelianceEdge
