import Mathlib.Data.Nat.Digits.Lemmas
import RelianceEdge.Dir

set_option relaxedAutoImplicit false
set_option autoImplicit false

/-!
# Numbers in text

`atoi.c`: the decimal and hexadecimal parsers of the test utilities, and what they make of the
spelling of a number.

A pointer into a string is the string from there on, and the null pointer is `none`; a function
that stores a result through a pointer takes what is there before and returns what is there
afterwards.

## Main definitions

* `redAtoI`, `redHtoUL`, `redHtoULL`, `redNtoUL`, `redNtoULL`, `redSizeToUL` — the functions.
* `Spells` — the spellings of a number in a radix.
* `NumberCall.Meets`, `NumberCall.Safe` — what parsing a spelling must give, and when it does.

## Main results

* `numberCall_meets_iff` — parsing inverts printing exactly away from the values that the
  hexadecimal branches get wrong.
-/

namespace RelianceEdge

/-! ## The parsers -/

/-- `ISDIGIT()`. -/
def isDigit (c : UInt8) : Bool := 48 ≤ c && c ≤ 57

/-- `ISHEXDIGITU()`. -/
def isHexDigitU (c : UInt8) : Bool := 65 ≤ c && c ≤ 70

/-- `ISHEXDIGITL()`. -/
def isHexDigitL (c : UInt8) : Bool := 97 ≤ c && c ≤ 102

/-- `ISHEXDIGIT()`. -/
def isHexDigit (c : UInt8) : Bool := isHexDigitL c || isHexDigitU c

/-- The loop of `RedAtoI()`; the `int32_t` wraps around. -/
def redAtoILoop : CString → BitVec 32 → BitVec 32
  | [], lValue => lValue
  | c :: psz, lValue =>
    if isDigit c then redAtoILoop psz (lValue * 10 + BitVec.ofNat 32 (c - 48).toNat) else lValue

/-- `RedAtoI()`: a sign, and the decimal digits behind it. -/
def redAtoI (pszNum : CString) : BitVec 32 :=
  if pszNum.at 0 = 43 then redAtoILoop (pszNum.drop 1) 0
  else if pszNum.at 0 = 45 then redAtoILoop (pszNum.drop 1) 0 * -1
  else redAtoILoop pszNum 0

/-- The value `RedHtoULL()` gives a byte, when it is a digit. -/
def hexDigitValue (cDigit : UInt8) : Option ℕ :=
  if isDigit cDigit then some (cDigit - 48).toNat
  else if isHexDigitU cDigit then some (cDigit - (65 - 10)).toNat
  else if isHexDigitL cDigit then some (cDigit - (97 - 10)).toNat
  else none

/-- The loop of `RedHtoULL()`, over `ullValue` and `pszReturn`. -/
def redHtoULLLoop : CString → BitVec 64 → Option CString → BitVec 64 × Option CString
  | [], ullValue, pszReturn => (ullValue, pszReturn)
  | cDigit :: psz, ullValue, pszReturn =>
    if cDigit = 0 then (ullValue, pszReturn)
    else
      match hexDigitValue cDigit with
      | some d => redHtoULLLoop psz (ullValue <<< 4 + BitVec.ofNat 64 d) (some psz)
      | none => (ullValue, pszReturn)

/-- `RedHtoULL()`. Its assertion, which only more than 16 significant digits fail, is left
out. -/
def redHtoULL (pszNum : CString) (ullNum : BitVec 64) : Option CString × BitVec 64 :=
  let r := redHtoULLLoop pszNum 0 none
  match r.2 with
  | some pszReturn => (some pszReturn, r.1)
  | none => (none, ullNum)

/-- `RedHtoUL()`. The local `ullValue`, which it does not initialize, is zero here. -/
def redHtoUL (pszNum : CString) (ulNum : BitVec 32) : Option CString × BitVec 32 :=
  let r := redHtoULL pszNum 0
  match r.1 with
  | some pszReturn =>
    if r.2.toNat < UINT32_MAX then (some pszReturn, r.2.setWidth 32) else (none, ulNum)
  | none => (none, ulNum)

/-- `INT32_MAX`. -/
def INT32_MAX : ℕ := 2147483647

/-- `INT64_MAX` of the number parsers. -/
def INT64_MAX : ℕ := 9223372036854775807

/-- The `0x` or `0X` in front of a hexadecimal number. -/
def hasHexPrefix (psz : CString) : Bool :=
  psz.at 0 == 48 && (psz.at 1 == 120 || psz.at 1 == 88)

/-- `RedNtoUL()`. -/
def redNtoUL (pszNum : CString) (ulNum : BitVec 32) : Option CString × BitVec 32 :=
  let fNegative := pszNum.at 0 == 45
  let psz : CString := if fNegative then pszNum.drop 1 else pszNum
  if hasHexPrefix psz then
    if isDigit (psz.at 2) || isHexDigit (psz.at 2) then redHtoUL (psz.drop 2) ulNum
    else (none, ulNum)
  else if isDigit (psz.at 0) then
    let ulTemp := redAtoI psz
    if fNegative then
      if INT32_MAX < ulTemp.toNat then (none, ulNum)
      else (some (psz.dropWhile isDigit), -ulTemp)
    else (some (psz.dropWhile isDigit), ulTemp)
  else (none, ulNum)

/-- The decimal loop of `RedNtoULL()`. -/
def redNtoULLLoop : CString → BitVec 64 → BitVec 64 × CString
  | [], ullTemp => (ullTemp, [])
  | c :: psz, ullTemp =>
    if isDigit c then redNtoULLLoop psz (ullTemp * 10 + BitVec.ofNat 64 (c - 48).toNat)
    else (ullTemp, c :: psz)

/-- `RedNtoULL()`. -/
def redNtoULL (pszNum : CString) (ullNum : BitVec 64) : Option CString × BitVec 64 :=
  let fNegative := pszNum.at 0 == 45
  let psz : CString := if fNegative then pszNum.drop 1 else pszNum
  if hasHexPrefix psz then
    if isDigit (psz.at 2) || isHexDigit (psz.at 2) then redHtoULL (psz.drop 2) ullNum
    else (none, ullNum)
  else if isDigit (psz.at 0) then
    let r := redNtoULLLoop psz 0
    if fNegative then
      if INT64_MAX < r.1.toNat then (none, ullNum) else (some r.2, -r.1)
    else (some r.2, r.1)
  else (none, ullNum)

/-- `RedSizeToUL()`. The local `ulResult`, which it does not initialize, is zero here. -/
def redSizeToUL (pszNum : CString) (ulOut : BitVec 32) : Option CString × BitVec 32 :=
  let r := redNtoUL pszNum 0
  match r.1 with
  | none => (none, ulOut)
  | some pszSuffix =>
    if pszSuffix.at 0 == 66 || pszSuffix.at 0 == 98 then (some (pszSuffix.drop 1), r.2)
    else if (pszSuffix.at 0 == 77 || pszSuffix.at 0 == 109) &&
        (pszSuffix.at 1 == 66 || pszSuffix.at 1 == 98) then
      if UINT32_MAX / (1024 * 1024) < r.2.toNat then (none, ulOut)
      else (some (pszSuffix.drop 2), r.2 * (1024 * 1024))
    else
      let pszReturn :=
        if (pszSuffix.at 0 == 75 || pszSuffix.at 0 == 107) &&
            (pszSuffix.at 1 == 66 || pszSuffix.at 1 == 98) then pszSuffix.drop 2
        else pszSuffix
      if UINT32_MAX / 1024 < r.2.toNat then (none, ulOut)
      else (some pszReturn, r.2 * 1024)

/-! ## Spellings -/

/-- The digits of a number, most significant first; zero has one digit. -/
def numerals (b v : ℕ) : List ℕ := if v = 0 then [0] else (Nat.digits b v).reverse

/-- A byte spells a digit, above nine in either case. -/
def SpellsDigit (c : UInt8) (d : ℕ) : Prop :=
  d < 10 ∧ c.toNat = 48 + d ∨ 10 ≤ d ∧ d < 16 ∧ (c.toNat = 55 + d ∨ c.toNat = 87 + d)

/-- The radices of the parsers. -/
inductive Radix
  | decimal
  | hexadecimal
  deriving DecidableEq

/-- **The spellings of a number**: its decimal digits, or a prefix and its hexadecimal digits. -/
def Spells : Radix → ℕ → CString → Prop
  | .decimal, v, t => List.Forall₂ SpellsDigit t (numerals 10 v)
  | .hexadecimal, v, t => ∃ x t', (x = 120 ∨ x = 88) ∧ t = 48 :: x :: t' ∧
      List.Forall₂ SpellsDigit t' (numerals 16 v)

/-- The text behind a spelling continues the number: with one more digit, or, behind a zero, as
the prefix of a hexadecimal number. -/
def Continues : Radix → ℕ → CString → Prop
  | .decimal, v, rest => isDigit (rest.at 0) ∨ v = 0 ∧ (rest.at 0 = 120 ∨ rest.at 0 = 88)
  | .hexadecimal, _, rest => isDigit (rest.at 0) ∨ isHexDigit (rest.at 0)

/-- The unit that stands in front of a text, its factor, and the text behind it. -/
inductive SizeUnit : CString → ℕ → CString → Prop
  | byte (b : UInt8) (rest : CString) (hb : b = 66 ∨ b = 98) : SizeUnit (b :: rest) 1 rest
  | kilobyte (k b : UInt8) (rest : CString) (hk : k = 75 ∨ k = 107) (hb : b = 66 ∨ b = 98) :
      SizeUnit (k :: b :: rest) 1024 rest
  | megabyte (m b : UInt8) (rest : CString) (hm : m = 77 ∨ m = 109) (hb : b = 66 ∨ b = 98) :
      SizeUnit (m :: b :: rest) (1024 * 1024) rest
  | default (rest : CString) (hb : ¬(rest.at 0 = 66 ∨ rest.at 0 = 98))
      (hkm : ¬((rest.at 0 = 75 ∨ rest.at 0 = 107 ∨ rest.at 0 = 77 ∨ rest.at 0 = 109) ∧
        (rest.at 1 = 66 ∨ rest.at 1 = 98))) : SizeUnit rest 1024 rest

lemma numerals_ne_nil (b v : ℕ) : numerals b v ≠ [] := by
  unfold numerals
  split
  · simp
  · simp [Nat.digits_ne_nil_iff_ne_zero, *]

lemma numerals_lt {b v d : ℕ} (hb : 1 < b) (hd : d ∈ numerals b v) : d < b := by
  unfold numerals at hd
  split at hd
  · simp only [List.mem_singleton] at hd
    omega
  · exact Nat.digits_lt_base hb (List.mem_reverse.1 hd)

lemma numerals_foldl (b v : ℕ) : (numerals b v).foldl (fun a d => a * b + d) 0 = v := by
  unfold numerals
  split
  · simp [*]
  · rw [List.foldl_reverse]
    calc (Nat.digits b v).foldr (fun d a => a * b + d) 0
        = (Nat.digits b v).foldr (fun d a => d + b * a) 0 := by
          congr 1
          funext d a
          rw [Nat.add_comm, Nat.mul_comm]
      _ = v := by
          simpa [Nat.ofDigits_eq_foldr] using Nat.ofDigits_digits b v

/-- Only zero has a spelling that starts with a zero. -/
lemma numerals_head {b v d : ℕ} {ds : List ℕ} (h : numerals b v = d :: ds) (hd : d = 0) :
    v = 0 ∧ ds = [] := by
  unfold numerals at h
  split at h
  · simp_all
  · rename_i hv
    have hlast := Nat.getLast_digit_ne_zero b hv
    have hne : Nat.digits b v ≠ [] := Nat.digits_ne_nil_iff_ne_zero.2 hv
    have := List.head_reverse (l := Nat.digits b v) (by simpa using hne)
    simp only [h, List.head_cons] at this
    exact absurd (this.symm.trans hd) hlast

lemma isDigit_iff {c : UInt8} : isDigit c = true ↔ 48 ≤ c.toNat ∧ c.toNat ≤ 57 := by
  simp [isDigit, UInt8.le_iff_toNat_le]

lemma SpellsDigit.isDigit {c : UInt8} {d : ℕ} (h : SpellsDigit c d) (hd : d < 10) :
    isDigit c = true := by
  rw [isDigit_iff]
  unfold SpellsDigit at h
  omega

lemma SpellsDigit.sub_toNat {c : UInt8} {d : ℕ} (h : SpellsDigit c d) (hd : d < 10) :
    (c - 48).toNat = d := by
  unfold SpellsDigit at h
  rw [UInt8.toNat_sub]
  have : (48 : UInt8).toNat = 48 := rfl
  omega

lemma SpellsDigit.hexDigitValue {c : UInt8} {d : ℕ} (h : SpellsDigit c d) :
    hexDigitValue c = some d := by
  unfold RelianceEdge.hexDigitValue
  have hU : isHexDigitU c = true ↔ 65 ≤ c.toNat ∧ c.toNat ≤ 70 := by
    simp [isHexDigitU, UInt8.le_iff_toNat_le]
  have hL : isHexDigitL c = true ↔ 97 ≤ c.toNat ∧ c.toNat ≤ 102 := by
    simp [isHexDigitL, UInt8.le_iff_toNat_le]
  have h55 : (65 - 10 : UInt8).toNat = 55 := rfl
  have h87 : (97 - 10 : UInt8).toNat = 87 := rfl
  rcases Nat.lt_or_ge d 10 with hd | hd
  · rw [if_pos (h.isDigit hd), h.sub_toNat hd]
  · unfold SpellsDigit at h
    rw [if_neg (by rw [isDigit_iff]; omega)]
    rcases h with h | ⟨-, hlt, h | h⟩
    · omega
    · rw [if_pos (hU.2 (by omega)), UInt8.toNat_sub, h55]
      congr 1
      omega
    · rw [if_neg (by rw [hU]; omega), if_pos (hL.2 (by omega)), UInt8.toNat_sub, h87]
      congr 1
      omega

lemma hexDigitValue_eq_none {c : UInt8} (hd : isDigit c = false) (hx : isHexDigit c = false) :
    hexDigitValue c = none := by
  simp only [isHexDigit, Bool.or_eq_false_iff] at hx
  unfold hexDigitValue
  rw [if_neg (by simp [hd]), if_neg (by simp [hx.2]), if_neg (by simp [hx.1])]

/-! ## The loops on a spelling -/

section Loops

variable {t rest : CString} {ds : List ℕ}

lemma redAtoILoop_append (ht : List.Forall₂ SpellsDigit t ds) (hds : ∀ d ∈ ds, d < 10)
    (hrest : isDigit (rest.at 0) = false) (x : ℕ) :
    redAtoILoop (t ++ rest) (BitVec.ofNat 32 x) =
      BitVec.ofNat 32 (ds.foldl (fun a d => a * 10 + d) x) := by
  induction ht generalizing x with
  | nil =>
    cases rest with
    | nil => rfl
    | cons c rest =>
      have hc : isDigit c = false := hrest
      simp [redAtoILoop, hc]
  | @cons c d t ds hc _ ih =>
    have hd := hds d (by simp)
    rw [List.cons_append, redAtoILoop, if_pos (hc.isDigit hd), hc.sub_toNat hd, List.foldl_cons,
      ← ih (fun d h => hds d (by simp [h])), BitVec.ofNat_add, BitVec.ofNat_mul]
    rfl

lemma redNtoULLLoop_append (ht : List.Forall₂ SpellsDigit t ds) (hds : ∀ d ∈ ds, d < 10)
    (hrest : isDigit (rest.at 0) = false) (x : ℕ) :
    redNtoULLLoop (t ++ rest) (BitVec.ofNat 64 x) =
      (BitVec.ofNat 64 (ds.foldl (fun a d => a * 10 + d) x), rest) := by
  induction ht generalizing x with
  | nil =>
    cases rest with
    | nil => rfl
    | cons c rest =>
      have hc : isDigit c = false := hrest
      simp [redNtoULLLoop, hc]
  | @cons c d t ds hc _ ih =>
    have hd := hds d (by simp)
    rw [List.cons_append, redNtoULLLoop, if_pos (hc.isDigit hd), hc.sub_toNat hd,
      List.foldl_cons, ← ih (fun d h => hds d (by simp [h])), BitVec.ofNat_add, BitVec.ofNat_mul]
    rfl

lemma dropWhile_append (ht : List.Forall₂ SpellsDigit t ds) (hds : ∀ d ∈ ds, d < 10)
    (hrest : isDigit (rest.at 0) = false) : (t ++ rest).dropWhile isDigit = rest := by
  induction ht with
  | nil =>
    cases rest with
    | nil => rfl
    | cons c rest =>
      have hc : isDigit c = false := hrest
      simp [hc]
  | @cons c d t ds hc _ ih =>
    rw [List.cons_append, List.dropWhile_cons_of_pos (hc.isDigit (hds d (by simp)))]
    exact ih (fun d h => hds d (by simp [h]))

lemma redHtoULLLoop_append (ht : List.Forall₂ SpellsDigit t ds)
    (hdec : isDigit (rest.at 0) = false) (hhex : isHexDigit (rest.at 0) = false) (x : ℕ)
    (pszReturn : Option CString) (hreturn : t = [] → pszReturn = some rest) :
    redHtoULLLoop (t ++ rest) (BitVec.ofNat 64 x) pszReturn =
      (BitVec.ofNat 64 (ds.foldl (fun a d => a * 16 + d) x), some rest) := by
  induction ht generalizing x pszReturn with
  | nil =>
    rw [hreturn rfl]
    cases rest with
    | nil => rfl
    | cons c rest =>
      have hnone : hexDigitValue c = none := hexDigitValue_eq_none hdec hhex
      simp [redHtoULLLoop, hnone]
  | @cons c d t ds hc _ ih =>
    have h0 : c ≠ 0 := by
      rintro rfl
      rcases hc with h | ⟨-, -, h | h⟩ <;> simp at h <;> omega
    have hshift : BitVec.ofNat 64 x <<< 4 + BitVec.ofNat 64 d = BitVec.ofNat 64 (x * 16 + d) := by
      apply BitVec.eq_of_toNat_eq
      simp [Nat.shiftLeft_eq]
    rw [List.cons_append, redHtoULLLoop, if_neg h0, hc.hexDigitValue]
    dsimp only
    rw [hshift, List.foldl_cons, ih]
    rintro rfl
    rfl

end Loops

/-! ## The functions on a spelling -/

/-- The sign in front of a number. -/
def minus (fNegative : Bool) : CString := if fNegative then [45] else []

lemma minus_at {fNegative : Bool} {psz : CString} (h : psz.at 0 ≠ 45) :
    (CString.at (minus fNegative ++ psz) 0 == 45) = fNegative := by
  cases fNegative
  · simpa [minus] using h
  · rfl

lemma minus_drop (fNegative : Bool) (psz : CString) :
    (if fNegative then List.drop 1 (minus fNegative ++ psz) else minus fNegative ++ psz) = psz := by
  cases fNegative <;> rfl

section Spelling

variable {v : ℕ} {t rest : CString}

/-- A decimal spelling starts with a digit, and with a zero only when it is that digit. -/
lemma decimal_cons (ht : Spells .decimal v t) :
    ∃ c t', t = c :: t' ∧ isDigit c = true ∧ (c = 48 → v = 0 ∧ t' = []) := by
  obtain ⟨d, ds, hds⟩ := List.exists_cons_of_ne_nil (numerals_ne_nil 10 v)
  have hd : d < 10 := numerals_lt (by decide) (by rw [hds]; simp)
  change List.Forall₂ SpellsDigit t (numerals 10 v) at ht
  rw [hds] at ht
  obtain ⟨c, t', hc, ht', rfl⟩ := List.forall₂_cons_right_iff.1 ht
  refine ⟨c, t', rfl, hc.isDigit hd, ?_⟩
  rintro rfl
  have h0 : d = 0 := by
    have := hc.sub_toNat hd
    rw [← this]
    rfl
  obtain ⟨hv, rfl⟩ := numerals_head hds h0
  exact ⟨hv, List.forall₂_nil_right_iff.1 ht'⟩

/-- What the parsers see of a decimal spelling. -/
lemma decimal_front (ht : Spells .decimal v t) (hrest : ¬Continues .decimal v rest) :
    CString.at (t ++ rest) 0 ≠ 45 ∧ CString.at (t ++ rest) 0 ≠ 43 ∧
      hasHexPrefix (t ++ rest) = false ∧ isDigit (CString.at (t ++ rest) 0) = true := by
  obtain ⟨c, t', rfl, hc, h48⟩ := decimal_cons ht
  have hat : CString.at (c :: t' ++ rest) 0 = c := rfl
  rw [hat]
  refine ⟨?_, ?_, ?_, hc⟩
  · rintro rfl
    simp [isDigit] at hc
  · rintro rfl
    simp [isDigit] at hc
  · by_cases h : c = 48
    · obtain ⟨rfl, rfl⟩ := h48 h
      have hat1 : CString.at ([c] ++ rest) 1 = rest.at 0 := by simp [CString.at]
      unfold Continues at hrest
      unfold hasHexPrefix
      rw [hat1]
      simp only [not_or, not_and] at hrest
      simp [hrest.2]
    · unfold hasHexPrefix
      rw [hat]
      simp [h]

/-- What the parsers see of a hexadecimal spelling. -/
lemma hexadecimal_front (ht : Spells .hexadecimal v t) (rest : CString) :
    CString.at (t ++ rest) 0 ≠ 45 ∧ hasHexPrefix (t ++ rest) = true ∧
      (isDigit (CString.at (t ++ rest) 2) || isHexDigit (CString.at (t ++ rest) 2)) = true ∧
      ∃ t', List.drop 2 (t ++ rest) = t' ++ rest ∧ t' ≠ [] ∧
        List.Forall₂ SpellsDigit t' (numerals 16 v) := by
  obtain ⟨x, t', hx, rfl, ht'⟩ := ht
  obtain ⟨d, ds, hds⟩ := List.exists_cons_of_ne_nil (numerals_ne_nil 16 v)
  rw [hds] at ht' ⊢
  obtain ⟨c, t', hc, ht'', rfl⟩ := List.forall₂_cons_right_iff.1 ht'
  refine ⟨by simp [CString.at], ?_, ?_, c :: t', rfl, by simp, ht'⟩
  · rcases hx with rfl | rfl <;> rfl
  · have hat : CString.at (48 :: x :: c :: t' ++ rest) 2 = c := rfl
    rw [hat]
    by_contra hno
    simp only [Bool.or_eq_true, not_or, Bool.not_eq_true] at hno
    have := hexDigitValue_eq_none hno.1 hno.2
    rw [hc.hexDigitValue] at this
    cases this

lemma redAtoI_decimal (ht : Spells .decimal v t) (hrest : ¬Continues .decimal v rest) :
    redAtoI (t ++ rest) = BitVec.ofNat 32 v := by
  obtain ⟨h45, h43, -, -⟩ := decimal_front ht hrest
  unfold Continues at hrest
  simp only [not_or, Bool.not_eq_true] at hrest
  unfold redAtoI
  rw [if_neg h43, if_neg h45]
  exact (redAtoILoop_append ht (fun d => numerals_lt (by decide)) hrest.1 0).trans
    (by rw [numerals_foldl])

/-- **`RedHtoULL()` of hexadecimal digits.** -/
lemma redHtoULL_digits {t' : CString} (ht : List.Forall₂ SpellsDigit t' (numerals 16 v))
    (hne : t' ≠ []) (hrest : ¬Continues .hexadecimal v rest) (ullNum : BitVec 64) :
    redHtoULL (t' ++ rest) ullNum = (some rest, BitVec.ofNat 64 v) := by
  unfold Continues at hrest
  simp only [not_or, Bool.not_eq_true] at hrest
  unfold redHtoULL
  have := redHtoULLLoop_append ht hrest.1 hrest.2 0 none (fun h => absurd h hne)
  rw [numerals_foldl] at this
  rw [show (0 : BitVec 64) = BitVec.ofNat 64 0 from rfl, this]

/-- **`RedNtoUL()` of a decimal spelling.** -/
lemma redNtoUL_decimal (ht : Spells .decimal v t) (hrest : ¬Continues .decimal v rest)
    (fNegative : Bool) (ulNum : BitVec 32) :
    redNtoUL (minus fNegative ++ (t ++ rest)) ulNum =
      if fNegative then
        if INT32_MAX < (BitVec.ofNat 32 v).toNat then (none, ulNum)
        else (some rest, -BitVec.ofNat 32 v)
      else (some rest, BitVec.ofNat 32 v) := by
  obtain ⟨h45, -, hhex, hdigit⟩ := decimal_front ht hrest
  have hvalue := redAtoI_decimal ht hrest
  have hdrop : (t ++ rest).dropWhile isDigit = rest := by
    unfold Continues at hrest
    simp only [not_or, Bool.not_eq_true] at hrest
    exact dropWhile_append ht (fun d => numerals_lt (by decide)) hrest.1
  unfold redNtoUL
  rw [minus_at h45]
  dsimp only
  rw [minus_drop, if_neg (by simp [hhex]), if_pos hdigit, hvalue, hdrop]

/-- **`RedNtoUL()` of a hexadecimal spelling**: the sign is not looked at. -/
lemma redNtoUL_hexadecimal (hv : v < 2 ^ 32) (ht : Spells .hexadecimal v t)
    (hrest : ¬Continues .hexadecimal v rest) (fNegative : Bool) (ulNum : BitVec 32) :
    redNtoUL (minus fNegative ++ (t ++ rest)) ulNum =
      if v < UINT32_MAX then (some rest, BitVec.ofNat 32 v) else (none, ulNum) := by
  obtain ⟨h45, hhex, hdigit, t', hdrop, hne, ht'⟩ := hexadecimal_front ht rest
  have hvalue : (BitVec.ofNat 64 v).toNat = v := by
    rw [BitVec.toNat_ofNat]
    exact Nat.mod_eq_of_lt (by omega)
  have hset : (BitVec.ofNat 64 v).setWidth 32 = BitVec.ofNat 32 v := by
    apply BitVec.eq_of_toNat_eq
    rw [BitVec.toNat_setWidth, hvalue, BitVec.toNat_ofNat]
  unfold redNtoUL
  rw [minus_at h45]
  dsimp only
  rw [minus_drop, if_pos hhex, if_pos hdigit, hdrop]
  unfold redHtoUL
  rw [redHtoULL_digits ht' hne hrest]
  dsimp only
  rw [hvalue, hset]

/-- **`RedNtoULL()` of a decimal spelling.** -/
lemma redNtoULL_decimal (ht : Spells .decimal v t) (hrest : ¬Continues .decimal v rest)
    (fNegative : Bool) (ullNum : BitVec 64) :
    redNtoULL (minus fNegative ++ (t ++ rest)) ullNum =
      if fNegative then
        if INT64_MAX < (BitVec.ofNat 64 v).toNat then (none, ullNum)
        else (some rest, -BitVec.ofNat 64 v)
      else (some rest, BitVec.ofNat 64 v) := by
  obtain ⟨h45, -, hhex, hdigit⟩ := decimal_front ht hrest
  have hvalue : redNtoULLLoop (t ++ rest) 0 = (BitVec.ofNat 64 v, rest) := by
    unfold Continues at hrest
    simp only [not_or, Bool.not_eq_true] at hrest
    exact (redNtoULLLoop_append ht (fun d => numerals_lt (by decide)) hrest.1 0).trans
      (by rw [numerals_foldl])
  unfold redNtoULL
  rw [minus_at h45]
  dsimp only
  rw [minus_drop, if_neg (by simp [hhex]), if_pos hdigit, hvalue]

/-- **`RedNtoULL()` of a hexadecimal spelling**: the sign is not looked at. -/
lemma redNtoULL_hexadecimal (ht : Spells .hexadecimal v t)
    (hrest : ¬Continues .hexadecimal v rest) (fNegative : Bool) (ullNum : BitVec 64) :
    redNtoULL (minus fNegative ++ (t ++ rest)) ullNum = (some rest, BitVec.ofNat 64 v) := by
  obtain ⟨h45, hhex, hdigit, t', hdrop, hne, ht'⟩ := hexadecimal_front ht rest
  unfold redNtoULL
  rw [minus_at h45]
  dsimp only
  rw [minus_drop, if_pos hhex, if_pos hdigit, hdrop, redHtoULL_digits ht' hne hrest]

/-! ## Units -/

/-- **`RedSizeToUL()` behind a number**: the product with the factor of the unit, if it fits. -/
lemma redSizeToUL_unit {pszNum after : CString} {ulResult ulNum : BitVec 32} {factor : ℕ}
    (hnum : redNtoUL pszNum 0 = (some rest, ulResult)) (hunit : SizeUnit rest factor after) :
    redSizeToUL pszNum ulNum =
      if ulResult.toNat * factor < 2 ^ 32 then
        (some after, BitVec.ofNat 32 (ulResult.toNat * factor))
      else (none, ulNum) := by
  have hscale : ∀ n : ℕ, 0 < n → ∀ psz : CString,
      (if UINT32_MAX / n < ulResult.toNat then ((none : Option CString), ulNum)
        else (some psz, ulResult * BitVec.ofNat 32 n)) =
      if ulResult.toNat * n < 2 ^ 32 then (some psz, BitVec.ofNat 32 (ulResult.toNat * n))
      else (none, ulNum) := by
    intro n hn psz
    rw [BitVec.ofNat_mul, BitVec.ofNat_toNat, BitVec.setWidth_eq]
    by_cases h : ulResult.toNat * n < 2 ^ 32
    · rw [if_pos h, if_neg]
      rw [Nat.div_lt_iff_lt_mul hn]
      unfold UINT32_MAX
      omega
    · rw [if_neg h, if_pos]
      rw [Nat.div_lt_iff_lt_mul hn]
      unfold UINT32_MAX
      omega
  unfold redSizeToUL
  rw [hnum]
  dsimp only
  cases hunit with
  | byte b after hb =>
    have hfits : ulResult.toNat * 1 < 2 ^ 32 := by omega
    rw [if_pos (by simpa [CString.at] using hb), if_pos hfits, Nat.mul_one, BitVec.ofNat_toNat,
      BitVec.setWidth_eq]
    rfl
  | kilobyte k b after hk hb =>
    have hat : CString.at (k :: b :: after) 0 = k ∧ CString.at (k :: b :: after) 1 = b :=
      ⟨rfl, rfl⟩
    rw [hat.1, hat.2, if_neg (by rcases hk with rfl | rfl <;> decide),
      if_neg (by rcases hk with rfl | rfl <;> simp)]
    have hreturn : (if (k == 75 || k == 107) && (b == 66 || b == 98)
        then List.drop 2 (k :: b :: after) else k :: b :: after) = after :=
      if_pos (by simp [hk, hb])
    rw [hreturn]
    exact hscale 1024 (by decide) after
  | megabyte m b after hm hb =>
    have hat : CString.at (m :: b :: after) 0 = m ∧ CString.at (m :: b :: after) 1 = b :=
      ⟨rfl, rfl⟩
    rw [hat.1, hat.2, if_neg (by rcases hm with rfl | rfl <;> decide),
      if_pos (by simp [hm, hb])]
    exact hscale (1024 * 1024) (by decide) after
  | default _ hb hkm =>
    have hk : ¬((rest.at 0 = 75 ∨ rest.at 0 = 107) ∧ (rest.at 1 = 66 ∨ rest.at 1 = 98)) :=
      fun h => hkm ⟨h.1.elim Or.inl (Or.inr ∘ Or.inl), h.2⟩
    have hm : ¬((rest.at 0 = 77 ∨ rest.at 0 = 109) ∧ (rest.at 1 = 66 ∨ rest.at 1 = 98)) :=
      fun h => hkm ⟨Or.inr (Or.inr h.1), h.2⟩
    have hreturn : (if (rest.at 0 == 75 || rest.at 0 == 107) && (rest.at 1 == 66 || rest.at 1 == 98)
        then List.drop 2 rest else rest) = rest := if_neg (by simpa using hk)
    rw [if_neg (by simpa using hb), if_neg (by simpa using hm), hreturn]
    exact hscale 1024 (by decide) rest

end Spelling

/-! ## Parsing inverts printing -/

/-- The calls of the number parsers on a number. -/
inductive NumberCall
  /-- `RedNtoUL()`, with or without a sign in front. -/
  | ntoUL (fNegative : Bool)
  /-- `RedNtoULL()`, with or without a sign in front. -/
  | ntoULL (fNegative : Bool)
  /-- `RedSizeToUL()`. -/
  | sizeToUL
  deriving DecidableEq

/-- The width of the result. -/
def NumberCall.bits : NumberCall → ℕ
  | .ntoUL _ => 32
  | .ntoULL _ => 64
  | .sizeToUL => 32

/-- **What a call must give** on a spelling `t` of `v`, whatever the result holds before: the
number and the text behind it; the negated number, or a rejection, when there is a sign; the
product with the factor of the unit if it fits, and a rejection otherwise. -/
def NumberCall.Meets (v : ℕ) (t rest : CString) : NumberCall → Prop
  | .ntoUL false => ∀ old, redNtoUL (t ++ rest) old = (some rest, BitVec.ofNat 32 v)
  | .ntoUL true => ∀ old, redNtoUL (45 :: (t ++ rest)) old = (some rest, -BitVec.ofNat 32 v) ∨
      redNtoUL (45 :: (t ++ rest)) old = (none, old)
  | .ntoULL false => ∀ old, redNtoULL (t ++ rest) old = (some rest, BitVec.ofNat 64 v)
  | .ntoULL true => ∀ old, redNtoULL (45 :: (t ++ rest)) old = (some rest, -BitVec.ofNat 64 v) ∨
      redNtoULL (45 :: (t ++ rest)) old = (none, old)
  | .sizeToUL => ∀ factor after, SizeUnit rest factor after → ∀ old,
      redSizeToUL (t ++ rest) old =
        if v * factor < 2 ^ 32 then (some after, BitVec.ofNat 32 (v * factor)) else (none, old)

/-- **When a call does**: the largest number has no hexadecimal spelling for `RedNtoUL()`, and a
sign in front of a hexadecimal number has no effect. -/
def NumberCall.Safe (r : Radix) (v : ℕ) : NumberCall → Prop
  | .ntoUL false => ¬(r = .hexadecimal ∧ v = UINT32_MAX)
  | .ntoUL true => r = .hexadecimal → v = 0 ∨ v = 2 ^ 31 ∨ v = UINT32_MAX
  | .ntoULL false => True
  | .ntoULL true => r = .hexadecimal → v = 0 ∨ v = 2 ^ 63
  | .sizeToUL => True

/-- A number is its own negation exactly for zero and half of the range. -/
lemma ofNat_eq_neg_iff {w v : ℕ} (hv : v < 2 ^ (w + 1)) :
    BitVec.ofNat (w + 1) v = -BitVec.ofNat (w + 1) v ↔ v = 0 ∨ v = 2 ^ w := by
  have hw : 2 ^ (w + 1) = 2 * 2 ^ w := by rw [Nat.pow_succ, Nat.mul_comm]
  have hpos : 0 < 2 ^ w := Nat.two_pow_pos w
  rw [← BitVec.toNat_inj, BitVec.toNat_neg, BitVec.toNat_ofNat, Nat.mod_eq_of_lt hv]
  rcases Nat.eq_zero_or_pos v with rfl | h0
  · simp
  · rw [Nat.mod_eq_of_lt (by omega)]
    omega

section Calls

variable {r : Radix} {v : ℕ} {t rest : CString}

lemma ntoUL_meets_iff (hv : v < 2 ^ 32) (ht : Spells r v t) (hrest : ¬Continues r v rest) :
    (NumberCall.ntoUL false).Meets v t rest ↔ (NumberCall.ntoUL false).Safe r v := by
  unfold NumberCall.Meets NumberCall.Safe
  cases r with
  | decimal =>
    have h := redNtoUL_decimal ht hrest false
    exact iff_of_true h (by simp)
  | hexadecimal =>
    have h := redNtoUL_hexadecimal hv ht hrest false
    change ∀ old, redNtoUL (t ++ rest) old = _ at h
    by_cases hmax : v < UINT32_MAX
    · exact iff_of_true (fun old => by rw [h, if_pos hmax]) (fun hno => by omega)
    · have hv' : v = UINT32_MAX := by
        unfold UINT32_MAX at *
        omega
      refine iff_of_false (fun hall => ?_) (fun hno => hno ⟨rfl, hv'⟩)
      have := hall 0
      rw [h, if_neg hmax] at this
      cases this

lemma ntoUL_negative_meets_iff (hv : v < 2 ^ 32) (ht : Spells r v t)
    (hrest : ¬Continues r v rest) :
    (NumberCall.ntoUL true).Meets v t rest ↔ (NumberCall.ntoUL true).Safe r v := by
  unfold NumberCall.Meets NumberCall.Safe
  cases r with
  | decimal =>
    have h := redNtoUL_decimal ht hrest true
    refine iff_of_true (fun old => ?_) (by simp)
    have hold : redNtoUL (45 :: (t ++ rest)) old = _ := h old
    rw [hold, if_pos rfl]
    by_cases hmax : INT32_MAX < (BitVec.ofNat 32 v).toNat
    · exact Or.inr (if_pos hmax)
    · exact Or.inl (if_neg hmax)
  | hexadecimal =>
    have h := redNtoUL_hexadecimal hv ht hrest true
    change ∀ old, redNtoUL (45 :: (t ++ rest)) old = _ at h
    have hhalf : BitVec.ofNat 32 v = -BitVec.ofNat 32 v ↔ v = 0 ∨ v = 2 ^ 31 :=
      ofNat_eq_neg_iff (w := 31) hv
    by_cases hmax : v < UINT32_MAX
    · simp only [h, if_pos hmax, Prod.mk.injEq, true_and, reduceCtorEq, false_and, or_false, hhalf,
        forall_const]
      omega
    · have hv' : v = UINT32_MAX := by
        unfold UINT32_MAX at *
        omega
      exact iff_of_true (fun old => Or.inr (by rw [h, if_neg hmax]))
        (fun _ => Or.inr (Or.inr hv'))

lemma ntoULL_meets (ht : Spells r v t) (hrest : ¬Continues r v rest) :
    (NumberCall.ntoULL false).Meets v t rest := by
  unfold NumberCall.Meets
  cases r with
  | decimal => exact redNtoULL_decimal ht hrest false
  | hexadecimal => exact redNtoULL_hexadecimal ht hrest false

lemma ntoULL_negative_meets_iff (hv : v < 2 ^ 64) (ht : Spells r v t)
    (hrest : ¬Continues r v rest) :
    (NumberCall.ntoULL true).Meets v t rest ↔ (NumberCall.ntoULL true).Safe r v := by
  unfold NumberCall.Meets NumberCall.Safe
  cases r with
  | decimal =>
    have h := redNtoULL_decimal ht hrest true
    refine iff_of_true (fun old => ?_) (by simp)
    have hold : redNtoULL (45 :: (t ++ rest)) old = _ := h old
    rw [hold, if_pos rfl]
    by_cases hmax : INT64_MAX < (BitVec.ofNat 64 v).toNat
    · exact Or.inr (if_pos hmax)
    · exact Or.inl (if_neg hmax)
  | hexadecimal =>
    have h := redNtoULL_hexadecimal ht hrest true
    change ∀ old, redNtoULL (45 :: (t ++ rest)) old = _ at h
    have hhalf : BitVec.ofNat 64 v = -BitVec.ofNat 64 v ↔ v = 0 ∨ v = 2 ^ 63 :=
      ofNat_eq_neg_iff (w := 63) hv
    simp only [h, Prod.mk.injEq, true_and, reduceCtorEq, false_and, or_false, hhalf, forall_const]

lemma sizeToUL_meets (hv : v < 2 ^ 32) (ht : Spells r v t) (hrest : ¬Continues r v rest) :
    NumberCall.sizeToUL.Meets v t rest := by
  intro factor after hunit old
  have hnat : (BitVec.ofNat 32 v).toNat = v := by
    rw [BitVec.toNat_ofNat, Nat.mod_eq_of_lt hv]
  cases r with
  | decimal =>
    have h : redNtoUL (t ++ rest) 0 = (some rest, BitVec.ofNat 32 v) :=
      redNtoUL_decimal ht hrest false 0
    rw [redSizeToUL_unit h hunit, hnat]
  | hexadecimal =>
    have h : redNtoUL (t ++ rest) 0 = _ := redNtoUL_hexadecimal hv ht hrest false 0
    by_cases hmax : v < UINT32_MAX
    · rw [if_pos hmax] at h
      rw [redSizeToUL_unit h hunit, hnat]
    · -- the largest number has no unit of one byte: a `B` would be one more digit
      rw [if_neg hmax] at h
      have hfactor : 1024 ≤ factor := by
        cases hunit with
        | byte b after hb =>
          refine absurd ?_ hrest
          rcases hb with rfl | rfl
          · exact Or.inr rfl
          · exact Or.inr rfl
        | kilobyte => omega
        | megabyte => omega
        | default => omega
      have hbig : ¬v * factor < 2 ^ 32 := by
        unfold UINT32_MAX at hmax
        have := Nat.mul_le_mul (show 2 ^ 31 ≤ v by omega) hfactor
        omega
      rw [if_neg hbig]
      unfold redSizeToUL
      rw [h]

end Calls

/-- **Parsing inverts printing exactly away from the slips of the hexadecimal branches**: for
every number of the width of the call, every spelling of it and every text behind it that does
not continue it. -/
theorem numberCall_meets_iff (call : NumberCall) (r : Radix) {v : ℕ} {t rest : CString}
    (hv : v < 2 ^ call.bits) (ht : Spells r v t) (hrest : ¬Continues r v rest) :
    call.Meets v t rest ↔ call.Safe r v := by
  cases call with
  | ntoUL fNegative =>
    change v < 2 ^ 32 at hv
    cases fNegative with
    | false => exact ntoUL_meets_iff hv ht hrest
    | true => exact ntoUL_negative_meets_iff hv ht hrest
  | ntoULL fNegative =>
    change v < 2 ^ 64 at hv
    cases fNegative with
    | false => exact iff_of_true (ntoULL_meets ht hrest) trivial
    | true => exact ntoULL_negative_meets_iff hv ht hrest
  | sizeToUL => exact iff_of_true (sizeToUL_meets hv ht hrest) trivial

/-- `0xFf` is parsed as 255. -/
theorem numberCall_meets_iff_small :
    (NumberCall.ntoUL false).Meets 255 [48, 120, 70, 102] [] := by
  have hdigits : numerals 16 255 = [15, 15] := by simp [numerals]
  refine (numberCall_meets_iff (.ntoUL false) .hexadecimal (by decide)
    ⟨120, [70, 102], Or.inl rfl, rfl, ?_⟩ (by unfold Continues; decide)).2
    (by unfold NumberCall.Safe; decide)
  rw [hdigits]
  exact .cons (by unfold SpellsDigit; decide) (.cons (by unfold SpellsDigit; decide) .nil)

/-- **The slips**: `0xFFFFFFFF` is a spelling of `UINT32_MAX` that `RedNtoUL()` rejects, and
`RedNtoULL()` reads `-0x5` as 5. -/
theorem redNtoUL_rejects_max :
    Spells .hexadecimal UINT32_MAX [48, 120, 70, 70, 70, 70, 70, 70, 70, 70] ∧
      ¬Continues .hexadecimal UINT32_MAX [] ∧
      ¬(NumberCall.ntoUL false).Meets UINT32_MAX [48, 120, 70, 70, 70, 70, 70, 70, 70, 70] [] ∧
      redNtoUL [48, 120, 70, 70, 70, 70, 70, 70, 70, 70] 0 = (none, 0) ∧
      redNtoULL [45, 48, 120, 53] 0 = (some [], 5) := by
  have hdigits : numerals 16 UINT32_MAX = [15, 15, 15, 15, 15, 15, 15, 15] := by
    simp [numerals, UINT32_MAX]
  have hnone : redNtoUL [48, 120, 70, 70, 70, 70, 70, 70, 70, 70] 0 = (none, 0) := by decide
  refine ⟨⟨120, _, Or.inl rfl, rfl, ?_⟩, by unfold Continues; decide, ?_, hnone, by decide⟩
  · rw [hdigits]
    have h15 : SpellsDigit 70 15 := by
      unfold SpellsDigit
      decide
    simp [h15]
  · intro h
    have := (h 0).symm.trans hnone
    cases this

end RelianceEdge
