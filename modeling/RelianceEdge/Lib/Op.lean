import Mathlib.Logic.Function.Basic
import Mathlib.Order.Defs.Unbundled
import Mathlib.Tactic.Common

set_option relaxedAutoImplicit false
set_option autoImplicit false

/-!
# Operations that keep their state when they fail

A C function that returns a status code keeps every assignment it made before it failed.
`Op σ ε α` is a state transformer of that kind: running it yields a value or an error
together with the state it leaves, in both cases.

## Main definitions

* `Op` — operations on a state `σ` that return `α` or fail with `ε`.
* `Op.attempt` — run an operation and hand its status to the caller.
* `Op.zoom` — run an operation on one component of a larger state.
* `Op.Post` — a postcondition of the outcome of a run, and `Op.Ok`, one that excludes failure.
* `Op.Respects` — every run relates the state before to the state after.

## Main results

* `Op.Post.bind`, `Op.Ok.bind` — the rules for a sequence of two operations.
* `Op.Post.attempt_bind` — the rule for an operation whose status is inspected.
-/

/-- An operation on the state `σ` that returns an `α` or fails with an `ε`; the state it
leaves is kept either way. -/
def Op (σ ε α : Type) : Type := σ → Except ε α × σ

namespace Op

variable {σ τ ε α β : Type}

/-- Return a value, leaving the state alone. -/
def pure (a : α) : Op σ ε α := fun s => (.ok a, s)

/-- Run `x`, then continue with its value unless it failed. -/
def bind (x : Op σ ε α) (f : α → Op σ ε β) : Op σ ε β := fun s =>
  match x s with
  | (.ok a, s') => f a s'
  | (.error e, s') => (.error e, s')

instance : Monad (Op σ ε) where
  pure := Op.pure
  bind := Op.bind

/-- Fail with `e`. -/
def fail (e : ε) : Op σ ε α := fun s => (.error e, s)

/-- Read the state. -/
def get : Op σ ε σ := fun s => (.ok s, s)

/-- Change the state. -/
def modify (f : σ → σ) : Op σ ε Unit := fun s => (.ok (), f s)

/-- Run `x` and return its status; never fails itself. -/
def attempt (x : Op σ ε α) : Op σ ε (Except ε α) := fun s => (.ok (x s).1, (x s).2)

/-- Continue with the status `r`. -/
def ofExcept (r : Except ε α) : Op σ ε α := fun s => (r, s)

/-- Run `x` if the condition holds. -/
def when (c : Prop) [Decidable c] (x : Op σ ε Unit) : Op σ ε Unit := if c then x else pure ()

/-- Run an operation on the component of the state that `proj` reads and `put` replaces. -/
def zoom (proj : τ → σ) (put : τ → σ → τ) (x : Op σ ε α) : Op τ ε α := fun t =>
  ((x (proj t)).1, put t (x (proj t)).2)

@[simp] lemma pure_run (a : α) (s : σ) : (Pure.pure a : Op σ ε α) s = (.ok a, s) := rfl

@[simp] lemma fail_run (e : ε) (s : σ) : (fail e : Op σ ε α) s = (.error e, s) := rfl

@[simp] lemma modify_run (f : σ → σ) (s : σ) :
    (modify f : Op σ ε Unit) s = (.ok (), f s) := rfl

@[simp] lemma ofExcept_run (r : Except ε α) (s : σ) : (ofExcept r : Op σ ε α) s = (r, s) := rfl

@[simp] lemma when_pos {c : Prop} [Decidable c] (h : c) (x : Op σ ε Unit) : when c x = x :=
  if_pos h

@[simp] lemma when_neg {c : Prop} [Decidable c] (h : ¬ c) (x : Op σ ε Unit) :
    when c x = Pure.pure () := if_neg h

@[simp] lemma zoom_run (proj : τ → σ) (put : τ → σ → τ) (x : Op σ ε α) (t : τ) :
    zoom proj put x t = ((x (proj t)).1, put t (x (proj t)).2) := rfl

lemma bind_run (x : Op σ ε α) (f : α → Op σ ε β) (s : σ) :
    (x >>= f) s = match x s with
      | (.ok a, s') => f a s'
      | (.error e, s') => (.error e, s') := rfl

@[simp] lemma pure_bind_run (a : α) (f : α → Op σ ε β) (s : σ) :
    ((Pure.pure a : Op σ ε α) >>= f) s = f a s := rfl

@[simp] lemma get_bind_run (f : σ → Op σ ε β) (s : σ) :
    ((get : Op σ ε σ) >>= f) s = f s s := rfl

@[simp] lemma modify_bind_run (g : σ → σ) (f : Unit → Op σ ε β) (s : σ) :
    ((modify g : Op σ ε Unit) >>= f) s = f () (g s) := rfl

@[simp] lemma attempt_bind_run (x : Op σ ε α) (f : Except ε α → Op σ ε β) (s : σ) :
    (attempt x >>= f) s = f (x s).1 (x s).2 := rfl

instance : LawfulMonad (Op σ ε) := .mk' _
  (fun x => funext fun s => by
    change (match x s with | (.ok a, s') => (.ok a, s') | (.error e, s') => (.error e, s')) = x s
    rcases x s with ⟨_ | _, _⟩ <;> rfl)
  (fun _ _ => rfl)
  (fun x f g => funext fun s => by
    simp only [bind_run]
    rcases x s with ⟨_ | _, _⟩ <;> rfl)

/-- When the first operation succeeds, the sequence is the second run in the state it left. -/
lemma bind_ok {x : Op σ ε α} {f : α → Op σ ε β} {s s' : σ} {a : α} (h : x s = (.ok a, s')) :
    (x >>= f) s = f a s' := by
  rw [bind_run, h]

/-- When the first operation fails, so does the sequence, in the state it left. -/
lemma bind_error {x : Op σ ε α} {f : α → Op σ ε β} {s s' : σ} {e : ε}
    (h : x s = (.error e, s')) : (x >>= f) s = (.error e, s') := by
  rw [bind_run, h]

/-- Continuing with a status that is known to be a success. -/
lemma ofExcept_bind_ok {r : Except ε α} {f : α → Op σ ε β} {a : α} (h : r = .ok a) (s : σ) :
    (ofExcept r >>= f) s = f a s := by
  rw [h]
  rfl

/-- Continuing with a status that is known to be a failure. -/
lemma ofExcept_bind_error {r : Except ε α} {f : α → Op σ ε β} {e : ε} (h : r = .error e) (s : σ) :
    (ofExcept r >>= f) s = (.error e, s) := by
  rw [h]
  rfl

/-- Renaming the value of an operation. -/
lemma bind_pure_run (x : Op σ ε α) (g : α → β) (s : σ) :
    (x >>= fun a => Pure.pure (g a)) s = ((x s).1.map g, (x s).2) := by
  rw [bind_run]
  rcases x s with ⟨_ | _, _⟩ <;> rfl

/-- A sequence that succeeds is made of two runs that do. -/
lemma bind_eq_ok {x : Op σ ε α} {f : α → Op σ ε β} {s s' : σ} {b : β}
    (h : (x >>= f) s = (.ok b, s')) : ∃ a s1, x s = (.ok a, s1) ∧ f a s1 = (.ok b, s') := by
  rcases hx : x s with ⟨e | a, s1⟩
  · rw [bind_error hx] at h
    cases h
  · exact ⟨a, s1, rfl, (bind_ok hx).symm.trans h⟩

/-- A sequence that inspects the status of its first operation and hands it on at the end. -/
lemma attempt_bind_eq_ok {x : Op σ ε α} {y : Op σ ε β} {s s' : σ} {a : α}
    (h : (attempt x >>= fun r => y >>= fun _ => ofExcept r) s = (.ok a, s')) :
    ∃ s1 b, x s = (.ok a, s1) ∧ y s1 = (.ok b, s') := by
  rw [attempt_bind_run] at h
  obtain ⟨b, s1, hy, h⟩ := bind_eq_ok h
  rw [ofExcept_run, Prod.mk.injEq] at h
  obtain ⟨hx, rfl⟩ := h
  exact ⟨(x s).2, b, Prod.ext hx rfl, hy⟩

/-! ## Postconditions -/

/-- Running `x` from `s` ends in an outcome and a state that satisfy `Q`. -/
def Post (x : Op σ ε α) (s : σ) (Q : Except ε α → σ → Prop) : Prop := Q (x s).1 (x s).2

/-- Running `x` from `s` succeeds, with a value and a state that satisfy `Q`. -/
def Ok (x : Op σ ε α) (s : σ) (Q : α → σ → Prop) : Prop :=
  ∃ a s', x s = (.ok a, s') ∧ Q a s'

section Rules

variable {x : Op σ ε α} {f : α → Op σ ε β} {s : σ}

lemma Ok.intro {a : α} {s' : σ} {Q : α → σ → Prop} (h : x s = (.ok a, s')) (hQ : Q a s') :
    x.Ok s Q := ⟨a, s', h, hQ⟩

lemma Ok.mono {Q Q' : α → σ → Prop} (h : x.Ok s Q) (hQ : ∀ a s', Q a s' → Q' a s') :
    x.Ok s Q' := by
  obtain ⟨a, s', hx, hq⟩ := h
  exact ⟨a, s', hx, hQ a s' hq⟩

lemma Post.mono {Q Q' : Except ε α → σ → Prop} (h : x.Post s Q)
    (hQ : ∀ r s', Q r s' → Q' r s') : x.Post s Q' := hQ _ _ h

/-- The rule of sequence for operations that succeed. -/
lemma Ok.bind {Q : α → σ → Prop} {R : β → σ → Prop} (h : x.Ok s Q)
    (hf : ∀ a s', Q a s' → (f a).Ok s' R) : (x >>= f).Ok s R := by
  obtain ⟨a, s', hx, hq⟩ := h
  obtain ⟨b, s'', hfx, hr⟩ := hf a s' hq
  exact ⟨b, s'', by rw [bind_ok hx, hfx], hr⟩

/-- The rule of sequence after a run that is known. -/
lemma Ok.run_bind {a : α} {s' : σ} {R : β → σ → Prop} (h : x s = (.ok a, s'))
    (hf : (f a).Ok s' R) : (x >>= f).Ok s R := by
  unfold Ok
  rwa [bind_ok h]

/-- The rule of sequence after an operation that succeeds. -/
lemma Ok.bind_post {Q : α → σ → Prop} {R : Except ε β → σ → Prop} (h : x.Ok s Q)
    (hf : ∀ a s', Q a s' → (f a).Post s' R) : (x >>= f).Post s R := by
  obtain ⟨a, s', hx, hq⟩ := h
  unfold Post
  rw [bind_ok hx]
  exact hf a s' hq

/-- The rule of sequence: a failure of the first operation is the outcome of the sequence. -/
lemma Post.bind {Q : Except ε α → σ → Prop} {R : Except ε β → σ → Prop} (h : x.Post s Q)
    (hf : ∀ a s', Q (.ok a) s' → (f a).Post s' R)
    (he : ∀ e s', Q (.error e) s' → R (.error e) s') : (x >>= f).Post s R := by
  unfold Post at h ⊢
  rw [bind_run]
  rcases hx : x s with ⟨e | a, s'⟩ <;> rw [hx] at h
  · exact he e s' h
  · exact hf a s' h

/-- The rule for an operation whose status is inspected. -/
lemma Post.attempt_bind {g : Except ε α → Op σ ε β} {R : Except ε β → σ → Prop}
    (h : x.Post s fun r s' => (g r).Post s' R) : (attempt x >>= g).Post s R := h

/-- The rule for inspecting the status of an operation that succeeds, in a sequence that does. -/
lemma Ok.attempt_bind_ok {g : Except ε α → Op σ ε β} {Q : α → σ → Prop} {R : β → σ → Prop}
    (h : x.Ok s Q) (hg : ∀ a s', Q a s' → (g (.ok a)).Ok s' R) : (attempt x >>= g).Ok s R := by
  obtain ⟨a, s', hx, hq⟩ := h
  unfold Ok
  rw [attempt_bind_run, hx]
  exact hg a s' hq

lemma Ok.post {Q : α → σ → Prop} {R : Except ε α → σ → Prop} (h : x.Ok s Q)
    (hQ : ∀ a s', Q a s' → R (.ok a) s') : x.Post s R := by
  obtain ⟨a, s', hx, hq⟩ := h
  unfold Post
  rw [hx]
  exact hQ a s' hq

lemma Post.pure {a : α} {Q : Except ε α → σ → Prop} (h : Q (.ok a) s) :
    (Pure.pure a : Op σ ε α).Post s Q := h

lemma Post.fail {e : ε} {Q : Except ε α → σ → Prop} (h : Q (.error e) s) :
    (Op.fail e : Op σ ε α).Post s Q := h

lemma Ok.pure {a : α} {Q : α → σ → Prop} (h : Q a s) : (Pure.pure a : Op σ ε α).Ok s Q :=
  ⟨a, s, rfl, h⟩

lemma Ok.modify {g : σ → σ} {Q : Unit → σ → Prop} (h : Q () (g s)) :
    (Op.modify g : Op σ ε Unit).Ok s Q := ⟨(), g s, rfl, h⟩

lemma Ok.get_bind {g : σ → Op σ ε β} {R : β → σ → Prop} (h : (g s).Ok s R) :
    ((Op.get : Op σ ε σ) >>= g).Ok s R := h

lemma Post.get_bind {g : σ → Op σ ε β} {R : Except ε β → σ → Prop} (h : (g s).Post s R) :
    ((Op.get : Op σ ε σ) >>= g).Post s R := h

lemma Ok.modify_bind {g : σ → σ} {k : Unit → Op σ ε β} {R : β → σ → Prop}
    (h : (k ()).Ok (g s) R) : ((Op.modify g : Op σ ε Unit) >>= k).Ok s R := h

lemma Post.modify_bind {g : σ → σ} {k : Unit → Op σ ε β} {R : Except ε β → σ → Prop}
    (h : (k ()).Post (g s) R) : ((Op.modify g : Op σ ε Unit) >>= k).Post s R := h

lemma Ok.pure_bind {a : α} {R : β → σ → Prop} (h : (f a).Ok s R) :
    ((Pure.pure a : Op σ ε α) >>= f).Ok s R := h

lemma Post.pure_bind {a : α} {R : Except ε β → σ → Prop} (h : (f a).Post s R) :
    ((Pure.pure a : Op σ ε α) >>= f).Post s R := h

lemma Ok.when {c : Prop} [Decidable c] {x : Op σ ε Unit} {Q : Unit → σ → Prop}
    (h : c → x.Ok s Q) (h' : ¬ c → Q () s) : (Op.when c x).Ok s Q := by
  by_cases hc : c
  · rw [when_pos hc]; exact h hc
  · rw [when_neg hc]; exact Ok.pure (h' hc)

lemma Post.when {c : Prop} [Decidable c] {x : Op σ ε Unit} {Q : Except ε Unit → σ → Prop}
    (h : c → x.Post s Q) (h' : ¬ c → Q (.ok ()) s) : (Op.when c x).Post s Q := by
  by_cases hc : c
  · rw [when_pos hc]; exact h hc
  · rw [when_neg hc]; exact Post.pure (h' hc)

lemma Post.and {Q Q' : Except ε α → σ → Prop} (h : x.Post s Q) (h' : x.Post s Q') :
    x.Post s fun r s' => Q r s' ∧ Q' r s' := ⟨h, h'⟩

/-! ## Success and failure -/

/-- Running `x` from `s` succeeds as `Q` says, or fails in a state as `E` says. -/
def Ends (x : Op σ ε α) (s : σ) (Q : α → σ → Prop) (E : σ → Prop) : Prop :=
  (∃ a s', x s = (.ok a, s') ∧ Q a s') ∨ ∃ e s', x s = (.error e, s') ∧ E s'

section Ends

variable {Q Q' : α → σ → Prop} {R : β → σ → Prop} {E E' : σ → Prop}

lemma Ends.ok {a : α} {s' : σ} (h : x s = (.ok a, s')) (hQ : Q a s') : x.Ends s Q E :=
  .inl ⟨a, s', h, hQ⟩

lemma Ends.error {e : ε} {s' : σ} (h : x s = (.error e, s')) (hE : E s') : x.Ends s Q E :=
  .inr ⟨e, s', h, hE⟩

lemma Ends.fail {e : ε} (h : E s) : (Op.fail e : Op σ ε α).Ends s Q E := .error rfl h

lemma Ends.mono (h : x.Ends s Q E) (hQ : ∀ a s', Q a s' → Q' a s') (hE : ∀ s', E s' → E' s') :
    x.Ends s Q' E' := by
  rcases h with ⟨a, s', h, hq⟩ | ⟨e, s', h, he⟩
  · exact .ok h (hQ a s' hq)
  · exact .error h (hE s' he)

/-- The rule of sequence. -/
lemma Ends.bind (h : x.Ends s Q E) (hf : ∀ a s', Q a s' → (f a).Ends s' R E) :
    (x >>= f).Ends s R E := by
  rcases h with ⟨a, s', h, hq⟩ | ⟨e, s', h, he⟩
  · unfold Ends
    rw [bind_ok h]
    exact hf a s' hq
  · exact .error (bind_error h) he

/-- The rule of sequence where a failure of the first operation has to be one of the sequence. -/
lemma Ends.bind' (h : x.Ends s Q E) (hf : ∀ a s', Q a s' → (f a).Ends s' R E')
    (hE : ∀ s', E s' → E' s') : (x >>= f).Ends s R E' :=
  Ends.bind (h.mono (fun _ _ hq => hq) hE) hf

lemma Ends.ofExcept {r : Except ε α} (hok : ∀ a, r = .ok a → Q a s)
    (herror : ∀ e, r = .error e → E s) : (Op.ofExcept r).Ends s Q E := by
  rcases hr : r with e | a
  · exact .error rfl (herror e hr)
  · exact .ok rfl (hok a hr)

/-- The rule of sequence after a run that is known. -/
lemma Ends.run_bind {a : α} {s' : σ} (h : x s = (.ok a, s')) (hf : (f a).Ends s' R E) :
    (x >>= f).Ends s R E := by
  unfold Ends
  rwa [bind_ok h]

/-- The rule for continuing with a status. -/
lemma Ends.ofExcept_bind {r : Except ε α} (hok : ∀ a, r = .ok a → (f a).Ends s R E)
    (herror : ∀ e, r = .error e → E s) : (Op.ofExcept r >>= f).Ends s R E := by
  rcases hr : r with e | a
  · exact .error rfl (herror e hr)
  · exact .run_bind rfl (hok a hr)

/-- The rule for inspecting the status of an operation. -/
lemma Ends.attempt_bind {g : Except ε α → Op σ ε β} (h : x.Ends s Q E')
    (hok : ∀ a s', Q a s' → (g (.ok a)).Ends s' R E)
    (herror : ∀ e s', E' s' → (g (.error e)).Ends s' R E) : (attempt x >>= g).Ends s R E := by
  unfold Ends
  rw [attempt_bind_run]
  rcases h with ⟨a, s', h, hq⟩ | ⟨e, s', h, he⟩
  · rw [h]
    exact hok a s' hq
  · rw [h]
    exact herror e s' he

lemma Ends.post {P : Except ε α → σ → Prop} (h : x.Ends s Q E) (hQ : ∀ a s', Q a s' → P (.ok a) s')
    (hE : ∀ e s', E s' → P (.error e) s') : x.Post s P := by
  unfold Post
  rcases h with ⟨a, s', h, hq⟩ | ⟨e, s', h, he⟩
  · rw [h]
    exact hQ a s' hq
  · rw [h]
    exact hE e s' he

lemma Ends.zoom {τ : Type} {proj : τ → σ} {put : τ → σ → τ} {t : τ} {Q : α → τ → Prop}
    {E : τ → Prop} (h : x.Ends (proj t) (fun a s' => Q a (put t s')) fun s' => E (put t s')) :
    (Op.zoom proj put x).Ends t Q E := by
  rcases h with ⟨a, s', h, hq⟩ | ⟨e, s', h, he⟩
  · exact .ok (by rw [zoom_run, h]) hq
  · exact .error (by rw [zoom_run, h]) he

end Ends

end Rules

/-! ## Relations between the states before and after -/

section Respects

/-- **`x` respects `I`**: whatever its outcome, a run relates the state it starts from to the state
it leaves. -/
def Respects (x : Op σ ε α) (I : σ → σ → Prop) : Prop := ∀ s, I s (x s).2

variable {I J : σ → σ → Prop} {x : Op σ ε α} {f : α → Op σ ε β}

lemma Respects.post (h : x.Respects I) (s : σ) : x.Post s fun _ s' => I s s' := h s

lemma Respects.mono (h : x.Respects I) (hI : ∀ s s', I s s' → J s s') : x.Respects J :=
  fun s => hI _ _ (h s)

lemma Respects.modify {g : σ → σ} (h : ∀ s, I s (g s)) :
    (Op.modify g : Op σ ε Unit).Respects I := h

lemma Respects.attempt (h : x.Respects I) : (attempt x).Respects I := h

lemma Respects.get_bind {g : σ → Op σ ε β} (h : ∀ s, (g s).Respects I) :
    ((Op.get : Op σ ε σ) >>= g).Respects I := fun s => h s s

lemma Respects.ite {c : Prop} [Decidable c] {y : Op σ ε α} (hx : x.Respects I)
    (hy : y.Respects I) : (if c then x else y).Respects I := by
  by_cases hc : c
  · rwa [if_pos hc]
  · rwa [if_neg hc]

variable [IsPreorder σ I]

lemma Respects.pure (a : α) : (Pure.pure a : Op σ ε α).Respects I := fun s => refl_of I s

lemma Respects.fail (e : ε) : (Op.fail e : Op σ ε α).Respects I := fun s => refl_of I s

lemma Respects.get : (Op.get : Op σ ε σ).Respects I := fun s => refl_of I s

lemma Respects.ofExcept (r : Except ε α) : (Op.ofExcept r : Op σ ε α).Respects I :=
  fun s => refl_of I s

lemma Respects.bind (h : x.Respects I) (hf : ∀ a, (f a).Respects I) : (x >>= f).Respects I := by
  intro s
  rcases hx : x s with ⟨a | e, s1⟩
  · rw [bind_error hx]
    have := h s
    rwa [hx] at this
  · rw [bind_ok hx]
    have := h s
    rw [hx] at this
    exact trans_of I this (hf _ s1)

lemma Respects.when {c : Prop} [Decidable c] {x : Op σ ε Unit} (h : x.Respects I) :
    (Op.when c x).Respects I := by
  by_cases hc : c
  · rwa [when_pos hc]
  · rw [when_neg hc]
    exact .pure ()

/-- A relation on the first component of the state. -/
def OnFst (I : σ → σ → Prop) (t u : σ × τ) : Prop := I t.1 u.1

instance : IsPreorder (σ × τ) (OnFst I) where
  refl t := refl_of I t.1
  trans _ _ _ h h' := trans_of I h h'

end Respects

section Zoom

variable {proj : τ → σ} {put : τ → σ → τ} {x : Op σ ε α} {t : τ}

lemma Respects.zoom {I : σ → σ → Prop} {J : τ → τ → Prop} (h : x.Respects I)
    (hJ : ∀ t u, I (proj t) u → J t (put t u)) : (Op.zoom proj put x).Respects J :=
  fun t => hJ t _ (h (proj t))

end Zoom

end Op
