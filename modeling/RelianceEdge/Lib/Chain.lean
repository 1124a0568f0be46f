import Mathlib.Data.List.Nodup
import Mathlib.Data.List.Lattice
import Mathlib.Logic.Function.Basic
import Mathlib.Tactic.Common

set_option relaxedAutoImplicit false
set_option autoImplicit false

/-!
# Singly linked lists

Nodes that point to the next one, as they lie in memory or on disk: a function `next` from nodes
to nodes. A list is known by its first node and ends at a node `nil` that is on no list.

## Main definitions

* `Segment` — the nodes on the way from one node to another.
* `Chain` — the nodes on the way to the end.

## Main results

* `Chain.unique`, `Chain.nodup` — a list that ends is determined by its first node, and passes no
  node twice.
* `Chain.push`, `Chain.pop`, `Chain.unlink`, `Chain.concat` — the effect of the usual changes of
  one pointer.
-/

variable {α : Type}

/-- From `a` the pointers lead through the nodes of the list, in its order, to `b`. -/
def Segment (next : α → α) : α → List α → α → Prop
  | a, [], b => a = b
  | a, x :: l, b => a = x ∧ Segment next (next x) l b

/-- **A list that ends**: from `a` the pointers lead through `l` to `nil`, which is not on it. -/
def Chain (next : α → α) (nil a : α) (l : List α) : Prop := Segment next a l nil ∧ nil ∉ l

variable {next next' : α → α} {nil a b c x : α} {l m : List α}

namespace Segment

lemma congr (h : ∀ y ∈ l, next' y = next y) : ∀ {a : α}, Segment next a l b →
    Segment next' a l b := by
  induction l with
  | nil => exact fun hs => hs
  | cons y l ih =>
    rintro a ⟨rfl, hs⟩
    refine ⟨rfl, ?_⟩
    rw [h a List.mem_cons_self]
    exact ih (fun z hz => h z (List.mem_cons_of_mem _ hz)) hs

lemma append_iff : ∀ {l : List α} {a : α}, Segment next a (l ++ m) c ↔
    ∃ b, Segment next a l b ∧ Segment next b m c
  | [], a => ⟨fun h => ⟨a, rfl, h⟩, fun ⟨_, hb, h⟩ => hb ▸ h⟩
  | y :: l, a => by
    constructor
    · rintro ⟨rfl, h⟩
      obtain ⟨b, h1, h2⟩ := append_iff.1 h
      exact ⟨b, ⟨rfl, h1⟩, h2⟩
    · rintro ⟨b, ⟨rfl, h1⟩, h2⟩
      exact ⟨rfl, append_iff.2 ⟨b, h1, h2⟩⟩

end Segment

namespace Chain

lemma nil_iff : Chain next nil a [] ↔ a = nil :=
  ⟨fun h => h.1, fun h => ⟨h, List.not_mem_nil⟩⟩

lemma cons_iff : Chain next nil a (x :: l) ↔ a = x ∧ x ≠ nil ∧ Chain next nil (next x) l := by
  constructor
  · rintro ⟨⟨rfl, h⟩, hn⟩
    rw [List.mem_cons, not_or] at hn
    exact ⟨rfl, fun he => hn.1 he.symm, h, hn.2⟩
  · rintro ⟨rfl, hx, h, hn⟩
    refine ⟨⟨rfl, h⟩, ?_⟩
    rw [List.mem_cons, not_or]
    exact ⟨fun he => hx he.symm, hn⟩

/-- The first node is the end only of the empty list. -/
lemma eq_nil_iff (h : Chain next nil a l) : a = nil ↔ l = [] := by
  cases l with
  | nil => exact ⟨fun _ => rfl, fun _ => h.1⟩
  | cons y l =>
    obtain ⟨rfl, hy, -⟩ := cons_iff.1 h
    exact ⟨fun he => absurd he hy, fun he => absurd he (List.cons_ne_nil _ _)⟩

/-- A list that does not end at once starts with its first node. -/
lemma exists_cons (h : Chain next nil a l) (ha : a ≠ nil) :
    ∃ t, l = a :: t ∧ Chain next nil (next a) t := by
  cases l with
  | nil => exact absurd h.1 ha
  | cons y t =>
    obtain ⟨rfl, -, ht⟩ := cons_iff.1 h
    exact ⟨t, rfl, ht⟩

/-- The first node determines the list. -/
theorem unique : ∀ {l m : List α} {a : α}, Chain next nil a l → Chain next nil a m → l = m
  | [], m, a, h, h' => ((eq_nil_iff h').1 (nil_iff.1 h)).symm
  | x :: l, m, a, h, h' => by
    obtain ⟨rfl, hx, hl⟩ := cons_iff.1 h
    obtain ⟨t, rfl, ht⟩ := exists_cons h' hx
    rw [unique hl ht]

/-- What follows a node of the list. -/
lemma tail_of_append (h : Chain next nil a (l ++ x :: m)) : Chain next nil x (x :: m) := by
  obtain ⟨b, h1, rfl, h2⟩ := Segment.append_iff.1 h.1
  exact ⟨⟨rfl, h2⟩, fun hn => h.2 (List.mem_append_right _ hn)⟩

/-- **A list that ends passes no node twice**: from a node on, it would be its own proper part. -/
theorem nodup : ∀ {l : List α} {a : α}, Chain next nil a l → l.Nodup
  | [], _, _ => List.nodup_nil
  | x :: l, a, h => by
    obtain ⟨rfl, hx, hl⟩ := cons_iff.1 h
    refine List.nodup_cons.2 ⟨fun hmem => ?_, nodup hl⟩
    obtain ⟨l1, l2, rfl⟩ := List.append_of_mem hmem
    have heq : a :: (l1 ++ a :: l2) = a :: l2 := unique h (tail_of_append hl)
    have hlen := congrArg List.length heq
    simp only [List.length_cons, List.length_append] at hlen
    omega

lemma congr (h : Chain next nil a l) (hnext : ∀ y ∈ l, next' y = next y) :
    Chain next' nil a l := ⟨h.1.congr hnext, h.2⟩

/-- The list without its first node. -/
theorem pop (h : Chain next nil a (x :: l)) : Chain next nil (next x) l := (cons_iff.1 h).2.2

section Update

variable [DecidableEq α]

/-- A pointer that is not on the list may change. -/
lemma update (h : Chain next nil a l) (hx : x ∉ l) (b : α) :
    Chain (Function.update next x b) nil a l :=
  h.congr fun _ hy => Function.update_of_ne (fun he => hx (by rwa [← he])) _ _

/-- A new first node. -/
theorem push (h : Chain next nil a l) (hx : x ∉ l) (hn : x ≠ nil) :
    Chain (Function.update next x a) nil x (x :: l) := by
  refine cons_iff.2 ⟨rfl, hn, ?_⟩
  rw [Function.update_self]
  exact h.update hx a

/-- **Taking out a node that has a node before it**: that one points to the node after. -/
theorem unlink (h : Chain next nil a (l ++ b :: x :: m)) :
    Chain (Function.update next b (next x)) nil a (l ++ b :: m) := by
  have hnodup := h.nodup
  obtain ⟨c, h1, rfl, rfl, h2⟩ := Segment.append_iff.1 h.1
  rw [List.nodup_append, List.nodup_cons, List.nodup_cons] at hnodup
  obtain ⟨-, ⟨hb, -, -⟩, hdis⟩ := hnodup
  have hl : ∀ y ∈ l, Function.update next c (next (next c)) y = next y := fun y hy =>
    Function.update_of_ne (hdis y hy c List.mem_cons_self) _ _
  have hm : ∀ y ∈ m, Function.update next c (next (next c)) y = next y := fun y hy =>
    Function.update_of_ne (fun he => hb (List.mem_cons_of_mem _ (by rwa [← he]))) _ _
  refine ⟨Segment.append_iff.2 ⟨c, h1.congr hl, rfl, ?_⟩, fun hn => h.2 ?_⟩
  · rw [Function.update_self]
    exact h2.congr hm
  · simp only [List.mem_append, List.mem_cons] at hn ⊢
    tauto

/-- **Two lists into one**: the last node of the first points to the first node of the second. -/
theorem concat (h : Chain next nil a (l ++ [x])) (h' : Chain next nil b m)
    (hdis : ∀ y ∈ l ++ [x], y ∉ m) : Chain (Function.update next x b) nil a (l ++ x :: m) := by
  have hnodup := h.nodup
  obtain ⟨c, h1, rfl, -⟩ := Segment.append_iff.1 h.1
  rw [List.nodup_append] at hnodup
  have hl : ∀ y ∈ l, Function.update next c b y = next y := fun y hy =>
    Function.update_of_ne (hnodup.2.2 y hy c (List.mem_singleton_self c)) _ _
  have hc : c ∉ m := hdis c (List.mem_append_right _ (List.mem_singleton_self c))
  have hm := h'.update hc b
  refine ⟨Segment.append_iff.2 ⟨c, h1.congr hl, rfl, ?_⟩, fun hn => ?_⟩
  · rw [Function.update_self]
    exact hm.1
  · simp only [List.mem_append, List.mem_cons] at hn
    rcases hn with hn | hn | hn
    · exact h.2 (List.mem_append_left _ hn)
    · exact h.2 (List.mem_append_right _ (List.mem_singleton.2 hn))
    · exact h'.2 hn

end Update

end Chain
