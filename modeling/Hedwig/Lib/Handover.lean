import Mathlib.Data.Set.Basic

set_option relaxedAutoImplicit false
set_option autoImplicit false

/-!
# Handing items over

Items are moved from a source to a target by copying their content: a copy is sent to the target,
and the item is removed from the source.  Either side may do more than it is known to have done: a
copy may arrive although its arrival was never confirmed, and an item may stay although its
removal was requested.  No item is lost if its removal is requested only after the target has
confirmed a copy.

## Main definitions

* `Handover.Event` — a confirmation by the target, or a request to the source.
* `Handover.Confirmed` — every request comes after a confirmation of the same content.
* `Handover.Depots`, `Handover.Depots.Run` — the two sides, and what a trace may do to them.
* `Handover.LosesNothing` — at every point of a trace, every item is on one of the sides.

## Main results

* `Handover.Confirmed.append` — one trace after the other.
* `Handover.Confirmed.losesNothing` — a trace with confirmed requests loses nothing.
-/

namespace Handover

variable {μ β : Type}

/-- An event between two sides that exchange items by their content. -/
inductive Event (μ β : Type)
  /-- The target has confirmed that it accepted a copy. -/
  | confirm (content : β)
  /-- The source is asked to remove an item. -/
  | remove (item : μ)

/-- Every item that the source is asked to remove has been confirmed before, where `earlier` has
happened already. -/
def ConfirmedAfter (content : μ → β) (earlier : List (Event μ β)) (trace : List (Event μ β)) :
    Prop :=
  ∀ a item b, trace = a ++ .remove item :: b → .confirm (content item) ∈ earlier ++ a

/-- Every item that the source is asked to remove has been confirmed before. -/
def Confirmed (content : μ → β) (trace : List (Event μ β)) : Prop :=
  ConfirmedAfter content [] trace

variable {content : μ → β} {earlier trace trace' : List (Event μ β)}

/-- A trace that removes nothing. -/
lemma confirmedAfter_of_forall (h : ∀ e ∈ trace, ∃ b, e = .confirm b) :
    ConfirmedAfter content earlier trace := by
  rintro a item b rfl
  obtain ⟨c, hc⟩ := h (.remove item) (by simp)
  cases hc

/-- A trace that removes only what has been confirmed already. -/
lemma confirmedAfter_of_earlier
    (h : ∀ item, .remove item ∈ trace → .confirm (content item) ∈ earlier) :
    ConfirmedAfter content earlier trace := by
  rintro a item b rfl
  exact List.mem_append_left _ (h item (by simp))

/-- One trace after the other. -/
lemma ConfirmedAfter.append (h : ConfirmedAfter content earlier trace)
    (h' : ConfirmedAfter content (earlier ++ trace) trace') :
    ConfirmedAfter content earlier (trace ++ trace') := by
  intro a item b heq
  rcases List.append_eq_append_iff.mp heq with ⟨c, rfl, hc⟩ | ⟨c, rfl, hc⟩
  · rw [← List.append_assoc]
    exact h' c item b hc
  · cases c with
    | nil => simpa using h' [] item b (by simpa using hc.symm)
    | cons x c =>
      obtain ⟨rfl, -⟩ : .remove item = x ∧ b = c ++ trace' := by simpa using hc
      exact h a item c rfl

/-- What happened earlier may have been more. -/
lemma ConfirmedAfter.mono {more : List (Event μ β)} (h : ConfirmedAfter content earlier trace)
    (hsub : earlier ⊆ more) : ConfirmedAfter content more trace := by
  intro a item b heq
  rcases List.mem_append.mp (h a item b heq) with hmem | hmem
  · exact List.mem_append_left _ (hsub hmem)
  · exact List.mem_append_right _ hmem

/-- Nothing is removed where nothing happens. -/
@[simp] lemma confirmed_nil : Confirmed content [] := confirmedAfter_of_forall (by simp)

/-- Confirmed traces one after the other. -/
lemma Confirmed.append (h : Confirmed content trace) (h' : Confirmed content trace') :
    Confirmed content (trace ++ trace') :=
  ConfirmedAfter.append h (ConfirmedAfter.mono h' (List.nil_subset _))

/-- The beginning of a confirmed trace is confirmed. -/
lemma Confirmed.of_append (h : Confirmed content (trace ++ trace')) : Confirmed content trace := by
  rintro a item b rfl
  exact h a item (b ++ trace') (by simp)

/-! ## The two sides -/

/-- The items at the source, and the contents that the target has accepted. -/
structure Depots (μ β : Type) where
  source : Set μ
  target : Set β

namespace Depots

/-- What an event may do: a confirmed copy is at the target, and the source has lost no item but
one that it was asked to remove.  Both sides may have got more. -/
def Step (s : Depots μ β) (e : Event μ β) (s' : Depots μ β) : Prop :=
  s.target ⊆ s'.target ∧
    match e with
    | .confirm b => s.source ⊆ s'.source ∧ b ∈ s'.target
    | .remove item => ∀ other ∈ s.source, other ≠ item → other ∈ s'.source

/-- What a trace may do to the two sides. -/
inductive Run : Depots μ β → List (Event μ β) → Depots μ β → Prop
  | nil (s : Depots μ β) : Run s [] s
  | cons {s s' s'' : Depots μ β} {e : Event μ β} {trace : List (Event μ β)}
      (head : s.Step e s') (tail : Run s' trace s'') : Run s (e :: trace) s''

variable {s s' : Depots μ β}

/-- The target keeps what it has, and has everything that was confirmed: by induction on the
run. -/
lemma Run.target (h : s.Run trace s') :
    s.target ⊆ s'.target ∧ ∀ b, .confirm b ∈ trace → b ∈ s'.target := by
  induction h with
  | nil s => exact ⟨subset_rfl, by simp⟩
  | @cons s s' s'' e trace hhead _ ih =>
    refine ⟨hhead.1.trans ih.1, fun b hb => ?_⟩
    rcases List.mem_cons.mp hb with rfl | hb
    · exact ih.1 hhead.2.2
    · exact ih.2 b hb

/-- An item that has left the source was to be removed: by induction on the run. -/
lemma Run.source (h : s.Run trace s') {item : μ} (hitem : item ∈ s.source) :
    item ∈ s'.source ∨ .remove item ∈ trace := by
  induction h with
  | nil s => exact .inl hitem
  | @cons s s' s'' e trace hhead _ ih =>
    by_cases he : e = .remove item
    · exact .inr (by simp [he])
    · have hkept : item ∈ s'.source := by
        cases e with
        | confirm b => exact hhead.2.1 hitem
        | remove other =>
          refine hhead.2 item hitem ?_
          rintro rfl
          exact he rfl
      exact (ih hkept).imp_right (List.mem_cons_of_mem _)

end Depots

/-- At every point of a trace, every item that was at the source is still there, or the target has
accepted a copy of it. -/
def LosesNothing (content : μ → β) (trace : List (Event μ β)) : Prop :=
  ∀ before after, trace = before ++ after → ∀ s s' : Depots μ β, s.Run before s' →
    ∀ item ∈ s.source, item ∈ s'.source ∨ content item ∈ s'.target

/-- **A handover with confirmed removals loses nothing.**

**Proof sketch.** An item that has left the source was to be removed, so a copy was confirmed, so
the target has it. -/
theorem Confirmed.losesNothing (h : Confirmed content trace) : LosesNothing content trace := by
  rintro before after rfl s s' hrun item hitem
  rcases hrun.source hitem with hkept | hremove
  · exact .inl hkept
  · obtain ⟨a, b, hsplit⟩ := List.append_of_mem hremove
    have hconfirm := h.of_append a item b hsplit
    refine .inr (hrun.target.2 _ ?_)
    rw [hsplit]
    exact List.mem_append_left _ (by simpa using hconfirm)

end Handover
