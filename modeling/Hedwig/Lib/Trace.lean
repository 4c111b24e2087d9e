import Mathlib.Data.List.DropRight

set_option relaxedAutoImplicit false
set_option autoImplicit false

/-!
# Traces

A trace is a list of events, the first one first.  This file has what one says about a trace that
grows at its end: a property of each event that may depend on the events around it, the number of
events of one kind since the last one of another kind, and the last value that an event carries.

## Main definitions

* `AtEach` — a property holds at each event of a continuation of a trace.
* `countSince` — the number of events of one kind since the last one of another kind.
* `lastValue` — the value of the last event that has one.

## Main results

* `AtEach.append` — continuations of a trace one after the other.
* `countSince_concat`, `lastValue_concat` — a trace with one more event.
-/

section Trace

variable {ε τ : Type}

/-! ## Each event -/

/-- `P` holds at each event of `l`, which continues the trace `before`: of the events before it, the
event, and the events of `l` after it. -/
def AtEach (P : List ε → ε → List ε → Prop) (before l : List ε) : Prop :=
  ∀ a e b, l = a ++ e :: b → P (before ++ a) e b

variable {P Q : List ε → ε → List ε → Prop} {before l l' : List ε}

/-- Nothing to show where there is no event. -/
@[simp] lemma atEach_nil : AtEach P before [] := by
  intro a e b h
  cases a <;> cases h

/-- An event of a trace from its start. -/
lemma AtEach.at (h : AtEach P [] l) {a : List ε} {e : ε} {b : List ε} (heq : l = a ++ e :: b) :
    P a e b := h a e b heq

/-- A shorter continuation, for a property that does not look at later events. -/
lemma AtEach.of_append {R : List ε → ε → Prop} (h : AtEach (fun a e _ => R a e) before (l ++ l')) :
    AtEach (fun a e _ => R a e) before l := by
  intro a e b heq
  refine h a e (b ++ l') ?_
  rw [heq, List.append_assoc, List.cons_append]

/-- One event. -/
@[simp] lemma atEach_singleton {e : ε} : AtEach P before [e] ↔ P before e [] := by
  constructor
  · intro h
    simpa using h [] e [] rfl
  · intro h a e' b heq
    cases a with
    | nil =>
      obtain ⟨rfl, rfl⟩ : e = e' ∧ [] = b := by simpa using heq
      simpa using h
    | cons x a => simp at heq

/-- The first event, and the others. -/
lemma atEach_cons {e : ε} :
    AtEach P before (e :: l) ↔ P before e l ∧ AtEach P (before ++ [e]) l := by
  constructor
  · intro h
    refine ⟨by simpa using h [] e l rfl, ?_⟩
    rintro a e' b rfl
    simpa using h (e :: a) e' b rfl
  · rintro ⟨hhead, htail⟩ a e' b heq
    cases a with
    | nil =>
      obtain ⟨rfl, rfl⟩ : e = e' ∧ l = b := by simpa using heq
      simpa using hhead
    | cons x a =>
      obtain ⟨rfl, rfl⟩ : e = x ∧ l = a ++ e' :: b := by simpa using heq
      simpa using htail a e' b rfl

/-- **One continuation after the other**: the events of the first one also see those of the second
one. -/
lemma AtEach.append (h : AtEach (fun a e b => P a e (b ++ l')) before l)
    (h' : AtEach P (before ++ l) l') : AtEach P before (l ++ l') := by
  intro a e b heq
  rcases List.append_eq_append_iff.mp heq with ⟨c, rfl, hc⟩ | ⟨c, rfl, hc⟩
  · rw [← List.append_assoc]
    exact h' c e b hc
  · cases c with
    | nil => simpa using h' [] e b (by simpa using hc.symm)
    | cons x c =>
      obtain ⟨rfl, rfl⟩ : e = x ∧ b = c ++ l' := by simpa using hc
      exact h a e c rfl

/-- A weaker property. -/
lemma AtEach.mono (h : AtEach P before l) (hPQ : ∀ a e b, P a e b → Q a e b) :
    AtEach Q before l := fun a e b heq => hPQ _ e b (h a e b heq)

/-! ## Counting since an event -/

/-- The number of events with `counts` since the last event with `restarts`. -/
def countSince (restarts counts : ε → Bool) (l : List ε) : ℕ :=
  (l.rtakeWhile fun e => !restarts e).countP counts

/-- One more event. -/
lemma countSince_concat (restarts counts : ε → Bool) (l : List ε) (e : ε) :
    countSince restarts counts (l ++ [e]) =
      if restarts e then 0 else countSince restarts counts l + if counts e then 1 else 0 := by
  unfold countSince
  rw [List.rtakeWhile_concat]
  cases restarts e with
  | true => simp
  | false => simp [List.countP_append, List.countP_singleton]

/-- Events of neither kind do not matter. -/
lemma countSince_append {restarts counts : ε → Bool} (l : List ε) {l' : List ε}
    (h : ∀ e ∈ l', restarts e = false ∧ counts e = false) :
    countSince restarts counts (l ++ l') = countSince restarts counts l := by
  induction l' using List.reverseRecOn with
  | nil => rw [List.append_nil]
  | append_singleton l' e ih =>
    obtain ⟨hr, hc⟩ := h e (by simp)
    rw [← List.append_assoc, countSince_concat, hr, hc, ih fun e he => h e (by simp [he])]
    simp

/-! ## The last value -/

/-- The value of the last event that has one. -/
def lastValue (f : ε → Option τ) (l : List ε) : Option τ := (l.filterMap f).getLast?

/-- One more event. -/
lemma lastValue_concat (f : ε → Option τ) (l : List ε) (e : ε) :
    lastValue f (l ++ [e]) = (f e).or (lastValue f l) := by
  unfold lastValue
  rw [List.filterMap_append]
  cases h : f e with
  | none => simp [h]
  | some x => simp [h]

/-- Events without a value do not matter. -/
lemma lastValue_append {f : ε → Option τ} (l : List ε) {l' : List ε} (h : ∀ e ∈ l', f e = none) :
    lastValue f (l ++ l') = lastValue f l := by
  unfold lastValue
  rw [List.filterMap_append, List.filterMap_eq_nil_iff.mpr h, List.append_nil]

end Trace
