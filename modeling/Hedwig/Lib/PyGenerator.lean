import Mathlib.Logic.Basic

set_option relaxedAutoImplicit false
set_option autoImplicit false

/-!
# Generators and context managers

A generator runs to its next `yield`, where it is suspended until it is resumed: by `next`, or by
`throw` with an exception that is then raised at the `yield`.  A `try` statement and a `with`
statement around a `yield` therefore see what is thrown in.  `contextlib.contextmanager` makes a
context manager of a generator that yields once: entering it is running to the `yield`, and leaving
it is resuming with how the body of the `with` statement ended.

## Main definitions

* `PyGen` — the code of a generator, with `PyGen.tryExcept` and `PyGen.withContext` for the
  statements around a `yield`.
* `PyGen.advance` — running it to the next `yield` or to its end.
* `PyContext`, `withStatement` — context managers, and the statement that uses one.
* `contextmanager` — the decorator.
* `PyContext.Transparent` — a `with` statement runs its body once and ends as the body does.

## Main results

* `PyContext.transparent_iff` — when it does: the context manager is entered, and leaving it does
  not change how the body ended.
* `PyContext.reraises_contextmanager` — a generator that passes on what it is resumed with is left
  so.

## Design

The state holds what generator and body may both change.  A body may have more state of its own,
which the context manager cannot touch.  An exception that a generator raises is passed on as it is:
a `StopIteration` becomes a `RuntimeError` in the frame of the generator, which the decorator turns
back into what was thrown in.
-/

/-! ## Generators -/

/-- The code of a generator that yields values of type `α`, raises exceptions of type `ε` and
returns a value of type `ρ`, over a state. -/
inductive PyGen (σ ε α ρ : Type) : Type
  /-- It returns. -/
  | ret (r : ρ)
  /-- It raises. -/
  | raise (e : ε)
  /-- It changes the state, and goes on as the state before tells. -/
  | step (f : σ → σ) (k : σ → PyGen σ ε α ρ)
  /-- It yields, and goes on as it is resumed. -/
  | yield (a : α) (k : Except ε Unit → PyGen σ ε α ρ)

namespace PyGen

variable {σ ε α ρ ρ' : Type}

/-- An expression that has been evaluated. -/
def ofExcept : Except ε ρ → PyGen σ ε α ρ
  | .ok r => .ret r
  | .error e => .raise e

/-- A call of other code. -/
def call (f : σ → Except ε ρ × σ) : PyGen σ ε α ρ :=
  .step (fun s => (f s).2) fun s => ofExcept (f s).1

/-- `yield a` as a statement: what is thrown in is raised there. -/
def yieldValue (a : α) : PyGen σ ε α Unit := .yield a ofExcept

/-- Statements in sequence. -/
def bind : PyGen σ ε α ρ → (ρ → PyGen σ ε α ρ') → PyGen σ ε α ρ'
  | .ret r, q => q r
  | .raise e, _ => .raise e
  | .step f k, q => .step f fun s => (k s).bind q
  | .yield a k, q => .yield a fun o => (k o).bind q

instance instMonad : Monad (PyGen σ ε α) where
  pure := .ret
  bind := bind

/-- `try: ... except`, with a handler for some exceptions. -/
def tryExcept : PyGen σ ε α ρ → (ε → Option (PyGen σ ε α ρ)) → PyGen σ ε α ρ
  | .ret r, _ => .ret r
  | .raise e, handler => (handler e).getD (.raise e)
  | .step f k, handler => .step f fun s => (k s).tryExcept handler
  | .yield a k, handler => .yield a fun o => (k o).tryExcept handler

/-- How far a generator gets. -/
inductive Progress (σ ε α ρ : Type)
  | returned (r : ρ)
  | raised (e : ε)
  | yielded (a : α) (k : Except ε Unit → PyGen σ ε α ρ)

/-- The generator has come to its end. -/
def Progress.ofExcept : Except ε ρ → Progress σ ε α ρ
  | .ok r => .returned r
  | .error e => .raised e

/-- Run a generator to its next `yield`, or to its end. -/
def advance : PyGen σ ε α ρ → σ → Progress σ ε α ρ × σ
  | .ret r, s => (.returned r, s)
  | .raise e, s => (.raised e, s)
  | .step f k, s => (k s).advance (f s)
  | .yield a k, s => (.yielded a k, s)

end PyGen

/-! ## Context managers -/

/-- `__exit__`, which gets the exception of the body, if any, and says whether to suppress it. -/
abbrev PyExit (σ ε : Type) := Option ε → σ → Except ε Bool × σ

/-- A context manager: `__enter__` returns a value, and then there is an `__exit__` to call. -/
abbrev PyContext (σ ε α : Type) := σ → Except ε (α × PyExit σ ε) × σ

section Statements

variable {σ ε α ω : Type}

/-- The end of a `with` statement whose body ended so. -/
def PyExit.leave (exit : PyExit σ ε) (o : Except ε Unit) (s : σ) : Except ε Unit × σ :=
  match o with
  | .ok () =>
    match exit none s with
    | (.ok _, s') => (.ok (), s')
    | (.error e, s') => (.error e, s')
  | .error e =>
    match exit (some e) s with
    | (.ok true, s') => (.ok (), s')
    | (.ok false, s') => (.error e, s')
    | (.error e', s') => (.error e', s')

/-- `with context as a: body`, where the body has state of its own. -/
def withStatement (context : PyContext σ ε α) (body : α → ω × σ → Except ε Unit × ω × σ)
    (s : ω × σ) : Except ε Unit × ω × σ :=
  match context s.2 with
  | (.error e, t) => (.error e, s.1, t)
  | (.ok (a, exit), t) =>
    let r := body a (s.1, t)
    let r' := exit.leave r.1 r.2.2
    (r'.1, r.2.1, r'.2)

/-- The rest of a `with` statement in a generator, from its body on. -/
def PyGen.withExit (exit : PyExit σ ε) : PyGen σ ε α Unit → PyGen σ ε α Unit
  | .ret () => call (exit.leave (.ok ()))
  | .raise e => call (exit.leave (.error e))
  | .step f k => .step f fun s => (k s).withExit exit
  | .yield a k => .yield a fun o => (k o).withExit exit

/-- `with context as a: body` in a generator. -/
def PyGen.withContext {β : Type} (context : PyContext σ ε β) (body : β → PyGen σ ε α Unit) :
    PyGen σ ε α Unit :=
  (call context).bind fun entered => (body entered.1).withExit entered.2

/-- `__exit__` of a context manager made of a generator that is suspended. -/
def PyGen.exit (runtimeError : String → ε) (k : Except ε Unit → PyGen σ ε α Unit) : PyExit σ ε
  | none, s =>
    match (k (.ok ())).advance s with
    | (.returned _, s') => (.ok false, s')
    | (.raised e, s') => (.error e, s')
    | (.yielded _ _, s') => (.error (runtimeError "generator didn't stop"), s')
  | some e, s =>
    match (k (.error e)).advance s with
    | (.returned _, s') => (.ok true, s')
    -- the exception that was thrown in is not raised here but after it has not been suppressed
    | (.raised e', s') => (.error e', s')
    | (.yielded _ _, s') => (.error (runtimeError "generator didn't stop after throw()"), s')

/-- `@contextmanager`. -/
def contextmanager (runtimeError : String → ε) (g : PyGen σ ε α Unit) : PyContext σ ε α := fun s =>
  match g.advance s with
  | (.returned _, s') => (.error (runtimeError "generator didn't yield"), s')
  | (.raised e, s') => (.error e, s')
  | (.yielded a k, s') => (.ok (a, PyGen.exit runtimeError k), s')

end Statements

/-! ## Running a generator -/

namespace PyGen

variable {σ ε α ρ ρ' : Type}

@[simp] lemma advance_ofExcept (o : Except ε ρ) (s : σ) :
    (ofExcept o : PyGen σ ε α ρ).advance s = (.ofExcept o, s) := by
  cases o <;> rfl

@[simp] lemma advance_call (f : σ → Except ε ρ × σ) (s : σ) :
    (call f : PyGen σ ε α ρ).advance s = (.ofExcept (f s).1, (f s).2) := by
  rw [call, advance, advance_ofExcept]

section Bind

variable {p : PyGen σ ε α ρ} {q : ρ → PyGen σ ε α ρ'} {s s' : σ}

/-- After a statement that returns the next one runs. -/
lemma advance_bind_of_returned {r : ρ} (h : p.advance s = (.returned r, s')) :
    (p.bind q).advance s = (q r).advance s' := by
  induction p generalizing s with
  | ret r' =>
    obtain ⟨hr, rfl⟩ := Prod.mk.inj h
    rw [bind, Progress.returned.inj hr]
  | raise e => cases h
  | step f k ih => exact ih _ h
  | yield a k => cases h

/-- After a statement that raises no other one runs. -/
lemma advance_bind_of_raised {e : ε} (h : p.advance s = (.raised e, s')) :
    (p.bind q).advance s = (.raised e, s') := by
  induction p generalizing s with
  | ret r' => cases h
  | raise e' =>
    obtain ⟨he, rfl⟩ := Prod.mk.inj h
    rw [bind, advance, Progress.raised.inj he]
  | step f k ih => exact ih _ h
  | yield a k => cases h

/-- After a call that returns the next statement runs. -/
lemma advance_bind_call_of_ok {f : σ → Except ε ρ × σ} {r : ρ} (h : f s = (.ok r, s')) :
    ((call f : PyGen σ ε α ρ).bind q).advance s = (q r).advance s' :=
  advance_bind_of_returned (by rw [advance_call, h]; rfl)

/-- After a call that raises no other statement runs. -/
lemma advance_bind_call_of_error {f : σ → Except ε ρ × σ} {e : ε} (h : f s = (.error e, s')) :
    ((call f : PyGen σ ε α ρ).bind q).advance s = (.raised e, s') :=
  advance_bind_of_raised (by rw [advance_call, h]; rfl)

end Bind

section TryExcept

variable {p : PyGen σ ε α ρ} {handler : ε → Option (PyGen σ ε α ρ)} {s s' : σ}

/-- A `try` statement returns if its body does. -/
lemma advance_tryExcept_of_returned {r : ρ} (h : p.advance s = (.returned r, s')) :
    (p.tryExcept handler).advance s = (.returned r, s') := by
  induction p generalizing s with
  | ret r' => exact h
  | raise e => cases h
  | step f k ih => exact ih _ h
  | yield a k => cases h

/-- If its body raises, the handler runs or the exception is passed on. -/
lemma advance_tryExcept_of_raised {e : ε} (h : p.advance s = (.raised e, s')) :
    (p.tryExcept handler).advance s = ((handler e).getD (.raise e)).advance s' := by
  induction p generalizing s with
  | ret r' => cases h
  | raise e' =>
    obtain ⟨he, rfl⟩ := Prod.mk.inj h
    rw [tryExcept, Progress.raised.inj he]
  | step f k ih => exact ih _ h
  | yield a k => cases h

/-- A `yield` in its body is one in the `try` statement. -/
lemma advance_tryExcept_of_yielded {a : α} {k : Except ε Unit → PyGen σ ε α ρ}
    (h : p.advance s = (.yielded a k, s')) :
    (p.tryExcept handler).advance s = (.yielded a fun o => (k o).tryExcept handler, s') := by
  induction p generalizing s with
  | ret r' => cases h
  | raise e' => cases h
  | step f k' ih => exact ih _ h
  | yield a' k' =>
    obtain ⟨hyielded, rfl⟩ := Prod.mk.inj h
    obtain ⟨rfl, rfl⟩ := Progress.yielded.inj hyielded
    rfl

end TryExcept

section WithExit

variable {p : PyGen σ ε α Unit} {exit : PyExit σ ε} {s s' : σ}

/-- A `with` statement whose body returns or raises ends as leaving it does. -/
lemma advance_withExit_of_ended {o : Except ε Unit} (h : p.advance s = (.ofExcept o, s')) :
    (p.withExit exit).advance s = (.ofExcept (exit.leave o s').1, (exit.leave o s').2) := by
  induction p generalizing s with
  | ret r =>
    obtain ⟨ho, rfl⟩ := Prod.mk.inj h
    cases o with
    | ok u => rw [withExit, advance_call]
    | error e => cases ho
  | raise e =>
    obtain ⟨ho, rfl⟩ := Prod.mk.inj h
    cases o with
    | ok u => cases ho
    | error e' => rw [withExit, advance_call, Progress.raised.inj ho]
  | step f k ih => exact ih _ h
  | yield a k => cases o <;> cases h

/-- A `yield` in its body is one in the `with` statement. -/
lemma advance_withExit_of_yielded {a : α} {k : Except ε Unit → PyGen σ ε α Unit}
    (h : p.advance s = (.yielded a k, s')) :
    (p.withExit exit).advance s = (.yielded a fun o => (k o).withExit exit, s') := by
  induction p generalizing s with
  | ret r' => cases h
  | raise e' => cases h
  | step f k' ih => exact ih _ h
  | yield a' k' =>
    obtain ⟨hyielded, rfl⟩ := Prod.mk.inj h
    obtain ⟨rfl, rfl⟩ := Progress.yielded.inj hyielded
    rfl

end WithExit

section WithContext

variable {β : Type} {context : PyContext σ ε β} {body : β → PyGen σ ε α Unit} {s s' : σ}

/-- A context manager that is not entered raises. -/
lemma advance_withContext_of_error {e : ε} (h : context s = (.error e, s')) :
    (withContext context body).advance s = (.raised e, s') :=
  advance_bind_call_of_error h

/-- After one that is the body runs. -/
lemma advance_withContext_of_ok {b : β} {exit : PyExit σ ε} (h : context s = (.ok (b, exit), s')) :
    (withContext context body).advance s = ((body b).withExit exit).advance s' :=
  advance_bind_call_of_ok h

end WithContext

end PyGen

/-! ## Leaving a context manager -/

section Leave

variable {σ ε α β ρ ω : Type} {runtimeError : String → ε}

namespace PyGen

variable {k : Except ε Unit → PyGen σ ε α Unit} {s s' : σ}

/-- If the generator ends when it is resumed, the `with` statement ends so. -/
lemma leave_exit_of_ended {o o' : Except ε Unit} (h : (k o).advance s = (.ofExcept o', s')) :
    (exit runtimeError k).leave o s = (o', s') := by
  cases o <;> cases o' <;> simp only [PyExit.leave, exit, h, Progress.ofExcept]

/-- If it yields again after an exception, that is an error. -/
lemma leave_exit_of_yielded {e : ε} {a : α} {k' : Except ε Unit → PyGen σ ε α Unit}
    (h : (k (.error e)).advance s = (.yielded a k', s')) :
    (exit runtimeError k).leave (.error e) s =
      (.error (runtimeError "generator didn't stop after throw()"), s') := by
  simp only [PyExit.leave, exit, h]

end PyGen

/-- A context manager made of a generator that yields is entered. -/
lemma contextmanager_of_yielded {g : PyGen σ ε α Unit} {a : α}
    {k : Except ε Unit → PyGen σ ε α Unit} {s t : σ} (h : g.advance s = (.yielded a k, t)) :
    contextmanager runtimeError g s = (.ok (a, PyGen.exit runtimeError k), t) := by
  rw [contextmanager, h]

/-- Leaving does not change how the body of the `with` statement ended. -/
def PyExit.Reraises (exit : PyExit σ ε) : Prop := ∀ o s, (exit.leave o s).1 = o

/-- Once entered, the context manager is left so. -/
def PyContext.Reraises (context : PyContext σ ε α) : Prop :=
  ∀ s a exit t, context s = (.ok (a, exit), t) → PyExit.Reraises exit

/-- Wherever the generator yields, it ends as it is then resumed. -/
def PyGen.PassesOn (g : PyGen σ ε α Unit) : Prop :=
  ∀ s a k t, g.advance s = (.yielded a k, t) → ∀ o s', ∃ t', (k o).advance s' = (.ofExcept o, t')

/-- A generator that has come to its end has not yielded. -/
lemma PyGen.Progress.ofExcept_ne_yielded (o : Except ε ρ) (a : α)
    (k : Except ε Unit → PyGen σ ε α ρ) : Progress.ofExcept o ≠ .yielded a k := by
  cases o <;> exact fun h => by cases h

/-- A `yield` passes on what it is resumed with. -/
lemma PyGen.passesOn_yieldValue (a : α) : (yieldValue a : PyGen σ ε α Unit).PassesOn := by
  intro s a' k t h o s'
  obtain ⟨hyielded, -⟩ := Prod.mk.inj h
  obtain ⟨-, rfl⟩ := Progress.yielded.inj hyielded
  exact ⟨s', advance_ofExcept o s'⟩

/-- So do statements after a call. -/
lemma PyGen.passesOn_bind_call {f : σ → Except ε ρ × σ} {q : ρ → PyGen σ ε α Unit}
    (hq : ∀ r, (q r).PassesOn) : ((call f : PyGen σ ε α ρ).bind q).PassesOn := by
  intro s a k t h
  rcases hf : f s with ⟨o, t'⟩
  cases o with
  | error e =>
    rw [advance_bind_call_of_error hf] at h
    cases h
  | ok r =>
    rw [advance_bind_call_of_ok hf] at h
    exact hq r t' a k t h

/-- So does the body of a `with` statement whose context manager is left without a change. -/
lemma PyGen.passesOn_withExit {exit : PyExit σ ε} {p : PyGen σ ε α Unit} (hexit : exit.Reraises)
    (hp : p.PassesOn) : (p.withExit exit).PassesOn := by
  intro s a k t h
  rcases hprogress : p.advance s with ⟨progress, t'⟩
  have hended : ∀ o, progress = .ofExcept o → False := by
    rintro o rfl
    rw [advance_withExit_of_ended hprogress] at h
    exact Progress.ofExcept_ne_yielded _ _ _ (Prod.mk.inj h).1
  cases progress with
  | returned r => exact (hended (.ok r) rfl).elim
  | raised e => exact (hended (.error e) rfl).elim
  | yielded a' k' =>
    rw [advance_withExit_of_yielded hprogress] at h
    obtain ⟨hyielded, -⟩ := Prod.mk.inj h
    obtain ⟨-, rfl⟩ := Progress.yielded.inj hyielded
    intro o s'
    obtain ⟨t'', hk⟩ := hp s a' k' t' hprogress o s'
    rw [advance_withExit_of_ended hk, hexit o t'']
    exact ⟨_, rfl⟩

/-- So does a `with` statement around statements that do. -/
lemma PyGen.passesOn_withContext {context : PyContext σ ε β} {body : β → PyGen σ ε α Unit}
    (hcontext : context.Reraises) (hbody : ∀ b, (body b).PassesOn) :
    (withContext context body).PassesOn := by
  intro s a k t h
  rcases hentered : context s with ⟨entered, t'⟩
  cases entered with
  | error e =>
    rw [advance_withContext_of_error hentered] at h
    cases h
  | ok entered =>
    obtain ⟨b, exit⟩ := entered
    rw [advance_withContext_of_ok hentered] at h
    exact passesOn_withExit (hcontext s b exit t' hentered) (hbody b) t' a k t h

/-- **A generator that passes on** what it is resumed with makes a context manager that is left
without a change. -/
lemma PyContext.reraises_contextmanager {g : PyGen σ ε α Unit} (hg : g.PassesOn) :
    PyContext.Reraises (contextmanager runtimeError g) := by
  intro s a exit t h
  rcases hprogress : g.advance s with ⟨progress, t'⟩
  rw [contextmanager, hprogress] at h
  cases progress with
  | returned r => cases h
  | raised e => cases h
  | yielded a' k =>
    obtain ⟨hentered, -⟩ := Prod.mk.inj h
    obtain ⟨-, rfl⟩ := Prod.mk.inj (Except.ok.inj hentered)
    intro o s'
    obtain ⟨t'', hk⟩ := hg s a' k t' hprogress o s'
    rw [PyGen.leave_exit_of_ended hk]

end Leave

/-! ## Transparent context managers -/

section Transparent

variable {σ ε α ω : Type} {runtimeError : String → ε} {context : PyContext σ ε α}
  {body : α → ω × σ → Except ε Unit × ω × σ} {s : ω × σ}

/-- The body, with a record of how each of its runs ended. -/
def recorded (body : α → ω × σ → Except ε Unit × ω × σ) (a : α)
    (s : (List (Except ε Unit) × ω) × σ) :
    Except ε Unit × (List (Except ε Unit) × ω) × σ :=
  let r := body a (s.1.2, s.2)
  (r.1, (s.1.1 ++ [r.1], r.2.1), r.2.2)

/-- The `with` statement runs its body exactly once, and ends as this run did. -/
def PyContext.Transparent (context : PyContext σ ε α)
    (body : α → ω × σ → Except ε Unit × ω × σ) (s : ω × σ) : Prop :=
  let r := withStatement context (recorded body) (([], s.1), s.2)
  r.2.1.1 = [r.1]

/-- **A `with` statement is transparent** exactly if the context manager is entered and leaving it
does not change how the body ended.

**Proof sketch.**  What the body does is recorded between entering and leaving, so what is left to
compare is how it ended.  If the context manager is not entered, the body is not recorded at all. -/
theorem PyContext.transparent_iff :
    context.Transparent body s ↔ ∃ a exit t, context s.2 = (.ok (a, exit), t) ∧
      (PyExit.leave exit (body a (s.1, t)).1 (body a (s.1, t)).2.2).1 = (body a (s.1, t)).1 := by
  rw [Transparent, withStatement]
  rcases hentered : context s.2 with ⟨entered, t⟩
  cases entered with
  | error e => simp
  | ok entered =>
    obtain ⟨a, exit⟩ := entered
    simp only [recorded, List.nil_append, List.cons.injEq, and_true]
    constructor
    · intro h
      exact ⟨a, exit, t, rfl, h.symm⟩
    · rintro ⟨a', exit', t', heq, h⟩
      obtain ⟨hentered, rfl⟩ := Prod.mk.inj heq
      obtain ⟨rfl, rfl⟩ := Prod.mk.inj (Except.ok.inj hentered)
      exact h.symm

/-! ## A second `yield` in a handler -/

/-- `try: p`, where the handler for some exceptions is `yield a`. -/
def PyGen.withFallback (p : PyGen σ ε α Unit) (catches : ε → Bool) (a : α) : PyGen σ ε α Unit :=
  p.tryExcept fun e => if catches e then some (yieldValue a) else none

section Fallback

variable {p : PyGen σ ε α Unit} {catches : ε → Bool} {a : α}

/-- If the statements raise what is caught before they yield, the handler yields in their place. -/
lemma PyGen.advance_withFallback_of_raised {e : ε} {t t' : σ} (h : p.advance t = (.raised e, t')) :
    (p.withFallback catches a).advance t =
      (if catches e then .yielded a ofExcept else .raised e, t') := by
  rw [withFallback, advance_tryExcept_of_raised h]
  cases catches e <;> rfl

/-- After the first `yield`, the `with` statement ends as its body does, if the handler does not
catch that. -/
lemma PyGen.leave_withFallback_of_passes {k : Except ε Unit → PyGen σ ε α Unit} {o : Except ε Unit}
    {t t' : σ} (hk : (k o).advance t = (.ofExcept o, t'))
    (ho : ∀ e, o = .error e → catches e = false) :
    (exit runtimeError fun o => (k o).withFallback catches a).leave o t = (o, t') := by
  apply leave_exit_of_ended
  cases o with
  | ok u => exact advance_tryExcept_of_returned hk
  | error e =>
    rw [advance_withFallback_of_raised hk, ho e rfl, if_neg Bool.false_ne_true]
    rfl

/-- If the handler catches it, the second `yield` is an error. -/
lemma PyGen.leave_withFallback_of_caught {k : Except ε Unit → PyGen σ ε α Unit} {e : ε} {t t' : σ}
    (hk : (k (.error e)).advance t = (.raised e, t')) (he : catches e = true) :
    (exit runtimeError fun o => (k o).withFallback catches a).leave (.error e) t =
      (.error (runtimeError "generator didn't stop after throw()"), t') := by
  have hcaught : ((k (.error e)).withFallback catches a).advance t = (.yielded a ofExcept, t') := by
    rw [advance_withFallback_of_raised hk, he, if_pos rfl]
  exact leave_exit_of_yielded hcaught

/-- After the first `yield`, leaving changes how the body ended exactly if the handler catches
it. -/
lemma PyGen.leave_withFallback_eq_iff {k : Except ε Unit → PyGen σ ε α Unit}
    (hk : ∀ o s, ∃ t, (k o).advance s = (.ofExcept o, t))
    (hcatches : ∀ text, catches (runtimeError text) = false) (o : Except ε Unit) (t : σ) :
    ((exit runtimeError fun o => (k o).withFallback catches a).leave o t).1 = o ↔
      ∀ e, o = .error e → catches e = false := by
  obtain ⟨t', hended⟩ := hk o t
  refine ⟨fun h e ho => ?_, fun ho => by rw [leave_withFallback_of_passes hended ho]⟩
  subst ho
  cases hcaught : catches e with
  | false => rfl
  | true =>
    rw [leave_withFallback_of_caught hended hcaught] at h
    rw [← Except.error.inj h, hcatches] at hcaught
    exact hcaught.symm

/-- **A `yield` in the handler.**  The `with` statement is transparent exactly if the statements
before the first `yield` raise what the handler catches, or they get to this `yield` and the body
does not raise what it catches.

**Proof sketch.**  By what the statements before the first `yield` do.  If they return, the handler
has no `yield` to get to.  If they raise what is caught, the handler yields, and nothing catches the
exception of the body there.  If they yield, the exception of the body is thrown in at this `yield`,
and if it is caught, the handler yields a second time, which `contextmanager` answers with an
exception of its own. -/
theorem PyGen.transparent_withFallback_iff (hp : p.PassesOn)
    (hcatches : ∀ text, catches (runtimeError text) = false) :
    (contextmanager runtimeError (p.withFallback catches a)).Transparent body s ↔
      (∃ e t, p.advance s.2 = (.raised e, t) ∧ catches e = true) ∨
      ∃ a' k t, p.advance s.2 = (.yielded a' k, t) ∧
        ∀ e, (body a' (s.1, t)).1 = .error e → catches e = false := by
  rw [PyContext.transparent_iff]
  rcases hprogress : p.advance s.2 with ⟨progress, t⟩
  cases progress with
  | returned r =>
    have hadvance : (p.withFallback catches a).advance s.2 = _ :=
      advance_tryExcept_of_returned hprogress
    simp [contextmanager, hadvance]
  | raised e =>
    have hadvance : (p.withFallback catches a).advance s.2 = _ :=
      advance_withFallback_of_raised hprogress
    simp only [contextmanager, hadvance]
    cases hc : catches e with
    | false => simp [hc]
    | true =>
      refine iff_of_true ⟨a, exit runtimeError ofExcept, t, rfl, ?_⟩ (.inl ⟨e, t, rfl, hc⟩)
      rw [leave_exit_of_ended (advance_ofExcept _ _)]
  | yielded a' k =>
    have hadvance : (p.withFallback catches a).advance s.2 =
        (.yielded a' fun o => (k o).withFallback catches a, t) :=
      advance_tryExcept_of_yielded hprogress
    have hleave := @leave_withFallback_eq_iff _ _ _ runtimeError catches a k
      (hp s.2 a' k t hprogress) hcatches
    simp only [contextmanager, hadvance]
    constructor
    · rintro ⟨b, exit', t', heq, h⟩
      obtain ⟨hentered, rfl⟩ := Prod.mk.inj heq
      obtain ⟨rfl, rfl⟩ := Prod.mk.inj (Except.ok.inj hentered)
      exact .inr ⟨a', k, t, rfl, (hleave _ _).mp h⟩
    · rintro (⟨e, t', heq, -⟩ | ⟨a'', k', t', heq, h⟩)
      · cases heq
      · obtain ⟨hyielded, rfl⟩ := Prod.mk.inj heq
        obtain ⟨rfl, rfl⟩ := Progress.yielded.inj hyielded
        exact ⟨a', _, t, rfl, (hleave _ _).mpr h⟩

end Fallback

end Transparent
