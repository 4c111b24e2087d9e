import Hedwig.Callback

set_option relaxedAutoImplicit false
set_option autoImplicit false

/-!
# Signatures of callbacks

The constructor of a `Callback` looks at the parameters of a function by name, kind and annotation,
and `call` passes the message as its only positional argument.  The two agree except for a parameter
`message` that is keyword-only: the constructor accepts it, and every call raises `TypeError`.

## Main definitions

* `Hedwig.SignatureParam`, `Hedwig.signatureFunction` — a signature, and a function that has it.
* `Hedwig.Callback.call` — the call.
* `Hedwig.Callback.AcceptedCallable` — accepted functions can be called, and the functions of a
  message are accepted.

## Main results

* `Hedwig.Callback.acceptedCallable_iff` — the signatures for which this holds.
* `Hedwig.Callback.keywordOnlyMessage_iff_of_nodup` — the signatures for which it does not.
* `Hedwig.Callback.execCallback_of_keywordOnlyMessage` — what becomes of the messages.
* `Hedwig.Callback.acceptedCallable_counterexample` — a signature for which it does not.
-/

namespace Hedwig

/-- A parameter of a signature, with whether it has a default. -/
structure SignatureParam extends CallbackParam where
  hasDefault : Bool
  deriving DecidableEq, Repr

namespace SignatureParam

/-- What matters of the parameter for a call. -/
def callParam (p : SignatureParam) : PyCall.Param := ⟨p.name, p.kind, p.hasDefault⟩

/-- It can be passed positionally. -/
def IsPositional (p : SignatureParam) : Prop :=
  p.kind = .positionalOnly ∨ p.kind = .positionalOrKeyword

/-- It is called `message`, and has no annotation or `hedwig.Message`. -/
def IsMessage (p : SignatureParam) : Prop :=
  p.name = "message" ∧ (p.annotation = .empty ∨ p.annotation = .message)

end SignatureParam

variable {δ π : Type}

/-- A function with this signature.  A call with an argument that does not bind to the parameters
raises `TypeError`. -/
def signatureFunction (signature : List SignatureParam)
    (body : PyCall.Bound (Message δ π) → Outcome) : CallbackFn δ π where
  parameters := signature.map SignatureParam.toCallbackParam
  call m :=
    match PyCall.bind (signature.map SignatureParam.callParam) [m] [] with
    | some arguments => body arguments
    | none => .error (.new .typeError "takes 0 positional arguments but 1 was given")

namespace Callback

/-- `call`. -/
def call (c : Callback δ π) (m : Message δ π) : Outcome := c.fn.call m

/-- The message is a parameter, and it is keyword-only. -/
def KeywordOnlyMessage (signature : List SignatureParam) : Prop :=
  signature ≠ [] ∧ ∀ p ∈ signature, p.IsMessage ∧ p.kind = .keywordOnly

/-- If the function is accepted, then the message binds to its parameters when it is called; and it
is accepted if its only parameter is the message and can be passed positionally. -/
def AcceptedCallable (signature : List SignatureParam)
    (body : PyCall.Bound (Message δ π) → Outcome) (m : Message δ π) : Prop :=
  (∀ c, Callback.new (signatureFunction signature body) = .ok c →
    ∃ arguments, PyCall.bind (signature.map SignatureParam.callParam) [m] [] = some arguments ∧
      c.call m = body arguments) ∧
  ∀ p, signature = [p] → p.IsMessage → p.IsPositional →
    (Callback.new (signatureFunction signature body)).isOk = true

/-! ## The constructor -/

/-- The constructor goes on after the parameter. -/
def Accepts (p : CallbackParam) : Prop :=
  (p.kind ≠ .varKeyword ∧ p.kind ≠ .varPositional) ∧ p.name = "message" ∧
    (p.annotation = .empty ∨ p.annotation = .message)

/-- The loop ends if it goes on after every parameter, and has found one if there are any. -/
lemma checkParameters_eq_ok {parameters : List CallbackParam} {found b : Bool} :
    checkParameters parameters found = .ok b ↔
      (∀ p ∈ parameters, Accepts p) ∧ b = (found || !parameters.isEmpty) := by
  induction parameters generalizing found with
  | nil => simp [checkParameters, eq_comm]
  | cons p rest ih =>
    rw [checkParameters, List.forall_mem_cons, Accepts]
    split_ifs with hkeyword hpositional hname hannotated
    · simp [hkeyword]
    · simp [hpositional]
    · simp [hannotated]
    · have hempty : p.annotation = .empty ∨ p.annotation = .message := by
        rwa [not_and_or, not_not, not_not] at hannotated
      simp [ih, hkeyword, hpositional, hname, hempty]
    · simp [hname]

/-- **The constructor** accepts a function that has parameters, if it goes on after each. -/
lemma new_eq_ok_iff {fn : CallbackFn δ π} {c : Callback δ π} :
    Callback.new fn = .ok c ↔
      (fn.parameters ≠ [] ∧ ∀ p ∈ fn.parameters, Accepts p) ∧ c = ⟨fn⟩ := by
  simp only [Callback.new, bind_eq_ok, checkParameters_eq_ok, Bool.false_or]
  constructor
  · rintro ⟨_, ⟨haccepts, rfl⟩, h⟩
    split_ifs at h with hne
    exact ⟨⟨by simpa using hne, haccepts⟩, (Except.ok.inj h).symm⟩
  · rintro ⟨⟨hne, haccepts⟩, rfl⟩
    exact ⟨true, ⟨haccepts, by simpa using hne⟩, rfl⟩

/-! ## Calls -/

section Calls

variable {signature : List SignatureParam} {body : PyCall.Bound (Message δ π) → Outcome}
  {m : Message δ π}

/-- A parameter that the constructor goes on after is positional or keyword-only. -/
lemma isPositional_iff_of_accepts {p : SignatureParam} (h : Accepts p.toCallbackParam) :
    p.IsPositional ↔ p.kind ≠ .keywordOnly := by
  obtain ⟨⟨hkeyword, hpositional⟩, -⟩ := h
  rw [SignatureParam.IsPositional]
  cases hkind : p.kind with
  | positionalOnly | positionalOrKeyword | keywordOnly => simp
  | varPositional => exact absurd hkind hpositional
  | varKeyword => exact absurd hkind hkeyword

/-- The message binds to the parameters of an accepted function, unless all are keyword-only. -/
lemma exists_bind_iff (haccepts : ∀ p ∈ signature, Accepts p.toCallbackParam) :
    (∃ arguments, PyCall.bind (signature.map SignatureParam.callParam) [m] [] = some arguments) ↔
      ¬ ∀ p ∈ signature, p.kind = .keywordOnly := by
  have hvar : PyCall.hasKind (signature.map SignatureParam.callParam) .varPositional = false := by
    rw [PyCall.hasKind, List.any_map, List.any_eq_false]
    intro p hp
    simp [SignatureParam.callParam, (haccepts p hp).1.2]
  rw [PyCall.exists_bind_singleton_iff hvar]
  constructor
  · rintro ⟨p, rest, hfilter, -⟩ hall
    have hmem : p ∈ (signature.map SignatureParam.callParam).filter fun q =>
        q.kind = .positionalOnly || q.kind = .positionalOrKeyword := by
      rw [hfilter]
      exact List.mem_cons_self
    obtain ⟨hmem, hkind⟩ := List.mem_filter.mp hmem
    obtain ⟨q, hq, rfl⟩ := List.mem_map.mp hmem
    simp [SignatureParam.callParam, hall q hq] at hkind
  · intro hnot
    obtain ⟨q, hq, hkind⟩ : ∃ q ∈ signature, q.IsPositional := by
      by_contra hnone
      refine hnot fun p hp => ?_
      by_contra hkind
      exact hnone ⟨p, hp, (isPositional_iff_of_accepts (haccepts p hp)).mpr hkind⟩
    have hname : ∀ p ∈ signature.map SignatureParam.callParam, p.name = "message" := by
      intro p hp
      obtain ⟨p', hp', rfl⟩ := List.mem_map.mp hp
      exact (haccepts p' hp').2.1
    cases hfilter : (signature.map SignatureParam.callParam).filter fun q =>
        q.kind = .positionalOnly || q.kind = .positionalOrKeyword with
    | nil =>
      have hq' := List.filter_eq_nil_iff.mp hfilter _ (List.mem_map_of_mem hq)
      rcases hkind with hkind | hkind <;> simp [SignatureParam.callParam, hkind] at hq'
    | cons p rest =>
      refine ⟨p, rest, rfl, fun q' hq' => .inr (.inr (.inr ?_))⟩
      have hp : p ∈ signature.map SignatureParam.callParam :=
        List.mem_of_mem_filter (hfilter ▸ List.mem_cons_self)
      rw [hname q' hq', hname p hp]

/-- A positional message is accepted. -/
lemma isOk_new_of_isMessage {p : SignatureParam} (hmessage : p.IsMessage)
    (hpositional : p.IsPositional) :
    (Callback.new (signatureFunction [p] body)).isOk = true := by
  have haccepts : Accepts p.toCallbackParam := by
    refine ⟨?_, hmessage⟩
    rcases hpositional with hkind | hkind <;> simp [hkind]
  have hnew : Callback.new (signatureFunction [p] body) = .ok ⟨signatureFunction [p] body⟩ :=
    new_eq_ok_iff.mpr ⟨⟨by simp [signatureFunction], by simpa [signatureFunction]⟩, rfl⟩
  rw [hnew]
  rfl

/-- The constructor goes on after a keyword-only message. -/
lemma KeywordOnlyMessage.accepts (h : KeywordOnlyMessage signature) :
    ∀ p ∈ signature, Accepts p.toCallbackParam := by
  intro p hp
  obtain ⟨hmessage, hkind⟩ := h.2 p hp
  exact ⟨by simp [hkind], hmessage⟩

/-- So a function whose message is keyword-only is accepted. -/
lemma KeywordOnlyMessage.new (h : KeywordOnlyMessage signature) :
    Callback.new (signatureFunction signature body) = .ok ⟨signatureFunction signature body⟩ :=
  new_eq_ok_iff.mpr
    ⟨⟨by simpa [signatureFunction] using h.1, List.forall_mem_map.mpr h.accepts⟩, rfl⟩

/-- But the message does not bind to its parameters. -/
lemma KeywordOnlyMessage.bind (h : KeywordOnlyMessage signature) (m : Message δ π) :
    PyCall.bind (signature.map SignatureParam.callParam) [m] [] = none := by
  rw [Option.eq_none_iff_forall_ne_some]
  intro arguments hbind
  exact (exists_bind_iff h.accepts).mp ⟨arguments, hbind⟩ fun p hp => (h.2 p hp).2

/-- **Accepted functions can be called** except for those whose message is keyword-only.

**Proof sketch.**  The constructor accepts a function if every parameter is called `message`, has no
other annotation and is no variadic one.  The message is passed positionally, and binds to the first
such parameter unless all of them are keyword-only, for which the call has no argument. -/
theorem acceptedCallable_iff (signature : List SignatureParam)
    (body : PyCall.Bound (Message δ π) → Outcome) (m : Message δ π) :
    AcceptedCallable signature body m ↔ ¬ KeywordOnlyMessage signature := by
  constructor
  · rintro ⟨hbinds, -⟩ hkeyword
    obtain ⟨arguments, hbind, -⟩ := hbinds _ hkeyword.new
    rw [hkeyword.bind m] at hbind
    cases hbind
  · intro hnot
    refine ⟨fun c hnew => ?_, ?_⟩
    · obtain ⟨⟨hne, haccepts⟩, rfl⟩ := new_eq_ok_iff.mp hnew
      simp only [signatureFunction, ne_eq, List.map_eq_nil_iff, List.forall_mem_map] at hne haccepts
      have hkind : ¬ ∀ p ∈ signature, p.kind = .keywordOnly := fun hall =>
        hnot ⟨hne, fun p hp => ⟨(haccepts p hp).2, hall p hp⟩⟩
      obtain ⟨arguments, hbind⟩ := (exists_bind_iff (m := m) haccepts).mpr hkind
      exact ⟨arguments, hbind, by simp [call, signatureFunction, hbind]⟩
    · rintro p rfl hmessage hpositional
      exact isOk_new_of_isMessage hmessage hpositional

/-- In a signature, whose parameters have different names, a keyword-only message is the only
parameter. -/
lemma keywordOnlyMessage_iff_of_nodup (hnodup : (signature.map (·.name)).Nodup) :
    KeywordOnlyMessage signature ↔ ∃ p, signature = [p] ∧ p.IsMessage ∧ p.kind = .keywordOnly := by
  constructor
  · rintro ⟨hne, hall⟩
    rcases signature with _ | ⟨p, _ | ⟨q, rest⟩⟩
    · exact absurd rfl hne
    · obtain ⟨hmessage, hkind⟩ := hall p List.mem_cons_self
      exact ⟨p, rfl, hmessage, hkind⟩
    · have hp := (hall p List.mem_cons_self).1.1
      have hq := (hall q (List.mem_cons_of_mem _ List.mem_cons_self)).1.1
      simp [hp, hq] at hnodup
  · rintro ⟨p, rfl, hmessage, hkind⟩
    exact ⟨List.cons_ne_nil _ _, List.forall_mem_singleton.mpr ⟨hmessage, hkind⟩⟩

/-- **Every message of the type fails** that a function with a keyword-only message is registered
for. -/
theorem execCallback_of_keywordOnlyMessage {callbacks : CallbackRegistry δ π}
    (h : KeywordOnlyMessage signature)
    (hget : callbacks.get? (m.type, versionPattern m.version.major) =
      some (signatureFunction signature body)) :
    m.execCallback callbacks =
      .error (.new .typeError "takes 0 positional arguments but 1 was given") := by
  have hcallback : m.callback callbacks = .ok ⟨signatureFunction signature body⟩ := by
    simp only [Message.callback, findByMessage, hget, h.new]
  rw [Message.execCallback, hcallback]
  simp only [bind, Except.bind, signatureFunction, h.bind m]

end Calls

/-- The signature of `def f(*, message)`. -/
def keywordOnlySignature : List SignatureParam := [⟨⟨"message", .keywordOnly, .empty⟩, false⟩]

/-- **A keyword-only message** is accepted, and the call raises `TypeError`, whatever the function
does. -/
theorem acceptedCallable_counterexample :
    ∃ c : Callback Unit Unit,
      Callback.new (signatureFunction keywordOnlySignature fun _ => .ok ()) = .ok c ∧
      ∀ m, PyCall.bind (keywordOnlySignature.map SignatureParam.callParam) [m] [] = none ∧
        c.call m = .error (.new .typeError "takes 0 positional arguments but 1 was given") :=
  ⟨_, rfl, fun _ => ⟨rfl, rfl⟩⟩

end Callback

end Hedwig
