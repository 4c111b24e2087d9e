import Hedwig.Exceptions
import Hedwig.Lib.PyCall
import Hedwig.Models

set_option relaxedAutoImplicit false
set_option autoImplicit false

/-!
# Callbacks

`hedwig.callback`, with the methods of a message that use it: the function that is registered for
the type and the major version of a message is called with the message.

## Main definitions

* `Hedwig.CallbackFn` — a registered function, by its signature and what it does with a message.
* `Hedwig.Callback.new` — the constructor, which checks the signature.
* `Hedwig.Callback.findByMessage` — the lookup in `HEDWIG_CALLBACKS`.
* `Hedwig.Message.callback`, `Hedwig.Message.execCallback`.

## Main results

* `Hedwig.Message.callback_congr` — the callback depends on the type and the version only.
* `Hedwig.Message.eq_of_execCallback` — a call of whatever callback is registered determines the
  message that it is called with.

## Design

The cache of `find_by_message` is left out: the settings do not change, so it returns what the
function would return again.
-/

namespace Hedwig

/-- The annotation of a parameter. -/
inductive ParamAnnotation
  | empty | message | other
  deriving DecidableEq, Repr

/-- A parameter of a registered function. -/
structure CallbackParam where
  name : String
  kind : PyCall.ParamKind
  annotation : ParamAnnotation
  deriving DecidableEq, Repr

/-- A function in `HEDWIG_CALLBACKS`. -/
structure CallbackFn (δ π : Type) where
  /-- `inspect.signature(fn).parameters`. -/
  parameters : List CallbackParam
  /-- How the call with a message as its only argument ends. -/
  call : Message δ π → Outcome

/-- `HEDWIG_CALLBACKS`, by message type and version pattern. -/
abbrev CallbackRegistry (δ π : Type) := PyDict (String × String) (CallbackFn δ π)

/-- A constructed `Callback`. -/
structure Callback (δ π : Type) where
  fn : CallbackFn δ π

namespace Callback

variable {δ π : Type}

/-- The loop of the constructor over the parameters: whether one of them is the message. -/
def checkParameters : List CallbackParam → Bool → Except PyException Bool
  | [], messageFound => .ok messageFound
  | p :: rest, _ =>
    if p.kind = .varKeyword then
      .error (.new .configurationError "Use of **kwargs is not allowed")
    else if p.kind = .varPositional then
      .error (.new .configurationError "Use of *args is not allowed")
    else if p.name = "message" then
      if p.annotation ≠ .empty ∧ p.annotation ≠ .message then
        .error (.new .configurationError
          "Signature for 'message' param must be `hedwig.Message`")
      else checkParameters rest true
    else .error (.new .configurationError ("Unknown param '" ++ p.name ++ "' not allowed"))

/-- `Callback.__init__`. -/
def new (fn : CallbackFn δ π) : Except PyException (Callback δ π) := do
  let messageFound ← checkParameters fn.parameters false
  if messageFound then return ⟨fn⟩
  else .error (.new .configurationError "Callback must accept a parameter called 'message'")

/-- `f'{major_version}.*'`. -/
def versionPattern (majorVersion : ℕ) : String := toString majorVersion ++ ".*"

/-- `find_by_message`. -/
def findByMessage (callbacks : CallbackRegistry δ π) (msgType : String) (majorVersion : ℕ) :
    Except PyException (Callback δ π) :=
  match callbacks.get? (msgType, versionPattern majorVersion) with
  | some fn => new fn
  | none => .error (.new .callbackNotFound
      ("('" ++ msgType ++ "', " ++ toString majorVersion ++ ")"))

end Callback

namespace Message

variable {δ π : Type}

/-- `callback`, with `CallbackNotFound` reported as a `ValidationError`. -/
def callback (callbacks : CallbackRegistry δ π) (m : Message δ π) :
    Except PyException (Callback δ π) :=
  match Callback.findByMessage callbacks m.type m.version.major with
  | .ok c => .ok c
  | .error e =>
    if e.isInstance .callbackNotFound then .error (.new .validationError "") else .error e

/-- `exec_callback`. -/
def execCallback (callbacks : CallbackRegistry δ π) (m : Message δ π) : Outcome := do
  let c ← m.callback callbacks
  c.fn.call m

/-- The callback depends on the type and the version of the message only. -/
lemma callback_congr (callbacks : CallbackRegistry δ π) {m m' : Message δ π}
    (htype : m.type = m'.type) (hversion : m.version = m'.version) :
    m.callback callbacks = m'.callback callbacks := by
  unfold callback
  rw [htype, hversion]

/-- The callback that is found is the registered function. -/
lemma get?_of_callback {callbacks : CallbackRegistry δ π} {m : Message δ π} {c : Callback δ π}
    (h : m.callback callbacks = .ok c) :
    callbacks.get? (m.type, Callback.versionPattern m.version.major) = some c.fn := by
  simp only [callback, Callback.findByMessage] at h
  cases hget : callbacks.get? (m.type, Callback.versionPattern m.version.major) with
  | none =>
    simp only [hget] at h
    split_ifs at h
  | some fn =>
    cases hnew : Callback.new fn with
    | error e =>
      simp only [hget, hnew] at h
      split_ifs at h
    | ok c' =>
      simp only [hget, hnew, Except.ok.injEq] at h
      simp only [Callback.new, bind_eq_ok] at hnew
      obtain ⟨messageFound, -, hnew⟩ := hnew
      split_ifs at hnew
      rw [← h, ← Except.ok.inj hnew]

/-- The registry with one function, of one parameter. -/
private def registerOne (m : Message δ π) (call : Message δ π → Outcome) :
    CallbackRegistry δ π :=
  ⟨[((m.type, Callback.versionPattern m.version.major),
    ⟨[⟨"message", .positionalOrKeyword, .empty⟩], call⟩)], List.nodup_singleton _⟩

/-- The function that is registered for a message is called with it. -/
private lemma execCallback_registerOne (m : Message δ π) (call : Message δ π → Outcome) :
    m.execCallback (registerOne m call) = call m := by
  have hget : (registerOne m call).get? (m.type, Callback.versionPattern m.version.major) =
      some ⟨[⟨"message", .positionalOrKeyword, .empty⟩], call⟩ :=
    PyDict.get?_eq_some_iff.mpr (List.mem_singleton_self _)
  have hcallback : m.callback (registerOne m call) =
      .ok ⟨⟨[⟨"message", .positionalOrKeyword, .empty⟩], call⟩⟩ := by
    rw [callback, Callback.findByMessage, hget]
    rfl
  rw [execCallback, hcallback]
  rfl

/-- Some function can be registered for a message and return. -/
lemma exists_execCallback_eq_ok (m : Message δ π) :
    ∃ callbacks, m.execCallback callbacks = .ok () :=
  ⟨registerOne m fun _ => .ok (), execCallback_registerOne m _⟩

/-- **Invocations are determined by what they do.**  If executing the callback of two messages ends
alike whatever is registered, then they are one message: register a function that returns for the
first only. -/
lemma eq_of_execCallback {m m' : Message δ π}
    (h : ∀ callbacks, m.execCallback callbacks = m'.execCallback callbacks) : m = m' := by
  classical
  let call : Message δ π → Outcome := fun x =>
    if x = m then .ok () else .error (.new .valueError "")
  have hrun := h (registerOne m call)
  rw [execCallback_registerOne, show call m = .ok () from if_pos rfl, eq_comm, execCallback,
    bind_eq_ok] at hrun
  obtain ⟨c, hcallback, hcall⟩ := hrun
  have hfn : c.fn.call = call := by
    have hmem := PyDict.get?_eq_some_iff.mp (get?_of_callback hcallback)
    rw [(Prod.mk.inj (List.mem_singleton.mp hmem)).2]
  by_contra hne
  rw [hfn, show call m' = .error (.new .valueError "") from if_neg fun he => hne he.symm] at hcall
  cases hcall

end Message

end Hedwig
