import Hedwig.Lib.PyObject

set_option relaxedAutoImplicit false
set_option autoImplicit false

/-!
# Exceptions

The exception classes that an `except` clause or a `raise` of the package names, and the
exceptions raised.  Code of the application may raise an instance of any class, one that inherits
from several of the named ones included, so an exception carries the named classes it is an
instance of and not a single tag.

## Main definitions

* `Hedwig.ExceptionClass` — the named classes, with `ExceptionClass.bases` for the inheritance
  among them.
* `Hedwig.PyException` — an exception; `PyException.new` raises a class with a message.
* `Hedwig.PyException.logArguments` — what the handler of `LoggingException` evaluates.
* `Hedwig.Outcome` — how a call ends whose value is not used.
* `Hedwig.RaisesOnly` — a call returns or raises one class.

## Main results

* `Hedwig.bind_eq_ok`, `Hedwig.bind_eq_error` — how statements in sequence end.
-/

namespace Hedwig

/-- The exception classes named by the package. -/
inductive ExceptionClass
  | ignoreException | loggingException | retryException | validationError | configurationError
  | callbackNotFound
  | assertionError | attributeError | importError | indexError | keyError | runtimeError
  | overflowError | recursionError | typeError | valueError | jsonDecodeError
  | unicodeDecodeError | binasciiError
  | schemaError | refResolutionError | decodeError | encodeError | parseError
  deriving DecidableEq, Repr

/-- The named classes that a named class inherits from, itself first. -/
def ExceptionClass.bases : ExceptionClass → List ExceptionClass
  | .recursionError => [.recursionError, .runtimeError]
  | .jsonDecodeError => [.jsonDecodeError, .valueError]
  | .unicodeDecodeError => [.unicodeDecodeError, .valueError]
  | .binasciiError => [.binasciiError, .valueError]
  | c => [c]

/-- An exception: the named classes it is an instance of, and what `str(e)` and `e.extra`
evaluate to, or the class that evaluating them raises. -/
structure PyException where
  /-- The named classes among the classes of the exception. -/
  classes : List ExceptionClass
  /-- The value of `str(e)`. -/
  str : Except ExceptionClass String
  /-- The value of `e.extra`, an attribute set by the constructor of `LoggingException`. -/
  extra : Except ExceptionClass PyObj

namespace PyException

/-- `raise cls(message)` for a class without an `extra` attribute. -/
def new (cls : ExceptionClass) (message : String) : PyException :=
  ⟨cls.bases, .ok message, .error .attributeError⟩

/-- `raise LoggingException(message, extra)`. -/
def loggingException (message : String) (extra : PyObj) : PyException :=
  ⟨[.loggingException], .ok message, .ok extra⟩

/-- `isinstance(e, cls)`. -/
def isInstance (e : PyException) (cls : ExceptionClass) : Bool := cls ∈ e.classes

/-- The arguments `str(e)` and `extra=e.extra` of the log call that reports a
`LoggingException`.  Both are evaluated inside the handler, so evaluating them may raise. -/
def logArguments (e : PyException) : Except PyException (String × PyObj) :=
  match e.str, e.extra with
  | .error cls, _ => .error (new cls "")
  | .ok _, .error cls => .error (new cls "extra")
  | .ok message, .ok extra => .ok (message, extra)

/-- The constructor of `LoggingException` makes both arguments available. -/
@[simp] lemma logArguments_loggingException (message : String) (extra : PyObj) :
    (loggingException message extra).logArguments = .ok (message, extra) := rfl

/-- An exception raised from a named class is an instance of the bases of that class. -/
@[simp] lemma isInstance_new (cls cls' : ExceptionClass) (message : String) :
    (new cls message).isInstance cls' = decide (cls' ∈ cls.bases) := rfl

end PyException

/-- How a call ends: it returns, or raises a subclass of `Exception`. -/
abbrev Outcome := Except PyException Unit

/-- `assert condition`. -/
def pyAssert (condition : Bool) : Outcome :=
  if condition then .ok () else .error (.new .assertionError "")

@[simp] lemma pyAssert_eq_ok {condition : Bool} :
    pyAssert condition = .ok () ↔ condition = true := by
  cases condition <;> simp [pyAssert]

/-- A call that returns has a value. -/
lemma exists_of_isOk {α : Type} {x : Except PyException α} (h : x.isOk = true) :
    ∃ a, x = .ok a := by
  cases x with
  | ok a => exact ⟨a, rfl⟩
  | error e => cases h

section Bind

variable {α β : Type} {x : Except PyException α} {f : α → Except PyException β}

/-- Statements in sequence return exactly if each of them does. -/
lemma bind_eq_ok {b : β} : (x >>= f) = .ok b ↔ ∃ a, x = .ok a ∧ f a = .ok b := by
  cases x with
  | error e => simp [bind, Except.bind]
  | ok a => simp [bind, Except.bind]

/-- Statements in sequence raise what the first one that raises does. -/
lemma bind_eq_error {e : PyException} :
    (x >>= f) = .error e ↔ x = .error e ∨ ∃ a, x = .ok a ∧ f a = .error e := by
  cases x with
  | error e => simp [bind, Except.bind]
  | ok a => simp [bind, Except.bind]

end Bind

section RaisesOnly

variable {α β : Type} {cls : ExceptionClass}

/-- The call returns, or raises an instance of one class. -/
def RaisesOnly (cls : ExceptionClass) (x : Except PyException α) : Prop :=
  ∀ e, x = .error e → e.isInstance cls = true

@[simp] lemma raisesOnly_ok (a : α) : RaisesOnly cls (.ok a : Except PyException α) := by
  intro e h
  cases h

@[simp] lemma raisesOnly_error {e : PyException} :
    RaisesOnly cls (.error e : Except PyException α) ↔ e.isInstance cls = true := by
  constructor
  · exact fun h => h e rfl
  · rintro h _ ⟨⟩
    exact h

instance (x : Except PyException α) : Decidable (RaisesOnly cls x) :=
  match x with
  | .ok a => .isTrue (raisesOnly_ok a)
  | .error _ => decidable_of_iff _ raisesOnly_error.symm

/-- Statements in sequence raise only one class exactly if each does that is reached. -/
lemma raisesOnly_bind {x : Except PyException α} {f : α → Except PyException β} :
    RaisesOnly cls (x >>= f) ↔ RaisesOnly cls x ∧ ∀ a, x = .ok a → RaisesOnly cls (f a) := by
  cases x with
  | error e => simp [bind, Except.bind]
  | ok a => simp [bind, Except.bind]

/-- The call does not raise an instance of one class. -/
def NeverRaises (cls : ExceptionClass) (x : Except PyException α) : Prop :=
  ∀ e, x = .error e → e.isInstance cls = false

/-- A call that never raises a class raises only that class exactly if it returns. -/
lemma NeverRaises.raisesOnly_iff {x : Except PyException α} (h : NeverRaises cls x) :
    RaisesOnly cls x ↔ ∃ a, x = .ok a := by
  cases x with
  | error e => simp [h e rfl]
  | ok a => simp

/-- Statements in sequence never raise what none of them raises. -/
lemma NeverRaises.bind {x : Except PyException α} {f : α → Except PyException β}
    (hx : NeverRaises cls x) (hf : ∀ a, NeverRaises cls (f a)) : NeverRaises cls (x >>= f) := by
  intro e he
  rcases bind_eq_error.mp he with h | ⟨a, -, h⟩
  · exact hx e h
  · exact hf a e h

end RaisesOnly

end Hedwig
