import Hedwig.Backends.Dispatch
import Hedwig.Backends.Lambda
import Hedwig.Lib.PyGenerator

set_option relaxedAutoImplicit false
set_option autoImplicit false

/-!
# Instrumentation

Publishing and processing a message run under `_maybe_instrument`, which opens a span if
`hedwig.instrumentation` can be imported and does nothing else.  Its first `yield` stands inside the
`try` statement that is there for the import, so an `ImportError` of the body is caught too.

## Main definitions

* `Hedwig.OpenTelemetry` — what `hedwig.instrumentation` uses of OpenTelemetry.
* `Hedwig.onReceive`, `Hedwig.onPublish` — the hooks.
* `Hedwig.HedwigPublisherBaseBackend.maybeInstrument`,
  `Hedwig.HedwigConsumerBaseBackend.maybeInstrument` — the context managers.
* `Hedwig.HedwigPublisherBaseBackend.publishInstrumented`,
  `Hedwig.AWSSNSConsumerBackend.processMessagesInstrumented` — the methods with their `with`
  statements.

## Main results

* `Hedwig.instrumentation_transparent_iff` — when the instrumentation is transparent.
* `Hedwig.instrumentation_transparent_counterexample` — an `ImportError` that is replaced.
* `Hedwig.withStatement_maybeInstrument` — the wrapper of the consumer loop is this one.

## Design

The state is whatever OpenTelemetry keeps.  A publisher has the dictionary of instrumentation
headers beside it, which `inject` writes to.
-/

namespace Hedwig

/-! ## The hooks -/

/-- `trace.SpanKind`. -/
inductive SpanKind
  | consumer
  | producer

/-- What `hedwig.instrumentation` uses of OpenTelemetry, and the import of it. -/
structure OpenTelemetry (σ α Span : Type) where
  /-- A trace context. -/
  Context : Type
  /-- A tracer. -/
  Tracer : Type
  /-- `import hedwig.instrumentation`. -/
  importInstrumentation : σ → Outcome × σ
  /-- `extract(getter, attributes)`. -/
  extract : α → σ → Except PyException Context × σ
  /-- `inject(dict.__setitem__, headers)`, where the headers are part of the state. -/
  inject : σ → Outcome × σ
  /-- `trace.get_tracer(__name__)`. -/
  getTracer : σ → Except PyException Tracer × σ
  /-- `tracer.start_as_current_span(name, context=context, kind=kind)`. -/
  startAsCurrentSpan : Tracer → String → Option Context → SpanKind → PyContext σ PyException Span

variable {σ α Span δ ξ π ω : Type}

/-- `RuntimeError`, as `contextlib` raises it. -/
def pyRuntimeError (text : String) : PyException := .new .runtimeError text

/-- A `RuntimeError` is no `ImportError`. -/
lemma pyRuntimeError_ne_of_importError (text : String) {e : PyException}
    (he : e.isInstance .importError = true) : pyRuntimeError text ≠ e := by
  rintro rfl
  cases he

/-- `on_receive`. -/
def onReceive (otel : OpenTelemetry σ α Span) (attributes : α) : PyContext σ PyException Span :=
  contextmanager pyRuntimeError do
    let tracectx ← PyGen.call (otel.extract attributes)
    let tracer ← PyGen.call otel.getTracer
    PyGen.withContext (otel.startAsCurrentSpan tracer "message_received" (some tracectx) .consumer)
      PyGen.yieldValue

/-- `on_publish`. -/
def onPublish (otel : OpenTelemetry σ α Span) (message : Message δ π) :
    PyContext σ PyException Span :=
  contextmanager pyRuntimeError do
    let tracer ← PyGen.call otel.getTracer
    PyGen.withContext
      (otel.startAsCurrentSpan tracer ("publish/" ++ message.type) none .producer) fun span => do
        PyGen.call otel.inject
        PyGen.yieldValue span

/-! ## The context managers -/

/-- The statements of `_maybe_instrument` in its `try`, with a hook. -/
def instrumentStatements (otel : OpenTelemetry σ α Span) (hook : PyContext σ PyException Span) :
    PyGen σ PyException (Option Span) Unit := do
  PyGen.call otel.importInstrumentation
  PyGen.withContext hook fun span => PyGen.yieldValue (some span)

/-- `_maybe_instrument`, with a hook: `yield None` is the handler for `ImportError`. -/
def instrument (otel : OpenTelemetry σ α Span) (hook : PyContext σ PyException Span) :
    PyContext σ PyException (Option Span) :=
  contextmanager pyRuntimeError
    ((instrumentStatements otel hook).withFallback (fun e => e.isInstance .importError) none)

/-- `_maybe_instrument` of a publisher. -/
def HedwigPublisherBaseBackend.maybeInstrument (otel : OpenTelemetry σ α Span)
    (message : Message δ π) : PyContext σ PyException (Option Span) :=
  instrument otel (onPublish otel message)

/-- `_maybe_instrument` of a consumer. -/
def HedwigConsumerBaseBackend.maybeInstrument (otel : OpenTelemetry σ α Span) (attributes : α) :
    PyContext σ PyException (Option Span) :=
  instrument otel (onReceive otel attributes)

namespace OpenTelemetry

/-- What `opentelemetry` promises of a span: leaving it does not change how the statements under it
ended. -/
def Reraises (otel : OpenTelemetry σ α Span) : Prop :=
  ∀ tracer name context kind,
    PyContext.Reraises (otel.startAsCurrentSpan tracer name context kind)

/-- How the statements before the first `yield` end: the import, and entering the hook. -/
def enter (otel : OpenTelemetry σ α Span) (hook : PyContext σ PyException Span) (s : σ) :
    Except PyException Span × σ :=
  match otel.importInstrumentation s with
  | (.error e, t) => (.error e, t)
  | (.ok (), t) =>
    match hook t with
    | (.error e, t') => (.error e, t')
    | (.ok (span, _), t') => (.ok span, t')

/-- The body is not run in a span, for want of a module, or it does not raise `ImportError`. -/
def Passes (otel : OpenTelemetry σ α Span) (hook : PyContext σ PyException Span)
    (body : Option Span → ω × σ → Outcome × ω × σ) (s : ω × σ) : Prop :=
  match otel.enter hook s.2 with
  | (.error e, _) => e.isInstance .importError = true
  | (.ok span, t) => ∀ e, (body (some span) (s.1, t)).1 = .error e →
      e.isInstance .importError = false

end OpenTelemetry

section Instrument

variable {otel : OpenTelemetry σ α Span} {hook : PyContext σ PyException Span}

/-- Leaving `on_receive` does not change how the statements under it ended. -/
lemma reraises_onReceive (h : otel.Reraises) (attributes : α) :
    (onReceive otel attributes).Reraises := by
  refine PyContext.reraises_contextmanager (PyGen.passesOn_bind_call fun tracectx => ?_)
  refine PyGen.passesOn_bind_call fun tracer => ?_
  exact PyGen.passesOn_withContext (h _ _ _ _) PyGen.passesOn_yieldValue

/-- Leaving `on_publish` does not change how the statements under it ended. -/
lemma reraises_onPublish (h : otel.Reraises) (message : Message δ π) :
    (onPublish otel message).Reraises := by
  refine PyContext.reraises_contextmanager (PyGen.passesOn_bind_call fun tracer => ?_)
  refine PyGen.passesOn_withContext (h _ _ _ _) fun span => ?_
  exact PyGen.passesOn_bind_call fun _ => PyGen.passesOn_yieldValue span

/-- Where the statements in the `try` yield, they pass on what they are resumed with. -/
lemma passesOn_instrumentStatements (hhook : hook.Reraises) :
    (instrumentStatements otel hook).PassesOn :=
  PyGen.passesOn_bind_call fun _ =>
    PyGen.passesOn_withContext hhook fun span => PyGen.passesOn_yieldValue (some span)

/-- An exception of the import, or of entering the hook, is raised before the `yield`. -/
lemma advance_instrumentStatements_of_error {s t : σ} {e : PyException}
    (h : otel.enter hook s = (.error e, t)) :
    (instrumentStatements otel hook).advance s = (.raised e, t) := by
  rw [OpenTelemetry.enter] at h
  rcases himport : otel.importInstrumentation s with ⟨o, t₁⟩
  rw [himport] at h
  cases o with
  | error e' =>
    obtain ⟨he, rfl⟩ := Prod.mk.inj h
    obtain rfl := Except.error.inj he
    exact PyGen.advance_bind_call_of_error himport
  | ok u =>
    rcases hhook : hook t₁ with ⟨entered, t₂⟩
    simp only [hhook] at h
    cases entered with
    | ok entered => cases h
    | error e' =>
      obtain ⟨he, rfl⟩ := Prod.mk.inj h
      obtain rfl := Except.error.inj he
      exact (PyGen.advance_bind_call_of_ok himport).trans
        (PyGen.advance_withContext_of_error hhook)

/-- If there is none, the span is yielded. -/
lemma advance_instrumentStatements_of_ok {s t : σ} {span : Span}
    (h : otel.enter hook s = (.ok span, t)) :
    ∃ k, (instrumentStatements otel hook).advance s = (.yielded (some span) k, t) := by
  rw [OpenTelemetry.enter] at h
  rcases himport : otel.importInstrumentation s with ⟨o, t₁⟩
  rw [himport] at h
  cases o with
  | error e' => cases h
  | ok u =>
    rcases hhook : hook t₁ with ⟨entered, t₂⟩
    simp only [hhook] at h
    cases entered with
    | error e' => cases h
    | ok entered =>
      obtain ⟨span', exit⟩ := entered
      obtain ⟨hspan, rfl⟩ := Prod.mk.inj h
      obtain rfl := Except.ok.inj hspan
      exact ⟨_, (PyGen.advance_bind_call_of_ok himport).trans
        (PyGen.advance_withContext_of_ok hhook)⟩

/-- **The instrumentation is transparent** for a body exactly if the body is not run in a span or
does not raise `ImportError`. -/
lemma instrument_transparent_iff (hhook : hook.Reraises)
    {body : Option Span → ω × σ → Outcome × ω × σ} {s : ω × σ} :
    (instrument otel hook).Transparent body s ↔ otel.Passes hook body s := by
  rw [instrument, PyGen.transparent_withFallback_iff (passesOn_instrumentStatements hhook)
    fun _ => rfl, OpenTelemetry.Passes]
  rcases henter : otel.enter hook s.2 with ⟨o, t⟩
  cases o with
  | error e => simp [advance_instrumentStatements_of_error henter]
  | ok span =>
    obtain ⟨k, hadvance⟩ := advance_instrumentStatements_of_ok henter
    simp only [hadvance]
    constructor
    · rintro (⟨e, t', heq, -⟩ | ⟨a, k', t', heq, h⟩)
      · cases heq
      · obtain ⟨hyielded, rfl⟩ := Prod.mk.inj heq
        obtain ⟨rfl, -⟩ := PyGen.Progress.yielded.inj hyielded
        exact h
    · exact fun h => .inr ⟨some span, k, t, rfl, h⟩

/-! ## The `with` statement -/

section WithStatement

variable (body : Option Span → ω × σ → Outcome × ω × σ) (w : ω) {s t : σ}

/-- After an `ImportError` on entering, the statement is its body. -/
lemma withStatement_of_importError {e : PyException} (henter : otel.enter hook s = (.error e, t))
    (he : e.isInstance .importError = true) :
    withStatement (instrument otel hook) body (w, s) = body none (w, t) := by
  have hadvance : ((instrumentStatements otel hook).withFallback
      (fun e => e.isInstance .importError) none).advance s =
        (.yielded none PyGen.ofExcept, t) := by
    rw [PyGen.advance_withFallback_of_raised (advance_instrumentStatements_of_error henter), he,
      if_pos rfl]
  simp only [withStatement, instrument, contextmanager, hadvance,
    PyGen.leave_exit_of_ended (PyGen.advance_ofExcept _ _)]

/-- Another exception on entering is raised, and the body does not run. -/
lemma withStatement_of_error {e : PyException} (henter : otel.enter hook s = (.error e, t))
    (he : e.isInstance .importError = false) :
    withStatement (instrument otel hook) body (w, s) = (.error e, w, t) := by
  have hadvance : ((instrumentStatements otel hook).withFallback
      (fun e => e.isInstance .importError) none).advance s = (.raised e, t) := by
    rw [PyGen.advance_withFallback_of_raised (advance_instrumentStatements_of_error henter), he,
      if_neg Bool.false_ne_true]
  simp only [withStatement, instrument, contextmanager, hadvance]

/-- In a span the statement ends as its body does, unless that raises `ImportError`, which becomes
`RuntimeError`. -/
lemma withStatement_of_span {span : Span} (hhook : hook.Reraises)
    (henter : otel.enter hook s = (.ok span, t)) :
    (withStatement (instrument otel hook) body (w, s)).2.1 = (body (some span) (w, t)).2.1 ∧
      ((∀ e, (body (some span) (w, t)).1 = .error e → e.isInstance .importError = false) →
        (withStatement (instrument otel hook) body (w, s)).1 = (body (some span) (w, t)).1) ∧
      ∀ e, (body (some span) (w, t)).1 = .error e → e.isInstance .importError = true →
        (withStatement (instrument otel hook) body (w, s)).1 =
          .error (pyRuntimeError "generator didn't stop after throw()") := by
  obtain ⟨k, hyielded⟩ := advance_instrumentStatements_of_ok henter
  have hk := passesOn_instrumentStatements hhook s _ k t hyielded
  have hadvance : ((instrumentStatements otel hook).withFallback
      (fun e => e.isInstance .importError) none).advance s = (.yielded (some span)
        fun o => (k o).withFallback (fun e => e.isInstance .importError) none, t) :=
    PyGen.advance_tryExcept_of_yielded hyielded
  simp only [withStatement, instrument, contextmanager, hadvance]
  rcases body (some span) (w, t) with ⟨o, w', t'⟩
  obtain ⟨t'', hended⟩ := hk o t'
  refine ⟨trivial, fun h => ?_, fun e ho he => ?_⟩
  · rw [PyGen.leave_withFallback_of_passes hended h]
  · obtain rfl : o = .error e := ho
    rw [PyGen.leave_withFallback_of_caught hended he]

end WithStatement

end Instrument

/-! ## The wrapper of the consumer loop -/

/-- The instrumentation of a consumer, from a state on. -/
def OpenTelemetry.instrumentation (otel : OpenTelemetry σ α Span) (s : σ) : Instrumentation α :=
  match otel.importInstrumentation s with
  | (.error e, _) =>
    if e.isInstance .importError then .missing else .installed fun _ => .error e
  | (.ok (), t) => .installed fun attributes => ((onReceive otel attributes) t).1.map fun _ => ()

section Wrapper

variable {otel : OpenTelemetry σ α Span} {attributes : α} {body : ω → Outcome × ω} {w : ω} {s t : σ}

/-- The wrapper runs the body or raises, if entering raises. -/
lemma maybeInstrument_of_enter_error {e : PyException}
    (h : otel.enter (onReceive otel attributes) s = (.error e, t)) :
    maybeInstrument (otel.instrumentation s) attributes body w =
      if e.isInstance .importError then body w else (.error e, w) := by
  rw [OpenTelemetry.enter] at h
  rw [OpenTelemetry.instrumentation]
  rcases himport : otel.importInstrumentation s with ⟨o, t₁⟩
  simp only [himport] at h ⊢
  cases o with
  | error e' =>
    obtain rfl := Except.error.inj (Prod.mk.inj h).1
    cases he : e'.isInstance .importError <;> simp [maybeInstrument, he]
  | ok u =>
    rcases hhook : onReceive otel attributes t₁ with ⟨entered, t₂⟩
    simp only [hhook] at h
    cases entered with
    | ok entered => cases h
    | error e' =>
      obtain rfl := Except.error.inj (Prod.mk.inj h).1
      simp [maybeInstrument, hhook, Except.map]

/-- If entering does not raise, the wrapper is that of an instrumentation that is installed. -/
lemma maybeInstrument_of_enter_ok {span : Span}
    (h : otel.enter (onReceive otel attributes) s = (.ok span, t)) :
    maybeInstrument (otel.instrumentation s) attributes body w =
      maybeInstrument (.installed fun _ => .ok ()) attributes body w := by
  rw [OpenTelemetry.enter] at h
  rw [OpenTelemetry.instrumentation]
  rcases himport : otel.importInstrumentation s with ⟨o, t₁⟩
  simp only [himport] at h ⊢
  cases o with
  | error e' => cases h
  | ok u =>
    rcases hhook : onReceive otel attributes t₁ with ⟨entered, t₂⟩
    simp only [hhook] at h
    cases entered with
    | error e' => cases h
    | ok entered => simp [maybeInstrument, hhook, Except.map]

/-- **The wrapper of the consumer loop** is the `with` statement: it ends so, and so does the state
of the body.

**Proof sketch.**  By what entering the span does, and then by how the body ends: an `ImportError`
of either is caught by the wrapper, which then runs the body again or fails for having yielded
twice, and everything else passes through the span. -/
theorem withStatement_maybeInstrument (h : otel.Reraises) (attributes : α)
    (body : ω → Outcome × ω) (w : ω) (s : σ) :
    let r := withStatement (HedwigConsumerBaseBackend.maybeInstrument otel attributes)
      (fun _ s => ((body s.1).1, (body s.1).2, s.2)) (w, s)
    (r.1, r.2.1) = maybeInstrument (otel.instrumentation s) attributes body w := by
  intro r
  rcases henter : otel.enter (onReceive otel attributes) s with ⟨o, t⟩
  cases o with
  | error e =>
    rw [maybeInstrument_of_enter_error henter]
    cases he : e.isInstance .importError with
    | true =>
      have hr : r = _ := withStatement_of_importError _ _ henter he
      rw [hr, if_pos rfl]
    | false =>
      have hr : r = _ := withStatement_of_error _ _ henter he
      rw [hr, if_neg Bool.false_ne_true]
  | ok span =>
    rw [maybeInstrument_of_enter_ok henter]
    obtain ⟨hstate, hpasses, hcaught⟩ := withStatement_of_span
      (fun _ s => ((body s.1).1, (body s.1).2, s.2)) w (reraises_onReceive h attributes) henter
    have hr : r.2.1 = (body w).2 := hstate
    rw [hr]
    rcases hbody : body w with ⟨o, w'⟩
    simp only [hbody] at hpasses hcaught
    cases o with
    | ok u =>
      have hr : r.1 = .ok u := hpasses fun e he => by cases he
      simp [hr, maybeInstrument, hbody]
    | error e =>
      cases he : e.isInstance .importError with
      | true =>
        have hr : r.1 = _ := hcaught e rfl he
        simp [hr, maybeInstrument, hbody, he, pyRuntimeError]
      | false =>
        have hr : r.1 = .error e := hpasses fun e' he' => Except.error.inj he' ▸ he
        simp [hr, maybeInstrument, hbody, he]

end Wrapper

/-! ## With and without OpenTelemetry -/

namespace OpenTelemetry

/-- OpenTelemetry is there: the module can be imported, and what it calls does not raise. -/
structure Installed (otel : OpenTelemetry σ α Span) : Prop where
  importInstrumentation : ∀ s, ∃ t, otel.importInstrumentation s = (.ok (), t)
  extract : ∀ attributes s, ∃ context t, otel.extract attributes s = (.ok context, t)
  inject : ∀ s, ∃ t, otel.inject s = (.ok (), t)
  getTracer : ∀ s, ∃ tracer t, otel.getTracer s = (.ok tracer, t)
  startAsCurrentSpan : ∀ tracer name context kind s, ∃ span exit t,
    otel.startAsCurrentSpan tracer name context kind s = (.ok (span, exit), t)

/-- It is not there: the module cannot be imported. -/
def Missing (otel : OpenTelemetry σ α Span) : Prop :=
  ∀ s, ∃ e t, otel.importInstrumentation s = (.error e, t) ∧ e.isInstance .importError = true

variable {otel : OpenTelemetry σ α Span}

/-- Entering fails with `ImportError`. -/
lemma Missing.enter (h : otel.Missing) (hook : PyContext σ PyException Span) (s : σ) :
    ∃ e t, otel.enter hook s = (.error e, t) ∧ e.isInstance .importError = true := by
  obtain ⟨e, t, himport, he⟩ := h s
  exact ⟨e, t, by rw [OpenTelemetry.enter, himport], he⟩

/-- Entering a hook that is entered does not fail. -/
lemma Installed.enter (h : otel.Installed) {hook : PyContext σ PyException Span}
    (hhook : ∀ s, ∃ span exit t, hook s = (.ok (span, exit), t)) (s : σ) :
    ∃ span t, otel.enter hook s = (.ok span, t) := by
  obtain ⟨t₁, himport⟩ := h.importInstrumentation s
  obtain ⟨span, exit, t₂, hentered⟩ := hhook t₁
  exact ⟨span, t₂, by simp only [OpenTelemetry.enter, himport, hentered]⟩

/-- `on_receive` is entered. -/
lemma Installed.onReceive (h : otel.Installed) (attributes : α) (s : σ) :
    ∃ span exit t, onReceive otel attributes s = (.ok (span, exit), t) := by
  obtain ⟨context, t₁, hextract⟩ := h.extract attributes s
  obtain ⟨tracer, t₂, htracer⟩ := h.getTracer t₁
  obtain ⟨span, exit, t₃, hspan⟩ :=
    h.startAsCurrentSpan tracer "message_received" (some context) .consumer t₂
  exact ⟨span, _, t₃, contextmanager_of_yielded <| (PyGen.advance_bind_call_of_ok hextract).trans <|
    (PyGen.advance_bind_call_of_ok htracer).trans (PyGen.advance_withContext_of_ok hspan)⟩

/-- `on_publish` is entered. -/
lemma Installed.onPublish (h : otel.Installed) (message : Message δ π) (s : σ) :
    ∃ span exit t, onPublish otel message s = (.ok (span, exit), t) := by
  obtain ⟨tracer, t₁, htracer⟩ := h.getTracer s
  obtain ⟨span, exit, t₂, hspan⟩ :=
    h.startAsCurrentSpan tracer ("publish/" ++ message.type) none .producer t₁
  obtain ⟨t₃, hinject⟩ := h.inject t₂
  have hbody : ((PyGen.call otel.inject).bind fun _ => PyGen.yieldValue span).advance t₂ =
      (.yielded span PyGen.ofExcept, t₃) := PyGen.advance_bind_call_of_ok hinject
  exact ⟨span, _, t₃, contextmanager_of_yielded <| (PyGen.advance_bind_call_of_ok htracer).trans <|
    (PyGen.advance_withContext_of_ok hspan).trans (PyGen.advance_withExit_of_yielded hbody)⟩

end OpenTelemetry

/-! ## The Lambda consumer -/

namespace AWSSNSConsumerBackend

/-- `process_messages`. -/
def processMessagesInstrumented (otel : OpenTelemetry σ (PyDict String String) Span)
    (code : LambdaCode) : List SnsRecord → List HandlerCall × σ → Outcome × List HandlerCall × σ
  | [], s => (.ok (), s)
  | record :: rest, s =>
    match messageAttributes record with
    | .error e => (.error e, s)
    | .ok attributes =>
      match withStatement (HedwigConsumerBaseBackend.maybeInstrument otel attributes)
          (fun _ s => ((processMessage code record s.1).1, (processMessage code record s.1).2, s.2))
          s with
      | (.ok (), s) => processMessagesInstrumented otel code rest s
      | (.error e, s) => (.error e, s)

/-- If `process_message` raises for the first record that does not go through, that is no
`ImportError`. -/
def RaisesNoImportError (code : LambdaCode) : List SnsRecord → Prop
  | [] => True
  | record :: rest =>
    ∀ attributes, messageAttributes record = .ok attributes →
      (∀ e, (processMessage code record []).1 = .error e → e.isInstance .importError = false) ∧
        ((processMessage code record []).1 = .ok () → RaisesNoImportError code rest)

variable {otel : OpenTelemetry σ (PyDict String String) Span} {code : LambdaCode}
  {i : Instrumentation (PyDict String String)}

/-- The method with its `with` statements is the one with the wrapper. -/
lemma processMessagesInstrumented_eq (h : otel.Reraises)
    (hi : ∀ s attributes body (calls : List HandlerCall),
      maybeInstrument (otel.instrumentation s) attributes body calls =
        maybeInstrument i attributes body calls)
    (records : List SnsRecord) (calls : List HandlerCall) (s : σ) :
    let r := processMessagesInstrumented otel code records (calls, s)
    (r.1, r.2.1) = processMessages i code records calls := by
  induction records generalizing calls s with
  | nil => rfl
  | cons record rest ih =>
    simp only [processMessagesInstrumented, processMessages]
    cases messageAttributes record with
    | error e => rfl
    | ok attributes =>
      have hwith := withStatement_maybeInstrument h attributes (processMessage code record) calls s
      rw [hi] at hwith
      simp only [← hwith]
      rcases withStatement (HedwigConsumerBaseBackend.maybeInstrument otel attributes)
        (fun _ s => ((processMessage code record s.1).1, (processMessage code record s.1).2, s.2))
        (calls, s) with ⟨o, calls', s'⟩
      cases o with
      | ok u => exact ih calls' s'
      | error e => rfl

/-- Under its `with` statements an event ends as without them, with the same calls. -/
def ProcessMessagesTransparent (otel : OpenTelemetry σ (PyDict String String) Span)
    (code : LambdaCode) (records : List SnsRecord) (calls : List HandlerCall) (s : σ) : Prop :=
  let r := processMessagesInstrumented otel code records (calls, s)
  (r.1, r.2.1) = processMessages .missing code records calls

/-- **With and without a span** an event ends in the same way, with the same calls, exactly if no
`ImportError` of `process_message` is in the way.

**Proof sketch.**  Induction on the records.  A record that returns leaves the rest to the induction
hypothesis.  An `ImportError` is turned into the `RuntimeError` of the generator in one of the two
runs only, and every other exception ends both in the same way. -/
lemma processMessages_installed_iff (records : List SnsRecord) (calls : List HandlerCall) :
    processMessages (.installed fun _ => .ok ()) code records calls =
        processMessages .missing code records calls ↔
      RaisesNoImportError code records := by
  induction records generalizing calls with
  | nil => simp [processMessages, RaisesNoImportError]
  | cons record rest ih =>
    simp only [processMessages, RaisesNoImportError]
    cases messageAttributes record with
    | error e => simp
    | ok attributes =>
      obtain ⟨houtcome, -⟩ := processMessage_calls code record calls
      simp only [Except.ok.injEq, forall_eq', ← houtcome]
      rcases hprocess : processMessage code record calls with ⟨o, calls'⟩
      cases o with
      | ok u => simpa [maybeInstrument, hprocess] using ih calls'
      | error e =>
        cases he : e.isInstance .importError with
        | false => simp [maybeInstrument, hprocess, he]
        | true =>
          have hne := pyRuntimeError_ne_of_importError "generator didn't stop after throw()" he
          rw [pyRuntimeError] at hne
          simp [maybeInstrument, hprocess, he, hne]

/-- **Without OpenTelemetry** `process_messages` is transparent. -/
lemma processMessagesTransparent_of_missing (hreraises : otel.Reraises) (h : otel.Missing)
    (records : List SnsRecord) (calls : List HandlerCall) (s : σ) :
    ProcessMessagesTransparent otel code records calls s := by
  refine processMessagesInstrumented_eq hreraises
    (fun s attributes body calls => ?_) records calls s
  obtain ⟨e, t, henter, he⟩ := h.enter (onReceive otel attributes) s
  rw [maybeInstrument_of_enter_error henter, he, if_pos rfl, maybeInstrument]

/-- **With OpenTelemetry** it is exactly if no `ImportError` of `process_message` is in the way. -/
lemma processMessagesTransparent_iff_of_installed (hreraises : otel.Reraises) (h : otel.Installed)
    (records : List SnsRecord) (calls : List HandlerCall) (s : σ) :
    ProcessMessagesTransparent otel code records calls s ↔ RaisesNoImportError code records := by
  have hwrapper : ((processMessagesInstrumented otel code records (calls, s)).1,
      (processMessagesInstrumented otel code records (calls, s)).2.1) =
        processMessages (.installed fun _ => .ok ()) code records calls := by
    refine processMessagesInstrumented_eq hreraises
      (fun s attributes body calls => ?_) records calls s
    obtain ⟨span, t, henter⟩ := h.enter (h.onReceive attributes) s
    exact maybeInstrument_of_enter_ok henter
  rw [ProcessMessagesTransparent, ← processMessages_installed_iff records calls]
  exact iff_of_eq (congrArg (· = _) hwrapper)

end AWSSNSConsumerBackend

/-! ## Publishing -/

namespace HedwigPublisherBaseBackend

variable {τ : Type} (v : HedwigBaseValidator δ ξ) (pair : BackendPair δ)
  (settings : PublisherSettings δ π) (otel : OpenTelemetry (Attributes × τ) α Span)

/-- What the statements under the `with` call the client with. -/
def publishCall (message : Message δ π) (instrumentationHeaders : Attributes) :
    Except PyException pair.Call := do
  let headers ← mapping message.metadata.headers
  let message := message.withHeaders (ofDict (headers.update instrumentationHeaders))
  let (payload, attributes) ← v.serialize message
  pair.publish message payload (toStrings attributes)

/-- The statements under the `with`, which assign `result`. -/
def publishStatements (message : Message δ π) (_span : Option Span)
    (s : Option pair.Call × Attributes × τ) : Outcome × Option pair.Call × Attributes × τ :=
  match publishCall v pair message s.2.1 with
  | .ok call => (.ok (), some call, s.2)
  | .error e => (.error e, s)

/-- `publish`, from a state of OpenTelemetry on. -/
def publishInstrumented (code : ConsumerCode δ pair) (m : Message δ π) (t : τ) :
    Except PyException (Published pair.Call) × τ :=
  if settings.sync then
    (dispatchSync v pair code m >>= fun _ => .ok .dispatched, t)
  else
    match withDefaultHeaders (settings.defaultHeaders m) m with
    | .error e => (.error e, t)
    | .ok message =>
      match withStatement (maybeInstrument otel message) (publishStatements v pair message)
          (none, .empty, t) with
      | (.error e, s) => (.error e, s.2.2)
      | (.ok (), some call, s) => (.ok (.handedOver call), s.2)
      -- the exception of the statements has been suppressed
      | (.ok (), none, s) =>
        (.error ⟨[], .ok "local variable 'result' referenced before assignment",
          .error .attributeError⟩, s.2)

/-- The instrumentation headers that there are once `_maybe_instrument` is entered. -/
def instrumentationHeaders (m : Message δ π) (t : τ) : Attributes :=
  (otel.enter (onPublish otel m) (.empty, t)).2.1

/-- `publish` ends as its statements do, with these headers. -/
def PublishTransparent (code : ConsumerCode δ pair) (m : Message δ π) (t : τ) : Prop :=
  (publishInstrumented v pair settings otel code m t).1 =
    publish v pair settings (instrumentationHeaders otel m t) code m

variable {v pair settings otel}

/-- Without `HEDWIG_SYNC`, `publish` adds the default headers and runs the statements. -/
lemma publish_eq (hsync : settings.sync = false) (headers : Attributes)
    (code : ConsumerCode δ pair) (m : Message δ π) :
    publish v pair settings headers code m =
      withDefaultHeaders (settings.defaultHeaders m) m >>= fun message =>
        publishCall v pair message headers >>= fun call => .ok (.handedOver call) := by
  simp only [publish, hsync, publishCall, bind_assoc]
  rfl

/-- The default headers do not change what `on_publish` is called for. -/
lemma onPublish_withDefaultHeaders {m message : Message δ π} {headers : Attributes}
    (h : withDefaultHeaders headers m = .ok message) :
    onPublish otel message = onPublish otel m := by
  have htype : message.type = m.type := by
    rw [withDefaultHeaders] at h
    split_ifs at h
    · rw [Except.ok.inj h]
    · obtain ⟨headers', -, hreturn⟩ := bind_eq_ok.mp h
      rw [← Except.ok.inj hreturn]
      rfl
  rw [onPublish, onPublish, htype]

section

variable {code : ConsumerCode δ pair} {m message : Message δ π} {t : τ}

/-- Where it does not come to its `with` statement, `publish` is transparent. -/
lemma publishTransparent_of_not_reached (h : settings.sync = true ∨
      ∃ e, withDefaultHeaders (settings.defaultHeaders m) m = .error e) :
    PublishTransparent v pair settings otel code m t := by
  rw [PublishTransparent]
  cases hsync : settings.sync with
  | true =>
    simp only [publishInstrumented, publish, hsync, if_true]
    rfl
  | false =>
    obtain ⟨e, he⟩ := h.resolve_left (by simp [hsync])
    rw [publish_eq hsync]
    simp only [publishInstrumented, hsync, Bool.false_eq_true, if_false, he]
    rfl

/-- Where it does, it is if the statement ends as its body does. -/
lemma publishTransparent_iff_of_with (hsync : settings.sync = false)
    (hmessage : withDefaultHeaders (settings.defaultHeaders m) m = .ok message)
    {o : Outcome} {r : Option pair.Call} {s : Attributes × τ}
    (hwith : withStatement (maybeInstrument otel message) (publishStatements v pair message)
      (none, .empty, t) = (o, r, s))
    (hr : ∀ call, publishCall v pair message (instrumentationHeaders otel m t) = .ok call →
      o = .ok () ∧ r = some call)
    (ho : ∀ e, publishCall v pair message (instrumentationHeaders otel m t) = .error e →
      ∃ e', o = .error e') :
    PublishTransparent v pair settings otel code m t ↔
      ∀ e, publishCall v pair message (instrumentationHeaders otel m t) = .error e →
        o = .error e := by
  rw [PublishTransparent, publish_eq hsync, hmessage]
  simp only [publishInstrumented, hsync, Bool.false_eq_true, if_false, hmessage, hwith]
  cases hcall : publishCall v pair message (instrumentationHeaders otel m t) with
  | ok call =>
    obtain ⟨rfl, rfl⟩ := hr call hcall
    simp [hcall, bind, Except.bind]
  | error e =>
    obtain ⟨e', rfl⟩ := ho e hcall
    simp [hcall, bind, Except.bind]

end

/-- **Without OpenTelemetry** `publish` is transparent.

**Proof sketch.**  Entering the span raises `ImportError`, which the wrapper answers by running the
statements without a span, with the headers that `on_publish` has left.  These are the headers of
the call that the property compares with. -/
lemma publishTransparent_of_missing (h : otel.Missing) (code : ConsumerCode δ pair)
    (m : Message δ π) (t : τ) : PublishTransparent v pair settings otel code m t := by
  cases hsync : settings.sync with
  | true => exact publishTransparent_of_not_reached (.inl hsync)
  | false =>
    cases hmessage : withDefaultHeaders (settings.defaultHeaders m) m with
    | error e => exact publishTransparent_of_not_reached (.inr ⟨e, hmessage⟩)
    | ok message =>
      obtain ⟨e, t', henter, he⟩ := h.enter (onPublish otel m) (.empty, t)
      have hheaders : instrumentationHeaders otel m t = t'.1 := by
        rw [instrumentationHeaders, henter]
      rw [← onPublish_withDefaultHeaders hmessage] at henter
      have hwith := withStatement_of_importError (publishStatements v pair message) none
        henter he
      simp only [publishStatements] at hwith
      cases hcall : publishCall v pair message t'.1 with
      | ok call =>
        rw [hcall] at hwith
        refine (publishTransparent_iff_of_with hsync hmessage hwith ?_ ?_).mpr ?_ <;>
          simp [hheaders, hcall]
      | error e =>
        rw [hcall] at hwith
        refine (publishTransparent_iff_of_with hsync hmessage hwith ?_ ?_).mpr ?_ <;>
          simp [hheaders, hcall]

/-- **With OpenTelemetry** it is exactly if its statements do not raise `ImportError`.

**Proof sketch.**  In synchronous mode, or if the default headers cannot be computed, the `with`
statement is not reached.  Otherwise the span is entered, and `withStatement_of_span` says how the
statement ends: as `publish` did, or with a `RuntimeError` if that was an `ImportError`. -/
lemma publishTransparent_iff_of_installed (hreraises : otel.Reraises) (h : otel.Installed)
    (code : ConsumerCode δ pair) (m : Message δ π) (t : τ) :
    PublishTransparent v pair settings otel code m t ↔
      settings.sync = true ∨
        ∀ message, withDefaultHeaders (settings.defaultHeaders m) m = .ok message →
          ∀ e, publishCall v pair message (instrumentationHeaders otel m t) = .error e →
            e.isInstance .importError = false := by
  cases hsync : settings.sync with
  | true => simp [publishTransparent_of_not_reached (.inl hsync)]
  | false =>
    cases hmessage : withDefaultHeaders (settings.defaultHeaders m) m with
    | error e => simp [publishTransparent_of_not_reached (.inr ⟨e, hmessage⟩)]
    | ok message =>
      obtain ⟨span, t', henter⟩ := h.enter (h.onPublish m) (.empty, t)
      have hheaders : instrumentationHeaders otel m t = t'.1 := by
        rw [instrumentationHeaders, henter]
      rw [← onPublish_withDefaultHeaders hmessage] at henter
      obtain ⟨hstate, hpasses, hcaught⟩ := withStatement_of_span
        (publishStatements v pair message) none (reraises_onPublish hreraises message) henter
      rcases hwith : withStatement (instrument otel (onPublish otel message))
        (publishStatements v pair message) (none, .empty, t) with ⟨o, r, s⟩
      simp only [hwith, publishStatements] at hstate hpasses hcaught
      cases hcall : publishCall v pair message t'.1 with
      | ok call =>
        simp only [hcall] at hstate hpasses
        have ho : o = .ok () := hpasses fun e he => by cases he
        rw [publishTransparent_iff_of_with hsync hmessage hwith] <;>
          simp [hheaders, hcall, ho, hstate]
      | error e =>
        simp only [hcall] at hpasses hcaught
        cases he : e.isInstance .importError with
        | false =>
          have ho : o = .error e := hpasses fun e' he' => Except.error.inj he' ▸ he
          rw [publishTransparent_iff_of_with hsync hmessage hwith] <;>
            simp [hheaders, hcall, ho, he]
        | true =>
          have ho := hcaught e rfl he
          have hne := pyRuntimeError_ne_of_importError "generator didn't stop after throw()" he
          rw [publishTransparent_iff_of_with hsync hmessage hwith] <;>
            simp [hheaders, hcall, ho, he, hne]

end HedwigPublisherBaseBackend

/-! ## Transparency -/

/-- **When the instrumentation is transparent.**  Under both context managers a body runs exactly
once, and the `with` statement ends as it did, if and only if it is not run in a span for want of a
module, or it does not raise `ImportError`.  So without OpenTelemetry `publish` and the Lambda
`process_messages` end as the statements under the `with` do, and with it exactly if these do not
raise `ImportError`.

**Proof sketch.**  Both context managers are one generator with a fallback, for which
`instrument_transparent_iff` compares the `with` statement with its body.  Without OpenTelemetry
entering the span raises `ImportError` before the body, so the fallback runs it; with it the body
runs in the span, and its own `ImportError` reaches the fallback. -/
theorem instrumentation_transparent_iff {Span τ : Type}
    (otel : OpenTelemetry (Attributes × τ) (PyDict String String) Span) (h : otel.Reraises) :
    (∀ (δ π ω : Type) (message : Message δ π)
      (body : Option Span → ω × Attributes × τ → Outcome × ω × Attributes × τ)
      (s : ω × Attributes × τ),
      (HedwigPublisherBaseBackend.maybeInstrument otel message).Transparent body s ↔
        otel.Passes (onPublish otel message) body s) ∧
    (∀ (ω : Type) (attributes : PyDict String String)
      (body : Option Span → ω × Attributes × τ → Outcome × ω × Attributes × τ)
      (s : ω × Attributes × τ),
      (HedwigConsumerBaseBackend.maybeInstrument otel attributes).Transparent body s ↔
        otel.Passes (onReceive otel attributes) body s) ∧
    (otel.Missing →
      (∀ (δ ξ π : Type) (v : HedwigBaseValidator δ ξ) (pair : BackendPair δ)
        (settings : PublisherSettings δ π) (code : ConsumerCode δ pair) (m : Message δ π) (t : τ),
        HedwigPublisherBaseBackend.PublishTransparent v pair settings otel code m t) ∧
      ∀ code records calls s,
        AWSSNSConsumerBackend.ProcessMessagesTransparent otel code records calls s) ∧
    (otel.Installed →
      (∀ (δ ξ π : Type) (v : HedwigBaseValidator δ ξ) (pair : BackendPair δ)
        (settings : PublisherSettings δ π) (code : ConsumerCode δ pair) (m : Message δ π) (t : τ),
        HedwigPublisherBaseBackend.PublishTransparent v pair settings otel code m t ↔
          settings.sync = true ∨ ∀ message,
            HedwigPublisherBaseBackend.withDefaultHeaders (settings.defaultHeaders m) m =
              .ok message →
            ∀ e, HedwigPublisherBaseBackend.publishCall v pair message
                (HedwigPublisherBaseBackend.instrumentationHeaders otel m t) = .error e →
              e.isInstance .importError = false) ∧
      ∀ code records calls s,
        AWSSNSConsumerBackend.ProcessMessagesTransparent otel code records calls s ↔
          AWSSNSConsumerBackend.RaisesNoImportError code records) := by
  refine ⟨fun _ _ _ message _ _ => instrument_transparent_iff (reraises_onPublish h message),
    fun _ attributes _ _ => instrument_transparent_iff (reraises_onReceive h attributes),
    fun hmissing => ⟨?_, ?_⟩, fun hinstalled => ⟨?_, ?_⟩⟩
  · intro δ ξ π v pair settings code m t
    exact HedwigPublisherBaseBackend.publishTransparent_of_missing hmissing code m t
  · intro code records calls s
    exact AWSSNSConsumerBackend.processMessagesTransparent_of_missing h hmissing records calls s
  · intro δ ξ π v pair settings code m t
    exact HedwigPublisherBaseBackend.publishTransparent_iff_of_installed h hinstalled code m t
  · intro code records calls s
    exact AWSSNSConsumerBackend.processMessagesTransparent_iff_of_installed h hinstalled records
      calls s

/-! ## Samples -/

/-- OpenTelemetry without an exporter: spans that do nothing. -/
def noopTelemetry : OpenTelemetry (Attributes × Unit) (PyDict String String) Unit where
  Context := Unit
  Tracer := Unit
  importInstrumentation s := (.ok (), s)
  extract _ s := (.ok (), s)
  inject s := (.ok (), s)
  getTracer s := (.ok (), s)
  startAsCurrentSpan _ _ _ _ s := (.ok ((), fun _ s => (.ok false, s)), s)

/-- A record with attributes. -/
def attributedRecord : SnsRecord := ⟨some .empty, "\x7b\x7d", .empty⟩

/-- A pre hook that raises. -/
def raisingPreHook (cls : ExceptionClass) (text : String) : AWSSNSConsumerBackend.LambdaCode where
  preProcessHook _ := .error (.new cls text)
  messageHandler _ _ := .ok ()
  postProcessHook _ := .ok ()

/-- Its spans are left without a change. -/
lemma reraises_noopTelemetry : noopTelemetry.Reraises := by
  intro tracer name context kind s a exit t h
  obtain ⟨hentered, -⟩ := Prod.mk.inj h
  obtain ⟨-, rfl⟩ := Prod.mk.inj (Except.ok.inj hentered)
  intro o s'
  cases o <;> rfl

/-- It is there. -/
lemma installed_noopTelemetry : noopTelemetry.Installed where
  importInstrumentation s := ⟨s, rfl⟩
  extract _ s := ⟨(), s, rfl⟩
  inject s := ⟨s, rfl⟩
  getTracer s := ⟨(), s, rfl⟩
  startAsCurrentSpan _ _ _ _ s := ⟨(), _, s, rfl⟩

/-- The theorem at a body and a pre hook that raise `ValueError`. -/
theorem instrumentation_transparent_iff_sample :
    (HedwigPublisherBaseBackend.maybeInstrument noopTelemetry
      (sampleMessage () "trip_created")).Transparent
        (fun _ s => (.error (.new .valueError ""), s)) ((), .empty, ()) ∧
    AWSSNSConsumerBackend.ProcessMessagesTransparent noopTelemetry (raisingPreHook .valueError "")
      [attributedRecord] [] (.empty, ()) := by
  obtain ⟨hpublisher, -, -, hinstalled⟩ :=
    instrumentation_transparent_iff noopTelemetry reraises_noopTelemetry
  constructor
  · refine (hpublisher _ _ _ _ _ _).mpr fun e he => ?_
    rw [← Except.error.inj he]
    rfl
  · refine ((hinstalled installed_noopTelemetry).2 _ _ _ _).mpr fun attributes _ => ⟨?_, ?_⟩
    · intro e he
      rw [← Except.error.inj he]
      rfl
    · intro hreturned
      cases hreturned

/-- **An `ImportError` is replaced.**  A publisher's body and a pre hook of a Lambda consumer raise
it, and under the instrumentation they end in `RuntimeError`. -/
theorem instrumentation_transparent_counterexample :
    ¬ (HedwigPublisherBaseBackend.maybeInstrument noopTelemetry
      (sampleMessage () "trip_created")).Transparent
        (fun _ s => (.error (.new .importError "No module named 'reports'"), s))
        ((), .empty, ()) ∧
    (AWSSNSConsumerBackend.processMessagesInstrumented noopTelemetry
      (raisingPreHook .importError "No module named 'reports'") [attributedRecord]
      ([], .empty, ())).1 = .error (pyRuntimeError "generator didn't stop after throw()") ∧
    (AWSSNSConsumerBackend.processMessages .missing
      (raisingPreHook .importError "No module named 'reports'") [attributedRecord] []).1 =
        .error (.new .importError "No module named 'reports'") := by
  refine ⟨fun h => ?_, rfl, rfl⟩
  have hruns : [(.error (.new .importError "No module named 'reports'") : Outcome)] =
    [.error (pyRuntimeError "generator didn't stop after throw()")] := h
  simp [PyException.new, pyRuntimeError, ExceptionClass.bases] at hruns

end Hedwig
