import Mathlib.Data.List.Forall2
import Mathlib.Data.List.Infix
import Hedwig.Exceptions

set_option relaxedAutoImplicit false
set_option autoImplicit false

/-!
# The consumer loop

`HedwigConsumerBaseBackend.fetch_and_process_messages` with the helpers it calls: the
instrumentation wrapper, the heartbeat hook, the reset of the error counter, and the four nested
`try` blocks around one message.

Hooks, callbacks and broker calls are code the loop does not control.  What each of them does to
one message is part of the input: a `Delivery` is a pulled message together with the outcome of
every call made for it and the clock readings taken, so a statement about all deliveries is a
statement about all behaviours of that code.  What one iteration of the `while` loop sees of
`pull_messages` is a list of `PullStep`s: messages, the housekeeping that a backend does around
them (before the messages for a backend that returns a list, after or between them for one that is
a generator), or an exception.

## Main definitions

* `Hedwig.Delivery`, `Hedwig.PullStep` — the input of the loop.
* `Hedwig.ConsumerState` — the fields of the consumer, with the trace of the calls made so far.
* `Hedwig.processQueueMessage` — the body of the `for` loop.
* `Hedwig.fetchAndProcessMessages` — the loop.

## Design

Logging does not raise and is left out, except for the arguments that the handler of
`LoggingException` evaluates.  The trace is the observable behaviour; no function of the model
reads it.
-/

namespace Hedwig

/-- A reading of `datetime.utcnow()`, or the length of a `timedelta`, in microseconds. -/
abbrev Time := ℤ

/-- The settings that the loop reads. -/
structure ConsumerSettings where
  /-- `HEDWIG_HEARTBEAT_INTERVAL_S`. -/
  heartbeatInterval : Time
  /-- `HEDWIG_HEARTBEAT_INACTIVITY_RESET_S`, `none` when it is unset or zero. -/
  heartbeatInactivityReset : Option Time

/-- One call of `_call_heartbeat_hook`: the clock reading it takes, and how
`HEDWIG_HEARTBEAT_HOOK` ends if it is called. -/
structure HeartbeatCall where
  now : Time
  hook : Outcome

/-- A pulled message with what the code around the loop does for it. -/
structure Delivery (μ : Type) where
  /-- The queue message. -/
  message : μ
  /-- The clock reading taken when the message is received. -/
  receivedAt : Time
  /-- How `HEDWIG_PRE_PROCESS_HOOK` ends. -/
  preProcessHook : Outcome
  /-- The forced heartbeat calls of the visibility extensions made while processing. -/
  extensions : List HeartbeatCall
  /-- How `process_message` ends. -/
  processMessage : Outcome
  /-- The heartbeat call of the `finally` block. -/
  heartbeat : HeartbeatCall
  /-- How `HEDWIG_POST_PROCESS_HOOK` ends. -/
  postProcessHook : Outcome
  /-- How `ack_message` ends. -/
  ackMessage : Outcome
  /-- How `nack_message` ends. -/
  nackMessage : Outcome

/-- What the `for` loop sees when it asks `pull_messages` for the next message. -/
inductive PullStep (μ : Type)
  /-- The next message. -/
  | yield (d : Delivery μ)
  /-- `_perform_error_counter_inactivity_reset()` at a clock reading, then
  `_call_heartbeat_hook()`. -/
  | housekeeping (now : Time) (heartbeat : HeartbeatCall)
  /-- `pull_messages` raises. -/
  | raises (e : PyException)

/-- The deliveries among the steps, in pull order. -/
def PullStep.deliveries {μ : Type} : List (PullStep μ) → List (Delivery μ)
  | [] => []
  | .yield d :: rest => d :: deliveries rest
  | _ :: rest => deliveries rest

/-- A call made by the loop, with how it ended. -/
inductive Event (μ : Type)
  | preProcessHook (m : μ) (o : Outcome)
  | processMessage (m : μ) (o : Outcome)
  | postProcessHook (m : μ) (o : Outcome)
  | ackMessage (m : μ) (o : Outcome)
  | nackMessage (m : μ) (o : Outcome)
  | heartbeatHook (now : Time) (errorCount : ℕ) (o : Outcome)
  | inactivityReset (now : Time)

/-- An attempt to settle a message: an ack or a nack. -/
def Event.isSettlement {μ : Type} : Event μ → Bool
  | .ackMessage _ _ | .nackMessage _ _ => true
  | _ => false

/-- The fields of the consumer, and the calls made so far. -/
structure ConsumerState (μ : Type) where
  errorCount : ℕ
  heartbeatCalledAt : Time
  lastMessageReceivedAt : Time
  trace : List (Event μ)

/-- `HedwigConsumerBaseBackend.__init__`: both timestamps are 1970-01-01. -/
def ConsumerState.init {μ : Type} : ConsumerState μ := ⟨0, 0, 0, []⟩

/-- How the part of the loop body that ends in a `try` statement goes on. -/
inductive Flow
  | fallThrough
  | continueLoop
  | raises (e : PyException)

/-- The `hedwig.instrumentation` module: not importable, or installed, with how entering
`on_receive` ends. -/
inductive Instrumentation (α : Type)
  | missing
  | installed (onReceive : α → Outcome)

section

variable {μ α : Type}

/-- Record a call. -/
def ConsumerState.emit (s : ConsumerState μ) (e : Event μ) : ConsumerState μ :=
  { s with trace := s.trace ++ [e] }

/-- `_perform_error_counter_inactivity_reset`. -/
def performErrorCounterInactivityReset (cfg : ConsumerSettings) (now : Time)
    (s : ConsumerState μ) : ConsumerState μ :=
  match cfg.heartbeatInactivityReset with
  | none => s
  | some period =>
    if s.errorCount ≠ 0 ∧ s.lastMessageReceivedAt + period < now then
      { s with errorCount := 0 }.emit (.inactivityReset now)
    else s

/-- `_call_heartbeat_hook`.  An exception of the hook is logged and dropped. -/
def callHeartbeatHook (cfg : ConsumerSettings) (force : Bool) (hb : HeartbeatCall)
    (s : ConsumerState μ) : ConsumerState μ :=
  if force ∨ s.heartbeatCalledAt + cfg.heartbeatInterval < hb.now then
    { s with heartbeatCalledAt := hb.now }.emit (.heartbeatHook hb.now s.errorCount hb.hook)
  else s

/-- `with self._maybe_instrument(attributes): body`.  Without the module, and after an
`ImportError` on entering, the body runs below the `except ImportError` clause; otherwise an
`ImportError` of the body is caught there, and the second `yield` raises `RuntimeError`. -/
def maybeInstrument {σ : Type} (instrumentation : Instrumentation α) (attributes : α)
    (body : σ → Outcome × σ) (s : σ) : Outcome × σ :=
  match instrumentation with
  | .missing => body s
  | .installed onReceive =>
    match onReceive attributes with
    | .error e => if e.isInstance .importError then body s else (.error e, s)
    | .ok () =>
      match body s with
      | (.ok (), s') => (.ok (), s')
      | (.error e, s') =>
        if e.isInstance .importError then
          (.error (.new .runtimeError "generator didn't stop after throw()"), s')
        else (.error e, s')

/-- `self.nack_message(queue_message)` inside a handler, then `continue`. -/
def nackAndContinue (d : Delivery μ) (s : ConsumerState μ) : Flow × ConsumerState μ :=
  let s := s.emit (.nackMessage d.message d.nackMessage)
  match d.nackMessage with
  | .ok () => (.continueLoop, s)
  | .error e => (.raises e, s)

/-- The handlers of the `try` block around `process_message`. -/
def handleProcessOutcome (d : Delivery μ) (s : ConsumerState μ) : Flow × ConsumerState μ :=
  match d.processMessage with
  | .ok () => (.fallThrough, { s with errorCount := 0 })
  | .error e =>
    if e.isInstance .ignoreException then (.fallThrough, s)
    else if e.isInstance .loggingException then
      match e.logArguments with
      | .error e' => (.raises e', s)
      | .ok _ => nackAndContinue d s
    else if e.isInstance .retryException then nackAndContinue d s
    else
      match nackAndContinue d s with
      | (.continueLoop, s') => (.continueLoop, { s' with errorCount := s'.errorCount + 1 })
      | other => other

/-- The `try` statement around `process_message`, with its `finally` block. -/
def tryProcessMessage (cfg : ConsumerSettings) (d : Delivery μ) (s : ConsumerState μ) :
    Flow × ConsumerState μ :=
  let s := d.extensions.foldl (fun s hb => callHeartbeatHook cfg true hb s) s
  let r := handleProcessOutcome d (s.emit (.processMessage d.message d.processMessage))
  (r.1, callHeartbeatHook cfg false d.heartbeat r.2)

/-- The `try` statement around a hook: an exception nacks the message. -/
def tryHook (d : Delivery μ) (call : Outcome → Event μ) (hook : Outcome) (s : ConsumerState μ) :
    Flow × ConsumerState μ :=
  match hook with
  | .ok () => (.fallThrough, s.emit (call (.ok ())))
  | .error e => nackAndContinue d (s.emit (call (.error e)))

/-- The statements under the instrumentation wrapper. -/
def settleQueueMessage (cfg : ConsumerSettings) (d : Delivery μ) (s : ConsumerState μ) :
    Outcome × ConsumerState μ :=
  match tryHook d (.preProcessHook d.message) d.preProcessHook s with
  | (.continueLoop, s) => (.ok (), s)
  | (.raises e, s) => (.error e, s)
  | (.fallThrough, s) =>
    match tryProcessMessage cfg d s with
    | (.continueLoop, s) => (.ok (), s)
    | (.raises e, s) => (.error e, s)
    | (.fallThrough, s) =>
      match tryHook d (.postProcessHook d.message) d.postProcessHook s with
      | (.continueLoop, s) => (.ok (), s)
      | (.raises e, s) => (.error e, s)
      -- an exception of `ack_message` is logged and dropped
      | (.fallThrough, s) => (.ok (), s.emit (.ackMessage d.message d.ackMessage))

/-- The body of the `for` loop over the pulled messages.  `message_attributes` is evaluated
outside every handler. -/
def processQueueMessage (cfg : ConsumerSettings) (messageAttributes : μ → Except PyException α)
    (instrumentation : Instrumentation α) (d : Delivery μ) (s : ConsumerState μ) :
    Outcome × ConsumerState μ :=
  let s := { s with lastMessageReceivedAt := d.receivedAt }
  match messageAttributes d.message with
  | .error e => (.error e, s)
  | .ok attributes => maybeInstrument instrumentation attributes (settleQueueMessage cfg d) s

/-- One step of the `for` loop. -/
def pullStep (cfg : ConsumerSettings) (messageAttributes : μ → Except PyException α)
    (instrumentation : Instrumentation α) (step : PullStep μ) (s : ConsumerState μ) :
    Outcome × ConsumerState μ :=
  match step with
  | .yield d => processQueueMessage cfg messageAttributes instrumentation d s
  | .housekeeping now hb =>
    (.ok (), callHeartbeatHook cfg false hb (performErrorCounterInactivityReset cfg now s))
  | .raises e => (.error e, s)

/-- The `for` loop over one return value of `pull_messages`. -/
def processBatch (cfg : ConsumerSettings) (messageAttributes : μ → Except PyException α)
    (instrumentation : Instrumentation α) :
    List (PullStep μ) → ConsumerState μ → Outcome × ConsumerState μ
  | [], s => (.ok (), s)
  | step :: rest, s =>
    match pullStep cfg messageAttributes instrumentation step s with
    | (.ok (), s) => processBatch cfg messageAttributes instrumentation rest s
    | (.error e, s) => (.error e, s)

/-- `fetch_and_process_messages`: the batches are the return values of `pull_messages` until
`shutdown_event` is found set. -/
def fetchAndProcessMessages (cfg : ConsumerSettings)
    (messageAttributes : μ → Except PyException α) (instrumentation : Instrumentation α) :
    List (List (PullStep μ)) → ConsumerState μ → Outcome × ConsumerState μ
  | [], s => (.ok (), s)
  | batch :: rest, s =>
    match processBatch cfg messageAttributes instrumentation batch s with
    | (.ok (), s) => fetchAndProcessMessages cfg messageAttributes instrumentation rest s
    | (.error e, s) => (.error e, s)

end

end Hedwig
