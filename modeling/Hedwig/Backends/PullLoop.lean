import Hedwig.Backends.Heartbeat

set_option relaxedAutoImplicit false
set_option autoImplicit false

/-!
# The consumer loop over a generator

`fetch_and_process_messages` step by step, over a `pull_messages` that is resumed between messages,
with a `shutdown_event` that can be set at any moment.  A backend says what its `pull_messages` does
next (`PullBackend`), and one step of the loop is one such move, the body of the `for` loop for one
message, or something that happens elsewhere: a message arrives, or the event is set.

The accounts of a backend (`PullBackend.Lawful`) are two functions of the state of its generator:
the messages that it has received and not yet handed out, and the de-queue calls that it still has
to make.  From them follows what happens after the event is set.

## Main definitions

* `Hedwig.PullMove`, `Hedwig.PullBackend`, `Hedwig.PullBackend.Lawful` — backends.
* `Hedwig.PullLoop`, `Hedwig.PullLoop.step`, `Hedwig.PullLoop.run` — the loop.
* `Hedwig.PullLoop.Graceful` — an orderly shutdown.

## Main results

* `Hedwig.PullLoop.run_steps` — the loop is `fetchAndProcessMessages` over what it has seen of
  `pull_messages`.
* `Hedwig.PullLoop.accounted_run` — every message received was settled or is still in hand.
* `Hedwig.PullLoop.run_shutdown` — the calls made after the event was set are those that the
  generator still had to make, and the loop returns with every message settled.
-/

namespace Hedwig

/-! ## Backends -/

/-- A call to the broker that de-queues messages. -/
inductive DequeueCall
  | receiveMessages
  | subscribe (subscriptionPath : String)
  | xautoclaim (stream : String)
  | xreadgroup
  deriving DecidableEq, Repr

/-- What the calls that `pull_messages` makes in a step answer. -/
structure PullAnswer (ρ : Type) where
  /-- The messages that a de-queue call returns, or its exception. -/
  reply : Except PyException (List ρ)
  /-- The delivery counter that `xpending_range` reports, if the entry is pending. -/
  timesDelivered : Option ℕ
  /-- The clock reading and the heartbeat call of the housekeeping. -/
  now : Time
  heartbeat : HeartbeatCall

/-- What `pull_messages` does next: `ρ` are messages as the broker hands them out, `μ` queue
messages. -/
inductive PullMove (γ ρ μ : Type)
  /-- A de-queue call, with the messages that it returns. -/
  | dequeue (call : DequeueCall) (received : List ρ) (next : γ)
  /-- The reset of the error counter and the heartbeat. -/
  | housekeeping (now : Time) (heartbeat : HeartbeatCall) (next : γ)
  /-- A message is moved to the dead-letter queue. -/
  | moveAway (r : ρ) (next : γ)
  | yield (r : ρ) (m : μ) (next : γ)
  /-- Any other statement. -/
  | goOn (next : γ)
  | finish
  | raises (e : PyException)

/-- A backend: the state of its generator at the call of `pull_messages`, what the generator does
next in a state, given whether the event is set, and what it receives on its own. -/
structure PullBackend (γ ρ μ β : Type) where
  start : γ
  next : γ → Bool → PullAnswer ρ → PullMove γ ρ μ
  arrive : β → γ → γ
  /-- The messages that an arrival adds to those that the generator is going to hand out. -/
  arrived : β → γ → List ρ

section Accounts

variable {γ ρ μ β : Type}

/-- A move keeps the accounts: `held` are the messages received and not yet handed out, and
`remaining` the de-queue calls still to be made. -/
def PullMove.Accounts (held : γ → List ρ) (remaining : γ → List DequeueCall) (g : γ) :
    PullMove γ ρ μ → Prop
  | .dequeue call received g' => held g' = held g ++ received ∧ remaining g = call :: remaining g'
  | .moveAway r g' | .yield r _ g' => held g = r :: held g' ∧ remaining g' = remaining g
  | .housekeeping _ _ g' | .goOn g' => held g' = held g ∧ remaining g' = remaining g
  | .finish => held g = [] ∧ remaining g = []
  | .raises _ => True

/-- The accounts of a backend. -/
structure PullBackend.Lawful (B : PullBackend γ ρ μ β) (held : γ → List ρ)
    (remaining : γ → List DequeueCall) : Prop where
  start : held B.start = []
  next : ∀ g shutdown answer, (B.next g shutdown answer).Accounts held remaining g
  arrive : ∀ b g, held (B.arrive b g) = held g ++ B.arrived b g ∧
    remaining (B.arrive b g) = remaining g

end Accounts

/-! ## The loop -/

/-- Where `fetch_and_process_messages` is. -/
inductive LoopPhase (γ ρ μ : Type)
  /-- At the test of the `while` loop. -/
  | head
  /-- In `pull_messages`. -/
  | pulling (g : γ)
  /-- In the body of the `for` loop. -/
  | processing (r : ρ) (m : μ) (g : γ)
  | returned
  | raised (e : PyException)

/-- The state of the loop, and what has happened so far. -/
structure PullLoop (γ ρ μ : Type) where
  phase : LoopPhase γ ρ μ
  /-- `shutdown_event` is set. -/
  shutdown : Bool
  consumer : ConsumerState μ
  /-- The de-queue calls made. -/
  calls : List DequeueCall
  /-- The messages received. -/
  received : List ρ
  /-- The messages settled: acked, nacked, or moved to the dead-letter queue. -/
  settled : List ρ
  /-- What the `for` loop has seen of `pull_messages`. -/
  steps : List (PullStep μ)

/-- What can happen next: the loop goes on, outside or inside the body of the `for` loop, a message
arrives, or the event is set. -/
inductive LoopAction (ρ μ β : Type)
  | advance (answer : PullAnswer ρ)
  | settle (d : Delivery μ)
  | arrive (b : β)
  | setShutdown

namespace PullLoop

variable {γ ρ μ β α : Type}

/-- The loop has just been called. -/
def init : PullLoop γ ρ μ := ⟨.head, false, .init, [], [], [], []⟩

variable (B : PullBackend γ ρ μ β) (cfg : ConsumerSettings)
  (messageAttributes : μ → Except PyException α) (instrumentation : Instrumentation α)

/-- A move of `pull_messages`. -/
def move (s : PullLoop γ ρ μ) : PullMove γ ρ μ → PullLoop γ ρ μ
  | .dequeue call received g =>
    { s with phase := .pulling g, calls := s.calls ++ [call], received := s.received ++ received }
  | .housekeeping now heartbeat g =>
    { s with
      phase := .pulling g
      consumer := (pullStep cfg messageAttributes instrumentation (.housekeeping now heartbeat)
        s.consumer).2
      steps := s.steps ++ [.housekeeping now heartbeat] }
  | .moveAway r g => { s with phase := .pulling g, settled := s.settled ++ [r] }
  | .yield r m g => { s with phase := .processing r m g }
  | .goOn g => { s with phase := .pulling g }
  | .finish => { s with phase := .head }
  | .raises e => { s with phase := .raised e, steps := s.steps ++ [.raises e] }

/-- The test of the `while` loop, or the next move of `pull_messages`. -/
def advance (answer : PullAnswer ρ) (s : PullLoop γ ρ μ) : PullLoop γ ρ μ :=
  match s.phase with
  | .head =>
    if s.shutdown then { s with phase := .returned } else { s with phase := .pulling B.start }
  | .pulling g => s.move cfg messageAttributes instrumentation (B.next g s.shutdown answer)
  | _ => s

/-- The body of the `for` loop for the message that was yielded last.  It is settled if there was an
attempt to ack or to nack it. -/
def settle (d : Delivery μ) (s : PullLoop γ ρ μ) : PullLoop γ ρ μ :=
  match s.phase with
  | .processing r m g =>
    let d := { d with message := m }
    let result := pullStep cfg messageAttributes instrumentation (.yield d) s.consumer
    let attempts := (result.2.trace.drop s.consumer.trace.length).filter Event.isSettlement
    { s with
      phase := match result.1 with
        | .ok () => .pulling g
        | .error e => .raised e
      consumer := result.2
      settled := if attempts.isEmpty then s.settled else s.settled ++ [r]
      steps := s.steps ++ [.yield d] }
  | _ => s

/-- Something arrives for the generator. -/
def arrive (b : β) (s : PullLoop γ ρ μ) : PullLoop γ ρ μ :=
  match s.phase with
  | .pulling g =>
    { s with phase := .pulling (B.arrive b g), received := s.received ++ B.arrived b g }
  | .processing r m g =>
    { s with phase := .processing r m (B.arrive b g), received := s.received ++ B.arrived b g }
  | _ => s

/-- One action. -/
def step (s : PullLoop γ ρ μ) : LoopAction ρ μ β → PullLoop γ ρ μ
  | .advance answer => s.advance B cfg messageAttributes instrumentation answer
  | .settle d => s.settle cfg messageAttributes instrumentation d
  | .arrive b => s.arrive B b
  | .setShutdown => { s with shutdown := true }

/-- A run from the call on. -/
def run (actions : List (LoopAction ρ μ β)) : PullLoop γ ρ μ :=
  actions.foldl (step B cfg messageAttributes instrumentation) init

/-- An orderly shutdown: from a state to a later one, no de-queue call was made, and if the loop has
returned, then every message that had been received is settled. -/
def Graceful (s s' : PullLoop γ ρ μ) : Prop :=
  s'.calls = s.calls ∧ (s'.phase = .returned → s.received <+: s'.settled)

end PullLoop

/-! ## A body that returns has settled its message -/

section Attempts

variable {μ α : Type} (cfg : ConsumerSettings) (d : Delivery μ) (s : ConsumerState μ)

/-- Going from one state to the next made calls, and if `returned`, one of them was an attempt to
settle a message. -/
def Attempts (s s' : ConsumerState μ) (returned : Prop) : Prop :=
  ∃ segment, s'.trace = s.trace ++ segment ∧ (returned → segment.filter Event.isSettlement ≠ [])

variable {s} {s' s'' : ConsumerState μ} {p q : Prop}

lemma Attempts.of_trace_eq (h : s'.trace = s.trace) (hp : ¬ p) : Attempts s s' p :=
  ⟨[], by simp [h], fun h => absurd h hp⟩

lemma Attempts.trans (h : Attempts s s' p) (h' : Attempts s' s'' q) : Attempts s s'' (p ∨ q) := by
  obtain ⟨segment, ht, hp⟩ := h
  obtain ⟨segment', ht', hq⟩ := h'
  refine ⟨segment ++ segment', by rw [ht', ht, List.append_assoc], ?_⟩
  rw [List.filter_append, Ne, List.append_eq_nil_iff, not_and_or]
  exact Or.imp hp hq

lemma Attempts.mono (h : Attempts s s' p) (hqp : q → p) : Attempts s s' q := by
  obtain ⟨segment, ht, hp⟩ := h
  exact ⟨segment, ht, hp ∘ hqp⟩

/-- Recording an event. -/
lemma attempts_emit (s : ConsumerState μ) (e : Event μ) :
    Attempts s (s.emit e) (e.isSettlement = true) :=
  ⟨[e], rfl, fun he => by simp [he]⟩

variable (s)

lemma callHeartbeatHook_attempts (force : Bool) (hb : HeartbeatCall) :
    Attempts s (callHeartbeatHook cfg force hb s) False := by
  unfold callHeartbeatHook
  split_ifs
  · exact ⟨[.heartbeatHook hb.now s.errorCount hb.hook], rfl, False.elim⟩
  · exact .of_trace_eq rfl not_false

lemma foldl_callHeartbeatHook_attempts (hbs : List HeartbeatCall) :
    Attempts s (hbs.foldl (fun s hb => callHeartbeatHook cfg true hb s) s) False := by
  induction hbs generalizing s with
  | nil => exact .of_trace_eq rfl not_false
  | cons hb hbs ih => exact ((callHeartbeatHook_attempts cfg s true hb).trans (ih _)).mono .inl

lemma nackAndContinue_attempts : Attempts s (nackAndContinue d s).2 True := by
  rw [nackAndContinue_snd]
  exact (attempts_emit s _).mono fun _ => rfl

/-- A hook that makes the loop continue has led to a nack. -/
lemma tryHook_attempts (call : Outcome → Event μ) (hook : Outcome) :
    Attempts s (tryHook d call hook s).2 ((tryHook d call hook s).1 = .continueLoop) := by
  cases hook with
  | ok u => exact (attempts_emit s (call (.ok ()))).mono fun h => by cases h
  | error e =>
    exact ((attempts_emit s _).trans (nackAndContinue_attempts d (s.emit (call (.error e))))).mono
      fun _ => .inr trivial

/-- A processing attempt that makes the loop continue has led to a nack. -/
lemma handleProcessOutcome_attempts : Attempts s (handleProcessOutcome d s).2
    ((handleProcessOutcome d s).1 = .continueLoop) := by
  have hnack := nackAndContinue_attempts d s
  unfold handleProcessOutcome
  cases d.processMessage with
  | ok u => exact .of_trace_eq rfl (by simp)
  | error e =>
    dsimp only
    cases e.isInstance .ignoreException with
    | true => exact .of_trace_eq rfl (by simp)
    | false =>
      cases e.isInstance .loggingException with
      | true =>
        cases e.logArguments with
        | error e' => exact .of_trace_eq rfl (by simp)
        | ok arguments => exact hnack.mono fun _ => trivial
      | false =>
        cases e.isInstance .retryException with
        | true => exact hnack.mono fun _ => trivial
        | false =>
          rcases hr : nackAndContinue d s with ⟨flow, s'⟩
          rw [hr] at hnack
          obtain ⟨segment, ht, hsegment⟩ := hnack
          cases flow <;> exact ⟨segment, ht, fun _ => hsegment trivial⟩

lemma tryProcessMessage_attempts : Attempts s (tryProcessMessage cfg d s).2
    ((tryProcessMessage cfg d s).1 = .continueLoop) := by
  unfold tryProcessMessage
  set s₁ := d.extensions.foldl (fun s hb => callHeartbeatHook cfg true hb s) s with hs₁
  have h₁ : Attempts s s₁ False := foldl_callHeartbeatHook_attempts cfg s _
  have h₂ := attempts_emit s₁ (.processMessage d.message d.processMessage)
  have h₃ := handleProcessOutcome_attempts d
    (s₁.emit (.processMessage d.message d.processMessage))
  exact (((h₁.trans h₂).trans h₃).trans (callHeartbeatHook_attempts cfg _ false d.heartbeat)).mono
    fun h => .inl (.inr h)

lemma settleQueueMessage_attempts : Attempts s (settleQueueMessage cfg d s).2
    ((settleQueueMessage cfg d s).1 = .ok ()) := by
  unfold settleQueueMessage
  have h₁ := tryHook_attempts d s (.preProcessHook d.message) d.preProcessHook
  rcases hr₁ : tryHook d (.preProcessHook d.message) d.preProcessHook s with ⟨flow₁, s₁⟩
  rw [hr₁] at h₁
  cases flow₁ with
  | continueLoop => exact h₁.mono fun _ => rfl
  | raises e => exact h₁.mono fun h => by cases h
  | fallThrough =>
    have h₂ := h₁.trans (tryProcessMessage_attempts cfg d s₁)
    rcases hr₂ : tryProcessMessage cfg d s₁ with ⟨flow₂, s₂⟩
    rw [hr₂] at h₂
    simp only [hr₂]
    cases flow₂ with
    | continueLoop => exact h₂.mono fun _ => .inr rfl
    | raises e => exact h₂.mono fun h => by cases h
    | fallThrough =>
      have h₃ := h₂.trans (tryHook_attempts d s₂ (.postProcessHook d.message) d.postProcessHook)
      rcases hr₃ : tryHook d (.postProcessHook d.message) d.postProcessHook s₂ with ⟨flow₃, s₃⟩
      rw [hr₃] at h₃
      simp only [hr₃]
      cases flow₃ with
      | continueLoop => exact h₃.mono fun _ => .inr rfl
      | raises e => exact h₃.mono fun h => by cases h
      | fallThrough =>
        exact (h₃.trans (attempts_emit s₃ (.ackMessage d.message d.ackMessage))).mono
          fun _ => .inr rfl

/-- **The body of the `for` loop**: if it returns, then there was an attempt to ack or to nack the
message. -/
lemma pullStep_yield_attempts (messageAttributes : μ → Except PyException α)
    (instrumentation : Instrumentation α)
    (h : (pullStep cfg messageAttributes instrumentation (.yield d) s).1 = .ok ()) :
    ((pullStep cfg messageAttributes instrumentation (.yield d) s).2.trace.drop
      s.trace.length).filter Event.isSettlement ≠ [] := by
  set s₁ : ConsumerState μ := { s with lastMessageReceivedAt := d.receivedAt } with hs₁
  simp only [pullStep, processQueueMessage, ← hs₁] at h ⊢
  cases ha : messageAttributes d.message with
  | error e => simp [ha] at h
  | ok attributes =>
    simp only [ha] at h ⊢
    have hbody := maybeInstrument_eq_ok h
    obtain ⟨segment, ht, hsegment⟩ := settleQueueMessage_attempts cfg d s₁
    rw [hbody.1, ht]
    simpa [hs₁] using hsegment hbody.2

end Attempts

namespace PullLoop

variable {γ ρ μ β α : Type}

/-! ## The loop as `fetchAndProcessMessages` -/

section Steps

variable (B : PullBackend γ ρ μ β) (cfg : ConsumerSettings)
  (messageAttributes : μ → Except PyException α) (instrumentation : Instrumentation α)

/-- How the loop has ended, as far as it has. -/
def outcome (s : PullLoop γ ρ μ) : Outcome :=
  match s.phase with
  | .raised e => .error e
  | _ => .ok ()

/-- The `for` loop over what it has seen so far is in the state of the consumer. -/
def Replays (s : PullLoop γ ρ μ) : Prop :=
  processBatch cfg messageAttributes instrumentation s.steps .init = (s.outcome, s.consumer)

variable {cfg messageAttributes instrumentation}

/-- One more step of the `for` loop. -/
lemma processBatch_concat {steps : List (PullStep μ)} {c : ConsumerState μ} (step : PullStep μ)
    (h : processBatch cfg messageAttributes instrumentation steps .init = (.ok (), c)) :
    processBatch cfg messageAttributes instrumentation (steps ++ [step]) .init =
      pullStep cfg messageAttributes instrumentation step c := by
  rw [processBatch_append, h]
  simp only [processBatch]
  rcases pullStep cfg messageAttributes instrumentation step c with ⟨o, c'⟩
  cases o <;> rfl

lemma Replays.move {s : PullLoop γ ρ μ}
    (h : processBatch cfg messageAttributes instrumentation s.steps .init = (.ok (), s.consumer))
    (m : PullMove γ ρ μ) :
    (s.move cfg messageAttributes instrumentation m).Replays cfg messageAttributes
      instrumentation := by
  cases m with
  | housekeeping now heartbeat g => exact processBatch_concat _ h
  | raises e => exact processBatch_concat _ h
  | dequeue call received g => exact h
  | moveAway r g => exact h
  | yield r m g => exact h
  | goOn g => exact h
  | finish => exact h

lemma Replays.step {s : PullLoop γ ρ μ} (h : s.Replays cfg messageAttributes instrumentation)
    (action : LoopAction ρ μ β) : (s.step B cfg messageAttributes instrumentation action).Replays
      cfg messageAttributes instrumentation := by
  obtain ⟨phase, shutdown, consumer, calls, received, settled, steps⟩ := s
  cases action with
  | setShutdown => exact h
  | arrive b => cases phase <;> exact h
  | advance answer =>
    cases phase with
    | head => cases shutdown <;> exact h
    | pulling g => exact Replays.move h _
    | processing r m g => exact h
    | returned => exact h
    | raised e => exact h
  | settle d =>
    cases phase with
    | processing r m g =>
      have hstep := processBatch_concat (.yield { d with message := m }) h
      simp only [Replays, PullLoop.step, settle, outcome]
      rw [hstep]
      rcases pullStep cfg messageAttributes instrumentation (.yield { d with message := m })
        consumer with ⟨o, c⟩
      cases o <;> rfl
    | head => exact h
    | pulling g => exact h
    | returned => exact h
    | raised e => exact h

variable (cfg messageAttributes instrumentation)

/-- **The loop over a generator** is `fetchAndProcessMessages` over the steps that it has seen of
`pull_messages`, at any moment of any run.

**Proof sketch.**  Induction on the actions: every action that the loop notices adds one step at the
end, and `processBatch` over the longer list is one more `pullStep`. -/
lemma run_steps (actions : List (LoopAction ρ μ β)) :
    let s := run B cfg messageAttributes instrumentation actions
    fetchAndProcessMessages cfg messageAttributes instrumentation [s.steps] .init =
      (s.outcome, s.consumer) := by
  intro s
  have h : s.Replays cfg messageAttributes instrumentation :=
    List.foldlRecOn actions _ rfl fun s hs action _ => hs.step B action
  rw [fetchAndProcessMessages_eq_processBatch, List.flatten_singleton]
  exact h

/-! ## What is never taken back -/

/-- What was called, received and settled stays so. -/
structure Extends (s s' : PullLoop γ ρ μ) : Prop where
  calls : s.calls <+: s'.calls
  received : s.received <+: s'.received
  settled : s.settled <+: s'.settled

lemma Extends.of_eq {s s' : PullLoop γ ρ μ} (hc : s'.calls = s.calls)
    (hr : s'.received = s.received) (hs : s'.settled = s.settled) : s.Extends s' := by
  refine ⟨?_, ?_, ?_⟩
  · rw [hc]
  · rw [hr]
  · rw [hs]

/-- One step takes nothing back. -/
lemma extends_step (s : PullLoop γ ρ μ) (action : LoopAction ρ μ β) :
    s.Extends (s.step B cfg messageAttributes instrumentation action) := by
  obtain ⟨phase, shutdown, consumer, calls, received, settled, steps⟩ := s
  cases action with
  | setShutdown => exact .of_eq rfl rfl rfl
  | arrive b =>
    cases phase with
    | pulling g => exact ⟨List.prefix_refl _, List.prefix_append _ _, List.prefix_refl _⟩
    | processing r m g => exact ⟨List.prefix_refl _, List.prefix_append _ _, List.prefix_refl _⟩
    | head => exact .of_eq rfl rfl rfl
    | returned => exact .of_eq rfl rfl rfl
    | raised e => exact .of_eq rfl rfl rfl
  | advance answer =>
    cases phase with
    | head => cases shutdown <;> exact .of_eq rfl rfl rfl
    | pulling g =>
      simp only [step, advance]
      cases B.next g shutdown answer with
      | dequeue call received g' =>
        exact ⟨List.prefix_append _ _, List.prefix_append _ _, List.prefix_refl _⟩
      | moveAway r g' => exact ⟨List.prefix_refl _, List.prefix_refl _, List.prefix_append _ _⟩
      | yield r m g' => exact .of_eq rfl rfl rfl
      | housekeeping now heartbeat g' => exact .of_eq rfl rfl rfl
      | goOn g' => exact .of_eq rfl rfl rfl
      | finish => exact .of_eq rfl rfl rfl
      | raises e => exact .of_eq rfl rfl rfl
    | processing r m g => exact .of_eq rfl rfl rfl
    | returned => exact .of_eq rfl rfl rfl
    | raised e => exact .of_eq rfl rfl rfl
  | settle d =>
    cases phase with
    | processing r m g =>
      refine ⟨List.prefix_refl _, List.prefix_refl _, ?_⟩
      simp only [step, settle]
      split_ifs
      · exact List.prefix_refl _
      · exact List.prefix_append _ _
    | head => exact .of_eq rfl rfl rfl
    | pulling g => exact .of_eq rfl rfl rfl
    | returned => exact .of_eq rfl rfl rfl
    | raised e => exact .of_eq rfl rfl rfl

end Steps

/-! ## Accounts -/

section Lawful

variable {B : PullBackend γ ρ μ β} {held : γ → List ρ} {remaining : γ → List DequeueCall}
  (hB : B.Lawful held remaining) (cfg : ConsumerSettings)
  (messageAttributes : μ → Except PyException α) (instrumentation : Instrumentation α)

variable (held) in
/-- Every message received was settled, in the order in which it was received, or is still in hand:
it is the one in the body of the `for` loop, or the generator has it.  After an exception, the
messages in hand are given up. -/
def Accounted (s : PullLoop γ ρ μ) : Prop :=
  ∃ rest, s.received = s.settled ++ rest ∧
    match s.phase with
    | .head | .returned => rest = []
    | .pulling g => rest = held g
    | .processing r _ g => rest = r :: held g
    | .raised _ => True

variable (remaining) in
/-- The de-queue calls that the current pull still has to make. -/
def remainingCalls (s : PullLoop γ ρ μ) : List DequeueCall :=
  match s.phase with
  | .pulling g | .processing _ _ g => remaining g
  | _ => []

variable (remaining) in
/-- The calls made so far are the first ones of `total`, and the current pull has the others still
to make, unless it has raised. -/
def Planned (total : List DequeueCall) (s : PullLoop γ ρ μ) : Prop :=
  s.calls <+: total ∧ (s.outcome = .ok () → s.calls ++ s.remainingCalls remaining = total)

variable {cfg messageAttributes instrumentation}

lemma Accounted.move {s : PullLoop γ ρ μ} {g : γ} (hs : s.received = s.settled ++ held g)
    {m : PullMove γ ρ μ} (hm : m.Accounts held remaining g) :
    (s.move cfg messageAttributes instrumentation m).Accounted held := by
  cases m with
  | dequeue call received g' =>
    refine ⟨held g', ?_, rfl⟩
    change s.received ++ received = s.settled ++ held g'
    rw [hs, hm.1, List.append_assoc]
  | moveAway r g' =>
    refine ⟨held g', ?_, rfl⟩
    change s.received = (s.settled ++ [r]) ++ held g'
    rw [hs, hm.1, List.append_assoc, List.singleton_append]
  | yield r m g' => exact ⟨r :: held g', hm.1 ▸ hs, rfl⟩
  | housekeeping now heartbeat g' => exact ⟨held g', hm.1 ▸ hs, rfl⟩
  | goOn g' => exact ⟨held g', hm.1 ▸ hs, rfl⟩
  | finish => exact ⟨[], hm.1 ▸ hs, rfl⟩
  | raises e => exact ⟨held g, hs, trivial⟩

include hB in
/-- **One step** keeps the accounts.

**Proof sketch.**  A move of the generator keeps the accounts by the laws of the backend.  Arrivals
are added to what was received and to what is in hand.  The body of the `for` loop settles the
message in hand if it made an attempt, which it did if it returned. -/
lemma Accounted.step {s : PullLoop γ ρ μ} (hs : s.Accounted held) (action : LoopAction ρ μ β) :
    (s.step B cfg messageAttributes instrumentation action).Accounted held := by
  obtain ⟨phase, shutdown, consumer, calls, received, settled, steps⟩ := s
  obtain ⟨rest, hreceived, hphase⟩ := hs
  change received = settled ++ rest at hreceived
  cases action with
  | setShutdown => exact ⟨rest, hreceived, hphase⟩
  | arrive b =>
    cases phase with
    | pulling g =>
      obtain rfl : rest = held g := hphase
      refine ⟨held (B.arrive b g), ?_, rfl⟩
      change received ++ B.arrived b g = settled ++ held (B.arrive b g)
      rw [(hB.arrive b g).1, ← List.append_assoc, ← hreceived]
    | processing r m g =>
      obtain rfl : rest = r :: held g := hphase
      refine ⟨r :: held (B.arrive b g), ?_, rfl⟩
      change received ++ B.arrived b g = settled ++ r :: held (B.arrive b g)
      rw [(hB.arrive b g).1, ← List.cons_append, ← List.append_assoc, ← hreceived]
    | head => exact ⟨rest, hreceived, hphase⟩
    | returned => exact ⟨rest, hreceived, hphase⟩
    | raised e => exact ⟨rest, hreceived, hphase⟩
  | advance answer =>
    cases phase with
    | head =>
      obtain rfl : rest = [] := hphase
      cases shutdown with
      | true => exact ⟨[], hreceived, rfl⟩
      | false => exact ⟨[], hreceived, hB.start.symm⟩
    | pulling g => exact Accounted.move (hphase ▸ hreceived) (hB.next g shutdown answer)
    | processing r m g => exact ⟨rest, hreceived, hphase⟩
    | returned => exact ⟨rest, hreceived, hphase⟩
    | raised e => exact ⟨rest, hreceived, hphase⟩
  | settle d =>
    cases phase with
    | processing r m g =>
      obtain rfl : rest = r :: held g := hphase
      have hattempts := pullStep_yield_attempts cfg { d with message := m } consumer
        messageAttributes instrumentation
      simp only [PullLoop.step, settle]
      rcases hr : pullStep cfg messageAttributes instrumentation (.yield { d with message := m })
        consumer with ⟨o, c⟩
      rw [hr] at hattempts
      cases o with
      | ok u =>
        have hne := hattempts rfl
        refine ⟨held g, ?_, rfl⟩
        simp only [List.isEmpty_iff, if_neg hne]
        rw [hreceived, List.append_assoc, List.singleton_append]
      | error e =>
        dsimp only
        split_ifs
        · exact ⟨_, hreceived, trivial⟩
        · refine ⟨held g, ?_, trivial⟩
          rw [hreceived, List.append_assoc, List.singleton_append]
    | head => exact ⟨rest, hreceived, hphase⟩
    | pulling g => exact ⟨rest, hreceived, hphase⟩
    | returned => exact ⟨rest, hreceived, hphase⟩
    | raised e => exact ⟨rest, hreceived, hphase⟩

include hB in
/-- In every state of every run, each message received was settled or is still in hand. -/
lemma accounted_run (actions : List (LoopAction ρ μ β)) :
    (run B cfg messageAttributes instrumentation actions).Accounted held :=
  List.foldlRecOn actions _ ⟨[], rfl, rfl⟩ fun _ hs action _ => hs.step hB action

/-! ## After the event is set -/

/-- **A move of `pull_messages`** makes the next of the calls that are left, or none. -/
lemma Planned.move {s : PullLoop γ ρ μ} {g : γ} {total : List DequeueCall}
    (hs : s.calls ++ remaining g = total) {m : PullMove γ ρ μ} (hm : m.Accounts held remaining g) :
    (s.move cfg messageAttributes instrumentation m).Planned remaining total := by
  have hcalls : s.calls <+: total := hs ▸ List.prefix_append _ _
  cases m with
  | dequeue call received g' =>
    have htotal : s.calls ++ [call] ++ remaining g' = total := by
      rw [List.append_assoc, List.singleton_append, ← hm.2, hs]
    exact ⟨htotal ▸ List.prefix_append _ _, fun _ => htotal⟩
  | moveAway r g' => exact ⟨hcalls, fun _ => (congrArg (s.calls ++ ·) hm.2).trans hs⟩
  | yield r m g' => exact ⟨hcalls, fun _ => (congrArg (s.calls ++ ·) hm.2).trans hs⟩
  | housekeeping now heartbeat g' =>
    exact ⟨hcalls, fun _ => (congrArg (s.calls ++ ·) hm.2).trans hs⟩
  | goOn g' => exact ⟨hcalls, fun _ => (congrArg (s.calls ++ ·) hm.2).trans hs⟩
  | finish => exact ⟨hcalls, fun _ => (congrArg (s.calls ++ ·) hm.2).symm.trans hs⟩
  | raises e => exact ⟨hcalls, fun h => by cases h⟩

include hB in
/-- **One step after the event was set** starts no other pull.

**Proof sketch.**  A de-queue call goes over from the calls that are left to those that were made,
and no other move changes either.  At the test of the `while` loop the event is set, so the loop
returns. -/
lemma Planned.step {s : PullLoop γ ρ μ} {total : List DequeueCall}
    (hs : s.Planned remaining total) (hshutdown : s.shutdown = true)
    (action : LoopAction ρ μ β) :
    let s' := s.step B cfg messageAttributes instrumentation action
    s'.Planned remaining total ∧ s'.shutdown = true := by
  obtain ⟨phase, shutdown, consumer, calls, received, settled, steps⟩ := s
  obtain rfl : shutdown = true := hshutdown
  obtain ⟨hcalls, htotal⟩ := hs
  cases action with
  | setShutdown => exact ⟨⟨hcalls, htotal⟩, rfl⟩
  | arrive b =>
    cases phase with
    | pulling g =>
      exact ⟨⟨hcalls, fun _ => (congrArg (calls ++ ·) (hB.arrive b g).2).trans (htotal rfl)⟩, rfl⟩
    | processing r m g =>
      exact ⟨⟨hcalls, fun _ => (congrArg (calls ++ ·) (hB.arrive b g).2).trans (htotal rfl)⟩, rfl⟩
    | head => exact ⟨⟨hcalls, htotal⟩, rfl⟩
    | returned => exact ⟨⟨hcalls, htotal⟩, rfl⟩
    | raised e => exact ⟨⟨hcalls, htotal⟩, rfl⟩
  | advance answer =>
    cases phase with
    | head => exact ⟨⟨hcalls, htotal⟩, rfl⟩
    | pulling g =>
      have hnext := hB.next g true answer
      refine ⟨Planned.move (htotal rfl) hnext, ?_⟩
      simp only [PullLoop.step, advance]
      cases B.next g true answer <;> rfl
    | processing r m g => exact ⟨⟨hcalls, htotal⟩, rfl⟩
    | returned => exact ⟨⟨hcalls, htotal⟩, rfl⟩
    | raised e => exact ⟨⟨hcalls, htotal⟩, rfl⟩
  | settle d =>
    cases phase with
    | processing r m g =>
      refine ⟨⟨hcalls, ?_⟩, rfl⟩
      simp only [PullLoop.step, settle, outcome, remainingCalls]
      cases (pullStep cfg messageAttributes instrumentation (.yield { d with message := m })
        consumer).1 with
      | ok u => exact fun _ => htotal rfl
      | error e => exact fun h => by cases h
    | head => exact ⟨⟨hcalls, htotal⟩, rfl⟩
    | pulling g => exact ⟨⟨hcalls, htotal⟩, rfl⟩
    | returned => exact ⟨⟨hcalls, htotal⟩, rfl⟩
    | raised e => exact ⟨⟨hcalls, htotal⟩, rfl⟩

variable (cfg messageAttributes instrumentation)

include hB in
/-- **Shutdown.**  If the event is set while a message is being processed, then the de-queue calls
made afterwards are the first ones of those that the generator still has to make; and when the loop
has returned, they are all of them, and every message received is settled.

**Proof sketch.**  By induction on the actions after the event was set: the calls that are left
become calls made one by one, and the test of the `while` loop starts no other pull.  A loop that
has returned has no message in hand. -/
lemma run_shutdown (before after : List (LoopAction ρ μ β)) {r : ρ} {m : μ} {g : γ}
    (hs : (run B cfg messageAttributes instrumentation before).phase = .processing r m g) :
    let s := run B cfg messageAttributes instrumentation before
    let s' := run B cfg messageAttributes instrumentation (before ++ .setShutdown :: after)
    (∃ issued, issued <+: remaining g ∧ s'.calls = s.calls ++ issued) ∧
      (s'.phase = .returned → s'.calls = s.calls ++ remaining g ∧ s'.settled = s'.received ∧
        s.received <+: s'.settled) := by
  intro s s'
  have hrun : s' = after.foldl (step B cfg messageAttributes instrumentation)
      { s with shutdown := true } := by
    simp only [s', s, run, List.foldl_append, List.foldl_cons]
    rfl
  have hplanned : s'.Planned remaining (s.calls ++ remaining g) ∧ s'.shutdown = true := by
    have hstart : remaining g = ({ s with shutdown := true } : PullLoop γ ρ μ).remainingCalls
        remaining := by
      simp only [remainingCalls]
      rw [show s.phase = .processing r m g from hs]
    rw [hrun]
    refine List.foldlRecOn (motive := fun t : PullLoop γ ρ μ =>
      t.Planned remaining (s.calls ++ remaining g) ∧ t.shutdown = true) after _
      ⟨⟨List.prefix_append _ _, fun _ => ?_⟩, rfl⟩ fun t ht action _ => ht.1.step hB ht.2 action
    rw [hstart]
  have hextends : s.Extends s' := by
    rw [hrun]
    refine List.foldlRecOn (motive := fun t : PullLoop γ ρ μ => s.Extends t) after _
      (.of_eq rfl rfl rfl) fun t ht action _ => ?_
    have hstep := extends_step B cfg messageAttributes instrumentation t action
    exact ⟨ht.calls.trans hstep.calls, ht.received.trans hstep.received,
      ht.settled.trans hstep.settled⟩
  obtain ⟨⟨hcalls, htotal⟩, -⟩ := hplanned
  constructor
  · obtain ⟨issued, hissued⟩ := hextends.calls
    refine ⟨issued, ?_, hissued.symm⟩
    rwa [← hissued, List.prefix_append_right_inj] at hcalls
  · intro hreturned
    have hreceived : s'.settled = s'.received := by
      obtain ⟨rest, hreceived, hrest⟩ : s'.Accounted held := accounted_run hB _
      rw [hreturned] at hrest
      obtain rfl : rest = [] := hrest
      exact (hreceived.trans (List.append_nil _)).symm
    refine ⟨?_, hreceived, hreceived ▸ hextends.received⟩
    have houtcome : s'.outcome = .ok () := by simp [outcome, hreturned]
    have hremaining : s'.remainingCalls remaining = [] := by simp [remainingCalls, hreturned]
    simpa [hremaining] using htotal houtcome

include hB in
/-- A generator that has no de-queue call left lets the loop shut down gracefully. -/
lemma graceful_of_remaining_eq_nil (before after : List (LoopAction ρ μ β)) {r : ρ} {m : μ} {g : γ}
    (hs : (run B cfg messageAttributes instrumentation before).phase = .processing r m g)
    (hg : remaining g = []) :
    (run B cfg messageAttributes instrumentation before).Graceful
      (run B cfg messageAttributes instrumentation (before ++ .setShutdown :: after)) := by
  obtain ⟨⟨issued, hissued, hcalls⟩, hreturned⟩ :=
    run_shutdown hB cfg messageAttributes instrumentation before after hs
  rw [hg, List.prefix_nil] at hissued
  rw [hissued, List.append_nil] at hcalls
  exact ⟨hcalls, fun h => (hreturned h).2.2⟩

include hB in
/-- If the loop returns, then a graceful shutdown needs such a generator. -/
lemma remaining_eq_nil_of_graceful (before after : List (LoopAction ρ μ β)) {r : ρ} {m : μ} {g : γ}
    (hs : (run B cfg messageAttributes instrumentation before).phase = .processing r m g)
    (hreturned : (run B cfg messageAttributes instrumentation
      (before ++ .setShutdown :: after)).phase = .returned)
    (hgraceful : (run B cfg messageAttributes instrumentation before).Graceful
      (run B cfg messageAttributes instrumentation (before ++ .setShutdown :: after))) :
    remaining g = [] := by
  have hcalls := ((run_shutdown hB cfg messageAttributes instrumentation before after hs).2
    hreturned).1
  rw [hgraceful.1] at hcalls
  exact List.self_eq_append_right.mp hcalls

end Lawful

end PullLoop

end Hedwig
