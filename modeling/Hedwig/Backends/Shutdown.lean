import Hedwig.Backends.PubSubPull
import Hedwig.Backends.RedisSteps

set_option relaxedAutoImplicit false
set_option autoImplicit false

/-!
# Graceful shutdown

A shutdown event "prevents more messages from being de-queued", and the function exits after the
current messages have been processed.  The three backends that pull in a loop are instances of
`PullBackend`.  `AWSSQSConsumerBackend.pull_messages` has made its call before the loop sees a
message, and `GooglePubSubConsumerBackend.pull_messages` all of its own; but
`RedisStreamsConsumerBackend.pull_messages` claims messages of one stream after the other, and reads
new ones last, whether or not the event has been set in between.  `RedisLoop` shows that this loop
is the program of the consumers in `RedisSystem`.

## Main definitions

* `Hedwig.SqsGenerator`, `Hedwig.AWSSQSConsumerBackend.backend`.
* `Hedwig.GooglePubSubConsumerBackend.backend`.
* `Hedwig.RedisPull`, `Hedwig.RedisStreamsConsumerBackend.backend`.
* `Hedwig.ShutsDown` — every shutdown is graceful.

## Main results

* `Hedwig.fetchAndProcessMessages_shutsDown` — so it is for two backends, and for the third one
  exactly if no de-queue call is left in the current pull.
* `Hedwig.fetchAndProcessMessages_keepsPulling` — there may be some left.
-/

namespace Hedwig

/-! ## SQS -/

/-- `AWSSQSConsumerBackend.pull_messages`, and the iteration over the list that it returns. -/
inductive SqsGenerator (μ : Type)
  /-- Before `receive_messages`. -/
  | calling
  /-- In the `finally` clause. -/
  | closing (reply : Except PyException (List μ))
  | iterating (messages : List μ)
  | failed (e : PyException)

namespace SqsGenerator

variable {μ : Type}

/-- The next move. -/
def next : SqsGenerator μ → Bool → PullAnswer μ → PullMove (SqsGenerator μ) μ μ
  | .calling, _, answer =>
    .dequeue .receiveMessages (answer.reply.toOption.getD []) (.closing answer.reply)
  | .closing (.ok messages), _, answer =>
    .housekeeping answer.now answer.heartbeat (.iterating messages)
  | .closing (.error e), _, answer => .housekeeping answer.now answer.heartbeat (.failed e)
  | .iterating (message :: messages), _, _ => .yield message message (.iterating messages)
  | .iterating [], _, _ => .finish
  | .failed e, _, _ => .raises e

/-- The messages received and not yet handed out. -/
def held : SqsGenerator μ → List μ
  | .closing (.ok messages) | .iterating messages => messages
  | _ => []

/-- The de-queue calls still to be made. -/
def remaining : SqsGenerator μ → List DequeueCall
  | .calling => [.receiveMessages]
  | _ => []

end SqsGenerator

/-- The SQS backend.  Nothing arrives by itself. -/
def AWSSQSConsumerBackend.backend (μ : Type) : PullBackend (SqsGenerator μ) μ μ Empty where
  start := .calling
  next := SqsGenerator.next
  arrive b := b.elim
  arrived b := b.elim

lemma AWSSQSConsumerBackend.lawful (μ : Type) :
    (backend μ).Lawful SqsGenerator.held SqsGenerator.remaining where
  start := rfl
  next g shutdown answer := by
    match g with
    | .calling =>
      refine ⟨?_, rfl⟩
      cases h : answer.reply <;> simp [SqsGenerator.held, Except.toOption]
    | .closing (.ok messages) => exact ⟨rfl, rfl⟩
    | .closing (.error e) => exact ⟨rfl, rfl⟩
    | .iterating (message :: messages) => exact ⟨rfl, rfl⟩
    | .iterating [] => exact ⟨rfl, rfl⟩
    | .failed e => trivial
  arrive b := b.elim

/-! ## Pub/Sub -/

namespace PubSubPull

variable {σ : Type}

/-- The generator has made the final empty check, and does not look into the queue again. -/
def isDone (g : PubSubPull σ) : Bool :=
  match g.phase with
  | .closing | .closed => true
  | _ => false

/-- The messages received and not yet handed out. -/
def held (g : PubSubPull σ) : List (MessageWrapper σ) := if g.isDone then [] else g.workQueue

/-- The de-queue calls still to be made. -/
def remaining (g : PubSubPull σ) : List DequeueCall :=
  match g.phase with
  | .subscribing paths | .failed _ paths => paths.map .subscribe
  | _ => []

/-- What a call of a scheduler adds to the messages that will be handed out. -/
def scheduled (g : PubSubPull σ) (scheduler : ℕ) (message : σ) : List (MessageWrapper σ) :=
  match g.schedulers[scheduler]? with
  | some s => if g.isDone then [] else [s.schedule message]
  | none => []

end PubSubPull

/-- The Pub/Sub backend; what arrives are the calls of schedulers. -/
def GooglePubSubConsumerBackend.backend (σ : Type) (subscriptionPaths : List String) :
    PullBackend (PubSubPull σ) (MessageWrapper σ) (MessageWrapper σ) (ℕ × σ) where
  start := .start subscriptionPaths
  next := PubSubPull.next
  arrive call g := g.schedule call.1 call.2
  arrived call g := g.scheduled call.1 call.2

lemma GooglePubSubConsumerBackend.lawful (σ : Type) (subscriptionPaths : List String) :
    (backend σ subscriptionPaths).Lawful PubSubPull.held PubSubPull.remaining where
  start := by cases subscriptionPaths <;> rfl
  next g shutdown answer := by
    obtain ⟨phase, schedulers, workQueue⟩ := g
    cases phase with
    | subscribing paths =>
      cases paths with
      | nil => exact ⟨rfl, rfl⟩
      | cons path rest =>
        simp only [backend, PubSubPull.next]
        cases answer.reply <;> exact ⟨(List.append_nil _).symm, rfl⟩
    | testing => cases shutdown <;> exact ⟨rfl, rfl⟩
    | getting => cases workQueue <;> exact ⟨rfl, rfl⟩
    | idle => exact ⟨rfl, rfl⟩
    | cancelling n => cases n <;> exact ⟨rfl, rfl⟩
    | draining => cases workQueue <;> exact ⟨rfl, rfl⟩
    | closing => exact ⟨rfl, rfl⟩
    | closed => exact ⟨rfl, rfl⟩
    | failed e rest => trivial
  arrive call g := by
    obtain ⟨phase, schedulers, workQueue⟩ := g
    simp only [backend, PubSubPull.schedule, PubSubPull.scheduled]
    cases schedulers[call.1]? with
    | none => exact ⟨(List.append_nil _).symm, rfl⟩
    | some s => cases phase <;> exact ⟨rfl, rfl⟩

/-! ## Redis -/

/-- Where `RedisStreamsConsumerBackend.pull_messages` is. -/
inductive RedisPullPhase
  /-- In the `try` block. -/
  | running
  /-- In the `finally` clause, at its end or after an exception. -/
  | closing (e : Option PyException)
  | closed (e : Option PyException)

/-- The generator: where it is, the messages of the last reply still to be looked at, and the
de-queue calls still to be made. -/
structure RedisPull where
  phase : RedisPullPhase
  inspecting : List Copy
  calls : List DequeueCall

namespace RedisPull

/-- The generator before its first statement, the assertion that there is no visibility timeout. -/
def start (cfg : RedisSettings) (dlq : Bool) (visibilityTimeout : Option ℤ) : RedisPull where
  phase := if visibilityTimeout = none ∨ visibilityTimeout = some 0 then .running
    else .closed (some (.new .assertionError "Visibility timeout is not configurable"))
  inspecting := []
  calls := (cfg.streams dlq).map .xautoclaim ++ [.xreadgroup]

/-- The next move: an iteration of `_process_raw_messages` while there are messages of the last
reply, then the next claim, or the read.  The event is not looked at. -/
def next (cfg : RedisSettings) (g : RedisPull) (_shutdown : Bool) (answer : PullAnswer Copy) :
    PullMove RedisPull Copy StreamMessage :=
  match g.phase with
  | .running =>
    match g.inspecting with
    | c :: rest =>
      match answer.timesDelivered with
      | none =>
        .goOn { g with phase := .closing (some (.new .indexError "list index out of range")) }
      | some timesDelivered =>
        if timesDelivered > cfg.hedwigMaxDeliveryAttempts then
          .moveAway c { g with inspecting := rest }
        else .yield c (c.message timesDelivered) { g with inspecting := rest }
    | [] =>
      match g.calls with
      | call :: calls =>
        match answer.reply with
        | .ok copies => .dequeue call copies ⟨.running, copies, calls⟩
        | .error e => .dequeue call [] ⟨.closing (some e), [], calls⟩
      | [] => .goOn { g with phase := .closing none }
  | .closing e => .housekeeping answer.now answer.heartbeat { g with phase := .closed e }
  | .closed none => .finish
  | .closed (some e) => .raises e

/-- The generator is at its end, without an exception. -/
def isDone (g : RedisPull) : Bool :=
  match g.phase with
  | .closing none | .closed none => true
  | _ => false

/-- The messages received and not yet handed out. -/
def held (g : RedisPull) : List Copy := if g.isDone then [] else g.inspecting

/-- The de-queue calls still to be made. -/
def remaining (g : RedisPull) : List DequeueCall := if g.isDone then [] else g.calls

end RedisPull

/-- The Redis backend.  Nothing arrives by itself. -/
def RedisStreamsConsumerBackend.backend (cfg : RedisSettings) (dlq : Bool)
    (visibilityTimeout : Option ℤ) : PullBackend RedisPull Copy StreamMessage Empty where
  start := .start cfg dlq visibilityTimeout
  next := RedisPull.next cfg
  arrive b := b.elim
  arrived b := b.elim

lemma RedisStreamsConsumerBackend.lawful (cfg : RedisSettings) (dlq : Bool)
    (visibilityTimeout : Option ℤ) :
    (backend cfg dlq visibilityTimeout).Lawful RedisPull.held RedisPull.remaining where
  start := ite_self _
  next g shutdown answer := by
    obtain ⟨phase, inspecting, calls⟩ := g
    cases phase with
    | running =>
      cases inspecting with
      | cons c rest =>
        simp only [backend, RedisPull.next]
        cases answer.timesDelivered with
        | none => exact ⟨rfl, rfl⟩
        | some timesDelivered =>
          dsimp only
          split_ifs <;> exact ⟨rfl, rfl⟩
      | nil =>
        cases calls with
        | nil => exact ⟨rfl, rfl⟩
        | cons call calls =>
          simp only [backend, RedisPull.next]
          cases answer.reply <;> exact ⟨rfl, rfl⟩
    | closing e => cases e <;> exact ⟨rfl, rfl⟩
    | closed e =>
      cases e with
      | none => exact ⟨rfl, rfl⟩
      | some e => trivial
  arrive b := b.elim

/-! ## Shutdown while a message is being processed -/

section Shutdown

/-- A property of the generator holds whenever a message is being processed. -/
private def LoopPhase.WhileProcessing {γ ρ μ : Type} (P : γ → Prop) : LoopPhase γ ρ μ → Prop
  | .processing _ _ g => P g
  | _ => True

variable {γ ρ μ β α : Type} (B : PullBackend γ ρ μ β) (cfg : ConsumerSettings)
  (messageAttributes : μ → Except PyException α) (instrumentation : Instrumentation α)

/-- In every run in which the event is set while a message is being processed, the shutdown is
graceful. -/
def ShutsDown : Prop :=
  ∀ before after r m g,
    (PullLoop.run B cfg messageAttributes instrumentation before).phase = .processing r m g →
      (PullLoop.run B cfg messageAttributes instrumentation before).Graceful
        (PullLoop.run B cfg messageAttributes instrumentation (before ++ .setShutdown :: after))

variable {B cfg messageAttributes instrumentation}

/-- What holds of the generator whenever it has yielded a message, and is kept by arrivals, holds
while a message is being processed. -/
lemma of_processing {P : γ → Prop}
    (hyield : ∀ g shutdown answer r m g', B.next g shutdown answer = .yield r m g' → P g')
    (harrive : ∀ b g, P g → P (B.arrive b g)) {actions : List (LoopAction ρ μ β)} {r : ρ} {m : μ}
    {g : γ} (hs : (PullLoop.run B cfg messageAttributes instrumentation actions).phase =
      .processing r m g) : P g := by
  suffices h : (PullLoop.run B cfg messageAttributes instrumentation actions).phase.WhileProcessing
      P by
    rw [hs] at h
    exact h
  refine List.foldlRecOn (motive := fun s : PullLoop γ ρ μ => s.phase.WhileProcessing P) actions _
    trivial fun s h action _ => ?_
  obtain ⟨phase, shutdown, consumer, calls, received, settled, steps⟩ := s
  cases action with
  | setShutdown => exact h
  | arrive b =>
    cases phase with
    | processing r m g => exact harrive b g h
    | head => trivial
    | pulling g => trivial
    | returned => trivial
    | raised e => trivial
  | advance answer =>
    cases phase with
    | processing r m g => exact h
    | head => cases shutdown <;> trivial
    | pulling g =>
      simp only [PullLoop.step, PullLoop.advance]
      cases hmove : B.next g shutdown answer with
      | yield r m g' => exact hyield g shutdown answer r m g' hmove
      | dequeue call received g' => trivial
      | housekeeping now heartbeat g' => trivial
      | moveAway r g' => trivial
      | goOn g' => trivial
      | finish => trivial
      | raises e => trivial
    | returned => trivial
    | raised e => trivial
  | settle d =>
    cases phase with
    | processing r m g =>
      simp only [PullLoop.step, PullLoop.settle]
      cases (pullStep cfg messageAttributes instrumentation (.yield { d with message := m })
        consumer).1 <;> trivial
    | head => trivial
    | pulling g => trivial
    | returned => trivial
    | raised e => trivial

end Shutdown

section Backends

variable {α : Type} (cfg : ConsumerSettings)

/-- The SQS backend has made its call when there is a message. -/
lemma AWSSQSConsumerBackend.shutsDown {μ : Type} (messageAttributes : μ → Except PyException α)
    (instrumentation : Instrumentation α) :
    ShutsDown (backend μ) cfg messageAttributes instrumentation := by
  intro before after r m g hs
  refine PullLoop.graceful_of_remaining_eq_nil (lawful μ) cfg messageAttributes instrumentation
    before after hs ?_
  refine of_processing (P := fun g => SqsGenerator.remaining g = []) ?_ (fun b => b.elim) hs
  intro g shutdown answer r m g' hmove
  change SqsGenerator.next g shutdown answer = .yield r m g' at hmove
  match g, hmove with
  | .iterating (_ :: _), rfl => rfl

/-- The Pub/Sub backend has subscribed to everything when there is a message. -/
lemma GooglePubSubConsumerBackend.shutsDown {σ : Type} (subscriptionPaths : List String)
    (messageAttributes : MessageWrapper σ → Except PyException α)
    (instrumentation : Instrumentation α) :
    ShutsDown (backend σ subscriptionPaths) cfg messageAttributes instrumentation := by
  intro before after r m g hs
  refine PullLoop.graceful_of_remaining_eq_nil (lawful σ subscriptionPaths) cfg messageAttributes
    instrumentation before after hs ?_
  refine of_processing (P := fun g => PubSubPull.remaining g = []) ?_ ?_ hs
  · intro g shutdown answer r m g' hmove
    change PubSubPull.next g shutdown answer = .yield r m g' at hmove
    obtain ⟨phase, schedulers, workQueue⟩ := g
    cases phase with
    | getting =>
      cases workQueue <;> cases hmove
      rfl
    | draining =>
      cases workQueue <;> cases hmove
      rfl
    | subscribing paths =>
      cases paths with
      | nil => cases hmove
      | cons path rest =>
        simp only [PubSubPull.next] at hmove
        cases hreply : answer.reply <;> simp [hreply] at hmove
    | testing => cases shutdown <;> cases hmove
    | cancelling n => cases n <;> cases hmove
    | idle => cases hmove
    | closing => cases hmove
    | closed => cases hmove
    | failed e rest => cases hmove
  · intro call g hg
    rwa [((lawful σ subscriptionPaths).arrive call g).2]

end Backends

/-- **Graceful shutdown.**  The SQS and the Pub/Sub backend always shut down gracefully.  The Redis
backend does so if no de-queue call is left in the current pull when the event is set while a
message is being processed; and if the function returns, then only in that case.

**Proof sketch.**  When a message has been yielded, the generators of SQS and Pub/Sub have made all
their de-queue calls, and arrivals add none.  That of Redis has some calls left, which
`PullLoop.run_shutdown` shows to be made all the same, so the shutdown is graceful exactly if there
are none. -/
theorem fetchAndProcessMessages_shutsDown {μ σ α : Type} (cfg : ConsumerSettings)
    (instrumentation : Instrumentation α) :
    (∀ messageAttributes : μ → Except PyException α,
      ShutsDown (AWSSQSConsumerBackend.backend μ) cfg messageAttributes instrumentation) ∧
    (∀ (messageAttributes : MessageWrapper σ → Except PyException α)
        (subscriptionPaths : List String),
      ShutsDown (GooglePubSubConsumerBackend.backend σ subscriptionPaths) cfg messageAttributes
        instrumentation) ∧
    ∀ (settings : RedisSettings) (dlq : Bool) (visibilityTimeout : Option ℤ),
      let run := PullLoop.run
        (RedisStreamsConsumerBackend.backend settings dlq visibilityTimeout) settings.consumer
        streamAttributes settings.instrumentation
      ∀ before after r m g, (run before).phase = .processing r m g →
        (RedisPull.remaining g = [] →
          (run before).Graceful (run (before ++ .setShutdown :: after))) ∧
        ((run (before ++ .setShutdown :: after)).phase = .returned →
          (run before).Graceful (run (before ++ .setShutdown :: after)) →
            RedisPull.remaining g = []) := by
  refine ⟨fun messageAttributes => ?_, fun messageAttributes subscriptionPaths => ?_, ?_⟩
  · exact AWSSQSConsumerBackend.shutsDown cfg messageAttributes instrumentation
  · exact GooglePubSubConsumerBackend.shutsDown cfg subscriptionPaths messageAttributes
      instrumentation
  · intro settings dlq visibilityTimeout run before after r m g hs
    have hlawful := RedisStreamsConsumerBackend.lawful settings dlq visibilityTimeout
    exact ⟨PullLoop.graceful_of_remaining_eq_nil hlawful _ _ _ before after hs,
      PullLoop.remaining_eq_nil_of_graceful hlawful _ _ _ before after hs⟩

/-! ## Sample runs -/

/-- The loop goes on; the answers are these messages, and that the next one is delivered for the
first time. -/
def sampleAdvance (reply : List Copy) : LoopAction Copy StreamMessage Empty :=
  .advance ⟨.ok reply, some 1, 0, ⟨0, .ok ()⟩⟩

/-- The only entry of a stream. -/
def sampleCopy : Copy :=
  ⟨⟨0, ⟨samplePayload, ("hedwig:" ++ "order-placed", 0)⟩, 1⟩, "hedwig:" ++ "order-placed"⟩

/-- The runs of a consumer of two streams. -/
def sampleLoopRun (actions : List (LoopAction Copy StreamMessage Empty)) :
    PullLoop RedisPull Copy StreamMessage :=
  PullLoop.run (RedisStreamsConsumerBackend.backend sampleRedisSettings false none) sampleSettings
    streamAttributes .missing actions

/-- The message is processed, and the loop goes on until it returns. -/
def sampleFinish : List (LoopAction Copy StreamMessage Empty) :=
  .settle acceptedStreamDelivery :: List.replicate 6 (sampleAdvance [])

/-- The theorem at a run in which the message was read: nothing is left to be called. -/
theorem fetchAndProcessMessages_shutsDown_sample :
    let before := [sampleAdvance [], sampleAdvance [], sampleAdvance [], sampleAdvance [sampleCopy],
      sampleAdvance []]
    (sampleLoopRun before).Graceful (sampleLoopRun (before ++ .setShutdown :: sampleFinish)) ∧
      (sampleLoopRun (before ++ .setShutdown :: sampleFinish)).calls.length = 3 :=
  ⟨((fetchAndProcessMessages_shutsDown (μ := ℕ) (σ := ℕ) sampleSettings
      (.missing : Instrumentation Unit)).2.2 sampleRedisSettings false none _ sampleFinish
      sampleCopy _ _ rfl).1 rfl, by decide +kernel⟩

/-- The message of the run was claimed from the first stream.  The event is set while it is being
processed; the consumer then claims from the second stream, reads both, and returns. -/
theorem fetchAndProcessMessages_keepsPulling :
    ¬ ShutsDown (RedisStreamsConsumerBackend.backend sampleRedisSettings false none) sampleSettings
        streamAttributes .missing ∧
      let before := [sampleAdvance [], sampleAdvance [sampleCopy], sampleAdvance []]
      let s' := sampleLoopRun (before ++ .setShutdown :: sampleFinish)
      s'.phase = .returned ∧ (sampleLoopRun before).calls.length = 1 ∧ s'.calls.length = 3 := by
  have hcalls : (sampleLoopRun ([sampleAdvance [], sampleAdvance [sampleCopy], sampleAdvance []] ++
      .setShutdown :: sampleFinish)).calls.length = 3 := by decide +kernel
  refine ⟨fun h => ?_, rfl, by decide +kernel, hcalls⟩
  have hgraceful := (h [sampleAdvance [], sampleAdvance [sampleCopy], sampleAdvance []] sampleFinish
    sampleCopy _ _ rfl).1
  rw [sampleLoopRun, hgraceful] at hcalls
  exact absurd hcalls (by decide +kernel)

end Hedwig
