import Hedwig.Backends.RedisStreams
import Hedwig.Backends.Settlement

set_option relaxedAutoImplicit false
set_option autoImplicit false

/-!
# The transitions of the Redis system

What an action does, as a relation with one constructor for each branch of the code and what the
branch has tested.  Later files follow the transitions, not the steps.

## Main definitions

* `Hedwig.RedisSystem.Transition` — what an action does to the system.

## Main results

* `Hedwig.RedisSystem.transition_step` — every step is a transition.
-/

namespace Hedwig

namespace RedisSystem

/-- The loop goes on with the other tasks, or has ended with an exception. -/
def SettledTo (rest : List PullTask) (phase : ConsumerPhase) : Prop :=
  phase = .pulling rest ∨ ∃ e, phase = .raised e

/-- What an action does, by the phase of the process that acts. -/
inductive Transition (cfg : RedisSettings) (s : RedisSystem) : RedisAction → RedisSystem → Prop
  /-- The process is in another phase. -/
  | stay (a : RedisAction) : Transition cfg s a s
  | publish (topic : String) (payload : PyDict (List UInt8) (List UInt8)) :
      Transition cfg s (.publish topic payload) (s.publish topic payload)
  | pullMessages {p : ℕ} {dlq : Bool} {n : ℕ} {loop : ConsumerState StreamMessage}
      (hp : s.processes p = .consumer ⟨dlq, n, loop, .idle⟩) :
      Transition cfg s (.pullMessages p) (s.setProcess p (.consumer ⟨dlq, n, loop,
        .pulling ((cfg.streams dlq).map .xautoclaim ++ [.xreadgroup])⟩))
  | xautoclaim {p : ℕ} {idle : ℕ → Bool} {dlq : Bool} {n : ℕ} {loop : ConsumerState StreamMessage}
      {k : String} {rest : List PullTask}
      (hp : s.processes p = .consumer ⟨dlq, n, loop, .pulling (.xautoclaim k :: rest)⟩) :
      Transition cfg s (.xautoclaim p idle) ((s.xautoclaim p k idle n).2.deliver p
        (copies k (s.xautoclaim p k idle n).1) (.consumer ⟨dlq, n, loop,
          .pulling ((copies k (s.xautoclaim p k idle n).1).map .inspect ++ rest)⟩))
  | xreadgroup {p : ℕ} {dlq : Bool} {n : ℕ} {loop : ConsumerState StreamMessage}
      {rest : List PullTask} {received : List Copy}
      (hp : s.processes p = .consumer ⟨dlq, n, loop, .pulling (.xreadgroup :: rest)⟩)
      (hreceived : received = (s.xreadgroup p (cfg.readStreams dlq).keys n).1.flatMap fun reply =>
        copies reply.1 reply.2) :
      Transition cfg s (.xreadgroup p) ((s.xreadgroup p (cfg.readStreams dlq).keys n).2.deliver p
        received (.consumer ⟨dlq, n, loop, .pulling (received.map .inspect ++ rest)⟩))
  /-- The entry is not pending. -/
  | fail {p : ℕ} {dlq : Bool} {n : ℕ} {loop : ConsumerState StreamMessage} {c : Copy}
      {rest : List PullTask}
      (hp : s.processes p = .consumer ⟨dlq, n, loop, .pulling (.inspect c :: rest)⟩)
      (hpending : (s.streams c.stream).pending c.key = none) :
      Transition cfg s (.xpending p) (s.setProcess p (.consumer ⟨dlq, n, loop,
        .raising (.new .indexError "list index out of range")⟩))
  /-- The counter of the entry is too high. -/
  | condemn {p : ℕ} {dlq : Bool} {n : ℕ} {loop : ConsumerState StreamMessage} {c : Copy}
      {rest : List PullTask}
      (hp : s.processes p = .consumer ⟨dlq, n, loop, .pulling (.inspect c :: rest)⟩)
      (hpending : ((s.streams c.stream).pending c.key).isSome = true)
      (hcounter : cfg.hedwigMaxDeliveryAttempts < (s.streams c.stream).deliveries c.key) :
      Transition cfg s (.xpending p) (s.setProcess p (.consumer ⟨dlq, n, loop,
        .deadLettering c rest⟩))
  | yield {p : ℕ} {dlq : Bool} {n : ℕ} {loop : ConsumerState StreamMessage} {c : Copy}
      {timesDelivered : ℕ} {rest : List PullTask}
      (hp : s.processes p = .consumer ⟨dlq, n, loop, .pulling (.inspect c :: rest)⟩)
      (hcounter : (s.streams c.stream).deliveries c.key = timesDelivered)
      (hle : timesDelivered ≤ cfg.hedwigMaxDeliveryAttempts) :
      Transition cfg s (.xpending p)
        ((s.record [.yielded p c.ticket (c.message timesDelivered)]).setProcess p
          (.consumer ⟨dlq, n, loop, .processing c timesDelivered rest⟩))
  | deadLetter {p : ℕ} {dlq : Bool} {n : ℕ} {loop : ConsumerState StreamMessage} {c : Copy}
      {rest : List PullTask}
      (hp : s.processes p = .consumer ⟨dlq, n, loop, .deadLettering c rest⟩) :
      Transition cfg s (.deadLetter p)
        (((s.transfer cfg.deadletterStream c.stream [c.toRawMessage]).record
          [.deadLettered p c ((s.streams c.stream).deliveries c.key)]).setProcess p
          (.consumer ⟨dlq, n, loop, .pulling rest⟩))
  /-- The message is not acknowledged. -/
  | settle {p : ℕ} {d : Delivery StreamMessage} {dlq : Bool} {n : ℕ}
      {loop loop' : ConsumerState StreamMessage} {c : Copy} {timesDelivered : ℕ}
      {rest : List PullTask} {phase : ConsumerPhase}
      (hp : s.processes p = .consumer ⟨dlq, n, loop, .processing c timesDelivered rest⟩)
      (hphase : SettledTo rest phase) :
      Transition cfg s (.settle p d) (s.setProcess p (.consumer ⟨dlq, n, loop', phase⟩))
  /-- It is acknowledged, and was accepted. -/
  | ack {p : ℕ} {d d' : Delivery StreamMessage} {dlq : Bool} {n : ℕ}
      {loop loop' : ConsumerState StreamMessage} {c : Copy} {timesDelivered : ℕ}
      {rest : List PullTask} {phase : ConsumerPhase}
      (hp : s.processes p = .consumer ⟨dlq, n, loop, .processing c timesDelivered rest⟩)
      (hphase : SettledTo rest phase) (hmessage : d'.message = c.message timesDelivered)
      (haccepted : d'.accepted = true) :
      Transition cfg s (.settle p d) (((s.setProcess p
        (.consumer ⟨dlq, n, loop', phase⟩)).ackMessage d'.message).record [.acked p d'])
  | finishPull {p : ℕ} {now : Time} {heartbeat : HeartbeatCall} {dlq : Bool} {n : ℕ}
      {loop loop' : ConsumerState StreamMessage}
      (hp : s.processes p = .consumer ⟨dlq, n, loop, .pulling []⟩) :
      Transition cfg s (.finishPull p now heartbeat)
        (s.setProcess p (.consumer ⟨dlq, n, loop', .idle⟩))
  | finishRaising {p : ℕ} {now : Time} {heartbeat : HeartbeatCall} {dlq : Bool} {n : ℕ}
      {loop loop' : ConsumerState StreamMessage} {e : PyException}
      (hp : s.processes p = .consumer ⟨dlq, n, loop, .raising e⟩) :
      Transition cfg s (.finishPull p now heartbeat)
        (s.setProcess p (.consumer ⟨dlq, n, loop', .raised e⟩))
  | extendVisibilityTimeout (p : ℕ) (k : String) (id : ℕ) :
      Transition cfg s (.extendVisibilityTimeout p k id) (s.modifyStream k (·.xclaimJustid p id))
  | requeueClaim {p n : ℕ} (hp : s.processes p = .requeue n (.fetching .claim)) :
      Transition cfg s (.requeueFetch p)
        ((s.xautoclaim p cfg.deadletterStream (fun _ => true) n).2.deliver p
          (copies cfg.deadletterStream (s.xautoclaim p cfg.deadletterStream (fun _ => true) n).1)
          (.requeue n (RequeueLoop.claim.next
            (s.xautoclaim p cfg.deadletterStream (fun _ => true) n).1)))
  | requeueRead {p n : ℕ} {messages : List RawMessage}
      (hp : s.processes p = .requeue n (.fetching .read))
      (hmessages : messages =
        (s.xreadgroup p [cfg.deadletterStream] n).1.flatMap Prod.snd) :
      Transition cfg s (.requeueFetch p) ((s.xreadgroup p [cfg.deadletterStream] n).2.deliver p
        (copies cfg.deadletterStream messages) (.requeue n (RequeueLoop.read.next messages)))
  | requeueMessages {p n : ℕ} {messages : List RawMessage} {loop : RequeueLoop}
      (hp : s.processes p = .requeue n (.moving messages loop)) :
      Transition cfg s (.requeueMessages p)
        ((s.transfer cfg.mainStream cfg.deadletterStream messages).setProcess p
          (.requeue n (.fetching loop)))
  | crashConsumer {p : ℕ} {c : RedisConsumer} (hp : s.processes p = .consumer c) :
      Transition cfg s (.crash p) (s.setProcess p (.consumer { c with phase := .crashed }))
  | crashRequeue {p n : ℕ} {phase : RequeuePhase} (hp : s.processes p = .requeue n phase) :
      Transition cfg s (.crash p) (s.setProcess p (.requeue n .crashed))

section

variable {cfg : RedisSettings} {s : RedisSystem} {p : ℕ}

lemma transition_stepPullMessages :
    Transition cfg s (.pullMessages p) (s.stepPullMessages cfg p) := by
  unfold stepPullMessages
  split
  · rename_i dlq n loop hp
    exact .pullMessages hp
  · exact .stay _

lemma transition_stepXautoclaim {idle : ℕ → Bool} :
    Transition cfg s (.xautoclaim p idle) (s.stepXautoclaim p idle) := by
  unfold stepXautoclaim
  split
  · rename_i dlq n loop k rest hp
    exact .xautoclaim hp
  · exact .stay _

lemma transition_stepXreadgroup :
    Transition cfg s (.xreadgroup p) (s.stepXreadgroup cfg p) := by
  unfold stepXreadgroup
  split
  · rename_i dlq n loop rest hp
    exact .xreadgroup hp rfl
  · exact .stay _

/-- The counter of a pending entry decides between the two ways to go on. -/
lemma transition_stepXpending : Transition cfg s (.xpending p) (s.stepXpending cfg p) := by
  unfold stepXpending
  split
  · rename_i dlq n loop c rest hp
    cases ht : (s.streams c.stream).timesDelivered? c.key with
    | none => exact .fail hp (GroupStream.timesDelivered?_eq_none_iff.mp ht)
    | some timesDelivered =>
      have hcounter := GroupStream.timesDelivered?_eq_some ht
      by_cases hgt : timesDelivered > cfg.hedwigMaxDeliveryAttempts
      · simp only [if_pos hgt]
        exact .condemn hp (GroupStream.isSome_pending_of_timesDelivered? ht) (hcounter ▸ hgt)
      · simp only [if_neg hgt]
        exact .yield hp hcounter (Nat.le_of_not_lt hgt)
  · exact .stay _

lemma transition_stepDeadLetter :
    Transition cfg s (.deadLetter p) (s.stepDeadLetter cfg p) := by
  unfold stepDeadLetter
  split
  · rename_i dlq n loop c rest hp
    exact .deadLetter hp
  · exact .stay _

/-- The message is acknowledged only if it is accepted. -/
lemma transition_stepSettle {d : Delivery StreamMessage} :
    Transition cfg s (.settle p d) (s.stepSettle cfg p d) := by
  unfold stepSettle
  split
  · rename_i dlq n loop c timesDelivered rest hp
    extract_lets m d' r phase s'
    have hnack : d'.nackMessage = .ok () := rfl
    obtain ⟨segment, htrace, hacks⟩ : ∃ segment, r.2.trace = loop.trace ++ segment ∧
        ((∃ m o, Event.ackMessage m o ∈ segment) → d'.accepted = true) :=
      processQueueMessage_acks cfg.consumer hnack
    have hphase : SettledTo rest phase := by
      cases hr : r.1 with
      | ok u => exact .inl (by simp only [phase, hr])
      | error e => exact .inr ⟨e, by simp only [phase, hr]⟩
    by_cases hack : ackReturned (r.2.trace.drop loop.trace.length) = true
    · rw [if_pos hack]
      refine .ack hp hphase rfl (hacks ?_)
      rw [htrace, List.drop_left] at hack
      obtain ⟨e, he, hreturned⟩ := List.any_eq_true.mp hack
      cases e with
      | ackMessage m o => exact ⟨m, o, he⟩
      | _ => cases hreturned
    · rw [if_neg hack]
      exact .settle hp hphase
  · exact .stay _

lemma transition_stepFinishPull {now : Time} {heartbeat : HeartbeatCall} :
    Transition cfg s (.finishPull p now heartbeat) (s.stepFinishPull cfg p now heartbeat) := by
  unfold stepFinishPull
  extract_lets housekeeping
  split
  · rename_i dlq n loop hp
    exact .finishPull hp
  · rename_i dlq n loop e hp
    exact .finishRaising hp
  · exact .stay _

lemma transition_stepRequeueFetch :
    Transition cfg s (.requeueFetch p) (s.stepRequeueFetch cfg p) := by
  unfold stepRequeueFetch
  split
  · rename_i n hp
    exact .requeueClaim hp
  · rename_i n hp
    exact .requeueRead hp rfl
  · exact .stay _

lemma transition_stepRequeueMessages :
    Transition cfg s (.requeueMessages p) (s.stepRequeueMessages cfg p) := by
  unfold stepRequeueMessages
  split
  · rename_i n messages loop hp
    exact .requeueMessages hp
  · exact .stay _

lemma transition_stepCrash : Transition cfg s (.crash p) (s.stepCrash p) := by
  unfold stepCrash
  split
  · rename_i c hp
    exact .crashConsumer hp
  · rename_i n phase hp
    exact .crashRequeue hp

end

/-- **Every step is a transition.** -/
lemma transition_step (cfg : RedisSettings) (s : RedisSystem) (a : RedisAction) :
    Transition cfg s a (step cfg s a) := by
  cases a with
  | publish topic payload => exact .publish topic payload
  | pullMessages p => exact transition_stepPullMessages
  | xautoclaim p idle => exact transition_stepXautoclaim
  | xreadgroup p => exact transition_stepXreadgroup
  | xpending p => exact transition_stepXpending
  | deadLetter p => exact transition_stepDeadLetter
  | settle p d => exact transition_stepSettle
  | finishPull p now heartbeat => exact transition_stepFinishPull
  | extendVisibilityTimeout p k id =>
    show Transition cfg s _ (s.stepExtendVisibilityTimeout p k id)
    unfold stepExtendVisibilityTimeout
    split
    · exact .extendVisibilityTimeout p k id
    · exact .stay _
  | requeueFetch p => exact transition_stepRequeueFetch
  | requeueMessages p => exact transition_stepRequeueMessages
  | crash p => exact transition_stepCrash

end RedisSystem

end Hedwig
