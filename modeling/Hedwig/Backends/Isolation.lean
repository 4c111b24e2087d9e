import Hedwig.Backends.Aws
import Hedwig.Backends.Redis
import Hedwig.Backends.Settlement

set_option relaxedAutoImplicit false
set_option autoImplicit false

/-!
# Isolation of messages

No single message should end the consumer loop.  What the loop does for a message outside every
handler is `message_attributes`, and the arguments of the log call inside the handler of
`LoggingException`; this file says that nothing else can end it, and which messages of SQS and of
Redis get `message_attributes` to raise.

## Main definitions

* `Hedwig.Isolates` — a run gets through all messages and settles each.
* `Hedwig.SqsMessage.Readable`, `Hedwig.RedisMessage.Readable` — messages whose attributes can be
  decoded.
* `Hedwig.SqsDelivery`, `Hedwig.RedisDelivery` — deliveries of the two backends.

## Main results

* `Hedwig.fetchAndProcessMessages_isolates_iff` — which runs get through, for both backends.
* `Hedwig.fetchAndProcessMessages_unreadable` — messages that end the loop.
-/

namespace Hedwig

/-! ## Runs that get through -/

section Loop

variable {μ α : Type} (cfg : ConsumerSettings) (messageAttributes : μ → Except PyException α)
  (instrumentation : Instrumentation α)

/-- The run gets through all messages: the loop returns, and every message is acked or nacked,
once, in pull order. -/
def Isolates (batches : List (List (PullStep μ))) (s : ConsumerState μ) : Prop :=
  ∃ s', fetchAndProcessMessages cfg messageAttributes instrumentation batches s = (.ok (), s') ∧
    s'.trace.filter Event.isSettlement = s.trace.filter Event.isSettlement ++
      (PullStep.deliveries batches.flatten).map Delivery.settlement

variable {cfg messageAttributes instrumentation}

/-- If the statements under the wrapper return, then the exception of `process_message`, if it is
reported, can be reported. -/
lemma reportable_of_settleQueueMessage {d : Delivery μ} {s : ConsumerState μ}
    (h : (settleQueueMessage cfg d s).1 = .ok ()) : d.Reportable := by
  intro hpre e he hignore hlogging
  by_contra hno
  cases harguments : e.logArguments with
  | ok arguments => exact hno ⟨arguments, harguments⟩
  | error e' =>
    have hhook : ∀ s : ConsumerState μ,
        (tryHook d (.preProcessHook d.message) d.preProcessHook s).1 = .fallThrough := by
      intro s
      rw [returned_iff.mp hpre]
      rfl
    have hprocess : ∀ s : ConsumerState μ, (tryProcessMessage cfg d s).1 = .raises e' := by
      intro s
      simp [tryProcessMessage, handleProcessOutcome, he, hignore, hlogging, harguments]
    rcases h₁ : tryHook d (.preProcessHook d.message) d.preProcessHook s with ⟨flow₁, s₁⟩
    rcases h₂ : tryProcessMessage cfg d s₁ with ⟨flow₂, s₂⟩
    obtain rfl : flow₁ = .fallThrough := by rw [← hhook s, h₁]
    obtain rfl : flow₂ = .raises e' := by rw [← hprocess s₁, h₂]
    simp [settleQueueMessage, h₁, h₂] at h

/-- A message that the loop gets through has attributes that are decoded, and its exception can be
reported. -/
lemma of_processQueueMessage {d : Delivery μ} {s : ConsumerState μ}
    (h : (processQueueMessage cfg messageAttributes instrumentation d s).1 = .ok ()) :
    (∃ a, messageAttributes d.message = .ok a) ∧ d.Reportable := by
  unfold processQueueMessage at h
  cases ha : messageAttributes d.message with
  | error e => simp [ha] at h
  | ok a =>
    simp only [ha] at h
    exact ⟨⟨a, rfl⟩, reportable_of_settleQueueMessage ((maybeInstrument_eq_ok h).2)⟩

/-- A batch that the loop gets through; by induction on the batch. -/
lemma of_processBatch {batch : List (PullStep μ)} {s : ConsumerState μ}
    (h : (processBatch cfg messageAttributes instrumentation batch s).1 = .ok ()) :
    ∀ d, PullStep.yield d ∈ batch → (∃ a, messageAttributes d.message = .ok a) ∧ d.Reportable := by
  induction batch generalizing s with
  | nil =>
    intro d hd
    cases hd
  | cons step rest ih =>
    intro d hd
    rcases hstep : pullStep cfg messageAttributes instrumentation step s with ⟨o, s'⟩
    simp only [processBatch, hstep] at h
    cases o with
    | error e => cases h
    | ok u =>
      rcases List.mem_cons.mp hd with rfl | hrest
      · exact of_processQueueMessage (congrArg Prod.fst hstep)
      · exact ih h d hrest

/-- A run that the loop gets through; by induction on the pulls. -/
lemma of_fetchAndProcessMessages {batches : List (List (PullStep μ))} {s : ConsumerState μ}
    (h : (fetchAndProcessMessages cfg messageAttributes instrumentation batches s).1 = .ok ()) :
    ∀ d, PullStep.yield d ∈ batches.flatten →
      (∃ a, messageAttributes d.message = .ok a) ∧ d.Reportable := by
  induction batches generalizing s with
  | nil =>
    intro d hd
    cases hd
  | cons batch rest ih =>
    intro d hd
    rcases hbatch : processBatch cfg messageAttributes instrumentation batch s with ⟨o, s'⟩
    simp only [fetchAndProcessMessages, hbatch] at h
    cases o with
    | error e => cases h
    | ok u =>
      rw [List.flatten_cons, List.mem_append] at hd
      rcases hd with hbatch' | hrest
      · exact of_processBatch (congrArg Prod.fst hbatch) d hbatch'
      · exact ih h d hrest

/-- **Which runs get through**: with a quiet instrumentation wrapper, nacks that return and pulls
that do not raise, exactly those in which every message has attributes that are decoded and every
exception that is reported can be.

**Proof sketch.**  A run that gets through all messages has returned, and the loop returns only if
no attributes are unreadable and no report raises.  Conversely every delivery is then cooperative,
and the trace of the run is made of one segment for each, which contains its settlement once. -/
lemma isolates_iff {batches : List (List (PullStep μ))} {s : ConsumerState μ}
    (hq : ∀ a, instrumentation.Quiet a) (hpull : ∀ e, PullStep.raises e ∉ batches.flatten)
    (hnack : ∀ d, PullStep.yield d ∈ batches.flatten → d.nackMessage = .ok ()) :
    Isolates cfg messageAttributes instrumentation batches s ↔
      ∀ d, PullStep.yield d ∈ batches.flatten →
        (∃ a, messageAttributes d.message = .ok a) ∧ d.Reportable := by
  constructor
  · rintro ⟨s', hrun, -⟩
    exact of_fetchAndProcessMessages (congrArg Prod.fst hrun)
  · intro h
    have hcooperative : ∀ d, PullStep.yield d ∈ batches.flatten →
        d.Cooperative messageAttributes instrumentation := by
      intro d hd
      obtain ⟨⟨a, ha⟩, hreportable⟩ := h d hd
      exact ⟨⟨a, ha, hq a⟩, hnack d hd, hreportable⟩
    obtain ⟨s', segments, hrun, htrace, hsegments⟩ :=
      fetchAndProcessMessages_segments cfg batches s hpull hcooperative
    refine ⟨s', hrun, ?_⟩
    rw [htrace, List.filter_append, filter_isSettlement_segments hsegments]

end Loop

/-! ## Messages that can be read -/

/-- The message has attributes, and each has a `StringValue`. -/
def SqsMessage.Readable (queueMessage : SqsMessage) : Prop :=
  ∃ attributes, queueMessage.messageAttributes = some attributes ∧
    ∀ kv ∈ attributes.items, kv.2.stringValue.isSome = true

/-- `message_attributes` of SQS returns exactly for such messages. -/
lemma exists_sqsMessageAttributes {queueMessage : SqsMessage} :
    (∃ a, AWSSQSConsumerBackend.messageAttributes queueMessage = .ok a) ↔
      queueMessage.Readable := by
  unfold AWSSQSConsumerBackend.messageAttributes SqsMessage.Readable
  cases queueMessage.messageAttributes with
  | none => simp
  | some attributes =>
    simp only [Option.some.injEq, exists_eq_left', PyDict.exists_traverse_eq_ok]
    refine forall_congr' fun kv => forall_congr' fun _ => ?_
    unfold AWSSQSConsumerBackend.stringValue
    cases kv.2.stringValue <;> simp

/-- All field names and values are UTF-8. -/
def RedisMessage.Readable (queueMessage : RedisMessage) : Prop :=
  ∀ kv ∈ queueMessage.payload.items,
    (PyStr.decode? kv.1).isSome = true ∧ (PyStr.decode? kv.2).isSome = true

/-- `message_attributes` of Redis returns exactly for such messages. -/
lemma exists_redisMessageAttributes {queueMessage : RedisMessage} :
    (∃ a, RedisStreamsConsumerBackend.messageAttributes queueMessage = .ok a) ↔
      queueMessage.Readable := by
  unfold RedisStreamsConsumerBackend.messageAttributes RedisMessage.Readable
  rw [PyDict.exists_traverse_eq_ok]
  refine forall_congr' fun kv => forall_congr' fun _ => ?_
  unfold decodeBytes
  cases PyStr.decode? kv.1 <;> cases PyStr.decode? kv.2 <;>
    simp [bind, Except.bind, pure, Except.pure]

/-! ## The two backends -/

/-- A delivery of the SQS backend: `process_message` with what some handler does, and its nack. -/
structure SqsDelivery (fromTimestamp : ℤ → Except PyException Time) (d : Delivery SqsMessage) :
    Prop where
  processMessage : ∃ messageHandler, d.processMessage =
    AWSSQSConsumerBackend.processMessage fromTimestamp messageHandler d.message
  nackMessage : d.nackMessage = AWSSQSConsumerBackend.nackMessage d.message

/-- A delivery of the Redis backend. -/
structure RedisDelivery (d : Delivery RedisMessage) : Prop where
  processMessage : ∃ messageHandler, d.processMessage =
    RedisStreamsConsumerBackend.processMessage messageHandler d.message
  nackMessage : d.nackMessage = RedisStreamsConsumerBackend.nackMessage d.message

/-- **Isolation of messages.**  For SQS and for Redis, with a quiet instrumentation wrapper and
pulls that do not raise: a run gets through all messages and settles each exactly if the attributes
of every message can be read and the exceptions that are reported can be, whatever the hooks and
the callbacks do.

**Proof sketch.**  `isolates_iff` for the two ways of reading attributes: those of SQS can be read
if each has a string value, and those of Redis if their bytes are UTF-8. -/
theorem fetchAndProcessMessages_isolates_iff (cfg : ConsumerSettings)
    (instrumentation : Instrumentation (PyDict String String))
    (hq : ∀ a, instrumentation.Quiet a) :
    (∀ fromTimestamp (batches : List (List (PullStep SqsMessage))) (s : ConsumerState SqsMessage),
      (∀ e, PullStep.raises e ∉ batches.flatten) →
      (∀ d, PullStep.yield d ∈ batches.flatten → SqsDelivery fromTimestamp d) →
      (Isolates cfg AWSSQSConsumerBackend.messageAttributes instrumentation batches s ↔
        ∀ d, PullStep.yield d ∈ batches.flatten → d.message.Readable ∧ d.Reportable)) ∧
    ∀ (batches : List (List (PullStep RedisMessage))) (s : ConsumerState RedisMessage),
      (∀ e, PullStep.raises e ∉ batches.flatten) →
      (∀ d, PullStep.yield d ∈ batches.flatten → RedisDelivery d) →
      (Isolates cfg RedisStreamsConsumerBackend.messageAttributes instrumentation batches s ↔
        ∀ d, PullStep.yield d ∈ batches.flatten → d.message.Readable ∧ d.Reportable) := by
  constructor
  · intro fromTimestamp batches s hpull hd
    rw [isolates_iff hq hpull fun d hy => (hd d hy).nackMessage]
    simp only [exists_sqsMessageAttributes]
  · intro batches s hpull hd
    rw [isolates_iff hq hpull fun d hy => (hd d hy).nackMessage]
    simp only [exists_redisMessageAttributes]

/-! ## Sample messages -/

/-- A delivery of an SQS message for which the hooks and the handler return. -/
def sqsDelivery (queueMessage : SqsMessage) : Delivery SqsMessage where
  message := queueMessage
  receivedAt := 0
  preProcessHook := .ok ()
  extensions := []
  processMessage := AWSSQSConsumerBackend.processMessage (fun ms => .ok (1000 * ms))
    (fun _ _ _ => .ok ()) queueMessage
  heartbeat := ⟨0, .ok ()⟩
  postProcessHook := .ok ()
  ackMessage := .ok ()
  nackMessage := AWSSQSConsumerBackend.nackMessage queueMessage

/-- A delivery of a Redis message for which the hooks and the handler return. -/
def redisDelivery (queueMessage : RedisMessage) : Delivery RedisMessage where
  message := queueMessage
  receivedAt := 0
  preProcessHook := .ok ()
  extensions := []
  processMessage := RedisStreamsConsumerBackend.processMessage (fun _ _ _ => .ok ()) queueMessage
  heartbeat := ⟨0, .ok ()⟩
  postProcessHook := .ok ()
  ackMessage := .ok ()
  nackMessage := RedisStreamsConsumerBackend.nackMessage queueMessage

/-- A containerized message without headers: SQS reports its attributes as `None`. -/
def bareSqsMessage : SqsMessage where
  body := "\x7b\x7d"
  messageAttributes := none
  attributes := .ofList [("ApproximateFirstReceiveTimestamp", "1460868253300"),
    ("SentTimestamp", "1460868253255"), ("ApproximateReceiveCount", "1")]
  receiptHandle := "receipt"

/-- A message with one attribute. -/
def sqsMessageWith (value : MessageAttribute) : SqsMessage :=
  { bareSqsMessage with messageAttributes := some ⟨[("request_id", value)], by simp⟩ }

/-- A Redis entry with one field. -/
def redisMessageWith (field value : List UInt8) : RedisMessage where
  stream := PyStr.encode "hedwig:dev-trip-created-v1"
  key := PyStr.encode "1460868253255-0"
  payload := ⟨[(field, value)], by simp⟩
  deliveryAttempt := 1

/-- A run over a single delivery, without exceptions of the processing. -/
lemma reportable_of_isOk {μ : Type} {d : Delivery μ} (h : d.processMessage.isOk = true) :
    d.Reportable := by
  intro _ e he
  rw [he] at h
  cases h

/-- The theorem at an SQS message with a string attribute and at a Redis entry with UTF-8
fields. -/
theorem fetchAndProcessMessages_isolates_iff_sample :
    Isolates sampleSettings AWSSQSConsumerBackend.messageAttributes .missing
        [[.yield (sqsDelivery (sqsMessageWith ⟨"String", some "1", none⟩))]] .init ∧
      Isolates sampleSettings RedisStreamsConsumerBackend.messageAttributes .missing
        [[.yield (redisDelivery
          (redisMessageWith (PyStr.encode "hedwig_payload") (PyStr.encode "\x7b\x7d")))]] .init := by
  obtain ⟨hsqs, hredis⟩ := fetchAndProcessMessages_isolates_iff sampleSettings .missing
    fun _ => trivial
  constructor
  · refine (hsqs (fun ms => .ok (1000 * ms)) _ _ (by simp) fun d hd => ?_).mpr fun d hd => ?_
    · obtain rfl : d = _ := by simpa using hd
      exact ⟨⟨fun _ _ _ => .ok (), rfl⟩, rfl⟩
    · obtain rfl : d = _ := by simpa using hd
      refine ⟨⟨_, rfl, fun kv hkv => ?_⟩, reportable_of_isOk (by decide +kernel)⟩
      obtain rfl := List.mem_singleton.mp hkv
      rfl
  · refine (hredis _ _ (by simp) fun d hd => ?_).mpr fun d hd => ?_
    · obtain rfl : d = _ := by simpa using hd
      exact ⟨⟨fun _ _ _ => .ok (), rfl⟩, rfl⟩
    · obtain rfl : d = _ := by simpa using hd
      refine ⟨fun kv hkv => ?_, reportable_of_isOk (by decide +kernel)⟩
      obtain rfl := List.mem_singleton.mp hkv
      simp

/-- Messages that end the loop: from SQS, one without attributes, although `process_message` allows
for it, and one with a binary attribute; from Redis, one with a byte that is not UTF-8. -/
theorem fetchAndProcessMessages_unreadable :
    (¬ Isolates sampleSettings AWSSQSConsumerBackend.messageAttributes .missing
        [[.yield (sqsDelivery bareSqsMessage)]] .init ∧
      (sqsDelivery bareSqsMessage).processMessage.isOk = true) ∧
    ¬ Isolates sampleSettings AWSSQSConsumerBackend.messageAttributes .missing
        [[.yield (sqsDelivery (sqsMessageWith ⟨"Binary", none, some [1]⟩))]] .init ∧
    ¬ Isolates sampleSettings RedisStreamsConsumerBackend.messageAttributes .missing
        [[.yield (redisDelivery (redisMessageWith [255] [255]))]] .init := by
  refine ⟨⟨fun ⟨s', hrun, _⟩ => ?_, by decide +kernel⟩, fun ⟨s', hrun, _⟩ => ?_,
    fun ⟨s', hrun, _⟩ => ?_⟩
  · obtain ⟨hread, -⟩ := of_fetchAndProcessMessages (congrArg Prod.fst hrun) _
      (List.mem_singleton_self _)
    obtain ⟨_, hnone, -⟩ := exists_sqsMessageAttributes.mp hread
    cases hnone
  · obtain ⟨hread, -⟩ := of_fetchAndProcessMessages (congrArg Prod.fst hrun) _
      (List.mem_singleton_self _)
    obtain ⟨attributes, hsome, hvalue⟩ := exists_sqsMessageAttributes.mp hread
    obtain rfl := Option.some.inj hsome
    have := hvalue _ (List.mem_singleton_self _)
    cases this
  · obtain ⟨hread, -⟩ := of_fetchAndProcessMessages (congrArg Prod.fst hrun) _
      (List.mem_singleton_self _)
    have hfield := exists_redisMessageAttributes.mp hread _ (List.mem_singleton_self _)
    revert hfield
    decide +kernel

end Hedwig
