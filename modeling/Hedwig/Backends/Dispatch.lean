import Hedwig.Backends.Aws
import Hedwig.Backends.Gcp
import Hedwig.Backends.PubSubPull
import Hedwig.Backends.Redis
import Hedwig.Callback

set_option relaxedAutoImplicit false
set_option autoImplicit false

/-!
# Publishing and dispatching

The two ways of a message to its callback: `HedwigPublisherBaseBackend.publish` serializes it and
hands it to a transport, from which a consumer gets it, or, with `HEDWIG_SYNC`, processes a mock
queue message at once.

## Main definitions

* `Hedwig.HedwigConsumerBaseBackend.messageHandler` — what `process_message` calls.
* `Hedwig.BackendPair` — a publisher backend, its transport and the consumer backend.
* `Hedwig.HedwigPublisherBaseBackend.dispatchSync`, `Hedwig.HedwigPublisherBaseBackend.publish`.
* `Hedwig.snsSqs`, `Hedwig.pubSub`, `Hedwig.redisStreams` — the three pairs.

## Design

Logging and the instrumentation span are left out; the headers that instrumentation adds are an
argument of `publish`.  `_publish` and `_mock_queue_message` take attributes as their annotation
says, as strings: `serialize` returns no others.
-/

namespace Hedwig

/-- The attributes of a payload, as `Dict[str, str]`. -/
def toStrings (attributes : Attributes) : PyDict String String :=
  .ofList (attributes.items.map fun kv => (kv.1.text, kv.2.text))

@[simp] lemma toStrings_ofStrings (d : PyDict String String) : toStrings (ofStrings d) = d := by
  rw [toStrings, items_ofStrings, List.map_map]
  exact (congrArg PyDict.ofList (List.map_id d.items)).trans (PyDict.ofList_items d)

/-! ## Handling a message -/

namespace HedwigConsumerBaseBackend

variable {δ ξ π : Type} (v : HedwigBaseValidator δ ξ) (callbacks : CallbackRegistry δ π)

/-- `_build_message`.  The callback is looked up for the error; an invalid message is logged, and
the error goes on. -/
def buildMessage (messagePayload : Payload) (attributes : PyDict String String)
    (providerMetadata : Option π) : Except PyException (Message δ π) := do
  let message ← v.deserialize messagePayload (ofStrings attributes) providerMetadata
  let _ ← message.callback callbacks
  return message

/-- `message_handler`. -/
def messageHandler (messagePayload : Payload) (attributes : PyDict String String)
    (providerMetadata : Option π) : Outcome := do
  let message ← buildMessage v callbacks messagePayload attributes providerMetadata
  message.execCallback callbacks

end HedwigConsumerBaseBackend

/-! ## Publishing -/

/-- A publisher backend, the transport that it publishes to, and the consumer backend that gets
messages from there. -/
structure BackendPair (δ : Type) where
  /-- The queue messages of the consumer. -/
  QueueMessage : Type
  /-- What the publisher calls its client with. -/
  Call : Type
  /-- The metadata of a message from the provider. -/
  ProviderMetadata : Type
  /-- `_mock_queue_message`. -/
  mockQueueMessage {ξ π : Type} (v : HedwigBaseValidator δ ξ) (m : Message δ π) :
    Except PyException QueueMessage
  /-- `_publish`, up to the call of the client. -/
  publish {π : Type} (m : Message δ π) (payload : Payload) (attributes : PyDict String String) :
    Except PyException Call
  /-- The transport delivers a queue message for the call. -/
  Delivers : Call → QueueMessage → Prop
  /-- `process_message`, with `message_handler` as a parameter. -/
  processMessage (messageHandler : Payload → PyDict String String → ProviderMetadata → Outcome)
    (queueMessage : QueueMessage) : Outcome

/-- `HEDWIG_CALLBACKS` and the hooks around them, which get the queue message. -/
structure ConsumerCode (δ : Type) (pair : BackendPair δ) where
  callbacks : CallbackRegistry δ pair.ProviderMetadata
  /-- `HEDWIG_PRE_PROCESS_HOOK`. -/
  preProcessHook : pair.QueueMessage → Outcome
  /-- `HEDWIG_POST_PROCESS_HOOK`. -/
  postProcessHook : pair.QueueMessage → Outcome

/-- The settings that `publish` reads. -/
structure PublisherSettings (δ π : Type) where
  /-- `HEDWIG_SYNC`. -/
  sync : Bool
  /-- `HEDWIG_DEFAULT_HEADERS`, empty where it returns a falsy value. -/
  defaultHeaders : Message δ π → Attributes

/-- How `publish` was done. -/
inductive Published (Call : Type)
  /-- The callback has run. -/
  | dispatched
  /-- The client was called. -/
  | handedOver (call : Call)

/-- A value that is unpacked by `**`. -/
def mapping : PyObj → Except PyException Attributes
  | .dict fields => .ok (.ofList fields)
  | _ => .error (.new .typeError "object is not a mapping")

/-- `process_message` of the consumer. -/
def BackendPair.process {δ ξ : Type} (pair : BackendPair δ) (v : HedwigBaseValidator δ ξ)
    (callbacks : CallbackRegistry δ pair.ProviderMetadata) (queueMessage : pair.QueueMessage) :
    Outcome :=
  pair.processMessage (fun payload attributes metadata =>
    HedwigConsumerBaseBackend.messageHandler v callbacks payload attributes (some metadata))
    queueMessage

namespace HedwigPublisherBaseBackend

variable {δ ξ π : Type} (v : HedwigBaseValidator δ ξ) (pair : BackendPair δ)

/-- `_dispatch_sync`. -/
def dispatchSync (code : ConsumerCode δ pair) (m : Message δ π) : Outcome := do
  let queueMessage ← pair.mockQueueMessage v m
  code.preProcessHook queueMessage
  pair.process v code.callbacks queueMessage
  code.postProcessHook queueMessage

/-- The message with the default headers, which its own override. -/
def withDefaultHeaders (defaultHeaders : Attributes) (m : Message δ π) :
    Except PyException (Message δ π) :=
  if defaultHeaders.items = [] then .ok m
  else do
    let headers ← mapping m.metadata.headers
    return m.withHeaders (ofDict (defaultHeaders.update headers))

/-- `publish`. -/
def publish (settings : PublisherSettings δ π) (instrumentationHeaders : Attributes)
    (code : ConsumerCode δ pair) (m : Message δ π) : Except PyException (Published pair.Call) :=
  if settings.sync then do
    dispatchSync v pair code m
    return .dispatched
  else do
    let message ← withDefaultHeaders (settings.defaultHeaders m) m
    let headers ← mapping message.metadata.headers
    let message := message.withHeaders (ofDict (headers.update instrumentationHeaders))
    let (payload, attributes) ← v.serialize message
    let call ← pair.publish message payload (toStrings attributes)
    return .handedOver call

end HedwigPublisherBaseBackend

/-! ## SNS and SQS -/

/-- The readings of the clock that a mock message takes, with the conversion that turns them into
times. -/
structure MockClock where
  /-- `datetime.fromtimestamp(ms / 1000, tz=timezone.utc)`. -/
  fromTimestamp : ℤ → Except PyException Time
  sentTimestamp : ℤ
  firstReceiveTimestamp : ℤ
  /-- The clock is in the range of `datetime`. -/
  inRange : ∀ ms ∈ [sentTimestamp, firstReceiveTimestamp],
    intOfString (toString ms) = .ok ms ∧ (fromTimestamp ms).isOk = true

/-- The attributes that SQS sets, with the readings of the clock.  The numbers are stored as the
text that `int` reads. -/
def MockClock.systemAttributes (clock : MockClock) : PyDict String String :=
  .ofList [("ApproximateReceiveCount", "1"), ("SentTimestamp", toString clock.sentTimestamp),
    ("ApproximateFirstReceiveTimestamp", toString clock.firstReceiveTimestamp)]

/-- `_mock_queue_message`. -/
def AWSSNSPublisherBackend.mockQueueMessage {δ ξ π : Type} (clock : MockClock)
    (v : HedwigBaseValidator δ ξ) (m : Message δ π) : Except PyException SqsMessage := do
  let (payload, attributes) ← v.serialize m
  let (payload, attributes) := encodeText payload (toStrings attributes)
  return {
    body := payload
    messageAttributes := some (attributes.mapItems id Function.injective_id stringAttribute)
    attributes := clock.systemAttributes
    receiptHandle := "test-receipt" }

/-- SNS with raw delivery to SQS.  SQS sets the attributes that the metadata are read from. -/
def snsSqs (δ : Type) (cfg : AwsSettings) (clock : MockClock) : BackendPair δ where
  QueueMessage := SqsMessage
  Call := SnsPublish
  ProviderMetadata := AWSMetadata
  mockQueueMessage v m := AWSSNSPublisherBackend.mockQueueMessage clock v m
  publish m := AWSSNSPublisherBackend.publish cfg m
  Delivers call queueMessage := RawDelivery call queueMessage ∧
    (AWSSQSConsumerBackend.metadata clock.fromTimestamp queueMessage).isOk = true
  processMessage := AWSSQSConsumerBackend.processMessage clock.fromTimestamp

/-! ## Pub/Sub -/

/-- A message of the Pub/Sub client. -/
structure SubscriberMessage where
  data : List UInt8
  attributes : PyDict String String
  ackId : String
  publishTime : Time
  deliveryAttempt : Option ℤ

/-- The metadata of a message from Pub/Sub. -/
structure GoogleMetadata where
  ackId : String
  subscriptionPath : String
  publishTime : Time
  deliveryAttempt : Option ℤ

/-- `_mock_queue_message`. -/
def GooglePubSubPublisherBackend.mockQueueMessage {δ ξ π : Type} (publishTime : Time)
    (v : HedwigBaseValidator δ ξ) (m : Message δ π) :
    Except PyException (MessageWrapper SubscriberMessage) := do
  let (payload, attributes) ← v.serialize m
  let (data, attributes) := encodeData payload (toStrings attributes)
  return ⟨⟨data, attributes, "test-receipt", publishTime, some 1⟩, "test-subscription"⟩

/-- The payload in the data of a message, by the value of the attribute `hedwig_encoding`. -/
def decodeData (encoding : Option String) (data : List UInt8) : Except PyException Payload :=
  if encoding = some "utf8" then
    match PyStr.decode? data with
    | some s => .ok (.str s)
    | none => .error (.new .unicodeDecodeError "'utf-8' codec can't decode")
  else .ok (.bytes data)

/-- `process_message`. -/
def GooglePubSubConsumerBackend.processMessage
    (messageHandler : Payload → PyDict String String → GoogleMetadata → Outcome)
    (queueMessage : MessageWrapper SubscriberMessage) : Outcome := do
  let attributes := queueMessage.message.attributes
  let messagePayload ← decodeData (attributes.get? "hedwig_encoding") queueMessage.message.data
  messageHandler messagePayload attributes
    ⟨queueMessage.message.ackId, queueMessage.subscriptionPath, queueMessage.message.publishTime,
      queueMessage.message.deliveryAttempt⟩

/-- Pub/Sub delivers the data and the attributes that the client gets.  A call that sets an option
is not published: the client is not created for ordering keys, and a text is no retry and no
timeout. -/
structure PubSubDelivery (call : PyCall.Bound PublishArg)
    (queueMessage : MessageWrapper SubscriberMessage) : Prop where
  options : ∀ name ∈ ["ordering_key", "retry", "timeout"], name ∉ call.arguments.keys
  data : call.arguments.get? "data" = some (.bytes queueMessage.message.data)
  attributes : ∀ k, (queueMessage.message.attributes.get? k).map PublishArg.text =
    call.kwargs.get? k

/-- Pub/Sub. -/
def pubSub (δ : Type) (cfg : GcpSettings) (publishTime : Time) : BackendPair δ where
  QueueMessage := MessageWrapper SubscriberMessage
  Call := PyCall.Bound PublishArg
  ProviderMetadata := GoogleMetadata
  mockQueueMessage v m := GooglePubSubPublisherBackend.mockQueueMessage publishTime v m
  publish m := GooglePubSubPublisherBackend.publish cfg m
  Delivers := PubSubDelivery
  processMessage := GooglePubSubConsumerBackend.processMessage

/-! ## Redis streams -/

/-- `d[k]`. -/
def strItem (d : PyDict String String) (k : String) : Except PyException String :=
  match d.get? k with
  | some s => .ok s
  | none => .error (.new .keyError k)

/-- `_mock_queue_message`. -/
def RedisStreamsPublisherBackend.mockQueueMessage {δ ξ π : Type}
    (messageRouting : PyDict (String × String) Topic) (v : HedwigBaseValidator δ ξ)
    (m : Message δ π) : Except PyException RedisMessage := do
  let (payload, attributes) ← v.serialize m
  let (_, encoded) := encodeText payload (toStrings attributes)
  let topic ← topic messageRouting m
  let timestamp ← strItem encoded "hedwig_message_timestamp"
  return {
    stream := PyStr.encode ("hedwig:" ++ topic.text)
    key := PyStr.encode (timestamp ++ "-0")
    payload := entryFields (redisMessage payload (toStrings attributes))
    deliveryAttempt := 1 }

/-- A Redis stream delivers the fields that were added. -/
def redisStreams (δ : Type) (messageRouting : PyDict (String × String) Topic) :
    BackendPair δ where
  QueueMessage := RedisMessage
  Call := String × PyDict String String
  ProviderMetadata := RedisMetadata
  mockQueueMessage v m := RedisStreamsPublisherBackend.mockQueueMessage messageRouting v m
  publish m := RedisStreamsPublisherBackend.publish messageRouting m
  Delivers call queueMessage := ∃ (id : String) (deliveryAttempt : ℤ),
    queueMessage = ⟨PyStr.encode call.1, PyStr.encode id, entryFields call.2, deliveryAttempt⟩
  processMessage := RedisStreamsConsumerBackend.processMessage

end Hedwig
