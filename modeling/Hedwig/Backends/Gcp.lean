import Hedwig.Backends.Transport
import Hedwig.Lib.PyCall

set_option relaxedAutoImplicit false
set_option autoImplicit false

/-!
# The Google Pub/Sub backends

`hedwig.backends.gcp`: the publisher, up to the call of `PublisherClient.publish`, and
`requeue_dead_letter`, which publishes the messages of the dead-letter subscription again.

## Main definitions

* `Hedwig.publishSignature` — the parameters of `PublisherClient.publish`.
* `Hedwig.GooglePubSubPublisherBackend.publish` — `_publish`.
* `Hedwig.DeadLetter`, `Hedwig.GooglePubSubConsumerBackend.requeueDeadLetter`.

## Design

Both publisher backends make the same call of the client; they differ in waiting for its result.
What the subscriber and the publisher client do for a message is part of the input of
`requeue_dead_letter`: a `DeadLetter` is a received message with the outcome of every call made
for it.
-/

namespace Hedwig

/-- The settings that the Pub/Sub backends read. -/
structure GcpSettings where
  /-- What `get_google_cloud_project` returns. -/
  project : String
  /-- `HEDWIG_QUEUE`. -/
  queue : String
  /-- `HEDWIG_MESSAGE_ROUTING`. -/
  messageRouting : PyDict (String × String) Topic

/-- An argument of `PublisherClient.publish`. -/
inductive PublishArg
  | client
  | text (s : String)
  | bytes (b : List UInt8)
  deriving DecidableEq, Repr

/-- The parameters of `PublisherClient.publish(topic, data, ordering_key='', retry=..., timeout=...,
**attrs)`, the receiver of the method first. -/
def publishSignature : List PyCall.Param :=
  [⟨"self", .positionalOrKeyword, false⟩, ⟨"topic", .positionalOrKeyword, false⟩,
    ⟨"data", .positionalOrKeyword, false⟩, ⟨"ordering_key", .positionalOrKeyword, true⟩,
    ⟨"retry", .positionalOrKeyword, true⟩, ⟨"timeout", .positionalOrKeyword, true⟩,
    ⟨"attrs", .varKeyword, false⟩]

/-- `publisher.publish(topic_path, data=data, **attrs)`: what the client receives. -/
def callPublish (topicPath : String) (data : List UInt8) (attrs : PyDict String String) :
    Except PyException (PyCall.Bound PublishArg) :=
  match PyCall.bind publishSignature [.client, .text topicPath]
      (("data", .bytes data) :: attrs.items.map fun kv => (kv.1, .text kv.2)) with
  | some call => .ok call
  | none => .error (.new .typeError "publish() got multiple values for keyword argument")

/-- The first lines of `_publish`: text is published in UTF-8, with an attribute that says so. -/
def encodeData (payload : Payload) (attributes : PyDict String String) :
    List UInt8 × PyDict String String :=
  match payload with
  | .str s => (PyStr.encode s, attributes.set "hedwig_encoding" "utf8")
  | .bytes b => (b, attributes)

/-- `PublisherClient.topic_path(project, topic)`. -/
def topicPath (project topic : String) : String := "projects/" ++ project ++ "/topics/" ++ topic

namespace GooglePubSubPublisherBackend

variable {δ π : Type}

/-- `_get_topic_path`. -/
def getTopicPath (cfg : GcpSettings) (m : Message δ π) : Except PyException String := do
  match ← topic cfg.messageRouting m with
  | .cross topic project => return topicPath project ("hedwig-" ++ topic)
  | .name topic => return topicPath cfg.project ("hedwig-" ++ topic)

/-- `_publish`. -/
def publish (cfg : GcpSettings) (m : Message δ π) (payload : Payload)
    (attributes : PyDict String String) : Except PyException (PyCall.Bound PublishArg) := do
  let topicPath ← getTopicPath cfg m
  let (data, attributes) := encodeData payload attributes
  callPublish topicPath data attributes

end GooglePubSubPublisherBackend

/-! ## Requeueing dead letters -/

/-- A message received from the dead-letter subscription, with what the clients do for it. -/
structure DeadLetter where
  ackId : String
  data : List UInt8
  attributes : PyDict String String
  /-- How `modify_ack_deadline` ends, if it is called. -/
  modifyAckDeadline : Outcome
  /-- How `publish` ends for the arguments that it receives. -/
  publish : PyCall.Bound PublishArg → Outcome
  /-- How `future.result()` ends. -/
  result : Outcome
  /-- How `acknowledge` ends. -/
  acknowledge : Outcome

/-- How `subscriber.pull` ends. -/
inductive PullResponse
  | messages (letters : List DeadLetter)
  | deadlineExceeded
  | raises (e : PyException)

/-- A call made by `requeue_dead_letter` for a message. -/
inductive RequeueEvent
  | modifyAckDeadline (ackId : String) (seconds : ℤ)
  | publish (letter : DeadLetter) (call : Except PyException (PyCall.Bound PublishArg))
  | result (ackId : String)
  | acknowledge (ackId : String)

namespace GooglePubSubConsumerBackend

/-- The topic that dead letters are published to. -/
def requeueTopicPath (cfg : GcpSettings) : String := topicPath cfg.project ("hedwig-" ++ cfg.queue)

/-- The calls of the `try` block for one message from `publish` on, up to the first that raises. -/
def publishAgain (cfg : GcpSettings) (letter : DeadLetter) : List RequeueEvent :=
  let call := callPublish (requeueTopicPath cfg) letter.data letter.attributes
  .publish letter call ::
    match call with
    | .error _ => []
    | .ok bound =>
      if (letter.publish bound).isOk then
        .result letter.ackId :: if letter.result.isOk then [.acknowledge letter.ackId] else []
      else []

/-- The `try` block for one message, as the calls made up to the first one that raises.  The
exception is logged and dropped. -/
def requeueMessage (cfg : GcpSettings) (visibilityTimeout : Option ℤ) (letter : DeadLetter) :
    List RequeueEvent :=
  match visibilityTimeout with
  | none => publishAgain cfg letter
  | some seconds =>
    if seconds = 0 then publishAgain cfg letter
    else
      .modifyAckDeadline letter.ackId seconds ::
        if letter.modifyAckDeadline.isOk then publishAgain cfg letter else []

/-- The loop of `requeue_dead_letter`, over the responses of the subscriber: how it ends, or `none`
if it is waiting for the next response, and the calls made. -/
def requeueLoop (cfg : GcpSettings) (visibilityTimeout : Option ℤ) :
    List PullResponse → Option Outcome × List RequeueEvent
  | [] => (none, [])
  | .deadlineExceeded :: _ => (some (.ok ()), [])
  | .raises e :: _ => (some (.error e), [])
  | .messages [] :: _ => (some (.ok ()), [])
  | .messages letters :: rest =>
    let (outcome, events) := requeueLoop cfg visibilityTimeout rest
    (outcome, letters.flatMap (requeueMessage cfg visibilityTimeout) ++ events)

/-- `requeue_dead_letter`. -/
def requeueDeadLetter (cfg : GcpSettings) (subscriptionPaths : List String)
    (visibilityTimeout : Option ℤ) (responses : List PullResponse) :
    Option Outcome × List RequeueEvent :=
  if subscriptionPaths.length = 1 then requeueLoop cfg visibilityTimeout responses
  else (some (.error (.new .assertionError "multiple subscriptions found")), [])

end GooglePubSubConsumerBackend

end Hedwig
