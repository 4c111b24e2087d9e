import Hedwig.Backends.Base
import Hedwig.Backends.Transport

set_option relaxedAutoImplicit false
set_option autoImplicit false

/-!
# The AWS backends

`hedwig.backends.aws`: the publisher over SNS, the consumer of an SQS queue that is subscribed to
the topic with raw message delivery, and the consumer that a Lambda function runs over the records
of an event.

## Main definitions

* `Hedwig.AWSSNSPublisherBackend.publish` — `_publish`, up to the call of the SNS client.
* `Hedwig.SqsMessage`, `Hedwig.AWSSQSConsumerBackend.processMessage`,
  `Hedwig.AWSSQSConsumerBackend.messageAttributes`.
* `Hedwig.SnsRecord`, `Hedwig.AWSSNSConsumerBackend.processMessages`.
* `Hedwig.RawDelivery` — the SQS message that a published message becomes.

## Design

`message_handler` is a parameter of `process_message`: what it does with its arguments decides how
the call ends.  `datetime.fromtimestamp(ms / 1000, tz=timezone.utc)` computes with floats, so it is
a parameter too.
-/

namespace Hedwig

/-- The settings that the AWS backends read. -/
structure AwsSettings where
  /-- `AWS_REGION`. -/
  region : String
  /-- `AWS_ACCOUNT_ID`. -/
  accountId : String
  /-- `HEDWIG_MESSAGE_ROUTING`. -/
  messageRouting : PyDict (String × String) Topic

/-- A value of `MessageAttributes` in SNS and `message_attributes` in SQS: a dictionary with a
`DataType`, and a `StringValue` or a `BinaryValue` by that type. -/
structure MessageAttribute where
  dataType : String
  stringValue : Option String
  binaryValue : Option (List UInt8)

/-- A message received from SQS, as boto3 reports it: `message_attributes` is `None` for a message
that has none. -/
structure SqsMessage where
  body : String
  messageAttributes : Option (PyDict String MessageAttribute)
  attributes : PyDict String String
  receiptHandle : String

/-- The metadata of a message from SQS. -/
structure AWSMetadata where
  receipt : String
  firstReceiveTime : Time
  sentTime : Time
  receiveCount : ℤ

/-! ## Publishing -/

/-- The arguments of `sns_client.publish`. -/
structure SnsPublish where
  topicArn : String
  message : String
  messageAttributes : PyDict String MessageAttribute

namespace AWSSNSPublisherBackend

variable {δ π : Type}

/-- `_get_sns_topic`. -/
def getSnsTopic (cfg : AwsSettings) (m : Message δ π) : Except PyException String := do
  let arn topic accountId := "arn:aws:sns:" ++ cfg.region ++ ":" ++ accountId ++ ":hedwig-" ++ topic
  match ← topic cfg.messageRouting m with
  | .cross topic accountId => return arn topic accountId
  | .name topic => return arn topic cfg.accountId

/-- The dictionary for a string. -/
def stringAttribute (s : String) : MessageAttribute := ⟨"String", some s, none⟩

/-- `_publish_over_sns`. -/
def publishOverSns (topic messagePayload : String) (attributes : PyDict String String) :
    SnsPublish where
  topicArn := topic
  message := messagePayload
  messageAttributes := attributes.mapItems id Function.injective_id stringAttribute

/-- `_publish`. -/
def publish (cfg : AwsSettings) (m : Message δ π) (payload : Payload)
    (attributes : PyDict String String) : Except PyException SnsPublish := do
  let topic ← getSnsTopic cfg m
  let (payload, attributes) := encodeText payload attributes
  return publishOverSns topic payload attributes

end AWSSNSPublisherBackend

/-- Raw message delivery: the body of the SQS message is the published message, and its attributes
are the published ones, in any order; `None` stands for no attributes. -/
structure RawDelivery (call : SnsPublish) (queueMessage : SqsMessage) : Prop where
  body : queueMessage.body = call.message
  messageAttributes : ∀ k, (queueMessage.messageAttributes.getD .empty).get? k =
    call.messageAttributes.get? k

/-! ## Consuming from SQS -/

namespace AWSSQSConsumerBackend

/-- `o['StringValue']`. -/
def stringValue (kv : String × MessageAttribute) : Except PyException (String × String) :=
  match kv.2.stringValue with
  | some s => .ok (kv.1, s)
  | none => .error (.new .keyError "StringValue")

/-- `message_attributes`. -/
def messageAttributes (queueMessage : SqsMessage) : Except PyException (PyDict String String) :=
  match queueMessage.messageAttributes with
  | some attributes => attributes.traverse stringValue
  | none => .error (.new .attributeError "'NoneType' object has no attribute 'items'")

/-- `int(queue_message.attributes[name])`. -/
def intAttribute (queueMessage : SqsMessage) (name : String) : Except PyException ℤ :=
  match queueMessage.attributes.get? name with
  | some s => intOfString s
  | none => .error (.new .keyError name)

/-- The metadata that `process_message` builds. -/
def metadata (fromTimestamp : ℤ → Except PyException Time) (queueMessage : SqsMessage) :
    Except PyException AWSMetadata := do
  let firstReceive ← intAttribute queueMessage "ApproximateFirstReceiveTimestamp"
  let firstReceiveTime ← fromTimestamp firstReceive
  let sent ← intAttribute queueMessage "SentTimestamp"
  let sentTime ← fromTimestamp sent
  let receiveCount ← intAttribute queueMessage "ApproximateReceiveCount"
  return ⟨queueMessage.receiptHandle, firstReceiveTime, sentTime, receiveCount⟩

/-- `process_message`. -/
def processMessage (fromTimestamp : ℤ → Except PyException Time)
    (messageHandler : Payload → PyDict String String → AWSMetadata → Outcome)
    (queueMessage : SqsMessage) : Outcome := do
  let attributes ← (queueMessage.messageAttributes.getD .empty).traverse stringValue
  let messagePayload ← decodeText (attributes.get? "hedwig_encoding") queueMessage.body
  let metadata ← metadata fromTimestamp queueMessage
  messageHandler messagePayload attributes metadata

/-- `nack_message`: the visibility timeout takes care of it. -/
def nackMessage (_queueMessage : SqsMessage) : Outcome := .ok ()

end AWSSQSConsumerBackend

/-! ## Consuming a Lambda event -/

/-- A value of `MessageAttributes` in a record. -/
structure RecordAttribute where
  type : String
  value : String

/-- A record of a Lambda event for SNS: the message and the attributes under `Sns`.  A record may
hold a dictionary under `attributes` too; the records that SNS sends do not. -/
structure SnsRecord where
  attributes : Option (PyDict String String)
  message : String
  messageAttributes : PyDict String RecordAttribute

namespace AWSSNSConsumerBackend

/-- `message_attributes`. -/
def messageAttributes (record : SnsRecord) : Except PyException (PyDict String String) :=
  match record.attributes with
  | some attributes => .ok attributes
  | none => .error (.new .keyError "attributes")

/-- `decodebytes(...).decode()`, or the message as it is. -/
def messagePayload (attributes : PyDict String String) (message : String) :
    Except PyException String :=
  if attributes.get? "hedwig_encoding" = some "base64" then
    match Base64.decodebytes message with
    | none => .error (.new .binasciiError "Incorrect padding")
    | some b =>
      match PyStr.decode? b with
      | some s => .ok s
      | none => .error (.new .unicodeDecodeError "'utf-8' codec can't decode")
  else .ok message

/-- A call of `message_handler`: the payload and the attributes. -/
abbrev HandlerCall := Payload × PyDict String String

/-- What the hooks and the handler do with a record. -/
structure LambdaCode where
  /-- `HEDWIG_PRE_PROCESS_HOOK`. -/
  preProcessHook : SnsRecord → Outcome
  /-- `message_handler`. -/
  messageHandler : Payload → PyDict String String → Outcome
  /-- `HEDWIG_POST_PROCESS_HOOK`. -/
  postProcessHook : SnsRecord → Outcome

/-- `process_message`, with the calls of `message_handler` made so far. -/
def processMessage (code : LambdaCode) (record : SnsRecord) (calls : List HandlerCall) :
    Outcome × List HandlerCall :=
  match code.preProcessHook record with
  | .error e => (.error e, calls)
  | .ok () =>
    let attributes :=
      record.messageAttributes.mapItems id Function.injective_id RecordAttribute.value
    match messagePayload attributes record.message with
    | .error e => (.error e, calls)
    | .ok payload =>
      let calls := calls ++ [(.str payload, attributes)]
      match code.messageHandler (.str payload) attributes with
      | .error e => (.error e, calls)
      | .ok () => (code.postProcessHook record, calls)

/-- `process_messages`. -/
def processMessages (instrumentation : Instrumentation (PyDict String String)) (code : LambdaCode) :
    List SnsRecord → List HandlerCall → Outcome × List HandlerCall
  | [], calls => (.ok (), calls)
  | record :: rest, calls =>
    match messageAttributes record with
    | .error e => (.error e, calls)
    | .ok attributes =>
      match maybeInstrument instrumentation attributes (processMessage code record) calls with
      | (.ok (), calls) => processMessages instrumentation code rest calls
      | (.error e, calls) => (.error e, calls)

end AWSSNSConsumerBackend

end Hedwig
