import Hedwig.Backends.Transport

set_option relaxedAutoImplicit false
set_option autoImplicit false

/-!
# Messages in Redis streams

`hedwig.backends.redis`, one message at a time: what the publisher writes into a stream entry, and
what the consumer makes of an entry.

## Main definitions

* `Hedwig.RedisStreamsPublisherBackend.publish` — `_publish`, up to the call of `xadd`.
* `Hedwig.RedisMessage`, `Hedwig.RedisStreamsConsumerBackend.processMessage`,
  `Hedwig.RedisStreamsConsumerBackend.messageAttributes`.
* `Hedwig.entryFields` — the fields of an entry as bytes.

## Design

The client encodes strings in UTF-8 and returns fields as bytes, in the order in which they were
written.  `message_handler` is a parameter of `process_message`.
-/

namespace Hedwig

/-- A message pulled from a stream. -/
structure RedisMessage where
  stream : List UInt8
  key : List UInt8
  payload : PyDict (List UInt8) (List UInt8)
  deliveryAttempt : ℤ

/-- The metadata of a message from a stream. -/
structure RedisMetadata where
  id : String
  stream : String
  deliveryAttempt : ℤ

/-- The fields of a stream entry that is written from strings. -/
def entryFields (fields : PyDict String String) : PyDict (List UInt8) (List UInt8) :=
  fields.mapItems PyStr.encode PyStr.encode_injective PyStr.encode

/-- `b.decode()`. -/
def decodeBytes (b : List UInt8) : Except PyException String :=
  match PyStr.decode? b with
  | some s => .ok s
  | none => .error (.new .unicodeDecodeError "'utf-8' codec can't decode")

/-- `d.pop(k)`. -/
def popItem (d : PyDict String String) (k : String) :
    Except PyException (String × PyDict String String) :=
  match d.get? k with
  | some v => .ok (v, d.erase k)
  | none => .error (.new .keyError k)

namespace RedisStreamsPublisherBackend

variable {δ π : Type}

/-- The fields that are written for a payload: the payload first, then the attributes. -/
def redisMessage (payload : Payload) (attributes : PyDict String String) : PyDict String String :=
  let (payload, attributes) := encodeText payload attributes
  (PyDict.ofList [("hedwig_payload", payload)]).update attributes

/-- `_publish`: the stream and the fields that are added to it. -/
def publish (messageRouting : PyDict (String × String) Topic) (m : Message δ π) (payload : Payload)
    (attributes : PyDict String String) : Except PyException (String × PyDict String String) := do
  let topic ← topic messageRouting m
  return ("hedwig:" ++ topic.text, redisMessage payload attributes)

end RedisStreamsPublisherBackend

namespace RedisStreamsConsumerBackend

/-- `message_attributes`. -/
def messageAttributes (queueMessage : RedisMessage) : Except PyException (PyDict String String) :=
  queueMessage.payload.traverse fun kv => do
    let k ← decodeBytes kv.1
    let v ← decodeBytes kv.2
    return (k, v)

/-- `process_message`. -/
def processMessage (messageHandler : Payload → PyDict String String → RedisMetadata → Outcome)
    (queueMessage : RedisMessage) : Outcome := do
  let stream ← decodeBytes queueMessage.stream
  let messageId ← decodeBytes queueMessage.key
  let fields ← messageAttributes queueMessage
  let (messagePayload, fields) ← popItem fields "hedwig_payload"
  let messagePayload ← decodeText (fields.get? "hedwig_encoding") messagePayload
  let fields := fields.erase "hedwig_encoding"
  messageHandler messagePayload fields ⟨messageId, stream, queueMessage.deliveryAttempt⟩

/-- `nack_message`: the visibility timeout takes care of it. -/
def nackMessage (_queueMessage : RedisMessage) : Outcome := .ok ()

end RedisStreamsConsumerBackend

/-! ## Reading back an entry -/

@[simp] lemma decodeBytes_encode (s : String) : decodeBytes (PyStr.encode s) = .ok s := by
  simp [decodeBytes]

/-- The attributes of an entry that was written from strings are those strings. -/
lemma messageAttributes_entryFields (stream key : List UInt8) (fields : PyDict String String)
    (deliveryAttempt : ℤ) :
    RedisStreamsConsumerBackend.messageAttributes
      ⟨stream, key, entryFields fields, deliveryAttempt⟩ = .ok fields := by
  refine PyDict.traverse_mapItems PyStr.encode_injective fun kv _ => ?_
  simp only [decodeBytes_encode]
  rfl

end Hedwig
