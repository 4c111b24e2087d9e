import Hedwig.Backends.Aws
import Hedwig.Backends.Redis

set_option relaxedAutoImplicit false
set_option autoImplicit false

/-!
# Fidelity of SQS and Redis

A payload and attributes that `serialize` returned go through a publisher backend, a transport and
`process_message` of the matching consumer, and reach `message_handler` as they were.

## Main definitions

* `Hedwig.SqsCarries`, `Hedwig.RedisCarries` — a transport carries a payload and attributes.
* `Hedwig.HedwigBaseValidator.Transported` — both carry whatever the validator serializes.

## Main results

* `Hedwig.serialize_transported` — they do for the three validators, and no header collides with
  the fields of the transports.
-/

namespace Hedwig

/-! ## SQS -/

/-- SNS with raw delivery to SQS carries a payload and attributes: whatever SQS message is
delivered for the call that publishes them, `process_message` calls the handler with the payload
and the attributes, except for the encoding, and with the metadata of the message. -/
def SqsCarries (payload : Payload) (attributes : PyDict String String) : Prop :=
  ∀ (δ π : Type) (cfg : AwsSettings) (m : Message δ π) (call : SnsPublish)
    (queueMessage : SqsMessage) (fromTimestamp : ℤ → Except PyException Time)
    (metadata : AWSMetadata),
    AWSSNSPublisherBackend.publish cfg m payload attributes = .ok call →
    RawDelivery call queueMessage →
    AWSSQSConsumerBackend.metadata fromTimestamp queueMessage = .ok metadata →
    ∃ attributes' : PyDict String String,
      (∀ k, k ≠ "hedwig_encoding" → attributes'.get? k = attributes.get? k) ∧
      ∀ messageHandler,
        AWSSQSConsumerBackend.processMessage fromTimestamp messageHandler queueMessage =
          messageHandler payload attributes' metadata

/-- Attributes that are delivered for published strings are read as those strings. -/
lemma traverse_stringValue {delivered : PyDict String MessageAttribute}
    {attributes : PyDict String String}
    (h : ∀ k, delivered.get? k = (attributes.get? k).map AWSSNSPublisherBackend.stringAttribute) :
    ∃ attributes', delivered.traverse AWSSQSConsumerBackend.stringValue = .ok attributes' ∧
      ∀ k, attributes'.get? k = attributes.get? k := by
  let read : String × MessageAttribute → String × String := fun kv =>
    (kv.1, kv.2.stringValue.getD "")
  have hitem : ∀ kv ∈ delivered.items, ∃ s, attributes.get? kv.1 = some s ∧
      kv.2 = AWSSNSPublisherBackend.stringAttribute s := by
    intro kv hkv
    have hget := (h kv.1).symm.trans (PyDict.get?_eq_some_iff.mpr hkv)
    obtain ⟨s, hs, hstring⟩ := Option.map_eq_some_iff.mp hget
    exact ⟨s, hs, hstring.symm⟩
  have hread : ∀ kv ∈ delivered.items,
      AWSSQSConsumerBackend.stringValue kv = .ok (read kv) := by
    intro kv hkv
    obtain ⟨s, -, hstring⟩ := hitem kv hkv
    simp [AWSSQSConsumerBackend.stringValue, read, hstring, AWSSNSPublisherBackend.stringAttribute]
  refine ⟨_, PyDict.traverse_eq_ok hread, fun k => Option.ext fun s => ?_⟩
  have hnodup : ((delivered.items.map read).map Prod.fst).Nodup := by
    rw [List.map_map]
    exact delivered.nodup
  rw [PyDict.get?_eq_some_iff, PyDict.items_ofList hnodup, List.mem_map]
  constructor
  · rintro ⟨kv, hkv, he⟩
    obtain ⟨s', hs', hstring⟩ := hitem kv hkv
    obtain ⟨rfl, rfl⟩ := Prod.mk.inj he
    simpa [hstring, AWSSNSPublisherBackend.stringAttribute] using hs'
  · intro hs
    have hmem : (k, AWSSNSPublisherBackend.stringAttribute s) ∈ delivered.items := by
      rw [← PyDict.get?_eq_some_iff, h, hs]
      rfl
    exact ⟨_, hmem, rfl⟩

/-- A queue message with the text and the attributes of a payload is processed to them. -/
lemma processMessage_of_encodeText {payload : Payload} {attributes : PyDict String String}
    {queueMessage : SqsMessage} {fromTimestamp : ℤ → Except PyException Time}
    {metadata : AWSMetadata} (h : "hedwig_encoding" ∉ attributes.keys)
    (hbody : queueMessage.body = (encodeText payload attributes).1)
    (hdelivered : ∀ k, (queueMessage.messageAttributes.getD .empty).get? k =
      ((encodeText payload attributes).2.get? k).map AWSSNSPublisherBackend.stringAttribute)
    (hmetadata : AWSSQSConsumerBackend.metadata fromTimestamp queueMessage = .ok metadata) :
    ∃ attributes' : PyDict String String,
      (∀ k, k ≠ "hedwig_encoding" → attributes'.get? k = attributes.get? k) ∧
      ∀ messageHandler,
        AWSSQSConsumerBackend.processMessage fromTimestamp messageHandler queueMessage =
          messageHandler payload attributes' metadata := by
  obtain ⟨attributes', hread, hget⟩ := traverse_stringValue hdelivered
  refine ⟨attributes', fun k hk => (hget k).trans (get?_encodeText hk), fun messageHandler => ?_⟩
  have hpayload : decodeText (attributes'.get? "hedwig_encoding") queueMessage.body =
      .ok payload := by
    rw [hget, hbody]
    exact decodeText_encodeText h
  simp only [AWSSQSConsumerBackend.processMessage, hread, hmetadata, hpayload, bind, Except.bind]

/-- **SQS** carries a payload with attributes that do not name an encoding. -/
lemma sqsCarries {payload : Payload} {attributes : PyDict String String}
    (h : "hedwig_encoding" ∉ attributes.keys) : SqsCarries payload attributes := by
  intro δ π cfg m call queueMessage fromTimestamp metadata hpublish hdelivery hmetadata
  simp only [AWSSNSPublisherBackend.publish, bind_eq_ok] at hpublish
  obtain ⟨arn, -, hcall⟩ := hpublish
  obtain rfl := Except.ok.inj hcall
  refine processMessage_of_encodeText h hdelivery.body (fun k => ?_) hmetadata
  rw [hdelivery.messageAttributes]
  exact PyDict.get?_mapItems id Function.injective_id _ _ k

/-! ## Redis -/

/-- A Redis stream carries a payload and attributes: `process_message` of an entry with the fields
that were added calls the handler with the payload, the attributes, and the metadata. -/
def RedisCarries (payload : Payload) (attributes : PyDict String String) : Prop :=
  ∀ (δ π : Type) (messageRouting : PyDict (String × String) Topic) (m : Message δ π)
    (stream id : String) (fields : PyDict String String) (deliveryAttempt : ℤ),
    RedisStreamsPublisherBackend.publish messageRouting m payload attributes =
      .ok (stream, fields) →
    ∀ messageHandler, RedisStreamsConsumerBackend.processMessage messageHandler
        ⟨PyStr.encode stream, PyStr.encode id, entryFields fields, deliveryAttempt⟩ =
      messageHandler payload attributes ⟨id, stream, deliveryAttempt⟩

/-- Popping the payload of an entry leaves the attributes. -/
lemma popItem_redisMessage {payload : Payload} {attributes : PyDict String String}
    (h : "hedwig_payload" ∉ attributes.keys) :
    popItem (RedisStreamsPublisherBackend.redisMessage payload attributes) "hedwig_payload" =
      .ok (encodeText payload attributes) := by
  rcases hencode : encodeText payload attributes with ⟨text, attributes'⟩
  have hkeys : "hedwig_payload" ∉ attributes'.keys := by
    have hattributes : attributes' = (encodeText payload attributes).2 := by rw [hencode]
    rw [hattributes, ← PyDict.get?_eq_none_iff, get?_encodeText (by decide)]
    exact PyDict.get?_eq_none_iff.mpr h
  have hitems : (RedisStreamsPublisherBackend.redisMessage payload attributes).items =
      ("hedwig_payload", text) :: attributes'.items := by
    simp only [RedisStreamsPublisherBackend.redisMessage, hencode]
    rw [PyDict.items_update]
    · rfl
    · intro k hk hmem
      obtain rfl : k = "hedwig_payload" := List.mem_singleton.mp hmem
      exact hkeys hk
  have hget : (RedisStreamsPublisherBackend.redisMessage payload attributes).get?
      "hedwig_payload" = some text := by
    rw [PyDict.get?_eq_some_iff, hitems]
    exact List.mem_cons_self
  have herase : (RedisStreamsPublisherBackend.redisMessage payload attributes).erase
      "hedwig_payload" = attributes' := by
    refine PyDict.ext ?_
    have hself := congrArg PyDict.items (PyDict.erase_eq_self hkeys)
    simp only [PyDict.erase, PyDict.items_filterKeys] at hself ⊢
    rw [hitems, List.filter_cons_of_neg (by simp), hself]
  rw [popItem, hget, herase]

/-- An entry with the fields of a payload is processed to it and its attributes. -/
lemma processMessage_redisMessage {payload : Payload} {attributes : PyDict String String}
    (hpayload : "hedwig_payload" ∉ attributes.keys)
    (hencoding : "hedwig_encoding" ∉ attributes.keys) (stream id : String) (deliveryAttempt : ℤ)
    (messageHandler : Payload → PyDict String String → RedisMetadata → Outcome) :
    RedisStreamsConsumerBackend.processMessage messageHandler
        ⟨PyStr.encode stream, PyStr.encode id,
          entryFields (RedisStreamsPublisherBackend.redisMessage payload attributes),
          deliveryAttempt⟩ =
      messageHandler payload attributes ⟨id, stream, deliveryAttempt⟩ := by
  simp only [RedisStreamsConsumerBackend.processMessage, decodeBytes_encode,
    messageAttributes_entryFields, popItem_redisMessage hpayload, bind, Except.bind,
    decodeText_encodeText hencoding, erase_encodeText hencoding]

/-- **Redis** carries a payload with attributes outside the fields of the transport. -/
lemma redisCarries {payload : Payload} {attributes : PyDict String String}
    (hpayload : "hedwig_payload" ∉ attributes.keys)
    (hencoding : "hedwig_encoding" ∉ attributes.keys) : RedisCarries payload attributes := by
  intro δ π messageRouting m stream id fields deliveryAttempt hpublish messageHandler
  simp only [RedisStreamsPublisherBackend.publish, bind_eq_ok] at hpublish
  obtain ⟨t, -, hreturn⟩ := hpublish
  obtain rfl : RedisStreamsPublisherBackend.redisMessage payload attributes = fields :=
    (Prod.mk.inj (Except.ok.inj hreturn)).2
  exact processMessage_redisMessage hpayload hencoding stream id deliveryAttempt messageHandler

/-! ## The three validators -/

/-- Whatever the validator serializes, in the mode that is configured, is carried by both
transports: the attributes are strings, and the payload and they reach the handlers. -/
def HedwigBaseValidator.Transported {δ ξ : Type} (v : HedwigBaseValidator δ ξ) : Prop :=
  ∀ (π : Type) (m : Message δ π) (payload : Payload) (attributes : Attributes),
    v.serialize m = .ok (payload, attributes) →
    ∃ d : PyDict String String, attributes = ofStrings d ∧ SqsCarries payload d ∧
      RedisCarries payload d

/-- A validator that uses the meta attributes as the three do. -/
lemma HedwigBaseValidator.UsesMetaAttributes.transported {δ ξ : Type}
    {v : HedwigBaseValidator δ ξ} (hv : v.UsesMetaAttributes) : v.Transported := by
  intro π m payload attributes h
  obtain ⟨d, rfl, hnames⟩ := hv.serialize_attributes h
  have hpayload : "hedwig_payload" ∉ d.keys := fun hk => hnames _ hk (by simp [transportFields])
  have hencoding : "hedwig_encoding" ∉ d.keys := fun hk => hnames _ hk (by simp [transportFields])
  exact ⟨d, rfl, sqsCarries hencoding, redisCarries hpayload hencoding⟩

/-- **Transport fidelity.**  SQS, with raw delivery from SNS, and Redis carry every payload and
every attribute map that one of the three validators serializes, and no header that is accepted
has the name of a field of a transport.

**Proof sketch.**  The attributes of all three validators are the five meta attributes and headers
without the reserved prefix, so none of them names an encoding or a field of the Redis message.
`sqsCarries` and `redisCarries` then undo what the publisher did to the payload. -/
theorem serialize_transported :
    (∀ v : JSONSchemaValidator, v.toBase.Transported) ∧
    (∀ (lib : ProtoLib) (v : ProtobufValidator lib), v.toBase.Transported) ∧
    ∀ items, verifyHeaders (.dict items) = .ok () →
      ∀ name value, (.str name, value) ∈ items → name ∉ transportFields :=
  ⟨fun v => v.usesMetaAttributes.transported, fun _ v => v.usesMetaAttributes.transported,
    fun _ h _ _ hmem => notMem_transportFields h hmem⟩

/-! ## A sample message -/

/-- Settings that route the sample message. -/
def sampleAwsSettings : AwsSettings where
  region := "us-west-1"
  accountId := "12345"
  messageRouting := ⟨[(("trip_created", "1.*"), .name "dev-trip-created-v1")], by simp⟩

/-- The SQS message that a published message is delivered as, received for the first time. -/
def sampleDelivery (call : SnsPublish) : SqsMessage where
  body := call.message
  messageAttributes := some call.messageAttributes
  attributes := .ofList [("ApproximateFirstReceiveTimestamp", "1460868253300"),
    ("SentTimestamp", "1460868253255"), ("ApproximateReceiveCount", "1")]
  receiptHandle := "receipt"

/-- A message was serialized to text. -/
private def isText : Except PyException (Payload × Attributes) → Bool
  | .ok (.str _, _) => true
  | _ => false

/-- The text and the attributes that a message was serialized to. -/
private lemma exists_of_isText {x : Except PyException (Payload × Attributes)}
    (h : isText x = true) : ∃ s attributes, x = .ok (.str s, attributes) := by
  unfold isText at h
  split at h
  · exact ⟨_, _, rfl⟩
  · cases h

/-- The sample message is serialized to text. -/
lemma exists_serialize_sampleMessage :
    ∃ s d, emptyDocumentValidator.toBase.serialize
      (sampleMessage (PyObj.dict []) "trip_created") = .ok (.str s, ofStrings d) := by
  obtain ⟨s, attributes, hrun⟩ := exists_of_isText (show isText
    (emptyDocumentValidator.toBase.serialize (sampleMessage (PyObj.dict []) "trip_created")) = true
      by decide +kernel)
  obtain ⟨d, rfl, -⟩ := emptyDocumentValidator.usesMetaAttributes.serialize_attributes hrun
  exact ⟨s, d, hrun⟩

/-- The sample message is published, with any payload and attributes. -/
lemma exists_publish_sampleMessage (payload : Payload) (attributes : PyDict String String) :
    ∃ call, AWSSNSPublisherBackend.publish sampleAwsSettings
      (sampleMessage (PyObj.dict []) "trip_created") payload attributes = .ok call := by
  obtain ⟨arn, harn⟩ := exists_of_isOk (show (AWSSNSPublisherBackend.getSnsTopic
    sampleAwsSettings (sampleMessage (PyObj.dict []) "trip_created")).isOk = true by
      decide +kernel)
  exact ⟨_, bind_eq_ok.mpr ⟨arn, harn, rfl⟩⟩

/-- The theorem at a message that is serialized, published and delivered through both transports,
and at its header. -/
theorem serialize_transported_sample :
    (∃ payload d call metadata,
      emptyDocumentValidator.toBase.serialize (sampleMessage (PyObj.dict []) "trip_created") =
        .ok (payload, ofStrings d) ∧
      AWSSNSPublisherBackend.publish sampleAwsSettings
        (sampleMessage (PyObj.dict []) "trip_created") payload d = .ok call ∧
      (∃ attributes', ∀ messageHandler,
        AWSSQSConsumerBackend.processMessage (fun ms => .ok (1000 * ms)) messageHandler
          (sampleDelivery call) = messageHandler payload attributes' metadata) ∧
      ∀ messageHandler, RedisStreamsConsumerBackend.processMessage messageHandler
          ⟨PyStr.encode "hedwig:dev-trip-created-v1", PyStr.encode "1460868253255-0",
            entryFields (RedisStreamsPublisherBackend.redisMessage payload d), 1⟩ =
        messageHandler payload d ⟨"1460868253255-0", "hedwig:dev-trip-created-v1", 1⟩) ∧
    "request_id" ∉ transportFields := by
  obtain ⟨hjson, -, hheaders⟩ := serialize_transported
  constructor
  · obtain ⟨s, d₀, hrun⟩ := exists_serialize_sampleMessage
    obtain ⟨d, hd, hsqs, hredis⟩ := hjson emptyDocumentValidator String _ _ _ hrun
    rw [hd] at hrun
    obtain ⟨call, hcall⟩ := exists_publish_sampleMessage (.str s) d
    obtain ⟨metadata, hmetadata⟩ := exists_of_isOk (show (AWSSQSConsumerBackend.metadata
      (fun ms => .ok (1000 * ms)) (sampleDelivery ⟨"", "", .empty⟩)).isOk = true by decide +kernel)
    refine ⟨.str s, d, call, metadata, hrun, hcall, ?_, fun messageHandler => ?_⟩
    · obtain ⟨attributes', -, hprocess⟩ := hsqs _ _ _ _ call (sampleDelivery call) _ metadata hcall
        ⟨rfl, fun _ => rfl⟩ hmetadata
      exact ⟨attributes', hprocess⟩
    · exact hredis PyObj String
        ⟨[(("trip_created", "1.*"), .name "dev-trip-created-v1")], by simp⟩
        (sampleMessage (PyObj.dict []) "trip_created") _ _ _ 1 rfl messageHandler
  · exact hheaders [(.str "request_id", .str "1")] rfl "request_id" (.str "1")
      (List.mem_singleton_self _)

end Hedwig
