import Hedwig.Backends.Fidelity
import Hedwig.Backends.PubSub
import Hedwig.Backends.Sync

set_option relaxedAutoImplicit false
set_option autoImplicit false

/-!
# Sync mode

Publishing with `HEDWIG_SYNC` on and off, for the three validators and the three pairs of backends.
The mock queue messages mirror what the publishers send, except in Redis with containers: the key of
a mock entry is made of an attribute that a message in a container does not have.  Sync mode
does not look at `HEDWIG_DEFAULT_HEADERS`.

## Main definitions

* `Hedwig.Routed` — a message has an entry in `HEDWIG_MESSAGE_ROUTING`.
* `Hedwig.HedwigBaseValidator.SyncAgreesWhen` — when sync mode agrees with each transport.

## Main results

* `Hedwig.mirrors_snsSqs`, `Hedwig.mirrors_pubSub`, `Hedwig.mirrors_redisStreams` — which messages
  each pair mocks and transports.
* `Hedwig.publish_syncAgrees_iff` — when sync mode agrees, for the three validators.
-/

namespace Hedwig

/-- The message has a topic. -/
def Routed {δ π : Type} (messageRouting : PyDict (String × String) Topic) (m : Message δ π) :
    Prop := (m.type, toString m.version.major ++ ".*") ∈ messageRouting.keys

instance {δ π : Type} (messageRouting : PyDict (String × String) Topic) (m : Message δ π) :
    Decidable (Routed messageRouting m) :=
  inferInstanceAs (Decidable ((m.type, toString m.version.major ++ ".*") ∈ messageRouting.keys))

/-- The topic of a message is found exactly if it is routed. -/
lemma exists_topic_iff {δ π : Type} {messageRouting : PyDict (String × String) Topic}
    {m : Message δ π} : (∃ t, topic messageRouting m = .ok t) ↔ Routed messageRouting m := by
  unfold topic Routed
  cases hget : messageRouting.get? (m.type, toString m.version.major ++ ".*") with
  | some t =>
    simp only [hget, Except.ok.injEq, exists_eq', true_iff]
    exact PyDict.mem_keys.mpr ⟨t, PyDict.get?_eq_some_iff.mp hget⟩
  | none =>
    simp only [hget, reduceCtorEq, exists_false, false_iff]
    exact PyDict.get?_eq_none_iff.mp hget

section Pairs

variable {δ ξ π : Type} {v : HedwigBaseValidator δ ξ}

/-- No attribute of a serialized message has the name of a field of a transport. -/
lemma notMem_of_serialize (hu : v.UsesMetaAttributes) {m : Message δ π} {payload : Payload}
    {d : PyDict String String} (h : v.serialize m = .ok (payload, ofStrings d)) :
    "hedwig_payload" ∉ d.keys ∧ "hedwig_encoding" ∉ d.keys := by
  obtain ⟨d', hd', hnames⟩ := hu.serialize_attributes h
  have hd : d = d' := by rw [← toStrings_ofStrings d, hd', toStrings_ofStrings]
  rw [hd]
  exact ⟨fun hk => hnames _ hk (by simp [transportFields]),
    fun hk => hnames _ hk (by simp [transportFields])⟩

/-! ## SNS and SQS -/

/-- The metadata of a message with the attributes of a mock message. -/
lemma metadata_systemAttributes (clock : MockClock) {queueMessage : SqsMessage}
    (h : queueMessage.attributes = clock.systemAttributes) :
    (AWSSQSConsumerBackend.metadata clock.fromTimestamp queueMessage).isOk = true := by
  have hattribute : ∀ name ms, clock.systemAttributes.get? name = some (toString ms) →
      intOfString (toString ms) = .ok ms →
      AWSSQSConsumerBackend.intAttribute queueMessage name = .ok ms := by
    intro name ms hget hms
    rw [AWSSQSConsumerBackend.intAttribute, h, hget]
    exact hms
  have hcount : intOfString (toString (1 : ℤ)) = .ok 1 := by
    rw [intOfString, show PyStr.int? (toString (1 : ℤ)) = some 1 by decide +kernel]
  obtain ⟨hsent, hsentTime⟩ := clock.inRange clock.sentTimestamp (by simp)
  obtain ⟨hfirst, hfirstTime⟩ := clock.inRange clock.firstReceiveTimestamp (by simp)
  obtain ⟨sentTime, hsentTime⟩ := exists_of_isOk hsentTime
  obtain ⟨firstReceiveTime, hfirstTime⟩ := exists_of_isOk hfirstTime
  have hmetadata : AWSSQSConsumerBackend.metadata clock.fromTimestamp queueMessage =
      .ok ⟨queueMessage.receiptHandle, firstReceiveTime, sentTime, 1⟩ :=
    bind_eq_ok.mpr ⟨_, hattribute _ _ rfl hfirst, bind_eq_ok.mpr ⟨_, hfirstTime, bind_eq_ok.mpr
      ⟨_, hattribute _ _ rfl hsent, bind_eq_ok.mpr ⟨_, hsentTime, bind_eq_ok.mpr
        ⟨1, hattribute _ 1 rfl hcount, rfl⟩⟩⟩⟩⟩
  rw [hmetadata]
  rfl

/-- The mock queue message for a payload and its attributes. -/
def mockSqsMessage (clock : MockClock) (payload : Payload) (d : PyDict String String) :
    SqsMessage where
  body := (encodeText payload d).1
  messageAttributes := some ((encodeText payload d).2.mapItems id Function.injective_id
    AWSSNSPublisherBackend.stringAttribute)
  attributes := clock.systemAttributes
  receiptHandle := "test-receipt"

/-- Whatever SQS message has the text and the attributes of a payload carries it. -/
lemma carries_snsSqs {cfg : AwsSettings} {clock : MockClock} {payload : Payload}
    {d : PyDict String String} {queueMessage : SqsMessage} (hencoding : "hedwig_encoding" ∉ d.keys)
    (hbody : queueMessage.body = (encodeText payload d).1)
    (hattributes : ∀ k, (queueMessage.messageAttributes.getD .empty).get? k =
      ((encodeText payload d).2.get? k).map AWSSNSPublisherBackend.stringAttribute)
    (hmetadata : (AWSSQSConsumerBackend.metadata clock.fromTimestamp queueMessage).isOk = true) :
    (snsSqs δ cfg clock).Carries queueMessage payload d := by
  obtain ⟨metadata, hmetadata⟩ := exists_of_isOk hmetadata
  obtain ⟨attributes, hget, hprocess⟩ :=
    processMessage_of_encodeText hencoding hbody hattributes hmetadata
  exact ⟨attributes, metadata, hget, hprocess⟩

/-- A message that is serialized is mocked. -/
lemma mockQueueMessage_snsSqs (cfg : AwsSettings) (clock : MockClock) {m : Message δ π}
    {payload : Payload} {d : PyDict String String}
    (hm : v.serialize m = .ok (payload, ofStrings d)) :
    (snsSqs δ cfg clock).mockQueueMessage v m = .ok (mockSqsMessage clock payload d) := by
  refine bind_eq_ok.mpr ⟨_, hm, ?_⟩
  simp only [toStrings_ofStrings]
  rfl

/-- What SNS is called with. -/
lemma AWSSNSPublisherBackend.publish_eq_ok {cfg : AwsSettings} {m : Message δ π} {payload : Payload}
    {d : PyDict String String} {call : SnsPublish} :
    publish cfg m payload d = .ok call ↔ ∃ arn, getSnsTopic cfg m = .ok arn ∧
      publishOverSns arn (encodeText payload d).1 (encodeText payload d).2 = call := by
  simp only [publish, bind_eq_ok, pure, Except.pure, Except.ok.injEq]

/-- The topic is found exactly if the message is routed. -/
lemma AWSSNSPublisherBackend.exists_getSnsTopic_iff {cfg : AwsSettings} {m : Message δ π} :
    (∃ arn, getSnsTopic cfg m = .ok arn) ↔ Routed cfg.messageRouting m := by
  rw [← exists_topic_iff]
  simp only [getSnsTopic, bind_eq_ok]
  constructor
  · rintro ⟨_, t, ht, -⟩
    exact ⟨t, ht⟩
  · rintro ⟨t, ht⟩
    cases t with
    | name topic => exact ⟨_, _, ht, rfl⟩
    | cross topic accountId => exact ⟨_, _, ht, rfl⟩

/-- **SNS and SQS** mock every message, and transport those that are routed.

**Proof sketch.**  The mock message and the delivered one carry the same payload and the same
attributes, since no attribute names an encoding; and the call fails only for a message that is not
routed. -/
theorem mirrors_snsSqs (hu : v.UsesMetaAttributes) (cfg : AwsSettings) (clock : MockClock) :
    (snsSqs δ cfg clock).Mirrors v π (fun _ => True) (Routed cfg.messageRouting) := by
  have hmock : ∀ (m : Message δ π) payload d, v.serialize m = .ok (payload, ofStrings d) →
      (snsSqs δ cfg clock).mockQueueMessage v m = .ok (mockSqsMessage clock payload d) :=
    fun _ _ _ hm => mockQueueMessage_snsSqs cfg clock hm
  have hattributes : ∀ (d : PyDict String String) k,
      (d.mapItems id Function.injective_id AWSSNSPublisherBackend.stringAttribute).get? k =
        (d.get? k).map AWSSNSPublisherBackend.stringAttribute :=
    fun d k => PyDict.get?_mapItems id Function.injective_id _ d k
  refine ⟨?_, ?_, ?_, ?_, fun _ _ _ _ h => h⟩
  · exact fun m payload d hm => iff_of_true ⟨_, hmock m payload d hm⟩ trivial
  · intro m payload d queueMessage hm hqueue
    obtain rfl := Except.ok.inj ((hmock m payload d hm).symm.trans hqueue)
    exact carries_snsSqs (notMem_of_serialize hu hm).2 rfl (hattributes _)
      (metadata_systemAttributes clock rfl)
  · intro m payload d hm
    rw [← AWSSNSPublisherBackend.exists_getSnsTopic_iff]
    constructor
    · rintro ⟨call, hcall, -⟩
      obtain ⟨arn, harn, -⟩ := AWSSNSPublisherBackend.publish_eq_ok.mp hcall
      exact ⟨arn, harn⟩
    · rintro ⟨arn, harn⟩
      exact ⟨_, AWSSNSPublisherBackend.publish_eq_ok.mpr ⟨arn, harn, rfl⟩,
        mockSqsMessage clock payload d, ⟨rfl, fun _ => rfl⟩, metadata_systemAttributes clock rfl⟩
  · rintro m payload d call queueMessage hm hcall ⟨hdelivery, hmetadata⟩
    obtain ⟨arn, -, rfl⟩ := AWSSNSPublisherBackend.publish_eq_ok.mp hcall
    exact carries_snsSqs (notMem_of_serialize hu hm).2 hdelivery.body
      (fun k => (hdelivery.messageAttributes k).trans (hattributes _ k)) hmetadata

/-! ## Pub/Sub -/

/-- The data that were encoded are decoded. -/
lemma decodeData_encodeData {payload : Payload} {d : PyDict String String}
    (h : "hedwig_encoding" ∉ d.keys) :
    decodeData ((encodeData payload d).2.get? "hedwig_encoding") (encodeData payload d).1 =
      .ok payload := by
  cases payload with
  | str s => simp [encodeData, decodeData]
  | bytes b =>
    have hget : d.get? "hedwig_encoding" = none := PyDict.get?_eq_none_iff.mpr h
    simp [encodeData, decodeData, hget]

/-- Whatever message has the data and the attributes of a payload carries it. -/
lemma carries_pubSub {cfg : GcpSettings} {publishTime : Time} {payload : Payload}
    {d : PyDict String String} {queueMessage : MessageWrapper SubscriberMessage}
    (hencoding : "hedwig_encoding" ∉ d.keys)
    (hdata : queueMessage.message.data = (encodeData payload d).1)
    (hattributes : ∀ k, queueMessage.message.attributes.get? k = (encodeData payload d).2.get? k) :
    (pubSub δ cfg publishTime).Carries queueMessage payload d := by
  refine ⟨queueMessage.message.attributes, ⟨queueMessage.message.ackId,
    queueMessage.subscriptionPath, queueMessage.message.publishTime,
    queueMessage.message.deliveryAttempt⟩, fun k hk => ?_, fun messageHandler => ?_⟩
  · rw [hattributes]
    cases payload with
    | str s => exact PyDict.get?_set_of_ne d "utf8" hk
    | bytes b => rfl
  · refine (congrArg (· >>= _) ?_ : _ = Except.ok payload >>= _)
    rw [hattributes, hdata]
    exact decodeData_encodeData hencoding

/-- No header has the name of a parameter, in whatever order they are. -/
def FreeHeaders (m : Message δ π) : Prop :=
  ∀ items, m.metadata.headers = .dict items → HeadersFree items

/-- The headers are free exactly if the attributes that are published are. -/
lemma freeHeaders_iff (hu : v.UsesMetaAttributes) {m : Message δ π} {payload : Payload}
    {d : PyDict String String} (hm : v.serialize m = .ok (payload, ofStrings d)) :
    FreeHeaders m ↔ ∀ k ∈ (encodeData payload d).2.keys, k ∉ publishParameters := by
  obtain ⟨-, hheaders, -⟩ := v.serializeMode_eq_ok hm
  obtain ⟨items, hitems, -⟩ := verifyHeaders_eq_ok.mp hheaders
  have hfree : FreeHeaders m ↔ HeadersFree items :=
    ⟨fun h => h items hitems, fun h items' hitems' =>
      PyObj.dict.inj (hitems.symm.trans hitems') ▸ h⟩
  rw [hfree, ← hu.free_iff_headersFree hm hitems]
  cases payload with
  | bytes b => rfl
  | str s =>
    have hset : ∀ k, k ∈ (d.set "hedwig_encoding" "utf8").keys ↔
        k ∈ d.keys ∨ k = "hedwig_encoding" := fun k => PyDict.mem_keys_set
    constructor
    · intro h k hk
      rcases (hset k).mp hk with hold | rfl
      · exact h k hold
      · decide
    · exact fun h k hk => h k ((hset k).mpr (.inl hk))

/-- The mock queue message for a payload and its attributes. -/
def mockPubSubMessage (publishTime : Time) (payload : Payload) (d : PyDict String String) :
    MessageWrapper SubscriberMessage :=
  ⟨⟨(encodeData payload d).1, (encodeData payload d).2, "test-receipt", publishTime, some 1⟩,
    "test-subscription"⟩

/-- A message that is serialized is mocked. -/
lemma mockQueueMessage_pubSub (cfg : GcpSettings) (publishTime : Time) {m : Message δ π}
    {payload : Payload} {d : PyDict String String}
    (hm : v.serialize m = .ok (payload, ofStrings d)) :
    (pubSub δ cfg publishTime).mockQueueMessage v m =
      .ok (mockPubSubMessage publishTime payload d) := by
  refine bind_eq_ok.mpr ⟨_, hm, ?_⟩
  simp only [toStrings_ofStrings]
  rfl

/-- What the client is called with. -/
lemma GooglePubSubPublisherBackend.publish_eq_ok {cfg : GcpSettings} {m : Message δ π}
    {payload : Payload} {d : PyDict String String} {call : PyCall.Bound PublishArg} :
    publish cfg m payload d = .ok call ↔ ∃ path, getTopicPath cfg m = .ok path ∧
      callPublish path (encodeData payload d).1 (encodeData payload d).2 = .ok call := by
  simp only [publish, bind_eq_ok]

/-- The topic is found exactly if the message is routed. -/
lemma GooglePubSubPublisherBackend.exists_getTopicPath_iff {cfg : GcpSettings} {m : Message δ π} :
    (∃ path, getTopicPath cfg m = .ok path) ↔ Routed cfg.messageRouting m := by
  rw [← exists_topic_iff]
  simp only [getTopicPath, bind_eq_ok]
  constructor
  · rintro ⟨_, t, ht, -⟩
    exact ⟨t, ht⟩
  · rintro ⟨t, ht⟩
    cases t with
    | name topic => exact ⟨_, _, ht, rfl⟩
    | cross topic project => exact ⟨_, _, ht, rfl⟩

/-- **Pub/Sub** mocks every message, and transports those that are routed and have no header with
the name of a parameter of the client.

**Proof sketch.**  A header with the name of a parameter of the client keeps the message from being
transported, and so does a missing route; the mock message does not pass through the client. -/
theorem mirrors_pubSub (hu : v.UsesMetaAttributes) (cfg : GcpSettings) (publishTime : Time) :
    (pubSub δ cfg publishTime).Mirrors v π (fun _ => True)
      (fun m => Routed cfg.messageRouting m ∧ FreeHeaders m) := by
  have hmock : ∀ (m : Message δ π) payload d, v.serialize m = .ok (payload, ofStrings d) →
      (pubSub δ cfg publishTime).mockQueueMessage v m =
        .ok (mockPubSubMessage publishTime payload d) :=
    fun _ _ _ hm => mockQueueMessage_pubSub cfg publishTime hm
  refine ⟨?_, ?_, ?_, ?_, ?_⟩
  · exact fun m payload d hm => iff_of_true ⟨_, hmock m payload d hm⟩ trivial
  · intro m payload d queueMessage hm hqueue
    obtain rfl := Except.ok.inj ((hmock m payload d hm).symm.trans hqueue)
    exact carries_pubSub (notMem_of_serialize hu hm).2 rfl fun _ => rfl
  · intro m payload d hm
    rw [← GooglePubSubPublisherBackend.exists_getTopicPath_iff, freeHeaders_iff hu hm]
    constructor
    · rintro ⟨call, hcall, queueMessage, hdelivery⟩
      obtain ⟨path, hpath, hcall⟩ := GooglePubSubPublisherBackend.publish_eq_ok.mp hcall
      exact ⟨⟨path, hpath⟩, free_of_callPublish hcall hdelivery.options⟩
    · rintro ⟨⟨path, hpath⟩, hfree⟩
      obtain ⟨call, hcall, -, harguments, hkwargs⟩ :=
        callPublish_of_free path (encodeData payload d).1 hfree
      refine ⟨call, GooglePubSubPublisherBackend.publish_eq_ok.mpr ⟨path, hpath, hcall⟩,
        (⟨⟨(encodeData payload d).1, (encodeData payload d).2, "", publishTime, none⟩, ""⟩ :
          MessageWrapper SubscriberMessage), ?_, ?_, fun k => ?_⟩
      · rw [harguments]
        have hdisjoint : ∀ name ∈ ["ordering_key", "retry", "timeout"],
            name ∉ ["self", "topic", "data"] := by decide
        exact hdisjoint
      · rw [harguments]
        rfl
      · rw [hkwargs]
        exact (PyDict.get?_mapItems id Function.injective_id _ _ k).symm
  · intro m payload d call queueMessage hm hcall hdelivery
    obtain ⟨path, -, hcall⟩ := GooglePubSubPublisherBackend.publish_eq_ok.mp hcall
    obtain ⟨call', hcall', -, harguments, hkwargs⟩ := callPublish_of_free path
      (encodeData payload d).1 (free_of_callPublish hcall hdelivery.options)
    obtain rfl := Except.ok.inj (hcall.symm.trans hcall')
    refine carries_pubSub (notMem_of_serialize hu hm).2 ?_ fun k => ?_
    · have hdata := hdelivery.data
      rw [harguments] at hdata
      exact (PublishArg.bytes.inj (Option.some.inj hdata)).symm
    · refine Option.map_injective (fun _ _ he => PublishArg.text.inj he) ?_
      rw [hdelivery.attributes, hkwargs]
      exact PyDict.get?_mapItems id Function.injective_id _ _ k
  · rintro m h h' hget ⟨hrouted, hfree⟩
    refine ⟨hrouted, fun items hitems k hk hmem => hfree h.items rfl k hk ?_⟩
    obtain rfl : h'.items = items := PyObj.dict.inj hitems
    exact ((perm_items hget).map Prod.fst).mem_iff.mpr hmem

/-! ## Redis streams -/

/-- The timestamp is among the attributes exactly if these are the transport attributes. -/
lemma timestamp_mem_keys_iff (hu : v.UsesMetaAttributes) {m : Message δ π} {payload : Payload}
    {d : PyDict String String} (hm : v.serialize m = .ok (payload, ofStrings d)) :
    "hedwig_message_timestamp" ∈ d.keys ↔ v.useTransportMessageAttributes = true := by
  obtain ⟨-, hheaders, schema, -, hencode, m₀, hcheck⟩ := v.serializeMode_eq_ok hm
  have hkey : "hedwig_message_timestamp" ∈ d.keys ↔
      ∃ o, (ofStrings d).get? (.str "hedwig_message_timestamp") = some o := by
    have hget : (ofStrings d).get? (.str "hedwig_message_timestamp") =
        (d.get? "hedwig_message_timestamp").map .str := PyDict.get?_mapItems _ _ _ d _
    rw [hget]
    simp only [PyDict.mem_keys, ← PyDict.get?_eq_some_iff, Option.map_eq_some_iff]
    constructor
    · rintro ⟨t, ht⟩
      exact ⟨.str t, t, ht, rfl⟩
    · rintro ⟨_, t, ht, -⟩
      exact ⟨t, ht⟩
  rw [hkey]
  cases hmode : v.useTransportMessageAttributes with
  | true =>
    obtain ⟨metaAttrs, x, _, _, _, hextract, -⟩ := v.deserializeMode_eq_ok.mp hcheck
    rw [hmode] at hextract
    have hdecode := hu.decode _ _ _ _ hextract
    simp only [decodeMetaAttributes, bind_eq_ok, stringAttribute_eq_ok_iff] at hdecode
    obtain ⟨_, -, _, -, _, -, timestamp, htimestamp, -⟩ := hdecode
    exact iff_of_true ⟨_, htimestamp⟩ rfl
  | false =>
    rw [hmode] at hencode
    have hcontainer := hu.container _ _ _ _ hencode
    refine iff_of_false ?_ Bool.false_ne_true
    rintro ⟨o, ho⟩
    rw [hcontainer] at ho
    obtain ⟨name, s, he, hname⟩ :=
      HedwigBaseValidator.isHeader_of_mem_toDict hheaders (PyDict.get?_eq_some_iff.mp ho)
    obtain rfl : "hedwig_message_timestamp" = name := PyKey.str.inj (congrArg Prod.fst he)
    exact absurd hname (by decide)

/-- A message that is serialized is mocked if it has a topic and a timestamp attribute. -/
lemma RedisStreamsPublisherBackend.mockQueueMessage_eq_ok
    {messageRouting : PyDict (String × String) Topic} {m : Message δ π} {payload : Payload}
    {d : PyDict String String} {queueMessage : RedisMessage}
    (hm : v.serialize m = .ok (payload, ofStrings d)) :
    mockQueueMessage messageRouting v m = .ok queueMessage ↔
      ∃ t timestamp, topic messageRouting m = .ok t ∧
        (encodeText payload d).2.get? "hedwig_message_timestamp" = some timestamp ∧
        queueMessage = ⟨PyStr.encode ("hedwig:" ++ t.text), PyStr.encode (timestamp ++ "-0"),
          entryFields (redisMessage payload d), 1⟩ := by
  have hitem : ∀ timestamp, strItem (encodeText payload d).2 "hedwig_message_timestamp" =
      .ok timestamp ↔ (encodeText payload d).2.get? "hedwig_message_timestamp" =
        some timestamp := by
    intro timestamp
    rw [strItem]
    cases (encodeText payload d).2.get? "hedwig_message_timestamp" <;> simp
  simp only [mockQueueMessage, hm, bind_eq_ok, Except.ok.injEq, exists_eq_left',
    toStrings_ofStrings, hitem, pure, Except.pure, @eq_comm _ _ queueMessage]
  constructor
  · rintro ⟨t, ht, timestamp, htimestamp, hqueue⟩
    exact ⟨t, timestamp, ht, htimestamp, hqueue⟩
  · rintro ⟨t, timestamp, ht, htimestamp, hqueue⟩
    exact ⟨t, ht, timestamp, htimestamp, hqueue⟩

/-- What `XADD` is called with. -/
lemma RedisStreamsPublisherBackend.publish_eq_ok {messageRouting : PyDict (String × String) Topic}
    {m : Message δ π} {payload : Payload} {d : PyDict String String}
    {call : String × PyDict String String} :
    publish messageRouting m payload d = .ok call ↔ ∃ t, topic messageRouting m = .ok t ∧
      ("hedwig:" ++ t.text, redisMessage payload d) = call := by
  simp only [publish, bind_eq_ok, pure, Except.pure, Except.ok.injEq]

/-- An entry with the fields of a serialized message carries its payload. -/
lemma carries_redisStreams (hu : v.UsesMetaAttributes)
    (messageRouting : PyDict (String × String) Topic) {m : Message δ π} {payload : Payload}
    {d : PyDict String String} (stream id : String) (deliveryAttempt : ℤ)
    (hm : v.serialize m = .ok (payload, ofStrings d)) :
    (redisStreams δ messageRouting).Carries
      (⟨PyStr.encode stream, PyStr.encode id,
        entryFields (RedisStreamsPublisherBackend.redisMessage payload d), deliveryAttempt⟩ :
        RedisMessage) payload d := by
  obtain ⟨hpayload, hencoding⟩ := notMem_of_serialize hu hm
  exact ⟨d, ⟨id, stream, deliveryAttempt⟩, fun _ _ => rfl,
    processMessage_redisMessage hpayload hencoding stream id deliveryAttempt⟩

/-- **Redis** transports messages that are routed, and mocks them with transport attributes only:
the key of the mock entry is made of the timestamp attribute.

**Proof sketch.**  Mock and publisher make the same entry of payload and attributes, which is read
back alike.  The key of the mock entry is taken from the timestamp attribute, which there is exactly
with transport attributes, and both need the route. -/
theorem mirrors_redisStreams (hu : v.UsesMetaAttributes)
    (messageRouting : PyDict (String × String) Topic) :
    (redisStreams δ messageRouting).Mirrors v π
      (fun m => Routed messageRouting m ∧ v.useTransportMessageAttributes = true)
      (Routed messageRouting) := by
  refine ⟨?_, ?_, ?_, ?_, fun _ _ _ _ h => h⟩
  · intro m payload d hm
    rw [← exists_topic_iff, ← timestamp_mem_keys_iff hu hm]
    constructor
    · rintro ⟨queueMessage, hqueue⟩
      obtain ⟨t, timestamp, ht, htimestamp, -⟩ :=
        (RedisStreamsPublisherBackend.mockQueueMessage_eq_ok hm).mp hqueue
      rw [get?_encodeText (by decide)] at htimestamp
      exact ⟨⟨t, ht⟩, PyDict.mem_keys.mpr ⟨timestamp, PyDict.get?_eq_some_iff.mp htimestamp⟩⟩
    · rintro ⟨⟨t, ht⟩, hk⟩
      obtain ⟨timestamp, htimestamp⟩ := PyDict.mem_keys.mp hk
      refine ⟨_, (RedisStreamsPublisherBackend.mockQueueMessage_eq_ok hm).mpr
        ⟨t, timestamp, ht, ?_, rfl⟩⟩
      rw [get?_encodeText (by decide)]
      exact PyDict.get?_eq_some_iff.mpr htimestamp
  · intro m payload d queueMessage hm hqueue
    obtain ⟨t, timestamp, -, -, rfl⟩ :=
      (RedisStreamsPublisherBackend.mockQueueMessage_eq_ok hm).mp hqueue
    exact carries_redisStreams hu messageRouting _ _ _ hm
  · intro m payload d hm
    rw [← exists_topic_iff]
    constructor
    · rintro ⟨call, hcall, -⟩
      obtain ⟨t, ht, -⟩ := RedisStreamsPublisherBackend.publish_eq_ok.mp hcall
      exact ⟨t, ht⟩
    · rintro ⟨t, ht⟩
      exact ⟨_, RedisStreamsPublisherBackend.publish_eq_ok.mpr ⟨t, ht, rfl⟩, _, "", 1, rfl⟩
  · intro m payload d call queueMessage hm hcall hdelivers
    obtain ⟨t, -, rfl⟩ := RedisStreamsPublisherBackend.publish_eq_ok.mp hcall
    obtain ⟨id, deliveryAttempt, rfl⟩ := hdelivers
    exact carries_redisStreams hu messageRouting _ _ _ hm

end Pairs

/-! ## The three validators -/

/-- Sync mode agrees with each transport exactly if the message is routed and no default header is
missing from its own, and if furthermore, for Pub/Sub, no header has the name of a parameter of the
client, and for Redis, the meta attributes are transport attributes. -/
def HedwigBaseValidator.SyncAgreesWhen {δ ξ : Type} (v : HedwigBaseValidator δ ξ) (π : Type) :
    Prop :=
  ∀ (settings : PublisherSettings δ π) (m : Message δ π) (h : Attributes),
    m.metadata.headers = ofDict h → (v.serialize m).isOk = true →
    (∀ cfg clock, SyncAgrees v (snsSqs δ cfg clock) settings m h ↔
      Routed cfg.messageRouting m ∧ ∀ k ∈ (settings.defaultHeaders m).keys, k ∈ h.keys) ∧
    (∀ cfg publishTime, SyncAgrees v (pubSub δ cfg publishTime) settings m h ↔
      Routed cfg.messageRouting m ∧ (∀ k ∈ (settings.defaultHeaders m).keys, k ∈ h.keys) ∧
        HeadersFree h.items) ∧
    ∀ messageRouting, SyncAgrees v (redisStreams δ messageRouting) settings m h ↔
      Routed messageRouting m ∧ (∀ k ∈ (settings.defaultHeaders m).keys, k ∈ h.keys) ∧
        v.useTransportMessageAttributes = true

/-- A validator that reads the headers it wrote, and uses the meta attributes as the three do. -/
lemma HedwigBaseValidator.ReadsHeaders.syncAgreesWhen {δ ξ : Type} {v : HedwigBaseValidator δ ξ}
    (hv : v.ReadsHeaders) (hu : v.UsesMetaAttributes) (π : Type) : v.SyncAgreesWhen π := by
  intro settings m h hh hserialize
  refine ⟨fun cfg clock => ?_, fun cfg publishTime => ?_, fun messageRouting => ?_⟩
  · rw [(mirrors_snsSqs hu cfg clock).syncAgrees_iff hv hu hh hserialize, true_and]
  · have hfree : FreeHeaders m ↔ HeadersFree h.items :=
      ⟨fun hm => hm _ hh, fun hm items hitems => by
        obtain rfl := PyObj.dict.inj (hh.symm.trans hitems)
        exact hm⟩
    rw [(mirrors_pubSub hu cfg publishTime).syncAgrees_iff hv hu hh hserialize, hfree, true_and,
      and_assoc, and_comm (a := HeadersFree h.items)]
  · rw [(mirrors_redisStreams hu messageRouting).syncAgrees_iff hv hu hh hserialize]
    constructor
    · exact fun ⟨⟨hrouted, hmode⟩, _, hkeys⟩ => ⟨hrouted, hkeys, hmode⟩
    · exact fun ⟨hrouted, hkeys, hmode⟩ => ⟨⟨hrouted, hmode⟩, hrouted, hkeys⟩

/-- **Sync mode.**  If the libraries write and read back what they promise, then for each of the
three validators, in the mode that is configured, and for every message that it serializes, with
whatever default headers: publishing it with `HEDWIG_SYNC` on and off invokes the same callback with
equal messages, whose headers are the default headers overridden by its own, exactly under the
condition of the pair of backends.

**Proof sketch.**  Each validator reads the headers that it wrote, in any order of the keys, and its
attributes are the meta attributes and the headers.  So `BackendPair.Mirrors.syncAgrees_iff` applies
to each of the three pairs. -/
theorem publish_syncAgrees_iff (π : Type) :
    (∀ v : JSONSchemaValidator, v.json.ReadsBack → v.jsonschema.ChecksContainer →
      v.toBase.SyncAgreesWhen π) ∧
    ∀ (lib : ProtoLib) (v : ProtobufValidator lib), lib.RoundTrips → lib.OrderFree →
      v.wire = .binary ∨ v.wire = .json → v.toBase.SyncAgreesWhen π :=
  ⟨fun v hjson hc => (JSONSchemaValidator.readsHeaders hjson hc).syncAgreesWhen
      v.usesMetaAttributes π,
    fun _ v hlib hfree hwire => (ProtobufValidator.readsHeaders hlib hfree hwire).syncAgreesWhen
      v.usesMetaAttributes π⟩

/-! ## A sample message -/

/-- The routing of the sample messages. -/
def sampleRouting : PyDict (String × String) Topic :=
  ⟨[(("trip_created", "1.*"), .name "dev-trip-created-v1"),
    (("TripCreated", "1.*"), .name "dev-trip-created-v1")], by decide⟩

/-- A clock in the year 2016. -/
def sampleClock : MockClock where
  fromTimestamp ms := .ok (1000 * ms)
  sentTimestamp := 1460868253255
  firstReceiveTimestamp := 1460868253300
  inRange := by
    have hread : ∀ ms ∈ [(1460868253255 : ℤ), 1460868253300],
        PyStr.int? (toString ms) = some ms := by decide +kernel
    intro ms hms
    refine ⟨?_, rfl⟩
    rw [intOfString, hread ms hms]

/-- Settings with one default header. -/
def samplePublisherSettings (δ : Type) (name : String) : PublisherSettings δ String where
  sync := false
  defaultHeaders _ := .ofList [(.str name, .str "0")]

/-- The headers of the sample messages. -/
def sampleHeaders : Attributes := .ofList [(.str "request_id", .str "1")]

/-- The JSON codec keeps its promise. -/
lemma emptyDocumentLib_readsBack : emptyDocumentLib.ReadsBack where
  loads o s _ h := by
    simp only [emptyDocumentLib] at h
    split at h
    · rw [← Except.ok.inj h]
      rfl
    · cases h
  reordered o o' s hreordered h := by
    simp only [emptyDocumentLib] at h
    split at h
    · generalize hempty : PyObj.dict [] = empty at hreordered
      cases hreordered with
      | fields hperm =>
        obtain rfl := PyObj.dict.inj hempty
        rw [hperm.nil_eq.symm]
        exact ⟨_, rfl⟩
      | value before k after hvalue => simp at hempty
    · cases h

/-- The runtime keeps its promise: it writes no containers. -/
lemma emptyMessageLib_orderFree : emptyMessageLib.OrderFree where
  binary _ _ _ _ h := by cases h
  json _ _ _ _ h := by cases h

/-- The theorem at a JSON and a protobuf message whose header overrides a default header. -/
theorem publish_syncAgrees_iff_sample :
    (SyncAgrees emptyDocumentValidator.toBase
        (snsSqs PyObj { sampleAwsSettings with messageRouting := sampleRouting } sampleClock)
        (samplePublisherSettings PyObj "request_id") (sampleMessage (.dict []) "trip_created")
        sampleHeaders ∧
      SyncAgrees emptyDocumentValidator.toBase
        (pubSub PyObj { sampleGcpSettings with messageRouting := sampleRouting } 0)
        (samplePublisherSettings PyObj "request_id") (sampleMessage (.dict []) "trip_created")
        sampleHeaders ∧
      SyncAgrees emptyDocumentValidator.toBase (redisStreams PyObj sampleRouting)
        (samplePublisherSettings PyObj "request_id") (sampleMessage (.dict []) "trip_created")
        sampleHeaders) ∧
    SyncAgrees emptyMessageValidator.toBase
      (snsSqs Unit { sampleAwsSettings with messageRouting := sampleRouting } sampleClock)
      (samplePublisherSettings Unit "request_id") (sampleMessage () "TripCreated")
      sampleHeaders := by
  obtain ⟨hjson, hproto⟩ := publish_syncAgrees_iff String
  have hkeys : ∀ k ∈ (PyDict.ofList [(PyKey.str "request_id", PyObj.str "0")]).keys,
      k ∈ sampleHeaders.keys := by decide
  obtain ⟨hsns, hpubSub, hredis⟩ := hjson emptyDocumentValidator emptyDocumentLib_readsBack
    checksContainer_permissiveSchemaLib (samplePublisherSettings PyObj "request_id")
    (sampleMessage (.dict []) "trip_created") sampleHeaders rfl (by decide +kernel)
  obtain ⟨hsns', -, -⟩ := hproto emptyMessageLib emptyMessageValidator emptyMessageLib_roundTrips
    emptyMessageLib_orderFree (.inl rfl) (samplePublisherSettings Unit "request_id")
    (sampleMessage () "TripCreated") sampleHeaders rfl (by decide +kernel)
  refine ⟨⟨(hsns _ _).mpr ⟨by decide, hkeys⟩, (hpubSub _ _).mpr ⟨by decide, hkeys, ?_⟩,
    (hredis _).mpr ⟨by decide, hkeys, rfl⟩⟩, (hsns' _ _).mpr ⟨by decide, hkeys⟩⟩
  intro k hk hmem
  obtain rfl : k = "request_id" := PyKey.str.inj (List.mem_singleton.mp hmem)
  exact absurd hk (by decide)

/-- A default header that the sample message does not have is missing in sync mode, with each of the
transports; and for Pub/Sub a message with a header `data` reaches its callback in sync mode
only. -/
theorem publish_syncAgrees_counterexample :
    (¬ SyncAgrees emptyDocumentValidator.toBase
        (snsSqs PyObj { sampleAwsSettings with messageRouting := sampleRouting } sampleClock)
        (samplePublisherSettings PyObj "mickey") (sampleMessage (.dict []) "trip_created")
        sampleHeaders ∧
      ¬ SyncAgrees emptyDocumentValidator.toBase
        (pubSub PyObj { sampleGcpSettings with messageRouting := sampleRouting } 0)
        (samplePublisherSettings PyObj "mickey") (sampleMessage (.dict []) "trip_created")
        sampleHeaders ∧
      ¬ SyncAgrees emptyDocumentValidator.toBase (redisStreams PyObj sampleRouting)
        (samplePublisherSettings PyObj "mickey") (sampleMessage (.dict []) "trip_created")
        sampleHeaders) ∧
    ¬ SyncAgrees emptyDocumentValidator.toBase
      (pubSub PyObj { sampleGcpSettings with messageRouting := sampleRouting } 0)
      ⟨false, fun _ => .empty⟩ (headerMessage "data") (.ofList [(.str "data", .str "1")]) := by
  have hv := (JSONSchemaValidator.readsHeaders (v := emptyDocumentValidator)
    emptyDocumentLib_readsBack checksContainer_permissiveSchemaLib).syncAgreesWhen
      emptyDocumentValidator.usesMetaAttributes String
  have hkeys : ¬ ∀ k ∈ (PyDict.ofList [(PyKey.str "mickey", PyObj.str "0")]).keys,
      k ∈ sampleHeaders.keys := by decide
  obtain ⟨hsns, hpubSub, hredis⟩ := hv (samplePublisherSettings PyObj "mickey")
    (sampleMessage (.dict []) "trip_created") sampleHeaders rfl (by decide +kernel)
  obtain ⟨-, hpubSub', -⟩ := hv ⟨false, fun _ => .empty⟩ (headerMessage "data")
    (.ofList [(.str "data", .str "1")]) rfl (by decide +kernel)
  refine ⟨⟨fun h => hkeys ((hsns _ _).mp h).2, fun h => hkeys ((hpubSub _ _).mp h).2.1,
    fun h => hkeys ((hredis _).mp h).2.1⟩, fun h => ?_⟩
  exact ((hpubSub' _ _).mp h).2.2 "data" (by decide) (List.mem_singleton_self _)

end Hedwig
