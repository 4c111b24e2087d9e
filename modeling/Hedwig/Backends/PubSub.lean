import Hedwig.Backends.Gcp
import Hedwig.Backends.Lambda

set_option relaxedAutoImplicit false
set_option autoImplicit false

/-!
# Fidelity of Pub/Sub

The publisher and `requeue_dead_letter` pass the attributes of a message as keyword arguments of
`PublisherClient.publish`.  The client gets the attributes as they are exactly if no header has the
name of a parameter of that method.

## Main definitions

* `Hedwig.publishParameters` — the names of the parameters.
* `Hedwig.HandsOver` — a call of the client with exactly the payload and the attributes.
* `Hedwig.DeadLetter.Carries` — a dead letter that a message was published as.

## Main results

* `Hedwig.callPublish_handsOver_iff` — which attributes are handed over.
* `Hedwig.publish_handsOver_iff` — which messages are, by both backends.
* `Hedwig.publish_refuses_header` — headers with the names `data` and `ordering_key`.
-/

namespace Hedwig

/-- The names of the parameters of `PublisherClient.publish`. -/
def publishParameters : List String :=
  ["self", "topic", "data", "ordering_key", "retry", "timeout"]

/-- The names that are bound to a parameter. -/
lemma takesKeyword_publishSignature {k : String} :
    PyCall.takesKeyword publishSignature k = true ↔ k ∈ publishParameters := by
  simp [PyCall.takesKeyword, publishSignature, publishParameters, @eq_comm _ k]

/-- No reserved name is the name of a parameter. -/
lemma startsWith_of_mem_publishParameters {k : String} (h : k ∈ publishParameters) :
    PyStr.startsWith k reservedPrefix = false := by
  simp only [publishParameters, List.mem_cons, List.not_mem_nil, or_false] at h
  rcases h with rfl | rfl | rfl | rfl | rfl | rfl <;> decide

/-- The client gets exactly the payload, as bytes, and the attributes, with at most the encoding
added, and no option is set. -/
def HandsOver (payload : Payload) (attributes : PyDict String String)
    (result : Except PyException (PyCall.Bound PublishArg)) : Prop :=
  ∃ call, result = .ok call ∧ call.args = [] ∧
    call.arguments.get? "data" = some (.bytes (encodeData payload attributes).1) ∧
    (∀ name ∈ ["ordering_key", "retry", "timeout"], name ∉ call.arguments.keys) ∧
    ∀ k, k ≠ "hedwig_encoding" → call.kwargs.get? k = (attributes.get? k).map .text

/-- What is bound before the attributes. -/
def boundData (path : String) (data : List UInt8) : PyCall.Bound PublishArg :=
  ⟨.ofList [("self", .client), ("topic", .text path), ("data", .bytes data)], [], .empty⟩

/-- The attributes are bound one after the other. -/
lemma callPublish_eq_ok {path : String} {data : List UInt8} {attrs : PyDict String String}
    {call : PyCall.Bound PublishArg} :
    callPublish path data attrs = .ok call ↔
      (attrs.items.map fun kv => (kv.1, PublishArg.text kv.2)).foldlM
        (PyCall.bindKeyword publishSignature) (boundData path data) = some call ∧
      PyCall.complete publishSignature call = true := by
  have hdata : PyCall.bindKeyword publishSignature
      ⟨.ofList [("self", .client), ("topic", .text path)], [], .empty⟩ ("data", .bytes data) =
      some (boundData path data) := rfl
  have hpositional : PyCall.bindPositional (PyCall.hasKind publishSignature .varPositional)
      (publishSignature.filter fun p =>
        p.kind = .positionalOnly || p.kind = .positionalOrKeyword)
      [PublishArg.client, .text path] .empty =
        some ⟨.ofList [("self", .client), ("topic", .text path)], [], .empty⟩ := rfl
  have hbind : callPublish path data attrs = .ok call ↔ PyCall.bind publishSignature
      [.client, .text path] (("data", .bytes data) :: attrs.items.map fun kv =>
        (kv.1, .text kv.2)) = some call := by
    rw [callPublish]
    split
    · next call' hcall' => rw [hcall', Except.ok.injEq, Option.some.injEq]
    · next hnone => rw [hnone]; simp
  rw [hbind]
  simp only [PyCall.bind, hpositional, List.foldlM_cons, hdata, Option.bind_eq_bind,
    Option.bind_some, Option.bind_eq_some_iff]
  constructor
  · rintro ⟨call', hfold, hcomplete⟩
    split_ifs at hcomplete with h
    obtain rfl := Option.some.inj hcomplete
    exact ⟨hfold, h⟩
  · rintro ⟨hfold, hcomplete⟩
    exact ⟨call, hfold, if_pos hcomplete⟩

/-- Attributes that name no parameter are bound as they are. -/
lemma callPublish_of_free (path : String) (data : List UInt8) {attrs : PyDict String String}
    (hfree : ∀ k ∈ attrs.keys, k ∉ publishParameters) :
    ∃ call, callPublish path data attrs = .ok call ∧ call.args = [] ∧
      call.arguments = .ofList [("self", .client), ("topic", .text path), ("data", .bytes data)] ∧
      call.kwargs = attrs.mapItems id Function.injective_id PublishArg.text := by
  obtain ⟨call, hkeywords, harguments, hargs, hkwargs⟩ :=
    PyCall.foldlM_bindKeyword (show PyCall.hasKind publishSignature .varKeyword = true by decide)
      (attrs.mapItems id Function.injective_id PublishArg.text).nodup
      (by
        intro kw hkw
        obtain ⟨kv, hkv, rfl⟩ := List.mem_map.mp hkw
        have hk := hfree kv.1 (PyDict.mem_keys.mpr ⟨kv.2, hkv⟩)
        exact Bool.eq_false_iff.mpr (mt takesKeyword_publishSignature.mp hk))
      (boundData path data) (fun _ _ => List.not_mem_nil)
  have hcomplete : PyCall.complete publishSignature call = true := by
    simp only [PyCall.complete, harguments]
    rfl
  exact ⟨call, callPublish_eq_ok.mpr ⟨hkeywords, hcomplete⟩, hargs, harguments,
    PyDict.ext hkwargs⟩

/-- A call that sets no option binds no attribute to a parameter. -/
lemma free_of_callPublish {path : String} {data : List UInt8} {attrs : PyDict String String}
    {call : PyCall.Bound PublishArg} (hcall : callPublish path data attrs = .ok call)
    (hoptions : ∀ name ∈ ["ordering_key", "retry", "timeout"], name ∉ call.arguments.keys) :
    ∀ k ∈ attrs.keys, k ∉ publishParameters := by
  intro k hk hparameter
  obtain ⟨value, hvalue⟩ := PyDict.mem_keys.mp hk
  obtain ⟨hnot, hmem⟩ := (PyCall.taken_of_foldlM_bindKeyword (callPublish_eq_ok.mp hcall).1).2
    (k, .text value) (List.mem_map.mpr ⟨(k, value), hvalue, rfl⟩)
    (takesKeyword_publishSignature.mpr hparameter)
  -- the first three parameters have an argument before, the others are options
  rw [show (boundData path data).arguments.keys = ["self", "topic", "data"] from rfl] at hnot
  simp only [publishParameters, List.mem_cons, List.not_mem_nil, or_false] at hparameter hnot
  rcases hparameter with rfl | rfl | rfl | rfl | rfl | rfl
  · exact hnot (.inl rfl)
  · exact hnot (.inr (.inl rfl))
  · exact hnot (.inr (.inr rfl))
  · exact hoptions _ (by simp) hmem
  · exact hoptions _ (by simp) hmem
  · exact hoptions _ (by simp) hmem

/-- **The call of the client** hands over the data and the attributes exactly if no attribute has
the name of a parameter.

**Proof sketch.**  The call binds its keywords to the parameters of `publish`.  An attribute with
the name of a parameter is bound to it, or refused, so it is missing among the keywords; without
such an attribute each keyword is passed on, and the data are the only other argument. -/
theorem callPublish_handsOver_iff {path : String} {data : List UInt8} {payload : Payload}
    {attributes attrs : PyDict String String}
    (hencoding : "hedwig_encoding" ∉ attributes.keys)
    (hdata : data = (encodeData payload attributes).1)
    (hattrs : ∀ k, attrs.get? k = (encodeData payload attributes).2.get? k) :
    HandsOver payload attributes (callPublish path data attrs) ↔
      ∀ k ∈ attributes.keys, k ∉ publishParameters := by
  have hget : ∀ k, k ≠ "hedwig_encoding" → attrs.get? k = attributes.get? k := by
    intro k hk
    rw [hattrs]
    cases payload with
    | str s => exact PyDict.get?_set_of_ne attributes "utf8" hk
    | bytes b => rfl
  constructor
  · rintro ⟨call, hcall, -, -, -, hkwargs⟩ k hk hparameter
    have hne : k ≠ "hedwig_encoding" := fun he => hencoding (he ▸ hk)
    have hfound : call.kwargs.get? k ≠ none := by
      rw [hkwargs k hne]
      intro hnone
      exact PyDict.get?_eq_none_iff.mp (Option.map_eq_none_iff.mp hnone) hk
    rw [callPublish] at hcall
    split at hcall
    · next bound hbind =>
      obtain rfl := Except.ok.inj hcall
      exact hfound (PyDict.get?_eq_none_iff.mpr (PyCall.notMem_kwargs_of_bind
        (takesKeyword_publishSignature.mpr hparameter) hbind))
    · cases hcall
  · intro hfree
    have hfree' : ∀ k ∈ attrs.keys, k ∉ publishParameters := by
      intro k hk hparameter
      have hne : k ≠ "hedwig_encoding" := by
        rintro rfl
        exact absurd hparameter (by decide)
      refine hfree k ?_ hparameter
      by_contra hnot
      have hnone := PyDict.get?_eq_none_iff.mpr hnot
      rw [← hget k hne] at hnone
      exact PyDict.get?_eq_none_iff.mp hnone hk
    obtain ⟨call, hcall, hargs, harguments, hkwargs⟩ := callPublish_of_free path data hfree'
    refine ⟨call, hcall, hargs, ?_, ?_, fun k hk => ?_⟩
    · rw [harguments, ← hdata]
      rfl
    · rw [harguments]
      intro name hname hmem
      have hkeys : name ∈ ["self", "topic", "data"] := hmem
      have hdisjoint : ∀ name ∈ ["ordering_key", "retry", "timeout"],
          name ∉ ["self", "topic", "data"] := by decide
      exact hdisjoint name hname hkeys
    · rw [hkwargs, ← hget k hk]
      exact PyDict.get?_mapItems id Function.injective_id _ _ k

/-! ## Requeueing -/

/-- A dead letter that was published with a payload and attributes. -/
structure DeadLetter.Carries (letter : DeadLetter) (payload : Payload)
    (attributes : PyDict String String) : Prop where
  data : letter.data = (encodeData payload attributes).1
  attributes : ∀ k, letter.attributes.get? k = (encodeData payload attributes).2.get? k

/-- The attempt to publish a dead letter that an event is, if any. -/
def RequeueEvent.publish? :
    RequeueEvent → Option (DeadLetter × Except PyException (PyCall.Bound PublishArg))
  | .publish letter call => some (letter, call)
  | _ => none

/-- The dead letters that are received before the loop ends. -/
def received : List PullResponse → List DeadLetter
  | .messages (letter :: letters) :: rest => letter :: letters ++ received rest
  | _ => []

/-- The deadline of a dead letter is extended first, if it is to be. -/
def DeadLetter.Attempted (visibilityTimeout : Option ℤ) (letter : DeadLetter) : Bool :=
  visibilityTimeout.all (· = 0) || letter.modifyAckDeadline.isOk

/-- From `publish` on, a dead letter is attempted once, with its data and its attributes. -/
lemma publish?_publishAgain (cfg : GcpSettings) (letter : DeadLetter) :
    (GooglePubSubConsumerBackend.publishAgain cfg letter).filterMap RequeueEvent.publish? =
      [(letter, callPublish (GooglePubSubConsumerBackend.requeueTopicPath cfg) letter.data
        letter.attributes)] := by
  unfold GooglePubSubConsumerBackend.publishAgain
  cases callPublish (GooglePubSubConsumerBackend.requeueTopicPath cfg) letter.data
      letter.attributes with
  | error e => rfl
  | ok bound =>
    simp only []
    split_ifs <;> rfl

/-- A dead letter is attempted unless extending its deadline raises. -/
lemma publish?_requeueMessage (cfg : GcpSettings) (visibilityTimeout : Option ℤ)
    (letter : DeadLetter) :
    (GooglePubSubConsumerBackend.requeueMessage cfg visibilityTimeout letter).filterMap
        RequeueEvent.publish? =
      if letter.Attempted visibilityTimeout then
        [(letter, callPublish (GooglePubSubConsumerBackend.requeueTopicPath cfg) letter.data
          letter.attributes)]
      else [] := by
  unfold GooglePubSubConsumerBackend.requeueMessage DeadLetter.Attempted
  cases visibilityTimeout with
  | none => exact publish?_publishAgain cfg letter
  | some seconds =>
    by_cases hseconds : seconds = 0
    · simp [hseconds, publish?_publishAgain]
    · have hevent : (RequeueEvent.modifyAckDeadline letter.ackId seconds).publish? = none := rfl
      cases hmodify : letter.modifyAckDeadline.isOk <;>
        simp [hseconds, hevent, publish?_publishAgain]

/-- The calls of the loop are those for each dead letter that is received, in order, whatever became
of the others; by induction on the responses. -/
lemma snd_requeueLoop (cfg : GcpSettings) (visibilityTimeout : Option ℤ)
    (responses : List PullResponse) :
    (GooglePubSubConsumerBackend.requeueLoop cfg visibilityTimeout responses).2 =
      (received responses).flatMap
        (GooglePubSubConsumerBackend.requeueMessage cfg visibilityTimeout) := by
  induction responses with
  | nil => rfl
  | cons response rest ih =>
    cases response with
    | deadlineExceeded => rfl
    | raises e => rfl
    | messages letters =>
      cases letters with
      | nil => rfl
      | cons letter letters =>
        simp only [GooglePubSubConsumerBackend.requeueLoop, received]
        rw [ih, List.flatMap_append]

/-- **`requeue_dead_letter`** attempts to publish each dead letter that is received, in order, once,
with its data and its attributes as keywords; by induction on the dead letters. -/
theorem requeueLoop_attempts (cfg : GcpSettings) (visibilityTimeout : Option ℤ)
    (responses : List PullResponse) :
    (GooglePubSubConsumerBackend.requeueLoop cfg visibilityTimeout responses).2.filterMap
        RequeueEvent.publish? =
      ((received responses).filter (DeadLetter.Attempted visibilityTimeout)).map fun letter =>
        (letter, callPublish (GooglePubSubConsumerBackend.requeueTopicPath cfg) letter.data
          letter.attributes) := by
  rw [snd_requeueLoop]
  induction received responses with
  | nil => rfl
  | cons letter rest ih =>
    rw [List.flatMap_cons, List.filterMap_append, publish?_requeueMessage, ih]
    cases h : letter.Attempted visibilityTimeout <;> simp [h]

/-! ## The three validators -/

/-- No header has the name of a parameter of `PublisherClient.publish`. -/
def HeadersFree (items : List (PyKey × PyObj)) : Prop :=
  ∀ k ∈ publishParameters, .str k ∉ items.map Prod.fst

/-- Whatever the validator serializes is handed over by both Pub/Sub code paths exactly if no
header has the name of a parameter. -/
def HedwigBaseValidator.HandsOverFreeHeaders {δ ξ : Type} (v : HedwigBaseValidator δ ξ)
    (π : Type) : Prop :=
  ∀ (m : Message δ π) (payload : Payload) (attributes : Attributes)
    (items : List (PyKey × PyObj)),
    v.serialize m = .ok (payload, attributes) → m.metadata.headers = .dict items →
    ∃ d : PyDict String String, attributes = ofStrings d ∧
      (∀ cfg path, GooglePubSubPublisherBackend.getTopicPath cfg m = .ok path →
        (HandsOver payload d (GooglePubSubPublisherBackend.publish cfg m payload d) ↔
          HeadersFree items)) ∧
      ∀ cfg subscriptionPaths visibilityTimeout responses letter call,
        (letter, call) ∈ (GooglePubSubConsumerBackend.requeueDeadLetter cfg subscriptionPaths
          visibilityTimeout responses).2.filterMap RequeueEvent.publish? →
        letter.Carries payload d → (HandsOver payload d call ↔ HeadersFree items)

/-- No attribute of a serialized message names a parameter exactly if no header does. -/
lemma HedwigBaseValidator.UsesMetaAttributes.free_iff_headersFree {δ ξ π : Type}
    {v : HedwigBaseValidator δ ξ} (hv : v.UsesMetaAttributes) {m : Message δ π} {payload : Payload}
    {d : PyDict String String} {items : List (PyKey × PyObj)}
    (hserialize : v.serialize m = .ok (payload, ofStrings d))
    (hitems : m.metadata.headers = .dict items) :
    (∀ k ∈ d.keys, k ∉ publishParameters) ↔ HeadersFree items := by
  have hkey : ∀ k ∈ publishParameters, (k ∈ d.keys ↔ .str k ∈ items.map Prod.fst) :=
    fun k hk => hv.mem_keys_serialize hitems hserialize (startsWith_of_mem_publishParameters hk)
  exact ⟨fun h k hk hmem => h k ((hkey k hk).mpr hmem) hk,
    fun h k hmem hk => h k hk ((hkey k hk).mp hmem)⟩

/-- A validator that uses the meta attributes as the three do. -/
lemma HedwigBaseValidator.UsesMetaAttributes.handsOverFreeHeaders {δ ξ : Type}
    {v : HedwigBaseValidator δ ξ} (hv : v.UsesMetaAttributes) (π : Type) :
    v.HandsOverFreeHeaders π := by
  intro m payload attributes items hserialize hitems
  obtain ⟨d, rfl, hnames⟩ := hv.serialize_attributes hserialize
  have hencoding : "hedwig_encoding" ∉ d.keys := fun hk => hnames _ hk (by simp [transportFields])
  have hfree := hv.free_iff_headersFree hserialize hitems
  refine ⟨d, rfl, fun cfg path hpath => ?_, ?_⟩
  · have hpublish : GooglePubSubPublisherBackend.publish cfg m payload d =
        callPublish path (encodeData payload d).1 (encodeData payload d).2 := by
      rw [GooglePubSubPublisherBackend.publish, hpath]
      rfl
    rw [hpublish, callPublish_handsOver_iff hencoding rfl fun _ => rfl, hfree]
  · intro cfg subscriptionPaths visibilityTimeout responses letter call hmem hcarries
    rw [GooglePubSubConsumerBackend.requeueDeadLetter] at hmem
    split_ifs at hmem
    · rw [requeueLoop_attempts] at hmem
      obtain ⟨letter', -, he⟩ := List.mem_map.mp hmem
      obtain ⟨rfl, rfl⟩ := Prod.mk.inj he
      rw [callPublish_handsOver_iff hencoding hcarries.data hcarries.attributes, hfree]
    · cases hmem

/-- **Attributes on Pub/Sub.**  For each of the three validators and every message that it
serializes: publishing it, and publishing it again from the dead-letter subscription in any run of
`requeue_dead_letter`, hands the payload and the attributes to the client as they are exactly if no
header has the name of a parameter of `PublisherClient.publish`.

**Proof sketch.**  No meta attribute has the name of a parameter, so only headers can.  What is
published again has the same attributes, since the loop passes them on as it found them. -/
theorem publish_handsOver_iff (π : Type) :
    (∀ v : JSONSchemaValidator, v.toBase.HandsOverFreeHeaders π) ∧
      ∀ (lib : ProtoLib) (v : ProtobufValidator lib), v.toBase.HandsOverFreeHeaders π :=
  ⟨fun v => v.usesMetaAttributes.handsOverFreeHeaders π,
    fun _ v => v.usesMetaAttributes.handsOverFreeHeaders π⟩

/-! ## Sample messages -/

/-- The sample message with one header. -/
def headerMessage (name : String) : Message PyObj String :=
  let m := sampleMessage (PyObj.dict []) "trip_created"
  { m with metadata := { m.metadata with headers := .dict [(.str name, .str "1")] } }

/-- Settings that route the sample message. -/
def sampleGcpSettings : GcpSettings where
  project := "dev"
  queue := "myapp"
  messageRouting := ⟨[(("trip_created", "1.*"), .name "dev-trip-created-v1")],
    List.nodup_singleton _⟩

/-- A dead letter for which every call returns. -/
def sampleDeadLetter (data : List UInt8) (attributes : PyDict String String) : DeadLetter where
  ackId := "ack"
  data := data
  attributes := attributes
  modifyAckDeadline := .ok ()
  publish _ := .ok ()
  result := .ok ()
  acknowledge := .ok ()

/-- The theorem at a message with a header that names no parameter: it is handed over when it is
published, and again when it is requeued. -/
theorem publish_handsOver_iff_sample :
    ∃ payload d, emptyDocumentValidator.toBase.serialize (headerMessage "request_id") =
        .ok (payload, ofStrings d) ∧
      HandsOver payload d
        (GooglePubSubPublisherBackend.publish sampleGcpSettings (headerMessage "request_id")
          payload d) ∧
      ∀ letter call, (letter, call) ∈ (GooglePubSubConsumerBackend.requeueDeadLetter
          sampleGcpSettings ["myapp-dlq"] none [.messages [sampleDeadLetter (encodeData payload d).1
            (encodeData payload d).2]]).2.filterMap RequeueEvent.publish? →
        HandsOver payload d call := by
  obtain ⟨⟨payload, attributes⟩, hrun⟩ := exists_of_isOk
    (show (emptyDocumentValidator.toBase.serialize (headerMessage "request_id")).isOk = true by
      decide +kernel)
  obtain ⟨d, rfl, hpublish, hrequeue⟩ :=
    (publish_handsOver_iff String).1 emptyDocumentValidator _ _ _ _ hrun rfl
  have hfree : HeadersFree [(.str "request_id", .str "1")] := by
    intro k hk hmem
    obtain rfl : k = "request_id" := by simpa using hmem
    exact absurd hk (by decide)
  obtain ⟨path, hpath⟩ := exists_of_isOk (show (GooglePubSubPublisherBackend.getTopicPath
    sampleGcpSettings (headerMessage "request_id")).isOk = true by decide +kernel)
  refine ⟨payload, d, hrun, (hpublish _ path hpath).mpr hfree, fun letter call hmem => ?_⟩
  have hletter : letter = sampleDeadLetter (encodeData payload d).1 (encodeData payload d).2 := by
    have hone : ["myapp-dlq"].length = 1 := rfl
    rw [GooglePubSubConsumerBackend.requeueDeadLetter, if_pos hone, requeueLoop_attempts] at hmem
    obtain ⟨letter', hreceived, he⟩ := List.mem_map.mp hmem
    obtain ⟨rfl, -⟩ := Prod.mk.inj he
    exact List.mem_singleton.mp (List.mem_of_mem_filter hreceived)
  exact (hrequeue _ _ _ _ letter call hmem (hletter ▸ ⟨rfl, fun _ => rfl⟩)).mpr hfree

/-- The sample message with a header that names a parameter is not handed over. -/
lemma not_handsOver_headerMessage {name : String} (hname : name ∈ publishParameters)
    (hreturns : (emptyDocumentValidator.toBase.serialize (headerMessage name)).isOk = true) :
    ∃ payload d, emptyDocumentValidator.toBase.serialize (headerMessage name) =
        .ok (payload, ofStrings d) ∧
      ¬ HandsOver payload d
        (GooglePubSubPublisherBackend.publish sampleGcpSettings (headerMessage name) payload
          d) := by
  obtain ⟨⟨payload, attributes⟩, hrun⟩ := exists_of_isOk hreturns
  obtain ⟨d, rfl, hpublish, -⟩ :=
    emptyDocumentValidator.usesMetaAttributes.handsOverFreeHeaders String _ _ _ _ hrun rfl
  -- the topic does not depend on the headers
  obtain ⟨path, hpath⟩ := exists_of_isOk (show (GooglePubSubPublisherBackend.getTopicPath
    sampleGcpSettings (sampleMessage (PyObj.dict []) "trip_created")).isOk = true by
      decide +kernel)
  have htopic : topic sampleGcpSettings.messageRouting (headerMessage name) =
      topic sampleGcpSettings.messageRouting (sampleMessage (PyObj.dict []) "trip_created") :=
    topic_congr _ rfl rfl
  rw [GooglePubSubPublisherBackend.getTopicPath, ← htopic] at hpath
  refine ⟨payload, d, hrun, fun hover => ?_⟩
  exact (hpublish _ path hpath).mp hover name hname (List.mem_singleton_self _)

/-- Messages with a header `data`, which the call passes twice, or `ordering_key`, which the client
takes for an option, are serialized and not handed over. -/
theorem publish_refuses_header :
    (∃ payload d, emptyDocumentValidator.toBase.serialize (headerMessage "data") =
        .ok (payload, ofStrings d) ∧
      ¬ HandsOver payload d
        (GooglePubSubPublisherBackend.publish sampleGcpSettings (headerMessage "data") payload
          d)) ∧
    ∃ payload d, emptyDocumentValidator.toBase.serialize (headerMessage "ordering_key") =
        .ok (payload, ofStrings d) ∧
      ¬ HandsOver payload d
        (GooglePubSubPublisherBackend.publish sampleGcpSettings (headerMessage "ordering_key")
          payload d) :=
  ⟨not_handsOver_headerMessage (by decide) (by decide +kernel),
    not_handsOver_headerMessage (by decide) (by decide +kernel)⟩

end Hedwig
