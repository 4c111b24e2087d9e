import Hedwig.Backends.Dispatch
import Hedwig.Validators.HeaderOrder

set_option relaxedAutoImplicit false
set_option autoImplicit false

/-!
# Sync mode and a transport

With `HEDWIG_SYNC` a message reaches its callback without a transport.  This file compares the two
ways for any pair of backends whose queue messages carry a payload and its attributes: they call the
same callback with an equal message exactly if the pair makes a mock queue message of it, transports
it, and no default header is missing from its own headers, since sync mode adds none.

## Main definitions

* `Hedwig.BackendPair.Carries` — a queue message carries a payload and attributes.
* `Hedwig.SyncAgrees` — the property of a message, with its default headers.
* `Hedwig.BackendPair.Mirrors` — which messages a pair mocks and transports.

## Main results

* `Hedwig.BackendPair.Mirrors.syncAgrees_iff` — when sync mode agrees with the transport.
-/

namespace Hedwig

/-! ## One queue message -/

section Handle

variable {δ ξ π : Type} {v : HedwigBaseValidator δ ξ}

/-- `message_handler` executes the callback of the message that is deserialized. -/
lemma messageHandler_of_deserialize {callbacks : CallbackRegistry δ π} {payload : Payload}
    {attributes : PyDict String String} {providerMetadata : Option π} {m : Message δ π}
    (h : v.deserialize payload (ofStrings attributes) providerMetadata = .ok m) :
    HedwigConsumerBaseBackend.messageHandler v callbacks payload attributes providerMetadata =
      m.execCallback callbacks := by
  simp only [HedwigConsumerBaseBackend.messageHandler, HedwigConsumerBaseBackend.buildMessage, h,
    Message.execCallback, bind, Except.bind]
  cases hcallback : m.callback callbacks with
  | error e => rfl
  | ok c => simp only [pure, Except.pure, hcallback]

/-- `process_message` calls the handler with a payload and with attributes, except for the
encoding. -/
def BackendPair.Carries (pair : BackendPair δ) (queueMessage : pair.QueueMessage)
    (payload : Payload) (attributes : PyDict String String) : Prop :=
  ∃ (attributes' : PyDict String String) (metadata : pair.ProviderMetadata),
    (∀ k, k ≠ "hedwig_encoding" → attributes'.get? k = attributes.get? k) ∧
    ∀ messageHandler, pair.processMessage messageHandler queueMessage =
      messageHandler payload attributes' metadata

/-- Attributes of strings, as a transport returns them. -/
lemma sameButEncoding_ofStrings {b d : PyDict String String}
    (h : ∀ k, k ≠ "hedwig_encoding" → b.get? k = d.get? k) :
    SameButEncoding (ofStrings b) (ofStrings d) := by
  have hstr : ∀ (d : PyDict String String) k, (ofStrings d).get? (.str k) = (d.get? k).map .str :=
    fun d k => PyDict.get?_mapItems _ _ _ d k
  have hkeys : ∀ d : PyDict String String, (ofStrings d).keys.all PyKey.isStr = true := by
    intro d
    rw [List.all_eq_true]
    intro k hk
    obtain ⟨o, ho⟩ := PyDict.mem_keys.mp hk
    obtain ⟨s, t, rfl, -, -⟩ := mem_ofStrings.mp ho
    rfl
  refine ⟨hkeys b, fun k hk => ?_⟩
  cases k with
  | str s => rw [hstr, hstr, h s fun he => hk (congrArg PyKey.str he)]
  | _ =>
    -- a key that is no string is in neither
    refine (PyDict.get?_eq_none_iff.mpr fun hmem => ?_).trans
      (PyDict.get?_eq_none_iff.mpr fun hmem => ?_).symm <;>
    exact absurd (List.all_eq_true.mp (hkeys _) _ hmem) Bool.false_ne_true

end Handle

/-! ## The property -/

section Agreement

variable {δ ξ π : Type} (v : HedwigBaseValidator δ ξ) (pair : BackendPair δ)
  (settings : PublisherSettings δ π)

/-- Publishing in sync mode runs the hooks, and between them the callback of a message, whatever
the hooks and the callbacks are. -/
def InvokedBySync (m : Message δ π) (msg : Message δ pair.ProviderMetadata) : Prop :=
  ∃ queueMessage, ∀ code : ConsumerCode δ pair,
    HedwigPublisherBaseBackend.publish v pair { settings with sync := true } .empty code m = do
      code.preProcessHook queueMessage
      msg.execCallback code.callbacks
      code.postProcessHook queueMessage
      return .dispatched

/-- Publishing to the transport hands over a call. -/
def HandedOver (m : Message δ π) (call : pair.Call) : Prop :=
  ∀ code : ConsumerCode δ pair,
    HedwigPublisherBaseBackend.publish v pair { settings with sync := false } .empty code m =
      .ok (.handedOver call)

/-- **Sync mode agrees with the transport** on a message with headers `h`: publishing it in sync
mode and delivering it through the transport invoke the same callback with a message that is equal
apart from the metadata of the provider, and its headers are the default headers overridden by its
own. -/
def SyncAgrees (m : Message δ π) (h : Attributes) : Prop :=
  ∃ msg : Message δ pair.ProviderMetadata, InvokedBySync v pair settings m msg ∧
    SameDict msg.metadata.headers (ofDict ((settings.defaultHeaders m).update h)) ∧
    ∃ call, HandedOver v pair settings m call ∧
      (∃ queueMessage, pair.Delivers call queueMessage) ∧
      ∀ queueMessage, pair.Delivers call queueMessage →
        ∃ msg' : Message δ pair.ProviderMetadata,
          (∀ callbacks, pair.process v callbacks queueMessage = msg'.execCallback callbacks) ∧
          (∀ callbacks, msg.callback callbacks = msg'.callback callbacks) ∧
          (msg.withProviderMetadata none).Equal (msg'.withProviderMetadata none) ∧
          SameDict msg'.metadata.headers (ofDict ((settings.defaultHeaders m).update h))

/-- Which messages a pair mocks and which it transports; what it does carries the payload and the
attributes. -/
structure BackendPair.Mirrors (π : Type) (Mocks Transports : Message δ π → Prop) : Prop where
  mock : ∀ (m : Message δ π) payload d, v.serialize m = .ok (payload, ofStrings d) →
    ((∃ queueMessage, pair.mockQueueMessage v m = .ok queueMessage) ↔ Mocks m)
  mockCarries : ∀ (m : Message δ π) payload d queueMessage,
    v.serialize m = .ok (payload, ofStrings d) →
    pair.mockQueueMessage v m = .ok queueMessage → pair.Carries queueMessage payload d
  transport : ∀ (m : Message δ π) payload d, v.serialize m = .ok (payload, ofStrings d) →
    ((∃ call, pair.publish m payload d = .ok call ∧
        ∃ queueMessage, pair.Delivers call queueMessage) ↔ Transports m)
  transportCarries : ∀ (m : Message δ π) payload d call queueMessage,
    v.serialize m = .ok (payload, ofStrings d) → pair.publish m payload d = .ok call →
    pair.Delivers call queueMessage → pair.Carries queueMessage payload d
  reordered : ∀ (m : Message δ π) (h h' : Attributes), (∀ k, h.get? k = h'.get? k) →
    Transports (m.withHeaders (ofDict h)) → Transports (m.withHeaders (ofDict h'))

end Agreement

/-! ## The headers that are published -/

section Headers

variable {δ ξ π : Type} {v : HedwigBaseValidator δ ξ} {pair : BackendPair δ}

/-- The headers of a message that is published. -/
def publishedHeaders (defaultHeaders h : Attributes) : Attributes :=
  if defaultHeaders.items = [] then h else defaultHeaders.update h

/-- They are the default headers overridden by its own. -/
lemma get?_publishedHeaders (defaultHeaders h : Attributes) (k : PyKey) :
    (publishedHeaders defaultHeaders h).get? k = (defaultHeaders.update h).get? k := by
  unfold publishedHeaders
  split_ifs with hempty
  · have hnone : defaultHeaders.get? k = none := by
      rw [PyDict.get?, hempty]
      rfl
    rw [PyDict.get?_update, hnone, Option.or_none]
  · rfl

/-- The own headers are already the published ones exactly if no default header is missing. -/
lemma get?_update_eq_iff {defaultHeaders h : Attributes} :
    (∀ k, h.get? k = (defaultHeaders.update h).get? k) ↔ ∀ k ∈ defaultHeaders.keys, k ∈ h.keys := by
  constructor
  · intro heq k hk
    by_contra hnot
    have hnone := PyDict.get?_eq_none_iff.mpr hnot
    have hget := heq k
    rw [PyDict.get?_update, hnone, Option.none_or] at hget
    exact PyDict.get?_eq_none_iff.mp hget.symm hk
  · intro hkeys k
    rw [PyDict.get?_update]
    cases hget : h.get? k with
    | some value => rfl
    | none =>
      have hdefault : defaultHeaders.get? k = none :=
        PyDict.get?_eq_none_iff.mpr fun hk => PyDict.get?_eq_none_iff.mp hget (hkeys k hk)
      rw [hdefault]
      rfl

/-- What publishing to the transport does. -/
lemma publish_transport (settings : PublisherSettings δ π) (code : ConsumerCode δ pair)
    {m : Message δ π} {h : Attributes} (hh : m.metadata.headers = ofDict h) :
    HedwigPublisherBaseBackend.publish v pair { settings with sync := false } .empty code m = do
      let message := m.withHeaders (ofDict (publishedHeaders (settings.defaultHeaders m) h))
      let (payload, attributes) ← v.serialize message
      let call ← pair.publish message payload (toStrings attributes)
      return .handedOver call := by
  have hmapping : ∀ d : Attributes, mapping (ofDict d) = .ok d :=
    fun d => congrArg Except.ok (PyDict.ofList_items d)
  have hupdate : ∀ d : Attributes, d.update .empty = d := fun d => rfl
  have hdefaults : HedwigPublisherBaseBackend.withDefaultHeaders (settings.defaultHeaders m) m =
      .ok (m.withHeaders (ofDict (publishedHeaders (settings.defaultHeaders m) h))) := by
    unfold HedwigPublisherBaseBackend.withDefaultHeaders publishedHeaders
    split_ifs
    · rw [← hh]
      rfl
    · rw [hh, hmapping]
      rfl
  have hheaders := hmapping (publishedHeaders (settings.defaultHeaders m) h)
  rw [HedwigPublisherBaseBackend.publish, if_neg Bool.false_ne_true]
  simp only [hdefaults, bind, Except.bind, Message.withHeaders, hheaders, hupdate]

end Headers

/-! ## The condition -/

section Condition

variable {δ ξ π : Type} {v : HedwigBaseValidator δ ξ} {pair : BackendPair δ}
  {settings : PublisherSettings δ π} {m : Message δ π}

/-- Hooks that return. -/
private def withCallbacks (callbacks : CallbackRegistry δ pair.ProviderMetadata) :
    ConsumerCode δ pair := ⟨callbacks, fun _ => .ok (), fun _ => .ok ()⟩

/-- Whether a call returned is the same before a return. -/
private lemma bind_return_inj {γ : Type} {x y : Outcome} {c : γ}
    (h : (x >>= fun _ => .ok c) = (y >>= fun _ => .ok c)) : x = y := by
  cases x <;> cases y <;> cases h <;> rfl

/-- Sync mode makes a queue message. -/
lemma exists_mockQueueMessage {msg : Message δ pair.ProviderMetadata}
    (h : InvokedBySync v pair settings m msg) :
    ∃ queueMessage, pair.mockQueueMessage v m = .ok queueMessage := by
  obtain ⟨queueMessage, hpublish⟩ := h
  obtain ⟨callbacks, hexec⟩ := msg.exists_execCallback_eq_ok
  have hrun := hpublish (withCallbacks callbacks)
  cases hmock : pair.mockQueueMessage v m with
  | ok queueMessage => exact ⟨queueMessage, rfl⟩
  | error e =>
    simp only [HedwigPublisherBaseBackend.publish, HedwigPublisherBaseBackend.dispatchSync, hmock,
      withCallbacks, hexec, if_true, bind, Except.bind] at hrun
    cases hrun

/-- Sync mode invokes the callback of the message that the mock queue message is processed to, and
of no other. -/
lemma invokedBySync_iff {queueMessage : pair.QueueMessage}
    (hmock : pair.mockQueueMessage v m = .ok queueMessage)
    {msg msg' : Message δ pair.ProviderMetadata}
    (hprocess : ∀ callbacks, pair.process v callbacks queueMessage = msg.execCallback callbacks) :
    InvokedBySync v pair settings m msg' ↔ msg = msg' := by
  have hpublish : ∀ code : ConsumerCode δ pair, HedwigPublisherBaseBackend.publish v pair
      { settings with sync := true } .empty code m = do
        code.preProcessHook queueMessage
        msg.execCallback code.callbacks
        code.postProcessHook queueMessage
        return .dispatched := by
    intro code
    simp only [HedwigPublisherBaseBackend.publish, HedwigPublisherBaseBackend.dispatchSync, hmock,
      if_true, bind_assoc]
    rw [← hprocess code.callbacks]
    rfl
  constructor
  · rintro ⟨queueMessage', hpublish'⟩
    refine Message.eq_of_execCallback fun callbacks => ?_
    have hrun := (hpublish (withCallbacks callbacks)).symm.trans
      (hpublish' (withCallbacks callbacks))
    exact bind_return_inj hrun
  · rintro rfl
    exact ⟨queueMessage, hpublish⟩

/-- Processing a queue message executes the callback of the message that was serialized. -/
lemma process_of_carries {queueMessage : pair.QueueMessage} {payload : Payload}
    {d : PyDict String String} {h : Attributes} {metaAttrs : MetaAttributes} {messageType : String}
    {version : StrictVersion} {data : δ} (hcarries : pair.Carries queueMessage payload d)
    (hread : ∀ b, SameButEncoding b (ofStrings d) → ∃ headers, SameDict headers (ofDict h) ∧
      ∀ (κ : Type) (providerMetadata : Option κ), v.deserialize payload b providerMetadata =
        .ok (HedwigBaseValidator.message { metaAttrs with headers := headers } providerMetadata
          messageType version data)) :
    ∃ headers metadata, SameDict headers (ofDict h) ∧
      ∀ callbacks, pair.process v callbacks queueMessage =
        (HedwigBaseValidator.message { metaAttrs with headers := headers } (some metadata)
          messageType version data).execCallback callbacks := by
  obtain ⟨attributes, metadata, hget, hprocess⟩ := hcarries
  obtain ⟨headers, hsame, hdeserialize⟩ := hread _ (sameButEncoding_ofStrings hget)
  refine ⟨headers, metadata, hsame, fun callbacks => ?_⟩
  rw [BackendPair.process, hprocess]
  exact messageHandler_of_deserialize (hdeserialize _ _)

/-- What is handed over is what `_publish` makes of the message with the published headers. -/
lemma handedOver_iff {h : Attributes} (hh : m.metadata.headers = ofDict h) {payload : Payload}
    {d : PyDict String String}
    (hserialize : v.serialize (m.withHeaders (ofDict (publishedHeaders (settings.defaultHeaders m)
      h))) = .ok (payload, ofStrings d)) {call : pair.Call} :
    HandedOver v pair settings m call ↔
      pair.publish (m.withHeaders (ofDict (publishedHeaders (settings.defaultHeaders m) h))) payload
        d = .ok call := by
  have hpublish : ∀ code : ConsumerCode δ pair, HedwigPublisherBaseBackend.publish v pair
      { settings with sync := false } .empty code m = .ok (.handedOver call) ↔
        pair.publish (m.withHeaders (ofDict (publishedHeaders (settings.defaultHeaders m) h)))
          payload d = .ok call := by
    intro code
    rw [publish_transport settings code hh]
    simp only [hserialize, bind_eq_ok, Except.ok.injEq, exists_eq_left', toStrings_ofStrings]
    constructor
    · rintro ⟨call', hcall, hreturn⟩
      obtain rfl := Published.handedOver.inj (Except.ok.inj hreturn)
      exact hcall
    · exact fun hcall => ⟨call, hcall, rfl⟩
  exact ⟨fun h => (hpublish (withCallbacks .empty)).mp (h _), fun h code => (hpublish code).mpr h⟩

/-- **When sync mode agrees.**  For a validator that reads the headers it wrote, and a pair whose
queue messages carry payload and attributes: exactly if the pair mocks and transports the message,
and no default header is missing from its own.

**Proof sketch.**  Both ways serialize the message, and both queue messages are read back to the
headers that were written.  In sync mode these are the headers of the message, and else they are the
default headers overridden by them.  The two agree exactly if the default headers add no key, and
then the order of the keys does not matter to the validator. -/
theorem BackendPair.Mirrors.syncAgrees_iff {Mocks Transports : Message δ π → Prop}
    (hpair : pair.Mirrors v π Mocks Transports) (hv : v.ReadsHeaders) (hu : v.UsesMetaAttributes)
    {h : Attributes} (hh : m.metadata.headers = ofDict h)
    (hserialize : (v.serialize m).isOk = true) :
    SyncAgrees v pair settings m h ↔
      Mocks m ∧ Transports m ∧ ∀ k ∈ (settings.defaultHeaders m).keys, k ∈ h.keys := by
  obtain ⟨metaAttrs, messageType, version, data, hall⟩ := hv.deserialize hh hserialize
  have hself : m.withHeaders (ofDict h) = m := by
    rw [← hh]
    rfl
  have hstrings : ∀ (m' : Message δ π) payload attributes,
      v.serialize m' = .ok (payload, attributes) → ∃ d, attributes = ofStrings d := by
    intro m' payload attributes hm'
    obtain ⟨d, hd, -⟩ := hu.serialize_attributes hm'
    exact ⟨d, hd⟩
  obtain ⟨payload, attributes, hm, hread⟩ := hall h fun _ => rfl
  rw [hself] at hm
  obtain ⟨d, rfl⟩ := hstrings _ _ _ hm
  let h' := publishedHeaders (settings.defaultHeaders m) h
  -- without a missing default header the published headers are the own ones, in another order
  have hpublished : (∀ k ∈ (settings.defaultHeaders m).keys, k ∈ h.keys) →
      ∀ k, h.get? k = h'.get? k := fun hkeys k =>
    (get?_update_eq_iff.mpr hkeys k).trans (get?_publishedHeaders _ _ k).symm
  constructor
  · rintro ⟨msg, hsync, hheaders, call, hcall, ⟨queueMessage', hdelivers⟩, -⟩
    obtain ⟨queueMessage, hmock⟩ := exists_mockQueueMessage hsync
    obtain ⟨headers, metadata, hsame, hprocess⟩ :=
      process_of_carries (hpair.mockCarries m payload d _ hm hmock) hread
    obtain rfl := (invokedBySync_iff hmock hprocess).mp hsync
    -- the message that sync mode passes on has the headers of the message
    have hkeys : ∀ k ∈ (settings.defaultHeaders m).keys, k ∈ h.keys := by
      refine get?_update_eq_iff.mp fun k => ?_
      obtain ⟨d₁, hd₁, hget₁⟩ := hsame.exists_get?
      obtain ⟨d₂, hd₂, hget₂⟩ := hheaders.exists_get?
      obtain rfl : d₁ = d₂ := PyDict.ext (PyObj.dict.inj (hd₁.symm.trans hd₂))
      rw [← hget₁, ← hget₂]
    obtain ⟨payload', attributes', hm', -⟩ := hall h' (hpublished hkeys)
    obtain ⟨d', rfl⟩ := hstrings _ _ _ hm'
    have htransports := (hpair.transport _ _ _ hm').mp
      ⟨call, (handedOver_iff hh hm').mp hcall, queueMessage', hdelivers⟩
    have hreordered := hpair.reordered m h' h (fun k => (hpublished hkeys k).symm) htransports
    rw [hself] at hreordered
    exact ⟨(hpair.mock m payload d hm).mp ⟨_, hmock⟩, hreordered, hkeys⟩
  · rintro ⟨hmocks, htransports, hkeys⟩
    obtain ⟨queueMessage, hmock⟩ := (hpair.mock m payload d hm).mpr hmocks
    obtain ⟨headers, metadata, hsame, hprocess⟩ :=
      process_of_carries (hpair.mockCarries m payload d _ hm hmock) hread
    obtain ⟨payload', attributes', hm', hread'⟩ := hall h' (hpublished hkeys)
    obtain ⟨d', rfl⟩ := hstrings _ _ _ hm'
    rw [← hself] at htransports
    obtain ⟨call, hcall, hdelivered⟩ := (hpair.transport _ _ _ hm').mpr
      (hpair.reordered m h h' (hpublished hkeys) htransports)
    have hmerged : ∀ o, SameDict o (ofDict h) →
        SameDict o (ofDict ((settings.defaultHeaders m).update h)) := by
      intro o ho
      obtain ⟨d₁, rfl, hget⟩ := ho.exists_get?
      exact sameDict_ofDict fun k => (hget k).trans (get?_update_eq_iff.mpr hkeys k)
    refine ⟨_, (invokedBySync_iff hmock hprocess).mpr rfl, hmerged _ hsame, call,
      (handedOver_iff hh hm').mpr hcall, hdelivered, fun queueMessage' hdelivers => ?_⟩
    obtain ⟨headers', metadata', hsame', hprocess'⟩ := process_of_carries
      (hpair.transportCarries _ _ _ _ _ hm' hcall hdelivers) hread'
    refine ⟨_, hprocess', fun callbacks => Message.callback_congr callbacks rfl rfl, ⟨?_, rfl⟩,
      hmerged _ hsame'⟩
    obtain ⟨d₁, rfl, hget₁⟩ := hsame.exists_get?
    obtain ⟨d₂, rfl, hget₂⟩ := hsame'.exists_get?
    exact sameDict_ofDict fun k => (hget₁ k).trans (hget₂ k).symm

end Condition

end Hedwig
