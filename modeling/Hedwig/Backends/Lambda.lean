import Hedwig.Backends.Fidelity
import Hedwig.Backends.Settlement

set_option relaxedAutoImplicit false
set_option autoImplicit false

/-!
# Fidelity of the Lambda consumer

`AWSSNSConsumerBackend.process_messages` runs over the records of a Lambda event.  The handler
should be called for each of them with what was published.  It is for a text payload in a record
that has a dictionary under `attributes`; it is not called at all for a record as SNS sends it,
and it gets text for a payload of bytes.

## Main definitions

* `Hedwig.PublishedRecord` — a serialized and published message, with its record.
* `Hedwig.reached` — the records for which the handler should be called.
* `Hedwig.HandlerCallMatches` — a call of the handler for what was published.

## Main results

* `Hedwig.processMessages_faithful_iff` — for which events the handler is called as it should be.
* `Hedwig.processMessages_drops_record` — a record as SNS sends it.
-/

namespace Hedwig

/-- A payload and attributes that one of the validators serialized. -/
def Serialized (payload : Payload) (attributes : PyDict String String) : Prop :=
  (∃ (v : JSONSchemaValidator) (π : Type) (m : Message PyObj π),
    v.toBase.serialize m = .ok (payload, ofStrings attributes)) ∨
  ∃ (lib : ProtoLib) (v : ProtobufValidator lib) (π : Type) (m : Message lib.Msg π),
    v.toBase.serialize m = .ok (payload, ofStrings attributes)

/-- The names of serialized attributes are not those of the transports. -/
lemma Serialized.notMem_transportFields {payload : Payload} {attributes : PyDict String String}
    (h : Serialized payload attributes) {k : String} (hk : k ∈ attributes.keys) :
    k ∉ transportFields := by
  have hkeys : ∀ {δ ξ : Type} {v : HedwigBaseValidator δ ξ}, v.UsesMetaAttributes →
      ∀ {π : Type} {m : Message δ π}, v.serialize m = .ok (payload, ofStrings attributes) →
      k ∉ transportFields := by
    intro δ ξ v hv π m hserialize
    obtain ⟨d, hd, hnames⟩ := hv.serialize_attributes hserialize
    refine hnames k (PyDict.mem_keys.mpr ?_)
    obtain ⟨s, hs⟩ := PyDict.mem_keys.mp hk
    have hmem : (PyKey.str k, PyObj.str s) ∈ (ofStrings d).items := by
      rw [← hd]
      exact List.mem_map.mpr ⟨_, hs, rfl⟩
    obtain ⟨kv, hkv, he⟩ := List.mem_map.mp hmem
    obtain ⟨h₁, h₂⟩ := Prod.mk.inj he
    exact ⟨kv.2, PyKey.str.inj h₁ ▸ hkv⟩
  rcases h with ⟨v, π, m, hv⟩ | ⟨lib, v, π, m, hv⟩
  · exact hkeys v.usesMetaAttributes hv
  · exact hkeys v.usesMetaAttributes hv

/-- A message that was serialized and published over SNS, with the record for it: the message and
the attributes are the published ones. -/
structure PublishedRecord where
  payload : Payload
  attributes : PyDict String String
  call : SnsPublish
  record : SnsRecord
  serialized : Serialized payload attributes
  published : ∃ (δ π : Type) (cfg : AwsSettings) (m : Message δ π),
    AWSSNSPublisherBackend.publish cfg m payload attributes = .ok call
  message : record.message = call.message
  messageAttributes : ∀ k, record.messageAttributes.get? k =
    (call.messageAttributes.get? k).map fun a => ⟨a.dataType, a.stringValue.getD ""⟩

/-- The record is as SNS sends it. -/
def PublishedRecord.Documented (p : PublishedRecord) : Prop := p.record.attributes = none

/-- The attributes in a record. -/
def SnsRecord.values (record : SnsRecord) : PyDict String String :=
  record.messageAttributes.mapItems id Function.injective_id RecordAttribute.value

/-- A call of the handler for what was published: the payload, of its type, and the attributes,
except for the encoding. -/
def HandlerCallMatches (call : AWSSNSConsumerBackend.HandlerCall) (p : PublishedRecord) : Prop :=
  call.1 = p.payload ∧ ∀ k, k ≠ "hedwig_encoding" → call.2.get? k = p.attributes.get? k

/-- The records for which the handler should be called: all up to the first one for which a hook
or the handler raises, that one included unless the pre hook raises. -/
def reached (code : AWSSNSConsumerBackend.LambdaCode) : List PublishedRecord → List PublishedRecord
  | [] => []
  | p :: rest =>
    match code.preProcessHook p.record with
    | .error _ => []
    | .ok () =>
      p :: match code.messageHandler p.payload p.record.values >>= fun _ =>
          code.postProcessHook p.record with
        | .error _ => []
        | .ok () => reached code rest

namespace PublishedRecord

variable (p : PublishedRecord)

/-- The text and the attributes that were published. -/
lemma call_eq : p.call.message = (encodeText p.payload p.attributes).1 ∧
    p.call.messageAttributes = (encodeText p.payload p.attributes).2.mapItems id
      Function.injective_id AWSSNSPublisherBackend.stringAttribute := by
  obtain ⟨δ, π, cfg, m, hpublish⟩ := p.published
  simp only [AWSSNSPublisherBackend.publish, bind_eq_ok] at hpublish
  obtain ⟨arn, -, hcall⟩ := hpublish
  rw [← Except.ok.inj hcall]
  exact ⟨rfl, rfl⟩

/-- The attributes in the record are those that were published. -/
lemma get?_values (k : String) :
    p.record.values.get? k = (encodeText p.payload p.attributes).2.get? k := by
  have hvalues : p.record.values.get? k =
      (p.record.messageAttributes.get? k).map RecordAttribute.value :=
    PyDict.get?_mapItems id Function.injective_id _ _ k
  have hcall : p.call.messageAttributes.get? k =
      ((encodeText p.payload p.attributes).2.get? k).map
        AWSSNSPublisherBackend.stringAttribute := by
    rw [p.call_eq.2]
    exact PyDict.get?_mapItems id Function.injective_id _ _ k
  rw [hvalues, p.messageAttributes, hcall]
  cases (encodeText p.payload p.attributes).2.get? k <;> rfl

/-- The attributes do not name an encoding. -/
lemma encoding_notMem : "hedwig_encoding" ∉ p.attributes.keys := fun hk =>
  p.serialized.notMem_transportFields hk (by simp [transportFields])

/-- A text payload is read from the record as it is. -/
lemma messagePayload_of_str {s : String} (hs : p.payload = .str s) :
    AWSSNSConsumerBackend.messagePayload p.record.values p.record.message = .ok s := by
  have hencoding : p.record.values.get? "hedwig_encoding" = none := by
    rw [p.get?_values, hs]
    exact PyDict.get?_eq_none_iff.mpr p.encoding_notMem
  have hmessage : p.record.message = s := by
    rw [p.message, p.call_eq.1, hs]
    rfl
  rw [AWSSNSConsumerBackend.messagePayload, hencoding, if_neg (by simp), hmessage]

end PublishedRecord

/-! ## One record -/

section Record

variable {instrumentation : Instrumentation (PyDict String String)}
  {code : AWSSNSConsumerBackend.LambdaCode}

/-- A quiet instrumentation wrapper lets the statements run once, and returns exactly if they
do. -/
lemma maybeInstrument_quiet {α σ : Type} {i : Instrumentation α} {a : α} (hq : i.Quiet a)
    (body : σ → Outcome × σ) (s : σ) :
    (maybeInstrument i a body s).2 = (body s).2 ∧
      ((maybeInstrument i a body s).1 = .ok () ↔ (body s).1 = .ok ()) := by
  rcases maybeInstrument_cases i a body s with h | ⟨hraises, -⟩ | ⟨e, e', he, h⟩
  · rw [h]
    exact ⟨rfl, Iff.rfl⟩
  · exact absurd hq hraises
  · rw [h, he]
    exact ⟨rfl, by simp⟩

/-- The calls made before do not matter for a record. -/
lemma processMessage_calls (code : AWSSNSConsumerBackend.LambdaCode) (record : SnsRecord)
    (calls : List AWSSNSConsumerBackend.HandlerCall) :
    (AWSSNSConsumerBackend.processMessage code record calls).1 =
        (AWSSNSConsumerBackend.processMessage code record []).1 ∧
      (AWSSNSConsumerBackend.processMessage code record calls).2 =
        calls ++ (AWSSNSConsumerBackend.processMessage code record []).2 := by
  simp only [AWSSNSConsumerBackend.processMessage]
  cases code.preProcessHook record with
  | error e => simp
  | ok u =>
    simp only []
    cases AWSSNSConsumerBackend.messagePayload (record.messageAttributes.mapItems id
        Function.injective_id RecordAttribute.value) record.message with
    | error e => simp
    | ok payload =>
      simp only [List.nil_append]
      split <;> simp

/-- One record of an event, under the instrumentation wrapper: whether it returns, and its calls. -/
lemma instrumented_calls (code : AWSSNSConsumerBackend.LambdaCode) (record : SnsRecord)
    {a : PyDict String String} (hq : instrumentation.Quiet a)
    (calls : List AWSSNSConsumerBackend.HandlerCall) :
    let r := maybeInstrument instrumentation a (AWSSNSConsumerBackend.processMessage code record)
      calls
    (r.1 = .ok () ↔ (AWSSNSConsumerBackend.processMessage code record []).1 = .ok ()) ∧
      r.2 = calls ++ (AWSSNSConsumerBackend.processMessage code record []).2 := by
  obtain ⟨hcalls, hreturns⟩ := maybeInstrument_quiet hq
    (AWSSNSConsumerBackend.processMessage code record) calls
  obtain ⟨houtcome, htrace⟩ := processMessage_calls code record calls
  exact ⟨by rw [hreturns, houtcome], hcalls.trans htrace⟩

/-- The calls made before do not matter for an event. -/
lemma processMessages_calls (records : List SnsRecord) (hq : ∀ a, instrumentation.Quiet a)
    (calls : List AWSSNSConsumerBackend.HandlerCall) :
    (AWSSNSConsumerBackend.processMessages instrumentation code records calls).2 =
      calls ++ (AWSSNSConsumerBackend.processMessages instrumentation code records []).2 := by
  induction records generalizing calls with
  | nil => simp [AWSSNSConsumerBackend.processMessages]
  | cons record rest ih =>
    simp only [AWSSNSConsumerBackend.processMessages]
    cases AWSSNSConsumerBackend.messageAttributes record with
    | error e => simp
    | ok a =>
      obtain ⟨hreturns, hcalls⟩ := instrumented_calls code record (hq a) calls
      obtain ⟨hreturns₀, hcalls₀⟩ := instrumented_calls code record (hq a) []
      rcases hr : maybeInstrument instrumentation a
        (AWSSNSConsumerBackend.processMessage code record) calls with ⟨o, calls'⟩
      rcases hr₀ : maybeInstrument instrumentation a
        (AWSSNSConsumerBackend.processMessage code record) [] with ⟨o₀, calls₀⟩
      simp only [hr, hr₀, List.nil_append] at hreturns hcalls hreturns₀ hcalls₀
      rw [← hreturns₀] at hreturns
      rw [← hcalls₀] at hcalls
      cases o with
      | ok u =>
        obtain rfl := hreturns.mp rfl
        simp only [hr, hr₀]
        rw [ih calls', ih calls₀, hcalls, List.append_assoc]
      | error e =>
        cases o₀ with
        | ok u => exact absurd (hreturns.mpr rfl) (by simp)
        | error e₀ => simpa [hr, hr₀] using hcalls

/-- The calls for an event: those for its first record, and those for the rest if that returns. -/
lemma processMessages_cons (record : SnsRecord) (rest : List SnsRecord)
    (hq : ∀ a, instrumentation.Quiet a) {a : PyDict String String}
    (ha : record.attributes = some a) :
    (AWSSNSConsumerBackend.processMessages instrumentation code (record :: rest) []).2 =
      (AWSSNSConsumerBackend.processMessage code record []).2 ++
        if returned (AWSSNSConsumerBackend.processMessage code record []).1 then
          (AWSSNSConsumerBackend.processMessages instrumentation code rest []).2
        else [] := by
  obtain ⟨hreturns, hcalls⟩ := instrumented_calls code record (hq a) []
  have hattributes : AWSSNSConsumerBackend.messageAttributes record = .ok a := by
    rw [AWSSNSConsumerBackend.messageAttributes, ha]
  simp only [AWSSNSConsumerBackend.processMessages, hattributes]
  rcases hr : maybeInstrument instrumentation a
    (AWSSNSConsumerBackend.processMessage code record) [] with ⟨o, calls⟩
  simp only [hr, List.nil_append] at hreturns hcalls
  rw [← returned_iff, ← returned_iff] at hreturns
  rw [← hcalls]
  cases o with
  | ok u =>
    rw [if_pos (hreturns.mp rfl)]
    exact processMessages_calls rest hq calls
  | error e =>
    rw [if_neg fun h => Bool.false_ne_true (hreturns.mpr h), List.append_nil]

end Record

/-! ## Events -/

section Event

variable {instrumentation : Instrumentation (PyDict String String)}
  {code : AWSSNSConsumerBackend.LambdaCode}

/-- The consumer can carry a record: it has a dictionary under `attributes`, and its payload is
text. -/
def PublishedRecord.Carried (p : PublishedRecord) : Prop :=
  p.record.attributes.isSome = true ∧ ∃ s, p.payload = .str s

/-- The handler is called as it should be: for each record that is reached, in order, with what was
published. -/
def Faithful (instrumentation : Instrumentation (PyDict String String))
    (code : AWSSNSConsumerBackend.LambdaCode) (ps : List PublishedRecord) : Prop :=
  List.Forall₂ HandlerCallMatches
    (AWSSNSConsumerBackend.processMessages instrumentation code
      (ps.map PublishedRecord.record) []).2 (reached code ps)

/-- A record whose pre hook returns is one call of the handler, or none if its payload cannot be
read. -/
lemma processMessage_of_preProcessHook {p : PublishedRecord}
    (hpre : code.preProcessHook p.record = .ok ()) :
    (AWSSNSConsumerBackend.processMessage code p.record []).2 =
      match AWSSNSConsumerBackend.messagePayload p.record.values p.record.message with
      | .ok s => [(.str s, p.record.values)]
      | .error _ => [] := by
  simp only [AWSSNSConsumerBackend.processMessage, hpre, SnsRecord.values]
  cases AWSSNSConsumerBackend.messagePayload (p.record.messageAttributes.mapItems id
      Function.injective_id RecordAttribute.value) p.record.message with
  | error e => rfl
  | ok s =>
    simp only [List.nil_append]
    split <;> rfl

/-- A record with a text payload ends as the handler and the post hook do. -/
lemma processMessage_of_str {p : PublishedRecord} {s : String} (hs : p.payload = .str s)
    (hpre : code.preProcessHook p.record = .ok ()) :
    (AWSSNSConsumerBackend.processMessage code p.record []).1 =
      code.messageHandler p.payload p.record.values >>= fun _ =>
        code.postProcessHook p.record := by
  have hpayload := p.messagePayload_of_str hs
  simp only [SnsRecord.values] at hpayload ⊢
  simp only [AWSSNSConsumerBackend.processMessage, hpre, hpayload, hs]
  split <;> simp_all [bind, Except.bind]

/-- A record whose payload cannot be read raises. -/
lemma processMessage_of_error {p : PublishedRecord} {e : PyException}
    (hpre : code.preProcessHook p.record = .ok ())
    (hpayload : AWSSNSConsumerBackend.messagePayload p.record.values p.record.message = .error e) :
    AWSSNSConsumerBackend.processMessage code p.record [] = (.error e, []) := by
  simp only [SnsRecord.values] at hpayload
  simp only [AWSSNSConsumerBackend.processMessage, hpre, hpayload]

/-- A record that the consumer cannot carry, but that is reached, is not handled faithfully: the
handler is not called for it, or called with text for bytes. -/
lemma not_faithful_cons (hq : ∀ a, instrumentation.Quiet a) {p : PublishedRecord}
    {rest ps : List PublishedRecord} (hpre : code.preProcessHook p.record = .ok ())
    (hp : ¬ p.Carried) :
    ¬ List.Forall₂ HandlerCallMatches
      (AWSSNSConsumerBackend.processMessages instrumentation code
        (p.record :: rest.map PublishedRecord.record) []).2 (p :: ps) := by
  intro h
  cases ha : p.record.attributes with
  | none =>
    have hnone : AWSSNSConsumerBackend.messageAttributes p.record =
        .error (.new .keyError "attributes") := by
      rw [AWSSNSConsumerBackend.messageAttributes, ha]
    simp [AWSSNSConsumerBackend.processMessages, hnone] at h
  | some a =>
    cases hb : p.payload with
    | str s => exact hp ⟨by rw [ha]; rfl, s, hb⟩
    | bytes b =>
      rw [processMessages_cons p.record _ hq ha] at h
      cases hpayload : AWSSNSConsumerBackend.messagePayload p.record.values p.record.message with
      | error e =>
        rw [processMessage_of_error hpre hpayload] at h
        cases h
      | ok s =>
        rw [processMessage_of_preProcessHook hpre, hpayload] at h
        cases h with
        | cons hmatch _ =>
          have hstr : Payload.str s = .bytes b := hmatch.1.trans hb
          cases hstr

/-- **The handler is called as it should be** exactly if every record that is reached is one that
the consumer can carry; by induction on the records.

**Proof sketch.**  Induction on the records.  A pre hook that raises ends the event with nothing
reached.  A record that can be carried adds a matching call, and the rest follows by the induction
hypothesis if the handler and the post hook return; one that cannot makes the first call differ. -/
lemma faithful_iff (hq : ∀ a, instrumentation.Quiet a) (ps : List PublishedRecord) :
    Faithful instrumentation code ps ↔ ∀ p ∈ reached code ps, p.Carried := by
  induction ps with
  | nil => exact iff_of_true .nil (by simp [reached])
  | cons p rest ih =>
    rw [Faithful, List.map_cons]
    cases hpre : code.preProcessHook p.record with
    | error e =>
      have hreached : reached code (p :: rest) = [] := by
        rw [reached, hpre]
      have hrun : (AWSSNSConsumerBackend.processMessages instrumentation code
          (p.record :: rest.map PublishedRecord.record) []).2 = [] := by
        cases ha : p.record.attributes with
        | none => simp [AWSSNSConsumerBackend.processMessages,
            AWSSNSConsumerBackend.messageAttributes, ha]
        | some a =>
          have hraise : AWSSNSConsumerBackend.processMessage code p.record [] = (.error e, []) := by
            simp only [AWSSNSConsumerBackend.processMessage, hpre]
          rw [processMessages_cons p.record _ hq ha, hraise]
          rfl
      rw [hreached, hrun]
      exact iff_of_true .nil (by simp)
    | ok u =>
      by_cases hp : p.Carried
      · obtain ⟨hattributes, s, hs⟩ := hp
        obtain ⟨a, ha⟩ := Option.isSome_iff_exists.mp hattributes
        have hmatch : HandlerCallMatches (.str s, p.record.values) p :=
          ⟨hs.symm, fun k hk => (p.get?_values k).trans (get?_encodeText hk)⟩
        rw [processMessages_cons p.record _ hq ha, processMessage_of_preProcessHook hpre,
          p.messagePayload_of_str hs, processMessage_of_str hs hpre, reached, hpre]
        cases hout : code.messageHandler p.payload p.record.values >>= fun _ =>
            code.postProcessHook p.record with
        | error e =>
          refine iff_of_true (.cons hmatch .nil) fun p' hp' => ?_
          obtain rfl : p' = p := List.mem_singleton.mp hp'
          exact ⟨hattributes, s, hs⟩
        | ok u =>
          simp only [returned, if_true, List.singleton_append, List.forall₂_cons,
            List.forall_mem_cons]
          exact and_congr (iff_of_true hmatch ⟨hattributes, s, hs⟩) ih
      · have hmem : p ∈ reached code (p :: rest) := by
          rw [reached, hpre]
          exact List.mem_cons_self
        refine iff_of_false ?_ fun h => hp (h p hmem)
        rw [reached, hpre]
        exact not_faithful_cons hq hpre hp

/-- The records that are reached are records of the event. -/
lemma mem_of_mem_reached {ps : List PublishedRecord} {p : PublishedRecord}
    (h : p ∈ reached code ps) : p ∈ ps := by
  induction ps with
  | nil => cases h
  | cons q rest ih =>
    rw [reached] at h
    split at h
    · cases h
    · rcases List.mem_cons.mp h with rfl | hrest
      · exact List.mem_cons_self
      · split at hrest
        · cases hrest
        · exact List.mem_cons_of_mem _ (ih hrest)

/-- **Fidelity of the Lambda consumer.**  With a quiet instrumentation wrapper, for every event of
records of messages that a validator serialized and the SNS backend published, the handler is
called once for each record that is reached, in order, with the payload and the attributes that
were published, exactly if all of these records have a dictionary under `attributes` and a text
payload.  For records as SNS sends them that is only if no record is reached.

**Proof sketch.**  The first part is `faithful_iff`.  A record as SNS sends it has no dictionary
under `attributes`, so it cannot be carried, and the condition holds only of an empty list. -/
theorem processMessages_faithful_iff (instrumentation : Instrumentation (PyDict String String))
    (code : AWSSNSConsumerBackend.LambdaCode) (hq : ∀ a, instrumentation.Quiet a)
    (ps : List PublishedRecord) :
    (Faithful instrumentation code ps ↔ ∀ p ∈ reached code ps, p.Carried) ∧
      ((∀ p ∈ ps, p.Documented) → (Faithful instrumentation code ps ↔ reached code ps = [])) := by
  refine ⟨faithful_iff hq ps, fun hdocumented => (faithful_iff hq ps).trans ?_⟩
  constructor
  · intro h
    refine List.eq_nil_iff_forall_not_mem.mpr fun p hp => ?_
    have hnone : p.record.attributes = none := hdocumented p (mem_of_mem_reached hp)
    simpa [hnone] using (h p hp).1
  · intro h p hp
    rw [h] at hp
    cases hp

end Event

/-! ## A sample event -/

/-- Hooks and a handler that return. -/
def returningCode : AWSSNSConsumerBackend.LambdaCode where
  preProcessHook _ := .ok ()
  messageHandler _ _ := .ok ()
  postProcessHook _ := .ok ()

/-- The sample message in a record, with or without a dictionary under `attributes`. -/
lemma exists_publishedRecord (attributes : Option (PyDict String String)) :
    ∃ p : PublishedRecord, p.record.attributes = attributes ∧ ∃ s, p.payload = .str s := by
  obtain ⟨s, d, hserialize⟩ := exists_serialize_sampleMessage
  obtain ⟨call, hcall⟩ := exists_publish_sampleMessage (.str s) d
  let record : SnsRecord :=
    { attributes := attributes
      message := call.message
      messageAttributes := call.messageAttributes.mapItems id Function.injective_id fun a =>
        ⟨a.dataType, a.stringValue.getD ""⟩ }
  exact ⟨⟨.str s, d, call, record, .inl ⟨_, _, _, hserialize⟩, ⟨_, _, _, _, hcall⟩, rfl,
    fun k => PyDict.get?_mapItems id Function.injective_id _ _ k⟩, rfl, s, rfl⟩

/-- The theorem at a record with a dictionary under `attributes`, and at an event without
records. -/
theorem processMessages_faithful_iff_sample :
    (∃ p : PublishedRecord, p.record.attributes = some .empty ∧
      Faithful .missing returningCode [p]) ∧
    Faithful .missing returningCode [] := by
  constructor
  · obtain ⟨p, hp, hs⟩ := exists_publishedRecord (some .empty)
    refine ⟨p, hp, (processMessages_faithful_iff .missing returningCode
      (fun _ => trivial) [p]).1.mpr fun q hq => ?_⟩
    obtain rfl : q = p := List.mem_singleton.mp hq
    exact ⟨by rw [hp]; rfl, hs⟩
  · exact ((processMessages_faithful_iff .missing returningCode
      (fun _ => trivial) []).2 (by simp)).mpr rfl

/-- A record as SNS sends it ends the run with a `KeyError`, and the handler is not called. -/
theorem processMessages_drops_record :
    ∃ p : PublishedRecord, p.Documented ∧
      AWSSNSConsumerBackend.processMessages .missing returningCode [p.record] [] =
        (.error (.new .keyError "attributes"), []) ∧
      ¬ Faithful .missing returningCode [p] := by
  obtain ⟨p, hp, -⟩ := exists_publishedRecord none
  have hrun : AWSSNSConsumerBackend.processMessages .missing returningCode [p.record] [] =
      (.error (.new .keyError "attributes"), []) := by
    simp [AWSSNSConsumerBackend.processMessages, AWSSNSConsumerBackend.messageAttributes, hp]
  refine ⟨p, hp, hrun, fun h => ?_⟩
  rw [Faithful, List.map_cons, List.map_nil, hrun] at h
  cases h

end Hedwig
