import Hedwig.Validators.Errors

set_option relaxedAutoImplicit false
set_option autoImplicit false

/-!
# The gate on the format version

Every message declares the version of the wire format: in a transport attribute, or in a field of
its container.  A validator should return a message only if that version is its own.  It does for
transport attributes, which it compares, and for JSON containers, whose schema lists the only
version.  The protobuf validators read the field of a container and do not compare it.

## Main definitions

* `Hedwig.Gated` — a decoder returns a message only if the declared version is the current one.
* `Hedwig.declaredAttribute`, `Hedwig.JSONSchemaValidator.declaredField`,
  `Hedwig.ProtobufValidator.declaredField` — where the version is declared.
* `Hedwig.ProtobufValidator.ContainerAcceptable`, `Hedwig.ProtobufValidator.FirehoseAcceptable` —
  the checks that a protobuf container does meet.

## Main results

* `Hedwig.deserialize_gated` — which decoders are gated, and for which input the others are.
* `Hedwig.deserialize_not_gated` — a protobuf container of another version is decoded.
-/

namespace Hedwig

/-- A text denotes a version. -/
def Denotes (declared : Option String) (v : StrictVersion) : Prop :=
  ∃ s, declared = some s ∧ StrictVersion.parse s = some v

/-- The gate: a message is returned only if the declared version is the current one. -/
def Gated {α : Type} (current : StrictVersion) (declared : Option String)
    (result : Except PyException α) : Prop :=
  ∀ m, result = .ok m → Denotes declared current

/-- The string that a field holds. -/
def PyObj.string? : Option PyObj → Option String
  | some (.str s) => some s
  | _ => none

/-- The version that transport attributes declare. -/
def declaredAttribute (attributes : Attributes) : Option String :=
  PyObj.string? (attributes.get? (.str "hedwig_format_version"))

/-- Attributes that are decoded and checked declare the current version. -/
lemma denotes_declaredAttribute {attributes : Attributes} {current : StrictVersion}
    {metaAttrs : MetaAttributes} (hdecode : decodeMetaAttributes true attributes = .ok metaAttrs)
    (hverify : verifyFormatVersion metaAttrs.formatVersion current = .ok ()) :
    Denotes (declaredAttribute attributes) current := by
  obtain ⟨fv, _, _, _, _, _, hfv, -, -, -, -, -, -, hversion, -⟩ :=
    decodeMetaAttributes_eq_ok.mp ⟨hdecode, hverify⟩
  exact ⟨fv, by rw [declaredAttribute, hfv]; rfl, hversion⟩

/-- What `deserialize_firehose` returns, stage by stage. -/
lemma HedwigBaseValidator.deserializeFirehose_eq_ok {δ ξ π : Type} (v : HedwigBaseValidator δ ξ)
    {line : String} {m : Message δ π} :
    v.deserializeFirehose line = .ok m ↔
      ∃ metaAttrs extractedData messageType version data,
        v.extractDataFirehose line = .ok (metaAttrs, extractedData) ∧
        decodeMessageType metaAttrs.schema = .ok (messageType, version) ∧
        v.decodeData metaAttrs messageType version extractedData = .ok data ∧
        m = message metaAttrs none messageType version data := by
  constructor
  · intro h
    simp only [deserializeFirehose, bind_eq_ok] at h
    obtain ⟨⟨metaAttrs, x⟩, hextract, ⟨messageType, version⟩, htype, data, hdata, hreturn⟩ := h
    exact ⟨metaAttrs, x, messageType, version, data, hextract, htype, hdata,
      (Except.ok.inj hreturn).symm⟩
  · rintro ⟨metaAttrs, x, messageType, version, data, hextract, htype, hdata, rfl⟩
    refine bind_eq_ok.mpr ⟨_, hextract, bind_eq_ok.mpr ⟨_, htype, ?_⟩⟩
    exact bind_eq_ok.mpr ⟨_, hdata, rfl⟩

/-! ## The JSON schema validator -/

namespace JSONSchemaValidator

variable (v : JSONSchemaValidator)

/-- The version that a container declares. -/
def declaredField (payload : Payload) : Option String :=
  match payload with
  | .bytes _ => none
  | .str s =>
    match v.json.loads s with
    | .ok (.dict fields) => PyObj.string? (PyObj.field? fields "format_version")
    | _ => none

/-- The version that the input of `_deserialize` declares. -/
def declared (useTransportAttributes : Bool) (payload : Payload) (attributes : Attributes) :
    Option String :=
  match useTransportAttributes with
  | true => declaredAttribute attributes
  | false => v.declaredField payload

/-- A container that data are extracted from declares the current version: its schema lists no
other. -/
lemma denotes_declaredField (hc : v.jsonschema.ChecksContainer) {s : String}
    (attributes : Attributes) {metaAttrs : MetaAttributes} {data : PyObj}
    (h : v.extractDataHelper s attributes false = .ok (metaAttrs, data)) :
    Denotes (v.declaredField (.str s)) currentFormatVersion := by
  obtain ⟨document, hdoc, haccepts, hdata, -⟩ := (v.extractContainer_eq_ok hc).mp h
  obtain ⟨fields, rfl, -⟩ := getItem_eq_ok.mp hdata
  obtain ⟨-, -, hfv, -, -⟩ := fields_of_containerSchema haccepts
  refine ⟨"1.0", ?_, by decide⟩
  rw [declaredField, hdoc]
  simp only [hfv, PyObj.string?]

/-- **The JSON validator**: every decoder is gated.

**Proof sketch.**  A payload that is returned was extracted, and both extractions have compared the
format version: with transport attributes that of the attributes, else that of the container. -/
lemma gated_deserializeMode (hc : v.jsonschema.ChecksContainer) {π : Type} {payload : Payload}
    {attributes : Attributes} {providerMetadata : Option π} {useTransportAttributes : Bool}
    (hmode : useTransportAttributes = true → v.useTransportMessageAttributes = true) :
    Gated currentFormatVersion (v.declared useTransportAttributes payload attributes)
      (v.toBase.deserializeMode payload attributes providerMetadata useTransportAttributes) := by
  intro m h
  obtain ⟨metaAttrs, x, _, _, _, hextract, -⟩ := v.toBase.deserializeMode_eq_ok.mp h
  cases payload with
  | bytes b => cases hextract
  | str s =>
    cases useTransportAttributes with
    | true =>
      obtain ⟨-, hdecode, hverify⟩ := (v.extractTransport_eq_ok (hmode rfl)).mp hextract
      exact denotes_declaredAttribute hdecode hverify
    | false => exact v.denotes_declaredField hc attributes hextract

/-- **The JSON validator**: so is the decoder of firehose lines. -/
lemma gated_deserializeFirehose (hc : v.jsonschema.ChecksContainer) {π : Type} {line : String} :
    Gated currentFormatVersion (v.declaredField (.str line))
      (v.toBase.deserializeFirehose (π := π) line) := by
  intro m h
  obtain ⟨metaAttrs, x, _, _, _, hextract, -⟩ := v.toBase.deserializeFirehose_eq_ok.mp h
  exact v.denotes_declaredField hc .empty hextract

end JSONSchemaValidator

/-! ## The protobuf validators -/

namespace ProtobufValidator

variable {lib : ProtoLib} (v : ProtobufValidator lib)

/-- The version that a container declares, if the payload is one. -/
def declaredField (container : Except PyException lib.Payload) : Option String :=
  container.toOption.map (·.formatVersion)

/-- The schema of a container names a registered class, and the data are a message of it. -/
def DataAcceptable (schema : String) (data : ProtoData lib) : Prop :=
  ∃ messageType version cls msg, decodeMessageType (.str schema) = .ok (messageType, version) ∧
    v.protoMessages.get? (messageType, version.major) = some cls ∧
    v.decodeMessage cls data = .ok msg

/-- A container meets the checks of `_deserialize`: its timestamp is read, no header has a reserved
name, and the data are acceptable. -/
def ContainerAcceptable (msgPayload : lib.Payload) : Prop :=
  (∃ t, lib.toMilliseconds msgPayload.timestamp = .ok t) ∧
    (∀ k ∈ msgPayload.headers.keys, PyStr.startsWith k reservedPrefix = false) ∧
    v.DataAcceptable msgPayload.schema (.any msgPayload.data)

/-- A container meets the checks of `deserialize_firehose`: its timestamp is read, and its data are
found and acceptable. -/
def FirehoseAcceptable (msgPayload : lib.Payload) : Prop :=
  (∃ t, lib.toMilliseconds msgPayload.timestamp = .ok t) ∧
    ∃ data, firehoseData msgPayload.data = .ok data ∧ v.DataAcceptable msgPayload.schema data

/-- The data are decoded exactly if they are acceptable. -/
lemma exists_decodeData {metaAttrs : MetaAttributes} {schema : String} {data : ProtoData lib}
    (hschema : metaAttrs.schema = .str schema) :
    (∃ messageType version msg,
      decodeMessageType metaAttrs.schema = .ok (messageType, version) ∧
        v.toBase.decodeData metaAttrs messageType version data = .ok msg) ↔
      v.DataAcceptable schema data := by
  rw [hschema]
  constructor
  · rintro ⟨messageType, version, msg, htype, hdata⟩
    obtain ⟨cls, hcls, hmsg⟩ := v.decodeData_eq_ok.mp hdata
    exact ⟨messageType, version, cls, msg, htype, hcls, hmsg⟩
  · rintro ⟨messageType, version, cls, msg, htype, hcls, hmsg⟩
    exact ⟨messageType, version, msg, htype, v.decodeData_eq_ok.mpr ⟨cls, hcls, hmsg⟩⟩

/-- A container is decoded exactly if it meets the checks. -/
lemma exists_deserializeMode {π : Type} {payload : Payload} {attributes : Attributes}
    {providerMetadata : Option π} :
    (∃ m, v.toBase.deserializeMode payload attributes providerMetadata false = .ok m) ↔
      ∃ msgPayload, v.wire.decodeProto lib.payloadCodec payload = .ok msgPayload ∧
        v.ContainerAcceptable msgPayload := by
  have hextract : v.toBase.extractData payload attributes false =
      v.extractData payload attributes false := rfl
  simp only [HedwigBaseValidator.deserializeMode_eq_ok, hextract, extractContainer_eq_ok]
  constructor
  · rintro ⟨m, metaAttrs, x, messageType, version, data, ⟨msgPayload, hproto, hmeta, rfl⟩,
      hheaders, htype, hdata, rfl⟩
    obtain ⟨t, ht, rfl⟩ := containerMetaAttributes_eq_ok.mp hmeta
    exact ⟨msgPayload, hproto, ⟨t, ht⟩, verifyHeaders_ofStrings.mp hheaders,
      (v.exists_decodeData rfl).mp ⟨messageType, version, data, htype, hdata⟩⟩
  · rintro ⟨msgPayload, hproto, ⟨t, ht⟩, hheaders, hdata⟩
    obtain ⟨metaAttrs, hmeta, hheaders', hschema⟩ := exists_containerMetaAttributes ht
    obtain ⟨messageType, version, msg, htype, hmsg⟩ := (v.exists_decodeData hschema).mpr hdata
    have hverify : verifyHeaders metaAttrs.headers = .ok () := by
      rw [hheaders']
      exact verifyHeaders_ofStrings.mpr hheaders
    exact ⟨_, metaAttrs, _, messageType, version, msg, ⟨msgPayload, hproto, hmeta, rfl⟩,
      hverify, htype, hmsg, rfl⟩

/-- A line is decoded exactly if it meets the checks. -/
lemma exists_deserializeFirehose {π : Type} {line : String} :
    (∃ m, v.toBase.deserializeFirehose (π := π) line = .ok m) ↔
      ∃ msgPayload, decodeProtoJson lib.payloadCodec (.str line) = .ok msgPayload ∧
        v.FirehoseAcceptable msgPayload := by
  have hextract : v.toBase.extractDataFirehose line = extractDataFirehose line := rfl
  simp only [HedwigBaseValidator.deserializeFirehose_eq_ok, hextract, extractDataFirehose,
    bind_eq_ok, catchDecodingErrors_eq_ok]
  constructor
  · rintro ⟨m, metaAttrs, x, messageType, version, data, ⟨msgPayload, hproto, x', hx, metaAttrs',
      hmeta, hreturn⟩, htype, hdata, rfl⟩
    obtain ⟨rfl, rfl⟩ : metaAttrs' = metaAttrs ∧ x' = x := by
      simpa [pure, Except.pure] using hreturn
    obtain ⟨t, ht, rfl⟩ := containerMetaAttributes_eq_ok.mp hmeta
    exact ⟨msgPayload, hproto, ⟨t, ht⟩, x', hx,
      (v.exists_decodeData rfl).mp ⟨messageType, version, data, htype, hdata⟩⟩
  · rintro ⟨msgPayload, hproto, ⟨t, ht⟩, x, hx, hdata⟩
    obtain ⟨metaAttrs, hmeta, -, hschema⟩ := exists_containerMetaAttributes ht
    obtain ⟨messageType, version, msg, htype, hmsg⟩ := (v.exists_decodeData hschema).mpr hdata
    exact ⟨_, metaAttrs, x, messageType, version, msg,
      ⟨msgPayload, hproto, x, hx, metaAttrs, hmeta, rfl⟩, htype, hmsg, rfl⟩

/-- A decoder that returns exactly for acceptable containers is gated exactly if those of them that
the payload may hold declare the current version. -/
lemma gated_iff {α : Type} {container : Except PyException lib.Payload}
    {Acceptable : lib.Payload → Prop} {result : Except PyException α}
    (h : (∃ m, result = .ok m) ↔ ∃ msgPayload, container = .ok msgPayload ∧ Acceptable msgPayload) :
    Gated currentFormatVersion (declaredField container) result ↔
      ∀ msgPayload, container = .ok msgPayload → Acceptable msgPayload →
        StrictVersion.parse msgPayload.formatVersion = some currentFormatVersion := by
  constructor
  · rintro hgated msgPayload rfl hacceptable
    obtain ⟨m, hm⟩ := h.mpr ⟨msgPayload, rfl, hacceptable⟩
    obtain ⟨s, hs, hversion⟩ := hgated m hm
    obtain rfl : msgPayload.formatVersion = s := Option.some.inj hs
    exact hversion
  · intro hversion m hm
    obtain ⟨msgPayload, rfl, hacceptable⟩ := h.mp ⟨m, hm⟩
    exact ⟨msgPayload.formatVersion, rfl, hversion msgPayload rfl hacceptable⟩

/-- **Transport attributes** are gated. -/
lemma gated_transport {π : Type} (hmode : v.useTransportMessageAttributes = true)
    {payload : Payload} {attributes : Attributes} {providerMetadata : Option π} :
    Gated currentFormatVersion (declaredAttribute attributes)
      (v.toBase.deserializeMode payload attributes providerMetadata true) := by
  intro m h
  obtain ⟨metaAttrs, x, _, _, _, hextract, -⟩ := v.toBase.deserializeMode_eq_ok.mp h
  obtain ⟨hdecode, hverify, -⟩ := extractTransport_eq_ok.mp hextract
  rw [hmode] at hdecode
  exact denotes_declaredAttribute hdecode hverify

end ProtobufValidator

/-! ## The three validators -/

/-- **The gate on the format version.**  Every decoder of the JSON validator returns a message only
if the declared version is the current one, and so do the protobuf validators for transport
attributes.  For a container, or a firehose line, they do exactly if the container declares the
current version or fails one of the other checks.

**Proof sketch.**  The JSON validator compares the version in every mode, and transport attributes
are decoded by the same code in all validators.  The protobuf containers are returned exactly if
they are acceptable, which does not look at their version, so they are gated exactly if the
acceptable ones declare the current one. -/
theorem deserialize_gated (π : Type) :
    (∀ v : JSONSchemaValidator, v.jsonschema.ChecksContainer →
      (∀ payload attributes (providerMetadata : Option π),
        Gated JSONSchemaValidator.currentFormatVersion
          (v.declared v.useTransportMessageAttributes payload attributes)
          (v.toBase.deserialize payload attributes providerMetadata)) ∧
      (∀ payload, Gated JSONSchemaValidator.currentFormatVersion (v.declaredField payload)
        (v.toBase.deserializeContainerized (π := π) payload)) ∧
      ∀ line, Gated JSONSchemaValidator.currentFormatVersion (v.declaredField (.str line))
        (v.toBase.deserializeFirehose (π := π) line)) ∧
    ∀ (lib : ProtoLib) (v : ProtobufValidator lib),
      (v.useTransportMessageAttributes = true →
        ∀ payload attributes (providerMetadata : Option π),
          Gated ProtobufValidator.currentFormatVersion (declaredAttribute attributes)
            (v.toBase.deserialize payload attributes providerMetadata)) ∧
      (v.useTransportMessageAttributes = false →
        ∀ payload attributes (providerMetadata : Option π),
          Gated ProtobufValidator.currentFormatVersion
              (ProtobufValidator.declaredField (v.wire.decodeProto lib.payloadCodec payload))
              (v.toBase.deserialize payload attributes providerMetadata) ↔
            ∀ msgPayload, v.wire.decodeProto lib.payloadCodec payload = .ok msgPayload →
              v.ContainerAcceptable msgPayload →
              StrictVersion.parse msgPayload.formatVersion =
                some ProtobufValidator.currentFormatVersion) ∧
      (∀ payload, Gated ProtobufValidator.currentFormatVersion
            (ProtobufValidator.declaredField (v.wire.decodeProto lib.payloadCodec payload))
            (v.toBase.deserializeContainerized (π := π) payload) ↔
          ∀ msgPayload, v.wire.decodeProto lib.payloadCodec payload = .ok msgPayload →
            v.ContainerAcceptable msgPayload →
            StrictVersion.parse msgPayload.formatVersion =
              some ProtobufValidator.currentFormatVersion) ∧
      ∀ line, Gated ProtobufValidator.currentFormatVersion
            (ProtobufValidator.declaredField (decodeProtoJson lib.payloadCodec (.str line)))
            (v.toBase.deserializeFirehose (π := π) line) ↔
          ∀ msgPayload, decodeProtoJson lib.payloadCodec (.str line) = .ok msgPayload →
            v.FirehoseAcceptable msgPayload →
            StrictVersion.parse msgPayload.formatVersion =
              some ProtobufValidator.currentFormatVersion := by
  constructor
  · intro v hc
    refine ⟨fun _ _ _ => ?_, fun payload => ?_, fun _ => v.gated_deserializeFirehose hc⟩
    · exact v.gated_deserializeMode hc id
    · have hfalse : Gated JSONSchemaValidator.currentFormatVersion
          (v.declared false payload .empty)
          (v.toBase.deserializeMode payload .empty (none : Option π) false) :=
        v.gated_deserializeMode hc (absurd · Bool.false_ne_true)
      exact hfalse
  · intro lib v
    refine ⟨fun hmode payload attributes providerMetadata => ?_,
      fun hmode payload attributes providerMetadata => ?_, fun payload => ?_, fun line => ?_⟩
    · have h : v.toBase.useTransportMessageAttributes = true := hmode
      rw [HedwigBaseValidator.deserialize, h]
      exact v.gated_transport hmode
    · have h : v.toBase.useTransportMessageAttributes = false := hmode
      rw [HedwigBaseValidator.deserialize, h]
      exact ProtobufValidator.gated_iff v.exists_deserializeMode
    · exact ProtobufValidator.gated_iff v.exists_deserializeMode
    · exact ProtobufValidator.gated_iff v.exists_deserializeFirehose

/-! ## Sample containers -/

/-- A container of a format version, with data of the class without fields. -/
def sampleContainer (formatVersion : String) : PayloadV1 Unit ℤ where
  formatVersion := formatVersion
  id := "b1328174-a21c-43d3-b303-964dfcc76efc"
  publisher := "myapp"
  timestamp := 1460868253255
  headers := .empty
  schema := "TripCreated/1.0"
  data := ()

/-- The container in the JSON format of protobuf. -/
def sampleContainerJson (formatVersion : String) : String :=
  "\x7b\"format_version\": \"" ++ formatVersion ++ "\", " ++
    "\"id\": \"b1328174-a21c-43d3-b303-964dfcc76efc\", \"metadata\": \x7b" ++
    "\"publisher\": \"myapp\", \"timestamp\": \"2016-04-17T04:44:13.255Z\"\x7d, " ++
    "\"schema\": \"TripCreated/1.0\", \"data\": \x7b" ++
    "\"@type\": \"type.googleapis.com/hedwig.TripCreatedV1\"\x7d\x7d"

/-- The runtime of the sample messages, with two containers that it can parse. -/
def sampleContainerLib : ProtoLib :=
  { emptyMessageLib with
    payloadCodec :=
      { emptyMessageLib.payloadCodec with
        parse := fun s =>
          if s = sampleContainerJson "1.0" then .ok (sampleContainer "1.0")
          else if s = sampleContainerJson "2.0" then .ok (sampleContainer "2.0")
          else .error (.new .parseError "") } }

/-- A `ProtobufJSONValidator` in container mode. -/
def sampleContainerValidator : ProtobufValidator sampleContainerLib where
  wire := .json
  protoMessages := ⟨[(("TripCreated", 1), ())], by simp⟩
  useTransportMessageAttributes := false

/-- The containers that the sample validator parses. -/
lemma decodeProto_sampleContainer (s : String) :
    sampleContainerValidator.wire.decodeProto sampleContainerLib.payloadCodec (.str s) =
      if s = sampleContainerJson "1.0" then .ok (sampleContainer "1.0")
      else if s = sampleContainerJson "2.0" then .ok (sampleContainer "2.0")
      else .error (.new .parseError "") := rfl

/-- Transport attributes of another format version. -/
def futureAttributes : Attributes :=
  .ofList [(.str "hedwig_format_version", .str "2.0"), (.str "hedwig_id", .str "1"),
    (.str "hedwig_message_timestamp", .str "1460868253255"), (.str "hedwig_publisher", .str "web"),
    (.str "hedwig_schema", .str "TripCreated/1.0")]

/-- Another version does not denote the current one. -/
lemma not_denotes_futureAttributes :
    ¬ Denotes (declaredAttribute futureAttributes) ⟨1, 0, 0, none⟩ := by
  rintro ⟨s, hs, hversion⟩
  obtain rfl : "2.0" = s := Option.some.inj hs
  revert hversion
  decide

/-- The theorem at messages of another version in transport attributes, which are refused, and at
a container of the current one. -/
theorem deserialize_gated_sample :
    (∀ m, emptyDocumentValidator.toBase.deserialize (.str "\x7b\x7d") futureAttributes
        (none : Option Unit) ≠ .ok m) ∧
      (∀ m, emptyMessageValidator.toBase.deserialize (.bytes []) futureAttributes
        (none : Option Unit) ≠ .ok m) ∧
      Gated ProtobufValidator.currentFormatVersion
        (ProtobufValidator.declaredField (sampleContainerValidator.wire.decodeProto
          sampleContainerLib.payloadCodec (.str (sampleContainerJson "1.0"))))
        (sampleContainerValidator.toBase.deserialize (.str (sampleContainerJson "1.0")) .empty
          (none : Option Unit)) := by
  obtain ⟨hjson, hproto⟩ := deserialize_gated Unit
  refine ⟨fun m h => ?_, fun m h => ?_, ?_⟩
  · exact not_denotes_futureAttributes
      ((hjson emptyDocumentValidator checksContainer_permissiveSchemaLib).1 _ _ none m h)
  · exact not_denotes_futureAttributes
      ((hproto emptyMessageLib emptyMessageValidator).1 rfl _ _ none m h)
  · refine ((hproto sampleContainerLib sampleContainerValidator).2.1 rfl _ _ none).mpr ?_
    rintro msgPayload hproto -
    rw [decodeProto_sampleContainer, if_pos rfl] at hproto
    obtain rfl := Except.ok.inj hproto
    decide

/-- A container of another version is decoded. -/
theorem deserialize_not_gated :
    ¬ Gated ProtobufValidator.currentFormatVersion
      (ProtobufValidator.declaredField (sampleContainerValidator.wire.decodeProto
        sampleContainerLib.payloadCodec (.str (sampleContainerJson "2.0"))))
      (sampleContainerValidator.toBase.deserialize (.str (sampleContainerJson "2.0")) .empty
        (none : Option Unit)) := by
  have hreturns : (sampleContainerValidator.toBase.deserialize (.str (sampleContainerJson "2.0"))
      .empty (none : Option Unit)).isOk = true := by decide +kernel
  intro hgated
  cases hrun : sampleContainerValidator.toBase.deserialize (.str (sampleContainerJson "2.0"))
      .empty (none : Option Unit) with
  | error e => simp [hrun, Except.isOk, Except.toBool] at hreturns
  | ok m =>
    obtain ⟨s, hs, hversion⟩ := hgated m hrun
    have hne : sampleContainerJson "2.0" ≠ sampleContainerJson "1.0" := by decide +kernel
    rw [decodeProto_sampleContainer, if_neg hne, if_pos rfl] at hs
    obtain rfl : "2.0" = s := Option.some.inj hs
    revert hversion
    decide

end Hedwig
