import Hedwig.Validators.FormatVersion

set_option relaxedAutoImplicit false
set_option autoImplicit false

/-!
# Well-formed messages

What callers rely on in a message that was decoded: its headers are strings outside the reserved
namespace, its timestamp is an integer, and its type and major version are known.  The decoders of
transport attributes and of protobuf containers see to all of it.  A JSON container may hold any
number as timestamp, and `deserialize_firehose` does not look at the headers.

## Main definitions

* `Hedwig.Message.WellFormed`, `Hedwig.DecodesWellFormed` — the property of a message, and of a
  decoder at an input.
* `Hedwig.JSONSchemaValidator.ContainerAcceptable` — the checks that a JSON container meets apart
  from those on its headers.

## Main results

* `Hedwig.deserialize_wellFormed` — which decoders return well-formed messages only, and for which
  input the others do.
* `Hedwig.deserialize_not_wellFormed` — a timestamp that is a float, and a reserved header.
-/

namespace Hedwig

/-- A message as its readers expect it, for a validator that knows some types in some major
versions. -/
structure Message.WellFormed {δ π : Type} (Known : String → ℕ → Prop) (m : Message δ π) : Prop where
  headers : ∃ items, m.metadata.headers = .dict items ∧ ∀ kv ∈ items, IsHeader kv
  timestamp : ∃ t, m.metadata.timestamp = .int t
  known : Known m.type m.version.major

/-- A decoder returns a message only if it is well-formed. -/
def DecodesWellFormed {δ π : Type} (Known : String → ℕ → Prop)
    (result : Except PyException (Message δ π)) : Prop :=
  ∀ m, result = .ok m → m.WellFormed Known

/-- Transport attributes are decoded to an integer as timestamp. -/
lemma timestamp_of_decodeMetaAttributes {attributes : Attributes} {current : StrictVersion}
    {metaAttrs : MetaAttributes} (hdecode : decodeMetaAttributes true attributes = .ok metaAttrs)
    (hverify : verifyFormatVersion metaAttrs.formatVersion current = .ok ()) :
    ∃ t, metaAttrs.timestamp = .int t := by
  obtain ⟨_, _, _, _, _, t, -, -, -, -, -, -, -, -, rfl⟩ :=
    decodeMetaAttributes_eq_ok.mp ⟨hdecode, hverify⟩
  exact ⟨t, rfl⟩

/-! ## The JSON schema validator -/

namespace JSONSchemaValidator

variable (v : JSONSchemaValidator) {π : Type}

/-- The schema of the application has a definition for a type and a major version. -/
def Known (messageType : String) (majorVersion : ℕ) : Prop :=
  ∃ definition, v.schema messageType majorVersion = .ok definition

/-- A schema is under the root and names a known type, and the data satisfy its definition. -/
def DataAcceptable (schema data : PyObj) : Prop :=
  ∃ s messageType version definition, schema = .str s ∧
    decodeMessageType schema = .ok (messageType, version) ∧
    PyStr.startsWith s v.schemaRoot = true ∧
    v.schema messageType version.major = .ok definition ∧
    v.jsonschema.iterErrors data definition = .ok []

/-- A document with this timestamp and these headers meets every check on a container but those on
the headers: it conforms to the container schema, all fields of its metadata are there, and its
data are acceptable. -/
def ContainerAcceptable (document timestamp : PyObj) (headers : List (PyKey × PyObj)) : Prop :=
  containerSchema.accepts document = true ∧
    ∃ fields metadata publisher schema data, document = .dict fields ∧
      PyObj.field? fields "metadata" = some (.dict metadata) ∧
      PyObj.field? metadata "timestamp" = some timestamp ∧
      PyObj.field? metadata "publisher" = some publisher ∧
      PyObj.field? metadata "headers" = some (.dict headers) ∧
      PyObj.field? fields "schema" = some schema ∧ PyObj.field? fields "data" = some data ∧
      v.DataAcceptable schema data

/-- What it takes for data to be decoded. -/
lemma decodeData_eq_ok {metaAttrs : MetaAttributes} {messageType : String}
    {version : StrictVersion} {data d : PyObj} :
    v.toBase.decodeData metaAttrs messageType version data = .ok d ↔
      d = data ∧ ∃ s definition, metaAttrs.schema = .str s ∧
        PyStr.startsWith s v.schemaRoot = true ∧
        v.schema messageType version.major = .ok definition ∧
        v.jsonschema.iterErrors data definition = .ok [] := by
  constructor
  · intro h
    obtain rfl := v.eq_of_decodeData h
    refine ⟨rfl, ?_⟩
    change v.decodeData metaAttrs messageType version d = .ok d at h
    rw [decodeData] at h
    split at h
    · rename_i s hs
      split_ifs at h with hroot
      simp only [bind_eq_ok] at h
      obtain ⟨definition, hdefinition, errors, herrors, h⟩ := h
      split_ifs at h with hnil
      obtain rfl : errors = [] := not_not.mp hnil
      exact ⟨s, definition, hs, hroot, hdefinition, herrors⟩
    · cases h
  · rintro ⟨rfl, s, definition, hs, hroot, hdefinition, herrors⟩
    change v.decodeData metaAttrs messageType version d = .ok d
    rw [decodeData, hs]
    refine (if_pos hroot).trans ?_
    exact bind_eq_ok.mpr ⟨definition, hdefinition, bind_eq_ok.mpr ⟨[], herrors, rfl⟩⟩

/-- A decoded type is known. -/
lemma known_of_decodeData {metaAttrs : MetaAttributes} {messageType : String}
    {version : StrictVersion} {data d : PyObj}
    (h : v.toBase.decodeData metaAttrs messageType version data = .ok d) :
    v.Known messageType version.major := by
  obtain ⟨-, _, definition, -, -, hdefinition, -⟩ := v.decodeData_eq_ok.mp h
  exact ⟨definition, hdefinition⟩

/-- The headers in a container that conforms are a dictionary. -/
lemma headers_of_extractContainer (hc : v.jsonschema.ChecksContainer) {s : String}
    {attributes : Attributes} {metaAttrs : MetaAttributes} {data : PyObj}
    (h : v.extractDataHelper s attributes false = .ok (metaAttrs, data)) :
    ∃ items, metaAttrs.headers = .dict items := by
  obtain ⟨document, hdoc, haccepts, -, hmeta⟩ := (v.extractContainer_eq_ok hc).mp h
  obtain ⟨fields, metadata, t, p, headers, id, schema, fv, rfl, hmetadata, -, -, hh, -, -, -,
    rfl⟩ := containerMetaAttributes_eq_ok.mp hmeta
  obtain ⟨-, -, -, ⟨metadata', hmetadata', hheaders⟩, -⟩ := fields_of_containerSchema haccepts
  obtain rfl : metadata = metadata' :=
    PyObj.dict.inj (Option.some.inj (hmetadata.symm.trans hmetadata'))
  exact hheaders headers hh

/-- What is extracted from a container and decoded has an acceptable document behind it. -/
lemma containerAcceptable_of_extract (hc : v.jsonschema.ChecksContainer) {s : String}
    (attributes : Attributes) {metaAttrs : MetaAttributes} {data d : PyObj} {messageType : String}
    {version : StrictVersion}
    (hextract : v.extractDataHelper s attributes false = .ok (metaAttrs, data))
    (htype : decodeMessageType metaAttrs.schema = .ok (messageType, version))
    (hdata : v.toBase.decodeData metaAttrs messageType version data = .ok d) :
    ∃ document headers, v.json.loads s = .ok document ∧ metaAttrs.headers = .dict headers ∧
      v.ContainerAcceptable document metaAttrs.timestamp headers := by
  obtain ⟨headers, hheaders⟩ := v.headers_of_extractContainer hc hextract
  obtain ⟨document, hdoc, haccepts, hgetData, hmeta⟩ := (v.extractContainer_eq_ok hc).mp hextract
  obtain ⟨fields, metadata, timestamp, publisher, _, id, schema, fv, rfl, hmetadata, ht, hp, hh, -,
    hschema, -, rfl⟩ := containerMetaAttributes_eq_ok.mp hmeta
  obtain rfl := hheaders
  obtain ⟨_, ⟨⟩, hfield⟩ := getItem_eq_ok.mp hgetData
  obtain ⟨-, t, definition, hs, hroot, hdefinition, herrors⟩ := v.decodeData_eq_ok.mp hdata
  exact ⟨_, headers, hdoc, rfl, haccepts, fields, metadata, publisher, schema, data, rfl, hmetadata,
    ht, hp, hh, hschema, hfield, t, messageType, version, definition, hs, htype, hroot, hdefinition,
    herrors⟩

/-- An acceptable document is extracted and decoded. -/
lemma extract_of_containerAcceptable (hc : v.jsonschema.ChecksContainer) {s : String}
    {document timestamp : PyObj} {headers : List (PyKey × PyObj)} (attributes : Attributes)
    (hdoc : v.json.loads s = .ok document)
    (h : v.ContainerAcceptable document timestamp headers) :
    ∃ metaAttrs data messageType version,
      v.extractDataHelper s attributes false = .ok (metaAttrs, data) ∧
      metaAttrs.timestamp = timestamp ∧ metaAttrs.headers = .dict headers ∧
      decodeMessageType metaAttrs.schema = .ok (messageType, version) ∧
      v.toBase.decodeData metaAttrs messageType version data = .ok data := by
  obtain ⟨haccepts, fields, metadata, publisher, schema, data, rfl, hmetadata, ht, hp, hh, hschema,
    hfield, t, messageType, version, definition, hs, htype, hroot, hdefinition, herrors⟩ := h
  obtain ⟨⟨id, hid⟩, -, hfv, -, -⟩ := fields_of_containerSchema haccepts
  have hmeta := containerMetaAttributes_eq_ok.mpr ⟨fields, metadata, timestamp, publisher,
    .dict headers, _, schema, _, rfl, hmetadata, ht, hp, hh, hid, hschema, hfv, rfl⟩
  refine ⟨_, data, messageType, version, (v.extractContainer_eq_ok hc).mpr
    ⟨_, hdoc, haccepts, getItem_eq_ok.mpr ⟨fields, rfl, hfield⟩, hmeta⟩, rfl, rfl, htype, ?_⟩
  exact v.decodeData_eq_ok.mpr ⟨rfl, t, definition, hs, hroot, hdefinition, herrors⟩

/-- **JSON payloads with transport attributes** are decoded to well-formed messages. -/
lemma decodesWellFormed_transport (hmode : v.useTransportMessageAttributes = true)
    {payload : Payload} {attributes : Attributes} {providerMetadata : Option π} :
    DecodesWellFormed v.Known
      (v.toBase.deserializeMode payload attributes providerMetadata true) := by
  intro m h
  obtain ⟨metaAttrs, x, messageType, version, data, hextract, hheaders, -, hdata, rfl⟩ :=
    v.toBase.deserializeMode_eq_ok.mp h
  cases payload with
  | bytes b => cases hextract
  | str s =>
    obtain ⟨-, hdecode, hverify⟩ := (v.extractTransport_eq_ok hmode).mp hextract
    exact ⟨verifyHeaders_eq_ok.mp hheaders, timestamp_of_decodeMetaAttributes hdecode hverify,
      v.known_of_decodeData hdata⟩

/-- **JSON containers** are decoded to well-formed messages exactly if the timestamp of an
acceptable one, with headers that are accepted too, is an integer.

**Proof sketch.**  The checks of the decoder give the headers and the known type, so the timestamp
is all that is left.  A payload is decoded exactly if its container is acceptable and its headers
are accepted, and the message then has the timestamp of the container. -/
lemma decodesWellFormed_container (hc : v.jsonschema.ChecksContainer) {payload : Payload}
    {attributes : Attributes} {providerMetadata : Option π} :
    DecodesWellFormed v.Known
        (v.toBase.deserializeMode payload attributes providerMetadata false) ↔
      ∀ s document timestamp headers, payload = .str s → v.json.loads s = .ok document →
        v.ContainerAcceptable document timestamp headers → (∀ kv ∈ headers, IsHeader kv) →
        ∃ t, timestamp = .int t := by
  constructor
  · rintro hdecodes s document timestamp headers rfl hdoc hacceptable hheader
    obtain ⟨metaAttrs, data, messageType, version, hextract, rfl, hheaders, htype, hdata⟩ :=
      v.extract_of_containerAcceptable hc attributes hdoc hacceptable
    have hverify := verifyHeaders_eq_ok.mpr ⟨headers, hheaders, hheader⟩
    have hdecoded := hdecodes _ (v.toBase.deserializeMode_eq_ok.mpr
      ⟨metaAttrs, data, messageType, version, data, hextract, hverify, htype, hdata, rfl⟩)
    exact hdecoded.timestamp
  · intro hcondition m h
    obtain ⟨metaAttrs, x, messageType, version, data, hextract, hverify, htype, hdata, rfl⟩ :=
      v.toBase.deserializeMode_eq_ok.mp h
    cases payload with
    | bytes b => cases hextract
    | str s =>
      obtain ⟨document, headers, hdoc, hheaders, hacceptable⟩ :=
        v.containerAcceptable_of_extract hc attributes hextract htype hdata
      obtain ⟨items, hitems, hheader⟩ := verifyHeaders_eq_ok.mp hverify
      obtain rfl : headers = items := PyObj.dict.inj (hheaders.symm.trans hitems)
      exact ⟨⟨headers, hheaders, hheader⟩,
        hcondition s document _ headers rfl hdoc hacceptable hheader, v.known_of_decodeData hdata⟩

/-- **JSON firehose lines** are decoded to well-formed messages exactly if an acceptable one has an
integer as timestamp and nothing but headers among its headers.

**Proof sketch.**  As for containers, but nothing has looked at the headers, so they are left to the
condition too. -/
lemma decodesWellFormed_firehose (hc : v.jsonschema.ChecksContainer) {line : String} :
    DecodesWellFormed v.Known (v.toBase.deserializeFirehose (π := π) line) ↔
      ∀ document timestamp headers, v.json.loads line = .ok document →
        v.ContainerAcceptable document timestamp headers →
        (∃ t, timestamp = .int t) ∧ ∀ kv ∈ headers, IsHeader kv := by
  constructor
  · intro hdecodes document timestamp headers hdoc hacceptable
    obtain ⟨metaAttrs, data, messageType, version, hextract, rfl, hheaders, htype, hdata⟩ :=
      v.extract_of_containerAcceptable hc .empty hdoc hacceptable
    have hwell := hdecodes _ (v.toBase.deserializeFirehose_eq_ok.mpr
      ⟨metaAttrs, data, messageType, version, data, hextract, htype, hdata, rfl⟩)
    obtain ⟨items, hitems, hheader⟩ := hwell.headers
    obtain rfl : headers = items := PyObj.dict.inj (hheaders.symm.trans hitems)
    exact ⟨hwell.timestamp, hheader⟩
  · intro hcondition m h
    obtain ⟨metaAttrs, x, messageType, version, data, hextract, htype, hdata, rfl⟩ :=
      v.toBase.deserializeFirehose_eq_ok.mp h
    obtain ⟨document, headers, hdoc, hheaders, hacceptable⟩ :=
      v.containerAcceptable_of_extract hc .empty hextract htype hdata
    obtain ⟨ht, hheader⟩ := hcondition document _ headers hdoc hacceptable
    exact ⟨⟨headers, hheaders, hheader⟩, ht, v.known_of_decodeData hdata⟩

end JSONSchemaValidator

/-! ## The protobuf validators -/

namespace ProtobufValidator

variable {lib : ProtoLib} (v : ProtobufValidator lib) {π : Type}

/-- A class is registered for a type and a major version. -/
def Known (messageType : String) (majorVersion : ℕ) : Prop :=
  ∃ cls, v.protoMessages.get? (messageType, majorVersion) = some cls

/-- A decoded type is known. -/
lemma known_of_decodeData {metaAttrs : MetaAttributes} {messageType : String}
    {version : StrictVersion} {data : ProtoData lib} {d : lib.Msg}
    (h : v.toBase.decodeData metaAttrs messageType version data = .ok d) :
    v.Known messageType version.major := by
  obtain ⟨cls, hcls, -⟩ := v.decodeData_eq_ok.mp h
  exact ⟨cls, hcls⟩

/-- **Protobuf payloads**, with transport attributes or in a container, are decoded to well-formed
messages. -/
lemma decodesWellFormed_deserializeMode {payload : Payload} {attributes : Attributes}
    {providerMetadata : Option π} {useTransportAttributes : Bool}
    (hmode : useTransportAttributes = true → v.useTransportMessageAttributes = true) :
    DecodesWellFormed v.Known
      (v.toBase.deserializeMode payload attributes providerMetadata useTransportAttributes) := by
  intro m h
  obtain ⟨metaAttrs, x, messageType, version, data, hextract, hheaders, -, hdata, rfl⟩ :=
    v.toBase.deserializeMode_eq_ok.mp h
  refine ⟨verifyHeaders_eq_ok.mp hheaders, ?_, v.known_of_decodeData hdata⟩
  change v.extractData payload attributes useTransportAttributes = _ at hextract
  cases useTransportAttributes with
  | true =>
    obtain ⟨hdecode, hverify, -⟩ := extractTransport_eq_ok.mp hextract
    rw [hmode rfl] at hdecode
    exact timestamp_of_decodeMetaAttributes hdecode hverify
  | false =>
    obtain ⟨msgPayload, -, hmeta, -⟩ := extractContainer_eq_ok.mp hextract
    obtain ⟨t, -, rfl⟩ := containerMetaAttributes_eq_ok.mp hmeta
    exact ⟨t, rfl⟩

/-- **Protobuf firehose lines** are decoded to well-formed messages exactly if no header of an
acceptable one has a reserved name.

**Proof sketch.**  The timestamp has been converted to an integer, and the headers are a map of
strings to strings, of which only the names are not looked at. -/
lemma decodesWellFormed_firehose {line : String} :
    DecodesWellFormed v.Known (v.toBase.deserializeFirehose (π := π) line) ↔
      ∀ msgPayload, decodeProtoJson lib.payloadCodec (.str line) = .ok msgPayload →
        v.FirehoseAcceptable msgPayload →
        ∀ k ∈ msgPayload.headers.keys, PyStr.startsWith k reservedPrefix = false := by
  constructor
  · rintro hdecodes msgPayload hproto ⟨⟨t, ht⟩, x, hx, hdata⟩
    obtain ⟨metaAttrs, hmeta, hheaders, hschema⟩ := exists_containerMetaAttributes ht
    obtain ⟨messageType, version, msg, htype, hmsg⟩ := (v.exists_decodeData hschema).mpr hdata
    have hextract : v.toBase.extractDataFirehose line = .ok (metaAttrs, x) :=
      bind_eq_ok.mpr ⟨msgPayload, catchDecodingErrors_eq_ok.mpr hproto,
        bind_eq_ok.mpr ⟨x, hx, bind_eq_ok.mpr ⟨metaAttrs, hmeta, rfl⟩⟩⟩
    have hwell := hdecodes _ (v.toBase.deserializeFirehose_eq_ok.mpr
      ⟨metaAttrs, x, messageType, version, msg, hextract, htype, hmsg, rfl⟩)
    refine verifyHeaders_ofStrings.mp ?_
    rw [← hheaders]
    exact verifyHeaders_eq_ok.mpr hwell.headers
  · intro hcondition m h
    obtain ⟨metaAttrs, x, messageType, version, data, hextract, htype, hdata, rfl⟩ :=
      v.toBase.deserializeFirehose_eq_ok.mp h
    change extractDataFirehose line = .ok (metaAttrs, x) at hextract
    simp only [extractDataFirehose, bind_eq_ok, catchDecodingErrors_eq_ok] at hextract
    obtain ⟨msgPayload, hproto, x', hx, metaAttrs', hmeta, hreturn⟩ := hextract
    obtain ⟨rfl, rfl⟩ : metaAttrs' = metaAttrs ∧ x' = x := by
      simpa [pure, Except.pure] using hreturn
    obtain ⟨t, ht, rfl⟩ := containerMetaAttributes_eq_ok.mp hmeta
    have hacceptable : v.FirehoseAcceptable msgPayload :=
      ⟨⟨t, ht⟩, x', hx, (v.exists_decodeData rfl).mp ⟨messageType, version, data, htype, hdata⟩⟩
    have hheaders := verifyHeaders_ofStrings.mpr (hcondition msgPayload hproto hacceptable)
    exact ⟨verifyHeaders_eq_ok.mp hheaders, ⟨t, rfl⟩, v.known_of_decodeData hdata⟩

end ProtobufValidator

/-! ## The three validators -/

/-- **Well-formedness of decoded messages.**  Transport attributes and protobuf containers are
decoded to well-formed messages only.  A JSON container is exactly if the timestamp of an
acceptable one is an integer, a JSON firehose line exactly if moreover its headers are strings
outside the reserved namespace, and a protobuf firehose line exactly if no header of an acceptable
one has a reserved name.

**Proof sketch.**  Each decoder is one of these cases: transport attributes are checked field by
field, and for the others the lemma on its format says which field of an acceptable container is
not. -/
theorem deserialize_wellFormed (π : Type) :
    (∀ v : JSONSchemaValidator, v.jsonschema.ChecksContainer →
      (v.useTransportMessageAttributes = true →
        ∀ payload attributes (providerMetadata : Option π),
          DecodesWellFormed v.Known (v.toBase.deserialize payload attributes providerMetadata)) ∧
      (v.useTransportMessageAttributes = false →
        ∀ payload attributes (providerMetadata : Option π),
          DecodesWellFormed v.Known (v.toBase.deserialize payload attributes providerMetadata) ↔
            ∀ s document timestamp headers, payload = .str s → v.json.loads s = .ok document →
              v.ContainerAcceptable document timestamp headers → (∀ kv ∈ headers, IsHeader kv) →
              ∃ t, timestamp = .int t) ∧
      (∀ payload, DecodesWellFormed v.Known (v.toBase.deserializeContainerized (π := π) payload) ↔
        ∀ s document timestamp headers, payload = .str s → v.json.loads s = .ok document →
          v.ContainerAcceptable document timestamp headers → (∀ kv ∈ headers, IsHeader kv) →
          ∃ t, timestamp = .int t) ∧
      ∀ line, DecodesWellFormed v.Known (v.toBase.deserializeFirehose (π := π) line) ↔
        ∀ document timestamp headers, v.json.loads line = .ok document →
          v.ContainerAcceptable document timestamp headers →
          (∃ t, timestamp = .int t) ∧ ∀ kv ∈ headers, IsHeader kv) ∧
    ∀ (lib : ProtoLib) (v : ProtobufValidator lib),
      (∀ payload attributes (providerMetadata : Option π),
        DecodesWellFormed v.Known (v.toBase.deserialize payload attributes providerMetadata)) ∧
      (∀ payload,
        DecodesWellFormed v.Known (v.toBase.deserializeContainerized (π := π) payload)) ∧
      ∀ line, DecodesWellFormed v.Known (v.toBase.deserializeFirehose (π := π) line) ↔
        ∀ msgPayload, decodeProtoJson lib.payloadCodec (.str line) = .ok msgPayload →
          v.FirehoseAcceptable msgPayload →
          ∀ k ∈ msgPayload.headers.keys, PyStr.startsWith k reservedPrefix = false := by
  constructor
  · intro v hc
    refine ⟨fun hmode payload attributes providerMetadata => ?_,
      fun hmode payload attributes providerMetadata => ?_,
      fun payload => v.decodesWellFormed_container hc, fun line => v.decodesWellFormed_firehose hc⟩
    · have h : v.toBase.useTransportMessageAttributes = true := hmode
      rw [HedwigBaseValidator.deserialize, h]
      exact v.decodesWellFormed_transport hmode
    · have h : v.toBase.useTransportMessageAttributes = false := hmode
      rw [HedwigBaseValidator.deserialize, h]
      exact v.decodesWellFormed_container hc
  · intro lib v
    refine ⟨fun _ _ _ => v.decodesWellFormed_deserializeMode id, fun _ => ?_,
      fun line => v.decodesWellFormed_firehose⟩
    exact v.decodesWellFormed_deserializeMode (absurd · Bool.false_ne_true)

/-! ## Sample containers -/

/-- A JSON container with a timestamp and headers. -/
def sampleDocument (timestamp : PyObj) (headers : List (PyKey × PyObj)) : PyObj :=
  .dict [(.str "format_version", .str "1.0"),
    (.str "schema", .str "https://hedwig.automatic.com/schema#/schemas/trip_created/1.0"),
    (.str "id", .str "b1328174-a21c-43d3-b303-964dfcc76efc"),
    (.str "metadata", .dict [(.str "timestamp", timestamp), (.str "publisher", .str "myapp"),
      (.str "headers", .dict headers)]),
    (.str "data", .dict [])]

/-- The text of the container. -/
def sampleDocumentText (timestamp headers : String) : String :=
  "\x7b\"format_version\":\"1.0\"," ++
    "\"schema\":\"https://hedwig.automatic.com/schema#/schemas/trip_created/1.0\"," ++
    "\"id\":\"b1328174-a21c-43d3-b303-964dfcc76efc\"," ++
    "\"metadata\":\x7b\"timestamp\":" ++ timestamp ++ ",\"publisher\":\"myapp\"," ++
    "\"headers\":" ++ headers ++ "\x7d,\"data\":\x7b\x7d\x7d"

/-- A JSON codec that reads three containers: one with a float as timestamp, one with a reserved
header, and one without headers. -/
def sampleDocumentLib : JsonLib where
  encode _ := .error (.new .recursionError "")
  loads s :=
    if s = sampleDocumentText "1460868253255.5" "\x7b\x7d" then
      .ok (sampleDocument (.float "1460868253255.5") [])
    else if s = sampleDocumentText "1460868253255" "\x7b\"hedwig_hop\":1\x7d" then
      .ok (sampleDocument (.int 1460868253255) [(.str "hedwig_hop", .int 1)])
    else if s = sampleDocumentText "1460868253255" "\x7b\x7d" then
      .ok (sampleDocument (.int 1460868253255) [])
    else .error (.new .jsonDecodeError "")
  floatOfDecimal _ _ := "0.0"
  otherKey _ := .error (.new .typeError "")

/-- A JSON schema validator for these containers. -/
def sampleDocumentValidator : JSONSchemaValidator :=
  { emptyDocumentValidator with json := sampleDocumentLib, useTransportMessageAttributes := false }

/-- The runtime of the sample messages, with a container that has a reserved header. -/
def reservedHeaderLib : ProtoLib :=
  { emptyMessageLib with
    payloadCodec :=
      { emptyMessageLib.payloadCodec with
        parse := fun s =>
          if s = sampleContainerJson "1.0" then
            .ok { sampleContainer "1.0" with headers := .ofList [("hedwig_hop", "1")] }
          else .error (.new .parseError "") } }

/-- A binary protobuf validator for that container. -/
def reservedHeaderValidator : ProtobufValidator reservedHeaderLib where
  wire := .binary
  protoMessages := ⟨[(("TripCreated", 1), ())], by simp⟩
  useTransportMessageAttributes := false

/-- The third container has an integer as timestamp and no headers. -/
lemma sampleDocument_of_loads {document timestamp : PyObj} {headers : List (PyKey × PyObj)}
    (hdoc : sampleDocumentValidator.json.loads (sampleDocumentText "1460868253255" "\x7b\x7d") =
      .ok document)
    (h : sampleDocumentValidator.ContainerAcceptable document timestamp headers) :
    timestamp = .int 1460868253255 ∧ headers = [] := by
  have hloads : sampleDocumentValidator.json.loads (sampleDocumentText "1460868253255" "\x7b\x7d") =
      .ok (sampleDocument (.int 1460868253255) []) := by
    have hfloat : sampleDocumentText "1460868253255" "\x7b\x7d" ≠
        sampleDocumentText "1460868253255.5" "\x7b\x7d" := by decide +kernel
    have hreserved : sampleDocumentText "1460868253255" "\x7b\x7d" ≠
        sampleDocumentText "1460868253255" "\x7b\"hedwig_hop\":1\x7d" := by decide +kernel
    simp only [sampleDocumentValidator, sampleDocumentLib, if_neg hfloat, if_neg hreserved, if_true]
  obtain rfl := Except.ok.inj (hloads.symm.trans hdoc)
  obtain ⟨-, fields, metadata, _, _, _, hfields, hmetadata, ht, -, hh, -⟩ := h
  obtain rfl := PyObj.dict.inj hfields
  simp [PyObj.field?] at hmetadata
  subst hmetadata
  simp [PyObj.field?] at ht hh
  exact ⟨ht.symm, hh⟩

/-- The theorem at a JSON container and the same line, with an integer as timestamp and without
headers, and at messages that are refused. -/
theorem deserialize_wellFormed_sample :
    DecodesWellFormed emptyDocumentValidator.Known
        (emptyDocumentValidator.toBase.deserialize (.str "") .empty (none : Option Unit)) ∧
      DecodesWellFormed sampleDocumentValidator.Known
        (sampleDocumentValidator.toBase.deserialize
          (.str (sampleDocumentText "1460868253255" "\x7b\x7d")) .empty (none : Option Unit)) ∧
      DecodesWellFormed sampleDocumentValidator.Known
        (sampleDocumentValidator.toBase.deserializeFirehose (π := Unit)
          (sampleDocumentText "1460868253255" "\x7b\x7d")) ∧
      DecodesWellFormed reservedHeaderValidator.Known
        (reservedHeaderValidator.toBase.deserializeFirehose (π := Unit) "") := by
  obtain ⟨hjson, hproto⟩ := deserialize_wellFormed Unit
  obtain ⟨-, hdeserialize, -, hfirehose⟩ :=
    hjson sampleDocumentValidator checksContainer_permissiveSchemaLib
  refine ⟨?_, ?_, ?_, ?_⟩
  · exact (hjson emptyDocumentValidator checksContainer_permissiveSchemaLib).1 rfl _ _ _
  · refine (hdeserialize rfl _ _ _).mpr ?_
    rintro s document timestamp headers hs hdoc hacceptable -
    obtain rfl := Payload.str.inj hs
    exact ⟨_, (sampleDocument_of_loads hdoc hacceptable).1⟩
  · refine (hfirehose _).mpr fun document timestamp headers hdoc hacceptable => ?_
    obtain ⟨rfl, rfl⟩ := sampleDocument_of_loads hdoc hacceptable
    exact ⟨⟨_, rfl⟩, fun _ hkv => absurd hkv List.not_mem_nil⟩
  · refine ((hproto reservedHeaderLib reservedHeaderValidator).2.2 "").mpr ?_
    rintro msgPayload hmsg
    cases hmsg

/-- A decoder that returns a message which fails some consequence of being well-formed. -/
lemma not_decodesWellFormed {δ π : Type} {Known : String → ℕ → Prop}
    {result : Except PyException (Message δ π)} (check : Message δ π → Bool)
    (hcheck : ∀ m : Message δ π, m.WellFormed Known → check m = true)
    (hresult : result.toOption.map check = some false) : ¬ DecodesWellFormed Known result := by
  intro hdecodes
  cases result with
  | error e => cases hresult
  | ok m =>
    have htrue := hcheck m (hdecodes m rfl)
    rw [Except.toOption, Option.map_some, htrue] at hresult
    cases hresult

/-- The timestamp of a message is an integer. -/
private def hasIntTimestamp {δ π : Type} (m : Message δ π) : Bool :=
  match m.metadata.timestamp with
  | .int _ => true
  | _ => false

/-- A container whose timestamp is a float is decoded, and so are firehose lines of the JSON and of
a protobuf validator with a reserved header. -/
theorem deserialize_not_wellFormed :
    ¬ DecodesWellFormed sampleDocumentValidator.Known
        (sampleDocumentValidator.toBase.deserializeContainerized (π := Unit)
          (.str (sampleDocumentText "1460868253255.5" "\x7b\x7d"))) ∧
      ¬ DecodesWellFormed sampleDocumentValidator.Known
        (sampleDocumentValidator.toBase.deserializeFirehose (π := Unit)
          (sampleDocumentText "1460868253255" "\x7b\"hedwig_hop\":1\x7d")) ∧
      ¬ DecodesWellFormed reservedHeaderValidator.Known
        (reservedHeaderValidator.toBase.deserializeFirehose (π := Unit)
          (sampleContainerJson "1.0")) := by
  have hheaders : ∀ {δ : Type} {Known : String → ℕ → Prop} (m : Message δ Unit),
      m.WellFormed Known → (verifyHeaders m.metadata.headers).isOk = true := by
    intro δ Known m hm
    rw [verifyHeaders_eq_ok.mpr hm.headers]
    rfl
  refine ⟨not_decodesWellFormed hasIntTimestamp ?_
      (by decide +kernel), not_decodesWellFormed _ hheaders (by decide +kernel),
    not_decodesWellFormed _ hheaders (by decide +kernel)⟩
  intro m hm
  obtain ⟨t, ht⟩ := hm.timestamp
  rw [hasIntTimestamp, ht]

end Hedwig
