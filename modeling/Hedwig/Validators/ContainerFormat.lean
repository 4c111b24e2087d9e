import Hedwig.Validators.WellFormed

set_option relaxedAutoImplicit false
set_option autoImplicit false

/-!
# The documented container format

The format of a JSON container is written down three times: where the format versions are listed,
in the schema of containers, and in the fields that the decoder reads.  By the first two the
`metadata` of a container are there but may be empty.  The decoder reads all three of their fields,
so that a container which conforms is refused with a `KeyError` when one of them is missing.

## Main definitions

* `Hedwig.JSONSchemaValidator.Conforming` — a payload in the documented format, with its metadata.
* `Hedwig.MetadataComplete`, `Hedwig.HeadersAllowed` — all fields are there, and the headers are
  strings outside the reserved namespace.

## Main results

* `Hedwig.deserialize_conforming_iff` — which conforming payloads both decoders return.
* `Hedwig.deserialize_conforming_counterexample` — empty metadata.
-/

namespace Hedwig

/-- A decoder returns. -/
def Returns {α : Type} (result : Except PyException α) : Prop := result.isOk = true

/-- A decoder returns exactly if there is a value that it returns. -/
lemma returns_iff {α : Type} {result : Except PyException α} :
    Returns result ↔ ∃ a, result = .ok a := by
  cases result with
  | ok a => simp [Returns, Except.isOk, Except.toBool]
  | error e => simp [Returns, Except.isOk, Except.toBool]

/-- No field of the metadata is left out. -/
def MetadataComplete (metadata : List (PyKey × PyObj)) : Prop :=
  ∀ name ∈ ["timestamp", "publisher", "headers"], (PyObj.field? metadata name).isSome

/-- Whatever headers the metadata have are strings outside the reserved namespace. -/
def HeadersAllowed (metadata : List (PyKey × PyObj)) : Prop :=
  ∀ headers, PyObj.field? metadata "headers" = some (.dict headers) → ∀ kv ∈ headers, IsHeader kv

/-- The fields of complete metadata. -/
lemma metadataComplete_iff {metadata : List (PyKey × PyObj)} :
    MetadataComplete metadata ↔ ∃ timestamp publisher headers,
      PyObj.field? metadata "timestamp" = some timestamp ∧
      PyObj.field? metadata "publisher" = some publisher ∧
      PyObj.field? metadata "headers" = some headers := by
  simp only [MetadataComplete, List.forall_mem_cons, List.not_mem_nil, false_imp_iff, implies_true,
    and_true, Option.isSome_iff_exists]
  constructor
  · rintro ⟨⟨timestamp, ht⟩, ⟨publisher, hp⟩, headers, hh⟩
    exact ⟨timestamp, publisher, headers, ht, hp, hh⟩
  · rintro ⟨timestamp, publisher, headers, ht, hp, hh⟩
    exact ⟨⟨timestamp, ht⟩, ⟨publisher, hp⟩, headers, hh⟩

namespace JSONSchemaValidator

variable (v : JSONSchemaValidator) {s : String} {metadata : List (PyKey × PyObj)}

/-- A payload in the documented format: it conforms to the container schema, its schema names a
known type under the root, and its data satisfy the definition of that type. -/
def Conforming (s : String) (metadata : List (PyKey × PyObj)) : Prop :=
  ∃ fields schema data, v.json.loads s = .ok (.dict fields) ∧
    containerSchema.accepts (.dict fields) = true ∧
    PyObj.field? fields "metadata" = some (.dict metadata) ∧
    PyObj.field? fields "schema" = some schema ∧ PyObj.field? fields "data" = some data ∧
    v.DataAcceptable schema data

/-- A conforming document passes the checks on containers exactly with complete metadata. -/
lemma Conforming.containerAcceptable_iff {v : JSONSchemaValidator} (h : v.Conforming s metadata) :
    (∃ document timestamp headers, v.json.loads s = .ok document ∧
        PyObj.field? metadata "headers" = some (.dict headers) ∧
        v.ContainerAcceptable document timestamp headers) ↔ MetadataComplete metadata := by
  obtain ⟨fields, schema, data, hdoc, haccepts, hmetadata, hschema, hdata, hacceptable⟩ := h
  rw [metadataComplete_iff]
  constructor
  · rintro ⟨document, timestamp, headers, hdoc', hh,
      -, fields', metadata', publisher, -, -, rfl, hmetadata', ht, hp, -⟩
    obtain rfl : fields' = fields := PyObj.dict.inj (Except.ok.inj (hdoc'.symm.trans hdoc))
    obtain rfl : metadata' = metadata :=
      PyObj.dict.inj (Option.some.inj (hmetadata'.symm.trans hmetadata))
    exact ⟨timestamp, publisher, _, ht, hp, hh⟩
  · rintro ⟨timestamp, publisher, headers, ht, hp, hh⟩
    obtain ⟨-, -, -, ⟨metadata', hmetadata', hheaders⟩, -⟩ := fields_of_containerSchema haccepts
    obtain rfl : metadata' = metadata :=
      PyObj.dict.inj (Option.some.inj (hmetadata'.symm.trans hmetadata))
    obtain ⟨items, rfl⟩ := hheaders headers hh
    exact ⟨_, timestamp, items, hdoc, hh, haccepts, fields, metadata', publisher, schema, data, rfl,
      hmetadata, ht, hp, hh, hschema, hdata, hacceptable⟩

/-- An acceptable document has the headers of its metadata. -/
lemma Conforming.headers_eq {v : JSONSchemaValidator} (h : v.Conforming s metadata)
    {document timestamp : PyObj} {headers : List (PyKey × PyObj)}
    (hdoc : v.json.loads s = .ok document)
    (hacceptable : v.ContainerAcceptable document timestamp headers) :
    PyObj.field? metadata "headers" = some (.dict headers) := by
  obtain ⟨fields, -, -, hfields, -, hmetadata, -⟩ := h
  obtain ⟨-, fields', metadata', -, -, -, rfl, hmetadata', -, -, hh, -⟩ := hacceptable
  obtain rfl : fields' = fields := PyObj.dict.inj (Except.ok.inj (hdoc.symm.trans hfields))
  obtain rfl : metadata' = metadata :=
    PyObj.dict.inj (Option.some.inj (hmetadata'.symm.trans hmetadata))
  exact hh

/-- **Firehose lines** in the documented format are decoded exactly with complete metadata. -/
lemma returns_deserializeFirehose_iff {π : Type} (hc : v.jsonschema.ChecksContainer)
    (h : v.Conforming s metadata) :
    Returns (v.toBase.deserializeFirehose (π := π) s) ↔ MetadataComplete metadata := by
  rw [returns_iff, ← h.containerAcceptable_iff]
  constructor
  · rintro ⟨m, hm⟩
    obtain ⟨metaAttrs, x, messageType, version, data, hextract, htype, hdata, -⟩ :=
      v.toBase.deserializeFirehose_eq_ok.mp hm
    obtain ⟨document, headers, hdoc, -, hacceptable⟩ :=
      v.containerAcceptable_of_extract hc .empty hextract htype hdata
    exact ⟨document, _, headers, hdoc, h.headers_eq hdoc hacceptable, hacceptable⟩
  · rintro ⟨document, timestamp, headers, hdoc, -, hacceptable⟩
    obtain ⟨metaAttrs, data, messageType, version, hextract, -, -, htype, hdata⟩ :=
      v.extract_of_containerAcceptable hc .empty hdoc hacceptable
    exact ⟨_, v.toBase.deserializeFirehose_eq_ok.mpr
      ⟨metaAttrs, data, messageType, version, data, hextract, htype, hdata, rfl⟩⟩

/-- **Containers** in the documented format are decoded exactly with complete metadata and allowed
headers.

**Proof sketch.**  `containerAcceptable_of_extract` and `extract_of_containerAcceptable` turn a
payload that is decoded into a container that is acceptable, and back; the headers are those of the
metadata. -/
lemma returns_deserializeContainerized_iff {π : Type} (hc : v.jsonschema.ChecksContainer)
    (h : v.Conforming s metadata) :
    Returns (v.toBase.deserializeContainerized (π := π) (.str s)) ↔
      MetadataComplete metadata ∧ HeadersAllowed metadata := by
  rw [returns_iff, ← h.containerAcceptable_iff]
  constructor
  · rintro ⟨m, hm⟩
    obtain ⟨metaAttrs, x, messageType, version, data, hextract, hverify, htype, hdata, -⟩ :=
      v.toBase.deserializeMode_eq_ok.mp hm
    obtain ⟨document, headers, hdoc, hheaders, hacceptable⟩ :=
      v.containerAcceptable_of_extract hc .empty hextract htype hdata
    have hfield := h.headers_eq hdoc hacceptable
    refine ⟨⟨document, _, headers, hdoc, hfield, hacceptable⟩, ?_⟩
    intro headers' hfield'
    obtain rfl : headers' = headers :=
      PyObj.dict.inj (Option.some.inj (hfield'.symm.trans hfield))
    obtain ⟨items, hitems, hheader⟩ := verifyHeaders_eq_ok.mp hverify
    obtain rfl : headers' = items := PyObj.dict.inj (hheaders.symm.trans hitems)
    exact hheader
  · rintro ⟨⟨document, timestamp, headers, hdoc, hfield, hacceptable⟩, hallowed⟩
    obtain ⟨metaAttrs, data, messageType, version, hextract, -, hheaders, htype, hdata⟩ :=
      v.extract_of_containerAcceptable hc .empty hdoc hacceptable
    have hverify := verifyHeaders_eq_ok.mpr ⟨headers, hheaders, hallowed headers hfield⟩
    exact ⟨_, v.toBase.deserializeMode_eq_ok.mpr
      ⟨metaAttrs, data, messageType, version, data, hextract, hverify, htype, hdata, rfl⟩⟩

end JSONSchemaValidator

/-- **When conforming payloads are accepted.**  A payload in the documented container format is
returned by `deserialize_containerized` and by `deserialize_firehose` exactly if no field of its
metadata is left out and its headers are strings outside the reserved namespace.

**Proof sketch.**  A container is decoded exactly with complete metadata and allowed headers, and a
firehose line with complete metadata. -/
theorem deserialize_conforming_iff (v : JSONSchemaValidator) (hc : v.jsonschema.ChecksContainer)
    (π : Type) (s : String) (metadata : List (PyKey × PyObj)) (h : v.Conforming s metadata) :
    Returns (v.toBase.deserializeContainerized (π := π) (.str s)) ∧
        Returns (v.toBase.deserializeFirehose (π := π) s) ↔
      MetadataComplete metadata ∧ HeadersAllowed metadata := by
  rw [v.returns_deserializeContainerized_iff hc h, v.returns_deserializeFirehose_iff hc h]
  exact ⟨fun hboth => hboth.1, fun hcondition => ⟨hcondition, hcondition.1⟩⟩

/-! ## Empty metadata -/

/-- A container with these metadata. -/
def documentWith (metadata : List (PyKey × PyObj)) : PyObj :=
  .dict [(.str "format_version", .str "1.0"),
    (.str "schema", .str "https://hedwig.automatic.com/schema#/schemas/trip_created/1.0"),
    (.str "id", .str "b1328174-a21c-43d3-b303-964dfcc76efc"),
    (.str "metadata", .dict metadata), (.str "data", .dict [])]

/-- The text of a container without a field in its metadata. -/
def emptyMetadataText : String :=
  "\x7b\"format_version\":\"1.0\"," ++
    "\"schema\":\"https://hedwig.automatic.com/schema#/schemas/trip_created/1.0\"," ++
    "\"id\":\"b1328174-a21c-43d3-b303-964dfcc76efc\"," ++
    "\"metadata\":\x7b\x7d,\"data\":\x7b\x7d\x7d"

/-- A JSON codec that reads the container with empty metadata, and one with all of them. -/
def metadataLib : JsonLib where
  encode _ := .error (.new .recursionError "")
  loads s :=
    if s = emptyMetadataText then .ok (documentWith [])
    else if s = sampleDocumentText "1460868253255" "\x7b\x7d" then
      .ok (documentWith [(.str "timestamp", .int 1460868253255), (.str "publisher", .str "myapp"),
        (.str "headers", .dict [])])
    else .error (.new .jsonDecodeError "")
  floatOfDecimal _ _ := "0.0"
  otherKey _ := .error (.new .typeError "")

/-- A JSON schema validator for these containers. -/
def metadataValidator : JSONSchemaValidator :=
  { emptyDocumentValidator with json := metadataLib, useTransportMessageAttributes := false }

/-- A container that is read conforms, whatever its metadata are. -/
lemma metadataValidator_conforming {s : String} {metadata : List (PyKey × PyObj)}
    (hloads : metadataLib.loads s = .ok (documentWith metadata))
    (haccepts : containerSchema.accepts (documentWith metadata) = true) :
    metadataValidator.Conforming s metadata := by
  refine ⟨_, _, .dict [], hloads, haccepts, rfl, rfl, rfl, ?_⟩
  refine ⟨_, "trip_created", ⟨1, 0, 0, none⟩, _, rfl, ?_, ?_, rfl, rfl⟩
  · exact decodeMessageType_eq_ok.mpr ⟨"1.0".toList, by decide +kernel, by decide +kernel⟩
  · decide +kernel

/-- The theorem at a container with all metadata. -/
theorem deserialize_conforming_iff_sample :
    Returns (metadataValidator.toBase.deserializeContainerized (π := Unit)
        (.str (sampleDocumentText "1460868253255" "\x7b\x7d"))) ∧
      Returns (metadataValidator.toBase.deserializeFirehose (π := Unit)
        (sampleDocumentText "1460868253255" "\x7b\x7d")) := by
  have hne : sampleDocumentText "1460868253255" "\x7b\x7d" ≠ emptyMetadataText := by
    decide +kernel
  have hloads : metadataLib.loads (sampleDocumentText "1460868253255" "\x7b\x7d") =
      .ok (documentWith [(.str "timestamp", .int 1460868253255), (.str "publisher", .str "myapp"),
        (.str "headers", .dict [])]) := by
    simp only [metadataLib, if_neg hne, if_true]
  refine (deserialize_conforming_iff metadataValidator checksContainer_permissiveSchemaLib Unit _ _
    (metadataValidator_conforming hloads (by decide +kernel))).mpr ⟨?_, ?_⟩
  · exact metadataComplete_iff.mpr ⟨_, _, _, rfl, rfl, rfl⟩
  · intro headers hheaders
    obtain rfl : [] = headers := PyObj.dict.inj (Option.some.inj hheaders)
    exact fun _ hkv => absurd hkv List.not_mem_nil

/-- A container with empty metadata conforms to the documented format, and neither decoder returns
it. -/
theorem deserialize_conforming_counterexample :
    metadataValidator.Conforming emptyMetadataText [] ∧
      ¬ Returns (metadataValidator.toBase.deserializeContainerized (π := Unit)
        (.str emptyMetadataText)) ∧
      ¬ Returns (metadataValidator.toBase.deserializeFirehose (π := Unit) emptyMetadataText) := by
  have hloads : metadataLib.loads emptyMetadataText = .ok (documentWith []) := by
    simp only [metadataLib, if_true]
  refine ⟨metadataValidator_conforming hloads (by decide +kernel), ?_, ?_⟩
  · unfold Returns
    decide +kernel
  · unfold Returns
    decide +kernel

end Hedwig
