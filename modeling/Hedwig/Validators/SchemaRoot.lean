import Hedwig.Validators.Attributes
import Hedwig.Validators.WellFormed

set_option relaxedAutoImplicit false
set_option autoImplicit false

/-!
# The root of a schema

A message names its schema by the root of the schema file, `#/schemas/`, its type and its version.
The JSON decoder takes the type and the version from the last two parts of that string, and tests
separately that the string starts with the root.  What stands between the two is not looked at: a
schema under another root is accepted when the configured root is a prefix of it.

## Main definitions

* `Hedwig.UnderRoot` — a schema is the root, `#/schemas/`, a type, a slash and a spelling of a
  version.
* `Hedwig.JSONSchemaValidator.AcceptsOnlyUnderRoot` — no message with a schema is deserialized
  unless the schema is under the root.
* `Hedwig.JSONSchemaValidator.Acceptable` — some message with a schema and data passes the checks.

## Main results

* `Hedwig.JSONSchemaValidator.acceptsOnlyUnderRoot_iff` — for which schemas this holds.
* `Hedwig.JSONSchemaValidator.acceptsOnlyUnderRoot_counterexample` — a schema under another root.
-/

namespace Hedwig

/-- A schema is the root, `#/schemas/`, a type, a slash and a spelling of a version. -/
def UnderRoot (root schema messageType : String) (version : StrictVersion) : Prop :=
  ∃ spelling, StrictVersion.parse spelling = some version ∧
    schema = root ++ "#/schemas/" ++ messageType ++ "/" ++ spelling

/-- A schema is under one root only: its spelling of the version is what follows the last slash. -/
lemma UnderRoot.root_unique {root root' schema messageType : String} {version : StrictVersion}
    (h : UnderRoot root schema messageType version)
    (h' : UnderRoot root' schema messageType version) : root = root' := by
  obtain ⟨spelling, hparse, rfl⟩ := h
  obtain ⟨spelling', hparse', heq⟩ := h'
  have hdrop : ∀ {text : String} (rest : List Char), StrictVersion.parse text = some version →
      (text.toList.reverse ++ '/' :: rest).dropWhile (· ≠ '/') = '/' :: rest := by
    intro text rest hparse
    rw [List.dropWhile_append_of_pos]
    · exact List.dropWhile_cons_of_neg (by simp)
    · intro c hc
      have hne : c ≠ '/' := fun he =>
        StrictVersion.slash_notMem_of_parse hparse (he ▸ List.mem_reverse.mp hc)
      simpa using hne
  have hlist := congrArg (fun t : String => t.toList.reverse.dropWhile (· ≠ '/')) heq
  have hslash : "/".toList.reverse = ['/'] := by decide
  simp only [String.toList_append, List.reverse_append, hslash, List.singleton_append,
    hdrop _ hparse, hdrop _ hparse'] at hlist
  have hroot := List.append_cancel_left (List.append_cancel_left (List.cons.inj hlist).2)
  exact String.toList_injective (List.reverse_injective hroot)

namespace JSONSchemaValidator

variable (v : JSONSchemaValidator) {π : Type} {s : String} {data : PyObj}

/-- A received message has this schema and these data: the schema is among the transport attributes
and the payload is the data, or both are in the container. -/
def Received (payload : Payload) (attributes : Attributes) (s : String) (data : PyObj) : Prop :=
  if v.useTransportMessageAttributes = true then
    attributes.get? (.str "hedwig_schema") = some (.str s) ∧
      ∃ text, payload = .str text ∧ v.json.loads text = .ok data
  else ∃ text fields, payload = .str text ∧ v.json.loads text = .ok (.dict fields) ∧
    PyObj.field? fields "schema" = some (.str s) ∧ PyObj.field? fields "data" = some data

/-- A message with this schema is deserialized only if the schema is under the root, with the type
and the version of the message that is returned, and under no other root. -/
def AcceptsOnlyUnderRoot (π : Type) (s : String) : Prop :=
  ∀ (payload : Payload) (attributes : Attributes) (data : PyObj) (providerMetadata : Option π)
    (m : Message PyObj π), v.Received payload attributes s data →
    v.toBase.deserialize payload attributes providerMetadata = .ok m →
    UnderRoot v.schemaRoot s m.type m.version ∧
      ∀ root, UnderRoot root s m.type m.version → root = v.schemaRoot

/-- Some message with this schema and these data passes the checks of the decoder: the schema starts
with the root and names a known type, the data satisfy the definition of that type, and there is a
payload that holds them and, in a container, metadata and headers that are accepted. -/
def Acceptable (s : String) (data : PyObj) : Prop :=
  if v.useTransportMessageAttributes = true then
    (∃ text, v.json.loads text = .ok data) ∧ v.DataAcceptable (.str s) data
  else ∃ text fields timestamp headers, v.json.loads text = .ok (.dict fields) ∧
    PyObj.field? fields "schema" = some (.str s) ∧ PyObj.field? fields "data" = some data ∧
    v.ContainerAcceptable (.dict fields) timestamp headers ∧ ∀ kv ∈ headers, IsHeader kv

/-- A message with an acceptable schema and data can be received, and is deserialized. -/
lemma exists_deserialize_of_acceptable (hc : v.jsonschema.ChecksContainer)
    (h : v.Acceptable s data) :
    ∃ (payload : Payload) (attributes : Attributes) (m : Message PyObj π),
      v.Received payload attributes s data ∧
      v.toBase.deserialize payload attributes (none : Option π) = .ok m := by
  have hbase : ∀ payload attributes, v.toBase.deserialize payload attributes (none : Option π) =
      v.toBase.deserializeMode payload attributes none v.useTransportMessageAttributes :=
    fun _ _ => rfl
  simp only [hbase, Received]
  rw [Acceptable] at h
  cases hmode : v.useTransportMessageAttributes with
  | true =>
    rw [if_pos hmode] at h
    simp only [if_true]
    obtain ⟨⟨text, hloads⟩, _, messageType, version, definition, ⟨⟩, htype, hroot, hdefinition,
      herrors⟩ := h
    obtain ⟨attributes, metaAttrs, -, hget, hdecode, hversion, hheaders, hschema⟩ :=
      exists_decode_epoch s
    have hextract := (v.extractTransport_eq_ok hmode).mpr ⟨hloads, hdecode, hversion⟩
    exact ⟨.str text, attributes, _, ⟨hget, text, rfl, hloads⟩, v.toBase.deserializeMode_eq_ok.mpr
      ⟨metaAttrs, data, messageType, version, data, hextract, hheaders, hschema ▸ htype,
        v.decodeData_eq_ok.mpr ⟨rfl, s, definition, hschema, hroot, hdefinition, herrors⟩, rfl⟩⟩
  | false =>
    rw [if_neg (by rw [hmode]; exact Bool.false_ne_true)] at h
    simp only [Bool.false_eq_true, if_false]
    obtain ⟨text, fields, timestamp, headers, hloads, hschema, hdata, hacceptable, hheader⟩ := h
    obtain ⟨metaAttrs, data, messageType, version, hextract, -, hheaders, htype, hdecode⟩ :=
      v.extract_of_containerAcceptable hc .empty hloads hacceptable
    have hverify := verifyHeaders_eq_ok.mpr ⟨headers, hheaders, hheader⟩
    exact ⟨.str text, .empty, _, ⟨text, fields, rfl, hloads, hschema, hdata⟩,
      v.toBase.deserializeMode_eq_ok.mpr
        ⟨metaAttrs, data, messageType, version, data, hextract, hverify, htype, hdecode, rfl⟩⟩

/-- A message that is deserialized has an acceptable schema and data; its type and version are those
of the schema, and its data satisfy the definition of the type. -/
lemma acceptable_of_deserialize (hc : v.jsonschema.ChecksContainer) {payload : Payload}
    {attributes : Attributes} {providerMetadata : Option π} {m : Message PyObj π}
    (hreceived : v.Received payload attributes s data)
    (h : v.toBase.deserialize payload attributes providerMetadata = .ok m) :
    v.Acceptable s data ∧ decodeMessageType (.str s) = .ok (m.type, m.version) ∧ m.data = data := by
  change v.toBase.deserializeMode payload attributes providerMetadata
    v.useTransportMessageAttributes = .ok m at h
  rw [Received] at hreceived
  obtain ⟨metaAttrs, x, messageType, version, x', hextract, hverify, htype, hdata, rfl⟩ :=
    v.toBase.deserializeMode_eq_ok.mp h
  obtain ⟨rfl, _, definition, hs, hroot, hdefinition, herrors⟩ := v.decodeData_eq_ok.mp hdata
  cases hmode : v.useTransportMessageAttributes with
  | true =>
    rw [if_pos hmode] at hreceived
    obtain ⟨hget, text, rfl, hloads⟩ := hreceived
    rw [hmode] at hextract
    obtain ⟨hloads', hdecode, hversion⟩ := (v.extractTransport_eq_ok hmode).mp hextract
    obtain rfl : data = x' := Except.ok.inj (hloads.symm.trans hloads')
    obtain ⟨_, _, _, _, schema, _, -, -, -, -, hschema, -, -, -, rfl⟩ :=
      decodeMetaAttributes_eq_ok.mp ⟨hdecode, hversion⟩
    obtain rfl : s = schema := PyObj.str.inj (Option.some.inj (hget.symm.trans hschema))
    obtain rfl : s = _ := PyObj.str.inj hs
    refine ⟨?_, htype, rfl⟩
    rw [Acceptable, if_pos hmode]
    exact ⟨⟨text, hloads⟩, s, messageType, version, definition, rfl, htype, hroot, hdefinition,
      herrors⟩
  | false =>
    have hneg : ¬ v.useTransportMessageAttributes = true := by
      rw [hmode]
      exact Bool.false_ne_true
    rw [if_neg hneg] at hreceived
    obtain ⟨text, fields, rfl, hloads, hschema, hfield⟩ := hreceived
    rw [hmode] at hextract
    change v.extractDataHelper text attributes false = _ at hextract
    obtain ⟨document, headers, hdoc, hheaders, hacceptable⟩ :=
      v.containerAcceptable_of_extract hc attributes hextract htype hdata
    obtain rfl : document = .dict fields := Except.ok.inj (hdoc.symm.trans hloads)
    obtain ⟨_, hdoc', -, hgetData, hmeta⟩ := (v.extractContainer_eq_ok hc).mp hextract
    obtain rfl := Except.ok.inj (hdoc.symm.trans hdoc')
    obtain ⟨_, ⟨⟩, hfield'⟩ := getItem_eq_ok.mp hgetData
    obtain rfl : data = x' := Option.some.inj (hfield.symm.trans hfield')
    obtain ⟨_, _, _, _, _, _, schema, _, ⟨⟩, -, -, -, -, -, hschema', -, rfl⟩ :=
      containerMetaAttributes_eq_ok.mp hmeta
    obtain rfl : PyObj.str s = schema := Option.some.inj (hschema.symm.trans hschema')
    obtain ⟨items, hitems, hheader⟩ := verifyHeaders_eq_ok.mp hverify
    obtain rfl : headers = items := PyObj.dict.inj (hheaders.symm.trans hitems)
    refine ⟨?_, htype, rfl⟩
    rw [Acceptable, if_neg hneg]
    exact ⟨text, fields, _, headers, hloads, hschema, hfield, hacceptable, hheader⟩

/-- **When only the configured root is accepted.**  In the mode of the validator, the messages with
some schema are deserialized only if it is the root followed by `#/schemas/`, the type of the
message, a slash and a spelling of its version, exactly if that schema is of this form or not
acceptable with any data: it does not start with the root, its last two parts name no known type, or
no message that has it passes the other checks.

**Proof sketch.**  A schema that is acceptable with some data is accepted in some message, by the
checks of the decoder itself, so that message has to be under the root.  Conversely an accepted
message shows its schema to be acceptable, and its type and version are read from the schema, which
determines them. -/
theorem acceptsOnlyUnderRoot_iff (hc : v.jsonschema.ChecksContainer) (π : Type) (s : String) :
    v.AcceptsOnlyUnderRoot π s ↔
      ((∃ data, v.Acceptable s data) → ∃ messageType version,
        UnderRoot v.schemaRoot s messageType version ∧
        decodeMessageType (.str s) = .ok (messageType, version)) := by
  constructor
  · rintro honly ⟨data, hacceptable⟩
    obtain ⟨payload, attributes, m, hreceived, h⟩ :=
      v.exists_deserialize_of_acceptable (π := π) hc hacceptable
    obtain ⟨-, hdecode, -⟩ := v.acceptable_of_deserialize hc hreceived h
    exact ⟨m.type, m.version, (honly payload attributes data none m hreceived h).1, hdecode⟩
  · intro hcondition payload attributes data providerMetadata m hreceived h
    obtain ⟨hacceptable, hdecode, -⟩ := v.acceptable_of_deserialize hc hreceived h
    obtain ⟨messageType, version, hunder, hdecode'⟩ := hcondition ⟨data, hacceptable⟩
    obtain ⟨rfl, rfl⟩ := Prod.mk.inj (Except.ok.inj (hdecode'.symm.trans hdecode))
    exact ⟨hunder, fun _ hother => hother.root_unique hunder⟩

end JSONSchemaValidator

/-! ## A longer root -/

/-- A schema of trips under the configured root. -/
def configuredSchema : String := "https://hedwig.automatic.com/schema#/schemas/trip_created/1.0"

/-- A schema of trips under a root that the configured one is a proper prefix of. -/
def longerRootSchema : String := "https://hedwig.automatic.com/schema2#/schemas/trip_created/1.0"

/-- Version 1.0 of a trip, under either root. -/
lemma underRoot_tripCreated (root : String) :
    UnderRoot root (root ++ "#/schemas/trip_created/1.0") "trip_created" ⟨1, 0, 0, none⟩ := by
  refine ⟨"1.0", by decide +kernel, ?_⟩
  rw [String.append_assoc, String.append_assoc, String.append_assoc]
  exact congrArg (root ++ ·) (by decide +kernel)

/-- Version 1.0 of a trip is what both schemas name. -/
lemma decodeMessageType_tripCreated {s : String}
    (h : schemaReSearch s.toList = some ("trip_created".toList, "1.0".toList)) :
    decodeMessageType (.str s) = .ok ("trip_created", ⟨1, 0, 0, none⟩) :=
  decodeMessageType_eq_ok.mpr ⟨_, h, by decide +kernel⟩

/-- The theorem at a schema under the configured root. -/
theorem JSONSchemaValidator.acceptsOnlyUnderRoot_iff_sample :
    emptyDocumentValidator.AcceptsOnlyUnderRoot Unit configuredSchema := by
  refine (acceptsOnlyUnderRoot_iff emptyDocumentValidator checksContainer_permissiveSchemaLib Unit
    configuredSchema).mpr fun _ => ?_
  refine ⟨"trip_created", ⟨1, 0, 0, none⟩, ?_, decodeMessageType_tripCreated (by decide +kernel)⟩
  have hroot : configuredSchema =
      emptyDocumentValidator.schemaRoot ++ "#/schemas/trip_created/1.0" := by decide +kernel
  rw [hroot]
  exact underRoot_tripCreated _

/-- **A schema under another root is accepted.**  The configured root is a proper prefix of the
root of this schema, a message with it is deserialized, and the schema is not under the configured
root. -/
theorem JSONSchemaValidator.acceptsOnlyUnderRoot_counterexample :
    ∃ payload attributes data m,
      emptyDocumentValidator.Received payload attributes longerRootSchema data ∧
      emptyDocumentValidator.toBase.deserialize payload attributes (none : Option Unit) = .ok m ∧
      UnderRoot (emptyDocumentValidator.schemaRoot ++ "2") longerRootSchema m.type m.version ∧
      ¬ UnderRoot emptyDocumentValidator.schemaRoot longerRootSchema m.type m.version := by
  have htype := @decodeMessageType_tripCreated longerRootSchema (by decide +kernel)
  have hacceptable : emptyDocumentValidator.Acceptable longerRootSchema (.dict []) :=
    ⟨⟨"\x7b\x7d", rfl⟩, longerRootSchema, _, _, _, rfl, htype, by decide +kernel, rfl, rfl⟩
  obtain ⟨payload, attributes, m, hreceived, h⟩ :=
    emptyDocumentValidator.exists_deserialize_of_acceptable (π := Unit)
      checksContainer_permissiveSchemaLib hacceptable
  obtain ⟨-, hdecode, -⟩ := emptyDocumentValidator.acceptable_of_deserialize
    checksContainer_permissiveSchemaLib hreceived h
  obtain ⟨hmtype, hmversion⟩ := Prod.mk.inj (Except.ok.inj (htype.symm.trans hdecode))
  have hother : UnderRoot (emptyDocumentValidator.schemaRoot ++ "2") longerRootSchema m.type
      m.version := by
    have hroot : longerRootSchema =
        emptyDocumentValidator.schemaRoot ++ "2" ++ "#/schemas/trip_created/1.0" := by
      decide +kernel
    rw [← hmtype, ← hmversion, hroot]
    exact underRoot_tripCreated _
  refine ⟨payload, attributes, _, m, hreceived, h, hother, fun hunder => ?_⟩
  exact absurd (hunder.root_unique hother) (by decide +kernel)

end Hedwig
