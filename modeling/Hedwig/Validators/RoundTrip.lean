import Hedwig.Lib.JsonText
import Hedwig.Validators.JsonSchema
import Hedwig.Validators.Protobuf

set_option relaxedAutoImplicit false
set_option autoImplicit false

/-!
# Round trip on the wire

What a validator encodes, it decodes to the message that was encoded, in both modes.  Since
`_serialize` decodes its own result, only the equality has to be shown: whatever is decoded from
the payload and the attributes has the fields of the message.

## Main definitions

* `Hedwig.MetaAttributes.Carries` — meta attributes that agree with those of a message.
* `Hedwig.HedwigBaseValidator.RoundTrips` — the property of a validator.

## Main results

* `Hedwig.decodeMetaAttributes_encodeMetaAttributes` — no header alters, hides or adds a meta
  attribute.
* `Hedwig.serialize_roundTrips` — the three validators round-trip.
-/

namespace Hedwig

/-! ## Meta attributes among the transport attributes -/

section Transport

variable {setting : Bool} {metaAttrs metaAttrs' : MetaAttributes} {attributes headers : Attributes}

/-- The names of the meta attributes begin with the reserved prefix. -/
lemma startsWith_of_mem_metaItems {fv : String} {kv : PyKey × PyObj}
    (h : kv ∈ metaItems metaAttrs fv) :
    ∃ s, kv.1 = .str s ∧ PyStr.startsWith s reservedPrefix = true := by
  simp only [metaItems, List.mem_cons, List.not_mem_nil, or_false] at h
  rcases h with rfl | rfl | rfl | rfl | rfl <;> exact ⟨_, rfl, by decide⟩

/-- Encoding appends the headers to the meta attributes: no key of a header is the name of one. -/
lemma items_encodeMetaAttributes (hh : metaAttrs.headers = ofDict headers)
    (hheaders : ∀ kv ∈ headers.items, IsHeader kv)
    (h : encodeMetaAttributes setting metaAttrs = .ok attributes) :
    ∃ fv, attributes.items = metaItems metaAttrs fv ++ headers.items := by
  obtain ⟨-, -, -, fv, items, -, hitems, rfl⟩ := encodeMetaAttributes_eq_ok.mp h
  obtain rfl : headers.items = items := PyObj.dict.inj (hh.symm.trans hitems)
  have hnodup : ((metaItems metaAttrs fv).map Prod.fst).Nodup := by
    simp [metaItems]
  have hmeta := PyDict.items_ofList hnodup
  refine ⟨fv, ?_⟩
  rw [PyDict.ofList_items, PyDict.items_update, hmeta]
  intro k hk hk'
  obtain ⟨v, hv⟩ := PyDict.mem_keys.mp hk
  obtain ⟨s, t, hkv, hs⟩ := hheaders _ hv
  rw [PyDict.mem_keys, hmeta] at hk'
  obtain ⟨w, hw⟩ := hk'
  obtain ⟨s', hs', hprefix⟩ := startsWith_of_mem_metaItems hw
  obtain rfl : k = .str s := congrArg Prod.fst hkv
  obtain rfl : s = s' := PyKey.str.inj hs'
  rw [hs] at hprefix
  cases hprefix

/-- A meta attribute that is found has the value that was written. -/
lemma stringAttribute_eq_ok {attr s : String} {o : PyObj}
    (hmem : (.str attr, o) ∈ attributes.items) (h : stringAttribute attributes attr = .ok s) :
    o = .str s := by
  have hget := PyDict.get?_eq_some_iff.mpr hmem
  exact Option.some.inj (hget.symm.trans (stringAttribute_eq_ok_iff.mp h))

/-- The headers are what is left when the meta attributes are taken out. -/
lemma userHeaders_eq_ok {fv : String} {headers' : Attributes}
    (hitems : attributes.items = metaItems metaAttrs fv ++ headers.items)
    (hheaders : ∀ kv ∈ headers.items, IsHeader kv)
    (h : userHeaders attributes = .ok headers') : headers' = headers := by
  obtain ⟨-, rfl⟩ := userHeaders_eq_ok_iff.mp h
  refine PyDict.ext ?_
  have hmeta : (metaItems metaAttrs fv).filter
      (fun kv => !PyStr.startsWith kv.1.text reservedPrefix) = [] := by
    refine List.filter_eq_nil_iff.mpr fun kv hkv => ?_
    obtain ⟨s, hs, hprefix⟩ := startsWith_of_mem_metaItems hkv
    simp [hs, PyKey.text, hprefix]
  have huser : headers.items.filter
      (fun kv => !PyStr.startsWith kv.1.text reservedPrefix) = headers.items := by
    refine List.filter_eq_self.mpr fun kv hkv => ?_
    obtain ⟨k, s, rfl, hprefix⟩ := hheaders kv hkv
    simp [PyKey.text, hprefix]
  rw [PyDict.items_filterKeys, hitems, List.filter_append, hmeta, huser]
  rfl

/-- **Meta attributes among transport attributes** are decoded as they were encoded, next to any
headers.

**Proof sketch.**  Every attribute is a meta attribute or a header.  The names of the headers are
not reserved, so the look-up of a reserved name gives the meta attribute, and what is left over for
the headers is what they were. -/
lemma decodeMetaAttributes_encodeMetaAttributes (hh : metaAttrs.headers = ofDict headers)
    (hheaders : ∀ kv ∈ headers.items, IsHeader kv)
    (hencode : encodeMetaAttributes setting metaAttrs = .ok attributes)
    (hdecode : decodeMetaAttributes setting attributes = .ok metaAttrs') :
    metaAttrs'.headers = metaAttrs.headers ∧ metaAttrs'.id = .str metaAttrs.id.text ∧
      metaAttrs'.publisher = metaAttrs.publisher ∧ metaAttrs'.schema = metaAttrs.schema ∧
      ∃ t, PyStr.int? metaAttrs.timestamp.text = some t ∧ metaAttrs'.timestamp = .int t := by
  obtain ⟨fv, hitems⟩ := items_encodeMetaAttributes hh hheaders hencode
  have hmem : ∀ kv ∈ metaItems metaAttrs fv, kv ∈ attributes.items := by
    intro kv hkv
    rw [hitems]
    exact List.mem_append_left _ hkv
  simp only [decodeMetaAttributes, bind_eq_ok] at hdecode
  obtain ⟨_, -, _, -, id, hid, timestamp, htimestamp, publisher, hpublisher, schema, hschema,
    headers', hheaders', t, ht, _, -, hreturn⟩ := hdecode
  obtain rfl := userHeaders_eq_ok hitems hheaders hheaders'
  have hid := stringAttribute_eq_ok (o := .str metaAttrs.id.text)
    (hmem _ (by simp [metaItems])) hid
  have htimestamp := stringAttribute_eq_ok (o := .str metaAttrs.timestamp.text)
    (hmem _ (by simp [metaItems])) htimestamp
  have hpublisher := stringAttribute_eq_ok (o := metaAttrs.publisher)
    (hmem _ (by simp [metaItems])) hpublisher
  have hschema := stringAttribute_eq_ok (o := metaAttrs.schema)
    (hmem _ (by simp [metaItems])) hschema
  have hint : PyStr.int? metaAttrs.timestamp.text = some t := by
    rw [PyObj.str.inj htimestamp]
    rw [intOfString] at ht
    split at ht
    · rename_i i hi
      rw [hi, Except.ok.inj ht]
    · cases ht
  rw [← Except.ok.inj hreturn]
  exact ⟨hh.symm, hid.symm, hpublisher.symm, hschema.symm, t, hint, rfl⟩

end Transport

/-! ## Any validator -/

/-- The meta attributes are those of a message that is sent under a schema. -/
structure MetaAttributes.Carries {δ π : Type} (metaAttrs : MetaAttributes) (m : Message δ π)
    (schema : String) : Prop where
  timestamp : metaAttrs.timestamp = m.metadata.timestamp
  publisher : metaAttrs.publisher = m.metadata.publisher
  headers : SameDict metaAttrs.headers m.metadata.headers
  id : metaAttrs.id = m.id
  schema : metaAttrs.schema = .str schema

namespace HedwigBaseValidator

variable {δ ξ π : Type} (v : HedwigBaseValidator δ ξ)

/-- Every message with fields of the annotated types and a type without slashes that fits, once
serialized, is deserialized to an equal message. -/
def RoundTrips (Fits : Message δ π → Prop) : Prop :=
  ∀ (m : Message δ π) (providerMetadata : Option π) (payload : Payload) (attributes : Attributes),
    '/' ∉ m.type.toList → m.Annotated → Fits m → v.serialize m = .ok (payload, attributes) →
    ∃ m', v.deserialize payload attributes providerMetadata = .ok m' ∧
      m'.Equal (m.withProviderMetadata providerMetadata)

/-- A message that is serialized at all is deserialized to an equal message. -/
lemma RoundTrips.of_isOk {v : HedwigBaseValidator δ ξ} {Fits : Message δ π → Prop}
    (h : v.RoundTrips Fits) {m : Message δ π} (htype : '/' ∉ m.type.toList)
    (hannotated : m.Annotated) (hfits : Fits m) (providerMetadata : Option π)
    (hok : (v.serialize m).isOk = true) :
    ∃ payload attributes m', v.serialize m = .ok (payload, attributes) ∧
      v.deserialize payload attributes providerMetadata = .ok m' ∧
      m'.Equal (m.withProviderMetadata providerMetadata) := by
  cases hs : v.serialize m with
  | error e =>
    rw [hs] at hok
    cases hok
  | ok result =>
    obtain ⟨payload, attributes⟩ := result
    obtain ⟨m', hm', hequal⟩ := h m providerMetadata payload attributes htype hannotated hfits hs
    exact ⟨payload, attributes, m', rfl, hm', hequal⟩

/-- A schema ends in the type, a slash and the version, after nothing or another slash. -/
def SchemaEnds : Prop :=
  ∀ messageType version s, v.encodeMessageType messageType version = .ok s →
    ∃ before, (before = [] ∨ ∃ b, before = b ++ ['/']) ∧
      s.toList = before ++ (messageType.toList ++ '/' :: version.chars)

/-- The schema that the meta attributes carry is decoded to the type and the version. -/
lemma type_of_carries (hschema : v.SchemaEnds) {m : Message δ π} {schema : String}
    {metaAttrs : MetaAttributes} {messageType : String} {version : StrictVersion}
    (htype : '/' ∉ m.type.toList) (henc : v.encodeMessageType m.type m.version = .ok schema)
    (hcarries : metaAttrs.Carries m schema)
    (hdecode : decodeMessageType metaAttrs.schema = .ok (messageType, version)) :
    messageType = m.type ∧ version = m.version := by
  obtain ⟨before, hbefore, hs⟩ := hschema _ _ _ henc
  rw [hcarries.schema] at hdecode
  simpa using decodeMessageType_eq hbefore htype hs hdecode

/-- A message with the meta attributes of another one is equal to it, up to its data and its
provider metadata. -/
lemma equal_of_carries {m : Message δ π} {schema : String} {metaAttrs : MetaAttributes}
    (hcarries : metaAttrs.Carries m schema) (data : δ) (providerMetadata : Option π) :
    (message metaAttrs providerMetadata m.type m.version data).Equal
      ({ m with data := data }.withProviderMetadata providerMetadata) := by
  refine ⟨hcarries.headers, ?_⟩
  simp only [message, Message.withProviderMetadata, hcarries.timestamp, hcarries.publisher,
    hcarries.id]

/-- It is enough that what is extracted from an encoded payload carries the meta attributes, and
data that can only be decoded to the data of the message. -/
lemma roundTrips_of_extractData {Fits : Message δ π → Prop} (hschema : v.SchemaEnds)
    (hextract : ∀ (m : Message δ π) (schema : String) (payload : Payload)
      (attributes : Attributes) (metaAttrs : MetaAttributes) (x : ξ),
      m.Annotated → Fits m → verifyHeaders m.metadata.headers = .ok () →
      v.encodePayload (v.metaAttributes m schema) m.data v.useTransportMessageAttributes =
        .ok (payload, attributes) →
      v.extractData payload attributes v.useTransportMessageAttributes = .ok (metaAttrs, x) →
      metaAttrs.Carries m schema ∧
        ∀ d, v.decodeData metaAttrs m.type m.version x = .ok d → d = m.data) :
    v.RoundTrips Fits := by
  intro m providerMetadata payload attributes htype hannotated hfits hserialize
  obtain ⟨-, hheaders, schema, henc, hpayload, m₀, hcheck⟩ := v.serializeMode_eq_ok hserialize
  refine ⟨_, v.deserializeMode_providerMetadata hcheck providerMetadata, ?_⟩
  obtain ⟨metaAttrs, x, messageType, version, data, hx, -, hdecode, hdata, rfl⟩ :=
    v.deserializeMode_eq_ok.mp hcheck
  obtain ⟨hcarries, hd⟩ := hextract m schema payload attributes metaAttrs x hannotated hfits
    hheaders hpayload hx
  obtain ⟨rfl, rfl⟩ := v.type_of_carries hschema htype henc hcarries hdecode
  obtain rfl := hd data hdata
  exact equal_of_carries hcarries m.data providerMetadata

/-- Transport attributes carry the meta attributes of an annotated message. -/
lemma carries_of_transport {setting : Bool} {m : Message δ π} {schema : String}
    {attributes : Attributes} {metaAttrs : MetaAttributes} (hannotated : m.Annotated)
    (hheaders : verifyHeaders m.metadata.headers = .ok ())
    (hencode : encodeMetaAttributes setting (v.metaAttributes m schema) = .ok attributes)
    (hdecode : decodeMetaAttributes setting attributes = .ok metaAttrs) :
    metaAttrs.Carries m schema := by
  obtain ⟨headers, hh⟩ := hannotated.headers
  obtain ⟨id, hid⟩ := hannotated.id
  obtain ⟨t, ht⟩ := hannotated.timestamp
  obtain ⟨items, hitems, hheader⟩ := verifyHeaders_eq_ok.mp hheaders
  rw [hh] at hitems
  obtain rfl : headers.items = items := PyObj.dict.inj hitems
  obtain ⟨hheaders', hid', hpublisher, hschema, t', ht', htimestamp⟩ :=
    decodeMetaAttributes_encodeMetaAttributes hh hheader hencode hdecode
  refine ⟨?_, hpublisher, ?_, ?_, hschema⟩
  · have htext : (v.metaAttributes m schema).timestamp.text = toString t := by
      rw [metaAttributes, ht, PyObj.text_int]
    rw [htext] at ht'
    rw [htimestamp, ht, PyStr.int?_toString ht']
  · exact ⟨headers, headers, hheaders'.trans hh, hh, fun _ => rfl⟩
  · rw [hid', metaAttributes, hid, PyObj.text_str]

end HedwigBaseValidator

/-! ## The JSON schema validator -/

section Normalise

variable (json : JsonLib)

mutual

/-- A JSON value is encoded as it is. -/
lemma normalise_of_isJson : ∀ o : PyObj, o.IsJson → normalise json o = .ok o
  | .none, _ | .bool _, _ | .int _, _ | .str _, _ => by simp [normalise]
  | .float text, h => by
    have hf : PyObj.nonFinite text = false := h
    simp [normalise, finiteFloat, hf]
  | .list items, h => by
    rw [normalise, normaliseList_of_isJson items h]
    rfl
  | .dict fields, h => by
    rw [normalise, normaliseFields_of_isJson fields h.2]
    rfl
  | .decimal _, h | .uuid _, h | .other _, h => h.elim

/-- A list of JSON values is encoded as it is. -/
lemma normaliseList_of_isJson : ∀ items : List PyObj, PyObj.IsJsonList items →
    normaliseList json items = .ok items
  | [], _ => rfl
  | x :: xs, h => by
    rw [normaliseList, normalise_of_isJson x h.1, normaliseList_of_isJson xs h.2]
    rfl

/-- Fields with string keys and JSON values are encoded as they are. -/
lemma normaliseFields_of_isJson : ∀ fields : List (PyKey × PyObj), PyObj.IsJsonFields fields →
    normaliseFields json fields = .ok fields
  | [], _ => rfl
  | (k, v) :: rest, h => by
    obtain ⟨⟨s, rfl⟩, hv, hrest⟩ := h
    rw [normaliseFields, normalise_of_isJson v hv, normaliseFields_of_isJson rest hrest]
    rfl

end

/-- A JSON value that is written is read back. -/
lemma loads_jsonDumps {json : JsonLib} (hjson : json.RoundTrips) {o : PyObj} {s : String}
    (ho : o.IsJson) (h : jsonDumps json o = .ok s) : json.loads s = .ok o := by
  rw [jsonDumps, normalise_of_isJson json o ho] at h
  exact hjson o s ho h

end Normalise

/-- Headers that map strings to strings, whatever their names. -/
def StringHeaders (headers : PyObj) : Prop :=
  ∃ d : Attributes, headers = ofDict d ∧ ∀ kv ∈ d.items, ∃ k s, kv = (.str k, .str s)

/-- Headers that were accepted are strings. -/
lemma stringHeaders_of_verifyHeaders {headers : PyObj}
    (hdict : ∃ d : Attributes, headers = ofDict d)
    (h : verifyHeaders headers = .ok ()) : StringHeaders headers := by
  obtain ⟨d, rfl⟩ := hdict
  obtain ⟨items, hitems, hheader⟩ := verifyHeaders_eq_ok.mp h
  obtain rfl : d.items = items := PyObj.dict.inj hitems
  refine ⟨d, rfl, fun kv hkv => ?_⟩
  obtain ⟨k, s, rfl, -⟩ := hheader kv hkv
  exact ⟨k, s, rfl⟩

/-- Headers that are strings are a JSON value. -/
lemma StringHeaders.isJson {headers : PyObj} (h : StringHeaders headers) : headers.IsJson := by
  obtain ⟨d, rfl, hstrings⟩ := h
  refine ⟨d.nodup, (PyObj.isJsonFields_iff _).mpr fun kv hkv => ?_⟩
  obtain ⟨k, s, rfl⟩ := hstrings kv hkv
  exact ⟨⟨k, rfl⟩, trivial⟩

namespace JSONSchemaValidator

variable (v : JSONSchemaValidator) {π : Type}

/-- The schema root may hold anything: a schema still ends in the type and the version. -/
lemma schemaEnds : v.toBase.SchemaEnds := by
  intro messageType version s h
  have hfmt : v.toBase.schemaFmt.toList = v.schemaRoot.toList ++
      (PyStr.Piece.text ('#' :: "/schemas/".toList) :: schemaPieces).flatMap PyStr.Piece.chars := by
    rw [show v.toBase.schemaFmt = v.schemaFmt from rfl, schemaFmt, String.toList_append]
    rfl
  obtain ⟨out, tail, htail, hs⟩ := PyStr.format_append_eq_ok (by decide) hfmt h
  rw [PyStr.evalPieces, evalPieces_schemaPieces, StrictVersion.toList_str] at htail
  refine ⟨out ++ "#/schemas/".toList, .inr ⟨out ++ "#/schemas".toList, ?_⟩, ?_⟩
  · rw [List.append_assoc]
    rfl
  · rw [hs, ← Except.ok.inj htail, List.append_assoc]
    rfl

/-- The container of a message whose headers are strings is a JSON value if its data are. -/
lemma isJson_container {m : Message PyObj π} {schema : String} {data : PyObj}
    {base : HedwigBaseValidator PyObj PyObj} (hannotated : m.Annotated)
    (hstrings : StringHeaders m.metadata.headers) (hdata : data.IsJson) :
    (container (base.metaAttributes m schema) data).IsJson := by
  obtain ⟨id, hid⟩ := hannotated.id
  obtain ⟨t, ht⟩ := hannotated.timestamp
  obtain ⟨publisher, hp⟩ := hannotated.publisher
  have hheaders := hstrings.isJson
  simp [container, HedwigBaseValidator.metaAttributes, PyObj.IsJson, PyObj.IsJsonFields, hid, ht,
    hp, hheaders, hdata]

/-- The fields of a container are found in it. -/
lemma containerMetaAttributes_container (metaAttrs : MetaAttributes) (data : PyObj) :
    getItem (container metaAttrs data) "data" = .ok data ∧
      containerMetaAttributes (container metaAttrs data) =
        .ok { metaAttrs with formatVersion := .text (.str currentFormatVersion.str) } := by
  constructor
  · simp [getItem, container, PyObj.field?]
  · simp [containerMetaAttributes, getItem, container, PyObj.field?, bind, Except.bind, pure,
      Except.pure]

/-- What is extracted from the text of a container are its parts. -/
lemma extract_container {s : String} {attributes : Attributes}
    {metaAttrs metaAttrs' : MetaAttributes} {data x : PyObj}
    (hloads : v.json.loads s = .ok (container metaAttrs data))
    (hextract : v.extractDataHelper s attributes false = .ok (metaAttrs', x)) :
    metaAttrs' = { metaAttrs with formatVersion := .text (.str currentFormatVersion.str) } ∧
      x = data := by
  have hpayload : v.loadsPayload s = .ok (container metaAttrs data) := by
    rw [loadsPayload, hloads]
  simp only [extractDataHelper, bind_eq_ok, hpayload, Except.ok.injEq, exists_eq_left'] at hextract
  obtain ⟨_, -, data', hd, metaAttrs'', hmeta, hreturn⟩ := hextract
  obtain ⟨rfl, rfl⟩ : metaAttrs'' = metaAttrs' ∧ data' = x := by
    simpa [pure, Except.pure] using hreturn
  obtain ⟨hgetData, hgetMeta⟩ := containerMetaAttributes_container metaAttrs data
  exact ⟨(Except.ok.inj (hgetMeta.symm.trans hmeta)).symm,
    (Except.ok.inj (hgetData.symm.trans hd)).symm⟩

/-- The meta attributes in the container of a message carry those of the message. -/
lemma carries_of_container {m : Message PyObj π} {schema : String}
    (hannotated : m.Annotated) :
    { v.toBase.metaAttributes m schema with
        formatVersion := .text (.str currentFormatVersion.str) : MetaAttributes }.Carries m
      schema := by
  obtain ⟨headers, hh⟩ := hannotated.headers
  exact ⟨rfl, rfl, ⟨headers, headers, hh, hh, fun _ => rfl⟩, rfl, rfl⟩

/-- Decoding the data returns them as they are. -/
lemma eq_of_decodeData {metaAttrs : MetaAttributes} {messageType : String}
    {version : StrictVersion} {data d : PyObj}
    (h : v.toBase.decodeData metaAttrs messageType version data = .ok d) : d = data := by
  change v.decodeData metaAttrs messageType version data = .ok d at h
  rw [decodeData] at h
  split at h
  · split_ifs at h
    simp only [bind_eq_ok] at h
    obtain ⟨schema, -, errors, -, h⟩ := h
    split_ifs at h
    exact (Except.ok.inj h).symm
  · cases h

/-- **The JSON schema validator** round-trips messages whose data are a JSON value.

**Proof sketch.**  `roundTrips_of_extractData` leaves the extraction of what was encoded: that the
fields are carried, and that the data are decoded as they were.  A container is dumped as a JSON
value and loaded as the same one; as attributes the fields are carried by `carries_of_transport`,
and the payload is the data. -/
lemma roundTrips (hjson : v.json.RoundTrips) :
    v.toBase.RoundTrips fun m : Message PyObj π => m.data.IsJson := by
  refine v.toBase.roundTrips_of_extractData v.schemaEnds ?_
  intro m schema payload attributes metaAttrs x hannotated hdata hheaders hencode hextract
  change v.encodePayload _ _ v.useTransportMessageAttributes = _ at hencode
  change v.extractData _ _ v.useTransportMessageAttributes = _ at hextract
  cases hmode : v.useTransportMessageAttributes with
  | false =>
    rw [hmode] at hencode hextract
    obtain ⟨text, hdumps, rfl, -⟩ := encodeContainer_eq_ok.mp hencode
    have hstrings := stringHeaders_of_verifyHeaders hannotated.headers hheaders
    have hloads := loads_jsonDumps hjson (isJson_container hannotated hstrings hdata) hdumps
    change v.extractDataHelper text attributes false = _ at hextract
    obtain ⟨rfl, rfl⟩ := v.extract_container hloads hextract
    exact ⟨v.carries_of_container hannotated, fun d hd => v.eq_of_decodeData hd⟩
  | true =>
    rw [hmode] at hencode hextract
    obtain ⟨text, hmsgAttrs, hdumps, rfl⟩ := encodeTransport_eq_ok.mp hencode
    have hpayload : v.loadsPayload text = .ok m.data := by
      rw [loadsPayload, loads_jsonDumps hjson hdata hdumps]
    simp only [extractData, extractDataHelper, bind_eq_ok, hpayload, Except.ok.injEq,
      exists_eq_left'] at hextract
    obtain ⟨metaAttrs', hdecode, _, -, hreturn⟩ := hextract
    obtain ⟨rfl, rfl⟩ : metaAttrs' = metaAttrs ∧ m.data = x := by
      simpa [pure, Except.pure] using hreturn
    exact ⟨v.toBase.carries_of_transport hannotated hheaders hmsgAttrs hdecode,
      fun d hd => v.eq_of_decodeData hd⟩

end JSONSchemaValidator

/-! ## The protobuf validators -/

/-- What is written in either format is read back. -/
lemma ProtoWire.decodeProto_encodeProto {wire : ProtoWire} (hwire : wire = .binary ∨ wire = .json)
    {α : Type} {codec : ProtoCodec α} {IsInstance : α → Prop} {Same : α → α → Prop}
    (hcodec : codec.RoundTrips IsInstance Same) {m : α} {p : Payload} (hm : IsInstance m)
    (h : wire.encodeProto codec m = .ok p) :
    ∃ m', wire.decodeProto codec p = .ok m' ∧ Same m' m := by
  rcases hwire with rfl | rfl
  · simp only [ProtoWire.binary, bind_eq_ok] at h
    obtain ⟨b, hb, hreturn⟩ := h
    obtain rfl := Except.ok.inj hreturn
    exact hcodec.binary m b hm hb
  · simp only [ProtoWire.json, encodeProtoJson, bind_eq_ok] at h
    obtain ⟨_, ⟨s, hs, hline⟩, hreturn⟩ := h
    obtain rfl := Except.ok.inj hline
    obtain rfl := Except.ok.inj hreturn
    obtain ⟨m', hparse, hsame⟩ := hcodec.json m s hm hs
    exact ⟨m', (hcodec.lineFeeds m s hm hs).trans hparse, hsame⟩

/-- The items of a dictionary of strings. -/
lemma mem_ofStrings {d : PyDict String String} {k : PyKey} {o : PyObj} :
    (k, o) ∈ (ofStrings d).items ↔ ∃ s t, k = .str s ∧ o = .str t ∧ d.get? s = some t := by
  simp only [items_ofStrings, List.mem_map, Prod.mk.injEq, PyDict.get?_eq_some_iff]
  constructor
  · rintro ⟨⟨s, t⟩, hmem, rfl, rfl⟩
    exact ⟨s, t, rfl, rfl, hmem⟩
  · rintro ⟨s, t, rfl, rfl, hmem⟩
    exact ⟨(s, t), hmem, rfl, rfl⟩

/-- Dictionaries of strings with the same values have the same values as Python dictionaries. -/
lemma get?_ofStrings {d d' : PyDict String String} (h : ∀ k, d.get? k = d'.get? k) (k : PyKey) :
    (ofStrings d).get? k = (ofStrings d').get? k := by
  refine Option.ext fun o => ?_
  simp only [PyDict.get?_eq_some_iff, mem_ofStrings, h]

namespace ProtobufValidator

variable {lib : ProtoLib} (v : ProtobufValidator lib) {π : Type}

/-- A schema is the type, a slash and the version. -/
lemma encodeMessageType_eq (messageType : String) (version : StrictVersion) :
    v.toBase.encodeMessageType messageType version =
      .ok (String.ofList (messageType.toList ++ '/' :: version.chars)) := by
  have hfmt : schemaFmt.toList = schemaPieces.flatMap PyStr.Piece.chars := by decide
  have hformat : v.toBase.encodeMessageType messageType version =
      (PyStr.evalPieces _ schemaPieces).map String.ofList :=
    PyStr.format_pieces (by decide) hfmt
  rw [hformat, evalPieces_schemaPieces, StrictVersion.toList_str]
  rfl

/-- So it ends in them. -/
lemma schemaEnds : v.toBase.SchemaEnds := by
  intro messageType version s h
  rw [v.encodeMessageType_eq] at h
  refine ⟨[], .inl rfl, ?_⟩
  rw [← Except.ok.inj h, String.toList_ofList]
  rfl

/-- Assigning new headers to a map field appends them. -/
lemma assignHeaders_eq_ok (hlib : lib.RoundTrips) {items : List (PyKey × PyObj)}
    {acc headers : PyDict String String} (hitems : ∀ kv ∈ items, ∃ k s, kv = (.str k, .str s))
    (hnodup : (items.map Prod.fst).Nodup) (hnew : ∀ k ∈ acc.keys, .str k ∉ items.map Prod.fst)
    (h : assignHeaders lib items acc = .ok headers) :
    (ofStrings headers).items = (ofStrings acc).items ++ items := by
  induction items generalizing acc with
  | nil =>
    obtain rfl := Except.ok.inj h
    simp
  | cons kv rest ih =>
    obtain ⟨k, s, rfl⟩ := hitems kv List.mem_cons_self
    rw [List.map_cons, List.nodup_cons] at hnodup
    rw [assignHeaders, hlib.strings] at h
    have hk : k ∉ acc.keys := fun hk => hnew k hk (by simp)
    have hset : (ofStrings (acc.set k s)).items = (ofStrings acc).items ++ [(.str k, .str s)] := by
      simp [PyDict.items_set hk]
    have hnew' : ∀ k' ∈ (acc.set k s).keys, PyKey.str k' ∉ rest.map Prod.fst := by
      intro k' hk' hmem
      rcases PyDict.mem_keys_set.mp hk' with hold | rfl
      · exact hnew k' hold (List.mem_cons_of_mem _ hmem)
      · exact hnodup.1 hmem
    rw [ih (fun kv hkv => hitems kv (List.mem_cons_of_mem _ hkv)) hnodup.2 hnew' h, hset,
      List.append_assoc]
    rfl

/-- Headers that are strings can be assigned to a map field. -/
lemma exists_assignHeaders (hlib : lib.RoundTrips) {items : List (PyKey × PyObj)}
    (hitems : ∀ kv ∈ items, ∃ k s, kv = (.str k, .str s)) (acc : PyDict String String) :
    ∃ headers, assignHeaders lib items acc = .ok headers := by
  induction items generalizing acc with
  | nil => exact ⟨acc, rfl⟩
  | cons kv rest ih =>
    obtain ⟨k, s, rfl⟩ := hitems kv List.mem_cons_self
    rw [assignHeaders, hlib.strings]
    exact ih (fun kv hkv => hitems kv (List.mem_cons_of_mem _ hkv)) _

/-- A new container carries the meta attributes of an annotated message, in every container equal
to it. -/
lemma carries_of_newPayload (hlib : lib.RoundTrips) {m : Message lib.Msg π} {schema : String}
    {data : Except PyException lib.Any} {p p' : lib.Payload} {metaAttrs : MetaAttributes}
    {base : HedwigBaseValidator lib.Msg (ProtoData lib)} (hannotated : m.Annotated)
    (hstrings : StringHeaders m.metadata.headers)
    (hnew : newPayload lib (base.metaAttributes m schema) data = .ok p) (hsame : p'.Same p)
    (hread : containerMetaAttributes p' = .ok metaAttrs) :
    metaAttrs.Carries m schema ∧ data = .ok p'.data := by
  obtain ⟨h, hh, hheader⟩ := hstrings
  obtain ⟨id, hid⟩ := hannotated.id
  obtain ⟨t, ht⟩ := hannotated.timestamp
  obtain ⟨publisher, hp⟩ := hannotated.publisher
  simp only [newPayload, HedwigBaseValidator.metaAttributes, bind_eq_ok, hp, ht, hh, hid,
    hlib.strings, getItems, ofDict, strOf_str, Except.ok.injEq, exists_eq_left'] at hnew
  obtain ⟨ts, hts, headers, hassign, a, ha, hreturn⟩ := hnew
  obtain rfl := Except.ok.inj hreturn
  have hitems : (ofStrings headers).items = h.items :=
    assignHeaders_eq_ok hlib hheader h.nodup (by simp) hassign
  have hdict : ofStrings headers = h := PyDict.ext hitems
  -- the container that was read differs at most in the order of its headers
  obtain ⟨fv', id', publisher', ts', headers', schema', a'⟩ := p'
  obtain ⟨hfields, hget⟩ := hsame
  obtain ⟨rfl, rfl, rfl, rfl, -, rfl, rfl⟩ := PayloadV1.mk.inj hfields
  simp only [containerMetaAttributes, bind_eq_ok, hlib.timestamps t ts' hts, Except.ok.injEq,
    exists_eq_left'] at hread
  obtain rfl := Except.ok.inj hread
  refine ⟨⟨ht.symm, hp.symm, ⟨_, h, rfl, hh, ?_⟩, hid.symm, rfl⟩, ha⟩
  rw [← hdict]
  exact get?_ofStrings hget

/-- The class that is found is the registered one. -/
lemma messageClass_eq_ok {messageType : String} {majorVersion : ℕ} {cls : lib.Cls} :
    v.messageClass messageType majorVersion = .ok cls ↔
      v.protoMessages.get? (messageType, majorVersion) = some cls := by
  rw [messageClass]
  cases v.protoMessages.get? (messageType, majorVersion) <;> simp

/-- What it takes for data to be decoded. -/
lemma decodeData_eq_ok {metaAttrs : MetaAttributes} {messageType : String}
    {version : StrictVersion} {data : ProtoData lib} {d : lib.Msg} :
    v.toBase.decodeData metaAttrs messageType version data = .ok d ↔
      ∃ cls, v.protoMessages.get? (messageType, version.major) = some cls ∧
        v.decodeMessage cls data = .ok d := by
  change v.decodeData metaAttrs messageType version data = .ok d ↔ _
  simp only [decodeData, bind_eq_ok, messageClass_eq_ok, catchDecodingErrors_eq_ok]

/-- **The protobuf validators** round-trip messages whose data are an instance of the registered
class.

**Proof sketch.**  As for the JSON validator.  A container is decoded to an equal one, whose `Any`
field unpacks to the data for their own class, which is the registered one; with transport
attributes the payload is the data in the wire format of the class. -/
lemma roundTrips (hlib : lib.RoundTrips) (hwire : v.wire = .binary ∨ v.wire = .json) :
    v.toBase.RoundTrips fun m : Message lib.Msg π =>
      v.protoMessages.get? (m.type, m.version.major) = some (lib.classOf m.data) := by
  refine v.toBase.roundTrips_of_extractData v.schemaEnds ?_
  intro m schema payload attributes metaAttrs x hannotated hcls hheaders hencode hextract
  change v.encodePayload _ m.data v.useTransportMessageAttributes = _ at hencode
  change v.extractData payload attributes v.useTransportMessageAttributes = _ at hextract
  cases hmode : v.useTransportMessageAttributes with
  | false =>
    rw [hmode] at hencode hextract
    obtain ⟨p, hnew, hproto, -⟩ := encodeContainer_eq_ok.mp hencode
    obtain ⟨p', hp', hsame⟩ := ProtoWire.decodeProto_encodeProto hwire hlib.payloads trivial hproto
    obtain ⟨p'', hp'', hmeta, rfl⟩ := extractContainer_eq_ok.mp hextract
    obtain rfl : p' = p'' := Except.ok.inj (hp'.symm.trans hp'')
    have hstrings := stringHeaders_of_verifyHeaders hannotated.headers hheaders
    obtain ⟨hcarries, hpack⟩ := carries_of_newPayload hlib hannotated hstrings hnew hsame hmeta
    refine ⟨hcarries, fun d hd => ?_⟩
    obtain ⟨cls, hcls', hd⟩ := v.decodeData_eq_ok.mp hd
    obtain rfl : lib.classOf m.data = cls := Option.some.inj (hcls.symm.trans hcls')
    simp only [decodeMessage, bind_eq_ok] at hd
    obtain ⟨_, -, hunpack⟩ := hd
    exact Except.ok.inj (hunpack.symm.trans (hlib.unpack _ _ hpack))
  | true =>
    rw [hmode] at hencode hextract
    obtain ⟨hproto, hattrs⟩ := encodeTransport_eq_ok.mp hencode
    obtain ⟨hdecode, -, rfl⟩ := extractTransport_eq_ok.mp hextract
    refine ⟨v.toBase.carries_of_transport hannotated hheaders hattrs hdecode, fun d hd => ?_⟩
    obtain ⟨cls, hcls', hd⟩ := v.decodeData_eq_ok.mp hd
    obtain rfl : lib.classOf m.data = cls := Option.some.inj (hcls.symm.trans hcls')
    obtain ⟨m', hm', rfl⟩ :=
      ProtoWire.decodeProto_encodeProto hwire (hlib.messages (lib.classOf m.data)) rfl hproto
    exact Except.ok.inj (hd.symm.trans hm')

end ProtobufValidator

/-! ## The three validators -/

/-- **Wire round trip.**  If the libraries round-trip, then so does each validator, in the mode
that is configured: for every message with fields of the annotated types, any headers and a type
without slashes, whose data are a JSON value, or an instance of the registered class, if
`serialize` returns a payload and attributes, then `deserialize` returns an equal message with the
given provider metadata for them.

**Proof sketch.**  `serialize` decodes its own result before it returns it, so every stage of
`deserialize` is known to succeed, and what is left is that its result is equal to the message.  For
each validator that is a lemma, by the mode: the data come back by the round trip of the library,
and the other fields because each is written as a text that is read as the same value, and the
schema as a reference to the type and the version. -/
theorem serialize_roundTrips (π : Type) :
    (∀ v : JSONSchemaValidator, v.json.RoundTrips →
      v.toBase.RoundTrips fun m : Message PyObj π => m.data.IsJson) ∧
    ∀ (lib : ProtoLib) (v : ProtobufValidator lib), lib.RoundTrips →
      v.wire = .binary ∨ v.wire = .json →
      v.toBase.RoundTrips fun m : Message lib.Msg π =>
        v.protoMessages.get? (m.type, m.version.major) = some (lib.classOf m.data) :=
  ⟨fun v hjson => v.roundTrips hjson, fun _ v hlib hwire => v.roundTrips hlib hwire⟩

/-! ## Sample messages -/

/-- A JSON codec that knows the empty document. -/
def emptyDocumentLib : JsonLib where
  encode
    | .dict [] => .ok "\x7b\x7d"
    | _ => .error (.new .recursionError "")
  loads s := if s = "\x7b\x7d" then .ok (.dict []) else .error (.new .jsonDecodeError "")
  floatOfDecimal _ _ := "0.0"
  otherKey _ := .error (.new .typeError "")

/-- A schema of an application that allows everything. -/
def permissiveSchemaLib : SchemaLib where
  resolve _ := .ok (.dict [(.str "x-version", .str "1.0")])
  iterErrors _ _ := .ok []
  containerErrors document :=
    .ok (if containerSchema.accepts document = true then [] else ["no container"])

/-- A JSON schema validator for the empty document, in transport mode. -/
def emptyDocumentValidator : JSONSchemaValidator where
  json := emptyDocumentLib
  jsonschema := permissiveSchemaLib
  schemaRoot := "https://hedwig.automatic.com/schema"
  formatField _ _ name := .error (.new .keyError name)
  useTransportMessageAttributes := true

/-- A runtime with one class, whose messages have no fields. -/
def emptyMessageLib : ProtoLib where
  Cls := Unit
  Msg := Unit
  Any := Unit
  Timestamp := ℤ
  classOf _ := ()
  name _ := "TripCreatedV1"
  minorVersion _ := 0
  codec _ :=
    { serializeToString := fun _ => .ok []
      parseFromString := fun b => if b = [] then .ok () else .error (.new .decodeError "")
      messageToJson := fun _ => .ok "\x7b\x7d"
      parse := fun s => if s = "\x7b\x7d" then .ok () else .error (.new .parseError "") }
  payloadCodec :=
    { serializeToString := fun _ => .error (.new .encodeError "")
      parseFromString := fun _ => .error (.new .decodeError "")
      messageToJson := fun _ => .error (.new .encodeError "")
      parse := fun _ => .error (.new .parseError "") }
  pack _ := .ok ()
  is _ _ := true
  unpack _ _ := .ok ()
  packValue _ := .error (.new .encodeError "")
  isValue _ := false
  unpackValue _ := .error (.new .decodeError "")
  fromMilliseconds
    | .int t => .ok t
    | _ => .error (.new .typeError "")
  toMilliseconds t := .ok t
  stringField
    | .str s => .ok s
    | _ => .error (.new .typeError "")

/-- A binary protobuf validator for that class, in transport mode. -/
def emptyMessageValidator : ProtobufValidator emptyMessageLib where
  wire := .binary
  protoMessages := ⟨[(("TripCreated", 1), ())], by simp⟩
  useTransportMessageAttributes := true

/-- A message with one header. -/
def sampleMessage {δ : Type} (data : δ) (type : String) : Message δ String where
  data := data
  type := type
  version := ⟨1, 0, 0, none⟩
  id := .str "b1328174-a21c-43d3-b303-964dfcc76efc"
  metadata :=
    { timestamp := .int 1460868253255
      publisher := .str "myapp"
      headers := ofDict (.ofList [(.str "request_id", .str "1")])
      providerMetadata := none }

/-- The sample message has the fields that its annotations say. -/
lemma annotated_sampleMessage {δ : Type} (data : δ) (type : String) :
    (sampleMessage data type).Annotated :=
  ⟨⟨_, rfl⟩, ⟨_, rfl⟩, ⟨_, rfl⟩, ⟨_, rfl⟩⟩

/-- The JSON codec keeps its promise. -/
lemma emptyDocumentLib_roundTrips : emptyDocumentLib.RoundTrips := by
  intro v s _ h
  simp only [emptyDocumentLib] at h
  split at h
  · rw [← Except.ok.inj h]
    rfl
  · cases h

/-- The sample validator checks containers. -/
lemma checksContainer_permissiveSchemaLib : permissiveSchemaLib.ChecksContainer := by
  intro document
  refine ⟨_, rfl, ?_⟩
  split_ifs with h <;> simp [h]

/-- The runtime keeps its promises. -/
lemma emptyMessageLib_roundTrips : emptyMessageLib.RoundTrips where
  messages _ :=
    { binary := fun _ b _ h => ⟨(), by rw [← Except.ok.inj h]; rfl, rfl⟩
      json := fun _ s _ h => ⟨(), by rw [← Except.ok.inj h]; rfl, rfl⟩
      lineFeeds := fun _ s _ h => by rw [← Except.ok.inj h]; rfl }
  payloads :=
    { binary := fun _ _ _ h => by cases h
      json := fun _ _ _ h => by cases h
      lineFeeds := fun _ _ _ h => by cases h }
  unpack _ _ _ := rfl
  timestamps _ _ h := h.symm
  strings _ := rfl

/-- The container of a trip. -/
def sampleTrip : PyObj :=
  .dict [(.str "format_version", .str "1.0"),
    (.str "schema", .str "https://hedwig.automatic.com/schema#/schemas/trip_created/1.0"),
    (.str "id", .str "b1328174-a21c-43d3-b303-964dfcc76efc"),
    (.str "metadata", .dict [(.str "timestamp", .int 1460868253255),
      (.str "publisher", .str "myapp"),
      (.str "headers", .dict [(.str "request_id", .str "1")])]),
    (.str "data", .dict [(.str "trip", .str "0c5e1a2b-7d3f-4b6a-8c9d-0e1f2a3b4c5d")])]

/-- The document is that container. -/
def isSampleTrip : PyObj → Bool
  | .dict [(.str a, .str b), (.str c, .str d), (.str e, .str f),
      (.str g, .dict [(.str h, .int i), (.str j, .str k), (.str l, .dict [(.str m, .str n)])]),
      (.str o, .dict [(.str p, .str q)])] =>
    [a, b, c, d] = ["format_version", "1.0", "schema",
      "https://hedwig.automatic.com/schema#/schemas/trip_created/1.0"] ∧
    [e, f, g, h] = ["id", "b1328174-a21c-43d3-b303-964dfcc76efc", "metadata", "timestamp"] ∧
    i = 1460868253255 ∧ [j, k, l, m, n] = ["publisher", "myapp", "headers", "request_id", "1"] ∧
    [o, p, q] = ["data", "trip", "0c5e1a2b-7d3f-4b6a-8c9d-0e1f2a3b4c5d"]
  | _ => false

/-- It is no other document. -/
lemma eq_of_isSampleTrip {o : PyObj} (h : isSampleTrip o = true) : o = sampleTrip := by
  unfold isSampleTrip at h
  split at h
  · simp only [List.cons.injEq, decide_eq_true_eq, and_true] at h
    obtain ⟨⟨rfl, rfl, rfl, rfl⟩, ⟨rfl, rfl, rfl, rfl⟩, rfl, ⟨rfl, rfl, rfl, rfl, rfl⟩, rfl, rfl,
      rfl⟩ := h
    rfl
  · cases h

/-- The text of a document without floats. -/
def sampleText (o : PyObj) : String := String.ofList (JsonText.text (fun _ => []) o)

/-- A JSON codec that knows that container. -/
def sampleTripLib : JsonLib where
  encode o := if isSampleTrip o then .ok (sampleText o) else .error (.new .recursionError "")
  loads s := if s = sampleText sampleTrip then .ok sampleTrip else .error (.new .jsonDecodeError "")
  floatOfDecimal _ _ := "0.0"
  otherKey _ := .error (.new .typeError "")

/-- A JSON schema validator for it, in either mode. -/
def sampleTripValidator (useTransportMessageAttributes : Bool) : JSONSchemaValidator :=
  { emptyDocumentValidator with
    json := sampleTripLib, useTransportMessageAttributes := useTransportMessageAttributes }

/-- What the JSON codec encodes. -/
lemma encode_sampleTripLib {o : PyObj} {s : String} (h : sampleTripLib.encode o = .ok s) :
    o = sampleTrip ∧ s = sampleText sampleTrip := by
  simp only [sampleTripLib] at h
  split_ifs at h with ho
  obtain rfl := eq_of_isSampleTrip ho
  exact ⟨rfl, (Except.ok.inj h).symm⟩

/-- The JSON codec keeps its promise about round trips. -/
lemma sampleTripLib_roundTrips : sampleTripLib.RoundTrips := by
  intro o s _ h
  obtain ⟨rfl, rfl⟩ := encode_sampleTripLib h
  simp only [sampleTripLib, if_true]

/-- A message about a trip in some minor version. -/
def sampleTripMessage {δ : Type} (data : δ) (type : String) (minor : ℕ) : Message δ String :=
  { sampleMessage data type with version := ⟨1, minor, 0, none⟩ }

/-- The data of a trip, with its identifier as a string or as a UUID. -/
def sampleTripData (trip : String → PyObj) : PyObj :=
  .dict [(.str "trip", trip "0c5e1a2b-7d3f-4b6a-8c9d-0e1f2a3b4c5d")]

/-- With a string it is a JSON value. -/
lemma isJson_sampleTripData : (sampleTripData .str).IsJson := ⟨by simp, ⟨_, rfl⟩, trivial, trivial⟩

/-- The container of a trip, whose message is its identifier. -/
def tripContainer : PayloadV1 String ℤ where
  formatVersion := "1.0"
  id := "b1328174-a21c-43d3-b303-964dfcc76efc"
  publisher := "myapp"
  timestamp := 1460868253255
  headers := .ofList [("request_id", "1")]
  schema := "TripCreated/1.0"
  data := "0c5e1a2b-7d3f-4b6a-8c9d-0e1f2a3b4c5d"

/-- The container is that one. -/
def isTripContainer (p : PayloadV1 String ℤ) : Bool :=
  [p.formatVersion, p.id, p.publisher, p.schema, p.data] =
      [tripContainer.formatVersion, tripContainer.id, tripContainer.publisher,
        tripContainer.schema, tripContainer.data] ∧
    p.timestamp = tripContainer.timestamp ∧ p.headers.items = tripContainer.headers.items

/-- It is no other container. -/
lemma eq_of_isTripContainer {p : PayloadV1 String ℤ} (h : isTripContainer p = true) :
    p = tripContainer := by
  obtain ⟨formatVersion, id, publisher, timestamp, headers, schema, data⟩ := p
  simp only [isTripContainer, List.cons.injEq, decide_eq_true_eq, and_true] at h
  obtain ⟨⟨rfl, rfl, rfl, rfl, rfl⟩, rfl, hitems⟩ := h
  rw [PyDict.ext hitems]

/-- A runtime with one class, whose messages have one string, and which knows that container. -/
def tripContainerLib : ProtoLib where
  Cls := Unit
  Msg := String
  Any := String
  Timestamp := ℤ
  classOf _ := ()
  name _ := "TripCreatedV1"
  minorVersion _ := 0
  codec _ :=
    { serializeToString := fun m => .ok (PyStr.encode m)
      parseFromString := fun b =>
        (PyStr.decode? b).elim (.error (.new .decodeError "")) .ok
      messageToJson := fun _ => .error (.new .encodeError "")
      parse := fun _ => .error (.new .parseError "") }
  payloadCodec :=
    { serializeToString := fun p =>
        if isTripContainer p then .ok [10] else .error (.new .encodeError "")
      parseFromString := fun b =>
        if b = [10] then .ok tripContainer else .error (.new .decodeError "")
      messageToJson := fun _ => .error (.new .encodeError "")
      parse := fun _ => .error (.new .parseError "") }
  pack m := .ok m
  is _ _ := true
  unpack a _ := .ok a
  packValue _ := .error (.new .encodeError "")
  isValue _ := false
  unpackValue _ := .error (.new .decodeError "")
  fromMilliseconds
    | .int t => .ok t
    | _ => .error (.new .typeError "")
  toMilliseconds t := .ok t
  stringField
    | .str s => .ok s
    | _ => .error (.new .typeError "")

/-- A binary protobuf validator for that class, in either mode. -/
def tripContainerValidator (useTransportMessageAttributes : Bool) :
    ProtobufValidator tripContainerLib where
  wire := .binary
  protoMessages := ⟨[(("TripCreated", 1), ())], by simp⟩
  useTransportMessageAttributes := useTransportMessageAttributes

/-- The runtime keeps its promises. -/
lemma tripContainerLib_roundTrips : tripContainerLib.RoundTrips where
  messages _ :=
    { binary := fun m b _ h => by
        obtain rfl := Except.ok.inj h
        exact ⟨m, congrArg (Option.elim · _ Except.ok) (PyStr.decode?_encode m), rfl⟩
      json := fun _ _ _ h => by cases h
      lineFeeds := fun _ _ _ h => by cases h }
  payloads :=
    { binary := fun p b _ h => by
        simp only [tripContainerLib] at h
        split_ifs at h with hp
        obtain rfl := eq_of_isTripContainer hp
        obtain rfl := Except.ok.inj h
        exact ⟨tripContainer, rfl, rfl, fun _ => rfl⟩
      json := fun _ _ _ h => by cases h
      lineFeeds := fun _ _ _ h => by cases h }
  unpack _ _ h := h.symm
  timestamps _ _ h := h.symm
  strings _ := rfl

/-- The theorem at a JSON and a protobuf message that are serialized, in transport mode and in
container mode with data. -/
theorem serialize_roundTrips_sample :
    (∃ payload attributes m',
      emptyDocumentValidator.toBase.serialize (sampleMessage (.dict []) "trip_created") =
        .ok (payload, attributes) ∧
      emptyDocumentValidator.toBase.deserialize payload attributes (some "receipt") = .ok m' ∧
      m'.Equal ((sampleMessage (.dict []) "trip_created").withProviderMetadata
        (some "receipt"))) ∧
    (∃ payload attributes m',
      (sampleTripValidator false).toBase.serialize
          (sampleMessage (sampleTripData .str) "trip_created") = .ok (payload, attributes) ∧
      (sampleTripValidator false).toBase.deserialize payload attributes (some "receipt") =
        .ok m' ∧
      m'.Equal ((sampleMessage (sampleTripData .str) "trip_created").withProviderMetadata
        (some "receipt"))) ∧
    ∀ useTransportMessageAttributes, ∃ payload attributes m',
      (tripContainerValidator useTransportMessageAttributes).toBase.serialize
          (sampleMessage tripContainer.data "TripCreated") = .ok (payload, attributes) ∧
      (tripContainerValidator useTransportMessageAttributes).toBase.deserialize payload
          attributes (some "receipt") = .ok m' ∧
      m'.Equal ((sampleMessage tripContainer.data "TripCreated").withProviderMetadata
        (some "receipt")) := by
  obtain ⟨hjson, hproto⟩ := serialize_roundTrips String
  refine ⟨?_, ?_, fun useTransportMessageAttributes => ?_⟩
  · exact (hjson emptyDocumentValidator emptyDocumentLib_roundTrips).of_isOk (by decide +kernel)
      (annotated_sampleMessage (PyObj.dict []) "trip_created") ⟨List.nodup_nil, trivial⟩
      (some "receipt") (by decide +kernel)
  · exact (hjson (sampleTripValidator false) sampleTripLib_roundTrips).of_isOk (by decide +kernel)
      (annotated_sampleMessage (sampleTripData .str) "trip_created") isJson_sampleTripData
      (some "receipt") (by decide +kernel)
  · refine (hproto tripContainerLib (tripContainerValidator useTransportMessageAttributes)
      tripContainerLib_roundTrips (.inl rfl)).of_isOk (by decide +kernel)
      (annotated_sampleMessage tripContainer.data "TripCreated")
      (PyDict.get?_eq_some_iff.mpr (.head _)) (some "receipt") ?_
    cases useTransportMessageAttributes <;> decide +kernel

end Hedwig
