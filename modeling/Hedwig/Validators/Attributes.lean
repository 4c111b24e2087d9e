import Hedwig.Validators.RoundTrip

set_option relaxedAutoImplicit false
set_option autoImplicit false

/-!
# The attributes of a serialized message

A backend gets a payload and attributes from `serialize` and stores them in the fields of its
transport.  Their annotation says `Dict[str, str]`: this file proves that they are, whatever the
fields of the message, and that no name is one that a transport uses itself.

## Main definitions

* `Hedwig.transportFields` — the names that the backends add to the attributes.
* `Hedwig.HedwigBaseValidator.UsesMetaAttributes` — how the three validators use the meta
  attributes.

## Main results

* `Hedwig.HedwigBaseValidator.UsesMetaAttributes.serialize_attributes` — the attributes of a
  serialized message are strings, under names that no transport uses.
* `Hedwig.notMem_transportFields` — no header that is accepted has such a name.
-/

namespace Hedwig

/-- The names of the fields that the backends add: the payload, in Redis, and its encoding. -/
def transportFields : List String := ["hedwig_payload", "hedwig_encoding"]

/-- The fields of the transports are in the reserved namespace. -/
lemma startsWith_of_mem_transportFields {name : String} (h : name ∈ transportFields) :
    PyStr.startsWith name reservedPrefix = true := by
  simp only [transportFields, List.mem_cons, List.not_mem_nil, or_false] at h
  rcases h with rfl | rfl <;> decide

/-- No header that is accepted has the name of a field of a transport. -/
lemma notMem_transportFields {items : List (PyKey × PyObj)}
    (h : verifyHeaders (.dict items) = .ok ()) {name : String} {value : PyObj}
    (hmem : (.str name, value) ∈ items) : name ∉ transportFields := by
  intro hname
  obtain ⟨items', hitems, hheader⟩ := verifyHeaders_eq_ok.mp h
  obtain rfl := PyObj.dict.inj hitems
  obtain ⟨k, s, hk, hprefix⟩ := hheader _ hmem
  obtain rfl : name = k := PyKey.str.inj (congrArg Prod.fst hk)
  rw [startsWith_of_mem_transportFields hname] at hprefix
  cases hprefix

/-- A dictionary of strings. -/
lemma exists_ofStrings {d : Attributes} (h : ∀ kv ∈ d.items, ∃ k s, kv = (.str k, .str s)) :
    ∃ d' : PyDict String String, d = ofStrings d' := by
  have htext : ∀ kv ∈ d.items, (PyKey.str kv.1.text, PyObj.str kv.2.text) = kv := by
    intro kv hkv
    obtain ⟨k, s, rfl⟩ := h kv hkv
    rfl
  have hnodup : ((d.items.map fun kv => (kv.1.text, kv.2.text)).map Prod.fst).Nodup := by
    rw [List.map_map]
    refine (List.nodup_map_iff_inj_on (List.Nodup.of_map _ d.nodup)).mpr ?_
    intro kv hkv kv' hkv' he
    have hkey : kv.1 = kv'.1 := by
      rw [← htext kv hkv, ← htext kv' hkv']
      exact congrArg PyKey.str he
    exact List.inj_on_of_nodup_map d.nodup hkv hkv' hkey
  refine ⟨⟨_, hnodup⟩, PyDict.ext ?_⟩
  rw [items_ofStrings, List.map_map]
  exact (List.map_id'' (fun _ => rfl) d.items).symm.trans
    (List.map_congr_left fun kv hkv => (htext kv hkv).symm)

namespace HedwigBaseValidator

variable {δ ξ π : Type} {v : HedwigBaseValidator δ ξ}

/-- How a validator uses the meta attributes: encoded next to the data with transport attributes,
and decoded from there; in a container the headers are the attributes. -/
structure UsesMetaAttributes (v : HedwigBaseValidator δ ξ) : Prop where
  encode : ∀ metaAttrs data payload attributes,
    v.encodePayload metaAttrs data true = .ok (payload, attributes) →
      encodeMetaAttributes v.useTransportMessageAttributes metaAttrs = .ok attributes
  decode : ∀ payload attributes metaAttrs x,
    v.extractData payload attributes true = .ok (metaAttrs, x) →
      decodeMetaAttributes v.useTransportMessageAttributes attributes = .ok metaAttrs
  container : ∀ metaAttrs data payload attributes,
    v.encodePayload metaAttrs data false = .ok (payload, attributes) →
      attributes = toDict metaAttrs.headers

/-- The items of a dictionary of headers are headers. -/
lemma isHeader_of_mem_toDict {headers : PyObj} (h : verifyHeaders headers = .ok ())
    {kv : PyKey × PyObj} (hkv : kv ∈ (toDict headers).items) : IsHeader kv := by
  obtain ⟨items, rfl, hheader⟩ := verifyHeaders_eq_ok.mp h
  exact hheader kv (PyDict.mem_items_ofList hkv)

/-- The items that encoding writes are meta attributes or headers. -/
lemma mem_encodeMetaAttributes {setting : Bool} {metaAttrs : MetaAttributes}
    {attributes : Attributes} (hheaders : verifyHeaders metaAttrs.headers = .ok ())
    (h : encodeMetaAttributes setting metaAttrs = .ok attributes) {kv : PyKey × PyObj}
    (hkv : kv ∈ attributes.items) : (∃ fv, kv ∈ metaItems metaAttrs fv) ∨ IsHeader kv := by
  obtain ⟨items, hitems, hheader⟩ := verifyHeaders_eq_ok.mp hheaders
  obtain ⟨-, -, -, fv, items', -, hitems', rfl⟩ := encodeMetaAttributes_eq_ok.mp h
  obtain rfl : items = items' := PyObj.dict.inj (hitems.symm.trans hitems')
  rcases PyDict.mem_items_update hkv with hmeta | hhead
  · exact .inl ⟨fv, PyDict.mem_items_ofList hmeta⟩
  · exact .inr (hheader kv (PyDict.mem_items_ofList hhead))

/-- A meta attribute that was encoded, among attributes that are decoded, is a string under a name
that no transport uses. -/
lemma string_of_mem_metaItems {setting : Bool} {metaAttrs metaAttrs' : MetaAttributes}
    {schema fv : String} {attributes : Attributes} (hschema : metaAttrs.schema = .str schema)
    (hdecode : decodeMetaAttributes setting attributes = .ok metaAttrs') {kv : PyKey × PyObj}
    (hkv : kv ∈ attributes.items) (hmem : kv ∈ metaItems metaAttrs fv) :
    ∃ k s, kv = (.str k, .str s) ∧ k ∉ transportFields := by
  simp only [decodeMetaAttributes, bind_eq_ok, stringAttribute_eq_ok_iff] at hdecode
  obtain ⟨_, -, _, -, _, -, _, -, publisher, hpublisher, -⟩ := hdecode
  simp only [metaItems, List.mem_cons, List.not_mem_nil, or_false, hschema] at hmem
  rcases hmem with rfl | rfl | rfl | rfl | rfl
  · exact ⟨_, _, rfl, by decide⟩
  · exact ⟨_, _, rfl, by decide⟩
  · exact ⟨_, _, rfl, by decide⟩
  · have hvalue := PyDict.get?_eq_some_iff.mpr hkv
    obtain hstr := Option.some.inj (hvalue.symm.trans hpublisher)
    exact ⟨_, publisher, by rw [hstr], by decide⟩
  · exact ⟨_, _, rfl, by decide⟩

/-- **The attributes of a serialized message** are strings, under names that no transport uses.

**Proof sketch.**  With transport attributes, an attribute is a meta attribute or a header.  The
meta attributes are strings because `serialize` has decoded its own result, and all the names begin
with the reserved prefix.  In a container the attributes are the headers, whose names are strings
without that prefix.  No name of a transport begins with it in any case. -/
lemma UsesMetaAttributes.serialize_attributes (hv : v.UsesMetaAttributes) {m : Message δ π}
    {payload : Payload} {attributes : Attributes}
    (h : v.serialize m = .ok (payload, attributes)) :
    ∃ d : PyDict String String, attributes = ofStrings d ∧ ∀ k ∈ d.keys, k ∉ transportFields := by
  obtain ⟨-, hheaders, schema, -, hencode, m', hcheck⟩ := v.serializeMode_eq_ok h
  have hstrings : ∀ kv ∈ attributes.items,
      ∃ k s, kv = (.str k, .str s) ∧ k ∉ transportFields := by
    have hheader : ∀ kv, IsHeader kv → ∃ k s, kv = (.str k, .str s) ∧ k ∉ transportFields := by
      rintro kv ⟨k, s, rfl, hprefix⟩
      refine ⟨k, s, rfl, fun hmem => ?_⟩
      rw [startsWith_of_mem_transportFields hmem] at hprefix
      cases hprefix
    intro kv hkv
    cases hmode : v.useTransportMessageAttributes with
    | true =>
      rw [hmode] at hencode hcheck
      obtain ⟨metaAttrs, x, _, _, _, hextract, -⟩ := v.deserializeMode_eq_ok.mp hcheck
      rcases mem_encodeMetaAttributes hheaders (hv.encode _ _ _ _ hencode) hkv with
        ⟨fv, hmeta⟩ | hhead
      · exact string_of_mem_metaItems rfl (hv.decode _ _ _ _ hextract) hkv hmeta
      · exact hheader kv hhead
    | false =>
      rw [hmode] at hencode
      obtain rfl := hv.container _ _ _ _ hencode
      exact hheader kv (isHeader_of_mem_toDict hheaders hkv)
  obtain ⟨d, rfl⟩ := exists_ofStrings fun kv hkv => by
    obtain ⟨k, s, hkv, -⟩ := hstrings kv hkv
    exact ⟨k, s, hkv⟩
  refine ⟨d, rfl, fun k hk => ?_⟩
  obtain ⟨s, hs⟩ := PyDict.mem_keys.mp hk
  obtain ⟨k', s', hks, hname⟩ := hstrings _ (List.mem_map.mpr ⟨_, hs, rfl⟩)
  obtain rfl : k = k' := PyKey.str.inj (congrArg Prod.fst hks)
  exact hname

/-- Outside the reserved namespace, the names of the attributes are those of the headers. -/
lemma UsesMetaAttributes.mem_keys_serialize (hv : v.UsesMetaAttributes) {m : Message δ π}
    {payload : Payload} {d : PyDict String String} {items : List (PyKey × PyObj)}
    (hitems : m.metadata.headers = .dict items)
    (h : v.serialize m = .ok (payload, ofStrings d)) {k : String}
    (hk : PyStr.startsWith k reservedPrefix = false) :
    k ∈ d.keys ↔ .str k ∈ items.map Prod.fst := by
  obtain ⟨-, hheaders, schema, -, hencode, -⟩ := v.serializeMode_eq_ok h
  have hstr : k ∈ d.keys ↔ PyKey.str k ∈ (ofStrings d).keys := by
    simp [PyDict.keys]
  rw [hstr]
  cases hmode : v.useTransportMessageAttributes with
  | true =>
    rw [hmode] at hencode
    have hmeta := hv.encode _ _ _ _ hencode
    obtain ⟨-, -, -, fv, items', -, hitems', hattributes⟩ := encodeMetaAttributes_eq_ok.mp hmeta
    obtain rfl : items = items' := PyObj.dict.inj (hitems.symm.trans hitems')
    rw [hattributes, PyDict.mem_keys_update, PyDict.mem_keys_ofList,
      PyDict.mem_keys_ofList]
    refine or_iff_right fun hmem => ?_
    obtain ⟨kv, hkv, he⟩ := List.mem_map.mp hmem
    obtain ⟨s, hs, hprefix⟩ := startsWith_of_mem_metaItems hkv
    obtain rfl : k = s := PyKey.str.inj (he.symm.trans hs)
    rw [hk] at hprefix
    cases hprefix
  | false =>
    rw [hmode] at hencode
    rw [hv.container _ _ _ _ hencode, metaAttributes, hitems]
    exact PyDict.mem_keys_ofList

end HedwigBaseValidator

/-- The JSON validator uses the meta attributes so. -/
lemma JSONSchemaValidator.usesMetaAttributes (v : JSONSchemaValidator) :
    v.toBase.UsesMetaAttributes where
  encode metaAttrs data payload attributes h := by
    obtain ⟨_, hencode, -⟩ := encodeTransport_eq_ok.mp h
    exact hencode
  decode payload attributes metaAttrs x h := by
    change v.extractData payload attributes true = _ at h
    cases payload with
    | bytes b => cases h
    | str s =>
      simp only [extractData, extractDataHelper, bind_eq_ok] at h
      obtain ⟨_, -, metaAttrs', hdecode, _, -, hreturn⟩ := h
      obtain rfl : metaAttrs' = metaAttrs := (Prod.mk.inj (Except.ok.inj hreturn)).1
      exact hdecode
  container metaAttrs data payload attributes h := by
    obtain ⟨_, -, -, hattributes⟩ := encodeContainer_eq_ok.mp h
    exact hattributes

/-- So do the protobuf validators. -/
lemma ProtobufValidator.usesMetaAttributes {lib : ProtoLib} (v : ProtobufValidator lib) :
    v.toBase.UsesMetaAttributes where
  encode metaAttrs data payload attributes h := by
    obtain ⟨-, hencode⟩ := encodeTransport_eq_ok.mp h
    exact hencode
  decode payload attributes metaAttrs x h := by
    obtain ⟨hdecode, -, -⟩ := extractTransport_eq_ok.mp h
    exact hdecode
  container metaAttrs data payload attributes h := by
    obtain ⟨_, -, -, hattributes⟩ := encodeContainer_eq_ok.mp h
    exact hattributes

/-! ## Attributes with a given schema -/

/-- The meta attributes of a message of the epoch without headers. -/
def epochMetaAttributes (schema : String) : MetaAttributes :=
  ⟨.int 0, .str "", .dict [], .str "", .str schema, .version ⟨1, 0, 0, none⟩⟩

/-- They are decoded from the attributes they are encoded in. -/
lemma exists_decode_epoch (schema : String) :
    ∃ attributes metaAttrs,
      encodeMetaAttributes true (epochMetaAttributes schema) = .ok attributes ∧
      attributes.get? (.str "hedwig_schema") = some (.str schema) ∧
      decodeMetaAttributes true attributes = .ok metaAttrs ∧
      verifyFormatVersion metaAttrs.formatVersion ⟨1, 0, 0, none⟩ = .ok () ∧
      verifyHeaders metaAttrs.headers = .ok () ∧ metaAttrs.schema = .str schema := by
  set items := metaItems (epochMetaAttributes schema) "1.0" with hitems
  have hnodup : (items.map Prod.fst).Nodup := by simp [hitems, metaItems]
  let attributes : Attributes := ⟨items, hnodup⟩
  have hencode : encodeMetaAttributes true (epochMetaAttributes schema) = .ok attributes := rfl
  have hget : ∀ name value, (PyKey.str name, PyObj.str value) ∈ items →
      attributes.get? (.str name) = some (.str value) :=
    fun _ _ hmem => PyDict.get?_eq_some_iff.mpr hmem
  have hschema := hget "hedwig_schema" schema (by simp [hitems, metaItems, epochMetaAttributes])
  have hdecode := decodeMetaAttributes_eq_ok.mpr
    ⟨"1.0", "", "0", "", schema, 0,
      hget "hedwig_format_version" _ (by simp [hitems, metaItems]),
      hget "hedwig_id" _ (by simp [hitems, metaItems, epochMetaAttributes]),
      hget "hedwig_message_timestamp" _ (by
        simp [hitems, metaItems, epochMetaAttributes]
        rfl),
      hget "hedwig_publisher" _ (by simp [hitems, metaItems, epochMetaAttributes]),
      hschema, rfl, by decide, (by decide : StrictVersion.parse "1.0" = some ⟨1, 0, 0, none⟩), rfl⟩
  refine ⟨attributes, _, hencode, hschema, hdecode.1, hdecode.2, ?_, rfl⟩
  refine verifyHeaders_filterKeys.mpr fun kv hkv hprefix => ?_
  obtain ⟨s, hs, hreserved⟩ := startsWith_of_mem_metaItems hkv
  rw [hs, PyKey.text, hreserved] at hprefix
  cases hprefix

end Hedwig
