import Hedwig.Lib.JsonDocument
import Hedwig.Validators.Attributes

set_option relaxedAutoImplicit false
set_option autoImplicit false

/-!
# The order of the headers

Headers are a dictionary, and a message with the same headers in another order is an equal message.
This file proves that the three validators treat it so: it is serialized as well, and what is
deserialized is an equal message, also when a transport has added the encoding to the attributes or
returns them in another order.

## Main definitions

* `Hedwig.SameButEncoding` — attributes as a transport returns them.
* `Hedwig.HedwigBaseValidator.ReadsHeaders` — a validator writes and reads the headers of a payload
  as a dictionary.
* `Hedwig.JsonLib.ReadsBack`, `Hedwig.ProtoLib.OrderFree` — what the libraries promise.

## Main results

* `Hedwig.HedwigBaseValidator.ReadsHeaders.deserialize` — serializing a message with its headers in
  any order, and deserializing the result.
* `Hedwig.JSONSchemaValidator.readsHeaders`, `Hedwig.ProtobufValidator.readsHeaders` — the three
  validators.
-/

namespace Hedwig

/-! ## Dictionaries in another order -/

/-- Attributes with string keys that have the items of others, except for the encoding. -/
structure SameButEncoding (b a : Attributes) : Prop where
  strings : b.keys.all PyKey.isStr = true
  get? : ∀ k, k ≠ .str "hedwig_encoding" → b.get? k = a.get? k

/-- Dictionaries with the same values have the same items. -/
lemma perm_items {h h' : Attributes} (hget : ∀ k, h.get? k = h'.get? k) :
    h.items.Perm h'.items := by
  refine (List.perm_ext_iff_of_nodup (List.Nodup.of_map _ h.nodup)
    (List.Nodup.of_map _ h'.nodup)).mpr fun kv => ?_
  rw [← PyDict.get?_eq_some_iff (k := kv.1), ← PyDict.get?_eq_some_iff (k := kv.1), hget]

/-- The items of an equal dictionary are headers too. -/
lemma isHeader_of_perm {h h' : Attributes} (hget : ∀ k, h.get? k = h'.get? k)
    (hheaders : ∀ kv ∈ h.items, IsHeader kv) : ∀ kv ∈ h'.items, IsHeader kv :=
  fun kv hkv => hheaders kv ((perm_items hget).mem_iff.mpr hkv)

/-- Headers are stored under strings. -/
lemma keys_isStr_toDict {h : Attributes} (hheaders : ∀ kv ∈ h.items, IsHeader kv) :
    (toDict (ofDict h)).keys.all PyKey.isStr = true := by
  rw [toDict_ofDict, List.all_eq_true]
  intro k hk
  obtain ⟨value, hvalue⟩ := PyDict.mem_keys.mp hk
  obtain ⟨name, s, he, -⟩ := hheaders _ hvalue
  obtain rfl : k = .str name := congrArg Prod.fst he
  rfl

/-- A dictionary that is equal to given items has those values. -/
lemma SameDict.exists_get? {o : PyObj} {d : Attributes} (h : SameDict o (ofDict d)) :
    ∃ d', o = ofDict d' ∧ ∀ k, d'.get? k = d.get? k := by
  obtain ⟨d', d'', rfl, hd, hget⟩ := h
  obtain rfl : d = d'' := PyDict.ext (PyObj.dict.inj hd)
  exact ⟨d', rfl, hget⟩

lemma sameDict_ofDict {d d' : Attributes} (h : ∀ k, d.get? k = d'.get? k) :
    SameDict (ofDict d) (ofDict d') := ⟨d, d', rfl, rfl, h⟩

namespace HedwigBaseValidator

variable {δ ξ : Type} (v : HedwigBaseValidator δ ξ)

/-- The validator writes headers as a dictionary, and reads them from what it has written: with the
headers in another order it writes as well, and reads the same from the result, except for the
order of the headers. -/
structure ReadsHeaders : Prop where
  extract : ∀ metaAttrs data payload attributes metaAttrs' x h h',
    metaAttrs.headers = ofDict h → (∀ kv ∈ h.items, IsHeader kv) →
    (∀ k, h.get? k = h'.get? k) →
    v.encodePayload metaAttrs data v.useTransportMessageAttributes = .ok (payload, attributes) →
    v.extractData payload attributes v.useTransportMessageAttributes = .ok (metaAttrs', x) →
    ∃ payload' attributes',
      v.encodePayload { metaAttrs with headers := ofDict h' } data
        v.useTransportMessageAttributes = .ok (payload', attributes') ∧
      attributes'.keys.all PyKey.isStr = true ∧
      ∀ b, SameButEncoding b attributes' → ∃ headers,
        v.extractData payload' b v.useTransportMessageAttributes =
          .ok ({ metaAttrs' with headers := headers }, x) ∧ SameDict headers (ofDict h)
  decode : ∀ metaAttrs headers messageType version x,
    v.decodeData { metaAttrs with headers := headers } messageType version x =
      v.decodeData metaAttrs messageType version x

variable {v} {π : Type}

/-- What is decoded, whatever the headers. -/
lemma ReadsHeaders.deserializeMode (hv : v.ReadsHeaders) {payload : Payload} {b : Attributes}
    {metaAttrs : MetaAttributes} {headers : PyObj} {x : ξ} {messageType : String}
    {version : StrictVersion} {data : δ}
    (hextract : v.extractData payload b v.useTransportMessageAttributes =
      .ok ({ metaAttrs with headers := headers }, x))
    (hheaders : verifyHeaders headers = .ok ())
    (htype : decodeMessageType metaAttrs.schema = .ok (messageType, version))
    (hdata : v.decodeData metaAttrs messageType version x = .ok data)
    (providerMetadata : Option π) :
    v.deserialize payload b providerMetadata =
      .ok (message { metaAttrs with headers := headers } providerMetadata messageType version
        data) := by
  refine (v.deserializeMode_eq_ok).mpr ⟨_, x, messageType, version, data, hextract, hheaders, htype,
    ?_, rfl⟩
  rw [hv.decode]
  exact hdata

/-- **Headers in any order.**  A message that is serialized is serialized with its headers in any
order, and what is deserialized, from attributes as a transport returns them, is one message, up to
the order of its headers and the metadata of the provider.

**Proof sketch.**  `serialize` has deserialized its own result, so the stages of the decoder succeed
on it.  By `ReadsHeaders` the message with reordered headers is encoded too, and any attributes that
differ from its own in nothing but the encoding are read back to the same fields and the same
headers, up to their order.  The check of the headers looks at each header alone, and no other stage
looks at them. -/
lemma ReadsHeaders.deserialize (hv : v.ReadsHeaders) {m : Message δ π} {h : Attributes}
    (hh : m.metadata.headers = ofDict h) (hserialize : (v.serialize m).isOk = true) :
    ∃ (metaAttrs : MetaAttributes) (messageType : String) (version : StrictVersion) (data : δ),
      ∀ h' : Attributes, (∀ k, h.get? k = h'.get? k) →
      ∃ payload attributes, v.serialize (m.withHeaders (ofDict h')) = .ok (payload, attributes) ∧
        ∀ b, SameButEncoding b attributes → ∃ headers, SameDict headers (ofDict h) ∧
          ∀ (κ : Type) (providerMetadata : Option κ),
            v.deserialize payload b providerMetadata =
              .ok (message { metaAttrs with headers := headers } providerMetadata messageType
                version data) := by
  obtain ⟨⟨payload₀, attributes₀⟩, hserialize⟩ := exists_of_isOk hserialize
  obtain ⟨hminor, hheaders, schema, hschema, hencode, m₀, hcheck⟩ :=
    v.serializeMode_eq_ok hserialize
  obtain ⟨metaAttrs, x, messageType, version, data, hextract, -, htype, hdata, -⟩ :=
    v.deserializeMode_eq_ok.mp hcheck
  have hheader : ∀ kv ∈ h.items, IsHeader kv := by
    obtain ⟨items, hitems, hheader⟩ := verifyHeaders_eq_ok.mp hheaders
    rw [hh] at hitems
    obtain rfl := PyObj.dict.inj hitems
    exact hheader
  refine ⟨metaAttrs, messageType, version, data, fun h' hget => ?_⟩
  obtain ⟨payload, attributes, hencode', hstrings, hread⟩ :=
    hv.extract _ _ _ _ _ _ h h' hh hheader hget hencode hextract
  have hverify : ∀ headers, SameDict headers (ofDict h) → verifyHeaders headers = .ok () := by
    rintro headers ⟨d, d', rfl, hd', hsame⟩
    obtain rfl : d' = h := PyDict.ext (PyObj.dict.inj hd').symm
    exact verifyHeaders_eq_ok.mpr ⟨_, rfl, isHeader_of_perm (fun k => (hsame k).symm) hheader⟩
  have hdeserialize : ∀ b, SameButEncoding b attributes → ∃ headers, SameDict headers (ofDict h) ∧
      ∀ (κ : Type) (providerMetadata : Option κ), v.deserialize payload b providerMetadata =
        .ok (message { metaAttrs with headers := headers } providerMetadata messageType version
          data) := by
    intro b hb
    obtain ⟨headers, hextract', hsame⟩ := hread b hb
    exact ⟨headers, hsame, fun κ providerMetadata =>
      hv.deserializeMode hextract' (hverify headers hsame) htype hdata providerMetadata⟩
  refine ⟨payload, attributes, ?_, hdeserialize⟩
  obtain ⟨headers, -, hself⟩ := hdeserialize attributes ⟨hstrings, fun _ _ => rfl⟩
  refine bind_eq_ok.mpr ⟨(), hminor, bind_eq_ok.mpr ⟨(), ?_, bind_eq_ok.mpr ⟨schema, hschema, ?_⟩⟩⟩
  · exact hverify _ (sameDict_ofDict fun k => (hget k).symm)
  · exact bind_eq_ok.mpr ⟨_, hencode', bind_eq_ok.mpr ⟨_, hself π none, rfl⟩⟩

end HedwigBaseValidator

/-! ## Transport attributes -/

section Transport

variable {setting : Bool} {metaAttrs metaAttrs' : MetaAttributes} {attributes : Attributes}
  {h h' : Attributes} {current : StrictVersion}

/-- The encoding is in the reserved namespace, and a key outside it is another one. -/
lemma ne_encoding_of_startsWith {k : PyKey}
    (hk : PyStr.startsWith k.text reservedPrefix = false) : k ≠ .str "hedwig_encoding" := by
  rintro rfl
  exact absurd hk (by decide)

/-- The meta attributes are found by their names, whatever the headers. -/
lemma get?_encodeMetaAttributes (hh : metaAttrs.headers = ofDict h)
    (hencode : encodeMetaAttributes setting metaAttrs = .ok attributes) :
    ∃ fv, metaAttrs.formatVersion.str = .ok fv ∧
      ∀ k, attributes.get? k =
        (h.get? k).or ((PyDict.ofList (metaItems metaAttrs fv)).get? k) := by
  obtain ⟨-, -, -, fv, items, hfv, hitems, rfl⟩ := encodeMetaAttributes_eq_ok.mp hencode
  obtain rfl : h.items = items := PyObj.dict.inj (hh.symm.trans hitems)
  refine ⟨fv, hfv, fun k => ?_⟩
  rw [PyDict.get?_update, PyDict.ofList_items]

/-- With the headers in another order, the same attributes are written. -/
lemma encodeMetaAttributes_reordered (hh : metaAttrs.headers = ofDict h)
    (hget : ∀ k, h.get? k = h'.get? k)
    (hencode : encodeMetaAttributes setting metaAttrs = .ok attributes) :
    ∃ attributes', encodeMetaAttributes setting { metaAttrs with headers := ofDict h' } =
        .ok attributes' ∧ ∀ k, attributes'.get? k = attributes.get? k := by
  obtain ⟨fv, hfv, hattributes⟩ := get?_encodeMetaAttributes hh hencode
  have hencode' : encodeMetaAttributes setting { metaAttrs with headers := ofDict h' } =
      .ok ((PyDict.ofList (metaItems metaAttrs fv)).update (.ofList h'.items)) := by
    obtain ⟨hsetting, hid, htimestamp, -⟩ := encodeMetaAttributes_eq_ok.mp hencode
    exact encodeMetaAttributes_eq_ok.mpr ⟨hsetting, hid, htimestamp, fv, _, hfv, rfl, rfl⟩
  refine ⟨_, hencode', fun k => ?_⟩
  rw [hattributes, PyDict.get?_update, PyDict.ofList_items, hget]

/-- The attributes outside the reserved namespace are the headers. -/
lemma sameDict_filterKeys (hh : metaAttrs.headers = ofDict h)
    (hheaders : ∀ kv ∈ h.items, IsHeader kv)
    (hencode : encodeMetaAttributes setting metaAttrs = .ok attributes) {b : Attributes}
    (hb : ∀ k, k ≠ .str "hedwig_encoding" → b.get? k = attributes.get? k) :
    SameDict (ofDict (b.filterKeys fun k => !PyStr.startsWith k.text reservedPrefix))
      (ofDict h) := by
  obtain ⟨fv, -, hattributes⟩ := get?_encodeMetaAttributes hh hencode
  refine sameDict_ofDict fun k => ?_
  rw [PyDict.get?_filterKeys]
  cases hk : PyStr.startsWith k.text reservedPrefix with
  | true =>
    rw [Bool.not_true, if_neg Bool.false_ne_true]
    refine (PyDict.get?_eq_none_iff.mpr fun hmem => ?_).symm
    obtain ⟨value, hvalue⟩ := PyDict.mem_keys.mp hmem
    obtain ⟨name, s, he, hname⟩ := hheaders _ hvalue
    obtain rfl : k = .str name := congrArg Prod.fst he
    rw [show (PyKey.str name).text = name from rfl, hname] at hk
    cases hk
  | false =>
    have hmeta : (PyDict.ofList (metaItems metaAttrs fv)).get? k = none := by
      refine PyDict.get?_eq_none_iff.mpr fun hmem => ?_
      obtain ⟨kv, hkv, rfl⟩ := List.mem_map.mp (PyDict.mem_keys_ofList.mp hmem)
      obtain ⟨name, hname, hreserved⟩ := startsWith_of_mem_metaItems hkv
      rw [hname, show (PyKey.str name).text = name from rfl, hreserved] at hk
      cases hk
    rw [Bool.not_false, if_pos rfl, hb k (ne_encoding_of_startsWith hk), hattributes, hmeta,
      Option.or_none]

/-- **Transport attributes in any order** are decoded to the same meta attributes.

**Proof sketch.**  The attributes of both have the same value under every key, and so have those
that a transport returns, except under the name of the encoding, which no meta attribute has.  So
the five look-ups give the same, and the remaining keys are the headers. -/
lemma decodeMetaAttributes_reordered (hh : metaAttrs.headers = ofDict h)
    (hheaders : ∀ kv ∈ h.items, IsHeader kv) (hget : ∀ k, h.get? k = h'.get? k)
    (hencode : encodeMetaAttributes true metaAttrs = .ok attributes)
    (hdecode : decodeMetaAttributes true attributes = .ok metaAttrs')
    (hverify : verifyFormatVersion metaAttrs'.formatVersion current = .ok ()) :
    ∃ attributes', encodeMetaAttributes true { metaAttrs with headers := ofDict h' } =
        .ok attributes' ∧ attributes'.keys.all PyKey.isStr = true ∧
      ∀ b, SameButEncoding b attributes' → ∃ headers,
        decodeMetaAttributes true b = .ok { metaAttrs' with headers := headers } ∧
        SameDict headers (ofDict h) := by
  obtain ⟨attributes', hencode', hattributes⟩ := encodeMetaAttributes_reordered hh hget hencode
  obtain ⟨fv, id, timestamp, publisher, schema, t, hfv, hid, htimestamp, hpublisher, hschema,
    hstrings, ht, hcurrent, rfl⟩ := decodeMetaAttributes_eq_ok.mp ⟨hdecode, hverify⟩
  refine ⟨attributes', hencode', ?_, fun b hb => ?_⟩
  · rw [List.all_eq_true] at hstrings ⊢
    intro k hk
    refine hstrings k ?_
    by_contra hnot
    rw [← PyDict.get?_eq_none_iff, ← hattributes, PyDict.get?_eq_none_iff] at hnot
    exact hnot hk
  · have hb' : ∀ k, k ≠ .str "hedwig_encoding" → b.get? k = attributes.get? k :=
      fun k hk => (hb.get? k hk).trans (hattributes k)
    refine ⟨_, ((@decodeMetaAttributes_eq_ok b current _).mpr ⟨fv, id, timestamp, publisher,
      schema, t, ?_, ?_, ?_, ?_, ?_, hb.strings, ht, hcurrent, rfl⟩).1,
      sameDict_filterKeys hh hheaders hencode hb'⟩
    · rwa [hb' _ (by decide)]
    · rwa [hb' _ (by decide)]
    · rwa [hb' _ (by decide)]
    · rwa [hb' _ (by decide)]
    · rwa [hb' _ (by decide)]

end Transport

/-! ## The JSON schema validator -/

/-- What `json` promises: a document that was printed is read back, with the last value of every
name, and whether it is printed does not depend on the order of items. -/
structure JsonLib.ReadsBack (json : JsonLib) : Prop where
  loads : ∀ o s, o.IsDocument → json.encode o = .ok s → json.loads s = .ok o.lastWins
  reordered : ∀ o o' s, o.Reordered o' → json.encode o = .ok s → ∃ s', json.encode o' = .ok s'

section Normalise

variable {json : JsonLib}

/-- What is returned was computed from what was returned. -/
lemma map_eq_ok {α β : Type} {f : α → β} {x : Except PyException α} {b : β} :
    x.map f = .ok b ↔ ∃ a, x = .ok a ∧ f a = b := by
  cases x <;> simp [Except.map]

/-- What the encoder makes of a leaf that it does not know can be printed. -/
lemma isDocument_encodeDefault {o o' : PyObj} (h : encodeDefault json o = .ok o') :
    o'.IsDocument := by
  simp only [encodeDefault, bind_eq_ok] at h
  obtain ⟨value, hvalue, h⟩ := h
  have hfloat : ∀ text, finiteFloat text = .ok o' → o'.IsDocument := by
    intro text hfinite
    rw [finiteFloat] at hfinite
    split_ifs at hfinite with hnot
    rw [← Except.ok.inj hfinite]
    exact Bool.eq_false_iff.mpr hnot
  unfold jsonDefault at hvalue
  split at hvalue
  · simp only [] at hvalue
    split_ifs at hvalue
    · obtain rfl := Except.ok.inj hvalue
      rw [← Except.ok.inj h]
      trivial
    · obtain rfl := Except.ok.inj hvalue
      exact hfloat _ h
  · cases hvalue
  · cases hvalue
  · obtain rfl := Except.ok.inj hvalue
    rw [← Except.ok.inj h]
    trivial
  · cases hvalue

mutual

/-- What the encoder prints is a document. -/
lemma isDocument_normalise : ∀ o o' : PyObj, normalise json o = .ok o' → o'.IsDocument
  | .none, o', h | .bool _, o', h | .int _, o', h | .str _, o', h => by
    rw [normalise] at h
    rw [← Except.ok.inj h]
    trivial
  | .float text, o', h => by
    rw [normalise, finiteFloat] at h
    split_ifs at h with hnot
    rw [← Except.ok.inj h]
    exact Bool.eq_false_iff.mpr hnot
  | .list items, o', h => by
    rw [normalise] at h
    obtain ⟨items', hitems, rfl⟩ := map_eq_ok.mp h
    exact isDocument_normaliseList items items' hitems
  | .dict fields, o', h => by
    rw [normalise] at h
    obtain ⟨fields', hfields, rfl⟩ := map_eq_ok.mp h
    exact isDocument_normaliseFields fields fields' hfields
  | .decimal _, o', h | .uuid _, o', h | .other _, o', h => by
    rw [normalise] at h
    exact isDocument_encodeDefault h

/-- `isDocument_normalise` for every item. -/
lemma isDocument_normaliseList : ∀ items items' : List PyObj,
    normaliseList json items = .ok items' → PyObj.IsDocumentList items'
  | [], items', h => by
    rw [← Except.ok.inj h]
    trivial
  | x :: xs, items', h => by
    simp only [normaliseList, bind_eq_ok] at h
    obtain ⟨x', hx, xs', hxs, hreturn⟩ := h
    rw [← Except.ok.inj hreturn]
    exact ⟨isDocument_normalise x x' hx, isDocument_normaliseList xs xs' hxs⟩

/-- `isDocument_normalise` for every value. -/
lemma isDocument_normaliseFields : ∀ fields fields' : List (PyKey × PyObj),
    normaliseFields json fields = .ok fields' → PyObj.IsDocumentFields fields'
  | [], fields', h => by
    rw [← Except.ok.inj h]
    trivial
  | (.str k, o) :: rest, fields', h => by
    simp only [normaliseFields, bind_eq_ok] at h
    obtain ⟨o', ho, rest', hrest, hreturn⟩ := h
    rw [← Except.ok.inj hreturn]
    exact ⟨⟨k, rfl⟩, isDocument_normalise o o' ho, isDocument_normaliseFields rest rest' hrest⟩
  | (.bytes _, o) :: rest, fields', h | (.other _, o) :: rest, fields', h => by
    simp only [normaliseFields, bind_eq_ok] at h
    obtain ⟨k, hk, o', ho, rest', hrest, hreturn⟩ := h
    rw [← Except.ok.inj hreturn]
    exact ⟨⟨k, rfl⟩, isDocument_normalise o o' ho, isDocument_normaliseFields rest rest' hrest⟩

end

/-- The fields of an object are printed one after the other. -/
lemma normaliseFields_str {k : String} {o : PyObj} {rest fields : List (PyKey × PyObj)} :
    normaliseFields json ((.str k, o) :: rest) = .ok fields ↔
      ∃ o', normalise json o = .ok o' ∧ ∃ rest', normaliseFields json rest = .ok rest' ∧
        fields = (.str k, o') :: rest' := by
  simp only [normaliseFields, bind_eq_ok, pure, Except.pure, Except.ok.injEq, @eq_comm _ fields]

/-- The document of a container is the container of the documents. -/
lemma normalise_container_eq_ok {metaAttrs : MetaAttributes} {data document : PyObj} :
    normalise json (JSONSchemaValidator.container metaAttrs data) = .ok document ↔
      ∃ schema id timestamp publisher headers data',
        normalise json metaAttrs.schema = .ok schema ∧ normalise json metaAttrs.id = .ok id ∧
        normalise json metaAttrs.timestamp = .ok timestamp ∧
        normalise json metaAttrs.publisher = .ok publisher ∧
        normalise json metaAttrs.headers = .ok headers ∧ normalise json data = .ok data' ∧
        document = JSONSchemaValidator.container
          ⟨timestamp, publisher, headers, id, schema, metaAttrs.formatVersion⟩ data' := by
  have hnil : ∀ fields, normaliseFields json [] = .ok fields ↔ fields = [] := by
    intro fields
    rw [normaliseFields, Except.ok.injEq, eq_comm]
  have hdict : ∀ fields o, normalise json (.dict fields) = .ok o ↔
      ∃ fields', normaliseFields json fields = .ok fields' ∧ .dict fields' = o := by
    intro fields o
    rw [normalise, map_eq_ok]
  have hversion : normalise json (.str JSONSchemaValidator.currentFormatVersion.str) =
      .ok (.str JSONSchemaValidator.currentFormatVersion.str) := by
    rw [normalise]
  simp only [JSONSchemaValidator.container, hdict, normaliseFields_str, hnil, hversion]
  constructor
  · rintro ⟨_, ⟨_, hv, _, ⟨schema, hschema, _, ⟨id, hid, _, ⟨_, ⟨_, ⟨timestamp, htimestamp, _,
      ⟨publisher, hpublisher, _, ⟨headers, hheaders, _, rfl, rfl⟩, rfl⟩, rfl⟩, rfl⟩, _,
      ⟨data', hdata, _, rfl, rfl⟩, rfl⟩, rfl⟩, rfl⟩, rfl⟩, rfl⟩
    obtain rfl := Except.ok.inj hv
    exact ⟨schema, id, timestamp, publisher, headers, data', hschema, hid, htimestamp, hpublisher,
      hheaders, hdata, rfl⟩
  · rintro ⟨schema, id, timestamp, publisher, headers, data', hschema, hid, htimestamp, hpublisher,
      hheaders, hdata, rfl⟩
    exact ⟨_, ⟨_, rfl, _, ⟨schema, hschema, _, ⟨id, hid, _, ⟨_, ⟨_, ⟨timestamp, htimestamp, _,
      ⟨publisher, hpublisher, _, ⟨headers, hheaders, _, rfl, rfl⟩, rfl⟩, rfl⟩, rfl⟩, _,
      ⟨data', hdata, _, rfl, rfl⟩, rfl⟩, rfl⟩, rfl⟩, rfl⟩, rfl⟩

end Normalise

namespace JSONSchemaValidator

variable (v : JSONSchemaValidator)

/-- What is read back of a container is a container, with its headers as they were. -/
lemma lastWins_container {timestamp publisher headers id schema data : PyObj}
    {formatVersion : FormatVersion} (hheaders : headers.IsJson) :
    (container ⟨timestamp, publisher, headers, id, schema, formatVersion⟩ data).lastWins =
      container ⟨timestamp.lastWins, publisher.lastWins, headers, id.lastWins, schema.lastWins,
        formatVersion⟩ data.lastWins := by
  rw [container, PyObj.lastWins_dict (by simp)]
  simp only [PyObj.lastWinsFields, container]
  rw [PyObj.lastWins_dict (by simp)]
  simp only [PyObj.lastWinsFields, PyObj.lastWins, PyObj.lastWins_of_isJson headers hheaders]

/-- A container with the headers in another order is the same, reordered. -/
lemma reordered_container (metaAttrs : MetaAttributes) (data : PyObj)
    {items items' : List (PyKey × PyObj)} (h : items.Perm items') :
    (container { metaAttrs with headers := .dict items } data).Reordered
      (container { metaAttrs with headers := .dict items' } data) :=
  .value [_, _, _] _ [_] (.value [_, _] _ [] (.fields h))

/-- A container is verified exactly if it conforms to the schema. -/
lemma verifyContainer_eq_ok (hc : v.jsonschema.ChecksContainer) {payload : PyObj} :
    v.verifyContainer payload = .ok () ↔ containerSchema.accepts payload = true := by
  obtain ⟨errors, herrors, haccepts⟩ := hc payload
  rw [← haccepts]
  simp only [verifyContainer, herrors, bind, Except.bind]
  split_ifs with h
  · simp [h]
  · simp [not_not.mp h]

/-- The parts of a container are extracted from its text. -/
lemma extractDataHelper_container {s : String} {metaAttrs : MetaAttributes} {data : PyObj}
    (hloads : v.json.loads s = .ok (container metaAttrs data))
    (hverify : v.verifyContainer (container metaAttrs data) = .ok ()) (b : Attributes) :
    v.extractDataHelper s b false =
      .ok ({ metaAttrs with formatVersion := .text (.str currentFormatVersion.str) }, data) := by
  obtain ⟨hdata, hmeta⟩ := containerMetaAttributes_container metaAttrs data
  refine bind_eq_ok.mpr ⟨container metaAttrs data, ?_, bind_eq_ok.mpr ⟨(), hverify, ?_⟩⟩
  · rw [loadsPayload, hloads]
  · exact bind_eq_ok.mpr ⟨data, hdata, bind_eq_ok.mpr ⟨_, hmeta, rfl⟩⟩

/-- A container from which something was extracted was verified. -/
lemma verifyContainer_of_extract {s : String} {attributes : Attributes} {payload x : PyObj}
    {metaAttrs : MetaAttributes} (hloads : v.json.loads s = .ok payload)
    (hextract : v.extractDataHelper s attributes false = .ok (metaAttrs, x)) :
    v.verifyContainer payload = .ok () := by
  simp only [extractDataHelper, loadsPayload, hloads, bind_eq_ok, Except.ok.injEq,
    exists_eq_left'] at hextract
  obtain ⟨_, hverify, -⟩ := hextract
  exact hverify

variable {v}

/-- **A container with its headers in another order** is written, and read back with them.

**Proof sketch.**  The documents of the two containers differ in the order of the headers alone, so
the second one is written too.  What is read of either is the container itself, with its own
headers, and the container schema does not look at them. -/
lemma container_reordered (hjson : v.json.ReadsBack) (hc : v.jsonschema.ChecksContainer)
    {metaAttrs metaAttrs' : MetaAttributes} {data x : PyObj} {h h' attributes : Attributes}
    {text : String} (hh : metaAttrs.headers = ofDict h) (hheaders : ∀ kv ∈ h.items, IsHeader kv)
    (hget : ∀ k, h.get? k = h'.get? k)
    (hdumps : jsonDumps v.json (container metaAttrs data) = .ok text)
    (hextract : v.extractDataHelper text attributes false = .ok (metaAttrs', x)) :
    ∃ text', jsonDumps v.json (container { metaAttrs with headers := ofDict h' } data) =
        .ok text' ∧
      ∀ b, v.extractDataHelper text' b false =
        .ok ({ metaAttrs' with headers := ofDict h' }, x) := by
  have hjsonHeaders : ∀ d : Attributes, (∀ kv ∈ d.items, IsHeader kv) → (ofDict d).IsJson := by
    intro d hd
    refine StringHeaders.isJson ⟨d, rfl, fun kv hkv => ?_⟩
    obtain ⟨k, s, rfl, -⟩ := hd kv hkv
    exact ⟨k, s, rfl⟩
  have hh' := hjsonHeaders h' (isHeader_of_perm hget hheaders)
  simp only [jsonDumps, bind_eq_ok] at hdumps
  obtain ⟨document, hnormalise, hencode⟩ := hdumps
  obtain ⟨schema, id, timestamp, publisher, headers, data', hschema, hid, htimestamp, hpublisher,
    hnormaliseHeaders, hdata, rfl⟩ := normalise_container_eq_ok.mp hnormalise
  rw [hh, normalise_of_isJson _ _ (hjsonHeaders h hheaders)] at hnormaliseHeaders
  obtain rfl := Except.ok.inj hnormaliseHeaders
  -- what was read is the container, with the last value of every repeated name
  have hloads := hjson.loads _ _ (isDocument_normalise _ _ hnormalise) hencode
  rw [lastWins_container (hjsonHeaders h hheaders)] at hloads
  have haccepts := (v.verifyContainer_eq_ok hc).mp (v.verifyContainer_of_extract hloads hextract)
  obtain ⟨rfl, rfl⟩ := v.extract_container hloads hextract
  -- the other order is written too, and read as the same container
  have hnormalise' : normalise v.json (container { metaAttrs with headers := ofDict h' } data) =
      .ok (container ⟨timestamp, publisher, ofDict h', id, schema, metaAttrs.formatVersion⟩
        data') :=
    normalise_container_eq_ok.mpr ⟨schema, id, timestamp, publisher, ofDict h', data', hschema, hid,
      htimestamp, hpublisher, normalise_of_isJson _ _ hh', hdata, rfl⟩
  obtain ⟨text', hencode'⟩ := hjson.reordered _ _ _ (reordered_container
    ⟨timestamp, publisher, ofDict h, id, schema, metaAttrs.formatVersion⟩ data' (perm_items hget))
    hencode
  have hloads' := hjson.loads _ _ (isDocument_normalise _ _ hnormalise') hencode'
  rw [lastWins_container hh'] at hloads'
  -- the container schema says nothing of the items of the headers, so it accepts them in any order
  exact ⟨text', bind_eq_ok.mpr ⟨_, hnormalise', hencode'⟩, v.extractDataHelper_container hloads'
    ((v.verifyContainer_eq_ok hc).mpr haccepts)⟩

/-- **The JSON schema validator** reads the headers that it wrote.

**Proof sketch.**  In a container the headers are a field of the document, so the reordered document
is dumped and read back as it is.  As attributes they lie among the meta attributes, whose names are
reserved, and are told apart by this. -/
lemma readsHeaders (hjson : v.json.ReadsBack) (hc : v.jsonschema.ChecksContainer) :
    v.toBase.ReadsHeaders := by
  refine ⟨?_, fun _ _ _ _ _ => rfl⟩
  intro metaAttrs data payload attributes metaAttrs' x h h' hh hheaders hget hencode hextract
  change v.encodePayload _ _ v.useTransportMessageAttributes = _ at hencode
  change v.extractData _ _ v.useTransportMessageAttributes = _ at hextract
  change ∃ payload' attributes', v.encodePayload _ data v.useTransportMessageAttributes = _ ∧ _ ∧
    ∀ b, SameButEncoding b attributes' → ∃ headers,
      v.extractData payload' b v.useTransportMessageAttributes = _ ∧ _
  cases hmode : v.useTransportMessageAttributes with
  | false =>
    rw [hmode] at hencode hextract
    obtain ⟨text, hdumps, rfl, -⟩ := encodeContainer_eq_ok.mp hencode
    change v.extractDataHelper text attributes false = _ at hextract
    obtain ⟨text₁, hdumps₁, hextract₁⟩ :=
      container_reordered hjson hc hh hheaders hget hdumps hextract
    refine ⟨.str text₁, toDict (ofDict h'), ?_, ?_, fun b _ => ⟨ofDict h', hextract₁ b, ?_⟩⟩
    · exact encodeContainer_eq_ok.mpr ⟨text₁, hdumps₁, rfl, rfl⟩
    · exact keys_isStr_toDict (isHeader_of_perm hget hheaders)
    · exact sameDict_ofDict fun k => (hget k).symm
  | true =>
    rw [hmode] at hencode hextract
    obtain ⟨text, hmsgAttrs, hdumps, rfl⟩ := encodeTransport_eq_ok.mp hencode
    rw [hmode] at hmsgAttrs
    simp only [extractData, extractDataHelper, hmode, bind_eq_ok] at hextract
    obtain ⟨document, hloads, metaAttrs'', hdecode, _, hverify, hreturn⟩ := hextract
    obtain ⟨rfl, rfl⟩ : metaAttrs'' = metaAttrs' ∧ document = x := by
      simpa [pure, Except.pure] using hreturn
    obtain ⟨attributes', hencode', hstrings, hread⟩ :=
      decodeMetaAttributes_reordered hh hheaders hget hmsgAttrs hdecode hverify
    refine ⟨.str text, attributes', ?_, hstrings, fun b hb => ?_⟩
    · exact encodeTransport_eq_ok.mpr ⟨text, by rwa [hmode], hdumps, rfl⟩
    · obtain ⟨headers, hdecode', hsame⟩ := hread b hb
      refine ⟨headers, bind_eq_ok.mpr ⟨document, hloads, ?_⟩, hsame⟩
      rw [hmode]
      exact bind_eq_ok.mpr ⟨_, hdecode', bind_eq_ok.mpr ⟨(), hverify, rfl⟩⟩

end JSONSchemaValidator

/-! ## The protobuf validators -/

/-- What the protobuf runtime promises: a map field has no order, so whether a container is written
does not depend on it. -/
structure ProtoLib.OrderFree (lib : ProtoLib) : Prop where
  binary : ∀ p p' : lib.Payload, p'.Same p → ∀ b, lib.payloadCodec.serializeToString p = .ok b →
    ∃ b', lib.payloadCodec.serializeToString p' = .ok b'
  json : ∀ p p' : lib.Payload, p'.Same p → ∀ s, lib.payloadCodec.messageToJson p = .ok s →
    ∃ s', lib.payloadCodec.messageToJson p' = .ok s'

namespace ProtobufValidator

variable {lib : ProtoLib} {v : ProtobufValidator lib}

/-- An equal container is written, in either format. -/
lemma exists_encodeProto {wire : ProtoWire} (hwire : wire = .binary ∨ wire = .json)
    (hfree : lib.OrderFree) {p p' : lib.Payload} (hsame : p'.Same p) {payload : Payload}
    (h : wire.encodeProto lib.payloadCodec p = .ok payload) :
    ∃ payload', wire.encodeProto lib.payloadCodec p' = .ok payload' := by
  rcases hwire with rfl | rfl
  · simp only [ProtoWire.binary, bind_eq_ok] at h
    obtain ⟨b, hb, -⟩ := h
    obtain ⟨b', hb'⟩ := hfree.binary p p' hsame b hb
    exact ⟨.bytes b', bind_eq_ok.mpr ⟨b', hb', rfl⟩⟩
  · simp only [ProtoWire.json, encodeProtoJson, bind_eq_ok] at h
    obtain ⟨_, ⟨s, hs, -⟩, -⟩ := h
    obtain ⟨s', hs'⟩ := hfree.json p p' hsame s hs
    exact ⟨_, bind_eq_ok.mpr ⟨_, bind_eq_ok.mpr ⟨s', hs', rfl⟩, rfl⟩⟩

/-- Headers are assigned in any order, to the same map. -/
lemma assignHeaders_reordered (hlib : lib.RoundTrips) {h h' : Attributes}
    (hheaders : ∀ kv ∈ h.items, IsHeader kv) (hget : ∀ k, h.get? k = h'.get? k)
    {headers : PyDict String String} (hassign : assignHeaders lib h.items .empty = .ok headers) :
    ∃ headers', assignHeaders lib h'.items .empty = .ok headers' ∧
      (∀ k, headers'.get? k = headers.get? k) ∧ ofStrings headers = h ∧
        ofStrings headers' = h' := by
  have hstrings : ∀ d : Attributes, (∀ kv ∈ d.items, IsHeader kv) →
      ∀ kv ∈ d.items, ∃ k s, kv = (.str k, .str s) := by
    intro d hd kv hkv
    obtain ⟨k, s, rfl, -⟩ := hd kv hkv
    exact ⟨k, s, rfl⟩
  have hstrings' := hstrings h' (isHeader_of_perm hget hheaders)
  obtain ⟨headers', hassign'⟩ := exists_assignHeaders hlib hstrings' .empty
  have hdict : ofStrings headers = h :=
    PyDict.ext (assignHeaders_eq_ok hlib (hstrings h hheaders) h.nodup (by simp) hassign)
  have hdict' : ofStrings headers' = h' :=
    PyDict.ext (assignHeaders_eq_ok hlib hstrings' h'.nodup (by simp) hassign')
  refine ⟨headers', hassign', fun k => ?_, hdict, hdict'⟩
  have hstr : ∀ d : PyDict String String, (ofStrings d).get? (.str k) = (d.get? k).map .str :=
    fun d => PyDict.get?_mapItems _ _ _ d k
  refine Option.map_injective (fun _ _ he => PyObj.str.inj he) ?_
  rw [← hstr, ← hstr, hdict, hdict', hget]

/-- **The protobuf validators** read the headers that they wrote.

**Proof sketch.**  In a container the headers are a map field, which is assigned key by key and is
the same map for every order of the keys, so the container is encoded again and read back to an
equal one.  As attributes they are read as by the JSON validator. -/
lemma readsHeaders (hlib : lib.RoundTrips) (hfree : lib.OrderFree)
    (hwire : v.wire = .binary ∨ v.wire = .json) : v.toBase.ReadsHeaders := by
  refine ⟨?_, fun _ _ _ _ _ => rfl⟩
  intro metaAttrs data payload attributes metaAttrs' x h h' hh hheaders hget hencode hextract
  change v.encodePayload _ data v.useTransportMessageAttributes = _ at hencode
  change v.extractData payload attributes v.useTransportMessageAttributes = _ at hextract
  change ∃ payload' attributes', v.encodePayload _ data v.useTransportMessageAttributes = _ ∧ _ ∧
    ∀ b, SameButEncoding b attributes' → ∃ headers,
      v.extractData payload' b v.useTransportMessageAttributes = _ ∧ _
  cases hmode : v.useTransportMessageAttributes with
  | false =>
    rw [hmode] at hencode hextract
    obtain ⟨p, hnew, hproto, -⟩ := encodeContainer_eq_ok.mp hencode
    simp only [newPayload, bind_eq_ok, hh, getItems, ofDict, Except.ok.injEq,
      exists_eq_left'] at hnew
    obtain ⟨id, hid, publisher, hpublisher, timestamp, htimestamp, headers, hassign, schema,
      hschema, a, ha, hreturn⟩ := hnew
    obtain rfl := Except.ok.inj hreturn
    obtain ⟨headers', hassign', hsame, hdict, hdict'⟩ :=
      assignHeaders_reordered hlib hheaders hget hassign
    -- what was read is equal to the container that was written
    obtain ⟨p₁, hp₁, hfields₁, -⟩ :=
      ProtoWire.decodeProto_encodeProto hwire hlib.payloads trivial hproto
    obtain ⟨p₀, hp₀, hmeta, rfl⟩ := extractContainer_eq_ok.mp hextract
    obtain rfl : p₁ = p₀ := Except.ok.inj (hp₁.symm.trans hp₀)
    obtain ⟨fv₁, id₁, publisher₁, timestamp₁, headers₁, schema₁, a₁⟩ := p₁
    obtain ⟨rfl, rfl, rfl, rfl, -, rfl, rfl⟩ := PayloadV1.mk.inj hfields₁
    simp only [containerMetaAttributes, bind_eq_ok] at hmeta
    obtain ⟨t, ht, hmeta⟩ := hmeta
    obtain rfl := Except.ok.inj hmeta
    -- the container with the other order differs from it in the headers
    have hsame' : PayloadV1.Same (⟨currentFormatVersion.str, id₁, publisher₁, timestamp₁, headers',
        schema₁, a₁⟩ : lib.Payload)
        ⟨currentFormatVersion.str, id₁, publisher₁, timestamp₁, headers, schema₁, a₁⟩ :=
      ⟨rfl, hsame⟩
    obtain ⟨payload', hproto'⟩ := exists_encodeProto hwire hfree hsame' hproto
    obtain ⟨p₂, hp₂, hfields₂, hget₂⟩ :=
      ProtoWire.decodeProto_encodeProto hwire hlib.payloads trivial hproto'
    obtain ⟨fv₂, id₂, publisher₂, timestamp₂, headers₂, schema₂, a₂⟩ := p₂
    obtain ⟨rfl, rfl, rfl, rfl, -, rfl, rfl⟩ := PayloadV1.mk.inj hfields₂
    refine ⟨payload', toDict (ofDict h'), ?_, keys_isStr_toDict (isHeader_of_perm hget hheaders),
      fun b _ => ⟨ofDict (ofStrings headers₂), ?_, sameDict_ofDict fun k => ?_⟩⟩
    · refine encodeContainer_eq_ok.mpr ⟨_, ?_, hproto', rfl⟩
      exact bind_eq_ok.mpr ⟨_, hid, bind_eq_ok.mpr ⟨_, hpublisher, bind_eq_ok.mpr ⟨_, htimestamp,
        bind_eq_ok.mpr ⟨h'.items, rfl, bind_eq_ok.mpr ⟨headers', hassign', bind_eq_ok.mpr
          ⟨_, hschema, bind_eq_ok.mpr ⟨_, ha, rfl⟩⟩⟩⟩⟩⟩⟩
    · exact extractContainer_eq_ok.mpr ⟨_, hp₂, bind_eq_ok.mpr ⟨t, ht, rfl⟩, rfl⟩
    · rw [get?_ofStrings hget₂, hdict', hget]
  | true =>
    rw [hmode] at hencode hextract
    obtain ⟨hproto, hmsgAttrs⟩ := encodeTransport_eq_ok.mp hencode
    obtain ⟨hdecode, hverify, rfl⟩ := extractTransport_eq_ok.mp hextract
    rw [hmode] at hmsgAttrs hdecode
    obtain ⟨attributes', hencode', hstrings, hread⟩ :=
      decodeMetaAttributes_reordered hh hheaders hget hmsgAttrs hdecode hverify
    refine ⟨payload, attributes', ?_, hstrings, fun b hb => ?_⟩
    · exact encodeTransport_eq_ok.mpr ⟨hproto, by rwa [hmode]⟩
    · obtain ⟨headers, hdecode', hsame⟩ := hread b hb
      exact ⟨headers, extractTransport_eq_ok.mpr ⟨by rwa [hmode], hverify, rfl⟩, hsame⟩

end ProtobufValidator

end Hedwig
