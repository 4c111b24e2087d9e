import Hedwig.Models
import Mathlib.Data.List.TakeWhile

set_option relaxedAutoImplicit false
set_option autoImplicit false

/-!
# The base validator

`hedwig.validators.base`: the message type in the schema, the meta attributes among the transport
attributes, and the encoding and decoding of a message over the methods that a concrete validator
overrides.

## Main definitions

* `Hedwig.schemaReSearch` — the regular expression `([^/]+)/([^/]+)$` of both validators.
* `Hedwig.MetaAttributes`, `Hedwig.decodeMetaAttributes`, `Hedwig.encodeMetaAttributes`.
* `Hedwig.HedwigBaseValidator` — the overridden methods, with `serialize`, `deserialize`,
  `deserializeContainerized`, `deserializeFirehose` and their companions over them.

## Design

`serializeMode` and `deserializeMode` are the methods `_serialize` and `_deserialize`; their last
argument is `use_transport_attributes`.  The setting `HEDWIG_USE_TRANSPORT_MESSAGE_ATTRIBUTES` is a
field of the validator.  A replacement field of the schema format other than the two plain names
is evaluated by a function that the validator is given.
-/

namespace Hedwig

/-! ## Python values as the validators use them -/

/-- `o[name]`, for a string as the key. -/
def getItem (o : PyObj) (name : String) : Except PyException PyObj :=
  match o with
  | .dict fields =>
    match PyObj.field? fields name with
    | some v => .ok v
    | none => .error (.new .keyError name)
  | _ => .error (.new .typeError "indices must be integers")

/-- `o.items()`. -/
def getItems (o : PyObj) : Except PyException (List (PyKey × PyObj)) :=
  match o with
  | .dict fields => .ok fields
  | _ => .error (.new .attributeError "object has no attribute 'items'")

/-- What printing a value raises that cannot be printed.  It is that of an integer of too many
digits, and stands for the exceptions of other objects, too: no exception of this package. -/
def unprintable : PyException :=
  .new .valueError "Exceeds the limit (4300 digits) for integer string conversion"

/-- `str(o)`, which is also what a replacement field of an f-string evaluates to. -/
def strOf (o : PyObj) : Except PyException String :=
  if o.printable then .ok o.text else .error unprintable

@[simp] lemma strOf_str (s : String) : strOf (.str s) = .ok s := rfl

/-- A value is printed exactly if it can be. -/
lemma strOf_eq_ok {o : PyObj} {s : String} :
    strOf o = .ok s ↔ o.printable = true ∧ o.text = s := by
  rw [strOf]
  split_ifs with h <;> simp [h]

/-- The prefix of the names that the format keeps for itself. -/
def reservedPrefix : String := "hedwig_"

/-! ## Meta attributes -/

/-- The value of `meta_attrs.format_version`: a `StrictVersion`, one that was constructed from the
empty string and has no `version`, or what a container holds. -/
inductive FormatVersion
  | version (v : StrictVersion)
  | unparsed
  | text (o : PyObj)

/-- `StrictVersion(s)`.  The constructor does not parse an empty string. -/
def FormatVersion.ofString (s : String) : Except PyException FormatVersion :=
  if s = "" then .ok .unparsed
  else
    match StrictVersion.parse s with
    | some v => .ok (.version v)
    | none => .error (.new .valueError ("invalid version number '" ++ s ++ "'"))

/-- `str(meta_attrs.format_version)`. -/
def FormatVersion.str : FormatVersion → Except PyException String
  | .version v => .ok v.str
  | .unparsed => .error (.new .attributeError "version")
  | .text o => strOf o

/-- `meta_attrs.format_version != current`. -/
def FormatVersion.differs (f : FormatVersion) (current : StrictVersion) :
    Except PyException Bool :=
  match f with
  | .version v => .ok (v ≠ current)
  | .unparsed => .error (.new .attributeError "version")
  | .text (.str s) =>
    match StrictVersion.parse s with
    | some v => .ok (v ≠ current)
    | none => .error (.new .valueError ("invalid version number '" ++ s ++ "'"))
  | .text _ => .ok true

/-- The meta attributes of a message. -/
structure MetaAttributes where
  timestamp : PyObj
  publisher : PyObj
  headers : PyObj
  id : PyObj
  schema : PyObj
  formatVersion : FormatVersion

/-- A meta attribute among the transport attributes. -/
def stringAttribute (attributes : Attributes) (attr : String) : Except PyException String :=
  match attributes.get? (.str attr) with
  | some (.str s) => .ok s
  | value => do
    let found ← strOf (value.getD .none)
    .error (.new .validationError ("Invalid message attribute: " ++ attr ++
      " must be string, found: " ++ found))

/-- What `k.startswith("hedwig_")` raises for a key that is no string.  Bytes have the method, but
it takes no string. -/
def startsWithError : PyKey → PyException
  | .bytes _ => .new .typeError "startswith first arg must be bytes or a tuple of bytes, not str"
  | _ => .new .attributeError "object has no attribute 'startswith'"

/-- The transport attributes outside the reserved namespace.  `startswith` is called on one key
after the other. -/
def userHeaders (attributes : Attributes) : Except PyException Attributes :=
  match attributes.keys.find? fun k => !k.isStr with
  | some k => .error (startsWithError k)
  | none => .ok (attributes.filterKeys fun k => !PyStr.startsWith k.text reservedPrefix)

/-- `int(s)`. -/
def intOfString (s : String) : Except PyException ℤ :=
  match PyStr.int? s with
  | some i => .ok i
  | none => .error (.new .valueError ("invalid literal for int() with base 10: '" ++ s ++ "'"))

/-- `_decode_meta_attributes`. -/
def decodeMetaAttributes (useTransportMessageAttributes : Bool) (attributes : Attributes) :
    Except PyException MetaAttributes := do
  pyAssert useTransportMessageAttributes
  let formatVersion ← stringAttribute attributes "hedwig_format_version"
  let id ← stringAttribute attributes "hedwig_id"
  let timestamp ← stringAttribute attributes "hedwig_message_timestamp"
  let publisher ← stringAttribute attributes "hedwig_publisher"
  let schema ← stringAttribute attributes "hedwig_schema"
  let headers ← userHeaders attributes
  let timestamp ← intOfString timestamp
  let formatVersion ← FormatVersion.ofString formatVersion
  return ⟨.int timestamp, .str publisher, ofDict headers, .str id, .str schema, formatVersion⟩

/-- The check of the format version among transport attributes, the same in every
`_extract_data`. -/
def verifyFormatVersion (formatVersion : FormatVersion) (current : StrictVersion) : Outcome := do
  let differs ← formatVersion.differs current
  if differs then
    let text ← formatVersion.str
    .error (.new .validationError ("Invalid format version: " ++ text))
  else .ok ()

/-- The five meta attributes that `_encode_meta_attributes` writes. -/
def metaItems (metaAttrs : MetaAttributes) (formatVersion : String) : List (PyKey × PyObj) :=
  [(.str "hedwig_format_version", .str formatVersion),
    (.str "hedwig_id", .str metaAttrs.id.text),
    (.str "hedwig_message_timestamp", .str metaAttrs.timestamp.text),
    (.str "hedwig_publisher", metaAttrs.publisher),
    (.str "hedwig_schema", metaAttrs.schema)]

/-- `_encode_meta_attributes`. -/
def encodeMetaAttributes (useTransportMessageAttributes : Bool) (metaAttrs : MetaAttributes) :
    Except PyException Attributes := do
  pyAssert useTransportMessageAttributes
  let formatVersion ← metaAttrs.formatVersion.str
  -- `str` of the id and of the timestamp
  let _ ← strOf metaAttrs.id
  let _ ← strOf metaAttrs.timestamp
  let headers ← getItems metaAttrs.headers
  return (PyDict.ofList (metaItems metaAttrs formatVersion)).update (.ofList headers)

/-! ## Headers and message type -/

/-- One turn of the loop of `_verify_headers`. -/
def verifyHeader (kv : PyKey × PyObj) : Outcome :=
  match kv with
  | (.str k, .str _) =>
    if PyStr.startsWith k reservedPrefix then
      .error (.new .validationError ("Invalid header key: '" ++ k ++
        "' - can't begin with reserved namespace 'hedwig_'"))
    else .ok ()
  | (k, v) => do
    let value ← strOf v
    .error (.new .validationError ("Invalid header key or value: '" ++ k.text ++ "': '" ++ value ++
      "' - must be strings"))

/-- The loop of `_verify_headers`. -/
def verifyHeaderItems : List (PyKey × PyObj) → Outcome
  | [] => .ok ()
  | kv :: rest => do
    verifyHeader kv
    verifyHeaderItems rest

/-- `_verify_headers`. -/
def verifyHeaders (headers : PyObj) : Outcome := do
  let items ← getItems headers
  verifyHeaderItems items

/-- A match of `([^/]+)/([^/]+)$` at the first character.  The second group takes everything up to
the end, a final line feed included. -/
def schemaReMatch (cs : List Char) : Option (List Char × List Char) :=
  match cs.takeWhile (· ≠ '/'), cs.dropWhile (· ≠ '/') with
  | messageType, _ :: version =>
    if messageType ≠ [] ∧ version ≠ [] ∧ '/' ∉ version then some (messageType, version) else none
  | _, [] => none

/-- The leftmost match of `([^/]+)/([^/]+)$`. -/
def schemaReSearch : List Char → Option (List Char × List Char)
  | [] => none
  | c :: cs =>
    match schemaReMatch (c :: cs) with
    | some groups => some groups
    | none => schemaReSearch cs

/-- `_decode_message_type`. -/
def decodeMessageType (schema : PyObj) : Except PyException (String × StrictVersion) :=
  match schema with
  | .str s =>
    match schemaReSearch s.toList with
    | none => .error (.new .validationError ("Invalid schema found: " ++ s))
    | some (messageType, version) =>
      match StrictVersion.parse (String.ofList version) with
      | none => .error (.new .validationError ("Invalid schema found: " ++ s))
      | some version => .ok (String.ofList messageType, version)
  | _ => .error (.new .typeError "expected string or bytes-like object")

/-! ## The validator -/

/-- A validator for data of type `δ`, extracted from a payload as a `ξ`: the attributes that the
constructor sets, and the methods that a subclass overrides. -/
structure HedwigBaseValidator (δ ξ : Type) where
  /-- `_schema_fmt`. -/
  schemaFmt : String
  /-- A replacement field of `_schema_fmt` other than a plain name, for a type and a version. -/
  formatField : String → String → String → Except PyException String
  /-- `_current_format_version`. -/
  currentFormatVersion : StrictVersion
  /-- The setting `HEDWIG_USE_TRANSPORT_MESSAGE_ATTRIBUTES`. -/
  useTransportMessageAttributes : Bool
  /-- `_extract_data`. -/
  extractData : Payload → Attributes → Bool → Except PyException (MetaAttributes × ξ)
  /-- `_extract_data_firehose`. -/
  extractDataFirehose : String → Except PyException (MetaAttributes × ξ)
  /-- `_decode_data`. -/
  decodeData : MetaAttributes → String → StrictVersion → ξ → Except PyException δ
  /-- `_verify_known_minor_version`. -/
  verifyKnownMinorVersion : String → StrictVersion → Outcome
  /-- `_encode_payload`. -/
  encodePayload : MetaAttributes → δ → Bool → Except PyException (Payload × Attributes)
  /-- `_encode_payload_firehose`. -/
  encodePayloadFirehose : String → StrictVersion → MetaAttributes → δ → Except PyException String

/-- A replacement field of the schema format. -/
def schemaField (formatField : String → String → String → Except PyException String)
    (messageType messageVersion name : String) : Except PyException String :=
  if name = "message_type" then .ok messageType
  else if name = "message_version" then .ok messageVersion
  else formatField messageType messageVersion name

/-- `schema_fmt.format(message_type=..., message_version=...)`. -/
def formatSchema (schemaFmt : String)
    (formatField : String → String → String → Except PyException String)
    (messageType messageVersion : String) : Except PyException String :=
  PyStr.format (.new .valueError "malformed format string")
    (schemaField formatField messageType messageVersion) schemaFmt

namespace HedwigBaseValidator

variable {δ ξ π : Type} (v : HedwigBaseValidator δ ξ)

/-- `_encode_message_type`. -/
def encodeMessageType (messageType : String) (version : StrictVersion) :
    Except PyException String :=
  formatSchema v.schemaFmt v.formatField messageType version.str

/-- The message with these parts. -/
def message (metaAttrs : MetaAttributes) (providerMetadata : Option π) (messageType : String)
    (version : StrictVersion) (data : δ) : Message δ π where
  id := metaAttrs.id
  metadata :=
    { timestamp := metaAttrs.timestamp
      headers := metaAttrs.headers
      publisher := metaAttrs.publisher
      providerMetadata := providerMetadata }
  data := data
  type := messageType
  version := version

/-- `_deserialize`. -/
def deserializeMode (messagePayload : Payload) (attributes : Attributes)
    (providerMetadata : Option π) (useTransportAttributes : Bool) :
    Except PyException (Message δ π) := do
  let (metaAttrs, extractedData) ← v.extractData messagePayload attributes useTransportAttributes
  verifyHeaders metaAttrs.headers
  let (messageType, version) ← decodeMessageType metaAttrs.schema
  let data ← v.decodeData metaAttrs messageType version extractedData
  return message metaAttrs providerMetadata messageType version data

/-- `deserialize`. -/
def deserialize (messagePayload : Payload) (attributes : Attributes)
    (providerMetadata : Option π) : Except PyException (Message δ π) :=
  v.deserializeMode messagePayload attributes providerMetadata v.useTransportMessageAttributes

/-- `deserialize_containerized`. -/
def deserializeContainerized (messagePayload : Payload) : Except PyException (Message δ π) :=
  v.deserializeMode messagePayload .empty none false

/-- `deserialize_firehose`. -/
def deserializeFirehose (line : String) : Except PyException (Message δ π) := do
  let (metaAttrs, extractedData) ← v.extractDataFirehose line
  let (messageType, version) ← decodeMessageType metaAttrs.schema
  let data ← v.decodeData metaAttrs messageType version extractedData
  return message metaAttrs none messageType version data

/-- The meta attributes that a message is sent with. -/
def metaAttributes (m : Message δ π) (schema : String) : MetaAttributes where
  timestamp := m.metadata.timestamp
  publisher := m.metadata.publisher
  headers := m.metadata.headers
  id := m.id
  schema := .str schema
  formatVersion := .version v.currentFormatVersion

/-- `_serialize`. -/
def serializeMode (m : Message δ π) (useTransportAttributes : Bool) :
    Except PyException (Payload × Attributes) := do
  v.verifyKnownMinorVersion m.type m.version
  verifyHeaders m.metadata.headers
  let schema ← v.encodeMessageType m.type m.version
  let (messagePayload, msgAttrs) ←
    v.encodePayload (v.metaAttributes m schema) m.data useTransportAttributes
  -- validate payload from scratch before publishing
  let _ ← v.deserializeMode (π := π) messagePayload msgAttrs none useTransportAttributes
  return (messagePayload, msgAttrs)

/-- `serialize`. -/
def serialize (m : Message δ π) : Except PyException (Payload × Attributes) :=
  v.serializeMode m v.useTransportMessageAttributes

/-- `serialize_containerized`. -/
def serializeContainerized (m : Message δ π) : Except PyException Payload := do
  let (messagePayload, _) ← v.serializeMode m false
  return messagePayload

/-- `serialize_firehose`. -/
def serializeFirehose (m : Message δ π) : Except PyException String := do
  let schema ← v.encodeMessageType m.type m.version
  let messagePayload ←
    v.encodePayloadFirehose m.type m.version (v.metaAttributes m schema) m.data
  -- validate payload from scratch
  let _ ← v.deserializeFirehose (π := π) messagePayload
  return messagePayload

/-! ## How the methods end -/

/-- What it takes for a payload to be decoded. -/
lemma deserializeMode_eq_ok {messagePayload : Payload} {attributes : Attributes}
    {providerMetadata : Option π} {useTransportAttributes : Bool} {m : Message δ π} :
    v.deserializeMode messagePayload attributes providerMetadata useTransportAttributes = .ok m ↔
      ∃ metaAttrs extractedData messageType version data,
        v.extractData messagePayload attributes useTransportAttributes =
          .ok (metaAttrs, extractedData) ∧
        verifyHeaders metaAttrs.headers = .ok () ∧
        decodeMessageType metaAttrs.schema = .ok (messageType, version) ∧
        v.decodeData metaAttrs messageType version extractedData = .ok data ∧
        m = message metaAttrs providerMetadata messageType version data := by
  constructor
  · intro h
    simp only [deserializeMode, bind_eq_ok] at h
    obtain ⟨⟨metaAttrs, x⟩, hextract, _, hheaders, ⟨messageType, version⟩, htype, data, hdata,
      hreturn⟩ := h
    exact ⟨metaAttrs, x, messageType, version, data, hextract, hheaders, htype, hdata,
      (Except.ok.inj hreturn).symm⟩
  · rintro ⟨metaAttrs, x, messageType, version, data, hextract, hheaders, htype, hdata, rfl⟩
    refine bind_eq_ok.mpr ⟨_, hextract, bind_eq_ok.mpr ⟨_, hheaders, ?_⟩⟩
    exact bind_eq_ok.mpr ⟨_, htype, bind_eq_ok.mpr ⟨_, hdata, rfl⟩⟩

/-- The provider metadata only pass through. -/
lemma deserializeMode_providerMetadata {messagePayload : Payload} {attributes : Attributes}
    {useTransportAttributes : Bool} {providerMetadata : Option π} {m : Message δ π}
    (h : v.deserializeMode messagePayload attributes providerMetadata useTransportAttributes =
      .ok m) (providerMetadata' : Option π) :
    v.deserializeMode messagePayload attributes providerMetadata' useTransportAttributes =
      .ok (m.withProviderMetadata providerMetadata') := by
  obtain ⟨metaAttrs, x, messageType, version, data, hextract, hheaders, htype, hdata, rfl⟩ :=
    (v.deserializeMode_eq_ok).mp h
  exact (v.deserializeMode_eq_ok).mpr
    ⟨metaAttrs, x, messageType, version, data, hextract, hheaders, htype, hdata, rfl⟩

/-- What it takes for a message to be encoded: the result has been decoded once. -/
lemma serializeMode_eq_ok {m : Message δ π} {useTransportAttributes : Bool} {p : Payload}
    {attributes : Attributes} (h : v.serializeMode m useTransportAttributes = .ok (p, attributes)) :
    v.verifyKnownMinorVersion m.type m.version = .ok () ∧
      verifyHeaders m.metadata.headers = .ok () ∧
      ∃ schema, v.encodeMessageType m.type m.version = .ok schema ∧
        v.encodePayload (v.metaAttributes m schema) m.data useTransportAttributes =
          .ok (p, attributes) ∧
        ∃ m' : Message δ π,
          v.deserializeMode p attributes none useTransportAttributes = .ok m' := by
  simp only [serializeMode, bind_eq_ok] at h
  obtain ⟨_, hminor, _, hheaders, schema, hschema, ⟨p', attributes'⟩, hencode, m', hcheck,
    hreturn⟩ := h
  obtain ⟨rfl, rfl⟩ : p' = p ∧ attributes' = attributes := by
    simpa [pure, Except.pure] using hreturn
  exact ⟨hminor, hheaders, schema, hschema, hencode, m', hcheck⟩

end HedwigBaseValidator

/-! ## Headers -/

/-- An item that `_verify_headers` accepts: strings, and a key outside the reserved namespace. -/
def IsHeader (kv : PyKey × PyObj) : Prop :=
  ∃ k s, kv = (.str k, .str s) ∧ PyStr.startsWith k reservedPrefix = false

/-- One turn of the loop accepts exactly the headers. -/
lemma verifyHeader_eq_ok {kv : PyKey × PyObj} : verifyHeader kv = .ok () ↔ IsHeader kv := by
  obtain ⟨k, v⟩ := kv
  cases k with
  | str k =>
    cases v with
    | str s => cases hk : PyStr.startsWith k reservedPrefix <;> simp [verifyHeader, IsHeader, hk]
    | _ => simp [verifyHeader, IsHeader, bind_eq_ok]
  | _ => simp [verifyHeader, IsHeader, bind_eq_ok]

/-- The loop accepts exactly the lists of headers. -/
lemma verifyHeaderItems_eq_ok {items : List (PyKey × PyObj)} :
    verifyHeaderItems items = .ok () ↔ ∀ kv ∈ items, IsHeader kv := by
  induction items with
  | nil => simp [verifyHeaderItems]
  | cons kv rest ih =>
    rw [verifyHeaderItems, bind_eq_ok, List.forall_mem_cons, ← ih, ← verifyHeader_eq_ok]
    exact ⟨fun ⟨_, hkv, hrest⟩ => ⟨hkv, hrest⟩, fun ⟨hkv, hrest⟩ => ⟨(), hkv, hrest⟩⟩

/-- `_verify_headers` accepts exactly the dictionaries of headers. -/
lemma verifyHeaders_eq_ok {headers : PyObj} :
    verifyHeaders headers = .ok () ↔
      ∃ items, headers = .dict items ∧ ∀ kv ∈ items, IsHeader kv := by
  rw [verifyHeaders, bind_eq_ok]
  cases headers with
  | dict items => simp [getItems, verifyHeaderItems_eq_ok]
  | _ => simp [getItems]

/-! ## Transport attributes -/

/-- A meta attribute that is found. -/
lemma stringAttribute_eq_ok_iff {attributes : Attributes} {attr s : String} :
    stringAttribute attributes attr = .ok s ↔ attributes.get? (.str attr) = some (.str s) := by
  rw [stringAttribute]
  split
  · rename_i s' h
    simp [h]
  · rename_i value h
    simp only [bind_eq_ok, reduceCtorEq, and_false, exists_false, false_iff]
    exact h s

/-- The attributes outside the reserved namespace are found exactly if every key is a string. -/
lemma userHeaders_eq_ok_iff {attributes headers : Attributes} :
    userHeaders attributes = .ok headers ↔
      attributes.keys.all PyKey.isStr = true ∧
        headers = attributes.filterKeys fun k => !PyStr.startsWith k.text reservedPrefix := by
  rw [userHeaders]
  split
  · rename_i k hk
    have hno : attributes.keys.all PyKey.isStr ≠ true := fun hall => by
      have hstr := List.all_eq_true.mp hall k (List.mem_of_find?_eq_some hk)
      simpa [hstr] using List.find?_some hk
    simp [hno]
  · rename_i hnone
    have hall : attributes.keys.all PyKey.isStr = true := by
      simpa [List.find?_eq_none, List.all_eq_true] using hnone
    simp [hall, eq_comm]

/-- What it takes for meta attributes to be encoded. -/
lemma encodeMetaAttributes_eq_ok {setting : Bool} {metaAttrs : MetaAttributes}
    {attributes : Attributes} :
    encodeMetaAttributes setting metaAttrs = .ok attributes ↔
      setting = true ∧ metaAttrs.id.printable = true ∧ metaAttrs.timestamp.printable = true ∧
        ∃ fv items, metaAttrs.formatVersion.str = .ok fv ∧ metaAttrs.headers = .dict items ∧
          attributes = (PyDict.ofList (metaItems metaAttrs fv)).update (.ofList items) := by
  have hitems : ∀ o items, getItems o = .ok items ↔ o = .dict items := by
    intro o items
    cases o <;> simp [getItems]
  simp only [encodeMetaAttributes, bind_eq_ok, strOf_eq_ok, hitems]
  constructor
  · rintro ⟨_, hsetting, fv, hfv, _, ⟨hid, -⟩, _, ⟨htimestamp, -⟩, items, hheaders, hreturn⟩
    exact ⟨pyAssert_eq_ok.mp hsetting, hid, htimestamp, fv, items, hfv, hheaders,
      (Except.ok.inj hreturn).symm⟩
  · rintro ⟨rfl, hid, htimestamp, fv, items, hfv, hheaders, rfl⟩
    exact ⟨(), rfl, fv, hfv, _, ⟨hid, rfl⟩, _, ⟨htimestamp, rfl⟩, items, hheaders, rfl⟩

/-- A format version that was read from a string. -/
lemma FormatVersion.ofString_eq_ok {s : String} {f : FormatVersion} :
    FormatVersion.ofString s = .ok f ↔
      (s = "" ∧ f = .unparsed) ∨ ∃ v, StrictVersion.parse s = some v ∧ f = .version v := by
  by_cases hs : s = ""
  · subst hs
    have hparse : StrictVersion.parse "" = none := by decide
    simp [ofString, hparse, eq_comm]
  · cases hparse : StrictVersion.parse s <;> simp [ofString, hs, hparse, eq_comm]

/-- The format version is accepted exactly if it denotes the current version. -/
lemma verifyFormatVersion_version {v current : StrictVersion} :
    verifyFormatVersion (.version v) current = .ok () ↔ v = current := by
  by_cases hv : v = current <;>
    simp [verifyFormatVersion, FormatVersion.differs, FormatVersion.str, bind, Except.bind, hv]

/-- A format version that was not parsed is not accepted. -/
lemma verifyFormatVersion_unparsed {current : StrictVersion} :
    verifyFormatVersion .unparsed current ≠ .ok () := by
  simp [verifyFormatVersion, FormatVersion.differs, bind, Except.bind]

/-- What it takes for transport attributes to be decoded and accepted. -/
lemma decodeMetaAttributes_eq_ok {attributes : Attributes} {current : StrictVersion}
    {metaAttrs : MetaAttributes} :
    (decodeMetaAttributes true attributes = .ok metaAttrs ∧
        verifyFormatVersion metaAttrs.formatVersion current = .ok ()) ↔
      ∃ formatVersion id timestamp publisher schema t,
        attributes.get? (.str "hedwig_format_version") = some (.str formatVersion) ∧
        attributes.get? (.str "hedwig_id") = some (.str id) ∧
        attributes.get? (.str "hedwig_message_timestamp") = some (.str timestamp) ∧
        attributes.get? (.str "hedwig_publisher") = some (.str publisher) ∧
        attributes.get? (.str "hedwig_schema") = some (.str schema) ∧
        attributes.keys.all PyKey.isStr = true ∧ PyStr.int? timestamp = some t ∧
        StrictVersion.parse formatVersion = some current ∧
        metaAttrs = ⟨.int t, .str publisher, ofDict (attributes.filterKeys fun k =>
          !PyStr.startsWith k.text reservedPrefix), .str id, .str schema, .version current⟩ := by
  constructor
  · rintro ⟨hdecode, hverify⟩
    simp only [decodeMetaAttributes, bind_eq_ok, stringAttribute_eq_ok_iff] at hdecode
    obtain ⟨_, -, fv, hfv, id, hid, ts, hts, publisher, hpublisher, schema, hschema, headers,
      hheaders, t, ht, f, hf, hreturn⟩ := hdecode
    obtain rfl := Except.ok.inj hreturn
    obtain ⟨hstrings, hheaders'⟩ := userHeaders_eq_ok_iff.mp hheaders
    have hint : PyStr.int? ts = some t := by
      rw [intOfString] at ht
      split at ht
      · rename_i i hi
        rw [hi, Except.ok.inj ht]
      · cases ht
    obtain ⟨-, rfl⟩ | ⟨v, hv, rfl⟩ := FormatVersion.ofString_eq_ok.mp hf
    · exact absurd hverify verifyFormatVersion_unparsed
    · obtain rfl := verifyFormatVersion_version.mp hverify
      exact ⟨fv, id, ts, publisher, schema, t, hfv, hid, hts, hpublisher, hschema, hstrings, hint,
        hv, by rw [← hheaders']⟩
  · rintro ⟨fv, id, ts, publisher, schema, t, hfv, hid, hts, hpublisher, hschema, hstrings, hint,
      hv, rfl⟩
    refine ⟨?_, verifyFormatVersion_version.mpr rfl⟩
    have hf := FormatVersion.ofString_eq_ok.mpr (.inr ⟨current, hv, rfl⟩)
    have hheaders := userHeaders_eq_ok_iff.mpr ⟨hstrings, rfl⟩
    have ht : intOfString ts = .ok t := by rw [intOfString, hint]
    simp only [decodeMetaAttributes, bind_eq_ok, stringAttribute_eq_ok_iff]
    exact ⟨(), rfl, fv, hfv, id, hid, ts, hts, publisher, hpublisher, schema, hschema, _, hheaders,
      t, ht, _, hf, rfl⟩

/-- The attributes outside the reserved namespace are accepted as headers exactly if each is
one. -/
lemma verifyHeaders_filterKeys {attributes : Attributes} :
    verifyHeaders (ofDict (attributes.filterKeys fun k =>
        !PyStr.startsWith k.text reservedPrefix)) = .ok () ↔
      ∀ kv ∈ attributes.items, PyStr.startsWith kv.1.text reservedPrefix = false →
        IsHeader kv := by
  rw [verifyHeaders_eq_ok]
  constructor
  · rintro ⟨items, hitems, h⟩ kv hkv hprefix
    refine h kv ?_
    rw [← PyObj.dict.inj hitems]
    exact List.mem_filter.mpr ⟨hkv, by simp [ hprefix]⟩
  · intro h
    refine ⟨_, rfl, fun kv hkv => ?_⟩
    obtain ⟨hmem, hprefix⟩ := List.mem_filter.mp hkv
    exact h kv hmem (by simpa using hprefix)

/-! ## The message type in a schema -/

/-- The end of every schema format. -/
def schemaPieces : List PyStr.Piece :=
  [.field "message_type".toList, .text ['/'], .field "message_version".toList]

/-- The end of a schema format stands for the type, a slash and the version. -/
lemma evalPieces_schemaPieces
    (formatField : String → String → String → Except PyException String)
    (messageType messageVersion : String) :
    PyStr.evalPieces (schemaField formatField messageType messageVersion) schemaPieces =
      .ok (messageType.toList ++ '/' :: messageVersion.toList) := by
  have htype : schemaField formatField messageType messageVersion
      (String.ofList "message_type".toList) = .ok messageType := by simp [schemaField]
  have hversion : schemaField formatField messageType messageVersion
      (String.ofList "message_version".toList) = .ok messageVersion := by simp [schemaField]
  simp only [schemaPieces, PyStr.evalPieces, htype, hversion]
  simp [Except.map]

/-- Without a slash there is no match. -/
lemma schemaReSearch_of_notMem {cs : List Char} (h : '/' ∉ cs) : schemaReSearch cs = none := by
  induction cs with
  | nil => rfl
  | cons c cs ih =>
    have hdrop : (c :: cs).dropWhile (· ≠ '/') = [] := by
      refine List.dropWhile_eq_nil_iff.mpr fun x hx => ?_
      have : x ≠ '/' := fun he => h (he ▸ hx)
      simpa using this
    rw [schemaReSearch, schemaReMatch, hdrop, ih fun hc => h (List.mem_cons_of_mem _ hc)]

/-- A match at the first character, when there is a slash further on. -/
lemma schemaReMatch_append {messageType version : List Char} (ht : '/' ∉ messageType) :
    schemaReMatch (messageType ++ '/' :: version) =
      if messageType ≠ [] ∧ version ≠ [] ∧ '/' ∉ version then some (messageType, version)
      else none := by
  have hall : ∀ x ∈ messageType, decide (x ≠ '/') = true := fun x hx => by
    have : x ≠ '/' := fun he => ht (he ▸ hx)
    simpa using this
  have htake : (messageType ++ '/' :: version).takeWhile (· ≠ '/') = messageType := by
    rw [List.takeWhile_append_of_pos hall]
    simp
  have hdrop : (messageType ++ '/' :: version).dropWhile (· ≠ '/') = '/' :: version := by
    rw [List.dropWhile_append_of_pos hall]
    simp
  rw [schemaReMatch, htake, hdrop]

/-- A text without slashes, a slash and a version: the groups can only be these, by induction on
the text. -/
lemma schemaReSearch_append {messageType version : List Char} {groups : List Char × List Char}
    (ht : '/' ∉ messageType) (hv : '/' ∉ version) (hne : version ≠ [])
    (h : schemaReSearch (messageType ++ '/' :: version) = some groups) :
    groups = (messageType, version) := by
  cases messageType with
  | nil =>
    rw [List.nil_append, schemaReSearch, schemaReSearch_of_notMem hv] at h
    have hmatch : schemaReMatch ('/' :: version) = none :=
      (schemaReMatch_append ht).trans (if_neg fun hand => hand.1 rfl)
    rw [hmatch] at h
    cases h
  | cons c cs =>
    rw [List.cons_append, schemaReSearch, ← List.cons_append, schemaReMatch_append ht,
      if_pos ⟨by simp, hne, hv⟩] at h
    exact (Option.some.inj h).symm

/-- The groups are the last two parts of a text of which everything before ends in a slash, by
induction on what comes before: there the second group would contain a slash. -/
lemma schemaReSearch_append_append {before messageType version : List Char}
    {groups : List Char × List Char} (hbefore : before = [] ∨ ∃ b, before = b ++ ['/'])
    (ht : '/' ∉ messageType) (hv : '/' ∉ version) (hne : version ≠ [])
    (h : schemaReSearch (before ++ (messageType ++ '/' :: version)) = some groups) :
    groups = (messageType, version) := by
  induction before with
  | nil => exact schemaReSearch_append ht hv hne h
  | cons c cs ih =>
    have hcs : cs = [] ∨ ∃ b, cs = b ++ ['/'] := by
      rcases hbefore with hb | ⟨b, hb⟩
      · cases hb
      · cases b with
        | nil => exact .inl (List.cons.inj hb).2
        | cons x b => exact .inr ⟨b, (List.cons.inj hb).2⟩
    have hmem : '/' ∈ c :: cs := by
      rcases hbefore with hb | ⟨b, hb⟩
      · cases hb
      · simp [hb]
    obtain ⟨a, b, hab, ha⟩ : ∃ a b, c :: cs = a ++ '/' :: b ∧ '/' ∉ a :=
      List.eq_append_cons_of_mem hmem
    have hmatch : schemaReMatch (c :: (cs ++ (messageType ++ '/' :: version))) = none := by
      have hsplit : c :: (cs ++ (messageType ++ '/' :: version)) =
          a ++ '/' :: (b ++ (messageType ++ '/' :: version)) := by
        rw [← List.cons_append, hab]
        simp
      rw [hsplit, schemaReMatch_append ha, if_neg]
      simp
    rw [List.cons_append, schemaReSearch, hmatch] at h
    exact ih hcs h

/-- A match at the first character. -/
lemma schemaReMatch_eq_some_iff {cs messageType version : List Char} :
    schemaReMatch cs = some (messageType, version) ↔
      cs = messageType ++ '/' :: version ∧ messageType ≠ [] ∧ '/' ∉ messageType ∧
        version ≠ [] ∧ '/' ∉ version := by
  constructor
  · intro h
    rw [schemaReMatch] at h
    split at h
    · rename_i c rest hdrop
      split_ifs at h with hmatch
      obtain ⟨rfl, rfl⟩ := Prod.mk.inj (Option.some.inj h)
      have hne : cs.dropWhile (· ≠ '/') ≠ [] := by
        rw [hdrop]
        exact List.cons_ne_nil _ _
      have hhead := List.head_dropWhile_not (fun x => decide (x ≠ '/')) hne
      simp only [hdrop, List.head_cons] at hhead
      obtain rfl : c = '/' := by simpa using hhead
      refine ⟨?_, hmatch.1, fun hmem => ?_, hmatch.2⟩
      · rw [← hdrop, List.takeWhile_append_dropWhile]
      · simpa using List.mem_takeWhile_imp hmem
    · cases h
  · rintro ⟨rfl, hne, hslash, hversion⟩
    rw [schemaReMatch_append hslash, if_pos ⟨hne, hversion⟩]

/-- A search that finds nothing at the first character goes on, by induction on the text. -/
lemma isSome_schemaReSearch_append {cs : List Char} (h : (schemaReSearch cs).isSome)
    (before : List Char) : (schemaReSearch (before ++ cs)).isSome := by
  induction before with
  | nil => exact h
  | cons c before ih =>
    rw [List.cons_append, schemaReSearch]
    split
    · rfl
    · exact ih

/-- **The groups of a schema** are its last two parts, if neither is empty: by induction on the
text, what comes before them is nothing or ends in a slash, since otherwise the search would have
matched one character earlier. -/
lemma schemaReSearch_eq_some_iff {cs messageType version : List Char} :
    schemaReSearch cs = some (messageType, version) ↔
      ∃ before, (before = [] ∨ ∃ b, before = b ++ ['/']) ∧
        cs = before ++ (messageType ++ '/' :: version) ∧ messageType ≠ [] ∧
        '/' ∉ messageType ∧ version ≠ [] ∧ '/' ∉ version := by
  constructor
  · intro h
    induction cs with
    | nil => cases h
    | cons c cs ih =>
      rw [schemaReSearch] at h
      split at h
      · rename_i groups hmatch
        obtain rfl := Option.some.inj h
        exact ⟨[], .inl rfl, schemaReMatch_eq_some_iff.mp hmatch⟩
      · rename_i hmatch
        obtain ⟨before, hbefore, rfl, hne, htype, hversion⟩ := ih h
        refine ⟨c :: before, .inr ?_, rfl, hne, htype, hversion⟩
        rcases hbefore with rfl | ⟨b, rfl⟩
        · by_cases hc : c = '/'
          · exact ⟨[], by rw [hc, List.nil_append]⟩
          · have hslash : '/' ∉ c :: messageType := by
              simp [Ne.symm hc, htype]
            rw [List.nil_append, ← List.cons_append, schemaReMatch_append hslash,
              if_pos ⟨List.cons_ne_nil _ _, hversion⟩] at hmatch
            cases hmatch
        · exact ⟨c :: b, rfl⟩
  · rintro ⟨before, hbefore, rfl, hne, htype, hversion⟩
    have hsome : (schemaReSearch (messageType ++ '/' :: version)).isSome := by
      obtain ⟨c, cs, rfl⟩ := List.exists_cons_of_ne_nil hne
      rw [List.cons_append, schemaReSearch, ← List.cons_append, schemaReMatch_append htype,
        if_pos ⟨hne, hversion⟩]
      rfl
    obtain ⟨groups, hgroups⟩ :=
      Option.isSome_iff_exists.mp (isSome_schemaReSearch_append hsome before)
    rw [hgroups, schemaReSearch_append_append hbefore htype hversion.2 hversion.1 hgroups]

/-- The type and the version of a schema are its last two parts. -/
lemma decodeMessageType_eq_ok {s messageType : String} {version : StrictVersion} :
    decodeMessageType (.str s) = .ok (messageType, version) ↔
      ∃ text, schemaReSearch s.toList = some (messageType.toList, text) ∧
        StrictVersion.parse (String.ofList text) = some version := by
  constructor
  · intro h
    simp only [decodeMessageType] at h
    split at h
    · cases h
    · rename_i messageType' text hsearch
      split at h
      · cases h
      · rename_i parsed hparse
        obtain ⟨rfl, rfl⟩ := Prod.mk.inj (Except.ok.inj h)
        exact ⟨text, by rw [hsearch, String.toList_ofList], hparse⟩
  · rintro ⟨text, hsearch, hparse⟩
    simp only [decodeMessageType, hsearch, hparse, String.ofList_toList]

/-- The type and the version of a schema that ends in a type without slashes, a slash and the
text of a version. -/
lemma decodeMessageType_eq {s messageType : String} {version : StrictVersion}
    {before : List Char} {result : String × StrictVersion}
    (hbefore : before = [] ∨ ∃ b, before = b ++ ['/']) (ht : '/' ∉ messageType.toList)
    (hs : s.toList = before ++ (messageType.toList ++ '/' :: version.chars))
    (h : decodeMessageType (.str s) = .ok result) : result = (messageType, version) := by
  obtain ⟨messageType', parsed⟩ := result
  obtain ⟨text, hsearch, hparse⟩ := decodeMessageType_eq_ok.mp h
  rw [hs] at hsearch
  obtain ⟨hmessageType, rfl⟩ : messageType'.toList = messageType.toList ∧ text = version.chars := by
    simpa using schemaReSearch_append_append hbefore ht version.slash_notMem_chars
      version.chars_ne_nil hsearch
  rw [String.toList_inj.mp hmessageType, StrictVersion.parse_str hparse]

end Hedwig
