import Hedwig.Validators.Attributes
import Hedwig.Validators.Firehose
import Hedwig.Validators.ProtobufRegistry
import Hedwig.Validators.WellFormed

set_option relaxedAutoImplicit false
set_option autoImplicit false

/-!
# Message types on the wire

A schema is a type, a slash and a version, and the decoder looks for the last two parts of it.  What
it makes of a type with slashes is the part after the last of them, and the check that `serialize`
makes of its own output compares neither type nor version.  So the message is sent as one of another
type when that part is itself a registered type, in the same major version.

## Main definitions

* `Hedwig.lastPart` — the part of a type that is decoded.
* `Hedwig.ProtobufValidator.KeepsTypes` — every message that is serialized is deserialized with its
  type and version.
* `Hedwig.ProtobufValidator.Unambiguous` — no declared type has another one as its last part.

## Main results

* `Hedwig.ProtobufValidator.keepsTypes_iff` — a constructed validator keeps types exactly if its
  classes are unambiguous.
* `Hedwig.ProtobufValidator.keepsTypes_counterexample` — two classes that are not.
-/

namespace Hedwig

/-! ## The last part of a type -/

/-- What comes after the last slash of a message type. -/
def lastPart (messageType : String) : String :=
  String.ofList (messageType.toList.reverse.takeWhile (· ≠ '/')).reverse

/-- The last part has no slash. -/
lemma slash_notMem_lastPart (messageType : String) : '/' ∉ (lastPart messageType).toList := by
  intro h
  rw [lastPart, String.toList_ofList, List.mem_reverse] at h
  simpa using List.mem_takeWhile_imp h

/-- A type is its last part, behind nothing or a slash. -/
lemma exists_lastPart (messageType : String) :
    ∃ before, (before = [] ∨ ∃ b, before = b ++ ['/']) ∧
      messageType.toList = before ++ (lastPart messageType).toList := by
  set rest := messageType.toList.reverse.dropWhile (· ≠ '/') with hrest
  have hsplit : messageType.toList = rest.reverse ++ (lastPart messageType).toList := by
    rw [lastPart, String.toList_ofList, ← List.reverse_append, hrest,
      List.takeWhile_append_dropWhile, List.reverse_reverse]
  refine ⟨rest.reverse, ?_, hsplit⟩
  cases hcases : rest with
  | nil => exact .inl rfl
  | cons c cs =>
    have hne : rest ≠ [] := by
      rw [hcases]
      exact List.cons_ne_nil _ _
    have hhead := List.head_dropWhile_not (fun x => decide (x ≠ '/')) (hrest ▸ hne)
    simp only [← hrest, hcases, List.head_cons] at hhead
    obtain rfl : c = '/' := by simpa using hhead
    exact .inr ⟨cs.reverse, List.reverse_cons⟩

/-- A type is its own last part exactly without a slash. -/
lemma lastPart_eq_self_iff {messageType : String} :
    lastPart messageType = messageType ↔ '/' ∉ messageType.toList := by
  constructor
  · intro h
    rw [← h]
    exact slash_notMem_lastPart messageType
  · intro h
    obtain ⟨before, rfl | ⟨b, rfl⟩, hsplit⟩ := exists_lastPart messageType
    · exact (String.toList_inj.mp hsplit).symm
    · rw [hsplit] at h
      simp at h

/-- The schema of a type and a version. -/
def typeSchema (messageType : String) (version : StrictVersion) : String :=
  String.ofList (messageType.toList ++ '/' :: version.chars)

/-- A schema is decoded to the last part of the type, and to the version. -/
lemma eq_of_decode_typeSchema {messageType messageType' : String} {version version' : StrictVersion}
    (h : decodeMessageType (.str (typeSchema messageType version)) = .ok (messageType', version')) :
    messageType' = lastPart messageType ∧ version' = version := by
  obtain ⟨before, hbefore, hsplit⟩ := exists_lastPart messageType
  have hs : (typeSchema messageType version).toList =
      before ++ ((lastPart messageType).toList ++ '/' :: version.chars) := by
    rw [typeSchema, String.toList_ofList, hsplit, List.append_assoc]
  exact Prod.mk.inj (decodeMessageType_eq hbefore (slash_notMem_lastPart messageType) hs h)

/-- A schema is decoded unless the last part of its type is empty, if the version can be read. -/
lemma decode_typeSchema {messageType : String} {version : StrictVersion}
    (hne : lastPart messageType ≠ "") (hversion : version.IsShort) :
    decodeMessageType (.str (typeSchema messageType version)) =
      .ok (lastPart messageType, version) := by
  obtain ⟨before, hbefore, hsplit⟩ := exists_lastPart messageType
  have hparse := StrictVersion.parse_str_of_isShort hversion
  refine decodeMessageType_eq_ok.mpr ⟨version.chars, ?_, hparse⟩
  refine schemaReSearch_eq_some_iff.mpr ⟨before, hbefore, ?_, ?_, slash_notMem_lastPart messageType,
    version.chars_ne_nil, version.slash_notMem_chars⟩
  · rw [typeSchema, String.toList_ofList, hsplit, List.append_assoc]
  · exact fun h => hne (String.toList_inj.mp h)

/-! ## The schema in a payload -/

/-- No header takes the place of the schema among the transport attributes. -/
lemma schema_of_transport {setting : Bool} {metaAttrs metaAttrs' : MetaAttributes}
    {attributes : Attributes} (hheaders : verifyHeaders metaAttrs.headers = .ok ())
    (hencode : encodeMetaAttributes setting metaAttrs = .ok attributes)
    (hdecode : decodeMetaAttributes setting attributes = .ok metaAttrs') :
    metaAttrs'.schema = metaAttrs.schema := by
  obtain ⟨items, hitems, hheader⟩ := verifyHeaders_eq_ok.mp hheaders
  obtain ⟨-, -, -, fv, items', -, hitems', rfl⟩ := encodeMetaAttributes_eq_ok.mp hencode
  obtain rfl : items = items' := PyObj.dict.inj (hitems.symm.trans hitems')
  have hnone : (PyDict.ofList items).get? (PyKey.str "hedwig_schema") = none := by
    refine PyDict.get?_eq_none_iff.mpr fun hmem => ?_
    obtain ⟨value, hvalue⟩ := PyDict.mem_keys.mp hmem
    obtain ⟨k, s, hk, hprefix⟩ := hheader _ (PyDict.mem_items_ofList hvalue)
    obtain rfl : "hedwig_schema" = k := PyKey.str.inj (congrArg Prod.fst hk)
    exact absurd hprefix (by decide)
  have hget : (PyDict.ofList (metaItems metaAttrs fv)).get? (PyKey.str "hedwig_schema") =
      some metaAttrs.schema := by
    refine PyDict.get?_eq_some_iff.mpr ?_
    rw [PyDict.items_ofList (by simp [metaItems])]
    simp [metaItems]
  simp only [decodeMetaAttributes, bind_eq_ok, stringAttribute_eq_ok_iff,
    PyDict.get?_update] at hdecode
  obtain ⟨_, -, _, -, _, -, _, -, _, -, schema, hschema, _, -, _, -, _, -, hreturn⟩ := hdecode
  rw [hnone, Option.none_or, hget] at hschema
  rw [← Except.ok.inj hreturn, Option.some.inj hschema]

namespace ProtobufValidator

variable {lib : ProtoLib} {v : ProtobufValidator lib} {π : Type}

/-- The schema of an encoded message is extracted from its payload. -/
lemma schema_of_encodePayload (hlib : lib.RoundTrips) (hwire : v.wire = .binary ∨ v.wire = .json)
    {metaAttrs metaAttrs' : MetaAttributes} {schema : String} {data : lib.Msg} {payload : Payload}
    {attributes : Attributes} {useTransportAttributes : Bool} {x : ProtoData lib}
    (hschema : metaAttrs.schema = .str schema)
    (hheaders : verifyHeaders metaAttrs.headers = .ok ())
    (hencode : v.toBase.encodePayload metaAttrs data useTransportAttributes =
      .ok (payload, attributes))
    (hextract : v.toBase.extractData payload attributes useTransportAttributes =
      .ok (metaAttrs', x)) : metaAttrs'.schema = .str schema := by
  cases useTransportAttributes with
  | true =>
    rw [schema_of_transport hheaders (v.usesMetaAttributes.encode _ _ _ _ hencode)
      (v.usesMetaAttributes.decode _ _ _ _ hextract), hschema]
  | false =>
    change v.encodePayload metaAttrs data false = _ at hencode
    change v.extractData payload attributes false = _ at hextract
    obtain ⟨p, hnew, hproto, -⟩ := encodeContainer_eq_ok.mp hencode
    simp only [newPayload, bind_eq_ok, hschema, hlib.strings] at hnew
    obtain ⟨_, -, _, -, _, -, _, -, _, -, _, ⟨⟩, _, -, hp⟩ := hnew
    obtain ⟨p', hp', hfields, -⟩ :=
      ProtoWire.decodeProto_encodeProto hwire hlib.payloads trivial hproto
    obtain ⟨p'', hp'', hmeta, -⟩ := extractContainer_eq_ok.mp hextract
    obtain rfl : p' = p'' := Except.ok.inj (hp'.symm.trans hp'')
    obtain ⟨t, -, rfl⟩ := containerMetaAttributes_eq_ok.mp hmeta
    rw [hfields, ← Except.ok.inj hp]

/-- A message that is serialized is deserialized with the last part of its type, which is
registered in its major version, and with its version. -/
lemma deserialize_of_serialize (hlib : lib.RoundTrips) (hwire : v.wire = .binary ∨ v.wire = .json)
    {m : Message lib.Msg π} {payload : Payload} {attributes : Attributes}
    (h : v.toBase.serialize m = .ok (payload, attributes)) (providerMetadata : Option π) :
    ∃ m', v.toBase.deserialize payload attributes providerMetadata = .ok m' ∧
      m'.type = lastPart m.type ∧ m'.version = m.version ∧
      v.Known m.type m.version.major ∧ v.Known (lastPart m.type) m.version.major := by
  obtain ⟨hminor, hheaders, schema, hschema, hencode, m₀, hcheck⟩ := v.toBase.serializeMode_eq_ok h
  obtain rfl : typeSchema m.type m.version = schema :=
    Except.ok.inj ((v.encodeMessageType_eq _ _).symm.trans hschema)
  refine ⟨_, v.toBase.deserializeMode_providerMetadata hcheck providerMetadata, ?_⟩
  obtain ⟨metaAttrs, x, messageType, version, data, hextract, -, hdecode, hdata, rfl⟩ :=
    v.toBase.deserializeMode_eq_ok.mp hcheck
  rw [schema_of_encodePayload hlib hwire rfl hheaders hencode hextract] at hdecode
  obtain ⟨rfl, rfl⟩ := eq_of_decode_typeSchema hdecode
  refine ⟨rfl, rfl, ?_, v.known_of_decodeData hdata⟩
  change v.verifyKnownMinorVersion m.type m.version = .ok () at hminor
  rw [verifyKnownMinorVersion, bind_eq_ok] at hminor
  obtain ⟨cls, hcls, -⟩ := hminor
  exact ⟨cls, v.messageClass_eq_ok.mp hcls⟩

/-- Every message that is serialized, in the mode of the validator, is deserialized with its type
and version. -/
def KeepsTypes (v : ProtobufValidator lib) (π : Type) : Prop :=
  ∀ (m : Message lib.Msg π) (payload : Payload) (attributes : Attributes)
    (providerMetadata : Option π), v.toBase.serialize m = .ok (payload, attributes) →
    ∃ m', v.toBase.deserialize payload attributes providerMetadata = .ok m' ∧
      m'.type = m.type ∧ m'.version = m.version

/-- No class declares a type with slashes whose last part another class declares in the same major
version. -/
def Unambiguous (decl : ProtoOptions lib) (protoMessages : List lib.Cls) : Prop :=
  ∀ cls ∈ protoMessages, ∀ cls' ∈ protoMessages, ∀ messageType majorVersion,
    decl.Declares cls (messageType, majorVersion) → '/' ∈ messageType.toList →
    ¬ decl.Declares cls' (lastPart messageType, majorVersion)

/-- What the protobuf runtime promises of the classes, in the wire format of a validator: each has
an instance, the empty one if nothing else, that is written alone and in a container with the
timestamp of some time; and the epoch can be set as timestamp. -/
structure WritesInstances (v : ProtobufValidator lib) : Prop where
  instances : ∀ cls, ∃ data any, lib.classOf data = cls ∧
    (∃ p, v.wire.encodeProto (lib.codec cls) data = .ok p) ∧
    lib.pack data = .ok any ∧ lib.is any cls = true ∧
    ∀ msg : lib.Payload, msg.data = any → (∃ t, lib.fromMilliseconds t = .ok msg.timestamp) →
      ∃ p, v.wire.encodeProto lib.payloadCodec msg = .ok p
  timestamps : ∃ ts, lib.fromMilliseconds (.int 0) = .ok ts

/-- A message of the epoch without headers. -/
def epochMessage (messageType : String) (majorVersion : ℕ) (data : lib.Msg) :
    Message lib.Msg π where
  id := .str ""
  metadata :=
    { timestamp := .int 0
      headers := .dict []
      publisher := .str ""
      providerMetadata := none }
  data := data
  type := messageType
  version := ⟨majorVersion, 0, 0, none⟩

section

variable {messageType : String} {majorVersion : ℕ} {cls : lib.Cls} {data : lib.Msg}

/-- A message of the epoch is encoded next to its attributes, and decoded as one of another type. -/
lemma exists_encode_transport (hlib : lib.RoundTrips) (hwire : v.wire = .binary ∨ v.wire = .json)
    (hmode : v.useTransportMessageAttributes = true) {p : Payload} (hclass : lib.classOf data = cls)
    (hproto : v.wire.encodeProto (lib.codec cls) data = .ok p) (schema : String) :
    ∃ payload attributes metaAttrs x,
      v.toBase.encodePayload (v.toBase.metaAttributes
        (epochMessage (π := π) messageType majorVersion data) schema) data true =
          .ok (payload, attributes) ∧
      v.toBase.extractData payload attributes true = .ok (metaAttrs, x) ∧
      verifyHeaders metaAttrs.headers = .ok () ∧ metaAttrs.schema = .str schema ∧
      v.decodeMessage cls x = .ok data := by
  obtain ⟨attributes, metaAttrs, hencode, -, hdecode, hversion, hheaders, hschema⟩ :=
    exists_decode_epoch schema
  obtain ⟨m', hm', rfl⟩ :=
    ProtoWire.decodeProto_encodeProto hwire (hlib.messages cls) hclass hproto
  refine ⟨p, attributes, metaAttrs, .payload p, bind_eq_ok.mpr ⟨p, ?_, bind_eq_ok.mpr
    ⟨attributes, ?_, rfl⟩⟩, bind_eq_ok.mpr ⟨metaAttrs, ?_, bind_eq_ok.mpr ⟨(), hversion, rfl⟩⟩,
    hheaders, hschema, hm'⟩
  · rw [hclass]
    exact hproto
  · rw [hmode]
    exact hencode
  · rw [hmode]
    exact hdecode

/-- It is packed into a container, and unpacked as one of another type. -/
lemma exists_encode_container (hlib : lib.RoundTrips) (hwire : v.wire = .binary ∨ v.wire = .json)
    {any : lib.Any} {ts : lib.Timestamp} (hclass : lib.classOf data = cls)
    (hpack : lib.pack data = .ok any) (his : lib.is any cls = true)
    (hpayload : ∀ msg : lib.Payload, msg.data = any →
      (∃ t, lib.fromMilliseconds t = .ok msg.timestamp) →
      ∃ p, v.wire.encodeProto lib.payloadCodec msg = .ok p)
    (hts : lib.fromMilliseconds (.int 0) = .ok ts) (schema : String) :
    ∃ payload attributes metaAttrs x,
      v.toBase.encodePayload (v.toBase.metaAttributes
        (epochMessage (π := π) messageType majorVersion data) schema) data false =
          .ok (payload, attributes) ∧
      v.toBase.extractData payload attributes false = .ok (metaAttrs, x) ∧
      verifyHeaders metaAttrs.headers = .ok () ∧ metaAttrs.schema = .str schema ∧
      v.decodeMessage cls x = .ok data := by
  have hnew : newPayload lib (v.toBase.metaAttributes
      (epochMessage (π := π) messageType majorVersion data) schema) (lib.pack data) =
        .ok ⟨currentFormatVersion.str, "", "", ts, .empty, schema, any⟩ := by
    simp only [newPayload, HedwigBaseValidator.metaAttributes, epochMessage, hlib.strings, hts,
      getItems, assignHeaders, hpack, bind, Except.bind, pure, Except.pure, strOf_str]
  obtain ⟨payload, hproto⟩ := hpayload
    ⟨currentFormatVersion.str, "", "", ts, .empty, schema, any⟩ rfl ⟨_, hts⟩
  obtain ⟨p', hp', hfields, hget⟩ :=
    ProtoWire.decodeProto_encodeProto hwire hlib.payloads trivial hproto
  have htimestamp : lib.toMilliseconds p'.timestamp = .ok 0 := by
    rw [hfields]
    exact hlib.timestamps 0 ts hts
  have hempty : ∀ k ∈ p'.headers.keys, PyStr.startsWith k reservedPrefix = false := by
    intro k hk
    obtain ⟨s, hs⟩ := PyDict.mem_keys.mp hk
    rw [← PyDict.get?_eq_some_iff, hget] at hs
    cases hs
  obtain ⟨metaAttrs, hmeta, hheaders, hschema⟩ := exists_containerMetaAttributes htimestamp
  obtain ⟨attributes, hencode⟩ : ∃ attributes, v.encodePayload _ data false =
      .ok (payload, attributes) := ⟨_, encodeContainer_eq_ok.mpr ⟨_, hnew, hproto, rfl⟩⟩
  have hextract : v.extractData payload attributes false = .ok (metaAttrs, .any p'.data) :=
    extractContainer_eq_ok.mpr ⟨p', hp', hmeta, rfl⟩
  refine ⟨payload, attributes, metaAttrs, .any p'.data, hencode, hextract, ?_, ?_, ?_⟩
  · rw [hheaders]
    exact verifyHeaders_ofStrings.mpr hempty
  · rw [hschema, hfields]
  · have hunpack := hlib.unpack data any hpack
    rw [hfields, decodeMessage]
    refine bind_eq_ok.mpr ⟨(), pyAssert_eq_ok.mpr his, ?_⟩
    rwa [hclass] at hunpack

/-- A type whose last part is registered is serialized with an instance of the class of that. -/
lemma exists_serialize (messageType : String) (hlib : lib.RoundTrips)
    (hwire : v.wire = .binary ∨ v.wire = .json) (hwrites : v.WritesInstances)
    (hknown : v.Known messageType majorVersion)
    (hlast : v.protoMessages.get? (lastPart messageType, majorVersion) = some cls)
    (hne : lastPart messageType ≠ "") (hshort : StrictVersion.Short majorVersion) :
    ∃ data payload attributes, lib.classOf data = cls ∧
      v.toBase.serialize (epochMessage (π := π) messageType majorVersion data) =
        .ok (payload, attributes) := by
  obtain ⟨data, any, hclass, ⟨p, hproto⟩, hpack, his, hpayload⟩ := hwrites.instances cls
  obtain ⟨ts, hts⟩ := hwrites.timestamps
  have hencode : ∀ schema, ∃ payload attributes metaAttrs x,
      v.toBase.encodePayload (v.toBase.metaAttributes
        (epochMessage (π := π) messageType majorVersion data) schema) data
          v.useTransportMessageAttributes = .ok (payload, attributes) ∧
      v.toBase.extractData payload attributes v.useTransportMessageAttributes =
        .ok (metaAttrs, x) ∧
      verifyHeaders metaAttrs.headers = .ok () ∧ metaAttrs.schema = .str schema ∧
      v.decodeMessage cls x = .ok data := by
    intro schema
    cases hmode : v.useTransportMessageAttributes with
    | true => exact exists_encode_transport hlib hwire hmode hclass hproto schema
    | false => exact exists_encode_container hlib hwire hclass hpack his hpayload hts schema
  obtain ⟨payload, attributes, metaAttrs, x, hencode, hextract, hheaders, hschema, hdecode⟩ :=
    hencode (typeSchema messageType ⟨majorVersion, 0, 0, none⟩)
  refine ⟨data, payload, attributes, hclass, ?_⟩
  obtain ⟨cls', hcls'⟩ := hknown
  have hminor : v.verifyKnownMinorVersion messageType ⟨majorVersion, 0, 0, none⟩ = .ok () :=
    (v.verifyKnownMinorVersion_eq_ok hcls').mpr (Nat.zero_le _)
  have hzero : StrictVersion.Short 0 := by simp [StrictVersion.Short, PyStr.maxStrDigits]
  have hversion : StrictVersion.IsShort ⟨majorVersion, 0, 0, none⟩ :=
    ⟨hshort, hzero, hzero, fun _ _ h => by cases h⟩
  have htype : decodeMessageType metaAttrs.schema =
      .ok (lastPart messageType, ⟨majorVersion, 0, 0, none⟩) := by
    rw [hschema, decode_typeSchema hne hversion]
  have hcheck : v.toBase.deserializeMode payload attributes (none : Option π)
      v.useTransportMessageAttributes = .ok _ := v.toBase.deserializeMode_eq_ok.mpr
    ⟨metaAttrs, x, _, _, data, hextract, hheaders, htype,
      v.decodeData_eq_ok.mpr ⟨cls, hlast, hdecode⟩, rfl⟩
  exact bind_eq_ok.mpr ⟨(), hminor, bind_eq_ok.mpr ⟨(), rfl, bind_eq_ok.mpr ⟨_,
    v.encodeMessageType_eq _ _, bind_eq_ok.mpr ⟨_, hencode, bind_eq_ok.mpr ⟨_, hcheck, rfl⟩⟩⟩⟩⟩

end

/-- A major version that is declared is short enough to be read back. -/
lemma short_of_declares {decl : ProtoOptions lib} {cls : lib.Cls} {key : String × ℕ}
    (h : decl.Declares cls key) : StrictVersion.Short key.2 := by
  have hlt := UInt32.toNat_lt (decl.options cls).majorVersion
  rw [h.major] at hlt
  have hlength := (Nat.length_toDigits_le_iff (b := 10) (k := 10) (by omega) (by omega)).mpr
    (Nat.lt_of_lt_of_le hlt (by decide))
  exact Nat.le_trans hlength (by decide)

/-- **When types are kept on the wire.**  A constructed protobuf validator, in either wire format
and either mode, deserializes every message that it serialized with the type and the version that it
had exactly if no class declares a type whose part after its last slash is declared by another class
in the same major version.

**Proof sketch.**  What is deserialized has the part of the type after its last slash, so a type
is kept exactly if it has no slash.  A type with one is serialized only if this part is registered
too, since `serialize` decodes its own result, so under the condition no such message is serialized.
Without it, an instance of the class that declares such a type is serialized and loses it. -/
theorem keepsTypes_iff (lib : ProtoLib) (decl : ProtoOptions lib) (wire : ProtoWire)
    (useTransportMessageAttributes : Bool) (protoMessages : List lib.Cls) (τ φ π : Type)
    (messageRouting : PyDict (String × String) τ) (callbacks : PyDict (String × String) φ)
    (v : ProtobufValidator lib)
    (hnew : new decl wire useTransportMessageAttributes protoMessages messageRouting callbacks =
      .ok v)
    (hlib : lib.RoundTrips) (hwire : wire = .binary ∨ wire = .json)
    (hwrites : v.WritesInstances) :
    v.KeepsTypes π ↔ Unambiguous decl protoMessages := by
  obtain ⟨registry, -, hv⟩ := new_eq_ok.mp hnew
  have hwire' : v.wire = .binary ∨ v.wire = .json := by
    rw [hv]
    exact hwire
  constructor
  · intro hkeeps cls hcls cls' hcls' messageType majorVersion hdeclares hslash hdeclares'
    have hknown : v.Known messageType majorVersion :=
      ⟨cls, (get?_of_new hnew).mpr ⟨hcls, hdeclares⟩⟩
    have hlast := (get?_of_new hnew).mpr ⟨hcls', hdeclares'⟩
    obtain ⟨data, payload, attributes, -, hserialize⟩ := exists_serialize (π := π) _ hlib hwire'
      hwrites hknown hlast hdeclares'.type_ne (short_of_declares hdeclares)
    obtain ⟨m', hm', htype, -⟩ := hkeeps _ payload attributes none hserialize
    obtain ⟨m'', hm'', htype', -⟩ := deserialize_of_serialize hlib hwire' hserialize none
    obtain rfl : m' = m'' := Except.ok.inj (hm'.symm.trans hm'')
    exact lastPart_eq_self_iff.mp (htype'.symm.trans htype) hslash
  · intro hunambiguous m payload attributes providerMetadata hserialize
    obtain ⟨m', hm', htype, hversion, ⟨cls, hcls⟩, cls', hcls'⟩ :=
      deserialize_of_serialize hlib hwire' hserialize providerMetadata
    refine ⟨m', hm', ?_, hversion⟩
    rw [htype, lastPart_eq_self_iff]
    intro hslash
    obtain ⟨hmem, hdeclares⟩ := (get?_of_new hnew).mp hcls
    obtain ⟨hmem', hdeclares'⟩ := (get?_of_new hnew).mp hcls'
    exact hunambiguous cls hmem cls' hmem' m.type m.version.major hdeclares hslash hdeclares'

/-! ## Sample classes -/

/-- A validator is constructed from the two classes, if their types differ. -/
lemma exists_new_sampleClass {deviceType : String} (hempty : deviceType ≠ "")
    (hne : deviceType ≠ "TripCreated") :
    ∃ v, new (sampleClassOptions true deviceType) .json false [.tripCreated, .deviceCreated]
      (.empty : PyDict (String × String) Unit) (.empty : PyDict (String × String) Unit) =
        .ok v := by
  refine exists_new.mpr ⟨fun cls _ => ?_, ?_, fun key hkey => by cases hkey⟩
  · cases cls with
    | tripCreated => exact ⟨_, declares_tripCreated true deviceType⟩
    | deviceCreated => exact ⟨_, declares_deviceCreated true hempty⟩
  · refine List.pairwise_pair.mpr fun key htrip hdevice => hne ?_
    have hkey := (declares_tripCreated true deviceType).unique htrip
    rw [← (declares_deviceCreated true hempty).unique hdevice] at hkey
    exact (Prod.mk.inj hkey).1.symm

/-- The runtime writes its classes. -/
lemma writesInstances_sampleClass {v : ProtobufValidator (sampleFirehoseLib true)}
    (hwire : v.wire = .json) : v.WritesInstances where
  instances cls := by
    rw [hwire]
    exact ⟨cls, .inl cls, rfl, ⟨_, rfl⟩, rfl, decide_eq_true rfl, fun _ _ _ => ⟨_, rfl⟩⟩
  timestamps := (sampleFirehoseLib_writes true).fromMilliseconds 0 ⟨by decide, by decide⟩

/-- The theorem at the two classes, with types without slashes. -/
theorem keepsTypes_iff_sample :
    ∃ v, new (sampleClassOptions true "device.created") .json false [.tripCreated, .deviceCreated]
      (.empty : PyDict (String × String) Unit) (.empty : PyDict (String × String) Unit) = .ok v ∧
      v.KeepsTypes Unit := by
  obtain ⟨v, hv⟩ := @exists_new_sampleClass "device.created" (by decide) (by decide)
  obtain ⟨registry, -, hwire⟩ := new_eq_ok.mp hv
  refine ⟨v, hv, (keepsTypes_iff _ _ .json false _ Unit Unit Unit .empty .empty v hv
    (sampleFirehoseLib_roundTrips true) (.inr rfl)
    (writesInstances_sampleClass (by rw [hwire]))).mpr ?_⟩
  intro cls _ cls' _ messageType majorVersion hdeclares hslash
  cases cls with
  | tripCreated =>
    obtain ⟨rfl, -⟩ := Prod.mk.inj ((declares_tripCreated true _).unique hdeclares)
    exact absurd hslash (by decide)
  | deviceCreated =>
    obtain ⟨rfl, -⟩ := Prod.mk.inj ((declares_deviceCreated true (by decide)).unique hdeclares)
    exact absurd hslash (by decide)

/-- **Two classes that are confused.**  With the types `TripCreated` and `fleet/TripCreated`, a
message of the second type is serialized, and read back as one of the first. -/
theorem keepsTypes_counterexample :
    ∃ v, new (sampleClassOptions true "fleet/TripCreated") .json false
        [.tripCreated, .deviceCreated] (.empty : PyDict (String × String) Unit)
        (.empty : PyDict (String × String) Unit) = .ok v ∧
      ∃ payload attributes m',
        v.toBase.serialize (epochMessage (π := Unit) "fleet/TripCreated" 1 .tripCreated) =
          .ok (payload, attributes) ∧
        v.toBase.deserialize payload attributes (none : Option Unit) = .ok m' ∧
        m'.type = "TripCreated" := by
  obtain ⟨v, hv⟩ := @exists_new_sampleClass "fleet/TripCreated" (by decide) (by decide)
  obtain ⟨registry, -, hwire⟩ := new_eq_ok.mp hv
  have hlib := sampleFirehoseLib_roundTrips true
  have hjson : v.wire = .json := by rw [hwire]
  have htrip : v.protoMessages.get? ("TripCreated", 1) = some .tripCreated :=
    (get?_of_new hv).mpr ⟨.head _, declares_tripCreated true _⟩
  have hdevice : v.protoMessages.get? ("fleet/TripCreated", 1) = some .deviceCreated :=
    (get?_of_new hv).mpr ⟨.tail _ (.head _), declares_deviceCreated true (by decide)⟩
  have hlast : lastPart "fleet/TripCreated" = "TripCreated" := by decide +kernel
  have hshort := short_of_declares (declares_tripCreated true "fleet/TripCreated")
  rw [← hlast] at htrip
  obtain ⟨data, payload, attributes, rfl, hserialize⟩ := exists_serialize (π := Unit)
    "fleet/TripCreated" hlib (.inr hjson) (writesInstances_sampleClass hjson) ⟨_, hdevice⟩ htrip
    (by decide +kernel) hshort
  obtain ⟨m', hm', htype, -⟩ := deserialize_of_serialize hlib (.inr hjson) hserialize none
  exact ⟨v, hv, payload, attributes, m', hserialize, hm', htype.trans hlast⟩

end ProtobufValidator

end Hedwig
