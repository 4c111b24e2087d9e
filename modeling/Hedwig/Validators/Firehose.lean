import Hedwig.Lib.JsonText
import Hedwig.Validators.FormatVersion
import Hedwig.Validators.HeaderOrder
import Hedwig.Validators.ProtobufRegistry
import Mathlib.Logic.Encodable.Basic
import Mathlib.Logic.Equiv.List

set_option relaxedAutoImplicit false
set_option autoImplicit false

/-!
# Round trip over firehose lines

What `serialize_firehose` writes is one line, and `deserialize_firehose` reads the message back
from it.  The JSON validator writes a container without white space.  The protobuf validators write
a container in the JSON format of protobuf and take the line feeds out; the data are packed as they
are if their minor version is known, and as a `Value` with their bytes in base64 if it is not.

## Main definitions

* `Hedwig.JsonLib.LoadsLast`, `Hedwig.JsonLib.WritesText`, `Hedwig.ProtoLib.Packs`,
  `Hedwig.ProtoLib.EscapesControls` — what the libraries promise of the texts and of an `Any`.
* `Hedwig.JSONSchemaValidator.Reads`, `Hedwig.ProtobufValidator.Reads` — the data that come back.
* `Hedwig.HedwigBaseValidator.FirehoseRoundTrips` — the property of a validator.

## Main results

* `Hedwig.serializeFirehose_roundTrips` — the JSON and the binary protobuf validator round-trip,
  and the latter returns a line for every minor version.
* `Hedwig.serializeFirehose_foreign` — data of another class are not read back.
-/

namespace Hedwig

/-- A text is a single line. -/
def SingleLine (line : String) : Prop := '\n' ∉ line.toList ∧ '\r' ∉ line.toList

/-! ## Any validator -/

namespace HedwigBaseValidator

variable {δ ξ π : Type} (v : HedwigBaseValidator δ ξ)

/-- What it takes for a message to be written: the line has been decoded once. -/
lemma serializeFirehose_eq_ok {m : Message δ π} {line : String} :
    v.serializeFirehose m = .ok line ↔
      ∃ schema, v.encodeMessageType m.type m.version = .ok schema ∧
        v.encodePayloadFirehose m.type m.version (v.metaAttributes m schema) m.data = .ok line ∧
        ∃ m' : Message δ π, v.deserializeFirehose line = .ok m' := by
  constructor
  · intro h
    simp only [serializeFirehose, bind_eq_ok] at h
    obtain ⟨schema, hschema, line', hencode, m', hcheck, hreturn⟩ := h
    obtain rfl := Except.ok.inj hreturn
    exact ⟨schema, hschema, hencode, m', hcheck⟩
  · rintro ⟨schema, hschema, hencode, m', hcheck⟩
    exact bind_eq_ok.mpr ⟨schema, hschema, bind_eq_ok.mpr ⟨line, hencode,
      bind_eq_ok.mpr ⟨m', hcheck, rfl⟩⟩⟩

/-- Every message with fields of the annotated types, string headers and a type without slashes,
once written, is a single line that is read back as an equal message, with data that come back for
those of the message. -/
def FirehoseRoundTrips (Reads : Message δ π → δ → Prop) : Prop :=
  ∀ (m : Message δ π) (line : String), '/' ∉ m.type.toList → m.Annotated →
    StringHeaders m.metadata.headers → v.serializeFirehose m = .ok line →
    SingleLine line ∧ ∃ m' data, v.deserializeFirehose line = .ok m' ∧ Reads m data ∧
      m'.Equal ({ m with data := data }.withProviderMetadata none)

/-- It is enough that what is extracted from a line carries the meta attributes, and data that can
only be decoded to those that come back. -/
lemma firehoseRoundTrips_of_extractData {Reads : Message δ π → δ → Prop} (hschema : v.SchemaEnds)
    (hextract : ∀ (m : Message δ π) (schema line : String) (metaAttrs : MetaAttributes) (x : ξ),
      m.Annotated → StringHeaders m.metadata.headers →
      v.encodePayloadFirehose m.type m.version (v.metaAttributes m schema) m.data = .ok line →
      v.extractDataFirehose line = .ok (metaAttrs, x) →
      SingleLine line ∧ metaAttrs.Carries m schema ∧
        ∀ d, v.decodeData metaAttrs m.type m.version x = .ok d → Reads m d) :
    v.FirehoseRoundTrips Reads := by
  intro m line htype hannotated hstrings hserialize
  obtain ⟨schema, henc, hline, m', hcheck⟩ := v.serializeFirehose_eq_ok.mp hserialize
  obtain ⟨metaAttrs, x, messageType, version, d, hx, hdecode, hdata, rfl⟩ :=
    v.deserializeFirehose_eq_ok.mp hcheck
  obtain ⟨hsingle, hcarries, hd⟩ :=
    hextract m schema line metaAttrs x hannotated hstrings hline hx
  obtain ⟨rfl, rfl⟩ := v.type_of_carries hschema htype henc hcarries hdecode
  exact ⟨hsingle, _, d, hcheck, hd d hdata, equal_of_carries hcarries d none⟩

end HedwigBaseValidator

/-! ## The JSON schema validator -/

/-- What `json` promises of reading: a document that was printed is read back, with the last value
of every name. -/
def JsonLib.LoadsLast (json : JsonLib) : Prop :=
  ∀ o s, o.IsDocument → json.encode o = .ok s → json.loads s = .ok o.lastWins

/-- What `json` promises of its texts: a document is written without white space, and in string
literals all but the printable characters are escaped. -/
def JsonLib.WritesText (json : JsonLib) : Prop :=
  ∃ number : String → List Char, (∀ t, JsonText.Printable (number t)) ∧
    ∀ o s, o.IsDocument → json.encode o = .ok s → s.toList = JsonText.text number o

/-- The text of a document is a single line. -/
lemma JsonLib.WritesText.singleLine {json : JsonLib} (h : json.WritesText) {o : PyObj} {s : String}
    (ho : o.IsDocument) (hs : json.encode o = .ok s) : SingleLine s := by
  obtain ⟨number, hnumber, htext⟩ := h
  have hprintable := JsonText.printable_text hnumber o
  rw [← htext o s ho hs] at hprintable
  exact ⟨fun hc => absurd (hprintable _ hc) (by decide),
    fun hc => absurd (hprintable _ hc) (by decide)⟩

namespace JSONSchemaValidator

variable (v : JSONSchemaValidator) {π : Type}

/-- In a container only the data are changed by the encoder. -/
lemma normalise_container {m : Message PyObj π} {schema : String} {data : PyObj}
    {base : HedwigBaseValidator PyObj PyObj} (hannotated : m.Annotated)
    (hstrings : StringHeaders m.metadata.headers) :
    normalise v.json (container (base.metaAttributes m schema) data) =
      (normalise v.json data).map (container (base.metaAttributes m schema)) := by
  obtain ⟨id, hid⟩ := hannotated.id
  obtain ⟨t, ht⟩ := hannotated.timestamp
  obtain ⟨publisher, hp⟩ := hannotated.publisher
  have hheaders := normalise_of_isJson v.json _ hstrings.isJson
  cases h : normalise v.json data <;>
    simp [container, HedwigBaseValidator.metaAttributes, normalise, normaliseFields, hid, ht, hp,
      hheaders, h, bind, Except.bind, pure, Except.pure, Except.map]

/-- The data that come back: what is read of the document that the encoder prints for the data of
the message, with its leaves of other classes replaced and its keys made strings. -/
def Reads (m : Message PyObj π) (data : PyObj) : Prop :=
  ∃ document, normalise v.json m.data = .ok document ∧ data = document.lastWins

/-- A JSON value comes back as it is. -/
lemma reads_iff_of_isJson {m : Message PyObj π} {data : PyObj} (h : m.data.IsJson) :
    v.Reads m data ↔ data = m.data := by
  simp only [Reads, normalise_of_isJson v.json m.data h, Except.ok.injEq, exists_eq_left',
    PyObj.lastWins_of_isJson m.data h]

/-- A message is written as the message with the document that is printed for its data. -/
lemma serializeFirehose_of_normalise {m : Message PyObj π} {document : PyObj}
    (hannotated : m.Annotated) (hstrings : StringHeaders m.metadata.headers)
    (hdata : normalise v.json m.data = .ok document) (hdocument : document.IsJson) :
    v.toBase.serializeFirehose m = v.toBase.serializeFirehose { m with data := document } := by
  have hencode : ∀ schema, v.encodePayloadFirehose (v.toBase.metaAttributes m schema) m.data =
      v.encodePayloadFirehose (v.toBase.metaAttributes m schema) document := by
    intro schema
    simp only [encodePayloadFirehose, encodePayloadHelper, jsonDumps,
      v.normalise_container hannotated hstrings, hdata, normalise_of_isJson v.json _ hdocument]
  simp only [HedwigBaseValidator.serializeFirehose]
  refine congrArg (v.toBase.encodeMessageType m.type m.version >>= ·) (funext fun schema => ?_)
  exact congrArg (· >>= _) (hencode schema)

/-- In a container that is read back, only the data may have lost repeated keys. -/
lemma lastWins_container_metaAttributes {m : Message PyObj π} {schema : String}
    {document : PyObj} (hannotated : m.Annotated) (hstrings : StringHeaders m.metadata.headers) :
    (container (v.toBase.metaAttributes m schema) document).lastWins =
      container (v.toBase.metaAttributes m schema) document.lastWins := by
  obtain ⟨id, hid⟩ := hannotated.id
  obtain ⟨t, ht⟩ := hannotated.timestamp
  obtain ⟨publisher, hp⟩ := hannotated.publisher
  rw [HedwigBaseValidator.metaAttributes, lastWins_container hstrings.isJson, hid, ht, hp]
  rfl

/-- **The JSON schema validator** round-trips messages over firehose lines.

**Proof sketch.**  The encoder turns the container of the message into the container of the
document of its data, which is a document.  So its text is a single line, and is read back as that
container with the last value of every key.  The fields other than the data have no key twice. -/
lemma firehoseRoundTrips (hjson : v.json.LoadsLast) (htext : v.json.WritesText) :
    v.toBase.FirehoseRoundTrips (v.Reads (π := π)) := by
  refine v.toBase.firehoseRoundTrips_of_extractData v.schemaEnds ?_
  intro m schema line metaAttrs x hannotated hstrings hencode hextract
  change v.encodePayloadFirehose _ m.data = .ok line at hencode
  change v.extractDataHelper line .empty false = _ at hextract
  simp only [encodePayloadFirehose, encodePayloadHelper, jsonDumps, bind_eq_ok] at hencode
  obtain ⟨_, ⟨text, ⟨printed, hprinted, hline⟩, hresult⟩, hreturn⟩ := hencode
  obtain rfl := Except.ok.inj hresult
  obtain rfl : text = line := Except.ok.inj hreturn
  have hdocument := isDocument_normalise _ _ hprinted
  rw [v.normalise_container hannotated hstrings] at hprinted
  obtain ⟨document, hdata, rfl⟩ := map_eq_ok.mp hprinted
  have hloads := hjson _ _ hdocument hline
  rw [v.lastWins_container_metaAttributes hannotated hstrings] at hloads
  obtain ⟨rfl, rfl⟩ := v.extract_container hloads hextract
  exact ⟨htext.singleLine hdocument hline, v.carries_of_container hannotated,
    fun d hd => ⟨document, hdata, v.eq_of_decodeData hd⟩⟩

end JSONSchemaValidator

/-! ## The protobuf validators -/

/-- What the protobuf runtime promises of an `Any`: it is of the class of the message that was
packed, a message of the application is no `Value`, and a `Value` with a string is unpacked to that
string. -/
structure ProtoLib.Packs (lib : ProtoLib) : Prop where
  is : ∀ m a, lib.pack m = .ok a → lib.is a (lib.classOf m) = true
  isValue : ∀ m a, lib.pack m = .ok a → lib.isValue a = false
  packValue : ∀ s a, lib.packValue s = .ok a →
    lib.isValue a = true ∧ lib.unpackValue a = .ok (some s)

/-- What the protobuf runtime promises of the JSON text of a container: in string literals a
carriage return is escaped. -/
def ProtoLib.EscapesControls (lib : ProtoLib) : Prop :=
  ∀ p s, lib.payloadCodec.messageToJson p = .ok s → '\r' ∉ s.toList

/-- Without its line feeds a text has none. -/
lemma singleLine_dropLineFeeds {s : String} (h : '\r' ∉ s.toList) :
    SingleLine (dropLineFeeds s) := by
  rw [SingleLine, dropLineFeeds, String.toList_ofList]
  exact ⟨fun hc => absurd (List.mem_filter.mp hc).2 (by decide),
    fun hc => h (List.mem_filter.mp hc).1⟩

namespace ProtobufValidator

variable {lib : ProtoLib} (v : ProtobufValidator lib) {π : Type}

/-- The minor version of a registered class is known up to the declared one. -/
lemma verifyKnownMinorVersion_eq_ok {messageType : String} {version : StrictVersion} {cls : lib.Cls}
    (hcls : v.protoMessages.get? (messageType, version.major) = some cls) :
    v.verifyKnownMinorVersion messageType version = .ok () ↔
      version.minor ≤ lib.minorVersion cls := by
  have hclass := v.messageClass_eq_ok.mpr hcls
  by_cases hminor : lib.minorVersion cls < version.minor
  · simp [verifyKnownMinorVersion, hclass, bind, Except.bind, hminor]
  · simp [verifyKnownMinorVersion, hclass, bind, Except.bind, hminor, Nat.not_lt.mp hminor]

/-- A version that is not known is refused with a validation error. -/
lemma isInstance_of_verifyKnownMinorVersion {messageType : String} {version : StrictVersion}
    {e : PyException} (h : v.verifyKnownMinorVersion messageType version = .error e) :
    e.isInstance .validationError = true := by
  rcases bind_eq_error.mp h with hclass | ⟨cls, -, hminor⟩
  · rw [messageClass] at hclass
    split at hclass
    · cases hclass
    · rw [← Except.error.inj hclass]
      rfl
  · split_ifs at hminor
    rw [← Except.error.inj hminor]
    rfl

/-- What is packed for a firehose line: the data if their minor version is known, and a `Value` if
it is not, or the data cannot be packed. -/
lemma packFirehose_eq_ok {messageType : String} {version : StrictVersion} {data : lib.Msg}
    {a : lib.Any} (h : v.packFirehose messageType version data = .ok a) :
    (v.verifyKnownMinorVersion messageType version = .ok () ∧ lib.pack data = .ok a) ∨
      (v.verifyKnownMinorVersion messageType version ≠ .ok () ∨ ∀ a, lib.pack data ≠ .ok a) ∧
        ∃ bytes, (lib.codec (lib.classOf data)).serializeToString data = .ok bytes ∧
          lib.packValue (Base64.b64encode bytes) = .ok a := by
  rw [packFirehose] at h
  split at h
  · rename_i a' hpack
    obtain rfl := Except.ok.inj h
    obtain ⟨_, hverify, hpack⟩ := bind_eq_ok.mp hpack
    exact .inl ⟨hverify, hpack⟩
  · rename_i e hfails
    split_ifs at h
    obtain ⟨bytes, hbytes, hvalue⟩ := bind_eq_ok.mp h
    refine .inr ⟨?_, bytes, hbytes, hvalue⟩
    rcases bind_eq_error.mp hfails with hunknown | ⟨_, -, hpack⟩
    · exact .inl fun hknown => by cases hknown.symm.trans hunknown
    · exact .inr fun a ha => by cases ha.symm.trans hpack

/-- The data that are found in a line are those that were packed, or their bytes. -/
lemma firehoseData_of_pack (hpacks : lib.Packs) {data : lib.Msg} {a : lib.Any}
    (h : lib.pack data = .ok a) : firehoseData a = .ok (.any a) := by
  rw [firehoseData, if_neg]
  simp [hpacks.isValue data a h]

/-- The bytes that were written in base64 are found in a line. -/
lemma firehoseData_of_packValue (hpacks : lib.Packs) {bytes : List UInt8} {a : lib.Any}
    (h : lib.packValue (Base64.b64encode bytes) = .ok a) :
    firehoseData a = .ok (.payload (.bytes bytes)) := by
  obtain ⟨hvalue, hunpack⟩ := hpacks.packValue _ a h
  rw [firehoseData, if_pos hvalue]
  refine bind_eq_ok.mpr ⟨_, hunpack, ?_⟩
  simp only [Base64.decodebytes_b64encode]

/-- What is extracted from the line of a message: its meta attributes, and the data that are found
in what was packed. -/
lemma extract_of_encodePayloadFirehose (hlib : lib.RoundTrips) (hcontrols : lib.EscapesControls)
    {m : Message lib.Msg π} {schema line : String} {metaAttrs : MetaAttributes}
    {x : ProtoData lib} (hannotated : m.Annotated) (hstrings : StringHeaders m.metadata.headers)
    (hencode : v.encodePayloadFirehose m.type m.version (v.toBase.metaAttributes m schema) m.data =
      .ok line)
    (hextract : extractDataFirehose line = .ok (metaAttrs, x)) :
    SingleLine line ∧ metaAttrs.Carries m schema ∧
      ∃ a, v.packFirehose m.type m.version m.data = .ok a ∧ firehoseData a = .ok x := by
  simp only [encodePayloadFirehose, encodeProtoJson, bind_eq_ok] at hencode
  obtain ⟨p, hnew, text, htext, hreturn⟩ := hencode
  obtain rfl := Except.ok.inj hreturn
  obtain ⟨p', hparse, hsame⟩ := hlib.payloads.json p text trivial htext
  have hproto : decodeProtoJson lib.payloadCodec (.str (dropLineFeeds text)) = .ok p' :=
    (hlib.payloads.lineFeeds p text trivial htext).trans hparse
  simp only [extractDataFirehose, bind_eq_ok, catchDecodingErrors_eq_ok, hproto, Except.ok.injEq,
    exists_eq_left'] at hextract
  obtain ⟨x', hx, metaAttrs', hmeta, hreturn⟩ := hextract
  obtain ⟨rfl, rfl⟩ : metaAttrs' = metaAttrs ∧ x' = x := by
    simpa [pure, Except.pure] using hreturn
  obtain ⟨hcarries, hpack⟩ := carries_of_newPayload hlib hannotated hstrings hnew hsame hmeta
  exact ⟨singleLine_dropLineFeeds (hcontrols p text htext), hcarries, _, hpack, hx⟩

/-- The data that come back, read as a message of the class that is registered for the message:
the data of the message unpacked from an `Any`, if the minor version is known and the `Any` is of
that class; their bytes parsed, if the minor version is newer or the data cannot be packed. -/
inductive Reads (m : Message lib.Msg π) (d : lib.Msg) : Prop
  | any {cls : lib.Cls} {a : lib.Any}
      (registered : v.protoMessages.get? (m.type, m.version.major) = some cls)
      (known : m.version.minor ≤ lib.minorVersion cls) (pack : lib.pack m.data = .ok a)
      (is : lib.is a cls = true) (unpack : lib.unpack a cls = .ok d)
  | bytes {cls : lib.Cls} {bytes : List UInt8}
      (registered : v.protoMessages.get? (m.type, m.version.major) = some cls)
      (newer : lib.minorVersion cls < m.version.minor ∨ ∀ a, lib.pack m.data ≠ .ok a)
      (serialize : (lib.codec (lib.classOf m.data)).serializeToString m.data = .ok bytes)
      (parse : (lib.codec cls).parseFromString bytes = .ok d)

/-- An instance of the registered class comes back as it is. -/
lemma eq_of_reads (hlib : lib.RoundTrips) {m : Message lib.Msg π} {d : lib.Msg}
    (hcls : v.protoMessages.get? (m.type, m.version.major) = some (lib.classOf m.data))
    (h : v.Reads m d) : d = m.data := by
  cases h with
  | any registered known pack is unpack =>
    obtain rfl := Option.some.inj (hcls.symm.trans registered)
    exact Except.ok.inj (unpack.symm.trans (hlib.unpack _ _ pack))
  | bytes registered newer serialize parse =>
    obtain rfl := Option.some.inj (hcls.symm.trans registered)
    obtain ⟨m', hparse, rfl⟩ := (hlib.messages _).binary m.data _ rfl serialize
    exact Except.ok.inj (parse.symm.trans hparse)

/-- What is decoded from the line of a message comes back for its data. -/
lemma reads_of_decodeMessage (hpacks : lib.Packs) (hwire : v.wire = .binary ∨ v.wire = .json)
    {m : Message lib.Msg π} {cls : lib.Cls} {d : lib.Msg} {a : lib.Any} {x : ProtoData lib}
    (hcls : v.protoMessages.get? (m.type, m.version.major) = some cls)
    (hpack : v.packFirehose m.type m.version m.data = .ok a) (hx : firehoseData a = .ok x)
    (hd : v.decodeMessage cls x = .ok d) : v.Reads m d := by
  rcases v.packFirehose_eq_ok hpack with ⟨hverify, hpack⟩ | ⟨hnewer, bytes, hbytes, hvalue⟩
  · obtain rfl := Except.ok.inj ((firehoseData_of_pack hpacks hpack).symm.trans hx)
    simp only [decodeMessage, bind_eq_ok] at hd
    obtain ⟨_, his, hunpack⟩ := hd
    exact .any hcls ((v.verifyKnownMinorVersion_eq_ok hcls).mp hverify) hpack
      (pyAssert_eq_ok.mp his) hunpack
  · obtain rfl := Except.ok.inj ((firehoseData_of_packValue hpacks hvalue).symm.trans hx)
    change v.wire.decodeProto (lib.codec cls) (.bytes bytes) = .ok d at hd
    rcases hwire with hwire | hwire
    · rw [hwire] at hd
      refine .bytes hcls (hnewer.imp_left fun hunknown => ?_) hbytes hd
      rw [← Nat.not_le, ← v.verifyKnownMinorVersion_eq_ok hcls]
      exact hunknown
    · rw [hwire] at hd
      cases hd

/-- **The protobuf validators** round-trip messages over firehose lines.

**Proof sketch.**  The container is read back as it was written, so the data found in it are the
`Any` that was packed, or the bytes in its `Value`.  In either case they are decoded as a message of
the class that is registered for the type of the message, which is read back too. -/
lemma firehoseRoundTrips (hlib : lib.RoundTrips) (hpacks : lib.Packs)
    (hcontrols : lib.EscapesControls) (hwire : v.wire = .binary ∨ v.wire = .json) :
    v.toBase.FirehoseRoundTrips (v.Reads (π := π)) := by
  refine v.toBase.firehoseRoundTrips_of_extractData v.schemaEnds ?_
  intro m schema line metaAttrs x hannotated hstrings hencode hextract
  obtain ⟨hsingle, hcarries, a, hpack, hx⟩ := v.extract_of_encodePayloadFirehose hlib hcontrols
    hannotated hstrings hencode hextract
  refine ⟨hsingle, hcarries, fun d hd => ?_⟩
  obtain ⟨cls, hcls, hd⟩ := v.decodeData_eq_ok.mp hd
  exact v.reads_of_decodeMessage hpacks hwire hcls hpack hx hd

/-! ### When a line is written -/

/-- A type that is not empty and a version that was read are decoded from their schema. -/
lemma decodeMessageType_of_schema {messageType : String} {version : StrictVersion}
    (ht : '/' ∉ messageType.toList) (hne : messageType ≠ "")
    (hversion : ∃ s, StrictVersion.parse s = some version) :
    decodeMessageType (.str (String.ofList (messageType.toList ++ '/' :: version.chars))) =
      .ok (messageType, version) := by
  obtain ⟨s, hs⟩ := hversion
  have hparse := StrictVersion.parse_str_of_parse hs
  have hsearch : schemaReSearch (messageType.toList ++ '/' :: version.chars) =
      some (messageType.toList, version.chars) := by
    cases hchars : messageType.toList with
    | nil => exact absurd (String.toList_inj.mp hchars) hne
    | cons c cs =>
      rw [hchars] at ht
      rw [List.cons_append, schemaReSearch, ← List.cons_append, schemaReMatch_append ht,
        if_pos ⟨by simp, version.chars_ne_nil, version.slash_notMem_chars⟩]
  exact decodeMessageType_eq_ok.mpr ⟨version.chars, by rw [String.toList_ofList, hsearch], hparse⟩

end ProtobufValidator

/-- Milliseconds from the year 1 to the year 9999, the range of a protobuf timestamp. -/
def InTimestampRange (t : ℤ) : Prop := -62135596800000 ≤ t ∧ t ≤ 253402300799999

/-- What the protobuf runtime promises to write: the complete messages, timestamps in their range,
and containers with such a timestamp and a complete message or a `Value`. -/
structure ProtoLib.Writes (lib : ProtoLib) (Complete : lib.Msg → Prop) : Prop where
  serializeToString : ∀ m, Complete m →
    ∃ b, (lib.codec (lib.classOf m)).serializeToString m = .ok b
  pack : ∀ m, Complete m → ∃ a, lib.pack m = .ok a
  packValue : ∀ s, ∃ a, lib.packValue s = .ok a
  fromMilliseconds : ∀ t, InTimestampRange t → ∃ ts, lib.fromMilliseconds (.int t) = .ok ts
  messageToJson : ∀ p : lib.Payload, (∃ t, lib.fromMilliseconds t = .ok p.timestamp) →
    ((∃ m, Complete m ∧ lib.pack m = .ok p.data) ∨ ∃ s, lib.packValue s = .ok p.data) →
    ∃ s, lib.payloadCodec.messageToJson p = .ok s

namespace ProtobufValidator

variable {lib : ProtoLib} (v : ProtobufValidator lib) {π : Type}

/-- A message under a registered class, in whatever minor version, as the firehose encoder expects
it: a type without slashes, a version that was read, fields of the annotated types, string headers,
a timestamp in range, and complete data. -/
structure Writable (Complete : lib.Msg → Prop) (cls : lib.Cls) (m : Message lib.Msg π) : Prop where
  type : '/' ∉ m.type.toList
  version : ∃ s, StrictVersion.parse s = some m.version
  annotated : m.Annotated
  headers : StringHeaders m.metadata.headers
  timestamp : ∃ t, m.metadata.timestamp = .int t ∧ InTimestampRange t
  registered : v.protoMessages.get? (m.type, m.version.major) = some cls
  complete : Complete m.data

/-- The constructor returns the validator, for some declarations and some tables. -/
def Constructed : Prop :=
  ∃ (τ φ : Type) (decl : ProtoOptions lib) (protoMessages : List lib.Cls)
    (messageRouting : PyDict (String × String) τ) (callbacks : PyDict (String × String) φ),
    new decl v.wire v.useTransportMessageAttributes protoMessages messageRouting callbacks = .ok v

/-- No class is registered under an empty type. -/
lemma Constructed.type_ne {v : ProtobufValidator lib} (hv : v.Constructed) {key : String × ℕ}
    {cls : lib.Cls} (hcls : v.protoMessages.get? key = some cls) : key.1 ≠ "" := by
  obtain ⟨_, _, decl, protoMessages, _, _, hnew⟩ := hv
  exact ((get?_of_new hnew).mp hcls).2.type_ne

section

variable {v} {Complete : lib.Msg → Prop} {cls : lib.Cls} {m : Message lib.Msg π}

/-- The data are packed, as they are in a known minor version, else as a `Value`. -/
lemma Writable.exists_packFirehose (hm : v.Writable Complete cls m)
    (hwrites : lib.Writes Complete) :
    (m.version.minor ≤ lib.minorVersion cls ∧
        ∃ a, v.packFirehose m.type m.version m.data = .ok a ∧ lib.pack m.data = .ok a) ∨
      lib.minorVersion cls < m.version.minor ∧
        ∃ a bytes, v.packFirehose m.type m.version m.data = .ok a ∧
          (lib.codec (lib.classOf m.data)).serializeToString m.data = .ok bytes ∧
          lib.packValue (Base64.b64encode bytes) = .ok a := by
  cases hverify : v.verifyKnownMinorVersion m.type m.version with
  | ok _ =>
    obtain ⟨a, ha⟩ := hwrites.pack m.data hm.complete
    refine .inl ⟨(v.verifyKnownMinorVersion_eq_ok hm.registered).mp hverify, a, ?_, ha⟩
    simp only [packFirehose, hverify, bind, Except.bind, ha]
  | error e =>
    have hminor : ¬ m.version.minor ≤ lib.minorVersion cls := by
      rw [← v.verifyKnownMinorVersion_eq_ok hm.registered, hverify]
      simp
    obtain ⟨bytes, hbytes⟩ := hwrites.serializeToString m.data hm.complete
    obtain ⟨a, ha⟩ := hwrites.packValue (Base64.b64encode bytes)
    refine .inr ⟨Nat.not_le.mp hminor, a, bytes, ?_, hbytes, ha⟩
    simp only [packFirehose, hverify, bind, Except.bind,
      v.isInstance_of_verifyKnownMinorVersion hverify, if_true, hbytes, ha]

/-- A line is written for the packed data, and its parts are extracted from it again. -/
lemma Writable.exists_line (hm : v.Writable Complete cls m) (hne : m.type ≠ "")
    (hlib : lib.RoundTrips) (hwrites : lib.Writes Complete) {a : lib.Any} {x : ProtoData lib}
    (hpack : v.packFirehose m.type m.version m.data = .ok a) (hx : firehoseData a = .ok x) :
    ∃ schema line metaAttrs, v.toBase.encodeMessageType m.type m.version = .ok schema ∧
      v.encodePayloadFirehose m.type m.version (v.toBase.metaAttributes m schema) m.data =
        .ok line ∧
      extractDataFirehose line = .ok (metaAttrs, x) ∧
      decodeMessageType metaAttrs.schema = .ok (m.type, m.version) := by
  obtain ⟨id, hid⟩ := hm.annotated.id
  obtain ⟨publisher, hp⟩ := hm.annotated.publisher
  obtain ⟨t, ht, hrange⟩ := hm.timestamp
  obtain ⟨d, hd, hstrings⟩ := hm.headers
  obtain ⟨ts, hts⟩ := hwrites.fromMilliseconds t hrange
  obtain ⟨headers, hassign⟩ := exists_assignHeaders hlib hstrings .empty
  let schema := String.ofList (m.type.toList ++ '/' :: m.version.chars)
  let p : lib.Payload :=
    ⟨currentFormatVersion.str, id, publisher, ts, headers, schema, a⟩
  have hnew : newPayload lib (v.toBase.metaAttributes m schema)
      (v.packFirehose m.type m.version m.data) = .ok p := by
    simp only [newPayload, HedwigBaseValidator.metaAttributes, hid, hp, ht, hd, hpack,
      hlib.strings, hts, strOf_str, getItems, ofDict, hassign, bind, Except.bind, pure,
      Except.pure, p]
  obtain ⟨text, htext⟩ := hwrites.messageToJson p ⟨_, hts⟩ <| by
    rcases v.packFirehose_eq_ok hpack with ⟨-, hpack⟩ | ⟨-, bytes, -, hvalue⟩
    · exact .inl ⟨m.data, hm.complete, hpack⟩
    · exact .inr ⟨_, hvalue⟩
  obtain ⟨p', hparse, hfields, -⟩ := hlib.payloads.json p text trivial htext
  have hproto : decodeProtoJson lib.payloadCodec (.str (dropLineFeeds text)) = .ok p' :=
    (hlib.payloads.lineFeeds p text trivial htext).trans hparse
  have htimestamp : lib.toMilliseconds p'.timestamp = .ok t := by
    rw [hfields]
    exact hlib.timestamps t ts hts
  have hdata : firehoseData p'.data = .ok x := by
    rw [hfields]
    exact hx
  obtain ⟨metaAttrs, hmeta, -, hschema⟩ := exists_containerMetaAttributes htimestamp
  have hschema' : metaAttrs.schema = .str schema := by
    rw [hschema, hfields]
  refine ⟨schema, dropLineFeeds text, metaAttrs, v.encodeMessageType_eq _ _,
    bind_eq_ok.mpr ⟨p, hnew, bind_eq_ok.mpr ⟨text, htext, rfl⟩⟩, ?_, ?_⟩
  · exact bind_eq_ok.mpr ⟨p', catchDecodingErrors_eq_ok.mpr hproto,
      bind_eq_ok.mpr ⟨x, hdata, bind_eq_ok.mpr ⟨metaAttrs, hmeta, rfl⟩⟩⟩
  · rw [hschema']
    exact decodeMessageType_of_schema hm.type hne hm.version

/-- The line is returned if the data in it are decoded. -/
lemma Writable.exists_serializeFirehose (hm : v.Writable Complete cls m) (hne : m.type ≠ "")
    (hlib : lib.RoundTrips) (hwrites : lib.Writes Complete) {a : lib.Any} {x : ProtoData lib}
    {d : lib.Msg} (hpack : v.packFirehose m.type m.version m.data = .ok a)
    (hx : firehoseData a = .ok x) (hd : v.decodeMessage cls x = .ok d) :
    ∃ line, v.toBase.serializeFirehose m = .ok line := by
  obtain ⟨schema, line, metaAttrs, hschema, hencode, hextract, htype⟩ :=
    hm.exists_line hne hlib hwrites hpack hx
  have hdata : v.toBase.decodeData metaAttrs m.type m.version x = .ok d :=
    v.decodeData_eq_ok.mpr ⟨cls, hm.registered, hd⟩
  exact ⟨line, v.toBase.serializeFirehose_eq_ok.mpr ⟨schema, hschema, hencode, _,
    v.toBase.deserializeFirehose_eq_ok.mpr
      ⟨metaAttrs, x, m.type, m.version, d, hextract, htype, hdata, rfl⟩⟩⟩

/-- In a known minor version a line is returned. -/
lemma Writable.exists_serializeFirehose_known
    (hm : v.Writable Complete (lib.classOf m.data) m) (hne : m.type ≠ "")
    (hlib : lib.RoundTrips) (hpacks : lib.Packs) (hwrites : lib.Writes Complete)
    (hminor : m.version.minor ≤ lib.minorVersion (lib.classOf m.data)) :
    ∃ line, v.toBase.serializeFirehose m = .ok line := by
  rcases hm.exists_packFirehose hwrites with ⟨-, a, ha, hpack⟩ | ⟨hunknown, -⟩
  · refine hm.exists_serializeFirehose hne hlib hwrites ha (firehoseData_of_pack hpacks hpack)
      (d := m.data) (bind_eq_ok.mpr ⟨(), ?_, hlib.unpack _ _ hpack⟩)
    rw [pyAssert, if_pos (hpacks.is _ _ hpack)]
  · exact absurd hminor (Nat.not_le.mpr hunknown)

/-- The binary validator returns a line in every minor version. -/
lemma Writable.exists_serializeFirehose_binary
    (hm : v.Writable Complete (lib.classOf m.data) m) (hne : m.type ≠ "")
    (hlib : lib.RoundTrips) (hpacks : lib.Packs) (hwrites : lib.Writes Complete)
    (hwire : v.wire = .binary) : ∃ line, v.toBase.serializeFirehose m = .ok line := by
  rcases hm.exists_packFirehose hwrites with ⟨hminor, -⟩ | ⟨-, a, bytes, ha, hbytes, hvalue⟩
  · exact hm.exists_serializeFirehose_known hne hlib hpacks hwrites hminor
  · obtain ⟨d, hparse, rfl⟩ :=
      (hlib.messages (lib.classOf m.data)).binary m.data bytes rfl hbytes
    refine hm.exists_serializeFirehose hne hlib hwrites ha
      (firehoseData_of_packValue hpacks hvalue) (d := m.data) ?_
    change v.wire.decodeProto _ (.bytes bytes) = _
    rw [hwire]
    exact hparse

/-- A line with a newer minor version is not decoded by the JSON-format validator: it finds bytes
where its codec expects text. -/
lemma Writable.deserializeFirehose_newer (hm : v.Writable Complete cls m) (hlib : lib.RoundTrips)
    (hpacks : lib.Packs) (hcontrols : lib.EscapesControls) (hwire : v.wire = .json)
    (hminor : lib.minorVersion cls < m.version.minor) {schema line : String}
    (hencode : v.encodePayloadFirehose m.type m.version (v.toBase.metaAttributes m schema) m.data =
      .ok line) (m' : Message lib.Msg π) : v.toBase.deserializeFirehose line ≠ .ok m' := by
  intro h
  obtain ⟨metaAttrs, x, messageType, version, d, hextract, -, hdata, -⟩ :=
    v.toBase.deserializeFirehose_eq_ok.mp h
  obtain ⟨-, -, a, hpack, hx⟩ := v.extract_of_encodePayloadFirehose hlib hcontrols hm.annotated
    hm.headers hencode hextract
  rcases v.packFirehose_eq_ok hpack with ⟨hverify, -⟩ | ⟨-, bytes, -, hvalue⟩
  · have hknown := (v.verifyKnownMinorVersion_eq_ok hm.registered).mp hverify
    exact absurd hknown (Nat.not_le.mpr hminor)
  · obtain rfl := Except.ok.inj ((firehoseData_of_packValue hpacks hvalue).symm.trans hx)
    obtain ⟨cls', -, hd⟩ := v.decodeData_eq_ok.mp hdata
    change v.wire.decodeProto (lib.codec cls') (.bytes bytes) = .ok d at hd
    rw [hwire] at hd
    cases hd

end

/-- A validator writes a line for a message that another one reads back. -/
def ReadsLineOf (v w : ProtobufValidator lib) (m : Message lib.Msg π) : Prop :=
  ∃ line, w.toBase.serializeFirehose m = .ok line ∧
    ∃ m', v.toBase.deserializeFirehose line = .ok m' ∧ m'.Equal (m.withProviderMetadata none)

/-- In a newer minor version the JSON-format validator reads neither its own line nor that of the
binary validator. -/
lemma Writable.not_readsLineOf {v : ProtobufValidator lib} {Complete : lib.Msg → Prop}
    {cls : lib.Cls} {m : Message lib.Msg π} (hm : v.Writable Complete cls m)
    (hlib : lib.RoundTrips) (hpacks : lib.Packs) (hcontrols : lib.EscapesControls)
    (hwire : v.wire = .json) (hminor : lib.minorVersion cls < m.version.minor) :
    ¬ v.ReadsLineOf v m ∧ ¬ v.ReadsLineOf { v with wire := .binary } m := by
  constructor
  · rintro ⟨line, hline, m', hm', -⟩
    obtain ⟨schema, -, hencode, -⟩ := v.toBase.serializeFirehose_eq_ok.mp hline
    exact hm.deserializeFirehose_newer hlib hpacks hcontrols hwire hminor hencode m' hm'
  · rintro ⟨line, hline, m', hm', -⟩
    obtain ⟨schema, -, hencode, -⟩ :=
      (ProtobufValidator.toBase { v with wire := .binary }).serializeFirehose_eq_ok.mp hline
    exact hm.deserializeFirehose_newer hlib hpacks hcontrols hwire hminor hencode m' hm'

end ProtobufValidator

/-! ## The validators over firehose lines -/

/-- **Firehose round trip.**  If the libraries keep their promises, then what the JSON validator and
the binary protobuf validator write for any message with string headers and a type without slashes
is a single line, which is read back as an equal message, with the data that come back: for the JSON
validator the data themselves if they are a JSON value, and their JSON form otherwise; for the
protobuf validator the data themselves if they are an instance of the registered class, and what
they are read as in that class otherwise.  The binary protobuf validator does return a line, in
every minor version, for complete data and a timestamp in range.

**Proof sketch.**  The line was decoded once when it was returned, so only what is extracted from it
has to be followed, which `firehoseRoundTrips` does for each validator.  For the second part the
constructor has registered no empty type, so the schema of the message can be decoded; the data are
packed as they are in a known minor version and as a `Value` in a newer one, and decoded from
either by the registered class. -/
theorem serializeFirehose_roundTrips (π : Type) :
    (∀ v : JSONSchemaValidator, v.json.LoadsLast → v.json.WritesText →
      v.toBase.FirehoseRoundTrips (v.Reads (π := π)) ∧
        ∀ (m : Message PyObj π) (data : PyObj), m.data.IsJson → v.Reads m data →
          data = m.data) ∧
    ∀ (lib : ProtoLib) (v : ProtobufValidator lib), lib.RoundTrips → lib.Packs →
      lib.EscapesControls → v.wire = .binary →
      v.toBase.FirehoseRoundTrips (v.Reads (π := π)) ∧
      (∀ (m : Message lib.Msg π) (data : lib.Msg),
        v.protoMessages.get? (m.type, m.version.major) = some (lib.classOf m.data) →
        v.Reads m data → data = m.data) ∧
      ∀ Complete, lib.Writes Complete → v.Constructed → ∀ m : Message lib.Msg π,
        v.Writable Complete (lib.classOf m.data) m →
          ∃ line, v.toBase.serializeFirehose m = .ok line := by
  constructor
  · intro v hjson htext
    exact ⟨v.firehoseRoundTrips hjson htext, fun m _ hdata => (v.reads_iff_of_isJson hdata).mp⟩
  · intro lib v hlib hpacks hcontrols hwire
    refine ⟨v.firehoseRoundTrips hlib hpacks hcontrols (.inl hwire),
      fun m _ hcls hreads => v.eq_of_reads hlib hcls hreads, ?_⟩
    intro Complete hwrites hv m hm
    exact hm.exists_serializeFirehose_binary (hv.type_ne hm.registered) hlib hpacks hwrites hwire

/-- **Newer minor versions.**  The JSON-format protobuf validator reads back its own line for a
message of a registered class, and the line that the binary validator writes for it, exactly if the
minor version is known.

**Proof sketch.**  In a known minor version both validators write the same line, with the data in an
`Any`, which is unpacked in either wire format.  In a newer one the line holds the bytes of the
data, and the codec of the JSON format asserts that it is given text. -/
theorem serializeFirehose_json_iff {π : Type} {lib : ProtoLib} (v : ProtobufValidator lib)
    {Complete : lib.Msg → Prop} (hlib : lib.RoundTrips) (hpacks : lib.Packs)
    (hcontrols : lib.EscapesControls) (hwrites : lib.Writes Complete) (hv : v.Constructed)
    (hwire : v.wire = .json) (m : Message lib.Msg π)
    (hm : v.Writable Complete (lib.classOf m.data) m) :
    (v.ReadsLineOf v m ↔ m.version.minor ≤ lib.minorVersion (lib.classOf m.data)) ∧
      (v.ReadsLineOf { v with wire := .binary } m ↔
        m.version.minor ≤ lib.minorVersion (lib.classOf m.data)) := by
  have hread : ∀ line, v.toBase.serializeFirehose m = .ok line →
      ∃ m', v.toBase.deserializeFirehose line = .ok m' ∧
        m'.Equal (m.withProviderMetadata none) := by
    intro line hline
    obtain ⟨-, m', data, hm', hreads, hequal⟩ := v.firehoseRoundTrips hlib hpacks hcontrols
      (.inr hwire) m line hm.type hm.annotated hm.headers hline
    obtain rfl := v.eq_of_reads hlib hm.registered hreads
    exact ⟨m', hm', hequal⟩
  have hne := hv.type_ne hm.registered
  have hnot (hnewer : ¬ m.version.minor ≤ lib.minorVersion (lib.classOf m.data)) :=
    hm.not_readsLineOf hlib hpacks hcontrols hwire (Nat.not_le.mp hnewer)
  refine ⟨⟨fun hreads => ?_, fun hminor => ?_⟩, ⟨fun hreads => ?_, fun hminor => ?_⟩⟩
  · by_contra hnewer
    exact (hnot hnewer).1 hreads
  · obtain ⟨line, hline⟩ :=
      hm.exists_serializeFirehose_known hne hlib hpacks hwrites hminor
    exact ⟨line, hline, hread line hline⟩
  · by_contra hnewer
    exact (hnot hnewer).2 hreads
  · -- in a known minor version the two validators write the same line
    obtain ⟨line, hline⟩ :=
      hm.exists_serializeFirehose_known hne hlib hpacks hwrites hminor
    have hm' : ProtobufValidator.Writable { v with wire := .binary } Complete
        (lib.classOf m.data) m :=
      ⟨hm.type, hm.version, hm.annotated, hm.headers, hm.timestamp, hm.registered, hm.complete⟩
    obtain ⟨line', hline'⟩ :=
      hm'.exists_serializeFirehose_known hne hlib hpacks hwrites hminor
    obtain ⟨schema, hschema, hencode, -⟩ := v.toBase.serializeFirehose_eq_ok.mp hline
    obtain ⟨schema', hschema', hencode', -⟩ :=
      (ProtobufValidator.toBase { v with wire := .binary }).serializeFirehose_eq_ok.mp hline'
    obtain rfl : schema = schema' := Except.ok.inj (hschema.symm.trans hschema')
    obtain rfl : line = line' := Except.ok.inj (hencode.symm.trans hencode')
    exact ⟨line, hline', hread line hline⟩

/-! ## Sample messages -/

/-- The JSON codec of the sample trip reads and prints like `json`. -/
lemma sampleTripLib_loadsLast : sampleTripLib.LoadsLast := by
  intro o s _ h
  obtain ⟨rfl, rfl⟩ := encode_sampleTripLib h
  have hisJson : sampleTrip.IsJson := by simp [sampleTrip, PyObj.IsJson, PyObj.IsJsonFields]
  rw [PyObj.lastWins_of_isJson _ hisJson]
  simp only [sampleTripLib, if_true]

/-- It prints like `json`, too. -/
lemma sampleTripLib_writesText : sampleTripLib.WritesText := by
  refine ⟨fun _ => [], fun _ _ hc => absurd hc List.not_mem_nil, fun o s _ h => ?_⟩
  obtain ⟨rfl, rfl⟩ := encode_sampleTripLib h
  rw [sampleText, String.toList_ofList]

/-- The fields of a container: its strings, its timestamp, its headers and its data. -/
structure SampleFields where
  strings : List String
  timestamp : ℤ
  headers : List (String × String)
  data : SampleClass ⊕ String
  deriving DecidableEq

/-- The fields that a container has. -/
def sampleFields (p : PayloadV1 (SampleClass ⊕ String) ℤ) : SampleFields :=
  ⟨[p.formatVersion, p.id, p.publisher, p.schema], p.timestamp, p.headers.items, p.data⟩

/-- The container that has these fields. -/
def ofSampleFields : SampleFields → PayloadV1 (SampleClass ⊕ String) ℤ
  | ⟨[formatVersion, id, publisher, schema], timestamp, headers, data⟩ =>
    ⟨formatVersion, id, publisher, timestamp, .ofList headers, schema, data⟩
  | ⟨_, timestamp, headers, data⟩ => ⟨"", "", "", timestamp, .ofList headers, "", data⟩

/-- A container is its fields. -/
lemma ofSampleFields_sampleFields (p : PayloadV1 (SampleClass ⊕ String) ℤ) :
    ofSampleFields (sampleFields p) = p := by
  simp only [ofSampleFields, sampleFields, PyDict.ofList_items]

instance encodableChar : Encodable Char :=
  Encodable.ofLeftInverse Char.toNat Char.ofNat Char.ofNat_toNat

instance encodableString : Encodable String :=
  Encodable.ofLeftInverse String.toList String.ofList fun _ => String.ofList_toList

instance encodableSampleClass : Encodable SampleClass :=
  Encodable.ofLeftInverse (fun c => decide (c = .tripCreated))
    (fun b => if b then .tripCreated else .deviceCreated) fun c => by cases c <;> rfl

instance encodableSampleFields : Encodable SampleFields :=
  Encodable.ofLeftInverse (fun f => (f.strings, f.timestamp, f.headers, f.data))
    (fun t => ⟨t.1, t.2.1, t.2.2.1, t.2.2.2⟩) fun _ => rfl

/-- The fields of a container with a trip. -/
def sampleTripFields (version : String) (data : SampleClass ⊕ String) : SampleFields :=
  ⟨["1.0", "b1328174-a21c-43d3-b303-964dfcc76efc", "myapp", "TripCreated/" ++ version],
    1460868253255, [("request_id", "1")], data⟩

/-- The JSON text of a container with a trip. -/
def sampleFirehoseText (version data : String) : String :=
  "\x7b" ++ ("\n\"format_version\": \"1.0\",\n" ++
    "\"id\": \"b1328174-a21c-43d3-b303-964dfcc76efc\",\n" ++
    "\"metadata\": \x7b\n\"publisher\": \"myapp\",\n" ++
    "\"timestamp\": \"2016-04-17T04:44:13.255Z\",\n" ++
    "\"headers\": \x7b\n\"request_id\": \"1\"\n\x7d\n\x7d,\n" ++
    "\"schema\": \"TripCreated/" ++ version ++ "\",\n" ++
    "\"data\": \x7b\n\"@type\": \"type.googleapis.com/" ++ data ++ "\n\x7d\n\x7d")

/-- A container and its JSON text, for a message of a known or a newer minor version. -/
def sampleLine : (known : Bool) → SampleFields × String
  | true => (sampleTripFields "1.0" (.inl .tripCreated),
      sampleFirehoseText "1.0" "hedwig.TripCreatedV1\"")
  | false => (sampleTripFields "1.5" (.inr ""),
      sampleFirehoseText "1.5" "google.protobuf.Value\",\n\"value\": \"\"")

/-- The decimal form of a number. -/
def printNumber (n : ℕ) : String := String.ofList (Nat.toDigits 10 n)

/-- The text of a container: of the one in a line, or a number that stands for it. -/
def printFields (line : SampleFields × String) (fields : SampleFields) : String :=
  if fields = line.1 then line.2 else printNumber (Encodable.encode fields)

/-- The container that a text stands for, whatever its line feeds. -/
def parseFields (line : SampleFields × String) (s : String) : Option SampleFields :=
  if dropLineFeeds s = dropLineFeeds line.2 then some line.1
  else Encodable.decode (Nat.ofDigitChars 10 (dropLineFeeds s).toList 0)

/-- A decimal form has only digits. -/
lemma isDigit_of_mem_printNumber {n : ℕ} {c : Char} (h : c ∈ (printNumber n).toList) :
    c.isDigit = true := by
  rw [printNumber, String.toList_ofList] at h
  exact Nat.isDigit_of_mem_toDigits (by omega) (by omega) h

/-- So it has no line feeds. -/
lemma dropLineFeeds_printNumber (n : ℕ) : dropLineFeeds (printNumber n) = printNumber n := by
  have hne : ∀ c ∈ (printNumber n).toList, decide (c ≠ '\n') = true := by
    intro c hc
    refine decide_eq_true fun he => ?_
    have hdigit := isDigit_of_mem_printNumber hc
    rw [he] at hdigit
    exact absurd hdigit (by decide)
  rw [dropLineFeeds, List.filter_eq_self.mpr hne, String.ofList_toList]

/-- A decimal form is no JSON text. -/
lemma printNumber_ne_sampleLine (n : ℕ) (known : Bool) :
    dropLineFeeds (printNumber n) ≠ dropLineFeeds (sampleLine known).2 := by
  intro h
  have hbrace : '\x7b' ∈ (dropLineFeeds (sampleLine known).2).toList := by
    rw [dropLineFeeds, String.toList_ofList]
    have hhead : '\x7b' ∈ "\x7b".toList := by decide
    refine List.mem_filter.mpr ⟨?_, by decide⟩
    cases known
    all_goals
      rw [sampleLine, sampleFirehoseText, String.toList_append]
      exact List.mem_append_left _ hhead
  rw [← h, dropLineFeeds_printNumber] at hbrace
  exact absurd (isDigit_of_mem_printNumber hbrace) (by decide)

/-- What is printed is parsed. -/
lemma parseFields_printFields (known : Bool) (fields : SampleFields) :
    parseFields (sampleLine known) (printFields (sampleLine known) fields) = some fields := by
  rw [printFields]
  split_ifs with hfields
  · rw [parseFields, if_pos rfl, hfields]
  · rw [parseFields, if_neg (printNumber_ne_sampleLine _ known), dropLineFeeds_printNumber,
      printNumber, String.toList_ofList, Nat.ofDigitChars_ten_toDigits, Encodable.encodek]

/-- Line feeds in a text do not matter. -/
lemma parseFields_dropLineFeeds (line : SampleFields × String) (s : String) :
    parseFields line (dropLineFeeds s) = parseFields line s := by
  have hidem : dropLineFeeds (dropLineFeeds s) = dropLineFeeds s := by simp [dropLineFeeds]
  rw [parseFields, parseFields, hidem]

/-- What is printed has no carriage return. -/
lemma carriageReturn_notMem_printFields (known : Bool) (fields : SampleFields) :
    '\r' ∉ (printFields (sampleLine known) fields).toList := by
  have hline : '\r' ∉ (sampleLine known).2.toList := by
    cases known
    all_goals
      simp only [sampleLine, sampleFirehoseText, String.toList_append, List.mem_append, not_or]
      decide +kernel
  rw [printFields]
  split_ifs
  · exact hline
  · exact fun hc => absurd (isDigit_of_mem_printNumber hc) (by decide)

/-- A runtime for these classes and containers. -/
def sampleFirehoseLib (known : Bool) : ProtoLib where
  Cls := SampleClass
  Msg := SampleClass
  Any := SampleClass ⊕ String
  Timestamp := ℤ
  classOf c := c
  name := SampleClass.name
  minorVersion _ := 0
  codec cls :=
    { serializeToString := fun _ => .ok []
      parseFromString := fun b => if b = [] then .ok cls else .error (.new .decodeError "")
      messageToJson := fun _ => .ok "\x7b\x7d"
      parse := fun s => if s = "\x7b\x7d" then .ok cls else .error (.new .parseError "") }
  payloadCodec :=
    { serializeToString := fun _ => .error (.new .encodeError "")
      parseFromString := fun _ => .error (.new .decodeError "")
      messageToJson := fun p => .ok (printFields (sampleLine known) (sampleFields p))
      parse := fun s =>
        match parseFields (sampleLine known) s with
        | some fields => .ok (ofSampleFields fields)
        | none => .error (.new .parseError "") }
  pack c := .ok (.inl c)
  is a cls := a = .inl cls
  unpack a cls := if a = .inl cls then .ok cls else .error (.new .decodeError "")
  packValue s := .ok (.inr s)
  isValue a := a.isRight
  unpackValue a := .ok (a.elim (fun _ => none) some)
  fromMilliseconds
    | .int t =>
      if -62135596800000 ≤ t ∧ t ≤ 253402300799999 then .ok t else .error (.new .valueError "")
    | _ => .error (.new .typeError "")
  toMilliseconds t := .ok t
  stringField
    | .str s => .ok s
    | _ => .error (.new .typeError "")

/-- A protobuf validator for these classes. -/
def sampleFirehoseValidator (known : Bool) (wire : ProtoWire) :
    ProtobufValidator (sampleFirehoseLib known) where
  wire := wire
  protoMessages :=
    ⟨[(("TripCreated", 1), .tripCreated), (("DeviceCreated", 1), .deviceCreated)], by simp⟩
  useTransportMessageAttributes := false

/-- The runtime keeps its promises about round trips. -/
lemma sampleFirehoseLib_roundTrips (known : Bool) : (sampleFirehoseLib known).RoundTrips where
  messages cls :=
    { binary := fun m b hm h => ⟨cls, by rw [← Except.ok.inj h]; rfl, hm.symm⟩
      json := fun m s hm h => ⟨cls, by rw [← Except.ok.inj h]; rfl, hm.symm⟩
      lineFeeds := fun _ s _ h => by rw [← Except.ok.inj h]; rfl }
  payloads :=
    { binary := fun _ _ _ h => by cases h
      json := fun p s _ h => by
        obtain rfl := Except.ok.inj h
        refine ⟨p, ?_, rfl, fun _ => rfl⟩
        simp only [sampleFirehoseLib, parseFields_printFields]
        exact congrArg Except.ok (ofSampleFields_sampleFields p)
      lineFeeds := fun p s _ _ => by
        simp only [sampleFirehoseLib, parseFields_dropLineFeeds] }
  unpack m a h := by
    obtain rfl := Except.ok.inj h
    exact if_pos rfl
  timestamps t ts h := by
    simp only [sampleFirehoseLib] at h
    split_ifs at h
    exact congrArg Except.ok (Except.ok.inj h).symm
  strings _ := rfl

/-- It keeps its promises about `Any` and about its texts. -/
lemma sampleFirehoseLib_packs (known : Bool) :
    (sampleFirehoseLib known).Packs ∧ (sampleFirehoseLib known).EscapesControls := by
  refine ⟨⟨fun m a h => ?_, fun m a h => ?_, fun s a h => ?_⟩, fun p s h => ?_⟩
  · obtain rfl := Except.ok.inj h
    exact decide_eq_true rfl
  · obtain rfl := Except.ok.inj h
    rfl
  · obtain rfl := Except.ok.inj h
    exact ⟨rfl, rfl⟩
  · obtain rfl := Except.ok.inj h
    exact carriageReturn_notMem_printFields known _

/-- It writes every message. -/
lemma sampleFirehoseLib_writes (known : Bool) :
    (sampleFirehoseLib known).Writes fun _ => True where
  serializeToString _ _ := ⟨[], rfl⟩
  pack m _ := ⟨.inl m, rfl⟩
  packValue s := ⟨.inr s, rfl⟩
  fromMilliseconds t ht := ⟨t, if_pos ht⟩
  messageToJson _ _ _ := ⟨_, rfl⟩

/-- The header of the sample message is a string. -/
lemma stringHeaders_sampleTripMessage {δ : Type} {data : δ} {type : String} {minor : ℕ} :
    StringHeaders (sampleTripMessage data type minor).metadata.headers := by
  refine ⟨.ofList [(.str "request_id", .str "1")], rfl, fun kv hkv => ?_⟩
  obtain rfl := List.mem_singleton.mp (PyDict.mem_items_ofList hkv)
  exact ⟨_, _, rfl⟩

/-- The sample message can be written in every minor version below ten. -/
lemma writable_sampleTripMessage (known : Bool) (wire : ProtoWire) (data : SampleClass) (minor : ℕ)
    (hminor : minor < 10) :
    (sampleFirehoseValidator known wire).Writable (fun _ => True) SampleClass.tripCreated
      (sampleTripMessage data "TripCreated" minor) where
  type := show '/' ∉ "TripCreated".toList by decide
  version := by
    have hversions : ∀ n < 10, StrictVersion.parse ("1." ++ toString n) = some ⟨1, n, 0, none⟩ := by
      decide +kernel
    exact ⟨_, hversions minor hminor⟩
  annotated := ⟨⟨_, rfl⟩, ⟨_, rfl⟩, ⟨_, rfl⟩, ⟨_, rfl⟩⟩
  headers := stringHeaders_sampleTripMessage
  timestamp := ⟨1460868253255, rfl, by rw [InTimestampRange]; omega⟩
  registered := PyDict.get?_eq_some_iff.mpr (.head _)
  complete := trivial

/-- Options of the two sample classes.  The trips leave the type to their name, the devices have a
given one. -/
def sampleClassOptions (known : Bool) (deviceType : String) :
    ProtoOptions (sampleFirehoseLib known) where
  text _ := "<class>"
  declared
    | .tripCreated => some ⟨1, 0, ""⟩
    | .deviceCreated => some ⟨1, 0, deviceType⟩
  minorVersion_eq cls := by cases cls <;> rfl

/-- The trips declare the type in their name. -/
lemma declares_tripCreated (known : Bool) (deviceType : String) :
    (sampleClassOptions known deviceType).Declares .tripCreated ("TripCreated", 1) :=
  ProtoOptions.declares_of_name ['1'] 1 rfl
    (by decide +kernel : messageNameMatch (SampleClass.name .tripCreated).toList = _) (by decide)
    (by decide) (by decide)

/-- The devices declare the type that they are given. -/
lemma declares_deviceCreated (known : Bool) {deviceType : String} (hne : deviceType ≠ "") :
    (sampleClassOptions known deviceType).Declares .deviceCreated (deviceType, 1) :=
  ProtoOptions.declares_of_option "DeviceCreated" ['1'] 1 rfl
    (by decide +kernel : messageNameMatch (SampleClass.name .deviceCreated).toList = _) (by decide)
    (by decide) hne

/-- The sample validator is constructed from the two classes. -/
lemma constructed_sampleFirehoseValidator (known : Bool) (wire : ProtoWire) :
    (sampleFirehoseValidator known wire).Constructed := by
  refine ⟨Unit, Unit, sampleClassOptions known "DeviceCreated", [.tripCreated, .deviceCreated],
    .empty, .empty, ProtobufValidator.new_eq_ok.mpr ⟨_, ?_, rfl⟩⟩
  refine ProtobufValidator.checkSchema_eq_ok.mpr
    ⟨ProtobufValidator.registerAll_eq_ok_nil.mpr ⟨[("TripCreated", 1), ("DeviceCreated", 1)],
      ?_, by decide, rfl⟩, rfl⟩
  exact .cons (declares_tripCreated known _)
    (.cons (declares_deviceCreated known (by decide)) .nil)

/-- With a string it can be written. -/
lemma exists_serializeFirehose_sampleTripData :
    ∃ line, (sampleTripValidator true).toBase.serializeFirehose
      (sampleTripMessage (sampleTripData .str) "trip_created" 0) = .ok line :=
  exists_of_isOk (show ((sampleTripValidator true).toBase.serializeFirehose
    (sampleTripMessage (sampleTripData .str) "trip_created" 0)).isOk = true by decide +kernel)

/-- What comes back is a message of the class that is registered. -/
lemma eq_of_reads_sampleFirehose {known : Bool} {wire : ProtoWire} {cls d : SampleClass}
    {m : Message SampleClass String}
    (hcls : (sampleFirehoseValidator known wire).protoMessages.get? (m.type, m.version.major) =
      some cls) (h : (sampleFirehoseValidator known wire).Reads m d) : d = cls := by
  cases h with
  | any registered _ _ _ unpack =>
    obtain rfl := Option.some.inj (hcls.symm.trans registered)
    simp only [sampleFirehoseLib] at unpack
    split_ifs at unpack
    exact (Except.ok.inj unpack).symm
  | bytes registered _ _ parse =>
    obtain rfl := Option.some.inj (hcls.symm.trans registered)
    simp only [sampleFirehoseLib] at parse
    split_ifs at parse
    exact (Except.ok.inj parse).symm

/-- Data of the other class can be written in a newer minor version. -/
lemma exists_serializeFirehose_deviceCreated :
    ∃ line, (sampleFirehoseValidator false .binary).toBase.serializeFirehose
      (sampleTripMessage SampleClass.deviceCreated "TripCreated" 5) = .ok line := by
  have hm := writable_sampleTripMessage false .binary .deviceCreated 5 (by omega)
  rcases hm.exists_packFirehose (sampleFirehoseLib_writes false) with
    ⟨hknown, -⟩ | ⟨-, a, bytes, hpack, hbytes, hvalue⟩
  · exact absurd hknown (by decide)
  · obtain rfl : [] = bytes := Except.ok.inj hbytes
    exact hm.exists_serializeFirehose (by decide) (sampleFirehoseLib_roundTrips false)
      (sampleFirehoseLib_writes false) hpack
      (ProtobufValidator.firehoseData_of_packValue (sampleFirehoseLib_packs false).1 hvalue)
      (d := SampleClass.tripCreated) rfl

/-- The theorem at a JSON message, and at protobuf messages of a newer minor version, with data of
the registered class and with data of another one, which come back as the registered one. -/
theorem serializeFirehose_roundTrips_sample :
    (∃ line, (sampleTripValidator true).toBase.serializeFirehose
        (sampleTripMessage (sampleTripData .str) "trip_created" 0) = .ok line ∧
      SingleLine line ∧ ∃ m', (sampleTripValidator true).toBase.deserializeFirehose line = .ok m' ∧
        m'.Equal (sampleTripMessage (sampleTripData .str) "trip_created" 0)) ∧
    ∀ data : SampleClass, ∃ line, (sampleFirehoseValidator false .binary).toBase.serializeFirehose
        (sampleTripMessage data "TripCreated" 5) = .ok line ∧
      SingleLine line ∧
      ∃ m', (sampleFirehoseValidator false .binary).toBase.deserializeFirehose line = .ok m' ∧
        m'.Equal (sampleTripMessage SampleClass.tripCreated "TripCreated" 5) := by
  constructor
  · obtain ⟨hround, hdata⟩ := (serializeFirehose_roundTrips String).1 (sampleTripValidator true)
      sampleTripLib_loadsLast sampleTripLib_writesText
    obtain ⟨line, hline⟩ := exists_serializeFirehose_sampleTripData
    obtain ⟨hsingle, m', data, hm', hreads, hequal⟩ := hround _ line (by decide)
      ⟨⟨_, rfl⟩, ⟨_, rfl⟩, ⟨_, rfl⟩, ⟨_, rfl⟩⟩ stringHeaders_sampleTripMessage hline
    obtain rfl := hdata _ data isJson_sampleTripData hreads
    exact ⟨line, hline, hsingle, m', hm', hequal⟩
  · intro data
    obtain ⟨hround, hsame, hreturns⟩ := (serializeFirehose_roundTrips String).2
      (sampleFirehoseLib false) (sampleFirehoseValidator false .binary)
      (sampleFirehoseLib_roundTrips false) (sampleFirehoseLib_packs false).1
      (sampleFirehoseLib_packs false).2 rfl
    have hm := writable_sampleTripMessage false .binary data 5 (by omega)
    obtain ⟨line, hline⟩ : ∃ line, (sampleFirehoseValidator false .binary).toBase.serializeFirehose
        (sampleTripMessage data "TripCreated" 5) = .ok line := by
      cases data with
      | tripCreated =>
        exact hreturns _ (sampleFirehoseLib_writes false)
          (constructed_sampleFirehoseValidator false .binary) _ hm
      | deviceCreated => exact exists_serializeFirehose_deviceCreated
    obtain ⟨hsingle, m', d, hm', hreads, hequal⟩ :=
      hround _ line hm.type hm.annotated hm.headers hline
    obtain rfl : d = SampleClass.tripCreated := eq_of_reads_sampleFirehose hm.registered hreads
    exact ⟨line, hline, hsingle, m', hm', hequal⟩

/-- Data whose JSON text is that of other data, and data of another class in a newer minor version,
are not read back as they were. -/
theorem serializeFirehose_foreign :
    ¬ (sampleTripValidator true).toBase.FirehoseRoundTrips
        (fun (m : Message PyObj String) data => data = m.data) ∧
      ¬ (sampleFirehoseValidator false .binary).toBase.FirehoseRoundTrips
        (fun (m : Message SampleClass String) data => data = m.data) := by
  constructor
  · intro hround
    have hannotated : (sampleTripMessage (sampleTripData .uuid) "trip_created" 0).Annotated :=
      ⟨⟨_, rfl⟩, ⟨_, rfl⟩, ⟨_, rfl⟩, ⟨_, rfl⟩⟩
    have hnormalise : normalise sampleTripLib (sampleTripData .uuid) =
      .ok (sampleTripData .str) := rfl
    obtain ⟨line, hstring⟩ := exists_serializeFirehose_sampleTripData
    have hline := ((sampleTripValidator true).serializeFirehose_of_normalise hannotated
      stringHeaders_sampleTripMessage hnormalise isJson_sampleTripData).trans hstring
    obtain ⟨-, m₁, _, hm₁, rfl, hequal₁⟩ :=
      hround _ line (by decide) hannotated stringHeaders_sampleTripMessage hline
    -- the identifier is read back as a string
    obtain ⟨-, m₂, _, hm₂, ⟨document, hdocument, rfl⟩, hequal₂⟩ :=
      (sampleTripValidator true).firehoseRoundTrips sampleTripLib_loadsLast
        sampleTripLib_writesText _ line (by decide) hannotated stringHeaders_sampleTripMessage
        hline
    obtain rfl : m₁ = m₂ := Except.ok.inj (hm₁.symm.trans hm₂)
    obtain rfl : sampleTripData .str = document := Except.ok.inj (hnormalise.symm.trans hdocument)
    have huuid := congrArg Message.data hequal₁.2
    have hstr := congrArg Message.data hequal₂.2
    rw [PyObj.lastWins_of_isJson _ isJson_sampleTripData] at hstr
    cases huuid.symm.trans hstr
  · intro hround
    have hm := writable_sampleTripMessage false .binary .deviceCreated 5 (by omega)
    obtain ⟨line, hline⟩ := exists_serializeFirehose_deviceCreated
    obtain ⟨-, m₁, _, hm₁, rfl, hequal₁⟩ :=
      hround _ line hm.type hm.annotated hm.headers hline
    -- the class that is registered is another one
    obtain ⟨-, m₂, d, hm₂, hreads, hequal₂⟩ :=
      (sampleFirehoseValidator false .binary).firehoseRoundTrips
        (sampleFirehoseLib_roundTrips false) (sampleFirehoseLib_packs false).1
        (sampleFirehoseLib_packs false).2 (.inl rfl) _ line hm.type hm.annotated hm.headers hline
    obtain rfl : d = SampleClass.tripCreated := eq_of_reads_sampleFirehose hm.registered hreads
    obtain rfl : m₁ = m₂ := Except.ok.inj (hm₁.symm.trans hm₂)
    cases (congrArg Message.data hequal₁.2).symm.trans (congrArg Message.data hequal₂.2)

/-- The theorem at a message of the declared minor version. -/
theorem serializeFirehose_json_iff_sample :
    (sampleFirehoseValidator true .json).ReadsLineOf (sampleFirehoseValidator true .json)
        (sampleTripMessage SampleClass.tripCreated "TripCreated" 0) ∧
      (sampleFirehoseValidator true .json).ReadsLineOf (sampleFirehoseValidator true .binary)
        (sampleTripMessage SampleClass.tripCreated "TripCreated" 0) := by
  obtain ⟨hown, hother⟩ := serializeFirehose_json_iff (sampleFirehoseValidator true .json)
    (sampleFirehoseLib_roundTrips true) (sampleFirehoseLib_packs true).1
    (sampleFirehoseLib_packs true).2 (sampleFirehoseLib_writes true)
    (constructed_sampleFirehoseValidator true .json) rfl
    (sampleTripMessage SampleClass.tripCreated "TripCreated" 0)
    (writable_sampleTripMessage true .json .tripCreated 0 (by omega))
  exact ⟨hown.mpr (Nat.le_refl 0), hother.mpr (Nat.le_refl 0)⟩

/-- In a newer minor version the JSON-format validator returns no line, and it does not read the
line that the binary validator returns. -/
theorem serializeFirehose_json_newer :
    ¬ (sampleFirehoseValidator false .json).ReadsLineOf (sampleFirehoseValidator false .json)
        (sampleTripMessage SampleClass.tripCreated "TripCreated" 5) ∧
      ¬ (sampleFirehoseValidator false .json).ReadsLineOf (sampleFirehoseValidator false .binary)
        (sampleTripMessage SampleClass.tripCreated "TripCreated" 5) := by
  have hm := writable_sampleTripMessage false .json .tripCreated 5 (by omega)
  exact hm.not_readsLineOf (sampleFirehoseLib_roundTrips false) (sampleFirehoseLib_packs false).1
    (sampleFirehoseLib_packs false).2 rfl (by decide)

end Hedwig
