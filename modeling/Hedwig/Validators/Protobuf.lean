import Hedwig.Lib.Base64
import Hedwig.Validators.Base

set_option relaxedAutoImplicit false
set_option autoImplicit false

/-!
# The protobuf validators

`hedwig.validators.protobuf`: payloads are protobuf messages, the data alone or packed into a
`PayloadV1` container, in the binary format or in the JSON format.

## Main definitions

* `Hedwig.PayloadV1` — the container, with the fields of `container.proto`.
* `Hedwig.ProtoLib` — the protobuf runtime and the classes of the application, as parameters.
* `Hedwig.ProtoWire` — the two methods in which the validators differ, with
  `ProtoWire.binary` and `ProtoWire.json`.
* `Hedwig.ProtobufValidator` — a constructed validator; `ProtobufValidator.toBase` is its methods.

## Design

`proto_messages` is what the constructor leaves there.  `json_format.Parse` is always called with
`ignore_unknown_fields=True`, and `MessageToJson` with `preserving_proto_field_name=True` and
`indent=0`, so the codec of a class has one function for each.
-/

namespace Hedwig

/-! ## The runtime -/

/-- The container message, with its data an `Any`. -/
structure PayloadV1 (Any Timestamp : Type) where
  formatVersion : String
  id : String
  publisher : String
  timestamp : Timestamp
  headers : PyDict String String
  schema : String
  data : Any

/-- Two containers are equal: every field is, the headers as a map. -/
def PayloadV1.Same {Any Timestamp : Type} (p p' : PayloadV1 Any Timestamp) : Prop :=
  p = { p' with headers := p.headers } ∧ ∀ k, p.headers.get? k = p'.headers.get? k

/-- How the messages of one class are written and read. -/
structure ProtoCodec (α : Type) where
  /-- `msg.SerializeToString()`. -/
  serializeToString : α → Except PyException (List UInt8)
  /-- `ParseFromString` on a new message. -/
  parseFromString : List UInt8 → Except PyException α
  /-- `json_format.MessageToJson`. -/
  messageToJson : α → Except PyException String
  /-- `json_format.Parse` on a new message. -/
  parse : String → Except PyException α

/-- The protobuf runtime with the message classes of the application. -/
structure ProtoLib where
  /-- The classes of the application. -/
  Cls : Type
  /-- Their instances. -/
  Msg : Type
  Any : Type
  Timestamp : Type
  /-- `type(msg)`. -/
  classOf : Msg → Cls
  /-- `msg_class.__name__`. -/
  name : Cls → String
  /-- The option `message_options.minor_version` of a class. -/
  minorVersion : Cls → ℕ
  /-- The messages of a class. -/
  codec : Cls → ProtoCodec Msg
  /-- The container. -/
  payloadCodec : ProtoCodec (PayloadV1 Any Timestamp)
  /-- `any.Pack(msg)` on a new `Any`. -/
  pack : Msg → Except PyException Any
  /-- `any.Is(msg_class.DESCRIPTOR)`. -/
  is : Any → Cls → Bool
  /-- `any.Unpack(msg)` on a new message of a class. -/
  unpack : Any → Cls → Except PyException Msg
  /-- `any.Pack(Value(string_value=...))`. -/
  packValue : String → Except PyException Any
  /-- `any.Is(Value.DESCRIPTOR)`. -/
  isValue : Any → Bool
  /-- `any.Unpack(value)`, with the `string_value` if that is the kind that is set. -/
  unpackValue : Any → Except PyException (Option String)
  /-- `timestamp.FromMilliseconds(ms)`. -/
  fromMilliseconds : PyObj → Except PyException Timestamp
  /-- `timestamp.ToMilliseconds()`. -/
  toMilliseconds : Timestamp → Except PyException ℤ
  /-- The value of a string field after an assignment. -/
  stringField : PyObj → Except PyException String

/-- The container of a library. -/
abbrev ProtoLib.Payload (lib : ProtoLib) := PayloadV1 lib.Any lib.Timestamp

/-- The data in a payload: the `Any` of a container, or the payload itself. -/
inductive ProtoData (lib : ProtoLib)
  | any (a : lib.Any)
  | payload (p : Payload)

/-- Some exception of a tuple of classes, as an `except` clause names it. -/
def isInstanceOfAny (e : PyException) (classes : List ExceptionClass) : Bool :=
  classes.any e.isInstance

/-- The classes that both decoding clauses catch. -/
def decodingErrors : List ExceptionClass :=
  [.decodeError, .runtimeError, .assertionError, .parseError]

/-- `except (DecodeError, RuntimeError, AssertionError, ParseError) as e`, reporting the name of a
message class. -/
def catchDecodingErrors {α : Type} (className : String) (x : Except PyException α) :
    Except PyException α :=
  match x with
  | .ok a => .ok a
  | .error e =>
    if isInstanceOfAny e decodingErrors then
      .error (.new .validationError
        ("Invalid data for message: " ++ className ++ ": " ++ (e.str.toOption.getD "")))
    else .error e

/-- What is returned was returned inside the `try` block. -/
lemma catchDecodingErrors_eq_ok {α : Type} {className : String} {x : Except PyException α} {a : α} :
    catchDecodingErrors className x = .ok a ↔ x = .ok a := by
  cases x with
  | ok b => rfl
  | error e => cases h : isInstanceOfAny e decodingErrors <;> simp [catchDecodingErrors, h]

/-! ## The two wire formats -/

/-- `s.replace("\n", "")`. -/
def dropLineFeeds (s : String) : String := String.ofList (s.toList.filter (· ≠ '\n'))

/-- `decode_proto_json`. -/
def decodeProtoJson {α : Type} (codec : ProtoCodec α) (value : Payload) : Except PyException α :=
  match value with
  | .str s => codec.parse s
  | .bytes _ => .error (.new .assertionError "")

/-- `encode_proto_json`. -/
def encodeProtoJson {α : Type} (codec : ProtoCodec α) (msg : α) : Except PyException String := do
  let text ← codec.messageToJson msg
  return dropLineFeeds text

/-- What the protobuf runtime promises of a class: a message that was written in either format is
read back, and line feeds in the JSON text are white space between its tokens. -/
structure ProtoCodec.RoundTrips {α : Type} (codec : ProtoCodec α) (IsInstance : α → Prop)
    (Same : α → α → Prop) : Prop where
  binary : ∀ m b, IsInstance m → codec.serializeToString m = .ok b →
    ∃ m', codec.parseFromString b = .ok m' ∧ Same m' m
  json : ∀ m s, IsInstance m → codec.messageToJson m = .ok s →
    ∃ m', codec.parse s = .ok m' ∧ Same m' m
  lineFeeds : ∀ m s, IsInstance m → codec.messageToJson m = .ok s →
    codec.parse (dropLineFeeds s) = codec.parse s

/-- What the protobuf runtime promises: messages and containers are read back as they were
written, an `Any` is unpacked to the message that was packed, a timestamp that can be set is the
number of milliseconds it was set to, and a string field takes strings. -/
structure ProtoLib.RoundTrips (lib : ProtoLib) : Prop where
  messages : ∀ cls, (lib.codec cls).RoundTrips (fun m => lib.classOf m = cls) Eq
  payloads : lib.payloadCodec.RoundTrips (fun _ => True) PayloadV1.Same
  unpack : ∀ m a, lib.pack m = .ok a → lib.unpack a (lib.classOf m) = .ok m
  timestamps : ∀ t ts, lib.fromMilliseconds (.int t) = .ok ts → lib.toMilliseconds ts = .ok t
  strings : ∀ s, lib.stringField (.str s) = .ok s

/-- The methods that `ProtobufJSONValidator` overrides. -/
structure ProtoWire where
  /-- `_decode_proto`. -/
  decodeProto {α : Type} (codec : ProtoCodec α) (value : Payload) : Except PyException α
  /-- `_encode_proto`. -/
  encodeProto {α : Type} (codec : ProtoCodec α) (msg : α) : Except PyException Payload

/-- The methods of `ProtobufValidator`: the binary format. -/
def ProtoWire.binary : ProtoWire where
  decodeProto codec value :=
    match value with
    | .bytes b => codec.parseFromString b
    | .str _ => .error (.new .assertionError "")
  encodeProto codec msg := do
    let b ← codec.serializeToString msg
    return .bytes b

/-- The methods of `ProtobufJSONValidator`. -/
def ProtoWire.json : ProtoWire where
  decodeProto codec value := decodeProtoJson codec value
  encodeProto codec msg := do
    let text ← encodeProtoJson codec msg
    return .str text

/-! ## The validator -/

/-- A constructed `ProtobufValidator`, or `ProtobufJSONValidator`. -/
structure ProtobufValidator (lib : ProtoLib) where
  wire : ProtoWire
  /-- `proto_messages`. -/
  protoMessages : PyDict (String × ℕ) lib.Cls
  /-- The setting `HEDWIG_USE_TRANSPORT_MESSAGE_ATTRIBUTES`. -/
  useTransportMessageAttributes : Bool

namespace ProtobufValidator

variable {lib : ProtoLib} (v : ProtobufValidator lib)

/-- `_schema_fmt`. -/
def schemaFmt : String := "\x7bmessage_type\x7d/\x7bmessage_version\x7d"

/-- `StrictVersion('1.0')`. -/
def currentFormatVersion : StrictVersion := ⟨1, 0, 0, none⟩

/-- `proto_messages.get((message_type, major_version))`, with the error for a missing class. -/
def messageClass (messageType : String) (majorVersion : ℕ) : Except PyException lib.Cls :=
  match v.protoMessages.get? (messageType, majorVersion) with
  | some cls => .ok cls
  | none => .error (.new .validationError ("Protobuf message class not found for '" ++
      messageType ++ "/" ++ toString majorVersion ++ "'"))

/-- `_verify_known_minor_version`. -/
def verifyKnownMinorVersion (messageType : String) (fullVersion : StrictVersion) : Outcome := do
  let msgClass ← v.messageClass messageType fullVersion.major
  if lib.minorVersion msgClass < fullVersion.minor then
    .error (.new .validationError ("Unknown minor version: " ++ toString fullVersion.minor ++
      ", last known minor version: " ++ toString (lib.minorVersion msgClass)))
  else .ok ()

/-- The meta attributes in a container. -/
def containerMetaAttributes (msgPayload : lib.Payload) : Except PyException MetaAttributes := do
  let timestamp ← lib.toMilliseconds msgPayload.timestamp
  return ⟨.int timestamp, .str msgPayload.publisher, ofDict (ofStrings msgPayload.headers),
    .str msgPayload.id, .str msgPayload.schema, .text (.str msgPayload.formatVersion)⟩

/-- `_extract_data`. -/
def extractData (messagePayload : Payload) (attributes : Attributes)
    (useTransportAttributes : Bool) : Except PyException (MetaAttributes × ProtoData lib) := do
  match useTransportAttributes with
  | false =>
    let msgPayload ←
      catchDecodingErrors "PayloadV1" (v.wire.decodeProto lib.payloadCodec messagePayload)
    let metaAttrs ← containerMetaAttributes msgPayload
    return (metaAttrs, .any msgPayload.data)
  | true =>
    let metaAttrs ← decodeMetaAttributes v.useTransportMessageAttributes attributes
    verifyFormatVersion metaAttrs.formatVersion currentFormatVersion
    return (metaAttrs, .payload messagePayload)

section

variable {v} {metaAttrs : MetaAttributes} {payload : Payload} {attributes : Attributes}
  {x : ProtoData lib}

/-- What is extracted from a container. -/
lemma extractContainer_eq_ok :
    v.extractData payload attributes false = .ok (metaAttrs, x) ↔
      ∃ msgPayload, v.wire.decodeProto lib.payloadCodec payload = .ok msgPayload ∧
        containerMetaAttributes msgPayload = .ok metaAttrs ∧ x = .any msgPayload.data := by
  simp only [extractData, bind_eq_ok, catchDecodingErrors_eq_ok]
  constructor
  · rintro ⟨msgPayload, hproto, metaAttrs', hmeta, hreturn⟩
    obtain ⟨rfl, rfl⟩ := Prod.mk.inj (Except.ok.inj hreturn)
    exact ⟨msgPayload, hproto, hmeta, rfl⟩
  · rintro ⟨msgPayload, hproto, hmeta, rfl⟩
    exact ⟨msgPayload, hproto, metaAttrs, hmeta, rfl⟩

/-- What is extracted beside transport attributes. -/
lemma extractTransport_eq_ok :
    v.extractData payload attributes true = .ok (metaAttrs, x) ↔
      decodeMetaAttributes v.useTransportMessageAttributes attributes = .ok metaAttrs ∧
        verifyFormatVersion metaAttrs.formatVersion currentFormatVersion = .ok () ∧
        x = .payload payload := by
  simp only [extractData, bind_eq_ok]
  constructor
  · rintro ⟨metaAttrs', hdecode, _, hverify, hreturn⟩
    obtain ⟨rfl, rfl⟩ := Prod.mk.inj (Except.ok.inj hreturn)
    exact ⟨hdecode, hverify, rfl⟩
  · rintro ⟨hdecode, hverify, rfl⟩
    exact ⟨metaAttrs, hdecode, (), hverify, rfl⟩

end

/-- The data in a container of a firehose line.  Unknown data types are written as a `Value` with
the bytes in base64. -/
def firehoseData (data : lib.Any) : Except PyException (ProtoData lib) :=
  if lib.isValue data then do
    match ← lib.unpackValue data with
    | none => .error (.new .assertionError "")
    | some stringValue =>
      match Base64.decodebytes stringValue with
      | some bytes => .ok (.payload (.bytes bytes))
      | none => .error (.new .binasciiError "Incorrect padding")
  else .ok (.any data)

/-- `_extract_data_firehose`. -/
def extractDataFirehose (line : String) : Except PyException (MetaAttributes × ProtoData lib) := do
  let msgPayload ← catchDecodingErrors "PayloadV1" (decodeProtoJson lib.payloadCodec (.str line))
  let data ← firehoseData msgPayload.data
  let metaAttrs ← containerMetaAttributes msgPayload
  return (metaAttrs, data)

/-- The `try` block of `_decode_data`. -/
def decodeMessage (msgClass : lib.Cls) (data : ProtoData lib) : Except PyException lib.Msg := do
  match data with
  | .any a =>
    pyAssert (lib.is a msgClass)
    lib.unpack a msgClass
  | .payload p => v.wire.decodeProto (lib.codec msgClass) p

/-- `_decode_data`. -/
def decodeData (_metaAttrs : MetaAttributes) (messageType : String) (fullVersion : StrictVersion)
    (data : ProtoData lib) : Except PyException lib.Msg := do
  let msgClass ← v.messageClass messageType fullVersion.major
  catchDecodingErrors (lib.name msgClass) (v.decodeMessage msgClass data)

/-- Assigning the headers to the map field of a new container, one after the other. -/
def assignHeaders (lib : ProtoLib) :
    List (PyKey × PyObj) → PyDict String String → Except PyException (PyDict String String)
  | [], headers => .ok headers
  | (.str k, v) :: rest, headers => do
    let v ← lib.stringField v
    assignHeaders lib rest (headers.set k v)
  | _ :: _, _ => .error (.new .typeError "bad argument type")

/-- A new container with the meta attributes, in the order in which they are assigned, and the
data packed last. -/
def newPayload (lib : ProtoLib) (metaAttrs : MetaAttributes)
    (data : Except PyException lib.Any) : Except PyException lib.Payload := do
  let id ← strOf metaAttrs.id
  let publisher ← lib.stringField metaAttrs.publisher
  let timestamp ← lib.fromMilliseconds metaAttrs.timestamp
  let items ← getItems metaAttrs.headers
  let headers ← assignHeaders lib items .empty
  let schema ← lib.stringField metaAttrs.schema
  let data ← data
  return ⟨currentFormatVersion.str, id, publisher, timestamp, headers, schema, data⟩

/-- `_encode_payload`.  In a container the headers are returned as attributes too. -/
def encodePayload (metaAttrs : MetaAttributes) (data : lib.Msg) (useTransportAttributes : Bool) :
    Except PyException (Payload × Attributes) := do
  match useTransportAttributes with
  | false =>
    let msg ← newPayload lib metaAttrs (lib.pack data)
    let payload ← v.wire.encodeProto lib.payloadCodec msg
    return (payload, toDict metaAttrs.headers)
  | true =>
    let payload ← v.wire.encodeProto (lib.codec (lib.classOf data)) data
    let msgAttrs ← encodeMetaAttributes v.useTransportMessageAttributes metaAttrs
    return (payload, msgAttrs)

section

variable {v} {metaAttrs : MetaAttributes} {data : lib.Msg} {payload : Payload}
  {attributes : Attributes}

/-- What is encoded into a container. -/
lemma encodeContainer_eq_ok :
    v.encodePayload metaAttrs data false = .ok (payload, attributes) ↔
      ∃ msg, newPayload lib metaAttrs (lib.pack data) = .ok msg ∧
        v.wire.encodeProto lib.payloadCodec msg = .ok payload ∧
        attributes = toDict metaAttrs.headers := by
  simp only [encodePayload, bind_eq_ok]
  constructor
  · rintro ⟨msg, hnew, payload', hproto, hreturn⟩
    obtain ⟨rfl, rfl⟩ := Prod.mk.inj (Except.ok.inj hreturn)
    exact ⟨msg, hnew, hproto, rfl⟩
  · rintro ⟨msg, hnew, hproto, rfl⟩
    exact ⟨msg, hnew, payload, hproto, rfl⟩

/-- What is encoded beside transport attributes. -/
lemma encodeTransport_eq_ok :
    v.encodePayload metaAttrs data true = .ok (payload, attributes) ↔
      v.wire.encodeProto (lib.codec (lib.classOf data)) data = .ok payload ∧
        encodeMetaAttributes v.useTransportMessageAttributes metaAttrs = .ok attributes := by
  simp only [encodePayload, bind_eq_ok]
  constructor
  · rintro ⟨payload', hproto, attributes', hencode, hreturn⟩
    obtain ⟨rfl, rfl⟩ := Prod.mk.inj (Except.ok.inj hreturn)
    exact ⟨hproto, hencode⟩
  · rintro ⟨hproto, hencode⟩
    exact ⟨payload, hproto, attributes, hencode, rfl⟩

end

/-- The data of a firehose line: packed as it is if its minor version is known, else as a
`Value`. -/
def packFirehose (messageType : String) (version : StrictVersion) (data : lib.Msg) :
    Except PyException lib.Any :=
  match v.verifyKnownMinorVersion messageType version >>= fun _ => lib.pack data with
  | .ok a => .ok a
  | .error e =>
    if e.isInstance .validationError then do
      let bytes ← (lib.codec (lib.classOf data)).serializeToString data
      lib.packValue (Base64.b64encode bytes)
    else .error e

/-- `_encode_payload_firehose`. -/
def encodePayloadFirehose (messageType : String) (version : StrictVersion)
    (metaAttrs : MetaAttributes) (data : lib.Msg) : Except PyException String := do
  let msg ← newPayload lib metaAttrs (v.packFirehose messageType version data)
  encodeProtoJson lib.payloadCodec msg

/-- The methods of the validator. -/
def toBase : HedwigBaseValidator lib.Msg (ProtoData lib) where
  schemaFmt := schemaFmt
  -- the format has no other replacement field
  formatField := fun _ _ name => .error (.new .keyError name)
  currentFormatVersion := currentFormatVersion
  useTransportMessageAttributes := v.useTransportMessageAttributes
  extractData := v.extractData
  extractDataFirehose := extractDataFirehose
  decodeData := v.decodeData
  verifyKnownMinorVersion := v.verifyKnownMinorVersion
  encodePayload := v.encodePayload
  encodePayloadFirehose := v.encodePayloadFirehose

end ProtobufValidator

end Hedwig
