import Mathlib.Algebra.Ring.Int.Defs
import Hedwig.Lib.Draft4
import Hedwig.Validators.Base

set_option relaxedAutoImplicit false
set_option autoImplicit false

/-!
# The JSON schema validator

`hedwig.validators.jsonschema`: payloads are JSON documents, the data alone or a container with
the meta attributes beside it, checked against the schema of the application.

## Main definitions

* `Hedwig.JsonLib`, `Hedwig.SchemaLib` — the JSON codec and the schema checker that the validator
  calls, as parameters.
* `Hedwig.jsonDefault`, `Hedwig.jsonDumps` — encoding with a default for leaves that JSON does not
  know.
* `Hedwig.JSONSchemaValidator` — a constructed validator; `JSONSchemaValidator.toBase` is its
  methods.

## Design

The walk of the encoder over a document, which calls the default and refuses floats that are not
finite, is written out; what it prints is a parameter.  The schema cache is left out: it returns
what the function would compute again.
-/

namespace Hedwig

/-! ## The libraries -/

/-- The parts of `json` that print and parse. -/
structure JsonLib where
  /-- The text of a document whose leaves are all JSON values. -/
  encode : PyObj → Except PyException String
  /-- `json.loads`. -/
  loads : String → Except PyException PyObj
  /-- `repr(float(d))` for the decimal `coefficient * 10 ^ exponent`. -/
  floatOfDecimal : ℤ → ℤ → String
  /-- The text that a key which is no string is written as. -/
  otherKey : String → Except PyException String

/-- What `json` promises: a JSON value that was written is read back as it was. -/
def JsonLib.RoundTrips (json : JsonLib) : Prop :=
  ∀ v s, v.IsJson → json.encode v = .ok s → json.loads s = .ok v

/-- The parts of `jsonschema` that the validator calls. -/
structure SchemaLib where
  /-- `_validator.resolver.resolve(ptr)`. -/
  resolve : String → Except PyException PyObj
  /-- `list(_validator.iter_errors(data, schema))`. -/
  iterErrors : PyObj → PyObj → Except PyException (List String)
  /-- `list(_container_validator.iter_errors(payload))`. -/
  containerErrors : PyObj → Except PyException (List String)

/-! ## The container schema -/

/-- A lower case hexadecimal digit. -/
def isHexDigit (c : Char) : Bool := ('0' ≤ c ∧ c ≤ '9') ∨ ('a' ≤ c ∧ c ≤ 'f')

/-- Groups of hexadecimal digits of the given lengths with hyphens between them, up to the end or
to a line feed there. -/
def hexGroups : List ℕ → List Char → Bool
  | [], cs => StrictVersion.atEnd cs
  | [n], cs => (cs.take n).length = n ∧ (cs.take n).all isHexDigit ∧
      StrictVersion.atEnd (cs.drop n)
  | n :: ns, cs =>
    if (cs.take n).length = n ∧ (cs.take n).all isHexDigit then
      match cs.drop n with
      | '-' :: rest => hexGroups ns rest
      | _ => false
    else false

/-- The pattern of the message identifier. -/
def humanUuidSearch (s : String) : Bool := hexGroups [8, 4, 4, 4, 12] s.toList

/-- `jsonschema_container_schema.json`. -/
def containerSchema : Draft4 :=
  .mk none ["id", "schema", "format_version", "metadata", "data"]
    [("id", .mk (some .string) [] [] none (some 36) (some 36) (some humanUuidSearch)),
      ("schema", .mk (some .string) [] [] none (some 1) none none),
      ("format_version", .mk (some .string) [] [] (some ["1.0"]) none none none),
      ("metadata", .mk (some .object) []
        [("publisher", .ofType .string), ("timestamp", .ofType .number),
          ("headers", .ofType .object)] none none none none),
      ("data", .ofType .object)]
    none none none none

/-- What `jsonschema` promises of the container schema, which has no references: the errors can be
listed, and there are none exactly for a payload that conforms. -/
def SchemaLib.ChecksContainer (lib : SchemaLib) : Prop :=
  ∀ o, ∃ errors, lib.containerErrors o = .ok errors ∧
    (errors = [] ↔ containerSchema.accepts o = true)

/-- The fields of an object that conforms to the container schema. -/
lemma fields_of_containerSchema {fields : List (PyKey × PyObj)}
    (h : containerSchema.accepts (.dict fields) = true) :
    (∃ id, PyObj.field? fields "id" = some (.str id)) ∧
      (∃ schema, PyObj.field? fields "schema" = some (.str schema)) ∧
      PyObj.field? fields "format_version" = some (.str "1.0") ∧
      (∃ metadata, PyObj.field? fields "metadata" = some (.dict metadata) ∧
        ∀ headers, PyObj.field? metadata "headers" = some headers →
          ∃ items, headers = .dict items) ∧
      ∃ data, PyObj.field? fields "data" = some (.dict data) := by
  obtain ⟨id, hid⟩ := Draft4.field?_of_accepts_required "id" (by simp) h
  obtain ⟨schema, hschema⟩ := Draft4.field?_of_accepts_required "schema" (by simp) h
  obtain ⟨fv, hfv⟩ := Draft4.field?_of_accepts_required "format_version" (by simp) h
  obtain ⟨metadata, hmeta⟩ := Draft4.field?_of_accepts_required "metadata" (by simp) h
  obtain ⟨data, hdata⟩ := Draft4.field?_of_accepts_required "data" (by simp) h
  obtain ⟨id, rfl⟩ := Draft4.eq_str_of_accepts
    (Draft4.accepts_of_accepts_properties _ (.head _) hid h)
  obtain ⟨schema, rfl⟩ := Draft4.eq_str_of_accepts
    (Draft4.accepts_of_accepts_properties _ (.tail _ (.head _)) hschema h)
  have hversion := Draft4.accepts_of_accepts_properties _ (.tail _ (.tail _ (.head _))) hfv h
  obtain ⟨fv, rfl⟩ := Draft4.eq_str_of_accepts hversion
  obtain rfl : fv = "1.0" := by simpa using Draft4.mem_of_accepts_enum hversion
  have hmetadata := Draft4.accepts_of_accepts_properties _
    (.tail _ (.tail _ (.tail _ (.head _)))) hmeta h
  obtain ⟨metadata, rfl⟩ := Draft4.eq_dict_of_accepts hmetadata
  obtain ⟨data, rfl⟩ := Draft4.eq_dict_of_accepts (Draft4.accepts_of_accepts_properties _
    (.tail _ (.tail _ (.tail _ (.tail _ (.head _))))) hdata h)
  refine ⟨⟨id, hid⟩, ⟨schema, hschema⟩, hfv, ⟨metadata, hmeta, fun headers hh => ?_⟩, data, hdata⟩
  exact Draft4.eq_dict_of_accepts (Draft4.accepts_of_accepts_properties _
    (.tail _ (.tail _ (.head _))) hh hmetadata)

/-! ## Encoding JSON -/

/-- `int(d)` for the decimal `coefficient * 10 ^ exponent`. -/
def decimalToInt (coefficient exponent : ℤ) : ℤ :=
  if 0 ≤ exponent then coefficient * 10 ^ exponent.toNat
  else coefficient.tdiv (10 ^ (-exponent).toNat)

/-- `i == d` for the decimal `coefficient * 10 ^ exponent`. -/
def eqDecimal (i coefficient exponent : ℤ) : Bool :=
  if 0 ≤ exponent then i = coefficient * 10 ^ exponent.toNat
  else i * 10 ^ (-exponent).toNat = coefficient

/-- `_json_default`. -/
def jsonDefault (json : JsonLib) (obj : PyObj) : Except PyException PyObj :=
  match obj with
  | .decimal (.finite coefficient exponent) =>
    let intVal := decimalToInt coefficient exponent
    if eqDecimal intVal coefficient exponent then .ok (.int intVal)
    else .ok (.float (json.floatOfDecimal coefficient exponent))
  | .decimal (.infinity _) => .error (.new .overflowError "cannot convert Infinity to integer")
  | .decimal .nan => .error (.new .valueError "cannot convert NaN to integer")
  | .uuid text => .ok (.str text)
  | _ => .error (.new .typeError "")

/-- A float under `allow_nan=False`. -/
def finiteFloat (text : String) : Except PyException PyObj :=
  if PyObj.nonFinite text then
    .error (.new .valueError "Out of range float values are not JSON compliant")
  else .ok (.float text)

/-- A leaf that the encoder does not know: the default is called, and its value is encoded. -/
def encodeDefault (json : JsonLib) (obj : PyObj) : Except PyException PyObj := do
  match ← jsonDefault json obj with
  | .float text => finiteFloat text
  | value => .ok value

mutual

/-- The document that the encoder prints. -/
def normalise (json : JsonLib) : PyObj → Except PyException PyObj
  | .none => .ok .none
  | .bool b => .ok (.bool b)
  | .int i => .ok (.int i)
  | .str s => .ok (.str s)
  | .float text => finiteFloat text
  | .list items => (normaliseList json items).map .list
  | .dict fields => (normaliseFields json fields).map .dict
  | .decimal d => encodeDefault json (.decimal d)
  | .uuid text => encodeDefault json (.uuid text)
  | .other printed => encodeDefault json (.other printed)

/-- The items of a list. -/
def normaliseList (json : JsonLib) : List PyObj → Except PyException (List PyObj)
  | [] => .ok []
  | x :: xs => do
    let x ← normalise json x
    let xs ← normaliseList json xs
    return x :: xs

/-- The fields of a dictionary. -/
def normaliseFields (json : JsonLib) :
    List (PyKey × PyObj) → Except PyException (List (PyKey × PyObj))
  | [] => .ok []
  | (.str k, v) :: rest => do
    let v ← normalise json v
    let rest ← normaliseFields json rest
    return (.str k, v) :: rest
  | (k, v) :: rest => do
    let k ← json.otherKey k.text
    let v ← normalise json v
    let rest ← normaliseFields json rest
    return (.str k, v) :: rest

end

/-- `json.dumps(obj, default=_json_default, allow_nan=False, ...)`. -/
def jsonDumps (json : JsonLib) (obj : PyObj) : Except PyException String := do
  let document ← normalise json obj
  json.encode document

/-! ## The validator -/

/-- A constructed `JSONSchemaValidator`. -/
structure JSONSchemaValidator where
  json : JsonLib
  jsonschema : SchemaLib
  /-- `schema_root`, the `id` of the schema. -/
  schemaRoot : String
  /-- A replacement field that the schema root brings into the format, other than a plain name. -/
  formatField : String → String → String → Except PyException String
  /-- The setting `HEDWIG_USE_TRANSPORT_MESSAGE_ATTRIBUTES`. -/
  useTransportMessageAttributes : Bool

namespace JSONSchemaValidator

variable (v : JSONSchemaValidator)

/-- `_schema_fmt`. -/
def schemaFmt : String := v.schemaRoot ++ "#/schemas/\x7bmessage_type\x7d/\x7bmessage_version\x7d"

/-- `StrictVersion('1.0')`. -/
def currentFormatVersion : StrictVersion := ⟨1, 0, 0, none⟩

/-- `_schema`.  The version in the pointer is the pattern of the major version. -/
def schema (messageType : String) (majorVersion : ℕ) : Except PyException PyObj := do
  let schemaPtr ← formatSchema v.schemaFmt v.formatField messageType (toString majorVersion ++ ".*")
  match v.jsonschema.resolve schemaPtr with
  | .ok schema => .ok schema
  | .error e =>
    if e.isInstance .refResolutionError then
      .error (.new .validationError ("Definition not found in schema: " ++ schemaPtr))
    else .error e

/-- `StrictVersion(o)`, as far as its `version` is then used. -/
def strictVersion (o : PyObj) : Except PyException StrictVersion :=
  match o with
  | .str s =>
    if s = "" then .error (.new .attributeError "version")
    else
      match StrictVersion.parse s with
      | some version => .ok version
      | none => .error (.new .valueError ("invalid version number '" ++ s ++ "'"))
  -- falsy values are not parsed, others are no strings
  | .none | .bool false | .int 0 | .float "0.0" | .float "-0.0" | .list [] | .dict [] =>
    .error (.new .attributeError "version")
  | _ => .error (.new .typeError "expected string or bytes-like object")

/-- `_verify_known_minor_version`. -/
def verifyKnownMinorVersion (messageType : String) (fullVersion : StrictVersion) : Outcome := do
  let schema ← v.schema messageType fullVersion.major
  let xVersion ← getItem schema "x-version"
  let schemaFullVersion ← strictVersion xVersion
  if schemaFullVersion.minor < fullVersion.minor then
    .error (.new .validationError ("Unknown minor version: " ++ toString fullVersion.minor ++
      ", last known minor version: " ++ toString schemaFullVersion.minor))
  else .ok ()

/-- The meta attributes in a container. -/
def containerMetaAttributes (payload : PyObj) : Except PyException MetaAttributes := do
  let timestamp ← getItem payload "metadata" >>= fun metadata => getItem metadata "timestamp"
  let publisher ← getItem payload "metadata" >>= fun metadata => getItem metadata "publisher"
  let headers ← getItem payload "metadata" >>= fun metadata => getItem metadata "headers"
  let id ← getItem payload "id"
  let schema ← getItem payload "schema"
  let formatVersion ← getItem payload "format_version"
  return ⟨timestamp, publisher, headers, id, schema, .text formatVersion⟩

/-- `_container_validator.iter_errors(payload)` found nothing. -/
def verifyContainer (payload : PyObj) : Outcome := do
  let errors ← v.jsonschema.containerErrors payload
  if errors ≠ [] then .error (.new .validationError ("[" ++ ", ".intercalate errors ++ "]"))
  else .ok ()

/-- `json.loads`, with its `ValueError` caught. -/
def loadsPayload (messagePayload : String) : Except PyException PyObj :=
  match v.json.loads messagePayload with
  | .ok payload => .ok payload
  | .error e =>
    if e.isInstance .valueError then .error (.new .validationError "not a valid JSON")
    else .error e

/-- `_extract_data_helper` after its first assertion. -/
def extractDataHelper (messagePayload : String) (attributes : Attributes)
    (useTransportMessageAttributes : Bool) : Except PyException (MetaAttributes × PyObj) := do
  let payload ← v.loadsPayload messagePayload
  match useTransportMessageAttributes with
  | false =>
    v.verifyContainer payload
    let data ← getItem payload "data"
    let metaAttrs ← containerMetaAttributes payload
    return (metaAttrs, data)
  | true =>
    let metaAttrs ← decodeMetaAttributes v.useTransportMessageAttributes attributes
    verifyFormatVersion metaAttrs.formatVersion currentFormatVersion
    return (metaAttrs, payload)

/-- `_extract_data`. -/
def extractData (messagePayload : Payload) (attributes : Attributes)
    (useTransportAttributes : Bool) : Except PyException (MetaAttributes × PyObj) :=
  match messagePayload with
  | .str s => v.extractDataHelper s attributes useTransportAttributes
  | .bytes _ => .error (.new .assertionError "")

/-- `_extract_data_firehose`. -/
def extractDataFirehose (line : String) : Except PyException (MetaAttributes × PyObj) :=
  v.extractDataHelper line .empty false

/-- `_decode_data`. -/
def decodeData (metaAttrs : MetaAttributes) (messageType : String) (fullVersion : StrictVersion)
    (data : PyObj) : Except PyException PyObj := do
  match metaAttrs.schema with
  | .str s =>
    if PyStr.startsWith s v.schemaRoot then
      let schema ← v.schema messageType fullVersion.major
      let errors ← v.jsonschema.iterErrors data schema
      if errors ≠ [] then .error (.new .validationError ("[" ++ ", ".intercalate errors ++ "]"))
      else .ok data
    else
      .error (.new .validationError
        ("message schema must start with \"" ++ v.schemaRoot ++ "\""))
  | _ => .error (.new .attributeError "object has no attribute 'startswith'")

/-- The container that a message is written in. -/
def container (metaAttrs : MetaAttributes) (data : PyObj) : PyObj :=
  .dict [(.str "format_version", .str currentFormatVersion.str),
    (.str "schema", metaAttrs.schema),
    (.str "id", metaAttrs.id),
    (.str "metadata", .dict [(.str "timestamp", metaAttrs.timestamp),
      (.str "publisher", metaAttrs.publisher),
      (.str "headers", metaAttrs.headers)]),
    (.str "data", data)]

/-- `_encode_payload_helper`.  In a container the headers are returned as attributes too. -/
def encodePayloadHelper (metaAttrs : MetaAttributes) (data : PyObj)
    (useTransportMessageAttributes : Bool) : Except PyException (String × Attributes) := do
  match useTransportMessageAttributes with
  | false =>
    let text ← jsonDumps v.json (container metaAttrs data)
    return (text, toDict metaAttrs.headers)
  | true =>
    let msgAttrs ← encodeMetaAttributes v.useTransportMessageAttributes metaAttrs
    let text ← jsonDumps v.json data
    return (text, msgAttrs)

/-- `_encode_payload`. -/
def encodePayload (metaAttrs : MetaAttributes) (data : PyObj) (useTransportAttributes : Bool) :
    Except PyException (Payload × Attributes) := do
  let (text, msgAttrs) ← v.encodePayloadHelper metaAttrs data useTransportAttributes
  return (.str text, msgAttrs)

variable {v} in
/-- What is encoded into a container. -/
lemma encodeContainer_eq_ok {metaAttrs : MetaAttributes} {data : PyObj} {payload : Payload}
    {attributes : Attributes} :
    v.encodePayload metaAttrs data false = .ok (payload, attributes) ↔
      ∃ text, jsonDumps v.json (container metaAttrs data) = .ok text ∧ payload = .str text ∧
        attributes = toDict metaAttrs.headers := by
  simp only [encodePayload, encodePayloadHelper, bind_eq_ok]
  constructor
  · rintro ⟨_, ⟨text, hdumps, hreturn⟩, hreturn'⟩
    obtain rfl := Except.ok.inj hreturn
    obtain ⟨rfl, rfl⟩ := Prod.mk.inj (Except.ok.inj hreturn')
    exact ⟨text, hdumps, rfl, rfl⟩
  · rintro ⟨text, hdumps, rfl, rfl⟩
    exact ⟨_, ⟨text, hdumps, rfl⟩, rfl⟩

variable {v} in
/-- What is encoded beside transport attributes. -/
lemma encodeTransport_eq_ok {metaAttrs : MetaAttributes} {data : PyObj} {payload : Payload}
    {attributes : Attributes} :
    v.encodePayload metaAttrs data true = .ok (payload, attributes) ↔
      ∃ text, encodeMetaAttributes v.useTransportMessageAttributes metaAttrs = .ok attributes ∧
        jsonDumps v.json data = .ok text ∧ payload = .str text := by
  simp only [encodePayload, encodePayloadHelper, bind_eq_ok]
  constructor
  · rintro ⟨_, ⟨msgAttrs, hencode, text, hdumps, hreturn⟩, hreturn'⟩
    obtain rfl := Except.ok.inj hreturn
    obtain ⟨rfl, rfl⟩ := Prod.mk.inj (Except.ok.inj hreturn')
    exact ⟨text, hencode, hdumps, rfl⟩
  · rintro ⟨text, hencode, hdumps, rfl⟩
    exact ⟨_, ⟨attributes, hencode, text, hdumps, rfl⟩, rfl⟩

/-- `_encode_payload_firehose`. -/
def encodePayloadFirehose (metaAttrs : MetaAttributes) (data : PyObj) :
    Except PyException String := do
  let (text, _) ← v.encodePayloadHelper metaAttrs data false
  return text

/-- The methods of the validator. -/
def toBase : HedwigBaseValidator PyObj PyObj where
  schemaFmt := v.schemaFmt
  formatField := v.formatField
  currentFormatVersion := currentFormatVersion
  useTransportMessageAttributes := v.useTransportMessageAttributes
  extractData := v.extractData
  extractDataFirehose := v.extractDataFirehose
  decodeData := v.decodeData
  verifyKnownMinorVersion := v.verifyKnownMinorVersion
  encodePayload := v.encodePayload
  encodePayloadFirehose := fun _ _ => v.encodePayloadFirehose

end JSONSchemaValidator

end Hedwig
