import Hedwig.Validators.Lookup
import Hedwig.Validators.SchemaRoot

set_option relaxedAutoImplicit false
set_option autoImplicit false

/-!
# The human UUID format

The class `JSONSchemaValidator` builds its format checker in the first line of its body and
registers the format `human-uuid` with the class of format checkers in the last one.  The checker
has copied the formats by then, so the format is not among its own, and the validators that are
constructed with it do not look at it.

## Main definitions

* `Hedwig.classBody` — the body of the class, as far as it is about formats.
* `Hedwig.IsHumanUuid` — five groups of lower case hexadecimal digits with hyphens between them.
* `Hedwig.Governs` — which values in the data a definition declares to be of the format.
* `Hedwig.exactFormat` — the format as it is meant.
* `Hedwig.JSONSchemaValidator.MeetsFormat` — all these values are human UUIDs, and a validator with
  the format accepts the data.
* `Hedwig.JSONSchemaValidator.EnforcesHumanUuid` — messages are accepted only if their data are so.

## Main results

* `Hedwig.JSONSchemaValidator.enforcesHumanUuid_iff` — for which schemas and data this holds.
* `Hedwig.JSONSchemaValidator.enforcesHumanUuid_counterexample` — a trip for which it does not.
* `Hedwig.JSONSchemaValidator.received_of_serialize` — the data that a returned payload holds are
  those of the message.
* `Hedwig.checkHumanUuid_eq_true_iff` — what the registered function accepts.

## Design

`FormatChecker` and `Draft4Validator` are third-party: creating a checker copies the formats of the
class, registering a format adds it to the class only, and a validator ignores the formats that its
checker does not have.  Below `anyOf` and `oneOf` a value is governed if every alternative that
accepts the data, formats aside, governs it: no other one can be what the data are accepted by.
What a definition asks of several values together, or through `not`, no single value is governed by;
so it is asked, too, that the data pass a validator that has the format.
-/

namespace Hedwig

/-! ## Format checkers -/

/-- The formats of a checker, with what each accepts. -/
abbrev FormatCheckers := PyDict String (PyObj → Bool)

/-- `FormatChecker()`: the formats of the class, as they are at that moment. -/
def newFormatChecker (classCheckers : FormatCheckers) : FormatCheckers := classCheckers

/-- `FormatChecker.cls_checks(format)(check)`. -/
def clsChecks (classCheckers : FormatCheckers) (format : String) (check : PyObj → Bool) :
    FormatCheckers :=
  classCheckers.set format check

/-- `_check_human_uuid`. -/
def checkHumanUuid : PyObj → Bool
  | .str s => humanUuidSearch s
  | _ => false

/-- The body of the class, as far as it is about formats: the class attribute `checker`, and the
formats of the class of format checkers afterwards. -/
def classBody (classCheckers : FormatCheckers) : FormatCheckers × FormatCheckers :=
  let checker := newFormatChecker classCheckers
  let classCheckers := clsChecks classCheckers "human-uuid" checkHumanUuid
  (checker, classCheckers)

/-- What `jsonschema` promises of `Draft4Validator(schema, format_checker=checker)`: to ignore a
format that the checker does not have, as if every value were of this format. -/
def IgnoresUnknownFormats
    (draft4Validator : FormatCheckers → PyObj → Except PyException SchemaLib) : Prop :=
  ∀ checker format schema, format ∉ checker.keys →
    draft4Validator (checker.set format fun _ => true) schema = draft4Validator checker schema

/-! ## Human UUIDs -/

/-- Groups of lower case hexadecimal digits of the given lengths, with hyphens between them. -/
def Grouped : List ℕ → List Char → Prop
  | [], cs => cs = []
  | [n], cs => cs.length = n ∧ ∀ c ∈ cs, isHexDigit c = true
  | n :: n' :: ns, cs => ∃ group rest, cs = group ++ '-' :: rest ∧ group.length = n ∧
      (∀ c ∈ group, isHexDigit c = true) ∧ Grouped (n' :: ns) rest

/-- A string of 8-4-4-4-12 lower case hexadecimal digits and nothing more. -/
def IsHumanUuid (value : PyObj) : Prop :=
  ∃ s, value = .str s ∧ Grouped [8, 4, 4, 4, 12] s.toList

open Classical in
/-- The format as it is meant: human UUIDs are accepted, and nothing else. -/
noncomputable def exactFormat (value : PyObj) : Bool := decide (IsHumanUuid value)

/-- It accepts human UUIDs only. -/
lemma exactFormat_eq_true_iff {value : PyObj} : exactFormat value = true ↔ IsHumanUuid value := by
  simp [exactFormat]

/-- The search for groups finds them up to the end, or to a line feed there: by induction on the
lengths. -/
lemma hexGroups_eq_true_iff {ns : List ℕ} {cs : List Char} :
    hexGroups ns cs = true ↔
      ∃ body tail, cs = body ++ tail ∧ Grouped ns body ∧ StrictVersion.atEnd tail = true := by
  induction ns generalizing cs with
  | nil => simp [hexGroups, Grouped]
  | cons n ns ih =>
    cases ns with
    | nil =>
      simp only [hexGroups, Grouped, Bool.decide_and, Bool.and_eq_true, decide_eq_true_eq,
        List.all_eq_true]
      constructor
      · rintro ⟨hlength, hdigits, htail⟩
        exact ⟨cs.take n, cs.drop n, (List.take_append_drop n cs).symm, ⟨hlength, hdigits⟩, htail⟩
      · rintro ⟨body, tail, rfl, ⟨rfl, hdigits⟩, htail⟩
        simpa using ⟨hdigits, htail⟩
    | cons n' ns =>
      simp only [hexGroups, Grouped]
      constructor
      · intro h
        split_ifs at h with hgroup
        split at h
        · rename_i rest hrest
          obtain ⟨body, tail, rfl, hbody, htail⟩ := ih.mp h
          refine ⟨cs.take n ++ '-' :: body, tail, ?_, ⟨cs.take n, body, rfl, hgroup.1,
            List.all_eq_true.mp hgroup.2, hbody⟩, htail⟩
          rw [List.append_assoc, List.cons_append, ← hrest, List.take_append_drop]
        · cases h
      · rintro ⟨_, tail, rfl, ⟨group, rest, rfl, rfl, hdigits, hrest⟩, htail⟩
        have hmore := ih.mpr ⟨rest, tail, rfl, hrest, htail⟩
        have hall : group.all isHexDigit = true := List.all_eq_true.mpr hdigits
        simp [hall, hmore]

/-- **The registered function** accepts human UUIDs, and a line feed after one. -/
lemma checkHumanUuid_eq_true_iff {value : PyObj} :
    checkHumanUuid value = true ↔
      IsHumanUuid value ∨ ∃ s, value = .str (s ++ "\n") ∧ IsHumanUuid (.str s) := by
  cases value with
  | str s =>
    simp only [checkHumanUuid, humanUuidSearch, hexGroups_eq_true_iff, IsHumanUuid, PyObj.str.injEq,
      exists_eq_left']
    constructor
    · rintro ⟨body, tail, hs, hbody, htail⟩
      rcases of_decide_eq_true htail with rfl | rfl
      · rw [List.append_nil] at hs
        exact .inl (hs ▸ hbody)
      · refine .inr ⟨String.ofList body, ?_, by rwa [String.toList_ofList]⟩
        apply String.toList_injective
        rw [hs, String.toList_append, String.toList_ofList]
        rfl
    · rintro (hs | ⟨t, rfl, ht⟩)
      · exact ⟨_, [], (List.append_nil _).symm, hs, rfl⟩
      · exact ⟨t.toList, ['\n'], by rw [String.toList_append]; rfl, ht, rfl⟩
  | _ => simp [checkHumanUuid, IsHumanUuid]

/-! ## Governed values -/

/-- The reference of a schema, beside which its other keywords are ignored; `null` is none. -/
def refersTo? (fields : List (PyKey × PyObj)) : Option PyObj :=
  match PyObj.field? fields "$ref" with
  | some .none => none
  | ref => ref

/-- A definition declares a value in the data to be of the format `human-uuid`, directly or through
the keywords that apply other schemas.  `search` is the search of a regular expression, and `lib`
follows a reference, from the root of the schema, and says which alternatives accept the data. -/
inductive Governs (search : String → String → Bool) (lib : SchemaLib) :
    PyObj → PyObj → PyObj → Prop
  /-- `format`. -/
  | format {fields : List (PyKey × PyObj)} {value : PyObj}
      (href : refersTo? fields = none)
      (hformat : PyObj.field? fields "format" = some (.str "human-uuid")) :
      Governs search lib (.dict fields) value value
  /-- `$ref`. -/
  | reference {fields : List (PyKey × PyObj)} {ref : String} {target data value : PyObj}
      (href : refersTo? fields = some (.str ref)) (htarget : lib.resolve ref = .ok target)
      (h : Governs search lib target data value) :
      Governs search lib (.dict fields) data value
  /-- `properties`. -/
  | property {fields properties items : List (PyKey × PyObj)} {name : String}
      {schema item value : PyObj} (href : refersTo? fields = none)
      (hproperties : PyObj.field? fields "properties" = some (.dict properties))
      (hschema : PyObj.field? properties name = some schema)
      (hitem : PyObj.field? items name = some item) (h : Governs search lib schema item value) :
      Governs search lib (.dict fields) (.dict items) value
  /-- `patternProperties`. -/
  | patternProperty {fields patterns items : List (PyKey × PyObj)} {pattern name : String}
      {schema item value : PyObj} (href : refersTo? fields = none)
      (hpatterns : PyObj.field? fields "patternProperties" = some (.dict patterns))
      (hschema : PyObj.field? patterns pattern = some schema)
      (hitem : PyObj.field? items name = some item) (hsearch : search pattern name = true)
      (h : Governs search lib schema item value) :
      Governs search lib (.dict fields) (.dict items) value
  /-- `additionalProperties`, for the properties that the other two keywords do not describe. -/
  | additionalProperty {fields items : List (PyKey × PyObj)} {name : String}
      {schema item value : PyObj} (href : refersTo? fields = none)
      (hschema : PyObj.field? fields "additionalProperties" = some schema)
      (hitem : PyObj.field? items name = some item)
      (hproperties : ∀ properties, PyObj.field? fields "properties" = some (.dict properties) →
        PyObj.field? properties name = none)
      (hpatterns : ∀ patterns, PyObj.field? fields "patternProperties" = some (.dict patterns) →
        ∀ pattern schema, PyObj.field? patterns pattern = some schema → search pattern name = false)
      (h : Governs search lib schema item value) :
      Governs search lib (.dict fields) (.dict items) value
  /-- `items` with one schema. -/
  | item {fields schema : List (PyKey × PyObj)} {items : List PyObj} {item value : PyObj}
      (href : refersTo? fields = none)
      (hschema : PyObj.field? fields "items" = some (.dict schema)) (hitem : item ∈ items)
      (h : Governs search lib (.dict schema) item value) :
      Governs search lib (.dict fields) (.list items) value
  /-- `items` with a schema for each position. -/
  | itemAt {fields : List (PyKey × PyObj)} {schemas items : List PyObj} {i : ℕ}
      {schema item value : PyObj} (href : refersTo? fields = none)
      (hschemas : PyObj.field? fields "items" = some (.list schemas))
      (hschema : schemas[i]? = some schema) (hitem : items[i]? = some item)
      (h : Governs search lib schema item value) :
      Governs search lib (.dict fields) (.list items) value
  /-- `additionalItems`, for the positions after these. -/
  | additionalItem {fields : List (PyKey × PyObj)} {schemas items : List PyObj} {i : ℕ}
      {schema item value : PyObj} (href : refersTo? fields = none)
      (hschemas : PyObj.field? fields "items" = some (.list schemas))
      (hschema : PyObj.field? fields "additionalItems" = some schema) (hi : schemas.length ≤ i)
      (hitem : items[i]? = some item) (h : Governs search lib schema item value) :
      Governs search lib (.dict fields) (.list items) value
  /-- `dependencies` with a schema. -/
  | dependency {fields dependencies items : List (PyKey × PyObj)} {name : String}
      {schema item value : PyObj} (href : refersTo? fields = none)
      (hdependencies : PyObj.field? fields "dependencies" = some (.dict dependencies))
      (hschema : PyObj.field? dependencies name = some schema)
      (hitem : PyObj.field? items name = some item)
      (h : Governs search lib schema (.dict items) value) :
      Governs search lib (.dict fields) (.dict items) value
  /-- `allOf`. -/
  | allOf {fields : List (PyKey × PyObj)} {schemas : List PyObj} {schema data value : PyObj}
      (href : refersTo? fields = none)
      (hschemas : PyObj.field? fields "allOf" = some (.list schemas)) (hschema : schema ∈ schemas)
      (h : Governs search lib schema data value) :
      Governs search lib (.dict fields) data value
  /-- `anyOf` and `oneOf`: there are alternatives that accept the data, and each governs the
  value. -/
  | alternatives {fields : List (PyKey × PyObj)} {keyword : String} {schemas : List PyObj}
      {data value : PyObj} (href : refersTo? fields = none)
      (hkeyword : keyword ∈ ["anyOf", "oneOf"])
      (hschemas : PyObj.field? fields keyword = some (.list schemas))
      (hsome : ∃ schema ∈ schemas, lib.iterErrors data schema = .ok [])
      (h : ∀ schema ∈ schemas, lib.iterErrors data schema = .ok [] →
        Governs search lib schema data value) :
      Governs search lib (.dict fields) data value

/-- What a single alternative governs is governed. -/
example {search : String → String → Bool} {lib : SchemaLib} {schema data value : PyObj}
    (haccepts : lib.iterErrors data schema = .ok []) (h : Governs search lib schema data value) :
    Governs search lib (.dict [(.str "anyOf", .list [schema])]) data value :=
  .alternatives rfl (.head _) rfl ⟨schema, .head _, haccepts⟩ fun _ hmem _ =>
    List.mem_singleton.mp hmem ▸ h

namespace JSONSchemaValidator

section

variable (v : JSONSchemaValidator) (enforcing : Except PyException SchemaLib)
  (search : String → String → Bool) {π : Type} {s : String} {data : PyObj}

/-- Every value in the data that the definition of a schema governs is a human UUID. -/
def GovernedAreUuids (s : String) (data : PyObj) : Prop :=
  ∀ messageType version definition,
    decodeMessageType (.str s) = .ok (messageType, version) →
    v.schema messageType version.major = .ok definition →
    ∀ value, Governs search v.jsonschema definition data value → IsHumanUuid value

/-- The data meet the format: every value that the definition of the schema governs is a human UUID,
and the data are acceptable if `jsonschema` is used with a checker that has the format. -/
def MeetsFormat (s : String) (data : PyObj) : Prop :=
  v.GovernedAreUuids search s data ∧
    ∀ lib, enforcing = .ok lib → { v with jsonschema := lib }.Acceptable s data

/-- A message with this schema and these data is deserialized, and a payload that holds them is
returned for a message, only if the data meet the format. -/
def EnforcesHumanUuid (π : Type) (s : String) (data : PyObj) : Prop :=
  (∀ (payload : Payload) (attributes : Attributes) (providerMetadata : Option π)
    (m : Message PyObj π), v.Received payload attributes s data →
    v.toBase.deserialize payload attributes providerMetadata = .ok m →
    v.MeetsFormat enforcing search s data) ∧
  ∀ (m : Message PyObj π) (payload : Payload) (attributes : Attributes),
    v.toBase.serialize m = .ok (payload, attributes) → v.Received payload attributes s data →
    v.MeetsFormat enforcing search s data

variable {v}

/-- What is serialized has been deserialized, so it is enough to look at the data that pass the
checks. -/
lemma enforcesHumanUuid_iff_acceptable (hc : v.jsonschema.ChecksContainer) :
    v.EnforcesHumanUuid enforcing search π s data ↔
      (v.Acceptable s data → v.MeetsFormat enforcing search s data) := by
  constructor
  · rintro ⟨hdeserialize, -⟩ hacceptable
    obtain ⟨payload, attributes, m, hreceived, h⟩ :=
      v.exists_deserialize_of_acceptable (π := π) hc hacceptable
    exact hdeserialize payload attributes none m hreceived h
  · intro hmeets
    have hdeserialize : ∀ (payload : Payload) (attributes : Attributes)
        (providerMetadata : Option π) (m : Message PyObj π),
        v.Received payload attributes s data →
        v.toBase.deserialize payload attributes providerMetadata = .ok m →
        v.MeetsFormat enforcing search s data := fun _ _ _ _ hreceived h =>
      hmeets (v.acceptable_of_deserialize hc hreceived h).1
    refine ⟨hdeserialize, fun m payload attributes h hreceived => ?_⟩
    obtain ⟨-, -, _, -, -, m', hcheck⟩ := v.toBase.serializeMode_eq_ok h
    exact hdeserialize payload attributes none m' hreceived hcheck

/-- The payload that is returned for a message with JSON data holds these data, under the schema of
the type and the version of the message. -/
lemma received_of_serialize (hjson : v.json.RoundTrips) {m : Message PyObj π} {payload : Payload}
    {attributes : Attributes} (hannotated : m.Annotated) (hdata : m.data.IsJson)
    (h : v.toBase.serialize m = .ok (payload, attributes)) :
    ∃ schema, v.toBase.encodeMessageType m.type m.version = .ok schema ∧
      v.Received payload attributes schema m.data := by
  obtain ⟨-, hheaders, schema, henc, hencode, m', hcheck⟩ := v.toBase.serializeMode_eq_ok h
  refine ⟨schema, henc, ?_⟩
  change v.encodePayload _ _ v.useTransportMessageAttributes = _ at hencode
  rw [Received]
  cases hmode : v.useTransportMessageAttributes with
  | false =>
    rw [if_neg Bool.false_ne_true]
    rw [hmode] at hencode
    obtain ⟨text, hdumps, rfl, -⟩ := encodeContainer_eq_ok.mp hencode
    have hstrings := stringHeaders_of_verifyHeaders hannotated.headers hheaders
    have hloads := loads_jsonDumps hjson (isJson_container hannotated hstrings hdata) hdumps
    exact ⟨text, _, rfl, hloads, rfl, rfl⟩
  | true =>
    rw [if_pos rfl]
    rw [hmode] at hencode
    obtain ⟨text, hmsgAttrs, hdumps, rfl⟩ := encodeTransport_eq_ok.mp hencode
    refine ⟨?_, text, rfl, loads_jsonDumps hjson hdata hdumps⟩
    obtain ⟨metaAttrs, _, _, _, _, hextract, -⟩ := v.toBase.deserializeMode_eq_ok.mp hcheck
    change v.extractDataHelper text attributes v.useTransportMessageAttributes = _ at hextract
    rw [hmode] at hextract hmsgAttrs
    obtain ⟨-, hdecode, hversion⟩ := (v.extractTransport_eq_ok hmode).mp hextract
    have hcarries := v.toBase.carries_of_transport hannotated hheaders hmsgAttrs hdecode
    obtain ⟨_, _, _, _, s', _, -, -, -, -, hget, -, -, -, rfl⟩ :=
      decodeMetaAttributes_eq_ok.mp ⟨hdecode, hversion⟩
    obtain rfl : s' = schema := PyObj.str.inj hcarries.schema
    exact hget

end

/-! ## The checker of the class -/

section

variable {classCheckers : FormatCheckers}
  {draft4Validator : FormatCheckers → PyObj → Except PyException SchemaLib} {json : JsonLib}
  {formatField : String → String → String → Except PyException String}
  {useTransportMessageAttributes : Bool} {schema : List (PyKey × PyObj)} {τ φ : Type}
  {messageRouting : PyDict (String × String) τ} {callbacks : PyDict (String × String) φ}

/-- The format is registered with the class, and the checker does not have it. -/
lemma classBody_formats (hnew : "human-uuid" ∉ classCheckers.keys) :
    (classBody classCheckers).2.get? "human-uuid" = some checkHumanUuid ∧
      "human-uuid" ∉ (classBody classCheckers).1.keys :=
  ⟨PyDict.get?_set_self _ _ _, hnew⟩

/-- The validator is constructed as if every value were a human UUID. -/
lemma new_classBody (hnew : "human-uuid" ∉ classCheckers.keys)
    (hignores : IgnoresUnknownFormats draft4Validator) :
    new json formatField useTransportMessageAttributes
        (draft4Validator ((classBody classCheckers).1.set "human-uuid" fun _ => true)) schema
        messageRouting callbacks =
      new json formatField useTransportMessageAttributes
        (draft4Validator (classBody classCheckers).1) schema messageRouting callbacks := by
  have heq : draft4Validator ((classBody classCheckers).1.set "human-uuid" fun _ => true) =
      draft4Validator (classBody classCheckers).1 := by
    funext schema
    exact hignores _ _ schema (classBody_formats hnew).2
  rw [heq]

/-- **When human UUIDs are enforced.**  Let `v` be the validator that is constructed for a schema
with the checker of the class, and `v'` one for which every value is a human UUID.  Then `v`
deserializes and serializes messages with a schema and data only if the data meet the format,
exactly if they do or `v'` does not accept them under this schema, for reasons other than the
format.

**Proof sketch.**  The checker of the class was copied before the format was registered, so it does
not have it, and `v` is `v'`.  A payload that `serialize` returns has been deserialized, so both
operations accept exactly the data that are acceptable; and there is a message for each of these. -/
theorem enforcesHumanUuid_iff (hnew : "human-uuid" ∉ classCheckers.keys)
    (hignores : IgnoresUnknownFormats draft4Validator) (v v' : JSONSchemaValidator)
    (hv : new json formatField useTransportMessageAttributes
      (draft4Validator (classBody classCheckers).1) schema messageRouting callbacks = .ok v)
    (hv' : new json formatField useTransportMessageAttributes
      (draft4Validator ((classBody classCheckers).1.set "human-uuid" fun _ => true)) schema
      messageRouting callbacks = .ok v')
    (hc : v.jsonschema.ChecksContainer) (search : String → String → Bool) (π : Type) (s : String)
    (data : PyObj) :
    let enforcing := draft4Validator ((classBody classCheckers).1.set "human-uuid" exactFormat)
      (.dict schema)
    v.EnforcesHumanUuid enforcing search π s data ↔
      (v'.Acceptable s data → v.MeetsFormat enforcing search s data) := by
  rw [new_classBody hnew hignores] at hv'
  obtain rfl : v = v' := Except.ok.inj (hv.symm.trans hv')
  exact enforcesHumanUuid_iff_acceptable _ search hc

end

end JSONSchemaValidator

/-! ## Vehicles of trips -/

/-- The errors about the keyword `format` of a schema. -/
def formatErrors (checker : FormatCheckers) (value : PyObj) (fields : List (PyKey × PyObj)) :
    List String :=
  match PyObj.field? fields "format" with
  | some (.str format) =>
    match checker.get? format with
    | some check => if check value then [] else [value.text ++ " is not a '" ++ format ++ "'"]
    | none => []
  | _ => []

/-- The errors about the formats of the described properties. -/
def propertyErrors (checker : FormatCheckers) (data definition : PyObj) : List String :=
  match data, definition with
  | .dict items, .dict fields =>
    match PyObj.field? fields "properties" with
    | some (.dict properties) => properties.flatMap fun kv =>
      match PyObj.field? items kv.1.text, kv.2 with
      | some value, .dict schema => formatErrors checker value schema
      | _, _ => []
    | _ => []
  | _, _ => []

/-- A validator that follows pointers, and knows the formats of the described properties. -/
def formatSchemaLib (checker : FormatCheckers) : PyObj → Except PyException SchemaLib
  | .dict schema =>
    .ok { pointerSchemaLib schema with
      iterErrors := fun data definition => .ok (propertyErrors checker data definition)
      containerErrors := permissiveSchemaLib.containerErrors }
  | _ => .error (.new .typeError "")

/-- It ignores the formats that its checker does not have. -/
lemma ignoresUnknownFormats_formatSchemaLib : IgnoresUnknownFormats formatSchemaLib := by
  intro checker format schema hformat
  have herrors : formatErrors (checker.set format fun _ => true) = formatErrors checker := by
    funext value fields
    unfold formatErrors
    split
    · rename_i name _
      by_cases hname : name = format
      · subst hname
        simp [PyDict.get?_eq_none_iff.mpr hformat]
      · rw [PyDict.get?_set_of_ne _ _ hname]
    · rfl
  have hproperties : propertyErrors (checker.set format fun _ => true) =
      propertyErrors checker := by
    funext data definition
    simp only [propertyErrors, herrors]
  cases schema <;> simp only [formatSchemaLib, hproperties]

/-- The schema of a vehicle. -/
def vehicleSchema : List (PyKey × PyObj) := [(.str "format", .str "human-uuid")]

/-- The definition of a trip, with a vehicle. -/
def tripDefinition : PyObj :=
  .dict [(.str "x-version", .str "1.0"),
    (.str "properties", .dict [(.str "vehicle_id", .dict vehicleSchema)])]

/-- A file with this definition. -/
def tripFile : List (PyKey × PyObj) :=
  [(.str "id", .str "https://hedwig.automatic.com/schema"),
    (.str "schemas", .dict [(.str "trip_created", .dict [(.str "1.*", tripDefinition)])])]

/-- The data of a trip. -/
def trip (vehicleId : String) : PyObj := .dict [(.str "vehicle_id", .str vehicleId)]

/-- The text of these data. -/
def tripText (vehicleId : String) : String := "\x7b\"vehicle_id\":\"" ++ vehicleId ++ "\"\x7d"

/-- A JSON codec that knows this text. -/
def tripLib (vehicleId : String) : JsonLib where
  encode _ := .ok (tripText vehicleId)
  loads s := if s = tripText vehicleId then .ok (trip vehicleId)
    else .error (.new .jsonDecodeError "")
  floatOfDecimal _ _ := "0.0"
  otherKey _ := .error (.new .typeError "")

/-- What the validator is constructed from, with some format checkers. -/
def newTrip (vehicleId : String) (checker : FormatCheckers) :
    Except PyException JSONSchemaValidator :=
  JSONSchemaValidator.new (tripLib vehicleId) emptyDocumentValidator.formatField true
    (formatSchemaLib checker) tripFile (routingWith "trip_created" "1.*")
    (.empty : CallbackRegistry Unit Unit)

/-- The validator that is constructed. -/
def tripValidator (vehicleId : String) (checker : FormatCheckers) : JSONSchemaValidator :=
  { emptyDocumentValidator with
    json := tripLib vehicleId
    jsonschema :=
      { pointerSchemaLib tripFile with
        iterErrors := fun data definition => .ok (propertyErrors checker data definition)
        containerErrors := permissiveSchemaLib.containerErrors } }

/-- It is found under its reference. -/
lemma schema_tripValidator (vehicleId : String) (checker : FormatCheckers) :
    (tripValidator vehicleId checker).schema "trip_created" 1 = .ok tripDefinition := by
  have hresolves : (tripValidator vehicleId checker).jsonschema.ResolvesIn tripFile :=
    resolvesIn_pointerSchemaLib tripFile
  have hroot : JsonPointer.isAbsolute "https://hedwig.automatic.com/schema" = true := by decide
  have htype : JsonPointer.IsPlain "trip_created" :=
    ⟨by decide, by decide, by decide, by decide, by decide⟩
  have hpattern : JsonPointer.IsPlain "1.*" :=
    ⟨by decide, by decide, by decide, by decide, by decide⟩
  have hid : PyObj.field? tripFile "id" =
      some (.str (tripValidator vehicleId checker).schemaRoot) := rfl
  obtain ⟨ptr, hformat, hdenotes⟩ :=
    JSONSchemaValidator.exists_denotes_of_isPlain hid hroot (by decide) rfl rfl rfl htype hpattern
  exact (tripValidator vehicleId checker).schema_eq_ok.mpr
    ⟨ptr, hformat, (JSONSchemaValidator.resolve_iff_denotes hresolves).mpr hdenotes⟩

/-- The vehicle is governed. -/
lemma governs_vehicleId (search : String → String → Bool) (lib : SchemaLib) (vehicleId : String) :
    Governs search lib tripDefinition (trip vehicleId) (.str vehicleId) := by
  have hschema : PyObj.field? [(.str "vehicle_id", .dict vehicleSchema)] "vehicle_id" =
      some (.dict vehicleSchema) := rfl
  have hformat : PyObj.field? vehicleSchema "format" = some (.str "human-uuid") := rfl
  exact .property rfl rfl hschema rfl (.format rfl hformat)

/-- Nothing else is. -/
lemma eq_vehicleId_of_governs {search : String → String → Bool} {lib : SchemaLib}
    {vehicleId : String} {value : PyObj}
    (h : Governs search lib tripDefinition (trip vehicleId) value) :
    value = .str vehicleId := by
  cases h with
  | property href hproperties hschema hitem h =>
    rename_i name schema item
    obtain rfl := PyObj.dict.inj (Option.some.inj hproperties)
    obtain rfl : name = "vehicle_id" := by
      by_contra hne
      simp [PyObj.field?, Ne.symm hne] at hschema
    obtain rfl := Option.some.inj hschema
    obtain rfl := Option.some.inj hitem
    cases h with
    | format => rfl
    | reference href => cases href
    | allOf _ hschemas => cases hschemas
    | alternatives _ hkeyword hschemas =>
      rcases List.mem_pair.mp hkeyword with rfl | rfl <;> cases hschemas
  | additionalProperty _ hschema => cases hschema
  | format _ hformat => cases hformat
  | reference href => cases href
  | patternProperty _ hpatterns => cases hpatterns
  | dependency _ hdependencies => cases hdependencies
  | allOf _ hschemas => cases hschemas
  | alternatives _ hkeyword hschemas =>
    rcases List.mem_pair.mp hkeyword with rfl | rfl <;> cases hschemas

/-- The data of a trip pass the other checks of a validator. -/
lemma acceptable_trip {vehicleId : String} {checker : FormatCheckers}
    (h : propertyErrors checker (trip vehicleId) tripDefinition = []) :
    (tripValidator vehicleId checker).Acceptable configuredSchema (trip vehicleId) := by
  have hroot : PyStr.startsWith configuredSchema "https://hedwig.automatic.com/schema" = true := by
    decide +kernel
  exact ⟨⟨tripText vehicleId, if_pos rfl⟩, configuredSchema, _, _, tripDefinition, rfl,
    decodeMessageType_tripCreated (by decide +kernel), hroot,
    schema_tripValidator vehicleId checker, congrArg Except.ok h⟩

/-- Its governed values are human UUIDs if the vehicle is one. -/
lemma governedAreUuids_trip (search : String → String → Bool) {vehicleId : String}
    {checker : FormatCheckers} (h : IsHumanUuid (.str vehicleId)) :
    (tripValidator vehicleId checker).GovernedAreUuids search configuredSchema
      (trip vehicleId) := by
  intro messageType version definition htype hdefinition value hgoverns
  have htype' : decodeMessageType (.str configuredSchema) = _ :=
    decodeMessageType_tripCreated (by decide +kernel)
  obtain ⟨rfl, rfl⟩ := Prod.mk.inj (Except.ok.inj (htype'.symm.trans htype))
  have hschema := schema_tripValidator vehicleId checker
  obtain rfl := Except.ok.inj (hschema.symm.trans hdefinition)
  rwa [eq_vehicleId_of_governs hgoverns]

/-- The theorem at a trip whose vehicle is a human UUID. -/
theorem JSONSchemaValidator.enforcesHumanUuid_iff_sample :
    (tripValidator "6cac5588-24cc-4b4f-bbf9-7dc0ce93f96e" .empty).EnforcesHumanUuid
      (formatSchemaLib ((classBody .empty).1.set "human-uuid" exactFormat) (.dict tripFile))
      (fun _ _ => false) Unit configuredSchema (trip "6cac5588-24cc-4b4f-bbf9-7dc0ce93f96e") := by
  have huuid : IsHumanUuid (.str "6cac5588-24cc-4b4f-bbf9-7dc0ce93f96e") := ⟨_, rfl,
    "6cac5588".toList, _, rfl, rfl, List.all_eq_true.mp (by decide),
    "24cc".toList, _, rfl, rfl, List.all_eq_true.mp (by decide),
    "4b4f".toList, _, rfl, rfl, List.all_eq_true.mp (by decide),
    "bbf9".toList, _, rfl, rfl, List.all_eq_true.mp (by decide),
    by decide, List.all_eq_true.mp (by decide)⟩
  have hv : ∀ checker, newTrip "6cac5588-24cc-4b4f-bbf9-7dc0ce93f96e" checker =
      .ok (tripValidator "6cac5588-24cc-4b4f-bbf9-7dc0ce93f96e" checker) := fun _ => rfl
  refine (enforcesHumanUuid_iff List.not_mem_nil ignoresUnknownFormats_formatSchemaLib _ _
    (hv (classBody .empty).1) (hv _) checksContainer_permissiveSchemaLib _ Unit _ _).mpr fun _ =>
      ⟨governedAreUuids_trip _ huuid, ?_⟩
  rintro _ ⟨⟩
  refine @acceptable_trip _ ((classBody .empty).1.set "human-uuid" exactFormat) ?_
  have hformat : formatErrors ((classBody .empty).1.set "human-uuid" exactFormat)
      (.str "6cac5588-24cc-4b4f-bbf9-7dc0ce93f96e") vehicleSchema = [] :=
    if_pos (exactFormat_eq_true_iff.mpr huuid)
  exact (List.append_nil _).trans hformat

/-- **The format is not enforced.**  The validator with the checker of the class deserializes a trip
whose vehicle is eight digits long. -/
theorem JSONSchemaValidator.enforcesHumanUuid_counterexample :
    ∃ v, newTrip "6cac5588" (classBody .empty).1 = .ok v ∧
      ∃ payload attributes m, v.Received payload attributes configuredSchema (trip "6cac5588") ∧
        v.toBase.deserialize payload attributes (none : Option Unit) = .ok m ∧
        v.schema m.type m.version.major = .ok tripDefinition ∧
        Governs (fun _ _ => false) v.jsonschema tripDefinition m.data (.str "6cac5588") ∧
        ¬ IsHumanUuid (.str "6cac5588") := by
  have hc : (tripValidator "6cac5588" .empty).jsonschema.ChecksContainer :=
    checksContainer_permissiveSchemaLib
  obtain ⟨payload, attributes, m, hreceived, h⟩ :=
    (tripValidator "6cac5588" .empty).exists_deserialize_of_acceptable (π := Unit) hc
      (acceptable_trip rfl)
  obtain ⟨-, htype, hdata⟩ :=
    (tripValidator "6cac5588" .empty).acceptable_of_deserialize hc hreceived h
  have htype' : decodeMessageType (.str configuredSchema) = _ :=
    decodeMessageType_tripCreated (by decide +kernel)
  obtain ⟨hmtype, hmversion⟩ := Prod.mk.inj (Except.ok.inj (htype'.symm.trans htype))
  refine ⟨tripValidator "6cac5588" .empty, rfl, payload, attributes, m, hreceived, h, ?_, ?_, ?_⟩
  · rw [← hmtype, ← hmversion]
    exact schema_tripValidator _ _
  · rw [hdata]
    exact governs_vehicleId _ _ _
  · rintro ⟨_, ⟨⟩, group, rest, hgroups, -⟩
    have hhyphen : '-' ∈ "6cac5588".toList := by simp [hgroups]
    exact absurd hhyphen (by decide)

end Hedwig
