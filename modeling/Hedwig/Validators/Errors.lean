import Hedwig.Validators.RoundTrip

set_option relaxedAutoImplicit false
set_option autoImplicit false

/-!
# Exceptions of the decoders

The docstrings of the decoding methods promise `ValidationError` for every payload that is not
valid.  This file says for which payloads and attributes they keep the promise, for each validator
and each method: each stage of the decoder that may let another exception out contributes one
condition on the input.

## Main definitions

* `Hedwig.TransportDecodable` — the condition on transport attributes.
* `Hedwig.JSONSchemaValidator.ContainerDecodable`, `Hedwig.ProtobufValidator.ContainerDecodable`,
  `Hedwig.ProtobufValidator.FirehoseDecodable` — the conditions on containers.
* `Hedwig.JSONSchemaValidator.DataDecodable`, `Hedwig.ProtobufValidator.DataDecodable` — the
  conditions on data.

## Main results

* `Hedwig.deserialize_raisesOnly` — the decoders raise only `ValidationError` exactly under the
  conditions.
* `Hedwig.deserialize_raises_others` — other exceptions do escape.
-/

namespace Hedwig

/-! ## Stages of the base validator -/

/-- A missing item is not a validation error. -/
lemma neverRaises_getItem (o : PyObj) (name : String) :
    NeverRaises .validationError (getItem o name) := by
  intro e h
  cases o with
  | dict fields =>
    simp only [getItem] at h
    split at h
    · cases h
    · rw [← Except.error.inj h]
      rfl
  | _ =>
    rw [← Except.error.inj h]
    rfl

/-- An item is found in a dictionary that has it. -/
lemma getItem_eq_ok {o : PyObj} {name : String} {value : PyObj} :
    getItem o name = .ok value ↔
      ∃ fields, o = .dict fields ∧ PyObj.field? fields name = some value := by
  cases o with
  | dict fields => cases h : PyObj.field? fields name <;> simp [getItem, h]
  | _ => simp [getItem]

/-- Every element up to the first one that is not in `P`, that one included, is in `Q`. -/
def UpToFirstNot {α : Type} (P Q : α → Prop) : List α → Prop
  | [] => True
  | a :: rest => Q a ∧ (P a → UpToFirstNot P Q rest)

/-- A value that cannot be printed is not a validation error. -/
lemma raisesOnly_strOf {o : PyObj} :
    RaisesOnly .validationError (strOf o) ↔ o.printable = true := by
  rw [strOf]
  split_ifs with h <;> simp [h, unprintable, ExceptionClass.bases]

/-- The first item that is no header has a value that can be printed, as the error text shows it. -/
def HeadersPrintable (items : List (PyKey × PyObj)) : Prop :=
  UpToFirstNot IsHeader (fun kv => kv.2.printable = true) items

/-- An item is accepted as a header, or refused with a validation error if it can be printed. -/
lemma raisesOnly_verifyHeader {kv : PyKey × PyObj} :
    RaisesOnly .validationError (verifyHeader kv) ↔ kv.2.printable = true := by
  have hprint : ∀ (k : PyKey) v, RaisesOnly .validationError (do
      let value ← strOf v
      (.error (.new .validationError ("Invalid header key or value: '" ++ k.text ++ "': '" ++
        value ++ "' - must be strings")) : Outcome)) ↔ v.printable = true := by
    intro k v
    simp only [raisesOnly_bind, raisesOnly_strOf, raisesOnly_error]
    exact and_iff_left fun _ _ => rfl
  obtain ⟨k, v⟩ := kv
  cases k with
  | str k =>
    cases v with
    | str s =>
      refine iff_of_true ?_ rfl
      rw [verifyHeader]
      split_ifs
      · exact raisesOnly_error.mpr rfl
      · exact raisesOnly_ok ()
    | _ => exact hprint _ _
  | _ => exact hprint _ _

/-- Headers that are a dictionary are accepted, or refused with a validation error if the first
item that is no header can be printed: by induction on the items. -/
lemma raisesOnly_verifyHeaders {headers : PyObj} :
    RaisesOnly .validationError (verifyHeaders headers) ↔
      ∃ items, headers = .dict items ∧ HeadersPrintable items := by
  have hitems : ∀ items, RaisesOnly .validationError (verifyHeaderItems items) ↔
      HeadersPrintable items := by
    intro items
    induction items with
    | nil => simp [verifyHeaderItems, HeadersPrintable, UpToFirstNot]
    | cons kv rest ih =>
      rw [verifyHeaderItems, raisesOnly_bind, raisesOnly_verifyHeader, ih, HeadersPrintable,
        HeadersPrintable, UpToFirstNot]
      refine and_congr_right fun _ => ⟨fun h hkv => ?_, fun h _ hkv => ?_⟩
      · exact h () (verifyHeader_eq_ok.mpr hkv)
      · exact h (verifyHeader_eq_ok.mp hkv)
  rw [verifyHeaders, raisesOnly_bind]
  cases headers with
  | dict items => simpa [getItems] using hitems items
  | _ => simp [getItems, ExceptionClass.bases]

/-- A schema that is a string is accepted or refused with a validation error. -/
lemma raisesOnly_decodeMessageType {schema : PyObj} :
    RaisesOnly .validationError (decodeMessageType schema) ↔ ∃ s, schema = .str s := by
  cases schema with
  | str s =>
    refine iff_of_true ?_ ⟨s, rfl⟩
    intro e h
    simp only [decodeMessageType] at h
    split at h
    · rw [← Except.error.inj h]
      rfl
    · split at h
      · rw [← Except.error.inj h]
        rfl
      · cases h
  | _ => simp [decodeMessageType, ExceptionClass.bases]

/-- A meta attribute that is no string is a validation error, if it can be printed. -/
lemma raisesOnly_stringAttribute {attributes : Attributes} {attr : String} :
    RaisesOnly .validationError (stringAttribute attributes attr) ↔
      ((attributes.get? (.str attr)).getD .none).printable = true := by
  rw [stringAttribute]
  split
  · rename_i s h
    simp [h, PyObj.printable]
  · simp only [raisesOnly_bind, raisesOnly_strOf, raisesOnly_error]
    exact and_iff_left fun _ _ => rfl

/-- The meta attributes, in the order in which they are looked up. -/
def metaAttributeNames : List String :=
  ["hedwig_format_version", "hedwig_id", "hedwig_message_timestamp", "hedwig_publisher",
    "hedwig_schema"]

/-- The condition on transport attributes.  The first meta attribute that is no string can be
printed.  Once the five are strings, every key is a string, the timestamp is a number and the
format version is a version; and if that is the current one, then the first of the other
attributes that is no header can be printed. -/
def TransportDecodable (current : StrictVersion) (attributes : Attributes) : Prop :=
  UpToFirstNot (fun name => ∃ s, attributes.get? (.str name) = some (.str s))
      (fun name => ((attributes.get? (.str name)).getD .none).printable = true)
      metaAttributeNames ∧
    ∀ formatVersion id timestamp publisher schema,
      attributes.get? (.str "hedwig_format_version") = some (.str formatVersion) →
      attributes.get? (.str "hedwig_id") = some (.str id) →
      attributes.get? (.str "hedwig_message_timestamp") = some (.str timestamp) →
      attributes.get? (.str "hedwig_publisher") = some (.str publisher) →
      attributes.get? (.str "hedwig_schema") = some (.str schema) →
      attributes.keys.all PyKey.isStr = true ∧ (PyStr.int? timestamp).isSome = true ∧
        (StrictVersion.parse formatVersion).isSome = true ∧
        (StrictVersion.parse formatVersion = some current →
          HeadersPrintable (attributes.filterKeys fun k =>
            !PyStr.startsWith k.text reservedPrefix).items)

/-- The check of a format version that was read from a string, together with reading it. -/
lemma raisesOnly_formatVersion {s : String} (current : StrictVersion) :
    RaisesOnly .validationError (FormatVersion.ofString s) ∧
        (∀ f, FormatVersion.ofString s = .ok f →
          RaisesOnly .validationError (verifyFormatVersion f current)) ↔
      (StrictVersion.parse s).isSome = true := by
  by_cases hs : s = ""
  · subst hs
    have hparse : StrictVersion.parse "" = none := by decide
    simp [FormatVersion.ofString, hparse, verifyFormatVersion, FormatVersion.differs, bind,
      Except.bind, ExceptionClass.bases]
  · cases hparse : StrictVersion.parse s with
    | none => simp [FormatVersion.ofString, hs, hparse, ExceptionClass.bases]
    | some v =>
      simp only [FormatVersion.ofString, hs, hparse, if_false, raisesOnly_ok, true_and,
        Except.ok.injEq, forall_eq', Option.isSome_some, iff_true]
      by_cases hv : v = current <;>
        simp [verifyFormatVersion, FormatVersion.differs, FormatVersion.str, bind, Except.bind, hv,
          ExceptionClass.bases]

/-- The keys that `startswith` can be called on are strings. -/
lemma raisesOnly_userHeaders {attributes : Attributes} :
    RaisesOnly .validationError (userHeaders attributes) ↔
      attributes.keys.all PyKey.isStr = true := by
  have hforeign : NeverRaises .validationError (userHeaders attributes) := by
    intro e h
    rw [userHeaders] at h
    split at h
    · rename_i k _
      rw [← Except.error.inj h]
      cases k <;> rfl
    · cases h
  rw [hforeign.raisesOnly_iff]
  simp [userHeaders_eq_ok_iff]

/-- A timestamp that is not a number is a `ValueError`. -/
lemma raisesOnly_intOfString {s : String} :
    RaisesOnly .validationError (intOfString s) ↔ (PyStr.int? s).isSome = true := by
  rw [intOfString]
  cases PyStr.int? s <;> simp [ExceptionClass.bases]

/-- A timestamp that is a number is read. -/
lemma exists_intOfString {s : String} (h : (PyStr.int? s).isSome = true) :
    ∃ t, intOfString s = .ok t := by
  obtain ⟨t, ht⟩ := Option.isSome_iff_exists.mp h
  exact ⟨t, by rw [intOfString, ht]⟩

/-- The five look-ups, and the statements after them. -/
lemma raisesOnly_decodeMetaAttributes_iff {attributes : Attributes} :
    RaisesOnly .validationError (decodeMetaAttributes true attributes) ↔
      UpToFirstNot (fun name => ∃ s, attributes.get? (.str name) = some (.str s))
          (fun name => ((attributes.get? (.str name)).getD .none).printable = true)
          metaAttributeNames ∧
        ∀ formatVersion id timestamp publisher schema,
          attributes.get? (.str "hedwig_format_version") = some (.str formatVersion) →
          attributes.get? (.str "hedwig_id") = some (.str id) →
          attributes.get? (.str "hedwig_message_timestamp") = some (.str timestamp) →
          attributes.get? (.str "hedwig_publisher") = some (.str publisher) →
          attributes.get? (.str "hedwig_schema") = some (.str schema) →
          attributes.keys.all PyKey.isStr = true ∧ (PyStr.int? timestamp).isSome = true ∧
            RaisesOnly .validationError (FormatVersion.ofString formatVersion) := by
  have hrest : ∀ fv ts : String, (RaisesOnly .validationError (userHeaders attributes) ∧
      ∀ headers, userHeaders attributes = .ok headers →
        RaisesOnly .validationError (intOfString ts) ∧ ∀ t, intOfString ts = .ok t →
          RaisesOnly .validationError (FormatVersion.ofString fv)) ↔
      attributes.keys.all PyKey.isStr = true ∧ (PyStr.int? ts).isSome = true ∧
        RaisesOnly .validationError (FormatVersion.ofString fv) := by
    intro fv ts
    rw [raisesOnly_userHeaders, raisesOnly_intOfString]
    refine and_congr_right fun hstrings =>
      ⟨fun h => ?_, fun h _ _ => ⟨h.1, fun _ _ => h.2⟩⟩
    obtain ⟨hint, hversion⟩ := h _ (userHeaders_eq_ok_iff.mpr ⟨hstrings, rfl⟩)
    obtain ⟨t, ht⟩ := exists_intOfString hint
    exact ⟨hint, hversion t ht⟩
  have hassert : pyAssert true = .ok () := rfl
  simp only [decodeMetaAttributes, hassert, raisesOnly_bind, raisesOnly_ok, true_and,
    forall_const, raisesOnly_stringAttribute, stringAttribute_eq_ok_iff,
    metaAttributeNames, UpToFirstNot, pure, Except.pure, implies_true, and_true, hrest]
  constructor
  · rintro ⟨hfv, h⟩
    constructor
    · refine ⟨hfv, ?_⟩
      rintro ⟨fv, h₁⟩
      obtain ⟨hid, h⟩ := h fv h₁
      refine ⟨hid, ?_⟩
      rintro ⟨id, h₂⟩
      obtain ⟨hts, h⟩ := h id h₂
      refine ⟨hts, ?_⟩
      rintro ⟨ts, h₃⟩
      obtain ⟨hpublisher, h⟩ := h ts h₃
      refine ⟨hpublisher, ?_⟩
      rintro ⟨publisher, h₄⟩
      exact (h publisher h₄).1
    · intro fv id ts publisher schema h₁ h₂ h₃ h₄ h₅
      exact ((((h fv h₁).2 id h₂).2 ts h₃).2 publisher h₄).2 schema h₅
  · rintro ⟨⟨hfv, hnames⟩, h⟩
    refine ⟨hfv, fun fv h₁ => ?_⟩
    obtain ⟨hid, hnames⟩ := hnames ⟨fv, h₁⟩
    refine ⟨hid, fun id h₂ => ?_⟩
    obtain ⟨hts, hnames⟩ := hnames ⟨id, h₂⟩
    refine ⟨hts, fun ts h₃ => ?_⟩
    obtain ⟨hpublisher, hnames⟩ := hnames ⟨ts, h₃⟩
    refine ⟨hpublisher, fun publisher h₄ => ?_⟩
    exact ⟨hnames ⟨publisher, h₄⟩, fun schema h₅ => h fv id ts publisher schema h₁ h₂ h₃ h₄ h₅⟩

/-- **Transport attributes** are decoded and checked, or refused with a validation error, exactly
under the condition.

**Proof sketch.**  If the five attributes are strings and the timestamp is a number, the attributes
decode as soon as the format version does, so the check of the version and that of the headers are
reached.  The headers are looked at only for the current version, which the condition says too. -/
lemma raisesOnly_decodeMetaAttributes {attributes : Attributes} (current : StrictVersion) :
    RaisesOnly .validationError (decodeMetaAttributes true attributes) ∧
        (∀ metaAttrs, decodeMetaAttributes true attributes = .ok metaAttrs →
          RaisesOnly .validationError (verifyFormatVersion metaAttrs.formatVersion current) ∧
            (verifyFormatVersion metaAttrs.formatVersion current = .ok () →
              RaisesOnly .validationError (verifyHeaders metaAttrs.headers))) ↔
      TransportDecodable current attributes := by
  rw [raisesOnly_decodeMetaAttributes_iff, TransportDecodable, and_assoc]
  refine and_congr_right fun _ => ?_
  constructor
  · rintro ⟨hdecode, hcheck⟩ fv id ts publisher schema hfv hid hts hpublisher hschema
    obtain ⟨hstrings, hint, hversion⟩ :=
      hdecode fv id ts publisher schema hfv hid hts hpublisher hschema
    obtain ⟨t, ht⟩ := exists_intOfString hint
    have hrun : ∀ f, FormatVersion.ofString fv = .ok f →
        decodeMetaAttributes true attributes = .ok ⟨.int t, .str publisher,
          ofDict (attributes.filterKeys fun k => !PyStr.startsWith k.text reservedPrefix),
          .str id, .str schema, f⟩ := by
      intro f hf
      simp only [decodeMetaAttributes, bind_eq_ok, stringAttribute_eq_ok_iff]
      exact ⟨(), rfl, fv, hfv, id, hid, ts, hts, publisher, hpublisher, schema, hschema, _,
        userHeaders_eq_ok_iff.mpr ⟨hstrings, rfl⟩, t, ht, f, hf, rfl⟩
    refine ⟨hstrings, hint, (raisesOnly_formatVersion current).mp
      ⟨hversion, fun f hf => (hcheck _ (hrun f hf)).1⟩, fun hcurrent => ?_⟩
    have hf := FormatVersion.ofString_eq_ok.mpr (.inr ⟨current, hcurrent, rfl⟩)
    obtain ⟨items, hitems, hprintable⟩ := raisesOnly_verifyHeaders.mp
      ((hcheck _ (hrun _ hf)).2 (verifyFormatVersion_version.mpr rfl))
    rwa [PyObj.dict.inj hitems]
  · intro h
    constructor
    · intro fv id ts publisher schema hfv hid hts hpublisher hschema
      obtain ⟨hstrings, hint, hversion, -⟩ :=
        h fv id ts publisher schema hfv hid hts hpublisher hschema
      exact ⟨hstrings, hint, ((raisesOnly_formatVersion current).mpr hversion).1⟩
    · intro metaAttrs hmeta
      constructor
      · simp only [decodeMetaAttributes, bind_eq_ok, stringAttribute_eq_ok_iff] at hmeta
        obtain ⟨_, -, fv, hfv, id, hid, ts, hts, publisher, hpublisher, schema, hschema, _, -, _,
          -, f, hf, hreturn⟩ := hmeta
        rw [← Except.ok.inj hreturn]
        obtain ⟨-, -, hversion, -⟩ := h fv id ts publisher schema hfv hid hts hpublisher hschema
        exact ((raisesOnly_formatVersion current).mpr hversion).2 f hf
      · intro hverify
        obtain ⟨fv, id, ts, publisher, schema, t, hfv, hid, hts, hpublisher, hschema, -, -,
          hcurrent, rfl⟩ := decodeMetaAttributes_eq_ok.mp ⟨hmeta, hverify⟩
        obtain ⟨-, -, -, hprintable⟩ := h fv id ts publisher schema hfv hid hts hpublisher hschema
        exact raisesOnly_verifyHeaders.mpr ⟨_, rfl, hprintable hcurrent⟩

/-! ## Decoding over the stages -/

namespace HedwigBaseValidator

variable {δ ξ π : Type} (v : HedwigBaseValidator δ ξ)

/-- The stages of `_deserialize`, one after the other. -/
lemma raisesOnly_deserializeMode {messagePayload : Payload} {attributes : Attributes}
    {providerMetadata : Option π} {useTransportAttributes : Bool} :
    RaisesOnly .validationError
        (v.deserializeMode messagePayload attributes providerMetadata useTransportAttributes) ↔
      RaisesOnly .validationError
        (v.extractData messagePayload attributes useTransportAttributes) ∧
      ∀ metaAttrs x,
        v.extractData messagePayload attributes useTransportAttributes = .ok (metaAttrs, x) →
        RaisesOnly .validationError (verifyHeaders metaAttrs.headers) ∧
          (verifyHeaders metaAttrs.headers = .ok () →
            (∃ s, metaAttrs.schema = .str s) ∧
              ∀ messageType version,
                decodeMessageType metaAttrs.schema = .ok (messageType, version) →
                RaisesOnly .validationError (v.decodeData metaAttrs messageType version x)) := by
  simp only [deserializeMode, raisesOnly_bind, Prod.forall, raisesOnly_decodeMessageType]
  refine and_congr_right fun _ => forall_congr' fun metaAttrs => forall_congr' fun x =>
    forall_congr' fun _ => and_congr_right fun _ => ?_
  constructor
  · intro h hheaders
    obtain ⟨hschema, hdata⟩ := h () hheaders
    exact ⟨hschema, fun messageType version htype => (hdata messageType version htype).1⟩
  · intro h _ hheaders
    obtain ⟨hschema, hdata⟩ := h hheaders
    exact ⟨hschema, fun messageType version htype =>
      ⟨hdata messageType version htype, fun _ _ => raisesOnly_ok _⟩⟩

/-- The stages of `deserialize_firehose`, one after the other. -/
lemma raisesOnly_deserializeFirehose {line : String} :
    RaisesOnly .validationError (v.deserializeFirehose (π := π) line) ↔
      RaisesOnly .validationError (v.extractDataFirehose line) ∧
      ∀ metaAttrs x, v.extractDataFirehose line = .ok (metaAttrs, x) →
        (∃ s, metaAttrs.schema = .str s) ∧
          ∀ messageType version, decodeMessageType metaAttrs.schema = .ok (messageType, version) →
            RaisesOnly .validationError (v.decodeData metaAttrs messageType version x) := by
  simp only [deserializeFirehose, raisesOnly_bind, Prod.forall, raisesOnly_decodeMessageType]
  refine and_congr_right fun _ => forall_congr' fun metaAttrs => forall_congr' fun x =>
    forall_congr' fun _ => and_congr_right fun _ => ?_
  constructor
  · exact fun h messageType version htype => (h messageType version htype).1
  · exact fun h messageType version htype =>
      ⟨h messageType version htype, fun _ _ => raisesOnly_ok _⟩

end HedwigBaseValidator

/-! ## The JSON schema validator -/

namespace JSONSchemaValidator

variable (v : JSONSchemaValidator)

/-- The libraries raise no exception of this package. -/
structure RaisesForeign : Prop where
  loads : ∀ s, NeverRaises .validationError (v.json.loads s)
  formatField : ∀ t w name, NeverRaises .validationError (v.formatField t w name)
  resolve : ∀ ptr, NeverRaises .validationError (v.jsonschema.resolve ptr)
  iterErrors : ∀ data schema, NeverRaises .validationError (v.jsonschema.iterErrors data schema)

/-- The schema of the application can be used for a message type: the pointer to its definition
can be formatted, resolving it raises only `RefResolutionError`, and the errors of the data can be
listed. -/
def SchemaUsable (messageType : String) (majorVersion : ℕ) (data : PyObj) : Prop :=
  ∃ ptr, formatSchema v.schemaFmt v.formatField messageType (toString majorVersion ++ ".*") =
      .ok ptr ∧
    RaisesOnly .refResolutionError (v.jsonschema.resolve ptr) ∧
    ∀ schema, v.jsonschema.resolve ptr = .ok schema →
      ∃ errors, v.jsonschema.iterErrors data schema = .ok errors

/-- What decoding the data asks of the schema of the application, for a message under a schema
below the root. -/
def DataDecodable (schema : String) (data : PyObj) : Prop :=
  ∀ messageType version, decodeMessageType (.str schema) = .ok (messageType, version) →
    PyStr.startsWith schema v.schemaRoot = true →
    v.SchemaUsable messageType version.major data

/-- The definition of a message type is found, or refused with a validation error, exactly if the
pointer can be formatted and resolving it raises only `RefResolutionError`. -/
lemma raisesOnly_schema (hv : v.RaisesForeign) {messageType : String} {majorVersion : ℕ} :
    RaisesOnly .validationError (v.schema messageType majorVersion) ↔
      ∃ ptr, formatSchema v.schemaFmt v.formatField messageType (toString majorVersion ++ ".*") =
          .ok ptr ∧ RaisesOnly .refResolutionError (v.jsonschema.resolve ptr) := by
  have hformat : NeverRaises .validationError (formatSchema v.schemaFmt v.formatField messageType
      (toString majorVersion ++ ".*")) := by
    intro e he
    rcases PyStr.format_eq_error he with rfl | ⟨name, hname⟩
    · rfl
    · rw [schemaField] at hname
      split_ifs at hname
      exact hv.formatField _ _ name e hname
  rw [schema, raisesOnly_bind, hformat.raisesOnly_iff]
  constructor
  · rintro ⟨⟨ptr, hptr⟩, h⟩
    refine ⟨ptr, hptr, fun e he => ?_⟩
    by_contra hcls
    have := h ptr hptr
    simp [he, hcls, hv.resolve ptr e he] at this
  · rintro ⟨ptr, hptr, h⟩
    refine ⟨⟨ptr, hptr⟩, fun ptr' hptr' => ?_⟩
    obtain rfl : ptr = ptr' := Except.ok.inj (hptr.symm.trans hptr')
    cases hr : v.jsonschema.resolve ptr with
    | ok schema => simp
    | error e => simp [h e hr, ExceptionClass.bases]

/-- The definition that is found. -/
lemma schema_eq_ok {messageType : String} {majorVersion : ℕ} {definition : PyObj} :
    v.schema messageType majorVersion = .ok definition ↔
      ∃ ptr, formatSchema v.schemaFmt v.formatField messageType (toString majorVersion ++ ".*") =
          .ok ptr ∧ v.jsonschema.resolve ptr = .ok definition := by
  rw [schema, bind_eq_ok]
  refine exists_congr fun ptr => and_congr_right fun _ => ?_
  cases v.jsonschema.resolve ptr with
  | ok schema => simp
  | error e => by_cases he : e.isInstance .refResolutionError <;> simp [he]

/-- The data are decoded, or refused with a validation error, exactly if the schema of the
application can be used. -/
lemma raisesOnly_decodeData (hv : v.RaisesForeign) {metaAttrs : MetaAttributes} {s : String}
    {messageType : String} {version : StrictVersion} {data : PyObj}
    (hs : metaAttrs.schema = .str s) :
    RaisesOnly .validationError (v.toBase.decodeData metaAttrs messageType version data) ↔
      (PyStr.startsWith s v.schemaRoot = true → v.SchemaUsable messageType version.major data) := by
  change RaisesOnly _ (v.decodeData metaAttrs messageType version data) ↔ _
  by_cases hroot : PyStr.startsWith s v.schemaRoot = true
  · have hrun : v.decodeData metaAttrs messageType version data =
        v.schema messageType version.major >>= fun schema =>
          v.jsonschema.iterErrors data schema >>= fun errors =>
            if errors ≠ [] then
              .error (.new .validationError ("[" ++ ", ".intercalate errors ++ "]"))
            else .ok data := by
      rw [decodeData, hs]
      exact if_pos hroot
    have hlast : ∀ errors : List String, RaisesOnly .validationError
        (if errors ≠ [] then
          .error (.new .validationError ("[" ++ ", ".intercalate errors ++ "]"))
        else .ok data) := by
      intro errors
      split_ifs
      · rw [raisesOnly_error]
        rfl
      · exact raisesOnly_ok data
    simp only [hroot, true_implies, hrun, raisesOnly_bind, v.raisesOnly_schema hv, v.schema_eq_ok,
      hlast, implies_true, and_true,
      (hv.iterErrors data _).raisesOnly_iff]
    constructor
    · rintro ⟨⟨ptr, hptr, hresolve⟩, h⟩
      exact ⟨ptr, hptr, hresolve, fun schema hr => h schema ⟨ptr, hptr, hr⟩⟩
    · rintro ⟨ptr, hptr, hresolve, h⟩
      refine ⟨⟨ptr, hptr, hresolve⟩, ?_⟩
      rintro schema ⟨ptr', hptr', hr⟩
      obtain rfl : ptr = ptr' := Except.ok.inj (hptr.symm.trans hptr')
      exact h schema hr
  · refine iff_of_true ?_ fun h => absurd h hroot
    rw [decodeData, hs]
    simp [hroot, ExceptionClass.bases]

/-- A payload that is no JSON document is a validation error. -/
lemma raisesOnly_loadsPayload (hv : v.RaisesForeign) {s : String} :
    RaisesOnly .validationError (v.loadsPayload s) ↔ RaisesOnly .valueError (v.json.loads s) := by
  rw [loadsPayload]
  cases hl : v.json.loads s with
  | ok document => simp
  | error e =>
    have hforeign := hv.loads s e hl
    by_cases he : e.isInstance .valueError = true <;> simp [he, hforeign, ExceptionClass.bases]

/-- The document that is loaded. -/
lemma loadsPayload_eq_ok {s : String} {document : PyObj} :
    v.loadsPayload s = .ok document ↔ v.json.loads s = .ok document := by
  rw [loadsPayload]
  cases v.json.loads s with
  | ok document => rfl
  | error e => by_cases he : e.isInstance .valueError = true <;> simp [he]

/-- A container is checked without any other exception, and accepted if it conforms. -/
lemma verifyContainer_spec (hc : v.jsonschema.ChecksContainer) (document : PyObj) :
    RaisesOnly .validationError (v.verifyContainer document) ∧
      (v.verifyContainer document = .ok () ↔ containerSchema.accepts document = true) := by
  obtain ⟨errors, herrors, hiff⟩ := hc document
  simp only [verifyContainer, herrors, raisesOnly_bind, bind_eq_ok, raisesOnly_ok,
    Except.ok.injEq, forall_eq', exists_eq_left', true_and, ← hiff]
  by_cases he : errors = [] <;> simp [he, ExceptionClass.bases]

/-- Reading the fields of a container raises no validation error. -/
lemma neverRaises_containerMetaAttributes (document : PyObj) :
    NeverRaises .validationError (containerMetaAttributes document) := by
  have hitem : ∀ name, NeverRaises .validationError
      (getItem document "metadata" >>= fun metadata => getItem metadata name) := fun name =>
    (neverRaises_getItem _ _).bind fun metadata => neverRaises_getItem metadata name
  refine (hitem _).bind fun _ => (hitem _).bind fun _ => (hitem _).bind fun _ => ?_
  refine (neverRaises_getItem _ _).bind fun _ => (neverRaises_getItem _ _).bind fun _ =>
    (neverRaises_getItem _ _).bind fun _ => ?_
  intro e he
  cases he

/-- The condition on a container: loading it raises only `ValueError`, and if it conforms to the
container schema, then it is an object whose metadata have all three fields, and its data are
decodable, provided, where the headers are checked, that they are accepted; and there, the first
one that is refused can be printed. -/
def ContainerDecodable (checkHeaders : Bool) (s : String) : Prop :=
  RaisesOnly .valueError (v.json.loads s) ∧
    ∀ document, v.json.loads s = .ok document → containerSchema.accepts document = true →
      ∃ fields metadata, document = .dict fields ∧
        PyObj.field? fields "metadata" = some (.dict metadata) ∧
        (∀ name ∈ ["timestamp", "publisher", "headers"],
          (PyObj.field? metadata name).isSome = true) ∧
        ∀ headers schema data, PyObj.field? metadata "headers" = some (.dict headers) →
          PyObj.field? fields "schema" = some (.str schema) →
          PyObj.field? fields "data" = some data →
          (checkHeaders = true → HeadersPrintable headers) ∧
            ((checkHeaders = true → ∀ kv ∈ headers, IsHeader kv) → v.DataDecodable schema data)

/-- The meta attributes that are read from a container. -/
lemma containerMetaAttributes_eq_ok {document : PyObj} {metaAttrs : MetaAttributes} :
    containerMetaAttributes document = .ok metaAttrs ↔
      ∃ fields metadata timestamp publisher headers id schema formatVersion,
        document = .dict fields ∧ PyObj.field? fields "metadata" = some (.dict metadata) ∧
        PyObj.field? metadata "timestamp" = some timestamp ∧
        PyObj.field? metadata "publisher" = some publisher ∧
        PyObj.field? metadata "headers" = some headers ∧
        PyObj.field? fields "id" = some id ∧ PyObj.field? fields "schema" = some schema ∧
        PyObj.field? fields "format_version" = some formatVersion ∧
        metaAttrs = ⟨timestamp, publisher, headers, id, schema, .text formatVersion⟩ := by
  constructor
  · intro h
    simp only [containerMetaAttributes, bind_eq_ok, getItem_eq_ok] at h
    obtain ⟨timestamp, ⟨_, ⟨fields, rfl, hmeta⟩, metadata, rfl, ht⟩, h⟩ := h
    simp only [PyObj.dict.injEq, exists_eq_left', hmeta, Option.some.injEq] at h
    obtain ⟨publisher, hp, headers, hh, id, hid, schema, hschema, fv, hfv, hreturn⟩ := h
    exact ⟨fields, metadata, timestamp, publisher, headers, id, schema, fv, rfl, hmeta, ht, hp, hh,
      hid, hschema, hfv, (Except.ok.inj hreturn).symm⟩
  · rintro ⟨fields, metadata, timestamp, publisher, headers, id, schema, fv, rfl, hmeta, ht, hp,
      hh, hid, hschema, hfv, rfl⟩
    simp [containerMetaAttributes, getItem, bind, Except.bind, hmeta, ht, hp, hh, hid, hschema, hfv,
      pure, Except.pure]

/-- What is extracted from a container. -/
lemma extractContainer_eq_ok (hc : v.jsonschema.ChecksContainer) {s : String}
    {attributes : Attributes} {metaAttrs : MetaAttributes} {data : PyObj} :
    v.extractDataHelper s attributes false = .ok (metaAttrs, data) ↔
      ∃ document, v.json.loads s = .ok document ∧ containerSchema.accepts document = true ∧
        getItem document "data" = .ok data ∧
        containerMetaAttributes document = .ok metaAttrs := by
  simp only [extractDataHelper, bind_eq_ok, v.loadsPayload_eq_ok]
  refine exists_congr fun document => and_congr_right fun _ => ?_
  rw [← (v.verifyContainer_spec hc document).2]
  constructor
  · rintro ⟨_, hverify, data', hdata, metaAttrs', hmeta, hreturn⟩
    obtain ⟨rfl, rfl⟩ : metaAttrs' = metaAttrs ∧ data' = data := by
      simpa [pure, Except.pure] using hreturn
    exact ⟨hverify, hdata, hmeta⟩
  · rintro ⟨hverify, hdata, hmeta⟩
    exact ⟨(), hverify, data, hdata, metaAttrs, hmeta, rfl⟩

/-- Extracting from a container raises only validation errors exactly if loading raises only
`ValueError` and a container that conforms has all fields. -/
lemma raisesOnly_extractContainer (hc : v.jsonschema.ChecksContainer) (hv : v.RaisesForeign)
    {s : String} {attributes : Attributes} :
    RaisesOnly .validationError (v.extractDataHelper s attributes false) ↔
      RaisesOnly .valueError (v.json.loads s) ∧
      ∀ document, v.json.loads s = .ok document → containerSchema.accepts document = true →
        (∃ data, getItem document "data" = .ok data) ∧
          ∃ metaAttrs, containerMetaAttributes document = .ok metaAttrs := by
  simp only [extractDataHelper, raisesOnly_bind, v.raisesOnly_loadsPayload hv, v.loadsPayload_eq_ok,
    (neverRaises_getItem _ _).raisesOnly_iff,
    (neverRaises_containerMetaAttributes _).raisesOnly_iff]
  refine and_congr_right fun _ => forall_congr' fun document => forall_congr' fun _ => ?_
  obtain ⟨honly, haccepts⟩ := v.verifyContainer_spec hc document
  rw [← haccepts]
  constructor
  · rintro ⟨-, h⟩ hverify
    obtain ⟨⟨data, hdata⟩, h⟩ := h () hverify
    exact ⟨⟨data, hdata⟩, (h data hdata).1⟩
  · intro h
    refine ⟨honly, fun _ hverify => ?_⟩
    obtain ⟨hdata, hmeta⟩ := h hverify
    exact ⟨hdata, fun _ _ => ⟨hmeta, fun _ _ => raisesOnly_ok _⟩⟩

/-- A container that conforms, with metadata that have all fields, can be taken apart. -/
lemma extracts_of_metadata {fields metadata : List (PyKey × PyObj)}
    (haccepts : containerSchema.accepts (.dict fields) = true)
    (hmetadata : PyObj.field? fields "metadata" = some (.dict metadata))
    (hnames : ∀ name ∈ ["timestamp", "publisher", "headers"],
      (PyObj.field? metadata name).isSome = true) :
    (∃ data, getItem (.dict fields) "data" = .ok data) ∧
      ∃ metaAttrs, containerMetaAttributes (.dict fields) = .ok metaAttrs := by
  obtain ⟨⟨id, hid⟩, ⟨schema, hschema⟩, hfv, -, data, hdata⟩ := fields_of_containerSchema haccepts
  obtain ⟨t, ht⟩ := Option.isSome_iff_exists.mp (hnames "timestamp" (by simp))
  obtain ⟨p, hp⟩ := Option.isSome_iff_exists.mp (hnames "publisher" (by simp))
  obtain ⟨headers, hh⟩ := Option.isSome_iff_exists.mp (hnames "headers" (by simp))
  exact ⟨⟨_, getItem_eq_ok.mpr ⟨fields, rfl, hdata⟩⟩, _, containerMetaAttributes_eq_ok.mpr
    ⟨fields, metadata, t, p, headers, _, _, _, rfl, hmetadata, ht, hp, hh, hid, hschema, hfv, rfl⟩⟩

/-- **Containers**: the stages after the extraction, with or without the check of the headers,
raise only validation errors exactly under the condition.

**Proof sketch.**  The decoder is a chain of stages, and it raises only validation errors if each
stage does so on what the one before has returned.  The metaschema decides which fields a document
has after the extraction: the condition speaks of these fields, and the metadata attributes are made
of them.  So the stages are compared one by one, the headers and the data for the fields of one
document. -/
lemma containerDecodable_iff (hc : v.jsonschema.ChecksContainer) (hv : v.RaisesForeign)
    (checkHeaders : Bool) {s : String} (attributes : Attributes) :
    (RaisesOnly .validationError (v.extractDataHelper s attributes false) ∧
      ∀ metaAttrs data, v.extractDataHelper s attributes false = .ok (metaAttrs, data) →
        (checkHeaders = true → RaisesOnly .validationError (verifyHeaders metaAttrs.headers)) ∧
          ((checkHeaders = true → verifyHeaders metaAttrs.headers = .ok ()) →
            (∃ s, metaAttrs.schema = .str s) ∧
              ∀ messageType version,
                decodeMessageType metaAttrs.schema = .ok (messageType, version) →
                RaisesOnly .validationError
                  (v.toBase.decodeData metaAttrs messageType version data))) ↔
      v.ContainerDecodable checkHeaders s := by
  rw [v.raisesOnly_extractContainer hc hv]
  constructor
  · rintro ⟨⟨hloads, hfields⟩, hstages⟩
    refine ⟨hloads, fun document hdoc haccepts => ?_⟩
    obtain ⟨⟨data, hdata⟩, metaAttrs, hmeta⟩ := hfields document hdoc haccepts
    obtain ⟨hchecked, hstages⟩ := hstages metaAttrs data
      ((v.extractContainer_eq_ok hc).mpr ⟨document, hdoc, haccepts, hdata, hmeta⟩)
    obtain ⟨fields, metadata, timestamp, publisher, headers, id, schema, fv, rfl, hmetadata, ht, hp,
      hh, -, hschema, -, rfl⟩ := containerMetaAttributes_eq_ok.mp hmeta
    obtain ⟨_, ⟨⟩, hdata⟩ := getItem_eq_ok.mp hdata
    refine ⟨fields, metadata, rfl, hmetadata, ?_, ?_⟩
    · intro name hname
      simp only [List.mem_cons, List.not_mem_nil, or_false] at hname
      rcases hname with rfl | rfl | rfl <;> simp [ht, hp, hh]
    · intro items schema' data' hitems hschema' hdata'
      obtain rfl := Option.some.inj (hitems.symm.trans hh)
      obtain rfl := Option.some.inj (hschema'.symm.trans hschema)
      obtain rfl := Option.some.inj (hdata'.symm.trans hdata)
      refine ⟨fun hcheck => ?_, fun hheaders messageType version htype hroot => ?_⟩
      · obtain ⟨_, ⟨⟩, hprintable⟩ := raisesOnly_verifyHeaders.mp (hchecked hcheck)
        exact hprintable
      have hverify : checkHeaders = true → verifyHeaders (.dict items) = .ok () := fun hcheck =>
        verifyHeaders_eq_ok.mpr ⟨items, rfl, hheaders hcheck⟩
      exact (v.raisesOnly_decodeData hv rfl).mp ((hstages hverify).2 messageType version htype)
        hroot
  · rintro ⟨hloads, h⟩
    constructor
    · refine ⟨hloads, fun document hdoc haccepts => ?_⟩
      obtain ⟨fields, metadata, rfl, hmetadata, hnames, -⟩ := h document hdoc haccepts
      exact extracts_of_metadata haccepts hmetadata hnames
    · intro metaAttrs data hextract
      obtain ⟨document, hdoc, haccepts, hdata, hmeta⟩ := (v.extractContainer_eq_ok hc).mp hextract
      obtain ⟨fields, metadata, rfl, hmetadata, -, hdecodable⟩ := h document hdoc haccepts
      obtain ⟨-, ⟨schema, hschema⟩, -, ⟨metadata', hmetadata', hheaders⟩, -⟩ :=
        fields_of_containerSchema haccepts
      obtain rfl : metadata = metadata' :=
        PyObj.dict.inj (Option.some.inj (hmetadata.symm.trans hmetadata'))
      obtain ⟨_, metadata₁, t, p, headers, id, schema', fv, ⟨⟩, hmetadata₁, -, -, hh, -,
        hschema₁, -, rfl⟩ := containerMetaAttributes_eq_ok.mp hmeta
      obtain rfl : metadata = metadata₁ :=
        PyObj.dict.inj (Option.some.inj (hmetadata.symm.trans hmetadata₁))
      obtain rfl := Option.some.inj (hschema.symm.trans hschema₁)
      obtain ⟨items, rfl⟩ := hheaders headers hh
      obtain ⟨_, ⟨⟩, hdata⟩ := getItem_eq_ok.mp hdata
      obtain ⟨hprintable, hdecodable⟩ := hdecodable items schema data hh hschema hdata
      refine ⟨fun hcheck => raisesOnly_verifyHeaders.mpr ⟨items, rfl, hprintable hcheck⟩,
        fun hverify => ⟨⟨schema, rfl⟩, fun messageType version htype => ?_⟩⟩
      have hheader : checkHeaders = true → ∀ kv ∈ items, IsHeader kv := by
        intro hcheck
        obtain ⟨items', hitems', hall⟩ := verifyHeaders_eq_ok.mp (hverify hcheck)
        obtain rfl : items = items' := PyObj.dict.inj hitems'
        exact hall
      exact (v.raisesOnly_decodeData hv rfl).mpr fun hroot =>
        hdecodable hheader messageType version htype hroot

/-- The condition on a payload with transport attributes: loading it raises only `ValueError`, and
if it is a document, then the attributes are decodable, and so are the data, provided the format
version is the current one and the headers are accepted. -/
def TransportDecodable (s : String) (attributes : Attributes) : Prop :=
  RaisesOnly .valueError (v.json.loads s) ∧
    ∀ document, v.json.loads s = .ok document →
      Hedwig.TransportDecodable currentFormatVersion attributes ∧
      ∀ formatVersion id timestamp publisher schema,
        attributes.get? (.str "hedwig_format_version") = some (.str formatVersion) →
        attributes.get? (.str "hedwig_id") = some (.str id) →
        attributes.get? (.str "hedwig_message_timestamp") = some (.str timestamp) →
        attributes.get? (.str "hedwig_publisher") = some (.str publisher) →
        attributes.get? (.str "hedwig_schema") = some (.str schema) →
        StrictVersion.parse formatVersion = some currentFormatVersion →
        (∀ kv ∈ attributes.items, PyStr.startsWith kv.1.text reservedPrefix = false →
          IsHeader kv) →
        v.DataDecodable schema document

/-- What is extracted from a payload with transport attributes. -/
lemma extractTransport_eq_ok (hmode : v.useTransportMessageAttributes = true) {s : String}
    {attributes : Attributes} {metaAttrs : MetaAttributes} {data : PyObj} :
    v.extractDataHelper s attributes true = .ok (metaAttrs, data) ↔
      v.json.loads s = .ok data ∧ decodeMetaAttributes true attributes = .ok metaAttrs ∧
        verifyFormatVersion metaAttrs.formatVersion currentFormatVersion = .ok () := by
  simp only [extractDataHelper, bind_eq_ok, v.loadsPayload_eq_ok, hmode]
  constructor
  · rintro ⟨document, hdoc, metaAttrs', hmeta, _, hverify, hreturn⟩
    obtain ⟨rfl, rfl⟩ : metaAttrs' = metaAttrs ∧ document = data := by
      simpa [pure, Except.pure] using hreturn
    exact ⟨hdoc, hmeta, hverify⟩
  · rintro ⟨hdoc, hmeta, hverify⟩
    exact ⟨data, hdoc, metaAttrs, hmeta, (), hverify, rfl⟩

/-- **Transport attributes with the JSON validator**: the decoder raises only validation errors
exactly under the condition.

**Proof sketch.**  The stages are loading the payload, decoding the attributes and comparing the
format version, then the headers and the data.  Those on the attributes alone are
`raisesOnly_decodeMetaAttributes`, and the data are checked by `raisesOnly_decodeData` for the
fields that the attributes have. -/
lemma transportDecodable_iff (hv : v.RaisesForeign)
    (hmode : v.useTransportMessageAttributes = true) {s : String} {attributes : Attributes} :
    (RaisesOnly .validationError (v.extractDataHelper s attributes true) ∧
      ∀ metaAttrs data, v.extractDataHelper s attributes true = .ok (metaAttrs, data) →
        RaisesOnly .validationError (verifyHeaders metaAttrs.headers) ∧
          (verifyHeaders metaAttrs.headers = .ok () →
            (∃ s, metaAttrs.schema = .str s) ∧
              ∀ messageType version,
                decodeMessageType metaAttrs.schema = .ok (messageType, version) →
                RaisesOnly .validationError
                  (v.toBase.decodeData metaAttrs messageType version data))) ↔
      v.TransportDecodable s attributes := by
  have hextract : RaisesOnly .validationError (v.extractDataHelper s attributes true) ↔
      RaisesOnly .valueError (v.json.loads s) ∧ ∀ document, v.json.loads s = .ok document →
        RaisesOnly .validationError (decodeMetaAttributes true attributes) ∧
          ∀ metaAttrs, decodeMetaAttributes true attributes = .ok metaAttrs →
            RaisesOnly .validationError
              (verifyFormatVersion metaAttrs.formatVersion currentFormatVersion) := by
    simp only [extractDataHelper, raisesOnly_bind, v.raisesOnly_loadsPayload hv,
      v.loadsPayload_eq_ok, hmode]
    refine and_congr_right fun _ => forall_congr' fun document => forall_congr' fun _ =>
      and_congr_right fun _ => forall_congr' fun metaAttrs => forall_congr' fun _ => ?_
    exact ⟨fun h => h.1, fun h => ⟨h, fun _ _ => raisesOnly_ok _⟩⟩
  rw [hextract]
  constructor
  · rintro ⟨⟨hloads, hattrs⟩, hstages⟩
    refine ⟨hloads, fun document hdoc => ?_⟩
    have hdecodable : Hedwig.TransportDecodable currentFormatVersion attributes := by
      obtain ⟨hdecode, hversion⟩ := hattrs document hdoc
      refine (raisesOnly_decodeMetaAttributes _).mp ⟨hdecode, fun metaAttrs hmeta =>
        ⟨hversion metaAttrs hmeta, fun hverify => ?_⟩⟩
      exact (hstages metaAttrs document
        ((v.extractTransport_eq_ok hmode).mpr ⟨hdoc, hmeta, hverify⟩)).1
    refine ⟨hdecodable, ?_⟩
    intro fv id ts publisher schema hfv hid hts hpublisher hschema hversion hheaders
    obtain ⟨hstrings, hint, -⟩ :=
      hdecodable.2 fv id ts publisher schema hfv hid hts hpublisher hschema
    obtain ⟨t, ht⟩ := Option.isSome_iff_exists.mp hint
    obtain ⟨hdecode, hverify⟩ := decodeMetaAttributes_eq_ok.mpr ⟨fv, id, ts, publisher, schema, t,
      hfv, hid, hts, hpublisher, hschema, hstrings, ht, hversion, rfl⟩
    obtain ⟨-, hstages⟩ :=
      hstages _ document ((v.extractTransport_eq_ok hmode).mpr ⟨hdoc, hdecode, hverify⟩)
    intro messageType version htype hroot
    exact (v.raisesOnly_decodeData hv rfl).mp
      ((hstages (verifyHeaders_filterKeys.mpr hheaders)).2 messageType version htype) hroot
  · rintro ⟨hloads, h⟩
    have hattrs : ∀ document, v.json.loads s = .ok document → _ := fun document hdoc =>
      (raisesOnly_decodeMetaAttributes currentFormatVersion).mpr (h document hdoc).1
    refine ⟨⟨hloads, fun document hdoc => ⟨(hattrs document hdoc).1, fun metaAttrs hmeta =>
      ((hattrs document hdoc).2 metaAttrs hmeta).1⟩⟩, fun metaAttrs document hx => ?_⟩
    obtain ⟨hdoc, hdecode, hverify⟩ := (v.extractTransport_eq_ok hmode).mp hx
    refine ⟨((hattrs document hdoc).2 metaAttrs hdecode).2 hverify, ?_⟩
    obtain ⟨fv, id, ts, publisher, schema, t, hfv, hid, hts, hpublisher, hschema, -, -, hversion,
      rfl⟩ := decodeMetaAttributes_eq_ok.mp ⟨hdecode, hverify⟩
    refine fun hheaders => ⟨⟨schema, rfl⟩, fun messageType version htype => ?_⟩
    exact (v.raisesOnly_decodeData hv rfl).mpr fun hroot =>
      (h document hdoc).2 fv id ts publisher schema hfv hid hts hpublisher hschema hversion
        (verifyHeaders_filterKeys.mp hheaders) messageType version htype hroot

/-- The condition of a mode on a payload and attributes: the payload is text, and decodable as a
document with transport attributes or as a container. -/
def Decodable (useTransportAttributes : Bool) (payload : Payload) (attributes : Attributes) :
    Prop :=
  match payload, useTransportAttributes with
  | .bytes _, _ => False
  | .str s, true => v.TransportDecodable s attributes
  | .str s, false => v.ContainerDecodable true s

/-- **The JSON validator**: `_deserialize` raises only validation errors exactly under the
condition of the mode.

**Proof sketch.**  Bytes fail an assertion before anything is decoded.  For text the stages after
the extraction are those of the two lemmas on transport attributes and on containers. -/
lemma raisesOnly_deserializeMode (hc : v.jsonschema.ChecksContainer) (hv : v.RaisesForeign)
    {π : Type} {payload : Payload} {attributes : Attributes} {providerMetadata : Option π}
    {useTransportAttributes : Bool}
    (hmode : useTransportAttributes = true → v.useTransportMessageAttributes = true) :
    RaisesOnly .validationError
        (v.toBase.deserializeMode payload attributes providerMetadata useTransportAttributes) ↔
      v.Decodable useTransportAttributes payload attributes := by
  rw [HedwigBaseValidator.raisesOnly_deserializeMode]
  cases payload with
  | bytes b =>
    have hbytes : v.toBase.extractData (.bytes b) attributes useTransportAttributes =
        .error (.new .assertionError "") := rfl
    simp [hbytes, Decodable, ExceptionClass.bases]
  | str s =>
    have hstr : v.toBase.extractData (.str s) attributes useTransportAttributes =
        v.extractDataHelper s attributes useTransportAttributes := rfl
    rw [hstr]
    cases useTransportAttributes with
    | true => exact v.transportDecodable_iff hv (hmode rfl)
    | false => simpa [Decodable] using v.containerDecodable_iff hc hv true attributes

/-- **The JSON validator**: `deserialize_firehose` raises only validation errors exactly under the
condition on containers without the check of the headers. -/
lemma raisesOnly_deserializeFirehose (hc : v.jsonschema.ChecksContainer) (hv : v.RaisesForeign)
    {π : Type} {line : String} :
    RaisesOnly .validationError (v.toBase.deserializeFirehose (π := π) line) ↔
      v.ContainerDecodable false line := by
  rw [HedwigBaseValidator.raisesOnly_deserializeFirehose,
    ← v.containerDecodable_iff hc hv false .empty]
  refine and_congr_right fun _ => forall_congr' fun metaAttrs => forall_congr' fun data =>
    forall_congr' fun _ => ?_
  simp

end JSONSchemaValidator

/-! ## The protobuf validators -/

/-- The codec of a class raises no exception of this package. -/
structure ProtoCodec.RaisesForeign {α : Type} (codec : ProtoCodec α) : Prop where
  parseFromString : ∀ b, NeverRaises .validationError (codec.parseFromString b)
  parse : ∀ s, NeverRaises .validationError (codec.parse s)

/-- The protobuf runtime raises no exception of this package. -/
structure ProtoLib.RaisesForeign (lib : ProtoLib) : Prop where
  messages : ∀ cls, (lib.codec cls).RaisesForeign
  payloads : lib.payloadCodec.RaisesForeign
  unpack : ∀ a cls, NeverRaises .validationError (lib.unpack a cls)
  unpackValue : ∀ a, NeverRaises .validationError (lib.unpackValue a)
  toMilliseconds : ∀ t, NeverRaises .validationError (lib.toMilliseconds t)

/-- What a block raises is one of the exceptions that the decoding clauses catch. -/
def RaisesCaught {α : Type} (x : Except PyException α) : Prop :=
  ∀ e, x = .error e → isInstanceOfAny e decodingErrors = true

/-- A decoding clause raises only validation errors exactly if it catches what its block raises. -/
lemma raisesOnly_catchDecodingErrors {α : Type} {className : String} {x : Except PyException α}
    (hx : NeverRaises .validationError x) :
    RaisesOnly .validationError (catchDecodingErrors className x) ↔ RaisesCaught x := by
  cases x with
  | ok a => exact iff_of_true (raisesOnly_ok a) nofun
  | error e =>
    have hforeign := hx e rfl
    by_cases he : isInstanceOfAny e decodingErrors = true <;>
      simp [catchDecodingErrors, RaisesCaught, he, hforeign, ExceptionClass.bases]

/-- Parsing the JSON format raises no validation error. -/
lemma neverRaises_decodeProtoJson {α : Type} {codec : ProtoCodec α} (hcodec : codec.RaisesForeign)
    (value : Payload) : NeverRaises .validationError (decodeProtoJson codec value) := by
  intro e h
  cases value with
  | str s => exact hcodec.parse s e h
  | bytes b =>
    obtain rfl := Except.error.inj h
    rfl

/-- Parsing either wire format raises no validation error. -/
lemma ProtoWire.neverRaises_decodeProto {wire : ProtoWire} (hwire : wire = .binary ∨ wire = .json)
    {α : Type} {codec : ProtoCodec α} (hcodec : codec.RaisesForeign) (value : Payload) :
    NeverRaises .validationError (wire.decodeProto codec value) := by
  rcases hwire with rfl | rfl
  · intro e h
    cases value with
    | bytes b => exact hcodec.parseFromString b e h
    | str s =>
      obtain rfl := Except.error.inj h
      rfl
  · exact neverRaises_decodeProtoJson hcodec value

/-- Headers of strings are refused with a validation error only: they can be printed. -/
lemma raisesOnly_verifyHeaders_ofStrings (headers : PyDict String String) :
    RaisesOnly .validationError (verifyHeaders (ofDict (ofStrings headers))) := by
  refine raisesOnly_verifyHeaders.mpr ⟨_, rfl, ?_⟩
  rw [items_ofStrings]
  induction headers.items with
  | nil => trivial
  | cons kv rest ih => exact ⟨rfl, fun _ => ih⟩

/-- Headers of strings are accepted if no name is reserved. -/
lemma verifyHeaders_ofStrings {headers : PyDict String String} :
    verifyHeaders (ofDict (ofStrings headers)) = .ok () ↔
      ∀ k ∈ headers.keys, PyStr.startsWith k reservedPrefix = false := by
  rw [verifyHeaders_eq_ok]
  constructor
  · rintro ⟨items, hitems, h⟩ k hk
    obtain rfl : (ofStrings headers).items = items := PyObj.dict.inj hitems
    obtain ⟨value, hvalue⟩ := PyDict.mem_keys.mp hk
    obtain ⟨_, _, hkv, hprefix⟩ := h _ (List.mem_map.mpr ⟨_, hvalue, rfl⟩)
    obtain rfl := PyKey.str.inj (congrArg Prod.fst hkv)
    exact hprefix
  · intro h
    refine ⟨_, rfl, fun kv hkv => ?_⟩
    obtain ⟨⟨k, value⟩, hmem, rfl⟩ := List.mem_map.mp hkv
    exact ⟨k, value, rfl, h k (PyDict.mem_keys.mpr ⟨value, hmem⟩)⟩

namespace ProtobufValidator

variable {lib : ProtoLib} (v : ProtobufValidator lib)

/-- What decoding the data asks of the protobuf runtime: if the schema names a registered class,
then what reading the data as a message of this class raises is caught. -/
def DataDecodable (schema : String) (data : ProtoData lib) : Prop :=
  ∀ messageType version cls, decodeMessageType (.str schema) = .ok (messageType, version) →
    v.protoMessages.get? (messageType, version.major) = some cls →
    RaisesCaught (v.decodeMessage cls data)

/-- The condition on a container: what parsing it raises is caught; its timestamp can be read; and
if no header has a reserved name, then the data are decodable. -/
def ContainerDecodable (payload : Payload) : Prop :=
  RaisesCaught (v.wire.decodeProto lib.payloadCodec payload) ∧
    ∀ msgPayload, v.wire.decodeProto lib.payloadCodec payload = .ok msgPayload →
      (∃ t, lib.toMilliseconds msgPayload.timestamp = .ok t) ∧
        ((∀ k ∈ msgPayload.headers.keys, PyStr.startsWith k reservedPrefix = false) →
          v.DataDecodable msgPayload.schema (.any msgPayload.data))

/-- The condition on a payload with transport attributes: the one on the attributes, and if they
are accepted, then the payload is decodable as the data. -/
def TransportDecodable (payload : Payload) (attributes : Attributes) : Prop :=
  Hedwig.TransportDecodable currentFormatVersion attributes ∧
    ∀ formatVersion id timestamp publisher schema,
      attributes.get? (.str "hedwig_format_version") = some (.str formatVersion) →
      attributes.get? (.str "hedwig_id") = some (.str id) →
      attributes.get? (.str "hedwig_message_timestamp") = some (.str timestamp) →
      attributes.get? (.str "hedwig_publisher") = some (.str publisher) →
      attributes.get? (.str "hedwig_schema") = some (.str schema) →
      StrictVersion.parse formatVersion = some currentFormatVersion →
      (∀ kv ∈ attributes.items, PyStr.startsWith kv.1.text reservedPrefix = false →
        IsHeader kv) →
      v.DataDecodable schema (.payload payload)

/-- The condition on a line of a firehose file: what parsing it raises is caught; its timestamp can
be read; if the data are a `Value`, then that is a string in base64; and what is found there is
decodable. -/
def FirehoseDecodable (line : String) : Prop :=
  RaisesCaught (decodeProtoJson lib.payloadCodec (.str line)) ∧
    ∀ msgPayload, decodeProtoJson lib.payloadCodec (.str line) = .ok msgPayload →
      (∃ t, lib.toMilliseconds msgPayload.timestamp = .ok t) ∧
        (lib.isValue msgPayload.data = true →
          ∃ s, lib.unpackValue msgPayload.data = .ok (some s) ∧
            (Base64.decodebytes s).isSome = true) ∧
        ∀ data, firehoseData msgPayload.data = .ok data →
          v.DataDecodable msgPayload.schema data

/-- The meta attributes are read from a container exactly if its timestamp is. -/
lemma containerMetaAttributes_eq_ok {msgPayload : lib.Payload} {metaAttrs : MetaAttributes} :
    containerMetaAttributes msgPayload = .ok metaAttrs ↔
      ∃ t, lib.toMilliseconds msgPayload.timestamp = .ok t ∧
        metaAttrs = ⟨.int t, .str msgPayload.publisher, ofDict (ofStrings msgPayload.headers),
          .str msgPayload.id, .str msgPayload.schema, .text (.str msgPayload.formatVersion)⟩ := by
  simp only [containerMetaAttributes, bind_eq_ok]
  refine exists_congr fun t => and_congr_right fun _ => ?_
  simp [pure, Except.pure, eq_comm]

/-- The meta attributes are read once the timestamp is, the headers and the schema unchanged. -/
lemma exists_containerMetaAttributes {msgPayload : lib.Payload} {t : ℤ}
    (ht : lib.toMilliseconds msgPayload.timestamp = .ok t) :
    ∃ metaAttrs, containerMetaAttributes msgPayload = .ok metaAttrs ∧
      metaAttrs.headers = ofDict (ofStrings msgPayload.headers) ∧
      metaAttrs.schema = .str msgPayload.schema :=
  ⟨_, containerMetaAttributes_eq_ok.mpr ⟨t, ht, rfl⟩, rfl, rfl⟩

/-- Reading the meta attributes raises only validation errors exactly if the timestamp is read. -/
lemma raisesOnly_containerMetaAttributes (hlib : lib.RaisesForeign) {msgPayload : lib.Payload} :
    RaisesOnly .validationError (containerMetaAttributes msgPayload) ↔
      ∃ t, lib.toMilliseconds msgPayload.timestamp = .ok t := by
  rw [containerMetaAttributes, raisesOnly_bind, (hlib.toMilliseconds _).raisesOnly_iff]
  exact and_iff_left fun _ _ => raisesOnly_ok _

/-- Reading the data as a message of a class raises no validation error. -/
lemma neverRaises_decodeMessage (hlib : lib.RaisesForeign)
    (hwire : v.wire = .binary ∨ v.wire = .json) (cls : lib.Cls) (data : ProtoData lib) :
    NeverRaises .validationError (v.decodeMessage cls data) := by
  cases data with
  | any a =>
    refine NeverRaises.bind (fun e he => ?_) fun _ => hlib.unpack a cls
    rw [pyAssert] at he
    split_ifs at he
    obtain rfl := Except.error.inj he
    rfl
  | payload p => exact ProtoWire.neverRaises_decodeProto hwire (hlib.messages cls) p

/-- Decoding the data raises only validation errors exactly if what is raised for the registered
class is caught. -/
lemma raisesOnly_decodeData (hlib : lib.RaisesForeign)
    (hwire : v.wire = .binary ∨ v.wire = .json) {metaAttrs : MetaAttributes} {messageType : String}
    {version : StrictVersion} {data : ProtoData lib} :
    RaisesOnly .validationError (v.toBase.decodeData metaAttrs messageType version data) ↔
      ∀ cls, v.protoMessages.get? (messageType, version.major) = some cls →
        RaisesCaught (v.decodeMessage cls data) := by
  change RaisesOnly _ (v.decodeData metaAttrs messageType version data) ↔ _
  have hclass : RaisesOnly .validationError (v.messageClass messageType version.major) := by
    intro e he
    rw [messageClass] at he
    split at he
    · cases he
    · rw [← Except.error.inj he]
      rfl
  rw [decodeData, raisesOnly_bind, and_iff_right hclass]
  refine forall_congr' fun cls => ?_
  rw [v.messageClass_eq_ok,
    raisesOnly_catchDecodingErrors (v.neverRaises_decodeMessage hlib hwire cls data)]

/-- The stages after the check of the headers, for a schema that is a string. -/
lemma dataDecodable_iff (hlib : lib.RaisesForeign) (hwire : v.wire = .binary ∨ v.wire = .json)
    {metaAttrs : MetaAttributes} {schema : String} (hschema : metaAttrs.schema = .str schema)
    {data : ProtoData lib} :
    ((∃ s, metaAttrs.schema = .str s) ∧ ∀ messageType version,
      decodeMessageType metaAttrs.schema = .ok (messageType, version) →
        RaisesOnly .validationError (v.toBase.decodeData metaAttrs messageType version data)) ↔
      v.DataDecodable schema data := by
  rw [hschema, and_iff_right ⟨schema, rfl⟩]
  simp only [v.raisesOnly_decodeData hlib hwire, DataDecodable]
  exact forall₂_congr fun _ _ => forall_comm

/-! ### Containers and transport attributes -/

section

variable {π : Type} {payload : Payload} {attributes : Attributes} {providerMetadata : Option π}
  {line : String}

/-- **Containers** raise only validation errors exactly under the condition.

**Proof sketch.**  The decoder parses the container, reads its timestamp, checks its headers, which
are strings, and decodes the data for the class that the schema names.  Each stage is left to the
condition for the containers that reach it. -/
lemma containerDecodable_iff (hlib : lib.RaisesForeign)
    (hwire : v.wire = .binary ∨ v.wire = .json) :
    RaisesOnly .validationError
        (v.toBase.deserializeMode payload attributes providerMetadata false) ↔
      v.ContainerDecodable payload := by
  have hextract : v.toBase.extractData payload attributes false =
      v.extractData payload attributes false := rfl
  have hraises : RaisesOnly .validationError (v.extractData payload attributes false) ↔
      RaisesCaught (v.wire.decodeProto lib.payloadCodec payload) ∧
        ∀ msgPayload, v.wire.decodeProto lib.payloadCodec payload = .ok msgPayload →
          ∃ t, lib.toMilliseconds msgPayload.timestamp = .ok t := by
    have hproto := ProtoWire.neverRaises_decodeProto hwire hlib.payloads payload
    simp only [extractData, raisesOnly_bind, catchDecodingErrors_eq_ok,
      raisesOnly_catchDecodingErrors hproto, raisesOnly_containerMetaAttributes hlib]
    refine and_congr_right fun _ => forall₂_congr fun _ _ => and_iff_left fun _ _ => ?_
    exact raisesOnly_ok _
  rw [HedwigBaseValidator.raisesOnly_deserializeMode, hextract, hraises]
  constructor
  · rintro ⟨⟨hcaught, htime⟩, hstages⟩
    refine ⟨hcaught, fun msgPayload hp => ⟨htime msgPayload hp, fun hnames => ?_⟩⟩
    obtain ⟨t, ht⟩ := htime msgPayload hp
    obtain ⟨metaAttrs, hmeta, hheaders, hschema⟩ := exists_containerMetaAttributes ht
    obtain ⟨-, hdata⟩ := hstages metaAttrs _
      (extractContainer_eq_ok.mpr ⟨msgPayload, hp, hmeta, rfl⟩)
    rw [hheaders, verifyHeaders_ofStrings] at hdata
    exact (v.dataDecodable_iff hlib hwire hschema).mp (hdata hnames)
  · rintro ⟨hcaught, h⟩
    refine ⟨⟨hcaught, fun msgPayload hp => (h msgPayload hp).1⟩, fun metaAttrs x hx => ?_⟩
    obtain ⟨msgPayload, hp, hmeta, rfl⟩ := extractContainer_eq_ok.mp hx
    obtain ⟨t, -, rfl⟩ := containerMetaAttributes_eq_ok.mp hmeta
    refine ⟨raisesOnly_verifyHeaders_ofStrings _, fun hheaders => ?_⟩
    exact (v.dataDecodable_iff hlib hwire rfl).mpr
      ((h msgPayload hp).2 (verifyHeaders_ofStrings.mp hheaders))

/-- **Transport attributes** raise only validation errors exactly under the condition.

**Proof sketch.**  The stages on the attributes alone are `raisesOnly_decodeMetaAttributes`.  If
they are passed, the fields of the attributes are known, and the payload is decoded as the data. -/
lemma transportDecodable_iff (hlib : lib.RaisesForeign) (hwire : v.wire = .binary ∨ v.wire = .json)
    (hmode : v.useTransportMessageAttributes = true) :
    RaisesOnly .validationError
        (v.toBase.deserializeMode payload attributes providerMetadata true) ↔
      v.TransportDecodable payload attributes := by
  have hextract : v.toBase.extractData payload attributes true =
      v.extractData payload attributes true := rfl
  have hraises : RaisesOnly .validationError (v.extractData payload attributes true) ↔
      RaisesOnly .validationError (decodeMetaAttributes true attributes) ∧
        ∀ metaAttrs, decodeMetaAttributes true attributes = .ok metaAttrs →
          RaisesOnly .validationError
            (verifyFormatVersion metaAttrs.formatVersion currentFormatVersion) := by
    simp only [extractData, hmode, raisesOnly_bind]
    refine and_congr_right fun _ => forall₂_congr fun _ _ => and_iff_left fun _ _ => ?_
    exact raisesOnly_ok _
  rw [HedwigBaseValidator.raisesOnly_deserializeMode, hextract, hraises]
  constructor
  · rintro ⟨⟨hdecode, hversion⟩, hstages⟩
    have hattrs : Hedwig.TransportDecodable currentFormatVersion attributes := by
      refine (raisesOnly_decodeMetaAttributes _).mp ⟨hdecode, fun metaAttrs hmeta =>
        ⟨hversion metaAttrs hmeta, fun hverify => ?_⟩⟩
      rw [← hmode] at hmeta
      exact (hstages metaAttrs _ (extractTransport_eq_ok.mpr ⟨hmeta, hverify, rfl⟩)).1
    refine ⟨hattrs, ?_⟩
    intro fv id ts publisher schema hfv hid hts hpublisher hschema hversion hheaders
    obtain ⟨hstrings, hint, -⟩ :=
      hattrs.2 fv id ts publisher schema hfv hid hts hpublisher hschema
    obtain ⟨t, ht⟩ := Option.isSome_iff_exists.mp hint
    obtain ⟨hmeta, hverify⟩ := decodeMetaAttributes_eq_ok.mpr ⟨fv, id, ts, publisher, schema, t,
      hfv, hid, hts, hpublisher, hschema, hstrings, ht, hversion, rfl⟩
    rw [← hmode] at hmeta
    obtain ⟨-, hdata⟩ := hstages _ _ (extractTransport_eq_ok.mpr ⟨hmeta, hverify, rfl⟩)
    exact (v.dataDecodable_iff hlib hwire rfl).mp (hdata (verifyHeaders_filterKeys.mpr hheaders))
  · rintro ⟨hattrs, h⟩
    obtain ⟨hdecode, hchecks⟩ := (raisesOnly_decodeMetaAttributes currentFormatVersion).mpr hattrs
    refine ⟨⟨hdecode, fun metaAttrs hmeta => (hchecks metaAttrs hmeta).1⟩,
      fun metaAttrs x hx => ?_⟩
    obtain ⟨hmeta, hverify, rfl⟩ := extractTransport_eq_ok.mp hx
    rw [hmode] at hmeta
    refine ⟨(hchecks metaAttrs hmeta).2 hverify, fun hheaders => ?_⟩
    obtain ⟨fv, id, ts, publisher, schema, t, hfv, hid, hts, hpublisher, hschema, -, -, hversion,
      rfl⟩ := decodeMetaAttributes_eq_ok.mp ⟨hmeta, hverify⟩
    exact (v.dataDecodable_iff hlib hwire rfl).mpr (h fv id ts publisher schema hfv hid hts
      hpublisher hschema hversion (verifyHeaders_filterKeys.mp hheaders))

/-- The condition of a mode on a payload and attributes. -/
def Decodable (useTransportAttributes : Bool) (payload : Payload) (attributes : Attributes) :
    Prop :=
  match useTransportAttributes with
  | true => v.TransportDecodable payload attributes
  | false => v.ContainerDecodable payload

/-- **The protobuf validators**: `_deserialize` raises only validation errors exactly under the
condition of the mode. -/
lemma raisesOnly_deserializeMode (hlib : lib.RaisesForeign)
    (hwire : v.wire = .binary ∨ v.wire = .json) {useTransportAttributes : Bool}
    (hmode : useTransportAttributes = true → v.useTransportMessageAttributes = true) :
    RaisesOnly .validationError
        (v.toBase.deserializeMode payload attributes providerMetadata useTransportAttributes) ↔
      v.Decodable useTransportAttributes payload attributes := by
  cases useTransportAttributes with
  | true => exact v.transportDecodable_iff hlib hwire (hmode rfl)
  | false => exact v.containerDecodable_iff hlib hwire

/-! ### Firehose lines -/

/-- Finding the data of a line raises no validation error. -/
lemma neverRaises_firehoseData (hlib : lib.RaisesForeign) (data : lib.Any) :
    NeverRaises .validationError (firehoseData data) := by
  rw [firehoseData]
  split_ifs
  · refine (hlib.unpackValue data).bind fun kind e he => ?_
    cases kind with
    | none =>
      rw [← Except.error.inj he]
      rfl
    | some s =>
      cases hs : Base64.decodebytes s with
      | none =>
        simp only [hs] at he
        rw [← Except.error.inj he]
        rfl
      | some bytes => simp [hs] at he
  · intro e he
    cases he

/-- The data of a line are found exactly if a `Value` is a string in base64. -/
lemma exists_firehoseData {data : lib.Any} :
    (∃ x, firehoseData data = .ok x) ↔
      (lib.isValue data = true → ∃ s, lib.unpackValue data = .ok (some s) ∧
        (Base64.decodebytes s).isSome = true) := by
  cases hvalue : lib.isValue data with
  | false => simp [firehoseData, hvalue]
  | true =>
    simp only [firehoseData, hvalue, if_true, true_implies, bind_eq_ok]
    cases hunpack : lib.unpackValue data with
    | error e => simp
    | ok kind =>
      cases kind with
      | none => simp
      | some s => cases hs : Base64.decodebytes s <;> simp [hs]

/-- **The protobuf validators**: `deserialize_firehose` raises only validation errors exactly
under the condition.

**Proof sketch.**  As for containers; but the headers are not checked, and between parsing the line
and reading its timestamp the data are looked for, which raises no validation error. -/
lemma raisesOnly_deserializeFirehose (hlib : lib.RaisesForeign)
    (hwire : v.wire = .binary ∨ v.wire = .json) :
    RaisesOnly .validationError (v.toBase.deserializeFirehose (π := π) line) ↔
      v.FirehoseDecodable line := by
  have hextract : v.toBase.extractDataFirehose line = extractDataFirehose line := rfl
  have hproto := neverRaises_decodeProtoJson hlib.payloads (.str line)
  rw [HedwigBaseValidator.raisesOnly_deserializeFirehose, hextract]
  simp only [extractDataFirehose, raisesOnly_bind, catchDecodingErrors_eq_ok,
    raisesOnly_catchDecodingErrors hproto, raisesOnly_containerMetaAttributes hlib,
    (neverRaises_firehoseData hlib _).raisesOnly_iff, exists_firehoseData, FirehoseDecodable]
  constructor
  · rintro ⟨⟨hcaught, h⟩, hstages⟩
    refine ⟨hcaught, fun msgPayload hp => ?_⟩
    obtain ⟨hvalue, h⟩ := h msgPayload hp
    obtain ⟨data, hdata⟩ := exists_firehoseData.mpr hvalue
    obtain ⟨⟨t, ht⟩, -⟩ := h data hdata
    refine ⟨⟨t, ht⟩, hvalue, fun data' hdata' => ?_⟩
    obtain ⟨metaAttrs, hmeta, -, hschema⟩ := exists_containerMetaAttributes ht
    exact (v.dataDecodable_iff hlib hwire hschema).mp (hstages metaAttrs data'
      (bind_eq_ok.mpr ⟨msgPayload, catchDecodingErrors_eq_ok.mpr hp,
        bind_eq_ok.mpr ⟨data', hdata', bind_eq_ok.mpr ⟨metaAttrs, hmeta, rfl⟩⟩⟩))
  · rintro ⟨hcaught, h⟩
    refine ⟨⟨hcaught, fun msgPayload hp => ⟨(h msgPayload hp).2.1, fun _ _ =>
      ⟨(h msgPayload hp).1, fun _ _ => raisesOnly_ok _⟩⟩⟩, fun metaAttrs x hx => ?_⟩
    simp only [bind_eq_ok, catchDecodingErrors_eq_ok] at hx
    obtain ⟨msgPayload, hp, data, hdata, metaAttrs', hmeta, hreturn⟩ := hx
    obtain ⟨rfl, rfl⟩ := Prod.mk.inj (Except.ok.inj hreturn)
    obtain ⟨t, -, rfl⟩ := containerMetaAttributes_eq_ok.mp hmeta
    exact (v.dataDecodable_iff hlib hwire rfl).mpr ((h msgPayload hp).2.2 data hdata)

end

end ProtobufValidator

/-! ### A runtime as documented -/

/-- What the protobuf runtime documents for a class: bytes that are no message are a `DecodeError`,
and text that is none a `ParseError`. -/
structure ProtoCodec.RaisesDocumented {α : Type} (codec : ProtoCodec α) : Prop where
  parseFromString : ∀ b, RaisesCaught (codec.parseFromString b)
  parse : ∀ s, RaisesCaught (codec.parse s)

/-- What the protobuf runtime documents for all classes, and for unpacking an `Any`. -/
structure ProtoLib.RaisesDocumented (lib : ProtoLib) : Prop where
  messages : ∀ cls, (lib.codec cls).RaisesDocumented
  payloads : lib.payloadCodec.RaisesDocumented
  unpack : ∀ a cls, RaisesCaught (lib.unpack a cls)

/-- A failing `assert` is caught. -/
lemma raisesCaught_assertionError {α : Type} :
    RaisesCaught (.error (.new .assertionError "") : Except PyException α) := by
  rintro e ⟨⟩
  decide

/-- What parsing the JSON format raises is caught. -/
lemma ProtoCodec.RaisesDocumented.decodeProtoJson {α : Type} {codec : ProtoCodec α}
    (hcodec : codec.RaisesDocumented) (value : Payload) :
    RaisesCaught (decodeProtoJson codec value) := by
  cases value with
  | str s => exact hcodec.parse s
  | bytes b => exact raisesCaught_assertionError

/-- What parsing either wire format raises is caught. -/
lemma ProtoCodec.RaisesDocumented.decodeProto {α : Type} {codec : ProtoCodec α}
    (hcodec : codec.RaisesDocumented) {wire : ProtoWire} (hwire : wire = .binary ∨ wire = .json)
    (value : Payload) : RaisesCaught (wire.decodeProto codec value) := by
  rcases hwire with rfl | rfl
  · cases value with
    | bytes b => exact hcodec.parseFromString b
    | str s => exact raisesCaught_assertionError
  · exact hcodec.decodeProtoJson value

namespace ProtobufValidator

section

variable {lib : ProtoLib} {v : ProtobufValidator lib}

/-- Data of any kind are decodable. -/
lemma dataDecodable_of_documented (hlib : lib.RaisesDocumented)
    (hwire : v.wire = .binary ∨ v.wire = .json) (schema : String) (data : ProtoData lib) :
    v.DataDecodable schema data := by
  intro _ _ cls _ _
  cases data with
  | any a =>
    intro e he
    rcases bind_eq_error.mp he with hassert | ⟨_, -, hunpack⟩
    · rw [pyAssert] at hassert
      split_ifs at hassert
      exact raisesCaught_assertionError e hassert
    · exact hlib.unpack a cls e hunpack
  | payload p => exact (hlib.messages cls).decodeProto hwire p

/-- **Containers** are decodable exactly if their timestamp can be read. -/
lemma containerDecodable_iff_of_documented (hlib : lib.RaisesDocumented)
    (hwire : v.wire = .binary ∨ v.wire = .json) {payload : Payload} :
    v.ContainerDecodable payload ↔
      ∀ msgPayload, v.wire.decodeProto lib.payloadCodec payload = .ok msgPayload →
        ∃ t, lib.toMilliseconds msgPayload.timestamp = .ok t := by
  rw [ContainerDecodable, and_iff_right (hlib.payloads.decodeProto hwire payload)]
  exact forall₂_congr fun _ _ =>
    and_iff_left fun _ => dataDecodable_of_documented hlib hwire _ _

/-- **Transport attributes** are decodable with every payload. -/
lemma transportDecodable_iff_of_documented (hlib : lib.RaisesDocumented)
    (hwire : v.wire = .binary ∨ v.wire = .json) {payload : Payload} {attributes : Attributes} :
    v.TransportDecodable payload attributes ↔
      Hedwig.TransportDecodable currentFormatVersion attributes :=
  and_iff_left fun _ _ _ _ _ _ _ _ _ _ _ _ => dataDecodable_of_documented hlib hwire _ _

/-- **Firehose lines** are decodable exactly if their timestamp can be read, and a `Value` in them
is a string in base64. -/
lemma firehoseDecodable_iff_of_documented (hlib : lib.RaisesDocumented)
    (hwire : v.wire = .binary ∨ v.wire = .json) {line : String} :
    v.FirehoseDecodable line ↔
      ∀ msgPayload, decodeProtoJson lib.payloadCodec (.str line) = .ok msgPayload →
        (∃ t, lib.toMilliseconds msgPayload.timestamp = .ok t) ∧
          (lib.isValue msgPayload.data = true →
            ∃ s, lib.unpackValue msgPayload.data = .ok (some s) ∧
              (Base64.decodebytes s).isSome = true) := by
  rw [FirehoseDecodable, and_iff_right (hlib.payloads.decodeProtoJson _)]
  refine forall₂_congr fun _ _ => and_congr_right fun _ => and_iff_left fun _ _ => ?_
  exact dataDecodable_of_documented hlib hwire _ _

end

end ProtobufValidator

/-! ## The three validators -/

/-- **Exceptions of the decoders.**  The decoders of the JSON validator raise only validation
errors exactly for text under the condition of the mode, and those of the protobuf validators
exactly under theirs.

**Proof sketch.**  `deserialize` and `deserialize_containerized` are `_deserialize` in one of its
modes, and a firehose line has stages of its own. -/
theorem deserialize_raisesOnly (π : Type) :
    (∀ v : JSONSchemaValidator, v.jsonschema.ChecksContainer → v.RaisesForeign →
      (∀ payload attributes (providerMetadata : Option π),
        RaisesOnly .validationError (v.toBase.deserialize payload attributes providerMetadata) ↔
          v.Decodable v.useTransportMessageAttributes payload attributes) ∧
      (∀ payload, RaisesOnly .validationError
          (v.toBase.deserializeContainerized (π := π) payload) ↔
        v.Decodable false payload .empty) ∧
      ∀ line, RaisesOnly .validationError (v.toBase.deserializeFirehose (π := π) line) ↔
        v.ContainerDecodable false line) ∧
    ∀ (lib : ProtoLib) (v : ProtobufValidator lib), lib.RaisesForeign →
      v.wire = .binary ∨ v.wire = .json →
      (∀ payload attributes (providerMetadata : Option π),
        RaisesOnly .validationError (v.toBase.deserialize payload attributes providerMetadata) ↔
          v.Decodable v.useTransportMessageAttributes payload attributes) ∧
      (∀ payload, RaisesOnly .validationError
          (v.toBase.deserializeContainerized (π := π) payload) ↔
        v.Decodable false payload .empty) ∧
      ∀ line, RaisesOnly .validationError (v.toBase.deserializeFirehose (π := π) line) ↔
        v.FirehoseDecodable line := by
  constructor
  · intro v hc hv
    refine ⟨fun _ _ _ => ?_, fun _ => ?_, fun _ => v.raisesOnly_deserializeFirehose hc hv⟩
    · exact v.raisesOnly_deserializeMode hc hv id
    · exact v.raisesOnly_deserializeMode hc hv (absurd · Bool.false_ne_true)
  · intro lib v hlib hwire
    refine ⟨fun _ _ _ => ?_, fun _ => ?_, fun _ => v.raisesOnly_deserializeFirehose hlib hwire⟩
    · exact v.raisesOnly_deserializeMode hlib hwire id
    · exact v.raisesOnly_deserializeMode hlib hwire (absurd · Bool.false_ne_true)

/-- The libraries of the JSON samples raise no exception of this package. -/
lemma raisesForeign_sampleTripValidator (useTransportMessageAttributes : Bool) :
    emptyDocumentValidator.RaisesForeign ∧
      (sampleTripValidator useTransportMessageAttributes).RaisesForeign := by
  have hloads : ∀ json : JsonLib,
      (∀ s e, json.loads s = .error e → e = .new .jsonDecodeError "") →
      ∀ useTransportMessageAttributes, JSONSchemaValidator.RaisesForeign
        { emptyDocumentValidator with
          json := json, useTransportMessageAttributes := useTransportMessageAttributes } :=
    fun json hjson _ =>
      { loads := fun s e h => by
          rw [hjson s e h]
          rfl
        formatField := fun _ _ _ e h => by
          rw [← Except.error.inj h]
          rfl
        resolve := fun _ _ h => by cases h
        iterErrors := fun _ _ _ h => by cases h }
  constructor
  · refine hloads emptyDocumentLib (fun s e h => ?_) true
    simp only [emptyDocumentLib] at h
    split_ifs at h
    exact (Except.error.inj h).symm
  · refine hloads sampleTripLib (fun s e h => ?_) useTransportMessageAttributes
    simp only [sampleTripLib] at h
    split_ifs at h
    exact (Except.error.inj h).symm

/-- The runtime of the sample container raises no exception of this package. -/
lemma raisesForeign_tripContainerLib : tripContainerLib.RaisesForeign where
  messages _ :=
    { parseFromString := fun b e h => by
        simp only [tripContainerLib] at h
        cases hb : PyStr.decode? b with
        | none =>
          rw [hb] at h
          rw [← Except.error.inj h]
          rfl
        | some m =>
          rw [hb] at h
          cases h
      parse := fun _ _ h => by
        rw [← Except.error.inj h]
        rfl }
  payloads :=
    { parseFromString := fun b e h => by
        simp only [tripContainerLib] at h
        split_ifs at h
        rw [← Except.error.inj h]
        rfl
      parse := fun _ _ h => by
        rw [← Except.error.inj h]
        rfl }
  unpack _ _ _ h := by cases h
  unpackValue _ e h := by
    rw [← Except.error.inj h]
    rfl
  toMilliseconds _ _ h := by cases h

/-- A call that returns raises nothing. -/
lemma raisesOnly_of_isOk {α : Type} {cls : ExceptionClass} {x : Except PyException α}
    (h : x.isOk = true) : RaisesOnly cls x := by
  obtain ⟨a, rfl⟩ := exists_of_isOk h
  exact raisesOnly_ok a

/-- Transport attributes with all meta attributes and one header. -/
def sampleAttributes (schema : String) : Attributes :=
  .ofList [(.str "hedwig_format_version", .str "1.0"), (.str "hedwig_id", .str "1"),
    (.str "hedwig_message_timestamp", .str "1460868253255"), (.str "hedwig_publisher", .str "web"),
    (.str "hedwig_schema", .str schema), (.str "request_id", .str "1")]

/-- The theorem at payloads that are decoded to a message, for each validator in both modes: they
are under the condition. -/
theorem deserialize_raisesOnly_sample :
    ((emptyDocumentValidator.toBase.deserialize (.str "{}")
          (sampleAttributes "https://hedwig.automatic.com/schema#/schemas/trip_created/1.0")
          (none : Option Unit)).isOk = true ∧
        emptyDocumentValidator.Decodable true (.str "{}")
          (sampleAttributes "https://hedwig.automatic.com/schema#/schemas/trip_created/1.0")) ∧
      (((sampleTripValidator false).toBase.deserialize (.str (sampleText sampleTrip)) .empty
          (none : Option Unit)).isOk = true ∧
        (sampleTripValidator false).Decodable false (.str (sampleText sampleTrip)) .empty) ∧
      (((tripContainerValidator true).toBase.deserialize (.bytes [0x37])
          (sampleAttributes "TripCreated/1.0") (none : Option Unit)).isOk = true ∧
        (tripContainerValidator true).Decodable true (.bytes [0x37])
          (sampleAttributes "TripCreated/1.0")) ∧
      ((tripContainerValidator false).toBase.deserialize (.bytes [10]) .empty
          (none : Option Unit)).isOk = true ∧
        (tripContainerValidator false).Decodable false (.bytes [10]) .empty := by
  obtain ⟨hjson, hproto⟩ := deserialize_raisesOnly Unit
  have hdocument := (hjson emptyDocumentValidator checksContainer_permissiveSchemaLib
    (raisesForeign_sampleTripValidator true).1).1
  have htrip := (hjson (sampleTripValidator false) checksContainer_permissiveSchemaLib
    (raisesForeign_sampleTripValidator false).2).1
  have hproto := fun setting => (hproto tripContainerLib (tripContainerValidator setting)
    raisesForeign_tripContainerLib (.inl rfl)).1
  refine ⟨⟨?_, (hdocument _ _ none).mp (raisesOnly_of_isOk ?_)⟩,
    ⟨?_, (htrip _ _ none).mp (raisesOnly_of_isOk ?_)⟩,
    ⟨?_, (hproto true _ _ none).mp (raisesOnly_of_isOk ?_)⟩,
    ?_, (hproto false _ _ none).mp (raisesOnly_of_isOk ?_)⟩ <;> decide +kernel

/-! ## What escapes -/

/-- Transport attributes whose timestamp is not a number. -/
def undatedAttributes : Attributes :=
  .ofList [(.str "hedwig_format_version", .str "1.0"), (.str "hedwig_id", .str "1"),
    (.str "hedwig_message_timestamp", .str "yesterday"), (.str "hedwig_publisher", .str "web"),
    (.str "hedwig_schema", .str "TripCreated/1.0")]

/-- Other exceptions escape: an `AssertionError` for bytes from the JSON validator, and a
`ValueError` for a timestamp that is not a number from the protobuf validator. -/
theorem deserialize_raises_others :
    ¬ RaisesOnly .validationError
        (emptyDocumentValidator.toBase.deserialize (.bytes []) .empty (none : Option Unit)) ∧
      ¬ RaisesOnly .validationError
        (emptyMessageValidator.toBase.deserialize (.bytes []) undatedAttributes
          (none : Option Unit)) := by
  decide +kernel

end Hedwig
