import Mathlib.Data.Bool.AllAny
import Hedwig.Backends.Transport
import Hedwig.Lib.JsonPointer
import Hedwig.Validators.ProtobufRegistry
import Hedwig.Validators.SchemaFile

set_option relaxedAutoImplicit false
set_option autoImplicit false

/-!
# Lookups by version pattern

The keys of the routing and callback tables are checked when a validator is constructed, and looked
up when a message is published or received.  The check reads the pattern of a key with a regular
expression and `int`; the lookups build the pattern from the major version of a message, and the
JSON validator puts it into a reference that it resolves.  This file says for which keys the check
implies that the lookups succeed.

## Main definitions

* `Hedwig.LookupsSucceed` — the lookups that are made for a key of the tables find what is meant.
* `Hedwig.CanonicalPattern` — a pattern is spelled as the lookups spell it.
* `Hedwig.JSONSchemaValidator.PointerFinds` — the reference to a definition leads to it.

## Main results

* `Hedwig.lookupsSucceed_iff` — for which keys of a table the lookups succeed, in both validators.
* `Hedwig.JSONSchemaValidator.pointerFinds_of_isPlain` — the reference to a definition of a plain
  name leads to it.

## Design

Resolving a reference is done by `jsonschema`.  It is assumed to follow the pointer in a reference
to the schema itself, provided that the `id` is an absolute URL of plain characters, the reference
has no tab and no line break, and no part of the schema is found by name.  Of other references
nothing is assumed: `urljoin` drops these characters and joins the path of an `id` without a scheme
to itself, and an `$id` or an `$anchor` in a part comes before the pointer.
-/

namespace Hedwig

variable {δ π : Type}

/-- For a key of the tables there is a major version whose pattern it is, so that the topic and the
callback of a message of this type and version are found; the version is a known one, and what is
found for it is what is meant. -/
def LookupsSucceed (messageRouting : PyDict (String × String) Topic)
    (callbacks : CallbackRegistry δ π) (verifyKnownMinorVersion : String → StrictVersion → Outcome)
    (Finds : String → ℕ → Prop) (key : String × String) : Prop :=
  ∃ majorVersion, key.2 = Callback.versionPattern majorVersion ∧
    (∀ t, messageRouting.get? key = some t → ∀ m : Message δ π, m.type = key.1 →
      m.version.major = majorVersion → topic messageRouting m = .ok t) ∧
    (∀ fn, callbacks.get? key = some fn →
      Callback.findByMessage callbacks key.1 majorVersion = Callback.new fn) ∧
    verifyKnownMinorVersion key.1 ⟨majorVersion, 0, 0, none⟩ = .ok () ∧ Finds key.1 majorVersion

/-- A pattern is spelled as the lookups spell its major version: without leading zeros, and without
a line feed at the end. -/
def CanonicalPattern (versionPattern : String) : Prop :=
  ∀ majorVersion, PatternMajor versionPattern majorVersion →
    versionPattern = Callback.versionPattern majorVersion

section

variable {messageRouting : PyDict (String × String) Topic} {callbacks : CallbackRegistry δ π}
  {verifyKnownMinorVersion : String → StrictVersion → Outcome} {Finds : String → ℕ → Prop}
  {key : String × String} {majorVersion : ℕ}

/-- The lookups for a key succeed exactly if its pattern is canonical, and its major version is
known and found. -/
lemma lookupsSucceed_iff_of_patternMajor (hmajor : PatternMajor key.2 majorVersion) :
    LookupsSucceed messageRouting callbacks verifyKnownMinorVersion Finds key ↔
      CanonicalPattern key.2 ∧
        verifyKnownMinorVersion key.1 ⟨majorVersion, 0, 0, none⟩ = .ok () ∧
        Finds key.1 majorVersion := by
  obtain ⟨messageType, versionPattern⟩ := key
  constructor
  · rintro ⟨m, hpattern, -, -, hverify, hfinds⟩
    have hpattern' : versionPattern = Callback.versionPattern m := hpattern
    obtain rfl : majorVersion = m := (hpattern' ▸ hmajor).eq_of_versionPattern
    refine ⟨fun m' hm' => ?_, hverify, hfinds⟩
    rw [hm'.unique hmajor]
    exact hpattern
  · rintro ⟨hcanonical, hverify, hfinds⟩
    have hpattern : versionPattern = Callback.versionPattern majorVersion :=
      hcanonical majorVersion hmajor
    refine ⟨majorVersion, hpattern, fun t ht m htype hversion => ?_, fun fn hfn => ?_, hverify,
      hfinds⟩
    · subst hpattern htype hversion
      simp only [topic]
      rw [show toString m.version.major ++ ".*" = Callback.versionPattern m.version.major from rfl,
        ht]
    · subst hpattern
      simp only [Callback.findByMessage, hfn]

end

/-! ## Classes -/

namespace ProtobufValidator

variable {lib : ProtoLib} {decl : ProtoOptions lib} {wire : ProtoWire}
  {useTransportMessageAttributes : Bool} {protoMessages : List lib.Cls} {v : ProtobufValidator lib}
  {messageRouting : PyDict (String × String) Topic} {callbacks : CallbackRegistry δ π}

/-- What is found for a type and a major version is the class that declares them. -/
def FindsClass (decl : ProtoOptions lib) (protoMessages : List lib.Cls) (v : ProtobufValidator lib)
    (messageType : String) (majorVersion : ℕ) : Prop :=
  ∃ cls ∈ protoMessages, v.messageClass messageType majorVersion = .ok cls ∧
    decl.Declares cls (messageType, majorVersion)

/-- **Lookups of classes** succeed for the keys of the tables exactly if their patterns are
canonical. -/
lemma classLookups_iff
    (hv : new decl wire useTransportMessageAttributes protoMessages messageRouting callbacks =
      .ok v) :
    (∀ key ∈ messageRouting.keys ++ callbacks.keys,
        LookupsSucceed messageRouting callbacks v.verifyKnownMinorVersion
          (v.FindsClass decl protoMessages) key) ↔
      ∀ key ∈ messageRouting.keys ++ callbacks.keys, CanonicalPattern key.2 := by
  have hexact := exists_new.mp ⟨v, hv⟩
  refine forall₂_congr fun key hkey => ?_
  obtain ⟨majorVersion, hmajor, -, cls, hcls, hdeclares⟩ := hexact.found key hkey
  rw [lookupsSucceed_iff_of_patternMajor hmajor]
  have hget : v.protoMessages.get? (key.1, majorVersion) = some cls :=
    (get?_of_new hv).mpr ⟨hcls, hdeclares⟩
  have hclass : v.messageClass key.1 majorVersion = .ok cls := by
    simp only [messageClass, hget]
  refine and_iff_left ⟨?_, cls, hcls, hclass, hdeclares⟩
  simp only [verifyKnownMinorVersion, hclass]
  rfl

end ProtobufValidator

/-! ## Definitions -/

/-- A schema that references find by its `id` only, and none of whose parts are found by name: it
is no reference itself, which would hide its `id`. -/
def hasOnlyRoot (schema : List (PyKey × PyObj)) : Bool :=
  (PyObj.field? schema "$ref").isNone && !JsonPointer.fieldsHaveIdentifiers schema

/-- The parts of the pointer in a reference to the schema itself, if nothing in it is found by
name. -/
def pointerParts? (schema : List (PyKey × PyObj)) (ptr : String) : Option (List String) :=
  match PyObj.field? schema "id" with
  | some (.str root) =>
    if hasOnlyRoot schema then JsonPointer.ofReference? root ptr else none
  | _ => none

/-- The pointer in a reference to a schema in which nothing is found by name. -/
lemma pointerParts?_eq {schema : List (PyKey × PyObj)} {root : String}
    (hid : PyObj.field? schema "id" = some (.str root)) (honly : hasOnlyRoot schema = true)
    (ptr : String) : pointerParts? schema ptr = JsonPointer.ofReference? root ptr := by
  simp only [pointerParts?, hid, honly, if_true]

/-- What `jsonschema` promises of a validator for a schema: a reference to the schema itself with a
pointer, which is not rewritten when it is joined to the `id`, is resolved to the value that the
pointer leads to, and `RefResolutionError` is raised if there is none. -/
def SchemaLib.ResolvesIn (lib : SchemaLib) (schema : List (PyKey × PyObj)) : Prop :=
  ∀ ptr parts, pointerParts? schema ptr = some parts →
    match JsonPointer.get? (.dict schema) parts with
    | some definition => lib.resolve ptr = .ok definition
    | none => ∃ e, lib.resolve ptr = .error e ∧ e.isInstance .refResolutionError = true

namespace JSONSchemaValidator

variable {json : JsonLib} {formatField : String → String → String → Except PyException String}
  {useTransportMessageAttributes : Bool} {draft4Validator : PyObj → Except PyException SchemaLib}
  {schema : List (PyKey × PyObj)} {v : JSONSchemaValidator}
  {messageRouting : PyDict (String × String) Topic} {callbacks : CallbackRegistry δ π}

/-- A reference leads to a definition: by its pointer, if it is one to the schema itself, and else
as `jsonschema` has it. -/
def Denotes (v : JSONSchemaValidator) (schema : List (PyKey × PyObj)) (ptr : String)
    (definition : PyObj) : Prop :=
  match pointerParts? schema ptr with
  | some parts => JsonPointer.get? (.dict schema) parts = some definition
  | none => v.jsonschema.resolve ptr = .ok definition

/-- The reference that is formatted for a key of the tables leads to the definition under this key,
whose full version under major version zero is not false. -/
def PointerFinds (v : JSONSchemaValidator) (schema : List (PyKey × PyObj)) (key : String × String) :
    Prop :=
  ∃ ptr fields x, formatSchema v.schemaFmt v.formatField key.1 key.2 = .ok ptr ∧
    v.Denotes schema ptr (.dict fields) ∧
    HasDefinition schema (.str key.1) (.str key.2) (.dict fields) ∧
    PyObj.field? fields "x-version" = some x ∧ (PatternMajor key.2 0 → x.truthy = true)

/-- What is found for a type and a major version is a definition that the file lists under them. -/
def FindsDefinition (schema : List (PyKey × PyObj)) (v : JSONSchemaValidator) (messageType : String)
    (majorVersion : ℕ) : Prop :=
  ∃ definition, v.schema messageType majorVersion = .ok definition ∧
    HasDefinition schema (.str messageType) (.str (Callback.versionPattern majorVersion)) definition

/-- A reference is resolved to what it leads to. -/
lemma resolve_iff_denotes (hresolves : v.jsonschema.ResolvesIn schema) {ptr : String}
    {definition : PyObj} :
    v.jsonschema.resolve ptr = .ok definition ↔ v.Denotes schema ptr definition := by
  rw [Denotes]
  cases hparts : pointerParts? schema ptr with
  | none => exact Iff.rfl
  | some parts =>
    have hresolve := hresolves ptr parts hparts
    cases hget : JsonPointer.get? (.dict schema) parts with
    | none =>
      simp only [hget] at hresolve
      obtain ⟨e, he, -⟩ := hresolve
      simp [he, hget]
    | some value =>
      simp only [hget] at hresolve
      simp [hresolve, hget]

/-- A version that is read from an object is read from a string. -/
lemma strictVersion_eq_ok {x : PyObj} {fullVersion : StrictVersion} :
    strictVersion x = .ok fullVersion ↔
      ∃ s, x = .str s ∧ StrictVersion.parse s = some fullVersion := by
  constructor
  · intro h
    unfold strictVersion at h
    split at h
    · rename_i s
      split_ifs at h
      cases hparse : StrictVersion.parse s with
      | none =>
        simp only [hparse] at h
        cases h
      | some w =>
        simp only [hparse] at h
        exact ⟨s, rfl, hparse.trans (congrArg some (Except.ok.inj h))⟩
    all_goals cases h
  · rintro ⟨s, rfl, hparse⟩
    have hne : s ≠ "" := by
      rintro rfl
      cases hparse
    simp only [strictVersion, if_neg hne, hparse]

/-- In a file that has passed the check every definition passes, and there is one for each key. -/
lemma passes_of_checkSchema {keys : List (String × String)}
    (h : checkSchema schema keys = .ok ()) :
    (∀ msgType p definition, HasDefinition schema msgType p definition → Passes p definition) ∧
      ∀ key ∈ keys, ∃ definition,
        HasDefinition schema (.str key.1) (.str key.2) definition := by
  rcases checkSchema_cases schema keys with ⟨-, e, hcheck, -⟩ | ⟨-, -, errors, hcheck⟩ |
    ⟨-, hflagged, hpasses, -⟩
  · cases hcheck.symm.trans h
  · cases hcheck.symm.trans h
  · refine ⟨hpasses, fun key hkey => ?_⟩
    by_contra hne
    exact hflagged (.inr (.inr (.inr ⟨key, hkey, fun definition hdefinition =>
      hne ⟨definition, hdefinition⟩⟩)))

/-- The full version of a definition that passes is read, unless it is false under major version
zero. -/
lemma exists_strictVersion_of_passes {p : String} {fields : List (PyKey × PyObj)} {x : PyObj}
    (h : Passes (.str p) (.dict fields)) (hx : PyObj.field? fields "x-version" = some x)
    (hzero : PatternMajor p 0 → x.truthy = true) :
    ∃ fullVersion, strictVersion x = .ok fullVersion := by
  obtain ⟨_, m, _, x', fullVersion, ⟨⟩, hm, hfields, hx', hinit, hmajor⟩ := h
  obtain rfl := PyObj.dict.inj hfields
  obtain rfl := Option.some.inj (hx.symm.trans hx')
  have hsome : ∃ w, fullVersion = some w := by
    by_cases hne : m = 0
    · subst hne
      have htruthy := hzero hm
      rcases strictVersionInit_cases x with ⟨hfalsy, -⟩ | ⟨_, w, -, -, hinit'⟩ |
        ⟨_, -, -, -, hinit'⟩ | ⟨-, -, hinit'⟩
      · cases hfalsy.symm.trans htruthy
      · exact ⟨w, Except.ok.inj (hinit.symm.trans hinit')⟩
      · cases hinit.symm.trans hinit'
      · cases hinit.symm.trans hinit'
    · obtain ⟨w, hw, -⟩ := hmajor hne
      exact ⟨w, hw⟩
  obtain ⟨w, rfl⟩ := hsome
  exact ⟨w, strictVersion_eq_ok.mpr (strictVersionInit_eq_some.mp hinit)⟩

/-- **Lookups of definitions** succeed for the keys of the tables exactly if their patterns are
canonical, the references to their definitions lead there, and no full version under major version
zero is false.

**Proof sketch.**  The check of the schema has found a definition for each key, with a pattern of
some major version.  For a canonical pattern, the lookup follows the reference that the validator
formats, and by `ResolvesIn` it gets what the reference denotes.  Its full version was compared by
the check, but for the major version zero, where it may be false. -/
lemma definitionLookups_iff
    (hdraft : ∀ validator, draft4Validator (.dict schema) = .ok validator →
      validator.ResolvesIn schema)
    (hv : new json formatField useTransportMessageAttributes draft4Validator schema messageRouting
      callbacks = .ok v) :
    (∀ key ∈ messageRouting.keys ++ callbacks.keys,
        LookupsSucceed messageRouting callbacks v.verifyKnownMinorVersion
          (v.FindsDefinition schema) key) ↔
      ∀ key ∈ messageRouting.keys ++ callbacks.keys,
        CanonicalPattern key.2 ∧ v.PointerFinds schema key := by
  obtain ⟨hcheck, validator, root, hvalidator, -, hv⟩ := new_eq_ok.mp hv
  have hresolves : v.jsonschema.ResolvesIn schema := by
    rw [hv]
    exact hdraft validator hvalidator
  obtain ⟨hpasses, hfound⟩ := passes_of_checkSchema hcheck
  refine forall₂_congr fun key hkey => ?_
  obtain ⟨messageType, p⟩ := key
  obtain ⟨definition, hdefinition⟩ := hfound _ (List.mem_dedup.mpr hkey)
  obtain ⟨_, m, _, _, _, ⟨⟩, hm, -⟩ := hpasses _ _ _ hdefinition
  rw [lookupsSucceed_iff_of_patternMajor hm]
  refine and_congr_right fun hcanonical => ?_
  obtain rfl : p = Callback.versionPattern m := hcanonical m hm
  constructor
  · rintro ⟨hverify, definition, hschema, hdefinition⟩
    obtain ⟨ptr, hformat, hresolve⟩ := v.schema_eq_ok.mp hschema
    obtain ⟨_, _, fields, x, _, -, -, rfl, hx, -, -⟩ := hpasses _ _ _ hdefinition
    refine ⟨ptr, fields, x, hformat, (resolve_iff_denotes hresolves).mp hresolve, hdefinition, hx,
      fun _ => ?_⟩
    obtain ⟨_, hschema', hrest⟩ := bind_eq_ok.mp hverify
    obtain rfl := Except.ok.inj (hschema.symm.trans hschema')
    obtain ⟨x', hget, hversion⟩ := bind_eq_ok.mp hrest
    obtain ⟨_, ⟨⟩, hx'⟩ := getItem_eq_ok.mp hget
    obtain rfl := Option.some.inj (hx.symm.trans hx')
    obtain ⟨w, hstrict, -⟩ := bind_eq_ok.mp hversion
    obtain ⟨s, rfl, hparse⟩ := strictVersion_eq_ok.mp hstrict
    refine decide_eq_true ?_
    rintro rfl
    cases hparse
  · rintro ⟨ptr, fields, x, hformat, hdenotes, hdefinition, hx, hzero⟩
    have hschema : v.schema messageType m = .ok (.dict fields) :=
      v.schema_eq_ok.mpr ⟨ptr, hformat, (resolve_iff_denotes hresolves).mpr hdenotes⟩
    obtain ⟨w, hstrict⟩ :=
      exists_strictVersion_of_passes (hpasses _ _ _ hdefinition) hx hzero
    refine ⟨?_, .dict fields, hschema, hdefinition⟩
    have hget := getItem_eq_ok.mpr ⟨fields, rfl, hx⟩
    exact bind_eq_ok.mpr ⟨_, hschema, bind_eq_ok.mpr
      ⟨x, hget, bind_eq_ok.mpr ⟨w, hstrict, if_neg (Nat.not_lt_zero _)⟩⟩⟩

/-- A root without braces is copied into the reference. -/
lemma formatSchema_schemaFmt (v : JSONSchemaValidator)
    (hroot : ∀ c ∈ v.schemaRoot.toList, c ≠ '\x7b' ∧ c ≠ '\x7d') (messageType p : String) :
    formatSchema v.schemaFmt v.formatField messageType p = .ok (String.ofList
      (v.schemaRoot.toList ++ '#' :: '/' :: JsonPointer.join ["schemas", messageType, p])) := by
  have hplain : ∀ c ∈ v.schemaRoot.toList ++ "#/schemas/".toList, c ≠ '\x7b' ∧ c ≠ '\x7d' := by
    intro c hc
    rcases List.mem_append.mp hc with hc | hc
    · exact hroot c hc
    · have hall : ∀ c ∈ "#/schemas/".toList, c ≠ '\x7b' ∧ c ≠ '\x7d' :=
        List.all_iff_forall_prop.mp (by decide)
      exact hall c hc
  have hfmt : v.schemaFmt.toList =
      v.schemaRoot.toList ++ "#/schemas/".toList ++ schemaPieces.flatMap PyStr.Piece.chars := by
    rw [schemaFmt, String.toList_append, List.append_assoc]
    exact congrArg (v.schemaRoot.toList ++ ·) (by decide)
  rw [formatSchema, PyStr.format_text_pieces hplain (by decide) hfmt, evalPieces_schemaPieces]
  simp only [Except.map, List.append_assoc]
  rfl

section

variable {types versions fields : List (PyKey × PyObj)} {messageType p : String}
  (hid : PyObj.field? schema "id" = some (.str v.schemaRoot))
  (hroot : JsonPointer.isAbsolute v.schemaRoot = true) (honly : hasOnlyRoot schema = true)
  (htypes : PyObj.field? schema "schemas" = some (.dict types))
  (hversions : PyObj.field? types messageType = some (.dict versions))
  (hfields : PyObj.field? versions p = some (.dict fields))
  (htype : JsonPointer.IsPlain messageType) (hpattern : JsonPointer.IsPlain p)

include hid hroot honly htypes hversions hfields htype hpattern

/-- **References to plain names.**  If the root is an absolute URL of plain characters, nothing in
the schema is found by name, and the type and the pattern have no slash, tilde, percent sign, tab or
line break, a reference that leads to the definition is formatted. -/
lemma exists_denotes_of_isPlain :
    ∃ ptr, formatSchema v.schemaFmt v.formatField messageType p = .ok ptr ∧
      v.Denotes schema ptr (.dict fields) := by
  have hbraces : ∀ c ∈ v.schemaRoot.toList, c ≠ '\x7b' ∧ c ≠ '\x7d' := by
    refine fun c hc => ⟨?_, ?_⟩ <;> rintro rfl <;>
      exact JsonPointer.notMem_of_isAbsolute hroot (by decide) hc
  refine ⟨_, v.formatSchema_schemaFmt hbraces messageType p, ?_⟩
  have hschemas : JsonPointer.IsPlain "schemas" :=
    ⟨by decide, by decide, by decide, by decide, by decide⟩
  have hparts := JsonPointer.ofReference?_append hroot
    (List.cons_ne_nil "schemas" [messageType, p])
    (List.forall_mem_cons.mpr ⟨hschemas, List.forall_mem_cons.mpr
      ⟨htype, List.forall_mem_singleton.mpr hpattern⟩⟩)
  simp only [Denotes, pointerParts?_eq hid honly, hparts, JsonPointer.get?, JsonPointer.item?,
    htypes, hversions, hfields, Option.bind_some]

/-- The reference of plain names leads to a definition that the file lists under them. -/
lemma pointerFinds_of_isPlain {x : PyObj} (hx : PyObj.field? fields "x-version" = some x)
    (htruthy : x.truthy = true) : v.PointerFinds schema (messageType, p) := by
  obtain ⟨ptr, hformat, hdenotes⟩ :=
    exists_denotes_of_isPlain hid hroot honly htypes hversions hfields htype hpattern
  exact ⟨ptr, fields, x, hformat, hdenotes,
    ⟨types, versions, htypes, PyObj.mem_of_field? hversions, PyObj.mem_of_field? hfields⟩, hx,
    fun _ => htruthy⟩

end

end JSONSchemaValidator

/-- **When start-up validation implies that the lookups succeed.**  For all tables: a constructed
protobuf validator finds a topic, a callback and the declared class for every key exactly if every
pattern is spelled as the lookups spell it; a constructed JSON validator does so exactly if moreover
the references to the definitions lead there and no full version under major version zero is
false.

**Proof sketch.**  The protobuf validators look up a class by the key under which the constructor
has registered it, and the JSON validator resolves a reference to its definition. -/
theorem lookupsSucceed_iff (messageRouting : PyDict (String × String) Topic)
    (callbacks : CallbackRegistry δ π) :
    (∀ (lib : ProtoLib) (decl : ProtoOptions lib) (wire : ProtoWire)
      (useTransportMessageAttributes : Bool) (protoMessages : List lib.Cls)
      (v : ProtobufValidator lib),
      ProtobufValidator.new decl wire useTransportMessageAttributes protoMessages messageRouting
          callbacks = .ok v →
      ((∀ key ∈ messageRouting.keys ++ callbacks.keys,
          LookupsSucceed messageRouting callbacks v.verifyKnownMinorVersion
            (v.FindsClass decl protoMessages) key) ↔
        ∀ key ∈ messageRouting.keys ++ callbacks.keys, CanonicalPattern key.2)) ∧
      ∀ (json : JsonLib) (formatField : String → String → String → Except PyException String)
        (useTransportMessageAttributes : Bool)
        (draft4Validator : PyObj → Except PyException SchemaLib) (schema : List (PyKey × PyObj))
        (v : JSONSchemaValidator),
        (∀ validator, draft4Validator (.dict schema) = .ok validator →
          validator.ResolvesIn schema) →
        JSONSchemaValidator.new json formatField useTransportMessageAttributes draft4Validator
            schema messageRouting callbacks = .ok v →
        ((∀ key ∈ messageRouting.keys ++ callbacks.keys,
            LookupsSucceed messageRouting callbacks v.verifyKnownMinorVersion
              (v.FindsDefinition schema) key) ↔
          ∀ key ∈ messageRouting.keys ++ callbacks.keys,
            CanonicalPattern key.2 ∧ v.PointerFinds schema key) :=
  ⟨fun _ _ _ _ _ _ hv => ProtobufValidator.classLookups_iff hv,
    fun _ _ _ _ _ _ hdraft hv => JSONSchemaValidator.definitionLookups_iff hdraft hv⟩

/-! ## Sample tables -/

/-- A resolver that follows pointers. -/
def pointerSchemaLib (schema : List (PyKey × PyObj)) : SchemaLib where
  resolve ptr :=
    match (pointerParts? schema ptr).bind (JsonPointer.get? (.dict schema)) with
    | some definition => .ok definition
    | none => .error (.new .refResolutionError "Unresolvable JSON pointer")
  iterErrors _ _ := .ok []
  containerErrors _ := .ok []

/-- It keeps its promise. -/
lemma resolvesIn_pointerSchemaLib (schema : List (PyKey × PyObj)) :
    (pointerSchemaLib schema).ResolvesIn schema := by
  intro ptr parts hparts
  simp only [pointerSchemaLib, hparts, Option.bind_some]
  cases JsonPointer.get? (.dict schema) parts with
  | some definition => rfl
  | none => exact ⟨_, rfl, rfl⟩

/-- A table that routes one type and pattern. -/
def routingWith (messageType versionPattern : String) : PyDict (String × String) Topic :=
  ⟨[((messageType, versionPattern), .name "trips")], List.nodup_singleton _⟩

/-- What the JSON validator is constructed from, for a file with one definition. -/
def newJsonWith (messageType versionPattern : String) : Except PyException JSONSchemaValidator :=
  JSONSchemaValidator.new emptyDocumentLib emptyDocumentValidator.formatField true
    (fun _ => .ok (pointerSchemaLib (JSONSchemaValidator.fileWith messageType versionPattern
      (.str "1.0"))))
    (JSONSchemaValidator.fileWith messageType versionPattern (.str "1.0"))
    (routingWith messageType versionPattern) (.empty : CallbackRegistry Unit Unit)

/-- The JSON validator that is constructed. -/
def jsonValidatorWith (messageType versionPattern : String) : JSONSchemaValidator :=
  { emptyDocumentValidator with
    jsonschema := pointerSchemaLib (JSONSchemaValidator.fileWith messageType versionPattern
      (.str "1.0")) }

/-- What the protobuf validator is constructed from, for the sample class. -/
def newProtobufWith (versionPattern : String) :
    Except PyException (ProtobufValidator emptyMessageLib) :=
  ProtobufValidator.new ProtobufValidator.sampleOptions .binary false [()]
    (routingWith "TripCreated" versionPattern) (.empty : CallbackRegistry Unit Unit)

/-- The pattern that a lookup builds is canonical. -/
lemma canonicalPattern_versionPattern (majorVersion : ℕ) :
    CanonicalPattern (Callback.versionPattern majorVersion) := by
  intro m hm
  rw [hm.eq_of_versionPattern]

/-- The sample class is found for a pattern of major version one. -/
lemma exists_newProtobufWith {versionPattern : String} (h : PatternMajor versionPattern 1) :
    ∃ v, newProtobufWith versionPattern = .ok v := by
  refine ProtobufValidator.exists_new.mpr
    ⟨fun _ _ => ⟨_, ProtobufValidator.declares_sampleOptions⟩, List.pairwise_singleton _ _,
      fun key hkey => ?_⟩
  obtain rfl : key = ("TripCreated", versionPattern) := List.mem_singleton.mp hkey
  exact ⟨1, h, by decide, (), List.mem_singleton_self _,
    ProtobufValidator.declares_sampleOptions⟩

/-- The theorem at a type that is routed under major version one. -/
theorem lookupsSucceed_iff_sample :
    (∃ v, newProtobufWith "1.*" = .ok v ∧
        LookupsSucceed (routingWith "TripCreated" "1.*") (.empty : CallbackRegistry Unit Unit)
          v.verifyKnownMinorVersion (v.FindsClass ProtobufValidator.sampleOptions [()])
          ("TripCreated", "1.*")) ∧
      ∃ v, newJsonWith "TripCreated" "1.*" = .ok v ∧
        LookupsSucceed (routingWith "TripCreated" "1.*") (.empty : CallbackRegistry Unit Unit)
          v.verifyKnownMinorVersion
          (v.FindsDefinition (JSONSchemaValidator.fileWith "TripCreated" "1.*" (.str "1.0")))
          ("TripCreated", "1.*") := by
  have hcanonical : CanonicalPattern "1.*" := by
    rw [show "1.*" = Callback.versionPattern 1 by decide +kernel]
    exact canonicalPattern_versionPattern 1
  have hkeys : ∀ key ∈ (routingWith "TripCreated" "1.*").keys ++
      (.empty : CallbackRegistry Unit Unit).keys, key = ("TripCreated", "1.*") := fun key hkey =>
    List.mem_singleton.mp hkey
  obtain ⟨hprotobuf, hjson⟩ := lookupsSucceed_iff (routingWith "TripCreated" "1.*")
    (.empty : CallbackRegistry Unit Unit)
  constructor
  · obtain ⟨v, hv⟩ := @exists_newProtobufWith "1.*" ⟨['1'], by decide, by decide⟩
    refine ⟨v, hv, (hprotobuf _ _ _ _ _ v hv).mpr (fun key hkey => ?_) _ (.head _)⟩
    rw [hkeys key hkey]
    exact hcanonical
  · have hnew : newJsonWith "TripCreated" "1.*" = .ok (jsonValidatorWith "TripCreated" "1.*") :=
      rfl
    refine ⟨_, hnew, (hjson _ _ _ _ _ _ (fun validator hvalidator => ?_) hnew).mpr
      (fun key hkey => ?_) _ (.head _)⟩
    · rw [← Except.ok.inj hvalidator]
      exact resolvesIn_pointerSchemaLib _
    · rw [hkeys key hkey]
      refine ⟨hcanonical, JSONSchemaValidator.pointerFinds_of_isPlain rfl (by decide) (by decide)
        rfl rfl rfl ⟨?_, ?_, ?_, ?_, ?_⟩ ⟨?_, ?_, ?_, ?_, ?_⟩ rfl (by decide)⟩ <;> decide

/-- **Two keys whose lookups fail** after the check has passed: the pattern `01.*` is that of no
major version, and the reference to the definition of `fleet/TripCreated` leads nowhere. -/
theorem lookupsSucceed_counterexample :
    (∃ v, newProtobufWith "01.*" = .ok v ∧
        ¬ LookupsSucceed (routingWith "TripCreated" "01.*")
          (.empty : CallbackRegistry Unit Unit) v.verifyKnownMinorVersion
          (v.FindsClass ProtobufValidator.sampleOptions [()]) ("TripCreated", "01.*")) ∧
      ∃ v, newJsonWith "fleet/TripCreated" "1.*" = .ok v ∧
        ¬ LookupsSucceed (routingWith "fleet/TripCreated" "1.*")
          (.empty : CallbackRegistry Unit Unit) v.verifyKnownMinorVersion
          (v.FindsDefinition (JSONSchemaValidator.fileWith "fleet/TripCreated" "1.*" (.str "1.0")))
          ("fleet/TripCreated", "1.*") := by
  have hone : PatternMajor "01.*" 1 := ⟨['0', '1'], by decide, by decide⟩
  constructor
  · obtain ⟨v, hv⟩ := exists_newProtobufWith hone
    refine ⟨v, hv, ?_⟩
    rintro ⟨m, hpattern, -⟩
    have hpattern' : "01.*" = Callback.versionPattern m := hpattern
    obtain rfl : 1 = m := (hpattern' ▸ hone).eq_of_versionPattern
    exact absurd hpattern' (by decide +kernel)
  · have hnew : newJsonWith "fleet/TripCreated" "1.*" =
        .ok (jsonValidatorWith "fleet/TripCreated" "1.*") := rfl
    refine ⟨_, hnew, ?_⟩
    rintro ⟨m, hpattern, -, -, -, definition, hschema, -⟩
    obtain ⟨ptr, hformat, hresolve⟩ := JSONSchemaValidator.schema_eq_ok _ |>.mp hschema
    have hptr := (jsonValidatorWith "fleet/TripCreated" "1.*").formatSchema_schemaFmt
      (List.all_iff_forall_prop.mp (by decide)) "fleet/TripCreated" "1.*"
    have hpattern' : toString m ++ ".*" = "1.*" := hpattern.symm
    rw [hpattern', hptr] at hformat
    obtain rfl := Except.ok.inj hformat
    -- the slash in the type separates two parts of the pointer
    have hparts := @JsonPointer.ofReference?_append "https://hedwig.automatic.com/schema"
      ["schemas", "fleet", "TripCreated", "1.*"] (by decide) (by simp) (by
        intro part hpart
        simp only [List.mem_cons, List.not_mem_nil, or_false] at hpart
        rcases hpart with rfl | rfl | rfl | rfl <;> exact ⟨by decide, by decide, by decide,
          by decide, by decide⟩)
    obtain ⟨e, hunresolved, -⟩ := resolvesIn_pointerSchemaLib
      (JSONSchemaValidator.fileWith "fleet/TripCreated" "1.*" (.str "1.0")) _ _
      ((pointerParts?_eq rfl (by decide) _).trans hparts)
    cases hunresolved.symm.trans hresolve

end Hedwig
