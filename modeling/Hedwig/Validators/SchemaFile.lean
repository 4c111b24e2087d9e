import Hedwig.Lib.Collect
import Hedwig.Validators.Errors
import Hedwig.Validators.JsonSchema
import Hedwig.Validators.VersionPattern

set_option relaxedAutoImplicit false
set_option autoImplicit false

/-!
# The schema file

The constructor of `JSONSchemaValidator`: `_check_schema` walks through the message types, the
version patterns and the definitions of the schema file of an application, looks up every key of
the routing and callback tables, and raises everything it found wrong at once.

## Main definitions

* `Hedwig.JSONSchemaValidator.checkSchema` — `_check_schema`, and `JSONSchemaValidator.new` the
  constructor.
* `Hedwig.HasDefinition` — what the file lists.
* `Hedwig.WellFormedDefinition` — a definition as the rest of the program relies on it.
* `Hedwig.Crashes`, `Hedwig.Flagged` — the definitions at which the check raises something else, and
  those that it reports.

## Main results

* `Hedwig.JSONSchemaValidator.soundAndTotal_iff` — for which files and tables the check is sound and
  raises nothing but `SchemaError`.

## Design

The schema is a dictionary that was loaded from JSON.  The keys of the two tables are collected in
a dictionary, whose order is the order of the tables.  The keys that the loop marks as found are
those of the definitions it comes to.  Constructing `Draft4Validator` is a parameter; an `id` that
is no string is printed, as the schema format does.
-/

namespace Hedwig

/-! ## Checking a definition -/

/-- `StrictVersion(o)`: a falsy argument is not parsed and leaves no `version`. -/
def strictVersionInit (o : PyObj) : Except PyException (Option StrictVersion) :=
  if o.truthy then
    match o with
    | .str s =>
      match StrictVersion.parse s with
      | some v => .ok (some v)
      | none => .error (.new .valueError ("invalid version number '" ++ s ++ "'"))
    | _ => .error (.new .typeError "expected string or bytes-like object")
  else .ok none

/-- An item of a list is the name of the version. -/
def isXVersion : PyObj → Bool
  | .str s => s = "x-version"
  | _ => false

/-- `'x-version' in definition`. -/
def hasXVersion : PyObj → Except PyException Bool
  | .dict fields => .ok (PyObj.field? fields "x-version").isSome
  | .list items => .ok (items.any isXVersion)
  | .str s => .ok (PyStr.contains s "x-version")
  | _ => .error (.new .typeError "argument is not iterable")

namespace JSONSchemaValidator

/-- The part of an error that says where it is. -/
def place (msgType versionPattern : PyKey) : String :=
  "'" ++ msgType.text ++ "' '" ++ versionPattern.text ++ "'"

/-- The match of the version pattern: an error, or the major version. -/
def readPattern (msgType : PyKey) :
    PyKey → Except PyException (List String × Option ℕ)
  | .other _ => .error (.new .typeError "expected string or bytes-like object")
  | .bytes _ => .error (.new .typeError "cannot use a string pattern on a bytes-like object")
  | .str versionPattern =>
    match versionPatternMatch versionPattern.toList with
    | none =>
      .ok (["Invalid version '" ++ versionPattern ++ "' for: '" ++ msgType.text ++ "'"], none)
    | some digits => do
      let majorVersion ← intOfDigits digits
      return ([], some majorVersion)

/-- `full_version.version[0] != major_version`, which is looked at for a major version other than
zero only. -/
def checkMajorVersion (msgType versionPattern : PyKey) (majorVersion : Option ℕ)
    (fullVersion : Option StrictVersion) : Except PyException (List String) :=
  match majorVersion with
  | none | some 0 => .ok []
  | some majorVersion =>
    match fullVersion with
    | none => .error (.new .attributeError "version")
    | some fullVersion =>
      if fullVersion.major ≠ majorVersion then
        .ok ["Invalid full version: '" ++ fullVersion.str ++ "' for: " ++
          place msgType versionPattern]
      else .ok []

/-- The check of the full version, with its `ValueError` caught. -/
def checkFullVersion (msgType versionPattern : PyKey) (majorVersion : Option ℕ)
    (definition : PyObj) : Except PyException (List String) := do
  let xVersion ← getItem definition "x-version"
  match strictVersionInit xVersion with
  | .ok fullVersion => checkMajorVersion msgType versionPattern majorVersion fullVersion
  | .error e =>
    if e.isInstance .valueError then
      .ok ["Invalid full version: '" ++ xVersion.text ++ "' for: " ++ place msgType versionPattern]
    else .error e

/-- `isinstance(obj, dict)`. -/
def isDict : PyObj → Bool
  | .dict _ => true
  | _ => false

/-- The part of a turn that is about the definition itself. -/
def checkBody (msgType versionPattern : PyKey) (majorVersion : Option ℕ) (definition : PyObj) :
    Except PyException (List String) := do
  if !isDict definition && !definition.truthy then
    return ["Invalid schema for: " ++ place msgType versionPattern]
  let found ← hasXVersion definition
  if !found then
    return ["Invalid schema for: " ++ place msgType versionPattern ++ ": missing x-version"]
  checkFullVersion msgType versionPattern majorVersion definition

/-- One turn of the loop over the versions of a type. -/
def checkDefinition (msgType : PyKey) (entry : PyKey × PyObj) :
    Except PyException (List String) := do
  let (errors, majorVersion) ← readPattern msgType entry.1
  let more ← checkBody msgType entry.1 majorVersion entry.2
  return errors ++ more

/-- One turn of the loop over the types. -/
def checkVersions (entry : PyKey × PyObj) : Except PyException (List String) :=
  match entry.2 with
  | .dict (version :: versions) => Collect.all (checkDefinition entry.1) (version :: versions)
  | _ => .ok ["Invalid definition for: '" ++ entry.1.text ++
      "', value must contain a dict of valid versions"]

/-- The loop over the types, if there are any. -/
def checkSchemas (schemas : PyObj) : Except PyException (List String) :=
  if schemas.truthy then do
    let types ← getItems schemas
    Collect.all checkVersions types
  else .ok ["Invalid schema file: expected key 'schemas' with non-empty value"]

/-- The items of a dictionary, and none of anything else. -/
def itemsOf : PyObj → List (PyKey × PyObj)
  | .dict fields => fields
  | _ => []

/-- The keys of the definitions, which the loop marks as found. -/
def listedKeys (schemas : PyObj) : List (PyKey × PyKey) :=
  (itemsOf schemas).flatMap fun entry => (itemsOf entry.2).map fun version => (entry.1, version.1)

/-- The errors for the keys of the tables that are not marked. -/
def checkFound (schemas : PyObj) (msgTypesFound : List (String × String)) : List String :=
  (msgTypesFound.filter fun key => (PyKey.str key.1, PyKey.str key.2) ∉ listedKeys schemas).map
    fun key => "Schema not found for '" ++ key.1 ++ "' v" ++ key.2

/-- `_check_schema`. -/
def checkSchema (schema : List (PyKey × PyObj)) (msgTypesFound : List (String × String)) :
    Outcome := do
  let schemas := (PyObj.field? schema "schemas").getD .none
  let errors ← checkSchemas schemas
  let errors := errors ++ checkFound schemas msgTypesFound
  if errors = [] then .ok ()
  else .error (.new .schemaError (PyObj.text (.list (errors.map .str))))

/-- The constructor, with the two tables of the settings. -/
def new {τ φ : Type} (json : JsonLib) (formatField : String → String → String →
      Except PyException String) (useTransportMessageAttributes : Bool)
    (draft4Validator : PyObj → Except PyException SchemaLib) (schema : List (PyKey × PyObj))
    (messageRouting : PyDict (String × String) τ) (callbacks : PyDict (String × String) φ) :
    Except PyException JSONSchemaValidator := do
  checkSchema schema (messageRouting.keys ++ callbacks.keys).dedup
  let validator ← draft4Validator (.dict schema)
  let schemaRoot ← getItem (.dict schema) "id"
  return ⟨json, validator, schemaRoot.text, formatField, useTransportMessageAttributes⟩

end JSONSchemaValidator

/-! ## What the check looks for -/

/-- The file lists a definition under a message type and a version pattern. -/
def HasDefinition (schema : List (PyKey × PyObj)) (msgType versionPattern : PyKey)
    (definition : PyObj) : Prop :=
  ∃ types versions, PyObj.field? schema "schemas" = some (.dict types) ∧
    (msgType, PyObj.dict versions) ∈ types ∧ (versionPattern, definition) ∈ versions

/-- A definition as the rest of the program relies on it: the pattern is a major version and an
asterisk, the definition is an object, and its full version is a version string with that major
version. -/
def WellFormedDefinition (versionPattern : PyKey) (definition : PyObj) : Prop :=
  ∃ majorVersion fields s fullVersion,
    versionPattern = .str (Callback.versionPattern majorVersion) ∧ definition = .dict fields ∧
    PyObj.field? fields "x-version" = some (.str s) ∧ StrictVersion.parse s = some fullVersion ∧
    fullVersion.major = majorVersion

/-- The definitions at which the check raises something else than `SchemaError`. -/
inductive Crashes : PyKey → PyObj → Prop
  /-- The pattern is no string. -/
  | pattern {p : PyKey} (hp : p.isStr = false) (definition : PyObj) : Crashes p definition
  /-- The pattern has more digits than `int` reads. -/
  | digits {p : String} {ds : List Char} (definition : PyObj)
      (hmatch : versionPatternMatch p.toList = some ds) (hlong : PyStr.nat? ds = none) :
      Crashes (.str p) definition
  /-- The definition is no object, but true, and not seen to lack a full version. -/
  | definition (p : PyKey) {definition : PyObj} (htruthy : definition.truthy = true)
      (hdict : ∀ fields, definition ≠ .dict fields) (hhas : hasXVersion definition ≠ .ok false) :
      Crashes p definition
  /-- The full version is true and no string. -/
  | version (p : PyKey) {fields : List (PyKey × PyObj)} {x : PyObj}
      (hx : PyObj.field? fields "x-version" = some x) (htruthy : x.truthy = true)
      (hstr : ∀ s, x ≠ .str s) : Crashes p (.dict fields)
  /-- The full version is false, and compared with a major version other than zero. -/
  | unparsed {p : String} {majorVersion : ℕ} {fields : List (PyKey × PyObj)} {x : PyObj}
      (hx : PyObj.field? fields "x-version" = some x) (hfalsy : x.truthy = false)
      (hmajor : PatternMajor p majorVersion) (hne : majorVersion ≠ 0) :
      Crashes (.str p) (.dict fields)

/-- The definitions that the check reports. -/
inductive Flagged : PyKey → PyObj → Prop
  /-- The pattern does not match. -/
  | pattern {p : String} (definition : PyObj) (hmatch : versionPatternMatch p.toList = none) :
      Flagged (.str p) definition
  /-- The definition is no object, and false. -/
  | falsy (p : PyKey) {definition : PyObj} (hfalsy : definition.truthy = false)
      (hdict : ∀ fields, definition ≠ .dict fields) : Flagged p definition
  /-- The definition has no full version. -/
  | missing (p : PyKey) {definition : PyObj} (hhas : hasXVersion definition = .ok false) :
      Flagged p definition
  /-- The full version is no version string. -/
  | version (p : PyKey) {fields : List (PyKey × PyObj)} {s : String}
      (hx : PyObj.field? fields "x-version" = some (.str s)) (hne : s ≠ "")
      (hparse : StrictVersion.parse s = none) : Flagged p (.dict fields)
  /-- The full version has another major version, and that of the pattern is not zero. -/
  | major {p s : String} {majorVersion : ℕ} {fields : List (PyKey × PyObj)}
      {fullVersion : StrictVersion} (hx : PyObj.field? fields "x-version" = some (.str s))
      (hparse : StrictVersion.parse s = some fullVersion) (hmajor : PatternMajor p majorVersion)
      (hne : majorVersion ≠ 0) (hother : fullVersion.major ≠ majorVersion) :
      Flagged (.str p) (.dict fields)

/-- What the check does not look at: the spelling of the pattern, and the full version under major
version zero. -/
def UncheckedPartsRight (versionPattern : PyKey) (definition : PyObj) : Prop :=
  ∀ p majorVersion, versionPattern = .str p → PatternMajor p majorVersion →
    p = Callback.versionPattern majorVersion ∧
      (majorVersion = 0 → ∀ fields x, definition = .dict fields →
        PyObj.field? fields "x-version" = some x →
        ∃ s fullVersion, x = .str s ∧ StrictVersion.parse s = some fullVersion ∧
          fullVersion.major = 0)

/-- A definition passes the check: the pattern matches, the definition is an object, and its full
version was parsed with the major version of the pattern, unless that is zero. -/
def Passes (versionPattern : PyKey) (definition : PyObj) : Prop :=
  ∃ p majorVersion fields x fullVersion, versionPattern = .str p ∧ PatternMajor p majorVersion ∧
    definition = .dict fields ∧ PyObj.field? fields "x-version" = some x ∧
    strictVersionInit x = .ok fullVersion ∧
    (majorVersion ≠ 0 → ∃ v, fullVersion = some v ∧ v.major = majorVersion)

/-! ## The check of a definition -/

/-- What constructing a version does with its argument. -/
lemma strictVersionInit_cases (x : PyObj) :
    (x.truthy = false ∧ strictVersionInit x = .ok none) ∨
      (∃ s v, x = .str s ∧ StrictVersion.parse s = some v ∧ strictVersionInit x = .ok (some v)) ∨
      (∃ s, x = .str s ∧ s ≠ "" ∧ StrictVersion.parse s = none ∧ strictVersionInit x =
        .error (.new .valueError ("invalid version number '" ++ s ++ "'"))) ∨
      x.truthy = true ∧ (∀ s, x ≠ .str s) ∧
        strictVersionInit x = .error (.new .typeError "expected string or bytes-like object") := by
  cases htruthy : x.truthy with
  | false =>
    exact .inl ⟨rfl, by simp only [strictVersionInit, htruthy, Bool.false_eq_true, if_false]⟩
  | true =>
    right
    cases x with
    | str s =>
      cases hparse : StrictVersion.parse s with
      | some v =>
        exact .inl ⟨s, v, rfl, hparse, by simp only [strictVersionInit, htruthy, if_true, hparse]⟩
      | none =>
        refine .inr (.inl ⟨s, rfl, of_decide_eq_true htruthy, hparse, ?_⟩)
        simp only [strictVersionInit, htruthy, if_true, hparse]
    | _ =>
      refine .inr (.inr ⟨rfl, fun _ h => PyObj.noConfusion h, ?_⟩)
      simp only [strictVersionInit, htruthy, if_true]

/-- A version string is true. -/
lemma strictVersionInit_eq_some {x : PyObj} {v : StrictVersion} :
    strictVersionInit x = .ok (some v) ↔ ∃ s, x = .str s ∧ StrictVersion.parse s = some v := by
  constructor
  · intro h
    rcases strictVersionInit_cases x with ⟨-, hinit⟩ | ⟨s, v', rfl, hparse, hinit⟩ |
      ⟨_, -, -, -, hinit⟩ | ⟨-, -, hinit⟩
    · cases hinit.symm.trans h
    · exact ⟨s, rfl, hparse.trans (Except.ok.inj (hinit.symm.trans h))⟩
    · cases hinit.symm.trans h
    · cases hinit.symm.trans h
  · rintro ⟨s, rfl, hparse⟩
    have hne : s ≠ "" := by
      rintro rfl
      cases hparse
    have htruthy : (PyObj.str s).truthy = true := decide_eq_true hne
    simp only [strictVersionInit, htruthy, if_true, hparse]

/-- A definition that passes is not reported. -/
lemma Passes.not_flagged {p : PyKey} {definition : PyObj} (h : Passes p definition) :
    ¬ Flagged p definition := by
  obtain ⟨text, m, fields, x, fullVersion, rfl, hm, rfl, hx, hinit, hmajor⟩ := h
  intro hflagged
  cases hflagged with
  | pattern _ hmatch =>
    obtain ⟨_, hdigits, -⟩ := hm
    cases hmatch.symm.trans hdigits
  | falsy _ _ hdict => exact hdict fields rfl
  | missing _ hhas => simp [hasXVersion, hx] at hhas
  | version _ hx' hne hparse =>
    obtain rfl := Option.some.inj (hx.symm.trans hx')
    have htruthy : (PyObj.str _).truthy = true := decide_eq_true hne
    simp only [strictVersionInit, htruthy, if_true, hparse] at hinit
    cases hinit
  | major hx' hparse hmajor' hne hother =>
    obtain rfl := Option.some.inj (hx.symm.trans hx')
    obtain rfl := hm.unique hmajor'
    obtain ⟨v, rfl, hv⟩ := hmajor hne
    obtain ⟨_, ⟨⟩, hparse'⟩ := strictVersionInit_eq_some.mp hinit
    exact hother ((Option.some.inj (hparse.symm.trans hparse')) ▸ hv)

/-- A definition that passes does not crash. -/
lemma Passes.not_crashes {p : PyKey} {definition : PyObj} (h : Passes p definition) :
    ¬ Crashes p definition := by
  obtain ⟨text, m, fields, x, fullVersion, rfl, hm, rfl, hx, hinit, hmajor⟩ := h
  intro hcrash
  cases hcrash with
  | pattern hp _ => cases hp
  | digits _ hmatch hlong =>
    obtain ⟨_, hdigits, hnat⟩ := hm
    obtain rfl := Option.some.inj (hmatch.symm.trans hdigits)
    cases hlong.symm.trans hnat
  | definition _ _ hdict => exact hdict fields rfl
  | version _ hx' htruthy hstr =>
    obtain rfl := Option.some.inj (hx.symm.trans hx')
    rcases strictVersionInit_cases x with ⟨hfalsy, -⟩ | ⟨s, _, hs, -⟩ | ⟨s, hs, -⟩ | ⟨-, -, hraise⟩
    · exact Bool.noConfusion (hfalsy.symm.trans htruthy)
    · exact hstr s hs
    · exact hstr s hs
    · cases hraise.symm.trans hinit
  | unparsed hx' hfalsy hmajor' hne =>
    obtain rfl := Option.some.inj (hx.symm.trans hx')
    obtain rfl := hm.unique hmajor'
    obtain ⟨v, rfl, -⟩ := hmajor hne
    simp only [strictVersionInit, hfalsy, Bool.false_eq_true, if_false] at hinit
    cases hinit

/-- A definition that passes is well-formed exactly if the parts are right that the check does not
look at. -/
lemma Passes.wellFormed_iff {p : PyKey} {definition : PyObj} (h : Passes p definition) :
    WellFormedDefinition p definition ↔ UncheckedPartsRight p definition := by
  obtain ⟨text, m, fields, x, fullVersion, rfl, hm, rfl, hx, hinit, hmajor⟩ := h
  constructor
  · rintro ⟨m', _, s, v, ⟨⟩, ⟨⟩, hs, hparse, rfl⟩ _ m'' ⟨⟩ hm''
    obtain rfl := hm''.eq_of_versionPattern
    refine ⟨rfl, fun hzero _ x' hfields hx' => ?_⟩
    obtain rfl := PyObj.dict.inj hfields
    exact ⟨s, v, Option.some.inj (hx'.symm.trans hs), hparse, hzero⟩
  · intro hright
    obtain ⟨rfl, hzero⟩ := hright text m rfl hm
    by_cases hne : m = 0
    · obtain ⟨s, v, rfl, hparse, hv⟩ := hzero hne fields x rfl hx
      exact ⟨m, fields, s, v, rfl, rfl, hx, hparse, hv.trans hne.symm⟩
    · obtain ⟨v, rfl, hv⟩ := hmajor hne
      obtain ⟨s, rfl, hparse⟩ := strictVersionInit_eq_some.mp hinit
      exact ⟨m, fields, s, v, rfl, rfl, hx, hparse, hv⟩

/-- The files at which the check raises something else than `SchemaError`: the types are true and no
object, or a definition crashes. -/
def CrashingFile (schema : List (PyKey × PyObj)) : Prop :=
  (∃ schemas, PyObj.field? schema "schemas" = some schemas ∧ schemas.truthy = true ∧
      ∀ types, schemas ≠ .dict types) ∨
    ∃ msgType p definition, HasDefinition schema msgType p definition ∧ Crashes p definition

/-- The files that the check reports: there are no types, the versions of a type are no object or an
empty one, a definition is reported, or there is none for a key of the tables. -/
def FlaggedFile (schema : List (PyKey × PyObj)) (keys : List (String × String)) : Prop :=
  ((PyObj.field? schema "schemas").getD .none).truthy = false ∨
    (∃ types msgType versions, PyObj.field? schema "schemas" = some (.dict types) ∧
      (msgType, versions) ∈ types ∧ ∀ version rest, versions ≠ .dict (version :: rest)) ∨
    (∃ msgType p definition, HasDefinition schema msgType p definition ∧ Flagged p definition) ∨
    ∃ key ∈ keys, ∀ definition, ¬ HasDefinition schema (.str key.1) (.str key.2) definition

namespace JSONSchemaValidator

variable {msgType p : PyKey} {definition x : PyObj} {fields : List (PyKey × PyObj)}
  {fullVersion : Option StrictVersion}

/-- What the match of a pattern does. -/
lemma readPattern_cases (msgType p : PyKey) :
    ((∀ definition, Crashes p definition) ∧
        ∃ e, readPattern msgType p = .error e ∧ e.isInstance .schemaError = false) ∨
      (∃ text error, p = .str text ∧ versionPatternMatch text.toList = none ∧
        readPattern msgType p = .ok ([error], none)) ∨
      ∃ text m, p = .str text ∧ PatternMajor text m ∧
        readPattern msgType p = .ok ([], some m) := by
  cases p with
  | other printed | bytes printed => exact .inl ⟨.pattern rfl, _, rfl, rfl⟩
  | str text =>
    simp only [readPattern]
    cases hmatch : versionPatternMatch text.toList with
    | none => exact .inr (.inl ⟨text, _, rfl, hmatch, rfl⟩)
    | some digits =>
      cases hnat : PyStr.nat? digits with
      | none =>
        refine .inl ⟨fun definition => .digits definition hmatch hnat, ?_⟩
        simp only [intOfDigits, hnat]
        exact ⟨_, rfl, rfl⟩
      | some m =>
        refine .inr (.inr ⟨text, m, rfl, ⟨digits, hmatch, hnat⟩, ?_⟩)
        simp only [intOfDigits, hnat]
        rfl

/-- What the comparison of the major versions does. -/
lemma checkMajorVersion_cases (msgType p : PyKey) (majorVersion : Option ℕ)
    (fullVersion : Option StrictVersion) :
    (∃ m e, majorVersion = some m ∧ m ≠ 0 ∧ fullVersion = none ∧
        checkMajorVersion msgType p majorVersion fullVersion = .error e ∧
        e.isInstance .schemaError = false) ∨
      (∃ m v error, majorVersion = some m ∧ m ≠ 0 ∧ fullVersion = some v ∧ v.major ≠ m ∧
        checkMajorVersion msgType p majorVersion fullVersion = .ok [error]) ∨
      (∀ m, majorVersion = some m → m ≠ 0 → ∃ v, fullVersion = some v ∧ v.major = m) ∧
        checkMajorVersion msgType p majorVersion fullVersion = .ok [] := by
  rcases majorVersion with _ | _ | n
  · exact .inr (.inr ⟨nofun, rfl⟩)
  · exact .inr (.inr ⟨fun _ h hne => absurd (Option.some.inj h).symm hne, rfl⟩)
  · cases fullVersion with
    | none => exact .inl ⟨n + 1, _, rfl, by omega, rfl, rfl, rfl⟩
    | some v =>
      right
      by_cases hmajor : v.major = n + 1
      · refine .inr ⟨fun m hm _ => ⟨v, rfl, hmajor.trans (Option.some.inj hm)⟩, ?_⟩
        simp [checkMajorVersion, hmajor]
      · exact .inl ⟨n + 1, v, _, rfl, by omega, rfl, hmajor, if_pos hmajor⟩

/-- A dictionary is one by its class. -/
lemma eq_dict_of_isDict (h : isDict definition = true) : ∃ fields, definition = .dict fields := by
  cases definition with
  | dict fields => exact ⟨fields, rfl⟩
  | _ => cases h

/-- What the check does with an object that has a full version. -/
lemma checkBody_dict {majorVersion : Option ℕ}
    (hx : PyObj.field? fields "x-version" = some x) :
    checkBody msgType p majorVersion (.dict fields) =
      match strictVersionInit x with
      | .ok fullVersion => checkMajorVersion msgType p majorVersion fullVersion
      | .error e =>
        if e.isInstance .valueError then
          .ok ["Invalid full version: '" ++ x.text ++ "' for: " ++ place msgType p]
        else .error e := by
  simp only [checkBody, checkFullVersion, getItem, isDict, hasXVersion, hx]
  rfl

/-- What the check does with a definition that is no object. -/
lemma checkBody_cases_of_not_isDict {majorVersion : Option ℕ} (hdict : isDict definition = false) :
    (Crashes p definition ∧
        ∃ e, checkBody msgType p majorVersion definition = .error e ∧
          e.isInstance .schemaError = false) ∨
      Flagged p definition ∧
        ∃ error, checkBody msgType p majorVersion definition = .ok [error] := by
  have hne : ∀ fields, definition ≠ .dict fields := by
    rintro fields rfl
    cases hdict
  cases htruthy : definition.truthy with
  | false =>
    refine .inr ⟨.falsy p htruthy hne, "Invalid schema for: " ++ place msgType p, ?_⟩
    simp only [checkBody, hdict, htruthy, Bool.not_false, Bool.and_self, if_true]
    rfl
  | true =>
    have hbody : checkBody msgType p majorVersion definition = hasXVersion definition >>=
        fun found => if !found then
          .ok ["Invalid schema for: " ++ place msgType p ++ ": missing x-version"]
        else checkFullVersion msgType p majorVersion definition := by
      simp only [checkBody, hdict, htruthy, Bool.not_false, Bool.not_true, Bool.and_false,
        Bool.false_eq_true, if_false]
      rfl
    rcases hhas : hasXVersion definition with e | _ | _
    · refine .inl ⟨.definition p htruthy hne (by rw [hhas]; nofun), e, ?_, ?_⟩
      · rw [hbody, hhas]
        rfl
      · cases definition with
        | str s => cases hhas
        | list items => cases hhas
        | dict fields => cases hdict
        | _ => exact (Except.error.inj hhas) ▸ rfl
    · refine .inr ⟨.missing p hhas,
        "Invalid schema for: " ++ place msgType p ++ ": missing x-version", ?_⟩
      rw [hbody, hhas]
      rfl
    · refine .inl ⟨.definition p htruthy hne (by rw [hhas]; nofun), ?_⟩
      rw [hbody, hhas]
      cases definition with
      | dict fields => cases hdict
      | _ => exact ⟨_, rfl, rfl⟩

/-- What the check does with an object that has a full version, case by case. -/
lemma checkBody_dict_cases {majorVersion : Option ℕ}
    (hmajor : ∀ m, majorVersion = some m → ∃ text, p = .str text ∧ PatternMajor text m)
    (hx : PyObj.field? fields "x-version" = some x) :
    (Crashes p (.dict fields) ∧
        ∃ e, checkBody msgType p majorVersion (.dict fields) = .error e ∧
          e.isInstance .schemaError = false) ∨
      (Flagged p (.dict fields) ∧
        ∃ error, checkBody msgType p majorVersion (.dict fields) = .ok [error]) ∨
      (∃ fullVersion, strictVersionInit x = .ok fullVersion ∧
        ∀ m, majorVersion = some m → m ≠ 0 → ∃ v, fullVersion = some v ∧ v.major = m) ∧
      checkBody msgType p majorVersion (.dict fields) = .ok [] := by
  rw [checkBody_dict hx]
  rcases strictVersionInit_cases x with ⟨hfalsy, hinit⟩ | ⟨s, v, rfl, hparse, hinit⟩ |
    ⟨s, rfl, hne, hparse, hinit⟩ | ⟨htruthy, hstr, hinit⟩
  · simp only [hinit]
    rcases checkMajorVersion_cases msgType p majorVersion none with
      ⟨m, e, hm, hne, -, hraise, hclass⟩ | ⟨_, _, _, _, _, ⟨⟩, _⟩ | ⟨hagrees, hok⟩
    · obtain ⟨text, rfl, hpattern⟩ := hmajor m hm
      exact .inl ⟨.unparsed hx hfalsy hpattern hne, e, hraise, hclass⟩
    · exact .inr (.inr ⟨⟨none, rfl, hagrees⟩, hok⟩)
  · simp only [hinit]
    rcases checkMajorVersion_cases msgType p majorVersion (some v) with
      ⟨_, _, _, _, ⟨⟩, _⟩ | ⟨m, _, error, hm, hne, ⟨⟩, hother, hok⟩ | ⟨hagrees, hok⟩
    · obtain ⟨text, rfl, hpattern⟩ := hmajor m hm
      exact .inr (.inl ⟨.major hx hparse hpattern hne hother, error, hok⟩)
    · exact .inr (.inr ⟨⟨some v, rfl, hagrees⟩, hok⟩)
  · simp only [hinit]
    exact .inr (.inl ⟨.version p hx hne hparse, _, rfl⟩)
  · simp only [hinit]
    exact .inl ⟨.version p hx htruthy hstr, _, rfl, rfl⟩

/-- What the check does after the match of the pattern. -/
lemma checkBody_cases {majorVersion : Option ℕ}
    (hmajor : ∀ m, majorVersion = some m → ∃ text, p = .str text ∧ PatternMajor text m) :
    (Crashes p definition ∧
        ∃ e, checkBody msgType p majorVersion definition = .error e ∧
          e.isInstance .schemaError = false) ∨
      (Flagged p definition ∧
        ∃ error, checkBody msgType p majorVersion definition = .ok [error]) ∨
      (∃ fields x fullVersion, definition = .dict fields ∧
        PyObj.field? fields "x-version" = some x ∧ strictVersionInit x = .ok fullVersion ∧
        ∀ m, majorVersion = some m → m ≠ 0 → ∃ v, fullVersion = some v ∧ v.major = m) ∧
      checkBody msgType p majorVersion definition = .ok [] := by
  cases hdict : isDict definition with
  | false =>
    rcases checkBody_cases_of_not_isDict hdict with hcrash | hflagged
    · exact .inl hcrash
    · exact .inr (.inl hflagged)
  | true =>
    obtain ⟨fields, rfl⟩ := eq_dict_of_isDict hdict
    cases hx : PyObj.field? fields "x-version" with
    | none =>
      have hhas : hasXVersion (.dict fields) = .ok false := by simp [hasXVersion, hx]
      refine .inr (.inl ⟨.missing p hhas,
        "Invalid schema for: " ++ place msgType p ++ ": missing x-version", ?_⟩)
      simp only [checkBody, hdict, Bool.not_true, Bool.false_and, Bool.false_eq_true, if_false,
        hhas]
      rfl
    | some x =>
      rcases checkBody_dict_cases hmajor hx with hcrash | hflagged |
        ⟨⟨fullVersion, hinit, hagrees⟩, hok⟩
      · exact .inl hcrash
      · exact .inr (.inl hflagged)
      · exact .inr (.inr ⟨⟨fields, x, fullVersion, rfl, hx, hinit, hagrees⟩, hok⟩)

/-- **The check of a definition** raises something else than `SchemaError` at one that crashes,
reports one that does not pass, and reports nothing of one that passes.

**Proof sketch.**  The pattern is read first, and then the body, which is looked at even if the
pattern is reported.  `readPattern_cases` and `checkBody_cases` have three cases each: something
else is raised, an error is reported, or nothing is. -/
lemma checkDefinition_cases (msgType p : PyKey) (definition : PyObj) :
    (Crashes p definition ∧ ∃ e, checkDefinition msgType (p, definition) = .error e ∧
        e.isInstance .schemaError = false) ∨
      (Flagged p definition ∧
        ∃ errors, errors ≠ [] ∧ checkDefinition msgType (p, definition) = .ok errors) ∨
      Passes p definition ∧ checkDefinition msgType (p, definition) = .ok [] := by
  have hbind : ∀ errors majorVersion, readPattern msgType p = .ok (errors, majorVersion) →
      checkDefinition msgType (p, definition) =
        checkBody msgType p majorVersion definition >>= fun more => .ok (errors ++ more) := by
    intro errors majorVersion hread
    simp only [checkDefinition, hread]
    rfl
  rcases readPattern_cases msgType p with ⟨hcrash, e, hread, hclass⟩ |
    ⟨text, error, rfl, hmatch, hread⟩ | ⟨text, m, rfl, hm, hread⟩
  · refine .inl ⟨hcrash definition, e, ?_, hclass⟩
    simp only [checkDefinition, hread]
    rfl
  · rw [hbind _ _ hread]
    rcases @checkBody_cases msgType (.str text) definition none nofun with
      ⟨hcrash, e, hbody, hclass⟩ | ⟨-, error', hbody⟩ | ⟨-, hbody⟩
    · exact .inl ⟨hcrash, e, by rw [hbody]; rfl, hclass⟩
    · exact .inr (.inl ⟨.pattern definition hmatch, [error, error'], nofun, by rw [hbody]; rfl⟩)
    · exact .inr (.inl ⟨.pattern definition hmatch, [error], nofun, by rw [hbody]; rfl⟩)
  · rw [hbind _ _ hread]
    have hmajor : ∀ m', some m = some m' → ∃ t, PyKey.str text = .str t ∧ PatternMajor t m' :=
      fun m' he => ⟨text, rfl, Option.some.inj he ▸ hm⟩
    rcases @checkBody_cases msgType (.str text) definition (some m) hmajor with
      ⟨hcrash, e, hbody, hclass⟩ | ⟨hflagged, error, hbody⟩ |
      ⟨⟨fields, x, fullVersion, rfl, hx, hinit, hagrees⟩, hbody⟩
    · exact .inl ⟨hcrash, e, by rw [hbody]; rfl, hclass⟩
    · exact .inr (.inl ⟨hflagged, [error], nofun, by rw [hbody]; rfl⟩)
    · exact .inr (.inr ⟨⟨text, m, fields, x, fullVersion, rfl, hm, rfl, hx, hinit, hagrees m rfl⟩,
        by rw [hbody]; rfl⟩)

/-- Nothing is reported of a definition exactly if it passes. -/
lemma checkDefinition_eq_ok_nil :
    checkDefinition msgType (p, definition) = .ok [] ↔ Passes p definition := by
  rcases checkDefinition_cases msgType p definition with ⟨hcrash, e, hcheck, -⟩ |
    ⟨hflagged, errors, hne, hcheck⟩ | ⟨hpasses, hcheck⟩
  · rw [hcheck]
    exact ⟨nofun, fun hpasses => absurd hcrash hpasses.not_crashes⟩
  · rw [hcheck]
    exact ⟨fun h => absurd (Except.ok.inj h) hne, fun h => absurd hflagged h.not_flagged⟩
  · exact ⟨fun _ => hpasses, fun _ => hcheck⟩

/-- A definition at which the check goes on does not crash. -/
lemma not_crashes_of_checkDefinition {errors : List String}
    (h : checkDefinition msgType (p, definition) = .ok errors) : ¬ Crashes p definition := by
  obtain ⟨⟨own, majorVersion⟩, hread, hrest⟩ := bind_eq_ok.mp h
  obtain ⟨more, hbody, -⟩ := bind_eq_ok.mp hrest
  intro hcrash
  cases hcrash with
  | pattern hp _ =>
    cases p with
    | str => cases hp
    | bytes | other => cases hread
  | digits _ hmatch hlong =>
    simp only [readPattern, hmatch, intOfDigits, hlong] at hread
    cases hread
  | definition _ htruthy hdict hhas =>
    simp only [checkBody, htruthy, Bool.not_true, Bool.and_false, Bool.false_eq_true,
      if_false] at hbody
    obtain ⟨found, hfound, hfull⟩ := bind_eq_ok.mp hbody
    cases found with
    | false => exact hhas hfound
    | true =>
      obtain ⟨_, hget, -⟩ := bind_eq_ok.mp hfull
      obtain ⟨fields, hfields, -⟩ := getItem_eq_ok.mp hget
      exact hdict fields hfields
  | @version _ fields x hx htruthy hstr =>
    simp only [checkBody_dict hx] at hbody
    rcases strictVersionInit_cases x with ⟨hfalsy, -⟩ | ⟨s, _, hs, -⟩ | ⟨s, hs, -⟩ |
      ⟨-, -, hinit⟩
    · exact Bool.noConfusion (hfalsy.symm.trans htruthy)
    · exact hstr s hs
    · exact hstr s hs
    · simp only [hinit] at hbody
      cases hbody
  | @unparsed text m fields x hx hfalsy hmajor hne =>
    have hinit : strictVersionInit x = .ok none := by
      simp only [strictVersionInit, hfalsy, Bool.false_eq_true, if_false]
    simp only [checkBody_dict hx, hinit] at hbody
    obtain ⟨digits, hmatch, hnat⟩ := hmajor
    simp only [readPattern, hmatch, intOfDigits, hnat] at hread
    obtain ⟨-, rfl⟩ := Prod.mk.inj (Except.ok.inj hread)
    rcases checkMajorVersion_cases msgType (.str text) (some m) none with
      ⟨_, e, -, -, -, hraise, -⟩ | ⟨_, _, _, _, _, ⟨⟩, _⟩ | ⟨hagrees, -⟩
    · cases hraise.symm.trans hbody
    · obtain ⟨_, ⟨⟩, _⟩ := hagrees m rfl hne

/-- The check of a definition raises exactly if it crashes. -/
lemma exists_checkDefinition_eq_error :
    (∃ e, checkDefinition msgType (p, definition) = .error e) ↔ Crashes p definition := by
  constructor
  · rintro ⟨e, h⟩
    rcases checkDefinition_cases msgType p definition with ⟨hcrash, -⟩ | ⟨-, _, -, hcheck⟩ |
      ⟨-, hcheck⟩
    · exact hcrash
    · cases hcheck.symm.trans h
    · cases hcheck.symm.trans h
  · intro hcrash
    cases hcheck : checkDefinition msgType (p, definition) with
    | error e => exact ⟨e, rfl⟩
    | ok errors => exact absurd hcrash (not_crashes_of_checkDefinition hcheck)

/-! ## The check of a file -/

variable {versions : PyObj} {types schema : List (PyKey × PyObj)} {keys : List (String × String)}

/-- Nothing is reported of a type exactly if it has versions and all their definitions pass. -/
lemma checkVersions_eq_ok_nil :
    checkVersions (msgType, versions) = .ok [] ↔
      ∃ version rest, versions = .dict (version :: rest) ∧
        ∀ entry ∈ version :: rest, Passes entry.1 entry.2 := by
  cases versions with
  | dict fields =>
    cases fields with
    | nil => simp [checkVersions]
    | cons version rest =>
      simp only [checkVersions, Collect.all_eq_ok_nil_iff]
      constructor
      · intro h
        exact ⟨version, rest, rfl, fun entry hentry =>
          checkDefinition_eq_ok_nil.mp (h entry hentry)⟩
      · rintro ⟨_, _, ⟨⟩, h⟩ entry hentry
        exact checkDefinition_eq_ok_nil.mpr (h entry hentry)
  | _ => simp [checkVersions]

/-- What the check of a type raises is raised at a definition that crashes. -/
lemma crashes_of_checkVersions {e : PyException}
    (h : checkVersions (msgType, versions) = .error e) :
    e.isInstance .schemaError = false ∧
      ∃ fields p definition, versions = .dict fields ∧ (p, definition) ∈ fields ∧
        Crashes p definition := by
  simp only [checkVersions] at h
  split at h
  · rename_i version rest
    obtain ⟨⟨p, definition⟩, hmem, hraise⟩ := Collect.exists_of_all_eq_error h
    rcases checkDefinition_cases msgType p definition with ⟨hcrash, e', hcheck, hclass⟩ |
      ⟨-, _, -, hcheck⟩ | ⟨-, hcheck⟩
    · obtain rfl := Except.error.inj (hcheck.symm.trans hraise)
      exact ⟨hclass, _, p, definition, rfl, hmem, hcrash⟩
    · cases hcheck.symm.trans hraise
    · cases hcheck.symm.trans hraise
  · cases h

/-- The check of a type raises at a definition that crashes. -/
lemma exists_checkVersions_eq_error {p : PyKey} {definition : PyObj}
    (hmem : (p, definition) ∈ fields) (hcrash : Crashes p definition) :
    ∃ e, checkVersions (msgType, .dict fields) = .error e := by
  obtain ⟨version, rest, rfl⟩ := List.exists_cons_of_ne_nil (List.ne_nil_of_mem hmem)
  simp only [checkVersions]
  exact Collect.exists_all_eq_error_iff.mpr
    ⟨_, hmem, exists_checkDefinition_eq_error.mpr hcrash⟩

/-- The keys that the loop marks are those of the definitions. -/
lemma mem_listedKeys (hfield : PyObj.field? schema "schemas" = some (.dict types))
    {msgType p : PyKey} :
    (msgType, p) ∈ listedKeys (.dict types) ↔
      ∃ definition, HasDefinition schema msgType p definition := by
  simp only [listedKeys, itemsOf, List.mem_flatMap, List.mem_map, Prod.mk.injEq]
  constructor
  · rintro ⟨⟨_, versions⟩, htype, ⟨_, definition⟩, hversion, rfl, rfl⟩
    cases versions with
    | dict fields => exact ⟨definition, types, fields, hfield, htype, hversion⟩
    | _ => cases hversion
  · rintro ⟨definition, _, fields, hfield', htype, hversion⟩
    obtain rfl := PyObj.dict.inj (Option.some.inj (hfield.symm.trans hfield'))
    exact ⟨_, htype, _, hversion, rfl, rfl⟩

/-- No key of the tables is reported exactly if there is a definition for each. -/
lemma checkFound_eq_nil (hfield : PyObj.field? schema "schemas" = some (.dict types)) :
    checkFound (.dict types) keys = [] ↔
      ∀ key ∈ keys, ∃ definition, HasDefinition schema (.str key.1) (.str key.2) definition := by
  simp only [checkFound, List.map_eq_nil_iff, List.filter_eq_nil_iff, decide_eq_true_eq, not_not,
    mem_listedKeys hfield]

/-- Nothing is reported of the types and the tables exactly if every type has versions, every
definition passes, and there is one for each key. -/
lemma errors_eq_nil (hfield : PyObj.field? schema "schemas" = some (.dict types)) :
    (Collect.all checkVersions types = .ok [] ∧ checkFound (.dict types) keys = []) ↔
      (∀ t versions, (t, versions) ∈ types → ∃ version rest, versions = .dict (version :: rest)) ∧
      (∀ t p definition, HasDefinition schema t p definition → Passes p definition) ∧
      ∀ key ∈ keys, ∃ definition, HasDefinition schema (.str key.1) (.str key.2) definition := by
  rw [Collect.all_eq_ok_nil_iff, checkFound_eq_nil hfield]
  constructor
  · rintro ⟨htypes, hkeys⟩
    refine ⟨fun t versions hmem => ?_, fun t p definition hdefinition => ?_, hkeys⟩
    · obtain ⟨version, rest, rfl, -⟩ := checkVersions_eq_ok_nil.mp (htypes _ hmem)
      exact ⟨version, rest, rfl⟩
    · obtain ⟨_, fields, hfield', htype, hversion⟩ := hdefinition
      obtain rfl := PyObj.dict.inj (Option.some.inj (hfield.symm.trans hfield'))
      obtain ⟨_, _, hfields, hall⟩ := checkVersions_eq_ok_nil.mp (htypes _ htype)
      obtain rfl := PyObj.dict.inj hfields
      exact hall _ hversion
  · rintro ⟨htypes, hpasses, hkeys⟩
    refine ⟨fun entry hmem => ?_, hkeys⟩
    obtain ⟨t, versions⟩ := entry
    obtain ⟨version, rest, rfl⟩ := htypes t versions hmem
    exact checkVersions_eq_ok_nil.mpr ⟨version, rest, rfl, fun entry hentry =>
      hpasses t entry.1 entry.2 ⟨types, _, hfield, hmem, hentry⟩⟩

/-- The error that collects what was reported. -/
def schemaErrorOf (errors : List String) : PyException :=
  .new .schemaError (PyObj.text (.list (errors.map .str)))

/-- What was reported is raised at the end. -/
lemma checkSchema_eq {schemas : PyObj} {errors : List String}
    (hschemas : (PyObj.field? schema "schemas").getD .none = schemas)
    (herrors : checkSchemas schemas = .ok errors) :
    checkSchema schema keys =
      if errors ++ checkFound schemas keys = [] then .ok ()
      else .error (schemaErrorOf (errors ++ checkFound schemas keys)) := by
  simp only [checkSchema, hschemas, herrors]
  rfl

/-- A file without types does not crash, and is reported. -/
lemma checkSchema_of_falsy
    (hfalsy : ((PyObj.field? schema "schemas").getD .none).truthy = false) :
    ¬ CrashingFile schema ∧ ∃ errors, checkSchema schema keys = .error (schemaErrorOf errors) := by
  constructor
  · rintro (⟨schemas, hfield, htrue, -⟩ | ⟨_, _, _, ⟨types, _, hfield, htype, -⟩, -⟩)
    · rw [hfield] at hfalsy
      exact Bool.noConfusion (hfalsy.symm.trans htrue)
    · rw [hfield] at hfalsy
      cases types with
      | nil => cases htype
      | cons entry rest => cases hfalsy
  · have herrors : checkSchemas ((PyObj.field? schema "schemas").getD .none) =
        .ok ["Invalid schema file: expected key 'schemas' with non-empty value"] := by
      simp only [checkSchemas, hfalsy, Bool.false_eq_true, if_false]
    rw [checkSchema_eq rfl herrors]
    exact ⟨_, if_neg nofun⟩

/-- Types that are true and no object are asked for their items. -/
lemma checkSchema_of_not_dict {schemas : PyObj}
    (hfield : PyObj.field? schema "schemas" = some schemas) (htruthy : schemas.truthy = true)
    (hdict : isDict schemas = false) :
    checkSchema schema keys =
      .error (.new .attributeError "object has no attribute 'items'") := by
  have hitems : getItems schemas =
      .error (.new .attributeError "object has no attribute 'items'") := by
    cases schemas with
    | dict types => cases hdict
    | _ => rfl
  simp only [checkSchema, checkSchemas, hfield, Option.getD_some, htruthy, if_true, hitems]
  rfl

/-- A file whose types are an object is reported exactly if something is reported of a type, or no
definition is found for a key. -/
lemma flaggedFile_iff (hfield : PyObj.field? schema "schemas" = some (.dict types))
    (htruthy : (PyObj.dict types).truthy = true) (hcrash : ¬ CrashingFile schema) :
    FlaggedFile schema keys ↔
      ¬ (Collect.all checkVersions types = .ok [] ∧ checkFound (.dict types) keys = []) := by
  rw [errors_eq_nil hfield]
  constructor
  · rintro (hfalse | ⟨_, msgType, versions, hfield', htype, hempty⟩ |
      ⟨msgType, p, definition, hdefinition, hflagged⟩ | ⟨key, hkey, hmissing⟩)
      ⟨hversions, hpasses, hkeys⟩
    · rw [hfield, Option.getD_some, htruthy] at hfalse
      cases hfalse
    · obtain rfl := PyObj.dict.inj (Option.some.inj (hfield.symm.trans hfield'))
      obtain ⟨version, rest, hdict⟩ := hversions msgType versions htype
      exact hempty version rest hdict
    · exact (hpasses msgType p definition hdefinition).not_flagged hflagged
    · obtain ⟨definition, hdefinition⟩ := hkeys key hkey
      exact hmissing definition hdefinition
  · intro hreported
    by_contra hflagged
    simp only [FlaggedFile, not_or] at hflagged
    obtain ⟨-, hversions, hdefinitions, hkeys⟩ := hflagged
    refine hreported ⟨fun t versions htype => ?_, fun t p definition hdefinition => ?_,
      fun key hkey => ?_⟩
    · by_contra hne
      exact hversions ⟨types, t, versions, hfield, htype, fun version rest he =>
        hne ⟨version, rest, he⟩⟩
    · rcases checkDefinition_cases t p definition with ⟨hcrashes, -⟩ | ⟨hflagged, -⟩ | ⟨hpasses, -⟩
      · exact absurd (.inr ⟨t, p, definition, hdefinition, hcrashes⟩) hcrash
      · exact absurd ⟨t, p, definition, hdefinition, hflagged⟩ hdefinitions
      · exact hpasses
    · by_contra hne
      exact hkeys ⟨key, hkey, fun definition hdefinition => hne ⟨definition, hdefinition⟩⟩

/-- **The check of a file** raises something else than `SchemaError` at one that crashes, raises
`SchemaError` for one that it reports, and lets every other file pass, in which every definition
passes.

**Proof sketch.**  By the field `schemas`.  If it is falsy, there is nothing to check, and this is
reported.  If it is no dict, iterating over it crashes.  Otherwise the definitions are checked one
after the other, and `Collect.all` crashes if one of them does, and else collects what is reported
of any; to this the keys are added for which no definition is found. -/
lemma checkSchema_cases (schema : List (PyKey × PyObj)) (keys : List (String × String)) :
    (CrashingFile schema ∧ ∃ e, checkSchema schema keys = .error e ∧
        e.isInstance .schemaError = false) ∨
      (¬ CrashingFile schema ∧ FlaggedFile schema keys ∧
        ∃ errors, checkSchema schema keys = .error (schemaErrorOf errors)) ∨
      ¬ CrashingFile schema ∧ ¬ FlaggedFile schema keys ∧
        (∀ msgType p definition, HasDefinition schema msgType p definition →
          Passes p definition) ∧ checkSchema schema keys = .ok () := by
  cases htruthy : ((PyObj.field? schema "schemas").getD .none).truthy with
  | false =>
    obtain ⟨hcrash, herrors⟩ := @checkSchema_of_falsy schema keys htruthy
    exact .inr (.inl ⟨hcrash, .inl htruthy, herrors⟩)
  | true =>
    obtain ⟨schemas, hfield⟩ : ∃ schemas, PyObj.field? schema "schemas" = some schemas := by
      cases hfield : PyObj.field? schema "schemas" with
      | none =>
        rw [hfield] at htruthy
        cases htruthy
      | some schemas => exact ⟨schemas, rfl⟩
    rw [hfield, Option.getD_some] at htruthy
    cases hdict : isDict schemas with
    | false =>
      refine .inl ⟨.inl ⟨schemas, hfield, htruthy, ?_⟩, _,
        checkSchema_of_not_dict hfield htruthy hdict, rfl⟩
      rintro types rfl
      cases hdict
    | true =>
      obtain ⟨types, rfl⟩ := eq_dict_of_isDict hdict
      have hschemas : checkSchemas (.dict types) = Collect.all checkVersions types := by
        simp only [checkSchemas, htruthy, if_true]
        rfl
      cases herrors : Collect.all checkVersions types with
      | error e =>
        obtain ⟨⟨msgType, versions⟩, htype, hraise⟩ := Collect.exists_of_all_eq_error herrors
        obtain ⟨hclass, fields, p, definition, rfl, hversion, hcrash⟩ :=
          crashes_of_checkVersions hraise
        refine .inl ⟨.inr ⟨msgType, p, definition, ⟨types, fields, hfield, htype, hversion⟩,
          hcrash⟩, e, ?_, hclass⟩
        simp only [checkSchema, hfield, Option.getD_some, hschemas, herrors]
        rfl
      | ok errors =>
        have hcrash : ¬ CrashingFile schema := by
          rintro (⟨_, hfield', -, hne⟩ | ⟨msgType, p, definition,
            ⟨_, fields, hfield', htype, hversion⟩, hcrash⟩)
          · exact hne types (Option.some.inj (hfield'.symm.trans hfield))
          · obtain rfl := PyObj.dict.inj (Option.some.inj (hfield.symm.trans hfield'))
            obtain ⟨e, he⟩ := Collect.exists_all_eq_error_iff.mpr
              ⟨_, htype, exists_checkVersions_eq_error hversion hcrash⟩
            cases herrors.symm.trans he
        have hcheck := @checkSchema_eq schema keys (.dict types) errors
          (by rw [hfield, Option.getD_some]) (hschemas.trans herrors)
        have hnil : (Collect.all checkVersions types = .ok [] ∧
            checkFound (.dict types) keys = []) ↔
              errors ++ checkFound (.dict types) keys = [] := by
          rw [herrors, Except.ok.injEq, List.append_eq_nil_iff]
        have hflagged := @flaggedFile_iff types schema keys hfield htruthy hcrash
        by_cases hreported : errors ++ checkFound (.dict types) keys = []
        · have hnothing := hnil.mpr hreported
          exact .inr (.inr ⟨hcrash, fun h => hflagged.mp h hnothing,
            ((errors_eq_nil hfield).mp hnothing).2.1, hcheck.trans (if_pos hreported)⟩)
        · exact .inr (.inl ⟨hcrash, hflagged.mpr (mt hnil.mp hreported), _,
            hcheck.trans (if_neg hreported)⟩)

/-! ## The constructor -/

/-- The constructor is sound and total on a file: it raises `SchemaError` only, and if it succeeds,
every definition of the file is well-formed. -/
def SoundAndTotal (schema : List (PyKey × PyObj))
    (outcome : Except PyException JSONSchemaValidator) : Prop :=
  RaisesOnly .schemaError outcome ∧
    ((∃ v, outcome = .ok v) → ∀ msgType versionPattern definition,
      HasDefinition schema msgType versionPattern definition →
      WellFormedDefinition versionPattern definition)

/-- What the constructor does after the check raises `SchemaError` only, and if it succeeds, the
parts of each definition are right that the check does not look at. -/
def CompletedSoundly (schema : List (PyKey × PyObj))
    (draft4Validator : PyObj → Except PyException SchemaLib) : Prop :=
  RaisesOnly .schemaError (draft4Validator (.dict schema)) ∧
    ((∃ validator, draft4Validator (.dict schema) = .ok validator) →
      (∃ id, PyObj.field? schema "id" = some id) ∧
      ∀ msgType versionPattern definition,
        HasDefinition schema msgType versionPattern definition →
        UncheckedPartsRight versionPattern definition)

section

variable {τ φ : Type} {json : JsonLib}
  {formatField : String → String → String → Except PyException String}
  {useTransportMessageAttributes : Bool} {draft4Validator : PyObj → Except PyException SchemaLib}
  {messageRouting : PyDict (String × String) τ} {callbacks : PyDict (String × String) φ}

/-- A constructed validator has passed the check. -/
lemma new_eq_ok {v : JSONSchemaValidator} :
    new json formatField useTransportMessageAttributes draft4Validator schema messageRouting
        callbacks = .ok v ↔
      checkSchema schema (messageRouting.keys ++ callbacks.keys).dedup = .ok () ∧
        ∃ validator root, draft4Validator (.dict schema) = .ok validator ∧
          PyObj.field? schema "id" = some root ∧
          v = ⟨json, validator, root.text, formatField, useTransportMessageAttributes⟩ := by
  simp only [new, bind_eq_ok, getItem_eq_ok]
  constructor
  · rintro ⟨_, hcheck, validator, hdraft, root, ⟨_, ⟨⟩, hid⟩, ⟨⟩⟩
    exact ⟨hcheck, validator, root, hdraft, hid, rfl⟩
  · rintro ⟨hcheck, validator, root, hdraft, hid, rfl⟩
    exact ⟨(), hcheck, validator, hdraft, root, ⟨schema, rfl, hid⟩, rfl⟩

/-- An exception of the check ends the constructor. -/
lemma new_eq_error {e : PyException}
    (hcheck : checkSchema schema (messageRouting.keys ++ callbacks.keys).dedup = .error e) :
    new json formatField useTransportMessageAttributes draft4Validator schema messageRouting
      callbacks = .error e := by
  simp only [new, hcheck]
  rfl

/-- After a passed check, a validator is constructed exactly if the schema is accepted and has an
`id`. -/
lemma exists_new_iff
    (hcheck : checkSchema schema (messageRouting.keys ++ callbacks.keys).dedup = .ok ()) :
    (∃ v, new json formatField useTransportMessageAttributes draft4Validator schema messageRouting
        callbacks = .ok v) ↔
      (∃ validator, draft4Validator (.dict schema) = .ok validator) ∧
        ∃ id, PyObj.field? schema "id" = some id := by
  constructor
  · rintro ⟨v, hv⟩
    obtain ⟨-, validator, root, hdraft, hid, -⟩ := new_eq_ok.mp hv
    exact ⟨⟨validator, hdraft⟩, root, hid⟩
  · rintro ⟨⟨validator, hdraft⟩, root, hid⟩
    exact ⟨_, new_eq_ok.mpr ⟨hcheck, validator, root, hdraft, hid, rfl⟩⟩

/-- After a passed check, only `SchemaError` is raised exactly if this is so when the schema is
examined, and an accepted one has an `id`. -/
lemma raisesOnly_new_iff
    (hcheck : checkSchema schema (messageRouting.keys ++ callbacks.keys).dedup = .ok ()) :
    RaisesOnly .schemaError (new json formatField useTransportMessageAttributes draft4Validator
        schema messageRouting callbacks) ↔
      RaisesOnly .schemaError (draft4Validator (.dict schema)) ∧
        ((∃ validator, draft4Validator (.dict schema) = .ok validator) →
          ∃ id, PyObj.field? schema "id" = some id) := by
  have hkey : ((PyException.new .keyError "id").isInstance .schemaError) = false := by decide
  simp only [new, hcheck, raisesOnly_bind, raisesOnly_ok, true_and, forall_const,
    forall_exists_index]
  refine and_congr_right fun _ => forall₂_congr fun validator _ => ?_
  cases hid : PyObj.field? schema "id" <;> simp [getItem, hid, hkey, pure, Except.pure]

end

/-- **When the check of a schema file is sound and total.**  For every file and all tables: exactly
if the file does not crash, and either it is reported, or the rest of the constructor goes well, the
patterns have neither a leading zero nor a line feed at the end, and the full versions under major
version zero are version strings of that major version.

**Proof sketch.**  By the three cases of `checkSchema`.  A file that crashes makes the constructor
raise something else than `SchemaError`, and one that is reported makes it raise that.  In a file
that passes, every definition passes, and is well formed exactly if the parts are right that the
check leaves out; whether the constructor then returns is up to the rest of it. -/
theorem soundAndTotal_iff {τ φ : Type} (json : JsonLib) (formatField : String → String → String →
      Except PyException String) (useTransportMessageAttributes : Bool)
    (draft4Validator : PyObj → Except PyException SchemaLib) (schema : List (PyKey × PyObj))
    (messageRouting : PyDict (String × String) τ) (callbacks : PyDict (String × String) φ) :
    SoundAndTotal schema (new json formatField useTransportMessageAttributes draft4Validator schema
        messageRouting callbacks) ↔
      ¬ CrashingFile schema ∧
        (FlaggedFile schema (messageRouting.keys ++ callbacks.keys).dedup ∨
          CompletedSoundly schema draft4Validator) := by
  rcases checkSchema_cases schema (messageRouting.keys ++ callbacks.keys).dedup with
    ⟨hcrash, e, hcheck, hclass⟩ | ⟨hcrash, hflagged, errors, hcheck⟩ |
    ⟨hcrash, hflagged, hpasses, hcheck⟩
  · rw [new_eq_error hcheck]
    refine ⟨fun hsound => ?_, fun h => absurd hcrash h.1⟩
    exact absurd (hsound.1 e rfl) (by rw [hclass]; exact Bool.false_ne_true)
  · rw [new_eq_error hcheck]
    refine ⟨fun _ => ⟨hcrash, .inl hflagged⟩, fun _ => ⟨raisesOnly_error.mpr rfl, nofun⟩⟩
  · have hright : (∀ msgType p definition, HasDefinition schema msgType p definition →
        WellFormedDefinition p definition) ↔ ∀ msgType p definition,
        HasDefinition schema msgType p definition → UncheckedPartsRight p definition :=
      forall₄_congr fun msgType p definition hdefinition =>
        (hpasses msgType p definition hdefinition).wellFormed_iff
    simp only [hcrash, hflagged, not_false_eq_true, true_and, false_or, SoundAndTotal,
      CompletedSoundly, hright, exists_new_iff hcheck, raisesOnly_new_iff hcheck, and_assoc]
    refine and_congr_right fun _ => ?_
    constructor
    · rintro ⟨hid, hsound⟩ hdraft
      exact ⟨hid hdraft, hsound ⟨hdraft, hid hdraft⟩⟩
    · intro hcompleted
      exact ⟨fun hdraft => (hcompleted hdraft).1, fun h => (hcompleted h.1).2⟩

/-! ## Files that the check gets wrong -/

/-- A file with one definition. -/
def fileWith (messageType versionPattern : String) (xVersion : PyObj) : List (PyKey × PyObj) :=
  [(.str "id", .str "https://hedwig.automatic.com/schema"),
    (.str "schemas", .dict [(.str messageType, .dict [(.str versionPattern,
      .dict [(.str "x-version", xVersion)])])])]

/-- What the constructor does with such a file, when nothing is routed. -/
def newWith (versionPattern : String) (xVersion : PyObj) :
    Except PyException JSONSchemaValidator :=
  new ⟨fun _ => .ok "", fun _ => .ok .none, fun _ _ => "", fun _ => .ok ""⟩ (fun _ _ _ => .ok "")
    true (fun _ => .ok ⟨fun _ => .ok .none, fun _ _ => .ok [], fun _ => .ok []⟩)
    (fileWith "trip_created" versionPattern xVersion)
    (.empty : PyDict (String × String) Unit) (.empty : PyDict (String × String) Unit)

/-- **Two files.**  Under major version zero, version 7.0 is accepted; and a full version that is a
number raises `TypeError`. -/
theorem soundAndTotal_counterexample :
    ((∃ v, newWith "0.*" (.str "7.0") = .ok v) ∧ ¬ SoundAndTotal
        (fileWith "trip_created" "0.*" (.str "7.0")) (newWith "0.*" (.str "7.0"))) ∧
      ¬ SoundAndTotal (fileWith "trip_created" "1.*" (.int 1)) (newWith "1.*" (.int 1)) := by
  have hdefinition : HasDefinition (fileWith "trip_created" "0.*" (.str "7.0"))
      (.str "trip_created") (.str "0.*") (.dict [(.str "x-version", .str "7.0")]) :=
    ⟨_, _, rfl, .head _, .head _⟩
  have haccepted : ∃ v, newWith "0.*" (.str "7.0") = .ok v := ⟨_, rfl⟩
  refine ⟨⟨haccepted, fun hsound => ?_⟩, fun hsound => absurd hsound.1 (by decide +kernel)⟩
  obtain ⟨m, _, s, v, hpattern, ⟨⟩, hs, hparse, rfl⟩ := hsound.2 haccepted _ _ _ hdefinition
  obtain rfl := PyObj.str.inj (Option.some.inj hs)
  have hseven : StrictVersion.parse "7.0" = some ⟨7, 0, 0, none⟩ := by decide +kernel
  obtain rfl := Option.some.inj (hseven.symm.trans hparse)
  exact absurd hpattern (by decide +kernel)

end JSONSchemaValidator

end Hedwig
