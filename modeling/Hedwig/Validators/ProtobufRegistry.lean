import Mathlib.Data.List.Dedup
import Hedwig.Lib.Collect
import Hedwig.Lib.Registry
import Hedwig.Validators.RoundTrip
import Hedwig.Validators.VersionPattern

set_option relaxedAutoImplicit false
set_option autoImplicit false

/-!
# The registry of protobuf messages

The constructor of `ProtobufValidator`: `_check_schema` registers the message classes under the
types and major versions that their options and names declare, looks up every key of the routing
and callback tables, and raises everything it found wrong at once.

## Main definitions

* `Hedwig.ProtoOptions` — the options of the message classes.
* `Hedwig.ProtobufValidator.checkSchema` — `_check_schema`, and `ProtobufValidator.new` the
  constructor.
* `Hedwig.ProtoOptions.Declares`, `Hedwig.ProtoOptions.Exact` — what a class declares, and what is
  asked of the classes and the tables.

## Main results

* `Hedwig.ProtobufValidator.new_exact` — the constructor succeeds exactly if the declarations are
  exact, and registers each class under the key that it declares.

## Design

The keys of the two tables are collected in a set, which is iterated in no particular order; here
it is the order of the tables.  The errors are reported in the order in which they are found.
-/

namespace Hedwig

/-! ## Message options -/

/-- The message `MessageOptions` of `options.proto`. -/
structure MessageOptions where
  majorVersion : UInt32
  minorVersion : UInt32
  messageType : String
  deriving DecidableEq, Repr

/-- The options of a class that sets none. -/
def MessageOptions.default : MessageOptions := ⟨0, 0, ""⟩

/-- What the descriptors of the message classes say. -/
structure ProtoOptions (lib : ProtoLib) where
  /-- `str(msg_class)`. -/
  text : lib.Cls → String
  /-- The extension `message_options`, if a class sets it. -/
  declared : lib.Cls → Option MessageOptions
  /-- The option that the minor version is checked against. -/
  minorVersion_eq : ∀ cls,
    lib.minorVersion cls = ((declared cls).getD .default).minorVersion.toNat

/-- `GetOptions().Extensions[options_pb2.message_options]`. -/
def ProtoOptions.options {lib : ProtoLib} (decl : ProtoOptions lib) (cls : lib.Cls) :
    MessageOptions :=
  (decl.declared cls).getD .default

/-! ## The name of a class -/

/-- A decimal digit of any script. -/
def isDecimal (c : Char) : Bool := (PyStr.digitValue? c).isSome

/-- A text without the line feed at its end. -/
def dropFinalLineFeed (cs : List Char) : List Char :=
  if cs.getLast? = some '\n' then cs.dropLast else cs

/-- The groups of `_message_name_re.match(name)`: `^(.*)V(\d+)$`.  The digits are all there are at
the end. -/
def messageNameMatch (cs : List Char) : Option (List Char × List Char) :=
  let body := (dropFinalLineFeed cs).reverse
  match body.dropWhile isDecimal with
  | 'V' :: messageType =>
    if body.takeWhile isDecimal ≠ [] ∧ '\n' ∉ messageType then
      some (messageType.reverse, (body.takeWhile isDecimal).reverse)
    else none
  | _ => none

/-- A name ends in `V` and digits, up to a line feed at its end. -/
def NameSplits (name messageType : String) (digits : List Char) : Prop :=
  digits ≠ [] ∧ (∀ c ∈ digits, isDecimal c = true) ∧ '\n' ∉ messageType.toList ∧
    ∃ tail, StrictVersion.atEnd tail = true ∧
      name.toList = messageType.toList ++ 'V' :: (digits ++ tail)

/-- A text is what is left of it and the line feed that was dropped. -/
lemma exists_dropFinalLineFeed (cs : List Char) :
    ∃ tail, StrictVersion.atEnd tail = true ∧ cs = dropFinalLineFeed cs ++ tail := by
  rw [dropFinalLineFeed]
  split_ifs with h
  · exact ⟨['\n'], rfl, (List.dropLast_append_getLast? _ h).symm⟩
  · exact ⟨[], rfl, (List.append_nil _).symm⟩

/-- Behind a character that is no line feed, only a line feed is dropped. -/
lemma dropFinalLineFeed_append {cs tail : List Char} {c : Char} (hc : c ≠ '\n')
    (htail : StrictVersion.atEnd tail = true) :
    dropFinalLineFeed (cs ++ [c] ++ tail) = cs ++ [c] := by
  have hcases : tail = [] ∨ tail = ['\n'] := by simpa [StrictVersion.atEnd] using htail
  rcases hcases with rfl | rfl
  · simp [dropFinalLineFeed, hc]
  · simp [dropFinalLineFeed]

/-- The match of a name is the one way to split it. -/
lemma messageNameMatch_eq_some_iff {name messageType : String} {digits : List Char} :
    messageNameMatch name.toList = some (messageType.toList, digits) ↔
      NameSplits name messageType digits := by
  constructor
  · intro h
    obtain ⟨tail, htail, hname⟩ := exists_dropFinalLineFeed name.toList
    simp only [messageNameMatch] at h
    split at h
    · rename_i before hbefore
      split_ifs at h with hmatch
      obtain ⟨hmessageType, rfl⟩ := Prod.mk.inj (Option.some.inj h)
      refine ⟨by simpa using hmatch.1, fun c hc => ?_, ?_, tail, htail, ?_⟩
      · exact List.mem_takeWhile_imp (List.mem_reverse.mp hc)
      · rw [← hmessageType, List.mem_reverse]
        exact hmatch.2
      · have hbody := List.takeWhile_append_dropWhile (p := isDecimal)
          (l := (dropFinalLineFeed name.toList).reverse)
        rw [hbefore] at hbody
        have hsplit := congrArg List.reverse hbody
        rw [List.reverse_reverse, List.reverse_append, List.reverse_cons, List.append_assoc,
          List.singleton_append] at hsplit
        rw [← hmessageType, ← List.cons_append, ← List.append_assoc, hsplit]
        exact hname
    · cases h
  · rintro ⟨hne, hdigits, hline, tail, htail, hname⟩
    obtain ⟨front, last, rfl⟩ : ∃ front last, digits = front ++ [last] :=
      ⟨_, _, (List.dropLast_append_getLast hne).symm⟩
    have hlast : last ≠ '\n' := by
      rintro rfl
      exact absurd (hdigits '\n' (by simp)) (by decide)
    have hbody : dropFinalLineFeed name.toList =
        messageType.toList ++ 'V' :: (front ++ [last]) := by
      have hassoc : name.toList = messageType.toList ++ 'V' :: front ++ [last] ++ tail := by
        rw [hname]
        simp
      rw [hassoc, dropFinalLineFeed_append hlast htail]
      simp
    have hrev : (dropFinalLineFeed name.toList).reverse =
        (front ++ [last]).reverse ++ 'V' :: messageType.toList.reverse := by
      rw [hbody, List.reverse_append, List.reverse_cons]
      simp
    have hall : ∀ c ∈ (front ++ [last]).reverse, isDecimal c = true :=
      fun c hc => hdigits c (List.mem_reverse.mp hc)
    have htake : (dropFinalLineFeed name.toList).reverse.takeWhile isDecimal =
        (front ++ [last]).reverse := by
      rw [hrev, List.takeWhile_append_of_pos hall, List.takeWhile_cons_of_neg (by decide),
        List.append_nil]
    have hdrop : (dropFinalLineFeed name.toList).reverse.dropWhile isDecimal =
        'V' :: messageType.toList.reverse := by
      rw [hrev, List.dropWhile_append_of_pos hall, List.dropWhile_cons_of_neg (by decide)]
    simp only [messageNameMatch, htake, hdrop]
    rw [if_pos ⟨by simp, by simpa using hline⟩]
    simp

/-! ## Checking the declarations -/

namespace ProtobufValidator

variable {lib : ProtoLib} (decl : ProtoOptions lib)

/-- What the loop takes from the name of a class: a mismatch of the major versions, and the message
type unless an option has set it. -/
def examineName (cls : lib.Cls) (majorVersion : ℕ) (messageType : Option String) :
    Except PyException (List String × Option String) :=
  match messageNameMatch (lib.name cls).toList with
  | none => .ok ([], messageType)
  | some (nameMessageType, digits) => do
    let nameMajorVersion ← intOfDigits digits
    let mismatch :=
      if nameMajorVersion ≠ majorVersion then
        ["Protobuf message class '" ++ decl.text cls ++ "' mismatch in major version: '" ++
          toString nameMajorVersion ++ "' != '" ++ toString majorVersion ++ "'"]
      else []
    return (mismatch, messageType.or (some (String.ofList nameMessageType)))

/-- What the loop finds out about one class: the errors, and its key unless it is skipped. -/
def examineClass (cls : lib.Cls) :
    Except PyException (List String × Option (String × ℕ)) := do
  let options := decl.options cls
  let undeclared :=
    if (decl.declared cls).isNone then
      ["Protobuf message class '" ++ decl.text cls ++ "' does not define option message_options"]
    else []
  if options.majorVersion = 0 then
    return (undeclared ++ ["Protobuf message class '" ++ decl.text cls ++
      "' does not define option message_options.major_version"], none)
  let majorVersion := options.majorVersion.toNat
  let messageType := if options.messageType = "" then none else some options.messageType
  let (mismatch, messageType) ← examineName decl cls majorVersion messageType
  let messageType := messageType.getD ""
  if messageType = "" then
    return (undeclared ++ mismatch ++ ["Couldn't determine message type for Protobuf message " ++
      "class '" ++ decl.text cls ++ "'"], none)
  return (undeclared ++ mismatch, some (messageType, majorVersion))

/-- The error for a key that is taken. -/
def duplicateError (key : String × ℕ) : String :=
  "Duplicate Protobuf message declared for '" ++ key.1 ++ "/" ++ toString key.2 ++ "'"

/-- One turn of the loop over the keys of the tables. -/
def checkKey (protoMessages : PyDict (String × ℕ) lib.Cls) (key : String × String) :
    Except PyException (List String) :=
  match versionPatternMatch key.2.toList with
  | none => .ok ["Invalid version '" ++ key.2 ++ "' for message: '" ++ key.1 ++ "'"]
  | some digits => do
    let majorVersion ← intOfDigits digits
    let zero :=
      if majorVersion = 0 then
        ["Invalid version '" ++ toString majorVersion ++ "' for message: '" ++ key.1 ++
          "'. Must not be 0."]
      else []
    pyAssert (key.1 ≠ "")
    let missing :=
      match protoMessages.get? (key.1, majorVersion) with
      | some _ => []
      | none => ["Invalid message_type, major version: '" ++ key.1 ++ "/" ++
          toString majorVersion ++ "', not found in declared messages"]
    return zero ++ missing

/-- The loop over the keys of the tables. -/
def checkKeys (protoMessages : PyDict (String × ℕ) lib.Cls) :
    List (String × String) → Except PyException (List String)
  | [] => .ok []
  | key :: rest => do
    let errors ← checkKey protoMessages key
    let more ← checkKeys protoMessages rest
    return errors ++ more

/-- `_check_schema`, with what it leaves in `proto_messages`. -/
def checkSchema (protoMessages : List lib.Cls) (msgTypesFound : List (String × String)) :
    Except PyException (PyDict (String × ℕ) lib.Cls) := do
  let (errors, registry) ←
    Registry.registerAll (examineClass decl) duplicateError ([], .empty) protoMessages
  let more ← checkKeys registry msgTypesFound
  if errors ++ more = [] then return registry
  else .error (.new .schemaError (PyObj.text (.list ((errors ++ more).map .str))))

/-- The constructor, with the two tables of the settings. -/
def new {τ φ : Type} (wire : ProtoWire) (useTransportMessageAttributes : Bool)
    (protoMessages : List lib.Cls) (messageRouting : PyDict (String × String) τ)
    (callbacks : PyDict (String × String) φ) : Except PyException (ProtobufValidator lib) :=
  match checkSchema decl protoMessages (messageRouting.keys ++ callbacks.keys).dedup with
  | .ok registry => .ok ⟨wire, registry, useTransportMessageAttributes⟩
  | .error e => .error e

end ProtobufValidator

/-! ## What the declarations mean -/

namespace ProtoOptions

variable {lib : ProtoLib} (decl : ProtoOptions lib)

/-- A class declares a message type and a major version: the major version is an option and not
zero, the type is an option, or else what stands before `V` and digits in the name, and not empty,
and the digits in the name, if there are any, are the major version. -/
structure Declares (cls : lib.Cls) (key : String × ℕ) : Prop where
  major : (decl.options cls).majorVersion.toNat = key.2
  major_ne : key.2 ≠ 0
  type : if (decl.options cls).messageType = "" then
      ∃ digits, NameSplits (lib.name cls) key.1 digits
    else (decl.options cls).messageType = key.1
  type_ne : key.1 ≠ ""
  agrees : ∀ messageType digits, NameSplits (lib.name cls) messageType digits →
    PyStr.nat? digits = some key.2

/-- What is asked of the classes and of the keys of the tables: every class declares a key, no two
the same, and every key of a table has a version pattern with a major version that is not zero and
that some class declares with the type. -/
structure Exact (protoMessages : List lib.Cls) (keys : List (String × String)) : Prop where
  declares : ∀ cls ∈ protoMessages, ∃ key, decl.Declares cls key
  distinct : protoMessages.Pairwise fun cls cls' =>
    ∀ key, decl.Declares cls key → ¬ decl.Declares cls' key
  found : ∀ key ∈ keys, ∃ majorVersion, PatternMajor key.2 majorVersion ∧ majorVersion ≠ 0 ∧
    ∃ cls ∈ protoMessages, decl.Declares cls (key.1, majorVersion)

variable {decl} {cls : lib.Cls} {key key' : String × ℕ}

/-- A class declares one key. -/
lemma Declares.unique (h : decl.Declares cls key) (h' : decl.Declares cls key') : key = key' := by
  refine Prod.ext ?_ (h.major.symm.trans h'.major)
  have htype := h.type
  have htype' := h'.type
  split_ifs at htype htype' with hnone
  · obtain ⟨digits, hsplit⟩ := htype
    obtain ⟨digits', hsplit'⟩ := htype'
    have hmatch := (messageNameMatch_eq_some_iff.mpr hsplit).symm.trans
      (messageNameMatch_eq_some_iff.mpr hsplit')
    exact String.toList_inj.mp (Prod.mk.inj (Option.some.inj hmatch)).1
  · exact htype.symm.trans htype'

/-- A class without the option for the type declares the type in its name. -/
lemma declares_of_name {messageType : String} (digits : List Char) (major : UInt32)
    {minor : UInt32} (hoptions : decl.declared cls = some ⟨major, minor, ""⟩)
    (hname : messageNameMatch (lib.name cls).toList = some (messageType.toList, digits))
    (hdigits : PyStr.nat? digits = some major.toNat) (hmajor : major.toNat ≠ 0)
    (htype : messageType ≠ "") : decl.Declares cls (messageType, major.toNat) where
  major := by rw [options, hoptions, Option.getD_some]
  major_ne := hmajor
  type := by
    rw [options, hoptions, Option.getD_some, if_pos rfl]
    exact ⟨digits, messageNameMatch_eq_some_iff.mp hname⟩
  type_ne := htype
  agrees messageType' digits' hsplit := by
    rw [messageNameMatch_eq_some_iff.mpr hsplit] at hname
    rw [(Prod.mk.inj (Option.some.inj hname)).2, hdigits]

/-- A class with the option for the type declares that one. -/
lemma declares_of_option {messageType : String} (nameType : String) (digits : List Char)
    (major : UInt32) {minor : UInt32}
    (hoptions : decl.declared cls = some ⟨major, minor, messageType⟩)
    (hname : messageNameMatch (lib.name cls).toList = some (nameType.toList, digits))
    (hdigits : PyStr.nat? digits = some major.toNat) (hmajor : major.toNat ≠ 0)
    (htype : messageType ≠ "") : decl.Declares cls (messageType, major.toNat) where
  major := by rw [options, hoptions, Option.getD_some]
  major_ne := hmajor
  type := by rw [options, hoptions, Option.getD_some, if_neg htype]
  type_ne := htype
  agrees messageType' digits' hsplit := by
    rw [messageNameMatch_eq_some_iff.mpr hsplit] at hname
    rw [(Prod.mk.inj (Option.some.inj hname)).2, hdigits]

end ProtoOptions

namespace ProtobufValidator

open ProtoOptions

variable {lib : ProtoLib} {decl : ProtoOptions lib} {cls : lib.Cls} {key : String × ℕ}

/-- The message type in the name of a class. -/
def nameMessageType (name : String) : Option String :=
  (messageNameMatch name.toList).map fun groups => String.ofList groups.1

/-- The message type in a name is what stands before `V` and digits. -/
lemma nameMessageType_eq_some_iff {name messageType : String} :
    nameMessageType name = some messageType ↔ ∃ digits, NameSplits name messageType digits := by
  simp only [nameMessageType, Option.map_eq_some_iff, Prod.exists, ← messageNameMatch_eq_some_iff]
  constructor
  · rintro ⟨groups, digits, hmatch, rfl⟩
    exact ⟨digits, by rw [hmatch, String.toList_ofList]⟩
  · rintro ⟨digits, hmatch⟩
    exact ⟨_, digits, hmatch, String.ofList_toList⟩

/-- A name is examined without errors exactly if its digits are the major version. -/
lemma examineName_eq_ok_nil {majorVersion : ℕ} {messageType messageType' : Option String} :
    examineName decl cls majorVersion messageType = .ok ([], messageType') ↔
      (∀ nameType digits, NameSplits (lib.name cls) nameType digits →
        PyStr.nat? digits = some majorVersion) ∧
      messageType' = messageType.or (nameMessageType (lib.name cls)) := by
  simp only [← messageNameMatch_eq_some_iff]
  rw [examineName, nameMessageType]
  cases hmatch : messageNameMatch (lib.name cls).toList with
  | none => simp [eq_comm]
  | some groups =>
    obtain ⟨nameType, digits⟩ := groups
    have hall : (∀ (t : String) (ds : List Char), some (nameType, digits) = some (t.toList, ds) →
        PyStr.nat? ds = some majorVersion) ↔ PyStr.nat? digits = some majorVersion := by
      constructor
      · exact fun h => h (String.ofList nameType) digits (by rw [String.toList_ofList])
      · intro h t ds heq
        rwa [← (Prod.mk.inj (Option.some.inj heq)).2]
    rw [hall]
    simp only [bind_eq_ok, intOfDigits_eq_ok, Option.map_some]
    constructor
    · rintro ⟨n, hn, hreturn⟩
      obtain ⟨hmismatch, rfl⟩ := Prod.mk.inj (Except.ok.inj hreturn)
      refine ⟨?_, rfl⟩
      by_contra hne
      rw [if_pos fun he => hne (hn.trans (congrArg some he))] at hmismatch
      cases hmismatch
    · rintro ⟨hn, rfl⟩
      exact ⟨majorVersion, hn, by simp [pure, Except.pure]⟩

/-- A class with a major version has options. -/
lemma isNone_declared (h : (decl.options cls).majorVersion ≠ 0) :
    (decl.declared cls).isNone = false := by
  cases hdeclared : decl.declared cls with
  | none =>
    rw [options, hdeclared] at h
    exact absurd rfl h
  | some _ => rfl

/-- A class that is skipped has an error. -/
lemma examineClass_skip {own : List String} (h : examineClass decl cls = .ok (own, none)) :
    own ≠ [] := by
  rw [examineClass] at h
  by_cases hmajor : (decl.options cls).majorVersion = 0
  · rw [if_pos hmajor] at h
    obtain ⟨rfl, -⟩ := Prod.mk.inj (Except.ok.inj h)
    simp
  · simp only [hmajor, if_false, isNone_declared hmajor, bind_eq_ok] at h
    obtain ⟨examined, -, h⟩ := h
    by_cases hempty : examined.2.getD "" = ""
    · rw [if_pos hempty] at h
      obtain ⟨rfl, -⟩ := Prod.mk.inj (Except.ok.inj h)
      simp
    · rw [if_neg hempty] at h
      cases h

/-- The loop takes a key from a class, without errors, exactly if the class declares it. -/
lemma examineClass_eq_ok_iff :
    examineClass decl cls = .ok ([], some key) ↔ decl.Declares cls key := by
  obtain ⟨messageType, majorVersion⟩ := key
  rw [examineClass]
  by_cases hmajor : (decl.options cls).majorVersion = 0
  · rw [if_pos hmajor]
    constructor
    · intro h
      simp [pure, Except.pure] at h
    · intro h
      exact absurd (h.major.symm.trans (congrArg UInt32.toNat hmajor)) h.major_ne
  · have hne : (decl.options cls).majorVersion.toNat ≠ 0 := fun h =>
      hmajor (UInt32.toNat_inj.mp h)
    simp only [hmajor, if_false, isNone_declared hmajor, Bool.false_eq_true, List.nil_append,
      bind_eq_ok]
    constructor
    · rintro ⟨⟨mismatch, found⟩, hname, h⟩
      split_ifs at h with hempty
      · simp [pure, Except.pure] at h
      · obtain ⟨rfl, hkey⟩ := Prod.mk.inj (Except.ok.inj h)
        obtain ⟨rfl, rfl⟩ := Prod.mk.inj (Option.some.inj hkey)
        obtain ⟨hagrees, rfl⟩ := examineName_eq_ok_nil.mp hname
        refine ⟨rfl, hne, ?_, hempty, hagrees⟩
        by_cases htype : (decl.options cls).messageType = ""
        · simp only [htype, if_true, Option.none_or] at hempty ⊢
          cases hfound : nameMessageType (lib.name cls) with
          | none =>
            rw [hfound] at hempty
            exact absurd rfl hempty
          | some nameType => exact nameMessageType_eq_some_iff.mp hfound
        · simp [htype]
    · intro h
      have htype := h.type
      refine ⟨([], some messageType), examineName_eq_ok_nil.mpr ⟨?_, ?_⟩, ?_⟩
      · rw [show (decl.options cls).majorVersion.toNat = majorVersion from h.major]
        exact h.agrees
      · split_ifs at htype ⊢ with hnone
        · rw [Option.none_or, nameMessageType_eq_some_iff.mpr htype]
        · rw [Option.some_or, htype]
      · rw [Option.getD_some, if_neg h.type_ne, h.major]
        rfl

/-- A key of a table has no error exactly if its version pattern has a major version other than zero
under which a class is registered for its type. -/
lemma checkKey_eq_ok_nil {protoMessages : PyDict (String × ℕ) lib.Cls} {key : String × String} :
    checkKey protoMessages key = .ok [] ↔
      ∃ majorVersion, PatternMajor key.2 majorVersion ∧ majorVersion ≠ 0 ∧ key.1 ≠ "" ∧
        ∃ cls, protoMessages.get? (key.1, majorVersion) = some cls := by
  rw [checkKey]
  cases hmatch : versionPatternMatch key.2.toList with
  | none => simp [PatternMajor, hmatch]
  | some digits =>
    simp only [bind_eq_ok, intOfDigits_eq_ok]
    constructor
    · rintro ⟨majorVersion, hmajor, ⟨⟩, htype, hreturn⟩
      obtain ⟨hzero, hmissing⟩ := List.append_eq_nil_iff.mp (Except.ok.inj hreturn)
      refine ⟨majorVersion, ⟨digits, hmatch, hmajor⟩, ?_, ?_, ?_⟩
      · rintro rfl
        simp at hzero
      · simpa using pyAssert_eq_ok.mp htype
      · cases hget : protoMessages.get? (key.1, majorVersion) with
        | none =>
          rw [hget] at hmissing
          cases hmissing
        | some cls => exact ⟨cls, rfl⟩
    · rintro ⟨majorVersion, ⟨digits', hmatch', hmajor⟩, hne, htype, cls, hget⟩
      obtain rfl := Option.some.inj (hmatch.symm.trans hmatch')
      exact ⟨majorVersion, hmajor, (), pyAssert_eq_ok.mpr (by simpa using htype),
        by simp [hne, hget, pure, Except.pure]⟩

/-- The loop over the keys collects what is reported of them. -/
lemma checkKeys_eq_all (protoMessages : PyDict (String × ℕ) lib.Cls)
    (keys : List (String × String)) :
    checkKeys protoMessages keys = Collect.all (checkKey protoMessages) keys := by
  induction keys with
  | nil => rfl
  | cons key rest ih => rw [checkKeys, Collect.all, ih]

/-- The keys of the tables have no error exactly if each of them has none. -/
lemma checkKeys_eq_ok_nil {protoMessages : PyDict (String × ℕ) lib.Cls}
    {keys : List (String × String)} :
    checkKeys protoMessages keys = .ok [] ↔ ∀ key ∈ keys, checkKey protoMessages key = .ok [] := by
  rw [checkKeys_eq_all, Collect.all_eq_ok_nil_iff]

/-- The check leaves a registry exactly if nothing was reported. -/
lemma checkSchema_eq_ok {protoMessages : List lib.Cls} {keys : List (String × String)}
    {registry : PyDict (String × ℕ) lib.Cls} :
    checkSchema decl protoMessages keys = .ok registry ↔
      Registry.registerAll (examineClass decl) duplicateError ([], .empty) protoMessages =
        .ok ([], registry) ∧ checkKeys registry keys = .ok [] := by
  simp only [checkSchema, bind_eq_ok, Prod.exists]
  constructor
  · rintro ⟨errors, found, hregister, more, hmore, h⟩
    split_ifs at h with hnil
    obtain ⟨rfl, rfl⟩ := List.append_eq_nil_iff.mp hnil
    obtain rfl := Except.ok.inj h
    exact ⟨hregister, hmore⟩
  · rintro ⟨hregister, hmore⟩
    exact ⟨[], registry, hregister, [], hmore, rfl⟩

/-- Nothing is reported of classes that declare keys of their own, and those are registered. -/
lemma registerAll_eq_ok_nil {protoMessages : List lib.Cls}
    {registry : PyDict (String × ℕ) lib.Cls} :
    Registry.registerAll (examineClass decl) duplicateError ([], .empty) protoMessages =
        .ok ([], registry) ↔
      ∃ keys, List.Forall₂ decl.Declares protoMessages keys ∧ keys.Nodup ∧
        registry.items = keys.zip protoMessages := by
  rw [Registry.registerAll_eq_ok_nil_iff fun _ _ => examineClass_skip]
  simp only [examineClass_eq_ok_iff, true_and, PyDict.keys_empty, PyDict.items_empty,
    List.nil_append]

/-- The registry has the class that declares a key under it. -/
lemma get?_of_registerAll {protoMessages : List lib.Cls} {registry : PyDict (String × ℕ) lib.Cls}
    (h : Registry.registerAll (examineClass decl) duplicateError ([], .empty) protoMessages =
      .ok ([], registry)) {key : String × ℕ} {cls : lib.Cls} :
    registry.get? key = some cls ↔ cls ∈ protoMessages ∧ decl.Declares cls key := by
  obtain ⟨keys, hkeys, -, hitems⟩ := registerAll_eq_ok_nil.mp h
  exact Registry.get?_eq_some_iff (R := decl.Declares) (fun _ _ _ => Declares.unique) hkeys hitems

/-- Classes are registered exactly if they declare keys of their own. -/
lemma exists_registerAll {protoMessages : List lib.Cls} :
    (∃ registry, Registry.registerAll (examineClass decl) duplicateError ([], .empty)
        protoMessages = .ok ([], registry)) ↔
      (∀ cls ∈ protoMessages, ∃ key, decl.Declares cls key) ∧
        protoMessages.Pairwise fun cls cls' =>
          ∀ key, decl.Declares cls key → ¬ decl.Declares cls' key := by
  rw [← Registry.exists_keys_iff (R := decl.Declares) fun _ _ _ => Declares.unique]
  simp only [registerAll_eq_ok_nil]
  constructor
  · rintro ⟨_, keys, hkeys, hnodup, -⟩
    exact ⟨keys, hkeys, hnodup⟩
  · rintro ⟨keys, hkeys, hnodup⟩
    refine ⟨⟨keys.zip protoMessages, ?_⟩, keys, hkeys, hnodup, rfl⟩
    rwa [List.map_fst_zip hkeys.length_eq.ge]

/-- **The check is exact**: it leaves a registry for exact declarations only. -/
lemma exists_checkSchema {protoMessages : List lib.Cls} {keys : List (String × String)} :
    (∃ registry, checkSchema decl protoMessages keys = .ok registry) ↔
      decl.Exact protoMessages keys := by
  simp only [checkSchema_eq_ok, checkKeys_eq_ok_nil, checkKey_eq_ok_nil]
  constructor
  · rintro ⟨registry, hregister, hkeys⟩
    obtain ⟨hdeclares, hdistinct⟩ := exists_registerAll.mp ⟨registry, hregister⟩
    refine ⟨hdeclares, hdistinct, fun key hkey => ?_⟩
    obtain ⟨majorVersion, hpattern, hne, -, cls, hget⟩ := hkeys key hkey
    exact ⟨majorVersion, hpattern, hne, cls, (get?_of_registerAll hregister).mp hget⟩
  · intro h
    obtain ⟨registry, hregister⟩ := exists_registerAll.mpr ⟨h.declares, h.distinct⟩
    refine ⟨registry, hregister, fun key hkey => ?_⟩
    obtain ⟨majorVersion, hpattern, hne, cls, hmem, hdeclares⟩ := h.found key hkey
    exact ⟨majorVersion, hpattern, hne, hdeclares.type_ne, cls,
      (get?_of_registerAll hregister).mpr ⟨hmem, hdeclares⟩⟩

/-- A constructed validator has the registry that the check leaves. -/
lemma new_eq_ok {τ φ : Type} {wire : ProtoWire} {useTransportMessageAttributes : Bool}
    {protoMessages : List lib.Cls} {messageRouting : PyDict (String × String) τ}
    {callbacks : PyDict (String × String) φ} {v : ProtobufValidator lib} :
    new decl wire useTransportMessageAttributes protoMessages messageRouting callbacks = .ok v ↔
      ∃ registry, checkSchema decl protoMessages (messageRouting.keys ++ callbacks.keys).dedup =
          .ok registry ∧ v = ⟨wire, registry, useTransportMessageAttributes⟩ := by
  rw [new]
  cases checkSchema decl protoMessages (messageRouting.keys ++ callbacks.keys).dedup with
  | error e => simp
  | ok registry => simp [eq_comm]

/-- What a constructed validator has registered. -/
lemma get?_of_new {τ φ : Type} {wire : ProtoWire} {useTransportMessageAttributes : Bool}
    {protoMessages : List lib.Cls} {messageRouting : PyDict (String × String) τ}
    {callbacks : PyDict (String × String) φ} {v : ProtobufValidator lib}
    (h : new decl wire useTransportMessageAttributes protoMessages messageRouting callbacks =
      .ok v) {key : String × ℕ} {cls : lib.Cls} :
    v.protoMessages.get? key = some cls ↔ cls ∈ protoMessages ∧ decl.Declares cls key := by
  obtain ⟨registry, hcheck, rfl⟩ := new_eq_ok.mp h
  exact get?_of_registerAll (checkSchema_eq_ok.mp hcheck).1

/-- A validator is constructed exactly from exact declarations. -/
lemma exists_new {τ φ : Type} {wire : ProtoWire} {useTransportMessageAttributes : Bool}
    {protoMessages : List lib.Cls} {messageRouting : PyDict (String × String) τ}
    {callbacks : PyDict (String × String) φ} :
    (∃ v, new decl wire useTransportMessageAttributes protoMessages messageRouting callbacks =
        .ok v) ↔ decl.Exact protoMessages (messageRouting.keys ++ callbacks.keys) := by
  have hdedup : decl.Exact protoMessages (messageRouting.keys ++ callbacks.keys).dedup ↔
      decl.Exact protoMessages (messageRouting.keys ++ callbacks.keys) := by
    constructor
    · exact fun h => ⟨h.declares, h.distinct, fun key hkey => h.found key (List.mem_dedup.mpr hkey)⟩
    · exact fun h => ⟨h.declares, h.distinct, fun key hkey => h.found key (List.mem_dedup.mp hkey)⟩
  rw [← hdedup, ← exists_checkSchema]
  simp only [new_eq_ok]
  constructor
  · rintro ⟨_, registry, hcheck, -⟩
    exact ⟨registry, hcheck⟩
  · rintro ⟨registry, hcheck⟩
    exact ⟨_, registry, hcheck, rfl⟩

/-- **The registry check is exact.**  The constructor returns a validator exactly if every class
declares a message type and a major version, no two classes the same, and every key of the routing
and callback tables has a version pattern with a major version, other than zero, that a class
declares with the type.  Then `proto_messages` has exactly the declared keys, each with its own
class, and the same ones for every order of the classes.

**Proof sketch.**  The constructor returns exactly if nothing is reported, and the registry then has
the items of the classes.  Every condition of `Exact` is about the members of the list, or about two
of them in either order, so it holds for a permutation too, which declares the same keys. -/
theorem new_exact (lib : ProtoLib) (decl : ProtoOptions lib) (wire : ProtoWire)
    (useTransportMessageAttributes : Bool) (protoMessages : List lib.Cls) (τ φ : Type)
    (messageRouting : PyDict (String × String) τ) (callbacks : PyDict (String × String) φ) :
    ((∃ v, new decl wire useTransportMessageAttributes protoMessages messageRouting callbacks =
        .ok v) ↔ decl.Exact protoMessages (messageRouting.keys ++ callbacks.keys)) ∧
      ∀ v, new decl wire useTransportMessageAttributes protoMessages messageRouting callbacks =
          .ok v →
        (∀ key cls, v.protoMessages.get? key = some cls ↔
          cls ∈ protoMessages ∧ decl.Declares cls key) ∧
        ∀ protoMessages' : List lib.Cls, protoMessages'.Perm protoMessages →
          ∃ v', new decl wire useTransportMessageAttributes protoMessages' messageRouting
              callbacks = .ok v' ∧
            ∀ key, v'.protoMessages.get? key = v.protoMessages.get? key := by
  refine ⟨exists_new, fun v hv => ⟨fun key cls => get?_of_new hv, fun protoMessages' hperm => ?_⟩⟩
  have hexact := exists_new.mp ⟨v, hv⟩
  have hexact' : decl.Exact protoMessages' (messageRouting.keys ++ callbacks.keys) := by
    refine ⟨fun cls hcls => hexact.declares cls (hperm.mem_iff.mp hcls), ?_, fun key hkey => ?_⟩
    · refine hperm.symm.pairwise hexact.distinct fun h key hkey hkey' => h key hkey' hkey
    · obtain ⟨majorVersion, hpattern, hne, cls, hcls, hdeclares⟩ := hexact.found key hkey
      exact ⟨majorVersion, hpattern, hne, cls, hperm.mem_iff.mpr hcls, hdeclares⟩
  obtain ⟨v', hv'⟩ := exists_new.mpr hexact'
  refine ⟨v', hv', fun key => Option.ext fun cls => ?_⟩
  rw [get?_of_new hv', get?_of_new hv, hperm.mem_iff]

/-- The options of the sample class, which leave the type to its name. -/
def sampleOptions : ProtoOptions emptyMessageLib where
  text _ := "<class 'trip_pb2.TripCreatedV1'>"
  declared _ := some ⟨1, 0, ""⟩
  minorVersion_eq _ := rfl

/-- The sample class declares the type in its name. -/
lemma declares_sampleOptions : sampleOptions.Declares () ("TripCreated", 1) :=
  declares_of_name ['1'] 1 rfl (by decide +kernel) (by decide) (by decide)
    (by decide)

end ProtobufValidator

/-! ## Two sample classes -/

/-- The classes of an application: two messages without fields. -/
inductive SampleClass
  | tripCreated
  | deviceCreated
  deriving DecidableEq

/-- Their names. -/
def SampleClass.name : SampleClass → String
  | .tripCreated => "TripCreatedV1"
  | .deviceCreated => "DeviceCreatedV1"

/-- A runtime with these classes. -/
def sampleClassLib : ProtoLib where
  Cls := SampleClass
  Msg := SampleClass
  Any := SampleClass
  Timestamp := ℤ
  classOf cls := cls
  name := SampleClass.name
  minorVersion _ := 0
  codec cls :=
    { serializeToString := fun _ => .ok []
      parseFromString := fun b => if b = [] then .ok cls else .error (.new .decodeError "")
      messageToJson := fun _ => .ok "\x7b\x7d"
      parse := fun s => if s = "\x7b\x7d" then .ok cls else .error (.new .parseError "") }
  payloadCodec :=
    { serializeToString := fun _ => .error (.new .encodeError "")
      parseFromString := fun _ => .error (.new .decodeError "")
      messageToJson := fun _ => .error (.new .encodeError "")
      parse := fun _ => .error (.new .parseError "") }
  pack cls := .ok cls
  is a cls := a = cls
  unpack a cls := if a = cls then .ok cls else .error (.new .decodeError "")
  packValue _ := .error (.new .encodeError "")
  isValue _ := false
  unpackValue _ := .error (.new .decodeError "")
  fromMilliseconds
    | .int t => .ok t
    | _ => .error (.new .typeError "")
  toMilliseconds t := .ok t
  stringField
    | .str s => .ok s
    | _ => .error (.new .typeError "")

namespace ProtobufValidator

open ProtoOptions

/-- Their options: the trips leave the type to their name, the devices have another one. -/
def twoClassOptions : ProtoOptions sampleClassLib where
  text cls := "<class '" ++ cls.name ++ "'>"
  declared
    | .tripCreated => some ⟨1, 0, ""⟩
    | .deviceCreated => some ⟨1, 0, "device.created"⟩
  minorVersion_eq cls := by cases cls <;> rfl

/-- The type and the major version that a sample class declares. -/
def twoClassKey : SampleClass → String × ℕ
  | .tripCreated => ("TripCreated", 1)
  | .deviceCreated => ("device.created", 1)

/-- It declares them. -/
lemma declares_twoClassKey (cls : SampleClass) :
    twoClassOptions.Declares cls (twoClassKey cls) := by
  cases cls with
  | tripCreated =>
    exact declares_of_name ['1'] 1 rfl (by decide +kernel) (by decide)
      (by decide) (by decide)
  | deviceCreated =>
    exact declares_of_option "DeviceCreated" ['1'] 1 rfl
      (by decide +kernel) (by decide) (by decide) (by decide)

/-- The theorem at two classes, both of which are routed, in both orders. -/
theorem new_exact_sample :
    ∃ v v', new twoClassOptions .binary false [.tripCreated, .deviceCreated]
        (⟨[(("TripCreated", "1.*"), "trips"), (("device.created", "1.*"), "devices")], by simp⟩ :
          PyDict (String × String) String) (.empty : PyDict (String × String) Unit) = .ok v ∧
      new twoClassOptions .binary false [.deviceCreated, .tripCreated]
        (⟨[(("TripCreated", "1.*"), "trips"), (("device.created", "1.*"), "devices")], by simp⟩ :
          PyDict (String × String) String) (.empty : PyDict (String × String) Unit) = .ok v' ∧
      (∀ key, v'.protoMessages.get? key = v.protoMessages.get? key) ∧
      ∀ cls, v.protoMessages.get? (twoClassKey cls) = some cls := by
  have hmem : ∀ cls : SampleClass, cls ∈ [SampleClass.tripCreated, .deviceCreated] := by
    intro cls
    cases cls <;> decide
  have hpattern : PatternMajor "1.*" 1 := ⟨['1'], by decide, by decide⟩
  obtain ⟨hiff, hregistry⟩ := new_exact sampleClassLib twoClassOptions .binary false
    [.tripCreated, .deviceCreated] String Unit
    ⟨[(("TripCreated", "1.*"), "trips"), (("device.created", "1.*"), "devices")], by simp⟩ .empty
  obtain ⟨v, hv⟩ := hiff.mpr
    { declares := fun cls _ => ⟨_, declares_twoClassKey cls⟩
      distinct := by
        refine List.pairwise_pair.mpr fun key htrip hdevice => ?_
        have hkeys := ((declares_twoClassKey _).unique htrip).trans
          ((declares_twoClassKey _).unique hdevice).symm
        exact absurd hkeys (by decide)
      found := fun key hkey => by
        obtain ⟨cls, rfl⟩ : ∃ cls, key = ((twoClassKey cls).1, "1.*") := by
          simp only [PyDict.keys, PyDict.empty, List.map_cons, List.map_nil, List.append_nil,
            List.mem_cons, List.not_mem_nil, or_false] at hkey
          rcases hkey with rfl | rfl
          · exact ⟨.tripCreated, rfl⟩
          · exact ⟨.deviceCreated, rfl⟩
        refine ⟨1, hpattern, Nat.one_ne_zero, cls, hmem cls, ?_⟩
        have hdeclares := declares_twoClassKey cls
        cases cls <;> exact hdeclares }
  obtain ⟨hget, horder⟩ := hregistry v hv
  obtain ⟨v', hv', hsame⟩ := horder [.deviceCreated, .tripCreated] (.swap _ _ _)
  exact ⟨v, v', hv, hv', hsame,
    fun cls => (hget _ _).mpr ⟨hmem cls, declares_twoClassKey cls⟩⟩

end ProtobufValidator

end Hedwig
