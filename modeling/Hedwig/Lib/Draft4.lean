import Hedwig.Lib.PyObject

set_option relaxedAutoImplicit false
set_option autoImplicit false

/-!
# JSON schema, draft 4

The part of the schema language that needs no references: the type of a value, the required and
the described properties of an object, the allowed strings, and the length and the pattern of a
string.  Every keyword but `type` and `enum` constrains values of its own kind only.

## Main definitions

* `Draft4` — a schema; `Draft4.accepts` — a value conforms to it.

## Main results

* `Draft4.field?_of_accepts_required`, `Draft4.accepts_of_accepts_properties` — what acceptance
  says of the fields of an object.
-/

/-- The types of the language. -/
inductive JsonType
  | array | boolean | integer | null | number | object | string
  deriving DecidableEq, Repr

/-- A value is of a type. -/
def JsonType.accepts : JsonType → PyObj → Bool
  | .array, .list _ => true
  | .boolean, .bool _ => true
  | .integer, .int _ => true
  | .null, .none => true
  | .number, .int _ => true
  | .number, .float _ => true
  | .number, .decimal _ => true
  | .object, .dict _ => true
  | .string, .str _ => true
  | _, _ => false

/-- A schema, with the keywords in use; `pattern` is the search of the regular expression. -/
inductive Draft4
  | mk (type : Option JsonType) (required : List String) (properties : List (String × Draft4))
    (enum : Option (List String)) (minLength maxLength : Option ℕ)
    (pattern : Option (String → Bool))

namespace Draft4

/-- The keywords for objects. -/
def object (required : List String) (properties : List (String × Draft4)) : Draft4 :=
  mk (some .object) required properties none none none none

/-- A value of some type. -/
def ofType (type : JsonType) : Draft4 := mk (some type) [] [] none none none none

/-- `required`. -/
def acceptsRequired (required : List String) : PyObj → Bool
  | .dict fields => required.all fun name => (PyObj.field? fields name).isSome
  | _ => true

/-- `minLength`, `maxLength` and `pattern`. -/
def acceptsString (minLength maxLength : Option ℕ) (pattern : Option (String → Bool)) :
    PyObj → Bool
  | .str s =>
    minLength.all (· ≤ s.length) && maxLength.all (s.length ≤ ·) && pattern.all (· s)
  | _ => true

/-- `enum`, for strings. -/
def acceptsEnum (enum : Option (List String)) : PyObj → Bool
  | .str s => enum.all (s ∈ ·)
  | _ => enum.isNone

mutual

/-- The value conforms to the schema. -/
def accepts : Draft4 → PyObj → Bool
  | mk type required properties enum minLength maxLength pattern, o =>
    type.all (·.accepts o) && acceptsRequired required o && acceptsProperties properties o &&
      acceptsEnum enum o && acceptsString minLength maxLength pattern o

/-- The described properties that an object has conform to their schemas. -/
def acceptsProperties : List (String × Draft4) → PyObj → Bool
  | [], _ => true
  | (name, schema) :: rest, o =>
    (match o with
      | .dict fields =>
        match PyObj.field? fields name with
        | some value => accepts schema value
        | none => true
      | _ => true) && acceptsProperties rest o

end

variable {type : Option JsonType} {required : List String} {properties : List (String × Draft4)}
  {enum : Option (List String)} {minLength maxLength : Option ℕ}
  {pattern : Option (String → Bool)} {o : PyObj} {fields : List (PyKey × PyObj)}

/-- What acceptance says of each keyword. -/
lemma accepts_mk :
    accepts (mk type required properties enum minLength maxLength pattern) o = true ↔
      type.all (·.accepts o) = true ∧ acceptsRequired required o = true ∧
        acceptsProperties properties o = true ∧ acceptsEnum enum o = true ∧
        acceptsString minLength maxLength pattern o = true := by
  simp only [accepts, Bool.and_eq_true, and_assoc]

/-- A required field is there. -/
lemma field?_of_accepts_required (name : String) (hname : name ∈ required)
    (h : accepts (mk type required properties enum minLength maxLength pattern) (.dict fields) =
      true) : ∃ value, PyObj.field? fields name = some value := by
  have hrequired := (accepts_mk.mp h).2.1
  rw [acceptsRequired, List.all_eq_true] at hrequired
  exact Option.isSome_iff_exists.mp (hrequired name hname)

/-- The described properties conform to their schemas. -/
lemma accepts_of_acceptsProperties {name : String} {schema : Draft4} {value : PyObj}
    (hmem : (name, schema) ∈ properties) (hfield : PyObj.field? fields name = some value)
    (h : acceptsProperties properties (.dict fields) = true) : accepts schema value = true := by
  induction properties with
  | nil => cases hmem
  | cons p rest ih =>
    obtain ⟨name', schema'⟩ := p
    rw [acceptsProperties, Bool.and_eq_true] at h
    rcases List.mem_cons.mp hmem with he | hrest
    · obtain ⟨rfl, rfl⟩ := Prod.mk.inj he
      simpa [hfield] using h.1
    · exact ih hrest h.2

/-- The described property of an accepted object conforms to its schema. -/
lemma accepts_of_accepts_properties {name : String} (schema : Draft4) {value : PyObj}
    (hmem : (name, schema) ∈ properties) (hfield : PyObj.field? fields name = some value)
    (h : accepts (mk type required properties enum minLength maxLength pattern) (.dict fields) =
      true) : accepts schema value = true :=
  accepts_of_acceptsProperties hmem hfield (accepts_mk.mp h).2.2.1

/-- A string is among the allowed ones. -/
lemma mem_of_accepts_enum {s : String} {allowed : List String}
    (h : accepts (mk type required properties (some allowed) minLength maxLength pattern) (.str s) =
      true) : s ∈ allowed := by
  simpa [acceptsEnum] using (accepts_mk.mp h).2.2.2.1

/-- A value of type object is an object. -/
lemma eq_dict_of_accepts
    (h : accepts (mk (some .object) required properties enum minLength maxLength pattern) o =
      true) : ∃ fields, o = .dict fields := by
  have htype := (accepts_mk.mp h).1
  cases o <;> simp [JsonType.accepts] at htype ⊢

/-- A value of type string is a string. -/
lemma eq_str_of_accepts
    (h : accepts (mk (some .string) required properties enum minLength maxLength pattern) o =
      true) : ∃ s, o = .str s := by
  have htype := (accepts_mk.mp h).1
  cases o <;> simp [JsonType.accepts] at htype ⊢

end Draft4
