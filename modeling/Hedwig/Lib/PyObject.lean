import Hedwig.Lib.PyStr

set_option relaxedAutoImplicit false
set_option autoImplicit false

/-!
# Python values

The dynamically typed values that cross the boundary of the modelled program: what a JSON
document decodes to, what a transport attribute or a header may hold, and the leaves that a JSON
encoder does not know.  A string is a sequence of Unicode scalar values, an integer is unbounded,
and a float is the text that `repr` prints for it, which determines it.

## Main definitions

* `PyKey` — a dictionary key: a string, or some other hashable object.
* `PyObj` — a value, and `PyObj.truthy` its truth value.
* `PyObj.printable` — the values that `str` prints, and `PyObj.text` what it prints.
* `PyObj.IsJson` — the values that `json` writes and reads back: string keys, no key twice, and
  finite floats at every depth.
-/

/-- A key of a Python dictionary: a string, bytes, or some other hashable object, of both of which
only the printed form matters. -/
inductive PyKey
  | str (s : String)
  | bytes (printed : String)
  | other (printed : String)
  deriving DecidableEq, Repr

/-- `isinstance(k, str)`. -/
def PyKey.isStr : PyKey → Bool
  | .str _ => true
  | _ => false

/-- The printed form of a key. -/
def PyKey.text : PyKey → String
  | .str s => s
  | .bytes printed | .other printed => printed

/-- A decimal number as the `decimal` module keeps it: `coefficient * 10 ^ exponent`, or one of
the special values. -/
inductive PyDecimal
  | finite (coefficient : ℤ) (exponent : ℤ)
  | infinity (negative : Bool)
  | nan
  deriving DecidableEq, Repr

/-- A Python value.  `float` carries the text of `repr`, `uuid` the text of `str`, and `other`
stands for any other object by its printed form, `none` if it cannot be printed: its class may
raise an exception, or it may be nested too deeply. -/
inductive PyObj
  | none
  | bool (b : Bool)
  | int (i : ℤ)
  | float (text : String)
  | str (s : String)
  | list (items : List PyObj)
  | dict (fields : List (PyKey × PyObj))
  | decimal (d : PyDecimal)
  | uuid (text : String)
  | other (printed : Option String)
  deriving Repr

namespace PyObj

/-- The item of a dictionary under a string key, the first one if the list has several. -/
def field? (fields : List (PyKey × PyObj)) (name : String) : Option PyObj :=
  (fields.find? fun kv => kv.1 = .str name).map Prod.snd

/-- An item that is found is in the dictionary. -/
lemma mem_of_field? {fields : List (PyKey × PyObj)} {name : String} {v : PyObj}
    (h : field? fields name = some v) : (PyKey.str name, v) ∈ fields := by
  obtain ⟨⟨k, _⟩, hfind, rfl⟩ := Option.map_eq_some_iff.mp h
  obtain rfl : k = .str name := by simpa using List.find?_some hfind
  exact List.mem_of_find?_eq_some hfind

/-- The floats that JSON cannot write. -/
def nonFinite (text : String) : Bool :=
  text = "nan" || text = "inf" || text = "-inf"

mutual

/-- A value that `json` writes and reads back as it was: every key is a string, no dictionary
has a key twice, every float is finite, and there is no leaf of another class. -/
def IsJson : PyObj → Prop
  | .none | .bool _ | .int _ | .str _ => True
  | .float text => nonFinite text = false
  | .list items => IsJsonList items
  | .dict fields => (fields.map Prod.fst).Nodup ∧ IsJsonFields fields
  | .decimal _ | .uuid _ | .other _ => False

/-- `IsJson` for every item. -/
def IsJsonList : List PyObj → Prop
  | [] => True
  | x :: xs => IsJson x ∧ IsJsonList xs

/-- String keys, and `IsJson` for every value. -/
def IsJsonFields : List (PyKey × PyObj) → Prop
  | [] => True
  | (k, v) :: rest => (∃ s, k = .str s) ∧ IsJson v ∧ IsJsonFields rest

end

/-- `IsJsonFields` says of each item what it says of the list. -/
lemma isJsonFields_iff (fields : List (PyKey × PyObj)) :
    IsJsonFields fields ↔ ∀ kv ∈ fields, (∃ s, kv.1 = .str s) ∧ IsJson kv.2 := by
  induction fields with
  | nil => simp [IsJsonFields]
  | cons kv rest ih =>
    obtain ⟨k, v⟩ := kv
    simp [IsJsonFields, ih, and_assoc]

/-- `bool(obj)`. -/
def truthy : PyObj → Bool
  | .none => false
  | .bool b => b
  | .int i => i ≠ 0
  | .float text => text ≠ "0.0" ∧ text ≠ "-0.0"
  | .str s => s ≠ ""
  | .list items => !items.isEmpty
  | .dict fields => !fields.isEmpty
  | .decimal (.finite coefficient _) => coefficient ≠ 0
  | .decimal _ | .uuid _ | .other _ => true

/-- `isinstance(obj, str)`. -/
def isStr : PyObj → Bool
  | .str _ => true
  | _ => false

mutual

/-- Whether `str(obj)` prints the value: no integer in it has too many digits, and no other object
in it cannot be printed. -/
def printable : PyObj → Bool
  | .int i => PyStr.canPrint i
  | .other printed => printed.isSome
  | .list items => printableItems items
  | .dict fields => printableFields fields
  | _ => true

/-- `printable` for every item. -/
def printableItems : List PyObj → Bool
  | [] => true
  | x :: xs => printable x && printableItems xs

/-- `printable` for every value. -/
def printableFields : List (PyKey × PyObj) → Bool
  | [] => true
  | (_, v) :: rest => printable v && printableFields rest

end

mutual

/-- The printed form of a value inside a container.  A string stands between quotes, without the
escapes of `repr`. -/
def repr : PyObj → String
  | .none => "None"
  | .bool true => "True"
  | .bool false => "False"
  | .int i => toString i
  | .float t => t
  | .str s => "'" ++ s ++ "'"
  | .list items => "[" ++ ", ".intercalate (reprs items) ++ "]"
  | .dict fields => "\x7b" ++ ", ".intercalate (fieldReprs fields) ++ "\x7d"
  | .decimal (.finite c e) => toString c ++ "E" ++ toString e
  | .decimal (.infinity negative) => if negative then "-Infinity" else "Infinity"
  | .decimal .nan => "NaN"
  | .uuid t => t
  | .other printed => printed.getD ""

/-- The printed items of a list. -/
def reprs : List PyObj → List String
  | [] => []
  | x :: xs => repr x :: reprs xs

/-- The printed items of a dictionary. -/
def fieldReprs : List (PyKey × PyObj) → List String
  | [] => []
  | (.str k, v) :: rest => ("'" ++ k ++ "': " ++ repr v) :: fieldReprs rest
  | (k, v) :: rest => (k.text ++ ": " ++ repr v) :: fieldReprs rest

end

/-- The text of `str(obj)`, for a value that can be printed. -/
def text : PyObj → String
  | .str s => s
  | o => repr o

@[simp] lemma text_str (s : String) : text (.str s) = s := rfl

@[simp] lemma text_int (i : ℤ) : text (.int i) = toString i := rfl

end PyObj
