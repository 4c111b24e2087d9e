import Hedwig.Lib.PyObject
import Hedwig.Lib.PyStr

set_option relaxedAutoImplicit false
set_option autoImplicit false

/-!
# JSON pointers

A pointer into a document stands in the fragment of a reference: percent-encoded, its parts
separated by slashes, with `~1` for a slash and `~0` for a tilde inside a part.

## Main definitions

* `JsonPointer.isAbsolute` — the identifiers that references to a document are joined to unchanged.
* `JsonPointer.ofReference?` — the parts of the pointer in a reference to a document.
* `JsonPointer.get?` — the value that the parts lead to.
* `JsonPointer.hasIdentifiers` — a document in which parts are found by name, too.

## Main results

* `JsonPointer.ofReference?_append` — a pointer of plain parts is read as it was written.

## Design

A reference is joined to the identifier of the document with `urljoin`, and split with `urldefrag`.
These rewrite many references: they drop tabs and line breaks, and join a path to an identifier that
has no scheme.  So a reference has a pointer here only if they change nothing, that is, if the
identifier is an absolute URL of plain characters and the reference has no tab and no line break.  A
reference to another document has no pointer here either, nor has one with an empty part or with
escapes that are no UTF-8.  As in Python, a list and a string are indexed with `int(part)`.
-/

namespace JsonPointer

/-! ## Percent-encoding -/

/-- The value of a hexadecimal digit. -/
def hexValue? (c : Char) : Option ℕ :=
  if '0' ≤ c ∧ c ≤ '9' then some (c.toNat - 48)
  else if 'a' ≤ c ∧ c ≤ 'f' then some (c.toNat - 87)
  else if 'A' ≤ c ∧ c ≤ 'F' then some (c.toNat - 55)
  else none

/-- The bytes of a text in which `%` and two hexadecimal digits stand for a byte. -/
def percentDecode : List Char → List UInt8
  | [] => []
  | '%' :: a :: b :: rest =>
    match hexValue? a, hexValue? b with
    | some x, some y => UInt8.ofNat (16 * x + y) :: percentDecode rest
    | _, _ => 37 :: percentDecode (a :: b :: rest)
  | c :: rest => String.utf8EncodeChar c ++ percentDecode rest

/-- `unquote(s)`, `none` if the escapes are no UTF-8. -/
def unquote? (cs : List Char) : Option (List Char) :=
  (PyStr.decode? (percentDecode cs)).map String.toList

/-- Without escapes there is only the encoding, by induction on the text. -/
lemma percentDecode_of_notMem {cs : List Char} (h : '%' ∉ cs) :
    percentDecode cs = cs.flatMap String.utf8EncodeChar := by
  induction cs with
  | nil => rfl
  | cons c rest ih =>
    rw [List.mem_cons, not_or] at h
    rw [percentDecode, ih h.2, List.flatMap_cons]
    · rintro _ _ _ rfl
      exact absurd rfl h.1

/-- Without escapes a text is unquoted as itself. -/
lemma unquote?_of_notMem {cs : List Char} (h : '%' ∉ cs) : unquote? cs = some cs := by
  have hencode : PyStr.encode (String.ofList cs) = cs.flatMap String.utf8EncodeChar := by
    rw [PyStr.encode, String.toUTF8_eq_toByteArray, String.toByteArray_ofList]
    exact List.toList_data_toByteArray
  rw [unquote?, percentDecode_of_notMem h, ← hencode, PyStr.decode?_encode, Option.map_some,
    String.toList_ofList]

/-! ## Parts -/

/-- A part without its escapes. -/
def unescape : List Char → List Char
  | '~' :: '1' :: rest => '/' :: unescape rest
  | '~' :: '0' :: rest => '~' :: unescape rest
  | c :: rest => c :: unescape rest
  | [] => []

/-- Without tildes there are no escapes. -/
lemma unescape_of_notMem {cs : List Char} (h : '~' ∉ cs) : unescape cs = cs := by
  induction cs with
  | nil => rfl
  | cons c rest ih =>
    rw [List.mem_cons, not_or] at h
    rw [unescape, ih h.2]
    · rintro _ rfl
      exact absurd rfl h.1
    · rintro _ rfl
      exact absurd rfl h.1

/-- The parts of an unquoted pointer, if none is empty. -/
def parts? (cs : List Char) : Option (List String) :=
  if [] ∈ cs.splitOn '/' then none
  else some ((cs.splitOn '/').map fun part => String.ofList (unescape part))

/-! ## References -/

/-- The characters of plain URLs. -/
def isUrlChar (c : Char) : Bool :=
  c.isAlphanum || c ∈ ['-', '.', '_', '~', ':', '/']

/-- An absolute URL with a host, of plain characters. -/
def isAbsolute (base : String) : Bool :=
  base.toList.all isUrlChar &&
    ["http://", "https://"].any fun scheme =>
      scheme.toList.isPrefixOf base.toList &&
        (base.toList.drop scheme.toList.length).head?.any (· ≠ '/')

/-- A character that is not plain does not occur in an absolute URL. -/
lemma notMem_of_isAbsolute {base : String} {c : Char} (h : isAbsolute base = true)
    (hc : isUrlChar c = false) : c ∉ base.toList := by
  intro hmem
  have hall := (Bool.and_eq_true_iff.mp h).1
  exact Bool.false_ne_true (hc.symm.trans (List.all_eq_true.mp hall c hmem))

/-- The characters that are dropped from a reference. -/
def isDropped (c : Char) : Bool :=
  c = '\t' || c = '\n' || c = '\r'

/-- They are not plain, and neither separate the fragment nor the parts of a pointer. -/
lemma ne_of_isDropped {c : Char} (h : isDropped c = true) :
    isUrlChar c = false ∧ c ≠ '#' ∧ c ≠ '/' := by
  simp only [isDropped, Bool.or_eq_true, decide_eq_true_eq] at h
  rcases h with (rfl | rfl) | rfl <;> exact ⟨by decide, by decide, by decide⟩

/-- The parts of the pointer in a reference to the document with this identifier, if joining it to
the identifier changes nothing. -/
def ofReference? (base reference : String) : Option (List String) :=
  if isAbsolute base = true ∧ reference.toList.any isDropped = false ∧
      (base.toList ++ ['#', '/']).isPrefixOf reference.toList then
    (unquote? (reference.toList.drop (base.toList.length + 2))).bind parts?
  else none

/-- A part that is written as it is. -/
structure IsPlain (part : String) : Prop where
  ne_empty : part ≠ ""
  slash : '/' ∉ part.toList
  tilde : '~' ∉ part.toList
  percent : '%' ∉ part.toList
  dropped : part.toList.any isDropped = false

/-- Plain parts with slashes between them. -/
def join : List String → List Char
  | [] => []
  | [part] => part.toList
  | part :: next :: rest => part.toList ++ '/' :: join (next :: rest)

/-- The characters of plain parts, by induction on the parts. -/
lemma notMem_join {c : Char} (hc : c ≠ '/') {l : List String}
    (h : ∀ part ∈ l, c ∉ part.toList) : c ∉ join l := by
  induction l with
  | nil => exact List.not_mem_nil
  | cons part rest ih =>
    rw [List.forall_mem_cons] at h
    cases rest with
    | nil => exact h.1
    | cons next rest =>
      rw [join, List.mem_append, List.mem_cons, not_or, not_or]
      exact ⟨h.1, hc, ih h.2⟩

/-- Joined parts are split again, by induction on the parts. -/
lemma splitOn_join {l : List String} (hne : l ≠ []) (h : ∀ part ∈ l, '/' ∉ part.toList) :
    (join l).splitOn '/' = l.map String.toList := by
  have hslash : ∀ {cs : List Char}, '/' ∉ cs → ∀ c ∈ cs, (c == '/') = false := fun hcs c hc =>
    beq_eq_false_iff_ne.mpr fun he => hcs (he ▸ hc)
  induction l with
  | nil => exact absurd rfl hne
  | cons part rest ih =>
    rw [List.forall_mem_cons] at h
    rw [List.splitOn_eq_splitOnP]
    cases rest with
    | nil => exact List.splitOnP_eq_singleton (hslash h.1)
    | cons next rest =>
      rw [join, List.splitOnP_append_cons_of_forall_mem (hslash h.1) '/' (by decide),
        ← List.splitOn_eq_splitOnP, ih (List.cons_ne_nil _ _) h.2]
      rfl

/-- **Plain parts** are read as they were written.

**Proof sketch.**  Neither the base nor a plain part has a character that is dropped, so the
reference is kept as it is.  Below the base and `#/` it is the joined parts, without an escape,
which are split at the slashes into the parts again. -/
lemma ofReference?_append {base : String} {l : List String} (hbase : isAbsolute base = true)
    (hne : l ≠ []) (h : ∀ part ∈ l, IsPlain part) :
    ofReference? base (String.ofList (base.toList ++ '#' :: '/' :: join l)) = some l := by
  have hdropped : (base.toList ++ '#' :: '/' :: join l).any isDropped = false := by
    refine List.any_eq_false.mpr fun c hmem hc => ?_
    obtain ⟨hurl, hsharp, hslash⟩ := ne_of_isDropped hc
    have hjoin : c ∉ join l := notMem_join hslash fun part hpart hc' =>
      List.any_eq_false.mp (h part hpart).dropped c hc' hc
    simp only [List.mem_append, List.mem_cons] at hmem
    rcases hmem with hbase' | rfl | rfl | hjoin'
    · exact notMem_of_isAbsolute hbase hurl hbase'
    · exact hsharp rfl
    · exact hslash rfl
    · exact hjoin hjoin'
  have hprefix : (base.toList ++ ['#', '/']).isPrefixOf (base.toList ++ '#' :: '/' :: join l) :=
    List.isPrefixOf_iff_prefix.mpr ⟨join l, by simp⟩
  have hdrop : (base.toList ++ '#' :: '/' :: join l).drop (base.toList.length + 2) = join l := by
    rw [List.drop_append, List.drop_eq_nil_of_le (by omega)]
    simp
  have hpercent : '%' ∉ join l := notMem_join (by decide) fun part hpart => (h part hpart).percent
  have hsplit := splitOn_join hne fun part hpart => (h part hpart).slash
  have hempty : [] ∉ l.map String.toList := by
    intro hmem
    obtain ⟨part, hpart, hnil⟩ := List.mem_map.mp hmem
    exact (h part hpart).ne_empty (String.toList_eq_nil_iff.mp hnil)
  have hunescape : l.map ((fun part => String.ofList (unescape part)) ∘ String.toList) = l := by
    refine (List.map_congr_left fun part hpart => ?_).trans (List.map_id l)
    simp [unescape_of_notMem (h part hpart).tilde]
  rw [ofReference?, String.toList_ofList, if_pos ⟨hbase, hdropped, hprefix⟩, hdrop,
    unquote?_of_notMem hpercent, Option.bind_some, parts?, hsplit, if_neg hempty, List.map_map,
    hunescape]

/-! ## Values -/

/-- `items[i]`. -/
def index? {α : Type} (items : List α) (i : ℤ) : Option α :=
  if 0 ≤ i then items[i.toNat]?
  else if 0 ≤ items.length + i then items[(items.length + i).toNat]?
  else none

/-- The value under one part. -/
def item? (document : PyObj) (part : String) : Option PyObj :=
  match document with
  | .dict fields => PyObj.field? fields part
  | .list items => (PyStr.int? part).bind (index? items)
  | .str s => ((PyStr.int? part).bind (index? s.toList)).map fun c => .str (String.ofList [c])
  | _ => none

/-- The value that the parts lead to. -/
def get? (document : PyObj) : List String → Option PyObj
  | [] => some document
  | part :: rest => (item? document part).bind fun value => get? value rest

/-! ## Identifiers -/

/-- A string that is a fragment. -/
def isFragment : PyObj → Bool
  | .str s => PyStr.startsWith s "#"
  | _ => false

/-- Whether an object with this item is found by name: by its `$id`, `$anchor` or `$dynamicAnchor`,
or by an `id` that is a fragment. -/
def isIdentifier (key : PyKey) (value : PyObj) : Bool :=
  key ∈ [.str "$id", .str "$anchor", .str "$dynamicAnchor"] || key = .str "id" && isFragment value

mutual

/-- Whether an object in a document, at any depth, is found by name. -/
def hasIdentifiers : PyObj → Bool
  | .list items => itemsHaveIdentifiers items
  | .dict fields => fieldsHaveIdentifiers fields
  | _ => false

/-- `hasIdentifiers` for some item. -/
def itemsHaveIdentifiers : List PyObj → Bool
  | [] => false
  | x :: xs => hasIdentifiers x || itemsHaveIdentifiers xs

/-- An identifier, or `hasIdentifiers` for some value. -/
def fieldsHaveIdentifiers : List (PyKey × PyObj) → Bool
  | [] => false
  | (k, v) :: rest => isIdentifier k v || hasIdentifiers v || fieldsHaveIdentifiers rest

end

end JsonPointer
